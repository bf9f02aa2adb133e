import SaasOs.SelfLearning.Adaptations
import SaasOs.Foundation.Run

/-!
# What a rollback restores

A run is a sequence of calls that propose, evaluate, activate and roll back adaptations; a refused
call changes nothing.  A proposal records the version that is active when it is made, and a rollback
reactivates the recorded one, whatever was active when the candidate was activated.
-/

namespace SaasOs.SelfLearning

/-! ## Calls -/

/-- A call of one of the four functions. -/
inductive AdaptationCall
  | propose (proposal : Proposal) (id : Uuid)
  | recordEvaluation (tenantId adaptationId : Uuid) (comparison : EvaluationComparison)
  | activate (tenantId adaptationId userId : Uuid)
  | rollback (tenantId adaptationId userId : Uuid)

def AdaptationCall.perform (env : Surroundings) (table : AdaptationTable) :
    AdaptationCall → Except AdaptationError AdaptationTable
  | propose proposal id => proposeAdaptation env proposal id table
  | recordEvaluation tenantId adaptationId comparison =>
    recordAdaptationEvaluation env tenantId adaptationId comparison table
  | activate tenantId adaptationId userId =>
    activateAdaptationInSession env tenantId adaptationId userId table
  | rollback tenantId adaptationId userId =>
    rollbackAdaptationInSession env tenantId adaptationId userId table

/-- A call and what it reads besides the table. -/
abbrev AdaptationEvent := Surroundings × AdaptationCall

def adaptationStep (table : AdaptationTable) (event : AdaptationEvent) : AdaptationTable :=
  match event.2.perform event.1 table with
  | .ok table' => table'
  | .error _ => table

abbrev adaptationRun (table : AdaptationTable) (events : List AdaptationEvent) : AdaptationTable :=
  Run.run adaptationStep table events

namespace AdaptationTable

def activeIn (table : AdaptationTable) (lineage : Lineage) : Option Uuid :=
  (table.activeRows lineage).head?.map fun row => row.id

def OneActive (table : AdaptationTable) : Prop :=
  ∀ row ∈ table, ∀ other ∈ table, row.status = .active → other.status = .active →
    row.lineage = other.lineage → row.id = other.id

def IsRolledBack (table : AdaptationTable) (id : Uuid) : Prop :=
  ∃ row ∈ table, row.id = id ∧ row.status = .rolledBack

def IsActive (table : AdaptationTable) (id : Uuid) : Prop :=
  ∃ row ∈ table, row.id = id ∧ row.status = .active

def Activates (table : AdaptationTable) (tenantId adaptationId : Uuid) (row : Adaptation) : Prop :=
  table.get tenantId adaptationId = .ok row ∧ row.status = .candidate ∧
    row.evaluationOutcome = some .pass

end AdaptationTable

/-- The candidate of an activation that goes through recorded the version that is active. -/
def RecordsActive (table : AdaptationTable) (event : AdaptationEvent) : Prop :=
  match event.2 with
  | .activate tenantId adaptationId userId =>
    ((AdaptationCall.activate tenantId adaptationId userId).perform event.1 table).isOk = true →
      ∀ row, table.Activates tenantId adaptationId row →
        row.previousAdaptationId = table.activeIn row.lineage
  | _ => True

/-- What a rollback promises about a run from an empty table. -/
structure RollbackRestores (events : List AdaptationEvent) : Prop where
  /-- Each lineage has at most one active version. -/
  oneActive : Run.Always adaptationStep AdaptationTable.OneActive [] events
  /-- A version that was rolled back is never active again. -/
  staysRolledBack : ∀ before middle after id, events = before ++ middle ++ after →
    (adaptationRun [] before).IsRolledBack id → ¬ (adaptationRun [] (before ++ middle)).IsActive id
  /-- After the rollback of a version the one is active that was active before its activation. -/
  restores : ∀ before env tenantId adaptationId userId middle env' userId' after row table table',
    events = before ++ (env, .activate tenantId adaptationId userId) :: middle ++
      (env', .rollback tenantId adaptationId userId') :: after →
    (adaptationRun [] before).get tenantId adaptationId = .ok row →
    (AdaptationCall.activate tenantId adaptationId userId).perform env (adaptationRun [] before) =
      .ok table →
    (AdaptationCall.rollback tenantId adaptationId userId').perform env'
      (adaptationRun table middle) = .ok table' →
    table'.activeIn row.lineage = (adaptationRun [] before).activeIn row.lineage
  /-- The rollback of a version that replaced another finds a version to roll back to. -/
  notRefused : ∀ before env tenantId adaptationId userId middle env' userId' after row table,
    events = before ++ (env, .activate tenantId adaptationId userId) :: middle ++
      (env', .rollback tenantId adaptationId userId') :: after →
    (adaptationRun [] before).get tenantId adaptationId = .ok row →
    (AdaptationCall.activate tenantId adaptationId userId).perform env (adaptationRun [] before) =
      .ok table →
    (adaptationRun [] before).activeIn row.lineage ≠ none →
    (AdaptationCall.rollback tenantId adaptationId userId').perform env'
      (adaptationRun table middle) ≠ .error (.noPreviousVersion adaptationId)

/-! ## Reading the table -/

def AdaptationTable.KeysUnique (table : AdaptationTable) : Prop :=
  Rows.UniqueOn table fun row => row.id

variable {table : AdaptationTable} {tenantId adaptationId : Uuid} {row : Adaptation}

lemma get_eq_ok (h : table.get tenantId adaptationId = .ok row) :
    row ∈ table ∧ row.id = adaptationId ∧ row.tenantId = tenantId := by
  unfold AdaptationTable.get at h
  cases hfind : table.find? fun row => row.id == adaptationId && row.tenantId == tenantId with
  | none =>
    rw [hfind] at h
    cases h
  | some found =>
    rw [hfind] at h
    obtain rfl := Except.ok.inj h
    have hkeys := List.find?_some hfind
    simp only [Bool.and_eq_true, beq_iff_eq] at hkeys
    exact ⟨List.mem_of_find?_eq_some hfind, hkeys.1, hkeys.2⟩

variable {lineage : Lineage}

lemma mem_activeRows :
    row ∈ table.activeRows lineage ↔ row ∈ table ∧ row.lineage = lineage ∧ row.status = .active := by
  unfold AdaptationTable.activeRows
  rw [List.mem_filter, Bool.and_eq_true, beq_iff_eq, beq_iff_eq]

variable {found : Option Adaptation}

lemma currentActive_eq_ok (h : table.currentActive lineage = .ok found) :
    table.activeRows lineage = found.toList := by
  unfold AdaptationTable.currentActive at h
  split at h
  · next hrows =>
    obtain rfl := Except.ok.inj h
    exact hrows
  · next row hrows =>
    obtain rfl := Except.ok.inj h
    exact hrows
  · cases h

lemma activeIn_of_currentActive (h : table.currentActive lineage = .ok found) :
    table.activeIn lineage = found.map fun row => row.id := by
  unfold AdaptationTable.activeIn
  rw [currentActive_eq_ok h]
  cases found <;> rfl

lemma activeIn_of_mem (hone : table.OneActive) (hrow : row ∈ table)
    (hactive : row.status = .active) :
    table.activeIn row.lineage = some row.id := by
  unfold AdaptationTable.activeIn
  cases hrows : table.activeRows row.lineage with
  | nil =>
    have hmem := mem_activeRows.mpr ⟨hrow, rfl, hactive⟩
    rw [hrows] at hmem
    cases hmem
  | cons first rest =>
    have hfirst := mem_activeRows.mp (hrows ▸ List.mem_cons_self : first ∈ table.activeRows _)
    have hid := hone first hfirst.1 row hrow hfirst.2.2 hactive hfirst.2.1
    exact congrArg some hid

variable {id : Uuid}

lemma exists_active_of_activeIn (h : table.activeIn lineage = some id) :
    ∃ row ∈ table, row.id = id ∧ row.lineage = lineage ∧ row.status = .active := by
  obtain ⟨row, hrow, hid⟩ := Option.map_eq_some_iff.mp h
  obtain ⟨hmem, hlineage, hactive⟩ := mem_activeRows.mp (List.mem_of_mem_head? hrow)
  exact ⟨row, hmem, hid, hlineage, hactive⟩

/-! ## What a call does to the table -/

/-- The rows are those before, each with its key, its lineage and its predecessor, and with the
given status. -/
def Rewritten (table : AdaptationTable) (status : Adaptation → AdaptationStatus)
    (table' : AdaptationTable) : Prop :=
  ∃ g : Adaptation → Adaptation, table' = table.map g ∧ ∀ row ∈ table, (g row).id = row.id ∧
    (g row).lineage = row.lineage ∧ (g row).previousAdaptationId = row.previousAdaptationId ∧
    (g row).status = status row

variable {table' : AdaptationTable} {status : Adaptation → AdaptationStatus}

section

variable (h : Rewritten table status table')

include h

lemma Rewritten.exists_before {row' : Adaptation} (hrow' : row' ∈ table') :
    ∃ row ∈ table, row'.id = row.id ∧ row'.lineage = row.lineage ∧
      row'.previousAdaptationId = row.previousAdaptationId ∧ row'.status = status row := by
  obtain ⟨g, rfl, hg⟩ := h
  obtain ⟨row, hrow, rfl⟩ := List.mem_map.mp hrow'
  exact ⟨row, hrow, hg row hrow⟩

lemma Rewritten.exists_after (hrow : row ∈ table) :
    ∃ row' ∈ table', row'.id = row.id ∧ row'.lineage = row.lineage ∧
      row'.previousAdaptationId = row.previousAdaptationId ∧ row'.status = status row := by
  obtain ⟨g, rfl, hg⟩ := h
  exact ⟨g row, List.mem_map_of_mem hrow, hg row hrow⟩

lemma Rewritten.keysUnique (hkeys : table.KeysUnique) : table'.KeysUnique := by
  obtain ⟨g, rfl, hg⟩ := h
  have hids : (table.map g).map (fun row => row.id) = table.map fun row => row.id := by
    rw [List.map_map]
    exact List.map_congr_left fun row hrow => (hg row hrow).1
  unfold AdaptationTable.KeysUnique Rows.UniqueOn
  rw [hids]
  exact hkeys

end

def activationStatus (adaptationId : Uuid) (lineage : Lineage) (row : Adaptation) :
    AdaptationStatus :=
  if row.id = adaptationId then .active
  else if row.lineage = lineage ∧ row.status = .active then .superseded
  else row.status

def rollbackStatus (adaptationId previousId : Uuid) (row : Adaptation) : AdaptationStatus :=
  if row.id = previousId then .active
  else if row.id = adaptationId then .rolledBack
  else row.status

variable {env : Surroundings}

lemma proposeAdaptation_ok {proposal : Proposal}
    (h : proposeAdaptation env proposal id table = .ok table') :
    ∃ row, table' = table ++ [row] ∧ (∀ other ∈ table, other.id ≠ row.id) ∧
      row.status = .candidate ∧ row.previousAdaptationId = table.activeIn row.lineage := by
  unfold proposeAdaptation at h
  obtain ⟨_, -, h⟩ := bind_eq_ok.mp h
  obtain ⟨_, -, h⟩ := bind_eq_ok.mp h
  obtain ⟨found, hfound, h⟩ := bind_eq_ok.mp h
  obtain ⟨_, hnew, h⟩ := bind_eq_ok.mp h
  obtain rfl := Except.ok.inj h
  exact ⟨_, rfl, requiring_eq_ok.mp hnew, rfl, (activeIn_of_currentActive hfound).symm⟩

lemma recordAdaptationEvaluation_ok {comparison : EvaluationComparison}
    (h : recordAdaptationEvaluation env tenantId adaptationId comparison table = .ok table') :
    Rewritten table (fun row => row.status) table' := by
  unfold recordAdaptationEvaluation at h
  obtain ⟨_, -, h⟩ := bind_eq_ok.mp h
  obtain ⟨row, -, h⟩ := bind_eq_ok.mp h
  obtain ⟨_, -, h⟩ := bind_eq_ok.mp h
  obtain ⟨_, -, h⟩ := bind_eq_ok.mp h
  obtain rfl := Except.ok.inj h
  refine ⟨_, rfl, fun row _ => ?_⟩
  split <;> exact ⟨rfl, rfl, rfl, rfl⟩

lemma checkActivation_ok (h : checkActivation env tenantId adaptationId table = .ok row) :
    table.Activates tenantId adaptationId row := by
  unfold checkActivation at h
  obtain ⟨found, hfound, h⟩ := bind_eq_ok.mp h
  obtain ⟨_, -, h⟩ := bind_eq_ok.mp h
  obtain ⟨_, hcandidate, h⟩ := bind_eq_ok.mp h
  obtain ⟨_, hpass, h⟩ := bind_eq_ok.mp h
  obtain rfl := Except.ok.inj h
  exact ⟨hfound, requiring_eq_ok.mp hcandidate, requiring_eq_ok.mp hpass⟩

variable {userId : Uuid}

lemma activateAdaptationInSession_ok (hkeys : table.KeysUnique)
    (h : activateAdaptationInSession env tenantId adaptationId userId table = .ok table') :
    ∃ row, table.Activates tenantId adaptationId row ∧
      Rewritten table (activationStatus adaptationId row.lineage) table' := by
  unfold activateAdaptationInSession at h
  obtain ⟨row, hcheck, h⟩ := bind_eq_ok.mp h
  obtain ⟨found, hfound, h⟩ := bind_eq_ok.mp h
  obtain ⟨_, -, h⟩ := bind_eq_ok.mp h
  obtain rfl := Except.ok.inj h
  refine ⟨row, checkActivation_ok hcheck, ?_⟩
  have hrows := currentActive_eq_ok hfound
  cases found with
  | none =>
    refine ⟨_, rfl, fun other hother => ?_⟩
    have hnot : ¬ (other.lineage = row.lineage ∧ other.status = .active) := by
      intro hactive
      have hmem := mem_activeRows.mpr ⟨hother, hactive⟩
      rw [hrows] at hmem
      cases hmem
    unfold activationStatus
    rw [if_neg hnot]
    split <;> exact ⟨rfl, rfl, rfl, rfl⟩
  | some current =>
    have hcurrent := mem_activeRows.mp (hrows ▸ List.mem_singleton_self current :
      current ∈ table.activeRows row.lineage)
    refine ⟨_, List.map_map, fun other hother => ?_⟩
    have hiff : other.id = current.id ↔ other.lineage = row.lineage ∧ other.status = .active := by
      constructor
      · intro hid
        obtain rfl := hkeys.eq_of_key_eq hother hcurrent.1 hid
        exact hcurrent.2
      · intro hactive
        have hmem := mem_activeRows.mpr ⟨hother, hactive⟩
        rw [hrows] at hmem
        exact congrArg (fun row => row.id) (List.mem_singleton.mp hmem)
    unfold activationStatus
    rw [Function.comp_apply]
    by_cases hactive : other.id = current.id
    · rw [if_pos hactive, if_pos (hiff.mp hactive)]
      by_cases hself : other.id = adaptationId
      · rw [if_pos (show (other.withStatus .superseded).id = adaptationId from hself),
          if_pos hself]
        exact ⟨rfl, rfl, rfl, rfl⟩
      · rw [if_neg (show ¬ (other.withStatus .superseded).id = adaptationId from hself),
          if_neg hself]
        exact ⟨rfl, rfl, rfl, rfl⟩
    · rw [if_neg hactive, if_neg (fun hand => hactive (hiff.mpr hand))]
      split <;> exact ⟨rfl, rfl, rfl, rfl⟩

lemma checkRollback_ok {pair : Adaptation × Adaptation}
    (h : checkRollback env tenantId adaptationId table = .ok pair) :
    table.get tenantId adaptationId = .ok pair.1 ∧ pair.1.status = .active ∧
      pair.1.previousAdaptationId = some pair.2.id ∧ pair.2 ∈ table := by
  unfold checkRollback at h
  obtain ⟨row, hrow, h⟩ := bind_eq_ok.mp h
  obtain ⟨_, -, h⟩ := bind_eq_ok.mp h
  obtain ⟨_, hactive, h⟩ := bind_eq_ok.mp h
  cases hprevious : row.previousAdaptationId with
  | none =>
    rw [hprevious] at h
    cases h
  | some previousId =>
    rw [hprevious] at h
    obtain ⟨previous, hfound, h⟩ := bind_eq_ok.mp h
    obtain rfl := Except.ok.inj h
    obtain ⟨hmem, hid, -⟩ := get_eq_ok hfound
    exact ⟨hrow, requiring_eq_ok.mp hactive, hprevious.trans (congrArg some hid.symm), hmem⟩

lemma rollbackAdaptationInSession_ok
    (h : rollbackAdaptationInSession env tenantId adaptationId userId table = .ok table') :
    ∃ row previous, table.get tenantId adaptationId = .ok row ∧ row.status = .active ∧
      row.previousAdaptationId = some previous.id ∧ previous ∈ table ∧
      Rewritten table (rollbackStatus adaptationId previous.id) table' := by
  unfold rollbackAdaptationInSession at h
  obtain ⟨⟨row, previous⟩, hcheck, h⟩ := bind_eq_ok.mp h
  obtain ⟨_, -, h⟩ := bind_eq_ok.mp h
  obtain rfl := Except.ok.inj h
  obtain ⟨hrow, hactive, hprevious, hmem⟩ := checkRollback_ok hcheck
  refine ⟨row, previous, hrow, hactive, hprevious, hmem, _, List.map_map, fun other _ => ?_⟩
  rw [Function.comp_apply]
  unfold rollbackStatus
  by_cases hid : other.id = adaptationId
  · rw [if_pos hid, if_pos hid]
    by_cases hprevId : other.id = previous.id
    · rw [if_pos (show (other.rolledBack env userId).id = previous.id from hprevId),
        if_pos hprevId]
      exact ⟨rfl, rfl, rfl, rfl⟩
    · rw [if_neg (show ¬ (other.rolledBack env userId).id = previous.id from hprevId),
        if_neg hprevId]
      exact ⟨rfl, rfl, rfl, rfl⟩
  · rw [if_neg hid, if_neg hid]
    split <;> exact ⟨rfl, rfl, rfl, rfl⟩

lemma get_ne_noPreviousVersion (table : AdaptationTable) (tenantId adaptationId id : Uuid) :
    table.get tenantId adaptationId ≠ .error (.noPreviousVersion id) := by
  unfold AdaptationTable.get
  split <;> simp

lemma exists_of_noPreviousVersion
    (h : rollbackAdaptationInSession env tenantId adaptationId userId table =
      .error (.noPreviousVersion id)) :
    ∃ row, table.get tenantId adaptationId = .ok row ∧ row.previousAdaptationId = none := by
  unfold rollbackAdaptationInSession at h
  rcases bind_eq_error.mp h with hcheck | ⟨pair, -, hrest⟩
  · unfold checkRollback at hcheck
    rcases bind_eq_error.mp hcheck with hget | ⟨row, hrow, hcheck⟩
    · exact absurd hget (get_ne_noPreviousVersion _ _ _ _)
    rcases bind_eq_error.mp hcheck with hopen | ⟨_, -, hcheck⟩
    · cases (requiring_eq_error.mp hopen).2
    rcases bind_eq_error.mp hcheck with hactive | ⟨_, -, hcheck⟩
    · cases (requiring_eq_error.mp hactive).2
    refine ⟨row, hrow, ?_⟩
    cases hprevious : row.previousAdaptationId with
    | none => rfl
    | some previousId =>
      rw [hprevious] at hcheck
      rcases bind_eq_error.mp hcheck with hget | ⟨_, -, hcheck⟩
      · exact absurd hget (get_ne_noPreviousVersion _ _ _ _)
      · cases hcheck
  · rcases bind_eq_error.mp hrest with hindex | ⟨_, -, hrest⟩
    · cases (requiring_eq_error.mp hindex).2
    · cases hrest

/-! ## The invariant -/

/-- What every table of a run satisfies. -/
structure AdaptationTable.Sound (table : AdaptationTable) : Prop where
  keys : table.KeysUnique
  oneActive : table.OneActive
  /-- A recorded predecessor is a version of the same lineage. -/
  predecessor : ∀ row ∈ table, ∀ previousId, row.previousAdaptationId = some previousId →
    ∃ previous ∈ table, previous.id = previousId ∧ previous.lineage = row.lineage

def Adaptation.Stands (row : Adaptation) : Prop :=
  row.status = .active ∨ row.status = .superseded

/-- The standing versions of a lineage are stacked on one another. -/
structure AdaptationTable.Stacked (table : AdaptationTable) : Prop where
  /-- The predecessor of a standing version is superseded. -/
  below : ∀ row ∈ table, row.Stands → ∀ previous ∈ table,
    row.previousAdaptationId = some previous.id → previous.status = .superseded
  /-- Two standing versions have different predecessors. -/
  distinct : ∀ row ∈ table, ∀ other ∈ table, row.Stands → other.Stands →
    row.previousAdaptationId ≠ none → row.previousAdaptationId = other.previousAdaptationId →
    row.id = other.id

lemma Rewritten.predecessor (h : Rewritten table status table')
    (hpredecessor : ∀ row ∈ table, ∀ previousId, row.previousAdaptationId = some previousId →
      ∃ previous ∈ table, previous.id = previousId ∧ previous.lineage = row.lineage) :
    ∀ row ∈ table', ∀ previousId, row.previousAdaptationId = some previousId →
      ∃ previous ∈ table', previous.id = previousId ∧ previous.lineage = row.lineage := by
  intro row' hrow' previousId hprevious
  obtain ⟨row, hrow, -, hlineage, hsame, -⟩ := h.exists_before hrow'
  obtain ⟨previous, hmem, hid, hprevLineage⟩ :=
    hpredecessor row hrow previousId (hsame.symm.trans hprevious)
  obtain ⟨previous', hmem', hid', hlineage', -, -⟩ := h.exists_after hmem
  exact ⟨previous', hmem', hid'.trans hid, hlineage'.trans (hprevLineage.trans hlineage.symm)⟩

lemma Rewritten.oneActive {target : Uuid} (hrewritten : Rewritten table status table')
    (h : table.OneActive)
    (hactiveIs : ∀ other ∈ table, status other = .active →
      other.id = target ∨ other.status = .active ∧ other.lineage ≠ row.lineage)
    (hlineageIs : ∀ other ∈ table, other.id = target → other.lineage = row.lineage) :
    table'.OneActive := by
  intro first' hfirst' second' hsecond' hactive hactive' hlineage
  obtain ⟨first, hfirst, hid, hl, -, hstatus⟩ := hrewritten.exists_before hfirst'
  obtain ⟨second, hsecond, hid', hl', -, hstatus'⟩ := hrewritten.exists_before hsecond'
  have hsame : first.lineage = second.lineage := hl.symm.trans (hlineage.trans hl')
  rw [hid, hid']
  rcases hactiveIs first hfirst (hstatus.symm.trans hactive) with hself | ⟨hold, hother⟩
  · rcases hactiveIs second hsecond (hstatus'.symm.trans hactive') with hself' | ⟨-, hother'⟩
    · exact hself.trans hself'.symm
    · exact absurd (hsame.symm.trans (hlineageIs first hfirst hself)) hother'
  · rcases hactiveIs second hsecond (hstatus'.symm.trans hactive') with hself' | ⟨hold', -⟩
    · exact absurd (hsame.trans (hlineageIs second hsecond hself')) hother
    · exact h first hfirst second hsecond hold hold' hsame

lemma AdaptationTable.Sound.perform {env : Surroundings} {table table' : AdaptationTable}
    (h : table.Sound) {call : AdaptationCall} (hperform : call.perform env table = .ok table') :
    table'.Sound := by
  cases call with
  | propose proposal id =>
    obtain ⟨row, rfl, hnew, hcandidate, hprevious⟩ := proposeAdaptation_ok hperform
    refine ⟨h.keys.concat hnew, ?_, ?_⟩
    · intro first hfirst second hsecond hactive hactive' hlineage
      rcases List.mem_append.mp hfirst with hfirst | hfirst
      · rcases List.mem_append.mp hsecond with hsecond | hsecond
        · exact h.oneActive first hfirst second hsecond hactive hactive' hlineage
        · rw [List.mem_singleton.mp hsecond, hcandidate] at hactive'
          cases hactive'
      · rw [List.mem_singleton.mp hfirst, hcandidate] at hactive
        cases hactive
    · intro other hother previousId hrecorded
      rcases List.mem_append.mp hother with hother | hother
      · obtain ⟨previous, hmem, hpair⟩ := h.predecessor other hother previousId hrecorded
        exact ⟨previous, List.mem_append_left _ hmem, hpair⟩
      · obtain rfl := List.mem_singleton.mp hother
        obtain ⟨previous, hmem, hid, hlineage, -⟩ :=
          exists_active_of_activeIn (hprevious.symm.trans hrecorded)
        exact ⟨previous, List.mem_append_left _ hmem, hid, hlineage⟩
  | recordEvaluation tenantId adaptationId comparison =>
    have hrewritten := recordAdaptationEvaluation_ok hperform
    refine ⟨hrewritten.keysUnique h.keys, ?_, hrewritten.predecessor h.predecessor⟩
    intro first' hfirst' second' hsecond' hactive hactive' hlineage
    obtain ⟨first, hfirst, hid, hl, -, hstatus⟩ := hrewritten.exists_before hfirst'
    obtain ⟨second, hsecond, hid', hl', -, hstatus'⟩ := hrewritten.exists_before hsecond'
    rw [hid, hid']
    exact h.oneActive first hfirst second hsecond (hstatus.symm.trans hactive)
      (hstatus'.symm.trans hactive') (hl.symm.trans (hlineage.trans hl'))
  | activate tenantId adaptationId userId =>
    obtain ⟨row, ⟨hget, -, -⟩, hrewritten⟩ := activateAdaptationInSession_ok h.keys hperform
    obtain ⟨hrow, hrowId, -⟩ := get_eq_ok hget
    refine ⟨hrewritten.keysUnique h.keys, hrewritten.oneActive h.oneActive ?_ fun other hother hid =>
      congrArg _ (h.keys.eq_of_key_eq hother hrow (hid.trans hrowId.symm)),
      hrewritten.predecessor h.predecessor⟩
    -- Another active version of the lineage was superseded; in other lineages nothing changed.
    intro other hother hstatus
    unfold activationStatus at hstatus
    split_ifs at hstatus with hid hactive
    · exact Or.inl hid
    · exact Or.inr ⟨hstatus, fun hlineage => hactive ⟨hlineage, hstatus⟩⟩
  | rollback tenantId adaptationId userId =>
    obtain ⟨row, previous, hget, hrowActive, hprevious, hmem, hrewritten⟩ :=
      rollbackAdaptationInSession_ok hperform
    obtain ⟨hrow, hrowId, -⟩ := get_eq_ok hget
    obtain ⟨found, hfound, hfoundId, hfoundLineage⟩ := h.predecessor row hrow _ hprevious
    obtain rfl := h.keys.eq_of_key_eq hfound hmem hfoundId
    refine ⟨hrewritten.keysUnique h.keys, hrewritten.oneActive h.oneActive ?_ fun other hother hid =>
      (congrArg _ (h.keys.eq_of_key_eq hother hfound hid)).trans hfoundLineage,
      hrewritten.predecessor h.predecessor⟩
    -- The reactivated version is of the lineage whose only active version was rolled back.
    intro other hother hstatus
    unfold rollbackStatus at hstatus
    split_ifs at hstatus with hid hself
    · exact Or.inl hid
    · refine Or.inr ⟨hstatus, fun hlineage => hself ?_⟩
      exact (h.oneActive other hother row hrow hstatus hrowActive hlineage).trans hrowId

variable {event : AdaptationEvent}

lemma AdaptationTable.Sound.step (h : table.Sound) : (adaptationStep table event).Sound := by
  unfold adaptationStep
  split
  · next hperform => exact h.perform hperform
  · exact h

lemma exists_kept_step (event : AdaptationEvent) (h : table.Sound) (hrow : row ∈ table) :
    ∃ row' ∈ adaptationStep table event,
      row'.id = row.id ∧ row'.lineage = row.lineage ∧
      row'.previousAdaptationId = row.previousAdaptationId := by
  unfold adaptationStep
  split
  · next table' hperform =>
    obtain ⟨env, call⟩ := event
    have hkept : ∀ status, Rewritten table status table' → ∃ row' ∈ table', row'.id = row.id ∧
        row'.lineage = row.lineage ∧ row'.previousAdaptationId = row.previousAdaptationId := by
      intro status hrewritten
      obtain ⟨row', hmem, hid, hlineage, hprevious, -⟩ := hrewritten.exists_after hrow
      exact ⟨row', hmem, hid, hlineage, hprevious⟩
    cases call with
    | propose proposal id =>
      obtain ⟨new, rfl, -⟩ := proposeAdaptation_ok hperform
      exact ⟨row, List.mem_append_left _ hrow, rfl, rfl, rfl⟩
    | recordEvaluation tenantId adaptationId comparison =>
      exact hkept _ (recordAdaptationEvaluation_ok hperform)
    | activate tenantId adaptationId userId =>
      obtain ⟨_, _, hrewritten⟩ := activateAdaptationInSession_ok h.keys hperform
      exact hkept _ hrewritten
    | rollback tenantId adaptationId userId =>
      obtain ⟨_, _, _, _, _, _, hrewritten⟩ := rollbackAdaptationInSession_ok hperform
      exact hkept _ hrewritten
  · exact ⟨row, hrow, rfl, rfl, rfl⟩

lemma exists_kept_run (events : List AdaptationEvent) (h : table.Sound) (hrow : row ∈ table) :
    ∃ row' ∈ adaptationRun table events,
      row'.id = row.id ∧ row'.lineage = row.lineage ∧
      row'.previousAdaptationId = row.previousAdaptationId := by
  induction events generalizing table row with
  | nil => exact ⟨row, hrow, rfl, rfl, rfl⟩
  | cons event events ih =>
    obtain ⟨next, hnext, hid, hlineage, hprevious⟩ := exists_kept_step event h hrow
    obtain ⟨last, hlast, hid', hlineage', hprevious'⟩ := ih h.step hnext
    exact ⟨last, hlast, hid'.trans hid, hlineage'.trans hlineage, hprevious'.trans hprevious⟩

lemma Rewritten.distinct (hrewritten : Rewritten table status table')
    (h : ∀ first ∈ table, ∀ second ∈ table, ∀ first' second' : Adaptation,
      first'.status = status first → second'.status = status second → first'.Stands →
      second'.Stands → first.previousAdaptationId ≠ none →
      first.previousAdaptationId = second.previousAdaptationId → first.id = second.id) :
    ∀ first ∈ table', ∀ second ∈ table', first.Stands → second.Stands →
      first.previousAdaptationId ≠ none →
      first.previousAdaptationId = second.previousAdaptationId → first.id = second.id := by
  intro first' hfirst' second' hsecond' hstanding hstanding' hsome heq
  obtain ⟨first, hfirst, hid, -, hsame, hstatus⟩ := hrewritten.exists_before hfirst'
  obtain ⟨second, hsecond, hid', -, hsame', hstatus'⟩ := hrewritten.exists_before hsecond'
  rw [hid, hid']
  rw [hsame] at hsome heq
  rw [hsame'] at heq
  exact h first hfirst second hsecond first' second' hstatus hstatus' hstanding hstanding' hsome heq

section

variable (h : table.Stacked)

include h

lemma AdaptationTable.Stacked.activate (hsound : table.Sound)
    (hactivates : table.Activates tenantId adaptationId row)
    (hrecords : row.previousAdaptationId = table.activeIn row.lineage)
    (hrewritten : Rewritten table (activationStatus adaptationId row.lineage) table') :
    table'.Stacked := by
  obtain ⟨hget, hcandidate, -⟩ := hactivates
  obtain ⟨hrow, rfl, -⟩ := get_eq_ok hget
  -- A standing version of the new table is the activated one or stood before.
  have hstands : ∀ other ∈ table, ∀ other' : Adaptation,
      other'.status = activationStatus row.id row.lineage other → other'.Stands →
      other.id = row.id ∨ other.Stands := by
    rintro other hother other' hstatus (hactive | hsuperseded)
    · rw [hactive] at hstatus
      unfold activationStatus at hstatus
      split_ifs at hstatus with hid hold
      · exact Or.inl hid
      · exact Or.inr (Or.inl hstatus.symm)
    · rw [hsuperseded] at hstatus
      unfold activationStatus at hstatus
      split_ifs at hstatus with hid hold
      · exact Or.inr (Or.inl hold.2)
      · exact Or.inr (Or.inr hstatus.symm)
  -- The recorded predecessor was active, so no standing version is stacked on it yet.
  have hfree : ∀ other ∈ table, other.Stands →
      other.previousAdaptationId ≠ none → other.previousAdaptationId ≠ row.previousAdaptationId := by
    intro other hother hstanding hsome heq
    obtain ⟨previousId, hpreviousId⟩ := Option.ne_none_iff_exists'.mp hsome
    obtain ⟨previous, hmem, rfl, -, hactive⟩ :=
      exists_active_of_activeIn (hrecords.symm.trans (heq.symm.trans hpreviousId))
    have hsuperseded := h.below other hother hstanding previous hmem hpreviousId
    rw [hactive] at hsuperseded
    cases hsuperseded
  refine ⟨?_, ?_⟩
  · intro other' hother' hstanding' previous' hprevious' hrecorded
    obtain ⟨other, hother, hid, -, hsame, hstatus⟩ := hrewritten.exists_before hother'
    obtain ⟨previous, hprevious, hpreviousId, -, -, hpreviousStatus⟩ :=
      hrewritten.exists_before hprevious'
    have hrecordedBefore : other.previousAdaptationId = some previous.id :=
      hsame.symm.trans (hrecorded.trans (congrArg some hpreviousId))
    rw [hpreviousStatus]
    unfold activationStatus
    rcases hstands other hother other' hstatus hstanding' with hself | hstood
    · obtain rfl := hsound.keys.eq_of_key_eq hother hrow hself
      obtain ⟨current, hcurrent, hcurrentId, hlineage, hactive⟩ :=
        exists_active_of_activeIn (hrecords.symm.trans hrecordedBefore)
      obtain rfl := hsound.keys.eq_of_key_eq hcurrent hprevious hcurrentId
      rw [if_neg, if_pos ⟨hlineage, hactive⟩]
      intro heq
      obtain rfl := hsound.keys.eq_of_key_eq hcurrent hother heq
      rw [hcandidate] at hactive
      cases hactive
    · have hsuperseded := h.below other hother hstood previous hprevious hrecordedBefore
      rw [if_neg, if_neg, hsuperseded]
      · rintro ⟨-, hactive⟩
        rw [hsuperseded] at hactive
        cases hactive
      · intro heq
        obtain rfl := hsound.keys.eq_of_key_eq hprevious hrow heq
        rw [hcandidate] at hsuperseded
        cases hsuperseded
  · refine hrewritten.distinct fun first hfirst second hsecond first' second' hstatus hstatus'
      hstanding hstanding' hsome heq => ?_
    rcases hstands first hfirst first' hstatus hstanding with hself | hstood
    · rcases hstands second hsecond second' hstatus' hstanding' with hself' | hstood'
      · exact hself.trans hself'.symm
      · obtain rfl := hsound.keys.eq_of_key_eq hfirst hrow hself
        exact absurd heq.symm (hfree second hsecond hstood' (heq ▸ hsome))
    · rcases hstands second hsecond second' hstatus' hstanding' with hself' | hstood'
      · obtain rfl := hsound.keys.eq_of_key_eq hsecond hrow hself'
        exact absurd heq (hfree first hfirst hstood hsome)
      · exact h.distinct first hfirst second hsecond hstood hstood' hsome heq

lemma AdaptationTable.Stacked.rollback {row previous : Adaptation} (hsound : table.Sound)
    (hrow : row ∈ table) (hactive : row.status = .active)
    (hprevious : row.previousAdaptationId = some previous.id) (hmem : previous ∈ table)
    (hrewritten : Rewritten table (rollbackStatus row.id previous.id) table') : table'.Stacked := by
  have hsuperseded := h.below row hrow (Or.inl hactive) previous hmem hprevious
  -- A standing version of the new table stood before, and it is not the one rolled back.
  have hstands : ∀ other ∈ table, ∀ other' : Adaptation,
      other'.status = rollbackStatus row.id previous.id other → other'.Stands →
      other.Stands ∧ other.id ≠ row.id := by
    intro other hother other' hstatus hstanding
    unfold Adaptation.Stands at hstanding
    rw [hstatus] at hstanding
    unfold rollbackStatus at hstanding
    split_ifs at hstanding with hid hself
    · obtain rfl := hsound.keys.eq_of_key_eq hother hmem hid
      refine ⟨Or.inr hsuperseded, fun heq => ?_⟩
      obtain rfl := hsound.keys.eq_of_key_eq hother hrow heq
      rw [hactive] at hsuperseded
      cases hsuperseded
    · rcases hstanding with hstanding | hstanding <;> cases hstanding
    · exact ⟨hstanding, hself⟩
  refine ⟨?_, ?_⟩
  · intro other' hother' hstanding' below' hbelow' hrecorded
    obtain ⟨other, hother, -, -, hsame, hstatus⟩ := hrewritten.exists_before hother'
    obtain ⟨below, hbelow, hbelowId, -, -, hbelowStatus⟩ := hrewritten.exists_before hbelow'
    obtain ⟨hstood, hne⟩ := hstands other hother other' hstatus hstanding'
    have hrecordedBefore : other.previousAdaptationId = some below.id :=
      hsame.symm.trans (hrecorded.trans (congrArg some hbelowId))
    have hbelowSuperseded := h.below other hother hstood below hbelow hrecordedBefore
    rw [hbelowStatus]
    unfold rollbackStatus
    rw [if_neg, if_neg, hbelowSuperseded]
    · intro heq
      obtain rfl := hsound.keys.eq_of_key_eq hbelow hrow heq
      rw [hactive] at hbelowSuperseded
      cases hbelowSuperseded
    · intro heq
      refine hne (h.distinct other hother row hrow hstood (Or.inl hactive) ?_ ?_)
      · rw [hrecordedBefore]
        exact Option.some_ne_none _
      · rw [hrecordedBefore, hprevious, heq]
  · refine hrewritten.distinct fun first hfirst second hsecond first' second' hstatus hstatus'
      hstanding hstanding' hsome heq => ?_
    exact h.distinct first hfirst second hsecond (hstands first hfirst first' hstatus hstanding).1
      (hstands second hsecond second' hstatus' hstanding').1 hsome heq

lemma AdaptationTable.Stacked.propose (hsound : table.Sound)
    (hnew : ∀ other ∈ table, other.id ≠ row.id) (hcandidate : row.status = .candidate) :
    AdaptationTable.Stacked (table ++ [row]) := by
  have hold : ∀ other ∈ table ++ [row], other.Stands → other ∈ table := by
    intro other hother hstands
    rcases List.mem_append.mp hother with hmem | hmem
    · exact hmem
    · obtain rfl := List.mem_singleton.mp hmem
      unfold Adaptation.Stands at hstands
      rw [hcandidate] at hstands
      rcases hstands with hstands | hstands <;> cases hstands
  refine ⟨?_, ?_⟩
  · intro other hother hstands previous hprevious hrecorded
    have hmem := hold other hother hstands
    obtain ⟨found, hfound, hfoundId, -⟩ := hsound.predecessor other hmem _ hrecorded
    rcases List.mem_append.mp hprevious with hbefore | hlast
    · exact h.below other hmem hstands previous hbefore hrecorded
    · rw [List.mem_singleton.mp hlast] at hfoundId
      exact absurd hfoundId (hnew found hfound)
  · intro first hfirst second hsecond hstands hstands'
    exact h.distinct first (hold first hfirst hstands) second (hold second hsecond hstands') hstands
      hstands'

lemma AdaptationTable.Stacked.same (hrewritten : Rewritten table (fun row => row.status) table') :
    table'.Stacked := by
  have hstands : ∀ other : Adaptation, ∀ other' : Adaptation, other'.status = other.status →
      other'.Stands → other.Stands := by
    intro other other' hstatus hstanding
    unfold Adaptation.Stands at hstanding ⊢
    rwa [hstatus] at hstanding
  refine ⟨?_, ?_⟩
  · intro other' hother' hstanding' below' hbelow' hrecorded
    obtain ⟨other, hother, -, -, hsame, hstatus⟩ := hrewritten.exists_before hother'
    obtain ⟨below, hbelow, hbelowId, -, -, hbelowStatus⟩ := hrewritten.exists_before hbelow'
    exact hbelowStatus.trans (h.below other hother (hstands _ _ hstatus hstanding') below hbelow
      (hsame.symm.trans (hrecorded.trans (congrArg some hbelowId))))
  · refine hrewritten.distinct fun first hfirst second hsecond first' second' hstatus hstatus'
      hstanding hstanding' hsome heq => ?_
    exact h.distinct first hfirst second hsecond (hstands _ _ hstatus hstanding)
      (hstands _ _ hstatus' hstanding') hsome heq

lemma AdaptationTable.Stacked.step (hsound : table.Sound) (hevent : RecordsActive table event) :
    (adaptationStep table event).Stacked := by
  obtain ⟨env, call⟩ := event
  unfold adaptationStep
  split
  · next table' hperform =>
    cases call with
    | propose proposal id =>
      obtain ⟨row, rfl, hnew, hcandidate, -⟩ := proposeAdaptation_ok hperform
      exact h.propose hsound hnew hcandidate
    | recordEvaluation tenantId adaptationId comparison =>
      exact h.same (recordAdaptationEvaluation_ok hperform)
    | activate tenantId adaptationId userId =>
      obtain ⟨row, hactivates, hrewritten⟩ := activateAdaptationInSession_ok hsound.keys hperform
      exact h.activate hsound hactivates (hevent (by rw [hperform]; rfl) row hactivates) hrewritten
    | rollback tenantId adaptationId userId =>
      obtain ⟨row, previous, hget, hactive, hprevious, hmem, hrewritten⟩ :=
        rollbackAdaptationInSession_ok hperform
      obtain ⟨hrow, rfl, -⟩ := get_eq_ok hget
      exact h.rollback hsound hrow hactive hprevious hmem hrewritten
  · exact h

end

lemma isRolledBack_step (hsound : table.Sound) (hstacked : table.Stacked)
    (h : table.IsRolledBack id) :
    (adaptationStep table event).IsRolledBack id := by
  obtain ⟨row, hrow, rfl, hrolledBack⟩ := h
  obtain ⟨env, call⟩ := event
  unfold adaptationStep
  split
  · next table' hperform =>
    have hkept : ∀ status : Adaptation → AdaptationStatus, status row = .rolledBack →
        Rewritten table status table' → table'.IsRolledBack row.id := by
      intro status hstatus hrewritten
      obtain ⟨row', hmem, hid, -, -, hstatus'⟩ := hrewritten.exists_after hrow
      exact ⟨row', hmem, hid, hstatus'.trans hstatus⟩
    cases call with
    | propose proposal id =>
      obtain ⟨new, rfl, -⟩ := proposeAdaptation_ok hperform
      exact ⟨row, List.mem_append_left _ hrow, rfl, hrolledBack⟩
    | recordEvaluation tenantId adaptationId comparison =>
      exact hkept _ hrolledBack (recordAdaptationEvaluation_ok hperform)
    | activate tenantId adaptationId userId =>
      obtain ⟨activated, ⟨hget, hcandidate, -⟩, hrewritten⟩ :=
        activateAdaptationInSession_ok hsound.keys hperform
      obtain ⟨hmem, rfl, -⟩ := get_eq_ok hget
      refine hkept _ ?_ hrewritten
      unfold activationStatus
      rw [if_neg, if_neg, hrolledBack]
      · rintro ⟨-, hactive⟩
        rw [hrolledBack] at hactive
        cases hactive
      · intro heq
        obtain rfl := hsound.keys.eq_of_key_eq hrow hmem heq
        rw [hrolledBack] at hcandidate
        cases hcandidate
    | rollback tenantId adaptationId userId =>
      obtain ⟨top, previous, hget, hactive, hprevious, hmem, hrewritten⟩ :=
        rollbackAdaptationInSession_ok hperform
      obtain ⟨htop, rfl, -⟩ := get_eq_ok hget
      have hsuperseded := hstacked.below top htop (Or.inl hactive) previous hmem hprevious
      refine hkept _ ?_ hrewritten
      unfold rollbackStatus
      rw [if_neg]
      · split
        · rfl
        · exact hrolledBack
      · intro heq
        obtain rfl := hsound.keys.eq_of_key_eq hrow hmem heq
        rw [hrolledBack] at hsuperseded
        cases hsuperseded
  · exact ⟨row, hrow, rfl, hrolledBack⟩

/-! ## Runs -/

lemma sound_nil : AdaptationTable.Sound [] :=
  ⟨List.nodup_nil, fun _ h => absurd h List.not_mem_nil, fun _ h => absurd h List.not_mem_nil⟩

lemma stacked_nil : AdaptationTable.Stacked [] :=
  ⟨fun _ h => absurd h List.not_mem_nil, fun _ h => absurd h List.not_mem_nil⟩

variable {events : List AdaptationEvent}

section

variable (hsound : table.Sound) (hstacked : table.Stacked)
  (h : Run.Along adaptationStep RecordsActive table events)

include hsound hstacked h

lemma invariant_run :
    (adaptationRun table events).Sound ∧ (adaptationRun table events).Stacked :=
  Run.run_of_along (I := fun table : AdaptationTable => table.Sound ∧ table.Stacked)
    (fun _ _ hinv hevent => ⟨hinv.1.step, hinv.2.step hinv.1 hevent⟩) ⟨hsound, hstacked⟩ h

lemma isRolledBack_run (hid : table.IsRolledBack id) :
    (adaptationRun table events).IsRolledBack id := by
  have hall := Run.run_of_along (I := fun table : AdaptationTable =>
      (table.Sound ∧ table.Stacked) ∧ table.IsRolledBack id)
    (fun table event hinv hevent => ⟨⟨hinv.1.1.step, hinv.1.2.step hinv.1.1 hevent⟩,
      isRolledBack_step hinv.1.1 hinv.1.2 hinv.2⟩) ⟨⟨hsound, hstacked⟩, hid⟩ h
  exact hall.2

end

lemma not_isActive_of_isRolledBack (hsound : table.Sound) (h : table.IsRolledBack id) :
    ¬ table.IsActive id := by
  rintro ⟨row, hrow, hid, hactive⟩
  obtain ⟨other, hother, hid', hrolledBack⟩ := h
  obtain rfl := hsound.keys.eq_of_key_eq hrow hother (hid.trans hid'.symm)
  rw [hactive] at hrolledBack
  cases hrolledBack

lemma adaptationStep_of_perform {call : AdaptationCall} (h : call.perform env table = .ok table') :
    adaptationStep table (env, call) = table' := by
  unfold adaptationStep
  rw [h]

lemma exists_activated_kept {before : List AdaptationEvent} (middle : List AdaptationEvent)
    (hbefore : (adaptationRun [] before).Sound)
    (hget : (adaptationRun [] before).get tenantId adaptationId = .ok row)
    (hperform : (AdaptationCall.activate tenantId adaptationId userId).perform env
      (adaptationRun [] before) = .ok table) :
    ∃ row' ∈ adaptationRun table middle, row'.id = adaptationId ∧ row'.lineage = row.lineage ∧
      row'.previousAdaptationId = row.previousAdaptationId := by
  obtain ⟨hrow, rfl, -⟩ := get_eq_ok hget
  obtain ⟨next, hnext, hid, hlineage, hprevious⟩ :=
    exists_kept_step (env, .activate tenantId row.id userId) hbefore hrow
  rw [adaptationStep_of_perform hperform] at hnext
  obtain ⟨last, hlast, hid', hlineage', hprevious'⟩ :=
    exists_kept_run middle (hbefore.perform hperform) hnext
  exact ⟨last, hlast, hid'.trans hid, hlineage'.trans hlineage, hprevious'.trans hprevious⟩

lemma recorded_of_along {before rest : List AdaptationEvent}
    (h : Run.Along adaptationStep RecordsActive []
      (before ++ (env, .activate tenantId adaptationId userId) :: rest))
    (hget : (adaptationRun [] before).get tenantId adaptationId = .ok row)
    (hperform : (AdaptationCall.activate tenantId adaptationId userId).perform env
      (adaptationRun [] before) = .ok table) :
    row.previousAdaptationId = (adaptationRun [] before).activeIn row.lineage := by
  obtain ⟨hbefore, hevent, -⟩ := Run.along_append.mp h
  obtain ⟨hsound, -⟩ := invariant_run sound_nil stacked_nil hbefore
  obtain ⟨found, hactivates, -⟩ := activateAdaptationInSession_ok hsound.keys hperform
  obtain rfl := Except.ok.inj (hactivates.1.symm.trans hget)
  exact hevent (by dsimp only; rw [hperform]; rfl) found hactivates

/-- **Rollbacks restore what was active**, in every run in which each candidate that is activated
recorded the version that is active at that moment. -/
theorem run_restores {events : List AdaptationEvent}
    (h : Run.Along adaptationStep RecordsActive [] events) : RollbackRestores events where
  oneActive := by
    rintro before after rfl
    exact (Run.run_of_step (fun _ _ hsound => AdaptationTable.Sound.step hsound) sound_nil
      before).oneActive
  staysRolledBack := by
    rintro before middle after id rfl hid
    rw [List.append_assoc] at h
    obtain ⟨hbefore, hrest⟩ := Run.along_append.mp h
    obtain ⟨hmiddle, -⟩ := Run.along_append.mp hrest
    obtain ⟨hsound, hstacked⟩ := invariant_run sound_nil stacked_nil hbefore
    have hlast := isRolledBack_run hsound hstacked hmiddle hid
    rw [adaptationRun, Run.run_append]
    exact not_isActive_of_isRolledBack (invariant_run hsound hstacked hmiddle).1 hlast
  restores := by
    rintro before env tenantId adaptationId userId middle env' userId' after row table table' rfl
      hget hperform hrollback
    obtain ⟨hinit, -⟩ := Run.along_append.mp h
    obtain ⟨hbefore, -, hmiddle⟩ := Run.along_append.mp hinit
    obtain ⟨hsound, -⟩ := invariant_run sound_nil stacked_nil hbefore
    have hrecorded := recorded_of_along hinit hget hperform
    obtain ⟨row', hrow', hid', hlineage', hprevious'⟩ :=
      exists_activated_kept middle hsound hget hperform
    have hsound' : (adaptationRun table middle).Sound :=
      Run.run_of_step (fun _ _ hsound => AdaptationTable.Sound.step hsound)
        (hsound.perform hperform) middle
    obtain ⟨top, previous, hgetTop, -, hprevious, hmem, hrewritten⟩ :=
      rollbackAdaptationInSession_ok hrollback
    obtain ⟨htop, htopId, -⟩ := get_eq_ok hgetTop
    obtain rfl := hsound'.keys.eq_of_key_eq htop hrow' (htopId.trans hid'.symm)
    obtain ⟨found, hfound, hfoundId, hfoundLineage⟩ := hsound'.predecessor top hrow' _ hprevious
    obtain rfl := hsound'.keys.eq_of_key_eq hfound hmem hfoundId
    obtain ⟨restored, hrestored, hrestoredId, hrestoredLineage, -, hrestoredStatus⟩ :=
      hrewritten.exists_after hfound
    have hactive : restored.status = .active := hrestoredStatus.trans (if_pos rfl)
    have hone := (hsound'.perform hrollback).oneActive
    have hin := activeIn_of_mem hone hrestored hactive
    rw [hrestoredLineage, hfoundLineage, hlineage', hrestoredId] at hin
    rw [hin, ← hrecorded, ← hprevious', hprevious]
  notRefused := by
    rintro before env tenantId adaptationId userId middle env' userId' after row table rfl hget
      hperform hactive hrefused
    obtain ⟨hinit, -⟩ := Run.along_append.mp h
    obtain ⟨hbefore, -, hmiddle⟩ := Run.along_append.mp hinit
    obtain ⟨hsound, -⟩ := invariant_run sound_nil stacked_nil hbefore
    have hrecorded := recorded_of_along hinit hget hperform
    obtain ⟨row', hrow', hid', -, hprevious'⟩ :=
      exists_activated_kept middle hsound hget hperform
    have hsound' : (adaptationRun table middle).Sound :=
      Run.run_of_step (fun _ _ hsound => AdaptationTable.Sound.step hsound)
        (hsound.perform hperform) middle
    obtain ⟨top, hgetTop, hnone⟩ := exists_of_noPreviousVersion hrefused
    obtain ⟨htop, htopId, -⟩ := get_eq_ok hgetTop
    obtain rfl := hsound'.keys.eq_of_key_eq htop hrow' (htopId.trans hid'.symm)
    exact hactive (hrecorded.symm.trans (hprevious'.symm.trans hnone))

/-! ## Two runs -/

instance (table : AdaptationTable) (event : AdaptationEvent) :
    Decidable (RecordsActive table event) :=
  match event with
  | (_, .propose _ _) => isTrue trivial
  | (_, .recordEvaluation _ _ _) => isTrue trivial
  | (_, .rollback _ _ _) => isTrue trivial
  | (env, .activate tenantId adaptationId userId) =>
    match hget : table.get tenantId adaptationId with
    | .error _ => isTrue fun _ _ hrow => by
      cases hget.symm.trans hrow.1
    | .ok row =>
      decidable_of_iff (((AdaptationCall.activate tenantId adaptationId userId).perform env
          table).isOk = true → row.status = .candidate ∧ row.evaluationOutcome = some .pass →
        row.previousAdaptationId = table.activeIn row.lineage) <| by
        constructor
        · rintro h hok other ⟨hother, hpair⟩
          obtain rfl := Except.ok.inj (hget.symm.trans hother)
          exact h hok hpair
        · intro h hok hpair
          exact h hok row ⟨hget, hpair⟩

def tonePrompt : Lineage := ⟨1, .promptInstruction, "tone"⟩

/-- Tenant 1 is open, and the log holds a learning authorization with id 11 and an evaluation with
id 12 that passed. -/
def audited : Surroundings where
  log := [⟨1, 5, "learning.data_access_approved", "learning_authorization", 11, .success, none, []⟩,
    ⟨1, 5, "learning.evaluation_run", "learning_evaluation", 12, .success, none, []⟩]
  openTenant := fun tenantId => tenantId == 1
  now := 0

def proposeAndEvaluate (id : Uuid) : List AdaptationEvent :=
  [(audited, .propose ⟨tonePrompt, "be brief", "summaries", ⟨.allow, 1, "summaries", none, 10, 11⟩,
      "user_feedback", "ticket 7", 5, .tenant, none⟩ id),
    (audited, .recordEvaluation 1 id ⟨.pass, "1", "2", none, none, [], [], 12⟩)]

def activateVersion (id : Uuid) : AdaptationEvent := (audited, .activate 1 id 5)

def rollBackVersion (id : Uuid) : AdaptationEvent := (audited, .rollback 1 id 5)

def inTurn : List AdaptationEvent :=
  proposeAndEvaluate 101 ++ [activateVersion 101] ++ proposeAndEvaluate 102 ++
    [activateVersion 102] ++ [rollBackVersion 102]

/-- Versions proposed one after the other are restored, and the first one is active again. -/
theorem run_restores_inTurn :
    RollbackRestores inTurn ∧ (adaptationRun [] inTurn).activeIn tonePrompt = some 101 :=
  ⟨run_restores (by decide +kernel), by decide +kernel⟩

def parallelProposals : List AdaptationEvent :=
  proposeAndEvaluate 101 ++ [activateVersion 101] ++ proposeAndEvaluate 102 ++
    proposeAndEvaluate 103 ++ [activateVersion 102]

/-- Version 103 replaces version 102, and its rollback reactivates version 101. -/
theorem parallel_candidates_not_restored :
    ¬ RollbackRestores (parallelProposals ++ [activateVersion 103] ++ [rollBackVersion 103]) := by
  intro h
  have hactivated : (AdaptationCall.activate 1 103 5).perform audited
      (adaptationRun [] parallelProposals) =
        .ok (adaptationRun [] (parallelProposals ++ [activateVersion 103])) := by
    decide +kernel
  have hrolledBack : (AdaptationCall.rollback 1 103 5).perform audited
      (adaptationRun [] (parallelProposals ++ [activateVersion 103])) =
        .ok (adaptationRun [] (parallelProposals ++ [activateVersion 103] ++
          [rollBackVersion 103])) := by
    decide +kernel
  cases hget : (adaptationRun [] parallelProposals).get 1 103 with
  | error e =>
    have hok : ((adaptationRun [] parallelProposals).get 1 103).isOk = true := by decide +kernel
    rw [hget] at hok
    cases hok
  | ok row =>
    have hlineage : ((adaptationRun [] parallelProposals).get 1 103).map
        (fun row => row.lineage) = .ok tonePrompt := by decide +kernel
    rw [hget] at hlineage
    have hrestored := h.restores parallelProposals audited 1 103 5 [] audited 5 [] row _ _ rfl hget
      hactivated hrolledBack
    rw [show row.lineage = tonePrompt from Except.ok.inj hlineage] at hrestored
    revert hrestored
    decide +kernel

end SaasOs.SelfLearning
