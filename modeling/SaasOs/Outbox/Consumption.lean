import SaasOs.Outbox.Names
import SaasOs.Usage.Events
import SaasOs.Foundation.Run
import SaasOs.Foundation.UniqueInsert

/-!
# Consumption of outbox events

An event is delivered at least once, and its consumer may run many times, at the same time as well.
A consumer with an effect in the database claims the event in the transaction of the effect: it
inserts a row with the tenant, its own name and the event, in a savepoint.
-/

namespace SaasOs

open UniqueInsert Rows

/-! ## Consumers -/

/-- The check of the name of a consumer does not raise. -/
def validateConsumer (consumer : String) : Bool :=
  (KeyValidators.checkConsumer (PyJson.text consumer)).isOk

/-- What a consumer decides before it claims its event. -/
inductive Preparation
  | proceed
  /-- It returns, and has done nothing. -/
  | drop
  | raise

/-- How far a run of a consumer has come. -/
inductive ConsumerPhase (W : Type)
  | began
  | prepared
  /-- The event is claimed, or has no identity to claim. -/
  | claimed
  /-- The effect is written. -/
  | performed (effect : W)
  | completed
  /-- The event was consumed before. -/
  | skipped
  /-- The transaction was rolled back: something was raised, the consumer has returned early, or its
  process is gone. -/
  | rolledBack

def ConsumerPhase.holdsClaim {W : Type} : ConsumerPhase W → Bool
  | .claimed | .performed _ => true
  | _ => false

/-- One run of a consumer for an event; an event that was queued directly has no identity. -/
structure ConsumerRun (V W E : Type) where
  tenantId : Uuid
  consumer : String
  eventId : Option Uuid
  prepare : V → Preparation
  effect : V → Except E W
  phase : ConsumerPhase W

/-- A row of `core.outbox_consumptions`, and the run that inserted it. -/
structure OutboxConsumption where
  run : ℕ
  tenantId : Uuid
  consumer : String
  eventId : Uuid

def OutboxConsumption.key (row : OutboxConsumption) : Uuid × String × Uuid :=
  (row.tenantId, row.consumer, row.eventId)

structure Effect (W : Type) where
  run : ℕ
  tenantId : Uuid
  consumer : String
  eventId : Option Uuid
  value : W

def ConsumerRun.toEffect {V W E : Type} (run : ConsumerRun V W E) (n : ℕ) (value : W) : Effect W :=
  ⟨n, run.tenantId, run.consumer, run.eventId, value⟩

def Effect.isOf {W : Type} (effect : Effect W) (tenantId : Uuid) (consumer : String)
    (eventId : Uuid) : Bool :=
  decide (effect.tenantId = tenantId ∧ effect.consumer = consumer ∧ effect.eventId = some eventId)

/-- The claims, the committed effects, and the runs of consumers. -/
structure Consumptions (V W E : Type) where
  claims : Table ℕ OutboxConsumption
  effects : List (Effect W)
  runs : ℕ → Option (ConsumerRun V W E)

/-- What a run does next; `view` is what its statements have read. -/
inductive ConsumerAction (V : Type)
  | prepare (view : V)
  | claim
  | perform (view : V)
  | commit
  | fail

/-- The start of a run, or its next action. -/
inductive ConsumerStep (V W E : Type)
  | start (n : ℕ) (tenantId : Uuid) (consumer : String) (eventId : Option Uuid)
      (prepare : V → Preparation) (effect : V → Except E W)
  | act (n : ℕ) (action : ConsumerAction V)

/-! ## Steps -/

namespace Consumptions

variable {V W E : Type}

def setRun (state : Consumptions V W E) (n : ℕ) (run : ConsumerRun V W E) (phase : ConsumerPhase W) :
    Consumptions V W E :=
  { state with runs := Function.update state.runs n (some { run with phase := phase }) }

def rollback (state : Consumptions V W E) (n : ℕ) (run : ConsumerRun V W E) : Consumptions V W E :=
  { state with claims := state.claims.rollback n }.setRun n run .rolledBack

def eventConsumptionRecorded (state : Consumptions V W E) (n : ℕ) (key : Uuid × String × Uuid) :
    Bool :=
  state.claims.committed.any (fun row => decide (row.key = key)) ||
    state.claims.uncommitted.any fun entry => decide (entry.1 = n ∧ entry.2.key = key)

/-- The claim of an event: it waits for another claim, or is inserted in a savepoint; an integrity
failure means that the event is consumed only if a row says so. -/
def claimEventConsumption (tenantExists : Uuid → Bool) (state : Consumptions V W E) (n : ℕ)
    (run : ConsumerRun V W E) (eventId : Uuid) : Consumptions V W E :=
  if !validateConsumer run.consumer then state.rollback n run
  else
    match state.claims.tryInsert OutboxConsumption.key n (run.tenantId, run.consumer, eventId) with
    | .waits => state
    | .violates =>
      if state.eventConsumptionRecorded n (run.tenantId, run.consumer, eventId) then
        state.setRun n run .skipped
      else state.rollback n run
    | .inserted =>
      if tenantExists run.tenantId then
        { state with
          claims := state.claims.insert n ⟨n, run.tenantId, run.consumer, eventId⟩ }.setRun n run
            .claimed
      else state.rollback n run

def commit (state : Consumptions V W E) (n : ℕ) (run : ConsumerRun V W E) (effect : W) :
    Consumptions V W E :=
  { state with
    claims := state.claims.commit n
    effects := state.effects ++
      [run.toEffect n effect] }.setRun n run .completed

def advance (tenantExists : Uuid → Bool) (state : Consumptions V W E) (n : ℕ)
    (run : ConsumerRun V W E) : ConsumerAction V → ConsumerPhase W → Consumptions V W E
  | .prepare view, .began =>
    match run.prepare view with
    | .proceed => state.setRun n run .prepared
    | .drop | .raise => state.rollback n run
  | .claim, .prepared =>
    match run.eventId with
    | none => state.setRun n run .claimed
    | some eventId => state.claimEventConsumption tenantExists n run eventId
  | .perform view, .claimed =>
    match run.effect view with
    | .ok effect => state.setRun n run (.performed effect)
    | .error _ => state.rollback n run
  | .commit, .performed effect => state.commit n run effect
  | .fail, .began | .fail, .prepared | .fail, .claimed | .fail, .performed _ => state.rollback n run
  | _, _ => state

def step (tenantExists : Uuid → Bool) (state : Consumptions V W E) :
    ConsumerStep V W E → Consumptions V W E
  | .start n tenantId consumer eventId prepare effect =>
    match state.runs n with
    | some _ => state
    | none =>
      { state with
        runs := Function.update state.runs n
          (some ⟨tenantId, consumer, eventId, prepare, effect, .began⟩) }
  | .act n action =>
    match state.runs n with
    | none => state
    | some run => state.advance tenantExists n run action run.phase

/-- No event was consumed, and no consumer has run. -/
structure Initial (state : Consumptions V W E) : Prop where
  claims : state.claims = .empty
  effects : state.effects = []
  runs : ∀ n, state.runs n = none

def effectCount (state : Consumptions V W E) (tenantId : Uuid) (consumer : String) (eventId : Uuid) :
    ℕ :=
  state.effects.countP fun effect => effect.isOf tenantId consumer eventId

/-- What consuming effectively once means. -/
structure EffectivelyOnce (tenantExists : Uuid → Bool) (state : Consumptions V W E) : Prop where
  /-- Every event has its effect at most once. -/
  at_most_once : ∀ tenantId consumer eventId, state.effectCount tenantId consumer eventId ≤ 1
  /-- A run that has claimed its event and committed has had the effect, which is the only one. -/
  exactly_once : ∀ n run eventId, state.runs n = some run → run.phase = .completed →
    run.eventId = some eventId →
    state.effectCount run.tenantId run.consumer eventId = 1 ∧
      ∃ effect ∈ state.effects, effect.run = n ∧
        effect.isOf run.tenantId run.consumer eventId = true
  /-- A run that was rolled back leaves no claim and no effect behind. -/
  rolled_back : ∀ n run, state.runs n = some run → run.phase = .rolledBack →
    (∀ entry ∈ state.claims.uncommitted, entry.1 ≠ n) ∧
      (∀ row ∈ state.claims.committed, row.run ≠ n) ∧ ∀ effect ∈ state.effects, effect.run ≠ n
  /-- An event without an effect can be consumed by a run that has come to its claim, as soon as no
  other run holds a claim of the event. -/
  consumable : ∀ n run eventId view effect, state.runs n = some run → run.phase = .prepared →
    run.eventId = some eventId → validateConsumer run.consumer = true →
    tenantExists run.tenantId = true → run.effect view = .ok effect →
    state.effectCount run.tenantId run.consumer eventId = 0 →
    (∀ m other, m ≠ n → state.runs m = some other → other.tenantId = run.tenantId →
      other.consumer = run.consumer → other.eventId = some eventId →
      other.phase.holdsClaim = false) →
    let state' := Run.run (step tenantExists) state
      [.act n .claim, .act n (.perform view), .act n .commit]
    state'.runs n = some { run with phase := .completed } ∧
      run.toEffect n effect ∈ state'.effects

end Consumptions

/-! ## The invariant -/

namespace Consumptions

variable {V W E : Type}

/-- The invariant: claims and effects come in pairs. -/
structure Sound (state : Consumptions V W E) : Prop where
  unique : state.claims.Unique OutboxConsumption.key
  uncommitted : ∀ n row, (n, row) ∈ state.claims.uncommitted →
    ∃ run eventId, state.runs n = some run ∧ run.phase.holdsClaim = true ∧
      run.eventId = some eventId ∧ row = ⟨n, run.tenantId, run.consumer, eventId⟩
  holds : ∀ n run eventId, state.runs n = some run → run.phase.holdsClaim = true →
    run.eventId = some eventId → (n, ⟨n, run.tenantId, run.consumer, eventId⟩) ∈
      state.claims.uncommitted
  committed : ∀ row ∈ state.claims.committed,
    (∃ run, state.runs row.run = some run ∧ run.phase = .completed) ∧
      ∃ effect ∈ state.effects, effect.isOf row.tenantId row.consumer row.eventId = true
  effects : ∀ effect ∈ state.effects,
    (∃ run, state.runs effect.run = some run ∧ run.phase = .completed) ∧
      ∀ eventId, effect.eventId = some eventId →
        ∃ row ∈ state.claims.committed, row.key = (effect.tenantId, effect.consumer, eventId)
  at_most_once : ∀ tenantId consumer eventId, state.effectCount tenantId consumer eventId ≤ 1
  completed : ∀ n run, state.runs n = some run → run.phase = .completed →
    ∃ value, run.toEffect n value ∈ state.effects

variable {state : Consumptions V W E} {n : ℕ} {run : ConsumerRun V W E}

lemma Sound.setRun (hsound : state.Sound) (hn : state.runs n = some run)
    (hphase : run.phase ≠ .completed) {claims : Table ℕ OutboxConsumption} {phase : ConsumerPhase W}
    (hphase' : phase ≠ .completed) (hunique : claims.Unique OutboxConsumption.key)
    (hcommitted : claims.committed = state.claims.committed)
    (hothers : ∀ m, m ≠ n → ∀ row,
      (m, row) ∈ claims.uncommitted ↔ (m, row) ∈ state.claims.uncommitted)
    (hown : ∀ row, (n, row) ∈ claims.uncommitted → phase.holdsClaim = true ∧
      ∃ eventId, run.eventId = some eventId ∧ row = ⟨n, run.tenantId, run.consumer, eventId⟩)
    (hholds : phase.holdsClaim = true → ∀ eventId, run.eventId = some eventId →
      (n, ⟨n, run.tenantId, run.consumer, eventId⟩) ∈ claims.uncommitted) :
    ({ state with claims := claims }.setRun n run phase).Sound := by
  have hself : ({ state with claims := claims }.setRun n run phase).runs n =
      some { run with phase := phase } := Function.update_self ..
  have hother : ∀ m, m ≠ n →
      ({ state with claims := claims }.setRun n run phase).runs m = state.runs m :=
    fun m hne => Function.update_of_ne hne ..
  -- committed runs are other runs
  have hkeeps : ∀ m, (∃ other, state.runs m = some other ∧ other.phase = .completed) →
      ∃ other, ({ state with claims := claims }.setRun n run phase).runs m = some other ∧
        other.phase = .completed := by
    rintro m ⟨other, hm, hcompleted⟩
    have hne : m ≠ n := by
      rintro rfl
      rw [hn] at hm
      cases hm
      exact hphase hcompleted
    exact ⟨other, (hother m hne).trans hm, hcompleted⟩
  refine ⟨hunique, fun m row hrow => ?_, fun m other eventId hm hclaims heventId => ?_,
    fun row hrow => ?_, fun effect heffect => ?_, hsound.at_most_once,
    fun m other hm hcompleted => ?_⟩
  · obtain rfl | hne := eq_or_ne m n
    · obtain ⟨hclaims, eventId, heventId, heq⟩ := hown row hrow
      exact ⟨_, eventId, hself, hclaims, heventId, heq⟩
    · obtain ⟨other, eventId, hm, hrest⟩ := hsound.uncommitted m row ((hothers m hne row).mp hrow)
      exact ⟨other, eventId, (hother m hne).trans hm, hrest⟩
  · obtain rfl | hne := eq_or_ne m n
    · rw [hself] at hm
      cases hm
      exact hholds hclaims eventId heventId
    · rw [hother m hne] at hm
      exact (hothers m hne _).mpr (hsound.holds m other eventId hm hclaims heventId)
  · obtain ⟨hrun, heffect⟩ := hsound.committed row (hcommitted ▸ hrow)
    exact ⟨hkeeps _ hrun, heffect⟩
  · obtain ⟨hrun, hrow⟩ := hsound.effects effect heffect
    refine ⟨hkeeps _ hrun, ?_⟩
    dsimp only [Consumptions.setRun]
    rw [hcommitted]
    exact hrow
  · obtain rfl | hne := eq_or_ne m n
    · rw [hself] at hm
      cases hm
      exact absurd hcompleted hphase'
    · rw [hother m hne] at hm
      exact hsound.completed m other hm hcompleted

lemma Sound.own (hsound : state.Sound) (hn : state.runs n = some run) {row : OutboxConsumption}
    (hrow : (n, row) ∈ state.claims.uncommitted) : run.phase.holdsClaim = true ∧
      ∃ eventId, run.eventId = some eventId ∧ row = ⟨n, run.tenantId, run.consumer, eventId⟩ := by
  obtain ⟨run', eventId, hn', hclaims, heventId, heq⟩ := hsound.uncommitted n row hrow
  rw [hn] at hn'
  cases hn'
  exact ⟨hclaims, eventId, heventId, heq⟩

lemma Sound.setPhase (hsound : state.Sound) (hn : state.runs n = some run)
    (hphase : run.phase ≠ .completed) {phase : ConsumerPhase W} (hphase' : phase ≠ .completed)
    (hclaims : run.eventId.isSome = true → phase.holdsClaim = run.phase.holdsClaim) :
    (state.setRun n run phase).Sound := by
  refine hsound.setRun hn hphase hphase' hsound.unique rfl (fun _ _ _ => Iff.rfl)
    (fun row hrow => ?_) fun hholds eventId heventId => ?_
  · obtain ⟨hholds, eventId, heventId, heq⟩ := hsound.own hn hrow
    refine ⟨?_, eventId, heventId, heq⟩
    rw [hclaims (by simp [heventId]), hholds]
  · rw [hclaims (by simp [heventId])] at hholds
    exact hsound.holds n run eventId hn hholds heventId

lemma Sound.rollback (hsound : state.Sound) (hn : state.runs n = some run)
    (hphase : run.phase ≠ .completed) : (state.rollback n run).Sound := by
  refine hsound.setRun hn hphase (by simp) (hsound.unique.rollback n) rfl (fun m hne row => ?_)
    (fun row hrow => ?_) fun hholds => ?_
  · simp [hne]
  · exact absurd rfl (Table.mem_uncommitted_rollback.mp hrow).2
  · cases hholds

lemma Sound.claimEventConsumption (hsound : state.Sound) (hn : state.runs n = some run)
    (hphase : run.phase = .prepared) {eventId : Uuid} (heventId : run.eventId = some eventId)
    (tenantExists : Uuid → Bool) :
    (state.claimEventConsumption tenantExists n run eventId).Sound := by
  have hopen : run.phase ≠ .completed := by simp [hphase]
  have hnone : ∀ row, (n, row) ∉ state.claims.uncommitted := by
    intro row hrow
    have hholds := (hsound.own hn hrow).1
    rw [hphase] at hholds
    cases hholds
  unfold Consumptions.claimEventConsumption
  split
  · exact hsound.rollback hn hopen
  · split
    · exact hsound
    · split
      · exact hsound.setPhase hn hopen (by simp) fun _ => by rw [hphase]; rfl
      · exact hsound.rollback hn hopen
    · next hinserted =>
      split
      · refine hsound.setRun hn hopen (by simp) (hsound.unique.insert hinserted) rfl
          (fun m hne row => ?_) (fun row hrow => ?_) fun _ eventId' heventId' => ?_
        · simp [hne]
        · rcases Table.mem_uncommitted_insert.mp hrow with hold | ⟨-, rfl⟩
          · exact absurd hold (hnone row)
          · exact ⟨rfl, eventId, heventId, rfl⟩
        · rw [heventId] at heventId'
          cases heventId'
          exact Table.mem_uncommitted_insert.mpr (.inr ⟨rfl, rfl⟩)
      · exact hsound.rollback hn hopen

lemma effectCount_concat {effects : List (Effect W)} (effect : Effect W) (tenantId : Uuid)
    (consumer : String) (eventId : Uuid) :
    (effects ++ [effect]).countP (fun effect => effect.isOf tenantId consumer eventId) =
      effects.countP (fun effect => effect.isOf tenantId consumer eventId) +
        if effect.isOf tenantId consumer eventId then 1 else 0 := by
  rw [List.countP_append, List.countP_singleton]

lemma Sound.effectCount_eq_zero (hsound : state.Sound) (hn : state.runs n = some run)
    (hholds : run.phase.holdsClaim = true) {eventId : Uuid} (heventId : run.eventId = some eventId) :
    state.effectCount run.tenantId run.consumer eventId = 0 := by
  have hclaim := hsound.holds n run eventId hn hholds heventId
  refine List.countP_eq_zero.mpr fun effect heffect hisOf => ?_
  obtain ⟨htenant, hconsumer, hevent⟩ := of_decide_eq_true hisOf
  obtain ⟨row, hrow, hkey⟩ := (hsound.effects effect heffect).2 eventId hevent
  refine hsound.unique.key_ne hrow hclaim ?_
  rw [hkey, htenant, hconsumer]
  rfl

lemma Sound.commit (hsound : state.Sound) (hn : state.runs n = some run) {value : W}
    (hphase : run.phase = .performed value) : (state.commit n run value).Sound := by
  have hholds : run.phase.holdsClaim = true := by rw [hphase]; rfl
  have hself : (state.commit n run value).runs n = some { run with phase := .completed } :=
    Function.update_self ..
  have hother : ∀ m, m ≠ n → (state.commit n run value).runs m = state.runs m :=
    fun m hne => Function.update_of_ne hne ..
  have hkeeps : ∀ m, (∃ other, state.runs m = some other ∧ other.phase = .completed) →
      ∃ other, (state.commit n run value).runs m = some other ∧ other.phase = .completed := by
    rintro m ⟨other, hm, hcompleted⟩
    obtain rfl | hne := eq_or_ne m n
    · exact ⟨_, hself, rfl⟩
    · exact ⟨other, (hother m hne).trans hm, hcompleted⟩
  have heffects : (state.commit n run value).effects =
      state.effects ++ [run.toEffect n value] := rfl
  have hclaims : (state.commit n run value).claims = state.claims.commit n := rfl
  refine ⟨hsound.unique.commit n, fun m row hrow => ?_, fun m other eventId hm hclaim heventId => ?_,
    fun row hrow => ?_, fun effect heffect => ?_, fun tenantId consumer eventId => ?_,
    fun m other hm hcompleted => ?_⟩
  · rw [hclaims] at hrow
    obtain ⟨hold, hne⟩ := Table.mem_uncommitted_commit.mp hrow
    obtain ⟨other, eventId, hm, hrest⟩ := hsound.uncommitted m row hold
    exact ⟨other, eventId, (hother m hne).trans hm, hrest⟩
  · obtain rfl | hne := eq_or_ne m n
    · rw [hself] at hm
      cases hm
      cases hclaim
    · rw [hother m hne] at hm
      rw [hclaims]
      exact Table.mem_uncommitted_commit.mpr
        ⟨hsound.holds m other eventId hm hclaim heventId, hne⟩
  · rw [hclaims] at hrow
    rw [heffects]
    rcases Table.mem_committed_commit.mp hrow with hold | hnew
    · obtain ⟨hrun, effect, heffect, hisOf⟩ := hsound.committed row hold
      exact ⟨hkeeps _ hrun, effect, List.mem_append_left _ heffect, hisOf⟩
    · obtain ⟨-, eventId, heventId, rfl⟩ := hsound.own hn hnew
      refine ⟨⟨_, hself, rfl⟩, run.toEffect n value, List.mem_append_right _ List.mem_cons_self, ?_⟩
      exact decide_eq_true ⟨rfl, rfl, heventId⟩
  · rw [heffects] at heffect
    rw [hclaims]
    rcases List.mem_append.mp heffect with hold | hnew
    · obtain ⟨hrun, hrow⟩ := hsound.effects effect hold
      refine ⟨hkeeps _ hrun, fun eventId heventId => ?_⟩
      obtain ⟨row, hrow, hkey⟩ := hrow eventId heventId
      exact ⟨row, Table.mem_committed_commit.mpr (.inl hrow), hkey⟩
    · rw [List.mem_singleton.mp hnew]
      refine ⟨⟨_, hself, rfl⟩, fun eventId heventId => ?_⟩
      exact ⟨_, Table.mem_committed_commit.mpr
        (.inr (hsound.holds n run eventId hn hholds heventId)), rfl⟩
  · unfold effectCount
    rw [heffects, effectCount_concat]
    split
    · next hisOf =>
      obtain ⟨rfl, rfl, heventId⟩ := of_decide_eq_true hisOf
      have hzero := hsound.effectCount_eq_zero hn hholds heventId
      exact le_of_eq (congrArg (· + 1) hzero)
    · exact hsound.at_most_once tenantId consumer eventId
  · rw [heffects]
    obtain rfl | hne := eq_or_ne m n
    · rw [hself] at hm
      cases hm
      exact ⟨value, List.mem_append_right _ List.mem_cons_self⟩
    · rw [hother m hne] at hm
      obtain ⟨value', heffect⟩ := hsound.completed m other hm hcompleted
      exact ⟨value', List.mem_append_left _ heffect⟩

lemma Sound.advance (hsound : state.Sound) (hn : state.runs n = some run)
    (tenantExists : Uuid → Bool) (action : ConsumerAction V) :
    (state.advance tenantExists n run action run.phase).Sound := by
  unfold Consumptions.advance
  split
  · next view hphase =>
    have hopen : run.phase ≠ .completed := by simp [hphase]
    split
    · exact hsound.setPhase hn hopen (by simp) fun _ => by rw [hphase]; rfl
    · exact hsound.rollback hn hopen
    · exact hsound.rollback hn hopen
  · next hphase =>
    split
    · next hnone =>
      exact hsound.setPhase hn (by simp [hphase]) (by simp) fun hsome => by simp [hnone] at hsome
    · next eventId heventId => exact hsound.claimEventConsumption hn hphase heventId tenantExists
  · next view hphase =>
    have hopen : run.phase ≠ .completed := by simp [hphase]
    split
    · exact hsound.setPhase hn hopen (by simp) fun _ => by rw [hphase]; rfl
    · exact hsound.rollback hn hopen
  · next value hphase => exact hsound.commit hn hphase
  · next hphase => exact hsound.rollback hn (by simp [hphase])
  · next hphase => exact hsound.rollback hn (by simp [hphase])
  · next hphase => exact hsound.rollback hn (by simp [hphase])
  · next hphase => exact hsound.rollback hn (by simp [hphase])
  · exact hsound

lemma Sound.start (hsound : state.Sound) (hn : state.runs n = none) (hphase : run.phase = .began) :
    ({ state with runs := Function.update state.runs n (some run) } :
      Consumptions V W E).Sound := by
  have hne : ∀ m other, state.runs m = some other → m ≠ n := by
    rintro m other hm rfl
    rw [hn] at hm
    cases hm
  have hkeeps : ∀ m other, state.runs m = some other →
      Function.update state.runs n (some run) m = some other :=
    fun m other hm => (Function.update_of_ne (hne m other hm) ..).trans hm
  refine ⟨hsound.unique, fun m row hrow => ?_, fun m other eventId hm hclaim heventId => ?_,
    fun row hrow => ?_, fun effect heffect => ?_, hsound.at_most_once,
    fun m other hm hcompleted => ?_⟩
  · obtain ⟨other, eventId, hm, hrest⟩ := hsound.uncommitted m row hrow
    exact ⟨other, eventId, hkeeps m other hm, hrest⟩
  · obtain rfl | hne := eq_or_ne m n
    · simp only [Function.update_self, Option.some.injEq] at hm
      rw [← hm, hphase] at hclaim
      cases hclaim
    · simp only [Function.update_of_ne hne] at hm
      exact hsound.holds m other eventId hm hclaim heventId
  · obtain ⟨⟨other, hm, hcompleted⟩, heffect⟩ := hsound.committed row hrow
    exact ⟨⟨other, hkeeps _ other hm, hcompleted⟩, heffect⟩
  · obtain ⟨⟨other, hm, hcompleted⟩, hrow⟩ := hsound.effects effect heffect
    exact ⟨⟨other, hkeeps _ other hm, hcompleted⟩, hrow⟩
  · obtain rfl | hne := eq_or_ne m n
    · simp only [Function.update_self, Option.some.injEq] at hm
      rw [← hm, hphase] at hcompleted
      cases hcompleted
    · simp only [Function.update_of_ne hne] at hm
      exact hsound.completed m other hm hcompleted

lemma Sound.step (hsound : state.Sound) (tenantExists : Uuid → Bool) (step : ConsumerStep V W E) :
    (state.step tenantExists step).Sound := by
  cases step with
  | start n tenantId consumer eventId prepare effect =>
    dsimp only [Consumptions.step]
    split
    · exact hsound
    · next hn => exact hsound.start hn rfl
  | act n action =>
    dsimp only [Consumptions.step]
    split
    · exact hsound
    · next run hn => exact hsound.advance hn tenantExists action

lemma Initial.sound (h : state.Initial) : state.Sound := by
  obtain ⟨hclaims, heffects, hruns⟩ := h
  constructor <;> simp [hclaims, heffects, hruns, Table.Unique, Table.empty, UniqueOn, effectCount]

lemma Sound.consumable (hsound : state.Sound) {tenantExists : Uuid → Bool}
    (hn : state.runs n = some run) (hphase : run.phase = .prepared) {eventId : Uuid}
    (heventId : run.eventId = some eventId) (hconsumer : validateConsumer run.consumer = true)
    (htenant : tenantExists run.tenantId = true) {view : V} {value : W}
    (heffect : run.effect view = .ok value)
    (hcount : state.effectCount run.tenantId run.consumer eventId = 0)
    (hothers : ∀ m other, m ≠ n → state.runs m = some other → other.tenantId = run.tenantId →
      other.consumer = run.consumer → other.eventId = some eventId →
      other.phase.holdsClaim = false) :
    let state' := Run.run (Consumptions.step tenantExists) state
      [.act n .claim, .act n (.perform view), .act n .commit]
    state'.runs n = some { run with phase := .completed } ∧
      run.toEffect n value ∈ state'.effects := by
  have hinserted : state.claims.tryInsert OutboxConsumption.key n
      (run.tenantId, run.consumer, eventId) = .inserted := by
    refine Table.tryInsert_eq_inserted.mpr ⟨fun row hrow hkey => ?_, fun entry hentry hkey => ?_⟩
    · obtain ⟨-, effect, heffect, hisOf⟩ := hsound.committed row hrow
      simp only [OutboxConsumption.key, Prod.mk.injEq] at hkey
      rw [hkey.1, hkey.2.1, hkey.2.2] at hisOf
      exact List.countP_eq_zero.mp hcount effect heffect hisOf
    · obtain ⟨m, row⟩ := entry
      obtain ⟨other, eventId', hm, hclaim, heventId', rfl⟩ := hsound.uncommitted m row hentry
      simp only [OutboxConsumption.key, Prod.mk.injEq] at hkey
      have hne : m ≠ n := by
        rintro rfl
        rw [hn] at hm
        cases hm
        rw [hphase] at hclaim
        cases hclaim
      have hfree := hothers m other hne hm hkey.1 hkey.2.1 (heventId'.trans (by rw [hkey.2.2]))
      rw [hfree] at hclaim
      cases hclaim
  have hclaimed : state.step tenantExists (.act n .claim) =
      { state with
        claims := state.claims.insert n ⟨n, run.tenantId, run.consumer, eventId⟩ }.setRun n run
          .claimed := by
    simp [Consumptions.step, hn, hphase, Consumptions.advance, heventId,
      Consumptions.claimEventConsumption, hconsumer, hinserted, htenant]
  intro state'
  have hstate' : state' = Run.run (Consumptions.step tenantExists)
      (state.step tenantExists (.act n .claim)) [.act n (.perform view), .act n .commit] := rfl
  rw [hstate', hclaimed]
  simp [Consumptions.step, Consumptions.setRun, Consumptions.advance, heffect, Consumptions.commit,
    ConsumerRun.toEffect]

lemma Sound.effectivelyOnce (hsound : state.Sound) (tenantExists : Uuid → Bool) :
    state.EffectivelyOnce tenantExists where
  at_most_once := hsound.at_most_once
  exactly_once n run eventId hn hphase heventId := by
    obtain ⟨value, heffect⟩ := hsound.completed n run hn hphase
    have hisOf : (run.toEffect n value).isOf run.tenantId run.consumer eventId = true :=
      decide_eq_true ⟨rfl, rfl, heventId⟩
    have hpos : 0 < state.effectCount run.tenantId run.consumer eventId :=
      List.countP_pos_iff.mpr ⟨_, heffect, hisOf⟩
    have hle := hsound.at_most_once run.tenantId run.consumer eventId
    exact ⟨by omega, _, heffect, rfl, hisOf⟩
  rolled_back n run hn hphase := by
    have hnot : ¬ ∃ run', state.runs n = some run' ∧ run'.phase = .completed := by
      rintro ⟨run', hn', hcompleted⟩
      rw [hn] at hn'
      cases hn'
      rw [hphase] at hcompleted
      cases hcompleted
    refine ⟨?_, ?_, ?_⟩
    · rintro ⟨m, row⟩ hentry rfl
      have hholds := (hsound.own hn hentry).1
      rw [hphase] at hholds
      cases hholds
    · rintro row hrow rfl
      exact hnot (hsound.committed row hrow).1
    · rintro effect heffect rfl
      exact hnot (hsound.effects effect heffect).1
  consumable n run eventId view effect hn hphase heventId hconsumer htenant heffect hcount
      hothers :=
    hsound.consumable hn hphase heventId hconsumer htenant heffect hcount hothers

end Consumptions

/-! ## Usage events -/

inductive TenantLookup
  | isOpen
  | isClosed
  | notFound

/-- What a usage job reads of its tenant: first without a lock, and then with one, in the transaction
of the claim. -/
structure TenantView where
  required : TenantLookup
  locked : TenantLookup

def usageIngestionEventType : String := "usage.ingestion"

def prepareUsage (view : TenantView) : Preparation :=
  match view.required, view.locked with
  | .isClosed, _ => .drop
  | _, .isOpen => .proceed
  | _, .isClosed => .drop
  | _, .notFound => .raise

def ingestUsageEventJob (n : ℕ) (eventId : Option Uuid) (event : UsageEvent) :
    ConsumerStep TenantView UsageEvent Empty :=
  .start n event.tenantId usageIngestionEventType eventId prepareUsage fun _ => .ok event

/-- Where the step starts a run for the outbox event, it is the usage job with the payload of the
event. -/
def RunsUsageJob (eventId : Uuid) (event : UsageEvent)
    (step : ConsumerStep TenantView UsageEvent Empty) : Prop :=
  ∀ n prepare effect,
    step = .start n event.tenantId usageIngestionEventType (some eventId) prepare effect →
    step = ingestUsageEventJob n (some eventId) event

namespace Consumptions

/-- The rows that the outbox event has added to `core.usage_events`. -/
def usageOf {V E : Type} (state : Consumptions V UsageEvent E) (tenantId : Uuid) (eventId : Uuid) :
    List UsageEvent :=
  (state.effects.filter fun effect =>
    effect.isOf tenantId usageIngestionEventType eventId).map Effect.value

section Values

variable {V W E : Type} {state : Consumptions V W E} {n : ℕ} {run : ConsumerRun V W E}

lemma advance_cases (hn : state.runs n = some run) (tenantExists : Uuid → Bool)
    (action : ConsumerAction V) :
    (∃ phase, (state.advance tenantExists n run action run.phase).runs =
        Function.update state.runs n (some { run with phase := phase }) ∧
      ∀ value, phase = .performed value → run.phase = .performed value ∨
        ∃ view, run.effect view = .ok value) ∧
    ((state.advance tenantExists n run action run.phase).effects = state.effects ∨
      ∃ value, run.phase = .performed value ∧
        (state.advance tenantExists n run action run.phase).effects =
          state.effects ++ [run.toEffect n value]) := by
  have hsame : state.runs = Function.update state.runs n (some { run with phase := run.phase }) := by
    rw [← hn, Function.update_eq_self]
  unfold advance
  split
  · split
    · exact ⟨⟨_, rfl, by simp⟩, .inl rfl⟩
    · exact ⟨⟨_, rfl, by simp⟩, .inl rfl⟩
    · exact ⟨⟨_, rfl, by simp⟩, .inl rfl⟩
  · split
    · exact ⟨⟨_, rfl, by simp⟩, .inl rfl⟩
    · unfold claimEventConsumption
      split
      · exact ⟨⟨_, rfl, by simp⟩, .inl rfl⟩
      · split
        · exact ⟨⟨_, hsame, fun value h => .inl h⟩, .inl rfl⟩
        · split
          · exact ⟨⟨_, rfl, by simp⟩, .inl rfl⟩
          · exact ⟨⟨_, rfl, by simp⟩, .inl rfl⟩
        · split
          · exact ⟨⟨_, rfl, by simp⟩, .inl rfl⟩
          · exact ⟨⟨_, rfl, by simp⟩, .inl rfl⟩
  · next view hphase =>
    split
    · next value heffect =>
      refine ⟨⟨_, rfl, fun value' h => .inr ⟨view, ?_⟩⟩, .inl rfl⟩
      cases h
      exact heffect
    · exact ⟨⟨_, rfl, by simp⟩, .inl rfl⟩
  · next value hphase => exact ⟨⟨_, rfl, by simp⟩, .inr ⟨value, hphase, rfl⟩⟩
  · exact ⟨⟨_, rfl, by simp⟩, .inl rfl⟩
  · exact ⟨⟨_, rfl, by simp⟩, .inl rfl⟩
  · exact ⟨⟨_, rfl, by simp⟩, .inl rfl⟩
  · exact ⟨⟨_, rfl, by simp⟩, .inl rfl⟩
  · exact ⟨⟨_, hsame, fun value h => .inl h⟩, .inl rfl⟩

end Values

/-- The runs of the outbox event, and its effect, have the payload of the event. -/
structure Ingests (eventId : Uuid) (event : UsageEvent)
    (state : Consumptions TenantView UsageEvent Empty) : Prop where
  runs : ∀ n run, state.runs n = some run → run.tenantId = event.tenantId →
    run.consumer = usageIngestionEventType → run.eventId = some eventId →
    (∀ view, run.effect view = .ok event) ∧ ∀ value, run.phase = .performed value → value = event
  effects : ∀ effect ∈ state.effects,
    effect.isOf event.tenantId usageIngestionEventType eventId = true → effect.value = event

lemma Ingests.step {eventId : Uuid} {event : UsageEvent}
    {state : Consumptions TenantView UsageEvent Empty} (h : state.Ingests eventId event)
    (tenantExists : Uuid → Bool) {step : ConsumerStep TenantView UsageEvent Empty}
    (hjob : RunsUsageJob eventId event step) :
    (state.step tenantExists step).Ingests eventId event := by
  cases step with
  | start n tenantId consumer eventId' prepare effect =>
    dsimp only [Consumptions.step]
    split
    · exact h
    · refine ⟨fun m run hm htenant hconsumer heventId => ?_, h.effects⟩
      obtain rfl | hne := eq_or_ne m n
      · simp only [Function.update_self, Option.some.injEq] at hm
        subst hm
        dsimp only at htenant hconsumer heventId
        subst htenant hconsumer heventId
        have heq := hjob m prepare effect rfl
        cases heq
        exact ⟨fun _ => rfl, fun value hphase => by cases hphase⟩
      · simp only [Function.update_of_ne hne] at hm
        exact h.runs m run hm htenant hconsumer heventId
  | act n action =>
    dsimp only [Consumptions.step]
    split
    · exact h
    · next run hn =>
      obtain ⟨⟨phase, hruns, hperformed⟩, heffects⟩ := advance_cases hn tenantExists action
      refine ⟨fun m other hm htenant hconsumer heventId => ?_, fun effect heffect hisOf => ?_⟩
      · rw [hruns] at hm
        obtain rfl | hne := eq_or_ne m n
        · rw [Function.update_self] at hm
          cases hm
          obtain ⟨heffect, hvalue⟩ := h.runs m run hn htenant hconsumer heventId
          refine ⟨heffect, fun value hphase => ?_⟩
          rcases hperformed value hphase with hbefore | ⟨view, hreturned⟩
          · exact hvalue value hbefore
          · rw [heffect view] at hreturned
            cases hreturned
            rfl
        · rw [Function.update_of_ne hne] at hm
          exact h.runs m other hm htenant hconsumer heventId
      · rcases heffects with hsame | ⟨value, hphase, hmore⟩
        · rw [hsame] at heffect
          exact h.effects effect heffect hisOf
        · rw [hmore] at heffect
          rcases List.mem_append.mp heffect with hold | hnew
          · exact h.effects effect hold hisOf
          · rw [List.mem_singleton.mp hnew] at hisOf ⊢
            obtain ⟨htenant, hconsumer, heventId⟩ := of_decide_eq_true hisOf
            exact (h.runs n run hn htenant hconsumer heventId).2 value hphase

lemma Initial.ingests {state : Consumptions TenantView UsageEvent Empty} (h : state.Initial)
    (eventId : Uuid) (event : UsageEvent) : state.Ingests eventId event := by
  refine ⟨fun n run hn => ?_, fun effect heffect => ?_⟩
  · rw [h.runs n] at hn
    cases hn
  · rw [h.effects] at heffect
    cases heffect

lemma Ingests.usageOf {eventId : Uuid} {event : UsageEvent}
    {state : Consumptions TenantView UsageEvent Empty} (h : state.Ingests eventId event)
    (hsound : state.Sound) : state.usageOf event.tenantId eventId = [] ∨
      state.usageOf event.tenantId eventId = [event] := by
  have hcount := hsound.at_most_once event.tenantId usageIngestionEventType eventId
  unfold effectCount at hcount
  rw [List.countP_eq_length_filter] at hcount
  have hvalue : ∀ effect ∈ state.effects.filter (fun effect =>
      effect.isOf event.tenantId usageIngestionEventType eventId), effect.value = event := by
    intro effect heffect
    obtain ⟨hmem, hisOf⟩ := List.mem_filter.mp heffect
    exact h.effects effect hmem hisOf
  unfold Consumptions.usageOf
  generalize state.effects.filter (fun effect =>
    effect.isOf event.tenantId usageIngestionEventType eventId) = rows at hcount hvalue
  match rows with
  | [] => exact .inl rfl
  | [effect] =>
    rw [List.map_singleton, hvalue effect List.mem_cons_self]
    exact .inr rfl
  | _ :: _ :: _ => simp at hcount

lemma Initial.always_sound {V W E : Type} {state : Consumptions V W E} (h : state.Initial)
    (tenantExists : Uuid → Bool) (steps : List (ConsumerStep V W E)) :
    Run.Always (step tenantExists) Sound state steps := by
  have halong : Run.Along (step tenantExists) (fun _ _ => True) state steps :=
    Run.along_of_forall fun _ _ => trivial
  exact Run.always_of_along (fun state event hsound _ => hsound.step tenantExists event) h.sound
    halong

/-- **Effectively once.**  In every run of consumers, from no claims on, every event has its effect
at most once, and exactly once as soon as a run has claimed it and committed; runs that were rolled
back leave nothing behind, and the event can still be consumed.  An outbox event of usage adds its
row to `core.usage_events` at most once. -/
theorem run_effectivelyOnce (tenantExists : Uuid → Bool) :
    (∀ (V W E : Type) (state : Consumptions V W E) (steps : List (ConsumerStep V W E)),
      state.Initial →
        Run.Always (step tenantExists) (EffectivelyOnce tenantExists) state steps) ∧
    ∀ (state : Consumptions TenantView UsageEvent Empty)
      (steps : List (ConsumerStep TenantView UsageEvent Empty)) (eventId : Uuid)
      (event : UsageEvent), state.Initial → (∀ step ∈ steps, RunsUsageJob eventId event step) →
        Run.Always (step tenantExists) (fun state =>
          state.usageOf event.tenantId eventId = [] ∨
            state.usageOf event.tenantId eventId = [event]) state steps := by
  constructor
  · intro V W E state steps hinitial before after hsteps
    have hsound := hinitial.always_sound tenantExists steps before after hsteps
    exact hsound.effectivelyOnce tenantExists
  · intro state steps eventId event hinitial hjobs before after hsteps
    have halong : Run.Along (step tenantExists) (fun _ => RunsUsageJob eventId event) state steps :=
      Run.along_of_forall hjobs
    have hingests := Run.always_of_along
      (fun state _ (h : state.Ingests eventId event) hjob => h.step tenantExists hjob)
      (hinitial.ingests eventId event) halong before after hsteps
    exact hingests.usageOf (hinitial.always_sound tenantExists steps before after hsteps)

end Consumptions

def apiCall : UsageEvent := ⟨1, "api_calls", ⟨3, 0⟩, 0⟩

def noConsumptions : Consumptions TenantView UsageEvent Empty :=
  ⟨.empty, [], fun _ => none⟩

/-- A first worker crashes after its claim; two more run at the same time, and one of them waits. -/
def deliveredThrice : List (ConsumerStep TenantView UsageEvent Empty) :=
  [ingestUsageEventJob 1 (some 5) apiCall, ingestUsageEventJob 2 (some 5) apiCall,
    ingestUsageEventJob 3 (some 5) apiCall, .act 1 (.prepare ⟨.isOpen, .isOpen⟩), .act 1 .claim,
    .act 1 .fail, .act 2 (.prepare ⟨.isOpen, .isOpen⟩), .act 3 (.prepare ⟨.isOpen, .isOpen⟩),
    .act 3 .claim, .act 2 .claim, .act 3 (.perform ⟨.isOpen, .isOpen⟩), .act 3 .commit,
    .act 2 .claim]

/-- The third run records the usage, and the second one skips it. -/
theorem run_effectivelyOnce_deliveredThrice :
    (Run.run (Consumptions.step fun _ => true) noConsumptions deliveredThrice).usageOf 1 5 =
        [apiCall] ∧
      Run.Always (Consumptions.step fun _ => true)
        (Consumptions.EffectivelyOnce fun _ => true) noConsumptions deliveredThrice ∧
      Run.Always (Consumptions.step fun _ => true) (fun state =>
        state.usageOf 1 5 = [] ∨ state.usageOf 1 5 = [apiCall]) noConsumptions
        deliveredThrice := by
  have hinitial : noConsumptions.Initial := ⟨rfl, rfl, fun _ => rfl⟩
  refine ⟨by decide +kernel, (Consumptions.run_effectivelyOnce fun _ => true).1 _ _ _ _ _ hinitial,
    (Consumptions.run_effectivelyOnce fun _ => true).2 _ _ 5 apiCall hinitial ?_⟩
  intro step hstep
  simp only [deliveredThrice, List.mem_cons, List.not_mem_nil, or_false] at hstep
  rintro n prepare effect rfl
  rcases hstep with h | h | h | h | h | h | h | h | h | h | h | h | h
  all_goals cases h
  all_goals rfl

end SaasOs
