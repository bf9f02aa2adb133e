import SaasOs.Tenancy.PurgeRuns

/-!
# Retrying a purge

A call that goes on alone, with no lock in its way and nothing outside the tenant that names one of
its rows, is refused no step.  Its first pass clears every table, the second one finds nothing to
delete, and after the participants and the cleanup of the dead letters it writes the tombstone.  So
a purge that has failed after its first transaction can be retried.
-/

namespace SaasOs

namespace PurgeSystem

variable {s s' s'' : PurgeSystem} {m : ℕ} {call : PurgeCall} {phase phase' : PurgePhase}

/-! ## A call that goes on alone -/

def Advances (m : ℕ) (s s' : PurgeSystem) : Prop :=
  ∃ k, Run.run step s (List.replicate k (.advance m)) = s'

lemma Advances.refl (s : PurgeSystem) : Advances m s s :=
  ⟨0, rfl⟩

lemma Advances.trans (h : Advances m s s') (h' : Advances m s' s'') : Advances m s s'' := by
  obtain ⟨k, rfl⟩ := h
  obtain ⟨l, rfl⟩ := h'
  refine ⟨k + l, ?_⟩
  rw [List.replicate_add, Run.run_append]

lemma Advances.of_advance (hcall : s.call m = some call) (h : s.advance m call call.phase = some s') :
    Advances m s s' := by
  refine ⟨1, ?_⟩
  change s.step (.advance m) = s'
  dsimp only [PurgeSystem.step]
  rw [hcall]
  dsimp only
  rw [h, Option.getD_some]

/-- The call is in a phase, nobody else holds a lock, and nothing outside the tenant names one of its
rows. -/
structure Ready (m : ℕ) (call : PurgeCall) (phase : PurgePhase) (s : PurgeSystem) : Prop where
  current : s.call m = some { call with phase := phase }
  sound : s.Sound
  schema : SchemaSound s.audit s.rows
  unpinned : Unpinned s.audit s.tenant.id s.rows
  locks : ∀ lock ∈ s.locks.held, lock.holder = m

lemma Ready.rows (h : Ready m call phase s) : s.RowsSound phase :=
  h.sound.rows m _ h.current

lemma Ready.advance (h : Ready m call phase s)
    (hadvance : s.advance m { call with phase := phase } phase = some s')
    (hcall : s'.call m = some { call with phase := phase' }) :
    Ready m call phase' s' ∧ Advances m s s' := by
  have heffect := effect_advance hadvance
  refine ⟨⟨hcall, h.sound.advance h.current hadvance, ?_, ?_, fun lock hlock => ?_⟩,
    .of_advance h.current hadvance⟩
  · rw [heffect.audit]
    exact heffect.shrunk.schemaSound h.schema
  · rw [heffect.audit, heffect.later.tenant]
    exact heffect.shrunk.unpinned h.unpinned
  · exact (heffect.locks lock hlock).elim (h.locks lock) id

/-! ## One pass -/

def KeepKnown (s : PurgeSystem) (pass : PurgePass) : Prop :=
  .authorization ∈ pass.done.map StepCount.step →
    KeepComplete s.audit s.tenant.id s.rows pass.keep

section

variable {step : PurgeStep}

lemma authorization_mem_of_serviceAccounts {done todo : List PurgeStep}
    (hsteps : done ++ step :: todo = purgeSteps) (hstep : .serviceAccounts ∈ step.tables) :
    .authorization ∈ done := by
  obtain rfl : step = .serviceAccounts := by
    cases step <;> first | rfl | exact absurd hstep (by decide)
  exact mem_of_idxOf_lt (by decide) hsteps.symm (by decide)

variable {pass : PurgePass} {todo : List PurgeStep}

lemma Ready.exists_select (h : Ready m call (.passing pass (step :: todo)) s) :
    ∃ locks : LockTable RowRef ℕ,
      let s' := { s with locks := locks }.setPhase m call
        (.deleting pass step (selectRows s.tenant.id s.rows step.tables) todo)
      Ready m call (.deleting pass step (selectRows s.tenant.id s.rows step.tables) todo) s' ∧
        Advances m s s' := by
  obtain ⟨locks, hlocks⟩ := LockTable.exists_acquire h.locks .exclusive
    ((selectRows s.tenant.id s.rows step.tables).map OwnedRow.ref)
  refine ⟨locks, h.advance ?_ (Function.update_self m _ _)⟩
  change s.select m { call with phase := _ } pass step todo = _
  unfold PurgeSystem.select
  rw [if_pos h.rows.1.isPurging]
  dsimp only
  rw [hlocks]
  rfl

lemma Ready.exists_delete {selected : List OwnedRow}
    (h : Ready m call (.deleting pass step selected todo) s)
    (hselected : selected = selectRows s.tenant.id s.rows step.tables)
    (hkeep : s.KeepKnown pass) :
    ∃ rows, purgeTables s.audit s.tenant.id pass.keep selected step.tables s.rows = some rows := by
  subst hselected
  obtain ⟨-, hsteps, hsound, hdone, hcovers, -⟩ := h.rows
  have horder : purgedOrder = (pass.done.map StepCount.step).flatMap PurgeStep.tables ++
      step.tables ++ todo.flatMap PurgeStep.tables := by
    unfold purgedOrder
    rw [← hsteps, List.flatMap_append, List.flatMap_cons, List.append_assoc]
  refine exists_purgeTables h.schema h.unpinned (fun row hrow => ?_) horder (.refl s.rows)
    (fun table htable => ?_) hcovers hsound fun hstep => ?_
  · exact ⟨(mem_selectRows.mp hrow).1, (mem_selectRows.mp hrow).2.1⟩
  · obtain ⟨step, hstep, hmem⟩ := List.mem_flatMap.mp htable
    obtain ⟨count, hcount, rfl⟩ := List.mem_map.mp hstep
    exact hdone count hcount table hmem
  · exact hkeep (authorization_mem_of_serviceAccounts hsteps hstep)

lemma keepComplete_keepAfter {count : StepCount} (hcount : count.step = step)
    (hkeep : s.KeepKnown pass) (hmem : .authorization ∈ (pass.done ++ [count]).map StepCount.step) :
    KeepComplete s.audit s.tenant.id s.rows
      (s.keepAfter pass (selectRows s.tenant.id s.rows step.tables) step) := by
  by_cases hstep : step = .authorization
  · subst hstep
    refine keepComplete_retainedDelegates fun row hrow howner htable => ?_
    exact mem_selectRows.mpr ⟨hrow, howner, htable ▸ by decide⟩
  · have hsame : s.keepAfter pass (selectRows s.tenant.id s.rows step.tables) step = pass.keep := by
      cases step <;> first | rfl | exact absurd rfl hstep
    rw [map_step_append, hcount] at hmem
    rw [hsame]
    refine hkeep ((List.mem_append.mp hmem).resolve_right fun hlast => ?_)
    exact hstep (List.mem_singleton.mp hlast).symm

lemma Ready.exists_step (h : Ready m call (.passing pass (step :: todo)) s)
    (hkeep : s.KeepKnown pass) :
    ∃ s' deleted keep, Ready m call
        (.passing ⟨pass.attempt, pass.done ++ [⟨step, deleted⟩], keep⟩ todo) s' ∧
      Advances m s s' ∧ s.Later s' ∧ (s.AllCleared → deleted = 0) ∧
      s'.KeepKnown ⟨pass.attempt, pass.done ++ [⟨step, deleted⟩], keep⟩ := by
  obtain ⟨locks, hselected, hselects⟩ := h.exists_select
  obtain ⟨rows, hrows⟩ := hselected.exists_delete rfl hkeep
  have hsteps := h.rows.2.1
  have hshrunk := purgeTables_shrunk hrows
  let selected := selectRows s.tenant.id s.rows step.tables
  let count : StepCount := ⟨step, deletedCount s.audit s.tenant.id pass.keep selected step.tables⟩
  let s' := ({ s with locks := locks }.setPhase m call (.deleting pass step selected todo)).delete m
    { call with phase := .deleting pass step selected todo } pass step selected todo
  have hdeleted : s' = (({ s with locks := locks, rows := rows }.setPhase m call
      (.deleting pass step selected todo)).unlocked m |>.logged m (.step count)).setPhase m
      { call with phase := .deleting pass step selected todo }
      (.passing ⟨pass.attempt, pass.done ++ [count], s.keepAfter pass selected step⟩ todo) := by
    change PurgeSystem.delete _ _ _ _ _ _ _ = _
    unfold PurgeSystem.delete
    rw [hrows]
    rfl
  have hcall : s'.call m = some { call with
      phase := .passing ⟨pass.attempt, pass.done ++ [count], s.keepAfter pass selected step⟩ todo } := by
    rw [hdeleted]
    exact Function.update_self m _ _
  obtain ⟨hready, hdeletes⟩ := hselected.advance rfl hcall
  refine ⟨s', count.deleted, _, hready, hselects.trans hdeletes, ?_, fun hcleared => ?_, fun hmem => ?_⟩
  · rw [hdeleted]
    exact ⟨rfl, rfl, id, fun hpurged => ⟨hpurged, rfl⟩, hshrunk.toOwnShrunk, hshrunk.schemaSound⟩
  · refine deletedCount_eq_zero (fun table _ => hcleared table) (fun row hrow => ?_) fun hstep => ?_
    · exact ⟨(mem_selectRows.mp hrow).1, (mem_selectRows.mp hrow).2.1⟩
    · exact hkeep (authorization_mem_of_serviceAccounts hsteps hstep)
  · rw [hdeleted]
    exact hshrunk.keepComplete (keepComplete_keepAfter rfl hkeep hmem)

lemma Ready.exists_pass (h : Ready m call (.passing pass todo) s) (hkeep : s.KeepKnown pass) :
    ∃ s' pass', Ready m call (.passing pass' []) s' ∧ Advances m s s' ∧
      pass'.attempt = pass.attempt ∧
      (s.AllCleared →
        (pass'.done.map StepCount.deleted).sum = (pass.done.map StepCount.deleted).sum) := by
  induction todo generalizing s pass with
  | nil => exact ⟨s, pass, h, .refl s, rfl, fun _ => rfl⟩
  | cons step todo ih =>
    obtain ⟨next, deleted, keep, hready, hstep, hlater, hdeleted, hknown⟩ := h.exists_step hkeep
    obtain ⟨s', pass', hready', hsteps, hattempt, hsum⟩ := ih hready hknown
    refine ⟨s', pass', hready', hstep.trans hsteps, hattempt, fun hcleared => ?_⟩
    rw [hsum (hlater.allCleared hcleared), List.map_append, List.sum_append, hdeleted hcleared]
    rfl

end

/-! ## From the first pass to the tombstone -/

lemma Ready.exists_participating {pass : PurgePass} (h : Ready m call (.passing pass []) s)
    (hsum : (pass.done.map StepCount.deleted).sum = 0) :
    ∃ s', Ready m call (.participating call.participants) s' ∧ Advances m s s' := by
  refine ⟨s.setPhase m { call with phase := .passing pass [] } (.participating call.participants),
    h.advance ?_ (Function.update_self m _ _)⟩
  change some (s.endPass m _ pass) = _
  unfold PurgeSystem.endPass
  rw [if_pos hsum]

lemma Ready.exists_converged (h : Ready m call (.passing ⟨1, [], []⟩ purgeSteps) s) :
    ∃ s', Ready m call (.participating call.participants) s' ∧ Advances m s s' := by
  obtain ⟨s₁, pass₁, hready₁, hpass₁, hattempt, -⟩ :=
    h.exists_pass fun hmem => absurd hmem List.not_mem_nil
  by_cases hsum : (pass₁.done.map StepCount.deleted).sum = 0
  · obtain ⟨s', hready, hend⟩ := hready₁.exists_participating hsum
    exact ⟨s', hready, hpass₁.trans hend⟩
  · -- the first pass has cleared every table, and the second one finds nothing
    obtain ⟨-, hsteps, -, hdone⟩ := hready₁.rows
    rw [List.append_nil] at hsteps
    have hcleared : s₁.AllCleared := allCleared_of_pass hsteps hdone
    let s₂ := s₁.setPhase m { call with phase := .passing pass₁ [] } (.passing ⟨2, [], []⟩ purgeSteps)
    have hend : s₁.advance m { call with phase := .passing pass₁ [] } (.passing pass₁ []) = some s₂ := by
      change some (s₁.endPass m _ pass₁) = some s₂
      unfold PurgeSystem.endPass
      rw [if_neg hsum, hattempt]
      rfl
    obtain ⟨hready₂, hagain⟩ := hready₁.advance hend (Function.update_self m _ _)
    obtain ⟨s₃, pass₃, hready₃, hpass₃, -, hnothing⟩ :=
      hready₂.exists_pass fun hmem => absurd hmem List.not_mem_nil
    obtain ⟨s', hready, hlast⟩ := hready₃.exists_participating (hnothing hcleared)
    exact ⟨s', hready, hpass₁.trans (hagain.trans (hpass₃.trans hlast))⟩

lemma Ready.exists_cleaning {todo : List String} (h : Ready m call (.participating todo) s) :
    ∃ s', Ready m call .cleaning s' ∧ Advances m s s' := by
  induction todo generalizing s with
  | nil => exact ⟨_, h.advance rfl (Function.update_self m _ _)⟩
  | cons name todo ih =>
    obtain ⟨hready, hran⟩ := h.advance rfl (Function.update_self m _ _)
    obtain ⟨s', hready', hrest⟩ := ih hready
    exact ⟨s', hready', hran.trans hrest⟩

lemma Ready.exists_purged (h : Ready m call .finishing s) (hmay : mayPurge call.caller = true) :
    ∃ s', Advances m s s' ∧ s'.tenant.status = .purged := by
  refine ⟨_, .of_advance h.current rfl, ?_⟩
  unfold PurgeSystem.finish
  rw [if_neg (by simp [hmay])]
  split
  · next hpurged => exact hpurged
  · next hnotPurged =>
    have hpurging : s.tenant.status = .purging := h.rows.1.1.resolve_right hnotPurged
    rw [if_pos (by rw [hpurging]; decide)]
    rfl

lemma Ready.exists_tombstone (h : Ready m call .begun s) (hmay : mayPurge call.caller = true)
    (hpast : s.Past) : ∃ s', Advances m s s' ∧ s'.tenant.status = .purged := by
  by_cases hpurged : s.tenant.status = .purged
  · exact ⟨s, .refl s, hpurged⟩
  have hpurging : s.tenant.status = .purging := hpast.1.resolve_right hpurged
  have henter : s.advance m { call with phase := .begun } .begun =
      some (s.setPhase m { call with phase := .begun } .entered) := by
    change some (s.enter m _) = _
    unfold PurgeSystem.enter
    rw [if_neg (by simp [hmay]), if_neg hpurged, if_neg (not_not.mpr hpast.2), if_pos hpurging]
  obtain ⟨hentered, henters⟩ := h.advance henter (Function.update_self m _ _)
  obtain ⟨hstarted, hstarts⟩ := hentered.advance rfl (Function.update_self m _ _)
  obtain ⟨hpassing, hrevokes⟩ := hstarted.advance (if_pos hstarted.rows.isPurging)
    (Function.update_self m _ _)
  obtain ⟨_, hconverged, hpasses⟩ := hpassing.exists_converged
  obtain ⟨_, hcleaning, hparticipates⟩ := hconverged.exists_cleaning
  obtain ⟨hfinishing, hcleans⟩ := hcleaning.advance rfl (Function.update_self m _ _)
  obtain ⟨s', hfinishes, hdone⟩ := hfinishing.exists_purged hmay
  exact ⟨s', henters.trans (hstarts.trans (hrevokes.trans (hpasses.trans
    (hparticipates.trans (hcleans.trans hfinishes))))), hdone⟩

/-! ## The retry -/

lemma crashed_frame (s : PurgeSystem) (m n : ℕ) :
    (s.crashed n).tenant = s.tenant ∧ (s.crashed n).liveChildren = s.liveChildren ∧
      (s.crashed n).audit = s.audit ∧ (s.crashed n).rows = s.rows ∧
      (s.call m = none → (s.crashed n).call m = none) ∧
      (s.crashed n).locks = s.locks.release n := by
  cases hn : s.call n with
  | none =>
    have hcrashed : s.crashed n = s.unlocked n := by
      unfold PurgeSystem.crashed
      rw [hn]
    rw [hcrashed]
    exact ⟨rfl, rfl, rfl, rfl, id, rfl⟩
  | some call =>
    have hne : s.call m = none → m ≠ n := by
      rintro hm rfl
      rw [hn] at hm
      cases hm
    have hother : ∀ phase, s.call m = none → ((s.unlocked n).setPhase n call phase).call m = none :=
      fun phase hm => (Function.update_of_ne (hne hm) _ _).trans hm
    unfold PurgeSystem.crashed
    rw [hn]
    dsimp only
    split
    · exact ⟨rfl, rfl, rfl, rfl, hother _, rfl⟩
    · exact ⟨rfl, rfl, rfl, rfl, id, rfl⟩
    · exact ⟨rfl, rfl, rfl, rfl, id, rfl⟩
    · exact ⟨rfl, rfl, rfl, rfl, id, rfl⟩
    · exact ⟨rfl, rfl, rfl, rfl, hother _, rfl⟩

lemma run_crash (s : PurgeSystem) (m : ℕ) (ended : List ℕ) :
    let s' := Run.run step s (ended.map .crash)
    s'.tenant = s.tenant ∧ s'.liveChildren = s.liveChildren ∧ s'.audit = s.audit ∧
      s'.rows = s.rows ∧ (s.call m = none → s'.call m = none) ∧
      ∀ lock ∈ s'.locks.held, lock ∈ s.locks.held ∧ lock.holder ∉ ended := by
  induction ended generalizing s with
  | nil => exact ⟨rfl, rfl, rfl, rfl, id, fun _ hlock => ⟨hlock, List.not_mem_nil⟩⟩
  | cons n ended ih =>
    obtain ⟨htenant, hchildren, haudit, hrows, hcall, hlocks⟩ := ih (s.crashed n)
    obtain ⟨htenant', hchildren', haudit', hrows', hcall', hlocks'⟩ := crashed_frame s m n
    refine ⟨htenant.trans htenant', hchildren.trans hchildren', haudit.trans haudit',
      hrows.trans hrows', fun hm => hcall (hcall' hm), fun lock hlock => ?_⟩
    obtain ⟨hheld, hnot⟩ := hlocks lock hlock
    rw [hlocks'] at hheld
    obtain ⟨hold, hne⟩ := List.mem_filter.mp hheld
    refine ⟨hold, fun hmem => ?_⟩
    rcases List.mem_cons.mp hmem with hn | hrest
    · exact of_decide_eq_true hne hn
    · exact hnot hrest

lemma exists_retry (hsound : s.Sound) (hschema : SchemaSound s.audit s.rows)
    (hunpinned : Unpinned s.audit s.tenant.id s.rows) (hpast : s.Past) (hm : s.call m = none)
    {caller : Caller} (hmay : mayPurge caller = true) (participants : List String) :
    ∃ (ended : List ℕ) (k : ℕ), (Run.run step s (ended.map .crash ++
      .begin m caller participants :: List.replicate k (.advance m))).tenant.status = .purged := by
  let ended := s.locks.held.map HeldLock.holder
  let s₁ := Run.run step s (ended.map .crash)
  let s₂ := s₁.setPhase m ⟨caller, participants, .begun⟩ .begun
  obtain ⟨htenant, hchildren, haudit, hrows, hcall, hlocks⟩ := run_crash s m ended
  have hsound₁ : s₁.Sound := hsound.run _
  have hbegin : s₁.step (.begin m caller participants) = s₂ := by
    dsimp only [PurgeSystem.step]
    rw [hcall hm]
  have hready : Ready m ⟨caller, participants, .begun⟩ .begun s₂ := by
    refine ⟨Function.update_self m _ _, hbegin ▸ hsound₁.step _, ?_, ?_, fun lock hlock => ?_⟩
    · change SchemaSound s₁.audit s₁.rows
      rw [haudit, hrows]
      exact hschema
    · change Unpinned s₁.audit s₁.tenant.id s₁.rows
      rw [haudit, hrows, htenant]
      exact hunpinned
    · obtain ⟨hold, hnot⟩ := hlocks lock hlock
      exact absurd (List.mem_map_of_mem hold) hnot
  have hpast₂ : s₂.Past := (later_run s (ended.map .crash)).past hpast
  obtain ⟨s', ⟨k, rfl⟩, hpurged⟩ := hready.exists_tombstone hmay hpast₂
  refine ⟨ended, k, ?_⟩
  rw [Run.run_append, Run.run_cons]
  change (Run.run step (s₁.step _) _).tenant.status = _
  rw [hbegin]
  exact hpurged

/-! ## A pinned account -/

variable {event : PurgeStepEvent}

lemma rows_step (hevent : ∀ rows, event ≠ .others rows) :
    (s.step event).rows = s.rows ∨ ∃ keep selected tables,
      purgeTables s.audit s.tenant.id keep selected tables s.rows = some (s.step event).rows := by
  cases event with
  | begin n caller participants =>
    dsimp only [PurgeSystem.step]
    split <;> exact .inl rfl
  | advance n =>
    dsimp only [PurgeSystem.step]
    split
    · exact .inl rfl
    · next call _ =>
      cases hadvance : s.advance n call call.phase with
      | none => exact .inl rfl
      | some s' => exact (effect_advance hadvance).rows
  | raise n =>
    dsimp only [PurgeSystem.step]
    split
    · exact .inl rfl
    · next call _ =>
      cases call.phase <;> exact .inl rfl
  | crash n => exact .inl (crashed_frame s n n).2.2.2.1
  | childPurged id => exact .inl rfl
  | others rows => exact absurd rfl (hevent rows)
  | deadLetter tenantId => exact .inl rfl

lemma not_purged_of_pinned {account grant : OwnedRow} (hsound : s.Sound)
    (hpinned : Pinned s.audit s.tenant.id account grant s.rows) (events : List PurgeStepEvent)
    (hevents : ∀ event ∈ events, ∀ rows, event ≠ .others rows) :
    (Run.run step s events).tenant.status ≠ .purged := by
  induction events generalizing s with
  | nil => exact fun hpurged => hpinned.not_isCleared ((hsound.purged hpurged).1 .serviceAccounts)
  | cons event events ih =>
    refine ih (hsound.step event) ?_ fun other hother => hevents other (List.mem_cons_of_mem _ hother)
    have hlater := later_step s event
    rw [hlater.audit, hlater.tenant]
    rcases rows_step (s := s) (hevents event List.mem_cons_self) with hsame | ⟨_, _, _, hpurged⟩
    · rw [hsame]
      exact hpinned
    · exact hpinned.purgeTables hpurged

/-! ## Every run -/

lemma refused_step {n : ℕ} {call call' : PurgeCall} (hn : s.call n = some call)
    (hbegun : call.phase = .begun)
    (hevent : event = .advance n ∨ event = .raise n ∨ event = .crash n)
    (hn' : (s.step event).call n = some call') (hrefused : call'.phase = .refused) :
    (s.step event).tenant = s.tenant ∧ (s.step event).rows = s.rows := by
  rcases hevent with rfl | rfl | rfl
  · have hstep : s.step (.advance n) = s.enter n call := by
      dsimp only [PurgeSystem.step]
      rw [hn]
      dsimp only
      rw [hbegun]
      rfl
    rw [hstep] at hn' ⊢
    revert hn'
    unfold PurgeSystem.enter
    split
    · exact fun _ => ⟨rfl, rfl⟩
    · split
      · exact fun _ => ⟨rfl, rfl⟩
      · split
        · exact fun _ => ⟨rfl, rfl⟩
        · split
          · exact fun _ => ⟨rfl, rfl⟩
          · split
            · -- the call has entered the purge phase
              intro hn'
              obtain ⟨-, rfl⟩ | ⟨hne, -⟩ := Run.update_some_cases hn'
              · cases hrefused
              · exact absurd rfl hne
            · exact fun _ => ⟨rfl, rfl⟩
  · have hstep : s.step (.raise n) = s.setPhase n call .refused := by
      dsimp only [PurgeSystem.step]
      rw [hn]
      dsimp only
      rw [hbegun]
      rfl
    rw [hstep]
    exact ⟨rfl, rfl⟩
  · exact ⟨(crashed_frame s n n).1, (crashed_frame s n n).2.2.2.1⟩

/-- In every state of every run of purges of one tenant: when the tenant is purged, exactly one call
has written the tombstone, and it has completed a pass that deleted nothing, then the participants
of its process, then the cleanup of the dead letters, without error; nothing of the tenant is left in
the purged tables but revoked grants that its audit trail names, and disabled accounts that its audit
trail or such a grant names; and the completion is recorded at most once. -/
theorem run_purged (hinitial : s.Initial) (events : List PurgeStepEvent) :
    Run.Always step (fun s =>
      (s.tenant.status = .purged →
        (∃! n, .tombstone ∈ s.log n) ∧ s.tenant.name = tombstoneName s.tenant.id ∧
        ∀ row ∈ s.rows, row.tenantId = s.tenant.id → IsRetained s.audit s.tenant.id s.rows row) ∧
      (∀ n, .tombstone ∈ s.log n →
        ∃ call, s.call n = some call ∧ WroteTombstone call.participants (s.log n)) ∧
      s.completions ≤ 1 ∧
      (∀ n call, s.call n = some call → call.phase = .begun →
        ∀ event, event = .advance n ∨ event = .raise n ∨ event = .crash n →
          ∀ call', (s.step event).call n = some call' → call'.phase = .refused →
            (s.step event).tenant = s.tenant ∧ (s.step event).rows = s.rows) ∧
      ∀ n call, s.call n = some call → call.phase = .failed →
        (s.tenant.status = .purging ∨ s.tenant.status = .purged) ∧
        (Unpinned s.audit s.tenant.id s.rows → ∀ m, s.call m = none →
          ∀ caller, mayPurge caller = true → ∀ participants,
            ∃ (ended : List ℕ) (k : ℕ), (Run.run step s (ended.map .crash ++
              .begin m caller participants :: List.replicate k (.advance m))).tenant.status =
                .purged)) s events ∧
    ∀ before middle after, events = before ++ middle ++ after →
      ∀ row' ∈ (Run.run step s (before ++ middle)).rows, row'.tenantId = s.tenant.id →
        ∃ row ∈ (Run.run step s before).rows, row' = row ∨ row' = row.retire := by
  refine ⟨?_, ?_⟩
  · rintro before after -
    have hsound := hinitial.sound.run before
    have hlater := later_run s before
    have hschema := hlater.schema hinitial.schema
    rw [← hlater.audit] at hschema
    generalize Run.run step s before = s' at hsound hlater hschema
    refine ⟨fun hpurged => ?_, hsound.wrote, hsound.completions_le,
      fun n call hn hbegun event hevent call' hn' => refused_step hn hbegun hevent hn',
      fun n call hn hphase => ?_⟩
    · obtain ⟨hcleared, hname, n, call, -, hwrote⟩ := hsound.purged hpurged
      refine ⟨⟨n, hwrote.mem, fun m hm => hsound.unique m n hm hwrote.mem⟩, hname, ?_⟩
      exact fun row hrow howner => hcleared row.table row hrow howner rfl
    · have hpast : s'.Past := by
        have hrows := hsound.rows n call hn
        rw [hphase] at hrows
        exact hrows
      exact ⟨hpast.1, fun hunpinned m hm caller hmay participants =>
        exists_retry hsound hschema hunpinned hpast hm hmay participants⟩
  · rintro before middle after - row' hrow' howner
    rw [Run.run_append] at hrow'
    have hlater := later_run (Run.run step s before) middle
    refine hlater.rows.of_mem row' hrow' (howner.trans ?_)
    exact (later_run s before).tenant.symm

end PurgeSystem

/-! ## Purges of small tenants -/

/-- A deleted tenant with its live children, its rows and those of others, and its audit trail. -/
def deletedTenant (liveChildren : List Uuid) (rows : List OwnedRow) (audit : List AuditReference) :
    PurgeSystem where
  tenant := ⟨10, "Acme", .deleted, none⟩
  liveChildren := liveChildren
  rows := rows
  audit := audit
  events := []
  liveSupportAccess := []
  deadLetters := []
  locks := .empty
  call := fun _ => none
  log := fun _ => []

def purging (n : ℕ) (participants : List String) (steps : ℕ) : List PurgeStepEvent :=
  .begin n (.system .tenantPurge) participants :: List.replicate steps (.advance n)

def auditedTenant : PurgeSystem :=
  deletedTenant []
    [⟨.apiKeys, 3, 10, [(.serviceAccounts, 1)], true⟩, ⟨.tenantMemberships, 4, 10, [], true⟩,
      ⟨.serviceAccounts, 1, 10, [], true⟩]
    [⟨10, (.serviceAccounts, 1)⟩]

/-- A call crashes in its first pass; a second one takes over, and a third one begins meanwhile. -/
def takenOver : List PurgeStepEvent :=
  purging 0 ["billing"] 10 ++ [.crash 0] ++ purging 1 ["billing"] 20 ++ purging 2 [] 3 ++
    List.replicate 31 (.advance 1)

/-- The second call writes the tombstone, and what is left is the disabled account. -/
theorem run_purged_takenOver :
    (Run.run PurgeSystem.step auditedTenant takenOver).tenant.status = .purged ∧
    (Run.run PurgeSystem.step auditedTenant takenOver).rows =
      [⟨.serviceAccounts, 1, 10, [], false⟩] ∧
    (∃! n, .tombstone ∈ (Run.run PurgeSystem.step auditedTenant takenOver).log n) ∧
    (Run.run PurgeSystem.step auditedTenant takenOver).completions ≤ 1 := by
  have hinitial : auditedTenant.Initial :=
    ⟨.inl rfl, fun _ => rfl, fun _ => rfl, rfl, by decide⟩
  have hpurged : (Run.run PurgeSystem.step auditedTenant takenOver).tenant.status = .purged := by
    decide +kernel
  obtain ⟨htombstone, -, hcompletions, -⟩ :=
    (PurgeSystem.run_purged hinitial takenOver).1 takenOver [] (List.append_nil _).symm
  exact ⟨hpurged, by decide +kernel, (htombstone hpurged).1, hcompletions⟩

/-- A grant of another tenant names the service account. -/
def pinnedTenant : PurgeSystem :=
  deletedTenant [] [⟨.serviceAccounts, 1, 10, [], true⟩,
    ⟨.delegationGrants, 2, 30, [(.serviceAccounts, 1)], true⟩] []

/-- A purged tenant can keep a service account; a call that finds a live child fails and leaves the
tenant deleted; and a call that finds an account which another tenant's grant names fails, and so does
every retry as long as nobody takes the grant away. -/
theorem purged_with_rows_and_failures :
    (auditedTenant.Initial ∧
      (Run.run PurgeSystem.step auditedTenant takenOver).tenant.status = .purged ∧
      ∃ row ∈ (Run.run PurgeSystem.step auditedTenant takenOver).rows, row.tenantId = 10) ∧
    ((deletedTenant [20] [] []).Initial ∧
      (Run.run PurgeSystem.step (deletedTenant [20] [] []) (purging 0 [] 1)).call 0 =
        some ⟨.system .tenantPurge, [], .refused⟩ ∧
      (Run.run PurgeSystem.step (deletedTenant [20] [] []) (purging 0 [] 1)).tenant.status =
        .deleted) ∧
    (pinnedTenant.Initial ∧
      (Run.run PurgeSystem.step pinnedTenant (purging 0 [] 30)).call 0 =
        some ⟨.system .tenantPurge, [], .failed⟩ ∧
      ∀ events, (∀ event ∈ events, ∀ rows, event ≠ .others rows) →
        (Run.run PurgeSystem.step (Run.run PurgeSystem.step pinnedTenant (purging 0 [] 30))
          events).tenant.status ≠ .purged) := by
  have hpinned : pinnedTenant.Initial := ⟨.inl rfl, fun _ => rfl, fun _ => rfl, rfl, by decide⟩
  have hpin : Pinned pinnedTenant.audit 10 ⟨.serviceAccounts, 1, 10, [], true⟩
      ⟨.delegationGrants, 2, 30, [(.serviceAccounts, 1)], true⟩ pinnedTenant.rows := by
    refine ⟨rfl, rfl, List.not_mem_nil, .inl (by decide), by decide, by decide, by decide, ?_⟩
    exact fun _ _ haudited => absurd haudited.named List.not_mem_nil
  refine ⟨⟨⟨.inl rfl, fun _ => rfl, fun _ => rfl, rfl, by decide⟩, by decide +kernel, ?_⟩,
    ⟨⟨.inl rfl, fun _ => rfl, fun _ => rfl, rfl, by decide⟩, by decide +kernel, by decide +kernel⟩,
    hpinned, by decide +kernel, fun events hevents => ?_⟩
  · exact ⟨⟨.serviceAccounts, 1, 10, [], false⟩, by decide +kernel, rfl⟩
  · rw [← Run.run_append]
    refine PurgeSystem.not_purged_of_pinned hpinned.sound hpin _ fun event hevent => ?_
    rcases List.mem_append.mp hevent with hfirst | hrest
    · rcases List.mem_cons.mp hfirst with rfl | hadvance
      · nofun
      · rw [List.eq_of_mem_replicate hadvance]
        nofun
    · exact hevents event hrest

end SaasOs
