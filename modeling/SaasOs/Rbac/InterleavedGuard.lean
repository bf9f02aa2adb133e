import SaasOs.Rbac.ConcurrentChanges

/-!
# The last-administrator guard under interleaving

Each open transaction is described by what it has established so far (`Phase.Sound`): the
administrator locks it holds, that its planned change still concerns the affected users, that the
reached descendants cover every descendant an affected user is an active member of, that every
guarded tenant was recorded with an administrator, and, once verified, that every guarded tenant has
an administrator in the transaction's own view.
-/

namespace SaasOs

open Tables

namespace System

/-! ## What a transaction has established -/

def Holds (s : System) (i : ℕ) (tenantId : Uuid) : Prop :=
  s.locks.HoldsExclusively i (.administrators tenantId)

def Planned (s : System) (t : Uuid) (planned : GuardedChange) : Prop :=
  planned.change.Concerns s.db.toTables t planned.affectedUsers ∧ planned.change.Removes

def Covers (s : System) (t : Uuid) (target : GuardTarget) : Prop :=
  ∀ d, s.db.IsStrictAncestor t d → ∀ u ∈ target.planned.affectedUsers, s.db.ActiveMember d u →
    d ∈ target.descendants

/-- The transaction holds the locks of all its guarded tenants, and these are enough. -/
structure Guarding (s : System) (i : ℕ) (t : Uuid) (target : GuardTarget) : Prop where
  holds : ∀ d ∈ t :: target.descendants, s.Holds i d
  planned : s.Planned t target.planned
  covers : s.Covers t target

def Recorded (s : System) (t : Uuid) (target : GuardTarget) (guard : AdministratorGuard) : Prop :=
  ∀ d ∈ t :: target.descendants, s.db.Accessible d →
    ∃ administrator, (d, some administrator) ∈ guard.before

/-- In the transaction's own view every guarded tenant that admits its principals has an
administrator. -/
def Verified (s : System) (t : Uuid) (target : GuardTarget) : Prop :=
  ∀ d ∈ t :: target.descendants, s.db.Accessible d →
    ∃ u, (target.planned.change.apply s.db.toTables).Administers s.now d u

end System

/-- What a transaction of a mutation at the tenant `t` has established when it is in the phase. -/
def Phase.Sound (s : System) (i : ℕ) (t : Uuid) : Phase → Prop
  | begun => True
  | ownTenantLocked => s.Holds i t
  | authorized planned => s.Holds i t ∧ s.Planned t planned
  | locking target pending =>
    s.Holds i t ∧ (∀ d ∈ target.descendants, d ∈ pending ∨ s.Holds i d) ∧
      s.Planned t target.planned ∧ s.Covers t target
  | recorded target guard => s.Guarding i t target ∧ s.Recorded t target guard
  | changed target guard => s.Guarding i t target ∧ s.Recorded t target guard
  | verified target => s.Guarding i t target ∧ s.Verified t target

namespace System

/-- Every tenant that admits its principals has an administrator, and every open transaction has
established what its phase says. -/
structure Invariant (s : System) : Prop where
  administered : ∀ d, s.db.Accessible d → ∃ u, s.db.Administers s.now d u
  sound : ∀ i transaction, s.transaction i = some transaction →
    transaction.phase.Sound s i transaction.mutation.tenantId

/-! ## What the others may do meanwhile -/

/-- From `s` to `s'` nothing is lost of what the transaction `i` has established. -/
structure Keeps (s s' : System) (i : ℕ) (t : Uuid) (phase : Phase) : Prop where
  holds : ∀ d, s.Holds i d → s'.Holds i d
  planned : ∀ planned, s.Planned t planned → s'.Planned t planned
  covers : ∀ target ∈ phase.target?, s.Covers t target → s'.Covers t target
  accessible : ∀ d, s'.db.Accessible d → s.db.Accessible d
  verified : ∀ target, s.Guarding i t target → s.Verified t target → s'.Verified t target

variable {s s' : System} {i : ℕ} {t : Uuid} {phase : Phase} {target : GuardTarget}

lemma Keeps.guarding (h : Keeps s s' i t phase) (htarget : target ∈ phase.target?)
    (hguarding : s.Guarding i t target) : s'.Guarding i t target where
  holds d hd := h.holds d (hguarding.holds d hd)
  planned := h.planned _ hguarding.planned
  covers := h.covers target htarget hguarding.covers

variable {guard : AdministratorGuard}

lemma Keeps.recorded (h : Keeps s s' i t phase) (hrecorded : s.Recorded t target guard) :
    s'.Recorded t target guard :=
  fun d hd hacc => hrecorded d hd (h.accessible d hacc)

lemma Keeps.sound (h : Keeps s s' i t phase) (hsound : phase.Sound s i t) : phase.Sound s' i t := by
  cases phase with
  | begun => trivial
  | ownTenantLocked => exact h.holds t hsound
  | authorized planned => exact ⟨h.holds t hsound.1, h.planned planned hsound.2⟩
  | locking target pending =>
    obtain ⟨hown, hlocked, hplanned, hcovers⟩ := hsound
    refine ⟨h.holds t hown, ?_, h.planned _ hplanned, h.covers target rfl hcovers⟩
    intro d hd
    exact (hlocked d hd).imp_right (h.holds d)
  | recorded target guard => exact ⟨h.guarding rfl hsound.1, h.recorded hsound.2⟩
  | changed target guard => exact ⟨h.guarding rfl hsound.1, h.recorded hsound.2⟩
  | verified target => exact ⟨h.guarding rfl hsound.1, h.verified target hsound.1 hsound.2⟩

lemma keeps_of_same_db (hdb : s'.db = s.db) (hnow : s'.now = s.now)
    (hholds : ∀ d, s.Holds i d → s'.Holds i d) :
    Keeps s s' i t phase where
  holds := hholds
  planned planned hplanned := by
    unfold Planned
    rw [hdb]
    exact hplanned
  covers target _ hcovers := by
    unfold Covers
    rw [hdb]
    exact hcovers
  accessible d hacc := hdb ▸ hacc
  verified target _ hverified := by
    unfold Verified
    rw [hdb, hnow]
    exact hverified

lemma keeps_tick {now : Instant} (hle : s.now ≤ now) {i : ℕ} {t : Uuid} {phase : Phase} :
    Keeps s { s with now := now } i t phase where
  holds _ hheld := hheld
  planned _ hplanned := hplanned
  covers _ _ hcovers := hcovers
  accessible _ hacc := hacc
  verified target _ hverified := by
    intro d hd hacc
    obtain ⟨u, hadmin⟩ := hverified d hd hacc
    exact ⟨u, hadmin.mono hle⟩

/-! ## Steps of one transaction that commit nothing -/

lemma Invariant.proceed {s : System} (hinv : s.Invariant) {i : ℕ} {mutation : GuardedMutation}
    {locks : LockTable LockKey ℕ} {phase : Phase}
    (hlocks : ∀ j key, s.locks.HoldsExclusively j key → locks.HoldsExclusively j key)
    (hsound : phase.Sound (s.proceed i mutation locks phase) i mutation.tenantId) :
    (s.proceed i mutation locks phase).Invariant where
  administered := hinv.administered
  sound := by
    intro j transaction hj
    by_cases hji : j = i
    · subst hji
      rw [proceed_transaction_self] at hj
      cases hj
      exact hsound
    · rw [proceed_transaction_of_ne s hji] at hj
      have hkeeps : Keeps s (s.proceed i mutation locks phase) j transaction.mutation.tenantId
          transaction.phase := keeps_of_same_db rfl rfl fun d => hlocks j _
      exact hkeeps.sound (hinv.sound j transaction hj)

lemma Invariant.close {s : System} (hinv : s.Invariant) (i : ℕ) : (s.close i).Invariant where
  administered := hinv.administered
  sound := by
    intro j transaction hj
    have hji : j ≠ i := by
      rintro rfl
      rw [close_transaction_self] at hj
      cases hj
    rw [close_transaction_of_ne s hji] at hj
    have hkeeps : Keeps s (s.close i) j transaction.mutation.tenantId transaction.phase :=
      keeps_of_same_db rfl rfl fun d hheld => hheld.of_release hji
    exact hkeeps.sound (hinv.sound j transaction hj)

lemma Invariant.settle {s : System} (hinv : s.Invariant) {i : ℕ} {mutation : GuardedMutation}
    {locks : LockTable LockKey ℕ} {outcome : Result (Option Phase)}
    (hlocks : ∀ j key, s.locks.HoldsExclusively j key → locks.HoldsExclusively j key)
    (hsound : ∀ phase, outcome = .ok (some phase) →
      phase.Sound (s.proceed i mutation locks phase) i mutation.tenantId) :
    (s.settle i mutation locks outcome).Invariant := by
  unfold System.settle
  split
  · next phase => exact hinv.proceed hlocks (hsound phase rfl)
  · exact hinv.close i
  · exact hinv.close i

/-! ## Commits -/

lemma writeRow_ok {db db' : Database} {change : RowChange} (h : db.writeRow change = .ok db') :
    db'.toTables = change.apply db.toTables := by
  unfold Database.writeRow at h
  obtain ⟨⟨⟩, -, hflush⟩ := bind_eq_ok.mp h
  exact flush_ok hflush

variable {db' : Database}

lemma keeps_commit {i j : ℕ} (hij : i ≠ j) {t t' : Uuid} {target' : GuardTarget}
    (hguarding' : s.Guarding j t' target')
    (htables : db'.toTables = target'.planned.change.apply s.db.toTables) {phase : Phase} :
    Keeps s { s.close j with db := db' } i t phase where
  holds d hheld := LockTable.HoldsExclusively.of_release hij hheld
  planned planned hplanned := by
    refine ⟨?_, hplanned.2⟩
    rw [htables]
    exact hplanned.1.apply _
  covers target _ hcovers := by
    intro d habove u hu hactive
    simp only [htables, IsStrictAncestor, RowChange.apply_tenantAncestry] at habove
    rw [htables] at hactive
    exact hcovers d habove u hu (RowChange.activeMember_of_apply hguarding'.planned.2 hactive)
  accessible d hacc := by
    simp only [htables, Accessible, HasStatus, RowChange.apply_tenants] at hacc
    exact hacc
  verified target hguarding hverified := by
    intro d hd hacc
    simp only [htables, Accessible, HasStatus, RowChange.apply_tenants] at hacc
    obtain ⟨u, hadmin⟩ := hverified d hd hacc
    -- the two transactions hold disjoint administrator locks
    have hdisjoint : ∀ c, s.Holds i c → ¬ s.Holds j c := fun c hc => LockTable.not_both_exclusive hij hc
    have hne : t ≠ t' := by
      rintro rfl
      exact hdisjoint t (hguarding.holds t List.mem_cons_self)
        (hguarding'.holds t List.mem_cons_self)
    refine ⟨u, ?_⟩
    change (target.planned.change.apply db'.toTables).Administers s.now d u
    rw [htables]
    refine RowChange.administers_apply_apply hguarding.planned.1 hguarding'.planned.1 hne hadmin ?_
    intro hu
    have hd' : ¬ s.Holds j d := hdisjoint d (hguarding.holds d hd)
    refine ⟨?_, ?_⟩
    · rintro rfl
      exact hd' (hguarding'.holds d List.mem_cons_self)
    · -- a member the other change concerns would have made the other transaction reach `d`
      intro habove
      have hmember := RowChange.activeMember_of_apply hguarding.planned.2 hadmin.1
      have hreached := hguarding'.covers d habove u hu hmember
      exact hd' (hguarding'.holds d (List.mem_cons_of_mem _ hreached))

lemma administered_commit (hinv : s.Invariant) (hguarding : s.Guarding i t target)
    (hverified : s.Verified t target) {d : Uuid} (hacc : s.db.Accessible d) :
    ∃ u, (target.planned.change.apply s.db.toTables).Administers s.now d u := by
  by_cases hd : d ∈ t :: target.descendants
  · exact hverified d hd hacc
  · obtain ⟨u, hadmin⟩ := hinv.administered d hacc
    refine ⟨u, (RowChange.changesOnly hguarding.planned.1).administers le_rfl hadmin ?_⟩
    intro hu
    refine ⟨fun hdt => hd (hdt ▸ List.mem_cons_self), fun habove => hd ?_⟩
    exact List.mem_cons_of_mem _ (hguarding.covers d habove u hu hadmin.1)

lemma Invariant.commit {s : System} (hinv : s.Invariant) {i : ℕ} {t : Uuid} {target : GuardTarget}
    (hguarding : s.Guarding i t target) (hverified : s.Verified t target) :
    (s.commit i target.planned.change).Invariant := by
  unfold System.commit
  split
  · next db' hwritten =>
    have htables := writeRow_ok hwritten
    refine ⟨?_, ?_⟩
    · intro d hacc
      simp only [htables, Accessible, HasStatus, RowChange.apply_tenants] at hacc
      simp only [htables]
      exact administered_commit hinv hguarding hverified hacc
    · intro j transaction hj
      have hji : j ≠ i := by
        rintro rfl
        exact absurd (hj.symm.trans (close_transaction_self s j)) (by simp)
      have hother : s.transaction j = some transaction :=
        (close_transaction_of_ne s hji).symm.trans hj
      exact (keeps_commit hji hguarding htables).sound (hinv.sound j transaction hother)
  · exact hinv.close i

/-! ## The steps of a guarded mutation -/

lemma covers_reachedDescendants (s : System) (t : Uuid) (planned : GuardedChange) :
    s.Covers t ⟨planned, s.db.reachedDescendants t planned.affectedUsers⟩ := by
  intro d habove u hu hactive
  refine List.mem_filter.mpr ⟨mem_descendantIdsByDepth.mpr habove, ?_⟩
  exact isActiveMember_iff.mpr ⟨u, hu, hactive⟩

lemma recorded_guardTenants (hinv : s.Invariant) (t : Uuid) (target : GuardTarget) :
    s.Recorded t target (s.db.guardTenants s.now (t :: target.descendants)).val := by
  intro d hd hacc
  have hhas : s.db.HasAdministrator s.now d := s.db.hasAdministrator_iff.mpr (hinv.administered d hacc)
  have hsome : (s.db.findAdministrator s.now d).val.isSome = true :=
    isSome_findAdministrator_iff_hasAdministrator.mpr hhas
  obtain ⟨administrator, hfound⟩ := Option.isSome_iff_exists.mp hsome
  refine ⟨administrator, ?_⟩
  rw [val_guardTenants_before]
  exact List.mem_map.mpr ⟨d, hd, by rw [hfound]⟩

lemma verified_of_verifyWritten (hrecorded : s.Recorded t target guard) {membershipId : Option Uuid}
    (h : (verifyWritten s.now guard membershipId (s.db.writeRow target.planned.change)).val =
      .ok ()) : s.Verified t target := by
  intro d hd hacc
  cases hwritten : s.db.writeRow target.planned.change with
  | error refusal =>
    rw [hwritten] at h
    cases h
  | ok session =>
    rw [hwritten] at h
    obtain ⟨administrator, hbefore⟩ := hrecorded d hd hacc
    have hhas := AdministratorGuard.verify_ok_iff_forall.mp h _ hbefore rfl
    rw [← writeRow_ok hwritten]
    exact session.hasAdministrator_iff.mp hhas

lemma Invariant.advance (hinv : s.Invariant) {mutation : GuardedMutation}
    (hsound : phase.Sound s i mutation.tenantId) (h : s.advance i mutation phase = some s') :
    s'.Invariant := by
  cases phase with
  | begun =>
    obtain ⟨locks, hlocks, hdone⟩ := Option.bind_eq_some_iff.mp h
    cases hdone
    refine hinv.proceed (fun j key hheld => hheld.of_acquire hlocks) ?_
    exact LockTable.holdsExclusively_of_acquire hlocks List.mem_cons_self
  | ownTenantLocked =>
    obtain ⟨locks, hlocks, hdone⟩ := Option.bind_eq_some_iff.mp h
    cases hdone
    refine hinv.settle (fun j key hheld => hheld.of_acquire hlocks) ?_
    intro phase hphase
    obtain ⟨⟨session, planned?⟩, hplan, hfound⟩ := map_eq_ok.mp hphase
    obtain ⟨planned, rfl, rfl⟩ := Option.map_eq_some_iff.mp hfound
    obtain ⟨-, hplanned⟩ := mutation.plan_sound s.db s.now session (some planned) hplan
    exact ⟨LockTable.HoldsExclusively.of_acquire hsound hlocks, hplanned planned rfl⟩
  | authorized planned =>
    cases h
    refine hinv.proceed (fun _ _ hheld => hheld) ?_
    exact ⟨hsound.1, fun d hd => Or.inl hd, hsound.2, covers_reachedDescendants s _ planned⟩
  | locking target pending =>
    obtain ⟨hown, hlocked, hplanned, hcovers⟩ := hsound
    cases pending with
    | cons descendantId pending =>
      obtain ⟨locks, hlocks, hdone⟩ := Option.bind_eq_some_iff.mp h
      cases hdone
      refine hinv.proceed (fun j key hheld => hheld.of_acquire hlocks) ?_
      refine ⟨LockTable.HoldsExclusively.of_acquire hown hlocks, ?_, hplanned, hcovers⟩
      intro d hd
      rcases hlocked d hd with hpending | hheld
      · rcases List.mem_cons.mp hpending with rfl | hrest
        · exact Or.inr (LockTable.holdsExclusively_of_acquire hlocks List.mem_cons_self)
        · exact Or.inl hrest
      · exact Or.inr (LockTable.HoldsExclusively.of_acquire hheld hlocks)
    | nil =>
      obtain ⟨locks, hlocks, hdone⟩ := Option.bind_eq_some_iff.mp h
      cases hdone
      refine hinv.proceed (fun j key hheld => hheld.of_acquire hlocks) ?_
      refine ⟨⟨?_, hplanned, hcovers⟩, recorded_guardTenants hinv _ target⟩
      intro d hd
      refine LockTable.HoldsExclusively.of_acquire ?_ hlocks
      rcases List.mem_cons.mp hd with rfl | hdescendant
      · exact hown
      · exact (hlocked d hdescendant).resolve_left List.not_mem_nil
  | recorded target guard =>
    obtain ⟨locks, hlocks, hdone⟩ := Option.bind_eq_some_iff.mp h
    cases hdone
    refine hinv.settle (fun j key hheld => hheld.of_acquire hlocks) ?_
    intro phase hphase
    obtain ⟨_, -, hfound⟩ := map_eq_ok.mp hphase
    cases hfound
    obtain ⟨hguarding, hrecorded⟩ := hsound
    exact ⟨⟨fun d hd => (hguarding.holds d hd).of_acquire hlocks, hguarding.planned,
      hguarding.covers⟩, hrecorded⟩
  | changed target guard =>
    obtain ⟨locks, hlocks, hdone⟩ := Option.bind_eq_some_iff.mp h
    cases hdone
    refine hinv.settle (fun j key hheld => hheld.of_acquire hlocks) ?_
    intro phase hphase
    obtain ⟨⟨⟩, hpassed, hfound⟩ := map_eq_ok.mp hphase
    cases hfound
    obtain ⟨hguarding, hrecorded⟩ := hsound
    exact ⟨⟨fun d hd => (hguarding.holds d hd).of_acquire hlocks, hguarding.planned,
      hguarding.covers⟩, verified_of_verifyWritten hrecorded hpassed⟩
  | verified target =>
    cases h
    exact hinv.commit hsound.1 hsound.2

/-! ## Joins -/

/-- The action makes nobody a member of a descendant that an open guarded mutation, affecting that
user from above, has passed over when it looked for the descendants to guard. -/
def NoLateJoin (hashInvitationToken : String → String) (s : System) : Action → Prop
  | .join _ call =>
    (∃ db', call.perform hashInvitationToken s.db s.now = .ok db') →
      ∀ j transaction, s.transaction j = some transaction →
        ∀ target ∈ transaction.phase.target?, call.userId ∈ target.planned.affectedUsers →
          s.db.IsStrictAncestor transaction.mutation.tenantId call.tenantId →
            call.tenantId ∈ target.descendants
  | .begin _ _ => True
  | .advance _ => True
  | .abort _ => True
  | .tick _ => True

lemma keeps_join {tenantId userId : Uuid} (hjoined : s.db.JoinedBy db'.toTables tenantId userId)
    {i : ℕ}
    (hseen : ∀ target ∈ phase.target?, userId ∈ target.planned.affectedUsers →
      s.db.IsStrictAncestor t tenantId → tenantId ∈ target.descendants) :
    Keeps s { s with db := db' } i t phase where
  holds _ hheld := hheld
  planned planned hplanned := ⟨Database.concerns_of_joinedBy hjoined hplanned.1, hplanned.2⟩
  covers target htarget hcovers := by
    intro d habove u hu hactive
    obtain ⟨invitations, joined, htables, hnew⟩ := hjoined
    simp only [htables, IsStrictAncestor] at habove
    obtain ⟨m, hm, hd, huser, hstatus⟩ := hactive
    simp only [htables] at hm
    rcases List.mem_append.mp hm with hold | hjoin
    · exact hcovers d habove u hu ⟨m, hold, hd, huser, hstatus⟩
    · obtain ⟨htenant, huser', -⟩ := hnew m hjoin
      have hdt : tenantId = d := htenant.symm.trans hd
      have huu : userId = u := huser'.symm.trans huser
      subst hdt huu
      exact hseen target htarget hu habove
  accessible d hacc := by
    obtain ⟨invitations, joined, htables, -⟩ := hjoined
    simp only [htables, Accessible, HasStatus] at hacc
    exact hacc
  verified target hguarding hverified := by
    intro d hd hacc
    have hacc' : s.db.Accessible d := by
      obtain ⟨invitations, joined, htables, -⟩ := hjoined
      simp only [htables, Accessible, HasStatus] at hacc
      exact hacc
    obtain ⟨u, hadmin⟩ := hverified d hd hacc'
    exact ⟨u, (Database.lendsMore_apply_of_joinedBy hjoined hguarding.planned.1).administers hadmin⟩

variable {hashInvitationToken : String → String}

lemma Invariant.join (hinv : s.Invariant) {call : JoinCall}
    (hseen : s.NoLateJoin hashInvitationToken (.join i call)) :
    (s.afterJoin (call.perform hashInvitationToken s.db s.now)).Invariant := by
  cases hcall : call.perform hashInvitationToken s.db s.now with
  | error e => exact hinv
  | ok db' =>
    have hjoined := JoinCall.perform_joinedBy hcall
    refine ⟨?_, ?_⟩
    · intro d hacc
      have hmore := Database.lendsMore_of_joinedBy hjoined
      have hacc' : s.db.Accessible d := by
        simp only [afterJoin, Accessible, HasStatus, hmore.tenants] at hacc
        exact hacc
      obtain ⟨u, hadmin⟩ := hinv.administered d hacc'
      exact ⟨u, hmore.administers hadmin⟩
    · intro j transaction hj
      have hkeeps : Keeps s { s with db := db' } j transaction.mutation.tenantId
          transaction.phase := keeps_join hjoined (hseen ⟨db', hcall⟩ j transaction hj)
      exact hkeeps.sound (hinv.sound j transaction hj)

/-! ## Runs -/

lemma Invariant.step {hashInvitationToken : String → String} {s s' : System} (hinv : s.Invariant)
    {action : Action} (hseen : s.NoLateJoin hashInvitationToken action)
    (h : s.step hashInvitationToken action = some s') : s'.Invariant := by
  cases action with
  | begin i mutation =>
    simp only [System.step] at h
    split at h
    · cases h
      exact hinv.proceed (fun _ _ hheld => hheld) trivial
    · cases h
  | advance i =>
    obtain ⟨transaction, htransaction, hadvance⟩ := Option.bind_eq_some_iff.mp h
    exact hinv.advance (hinv.sound i transaction htransaction) hadvance
  | abort i =>
    obtain ⟨_, -, hdone⟩ := Option.bind_eq_some_iff.mp h
    cases hdone
    exact hinv.close i
  | join i call =>
    simp only [System.step] at h
    split at h
    · obtain ⟨_, -, hdone⟩ := Option.bind_eq_some_iff.mp h
      cases hdone
      exact hinv.join hseen
    · cases h
  | tick now =>
    simp only [System.step] at h
    split at h
    · next hle =>
      cases h
      refine ⟨?_, ?_⟩
      · intro d hacc
        obtain ⟨u, hadmin⟩ := hinv.administered d hacc
        exact ⟨u, hadmin.mono hle⟩
      · intro i transaction htransaction
        exact (keeps_tick hle).sound (hinv.sound i transaction htransaction)
    · cases h

/-- No action of the run is a late join. -/
def NoLateJoins (hashInvitationToken : String → String) : System → List Action → Prop
  | _, [] => True
  | s, action :: actions =>
    s.NoLateJoin hashInvitationToken action ∧
      ∀ s', s.step hashInvitationToken action = some s' → s'.NoLateJoins hashInvitationToken actions

lemma Invariant.run (hinv : s.Invariant) {actions : List Action}
    (hseen : s.NoLateJoins hashInvitationToken actions)
    (h : s.run hashInvitationToken actions = some s') : s'.Invariant := by
  induction actions generalizing s with
  | nil =>
    cases h
    exact hinv
  | cons action actions ih =>
    obtain ⟨s₁, hstep, hrun⟩ := Option.bind_eq_some_iff.mp h
    exact ih (hinv.step hseen.1 hstep) (hseen.2 s₁ hstep) hrun

/-- The last-administrator invariant under interleaving: if every tenant that is neither suspended
nor closed has an administrator at first, then in every run, of any number of guarded mutations and
joins, in which no join comes late, it has one in every state that is reached. -/
theorem run_hasAdministrator (hashInvitationToken : String → String) (db : Database) (now : Instant)
    (hinitial : ∀ d, db.Accessible d → db.HasAdministrator now d) (actions : List Action)
    (hseen : (initial db now).NoLateJoins hashInvitationToken actions) (s : System)
    (hrun : (initial db now).run hashInvitationToken actions = some s) (d : Uuid)
    (hacc : s.db.Accessible d) : s.db.HasAdministrator s.now d := by
  have hstart : (initial db now).Invariant :=
    ⟨fun d hacc => db.hasAdministrator_iff.mp (hinitial d hacc), fun _ _ h => by cases h⟩
  have hend := hstart.run hseen hrun
  exact s.db.hasAdministrator_iff.mpr (hend.administered d hacc)

end System

/-! ## The race -/

/-- A root tenant `1` with one child `2`. -/
def raceTables : Tables where
  tenants := [⟨1, "root", .active, none⟩, ⟨2, "child", .active, some 1⟩]
  tenantAncestry := [⟨1, 1, 0⟩, ⟨2, 2, 0⟩, ⟨2, 1, 1⟩]
  users := [⟨10, true⟩, ⟨11, true⟩, ⟨12, true⟩]
  tenantMemberships :=
    [⟨100, 1, 10, .active, 0⟩, ⟨101, 1, 12, .active, 0⟩, ⟨102, 2, 11, .active, 0⟩]
  roles := [⟨200, 1, "owner"⟩, ⟨201, 1, "keeper"⟩, ⟨202, 2, "manager"⟩]
  permissions :=
    [⟨1, "membership_role", "create"⟩, ⟨2, "deny_grant", "create"⟩, ⟨3, "membership", "create"⟩,
      ⟨4, "membership", "suspend"⟩]
  rolePermissions :=
    [⟨300, 1, 200, 1⟩, ⟨301, 1, 201, 1⟩, ⟨302, 1, 201, 2⟩, ⟨303, 2, 202, 1⟩, ⟨304, 2, 202, 3⟩,
      ⟨305, 2, 202, 4⟩]
  membershipRoles :=
    [⟨400, 1, 100, 200, .subtree⟩, ⟨401, 1, 101, 201, .self⟩, ⟨402, 2, 102, 202, .self⟩]

def raceDatabase : Database := ⟨raceTables, by decide⟩

lemma raceDatabase_hasAdministrator (d : Uuid) (hacc : raceDatabase.Accessible d) :
    raceDatabase.HasAdministrator 0 d := by
  obtain ⟨tenant, htenant, rfl, -⟩ := hacc
  have hall : ∀ tenant ∈ raceDatabase.tenants,
      (raceDatabase.findAdministrator 0 tenant.id).val.isSome = true := by decide
  exact isSome_findAdministrator_iff_hasAdministrator.mp (hall tenant htenant)

/-- User `12` denies user `10` the assignment of roles over the whole tree. -/
def raceDeny : GuardedMutation := .createDeny ⟨900, 901⟩ 10 1 .subtree 1 (.user 12)

/-- The deny records the administrators of the root. -/
def raceActions : List Action :=
  [.begin 0 raceDeny, .advance 0, .advance 0, .advance 0, .advance 0,
    .join 2 (.addTenantMembership ⟨902, 903⟩ 2 10 (.user 11)),
    .begin 1 (.suspendMembership 904 2 102 (.user 11)), .advance 1, .advance 1, .advance 1,
    .advance 1, .advance 1, .advance 1, .advance 1,
    .advance 0, .advance 0, .advance 0]

/-- Every tenant has an administrator at first, and after the race the child has none. -/
theorem race_loses_administrator :
    (∀ d, raceDatabase.Accessible d → raceDatabase.HasAdministrator 0 d) ∧
      ∃ s, (System.initial raceDatabase 0).run id raceActions = some s ∧ s.db.Accessible 2 ∧
        ¬ s.db.HasAdministrator s.now 2 := by
  refine ⟨raceDatabase_hasAdministrator, ?_⟩
  have hrun : ((System.initial raceDatabase 0).run id raceActions).map (fun s =>
      (s.db.tenantStatusIs TenantStatus.isAccessibleToPrincipals 2,
        (s.db.findAdministrator s.now 2).val)) = some (true, none) := by
    decide +kernel
  obtain ⟨s, hs, hpair⟩ := Option.map_eq_some_iff.mp hrun
  refine ⟨s, hs, s.db.tenantStatusIs_iff.mp (congrArg Prod.fst hpair), fun hhas => ?_⟩
  have hsome : (s.db.findAdministrator s.now 2).val.isSome = true :=
    isSome_findAdministrator_iff_hasAdministrator.mpr hhas
  have hnone : (s.db.findAdministrator s.now 2).val = none := congrArg Prod.snd hpair
  rw [hnone] at hsome
  cases hsome

/-- In time, user `10` joins the child before the deny looks for the descendants to guard. -/
def timelyActions : List Action :=
  [.join 2 (.addTenantMembership ⟨902, 903⟩ 2 10 (.user 11)), .begin 0 raceDeny, .advance 0,
    .advance 0, .advance 0, .advance 0, .advance 0, .advance 0, .advance 0, .advance 0]

lemma noLateJoins_of_no_join {hashInvitationToken : String → String} {actions : List Action}
    (h : ∀ action ∈ actions, ∀ i call, action ≠ .join i call) (s : System) :
    s.NoLateJoins hashInvitationToken actions := by
  induction actions generalizing s with
  | nil => trivial
  | cons action actions ih =>
    refine ⟨?_, fun s' _ => ih (fun a ha => h a (List.mem_cons_of_mem _ ha)) s'⟩
    cases action with
    | join i call => exact absurd rfl (h _ List.mem_cons_self i call)
    | begin i mutation => trivial
    | advance i => trivial
    | abort i => trivial
    | tick now => trivial

/-- Then the deny is committed as well, and the child keeps an administrator. -/
theorem run_hasAdministrator_timely :
    ∃ s, (System.initial raceDatabase 0).run id timelyActions = some s ∧
      s.db.denyGrants = [⟨901, 1, .user, some 10, none, .subtree, 1, none⟩] ∧
      s.db.HasAdministrator s.now 2 := by
  have hrun : ((System.initial raceDatabase 0).run id timelyActions).map (fun s =>
      (s.db.denyGrants, s.db.tenantStatusIs TenantStatus.isAccessibleToPrincipals 2)) =
      some ([⟨901, 1, .user, some 10, none, .subtree, 1, none⟩], true) := by
    decide +kernel
  obtain ⟨s, hs, hpair⟩ := Option.map_eq_some_iff.mp hrun
  have hseen : (System.initial raceDatabase 0).NoLateJoins id timelyActions := by
    refine ⟨?_, fun s' _ => noLateJoins_of_no_join (by simp) s'⟩
    intro _ j transaction hj
    cases hj
  exact ⟨s, hs, congrArg Prod.fst hpair, System.run_hasAdministrator id raceDatabase 0
    raceDatabase_hasAdministrator timelyActions hseen s hs 2
    (s.db.tenantStatusIs_iff.mp (congrArg Prod.snd hpair))⟩

end SaasOs
