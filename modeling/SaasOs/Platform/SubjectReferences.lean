import SaasOs.Foundation.LockTable
import SaasOs.Foundation.Run
import SaasOs.Foundation.UniqueInsert
import SaasOs.Schema.Tables

/-!
# References of audit subjects

An audit row that targets a user names a random reference in the place of the user's id.  The
reference is got or created in the transaction that writes the row: one live link for each user and
day.  The erasure of a user leaves a marker, and unlinks every link of the user that no hold covers;
after it a writer makes a reference that never names anybody.
-/

namespace SaasOs.AuditSubjects

open Rows UniqueInsert

/-! ## Rows -/

/-- A row of `core.platform_audit_subject_links`; without a user it is unlinked. -/
structure SubjectLink where
  ref : Uuid
  userId : Option Uuid
  day : ℤ
  deriving DecidableEq

/-- What the partial unique index compares: the user and the day of a live link. -/
def SubjectLink.liveKey (link : SubjectLink) : (Uuid × ℤ) ⊕ Uuid :=
  match link.userId with
  | some userId => .inl (userId, link.day)
  | none => .inr link.ref

/-- An active row of `core.platform_audit_identity_holds`. -/
structure IdentityHold where
  subjectRef : Option Uuid
  fromDay : Option ℤ
  toDay : Option ℤ

def coveredByHold (link : SubjectLink) (holds : List IdentityHold) : Bool :=
  holds.any fun hold =>
    (hold.subjectRef.isNone || hold.subjectRef = some link.ref) &&
      (hold.fromDay.all fun day => decide (day ≤ link.day)) &&
        hold.toDay.all fun day => decide (link.day ≤ day)

/-- `AuditTarget`: an id that names nobody, or the reference of a user. -/
inductive AuditTarget
  | user
  | userSubject (ref : Uuid)

/-- A committed audit row, with the user that it was written for and its transaction's day. -/
structure SubjectAuditRow where
  userId : Uuid
  day : ℤ
  target : AuditTarget

/-- `AuditSubjectLinkUnavailableError`: no reference could be generated, or the committed link could
not be read back. -/
inductive SubjectError
  | notGenerated
  | notReadBack

def maxCollisionAttempts : ℕ := 3

def maxRaceAttempts : ℕ := 2

/-! ## The system -/

/-- Where a transaction is. -/
inductive SubjectPhase
  | begun (userId : Uuid) (day : ℤ)
  | known (userId : Uuid) (day : ℤ)
  | locked (userId : Uuid) (day : ℤ)
  | inserting (userId : Uuid) (day : ℤ) (races collisions : ℕ)
  | reselecting (userId : Uuid) (day : ℤ) (races : ℕ)
  | insertingUnlinked (userId : Uuid) (day : ℤ) (collisions : ℕ)
  | targeted (userId : Uuid) (day : ℤ) (target : AuditTarget)
  | written
  | failed (error : SubjectError)
  | rolledBack
  | erasing (userId : Uuid)
  | erasingKnown (userId : Uuid)
  | erasingLocked (userId : Uuid)
  | unlinking (userId : Uuid) (refs : List Uuid)
  | noSubject (userId : Uuid)
  | erased

/-- The date, the users and the holds, the links, the markers, the audit rows of the run, the users
whose erasure has committed, the subject locks and the transactions. -/
structure SubjectState where
  today : ℤ
  users : List Uuid
  holds : List IdentityHold
  links : Table ℕ SubjectLink
  markers : List Uuid
  rows : List SubjectAuditRow
  erased : List Uuid
  locks : LockTable Uuid ℕ
  calls : ℕ → Option SubjectPhase

/-- What happens.  `ref` is the reference that an insertion generates. -/
inductive SubjectEvent
  | midnight
  | write (n : ℕ) (userId : Uuid)
  | erase (n : ℕ) (userId : Uuid)
  | next (n : ℕ) (ref : Uuid)
  | commit (n : ℕ)
  | rollback (n : ℕ)

namespace SubjectState

def setPhase (state : SubjectState) (n : ℕ) (phase : SubjectPhase) : SubjectState :=
  { state with calls := Function.update state.calls n (some phase) }

def endWithout (state : SubjectState) (n : ℕ) (phase : SubjectPhase) : SubjectState :=
  { state with links := state.links.rollback n, locks := state.locks.release n }.setPhase n phase

/-- The link that `_live_ref` finds. -/
def liveRef (state : SubjectState) (userId : Uuid) (day : ℤ) : Option Uuid :=
  (state.links.committed.find? fun link => link.userId = some userId ∧ link.day = day).map
    SubjectLink.ref

def uncoveredRefs (state : SubjectState) (userId : Uuid) : List Uuid :=
  (state.links.committed.filter fun link =>
    link.userId = some userId ∧ coveredByHold link state.holds = false).map SubjectLink.ref

def collide (state : SubjectState) (n : ℕ) (collisions : ℕ) (again : ℕ → SubjectPhase) :
    SubjectState :=
  if collisions + 1 < maxCollisionAttempts then state.setPhase n (again (collisions + 1))
  else state.endWithout n (.failed .notGenerated)

def nextStatement (state : SubjectState) (n : ℕ) (ref : Uuid) : SubjectPhase → SubjectState
  | .begun userId day =>
    if userId ∈ state.users then state.setPhase n (.known userId day)
    else state.setPhase n (.targeted userId day .user)
  | .known userId day =>
    match state.locks.acquire n .share [userId] with
    | some locks => { state with locks := locks }.setPhase n (.locked userId day)
    | none => state
  | .locked userId day =>
    if userId ∈ state.markers then state.setPhase n (.insertingUnlinked userId day 0)
    else state.setPhase n (.inserting userId day 0 0)
  | .inserting userId day races collisions =>
    -- the index that decides the conflict is checked first
    match state.links.tryInsert SubjectLink.liveKey n (.inl (userId, day)) with
    | .waits => state
    | .violates => state.setPhase n (.reselecting userId day races)
    | .inserted =>
      match state.links.tryInsert SubjectLink.ref n ref with
      | .waits => state
      | .violates => state.collide n collisions (.inserting userId day races)
      | .inserted =>
        { state with links := state.links.insert n ⟨ref, some userId, day⟩ }.setPhase n
          (.targeted userId day (.userSubject ref))
  | .reselecting userId day races =>
    match state.liveRef userId day with
    | some found => state.setPhase n (.targeted userId day (.userSubject found))
    | none =>
      if races + 1 < maxRaceAttempts then state.setPhase n (.inserting userId day (races + 1) 0)
      else state.endWithout n (.failed .notReadBack)
  | .insertingUnlinked userId day collisions =>
    match state.links.tryInsert SubjectLink.ref n ref with
    | .waits => state
    | .violates => state.collide n collisions (.insertingUnlinked userId day)
    | .inserted =>
      { state with links := state.links.insert n ⟨ref, none, day⟩ }.setPhase n
        (.targeted userId day (.userSubject ref))
  | .erasing userId =>
    if userId ∈ state.users then state.setPhase n (.erasingKnown userId)
    else state.setPhase n (.noSubject userId)
  | .erasingKnown userId =>
    match state.locks.acquire n .exclusive [userId] with
    | some locks => { state with locks := locks }.setPhase n (.erasingLocked userId)
    | none => state
  | .erasingLocked userId => state.setPhase n (.unlinking userId (state.uncoveredRefs userId))
  | _ => state

def unlink (refs : List Uuid) (link : SubjectLink) : SubjectLink :=
  if link.ref ∈ refs then { link with userId := none } else link

def commitCall (state : SubjectState) (n : ℕ) : SubjectPhase → SubjectState
  | .targeted userId day target =>
    { state with
      links := state.links.commit n
      rows := ⟨userId, day, target⟩ :: state.rows
      locks := state.locks.release n }.setPhase n .written
  | .unlinking userId refs =>
    { state with
      links := state.links.update (unlink refs)
      markers := state.markers.insert userId
      erased := userId :: state.erased
      locks := state.locks.release n }.setPhase n .erased
  | .noSubject userId => { state with erased := userId :: state.erased }.setPhase n .erased
  | _ => state

def step (state : SubjectState) : SubjectEvent → SubjectState
  | .midnight => { state with today := state.today + 1 }
  | .write n userId =>
    if state.calls n = none then state.setPhase n (.begun userId state.today) else state
  | .erase n userId => if state.calls n = none then state.setPhase n (.erasing userId) else state
  | .next n ref =>
    match state.calls n with
    | some phase => state.nextStatement n ref phase
    | none => state
  | .commit n =>
    match state.calls n with
    | some phase => state.commitCall n phase
    | none => state
  | .rollback n =>
    match state.calls n with
    | some .written => state
    | some (.failed _) => state
    | some .erased => state
    | some _ => state.endWithout n .rolledBack
    | none => state

/-! ## What is promised -/

/-- What holds in every state of a run. -/
structure SubjectsSafe (state : SubjectState) : Prop where
  /-- A user has one live link for a day. -/
  live : ∀ link ∈ state.links.committed, ∀ link' ∈ state.links.committed, ∀ userId,
    link.userId = some userId → link'.userId = some userId → link.day = link'.day → link = link'
  /-- The rows of a user that is not erased have one target a day. -/
  rows : ∀ row ∈ state.rows, ∀ row' ∈ state.rows, row.userId = row'.userId →
    row.userId ∉ state.erased → row.day = row'.day → row.target = row'.target
  /-- The live links of an erased user are those that a hold covers. -/
  covered : ∀ userId ∈ state.erased, ∀ link ∈ state.links.committed, link.userId = some userId →
    coveredByHold link state.holds = true
  /-- No writer fails because a committed link could not be read back. -/
  readBack : ∀ n, state.calls n ≠ some (.failed .notReadBack)

/-- What a later state of a run keeps of an earlier one: a link keeps its reference and its day, and
it is linked to the user that it was linked to or to nobody; an erased user stays erased and gets no
live link. -/
structure SubjectsKept (state later : SubjectState) : Prop where
  links : ∀ link ∈ state.links.committed, ∀ link' ∈ later.links.committed, link'.ref = link.ref →
    link'.day = link.day ∧ (link'.userId = link.userId ∨ link'.userId = none)
  erased : ∀ userId ∈ state.erased, userId ∈ later.erased ∧ ∀ link ∈ later.links.committed,
    link.userId = some userId → link ∈ state.links.committed

/-- The commit of an erasure of a user who is erased already changes neither links nor markers. -/
def ErasesOnce (state : SubjectState) : SubjectEvent → Prop
  | .commit n => ∀ userId refs, state.calls n = some (.unlinking userId refs) →
      userId ∈ state.erased → (step state (.commit n)).links = state.links ∧
        (step state (.commit n)).markers = state.markers
  | _ => True

/-- Before the first transaction. -/
structure Initial (state : SubjectState) : Prop where
  unique : UniqueOn state.links.committed SubjectLink.ref
  live : UniqueOn state.links.committed SubjectLink.liveKey
  linked : ∀ link ∈ state.links.committed, ∀ userId, link.userId = some userId →
    userId ∈ state.users
  markers : ∀ userId ∈ state.markers, userId ∈ state.users ∧ ∀ link ∈ state.links.committed,
    link.userId = some userId → coveredByHold link state.holds = true
  erased : state.erased = state.markers
  noRows : state.rows = []
  noInserts : state.links.uncommitted = []
  noLocks : state.locks.held = []
  noCalls : ∀ n, state.calls n = none

/-! ## The invariant -/

variable {state next : SubjectState} {n m : ℕ}

def HasRow (state : SubjectState) (link : SubjectLink) : Prop :=
  link ∈ state.links.committed ∨ ∃ n, (n, link) ∈ state.links.uncommitted

def Selects (state : SubjectState) (userId : Uuid) (refs : List Uuid) : Prop :=
  (∀ link ∈ state.links.committed, link.ref ∈ refs ↔
    link.userId = some userId ∧ coveredByHold link state.holds = false) ∧
  ∀ ref ∈ refs, ∃ link ∈ state.links.committed, link.ref = ref

/-- The target of a writer: of a user without a marker it is the live link of the day, which is
committed or the writer's own. -/
def Targets (state : SubjectState) (n : ℕ) (userId : Uuid) (day : ℤ) (target : AuditTarget) :
    Prop :=
  userId ∉ state.users ∧ target = .user ∨
  userId ∈ state.users ∧ state.locks.Holds n .share userId ∧ ∃ ref, target = .userSubject ref ∧
    (userId ∉ state.markers → ⟨ref, some userId, day⟩ ∈ state.links.committed ∨
      (n, ⟨ref, some userId, day⟩) ∈ state.links.uncommitted)

def PhaseOk (state : SubjectState) (n : ℕ) : SubjectPhase → Prop
  | .begun _ _ => True
  | .known userId _ => userId ∈ state.users
  | .locked userId _ => userId ∈ state.users ∧ state.locks.Holds n .share userId
  | .inserting userId _ _ _ =>
    userId ∈ state.users ∧ state.locks.Holds n .share userId ∧ userId ∉ state.markers
  | .reselecting userId day _ =>
    userId ∈ state.users ∧ state.locks.Holds n .share userId ∧ userId ∉ state.markers ∧
      ∃ link ∈ state.links.committed, link.userId = some userId ∧ link.day = day
  | .insertingUnlinked userId _ _ =>
    userId ∈ state.users ∧ state.locks.Holds n .share userId ∧ userId ∈ state.markers
  | .targeted userId day target => state.Targets n userId day target
  | .written => True
  | .failed error => error ≠ .notReadBack
  | .rolledBack => True
  | .erasing _ => True
  | .erasingKnown userId => userId ∈ state.users
  | .erasingLocked userId => userId ∈ state.users ∧ state.locks.HoldsExclusively n userId
  | .unlinking userId refs =>
    userId ∈ state.users ∧ state.locks.HoldsExclusively n userId ∧ state.Selects userId refs
  | .noSubject userId => userId ∉ state.users
  | .erased => True

/-- What every state of a run satisfies. -/
structure Sound (state : SubjectState) : Prop where
  unique : state.links.Unique SubjectLink.ref
  live : ∀ link link' userId, state.HasRow link → state.HasRow link' →
    link.userId = some userId → link'.userId = some userId → link.day = link'.day →
      link.ref = link'.ref
  linked : ∀ link userId, state.HasRow link → link.userId = some userId → userId ∈ state.users
  pending : ∀ n link, (n, link) ∈ state.links.uncommitted → ∃ userId,
    state.calls n = some (.targeted userId link.day (.userSubject link.ref)) ∧
      (link.userId = some userId ∧ userId ∉ state.markers ∧ state.locks.Holds n .share userId ∨
        link.userId = none)
  phases : ∀ n phase, state.calls n = some phase → state.PhaseOk n phase
  rows : ∀ row ∈ state.rows, row.userId ∉ state.users ∧ row.target = .user ∨
    row.userId ∈ state.users ∧ ∃ ref, row.target = .userSubject ref ∧
      (row.userId ∉ state.markers → ⟨ref, some row.userId, row.day⟩ ∈ state.links.committed)
  markers : ∀ userId ∈ state.markers, ∀ link ∈ state.links.committed,
    link.userId = some userId → coveredByHold link state.holds = true
  erased : ∀ userId ∈ state.erased, userId ∈ state.markers ∨ userId ∉ state.users
  marked : ∀ userId ∈ state.markers, userId ∈ state.erased

lemma Sound.eq_of_ref_eq (h : state.Sound) {link link' : SubjectLink}
    (hlink : link ∈ state.links.committed) (hlink' : link' ∈ state.links.committed)
    (href : link.ref = link'.ref) : link = link' :=
  h.unique.uniqueOn_committed.eq_of_key_eq hlink hlink' href

lemma Initial.sound (h : state.Initial) : state.Sound where
  unique := by
    unfold Table.Unique
    rw [h.noInserts, List.map_nil, List.append_nil]
    exact h.unique
  live link link' userId hlink hlink' huser huser' hday := by
    have hcommitted : ∀ link, state.HasRow link → link ∈ state.links.committed := by
      rintro link (hlink | ⟨n, hlink⟩)
      · exact hlink
      · rw [h.noInserts] at hlink
        cases hlink
    have hkey : link.liveKey = link'.liveKey := by
      unfold SubjectLink.liveKey
      rw [huser, huser', hday]
    rw [h.live.eq_of_key_eq (hcommitted link hlink) (hcommitted link' hlink') hkey]
  linked link userId hlink huser := by
    rcases hlink with hlink | ⟨n, hlink⟩
    · exact h.linked link hlink userId huser
    · rw [h.noInserts] at hlink
      cases hlink
  pending n link hlink := by
    rw [h.noInserts] at hlink
    cases hlink
  phases n phase hcall := by
    rw [h.noCalls n] at hcall
    cases hcall
  rows row hrow := by
    rw [h.noRows] at hrow
    cases hrow
  markers userId huser := (h.markers userId huser).2
  erased userId huser := .inl (h.erased ▸ huser)
  marked userId huser := h.erased ▸ huser

/-- What the event of one transaction leaves of what the others know: it touches links and markers
only of users that it has locked. -/
structure Keeps (n : ℕ) (state next : SubjectState) : Prop where
  users : next.users = state.users
  holds : next.holds = state.holds
  locks : ∀ m mode userId, m ≠ n → state.locks.Holds m mode userId →
    next.locks.Holds m mode userId
  markers : ∀ userId ∈ state.markers, userId ∈ next.markers
  marks : ∀ userId ∈ next.markers, userId ∈ state.markers ∨ state.locks.HoldsExclusively n userId
  committed : ∀ link ∈ state.links.committed, link ∈ next.links.committed ∨
    ∃ userId, link.userId = some userId ∧ state.locks.HoldsExclusively n userId
  links : ∀ link ∈ next.links.committed, link ∈ state.links.committed ∨
    ∀ userId, link.userId = some userId → state.locks.Holds n .share userId
  uncommitted : ∀ m link, m ≠ n → (m, link) ∈ state.links.uncommitted →
    (m, link) ∈ next.links.uncommitted

variable {userId : Uuid}

lemma Keeps.not_mem_markers (h : Keeps n state next) (hmn : m ≠ n) {mode : LockMode}
    (hheld : state.locks.Holds m mode userId) (hnew : userId ∉ state.markers) :
    userId ∉ next.markers := by
  intro hmarked
  rcases h.marks userId hmarked with hold | hexclusive
  · exact hnew hold
  · exact LockTable.not_holds_of_exclusively hmn.symm hexclusive mode hheld

variable {link : SubjectLink}

lemma Keeps.mem_committed (h : Keeps n state next) (hmn : m ≠ n) {mode : LockMode}
    (hheld : state.locks.Holds m mode userId) (hlink : link ∈ state.links.committed)
    (huser : link.userId = some userId) :
    link ∈ next.links.committed := by
  rcases h.committed link hlink with hkept | ⟨other, hother, hexclusive⟩
  · exact hkept
  · obtain rfl := Option.some.inj (huser.symm.trans hother)
    exact absurd hheld (LockTable.not_holds_of_exclusively hmn.symm hexclusive mode)

variable {refs : List Uuid}

lemma Keeps.selects (h : Keeps n state next) (hunique : next.links.Unique SubjectLink.ref)
    (hmn : m ≠ n) (hheld : state.locks.HoldsExclusively m userId)
    (hselects : state.Selects userId refs) :
    next.Selects userId refs := by
  obtain ⟨hrefs, hlinks⟩ := hselects
  have hkept : ∀ ref ∈ refs, ∃ link ∈ next.links.committed, link.ref = ref ∧
      link ∈ state.links.committed := by
    intro ref href
    obtain ⟨link, hlink, rfl⟩ := hlinks ref href
    have huser := ((hrefs link hlink).mp href).1
    exact ⟨link, h.mem_committed hmn hheld hlink huser, rfl, hlink⟩
  refine ⟨fun link hlink => ?_, fun ref href => ?_⟩
  · rw [h.holds]
    rcases h.links link hlink with hold | hnew
    · exact hrefs link hold
    · refine iff_of_false (fun href => ?_) fun huser => ?_
      · obtain ⟨old, hold, hsame, hbefore⟩ := hkept link.ref href
        obtain rfl := hunique.uniqueOn_committed.eq_of_key_eq hold hlink hsame
        have huser := ((hrefs old hbefore).mp href).1
        exact LockTable.not_holds_of_exclusively hmn hheld .share (hnew userId huser)
      · exact LockTable.not_holds_of_exclusively hmn hheld .share (hnew userId huser.1)
  · obtain ⟨link, hlink, hsame, -⟩ := hkept ref href
    exact ⟨link, hlink, hsame⟩

variable {phase : SubjectPhase}

lemma Keeps.phaseOk (h : Keeps n state next) (hunique : next.links.Unique SubjectLink.ref)
    (hmn : m ≠ n) (hphase : state.PhaseOk m phase) :
    next.PhaseOk m phase := by
  cases phase with
  | begun userId day => trivial
  | known userId day => exact (h.users ▸ hphase : userId ∈ next.users)
  | locked userId day => exact ⟨h.users ▸ hphase.1, h.locks m _ _ hmn hphase.2⟩
  | inserting userId day races collisions =>
    exact ⟨h.users ▸ hphase.1, h.locks m _ _ hmn hphase.2.1,
      h.not_mem_markers hmn hphase.2.1 hphase.2.2⟩
  | reselecting userId day races =>
    obtain ⟨hknown, hheld, hnew, link, hlink, huser, hday⟩ := hphase
    exact ⟨h.users ▸ hknown, h.locks m _ _ hmn hheld, h.not_mem_markers hmn hheld hnew, link,
      h.mem_committed hmn hheld hlink huser, huser, hday⟩
  | insertingUnlinked userId day collisions =>
    exact ⟨h.users ▸ hphase.1, h.locks m _ _ hmn hphase.2.1, h.markers userId hphase.2.2⟩
  | targeted userId day target =>
    rcases hphase with hnobody | ⟨hknown, hheld, ref, htarget, hlive⟩
    · exact .inl (h.users ▸ hnobody)
    · refine .inr ⟨h.users ▸ hknown, h.locks m _ _ hmn hheld, ref, htarget, fun hnew => ?_⟩
      rcases hlive fun hmarked => hnew (h.markers userId hmarked) with hlink | hlink
      · exact .inl (h.mem_committed hmn hheld hlink rfl)
      · exact .inr (h.uncommitted m _ hmn hlink)
  | written => trivial
  | failed error => exact hphase
  | rolledBack => trivial
  | erasing userId => trivial
  | erasingKnown userId => exact (h.users ▸ hphase : userId ∈ next.users)
  | erasingLocked userId => exact ⟨h.users ▸ hphase.1, h.locks m _ _ hmn hphase.2⟩
  | unlinking userId refs =>
    exact ⟨h.users ▸ hphase.1, h.locks m _ _ hmn hphase.2.1,
      h.selects hunique hmn hphase.2.1 hphase.2.2⟩
  | noSubject userId => exact (h.users ▸ hphase : userId ∉ next.users)
  | erased => trivial

variable {day : ℤ}

lemma liveKey_eq_inl :
    link.liveKey = .inl (userId, day) ↔ link.userId = some userId ∧ link.day = day := by
  unfold SubjectLink.liveKey
  split
  · next owner howner => simp [howner]
  · next hnone => simp [hnone]

lemma mem_of_liveRef {userId ref : Uuid} (h : state.liveRef userId day = some ref) :
    ⟨ref, some userId, day⟩ ∈ state.links.committed := by
  unfold liveRef at h
  obtain ⟨link, hfind, rfl⟩ := Option.map_eq_some_iff.mp h
  have hlink := List.mem_of_find?_eq_some hfind
  have hmatch : link.userId = some userId ∧ link.day = day := by
    simpa using List.find?_some hfind
  rw [← hmatch.1, ← hmatch.2]
  exact hlink

lemma not_exists_of_liveRef (h : state.liveRef userId day = none) :
    ¬ ∃ link ∈ state.links.committed, link.userId = some userId ∧ link.day = day := by
  rintro ⟨link, hlink, hmatch⟩
  unfold liveRef at h
  have hnone := List.find?_eq_none.mp (Option.map_eq_none_iff.mp h) link hlink
  exact hnone (decide_eq_true hmatch)

lemma Sound.selects_uncoveredRefs (h : state.Sound) (userId : Uuid) :
    state.Selects userId (state.uncoveredRefs userId) := by
  unfold uncoveredRefs
  refine ⟨fun link hlink => ⟨fun href => ?_, fun hmatch => ?_⟩, fun ref href => ?_⟩
  · obtain ⟨other, hother, hsame⟩ := List.mem_map.mp href
    obtain ⟨hother, hmatch⟩ := List.mem_filter.mp hother
    obtain rfl := h.eq_of_ref_eq hother hlink hsame
    exact of_decide_eq_true hmatch
  · exact List.mem_map_of_mem (List.mem_filter.mpr ⟨hlink, decide_eq_true hmatch⟩)
  · obtain ⟨link, hlink, hsame⟩ := List.mem_map.mp href
    exact ⟨link, List.mem_of_mem_filter hlink, hsame⟩

/-! ## One event -/

lemma calls_setPhase {phase other : SubjectPhase}
    (h : (state.setPhase n phase).calls m = some other) :
    m = n ∧ other = phase ∨ m ≠ n ∧ state.calls m = some other := by
  unfold setPhase at h
  exact Run.update_some_cases h

lemma Sound.phases_of_keeps (h : state.Sound) (hkeeps : Keeps n state next)
    (hunique : next.links.Unique SubjectLink.ref)
    (hcalls : next.calls = Function.update state.calls n (some phase))
    (hphase : next.PhaseOk n phase) (m : ℕ) (other : SubjectPhase)
    (hm : next.calls m = some other) : next.PhaseOk m other := by
  rw [hcalls] at hm
  rcases calls_setPhase hm with ⟨rfl, rfl⟩ | ⟨hmn, hm'⟩
  · exact hphase
  · exact hkeeps.phaseOk hunique hmn (h.phases m other hm')

section

variable (h : state.Sound)
  (hcall : ∀ userId day target, state.calls n ≠ some (.targeted userId day target))

include h hcall

lemma Sound.not_mem_uncommitted (link : SubjectLink) : (n, link) ∉ state.links.uncommitted := by
  intro hlink
  obtain ⟨userId, htargeted, -⟩ := h.pending n link hlink
  exact hcall userId _ _ htargeted

lemma Sound.enter {locks : LockTable Uuid ℕ}
    (hlocks : ∀ m mode userId, state.locks.Holds m mode userId →
      locks.Holds m mode userId) (hphase : PhaseOk { state with locks := locks } n phase) :
    (SubjectState.setPhase { state with locks := locks } n phase).Sound := by
  have hkeeps : Keeps n state (SubjectState.setPhase { state with locks := locks } n phase) :=
    ⟨rfl, rfl, fun m mode userId _ hheld => hlocks m mode userId hheld, fun _ hmarked => hmarked,
      fun _ hmarked => .inl hmarked, fun _ hlink => .inl hlink, fun _ hlink => .inl hlink,
      fun _ _ _ hlink => hlink⟩
  refine ⟨h.unique, h.live, h.linked, fun m link hlink => ?_,
    h.phases_of_keeps hkeeps h.unique rfl hphase, h.rows, h.markers, h.erased, h.marked⟩
  have hmn : m ≠ n := by
    rintro rfl
    exact h.not_mem_uncommitted hcall link hlink
  obtain ⟨userId, htargeted, hlink⟩ := h.pending m link hlink
  refine ⟨userId, by simp [setPhase, hmn, htargeted], ?_⟩
  rcases hlink with ⟨huser, hnew, hheld⟩ | hnone
  · exact .inl ⟨huser, hnew, hlocks m .share userId hheld⟩
  · exact .inr hnone

end

lemma Sound.setPhase (h : state.Sound)
    (hcall : ∀ userId day target, state.calls n ≠ some (.targeted userId day target))
    {phase : SubjectPhase} (hphase : state.PhaseOk n phase) : (state.setPhase n phase).Sound :=
  h.enter hcall (fun _ _ _ hheld => hheld) hphase

lemma Sound.endWithout (h : state.Sound) (n : ℕ) {phase : SubjectPhase}
    (hphase : (state.endWithout n phase).PhaseOk n phase) : (state.endWithout n phase).Sound := by
  have hkeeps : Keeps n state (state.endWithout n phase) :=
    ⟨rfl, rfl, fun _ _ _ hmn hheld => LockTable.Holds.of_release hmn hheld,
      fun _ hmarked => hmarked, fun _ hmarked => .inl hmarked, fun _ hlink => .inl hlink,
      fun _ hlink => .inl hlink,
      fun _ _ hmn hlink => Table.mem_uncommitted_rollback.mpr ⟨hlink, hmn⟩⟩
  have hrow : ∀ link, (state.endWithout n phase).HasRow link → state.HasRow link := by
    rintro link (hlink | ⟨m, hlink⟩)
    · exact .inl hlink
    · exact .inr ⟨m, (Table.mem_uncommitted_rollback.mp hlink).1⟩
  refine ⟨h.unique.rollback n, fun link link' userId hlink hlink' =>
    h.live link link' userId (hrow link hlink) (hrow link' hlink'),
    fun link userId hlink => h.linked link userId (hrow link hlink), fun m link hlink => ?_,
    h.phases_of_keeps hkeeps (h.unique.rollback n) rfl hphase, h.rows, h.markers, h.erased,
    h.marked⟩
  obtain ⟨hlink, hmn⟩ := Table.mem_uncommitted_rollback.mp hlink
  obtain ⟨userId, htargeted, hpending⟩ := h.pending m link hlink
  refine ⟨userId, by simp [SubjectState.endWithout, SubjectState.setPhase, hmn, htargeted], ?_⟩
  rcases hpending with ⟨huser, hnew, hheld⟩ | hnone
  · exact .inl ⟨huser, hnew, LockTable.Holds.of_release hmn hheld⟩
  · exact .inr hnone

lemma Sound.insert (h : state.Sound)
    (hcall : ∀ userId day target, state.calls n ≠ some (.targeted userId day target))
    {link : SubjectLink} {userId : Uuid}
    (hinserted : state.links.tryInsert SubjectLink.ref n link.ref = .inserted)
    (hlive : ∀ other owner, state.HasRow other → link.userId = some owner →
      other.userId = some owner → other.day ≠ link.day)
    (huser : link.userId = some userId ∧ userId ∉ state.markers ∨
      link.userId = none ∧ userId ∈ state.markers)
    (hknown : userId ∈ state.users) (hheld : state.locks.Holds n .share userId) :
    (SubjectState.setPhase { state with links := state.links.insert n link } n
      (.targeted userId link.day (.userSubject link.ref))).Sound := by
  have hunique := h.unique.insert hinserted
  have hkeeps : Keeps n state (SubjectState.setPhase { state with
      links := state.links.insert n link } n
        (.targeted userId link.day (.userSubject link.ref))) :=
    ⟨rfl, rfl, fun _ _ _ _ hheld => hheld, fun _ hmarked => hmarked,
      fun _ hmarked => .inl hmarked, fun _ hlink => .inl hlink, fun _ hlink => .inl hlink,
      fun _ _ _ hlink => Table.mem_uncommitted_insert.mpr (.inl hlink)⟩
  have hrow : ∀ other, (SubjectState.setPhase { state with
      links := state.links.insert n link } n
        (.targeted userId link.day (.userSubject link.ref))).HasRow other →
          state.HasRow other ∨ other = link := by
    rintro other (hother | ⟨m, hother⟩)
    · exact .inl (.inl hother)
    · rcases Table.mem_uncommitted_insert.mp hother with hother | ⟨-, rfl⟩
      · exact .inl (.inr ⟨m, hother⟩)
      · exact .inr rfl
  have hphase : PhaseOk (SubjectState.setPhase { state with
      links := state.links.insert n link } n
        (.targeted userId link.day (.userSubject link.ref))) n
          (.targeted userId link.day (.userSubject link.ref)) := by
    refine .inr ⟨hknown, hheld, link.ref, rfl, fun hnew => .inr ?_⟩
    rcases huser with ⟨hlinked, -⟩ | ⟨-, hmarked⟩
    · rw [← hlinked]
      exact Table.mem_uncommitted_insert.mpr (.inr ⟨rfl, rfl⟩)
    · exact absurd hmarked hnew
  refine ⟨hunique, fun first second owner hfirst hsecond hown hown' hday => ?_,
    fun other owner hother hown => ?_, fun m other hother => ?_,
    h.phases_of_keeps hkeeps hunique rfl hphase, h.rows, h.markers, h.erased, h.marked⟩
  · rcases hrow first hfirst with hfirst' | rfl
    · rcases hrow second hsecond with hsecond' | rfl
      · exact h.live first second owner hfirst' hsecond' hown hown' hday
      · exact absurd hday (hlive first owner hfirst' hown' hown)
    · rcases hrow second hsecond with hsecond' | rfl
      · exact absurd hday.symm (hlive second owner hsecond' hown hown')
      · rfl
  · rcases hrow other hother with hother | rfl
    · exact h.linked other owner hother hown
    · rcases huser with ⟨hlinked, -⟩ | ⟨hnone, -⟩
      · obtain rfl := Option.some.inj (hlinked.symm.trans hown)
        exact hknown
      · rw [hnone] at hown
        cases hown
  · rcases Table.mem_uncommitted_insert.mp hother with hother' | ⟨rfl, rfl⟩
    · have hmn : m ≠ n := by
        rintro rfl
        exact h.not_mem_uncommitted hcall other hother'
      obtain ⟨owner, htargeted, hpending⟩ := h.pending m other hother'
      exact ⟨owner, by simp [SubjectState.setPhase, hmn, htargeted], hpending⟩
    · refine ⟨userId, Function.update_self m _ state.calls, ?_⟩
      rcases huser with ⟨hlinked, hnew⟩ | ⟨hnone, -⟩
      · exact .inl ⟨hlinked, hnew, hheld⟩
      · exact .inr hnone

lemma Sound.collide (h : state.Sound)
    (hcall : ∀ userId day target, state.calls n ≠ some (.targeted userId day target))
    (collisions : ℕ) {again : ℕ → SubjectPhase} (hagain : ∀ k, state.PhaseOk n (again k)) :
    (state.collide n collisions again).Sound := by
  unfold SubjectState.collide
  split
  · exact h.setPhase hcall (hagain _)
  · exact h.endWithout n nofun

lemma calls_ne_targeted (hphase : state.calls n = some phase)
    (hne : ∀ userId day target, phase ≠ .targeted userId day target) (userId : Uuid) (day : ℤ)
    (target : AuditTarget) : state.calls n ≠ some (.targeted userId day target) := by
  rw [hphase]
  exact fun heq => hne userId day target (Option.some.inj heq)

lemma Sound.nextStatement (h : state.Sound) {phase : SubjectPhase}
    (hphase : state.calls n = some phase) (ref : Uuid) :
    (state.nextStatement n ref phase).Sound := by
  have hok := h.phases n phase hphase
  cases phase with
  | begun userId day =>
    have hcall := calls_ne_targeted hphase fun _ _ _ => nofun
    dsimp only [SubjectState.nextStatement]
    split
    · next hknown => exact h.setPhase hcall hknown
    · next hunknown => exact h.setPhase hcall (.inl ⟨hunknown, rfl⟩)
  | known userId day =>
    have hcall := calls_ne_targeted hphase fun _ _ _ => nofun
    dsimp only [SubjectState.nextStatement]
    split
    · next locks hlocks =>
      refine h.enter hcall (fun _ _ _ hheld => hheld.of_acquire hlocks) ⟨hok, ?_⟩
      exact LockTable.holds_of_acquire hlocks (List.mem_singleton_self userId)
    · exact h
  | locked userId day =>
    have hcall := calls_ne_targeted hphase fun _ _ _ => nofun
    dsimp only [SubjectState.nextStatement]
    split
    · next hmarked => exact h.setPhase hcall ⟨hok.1, hok.2, hmarked⟩
    · next hnew => exact h.setPhase hcall ⟨hok.1, hok.2, hnew⟩
  | inserting userId day races collisions =>
    have hcall := calls_ne_targeted hphase fun _ _ _ => nofun
    obtain ⟨hknown, hheld, hnew⟩ := hok
    dsimp only [SubjectState.nextStatement]
    split
    · exact h
    · next hviolates =>
      -- the writer has inserted nothing, so the conflict is with a committed link
      obtain ⟨link, hlink, hkey⟩ := Table.exists_committed_of_violates
        (fun entry hentry hown => h.not_mem_uncommitted hcall entry.2 (hown ▸ hentry)) hviolates
      exact h.setPhase hcall ⟨hknown, hheld, hnew, link, hlink, liveKey_eq_inl.mp hkey⟩
    · next hfree =>
      split
      · exact h
      · exact h.collide hcall collisions fun _ => ⟨hknown, hheld, hnew⟩
      · next hinserted =>
        obtain ⟨hcommitted, huncommitted⟩ := Table.tryInsert_eq_inserted.mp hfree
        refine h.insert hcall hinserted (fun other owner hother hown hown' hday => ?_)
          (.inl ⟨rfl, hnew⟩) hknown hheld
        obtain rfl := Option.some.inj hown
        have hkey := liveKey_eq_inl.mpr ⟨hown', hday⟩
        rcases hother with hother | ⟨m, hother⟩
        · exact hcommitted other hother hkey
        · exact huncommitted (m, other) hother hkey
  | reselecting userId day races =>
    have hcall := calls_ne_targeted hphase fun _ _ _ => nofun
    obtain ⟨hknown, hheld, hnew, hlink⟩ := hok
    dsimp only [SubjectState.nextStatement]
    split
    · next found hfound =>
      refine h.setPhase hcall (.inr ⟨hknown, hheld, found, rfl, fun _ => .inl ?_⟩)
      exact mem_of_liveRef hfound
    · next hnone => exact absurd hlink (not_exists_of_liveRef hnone)
  | insertingUnlinked userId day collisions =>
    have hcall := calls_ne_targeted hphase fun _ _ _ => nofun
    obtain ⟨hknown, hheld, hmarked⟩ := hok
    dsimp only [SubjectState.nextStatement]
    split
    · exact h
    · exact h.collide hcall collisions fun _ => ⟨hknown, hheld, hmarked⟩
    · next hinserted =>
      exact h.insert hcall hinserted (fun _ _ _ => nofun) (.inr ⟨rfl, hmarked⟩) hknown hheld
  | erasing userId =>
    have hcall := calls_ne_targeted hphase fun _ _ _ => nofun
    dsimp only [SubjectState.nextStatement]
    split
    · next hknown => exact h.setPhase hcall hknown
    · next hunknown => exact h.setPhase hcall hunknown
  | erasingKnown userId =>
    have hcall := calls_ne_targeted hphase fun _ _ _ => nofun
    dsimp only [SubjectState.nextStatement]
    split
    · next locks hlocks =>
      refine h.enter hcall (fun _ _ _ hheld => hheld.of_acquire hlocks) ⟨hok, ?_⟩
      exact LockTable.holdsExclusively_of_acquire hlocks (List.mem_singleton_self userId)
    · exact h
  | erasingLocked userId =>
    have hcall := calls_ne_targeted hphase fun _ _ _ => nofun
    exact h.setPhase hcall ⟨hok.1, hok.2, h.selects_uncoveredRefs userId⟩
  | targeted userId day target => exact h
  | written => exact h
  | failed error => exact h
  | rolledBack => exact h
  | unlinking userId refs => exact h
  | noSubject userId => exact h
  | erased => exact h

lemma Sound.commitWriter (h : state.Sound) {target : AuditTarget}
    (hphase : state.calls n = some (.targeted userId day target)) :
    (state.commitCall n (.targeted userId day target)).Sound := by
  have hown : ∀ link, (n, link) ∈ state.links.uncommitted → ∀ owner, link.userId = some owner →
      owner ∉ state.markers ∧ state.locks.Holds n .share owner := by
    intro link hlink owner howner
    obtain ⟨user, -, ⟨huser, hnew, hheld⟩ | hnone⟩ := h.pending n link hlink
    · obtain rfl := Option.some.inj (huser.symm.trans howner)
      exact ⟨hnew, hheld⟩
    · rw [hnone] at howner
      cases howner
  have hkeeps : Keeps n state (state.commitCall n (.targeted userId day target)) := by
    refine ⟨rfl, rfl, fun _ _ _ hmn hheld => LockTable.Holds.of_release hmn hheld,
      fun _ hmarked => hmarked, fun _ hmarked => .inl hmarked,
      fun _ hlink => .inl (Table.mem_committed_commit.mpr (.inl hlink)), fun link hlink => ?_,
      fun _ _ hmn hlink => Table.mem_uncommitted_commit.mpr ⟨hlink, hmn⟩⟩
    rcases Table.mem_committed_commit.mp hlink with hold | hnew
    · exact .inl hold
    · exact .inr fun owner howner => (hown link hnew owner howner).2
  have hrow : ∀ link, (state.commitCall n (.targeted userId day target)).HasRow link →
      state.HasRow link := by
    rintro link (hlink | ⟨m, hlink⟩)
    · rcases Table.mem_committed_commit.mp hlink with hold | hnew
      · exact .inl hold
      · exact .inr ⟨n, hnew⟩
    · exact .inr ⟨m, (Table.mem_uncommitted_commit.mp hlink).1⟩
  refine ⟨h.unique.commit n, fun link link' owner hlink hlink' =>
    h.live link link' owner (hrow link hlink) (hrow link' hlink'),
    fun link owner hlink => h.linked link owner (hrow link hlink), fun m link hlink => ?_,
    h.phases_of_keeps hkeeps (h.unique.commit n) rfl trivial, fun row hrow => ?_,
    fun owner hmarked link hlink howner => ?_, h.erased, h.marked⟩
  · obtain ⟨hlink, hmn⟩ := Table.mem_uncommitted_commit.mp hlink
    obtain ⟨owner, htargeted, hpending⟩ := h.pending m link hlink
    refine ⟨owner, by simp [SubjectState.commitCall, SubjectState.setPhase, hmn, htargeted], ?_⟩
    rcases hpending with ⟨huser, hnew, hheld⟩ | hnone
    · exact .inl ⟨huser, hnew, LockTable.Holds.of_release hmn hheld⟩
    · exact .inr hnone
  · rcases List.mem_cons.mp hrow with rfl | hrow
    · rcases h.phases n _ hphase with hnobody | ⟨hknown, -, ref, htarget, hlive⟩
      · exact .inl hnobody
      · refine .inr ⟨hknown, ref, htarget, fun hnew => Table.mem_committed_commit.mpr ?_⟩
        exact hlive hnew
    · rcases h.rows row hrow with hnobody | ⟨hknown, ref, htarget, hlive⟩
      · exact .inl hnobody
      · exact .inr ⟨hknown, ref, htarget, fun hnew =>
          Table.mem_committed_commit.mpr (.inl (hlive hnew))⟩
  · rcases Table.mem_committed_commit.mp hlink with hold | hnew
    · exact h.markers owner hmarked link hold howner
    · exact absurd hmarked (hown link hnew owner howner).1

lemma of_mem_unlinked (hlink : link ∈ state.links.committed.map (unlink refs))
    (huser : link.userId = some userId) :
    link ∈ state.links.committed ∧ link.ref ∉ refs := by
  obtain ⟨old, hold, rfl⟩ := List.mem_map.mp hlink
  unfold unlink at huser ⊢
  split at huser
  · cases huser
  · next hout =>
    rw [if_neg hout]
    exact ⟨hold, hout⟩

lemma mem_unlinked (hlink : link ∈ state.links.committed) (hout : link.ref ∉ refs) :
    link ∈ state.links.committed.map (unlink refs) :=
  List.mem_map.mpr ⟨link, hlink, if_neg hout⟩

lemma Sound.commitErasure (h : state.Sound)
    (hphase : state.calls n = some (.unlinking userId refs)) :
    (state.commitCall n (.unlinking userId refs)).Sound := by
  obtain ⟨hknown, hexclusive, hselects, -⟩ := h.phases n _ hphase
  have hunique : (state.links.update (unlink refs)).Unique SubjectLink.ref := by
    refine h.unique.update fun link => ?_
    unfold unlink
    split <;> rfl
  have hkept : ∀ link ∈ state.links.committed, link.userId ≠ some userId → link.ref ∉ refs :=
    fun link hlink hother href => hother ((hselects link hlink).mp href).1
  have hkeeps : Keeps n state (state.commitCall n (.unlinking userId refs)) := by
    refine ⟨rfl, rfl, fun _ _ _ hmn hheld => LockTable.Holds.of_release hmn hheld,
      fun _ hmarked => List.mem_insert_of_mem hmarked, fun owner hmarked => ?_,
      fun link hlink => ?_, fun link hlink => ?_, fun _ _ _ hlink => hlink⟩
    · rcases List.mem_insert_iff.mp hmarked with rfl | hold
      · exact .inr hexclusive
      · exact .inl hold
    · by_cases href : link.ref ∈ refs
      · exact .inr ⟨userId, ((hselects link hlink).mp href).1, hexclusive⟩
      · exact .inl (mem_unlinked hlink href)
    · cases howner : link.userId with
      | none => exact .inr fun _ => nofun
      | some owner => exact .inl (of_mem_unlinked hlink howner).1
  have hrow : ∀ link owner, (state.commitCall n (.unlinking userId refs)).HasRow link →
      link.userId = some owner → state.HasRow link := by
    rintro link owner (hlink | hlink) howner
    · exact .inl (of_mem_unlinked hlink howner).1
    · exact .inr hlink
  refine ⟨hunique, fun link link' owner hlink hlink' howner howner' =>
    h.live link link' owner (hrow link owner hlink howner) (hrow link' owner hlink' howner') howner
      howner', fun link owner hlink howner => h.linked link owner (hrow link owner hlink howner)
      howner, fun m link hlink => ?_, h.phases_of_keeps hkeeps hunique rfl trivial,
    fun row hrow => ?_, fun owner hmarked link hlink howner => ?_, fun owner herased => ?_,
    fun owner hmarked => ?_⟩
  · obtain ⟨owner, htargeted, hpending⟩ := h.pending m link hlink
    have hmn : m ≠ n := by
      rintro rfl
      rw [hphase] at htargeted
      cases htargeted
    refine ⟨owner, by simp [SubjectState.commitCall, SubjectState.setPhase, hmn, htargeted], ?_⟩
    rcases hpending with ⟨howner, hnew, hheld⟩ | hnone
    · exact .inl ⟨howner, hkeeps.not_mem_markers hmn hheld hnew,
        LockTable.Holds.of_release hmn hheld⟩
    · exact .inr hnone
  · rcases h.rows row hrow with hnobody | ⟨hexists, ref, htarget, hlive⟩
    · exact .inl hnobody
    · refine .inr ⟨hexists, ref, htarget, fun hnew => ?_⟩
      have hlink := hlive fun hmarked => hnew (List.mem_insert_of_mem hmarked)
      refine mem_unlinked hlink (hkept _ hlink fun hsame => ?_)
      exact hnew (List.mem_insert_iff.mpr (.inl (Option.some.inj hsame)))
  · obtain ⟨hold, hout⟩ := of_mem_unlinked hlink howner
    rcases List.mem_insert_iff.mp hmarked with rfl | hmarked
    · -- the link was not selected, so a hold covers it
      by_contra huncovered
      exact hout ((hselects link hold).mpr ⟨howner, Bool.eq_false_iff.mpr huncovered⟩)
    · exact h.markers owner hmarked link hold howner
  · rcases List.mem_cons.mp herased with rfl | herased
    · exact .inl (List.mem_insert_iff.mpr (.inl rfl))
    · exact (h.erased owner herased).imp_left List.mem_insert_of_mem
  · rcases List.mem_insert_iff.mp hmarked with rfl | hmarked
    · exact List.mem_cons_self
    · exact List.mem_cons_of_mem _ (h.marked owner hmarked)

lemma Sound.commitNoSubject (h : state.Sound) (hphase : state.calls n = some (.noSubject userId)) :
    (state.commitCall n (.noSubject userId)).Sound := by
  have hsound : (state.setPhase n .erased).Sound :=
    h.setPhase (calls_ne_targeted hphase fun _ _ _ => nofun) trivial
  refine ⟨hsound.unique, hsound.live, hsound.linked, hsound.pending, hsound.phases, hsound.rows,
    hsound.markers, fun owner herased => ?_, fun owner hmarked =>
      List.mem_cons_of_mem _ (h.marked owner hmarked)⟩
  rcases List.mem_cons.mp herased with rfl | herased
  · exact .inr (h.phases n _ hphase)
  · exact h.erased owner herased

lemma Sound.step (h : state.Sound) (event : SubjectEvent) : (state.step event).Sound := by
  cases event with
  | midnight =>
    exact ⟨h.unique, h.live, h.linked, h.pending, fun n phase hphase => by
      have hok := h.phases n phase hphase
      cases phase <;> exact hok, h.rows, h.markers, h.erased, h.marked⟩
  | write n userId =>
    dsimp only [SubjectState.step]
    split
    · next hfree => exact h.setPhase (by rw [hfree]; exact fun _ _ _ => nofun) trivial
    · exact h
  | erase n userId =>
    dsimp only [SubjectState.step]
    split
    · next hfree => exact h.setPhase (by rw [hfree]; exact fun _ _ _ => nofun) trivial
    · exact h
  | next n ref =>
    dsimp only [SubjectState.step]
    split
    · next phase hphase => exact h.nextStatement hphase ref
    · exact h
  | commit n =>
    dsimp only [SubjectState.step]
    split
    · next phase hphase =>
      cases phase with
      | targeted userId day target => exact h.commitWriter hphase
      | unlinking userId refs => exact h.commitErasure hphase
      | noSubject userId => exact h.commitNoSubject hphase
      | begun userId day => exact h
      | known userId day => exact h
      | locked userId day => exact h
      | inserting userId day races collisions => exact h
      | reselecting userId day races => exact h
      | insertingUnlinked userId day collisions => exact h
      | written => exact h
      | failed error => exact h
      | rolledBack => exact h
      | erasing userId => exact h
      | erasingKnown userId => exact h
      | erasingLocked userId => exact h
      | erased => exact h
    · exact h
  | rollback n =>
    dsimp only [SubjectState.step]
    split
    · exact h
    · exact h
    · exact h
    · exact h.endWithout n trivial
    · exact h

/-! ## What follows from it -/

lemma Sound.subjectsSafe (h : state.Sound) : state.SubjectsSafe where
  live link hlink link' hlink' userId huser huser' hday :=
    h.eq_of_ref_eq hlink hlink'
      (h.live link link' userId (.inl hlink) (.inl hlink') huser huser' hday)
  rows row hrow row' hrow' huser hliving hday := by
    have hnew : row.userId ∉ state.markers := fun hmarked => hliving (h.marked _ hmarked)
    rcases h.rows row hrow with ⟨hnobody, htarget⟩ | ⟨hknown, ref, htarget, hlive⟩
    · rcases h.rows row' hrow' with ⟨-, htarget'⟩ | ⟨hknown', -⟩
      · rw [htarget, htarget']
      · exact absurd (huser ▸ hknown') hnobody
    · rcases h.rows row' hrow' with ⟨hnobody', -⟩ | ⟨-, ref', htarget', hlive'⟩
      · exact absurd (huser ▸ hknown) hnobody'
      · have href : ref = ref' := h.live _ _ row.userId (.inl (hlive hnew))
          (.inl (hlive' (huser ▸ hnew))) rfl (congrArg some huser.symm) hday
        rw [htarget, htarget', href]
  covered userId herased link hlink huser := by
    rcases h.erased userId herased with hmarked | hunknown
    · exact h.markers userId hmarked link hlink huser
    · exact absurd (h.linked link userId (.inl hlink) huser) hunknown
  readBack n hcall := h.phases n _ hcall rfl

lemma Sound.erasesOnce (h : state.Sound) (event : SubjectEvent) : state.ErasesOnce event := by
  cases event with
  | commit n =>
    intro userId refs hphase herased
    obtain ⟨hknown, -, hselects, hlinks⟩ := h.phases n _ hphase
    have hmarked : userId ∈ state.markers :=
      (h.erased userId herased).resolve_right fun hunknown => hunknown hknown
    have hnone : refs = [] := by
      refine List.eq_nil_iff_forall_not_mem.mpr fun ref href => ?_
      obtain ⟨link, hlink, rfl⟩ := hlinks ref href
      obtain ⟨huser, huncovered⟩ := (hselects link hlink).mp href
      rw [h.markers userId hmarked link hlink huser] at huncovered
      cases huncovered
    subst hnone
    dsimp only [SubjectState.step]
    rw [hphase]
    refine ⟨?_, List.insert_of_mem hmarked⟩
    have hid : unlink [] = id := funext fun link => if_neg List.not_mem_nil
    change state.links.update (unlink []) = state.links
    rw [hid, Table.update, List.map_id]
  | midnight => trivial
  | write n userId => trivial
  | erase n userId => trivial
  | next n ref => trivial
  | rollback n => trivial

/-- What one event does to committed links: each is there afterwards, linked as before or unlinked,
and a live one is an old one, or one of a user who is not erased. -/
structure Evolves (state next : SubjectState) : Prop where
  links : ∀ link ∈ state.links.committed, ∃ link' ∈ next.links.committed, link'.ref = link.ref ∧
    link'.day = link.day ∧ (link'.userId = link.userId ∨ link'.userId = none)
  live : ∀ link ∈ next.links.committed, ∀ userId, link.userId = some userId →
    link ∈ state.links.committed ∨ userId ∉ state.erased
  erased : ∀ userId ∈ state.erased, userId ∈ next.erased

lemma Evolves.of_eq (hlinks : next.links.committed = state.links.committed)
    (herased : next.erased = state.erased) : Evolves state next where
  links link hlink := ⟨link, hlinks ▸ hlink, rfl, rfl, .inl rfl⟩
  live _ hlink _ _ := .inl (hlinks ▸ hlink)
  erased _ huser := herased ▸ huser

lemma nextStatement_committed (n : ℕ) (ref : Uuid) (phase : SubjectPhase) :
    (state.nextStatement n ref phase).links.committed = state.links.committed ∧
      (state.nextStatement n ref phase).erased = state.erased := by
  cases phase <;> dsimp only [SubjectState.nextStatement, SubjectState.collide] <;> repeat' split
  all_goals exact ⟨rfl, rfl⟩

lemma Sound.evolves (h : state.Sound) (event : SubjectEvent) :
    Evolves state (state.step event) := by
  cases event with
  | midnight => exact .of_eq rfl rfl
  | write n userId =>
    dsimp only [SubjectState.step]
    split <;> exact .of_eq rfl rfl
  | erase n userId =>
    dsimp only [SubjectState.step]
    split <;> exact .of_eq rfl rfl
  | next n ref =>
    dsimp only [SubjectState.step]
    split
    · next phase _ =>
      exact .of_eq (nextStatement_committed n ref phase).1 (nextStatement_committed n ref phase).2
    · exact .of_eq rfl rfl
  | commit n =>
    dsimp only [SubjectState.step]
    split
    · next phase hphase =>
      cases phase with
      | targeted userId day target =>
        refine ⟨fun link hlink => ⟨link, Table.mem_committed_commit.mpr (.inl hlink), rfl, rfl,
          .inl rfl⟩, fun link hlink owner howner => ?_, fun _ huser => huser⟩
        rcases Table.mem_committed_commit.mp hlink with hold | hnew
        · exact .inl hold
        · -- a user with a live link that is not committed has no marker
          obtain ⟨user, -, ⟨huser, hunmarked, -⟩ | hnone⟩ := h.pending n link hnew
          · obtain rfl := Option.some.inj (huser.symm.trans howner)
            refine .inr fun herased => ?_
            rcases h.erased user herased with hmarked | hunknown
            · exact hunmarked hmarked
            · exact hunknown (h.linked link user (.inr ⟨n, hnew⟩) huser)
          · rw [hnone] at howner
            cases howner
      | unlinking userId refs =>
        refine ⟨fun link hlink => ⟨unlink refs link, List.mem_map_of_mem hlink, ?_⟩,
          fun link hlink owner howner => .inl (of_mem_unlinked hlink howner).1,
          fun _ huser => List.mem_cons_of_mem _ huser⟩
        unfold unlink
        split
        · exact ⟨rfl, rfl, .inr rfl⟩
        · exact ⟨rfl, rfl, .inl rfl⟩
      | noSubject userId =>
        exact ⟨fun link hlink => ⟨link, hlink, rfl, rfl, .inl rfl⟩, fun _ hlink _ _ => .inl hlink,
          fun _ huser => List.mem_cons_of_mem _ huser⟩
      | begun userId day => exact .of_eq rfl rfl
      | known userId day => exact .of_eq rfl rfl
      | locked userId day => exact .of_eq rfl rfl
      | inserting userId day races collisions => exact .of_eq rfl rfl
      | reselecting userId day races => exact .of_eq rfl rfl
      | insertingUnlinked userId day collisions => exact .of_eq rfl rfl
      | written => exact .of_eq rfl rfl
      | failed error => exact .of_eq rfl rfl
      | rolledBack => exact .of_eq rfl rfl
      | erasing userId => exact .of_eq rfl rfl
      | erasingKnown userId => exact .of_eq rfl rfl
      | erasingLocked userId => exact .of_eq rfl rfl
      | erased => exact .of_eq rfl rfl
    · exact .of_eq rfl rfl
  | rollback n =>
    dsimp only [SubjectState.step]
    split <;> exact .of_eq rfl rfl

lemma Evolves.trans {middle : SubjectState} (h : Evolves state middle) (h' : Evolves middle next) :
    Evolves state next where
  links link hlink := by
    obtain ⟨link', hlink', href, hday, huser⟩ := h.links link hlink
    obtain ⟨link'', hlink'', href', hday', huser'⟩ := h'.links link' hlink'
    refine ⟨link'', hlink'', href'.trans href, hday'.trans hday, ?_⟩
    rcases huser' with hsame | hnone
    · rw [hsame]
      exact huser
    · exact .inr hnone
  live link hlink userId huser := by
    rcases h'.live link hlink userId huser with hmiddle | hliving
    · exact h.live link hmiddle userId huser
    · exact .inr fun herased => hliving (h.erased userId herased)
  erased userId huser := h'.erased userId (h.erased userId huser)

lemma Evolves.subjectsKept (h : Evolves state next) (hnext : next.Sound) :
    SubjectsKept state next where
  links link hlink link' hlink' hsame := by
    obtain ⟨link'', hlink'', href, hrest⟩ := h.links link hlink
    obtain rfl := hnext.eq_of_ref_eq hlink' hlink'' (hsame.trans href.symm)
    exact hrest
  erased userId huser := ⟨h.erased userId huser, fun link hlink howner =>
    (h.live link hlink userId howner).resolve_right fun hliving => hliving huser⟩

end SubjectState

open SubjectState

/-! ## Runs -/

/-- **The references of audit subjects** in every run: every state is safe, every later state keeps
what it has to of an earlier one, and an erased user is erased once. -/
theorem subjects_safe {start : SubjectState} (h : start.Initial) (events : List SubjectEvent) :
    Run.Always step SubjectsSafe start events ∧
      (∀ before middle after, events = before ++ middle ++ after →
        SubjectsKept (Run.run step start before) (Run.run step start (before ++ middle))) ∧
      Run.Along step ErasesOnce start events := by
  have hsound : ∀ before, Sound (Run.run step start before) :=
    Run.run_of_step (fun _ event h => h.step event) h.sound
  refine ⟨fun before _ _ => (hsound before).subjectsSafe, fun before middle _ _ => ?_, ?_⟩
  · rw [Run.run_append]
    have hevolves : ∀ middle, (Run.run step (Run.run step start before) middle).Sound ∧
        Evolves (Run.run step start before)
          (Run.run step (Run.run step start before) middle) :=
      Run.run_of_step (I := fun later : SubjectState =>
        later.Sound ∧ Evolves (Run.run step start before) later)
        (fun _ event hlater => ⟨hlater.1.step event, hlater.2.trans (hlater.1.evolves event)⟩)
        ⟨hsound before, .of_eq rfl rfl⟩
    exact (hevolves middle).2.subjectsKept (hevolves middle).1
  · exact Run.along_of_invariant (fun _ event h => h.step event)
      (fun _ event h => h.erasesOnce event) h.sound events

def oneUser : SubjectState where
  today := 5
  users := [1]
  holds := [⟨none, none, some 5⟩]
  links := Table.empty
  markers := []
  rows := []
  erased := []
  locks := LockTable.empty
  calls _ := none

lemma oneUser_initial : oneUser.Initial where
  unique := List.nodup_nil
  live := List.nodup_nil
  linked _ h := by cases h
  markers _ h := by cases h
  erased := rfl
  noRows := rfl
  noInserts := rfl
  noLocks := rfl
  noCalls _ := rfl

/-- Two writers race on day 5, the first wins; an erasure waits for the second, a third writer makes
the link of day 6 before the erasure, and a fourth one comes after it. -/
def raceAndErase : List SubjectEvent :=
  [.write 0 1, .write 1 1, .next 0 0, .next 1 0, .next 0 0, .next 1 0, .next 0 0, .next 1 0,
    .next 0 10, .next 1 11, .erase 2 1, .next 2 0, .next 2 0, .commit 0, .next 1 12, .next 1 0,
    .next 2 0, .commit 1, .midnight, .write 3 1, .next 3 0, .next 3 0, .next 3 0, .next 3 13,
    .commit 3, .next 2 0, .next 2 0, .commit 2, .write 4 1, .next 4 0, .next 4 0, .next 4 0,
    .next 4 14, .commit 4]

/-- The link of day 5 stays under the hold, that of day 6 is unlinked, and the last row has a
reference that never named anybody. -/
theorem subjects_safe_race :
    (Run.Always step SubjectsSafe oneUser raceAndErase ∧
      (∀ before middle after, raceAndErase = before ++ middle ++ after →
        SubjectsKept (Run.run step oneUser before) (Run.run step oneUser (before ++ middle))) ∧
      Run.Along step ErasesOnce oneUser raceAndErase) ∧
      (Run.run step oneUser raceAndErase).links.committed =
        [⟨10, some 1, 5⟩, ⟨13, none, 6⟩, ⟨14, none, 6⟩] :=
  ⟨subjects_safe oneUser_initial raceAndErase, by decide +kernel⟩

end SaasOs.AuditSubjects
