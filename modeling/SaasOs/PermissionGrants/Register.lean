import SaasOs.Authority.Caller
import SaasOs.Foundation.PyDatetime
import SaasOs.Foundation.Run

/-!
# The approver register

An append-only register of who may approve the deletion of ledger rows: a representative is proposed
and confirmed, enrols approvers, each for one natural person, and renews enrolments; enrolments and
designations are revoked by further entries.  An enrolment is active at an instant while it is
unexpired and unrevoked and its designation is too.
-/

namespace SaasOs.PermissionGrants

/-! ## Entries -/

inductive RegisterEntryType
  | proposal | designation | designationRevocation | enrolment | enrolmentRevocation
  deriving DecidableEq

/-- A row of `permission_grant_ledger_approver_register`. -/
structure RegisterEntry where
  id : Uuid
  entryType : RegisterEntryType
  subjectUserId : Uuid
  recordedByUserId : Uuid
  designationRef : Option String
  naturalPersonRef : Option String
  verificationRef : Option String
  authorisationRef : Option String
  ticketRef : String
  proposalEntryId : Option Uuid
  authorisedByEntryId : Option Uuid
  revokesEntryId : Option Uuid
  renewsEntryId : Option Uuid
  validUntil : Option Instant
  eligibleFrom : Option Instant
  proposalExpiresAt : Option Instant
  recordedAt : Instant
  deriving DecidableEq

abbrev Register := List RegisterEntry

/-- `value > at`, which no missing value is. -/
def IsAfter (value : Option Instant) (at' : Instant) : Prop := ∃ instant ∈ value, at' < instant

instance (value : Option Instant) (at' : Instant) : Decidable (IsAfter value at') :=
  inferInstanceAs (Decidable (∃ instant ∈ value, _))

lemma IsAfter.of_le {value : Option Instant} {at' later : Instant} (h : IsAfter value later)
    (hle : at' ≤ later) : IsAfter value at' := by
  obtain ⟨instant, hinstant, hlt⟩ := h
  exact ⟨instant, hinstant, lt_of_le_of_lt hle hlt⟩

namespace Register

def IsRevoked (register : Register) (id : Uuid) : Prop :=
  ∃ entry ∈ register, entry.revokesEntryId = some id

instance (register : Register) (id : Uuid) : Decidable (register.IsRevoked id) :=
  inferInstanceAs (Decidable (∃ entry ∈ register, _))

/-- `_designation_validity`, of one designation. -/
def designationValidity (register : Register) (id : Uuid) : Option Instant :=
  (register.find? fun entry => entry.id = id ∧ entry.entryType = .designation).bind
    fun entry => entry.validUntil

def DesignationLive (register : Register) (id : Option Uuid) (at' : Instant) : Prop :=
  ∃ designationId ∈ id, ¬ register.IsRevoked designationId ∧
    IsAfter (register.designationValidity designationId) at'

instance (register : Register) (id : Option Uuid) (at' : Instant) :
    Decidable (register.DesignationLive id at') :=
  inferInstanceAs (Decidable (∃ designationId ∈ id, _))

def IsActive (register : Register) (entry : RegisterEntry) (at' : Instant) : Prop :=
  entry.entryType = .enrolment ∧ IsAfter entry.validUntil at' ∧ ¬ register.IsRevoked entry.id ∧
    register.DesignationLive entry.authorisedByEntryId at'

instance (register : Register) (entry : RegisterEntry) (at' : Instant) :
    Decidable (register.IsActive entry at') :=
  inferInstanceAs (Decidable (_ ∧ _))

/-- `_active_enrolments` of a subject. -/
def activeEnrolments (register : Register) (subject : Uuid) (at' : Instant) : List RegisterEntry :=
  register.filter fun entry => register.IsActive entry at' ∧ entry.subjectUserId = subject

/-- `_active_enrolments` of a natural person. -/
def activeEnrolmentsOfPerson (register : Register) (person : String) (at' : Instant) :
    List RegisterEntry :=
  register.filter fun entry => register.IsActive entry at' ∧ entry.naturalPersonRef = some person

variable {register : Register} {at' : Instant} {enrolment : RegisterEntry}

@[simp] lemma mem_activeEnrolments {subject : Uuid} :
    enrolment ∈ register.activeEnrolments subject at' ↔
      enrolment ∈ register ∧ register.IsActive enrolment at' ∧
        enrolment.subjectUserId = subject := by
  simp [activeEnrolments]

@[simp] lemma mem_activeEnrolmentsOfPerson {person : String} :
    enrolment ∈ register.activeEnrolmentsOfPerson person at' ↔
      enrolment ∈ register ∧ register.IsActive enrolment at' ∧
        enrolment.naturalPersonRef = some person := by
  simp [activeEnrolmentsOfPerson]

def SuspendedVerificationReused (register : Register) (subject : Uuid)
    (person verification : String) (at' : Instant) : Prop :=
  ∃ entry ∈ register, entry.entryType = .enrolment ∧ entry.verificationRef = some verification ∧
    (entry.subjectUserId = subject ∨ entry.naturalPersonRef = some person) ∧
    ¬ register.DesignationLive entry.authorisedByEntryId at'

instance (register : Register) (subject : Uuid) (person verification : String) (at' : Instant) :
    Decidable (register.SuspendedVerificationReused subject person verification at') :=
  inferInstanceAs (Decidable (∃ entry ∈ register, _))

end Register

/-- An entry comes before another one in the order of `(valid_until, str(id))`; the texts of two ids
are in the order of the ids. -/
def RegisterEntry.LastsLess (entry other : RegisterEntry) : Prop :=
  entry.validUntil.getD 0 < other.validUntil.getD 0 ∨
    entry.validUntil.getD 0 = other.validUntil.getD 0 ∧ entry.id < other.id

instance (entry other : RegisterEntry) : Decidable (entry.LastsLess other) :=
  inferInstanceAs (Decidable (_ ∨ _))

/-- `max` by that key: the first of the greatest entries. -/
def longest : List RegisterEntry → Option RegisterEntry
  | [] => none
  | entry :: entries =>
    match longest entries with
    | none => some entry
    | some best => if entry.LastsLess best then some best else some entry

variable {entries : List RegisterEntry}

lemma mem_of_longest {entry : RegisterEntry} (h : longest entries = some entry) :
    entry ∈ entries := by
  induction entries generalizing entry with
  | nil => cases h
  | cons first entries ih =>
    unfold longest at h
    split at h
    · obtain rfl := Option.some.inj h
      exact List.mem_cons_self
    · next best hbest =>
      split at h
      · obtain rfl := Option.some.inj h
        exact List.mem_cons_of_mem first (ih hbest)
      · obtain rfl := Option.some.inj h
        exact List.mem_cons_self

lemma longest_eq_none (h : longest entries = none) :
    entries = [] := by
  cases entries with
  | nil => rfl
  | cons first entries =>
    unfold longest at h
    split at h
    · cases h
    · split at h <;> cases h

def Register.activeDesignation (register : Register) (userId : Uuid) (at' : Instant) :
    Option RegisterEntry :=
  longest (register.filter fun entry => entry.entryType = .designation ∧
    entry.subjectUserId = userId ∧ IsAfter entry.validUntil at' ∧ ¬ register.IsRevoked entry.id)

lemma Register.isRevoked_of_activeDesignation_eq_none {register : Register} {userId : Uuid}
    {at' : Instant} (h : register.activeDesignation userId at' = none) {designation : RegisterEntry}
    (hmem : designation ∈ register) (htype : designation.entryType = .designation)
    (hsubject : designation.subjectUserId = userId) (hvalid : IsAfter designation.validUntil at') :
    register.IsRevoked designation.id := by
  have hnone := List.filter_eq_nil_iff.mp (longest_eq_none h) designation hmem
  simp only [htype, hsubject, hvalid, true_and, decide_eq_true_eq, not_not] at hnone
  exact hnone

/-! ## Eligibility -/

inductive EnrolmentState
  | eligible | waiting | expired | revoked | suspended
  deriving DecidableEq

/-- `enrolment_state`, of an enrolment. -/
def enrolmentState (enrolment : RegisterEntry) (revokedEntryIds : List Uuid)
    (designationValidUntil : Option Instant) (now : Instant) : EnrolmentState :=
  if enrolment.id ∈ revokedEntryIds then .revoked
  else if (∃ id ∈ enrolment.authorisedByEntryId, id ∈ revokedEntryIds) ∨
      ¬ IsAfter designationValidUntil now then .suspended
  else if ¬ IsAfter enrolment.validUntil now then .expired
  else if IsAfter enrolment.eligibleFrom now then .waiting
  else .eligible

def revokedEntryIds (entries : List RegisterEntry) : List Uuid :=
  entries.filterMap fun entry => entry.revokesEntryId

def enrolmentStateIn (entries : List RegisterEntry) (enrolment : RegisterEntry) (now : Instant) :
    EnrolmentState :=
  enrolmentState enrolment (revokedEntryIds entries)
    (enrolment.authorisedByEntryId.bind (Register.designationValidity entries)) now

def approverEligibility (entries : List RegisterEntry) (userId : Uuid) (now : Instant) :
    Option RegisterEntry :=
  longest (entries.filter fun entry => entry.entryType = .enrolment ∧
    entry.subjectUserId = userId ∧ enrolmentStateIn entries entry now = .eligible)

def Register.entriesForEligibility (register : Register) (userId : Uuid) : List RegisterEntry :=
  let enrolments := register.filter fun entry => entry.entryType = .enrolment ∧
    entry.subjectUserId = userId
  let designationIds := enrolments.filterMap fun entry => entry.authorisedByEntryId
  let designations := register.filter fun entry => entry.id ∈ designationIds ∧
    entry.entryType = .designation
  let linked := enrolments.map (fun entry => entry.id) ++ designationIds
  let revocations := register.filter fun entry => ∃ id ∈ entry.revokesEntryId, id ∈ linked
  enrolments ++ designations ++ revocations

def Register.eligibleEnrolment (register : Register) (userId : Uuid) (at' : Instant) :
    Option RegisterEntry :=
  approverEligibility (register.entriesForEligibility userId) userId at'

/-! ## Writes -/

def proposalValidity : Instant := 72 * 3600 * PyDatetime.second

def eligibilityDelay : Instant := 120 * 86400 * PyDatetime.second

/-- `twelve_months_after`: the same day a year later, or the last day of February. -/
def twelveMonthsAfter (moment : Instant) : Instant :=
  let day := 86400 * PyDatetime.second
  let date := PyDatetime.fromOrdinal ((moment / day).toNat + 1)
  let next := PyDatetime.toOrdinal (date.1 + 1) date.2.1
    (min date.2.2 (PyDatetime.daysInMonth (date.1 + 1) date.2.1))
  moment + (next - PyDatetime.toOrdinal date.1 date.2.1 date.2.2 : ℤ) * day

inductive RegisterError
  | refused (code : String)
  | recordNotFound (code : String)
  | invalidRequest (message : String)

/-- What a write returns: the new entry, or the one that the same act wrote before. -/
inductive RegisterAnswer
  | written (entry : RegisterEntry)
  | replay (entry : RegisterEntry)

/-- What a write reads besides the register: the users, their platform permissions, who enrolled or
granted whom, and whether an entry was written by this caller's act for this reason. -/
structure RegisterWorld where
  userExists : Uuid → Bool
  holdsAuthorityManage : Uuid → Bool
  holdsHoldManage : Uuid → Bool
  provenanceLinked : Uuid → Uuid → Bool
  sameAct : Uuid → Bool

def demand (condition : Prop) [Decidable condition] (error : RegisterError) :
    Except RegisterError Unit :=
  if condition then .ok () else .error error

@[simp] lemma demand_eq_ok {condition : Prop} [Decidable condition] {error : RegisterError}
    {u : Unit} : demand condition error = .ok u ↔ condition := by
  unfold demand
  split <;> simp_all

/-- `_validity`. -/
def demandValidity (validUntil at' after : Instant) : Except RegisterError Unit :=
  demand (after < validUntil ∧ validUntil ≤ twelveMonthsAfter at') (.invalidRequest
    "valid_until must be after the start of eligibility and at most 12 months away.")

namespace Register

def entry (register : Register) (id : Uuid) (entryType : RegisterEntryType) (subject : Uuid) :
    Except RegisterError RegisterEntry :=
  match register.find? fun entry => entry.id = id with
  | some entry =>
    if entry.entryType = entryType ∧ entry.subjectUserId = subject then .ok entry
    else .error (.recordNotFound "register_entry_not_found")
  | none => .error (.recordNotFound "register_entry_not_found")

def IsConfirmed (register : Register) (id : Uuid) : Prop :=
  ∃ entry ∈ register, entry.proposalEntryId = some id

instance (register : Register) (id : Uuid) : Decidable (register.IsConfirmed id) :=
  inferInstanceAs (Decidable (∃ entry ∈ register, _))

end Register

section Writes

variable (world : RegisterWorld) (register : Register) (at' : Instant) (newId caller : Uuid)

def proposeRepresentativeDesignation (subject : Uuid) (designation ticket : String)
    (validUntil : Instant) : Except RegisterError RegisterAnswer := do
  let _ ← demandValidity validUntil at' at'
  let _ ← demand (world.userExists subject = true) (.recordNotFound "subject_not_found")
  let _ ← demand (subject ≠ caller) (.refused "register_subject_is_caller")
  match register.find? fun entry => entry.entryType = .proposal ∧
      entry.subjectUserId = subject ∧ entry.recordedByUserId = caller ∧
      IsAfter entry.proposalExpiresAt at' ∧ entry.designationRef = some designation ∧
      entry.ticketRef = ticket ∧ entry.validUntil = some validUntil ∧
      ¬ register.IsConfirmed entry.id ∧ world.sameAct entry.id = true with
  | some existing => return .replay existing
  | none =>
    let _ ← demand (¬ ∃ entry ∈ register, entry.entryType = .proposal ∧
      entry.subjectUserId = subject ∧ IsAfter entry.proposalExpiresAt at' ∧
      ¬ register.IsConfirmed entry.id) (.refused "proposal_already_pending")
    let _ ← demand (world.holdsAuthorityManage subject = false)
      (.refused "subject_holds_authority_manage")
    let _ ← demand (register.activeEnrolments subject at' = []) (.refused "subject_is_approver")
    return .written {
      id := newId
      entryType := .proposal
      subjectUserId := subject
      recordedByUserId := caller
      designationRef := some designation
      naturalPersonRef := none
      verificationRef := none
      authorisationRef := none
      ticketRef := ticket
      proposalEntryId := none
      authorisedByEntryId := none
      revokesEntryId := none
      renewsEntryId := none
      validUntil := some validUntil
      eligibleFrom := none
      proposalExpiresAt := some (at' + proposalValidity)
      recordedAt := at' }

def confirmRepresentativeDesignation (subject proposalId : Uuid) (ticket : String) :
    Except RegisterError RegisterAnswer := do
  let proposal ← register.entry proposalId .proposal subject
  let _ ← demand (world.holdsAuthorityManage caller = false)
    (.refused "party_holds_authority_manage")
  match register.find? fun entry => entry.proposalEntryId = some proposal.id with
  | some existing =>
    let _ ← demand (existing.recordedByUserId = caller ∧ existing.ticketRef = ticket ∧
      world.sameAct existing.id = true) (.refused "proposal_already_confirmed")
    return .replay existing
  | none =>
    let _ ← demand (IsAfter proposal.proposalExpiresAt at' ∧ IsAfter proposal.validUntil at')
      (.refused "proposal_expired")
    let _ ← demand (caller ≠ subject) (.refused "register_subject_is_caller")
    let _ ← demand (caller ≠ proposal.recordedByUserId) (.refused "confirmer_is_proposer")
    let _ ← demand (world.holdsAuthorityManage subject = false)
      (.refused "subject_holds_authority_manage")
    let _ ← demand (register.activeEnrolments subject at' = []) (.refused "subject_is_approver")
    return .written {
      id := newId
      entryType := .designation
      subjectUserId := subject
      recordedByUserId := caller
      designationRef := proposal.designationRef
      naturalPersonRef := none
      verificationRef := none
      authorisationRef := none
      ticketRef := ticket
      proposalEntryId := some proposal.id
      authorisedByEntryId := none
      revokesEntryId := none
      renewsEntryId := none
      validUntil := proposal.validUntil
      eligibleFrom := none
      proposalExpiresAt := none
      recordedAt := at' }

/-- The texts and times of an enrolment. -/
structure EnrolmentDetails where
  person : String
  verification : String
  authorisation : String
  ticket : String
  validUntil : Instant
  renewsEntryId : Option Uuid

def Register.Renewable (register : Register) (subject : Uuid) (person : String) (at' : Instant)
    (id : Uuid) : Prop :=
  (∃ renewed ∈ register.activeEnrolments subject at', renewed.id = id ∧
    renewed.naturalPersonRef = some person) ∧
  ¬ ∃ entry ∈ register, entry.renewsEntryId = some id

instance (subject : Uuid) (person : String) (id : Uuid) :
    Decidable (register.Renewable subject person at' id) :=
  inferInstanceAs (Decidable (_ ∧ _))

def enrolApprover (subject : Uuid) (details : EnrolmentDetails) :
    Except RegisterError RegisterAnswer := do
  let _ ← demandValidity details.validUntil at' (at' + eligibilityDelay)
  let _ ← demand (world.holdsAuthorityManage caller = false)
    (.refused "party_holds_authority_manage")
  match register.activeDesignation caller at' with
  | none => .error (.refused "not_a_representative")
  | some designation =>
    let _ ← demand (world.userExists subject = true) (.recordNotFound "subject_not_found")
    let _ ← demand (subject ≠ caller) (.refused "register_subject_is_caller")
    match (register.activeEnrolments subject at').find? fun entry =>
        entry.recordedByUserId = caller ∧ entry.naturalPersonRef = some details.person ∧
        entry.verificationRef = some details.verification ∧
        entry.authorisationRef = some details.authorisation ∧ entry.ticketRef = details.ticket ∧
        entry.validUntil = some details.validUntil ∧
        entry.renewsEntryId = details.renewsEntryId ∧ world.sameAct entry.id = true with
    | some existing => return .replay existing
    | none =>
      let _ ← demand (world.holdsAuthorityManage subject = false)
        (.refused "subject_holds_authority_manage")
      let _ ← demand (world.holdsHoldManage subject = false) (.refused "subject_holds_hold_manage")
      let _ ← demand (register.activeDesignation subject at' = none)
        (.refused "subject_is_representative")
      let _ ← demand (world.provenanceLinked caller subject = false)
        (.refused "subject_linked_to_representative")
      let _ ← demand (¬ ∃ entry ∈ register, entry.entryType = .enrolment ∧
        entry.subjectUserId = caller ∧ entry.naturalPersonRef = some details.person)
        (.refused "natural_person_already_enrolled")
      let _ ← demand (∀ entry ∈ register.activeEnrolments subject at',
        some entry.id = details.renewsEntryId) (.refused "approver_already_enrolled")
      let _ ← demand (∀ entry ∈ register.activeEnrolmentsOfPerson details.person at',
        some entry.id = details.renewsEntryId) (.refused "natural_person_already_enrolled")
      let _ ← demand (¬ register.SuspendedVerificationReused subject details.person
        details.verification at') (.refused "verification_not_fresh")
      let _ ← demand (∀ id ∈ details.renewsEntryId,
        register.Renewable subject details.person at' id) (.refused "invalid_renewal")
      return .written {
        id := newId
        entryType := .enrolment
        subjectUserId := subject
        recordedByUserId := caller
        designationRef := none
        naturalPersonRef := some details.person
        verificationRef := some details.verification
        authorisationRef := some details.authorisation
        ticketRef := details.ticket
        proposalEntryId := none
        authorisedByEntryId := some designation.id
        revokesEntryId := none
        renewsEntryId := details.renewsEntryId
        validUntil := some details.validUntil
        eligibleFrom := some (at' + eligibilityDelay)
        proposalExpiresAt := none
        recordedAt := at' }

inductive RevocationOperation
  | approverByRepresentative | approverBySecurity | representativeByOwner | representativeBySecurity
  deriving DecidableEq

/-- `_REVOCATIONS`: the type that is revoked, and the type of the revocation. -/
def RevocationOperation.kinds : RevocationOperation → RegisterEntryType × RegisterEntryType
  | approverByRepresentative => (.enrolment, .enrolmentRevocation)
  | approverBySecurity => (.enrolment, .enrolmentRevocation)
  | representativeByOwner => (.designation, .designationRevocation)
  | representativeBySecurity => (.designation, .designationRevocation)

def revokeRegisterEntry (operation : RevocationOperation) (subject targetId : Uuid)
    (ticket : String) : Except RegisterError RegisterAnswer := do
  let target ← register.entry targetId operation.kinds.1 subject
  let _ ← demand (operation ≠ .representativeByOwner → world.holdsAuthorityManage caller = false)
    (.refused "party_holds_authority_manage")
  let _ ← demand (operation = .approverByRepresentative →
    register.activeDesignation caller at' ≠ none) (.refused "not_a_representative")
  match register.find? fun entry => entry.revokesEntryId = some target.id with
  | some existing =>
    let _ ← demand (existing.ticketRef = ticket ∧ world.sameAct existing.id = true)
      (.refused "entry_already_revoked")
    return .replay existing
  | none =>
    return .written {
      id := newId
      entryType := operation.kinds.2
      subjectUserId := subject
      recordedByUserId := caller
      designationRef := none
      naturalPersonRef := none
      verificationRef := none
      authorisationRef := none
      ticketRef := ticket
      proposalEntryId := none
      authorisedByEntryId := none
      revokesEntryId := some target.id
      renewsEntryId := none
      validUntil := none
      eligibleFrom := none
      proposalExpiresAt := none
      recordedAt := at' }

end Writes

inductive RegisterCall
  | propose (subject : Uuid) (designation ticket : String) (validUntil : Instant)
  | confirm (subject proposalId : Uuid) (ticket : String)
  | enrol (subject : Uuid) (details : EnrolmentDetails)
  | revoke (operation : RevocationOperation) (subject targetId : Uuid) (ticket : String)

def RegisterCall.perform (world : RegisterWorld) (register : Register) (at' : Instant)
    (newId caller : Uuid) : RegisterCall → Except RegisterError RegisterAnswer
  | propose subject designation ticket validUntil =>
    proposeRepresentativeDesignation world register at' newId caller subject designation ticket
      validUntil
  | confirm subject proposalId ticket =>
    confirmRepresentativeDesignation world register at' newId caller subject proposalId ticket
  | enrol subject details => enrolApprover world register at' newId caller subject details
  | revoke operation subject targetId ticket =>
    revokeRegisterEntry world register at' newId caller operation subject targetId ticket

/-! ## The system -/

/-- The wall clock and the committed register. -/
structure RegisterState where
  clock : Instant
  register : Register

/-- Time passes, or a write commits whose transaction started some time before. -/
inductive RegisterEvent
  | tick (elapsed : ℕ)
  | write (lag : ℕ) (world : RegisterWorld) (newId caller : Uuid) (call : RegisterCall)

def RegisterState.step (state : RegisterState) : RegisterEvent → RegisterState
  | .tick elapsed => { state with clock := state.clock + elapsed }
  | .write lag world newId caller call =>
    match call.perform world state.register (state.clock - lag) newId caller with
    | .ok (.written entry) =>
      if ∃ other ∈ state.register, other.id = entry.id then state
      else { state with register := entry :: state.register }
    | _ => state

def Register.IsCurrent (register : Register) (enrolment : RegisterEntry) (at' : Instant) : Prop :=
  enrolment.recordedAt ≤ at' ∧ register.IsActive enrolment at'

/-- What the register promises at an instant, past or future. -/
structure Register.OnePerson (register : Register) (at' : Instant) : Prop where
  /-- One natural person has one account. -/
  person : ∀ first ∈ register, ∀ second ∈ register, register.IsCurrent first at' →
    register.IsCurrent second at' → first.naturalPersonRef = second.naturalPersonRef →
    first.subjectUserId = second.subjectUserId
  /-- Of two active enrolments of an account one renews the other. -/
  renewal : ∀ first ∈ register, ∀ second ∈ register, register.IsCurrent first at' →
    register.IsCurrent second at' → first.subjectUserId = second.subjectUserId → first ≠ second →
    first.renewsEntryId = some second.id ∨ second.renewsEntryId = some first.id
  /-- An account has at most two. -/
  atMostTwo : ∀ first ∈ register, ∀ second ∈ register, ∀ third ∈ register,
    register.IsCurrent first at' → register.IsCurrent second at' → register.IsCurrent third at' →
    first.subjectUserId = second.subjectUserId → second.subjectUserId = third.subjectUserId →
    first = second ∨ second = third ∨ first = third
  /-- No active approver is an active representative, whether it authorised itself or not. -/
  representative : ∀ enrolment ∈ register, ∀ designation ∈ register,
    register.IsCurrent enrolment at' → designation.entryType = .designation →
    designation.recordedAt ≤ at' → register.DesignationLive (some designation.id) at' →
    designation.subjectUserId ≠ enrolment.subjectUserId

end SaasOs.PermissionGrants
