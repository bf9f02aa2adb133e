import SaasOs.PermissionGrants.Register

/-!
# One person, one account

Activity only decays: an enrolment that is active in the grown register at some instant was active
in the smaller one at every earlier instant.  A write therefore meets, at its own time, every
enrolment and every designation that is active together with its entry at a later time.
-/

namespace SaasOs.PermissionGrants

open Rows

namespace Register

variable {register : Register} {added enrolment designation : RegisterEntry}
  {at' later : Instant} {id : Option Uuid}

/-! ## Activity decays -/

lemma not_isRevoked_of_cons {target : Uuid} (h : ¬ Register.IsRevoked (added :: register) target) :
    ¬ register.IsRevoked target := by
  rintro ⟨entry, hentry, hrevokes⟩
  exact h ⟨entry, List.mem_cons_of_mem added hentry, hrevokes⟩

lemma designationValidity_cons {designationId : Uuid} (hne : added.id ≠ designationId) :
    Register.designationValidity (added :: register) designationId =
      register.designationValidity designationId := by
  unfold designationValidity
  rw [List.find?_cons_of_neg]
  simp [hne]

lemma DesignationLive.of_cons (h : Register.DesignationLive (added :: register) id later)
    (hle : at' ≤ later) (hne : ∀ designationId ∈ id, added.id ≠ designationId) :
    register.DesignationLive id at' := by
  obtain ⟨designationId, hid, hrevoked, hvalid⟩ := h
  rw [designationValidity_cons (hne designationId hid)] at hvalid
  exact ⟨designationId, hid, not_isRevoked_of_cons hrevoked, hvalid.of_le hle⟩

lemma IsActive.of_cons (h : Register.IsActive (added :: register) enrolment later)
    (hle : at' ≤ later) (hne : ∀ designationId ∈ enrolment.authorisedByEntryId,
      added.id ≠ designationId) : register.IsActive enrolment at' := by
  obtain ⟨htype, hvalid, hrevoked, hlive⟩ := h
  exact ⟨htype, hvalid.of_le hle, not_isRevoked_of_cons hrevoked, hlive.of_cons hle hne⟩

/-! ## Adding an entry -/

/-- What the checks of a write say about the entry that it adds, all at the time at which it was
recorded. -/
structure Fits (register : Register) (added : RegisterEntry) : Prop where
  authorised : ∀ designationId ∈ added.authorisedByEntryId,
    ∃ entry ∈ register, entry.id = designationId
  unrevoking : added.entryType = .enrolment → added.revokesEntryId = none
  person : added.entryType = .enrolment → ∀ enrolment ∈ register,
    register.IsActive enrolment added.recordedAt →
      enrolment.naturalPersonRef = added.naturalPersonRef →
        enrolment.subjectUserId = added.subjectUserId
  renewal : added.entryType = .enrolment → ∀ enrolment ∈ register,
    register.IsActive enrolment added.recordedAt →
      enrolment.subjectUserId = added.subjectUserId → added.renewsEntryId = some enrolment.id
  representative : added.entryType = .enrolment → ∀ designation ∈ register,
    designation.entryType = .designation →
      register.DesignationLive (some designation.id) added.recordedAt →
        designation.subjectUserId ≠ added.subjectUserId
  approver : added.entryType = .designation → ∀ enrolment ∈ register,
    register.IsActive enrolment added.recordedAt →
      added.subjectUserId ≠ enrolment.subjectUserId

/-- What holds of the register after every write. -/
structure Sound (register : Register) : Prop where
  unique : UniqueOn register fun entry => entry.id
  authorised : ∀ entry ∈ register, ∀ designationId ∈ entry.authorisedByEntryId,
    ∃ designation ∈ register, designation.id = designationId
  unrevoking : ∀ entry ∈ register, entry.entryType = .enrolment → entry.revokesEntryId = none
  onePerson : ∀ at', register.OnePerson at'

section Adding

variable (hsound : register.Sound) (hfresh : ∀ entry ∈ register, entry.id ≠ added.id)

include hsound hfresh

lemma Sound.isActive (hmem : enrolment ∈ register)
    (h : Register.IsActive (added :: register) enrolment later) (hle : at' ≤ later) :
    register.IsActive enrolment at' := by
  refine h.of_cons hle fun designationId hid heq => ?_
  obtain ⟨designation, hdesignation, rfl⟩ := hsound.authorised enrolment hmem designationId hid
  exact hfresh designation hdesignation heq.symm

lemma Sound.isCurrent (hmem : enrolment ∈ register)
    (h : Register.IsCurrent (added :: register) enrolment at') :
    register.IsCurrent enrolment at' :=
  ⟨h.1, hsound.isActive hfresh hmem h.2 le_rfl⟩

omit hsound in
lemma designationLive_of_cons (hmem : designation ∈ register)
    (h : Register.DesignationLive (added :: register) (some designation.id) later)
    (hle : at' ≤ later) : register.DesignationLive (some designation.id) at' := by
  refine h.of_cons hle fun designationId hid heq => ?_
  obtain rfl := Option.some.inj hid
  exact hfresh designation hmem heq.symm

variable (hfits : register.Fits added)

include hfits

variable {first second : RegisterEntry}

lemma Sound.person_cons (hfirst : first ∈ added :: register) (hsecond : second ∈ added :: register)
    (hcurrent : Register.IsCurrent (added :: register) first at')
    (hcurrent' : Register.IsCurrent (added :: register) second at')
    (hperson : first.naturalPersonRef = second.naturalPersonRef) :
    first.subjectUserId = second.subjectUserId := by
  rcases List.mem_cons.mp hfirst with rfl | hold
  · rcases List.mem_cons.mp hsecond with rfl | hold'
    · rfl
    · have hactive := hsound.isActive hfresh hold' hcurrent'.2 hcurrent.1
      exact (hfits.person hcurrent.2.1 second hold' hactive hperson.symm).symm
  · rcases List.mem_cons.mp hsecond with rfl | hold'
    · have hactive := hsound.isActive hfresh hold hcurrent.2 hcurrent'.1
      exact hfits.person hcurrent'.2.1 first hold hactive hperson
    · exact (hsound.onePerson at').person first hold second hold'
        (hsound.isCurrent hfresh hold hcurrent) (hsound.isCurrent hfresh hold' hcurrent') hperson

lemma Sound.renews (hmem : enrolment ∈ register)
    (hadded : Register.IsCurrent (added :: register) added at')
    (hcurrent : Register.IsCurrent (added :: register) enrolment at')
    (hsubject : enrolment.subjectUserId = added.subjectUserId) :
    added.renewsEntryId = some enrolment.id :=
  hfits.renewal hadded.2.1 enrolment hmem (hsound.isActive hfresh hmem hcurrent.2 hadded.1)
    hsubject

lemma Sound.renewal_cons (hfirst : first ∈ added :: register) (hsecond : second ∈ added :: register)
    (hcurrent : Register.IsCurrent (added :: register) first at')
    (hcurrent' : Register.IsCurrent (added :: register) second at')
    (hsubject : first.subjectUserId = second.subjectUserId) (hne : first ≠ second) :
    first.renewsEntryId = some second.id ∨ second.renewsEntryId = some first.id := by
  rcases List.mem_cons.mp hfirst with rfl | hold
  · rcases List.mem_cons.mp hsecond with rfl | hold'
    · exact absurd rfl hne
    · exact .inl (hsound.renews hfresh hfits hold' hcurrent hcurrent' hsubject.symm)
  · rcases List.mem_cons.mp hsecond with rfl | hold'
    · exact .inr (hsound.renews hfresh hfits hold hcurrent' hcurrent hsubject)
    · exact (hsound.onePerson at').renewal first hold second hold'
        (hsound.isCurrent hfresh hold hcurrent) (hsound.isCurrent hfresh hold' hcurrent')
        hsubject hne

lemma Sound.eq_of_renewed (hfirst : first ∈ register) (hsecond : second ∈ register)
    (hadded : Register.IsCurrent (added :: register) added at')
    (hcurrent : Register.IsCurrent (added :: register) first at')
    (hcurrent' : Register.IsCurrent (added :: register) second at')
    (hsubject : first.subjectUserId = added.subjectUserId)
    (hsubject' : second.subjectUserId = added.subjectUserId) : first = second := by
  have hrenews := hsound.renews hfresh hfits hfirst hadded hcurrent hsubject
  have hrenews' := hsound.renews hfresh hfits hsecond hadded hcurrent' hsubject'
  exact hsound.unique.eq_of_key_eq hfirst hsecond (Option.some.inj (hrenews.symm.trans hrenews'))

lemma Sound.atMostTwo_cons {first second third : RegisterEntry} (hfirst : first ∈ added :: register)
    (hsecond : second ∈ added :: register) (hthird : third ∈ added :: register)
    (hcurrent : Register.IsCurrent (added :: register) first at')
    (hcurrent' : Register.IsCurrent (added :: register) second at')
    (hcurrent'' : Register.IsCurrent (added :: register) third at')
    (hsubject : first.subjectUserId = second.subjectUserId)
    (hsubject' : second.subjectUserId = third.subjectUserId) :
    first = second ∨ second = third ∨ first = third := by
  by_contra hdistinct
  simp only [not_or] at hdistinct
  obtain ⟨hne, hne', hne''⟩ := hdistinct
  rcases List.mem_cons.mp hfirst with rfl | hold
  · have hold' := (List.mem_cons.mp hsecond).resolve_left (Ne.symm hne)
    have hold'' := (List.mem_cons.mp hthird).resolve_left (Ne.symm hne'')
    exact hne' (hsound.eq_of_renewed hfresh hfits hold' hold'' hcurrent hcurrent' hcurrent''
      hsubject.symm (hsubject.trans hsubject').symm)
  · rcases List.mem_cons.mp hsecond with rfl | hold'
    · have hold'' := (List.mem_cons.mp hthird).resolve_left (Ne.symm hne')
      exact hne'' (hsound.eq_of_renewed hfresh hfits hold hold'' hcurrent' hcurrent hcurrent''
        hsubject hsubject'.symm)
    · rcases List.mem_cons.mp hthird with rfl | hold''
      · exact hne (hsound.eq_of_renewed hfresh hfits hold hold' hcurrent'' hcurrent hcurrent'
          (hsubject.trans hsubject') hsubject')
      · rcases (hsound.onePerson at').atMostTwo first hold second hold' third hold''
          (hsound.isCurrent hfresh hold hcurrent) (hsound.isCurrent hfresh hold' hcurrent')
          (hsound.isCurrent hfresh hold'' hcurrent'') hsubject hsubject' with h | h | h
        · exact hne h
        · exact hne' h
        · exact hne'' h

lemma Sound.representative_cons (henrolment : enrolment ∈ added :: register)
    (hdesignation : designation ∈ added :: register)
    (hcurrent : Register.IsCurrent (added :: register) enrolment at')
    (htype : designation.entryType = .designation) (hrecorded : designation.recordedAt ≤ at')
    (hlive : Register.DesignationLive (added :: register) (some designation.id) at') :
    designation.subjectUserId ≠ enrolment.subjectUserId := by
  rcases List.mem_cons.mp henrolment with rfl | hold
  · rcases List.mem_cons.mp hdesignation with rfl | hold'
    · exact absurd (htype.symm.trans hcurrent.2.1) (by decide)
    · exact hfits.representative hcurrent.2.1 designation hold' htype
        (designationLive_of_cons hfresh hold' hlive hcurrent.1)
  · rcases List.mem_cons.mp hdesignation with rfl | hold'
    · exact hfits.approver htype enrolment hold
        (hsound.isActive hfresh hold hcurrent.2 hrecorded)
    · exact (hsound.onePerson at').representative enrolment hold designation hold'
        (hsound.isCurrent hfresh hold hcurrent) htype hrecorded
        (designationLive_of_cons hfresh hold' hlive le_rfl)

lemma Sound.cons : Register.Sound (added :: register) where
  unique := by
    refine List.nodup_cons.mpr ⟨fun hmem => ?_, hsound.unique⟩
    obtain ⟨entry, hentry, hid⟩ := List.mem_map.mp hmem
    exact hfresh entry hentry hid
  authorised := by
    intro entry hentry designationId hid
    rcases List.mem_cons.mp hentry with rfl | hold
    · obtain ⟨designation, hdesignation, rfl⟩ := hfits.authorised designationId hid
      exact ⟨designation, List.mem_cons_of_mem entry hdesignation, rfl⟩
    · obtain ⟨designation, hdesignation, rfl⟩ := hsound.authorised entry hold designationId hid
      exact ⟨designation, List.mem_cons_of_mem added hdesignation, rfl⟩
  unrevoking := by
    intro entry hentry htype
    rcases List.mem_cons.mp hentry with rfl | hold
    · exact hfits.unrevoking htype
    · exact hsound.unrevoking entry hold htype
  onePerson at' :=
    { person := fun _ hfirst _ hsecond => hsound.person_cons hfresh hfits hfirst hsecond
      renewal := fun _ hfirst _ hsecond => hsound.renewal_cons hfresh hfits hfirst hsecond
      atMostTwo := fun _ hfirst _ hsecond _ hthird =>
        hsound.atMostTwo_cons hfresh hfits hfirst hsecond hthird
      representative := fun _ henrolment _ hdesignation =>
        hsound.representative_cons hfresh hfits henrolment hdesignation }

end Adding

lemma Sound.designationValidity_eq (hsound : register.Sound) (hmem : designation ∈ register)
    (htype : designation.entryType = .designation) :
    register.designationValidity designation.id = designation.validUntil := by
  have hone : AtMostOne register fun entry =>
      entry.id = designation.id ∧ entry.entryType = .designation :=
    hsound.unique.atMostOne fun entry hentry => (of_decide_eq_true hentry).1
  have hfound := (find?_eq_some_iff hone).mpr ⟨hmem, decide_eq_true ⟨rfl, htype⟩⟩
  unfold designationValidity
  rw [hfound]
  rfl

lemma Fits.of_other (hauthorised : added.authorisedByEntryId = none)
    (henrolment : added.entryType ≠ .enrolment) (hdesignation : added.entryType ≠ .designation) :
    register.Fits added where
  authorised := by simp [hauthorised]
  unrevoking h := absurd h henrolment
  person h := absurd h henrolment
  renewal h := absurd h henrolment
  representative h := absurd h henrolment
  approver h := absurd h hdesignation

end Register

/-! ## The writes -/

section Writes

variable {world : RegisterWorld} {register : Register} {at' : Instant} {newId caller : Uuid}
  {written : RegisterEntry}

variable {subject : Uuid}

lemma proposeRepresentativeDesignation_fits {designation ticket : String} {validUntil : Instant}
    (h : proposeRepresentativeDesignation world register at' newId caller subject designation
      ticket validUntil = .ok (.written written)) :
    register.Fits written ∧ written.recordedAt = at' := by
  unfold proposeRepresentativeDesignation at h
  simp only [bind_eq_ok] at h
  obtain ⟨-, -, -, -, -, -, h⟩ := h
  split at h
  · cases h
  · simp only [bind_eq_ok] at h
    obtain ⟨-, -, -, -, -, -, h⟩ := h
    cases h
    exact ⟨Register.Fits.of_other rfl nofun nofun, rfl⟩

variable {ticket : String}

lemma confirmRepresentativeDesignation_fits {subject proposalId : Uuid}
    (h : confirmRepresentativeDesignation world register at' newId caller subject proposalId
      ticket = .ok (.written written)) :
    register.Fits written ∧ written.recordedAt = at' := by
  unfold confirmRepresentativeDesignation at h
  simp only [bind_eq_ok] at h
  obtain ⟨proposal, -, -, -, h⟩ := h
  split at h
  · simp only [bind_eq_ok] at h
    obtain ⟨-, -, h⟩ := h
    cases h
  · simp only [bind_eq_ok, demand_eq_ok] at h
    obtain ⟨-, -, -, -, -, -, -, -, -, hnone, h⟩ := h
    cases h
    refine ⟨?_, rfl⟩
    constructor
    case authorised => simp
    case approver =>
      intro _ enrolment hmem hactive hsubject
      have hfound := Register.mem_activeEnrolments.mpr ⟨hmem, hactive, hsubject.symm⟩
      rw [hnone] at hfound
      exact List.not_mem_nil hfound
    all_goals
      intro htype
      cases htype

lemma revokeRegisterEntry_fits {operation : RevocationOperation} {subject targetId : Uuid}
    (h : revokeRegisterEntry world register at' newId caller operation subject targetId ticket =
      .ok (.written written)) :
    register.Fits written ∧ written.recordedAt = at' := by
  unfold revokeRegisterEntry at h
  simp only [bind_eq_ok] at h
  obtain ⟨target, -, -, -, -, -, h⟩ := h
  split at h
  · simp only [bind_eq_ok] at h
    obtain ⟨-, -, h⟩ := h
    cases h
  · cases h
    refine ⟨Register.Fits.of_other rfl ?_ ?_, rfl⟩ <;> cases operation <;> exact nofun

variable {details : EnrolmentDetails}

lemma enrolApprover_spec (h : enrolApprover world register at' newId caller subject details =
      .ok (.written written)) :
    (∃ designation ∈ register, written.authorisedByEntryId = some designation.id) ∧
    written.entryType = .enrolment ∧ written.revokesEntryId = none ∧ written.recordedAt = at' ∧
    register.activeDesignation written.subjectUserId at' = none ∧
    (∀ enrolment ∈ register.activeEnrolments written.subjectUserId at',
      some enrolment.id = written.renewsEntryId) ∧
    ∃ person, written.naturalPersonRef = some person ∧
      (∀ enrolment ∈ register.activeEnrolmentsOfPerson person at',
        some enrolment.id = written.renewsEntryId) ∧
      ∀ id ∈ written.renewsEntryId, register.Renewable written.subjectUserId person at' id := by
  unfold enrolApprover at h
  simp only [bind_eq_ok] at h
  obtain ⟨-, -, -, -, h⟩ := h
  split at h
  · cases h
  · next designation hdesignation =>
    simp only [bind_eq_ok] at h
    obtain ⟨-, -, -, -, h⟩ := h
    split at h
    · cases h
    · simp only [bind_eq_ok, demand_eq_ok] at h
      obtain ⟨-, -, -, -, -, hnone, -, -, -, -, -, hsubject, -, hperson, -, -, -, hrenewable, h⟩ :=
        h
      cases h
      have hmem := (List.mem_filter.mp (mem_of_longest hdesignation)).1
      exact ⟨⟨designation, hmem, rfl⟩, rfl, rfl, rfl, hnone, hsubject, details.person, rfl,
        hperson, hrenewable⟩

lemma enrolApprover_fits (hsound : register.Sound)
    (h : enrolApprover world register at' newId caller subject details =
      .ok (.written written)) :
    register.Fits written ∧ written.recordedAt = at' := by
  obtain ⟨⟨authority, hmem, hauthorised⟩, htype, hrevokes, rfl, hnone, hsubject, person, hperson,
    hpersons, hrenewable⟩ := enrolApprover_spec h
  refine ⟨?_, rfl⟩
  constructor
  case authorised =>
    intro designationId hid
    obtain rfl := Option.some.inj (hauthorised.symm.trans hid)
    exact ⟨authority, hmem, rfl⟩
  case unrevoking => exact fun _ => hrevokes
  case person =>
    intro _ enrolment henrolment hactive href
    have hid := hpersons enrolment (Register.mem_activeEnrolmentsOfPerson.mpr
      ⟨henrolment, hactive, href.trans hperson⟩)
    obtain ⟨⟨renewed, hrenewed, heq, -⟩, -⟩ := hrenewable enrolment.id hid.symm
    obtain ⟨hknown, -, hsame⟩ := Register.mem_activeEnrolments.mp hrenewed
    rw [← hsame, hsound.unique.eq_of_key_eq henrolment hknown heq.symm]
  case renewal =>
    intro _ enrolment henrolment hactive hsame
    exact (hsubject enrolment
      (Register.mem_activeEnrolments.mpr ⟨henrolment, hactive, hsame⟩)).symm
  case representative =>
    intro _ designation hdesignation hkind hlive hsame
    obtain ⟨designationId, hid, hrevoked, hvalid⟩ := hlive
    obtain rfl := Option.some.inj hid
    rw [hsound.designationValidity_eq hdesignation hkind] at hvalid
    exact hrevoked
      (Register.isRevoked_of_activeDesignation_eq_none hnone hdesignation hkind hsame hvalid)
  case approver =>
    intro hkind
    exact absurd (hkind.symm.trans htype) (by decide)

lemma perform_fits (hsound : register.Sound) {call : RegisterCall}
    (h : call.perform world register at' newId caller = .ok (.written written)) :
    register.Fits written ∧ written.recordedAt = at' := by
  cases call with
  | propose subject designation ticket validUntil =>
    exact proposeRepresentativeDesignation_fits h
  | confirm subject proposalId ticket => exact confirmRepresentativeDesignation_fits h
  | enrol subject details => exact enrolApprover_fits hsound h
  | revoke operation subject targetId ticket => exact revokeRegisterEntry_fits h

end Writes

/-! ## Eligibility reads enough of the register -/

section Eligibility

variable {register : Register} {userId : Uuid} {enrolment : RegisterEntry} {at' : Instant}

variable {id : Uuid}

lemma mem_revokedEntryIds_entriesForEligibility (hmem : enrolment ∈ register)
    (htype : enrolment.entryType = .enrolment) (hsubject : enrolment.subjectUserId = userId)
    (hid : id = enrolment.id ∨ enrolment.authorisedByEntryId = some id) :
    id ∈ revokedEntryIds (register.entriesForEligibility userId) ↔
      id ∈ revokedEntryIds register := by
  simp only [revokedEntryIds, List.mem_filterMap]
  constructor
  · rintro ⟨entry, hentry, hrevokes⟩
    refine ⟨entry, ?_, hrevokes⟩
    simp only [Register.entriesForEligibility, List.mem_append, List.mem_filter] at hentry
    tauto
  · rintro ⟨entry, hentry, hrevokes⟩
    refine ⟨entry, List.mem_append_right _ (List.mem_filter.mpr ⟨hentry, ?_⟩), hrevokes⟩
    have hread : enrolment ∈ register.filter fun entry => entry.entryType = .enrolment ∧
        entry.subjectUserId = userId :=
      List.mem_filter.mpr ⟨hmem, decide_eq_true ⟨htype, hsubject⟩⟩
    refine decide_eq_true ⟨id, hrevokes, ?_⟩
    rcases hid with rfl | hid
    · exact List.mem_append_left _ (List.mem_map.mpr ⟨enrolment, hread, rfl⟩)
    · exact List.mem_append_right _ (List.mem_filterMap.mpr ⟨enrolment, hread, hid⟩)

lemma mem_of_mem_entriesForEligibility {entry : RegisterEntry}
    (h : entry ∈ register.entriesForEligibility userId) : entry ∈ register := by
  simp only [Register.entriesForEligibility, List.mem_append, List.mem_filter] at h
  tauto

section

variable (hsound : register.Sound) (hmem : enrolment ∈ register)
  (htype : enrolment.entryType = .enrolment) (hsubject : enrolment.subjectUserId = userId)

include hsound hmem htype hsubject

lemma designationValidity_entriesForEligibility (hid : enrolment.authorisedByEntryId = some id) :
    Register.designationValidity (register.entriesForEligibility userId) id =
      register.designationValidity id := by
  have hone : AtMostOne register fun entry => entry.id = id ∧ entry.entryType = .designation :=
    hsound.unique.atMostOne fun entry hentry => (of_decide_eq_true hentry).1
  have hread : AtMostOne (register.entriesForEligibility userId)
      fun entry => entry.id = id ∧ entry.entryType = .designation :=
    fun first hfirst second hsecond => hone first (mem_of_mem_entriesForEligibility hfirst) second
      (mem_of_mem_entriesForEligibility hsecond)
  unfold Register.designationValidity
  congr 1
  refine Option.ext fun designation => ?_
  rw [find?_eq_some_iff hread, find?_eq_some_iff hone]
  refine ⟨fun h => ⟨mem_of_mem_entriesForEligibility h.1, h.2⟩, fun h => ⟨?_, h.2⟩⟩
  obtain ⟨rfl, hdesignation⟩ := of_decide_eq_true h.2
  refine List.mem_append_left _ (List.mem_append_right _ (List.mem_filter.mpr ⟨h.1, ?_⟩))
  refine decide_eq_true ⟨List.mem_filterMap.mpr ⟨enrolment, ?_, hid⟩, hdesignation⟩
  exact List.mem_filter.mpr ⟨hmem, decide_eq_true ⟨htype, hsubject⟩⟩

lemma enrolmentStateIn_entriesForEligibility :
    enrolmentStateIn (register.entriesForEligibility userId) enrolment at' =
      enrolmentStateIn register enrolment at' := by
  have hrevoked := mem_revokedEntryIds_entriesForEligibility hmem htype hsubject (.inl rfl)
  unfold enrolmentStateIn enrolmentState
  cases hauthorised : enrolment.authorisedByEntryId with
  | none => simp [hrevoked]
  | some id =>
    have hdesignation := mem_revokedEntryIds_entriesForEligibility hmem htype hsubject
      (.inr hauthorised)
    have hvalid := designationValidity_entriesForEligibility hsound hmem htype hsubject hauthorised
    simp [hrevoked, hdesignation, hvalid]

end

lemma filter_entriesForEligibility (hsound : register.Sound) {p : RegisterEntry → Bool}
    (hp : ∀ entry, p entry = true → entry.entryType = .enrolment ∧ entry.subjectUserId = userId) :
    (register.entriesForEligibility userId).filter p = register.filter p := by
  unfold Register.entriesForEligibility
  simp only [List.filter_append]
  rw [List.append_assoc, List.filter_filter]
  convert List.append_nil _ using 2
  · -- neither a designation nor a revocation is an enrolment
    refine List.append_eq_nil_iff.mpr ⟨?_, ?_⟩
    · refine List.filter_eq_nil_iff.mpr fun entry hentry hpasses => ?_
      obtain ⟨-, htype⟩ := of_decide_eq_true (List.mem_filter.mp hentry).2
      exact absurd (htype.symm.trans (hp entry hpasses).1) (by decide)
    · refine List.filter_eq_nil_iff.mpr fun entry hentry hpasses => ?_
      obtain ⟨hmem, hrevocation⟩ := List.mem_filter.mp hentry
      obtain ⟨id, hrevokes, -⟩ := of_decide_eq_true hrevocation
      rw [hsound.unrevoking entry hmem (hp entry hpasses).1] at hrevokes
      cases hrevokes
  · funext entry
    by_cases hpasses : p entry = true
    · rw [hpasses, decide_eq_true (hp entry hpasses)]
      rfl
    · rw [Bool.eq_false_iff.mpr hpasses]
      rfl

lemma eligibleEnrolment_eq (hsound : register.Sound) :
    register.eligibleEnrolment userId at' = approverEligibility register userId at' := by
  unfold Register.eligibleEnrolment approverEligibility
  congr 1
  rw [filter_entriesForEligibility hsound fun entry hentry => ?_]
  · refine List.filter_congr fun entry hmem => decide_eq_decide.mpr ?_
    refine and_congr_right fun htype => and_congr_right fun hsubject => ?_
    rw [enrolmentStateIn_entriesForEligibility hsound hmem htype hsubject]
  · obtain ⟨htype, hsubject, -⟩ := of_decide_eq_true hentry
    exact ⟨htype, hsubject⟩

end Eligibility

/-! ## Runs -/

namespace RegisterState

/-- What holds of every state: the register is sound, and its entries are of the past. -/
structure Sound (state : RegisterState) : Prop where
  register : state.register.Sound
  recorded : ∀ entry ∈ state.register, entry.recordedAt ≤ state.clock

lemma Sound.empty (clock : Instant) : Sound ⟨clock, []⟩ where
  register :=
    { unique := List.nodup_nil
      authorised := by simp
      unrevoking := by simp
      onePerson := fun _ => by constructor <;> simp }
  recorded := by simp

lemma Sound.step {state : RegisterState} (hsound : state.Sound) (event : RegisterEvent) :
    (state.step event).Sound := by
  cases event with
  | tick elapsed =>
    refine ⟨hsound.register, fun entry hentry => ?_⟩
    exact (hsound.recorded entry hentry).trans
      (Int.le_add_of_nonneg_right (Int.natCast_nonneg elapsed))
  | write lag world newId caller call =>
    unfold RegisterState.step
    dsimp only
    split
    · next written hwritten =>
      split
      · exact hsound
      · next hfresh =>
        obtain ⟨hfits, hrecorded⟩ := perform_fits hsound.register hwritten
        refine ⟨hsound.register.cons (fun entry hentry hid => hfresh ⟨entry, hentry, hid⟩) hfits,
          fun entry hentry => ?_⟩
        rcases List.mem_cons.mp hentry with rfl | hold
        · rw [hrecorded]
          exact Int.sub_le_self _ (Int.natCast_nonneg lag)
        · exact hsound.recorded entry hold
    · exact hsound

end RegisterState

/-- In every run of committed writes, each deciding at the start of its transaction, and at every
instant: one natural person is active under one account, an account has at most two active
enrolments, of which one renews the other, no active approver is an active representative, and the
subset of the register that eligibility reads decides it as the whole register does. -/
theorem onePerson_run (clock : Instant) (events : List RegisterEvent) :
    Run.Always RegisterState.step
      (fun state => (∀ entry ∈ state.register, entry.recordedAt ≤ state.clock) ∧
        ∀ at', state.register.OnePerson at' ∧ ∀ userId,
          state.register.eligibleEnrolment userId at' =
            approverEligibility state.register userId at')
      ⟨clock, []⟩ events := by
  intro before after _
  have hsound : (Run.run RegisterState.step ⟨clock, []⟩ before).Sound :=
    Run.run_of_step (fun _ event h => h.step event) (.empty clock) before
  exact ⟨hsound.recorded, fun at' => ⟨hsound.register.onePerson at',
    fun userId => eligibleEnrolment_eq hsound.register⟩⟩

end SaasOs.PermissionGrants
