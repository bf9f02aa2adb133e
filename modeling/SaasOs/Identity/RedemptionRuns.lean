import SaasOs.Identity.Redemption

/-!
# What becomes of invitations

Any number of the calls on invitations, memberships and tenants run at the same time, and any of
them may crash at any point.  Every commit of a redemption is an `Acceptance` of one invitation; an
invitation that is accepted or revoked stays so, and none is ever both.
-/

namespace SaasOs

open ReadCommitted

namespace Membership

variable {config : RedemptionConfig} {db db' : Tables}

/-! ## The system -/

/-- The calls in progress, and the committed contents. -/
abbrev MembershipSystem := System Call Tables Write Lock (Except Error Unit)

namespace MembershipSystem

def step (config : RedemptionConfig) :
    MembershipSystem → Event Call Tables → MembershipSystem :=
  System.step (Call.program config) Tables.writeMembership

/-- Any of the calls begins; what does not belong to tenants, users, invitations and memberships
changes freely. -/
def Allowed (s : MembershipSystem) : Event Call Tables → Prop
  | .external db => Same s.db db
  | .start _ _ | .advance _ | .abort _ => True

/-- What holds in every state of a run. -/
abbrev Sound (config : RedemptionConfig) (s : MembershipSystem) : Prop :=
  System.Sound (membershipProtocol config) FailureUnchanged s

def Accepts (config : RedemptionConfig) (s : MembershipSystem) (event : Event Call Tables)
    (invitation : Invitation) : Prop :=
  ∃ now newId rawToken tenantId userId acceptingEmail,
    s.Commits event
      (.acceptInvitation now newId rawToken tenantId (.user userId) acceptingEmail) ∧
    Acceptance s.db (step config s event).db invitation now (config.hashInvitationToken rawToken)
      tenantId userId acceptingEmail

variable {s : MembershipSystem} {event : Event Call Tables} {events : List (Event Call Tables)}

lemma Allowed.system (h : s.Allowed event) :
    System.Allowed (membershipProtocol config) (fun _ => True) s event := by
  cases event with
  | external db => exact h
  | _ => trivial

lemma allowed_of_isInternal (h : event.isInternal = true) (s : MembershipSystem) :
    s.Allowed event := by
  cases event with
  | external db => cases h
  | _ => trivial

section

variable (h : Sound config s)

include h

lemma sound_event (hallowed : s.Allowed event) :
    Sound config (step config s event) :=
  System.sound_step (fun call _ _ hvalid => call.program_safe hvalid) s event h hallowed.system

lemma sound_run (hallowed : Run.Along (step config) Allowed s events) :
    Sound config (Run.run (step config) s events) :=
  Run.run_of_along (fun _ _ hsound hevent => sound_event hsound hevent) h hallowed

lemma continue_event (hallowed : s.Allowed event) :
    InvitationsContinue s.db (step config s event).db := by
  have hstep : (step config s event).db = s.db ∨ Same s.db (step config s event).db ∨
      ∃ call held, s.Commits event call ∧ Guarantee config call held s.db (step config s event).db :=
    h.db_step hallowed.system
  rcases hstep with hsame | hothers | ⟨call, held, -, hguarantee⟩
  · rw [hsame]
    exact invitationsContinue_refl _
  · have hinvitations : (step config s event).db.invitations = s.db.invitations :=
      hothers.invitations
    intro invitation hinvitation
    refine ⟨invitation, ?_, .refl invitation⟩
    rw [hinvitations]
    exact hinvitation
  · obtain ⟨writes, hwrites, hdb⟩ := hguarantee.justified
    have hafter : (step config s event).db = after s.db writes := hdb
    rw [hafter]
    exact invitationsContinue_after hwrites

lemma continue_run (hallowed : Run.Along (step config) Allowed s events) :
    InvitationsContinue s.db (Run.run (step config) s events).db := by
  induction events generalizing s with
  | nil => exact invitationsContinue_refl _
  | cons event events ih =>
    have hnext := continue_event h hallowed.1
    exact hnext.trans (ih (sound_event h hallowed.1) hallowed.2)

lemma accepts_of_commits {call : Call} (hredemption : call.IsRedemption)
    (hcommits : s.Commits event call) : ∃ invitation, Accepts config s event invitation := by
  obtain ⟨held, hguarantee⟩ := h.guarantee_of_commits (Call.program config) hcommits
  cases call with
  | acceptInvitation now newId rawToken tenantId caller acceptingEmail =>
    obtain ⟨userId, invitation, rfl, hacceptance⟩ := hguarantee.accepted _ _ _ _ _ _ rfl
    exact ⟨invitation, now, newId, rawToken, tenantId, userId, acceptingEmail, hcommits,
      hacceptance⟩
  | _ => exact absurd hredemption id

end

lemma exists_accepted {invitation : Invitation} (h : Accepts config s event invitation) :
    ∃ row ∈ (step config s event).db.invitations, row.id = invitation.id ∧
      row.acceptedAt ≠ none := by
  obtain ⟨now, _, _, _, userId, _, -, hacceptance⟩ := h
  rw [hacceptance.invitations]
  refine ⟨_, List.mem_map.mpr ⟨invitation, hacceptance.mem, rfl⟩, ?_⟩
  rw [if_pos rfl]
  exact ⟨rfl, Option.some_ne_none now⟩

lemma accepts_once (h : Sound config s) {event' : Event Call Tables}
    {invitation invitation' : Invitation} (hallowed : s.Allowed event)
    (hmiddle : Run.Along (step config) Allowed (step config s event) events)
    (hfirst : Accepts config s event invitation)
    (hsecond : Accepts config (Run.run (step config) (step config s event) events) event'
      invitation') : invitation'.id ≠ invitation.id := by
  intro hid
  have hsound := sound_event h hallowed
  obtain ⟨row, hrow, hrowId, haccepted⟩ := exists_accepted hfirst
  obtain ⟨later, hlater, hcontinues⟩ := continue_run hsound hmiddle row hrow
  obtain ⟨_, _, _, _, _, _, -, hacceptance⟩ := hsecond
  -- the row of the invitation is unique, and it is the accepted one
  have heq : later = invitation' := (sound_run hsound hmiddle).inv.invitations_pk.eq_of_key_eq
    hlater hacceptance.mem (hcontinues.id.trans (hrowId.trans hid.symm))
  have hlaterAccepted : later.acceptedAt = row.acceptedAt := (hcontinues.accepted haccepted).1
  rw [heq, hacceptance.isOpen.1] at hlaterAccepted
  exact haccepted hlaterAccepted.symm

end MembershipSystem

/-! ## Invitations in every interleaving -/

/-- What holds of invitations and memberships in every state. -/
structure RedemptionInvariant (s : MembershipSystem) : Prop where
  /-- No invitation is both accepted and revoked. -/
  not_accepted_and_revoked : ∀ invitation ∈ s.db.invitations,
    invitation.acceptedAt = none ∨ invitation.revokedAt = none
  /-- A user has one membership of a tenant at most. -/
  one_membership : Rows.UniqueOn s.db.tenantMemberships
    fun membership => (membership.tenantId, membership.userId)
  /-- A redemption that failed has committed nothing. -/
  failed_unchanged : ∀ outcome ∈ s.finished, outcome.call.IsRedemption →
    ∀ e, outcome.result = .error e → outcome.committed = []

/-- **Redeeming invitations.**  In every interleaving of the calls on invitations, memberships and
tenants: no invitation is ever both accepted and revoked, there is one membership at most of a user in
a tenant, and a redemption that fails changes nothing; no acceptance and no revocation is undone; the
commit of a redemption accepts one invitation, which was open, for an active user and in a tenant
that admits its principals, and it changes no membership that exists; and two commits accept two
invitations. -/
theorem invitation_redemption (hvalid : Valid db) {events : List (Event Call Tables)}
    (hallowed : Run.Along (MembershipSystem.step config) MembershipSystem.Allowed
      (System.initial db) events) :
    Run.Always (MembershipSystem.step config) RedemptionInvariant (System.initial db) events ∧
    (∀ before middle after, events = before ++ middle ++ after →
      let s := Run.run (MembershipSystem.step config) (System.initial db) before
      InvitationsContinue s.db (Run.run (MembershipSystem.step config) s middle).db) ∧
    (∀ before event after call, events = before ++ event :: after → call.IsRedemption →
      let s := Run.run (MembershipSystem.step config) (System.initial db) before
      s.Commits event call →
        ∃ invitation, MembershipSystem.Accepts config s event invitation) ∧
    ∀ before event middle event' after invitation invitation',
      events = before ++ event :: (middle ++ event' :: after) →
      let s := Run.run (MembershipSystem.step config) (System.initial db) before
      MembershipSystem.Accepts config s event invitation →
      MembershipSystem.Accepts config (Run.run (MembershipSystem.step config)
        (MembershipSystem.step config s event) middle) event' invitation' →
      invitation'.id ≠ invitation.id := by
  have hstart : MembershipSystem.Sound config (System.initial db) := System.sound_initial hvalid
  refine ⟨?_, ?_, ?_, ?_⟩
  · rintro before after rfl
    have hsound := MembershipSystem.sound_run hstart (Run.along_append.mp hallowed).1
    exact ⟨hsound.inv.not_accepted_and_revoked, hsound.inv.tenant_memberships_tenant_user,
      hsound.finished⟩
  · rintro before middle after rfl
    obtain ⟨hbefore, hmiddle⟩ := Run.along_append.mp (Run.along_append.mp hallowed).1
    exact MembershipSystem.continue_run (MembershipSystem.sound_run hstart hbefore) hmiddle
  · rintro before event after call rfl hredemption s hcommits
    have hsound := MembershipSystem.sound_run hstart (Run.along_append.mp hallowed).1
    exact MembershipSystem.accepts_of_commits hsound hredemption hcommits
  · rintro before event middle event' after invitation invitation' rfl s hfirst hsecond
    obtain ⟨hbefore, hevent, hrest⟩ := Run.along_append.mp hallowed
    exact MembershipSystem.accepts_once (MembershipSystem.sound_run hstart hbefore) hevent
      (Run.along_append.mp hrest).1 hfirst hsecond

/-! ### A redemption that races a revocation -/

def invitedTables : Tables where
  tenants := [⟨1, "tenant", .active, none⟩]
  tenantAncestry := [⟨1, 1, 0⟩]
  users := [⟨10, true⟩, ⟨11, true⟩]
  tenantMemberships := [⟨100, 1, 10, .active, 0⟩]
  roles := [⟨200, 1, "owner"⟩]
  permissions := [⟨1, "invitation", "revoke"⟩]
  rolePermissions := [⟨300, 1, 200, 1⟩]
  membershipRoles := [⟨400, 1, 100, 200, .self⟩]
  invitations := [⟨500, 1, "ada@example.com",
    "3c469e9d6c5875d37a43f353d4f88e61fcf812c66eee3457465a40b0da4153e0", 10, 0, 1000, none, none,
    none, none⟩]

lemma valid_invitedTables : Valid invitedTables where
  tenants_pk := by decide
  users_pk := by decide
  invitations_pk := by decide
  tenant_memberships_pk := by decide
  tenant_memberships_tenant_user := by decide
  not_accepted_and_revoked := by decide

def tokenConfig : RedemptionConfig where
  hashInvitationToken rawToken :=
    if rawToken = "token" then "3c469e9d6c5875d37a43f353d4f88e61fcf812c66eee3457465a40b0da4153e0"
    else ""
  casefold := PyString.asciiCasefold

/-- The owner has read that the invitation is pending when the redemption locks its row; the next
event of the second call is its commit. -/
def redemptionBeforeRevocation : List (Event Call Tables) :=
  [.start 0 (.revokeInvitation 5 900 1 500 (.user 10)),
    .start 1 (.acceptInvitation 6 901 "token" 1 (.user 11) (some " Ada@example.com "))] ++
    List.replicate 3 (.advance 0) ++ List.replicate 7 (.advance 1)

/-- The redemption commits and accepts an invitation, and the check on the table refuses the
revocation. -/
theorem invitation_redemption_race :
    (∃ invitation, MembershipSystem.Accepts tokenConfig (Run.run (MembershipSystem.step tokenConfig)
      (System.initial invitedTables) redemptionBeforeRevocation) (.advance 1) invitation) ∧
    (Run.run (MembershipSystem.step tokenConfig) (System.initial invitedTables)
      (redemptionBeforeRevocation ++ .advance 1 :: List.replicate 5 (.advance 0))).finished.map
        (fun outcome => (outcome.result, outcome.committed)) =
          [(.error (.service .integrityError), [])] := by
  refine ⟨?_, by decide +kernel⟩
  have hinternal : ∀ event ∈ redemptionBeforeRevocation ++
      .advance 1 :: List.replicate 5 (.advance 0), event.isInternal = true := by decide
  have hall := @invitation_redemption tokenConfig _ valid_invitedTables _
    (Run.along_of_mem fun event hevent s =>
      MembershipSystem.allowed_of_isInternal (hinternal event hevent) s)
  have hcommitting : (Run.run (MembershipSystem.step tokenConfig) (System.initial invitedTables)
      redemptionBeforeRevocation).committing (.advance 1) = some (.acceptInvitation 6 901 "token" 1
        (.user 11) (some " Ada@example.com ")) := by decide +kernel
  have hcommits := System.commits_of_committing hcommitting
  exact hall.2.2.1 redemptionBeforeRevocation (.advance 1) (List.replicate 5 (.advance 0)) _ rfl
    (by exact trivial) hcommits

end Membership

end SaasOs
