import SaasOs.Crypto.Fields
import SaasOs.Foundation.Run
import SaasOs.Schema.Tables

/-!
# Re-encryption of legacy signing secrets

A subscription stores its signing secret as an envelope, or, if it is old, as plaintext; the prefix
of the text tells which.  `reencrypt_legacy_signing_secrets` counts the plaintext secrets of a
tenant, or locks them and replaces each by a verified envelope, in one transaction.
-/

namespace SaasOs.Webhooks

open Rows

open SaasOs.Crypto (EncryptionError EncryptionService Nonce)

/-! ## Secrets -/

/-- `startswith(_SIGNING_SECRET_ENVELOPE_PREFIX)`. -/
def hasEnvelopePrefix (stored : String) : Bool :=
  "efv1:".toList.isPrefixOf stored.toList

/-- `_signing_secret_associated_data`. -/
def signingSecretAssociatedData (tenantId : Uuid) : List Base64.Byte :=
  Crypto.utf8 ("webhook_signing_secret:" ++ uuidStr tenantId)

/-- `_encrypt_signing_secret`, with the nonce that is drawn. -/
def encryptSigningSecret (service : EncryptionService) (nonce : Nonce) (tenantId : Uuid)
    (rawSecret : String) : Except EncryptionError String :=
  service.encryptStr nonce rawSecret (some (signingSecretAssociatedData tenantId))

/-- `_decrypt_signing_secret`: a text without the prefix is returned as it is. -/
def decryptSigningSecret (service : EncryptionService) (tenantId : Uuid) (stored : String) :
    Except EncryptionError String :=
  if !hasEnvelopePrefix stored then .ok stored
  else service.decryptStr stored (some (signingSecretAssociatedData tenantId))

/-- A row of `core.webhook_subscriptions`. -/
structure WebhookSubscription where
  id : Uuid
  tenantId : Uuid
  signingSecret : String
  deriving DecidableEq

def WebhookSubscription.isLegacy (row : WebhookSubscription) : Bool :=
  !hasEnvelopePrefix row.signingSecret

/-- What the subscription signs with. -/
def WebhookSubscription.secret (service : EncryptionService) (row : WebhookSubscription) :
    Except EncryptionError String :=
  decryptSigningSecret service row.tenantId row.signingSecret

/-- `_reencrypted`, with the nonce that is drawn. -/
def reencrypted (service : EncryptionService) (nonce : Nonce) (tenantId : Uuid)
    (plaintext : String) : Option String :=
  match encryptSigningSecret service nonce tenantId plaintext with
  | .error _ => none
  | .ok envelope =>
    if !hasEnvelopePrefix envelope then none
    else match decryptSigningSecret service tenantId envelope with
      | .error _ => none
      | .ok decrypted => if decrypted ≠ plaintext then none else some envelope

def maxReencryptSubscriptions : ℕ := 1000

/-- The length of the column `signing_secret`. -/
def signingSecretLength : ℕ := 512

def selectLegacy (rows : List WebhookSubscription) (tenantId : Uuid) : List WebhookSubscription :=
  ((rows.filter fun row => row.tenantId = tenantId && row.isLegacy).insertionSort
    fun row other => row.id ≤ other.id).take (maxReencryptSubscriptions + 1)

inductive ReencryptionError
  | notAuthorized
  | tenantClosed
  | tooMany
  | unverified
  | valueTooLong

def reencryptedRows (service : EncryptionService) (nonce : Uuid → Nonce) (tenantId : Uuid) :
    List WebhookSubscription → Except ReencryptionError (List WebhookSubscription)
  | [] => .ok []
  | row :: rest =>
    match reencrypted service (nonce row.id) tenantId row.signingSecret with
    | none => .error .unverified
    | some envelope => do
      let rest ← reencryptedRows service nonce tenantId rest
      return { row with signingSecret := envelope } :: rest

def flushSecrets (rows written : List WebhookSubscription) :
    Except ReencryptionError (List WebhookSubscription) :=
  if written.any fun row => signingSecretLength < row.signingSecret.length then
    .error .valueTooLong
  else
    .ok (rows.map fun row => (written.find? fun other => other.id = row.id).getD row)

/-! ## The system -/

/-- Where a call is: it holds the locks of the rows that it selected, it has counted, it has
committed, or it has raised. -/
inductive ReencryptionPhase
  | locked (tenantId : Uuid) (selected : List WebhookSubscription)
  | counted (matched : ℕ)
  | applied (reencrypted : ℕ)
  | raised (error : ReencryptionError)

/-- The subscriptions, the open tenants, the calls, and the locks of calls on subscriptions and on
tenants. -/
structure SecretsState where
  rows : List WebhookSubscription
  openTenants : List Uuid
  calls : ℕ → Option ReencryptionPhase
  rowLocks : List (ℕ × Uuid)
  tenantLocks : List (ℕ × Uuid)

/-- What can happen next to the secrets. -/
inductive SecretsEvent
  | select (n : ℕ) (tenantId : Uuid) (apply authorized : Bool)
  | write (n : ℕ) (nonce : Uuid → Nonce)
  | crash (n : ℕ)
  | subscribe (id tenantId : Uuid) (rawSecret : String) (nonce : Nonce)
  | unsubscribe (tenantId id : Uuid)
  | deliver (tenantId id : Uuid)
  | setOpen (tenantId : Uuid) (isOpen : Bool)

namespace SecretsState

/-- The call at `n` ends in a phase and gives its locks back. -/
def finish (state : SecretsState) (n : ℕ) (phase : Option ReencryptionPhase) : SecretsState :=
  { state with
    calls := Function.update state.calls n phase
    rowLocks := state.rowLocks.filter fun lock => lock.1 ≠ n
    tenantLocks := state.tenantLocks.filter fun lock => lock.1 ≠ n }

/-- The call's authorization, its lock on the tenant and its selection. -/
def select (state : SecretsState) (n : ℕ) (tenantId : Uuid) (apply authorized : Bool) :
    SecretsState :=
  if state.calls n ≠ none then state
  else if !authorized then state.finish n (some (.raised .notAuthorized))
  else if tenantId ∉ state.openTenants then state.finish n (some (.raised .tenantClosed))
  else
    let selected := selectLegacy state.rows tenantId
    if apply && selected.any (fun row => state.rowLocks.any fun lock => lock.2 = row.id) then state
    else if maxReencryptSubscriptions < selected.length then
      state.finish n (some (.raised .tooMany))
    else if !apply then state.finish n (some (.counted selected.length))
    else
      { state with
        calls := Function.update state.calls n (some (.locked tenantId selected))
        rowLocks := selected.map (fun row => (n, row.id)) ++ state.rowLocks
        tenantLocks := (n, tenantId) :: state.tenantLocks }

def write (service : EncryptionService) (state : SecretsState) (n : ℕ) (nonce : Uuid → Nonce) :
    SecretsState :=
  match state.calls n with
  | some (.locked tenantId selected) =>
    match reencryptedRows service nonce tenantId selected >>= flushSecrets state.rows with
    | .error error => state.finish n (some (.raised error))
    | .ok rows => { state with rows := rows }.finish n (some (.applied selected.length))
  | _ => state

def step (service : EncryptionService) (state : SecretsState) : SecretsEvent → SecretsState
  | .select n tenantId apply authorized => state.select n tenantId apply authorized
  | .write n nonce => state.write service n nonce
  | .crash n => state.finish n none
  | .subscribe id tenantId rawSecret nonce =>
    match encryptSigningSecret service nonce tenantId rawSecret with
    | .error _ => state
    | .ok envelope =>
      if tenantId ∈ state.openTenants ∧ (∀ row ∈ state.rows, row.id ≠ id) ∧
          envelope.length ≤ signingSecretLength then
        { state with rows := state.rows ++ [⟨id, tenantId, envelope⟩] }
      else state
  | .unsubscribe tenantId id =>
    if state.rowLocks.any fun lock => lock.2 = id then state
    else { state with rows := state.rows.filter fun row => !(row.id = id && row.tenantId = tenantId) }
  | .deliver _ _ => state
  | .setOpen tenantId isOpen =>
    if isOpen then { state with openTenants := tenantId :: state.openTenants }
    else if state.tenantLocks.any fun lock => lock.2 = tenantId then state
    else { state with openTenants := state.openTenants.filter fun other => other ≠ tenantId }

/-- Every secret of the tenant is in an envelope. -/
def NoPlaintext (state : SecretsState) (tenantId : Uuid) : Prop :=
  ∀ row ∈ state.rows, row.tenantId = tenantId → row.isLegacy = false

def SecretsKept (service : EncryptionService) (state : SecretsState) (event : SecretsEvent) : Prop :=
  ∀ row ∈ state.rows, ∀ row' ∈ (state.step service event).rows, row'.id = row.id →
    row'.tenantId = row.tenantId ∧ row'.secret service = row.secret service

/-- Each plaintext row of the tenant is replaced by one of the same id and tenant that holds an
envelope, and the other rows are as they were. -/
def Converted (tenantId : Uuid) (rows rows' : List WebhookSubscription) : Prop :=
  List.Forall₂ (fun row row' =>
    if row.tenantId = tenantId ∧ row.isLegacy = true then
      row'.id = row.id ∧ row'.tenantId = row.tenantId ∧ row'.isLegacy = false
    else row' = row) rows rows'

/-- The event of a re-encryption changes nothing, or converts each plaintext secret of the call's
tenant and nothing else; a call that counts changes nothing. -/
def AllOrNothing (service : EncryptionService) (state : SecretsState) (event : SecretsEvent) :
    Prop :=
  match event with
  | .select _ _ _ _ => (state.step service event).rows = state.rows
  | .write n _ => (state.step service event).rows = state.rows ∨
      ∃ tenantId selected, state.calls n = some (.locked tenantId selected) ∧
        (state.step service event).calls n = some (.applied selected.length) ∧
        Converted tenantId state.rows (state.step service event).rows ∧
        (state.step service event).NoPlaintext tenantId
  | .crash _ => (state.step service event).rows = state.rows
  | _ => True

/-- Before any call: the subscriptions have distinct ids and nothing is locked. -/
structure Initial (state : SecretsState) : Prop where
  distinct : UniqueOn state.rows WebhookSubscription.id
  noCalls : ∀ n, state.calls n = none
  noRowLocks : state.rowLocks = []
  noTenantLocks : state.tenantLocks = []

end SecretsState

/-! ## What the functions do -/

variable {service : EncryptionService} {rows selected : List WebhookSubscription}
  {row row' : WebhookSubscription} {tenantId : Uuid} {nonce : Uuid → Nonce}

/-- The envelope of a secret of the tenant. -/
def signingEnvelope (service : EncryptionService) (nonce : Nonce) (tenantId : Uuid)
    (plaintext : String) : String :=
  service.envelope nonce plaintext (some (signingSecretAssociatedData tenantId))

lemma encryptSigningSecret_eq (service : EncryptionService) (nonce : Nonce) (tenantId : Uuid)
    (plaintext : String) : encryptSigningSecret service nonce tenantId plaintext =
      .ok (signingEnvelope service nonce tenantId plaintext) :=
  service.encryptStr_eq nonce plaintext _

/-- An envelope carries the prefix. -/
lemma hasEnvelopePrefix_envelope (service : EncryptionService) (nonce : Nonce) (tenantId : Uuid)
    (plaintext : String) :
    hasEnvelopePrefix (signingEnvelope service nonce tenantId plaintext) = true := by
  unfold hasEnvelopePrefix signingEnvelope EncryptionService.envelope Crypto.ofText
  simp only [String.toList_ofList, service.envelopeText_eq]
  rfl

lemma decryptSigningSecret_envelope (service : EncryptionService) (nonce : Nonce) (tenantId : Uuid)
    (plaintext : String) :
    decryptSigningSecret service tenantId (signingEnvelope service nonce tenantId plaintext) =
      .ok plaintext := by
  unfold decryptSigningSecret
  rw [hasEnvelopePrefix_envelope]
  exact service.decryptStr_envelope nonce plaintext _

def WebhookSubscription.encrypted (service : EncryptionService) (nonce : Uuid → Nonce)
    (row : WebhookSubscription) : WebhookSubscription :=
  { row with signingSecret := signingEnvelope service (nonce row.id) row.tenantId row.signingSecret }

lemma isLegacy_encrypted : (row.encrypted service nonce).isLegacy = false := by
  simp [WebhookSubscription.isLegacy, WebhookSubscription.encrypted, hasEnvelopePrefix_envelope]

lemma secret_encrypted (h : row.isLegacy = true) :
    (row.encrypted service nonce).secret service = row.secret service := by
  have hprefix : hasEnvelopePrefix row.signingSecret = false := by
    simpa [WebhookSubscription.isLegacy] using h
  have hplain : row.secret service = .ok row.signingSecret := by
    simp [WebhookSubscription.secret, decryptSigningSecret, hprefix]
  rw [hplain]
  exact decryptSigningSecret_envelope service (nonce row.id) row.tenantId row.signingSecret

lemma reencrypted_eq (service : EncryptionService) (nonce : Nonce) (tenantId : Uuid)
    (plaintext : String) :
    reencrypted service nonce tenantId plaintext =
      some (signingEnvelope service nonce tenantId plaintext) := by
  simp [reencrypted, encryptSigningSecret_eq, hasEnvelopePrefix_envelope,
    decryptSigningSecret_envelope]

lemma reencryptedRows_eq (htenant : ∀ row ∈ selected, row.tenantId = tenantId) :
    reencryptedRows service nonce tenantId selected =
      .ok (selected.map (WebhookSubscription.encrypted service nonce)) := by
  induction selected with
  | nil => rfl
  | cons first rest ih =>
    have hrest := ih fun row hrow => htenant row (List.mem_cons_of_mem _ hrow)
    have hfirst := htenant first List.mem_cons_self
    simp only [reencryptedRows, reencrypted_eq, hrest]
    subst hfirst
    rfl

lemma find?_encrypted (hdistinct : UniqueOn rows WebhookSubscription.id)
    (hselected : ∀ row ∈ selected, row ∈ rows) (hrow : row ∈ rows) :
    (((selected.map (WebhookSubscription.encrypted service nonce)).find?
      fun other => other.id = row.id).getD row) =
        if row ∈ selected then row.encrypted service nonce else row := by
  split
  · next hmem =>
    have hone : AtMostOne (selected.map (WebhookSubscription.encrypted service nonce))
        fun other => decide (other.id = row.id) := by
      intro r hr s hs hrid hsid
      obtain ⟨first, hfirst, rfl⟩ := List.mem_map.mp hr
      obtain ⟨second, hsecond, rfl⟩ := List.mem_map.mp hs
      have hsame := (of_decide_eq_true hrid).trans (of_decide_eq_true hsid).symm
      rw [hdistinct.eq_of_key_eq (hselected first hfirst) (hselected second hsecond) hsame]
    rw [(find?_eq_some_iff hone).mpr ⟨List.mem_map_of_mem hmem, decide_eq_true rfl⟩]
    rfl
  · next hmem =>
    have hnone : (selected.map (WebhookSubscription.encrypted service nonce)).find?
        (fun other => decide (other.id = row.id)) = none := by
      refine List.find?_eq_none.mpr fun other hother => ?_
      obtain ⟨old, hold, rfl⟩ := List.mem_map.mp hother
      intro hid
      obtain rfl := hdistinct.eq_of_key_eq (hselected old hold) hrow (of_decide_eq_true hid)
      exact hmem hold
    rw [hnone]
    rfl

def Fits (service : EncryptionService) (selected : List WebhookSubscription) : Prop :=
  ∀ row ∈ selected, service.envelopeLength row.signingSecret ≤ signingSecretLength

instance (service : EncryptionService) (selected : List WebhookSubscription) :
    Decidable (Fits service selected) :=
  inferInstanceAs (Decidable (∀ row ∈ selected, _))

lemma flush_reencryptedRows (hdistinct : UniqueOn rows WebhookSubscription.id)
    (hselected : ∀ row ∈ selected, row ∈ rows) (htenant : ∀ row ∈ selected, row.tenantId = tenantId)
    (service : EncryptionService) (nonce : Uuid → Nonce) :
    (reencryptedRows service nonce tenantId selected >>= flushSecrets rows) =
      if Fits service selected then
        .ok (rows.map fun row => if row ∈ selected then row.encrypted service nonce else row)
      else .error .valueTooLong := by
  rw [reencryptedRows_eq htenant]
  change flushSecrets rows _ = _
  unfold flushSecrets
  have hlength : ((selected.map (WebhookSubscription.encrypted service nonce)).any
      fun row => decide (signingSecretLength < row.signingSecret.length)) =
        !decide (Fits service selected) := by
    rw [Bool.eq_iff_iff]
    rw [Bool.not_eq_true', decide_eq_false_iff_not]
    simp only [List.any_map, List.any_eq_true, Function.comp_apply, decide_eq_true_eq, Fits,
      not_forall, not_le, exists_prop, WebhookSubscription.encrypted, signingEnvelope,
      service.length_envelope]
  rw [hlength]
  by_cases hfits : Fits service selected
  · rw [if_pos hfits, decide_eq_true hfits]
    refine congrArg Except.ok (List.map_congr_left fun row hrow => ?_)
    exact find?_encrypted hdistinct hselected hrow
  · rw [if_neg hfits, decide_eq_false hfits]
    rfl

def legacyRows (rows : List WebhookSubscription) (tenantId : Uuid) : List WebhookSubscription :=
  rows.filter fun row => row.tenantId = tenantId && row.isLegacy

lemma length_selectLegacy (rows : List WebhookSubscription) (tenantId : Uuid) :
    (selectLegacy rows tenantId).length =
      min (maxReencryptSubscriptions + 1) (legacyRows rows tenantId).length := by
  unfold selectLegacy
  rw [List.length_take, List.length_insertionSort]
  rfl

lemma of_mem_selectLegacy (h : row ∈ selectLegacy rows tenantId) :
    row ∈ rows ∧ row.tenantId = tenantId ∧ row.isLegacy = true := by
  have hrow := mem_of_mem_selected h
  simpa using hrow

lemma mem_selectLegacy (hlength : (selectLegacy rows tenantId).length ≤ maxReencryptSubscriptions)
    (hrow : row ∈ rows) (htenant : row.tenantId = tenantId) (hlegacy : row.isLegacy = true) :
    row ∈ selectLegacy rows tenantId := by
  rw [length_selectLegacy] at hlength
  have hcount : (legacyRows rows tenantId).length ≤ maxReencryptSubscriptions + 1 := by omega
  unfold selectLegacy
  rw [List.take_of_length_le (by rw [List.length_insertionSort]; exact hcount)]
  exact (List.mem_insertionSort _).mpr (List.mem_filter.mpr ⟨hrow, by simp [htenant, hlegacy]⟩)

/-! ## The invariant -/

namespace SecretsState

variable {state : SecretsState}

/-- What every state of a run satisfies: a call that holds its locks has selected the plaintext rows
of its tenant, all of them and no others, and no other call holds them. -/
structure Sound (state : SecretsState) : Prop where
  distinct : UniqueOn state.rows WebhookSubscription.id
  selected : ∀ n tenantId selected, state.calls n = some (.locked tenantId selected) →
    ∀ row, row ∈ selected ↔ row ∈ state.rows ∧ row.tenantId = tenantId ∧ row.isLegacy = true
  locks : ∀ n tenantId selected, state.calls n = some (.locked tenantId selected) →
    ∀ row ∈ selected, (n, row.id) ∈ state.rowLocks
  exclusive : ∀ lock ∈ state.rowLocks, ∀ other ∈ state.rowLocks, lock.2 = other.2 →
    lock.1 = other.1

lemma Initial.sound (h : state.Initial) : state.Sound where
  distinct := h.distinct
  selected n _ _ hn := by
    rw [h.noCalls n] at hn
    cases hn
  locks n _ _ hn := by
    rw [h.noCalls n] at hn
    cases hn
  exclusive lock hlock := by
    rw [h.noRowLocks] at hlock
    cases hlock

lemma Sound.finish (h : state.Sound) (n : ℕ) {phase : Option ReencryptionPhase}
    (hphase : ∀ tenantId selected, phase ≠ some (.locked tenantId selected)) :
    (state.finish n phase).Sound := by
  have hcall : ∀ m tenantId selected, (state.finish n phase).calls m =
      some (.locked tenantId selected) → m ≠ n ∧ state.calls m = some (.locked tenantId selected) := by
    intro m tenantId selected hm
    unfold SecretsState.finish at hm
    rcases Run.update_cases hm with ⟨-, hm⟩ | hother
    · exact absurd hm (hphase tenantId selected)
    · exact hother
  exact
    { distinct := h.distinct
      selected := fun m tenantId selected hm =>
        h.selected m tenantId selected (hcall m tenantId selected hm).2
      locks := fun m tenantId selected hm row hrow => by
        obtain ⟨hmn, hold⟩ := hcall m tenantId selected hm
        refine List.mem_filter.mpr ⟨h.locks m tenantId selected hold row hrow, ?_⟩
        simpa using hmn
      exclusive := fun lock hlock other hother =>
        h.exclusive lock (List.mem_filter.mp hlock).1 other (List.mem_filter.mp hother).1 }

lemma Sound.lock (h : state.Sound) {n : ℕ} (hcall : state.calls n = none)
    (hfree : ∀ row ∈ selectLegacy state.rows tenantId, ∀ lock ∈ state.rowLocks, lock.2 ≠ row.id)
    (hlength : (selectLegacy state.rows tenantId).length ≤ maxReencryptSubscriptions) :
    Sound { state with
      calls := Function.update state.calls n
        (some (.locked tenantId (selectLegacy state.rows tenantId)))
      rowLocks := (selectLegacy state.rows tenantId).map (fun row => (n, row.id)) ++ state.rowLocks
      tenantLocks := (n, tenantId) :: state.tenantLocks } where
  distinct := h.distinct
  selected m other selected hm row := by
    dsimp only at hm ⊢
    rcases Run.update_some_cases hm with ⟨-, hnew⟩ | ⟨-, hm⟩
    · cases hnew
      exact ⟨of_mem_selectLegacy, fun ⟨hrow, htenant, hlegacy⟩ =>
        mem_selectLegacy hlength hrow htenant hlegacy⟩
    · exact h.selected m other selected hm row
  locks m other selected hm row hrow := by
    rcases Run.update_some_cases hm with ⟨rfl, hnew⟩ | ⟨-, hm⟩
    · cases hnew
      exact List.mem_append_left _ (List.mem_map.mpr ⟨row, hrow, rfl⟩)
    · exact List.mem_append_right _ (h.locks m other selected hm row hrow)
  exclusive lock hlock other hother heq := by
    rcases List.mem_append.mp hlock with hlock | hlock
    · obtain ⟨row, hrow, rfl⟩ := List.mem_map.mp hlock
      rcases List.mem_append.mp hother with hother | hother
      · obtain ⟨row', -, rfl⟩ := List.mem_map.mp hother
        rfl
      · exact absurd heq.symm (hfree row hrow other hother)
    · rcases List.mem_append.mp hother with hother | hother
      · obtain ⟨row, hrow, rfl⟩ := List.mem_map.mp hother
        exact absurd heq (hfree row hrow lock hlock)
      · exact h.exclusive lock hlock other hother heq

lemma select_cases (state : SecretsState) (n : ℕ) (tenantId : Uuid) (apply authorized : Bool) :
    state.select n tenantId apply authorized = state ∨
    (∃ phase, (∀ tenantId selected, phase ≠ some (.locked tenantId selected)) ∧
      state.select n tenantId apply authorized = state.finish n phase) ∨
    state.calls n = none ∧
      (∀ row ∈ selectLegacy state.rows tenantId, ∀ lock ∈ state.rowLocks, lock.2 ≠ row.id) ∧
      (selectLegacy state.rows tenantId).length ≤ maxReencryptSubscriptions ∧
      state.select n tenantId apply authorized = { state with
        calls := Function.update state.calls n
          (some (.locked tenantId (selectLegacy state.rows tenantId)))
        rowLocks :=
          (selectLegacy state.rows tenantId).map (fun row => (n, row.id)) ++ state.rowLocks
        tenantLocks := (n, tenantId) :: state.tenantLocks } := by
  unfold select
  split
  · exact .inl rfl
  split
  · exact .inr (.inl ⟨some (.raised .notAuthorized), fun _ _ => nofun, rfl⟩)
  split
  · exact .inr (.inl ⟨some (.raised .tenantClosed), fun _ _ => nofun, rfl⟩)
  dsimp only
  split
  · exact .inl rfl
  split
  · exact .inr (.inl ⟨some (.raised .tooMany), fun _ _ => nofun, rfl⟩)
  split
  · exact .inr (.inl ⟨some (.counted (selectLegacy state.rows tenantId).length),
      fun _ _ => nofun, rfl⟩)
  next hcall _ _ hwaits hmany happly =>
    have happly : apply = true := by simpa using happly
    refine .inr (.inr ⟨not_not.mp hcall, fun row hrow lock hlock heq => ?_, not_lt.mp hmany, rfl⟩)
    refine hwaits ?_
    rw [happly, Bool.true_and]
    exact List.any_eq_true.mpr ⟨row, hrow, List.any_eq_true.mpr ⟨lock, hlock, by simpa using heq⟩⟩

lemma Sound.write_of_locked (h : state.Sound) (service : EncryptionService) {n : ℕ}
    {selected : List WebhookSubscription} (hcall : state.calls n = some (.locked tenantId selected))
    (nonce : Uuid → Nonce) :
    state.write service n nonce = if Fits service selected then
      { state with
        rows := state.rows.map fun row =>
          if row ∈ selected then row.encrypted service nonce else row }.finish n
            (some (.applied selected.length))
    else state.finish n (some (.raised .valueTooLong)) := by
  have hselected := h.selected n tenantId selected hcall
  have hflush := flush_reencryptedRows h.distinct (fun row hrow => ((hselected row).mp hrow).1)
    (fun row hrow => ((hselected row).mp hrow).2.1) service nonce
  unfold write
  rw [hcall]
  dsimp only
  rw [hflush]
  split_ifs <;> rfl

lemma Sound.write_cases (h : state.Sound) (service : EncryptionService) (n : ℕ) (nonce : Uuid → Nonce) :
    state.write service n nonce = state ∨
    ∃ tenantId selected, state.calls n = some (.locked tenantId selected) ∧
      state.write service n nonce = if Fits service selected then
        { state with
          rows := state.rows.map fun row =>
            if row ∈ selected then row.encrypted service nonce else row }.finish n
              (some (.applied selected.length))
      else state.finish n (some (.raised .valueTooLong)) := by
  by_cases hlocked : ∃ tenantId selected, state.calls n = some (.locked tenantId selected)
  · obtain ⟨tenantId, selected, hcall⟩ := hlocked
    exact .inr ⟨tenantId, selected, hcall, h.write_of_locked service hcall nonce⟩
  · refine .inl ?_
    unfold write
    split
    · next tenantId selected hcall => exact absurd ⟨tenantId, selected, hcall⟩ hlocked
    · rfl

lemma Sound.noPlaintext_encrypt (h : state.Sound) {n : ℕ} {selected : List WebhookSubscription}
    (hcall : state.calls n = some (.locked tenantId selected)) (service : EncryptionService)
    (nonce : Uuid → Nonce) {row : WebhookSubscription}
    (hrow : row ∈ state.rows.map fun row =>
      if row ∈ selected then row.encrypted service nonce else row)
    (htenant : row.tenantId = tenantId) : row.isLegacy = false := by
  obtain ⟨old, hold, rfl⟩ := List.mem_map.mp hrow
  split at htenant
  · next hselected =>
    rw [if_pos hselected]
    exact isLegacy_encrypted
  · next hselected =>
    rw [if_neg hselected]
    refine Bool.eq_false_iff.mpr fun hlegacy => hselected ?_
    exact (h.selected n tenantId selected hcall old).mpr ⟨hold, htenant, hlegacy⟩

lemma Sound.converted (h : state.Sound) {n : ℕ} {selected : List WebhookSubscription}
    (hcall : state.calls n = some (.locked tenantId selected)) (service : EncryptionService)
    (nonce : Uuid → Nonce) :
    Converted tenantId state.rows (state.rows.map fun row =>
      if row ∈ selected then row.encrypted service nonce else row) := by
  unfold Converted
  rw [List.forall₂_map_right_iff, List.forall₂_same]
  intro row hrow
  have hmem := h.selected n tenantId selected hcall row
  by_cases hselected : row ∈ selected
  · rw [if_pos (hmem.mp hselected).2, if_pos hselected]
    exact ⟨rfl, rfl, isLegacy_encrypted⟩
  · rw [if_neg fun hlegacy => hselected (hmem.mpr ⟨hrow, hlegacy⟩), if_neg hselected]

lemma Sound.encrypt (h : state.Sound) {n : ℕ} {selected : List WebhookSubscription}
    (hcall : state.calls n = some (.locked tenantId selected)) (service : EncryptionService)
    (nonce : Uuid → Nonce) :
    (SecretsState.finish { state with
      rows := state.rows.map fun row =>
        if row ∈ selected then row.encrypted service nonce else row } n
          (some (.applied selected.length))).Sound := by
  have hid : ∀ row : WebhookSubscription,
      (if row ∈ selected then row.encrypted service nonce else row).id = row.id := by
    intro row
    split <;> rfl
  -- the other calls: their rows are locked by them, so they are not selected here
  have hother : ∀ m other rows, m ≠ n → state.calls m = some (.locked other rows) →
      ∀ row ∈ rows, row ∉ selected := by
    intro m other rows hmn hm row hrow hmem
    have hmine := h.locks n tenantId selected hcall row hmem
    have htheirs := h.locks m other rows hm row hrow
    exact hmn (h.exclusive _ htheirs _ hmine rfl)
  have hcalls : ∀ m other rows, (SecretsState.finish { state with
      rows := state.rows.map fun row =>
        if row ∈ selected then row.encrypted service nonce else row } n
          (some (.applied selected.length))).calls m = some (.locked other rows) →
      m ≠ n ∧ state.calls m = some (.locked other rows) := by
    intro m other rows hm
    unfold SecretsState.finish at hm
    rcases Run.update_cases hm with ⟨-, hm⟩ | hother
    · cases hm
    · exact hother
  exact
    { distinct := h.distinct.map_of_key hid
      selected := fun m other rows hm row => by
        obtain ⟨hmn, hm⟩ := hcalls m other rows hm
        have hrows := h.selected m other rows hm
        constructor
        · intro hrow
          obtain ⟨hmem, htenant, hlegacy⟩ := (hrows row).mp hrow
          refine ⟨List.mem_map.mpr ⟨row, hmem, ?_⟩, htenant, hlegacy⟩
          exact if_neg (hother m other rows hmn hm row hrow)
        · rintro ⟨hmem, htenant, hlegacy⟩
          obtain ⟨old, hold, rfl⟩ := List.mem_map.mp hmem
          split at htenant
          · next hselected =>
            rw [if_pos hselected, isLegacy_encrypted] at hlegacy
            cases hlegacy
          · next hselected =>
            rw [if_neg hselected] at hlegacy ⊢
            exact (hrows old).mpr ⟨hold, htenant, hlegacy⟩
      locks := fun m other rows hm row hrow => by
        obtain ⟨hmn, hm⟩ := hcalls m other rows hm
        refine List.mem_filter.mpr ⟨h.locks m other rows hm row hrow, ?_⟩
        simpa using hmn
      exclusive := fun lock hlock other hother =>
        h.exclusive lock (List.mem_filter.mp hlock).1 other (List.mem_filter.mp hother).1 }

lemma Sound.step (h : state.Sound) (service : EncryptionService) (event : SecretsEvent) :
    (state.step service event).Sound := by
  cases event with
  | select n tenantId apply authorized =>
    dsimp only [SecretsState.step]
    rcases select_cases state n tenantId apply authorized with
      hsame | ⟨phase, hphase, hfinish⟩ | ⟨hcall, hfree, hlength, hlocked⟩
    · rw [hsame]
      exact h
    · rw [hfinish]
      exact h.finish n hphase
    · rw [hlocked]
      exact h.lock hcall hfree hlength
  | write n nonce =>
    dsimp only [SecretsState.step]
    rcases h.write_cases service n nonce with hsame | ⟨tenantId, selected, hcall, hwrite⟩
    · rw [hsame]
      exact h
    · rw [hwrite]
      split
      · exact h.encrypt hcall service nonce
      · exact h.finish n fun _ _ => nofun
  | crash n => exact h.finish n fun _ _ => nofun
  | subscribe id tenantId rawSecret nonce =>
    dsimp only [SecretsState.step]
    rw [encryptSigningSecret_eq]
    dsimp only
    split
    · next hnew =>
      refine ⟨h.distinct.concat hnew.2.1, fun n other selected hn row => ?_, h.locks, h.exclusive⟩
      rw [h.selected n other selected hn row]
      constructor
      · exact fun ⟨hrow, htenant, hlegacy⟩ => ⟨List.mem_append_left _ hrow, htenant, hlegacy⟩
      · rintro ⟨hrow, htenant, hlegacy⟩
        rcases List.mem_append.mp hrow with hrow | hrow
        · exact ⟨hrow, htenant, hlegacy⟩
        · obtain rfl := List.mem_singleton.mp hrow
          simp [WebhookSubscription.isLegacy, hasEnvelopePrefix_envelope] at hlegacy
    · exact h
  | unsubscribe tenantId id =>
    dsimp only [SecretsState.step]
    split
    · exact h
    · next hfree =>
      refine ⟨h.distinct.filter _, fun n other selected hn row => ?_, h.locks, h.exclusive⟩
      constructor
      · intro hrow
        obtain ⟨hmem, htenant, hlegacy⟩ := (h.selected n other selected hn row).mp hrow
        refine ⟨List.mem_filter.mpr ⟨hmem, ?_⟩, htenant, hlegacy⟩
        have hne : row.id ≠ id := by
          intro heq
          refine hfree (List.any_eq_true.mpr ⟨_, h.locks n other selected hn row hrow, ?_⟩)
          exact decide_eq_true heq
        simp [hne]
      · rintro ⟨hmem, htenant, hlegacy⟩
        exact (h.selected n other selected hn row).mpr
          ⟨(List.mem_filter.mp hmem).1, htenant, hlegacy⟩
  | deliver tenantId id => exact h
  | setOpen tenantId isOpen =>
    dsimp only [SecretsState.step]
    split
    · exact ⟨h.distinct, h.selected, h.locks, h.exclusive⟩
    · split
      · exact h
      · exact ⟨h.distinct, h.selected, h.locks, h.exclusive⟩

/-! ## What one event keeps -/

lemma Sound.rows_step (h : state.Sound) (service : EncryptionService) (event : SecretsEvent)
    {row' : WebhookSubscription} (hrow : row' ∈ (state.step service event).rows) :
    row' ∈ state.rows ∨
    (∃ row ∈ state.rows, row.isLegacy = true ∧ ∃ nonce, row' = row.encrypted service nonce) ∨
    (∀ row ∈ state.rows, row.id ≠ row'.id) ∧ row'.isLegacy = false := by
  cases event with
  | select n tenantId apply authorized =>
    dsimp only [SecretsState.step] at hrow
    rcases select_cases state n tenantId apply authorized with
      hsame | ⟨phase, -, hfinish⟩ | ⟨-, -, -, hlocked⟩
    · rw [hsame] at hrow
      exact .inl hrow
    · rw [hfinish] at hrow
      exact .inl hrow
    · rw [hlocked] at hrow
      exact .inl hrow
  | write n nonce =>
    dsimp only [SecretsState.step] at hrow
    rcases h.write_cases service n nonce with hsame | ⟨tenantId, selected, hcall, hwrite⟩
    · rw [hsame] at hrow
      exact .inl hrow
    · rw [hwrite] at hrow
      split at hrow
      · obtain ⟨row, hmem, rfl⟩ := List.mem_map.mp hrow
        split
        · next hselected =>
          have hlegacy := ((h.selected n tenantId selected hcall row).mp hselected).2.2
          exact .inr (.inl ⟨row, hmem, hlegacy, nonce, rfl⟩)
        · exact .inl hmem
      · exact .inl hrow
  | crash n => exact .inl hrow
  | subscribe id tenantId rawSecret nonce =>
    dsimp only [SecretsState.step] at hrow
    rw [encryptSigningSecret_eq] at hrow
    dsimp only at hrow
    split at hrow
    · next hnew =>
      rcases List.mem_append.mp hrow with hrow | hrow
      · exact .inl hrow
      · obtain rfl := List.mem_singleton.mp hrow
        refine .inr (.inr ⟨hnew.2.1, ?_⟩)
        simp [WebhookSubscription.isLegacy, hasEnvelopePrefix_envelope]
    · exact .inl hrow
  | unsubscribe tenantId id =>
    dsimp only [SecretsState.step] at hrow
    split at hrow
    · exact .inl hrow
    · exact .inl (List.mem_filter.mp hrow).1
  | deliver tenantId id => exact .inl hrow
  | setOpen tenantId isOpen =>
    dsimp only [SecretsState.step] at hrow
    split at hrow
    · exact .inl hrow
    · split at hrow <;> exact .inl hrow

lemma Sound.secretsKept (h : state.Sound) (service : EncryptionService) (event : SecretsEvent) :
    state.SecretsKept service event := by
  intro row hrow row' hrow' hid
  rcases h.rows_step service event hrow' with hold | ⟨old, hold, hlegacy, nonce, rfl⟩ | ⟨hnew, -⟩
  · rw [h.distinct.eq_of_key_eq hold hrow hid]
    exact ⟨rfl, rfl⟩
  · obtain rfl := h.distinct.eq_of_key_eq hold hrow hid
    exact ⟨rfl, secret_encrypted hlegacy⟩
  · exact absurd hid.symm (hnew row hrow)

lemma Sound.noPlaintext_step (h : state.Sound) (service : EncryptionService) (event : SecretsEvent)
    (hnone : state.NoPlaintext tenantId) : (state.step service event).NoPlaintext tenantId := by
  intro row' hrow' htenant
  rcases h.rows_step service event hrow' with hold | ⟨old, hold, -, nonce, rfl⟩ | ⟨-, hlegacy⟩
  · exact hnone row' hold htenant
  · exact isLegacy_encrypted
  · exact hlegacy

lemma Sound.allOrNothing (h : state.Sound) (service : EncryptionService) (event : SecretsEvent) :
    state.AllOrNothing service event := by
  cases event with
  | select n tenantId apply authorized =>
    dsimp only [AllOrNothing, SecretsState.step]
    rcases select_cases state n tenantId apply authorized with
      hsame | ⟨phase, -, hfinish⟩ | ⟨-, -, -, hlocked⟩
    · rw [hsame]
    · rw [hfinish]
      rfl
    · rw [hlocked]
  | write n nonce =>
    dsimp only [AllOrNothing, SecretsState.step]
    rcases h.write_cases service n nonce with hsame | ⟨tenantId, selected, hcall, hwrite⟩
    · rw [hsame]
      exact .inl rfl
    · rw [hwrite]
      split
      · exact .inr ⟨tenantId, selected, hcall, Function.update_self ..,
          h.converted hcall service nonce,
          fun row hrow htenant => h.noPlaintext_encrypt hcall service nonce hrow htenant⟩
      · exact .inl rfl
  | crash n => rfl
  | subscribe id tenantId rawSecret nonce => trivial
  | unsubscribe tenantId id => trivial
  | deliver tenantId id => trivial
  | setOpen tenantId isOpen => trivial

def CountsAgree (state : SecretsState) : Prop :=
  ∀ n tenantId matched selected,
    (state.select n tenantId false true).calls n = some (.counted matched) →
    (state.select n tenantId true true).calls n = some (.locked tenantId selected) →
      matched = selected.length

lemma countsAgree (state : SecretsState) : state.CountsAgree := by
  intro n tenantId matched selected hcounted hlocked
  by_cases hcall : state.calls n = none
  · rcases select_cases state n tenantId true true with
      hsame | ⟨phase, hphase, hfinish⟩ | ⟨-, -, -, hlock⟩
    · rw [hsame, hcall] at hlocked
      cases hlocked
    · rw [hfinish, SecretsState.finish] at hlocked
      dsimp only at hlocked
      rw [Function.update_self] at hlocked
      exact absurd hlocked (hphase tenantId selected)
    · rw [hlock] at hlocked
      dsimp only at hlocked
      rw [Function.update_self] at hlocked
      cases hlocked
      unfold SecretsState.select at hcounted
      rw [if_neg (not_not.mpr hcall)] at hcounted
      dsimp only [SecretsState.finish, Bool.not_true, Bool.false_and] at hcounted
      split_ifs at hcounted <;> simp_all
  · have hsame : ∀ apply, state.select n tenantId apply true = state := fun apply => if_pos hcall
    rw [hsame] at hcounted hlocked
    rw [hcounted] at hlocked
    cases hlocked

/-! ## Repeated calls -/

def applyCall (tenantId : Uuid) (nonce : ℕ → Uuid → Nonce) (n : ℕ) : List SecretsEvent :=
  [.select n tenantId true true, .write n (nonce n)]

def afterCalls (service : EncryptionService) (state : SecretsState) (tenantId : Uuid)
    (nonce : ℕ → Uuid → Nonce) (k : ℕ) : SecretsState :=
  Run.run (step service) state ((List.range k).flatMap (applyCall tenantId nonce))

lemma afterCalls_succ (service : EncryptionService) (state : SecretsState) (tenantId : Uuid)
    (nonce : ℕ → Uuid → Nonce) (k : ℕ) :
    afterCalls service state tenantId nonce (k + 1) =
      ((afterCalls service state tenantId nonce k).select k tenantId true true).write service k
        (nonce k) := by
  unfold afterCalls
  rw [List.range_succ, List.flatMap_append, Run.run_append]
  rfl

lemma Initial.noPlaintext (h : state.Initial) (service : EncryptionService)
    (hopen : tenantId ∈ state.openTenants)
    (hfew : (legacyRows state.rows tenantId).length ≤ maxReencryptSubscriptions)
    (hfits : Fits service (legacyRows state.rows tenantId)) (nonce : ℕ → Uuid → Nonce) :
    (afterCalls service state tenantId nonce 1).NoPlaintext tenantId := by
  have hlength : (selectLegacy state.rows tenantId).length ≤ maxReencryptSubscriptions := by
    rw [length_selectLegacy]
    omega
  have hfitsSelected : Fits service (selectLegacy state.rows tenantId) := by
    intro row hrow
    obtain ⟨hmem, htenant, hlegacy⟩ := of_mem_selectLegacy hrow
    exact hfits row (List.mem_filter.mpr ⟨hmem, by simp [htenant, hlegacy]⟩)
  have hselect : (state.select 0 tenantId true true).calls 0 =
      some (.locked tenantId (selectLegacy state.rows tenantId)) := by
    unfold SecretsState.select
    rw [if_neg (not_not.mpr (h.noCalls 0)), if_neg (by decide), if_neg (not_not.mpr hopen)]
    dsimp only
    rw [h.noRowLocks, if_neg (by simp), if_neg (not_lt.mpr hlength), if_neg (by decide)]
    exact Function.update_self 0 _ state.calls
  have hsound : (state.select 0 tenantId true true).Sound :=
    h.sound.step service (.select 0 tenantId true true)
  rw [afterCalls_succ]
  change ((state.select 0 tenantId true true).write service 0 (nonce 0)).NoPlaintext tenantId
  rw [hsound.write_of_locked service hselect, if_pos hfitsSelected]
  exact fun row hrow htenant => hsound.noPlaintext_encrypt hselect service (nonce 0) hrow htenant

/-- Nothing has changed, and the calls from `k` on are still to come. -/
structure Stuck (state : SecretsState) (k : ℕ) (later : SecretsState) : Prop where
  rows : later.rows = state.rows
  openTenants : later.openTenants = state.openTenants
  rowLocks : later.rowLocks = []
  calls : ∀ i, k ≤ i → later.calls i = none

lemma stuck_finish {s : SecretsState} {k : ℕ} (phase : Option ReencryptionPhase)
    (hrows : s.rows = state.rows) (hopen : s.openTenants = state.openTenants)
    (hlocks : ∀ lock ∈ s.rowLocks, lock.1 = k) (hcalls : ∀ i, k + 1 ≤ i → s.calls i = none) :
    Stuck state (k + 1) (s.finish k phase) := by
  refine ⟨hrows, hopen, List.filter_eq_nil_iff.mpr fun lock hlock => ?_, fun i hi => ?_⟩
  · simpa using hlocks lock hlock
  · have hne : i ≠ k := by omega
    exact (Function.update_of_ne hne _ _).trans (hcalls i hi)

/-- A selection that goes on has all plaintext rows, so one of them does not fit. -/
lemma not_fits_selectLegacy {rows : List WebhookSubscription} {service : EncryptionService}
    (hlength : (selectLegacy rows tenantId).length ≤ maxReencryptSubscriptions)
    (hbeyond : ¬ ((legacyRows rows tenantId).length ≤ maxReencryptSubscriptions ∧
      Fits service (legacyRows rows tenantId))) :
    ¬ Fits service (selectLegacy rows tenantId) := by
  intro hfits
  have hcount := length_selectLegacy rows tenantId
  refine hbeyond ⟨by omega, fun row hrow => hfits row ?_⟩
  obtain ⟨hmem, hrow⟩ := List.mem_filter.mp hrow
  simp only [Bool.and_eq_true, decide_eq_true_eq] at hrow
  exact mem_selectLegacy hlength hmem hrow.1 hrow.2

lemma Stuck.call {later : SecretsState} {k : ℕ} (h : Stuck state k later) (hlater : later.Sound)
    (service : EncryptionService)
    (hbeyond : ¬ ((legacyRows state.rows tenantId).length ≤ maxReencryptSubscriptions ∧
      Fits service (legacyRows state.rows tenantId))) (nonce : Uuid → Nonce) :
    Stuck state (k + 1) ((later.select k tenantId true true).write service k nonce) := by
  have hnone : ∀ lock ∈ later.rowLocks, lock.1 = k := by
    intro lock hlock
    rw [h.rowLocks] at hlock
    cases hlock
  have hcalls : ∀ i, k + 1 ≤ i → later.calls i = none := fun i hi => h.calls i (by omega)
  rcases select_cases later k tenantId true true with
    hsame | ⟨phase, hphase, hfinish⟩ | ⟨-, -, hlength, hlock⟩
  · -- the call did not begin
    rw [hsame]
    have hwrite : later.write service k nonce = later := by
      unfold write
      rw [h.calls k le_rfl]
    rw [hwrite]
    exact ⟨h.rows, h.openTenants, h.rowLocks, hcalls⟩
  · rw [hfinish]
    have hwrite : (later.finish k phase).write service k nonce = later.finish k phase := by
      unfold write
      split
      · next other selected hcall =>
        exact absurd ((Function.update_self ..).symm.trans hcall) (hphase other selected)
      · rfl
    rw [hwrite]
    exact stuck_finish phase h.rows h.openTenants hnone hcalls
  · have hsound : (later.select k tenantId true true).Sound :=
      hlater.step service (.select k tenantId true true)
    have hcall : (later.select k tenantId true true).calls k =
        some (.locked tenantId (selectLegacy later.rows tenantId)) := by
      rw [hlock]
      exact Function.update_self ..
    have hunfit := not_fits_selectLegacy hlength (h.rows ▸ hbeyond)
    rw [hsound.write_of_locked service hcall, if_neg hunfit, hlock]
    refine stuck_finish _ h.rows h.openTenants (fun lock hmem => ?_) fun i hi => ?_
    · rcases List.mem_append.mp hmem with hmem | hmem
      · obtain ⟨row, -, rfl⟩ := List.mem_map.mp hmem
        rfl
      · exact hnone lock hmem
    · have hne : i ≠ k := by omega
      exact (Function.update_of_ne hne _ _).trans (hcalls i hi)

lemma Initial.stuck (h : state.Initial) (service : EncryptionService)
    (hbeyond : ¬ ((legacyRows state.rows tenantId).length ≤ maxReencryptSubscriptions ∧
      Fits service (legacyRows state.rows tenantId))) (nonce : ℕ → Uuid → Nonce) (k : ℕ) :
    Stuck state k (afterCalls service state tenantId nonce k) := by
  induction k with
  | zero => exact ⟨rfl, rfl, h.noRowLocks, fun i _ => h.noCalls i⟩
  | succ k ih =>
    have hsound : (afterCalls service state tenantId nonce k).Sound :=
      Run.run_of_step (fun _ event hstate => hstate.step service event) h.sound _
    rw [afterCalls_succ]
    exact ih.call hsound service hbeyond (nonce k)

end SecretsState

open SecretsState

/-! ## Runs -/

/-- What the re-encryption promises about a run: every event keeps what each secret stands for and
converts a tenant's secrets all or not at all; a count is what a conversion of the same state finds;
a tenant that was converted has nothing left for a later call. -/
structure ReencryptionSafe (service : EncryptionService) (state : SecretsState)
    (events : List SecretsEvent) : Prop where
  kept : Run.Along (step service) (SecretsKept service) state events
  allOrNothing : Run.Along (step service) (AllOrNothing service) state events
  counts : Run.Always (step service) CountsAgree state events
  nothingLeft : ∀ before after tenantId, events = before ++ after →
    (Run.run (step service) state before).NoPlaintext tenantId →
      selectLegacy (Run.run (step service) state events).rows tenantId = []

/-- **Re-encryption preserves every secret** in every run, and repeated calls on an open tenant
complete it if and only if it has at most 1000 plaintext secrets, all of which fit into the column
once they are encrypted. -/
theorem reencryption_completes (service : EncryptionService) {state : SecretsState}
    (h : state.Initial) (events : List SecretsEvent) (tenantId : Uuid)
    (hopen : tenantId ∈ state.openTenants) (nonce : ℕ → Uuid → Nonce) :
    ReencryptionSafe service state events ∧
      ((∃ k, (afterCalls service state tenantId nonce k).NoPlaintext tenantId) ↔
        (legacyRows state.rows tenantId).length ≤ maxReencryptSubscriptions ∧
          Fits service (legacyRows state.rows tenantId)) := by
  have hkeeps : ∀ state event, Sound state → Sound (state.step service event) :=
    fun _ event hstate => hstate.step service event
  refine ⟨⟨?_, ?_, fun before _ _ => countsAgree _, ?_⟩, fun hdone => ?_, fun hbounds => ?_⟩
  · exact Run.along_of_invariant hkeeps (fun _ event hstate => hstate.secretsKept service event)
      h.sound events
  · exact Run.along_of_invariant hkeeps (fun _ event hstate => hstate.allOrNothing service event)
      h.sound events
  · rintro before after other rfl hnone
    have hbefore : (Run.run (step service) state before).Sound :=
      Run.run_of_step hkeeps h.sound before
    have hafter : Sound (Run.run (step service) (Run.run (step service) state before) after) ∧
        NoPlaintext (Run.run (step service) (Run.run (step service) state before) after) other :=
      Run.run_of_step (I := fun s : SecretsState => s.Sound ∧ s.NoPlaintext other)
        (fun _ event hstate => ⟨hstate.1.step service event,
          hstate.1.noPlaintext_step service event hstate.2⟩) ⟨hbefore, hnone⟩ after
    rw [Run.run_append]
    refine List.eq_nil_iff_forall_not_mem.mpr fun row hrow => ?_
    obtain ⟨hmem, htenant, hlegacy⟩ := of_mem_selectLegacy hrow
    rw [hafter.2 row hmem htenant] at hlegacy
    cases hlegacy
  · obtain ⟨k, hnone⟩ := hdone
    by_contra hbeyond
    have hstuck := h.stuck service hbeyond nonce k
    have hempty : legacyRows state.rows tenantId = [] := by
      refine List.filter_eq_nil_iff.mpr fun row hrow hmatch => ?_
      simp only [Bool.and_eq_true, decide_eq_true_eq] at hmatch
      have hlegacy := hnone row (hstuck.rows ▸ hrow) hmatch.1
      rw [hmatch.2] at hlegacy
      cases hlegacy
    rw [hempty] at hbeyond
    exact hbeyond ⟨Nat.zero_le _, fun row hrow => by cases hrow⟩
  · exact ⟨1, h.noPlaintext service hopen hbounds.1 hbounds.2 nonce⟩

/-! ### A tenant with 1001 plaintext secrets -/

def zeroByte : Base64.Byte := ⟨0, Nat.zero_lt_succ 255⟩

/-- A cipher that hides nothing, under a key of 32 zero bytes. -/
def zeroKeyService : EncryptionService where
  cipher :=
    { sealed := fun _ _ plaintext _ => plaintext ++ List.replicate 16 zeroByte
      opened := fun _ _ ciphertextAndTag _ =>
        some (ciphertextAndTag.take (ciphertextAndTag.length - 16))
      opened_sealed := by simp
      length_sealed := by simp }
  upper name := name.map fun c => if c = 118 then 86 else c
  secrets name :=
    if name = PyJson.text "FIELD_ENCRYPTION_ACTIVE_KEY_VERSION" then some (PyJson.text "v1")
    else if name = PyJson.text "FIELD_ENCRYPTION_KEY_V1" then
      some (List.replicate 43 65 ++ [Base64.pad])
    else none
  keyVersion := PyJson.text "v1"
  key := List.replicate 32 zeroByte
  current := by decide +kernel
  usable := by decide +kernel
  carried := by decide +kernel

def zeroNonce : Nonce := ⟨List.replicate 12 zeroByte, rfl⟩

def manySecrets (count : ℕ) : SecretsState where
  rows := (List.range count).map fun id => ⟨id, 7, "secret"⟩
  openTenants := [7]
  calls _ := none
  rowLocks := []
  tenantLocks := []

lemma manySecrets_initial (count : ℕ) : (manySecrets count).Initial where
  distinct := by
    unfold UniqueOn manySecrets
    rw [List.map_map]
    exact List.nodup_range.map fun _ _ h => h
  noCalls _ := rfl
  noRowLocks := rfl
  noTenantLocks := rfl

lemma legacyRows_manySecrets (count : ℕ) :
    legacyRows (manySecrets count).rows 7 = (manySecrets count).rows := by
  have hsecret : hasEnvelopePrefix "secret" = false := by decide +kernel
  refine List.filter_eq_self.mpr fun row hrow => ?_
  obtain ⟨id, -, rfl⟩ := List.mem_map.mp hrow
  simp [WebhookSubscription.isLegacy, hsecret]

/-- No number of calls converts 1001 secrets. -/
theorem manySecrets_not_completed :
    (manySecrets 1001).Initial ∧ 7 ∈ (manySecrets 1001).openTenants ∧ ∀ nonce : ℕ → Uuid → Nonce,
      ¬ ∃ k, (afterCalls zeroKeyService (manySecrets 1001) 7 nonce k).NoPlaintext 7 := by
  have hstays : ∀ count, maxReencryptSubscriptions < count → ∀ (nonce : ℕ → Uuid → Nonce) k,
      ¬ (afterCalls zeroKeyService (manySecrets count) 7 nonce k).NoPlaintext 7 := by
    intro count hmany nonce k hnone
    have hbeyond : ¬ ((legacyRows (manySecrets count).rows 7).length ≤ maxReencryptSubscriptions ∧
        Fits zeroKeyService (legacyRows (manySecrets count).rows 7)) := by
      rw [legacyRows_manySecrets, manySecrets, List.length_map, List.length_range]
      exact fun hbounds => absurd hbounds.1 (not_le.mpr hmany)
    have hstuck := (manySecrets_initial count).stuck zeroKeyService hbeyond nonce k
    have hrow : (⟨0, 7, "secret"⟩ : WebhookSubscription) ∈ (manySecrets count).rows :=
      List.mem_map.mpr ⟨0, List.mem_range.mpr (Nat.zero_lt_of_lt hmany), rfl⟩
    have hlegacy : (⟨0, 7, "secret"⟩ : WebhookSubscription).isLegacy = true := by decide +kernel
    rw [hnone _ (hstuck.rows ▸ hrow) rfl] at hlegacy
    cases hlegacy
  refine ⟨manySecrets_initial 1001, List.mem_singleton_self 7, fun nonce ⟨k, hnone⟩ => ?_⟩
  exact hstays 1001 (Nat.lt_succ_self 1000) nonce k hnone

def twoSecrets : SecretsState where
  rows := [⟨1, 7, "efv1:first"⟩, ⟨2, 7, "second"⟩]
  openTenants := [7]
  calls _ := none
  rowLocks := []
  tenantLocks := []

/-- A count, a conversion, and an unsubscription in between that has to wait. -/
theorem reencryption_completes_twoSecrets :
    (ReencryptionSafe zeroKeyService twoSecrets
        [.select 0 7 false true, .select 1 7 true true, .unsubscribe 7 2, .write 1 fun _ => zeroNonce] ∧
      ((∃ k, (afterCalls zeroKeyService twoSecrets 7 (fun _ _ => zeroNonce) k).NoPlaintext 7) ↔
        (legacyRows twoSecrets.rows 7).length ≤ maxReencryptSubscriptions ∧
          Fits zeroKeyService (legacyRows twoSecrets.rows 7))) ∧
      (Run.run (step zeroKeyService) twoSecrets
        [.select 0 7 false true, .select 1 7 true true, .unsubscribe 7 2, .write 1 fun _ => zeroNonce]).rows =
          [⟨1, 7, "efv1:first"⟩,
            ⟨2, 7, "efv1:v1:AAAAAAAAAAAAAAAA:c2Vjb25kAAAAAAAAAAAAAAAAAAAAAA=="⟩] :=
  ⟨reencryption_completes zeroKeyService ⟨by decide, fun _ => rfl, rfl, rfl⟩ _ 7
    (List.mem_singleton_self 7) fun _ _ => zeroNonce, by decide +kernel⟩

end SaasOs.Webhooks
