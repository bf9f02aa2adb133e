import SaasOs.Foundation.PyJson

/-!
# System actors, initiators and correlations

The three roles that an audit record tells of a system action: the executing component
(`SystemActor`), who asked for the action (`Initiator`), and the ids it is correlated by
(`SystemCorrelation`).  Their fields are checked when they are made, so each value carries the proof
that its fields are in order.
-/

namespace SaasOs.AuditLog

open PyJson

/-! ## Identifiers -/

def lowerIdentifierCharacters : Text := text "abcdefghijklmnopqrstuvwxyz0123456789_.:-"

def opaqueIdentifierCharacters : Text :=
  lowerIdentifierCharacters ++ text "ABCDEFGHIJKLMNOPQRSTUVWXYZ"

/-- `_HEX_DIGITS`. -/
def hexCharacters : Text := text "0123456789abcdefABCDEF"

/-- The loop of `embeds_an_id`, after a run of hexadecimal digits. -/
def embedsAnIdAfter (run : ℕ) : Text → Bool
  | [] => false
  | c :: rest =>
    if c ∈ hexCharacters then (32 ≤ run + 1 || embedsAnIdAfter (run + 1) rest)
    else embedsAnIdAfter 0 rest

def embedsAnId (value : Text) : Bool :=
  embedsAnIdAfter 0 (value.filter fun c => c ∉ text "-_.:")

/-- `check_identifier`. -/
def isIdentifier (allowed value : Text) : Bool :=
  1 ≤ value.length && value.length ≤ 100 && value.all fun c => c ∈ allowed

def credentialWords : List Text :=
  ["token", "secret", "password", "passwd", "credential", "bearer", "cookie", "api_key", "apikey",
    "private_key", "signing_key"].map text

def credentialPrefixes : List Text := ["sok_", "eyJ"].map text

def principalWords : List Text :=
  ["member", "members", "membership", "memberships", "principal", "principals", "operator",
    "operators", "person", "persons", "people", "identity", "identities", "subject", "subjects",
    "owner", "owners", "actor", "actors"].map text

def accountWords : List Text := ["account", "accounts"].map text

def words (value : Text) : List Text :=
  ((value.map lowerAscii).splitOnP fun c => c ∈ text "_.:- ").filter fun word => word ≠ []

/-- The loop of `_names_a_principal`, after a word. -/
def nameAPrincipalAfter (previous : Option Text) : List Text → Bool
  | [] => false
  | word :: rest =>
    (text "user").isPrefixOf word || word ∈ principalWords ||
      (word ∈ accountWords && (previous = none || previous = some (text "service"))) ||
      nameAPrincipalAfter (some word) rest

def namesAPrincipal (value : Text) : Bool := nameAPrincipalAfter none (words value)

/-- `_names_a_principal` with `prefix_only`. -/
def beginsWithAPrincipal (value : Text) : Bool :=
  (words value).take 2 ∈ accountWords.map (fun word => [text "service", word]) ||
    nameAPrincipalAfter none ((words value).take 1)

/-- `_check_opaque_id`. -/
def isOpaqueId (value : Text) : Bool :=
  isIdentifier opaqueIdentifierCharacters value &&
    !credentialPrefixes.any fun start => start.isPrefixOf value

def isRecordId (value : Text) : Bool := isOpaqueId value && !beginsWithAPrincipal value

def isRecordType (value : Text) : Bool :=
  isIdentifier lowerIdentifierCharacters value &&
    (!credentialWords.any fun word => value.tails.any fun rest => word.isPrefixOf rest) &&
    !namesAPrincipal value && !embedsAnId value

def isComponentName (value : Text) : Bool :=
  isIdentifier lowerIdentifierCharacters value && !embedsAnId value

lemma isAscii_of_isIdentifier {allowed value : Text} (hallowed : IsAscii allowed)
    (h : isIdentifier allowed value = true) : IsAscii value := by
  intro c hc
  simp only [isIdentifier, Bool.and_eq_true, List.all_eq_true, decide_eq_true_eq] at h
  exact hallowed c (h.2 c hc)

lemma isAscii_lowerIdentifierCharacters : IsAscii lowerIdentifierCharacters := by
  decide +kernel

lemma isAscii_opaqueIdentifierCharacters : IsAscii opaqueIdentifierCharacters := by
  decide +kernel

lemma isAscii_of_isRecordId {value : Text} (h : isRecordId value = true) : IsAscii value := by
  simp only [isRecordId, isOpaqueId, Bool.and_eq_true] at h
  exact isAscii_of_isIdentifier isAscii_opaqueIdentifierCharacters h.1.1

lemma isAscii_of_isRecordType {value : Text} (h : isRecordType value = true) : IsAscii value := by
  simp only [isRecordType, Bool.and_eq_true] at h
  exact isAscii_of_isIdentifier isAscii_lowerIdentifierCharacters h.1.1.1

lemma isAscii_of_isComponentName {value : Text} (h : isComponentName value = true) :
    IsAscii value := by
  simp only [isComponentName, Bool.and_eq_true] at h
  exact isAscii_of_isIdentifier isAscii_lowerIdentifierCharacters h.1

/-! ## UUIDs -/

abbrev UuidBits := Fin (16 ^ 32)

def hexDigit (d : ℕ) : ℕ := if d < 10 then 48 + d else 87 + d

def digitValue (c : ℕ) : ℕ := if c < 58 then c - 48 else c - 87

def hexText : ℕ → ℕ → Text
  | 0, _ => []
  | width + 1, n => hexText width (n / 16) ++ [hexDigit (n % 16)]

def hexValue (t : Text) : ℕ := t.foldl (fun n c => 16 * n + digitValue c) 0

/-- `str` of a UUID. -/
def uuidText (id : UuidBits) : Text :=
  let digits := hexText 32 id
  digits.take 8 ++ 45 :: ((digits.drop 8).take 4 ++ 45 :: ((digits.drop 12).take 4 ++
    45 :: ((digits.drop 16).take 4 ++ 45 :: digits.drop 20)))

def canonicalUuid (value : Text) : Option UuidBits :=
  if h : hexValue (value.filter fun c => c ≠ 45) < 16 ^ 32 then
    if uuidText ⟨_, h⟩ = value then some ⟨_, h⟩ else none
  else none

def isLowerHex (c : ℕ) : Bool := (48 ≤ c && c ≤ 57) || (97 ≤ c && c ≤ 102)

variable {d : ℕ}

lemma isLowerHex_hexDigit (h : d < 16) : isLowerHex (hexDigit d) = true := by
  interval_cases d <;> rfl

lemma digitValue_hexDigit (h : d < 16) : digitValue (hexDigit d) = d := by
  interval_cases d <;> rfl

lemma length_hexText (width n : ℕ) : (hexText width n).length = width := by
  induction width generalizing n with
  | zero => rfl
  | succ width ih => simp [hexText, ih]

lemma isLowerHex_of_mem_hexText {width n c : ℕ} (h : c ∈ hexText width n) :
    isLowerHex c = true := by
  induction width generalizing n with
  | zero => cases h
  | succ width ih =>
    rcases List.mem_append.1 h with h | h
    · exact ih h
    · obtain rfl : c = hexDigit (n % 16) := by simpa using h
      exact isLowerHex_hexDigit (Nat.mod_lt n (by norm_num))

lemma hexValue_hexText (width n : ℕ) : hexValue (hexText width n) = n % 16 ^ width := by
  induction width generalizing n with
  | zero => simp [hexText, hexValue, Nat.mod_one]
  | succ width ih =>
    have hlast : digitValue (hexDigit (n % 16)) = n % 16 :=
      digitValue_hexDigit (Nat.mod_lt n (by norm_num))
    have hinit := ih (n / 16)
    simp only [hexValue] at hinit
    rw [pow_succ', Nat.mod_mul, hexText, hexValue, List.foldl_append, hinit, List.foldl_cons,
      List.foldl_nil, hlast]
    omega

lemma filter_uuidText (id : UuidBits) : (uuidText id).filter (fun c => c ≠ 45) = hexText 32 id := by
  have hkeep : ∀ part : Text, (∀ c ∈ part, c ∈ hexText 32 id) →
      part.filter (fun c => decide (c ≠ 45)) = part := by
    intro part hpart
    refine List.filter_eq_self.2 fun c hc => ?_
    have := isLowerHex_of_mem_hexText (hpart c hc)
    by_contra h45
    obtain rfl : c = 45 := by simpa using h45
    cases this
  have htake : ∀ n m c, c ∈ ((hexText 32 id).drop n).take m → c ∈ hexText 32 id :=
    fun n m c hc => List.mem_of_mem_drop (List.mem_of_mem_take hc)
  have hjoin : ∀ n m, ((hexText 32 id).drop n).take m ++ (hexText 32 id).drop (n + m) =
      (hexText 32 id).drop n := by
    intro n m
    rw [← List.drop_drop, List.take_append_drop]
  simp only [uuidText, List.filter_append, List.filter_cons, ne_eq, not_true, decide_false,
    Bool.false_eq_true, if_false]
  rw [hkeep _ (htake 8 4), hkeep _ (htake 12 4), hkeep _ (htake 16 4),
    hkeep _ fun c hc => List.mem_of_mem_take hc, hkeep _ fun c hc => List.mem_of_mem_drop hc,
    hjoin 16 4, hjoin 12 4, hjoin 8 4, List.take_append_drop]

lemma canonicalUuid_eq_some {value : Text} {id : UuidBits}
    (hvalue : hexValue (value.filter fun c => c ≠ 45) = id) (htext : uuidText id = value) :
    canonicalUuid value = some id := by
  unfold canonicalUuid
  generalize hexValue (value.filter fun c => c ≠ 45) = n at hvalue ⊢
  subst hvalue
  rw [dif_pos id.isLt, if_pos htext]

theorem canonicalUuid_uuidText (id : UuidBits) : canonicalUuid (uuidText id) = some id := by
  refine canonicalUuid_eq_some ?_ rfl
  rw [filter_uuidText, hexValue_hexText, Nat.mod_eq_of_lt id.isLt]

lemma uuidText_eq (id : UuidBits) : ∃ rest, uuidText id = (hexText 32 id).take 8 ++ 45 :: rest :=
  ⟨_, rfl⟩

variable {c : ℕ}

lemma isLowerHex_of_mem_take {id : UuidBits} (h : c ∈ (hexText 32 id).take 8) :
    isLowerHex c = true :=
  isLowerHex_of_mem_hexText (List.mem_of_mem_take h)

lemma mem_uuidText {id : UuidBits} (h : c ∈ uuidText id) : isLowerHex c = true ∨ c = 45 := by
  by_cases h45 : c = 45
  · exact .inr h45
  · have hdigit : c ∈ hexText 32 id := by
      rw [← filter_uuidText id]
      exact List.mem_filter.2 ⟨h, by simpa using h45⟩
    exact .inl (isLowerHex_of_mem_hexText hdigit)

lemma length_uuidText (id : UuidBits) : (uuidText id).length = 36 := by
  simp [uuidText, length_hexText]

lemma lowerAscii_of_isLowerHex (h : isLowerHex c = true ∨ c = 45) : lowerAscii c = c := by
  have : ¬(65 ≤ c ∧ c ≤ 90) := by
    simp only [isLowerHex, Bool.or_eq_true, Bool.and_eq_true, decide_eq_true_eq] at h
    omega
  simp only [lowerAscii, this, if_false]

lemma words_uuidText (id : UuidBits) :
    ∃ rest, words (uuidText id) = (hexText 32 id).take 8 :: rest := by
  obtain ⟨tail, htail⟩ := uuidText_eq id
  have hlower : (uuidText id).map lowerAscii = uuidText id := by
    rw [List.map_congr_left fun c hc => lowerAscii_of_isLowerHex (mem_uuidText hc), List.map_id']
  have hword : (hexText 32 id).take 8 ≠ [] := by
    intro h
    have := congrArg List.length h
    simp [length_hexText] at this
  have hhex : ∀ c ∈ (hexText 32 id).take 8, decide (c ∈ text "_.:- ") = false := by
    have hseparators : ∀ c ∈ text "_.:- ", isLowerHex c = false := by decide +kernel
    intro c hc
    rw [decide_eq_false_iff_not]
    intro hseparator
    have := hseparators c hseparator
    rw [isLowerHex_of_mem_take hc] at this
    cases this
  refine ⟨(tail.splitOnP fun c => c ∈ text "_.:- ").filter fun word => word ≠ [], ?_⟩
  unfold words
  rw [hlower, htail, List.splitOnP_append_cons_of_forall_mem hhex 45 (by decide +kernel),
    List.filter_cons_of_pos (by simpa using hword)]

theorem isRecordId_uuidText (id : UuidBits) : isRecordId (uuidText id) = true := by
  obtain ⟨tail, htail⟩ := uuidText_eq id
  obtain ⟨rest, hwords⟩ := words_uuidText id
  have hallowed : ∀ c, isLowerHex c = true ∨ c = 45 → c ∈ opaqueIdentifierCharacters := by
    intro c hc
    have hlt : c < 103 := by
      simp only [isLowerHex, Bool.or_eq_true, Bool.and_eq_true, decide_eq_true_eq] at hc
      omega
    revert hc
    revert c
    decide +kernel
  have hprefix : ∀ start : Text, (∃ c ∈ start, isLowerHex c = false) → start.length ≤ 8 →
      ¬start <+: (hexText 32 id).take 8 ++ 45 :: tail := by
    rintro start ⟨c, hc, hhex⟩ hlength hstart
    have hshort : start <+: (hexText 32 id).take 8 :=
      List.prefix_of_prefix_length_le hstart (List.prefix_append _ _) (by simpa [length_hexText])
    rw [isLowerHex_of_mem_take (hshort.subset hc)] at hhex
    cases hhex
  have hword : ∀ word : Text, (∃ c ∈ word, isLowerHex c = false) →
      (hexText 32 id).take 8 ≠ word := by
    rintro word ⟨c, hc, hhex⟩ rfl
    rw [isLowerHex_of_mem_take hc] at hhex
    cases hhex
  have hnames : ∀ known ∈ text "service" :: (accountWords ++ principalWords),
      ∃ c ∈ known, isLowerHex c = false := by
    decide +kernel
  have hstarts : ∀ start ∈ text "user" :: credentialPrefixes,
      (∃ c ∈ start, isLowerHex c = false) ∧ start.length ≤ 8 := by
    decide +kernel
  have hidentifier : isIdentifier opaqueIdentifierCharacters (uuidText id) = true := by
    simp only [isIdentifier, length_uuidText, Bool.and_eq_true, List.all_eq_true, decide_eq_true_eq]
    exact ⟨⟨by norm_num, by norm_num⟩, fun c hc => hallowed c (mem_uuidText hc)⟩
  have hcredential :
      (credentialPrefixes.any fun start => start.isPrefixOf (uuidText id)) = false := by
    rw [List.any_eq_false]
    intro start hmem hstart
    rw [htail] at hstart
    have hfacts := hstarts start (List.mem_cons_of_mem _ hmem)
    exact hprefix start hfacts.1 hfacts.2 (List.isPrefixOf_iff_prefix.1 hstart)
  have hservice : (words (uuidText id)).take 2 ∉
      accountWords.map (fun word => [text "service", word]) := by
    rw [hwords]
    intro hmem
    obtain ⟨word, -, hword'⟩ := List.mem_map.1 hmem
    rw [List.take_succ_cons, List.cons.injEq] at hword'
    exact hword _ (hnames _ (by simp)) hword'.1.symm
  have hfirst : nameAPrincipalAfter none ((words (uuidText id)).take 1) = false := by
    have huser : ((text "user").isPrefixOf ((hexText 32 id).take 8)) = false := by
      rw [Bool.eq_false_iff]
      intro hstart
      have hfacts := hstarts (text "user") (by simp)
      exact hprefix (text "user") hfacts.1 hfacts.2
        ((List.isPrefixOf_iff_prefix.1 hstart).trans (List.prefix_append _ _))
    have hprincipal : (hexText 32 id).take 8 ∉ principalWords := fun hmem =>
      hword _ (hnames _ (by simp [hmem])) rfl
    have haccount : (hexText 32 id).take 8 ∉ accountWords := fun hmem =>
      hword _ (hnames _ (by simp [hmem])) rfl
    rw [hwords, List.take_succ_cons, List.take_zero]
    simp [nameAPrincipalAfter, huser, hprincipal, haccount]
  simp only [isRecordId, isOpaqueId, beginsWithAPrincipal, hidentifier, hcredential, hservice,
    hfirst, Bool.not_false, Bool.and_self, Bool.or_self, decide_false]

/-! ## Recorded shapes -/

inductive Field
  | type
  | userId
  | serviceAccountId
  | kind
  | name
  | recordType
  | recordId
  | arqJobId
  | outboxEventId
  | requestId
  deriving DecidableEq

def Field.key : Field → Text
  | .type => text "type"
  | .userId => text "user_id"
  | .serviceAccountId => text "service_account_id"
  | .kind => text "kind"
  | .name => text "name"
  | .recordType => text "record_type"
  | .recordId => text "record_id"
  | .arqJobId => text "arq_job_id"
  | .outboxEventId => text "outbox_event_id"
  | .requestId => text "request_id"

abbrev Shape := List (Field × Text)

/-- The fields of a dictionary whose values are texts. -/
abbrev Fields := List (Text × Text)

def Shape.fields (shape : Shape) : Fields := shape.map fun x => (x.1.key, x.2)

def Shape.recorded (shape : Shape) : Py :=
  .dict (shape.fields.map fun x => (x.1, .leaf (.str x.2)))

def get (fields : Fields) (field : Field) : Option Text :=
  (fields.find? fun x => x.1 = field.key).map Prod.snd

def within (fields : Fields) (allowed : List Field) : Bool :=
  fields.all fun x => x.1 ∈ allowed.map Field.key

def covers (fields : Fields) (required : List Field) : Bool :=
  required.all fun field => field.key ∈ fields.map Prod.fst

lemma Field.key_inj {a b : Field} : a.key = b.key ↔ a = b := by
  refine ⟨fun h => ?_, congrArg key⟩
  revert h
  cases a <;> cases b <;> decide +kernel

lemma isAscii_key (field : Field) : IsAscii field.key := by
  cases field <;> decide +kernel

@[simp] lemma get_nil (field : Field) : get (Shape.fields []) field = none := rfl

@[simp] lemma get_cons (field field' : Field) (value : Text) (rest : Shape) :
    get (Shape.fields ((field, value) :: rest)) field' =
      if field = field' then some value else get (Shape.fields rest) field' := by
  simp only [get, Shape.fields, List.map_cons, List.find?_cons, Field.key_inj]
  split <;> simp_all

variable (shape : Shape)

@[simp] lemma within_fields (allowed : List Field) :
    within shape.fields allowed = shape.all fun x => x.1 ∈ allowed := by
  simp [within, Shape.fields, List.all_map, Function.comp_def, Field.key_inj]

@[simp] lemma covers_fields (required : List Field) :
    covers shape.fields required = required.all fun field => field ∈ shape.map Prod.fst := by
  have hmem : ∀ field : Field,
      field.key ∈ shape.fields.map Prod.fst ↔ field ∈ shape.map Prod.fst := by
    intro field
    simp [Shape.fields, Field.key_inj]
  simp only [covers, hmem]

lemma plain_recorded {shape : Shape} (hfields : (shape.map Prod.fst).Nodup)
    (hascii : ∀ x ∈ shape, IsAscii x.2) : shape.recorded.Plain := by
  have hmem : ∀ y ∈ shape.fields.map fun x => (x.1, Py.leaf (.str x.2)),
      ∃ x ∈ shape, (x.1.key, Py.leaf (.str x.2)) = y := by
    simp [Shape.fields]
  have hkeys : (shape.fields.map fun x => (x.1, Py.leaf (.str x.2))).map Prod.fst =
      (shape.map Prod.fst).map Field.key := by
    simp [Shape.fields, Function.comp_def]
  refine .dict ?_ (fun y hy => ?_) fun y hy => ?_
  · rw [hkeys]
    exact hfields.map fun a b => Field.key_inj.1
  · obtain ⟨x, -, rfl⟩ := hmem y hy
    exact readBack_of_isAscii (isAscii_key x.1)
  · obtain ⟨x, hx, rfl⟩ := hmem y hy
    refine .leaf fun t ht => ?_
    obtain rfl : x.2 = t := by simpa using ht
    exact readBack_of_isAscii (hascii x hx)

/-! ## System actors -/

inductive SystemActorKind
  | workerJob
  | scheduledJob
  | webhookProcessor
  | providerEventProcessor
  | inboundProcessor
  | publicLink
  | maintenance
  | billingProcess
  deriving DecidableEq

namespace SystemActorKind

def value : SystemActorKind → Text
  | .workerJob => text "worker_job"
  | .scheduledJob => text "scheduled_job"
  | .webhookProcessor => text "webhook_processor"
  | .providerEventProcessor => text "provider_event_processor"
  | .inboundProcessor => text "inbound_processor"
  | .publicLink => text "public_link"
  | .maintenance => text "maintenance"
  | .billingProcess => text "billing_process"

def ofValue (value : Text) : Option SystemActorKind :=
  [workerJob, scheduledJob, webhookProcessor, providerEventProcessor, inboundProcessor, publicLink,
    maintenance, billingProcess].find? fun kind => kind.value = value

@[simp] lemma ofValue_value (kind : SystemActorKind) : ofValue kind.value = some kind := by
  cases kind <;> decide +kernel

lemma isAscii_value (kind : SystemActorKind) : IsAscii kind.value := by
  cases kind <;> decide +kernel

end SystemActorKind

/-- `SystemActor`: a component that executes actions. -/
structure SystemActor where
  kind : SystemActorKind
  name : Text
  valid : isComponentName name = true

namespace SystemActor

def make? (kind : SystemActorKind) (name : Text) : Option SystemActor :=
  if h : isComponentName name = true then some ⟨kind, name, h⟩ else none

def asMetadata (actor : SystemActor) : Shape :=
  [(.kind, actor.kind.value), (.name, actor.name)]

variable (actor : SystemActor)

@[simp] lemma make?_self : make? actor.kind actor.name = some actor := by
  simp [make?, actor.valid]

lemma isAscii_asMetadata : ∀ x ∈ actor.asMetadata, IsAscii x.2 := by
  simp [asMetadata, actor.kind.isAscii_value, isAscii_of_isComponentName actor.valid]

end SystemActor

def actorFromMetadata (fields : Fields) : Option SystemActor :=
  if within fields [.kind, .name] && covers fields [.kind, .name] then do
    let kind ← (get fields .kind).bind SystemActorKind.ofValue
    let name ← get fields .name
    SystemActor.make? kind name
  else none

theorem actorFromMetadata_asMetadata (actor : SystemActor) :
    actorFromMetadata actor.asMetadata.fields = some actor := by
  simp [actorFromMetadata, SystemActor.asMetadata]

/-! ## Initiators -/

inductive InitiatorType
  | user
  | serviceAccount
  | system
  deriving DecidableEq

namespace InitiatorType

def value : InitiatorType → Text
  | .user => text "user"
  | .serviceAccount => text "service_account"
  | .system => text "system"

def ofValue (value : Text) : Option InitiatorType :=
  [user, serviceAccount, system].find? fun type => type.value = value

@[simp] lemma ofValue_value (type : InitiatorType) : ofValue type.value = some type := by
  cases type <;> decide +kernel

lemma isAscii_value (type : InitiatorType) : IsAscii type.value := by
  cases type <;> decide +kernel

end InitiatorType

/-- The id of a record: a UUID or a text. -/
inductive RecordId
  | uuid (id : UuidBits)
  | text (value : Text)
  deriving DecidableEq

/-- `str` of a record id. -/
def RecordId.str : RecordId → Text
  | .uuid id => uuidText id
  | .text value => value

/-- The record that triggered an action of the system. -/
structure RecordReference where
  recordType : Text
  recordId : RecordId
  validType : isRecordType recordType = true
  validId : ∀ value, recordId = .text value → isRecordId value = true

lemma RecordReference.isRecordId_str (record : RecordReference) :
    isRecordId record.recordId.str = true := by
  cases hid : record.recordId with
  | uuid id => exact isRecordId_uuidText id
  | text value => exact record.validId value hid

/-- `Initiator`: who asked for an action. -/
inductive Initiator
  | user (id : UuidBits)
  | serviceAccount (id : UuidBits)
  | system (actor : SystemActor) (record : Option RecordReference)

namespace Initiator

def type : Initiator → InitiatorType
  | .user _ => .user
  | .serviceAccount _ => .serviceAccount
  | .system _ _ => .system

def system? (actor : SystemActor) : Option Text → Option Text → Option Initiator
  | none, none => some (.system actor none)
  | some recordType, some recordId =>
    if h : isRecordType recordType = true ∧ isRecordId recordId = true then
      some (.system actor (some ⟨recordType, .text recordId, h.1, by rintro _ ⟨⟩; exact h.2⟩))
    else none
  | _, _ => none

def asMetadata : Initiator → Shape
  | .user id => [(.type, InitiatorType.user.value), (.userId, uuidText id)]
  | .serviceAccount id =>
    [(.type, InitiatorType.serviceAccount.value), (.serviceAccountId, uuidText id)]
  | .system actor none => (.type, InitiatorType.system.value) :: actor.asMetadata
  | .system actor (some record) =>
    (.type, InitiatorType.system.value) :: (actor.asMetadata ++
      [(.recordType, record.recordType), (.recordId, record.recordId.str)])

/-- The type is in `AUDIT_INITIATOR_TYPES`. -/
def isAudited (initiator : Initiator) : Bool :=
  initiator.type = .serviceAccount || initiator.type = .system

end Initiator

/-- `Initiator.from_metadata` of a dictionary of texts. -/
def initiatorFromMetadata (fields : Fields) : Option Initiator := do
  match InitiatorType.ofValue (← get fields .type) with
  | some .user =>
    if within fields [.type, .userId] && covers fields [.type, .userId] then
      ((get fields .userId).bind canonicalUuid).map .user
    else none
  | some .serviceAccount =>
    if within fields [.type, .serviceAccountId] && covers fields [.type, .serviceAccountId] then
      ((get fields .serviceAccountId).bind canonicalUuid).map .serviceAccount
    else none
  | some .system =>
    if covers fields [.type, .kind, .name] &&
        within fields [.type, .kind, .name, .recordType, .recordId] then do
      let kind ← (get fields .kind).bind SystemActorKind.ofValue
      let actor ← SystemActor.make? kind (← get fields .name)
      Initiator.system? actor (get fields .recordType) (get fields .recordId)
    else none
  | none => none

lemma isAscii_uuidText (id : UuidBits) : IsAscii (uuidText id) :=
  isAscii_of_isRecordId (isRecordId_uuidText id)

lemma Initiator.isAscii_asMetadata (initiator : Initiator) :
    ∀ x ∈ initiator.asMetadata, IsAscii x.2 := by
  cases initiator with
  | user id | serviceAccount id =>
    simp [asMetadata, InitiatorType.isAscii_value, isAscii_uuidText]
  | system actor record =>
    have hactor := actor.isAscii_asMetadata
    cases record with
    | none => simpa [asMetadata, InitiatorType.isAscii_value] using fun a b => hactor (a, b)
    | some record =>
      have htype := isAscii_of_isRecordType record.validType
      have hid := isAscii_of_isRecordId record.isRecordId_str
      intro x hx
      simp only [asMetadata, List.mem_cons, List.mem_append, List.not_mem_nil, or_false] at hx
      rcases hx with rfl | hx | rfl | rfl
      · exact InitiatorType.system.isAscii_value
      · exact hactor x hx
      · exact htype
      · exact hid

variable (initiator : Initiator)

lemma Initiator.nodup_asMetadata :
    (initiator.asMetadata.map Prod.fst).Nodup := by
  cases initiator with
  | user id | serviceAccount id => simp [asMetadata]
  | system actor record => cases record <;> simp [asMetadata, SystemActor.asMetadata]

theorem initiatorFromMetadata_asMetadata :
    ∃ read, initiatorFromMetadata initiator.asMetadata.fields = some read ∧
      read.type = initiator.type ∧ read.asMetadata = initiator.asMetadata := by
  cases initiator with
  | user id =>
    exact ⟨.user id,
      by simp [initiatorFromMetadata, Initiator.asMetadata, canonicalUuid_uuidText], rfl, rfl⟩
  | serviceAccount id =>
    exact ⟨.serviceAccount id,
      by simp [initiatorFromMetadata, Initiator.asMetadata, canonicalUuid_uuidText], rfl, rfl⟩
  | system actor record =>
    cases record with
    | none =>
      exact ⟨.system actor none, by
        simp [initiatorFromMetadata, Initiator.asMetadata, SystemActor.asMetadata,
          Initiator.system?],
        rfl, rfl⟩
    | some record =>
      have hvalid : isRecordType record.recordType = true ∧ isRecordId record.recordId.str = true :=
        ⟨record.validType, record.isRecordId_str⟩
      refine ⟨.system actor (some ⟨record.recordType, .text record.recordId.str, hvalid.1, ?_⟩),
        ?_, rfl, rfl⟩
      · rintro _ ⟨⟩
        exact hvalid.2
      · simp [initiatorFromMetadata, Initiator.asMetadata, SystemActor.asMetadata,
          Initiator.system?, hvalid.1, hvalid.2]

/-! ## Correlations -/

/-- `SystemCorrelation`: the ids that an action is correlated by. -/
structure SystemCorrelation where
  arqJobId : Option Text
  outboxEventId : Option UuidBits
  requestId : Option Text
  validJob : ∀ value ∈ arqJobId, isRecordId value = true
  validRequest : ∀ value ∈ requestId, isRecordId value = true

namespace SystemCorrelation

def make? (arqJobId : Option Text) (outboxEventId : Option UuidBits) (requestId : Option Text) :
    Option SystemCorrelation :=
  if h : (∀ value ∈ arqJobId, isRecordId value = true) ∧
      ∀ value ∈ requestId, isRecordId value = true then
    some ⟨arqJobId, outboxEventId, requestId, h.1, h.2⟩
  else none

def asMetadata (correlation : SystemCorrelation) : Shape :=
  (correlation.arqJobId.map fun value => (Field.arqJobId, value)).toList ++
    ((correlation.outboxEventId.map fun id => (Field.outboxEventId, uuidText id)).toList ++
      (correlation.requestId.map fun value => (Field.requestId, value)).toList)

variable (correlation : SystemCorrelation)

lemma isAscii_asMetadata :
    ∀ x ∈ correlation.asMetadata, IsAscii x.2 := by
  intro x hx
  simp only [asMetadata, List.mem_append, Option.mem_toList, Option.map_eq_some_iff] at hx
  rcases hx with ⟨value, hvalue, rfl⟩ | ⟨id, -, rfl⟩ | ⟨value, hvalue, rfl⟩
  · exact isAscii_of_isRecordId (correlation.validJob value hvalue)
  · exact isAscii_uuidText id
  · exact isAscii_of_isRecordId (correlation.validRequest value hvalue)

lemma nodup_asMetadata :
    (correlation.asMetadata.map Prod.fst).Nodup := by
  obtain ⟨job, event, request, _, _⟩ := correlation
  cases job <;> cases event <;> cases request <;> simp [asMetadata]

end SystemCorrelation

def correlationFromMetadata (fields : Fields) : Option SystemCorrelation :=
  if within fields [.arqJobId, .outboxEventId, .requestId] then
    match get fields .outboxEventId with
    | none => SystemCorrelation.make? (get fields .arqJobId) none (get fields .requestId)
    | some value => (canonicalUuid value).bind fun id =>
        SystemCorrelation.make? (get fields .arqJobId) (some id) (get fields .requestId)
  else none

theorem correlationFromMetadata_asMetadata (correlation : SystemCorrelation) :
    correlationFromMetadata correlation.asMetadata.fields = some correlation := by
  obtain ⟨job, event, request, hjob, hrequest⟩ := correlation
  cases job <;> cases event <;> cases request <;>
    simp_all [correlationFromMetadata, SystemCorrelation.asMetadata, SystemCorrelation.make?,
      canonicalUuid_uuidText]

end SaasOs.AuditLog
