import SaasOs.Foundation.Base64
import SaasOs.Foundation.Exceptions

/-!
# Envelopes of encrypted fields

An envelope is the text `efv1:<key version>:<nonce>:<ciphertext>`, the last two fields in the
URL-safe alphabet of Base64.  `decode` reads back what `encode` wrote; but it also reads the two
characters of the standard alphabet, and it does not look at bits that belong to no byte.  So a text
may have other spellings, and so may the key version of an envelope.
-/

namespace SaasOs.Crypto

open PyJson Base64

/-! ## Envelopes -/

/-- The errors of encryption and decryption; `value` is a `ValueError`. -/
inductive EncryptionError
  | keyUnavailable (keyVersion : Text)
  | unknownKeyVersion (keyVersion : Text)
  | malformedCiphertext (message : String)
  | unsupportedVersion (formatVersion : Text)
  | authentication
  | value
  deriving DecidableEq

structure ParsedEnvelope where
  formatVersion : Text
  keyVersion : Text
  nonce : List Byte
  ciphertextAndTag : List Byte
  deriving DecidableEq

def formatVersion : Text := text "efv1"

/-- `:`. -/
def colon : ℕ := 58

def b64encode (data : List Byte) : Text := encode 45 95 data

def b64decode (data : Text) (fieldName : String) : Except EncryptionError (List Byte) :=
  if IsAscii data then
    match decodeStrict (data.map toStandard) with
    | some bytes => .ok bytes
    | none => .error (.malformedCiphertext
        ("Ciphertext envelope field '" ++ fieldName ++ "' is not valid base64."))
  else .error (.malformedCiphertext
    ("Ciphertext envelope field '" ++ fieldName ++ "' is not valid base64."))

def join (keyVersion nonce64 ciphertext64 : Text) : Text :=
  [colon].intercalate [formatVersion, keyVersion, nonce64, ciphertext64]

/-- `encode`. -/
def encodeEnvelope (keyVersion : Text) (nonce ciphertextAndTag : List Byte) :
    Except EncryptionError Text :=
  if keyVersion = [] then .error .value
  else if colon ∈ keyVersion then .error .value
  else .ok (join keyVersion (b64encode nonce) (b64encode ciphertextAndTag))

/-- `decode`. -/
def decodeEnvelope (envelope : Text) : Except EncryptionError ParsedEnvelope :=
  match envelope.splitOn colon with
  | [version, keyVersion, nonce64, ciphertext64] =>
    if version ≠ formatVersion then .error (.unsupportedVersion version)
    else if keyVersion = [] then
      .error (.malformedCiphertext "Ciphertext envelope's key_version field is empty.")
    else do
      let nonce ← b64decode nonce64 "nonce"
      let ciphertextAndTag ← b64decode ciphertext64 "ciphertext"
      if nonce.length ≠ 12 then
        .error (.malformedCiphertext
          ("Ciphertext envelope's nonce must be 12 bytes, got " ++ toString nonce.length ++ "."))
      else if ciphertextAndTag = [] then
        .error (.malformedCiphertext "Ciphertext envelope's ciphertext field is empty.")
      else .ok ⟨version, keyVersion, nonce, ciphertextAndTag⟩
  | parts =>
    .error (.malformedCiphertext
      ("Ciphertext envelope must have exactly 4 ':'-separated fields, got " ++
        toString parts.length ++ "."))

/-! ## Keys -/

section Keys

-- `str.upper`, of which nothing is used but that it is a function
variable (upper : Text → Text)

def keySecretName (keyVersion : Text) : Text := text "FIELD_ENCRYPTION_KEY_" ++ upper keyVersion

abbrev Secrets := Text → Option Text

def currentKeyVersion (secrets : Secrets) : Except EncryptionError Text :=
  match secrets (text "FIELD_ENCRYPTION_ACTIVE_KEY_VERSION") with
  | none => .error (.keyUnavailable (text "<active>"))
  | some [] => .error (.keyUnavailable (text "<active>"))
  | some value => .ok value

def keyForVersion (secrets : Secrets) (keyVersion : Text) : Except EncryptionError (List Byte) :=
  match secrets (keySecretName upper keyVersion) with
  | none => .error (.unknownKeyVersion keyVersion)
  | some [] => .error (.unknownKeyVersion keyVersion)
  | some raw =>
    if IsAscii raw then
      match decodeStrict raw with
      | none => .error (.keyUnavailable keyVersion)
      | some key => if key.length ≠ 32 then .error (.keyUnavailable keyVersion) else .ok key
    else .error (.keyUnavailable keyVersion)

end Keys

/-! ## Encryption -/

/-- The ciphertexts with their tags that an ideal cipher makes of a key, a nonce, a plaintext and
associated data: there is always a tag, and different arguments give different ciphertexts. -/
structure Sealing where
  sealed : List Byte → List Byte → List Byte → Option (List Byte) → List Byte
  ne_nil : ∀ key nonce plaintext associatedData, sealed key nonce plaintext associatedData ≠ []
  injective : ∀ key nonce plaintext associatedData key' nonce' plaintext' associatedData',
    sealed key nonce plaintext associatedData = sealed key' nonce' plaintext' associatedData' →
      key = key' ∧ nonce = nonce' ∧ plaintext = plaintext' ∧ associatedData = associatedData'

/-- A call of `encrypt`: the secrets at the time, the nonce that was drawn, and the arguments. -/
structure Encryption where
  secrets : Secrets
  nonce : List Byte
  plaintext : List Byte
  associatedData : Option (List Byte)
  length_nonce : nonce.length = 12

variable (upper : Text → Text) (sealing : Sealing)

def Encryption.key (call : Encryption) : Except EncryptionError (Text × List Byte) := do
  let keyVersion ← currentKeyVersion call.secrets
  let key ← keyForVersion upper call.secrets keyVersion
  return (keyVersion, key)

def encrypt (call : Encryption) : Except EncryptionError Text := do
  let (keyVersion, key) ← call.key upper
  encodeEnvelope keyVersion call.nonce
    (sealing.sealed key call.nonce call.plaintext call.associatedData)

/-- The ideal cipher opens what a call has sealed with the same key, nonce and associated data, and
nothing else. -/
def opens (calls : List Encryption) (key nonce ciphertextAndTag : List Byte)
    (associatedData : Option (List Byte)) : Option (List Byte) :=
  calls.findSome? fun call =>
    match call.key upper with
    | .error _ => none
    | .ok (_, callKey) =>
      if callKey = key ∧ call.nonce = nonce ∧ call.associatedData = associatedData ∧
          sealing.sealed key nonce call.plaintext associatedData = ciphertextAndTag then
        some call.plaintext
      else none

/-- `EncryptionService.decrypt`, after the calls of `encrypt`. -/
def decrypt (calls : List Encryption) (secrets : Secrets) (envelope : Text)
    (associatedData : Option (List Byte)) : Except EncryptionError (List Byte) := do
  let parsed ← decodeEnvelope envelope
  let key ← keyForVersion upper secrets parsed.keyVersion
  match opens upper sealing calls key parsed.nonce parsed.ciphertextAndTag associatedData with
  | some plaintext => .ok plaintext
  | none => .error .authentication

/-! ## What is promised -/

/-- **The envelope is faithful and canonical**: for the calls of `encrypt` so far, and a later call of
`decrypt`. -/
structure Faithful (calls : List Encryption) (secrets : Secrets) (envelope : Text)
    (associatedData : Option (List Byte)) : Prop where
  /-- What is encoded is read back. -/
  decode_encode : ∀ keyVersion nonce ciphertextAndTag, keyVersion ≠ [] → colon ∉ keyVersion →
    nonce.length = 12 → ciphertextAndTag ≠ [] →
      ∃ encoded, encodeEnvelope keyVersion nonce ciphertextAndTag = .ok encoded ∧
        decodeEnvelope encoded = .ok ⟨formatVersion, keyVersion, nonce, ciphertextAndTag⟩
  /-- A text that is read is the one that is encoded. -/
  canonical : ∀ parsed, decodeEnvelope envelope = .ok parsed →
    encodeEnvelope parsed.keyVersion parsed.nonce parsed.ciphertextAndTag = .ok envelope
  /-- A text that is not read is malformed, or of another version. -/
  raises : ∀ error, decodeEnvelope envelope = .error error →
    (∃ message, error = .malformedCiphertext message) ∨
      ∃ version, error = .unsupportedVersion version
  /-- What was encrypted is decrypted, as long as its version has the key that it had. -/
  decrypt_encrypt : ∀ call ∈ calls, ∀ encrypted keyVersion key,
    encrypt upper sealing call = .ok encrypted → call.key upper = .ok (keyVersion, key) →
      keyForVersion upper secrets keyVersion = .ok key →
      decrypt upper sealing calls secrets encrypted call.associatedData = .ok call.plaintext
  /-- A plaintext comes only from an encryption with the same associated data that gave this text. -/
  authentic : ∀ plaintext,
    decrypt upper sealing calls secrets envelope associatedData = .ok plaintext →
      ∃ call ∈ calls, encrypt upper sealing call = .ok envelope ∧
        call.associatedData = associatedData ∧ call.plaintext = plaintext
  /-- With other associated data than those that it was encrypted with, a text is not decrypted. -/
  bound : ∀ call ∈ calls, encrypt upper sealing call = .ok envelope →
    call.associatedData ≠ associatedData →
      ∀ plaintext, decrypt upper sealing calls secrets envelope associatedData ≠ .ok plaintext

/-- The text is spelled as `b64encode` spells it: in the URL-safe alphabet, with no bit set that
belongs to no byte. -/
def IsCanonical (data : Text) : Prop := UrlSafe data ∧ leftover (data.map toStandard) = 0

/-- The text has the form of an envelope, with a base64 field that no encoding gives. -/
def Respelled (envelope : Text) : Prop :=
  ∃ keyVersion nonce64 ciphertext64, envelope.splitOn colon =
      [formatVersion, keyVersion, nonce64, ciphertext64] ∧ keyVersion ≠ [] ∧
    isGroups (nonce64.map toStandard) = true ∧ nonce64.length = 16 ∧ pad ∉ nonce64 ∧
    isGroups (ciphertext64.map toStandard) = true ∧ ciphertext64 ≠ [] ∧
    ¬ (IsCanonical nonce64 ∧ IsCanonical ciphertext64)

/-- **The text names the key of an encryption by another version**, and was not given by an
encryption itself. -/
def Renamed (calls : List Encryption) (secrets : Secrets) (envelope : Text)
    (associatedData : Option (List Byte)) : Prop :=
  (∃ call ∈ calls, ∃ callVersion key keyVersion, call.key upper = .ok (callVersion, key) ∧
    call.associatedData = associatedData ∧ keyForVersion upper secrets keyVersion = .ok key ∧
    encodeEnvelope keyVersion call.nonce
      (sealing.sealed key call.nonce call.plaintext associatedData) = .ok envelope) ∧
  ∀ call ∈ calls, call.associatedData = associatedData → encrypt upper sealing call ≠ .ok envelope

section Counterexample

def frame : List Byte → List Byte
  | [] => [⟨0, by decide⟩]
  | byte :: data => ⟨1, by decide⟩ :: byte :: frame data

lemma frame_append_inj : ∀ {data data' rest rest' : List Byte},
    frame data ++ rest = frame data' ++ rest' → data = data' ∧ rest = rest'
  | [], [], rest, rest', h => ⟨rfl, by simpa [frame] using h⟩
  | [], byte :: data, rest, rest', h => by simp [frame] at h
  | byte :: data, [], rest, rest', h => by simp [frame] at h
  | byte :: data, byte' :: data', rest, rest', h => by
    simp only [frame, List.cons_append, List.cons.injEq, true_and] at h
    obtain ⟨rfl, h⟩ := h
    obtain ⟨rfl, rfl⟩ := frame_append_inj h
    exact ⟨rfl, rfl⟩

def frameOption : Option (List Byte) → List Byte
  | none => [⟨0, by decide⟩]
  | some data => ⟨1, by decide⟩ :: frame data

lemma frameOption_inj : ∀ {data data' : Option (List Byte)},
    frameOption data = frameOption data' → data = data'
  | none, none, _ => rfl
  | none, some data, h => by simp [frameOption] at h
  | some data, none, h => by simp [frameOption] at h
  | some data, some data', h => by
    simp only [frameOption, List.cons.injEq, true_and] at h
    have happend : frame data ++ [] = frame data' ++ [] := by simpa using h
    rw [(frame_append_inj happend).1]

def framing : Sealing where
  sealed key nonce plaintext associatedData :=
    frame key ++ (frame nonce ++ (frame plaintext ++ frameOption associatedData))
  ne_nil key nonce plaintext associatedData := by
    cases key <;> simp [frame]
  injective key nonce plaintext associatedData key' nonce' plaintext' associatedData' h := by
    obtain ⟨hkey, hrest⟩ := frame_append_inj h
    obtain ⟨hnonce, hrest⟩ := frame_append_inj hrest
    obtain ⟨hplaintext, hdata⟩ := frame_append_inj hrest
    exact ⟨hkey, hnonce, hplaintext, frameOption_inj hdata⟩

/-- Two texts that stand for one envelope: the second one has a bit set that belongs to no byte. -/
theorem decodeEnvelope_respelled :
    decodeEnvelope (text "efv1:v1:AAAAAAAAAAAAAAAA:AB==") =
        decodeEnvelope (text "efv1:v1:AAAAAAAAAAAAAAAA:AA==") ∧
      ¬ Faithful id framing [] (fun _ => none) (text "efv1:v1:AAAAAAAAAAAAAAAA:AB==") none := by
  have hdecode : decodeEnvelope (text "efv1:v1:AAAAAAAAAAAAAAAA:AB==") =
      .ok ⟨formatVersion, text "v1", List.replicate 12 0, [0]⟩ := by
    decide +kernel
  refine ⟨by decide +kernel, fun h => ?_⟩
  exact absurd (h.canonical _ hdecode) (by decide +kernel)

end Counterexample

/-! ## Fields -/

lemma toStandard_eq_pad {c : ℕ} : toStandard c = pad ↔ c = pad := by
  unfold toStandard pad
  split_ifs <;> omega

variable {data : Text} {bytes : List Byte}

lemma b64decode_eq_ok {fieldName : String} :
    b64decode data fieldName = .ok bytes ↔ Spells (data.map toStandard) bytes := by
  rw [← decodeStrict_eq_some]
  unfold b64decode
  constructor
  · intro h
    split at h
    · split at h
      · cases h
        assumption
      · cases h
    · cases h
  · intro h
    have hascii : IsAscii data := by
      intro c hc
      have hlt := ((decodeStrict_eq_some.1 h).ne (toStandard c) (List.mem_map_of_mem hc)).2.2
      unfold toStandard at hlt
      split_ifs at hlt <;> omega
    rw [if_pos hascii, h]

lemma length_nonce (h : Spells (data.map toStandard) bytes) :
    bytes.length = 12 ↔ data.length = 16 ∧ pad ∉ data := by
  obtain ⟨hlength, hcount⟩ := h.length
  have hpad : (data.map toStandard).count pad = 0 ↔ pad ∉ data := by
    rw [List.count_eq_zero, List.mem_map]
    refine not_congr ⟨?_, fun hmem => ⟨pad, hmem, toStandard_eq_pad.2 rfl⟩⟩
    rintro ⟨c, hc, heq⟩
    exact toStandard_eq_pad.1 heq ▸ hc
  rw [List.length_map] at hlength
  rw [← hpad]
  omega

lemma ne_nil_ciphertext (h : Spells (data.map toStandard) bytes) :
    bytes ≠ [] ↔ data ≠ [] := by
  obtain ⟨hlength, hcount⟩ := h.length
  rw [List.length_map] at hlength
  rw [← List.length_pos_iff, ← List.length_pos_iff]
  omega

lemma not_mem_of_mem_splitOn {separator : ℕ} : ∀ (data part : Text),
    part ∈ data.splitOn separator → separator ∉ part
  | [], part, h => by
    rw [List.splitOn_nil, List.mem_singleton] at h
    simp [h]
  | c :: data, part, h => by
    rw [List.splitOn_cons_eq_if_modifyHead] at h
    split at h
    case isTrue hc =>
      rcases List.mem_cons.1 h with rfl | h
      · simp
      · exact not_mem_of_mem_splitOn data part h
    case isFalse hc =>
      cases hsplit : data.splitOn separator with
      | nil => exact absurd hsplit (List.splitOn_ne_nil _ _)
      | cons first rest =>
        have hfirst : ∀ other ∈ first :: rest, separator ∉ other := fun other hother =>
          not_mem_of_mem_splitOn data other (hsplit ▸ hother)
        rw [hsplit, List.modifyHead_cons] at h
        rcases List.mem_cons.1 h with rfl | h
        · have hne : separator ≠ c := fun heq => hc (by simp [heq])
          simpa [hne] using hfirst first (List.mem_cons_self ..)
        · exact hfirst part (List.mem_cons_of_mem _ h)

lemma colon_not_mem_b64encode (bytes : List Byte) : colon ∉ b64encode bytes := by
  intro hmem
  have hstandard : toStandard colon ∈ (b64encode bytes).map toStandard :=
    List.mem_map_of_mem hmem
  rcases (spells_encode_urlSafe bytes).value_or_pad _ hstandard with ⟨v, hv⟩ | heq
  · simp [toStandard, colon, value] at hv
  · simp [toStandard, colon, pad] at heq

lemma splitOn_join {keyVersion nonce64 ciphertext64 : Text} (hkey : colon ∉ keyVersion)
    (hnonce : colon ∉ nonce64) (hciphertext : colon ∉ ciphertext64) :
    (join keyVersion nonce64 ciphertext64).splitOn colon =
      [formatVersion, keyVersion, nonce64, ciphertext64] := by
  refine List.splitOn_intercalate colon ?_ (by simp)
  simp only [List.mem_cons, List.not_mem_nil, or_false, forall_eq_or_imp, forall_eq]
  exact ⟨by decide, hkey, hnonce, hciphertext⟩

lemma decodeEnvelope_eq_ok {envelope : Text} {parsed : ParsedEnvelope} :
    decodeEnvelope envelope = .ok parsed ↔ ∃ nonce64 ciphertext64,
      envelope.splitOn colon = [formatVersion, parsed.keyVersion, nonce64, ciphertext64] ∧
        parsed.formatVersion = formatVersion ∧ parsed.keyVersion ≠ [] ∧
        Spells (nonce64.map toStandard) parsed.nonce ∧
        Spells (ciphertext64.map toStandard) parsed.ciphertextAndTag ∧
        parsed.nonce.length = 12 ∧ parsed.ciphertextAndTag ≠ [] := by
  unfold decodeEnvelope
  constructor
  · intro h
    split at h
    case h_2 => cases h
    case h_1 version keyVersion nonce64 ciphertext64 hsplit =>
      split_ifs at h with hversion hkey
      obtain ⟨nonce, hnonce, h⟩ := bind_eq_ok.mp h
      obtain ⟨ciphertextAndTag, hciphertext, h⟩ := bind_eq_ok.mp h
      split_ifs at h with hlength hempty
      cases h
      obtain rfl := not_not.1 hversion
      exact ⟨nonce64, ciphertext64, hsplit, rfl, hkey, b64decode_eq_ok.1 hnonce,
        b64decode_eq_ok.1 hciphertext, not_not.1 hlength, hempty⟩
  · rintro ⟨nonce64, ciphertext64, hsplit, hversion, hkey, hnonce, hciphertext, hlength, hne⟩
    obtain ⟨version, keyVersion, nonce, ciphertextAndTag⟩ := parsed
    obtain rfl : version = formatVersion := hversion
    rw [hsplit]
    simp only [ne_eq, not_true_eq_false, if_false, if_neg hkey, b64decode_eq_ok.2 hnonce,
      b64decode_eq_ok.2 hciphertext]
    simp only [bind, Except.bind, hlength, not_true_eq_false, if_false, if_neg hne]

/-! ## Round trips -/

variable {nonce ciphertextAndTag : List Byte}

lemma decodeEnvelope_join {keyVersion : Text} (hempty : keyVersion ≠ [])
    (hcolon : colon ∉ keyVersion) (hlength : nonce.length = 12)
    (hne : ciphertextAndTag ≠ []) :
    decodeEnvelope (join keyVersion (b64encode nonce) (b64encode ciphertextAndTag)) =
      .ok ⟨formatVersion, keyVersion, nonce, ciphertextAndTag⟩ :=
  decodeEnvelope_eq_ok.2 ⟨_, _, splitOn_join hcolon (colon_not_mem_b64encode nonce)
    (colon_not_mem_b64encode ciphertextAndTag), rfl, hempty, spells_encode_urlSafe nonce,
    spells_encode_urlSafe ciphertextAndTag, hlength, hne⟩

lemma encodeEnvelope_eq_ok {keyVersion envelope : Text} :
    encodeEnvelope keyVersion nonce ciphertextAndTag = .ok envelope ↔ keyVersion ≠ [] ∧
      colon ∉ keyVersion ∧
        join keyVersion (b64encode nonce) (b64encode ciphertextAndTag) = envelope := by
  unfold encodeEnvelope
  split_ifs with hempty hcolon
  · simp [hempty]
  · simp [hcolon]
  · simp [hempty, hcolon]

lemma decode_of_encode {keyVersion envelope : Text}
    (h : encodeEnvelope keyVersion nonce ciphertextAndTag = .ok envelope)
    (hlength : nonce.length = 12) (hne : ciphertextAndTag ≠ []) :
    decodeEnvelope envelope = .ok ⟨formatVersion, keyVersion, nonce, ciphertextAndTag⟩ := by
  obtain ⟨hempty, hcolon, rfl⟩ := encodeEnvelope_eq_ok.1 h
  exact decodeEnvelope_join hempty hcolon hlength hne

lemma encode_iff_canonical {envelope keyVersion nonce64 ciphertext64 : Text}
    (hsplit : envelope.splitOn colon = [formatVersion, keyVersion, nonce64, ciphertext64])
    (hempty : keyVersion ≠ []) (hnonce : Spells (nonce64.map toStandard) nonce)
    (hciphertext : Spells (ciphertext64.map toStandard) ciphertextAndTag) :
    encodeEnvelope keyVersion nonce ciphertextAndTag = .ok envelope ↔
      IsCanonical nonce64 ∧ IsCanonical ciphertext64 := by
  have hcolon : colon ∉ keyVersion :=
    not_mem_of_mem_splitOn envelope keyVersion (hsplit ▸ by simp)
  have hjoin : join keyVersion nonce64 ciphertext64 = envelope := by
    unfold join
    rw [← hsplit]
    exact List.intercalate_splitOn colon
  unfold IsCanonical
  rw [encodeEnvelope_eq_ok, ← encode_urlSafe_iff hnonce, ← encode_urlSafe_iff hciphertext]
  constructor
  · rintro ⟨-, -, heq⟩
    rw [← heq, splitOn_join hcolon (colon_not_mem_b64encode nonce)
      (colon_not_mem_b64encode ciphertextAndTag)] at hsplit
    simpa [b64encode] using hsplit
  · rintro ⟨rfl, rfl⟩
    exact ⟨hempty, hcolon, hjoin⟩

lemma respelled_iff {envelope : Text} : Respelled envelope ↔ ∃ parsed,
    decodeEnvelope envelope = .ok parsed ∧
      encodeEnvelope parsed.keyVersion parsed.nonce parsed.ciphertextAndTag ≠ .ok envelope := by
  constructor
  · rintro ⟨keyVersion, nonce64, ciphertext64, hsplit, hempty, hnonce64, hlength, hpad,
      hciphertext64, hne, hcanonical⟩
    obtain ⟨nonce, hnonce⟩ := exists_spells _ hnonce64
    obtain ⟨ciphertextAndTag, hciphertext⟩ := exists_spells _ hciphertext64
    refine ⟨⟨formatVersion, keyVersion, nonce, ciphertextAndTag⟩, decodeEnvelope_eq_ok.2
      ⟨nonce64, ciphertext64, hsplit, rfl, hempty, hnonce, hciphertext,
        (length_nonce hnonce).2 ⟨hlength, hpad⟩, (ne_nil_ciphertext hciphertext).2 hne⟩, ?_⟩
    rwa [ne_eq, encode_iff_canonical hsplit hempty hnonce hciphertext]
  · rintro ⟨parsed, hdecode, hencode⟩
    obtain ⟨nonce64, ciphertext64, hsplit, -, hempty, hnonce, hciphertext, hlength, hne⟩ :=
      decodeEnvelope_eq_ok.1 hdecode
    obtain ⟨hlength, hpad⟩ := (length_nonce hnonce).1 hlength
    refine ⟨parsed.keyVersion, nonce64, ciphertext64, hsplit, hempty, hnonce.isGroups, hlength,
      hpad, hciphertext.isGroups, (ne_nil_ciphertext hciphertext).1 hne, ?_⟩
    rwa [← encode_iff_canonical hsplit hempty hnonce hciphertext]

/-! ## Decryption -/

variable {upper sealing} {calls : List Encryption} {secrets : Secrets} {envelope : Text}
  {associatedData : Option (List Byte)} {call : Encryption} {plaintext : List Byte}

lemma encrypt_eq_ok : encrypt upper sealing call = .ok envelope ↔ ∃ keyVersion key,
    call.key upper = .ok (keyVersion, key) ∧
      encodeEnvelope keyVersion call.nonce
        (sealing.sealed key call.nonce call.plaintext call.associatedData) = .ok envelope := by
  unfold encrypt
  constructor
  · intro h
    obtain ⟨⟨keyVersion, key⟩, hkey, h⟩ := bind_eq_ok.mp h
    exact ⟨keyVersion, key, hkey, h⟩
  · rintro ⟨keyVersion, key, hkey, h⟩
    rw [hkey]
    exact h

lemma opens_eq_some {key nonce ciphertextAndTag : List Byte} :
    opens upper sealing calls key nonce ciphertextAndTag associatedData = some plaintext ↔
      ∃ call ∈ calls, ∃ keyVersion, call.key upper = .ok (keyVersion, key) ∧ call.nonce = nonce ∧
        call.associatedData = associatedData ∧ call.plaintext = plaintext ∧
        sealing.sealed key nonce plaintext associatedData = ciphertextAndTag := by
  have hopens : ∀ call : Encryption, ∀ opened,
      (match call.key upper with
        | .error _ => none
        | .ok (_, callKey) =>
          if callKey = key ∧ call.nonce = nonce ∧ call.associatedData = associatedData ∧
              sealing.sealed key nonce call.plaintext associatedData = ciphertextAndTag then
            some call.plaintext
          else none) = some opened ↔
        ∃ keyVersion, call.key upper = .ok (keyVersion, key) ∧ call.nonce = nonce ∧
          call.associatedData = associatedData ∧ call.plaintext = opened ∧
          sealing.sealed key nonce opened associatedData = ciphertextAndTag := by
    intro call opened
    cases hkey : call.key upper with
    | error error => simp
    | ok found =>
      obtain ⟨callVersion, callKey⟩ := found
      simp only [Option.ite_none_right_eq_some, Option.some.injEq, Except.ok.injEq, Prod.mk.injEq]
      constructor
      · rintro ⟨⟨rfl, hnonce, hdata, hsealed⟩, rfl⟩
        exact ⟨callVersion, ⟨rfl, rfl⟩, hnonce, hdata, rfl, hsealed⟩
      · rintro ⟨keyVersion, ⟨-, rfl⟩, hnonce, hdata, rfl, hsealed⟩
        exact ⟨⟨rfl, hnonce, hdata, hsealed⟩, rfl⟩
  unfold opens
  constructor
  · intro h
    obtain ⟨call, hcall, hopened⟩ := List.exists_of_findSome?_eq_some h
    exact ⟨call, hcall, (hopens call plaintext).1 hopened⟩
  · rintro ⟨call, hcall, hopened⟩
    cases hfind : calls.findSome? _ with
    | none =>
      have hnone := List.findSome?_eq_none_iff.1 hfind call hcall
      exact absurd (hnone.symm.trans ((hopens call plaintext).2 hopened)) nofun
    | some opened =>
      obtain ⟨other, -, hother⟩ := List.exists_of_findSome?_eq_some hfind
      obtain ⟨-, -, -, -, -, hsealed⟩ := hopened
      obtain ⟨-, -, -, -, -, hsealed'⟩ := (hopens other opened).1 hother
      obtain ⟨-, -, rfl, -⟩ := sealing.injective _ _ _ _ _ _ _ _ (hsealed.trans hsealed'.symm)
      rfl

lemma decrypt_eq_ok : decrypt upper sealing calls secrets envelope associatedData = .ok plaintext ↔
    ∃ parsed key, decodeEnvelope envelope = .ok parsed ∧
      keyForVersion upper secrets parsed.keyVersion = .ok key ∧
      opens upper sealing calls key parsed.nonce parsed.ciphertextAndTag associatedData =
        some plaintext := by
  unfold decrypt
  constructor
  · intro h
    obtain ⟨parsed, hparsed, h⟩ := bind_eq_ok.mp h
    obtain ⟨key, hkey, h⟩ := bind_eq_ok.mp h
    split at h
    case h_1 opened hopened =>
      cases h
      exact ⟨parsed, key, hparsed, hkey, hopened⟩
    case h_2 => cases h
  · rintro ⟨parsed, key, hparsed, hkey, hopened⟩
    simp only [hparsed, hkey, bind, Except.bind, hopened]

lemma decodeEnvelope_eq_error {error : EncryptionError} (h : decodeEnvelope envelope = .error error) :
    (∃ message, error = .malformedCiphertext message) ∨
      ∃ version, error = .unsupportedVersion version := by
  have hfield : ∀ {data fieldName error}, b64decode data fieldName = .error error →
      ∃ message, error = .malformedCiphertext message := by
    intro data fieldName error h
    unfold b64decode at h
    split at h
    · split at h <;> cases h
      exact ⟨_, rfl⟩
    · cases h
      exact ⟨_, rfl⟩
  unfold decodeEnvelope at h
  split at h
  case h_2 =>
    cases h
    exact .inl ⟨_, rfl⟩
  case h_1 version keyVersion nonce64 ciphertext64 hsplit =>
    split_ifs at h
    · cases h
      exact .inr ⟨_, rfl⟩
    · cases h
      exact .inl ⟨_, rfl⟩
    · cases hnonce : b64decode nonce64 "nonce" with
      | error error' =>
        rw [hnonce] at h
        cases h
        exact .inl (hfield hnonce)
      | ok nonce =>
        cases hciphertext : b64decode ciphertext64 "ciphertext" with
        | error error' =>
          rw [hnonce, hciphertext] at h
          cases h
          exact .inl (hfield hciphertext)
        | ok ciphertextAndTag =>
          rw [hnonce, hciphertext] at h
          simp only [bind, Except.bind] at h
          split_ifs at h
          · cases h
            exact .inl ⟨_, rfl⟩
          · cases h
            exact .inl ⟨_, rfl⟩

lemma decrypt_encrypt {encrypted keyVersion : Text} {key : List Byte} (hcall : call ∈ calls)
    (h : encrypt upper sealing call = .ok encrypted) (hkey : call.key upper = .ok (keyVersion, key))
    (hsecrets : keyForVersion upper secrets keyVersion = .ok key) :
    decrypt upper sealing calls secrets encrypted call.associatedData = .ok call.plaintext := by
  obtain ⟨keyVersion', key', hkey', hencode⟩ := encrypt_eq_ok.1 h
  obtain ⟨rfl, rfl⟩ := Prod.mk.inj (Except.ok.inj (hkey'.symm.trans hkey))
  exact decrypt_eq_ok.2 ⟨_, key', decode_of_encode hencode call.length_nonce (sealing.ne_nil _ _ _ _),
    hsecrets, opens_eq_some.2 ⟨call, hcall, keyVersion', hkey, rfl, rfl, rfl, rfl⟩⟩

lemma decrypt_sealed (h : decrypt upper sealing calls secrets envelope associatedData = .ok plaintext) :
    ∃ parsed key, decodeEnvelope envelope = .ok parsed ∧
      keyForVersion upper secrets parsed.keyVersion = .ok key ∧
      (∃ call ∈ calls, ∃ keyVersion, call.key upper = .ok (keyVersion, key) ∧
        call.nonce = parsed.nonce ∧ call.associatedData = associatedData ∧
        sealing.sealed key call.nonce call.plaintext associatedData = parsed.ciphertextAndTag) ∧
      ∀ call, encrypt upper sealing call = .ok envelope →
        call.associatedData = associatedData ∧ call.plaintext = plaintext := by
  obtain ⟨parsed, key, hdecode, hkey, hopened⟩ := decrypt_eq_ok.1 h
  obtain ⟨call, hcall, keyVersion, hcallKey, hnonce, hdata, rfl, hsealed⟩ :=
    opens_eq_some.1 hopened
  refine ⟨parsed, key, hdecode, hkey,
    ⟨call, hcall, keyVersion, hcallKey, hnonce, hdata, hnonce.symm ▸ hsealed⟩, ?_⟩
  intro other hother
  obtain ⟨otherVersion, otherKey, -, hencode⟩ := encrypt_eq_ok.1 hother
  obtain rfl := Except.ok.inj (hdecode.symm.trans
    (decode_of_encode hencode other.length_nonce (sealing.ne_nil _ _ _ _)))
  obtain ⟨-, -, hplaintext, hassociated⟩ := sealing.injective _ _ _ _ _ _ _ _ hsealed
  exact ⟨hassociated.symm, hplaintext.symm⟩

/-- **The envelope is faithful and canonical exactly if the text is no other spelling of an envelope
and does not name its key by another version.** -/
theorem faithful_iff (calls : List Encryption) (secrets : Secrets) (envelope : Text)
    (associatedData : Option (List Byte)) :
    Faithful upper sealing calls secrets envelope associatedData ↔
      ¬ Respelled envelope ∧ ¬ Renamed upper sealing calls secrets envelope associatedData := by
  constructor
  · intro h
    refine ⟨fun hrespelled => ?_, fun hrenamed => ?_⟩
    · obtain ⟨parsed, hdecode, hencode⟩ := respelled_iff.1 hrespelled
      exact hencode (h.canonical parsed hdecode)
    · obtain ⟨⟨call, hcall, callVersion, key, keyVersion, hcallKey, hdata, hkey, hencode⟩,
        hother⟩ := hrenamed
      have hdecode := decode_of_encode hencode call.length_nonce (sealing.ne_nil _ _ _ _)
      have hopened := opens_eq_some.2 ⟨call, hcall, callVersion, hcallKey, rfl, hdata, rfl,
        (rfl : sealing.sealed key call.nonce call.plaintext associatedData = _)⟩
      obtain ⟨call', hcall', hencrypt, hdata', -⟩ :=
        h.authentic call.plaintext (decrypt_eq_ok.2 ⟨_, key, hdecode, hkey, hopened⟩)
      exact hother call' hcall' hdata' hencrypt
  · rintro ⟨hrespelled, hrenamed⟩
    have hcanonical : ∀ parsed, decodeEnvelope envelope = .ok parsed →
        encodeEnvelope parsed.keyVersion parsed.nonce parsed.ciphertextAndTag = .ok envelope := by
      intro parsed hdecode
      by_contra hencode
      exact hrespelled (respelled_iff.2 ⟨parsed, hdecode, hencode⟩)
    refine ⟨?_, hcanonical, fun error => decodeEnvelope_eq_error, ?_, ?_, ?_⟩
    · intro keyVersion nonce ciphertextAndTag hempty hcolon hlength hne
      exact ⟨_, encodeEnvelope_eq_ok.2 ⟨hempty, hcolon, rfl⟩,
        decodeEnvelope_join hempty hcolon hlength hne⟩
    · intro call hcall encrypted keyVersion key hencrypt hkey hsecrets
      exact decrypt_encrypt hcall hencrypt hkey hsecrets
    · intro plaintext hdecrypt
      obtain ⟨parsed, key, hdecode, hkey, ⟨call, hcall, callVersion, hcallKey, hnonce, hdata,
        hsealed⟩, hgave⟩ := decrypt_sealed hdecrypt
      by_contra hnone
      refine hrenamed ⟨⟨call, hcall, callVersion, key, parsed.keyVersion, hcallKey, hdata, hkey, ?_⟩,
        fun other hother hdata' hencrypt => hnone ⟨other, hother, hencrypt, hgave other hencrypt⟩⟩
      rw [hsealed, hnonce]
      exact hcanonical parsed hdecode
    · intro call hcall hencrypt hdata plaintext hdecrypt
      obtain ⟨-, -, -, -, -, hgave⟩ := decrypt_sealed hdecrypt
      exact hdata (hgave call hencrypt).1

end SaasOs.Crypto
