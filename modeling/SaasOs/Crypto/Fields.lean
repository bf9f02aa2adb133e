import SaasOs.Crypto.Envelope

/-!
# Encrypted text fields

`encrypt_str` writes a text as the envelope of its UTF-8 bytes, and `decrypt_str` reads it back.
With a fixed usable key every text is read back as it was, and its envelope has a length that the
text decides.
-/

namespace SaasOs.Crypto

open PyJson Base64

/-! ## Bytes and texts -/

/-- `str.encode("utf-8")`. -/
def utf8 (s : String) : List Byte := s.toByteArray.data.toList.map UInt8.toFin

/-- `bytes.decode("utf-8")`. -/
def ofUtf8 (bytes : List Byte) : Option String :=
  String.fromUTF8? ⟨(bytes.map UInt8.ofFin).toArray⟩

lemma length_utf8 (s : String) : (utf8 s).length = s.utf8ByteSize := by
  unfold utf8
  rw [List.length_map]
  rfl

/-- A text is the decoding of its own bytes. -/
lemma ofUtf8_utf8 (s : String) : ofUtf8 (utf8 s) = some s := by
  have hbytes : ByteArray.mk ((utf8 s).map UInt8.ofFin).toArray = s.toByteArray := by
    unfold utf8
    rw [List.map_map]
    have hid : UInt8.ofFin ∘ UInt8.toFin = id := rfl
    rw [hid, List.map_id]
  unfold ofUtf8 String.fromUTF8?
  rw [hbytes, dif_pos s.isValidUTF8]
  rfl

/-- The string of a text whose code points are all characters. -/
def ofText (t : Text) : String := String.ofList (t.map Char.ofNat)

lemma text_ofText {t : Text} (h : ∀ c ∈ t, c.isValidChar) : text (ofText t) = t := by
  unfold text ofText
  rw [String.toList_ofList, List.map_map]
  conv_rhs => rw [← List.map_id t]
  refine List.map_congr_left fun c hc => ?_
  rw [Function.comp_apply, Char.ofNat, dif_pos (h c hc)]
  rfl

lemma length_b64encode (bytes : List Byte) :
    (b64encode bytes).length = 4 * ((bytes.length + 2) / 3) := by
  obtain ⟨hlength, hcount⟩ := (spells_encode_urlSafe bytes).length
  rw [List.length_map] at hlength
  unfold b64encode
  omega

/-- The characters of Base64 are ASCII. -/
lemma isAscii_b64encode (bytes : List Byte) : IsAscii (b64encode bytes) := by
  intro c hc
  have hlt := ((spells_encode_urlSafe bytes).ne (toStandard c) (List.mem_map_of_mem hc)).2.2
  unfold toStandard at hlt
  split_ifs at hlt <;> omega

/-! ## The service -/

/-- `AESGCM`: what was sealed is opened again, and the tag takes sixteen bytes. -/
structure AesGcm where
  sealed : List Byte → List Byte → List Byte → Option (List Byte) → List Byte
  opened : List Byte → List Byte → List Byte → Option (List Byte) → Option (List Byte)
  opened_sealed : ∀ key nonce plaintext associatedData,
    opened key nonce (sealed key nonce plaintext associatedData) associatedData = some plaintext
  length_sealed : ∀ key nonce plaintext associatedData,
    (sealed key nonce plaintext associatedData).length = plaintext.length + 16

/-- Twelve bytes of `os.urandom`. -/
abbrev Nonce := { bytes : List Byte // bytes.length = 12 }

/-- `EncryptionService` with a fixed usable key: the active version has a key of 32 bytes, and a name
that an envelope and a column of text can hold. -/
structure EncryptionService where
  cipher : AesGcm
  upper : Text → Text
  secrets : Secrets
  keyVersion : Text
  key : List Byte
  current : currentKeyVersion secrets = .ok keyVersion
  usable : keyForVersion upper secrets keyVersion = .ok key
  carried : keyVersion ≠ [] ∧ colon ∉ keyVersion ∧ ∀ c ∈ keyVersion, c.isValidChar

namespace EncryptionService

variable (service : EncryptionService)

def encryptStr (nonce : Nonce) (plaintext : String) (associatedData : Option (List Byte)) :
    Except EncryptionError String := do
  let keyVersion ← currentKeyVersion service.secrets
  let key ← keyForVersion service.upper service.secrets keyVersion
  let envelope ← encodeEnvelope keyVersion nonce
    (service.cipher.sealed key nonce (utf8 plaintext) associatedData)
  return ofText envelope

def decryptStr (envelope : String) (associatedData : Option (List Byte)) :
    Except EncryptionError String := do
  let parsed ← decodeEnvelope (text envelope)
  let key ← keyForVersion service.upper service.secrets parsed.keyVersion
  match service.cipher.opened key parsed.nonce parsed.ciphertextAndTag associatedData with
  | none => .error .authentication
  | some plaintext =>
    match ofUtf8 plaintext with
    | none => .error (.malformedCiphertext "Decrypted plaintext is not valid UTF-8.")
    | some plaintext => .ok plaintext

/-- The characters of the envelope of a text. -/
def envelopeText (nonce : Nonce) (plaintext : String) (associatedData : Option (List Byte)) : Text :=
  join service.keyVersion (b64encode nonce)
    (b64encode (service.cipher.sealed service.key nonce (utf8 plaintext) associatedData))

/-- The envelope that is stored for a text. -/
def envelope (nonce : Nonce) (plaintext : String) (associatedData : Option (List Byte)) : String :=
  ofText (service.envelopeText nonce plaintext associatedData)

/-- The length of the envelope of a text: the format, the key version, sixteen characters for the
nonce, and four for three bytes of the ciphertext. -/
def envelopeLength (plaintext : String) : ℕ :=
  service.keyVersion.length + 23 + 4 * ((plaintext.utf8ByteSize + 18) / 3)

variable (nonce : Nonce) (plaintext : String) (associatedData : Option (List Byte))

/-- With the usable key, encryption does not fail. -/
lemma encryptStr_eq : service.encryptStr nonce plaintext associatedData =
    .ok (service.envelope nonce plaintext associatedData) := by
  unfold encryptStr
  rw [service.current]
  change (keyForVersion service.upper service.secrets service.keyVersion >>= _) = _
  rw [service.usable]
  change (encodeEnvelope service.keyVersion nonce _ >>= _) = _
  rw [encodeEnvelope_eq_ok.2 ⟨service.carried.1, service.carried.2.1, rfl⟩]
  rfl

lemma envelopeText_eq : service.envelopeText nonce plaintext associatedData =
    formatVersion ++ colon :: (service.keyVersion ++ colon :: (b64encode nonce ++ colon ::
      b64encode (service.cipher.sealed service.key nonce (utf8 plaintext) associatedData))) := by
  simp [envelopeText, join]

lemma isValidChar_envelopeText :
    ∀ c ∈ service.envelopeText nonce plaintext associatedData, c.isValidChar := by
  have hascii : ∀ {t : Text}, IsAscii t → ∀ c ∈ t, c.isValidChar := by
    intro t ht c hc
    have hlt := ht c hc
    exact Or.inl (by omega)
  have hcolon : colon.isValidChar := Or.inl (by decide)
  have hformat : IsAscii formatVersion := by decide
  intro c hc
  rw [envelopeText_eq] at hc
  simp only [List.mem_append, List.mem_cons] at hc
  rcases hc with hc | rfl | hc | rfl | hc | rfl | hc
  · exact hascii hformat c hc
  · exact hcolon
  · exact service.carried.2.2 c hc
  · exact hcolon
  · exact hascii (isAscii_b64encode _) c hc
  · exact hcolon
  · exact hascii (isAscii_b64encode _) c hc

lemma text_envelope : text (service.envelope nonce plaintext associatedData) =
    service.envelopeText nonce plaintext associatedData :=
  text_ofText (service.isValidChar_envelopeText nonce plaintext associatedData)

/-- A text is read back as it was. -/
lemma decryptStr_envelope :
    service.decryptStr (service.envelope nonce plaintext associatedData) associatedData =
      .ok plaintext := by
  have hne : service.cipher.sealed service.key nonce (utf8 plaintext) associatedData ≠ [] := by
    rw [← List.length_pos_iff, service.cipher.length_sealed]
    omega
  unfold decryptStr
  rw [text_envelope, envelopeText, decodeEnvelope_join service.carried.1 service.carried.2.1 nonce.2
    hne]
  change (keyForVersion service.upper service.secrets service.keyVersion >>= _) = _
  rw [service.usable]
  dsimp only [bind, Except.bind]
  rw [service.cipher.opened_sealed]
  dsimp only
  rw [ofUtf8_utf8]

lemma length_envelope : (service.envelope nonce plaintext associatedData).length =
    service.envelopeLength plaintext := by
  have hformat : formatVersion.length = 4 := rfl
  unfold envelope ofText envelopeLength
  rw [String.length_ofList, List.length_map, envelopeText_eq]
  simp only [List.length_append, List.length_cons, length_b64encode, nonce.2, hformat,
    service.cipher.length_sealed, length_utf8]
  omega

end EncryptionService

end SaasOs.Crypto
