import SaasOs.Foundation.Json
import SaasOs.Schema.Tables

/-!
# Signed webhook deliveries

A delivery is signed over its timestamp and its payload: the decimal text of the timestamp, a dot
and the payload.  The text of a number has no dot, so the signed bytes tell both, and a signature
that is accepted was made for exactly this timestamp and this payload, if the keyed hash is
injective.
-/

namespace SaasOs.Webhooks

/-! ## The envelope -/

/-- `str` of an integer. -/
def decimal : ℤ → List Char
  | .ofNat n => Nat.toDigits 10 n
  | .negSucc n => '-' :: Nat.toDigits 10 (n + 1)

/-- `encode("ascii")`, of a text of ASCII characters. -/
def asciiBytes (text : List Char) : List UInt8 :=
  text.map fun c => UInt8.ofNat c.toNat

def signedBytes (timestamp : ℤ) (payload : List UInt8) : List UInt8 :=
  asciiBytes (decimal timestamp) ++ asciiBytes ['.'] ++ payload

section Signatures

variable (hexdigest : String → List UInt8 → String)

def computeSignature (secret : String) (bytes : List UInt8) : String :=
  "sha256=" ++ hexdigest secret bytes

def computeSignedEnvelope (secret : String) (payload : List UInt8) (timestamp : ℤ) : String :=
  computeSignature hexdigest secret (signedBytes timestamp payload)

/-- Why `verify_webhook_signature` refuses. -/
inductive VerificationError
  | timestampInvalid
  | signatureInvalid

/-- The seconds that `datetime.fromtimestamp` accepts. -/
def isDatetime (timestamp : ℤ) : Bool :=
  -62135596800 ≤ timestamp && timestamp ≤ 253402300799

def isFresh (tolerance : ℕ) (now : Instant) (timestamp : ℤ) : Bool :=
  !(tolerance * 1000000 < now - timestamp * 1000000 ||
    now - timestamp * 1000000 < -(tolerance * 1000000 : ℤ))

/-- `verify_webhook_signature` at an instant. -/
def verifyWebhookSignature (tolerance : ℕ) (now : Instant) (secret : String) (payload : List UInt8)
    (timestamp : ℤ) (signatureHeader : String) :
    Except VerificationError Unit :=
  if !isDatetime timestamp then .error .timestampInvalid
  else if !isFresh tolerance now timestamp then .error .timestampInvalid
  else if signatureHeader.toList.any (fun c => 128 ≤ c.toNat) ||
      computeSignedEnvelope hexdigest secret payload timestamp ≠ signatureHeader then
    .error .signatureInvalid
  else .ok ()

end Signatures

/-! ## What a signature tells -/

def byteChar (byte : UInt8) : Char :=
  Char.ofNat byte.toNat

lemma byteChar_injective : Function.Injective byteChar := by
  intro b b' h
  have hvalid : ∀ byte : UInt8, (byteChar byte).toNat = byte.toNat := by
    intro byte
    have hlt := byte.toNat_lt
    have hbyte : byte.toNat.isValidChar := .inl (by omega)
    unfold byteChar Char.ofNat
    rw [dif_pos hbyte]
    rfl
  have hnat : b.toNat = b'.toNat := by rw [← hvalid b, ← hvalid b', h]
  exact UInt8.toNat_inj.mp hnat

lemma map_byteChar_asciiBytes {text : List Char} (h : ∀ c ∈ text, c.toNat < 128) :
    (asciiBytes text).map byteChar = text := by
  unfold asciiBytes
  rw [List.map_map]
  refine (List.map_congr_left fun c hc => ?_).trans (List.map_id text)
  have hlt := h c hc
  have hbyte : (UInt8.ofNat c.toNat).toNat = c.toNat := by
    simp only [UInt8.toNat_ofNat']
    omega
  simp only [Function.comp_apply, byteChar, hbyte, Char.ofNat_toNat, id_eq]

variable {c : Char}

lemma toNat_lt_of_isDigit (h : c.isDigit = true) : c.toNat < 128 := by
  have hle : c.toNat ≤ 57 := by
    simp only [Char.isDigit, Bool.and_eq_true, decide_eq_true_eq] at h
    exact h.2
  omega

variable {timestamp : ℤ}

lemma toNat_lt_of_mem_decimal (h : c ∈ decimal timestamp) :
    c.toNat < 128 := by
  have hdigits : ∀ n : ℕ, c ∈ Nat.toDigits 10 n → c.toNat < 128 := fun n hc =>
    toNat_lt_of_isDigit (Nat.isDigit_of_mem_toDigits (by decide) (by decide) hc)
  cases timestamp with
  | ofNat n => exact hdigits n h
  | negSucc n =>
    rcases List.mem_cons.mp h with rfl | hrest
    · decide
    · exact hdigits _ hrest

variable {rest rest' : List Char}

lemma toDigits_ne_sign {n : ℕ} :
    Nat.toDigits 10 n ++ rest ≠ '-' :: rest' := by
  intro h
  cases hdigits : Nat.toDigits 10 n with
  | nil => exact absurd hdigits (Nat.toDigits_ne_nil)
  | cons c digits =>
    have hdigit : c.isDigit = true :=
      Nat.isDigit_of_mem_toDigits (by decide) (by decide)
        (hdigits ▸ List.mem_cons_self)
    rw [hdigits, List.cons_append] at h
    obtain rfl := (List.cons.inj h).1
    revert hdigit
    decide

variable {t t' : ℤ}

lemma decimal_append_inj (h : decimal t ++ '.' :: rest = decimal t' ++ '.' :: rest') :
    t = t' ∧ rest = rest' := by
  have hdot : ∀ text : List Char, Json.NoDigit ('.' :: text) := by
    intro text c hc
    obtain rfl := Option.mem_some_iff.mp hc
    decide
  cases t with
  | ofNat n =>
    cases t' with
    | ofNat m =>
      obtain ⟨rfl, hrest⟩ := Json.toDigits_append_inj (hdot rest) (hdot rest') h
      exact ⟨rfl, (List.cons.inj hrest).2⟩
    | negSucc m => exact absurd h toDigits_ne_sign
  | negSucc n =>
    cases t' with
    | ofNat m => exact absurd h.symm toDigits_ne_sign
    | negSucc m =>
      have htail := (List.cons.inj h).2
      obtain ⟨hnumber, hrest⟩ := Json.toDigits_append_inj (hdot rest) (hdot rest') htail
      obtain rfl := Nat.succ.inj hnumber
      exact ⟨rfl, (List.cons.inj hrest).2⟩

variable {payload payload' : List UInt8}

theorem signedBytes_inj (h : signedBytes t payload = signedBytes t' payload') :
    t = t' ∧ payload = payload' := by
  have htext := congrArg (List.map byteChar) h
  have hread : ∀ (t : ℤ) (payload : List UInt8), (signedBytes t payload).map byteChar =
      decimal t ++ '.' :: payload.map byteChar := by
    intro t payload
    have hdecimal : (asciiBytes (decimal t)).map byteChar = decimal t :=
      map_byteChar_asciiBytes fun c hc => toNat_lt_of_mem_decimal hc
    have hdot : (asciiBytes ['.']).map byteChar = ['.'] := by decide
    simp only [signedBytes, List.map_append, hdecimal, hdot, List.append_assoc,
      List.singleton_append]
  rw [hread, hread] at htext
  obtain ⟨rfl, hpayload⟩ := decimal_append_inj htext
  exact ⟨rfl, byteChar_injective.list_map hpayload⟩

variable {hexdigest : String → List UInt8 → String}

theorem computeSignedEnvelope_inj {secret : String} (hhash : Function.Injective (hexdigest secret))
    (h : computeSignedEnvelope hexdigest secret payload t =
      computeSignedEnvelope hexdigest secret payload' t') : t = t' ∧ payload = payload' := by
  have htext : ("sha256=" ++ hexdigest secret (signedBytes t payload)).toList =
      ("sha256=" ++ hexdigest secret (signedBytes t' payload')).toList := congrArg String.toList h
  rw [String.toList_append, String.toList_append] at htext
  have hdigest := String.toList_injective (List.append_cancel_left htext)
  exact signedBytes_inj (hhash hdigest)

lemma verifyWebhookSignature_ok {tolerance : ℕ} {now : Instant} {secret signatureHeader : String}
    (h : verifyWebhookSignature hexdigest tolerance now secret payload timestamp signatureHeader =
      .ok ()) :
    isFresh tolerance now timestamp = true ∧
      computeSignedEnvelope hexdigest secret payload timestamp = signatureHeader := by
  unfold verifyWebhookSignature at h
  split at h
  · cases h
  split at h
  · cases h
  split at h
  · cases h
  · next hfresh hsignature =>
    simp only [Bool.not_eq_true, Bool.not_eq_false'] at hfresh
    simp only [Bool.or_eq_true, not_or, decide_eq_true_eq, not_not] at hsignature
    exact ⟨hfresh, hsignature.2⟩

end SaasOs.Webhooks
