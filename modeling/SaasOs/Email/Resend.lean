import SaasOs.Email.Headers
import SaasOs.Inference.Adapters

/-!
# The Resend adapter

A message becomes a request with a key and a JSON body, both functions of the message alone, and the
answer is classified by its status.  What the answer holds is untrusted.  Three things escape the
classification (`Escapes`): a message that UTF-8 cannot encode, a body that is nested too deep for
`json.loads`, and a `Retry-After` of digits that `int` or `float` refuses.
-/

namespace SaasOs.Email

open PyJson (Text Py text)
open Inference (Body hasSurrogate)

/-! ## The request -/

/-- How JSON writes a character. -/
def escapeText (c : ℕ) : Text :=
  if c = 34 then [92, 34]
  else if c = 92 then [92, 92]
  else if c = 10 then text "\\n"
  else if c = 13 then text "\\r"
  else if c = 9 then text "\\t"
  else if c = 8 then text "\\b"
  else if c = 12 then text "\\f"
  else if c < 32 then (Json.escapeUnit c).map Char.toNat
  else [c]

def quoteText (t : Text) : Text := 34 :: (t.flatMap escapeText ++ [34])

def writeItems (opening closing : ℕ) (items : List Text) : Text :=
  opening :: ([44].intercalate items ++ [closing])

def writeArray (texts : List Text) : Text := writeItems 91 93 (texts.map quoteText)

def writeObject (entries : List (String × Text)) : Text :=
  writeItems 123 125 ((entries.insertionSort fun a b => ¬ b.1 < a.1).map fun entry =>
    quoteText (text entry.1) ++ 58 :: entry.2)

def codePoints (value : List Char) : Text := value.map Char.toNat

def payload (message : EmailMessage Text) : List (String × Text) :=
  [("from", quoteText message.sender), ("to", writeArray message.recipients),
    ("subject", quoteText message.subject), ("text", quoteText message.textBody)] ++
  message.htmlBody.toList.map (fun html => ("html", quoteText html)) ++
  message.replyTo.toList.map (fun replyTo => ("reply_to", quoteText replyTo)) ++
  if customHeaders codePoints message = [] then []
  else [("headers", writeObject ((customHeaders codePoints message).map fun header =>
    (header.1, quoteText header.2)))]

/-- `str.encode("utf-8")`, `none` where it raises. -/
def encodeUtf8 (t : Text) : Option (List ℕ) :=
  if hasSurrogate t then none
  else some (t.flatMap fun c =>
    if c < 0x80 then [c]
    else if c < 0x800 then [0xC0 + c / 0x40, 0x80 + c % 0x40]
    else if c < 0x10000 then [0xE0 + c / 0x1000, 0x80 + c / 0x40 % 0x40, 0x80 + c % 0x40]
    else [0xF0 + c / 0x40000, 0x80 + c / 0x1000 % 0x40, 0x80 + c / 0x40 % 0x40, 0x80 + c % 0x40])

/-- `request_body`, `none` where the encoding raises. -/
def requestBody (message : EmailMessage Text) : Option (List ℕ) :=
  encodeUtf8 (writeObject (payload message))

/-- `message.idempotency_key or message.message_id`. -/
def identity (message : EmailMessage Text) : Option Text :=
  match message.idempotencyKey with
  | some (c :: key) => some (c :: key)
  | _ => message.messageId

/-- A request, as far as it depends on the message. -/
structure ResendRequest where
  idempotencyKey : Option Text
  body : List ℕ

/-- `_request`, `none` where an encoding raises; `sha256` is the digest in hexadecimal. -/
def resendRequest (sha256 : List ℕ → Text) (message : EmailMessage Text) : Option ResendRequest :=
  match identity message with
  | none => (requestBody message).map fun body => ⟨none, body⟩
  | some identity =>
    match encodeUtf8 identity with
    | none => none
    | some encoded =>
      (requestBody message).map fun body => ⟨some (text "saas-os-email-" ++ sha256 encoded), body⟩

/-! ## The answer -/

/-- A response; `retryAfter` is its header of this name. -/
structure ResendResponse where
  statusCode : ℕ
  retryAfter : Option Text
  body : List ℕ

/-- The response, or the failure that the egress client reports. -/
inductive Answer
  | response (response : ResendResponse)
  | failure (reason phase : String) (requestMayHaveBeenSent : Bool)

/-- Exceptions that are no `EmailProviderError`. -/
inductive Fault
  | invalidHeader (refusal : String)
  | unicodeEncodeError
  | recursionError
  | valueError
  | overflowError
  deriving DecidableEq

/-- `retry_after_seconds`. -/
inductive RetryAfter
  | endless
  | seconds (n : ℚ)
  deriving DecidableEq

/-- How `send` ends; a retry window is told by whether there is one. -/
inductive SendEnd
  | accepted (providerId : Text)
  | notSent (reason : String)
  | unknown (reason phase : String) (retryWithin : Bool) (replyCode : Option ℕ)
  | failed (reason : String) (permanent : Bool) (replyCode : Option ℕ)
      (retryAfter : Option RetryAfter)
  | raised (fault : Fault)
  deriving DecidableEq

/-- What `parsedate_to_datetime` makes of a text: an exception that is handled, a time without zone, or
the seconds until then. -/
inductive DateRead
  | refused
  | naive
  | aware (seconds : ℚ)

/-- What the standard library makes of untrusted texts. -/
structure Readers where
  loads : List ℕ → Body
  isDigit : ℕ → Bool
  decimal : ℕ → Option ℕ
  parseDate : Text → DateRead

/-- `str.strip()`. -/
def stripText (t : Text) : Text :=
  let isSpace := fun c : ℕ => PyString.isSpace (Char.ofNat c)
  ((t.dropWhile isSpace).reverse.dropWhile isSpace).reverse

/-- `int` of a text, `none` where it raises. -/
def readInt (readers : Readers) (t : Text) : Option ℕ :=
  if t.all (fun c => (readers.decimal c).isSome) ∧ t.length ≤ 4300 then
    some (t.foldl (fun n c => 10 * n + (readers.decimal c).getD 0) 0)
  else none

/-- The least integer that `float` refuses. -/
def floatOverflow : ℕ := 2 ^ 1024 - 2 ^ 970

def quotaErrorNames : List String := ["daily_quota_exceeded", "monthly_quota_exceeded"]

def permanentStatuses : List ℕ := [400, 422]

def knownErrorNames : List String :=
  ["application_error", "concurrent_idempotent_requests", "daily_quota_exceeded",
    "email_above_quota", "invalid_attachment", "invalid_idempotency_key",
    "invalid_idempotent_request", "invalid_parameter", "invalid_permission", "method_not_allowed",
    "missing_api_key", "missing_required_field", "missing_required_parameter",
    "monthly_quota_exceeded", "not_found", "rate_limit_exceeded", "resource_locked",
    "restricted_api_key", "service_unavailable", "suspended_api_key", "validation_error"]

def retryAfterSeconds (readers : Readers) (status : ℕ) (reason : String) (header : Option Text) :
    Except Fault (Option RetryAfter) :=
  if status ≠ 429 then .ok none
  else if quotaErrorNames.contains reason then .ok (some .endless)
  else
    match header with
    | none => .ok none
    | some raw =>
      if stripText raw ≠ [] ∧ (stripText raw).all readers.isDigit then
        match readInt readers (stripText raw) with
        | none => .error .valueError
        | some n => if floatOverflow ≤ n then .error .overflowError else .ok (some (.seconds n))
      else
        match readers.parseDate (stripText raw) with
        | .aware seconds => .ok (some (.seconds (max seconds 0)))
        | _ => .ok none

def bodyEntry (readers : Readers) (body : List ℕ) (key : String) : Except Fault (Option Py) :=
  match readers.loads body with
  | .tooDeep => .error .recursionError
  | .value (.dict entries) => .ok (Inference.get entries key)
  | _ => .ok none

def errorReason (readers : Readers) (body : List ℕ) : Except Fault String :=
  (bodyEntry readers body "name").map fun
    | some (.leaf (.str name)) =>
      (knownErrorNames.find? fun known => text known = name).getD "http_error"
    | _ => "http_error"

def IsProviderId (id : Text) : Prop :=
  0 < id.length ∧ id.length ≤ 256 ∧ ∀ c ∈ id, 0x21 ≤ c ∧ c ≤ 0x7e

instance : DecidablePred IsProviderId := fun id =>
  inferInstanceAs (Decidable (0 < id.length ∧ id.length ≤ 256 ∧ ∀ c ∈ id, 0x21 ≤ c ∧ c ≤ 0x7e))

def providerId (readers : Readers) (body : List ℕ) : Except Fault (Option Text) :=
  (bodyEntry readers body "id").map fun
    | some (.leaf (.str id)) => if IsProviderId id then some id else none
    | _ => none

def classifyError (readers : Readers) (keyed : Bool) (response : ResendResponse) (reason : String) :
    SendEnd :=
  let status := response.statusCode
  if status = 409 ∧ reason = "invalid_idempotent_request" then
    .failed "idempotency_payload_mismatch" true (some status) none
  else if 500 ≤ status ∧ status < 600 then .unknown reason "response" keyed (some status)
  else
    match retryAfterSeconds readers status reason response.retryAfter with
    | .error fault => .raised fault
    | .ok hint => .failed reason (permanentStatuses.contains status) (some status) hint

/-- What `send` makes of the answer. -/
def classify (readers : Readers) (keyed : Bool) : Answer → SendEnd
  | .failure reason phase requestMayHaveBeenSent =>
    if requestMayHaveBeenSent then .unknown reason phase keyed none else .notSent reason
  | .response response =>
    if 200 ≤ response.statusCode ∧ response.statusCode < 300 then
      match providerId readers response.body with
      | .error fault => .raised fault
      | .ok none => .unknown "malformed_response" "response" keyed (some response.statusCode)
      | .ok (some id) => .accepted id
    else
      match errorReason readers response.body with
      | .error fault => .raised fault
      | .ok reason => classifyError readers keyed response reason

def maxRecipients : ℕ := 50

/-- `ResendEmailProvider.send`: the request, if it is submitted, and how it ends. -/
def resendSend (readers : Readers) (sha256 : List ℕ → Text) (message : EmailMessage Text)
    (answer : Answer) : Option ResendRequest × SendEnd :=
  match refuseUnsafeHeaderValues message with
  | some refusal => (none, .raised (.invalidHeader refusal))
  | none =>
    if maxRecipients < message.recipients.length then
      (none, .failed "too_many_recipients" true none none)
    else
      match resendRequest sha256 message with
      | none => (none, .raised .unicodeEncodeError)
      | some request => (some request, classify readers (identity message).isSome answer)

/-! ## What is promised, and what escapes -/

def texts (message : EmailMessage Text) : List Text :=
  [message.sender, message.subject, message.textBody] ++ message.recipients ++
    message.htmlBody.toList ++ message.replyTo.toList ++ message.messageId.toList ++
      message.idempotencyKey.toList

/-- A `Retry-After` of digits that `int` or `float` refuses. -/
def DigitsRefused (readers : Readers) (header : Option Text) : Prop :=
  ∃ raw ∈ header, stripText raw ≠ [] ∧ (stripText raw).all readers.isDigit = true ∧
    ∀ n, readInt readers (stripText raw) = some n → floatOverflow ≤ n

def ResponseEscapes (readers : Readers) (response : ResendResponse) : Prop :=
  readers.loads response.body = .tooDeep ∨
    response.statusCode = 429 ∧ DigitsRefused readers response.retryAfter ∧
      ∀ reason, errorReason readers response.body = .ok reason → reason ∉ quotaErrorNames

/-- The message or the answer makes `send` raise what is no `EmailProviderError`. -/
def Escapes (readers : Readers) (message : EmailMessage Text) (answer : Answer) : Prop :=
  message.recipients.length ≤ maxRecipients ∧
    ((∃ t ∈ texts message, hasSurrogate t = true) ∨
      ∃ response, answer = .response response ∧ ResponseEscapes readers response)

def IsAmbiguous (readers : Readers) : Answer → Prop
  | .failure _ _ requestMayHaveBeenSent => requestMayHaveBeenSent = true
  | .response response =>
    (200 ≤ response.statusCode ∧ response.statusCode < 300 ∧
      ∀ id, providerId readers response.body ≠ .ok (some id)) ∨
    500 ≤ response.statusCode ∧ response.statusCode < 600

/-- How the answer to a request is to be classified. -/
structure Classified (readers : Readers) (answer : Answer)
    (sent : Option ResendRequest × SendEnd) : Prop where
  handled : ∀ fault, sent.2 ≠ .raised fault
  accepted : ∀ id, sent.2 = .accepted id → IsProviderId id ∧ ∃ response,
    answer = .response response ∧ 200 ≤ response.statusCode ∧ response.statusCode < 300 ∧
      providerId readers response.body = .ok (some id)
  notSent : ∀ reason, sent.2 = .notSent reason → ∃ phase, answer = .failure reason phase false
  unknown : ∀ request, sent.1 = some request → IsAmbiguous readers answer →
    ∃ reason phase replyCode,
      sent.2 = .unknown reason phase request.idempotencyKey.isSome replyCode

variable {readers : Readers} {sha256 : List ℕ → Text} {message : EmailMessage Text}
  {answer : Answer} {response : ResendResponse} {keyed : Bool} {c : ℕ} {t : Text}

/-! ## What cannot be encoded -/

def IsSurrogate (c : ℕ) : Prop := 0xD800 ≤ c ∧ c < 0xE000

lemma hasSurrogate_iff : hasSurrogate t = true ↔ ∃ c ∈ t, IsSurrogate c := by
  unfold hasSurrogate IsSurrogate
  simp [List.any_eq_true]

section

variable (hc : IsSurrogate c)

include hc

lemma surrogate_notMem_codePoints (value : List Char) :
    c ∉ codePoints value := by
  intro hmem
  obtain ⟨d, -, rfl⟩ := List.mem_map.mp hmem
  have hvalid := d.valid
  unfold IsSurrogate at hc
  unfold UInt32.isValidChar Nat.isValidChar at hvalid
  have htoNat : d.toNat = d.val.toNat := rfl
  omega

lemma mem_escapeText (d : ℕ) : c ∈ escapeText d ↔ c = d := by
  have htext : ∀ s : String, c ∉ text s := fun s => surrogate_notMem_codePoints hc s.toList
  have hunit : ∀ n, c ∉ (Json.escapeUnit n).map Char.toNat := fun n =>
    surrogate_notMem_codePoints hc _
  unfold IsSurrogate at hc
  unfold escapeText
  split_ifs <;> simp only [htext, hunit, List.mem_cons, List.not_mem_nil, false_iff, or_false] <;> omega

lemma mem_quoteText : c ∈ quoteText t ↔ c ∈ t := by
  unfold quoteText
  rw [List.mem_cons, List.mem_append, List.mem_singleton, List.mem_flatMap]
  unfold IsSurrogate at hc
  constructor
  · rintro (rfl | ⟨d, hd, hmem⟩ | rfl)
    · omega
    · rw [(mem_escapeText hc d).mp hmem]
      exact hd
    · omega
  · exact fun hmem => .inr (.inl ⟨c, hmem, (mem_escapeText hc c).mpr rfl⟩)

lemma mem_intercalate_comma (items : List Text) :
    c ∈ [44].intercalate items ↔ ∃ item ∈ items, c ∈ item := by
  unfold IsSurrogate at hc
  induction items with
  | nil => simp
  | cons item items ih =>
    cases items with
    | nil => simp
    | cons next items =>
      rw [List.intercalate_cons_cons, List.mem_append, List.mem_append, ih, List.mem_singleton]
      have hcomma : c ≠ 44 := by omega
      simp [hcomma]

lemma mem_writeItems {opening closing : ℕ} (hopening : opening < 0xD800)
    (hclosing : closing < 0xD800) (items : List Text) :
    c ∈ writeItems opening closing items ↔ ∃ item ∈ items, c ∈ item := by
  unfold writeItems
  rw [List.mem_cons, List.mem_append, mem_intercalate_comma hc, List.mem_singleton]
  unfold IsSurrogate at hc
  have hne : c ≠ opening ∧ c ≠ closing := by omega
  simp [hne.1, hne.2]

lemma mem_writeArray (items : List Text) :
    c ∈ writeArray items ↔ ∃ item ∈ items, c ∈ item := by
  unfold writeArray
  rw [mem_writeItems hc (by norm_num) (by norm_num)]
  simp only [List.mem_map, exists_exists_and_eq_and, mem_quoteText hc]

lemma mem_writeObject (entries : List (String × Text)) :
    c ∈ writeObject entries ↔ ∃ entry ∈ entries, c ∈ entry.2 := by
  have hkey : ∀ key : String, c ∉ quoteText (text key) := fun key hmem =>
    surrogate_notMem_codePoints hc key.toList ((mem_quoteText hc).mp hmem)
  have hcolon : c ≠ 58 := by
    unfold IsSurrogate at hc
    omega
  unfold writeObject
  rw [mem_writeItems hc (by norm_num) (by norm_num)]
  simp only [List.mem_map, exists_exists_and_eq_and, List.mem_append, List.mem_cons, hkey, hcolon,
    false_or, List.mem_insertionSort]

lemma mem_payload :
    c ∈ writeObject (payload message) ↔ ∃ t ∈ [message.sender, message.subject, message.textBody] ++
      message.recipients ++ message.htmlBody.toList ++ message.replyTo.toList ++
        message.messageId.toList, c ∈ t := by
  have hheaders : (∃ entry ∈ if customHeaders codePoints message = [] then [] else
      [("headers", writeObject ((customHeaders codePoints message).map fun header =>
        (header.1, quoteText header.2)))], c ∈ entry.2) ↔ ∃ t ∈ message.messageId.toList, c ∈ t := by
    have hcustom : (∃ entry ∈ customHeaders codePoints message, c ∈ entry.2) ↔
        ∃ t ∈ message.messageId.toList, c ∈ t := by
      unfold customHeaders
      simp only [List.mem_append, List.mem_map, or_and_right, exists_or, Prod.exists,
        Prod.mk.injEq]
      constructor
      · rintro (⟨name, value, ⟨header, chars, -, -, rfl⟩, hmem⟩ |
          ⟨name, value, ⟨id, hid, rfl, rfl⟩, hmem⟩)
        · exact absurd hmem (surrogate_notMem_codePoints hc _)
        · exact ⟨_, hid, hmem⟩
      · rintro ⟨id, hid, hmem⟩
        exact .inr ⟨_, id, ⟨id, hid, rfl, rfl⟩, hmem⟩
    split_ifs with hnil
    · rw [hnil] at hcustom
      simpa using hcustom
    · rw [← hcustom]
      simp only [List.mem_singleton, exists_eq_left, mem_writeObject hc, List.mem_map,
        exists_exists_and_eq_and, mem_quoteText hc]
  rw [mem_writeObject hc]
  unfold payload
  simp only [List.mem_append, or_and_right, exists_or, hheaders, List.mem_cons, List.not_mem_nil,
    List.mem_map, exists_eq_left, mem_quoteText hc, mem_writeArray hc, exists_exists_and_eq_and,
    or_false]
  constructor
  · rintro ((((h | h | h | h) | h) | h) | h)
    · exact .inl (.inl (.inl (.inl (.inl h))))
    · exact .inl (.inl (.inl (.inr h)))
    · exact .inl (.inl (.inl (.inl (.inr (.inl h)))))
    · exact .inl (.inl (.inl (.inl (.inr (.inr h)))))
    · exact .inl (.inl (.inr h))
    · exact .inl (.inr h)
    · exact .inr h
  · rintro (((((h | h | h) | h) | h) | h) | h)
    · exact .inl (.inl (.inl (.inl h)))
    · exact .inl (.inl (.inl (.inr (.inr (.inl h)))))
    · exact .inl (.inl (.inl (.inr (.inr (.inr h)))))
    · exact .inl (.inl (.inl (.inr (.inl h))))
    · exact .inl (.inl (.inr h))
    · exact .inl (.inr h)
    · exact .inr h

end

lemma encodeUtf8_eq_none_iff : encodeUtf8 t = none ↔ hasSurrogate t = true := by
  unfold encodeUtf8
  split_ifs with h <;> simp [h]

lemma requestBody_eq_none_iff :
    requestBody message = none ↔ ∃ t ∈ [message.sender, message.subject, message.textBody] ++
      message.recipients ++ message.htmlBody.toList ++ message.replyTo.toList ++
        message.messageId.toList, hasSurrogate t = true := by
  unfold requestBody
  rw [encodeUtf8_eq_none_iff, hasSurrogate_iff]
  constructor
  · rintro ⟨c, hmem, hc⟩
    obtain ⟨t, ht, hct⟩ := (mem_payload hc).mp hmem
    exact ⟨t, ht, hasSurrogate_iff.mpr ⟨c, hct, hc⟩⟩
  · rintro ⟨t, ht, hsurrogate⟩
    obtain ⟨c, hct, hc⟩ := hasSurrogate_iff.mp hsurrogate
    exact ⟨c, (mem_payload hc).mpr ⟨t, ht, hct⟩, hc⟩

lemma resendRequest_eq_none_iff :
    resendRequest sha256 message = none ↔ ∃ t ∈ texts message, hasSurrogate t = true := by
  have htexts : (∃ t ∈ texts message, hasSurrogate t = true) ↔
      requestBody message = none ∨ ∃ key ∈ message.idempotencyKey, hasSurrogate key = true := by
    rw [requestBody_eq_none_iff]
    unfold texts
    simp only [List.mem_append (t := message.idempotencyKey.toList), or_and_right, exists_or,
      Option.mem_toList]
    rfl
  have hrequest : resendRequest sha256 message = none ↔
      requestBody message = none ∨ ∃ id ∈ identity message, hasSurrogate id = true := by
    unfold resendRequest
    cases hidentity : identity message with
    | none => simp
    | some id =>
      dsimp only
      cases hencode : encodeUtf8 id with
      | none => simp [encodeUtf8_eq_none_iff.mp hencode]
      | some encoded =>
        have hnot : ¬ hasSurrogate id = true := fun h => by
          rw [encodeUtf8_eq_none_iff.mpr h] at hencode
          cases hencode
        simp [hnot]
  rw [htexts, hrequest]
  have hmessageId : (∃ id ∈ message.messageId, hasSurrogate id = true) → requestBody message = none := by
    rintro ⟨id, hid, hsurrogate⟩
    refine requestBody_eq_none_iff.mpr ⟨id, ?_, hsurrogate⟩
    exact List.mem_append_right _ (Option.mem_toList.mpr hid)
  unfold identity
  cases hkey : message.idempotencyKey with
  | none =>
    simp only [Option.not_mem_none, false_and, exists_false, or_false]
    exact or_iff_left_of_imp hmessageId
  | some key =>
    cases key with
    | nil =>
      have hempty : hasSurrogate [] = false := rfl
      simp only [Option.mem_some_iff, exists_eq_left', hempty, Bool.false_eq_true, or_false]
      exact or_iff_left_of_imp hmessageId
    | cons c key => rfl

lemma isSome_idempotencyKey {request : ResendRequest}
    (h : resendRequest sha256 message = some request) :
    request.idempotencyKey.isSome = (identity message).isSome := by
  unfold resendRequest at h
  cases hidentity : identity message with
  | none =>
    rw [hidentity] at h
    obtain ⟨body, -, rfl⟩ := Option.map_eq_some_iff.mp h
    rfl
  | some id =>
    rw [hidentity] at h
    dsimp only at h
    cases hencode : encodeUtf8 id with
    | none =>
      rw [hencode] at h
      cases h
    | some encoded =>
      rw [hencode] at h
      obtain ⟨body, -, rfl⟩ := Option.map_eq_some_iff.mp h
      rfl

/-! ## What is classified -/

lemma bodyEntry_eq_error_iff {key : String} {fault : Fault} {body : List ℕ} :
    bodyEntry readers body key = .error fault ↔
      readers.loads body = .tooDeep ∧ fault = .recursionError := by
  unfold bodyEntry
  split
  next h => simp [h, eq_comm]
  next h => simp [h]
  next hdeep _ => exact ⟨fun h => (by cases h), fun h => absurd h.1 hdeep⟩

variable {fault : Fault} {body : List ℕ}

lemma errorReason_eq_error_iff :
    errorReason readers body = .error fault ↔
      readers.loads body = .tooDeep ∧ fault = .recursionError := by
  unfold errorReason
  rw [← @bodyEntry_eq_error_iff readers "name" fault body]
  cases bodyEntry readers body "name" <;> simp [Except.map]

lemma providerId_eq_error_iff :
    providerId readers body = .error fault ↔
      readers.loads body = .tooDeep ∧ fault = .recursionError := by
  unfold providerId
  rw [← @bodyEntry_eq_error_iff readers "id" fault body]
  cases bodyEntry readers body "id" <;> simp [Except.map]

variable {id : Text}

lemma isProviderId_of_providerId (h : providerId readers body = .ok (some id)) :
    IsProviderId id := by
  unfold providerId at h
  cases hentry : bodyEntry readers body "id" with
  | error fault =>
    rw [hentry] at h
    cases h
  | ok value =>
    rw [hentry] at h
    unfold Except.map at h
    dsimp only at h
    split at h
    next id' =>
      split_ifs at h with hid
      · cases h
        exact hid
      · cases h
    next => cases h

lemma retryAfterSeconds_eq_error_iff {reason : String} {status : ℕ} {header : Option Text} :
    (∃ fault, retryAfterSeconds readers status reason header = .error fault) ↔
      status = 429 ∧ reason ∉ quotaErrorNames ∧ DigitsRefused readers header := by
  unfold retryAfterSeconds
  by_cases hstatus : status = 429
  · rw [if_neg (not_not.mpr hstatus)]
    by_cases hquota : quotaErrorNames.contains reason = true
    · have hmem := List.contains_iff_mem.mp hquota
      simp [hmem]
    · have hnot : reason ∉ quotaErrorNames := fun h => hquota (List.contains_iff_mem.mpr h)
      rw [if_neg hquota]
      cases header with
      | none => simp [DigitsRefused]
      | some raw =>
        dsimp only
        have hrefused : DigitsRefused readers (some raw) ↔
            (stripText raw ≠ [] ∧ (stripText raw).all readers.isDigit = true) ∧
              ∀ n, readInt readers (stripText raw) = some n → floatOverflow ≤ n := by
          unfold DigitsRefused
          simp only [Option.mem_some_iff, exists_eq_left', and_assoc]
        rw [hrefused]
        by_cases hdigits : stripText raw ≠ [] ∧ (stripText raw).all readers.isDigit = true
        · rw [if_pos hdigits]
          cases hread : readInt readers (stripText raw) with
          | none => simp [hstatus, hnot, hdigits]
          | some n =>
            dsimp only
            split_ifs with hoverflow
            · simp only [Except.error.injEq, exists_eq', true_iff]
              exact ⟨hstatus, hnot, hdigits, fun m hm => by cases hm; exact hoverflow⟩
            · simp only [exists_false, false_iff]
              exact fun h => hoverflow (h.2.2.2 n rfl)
        · rw [if_neg hdigits]
          constructor
          · rintro ⟨fault, h⟩
            split at h <;> cases h
          · exact fun h => absurd h.2.2.1 hdigits
  · rw [if_pos hstatus]
    simp [hstatus]

lemma classify_raised_iff :
    (∃ fault, classify readers keyed answer = .raised fault) ↔
      ∃ response, answer = .response response ∧ ResponseEscapes readers response := by
  cases answer with
  | failure reason phase sent =>
    unfold classify
    cases sent <;> simp
  | response response =>
    simp only [Answer.response.injEq, exists_eq_left']
    unfold classify ResponseEscapes
    by_cases hstatus : 200 ≤ response.statusCode ∧ response.statusCode < 300
    · have hnot : response.statusCode ≠ 429 := by omega
      simp only [hstatus, and_self, if_true, hnot, false_and, or_false]
      cases hid : providerId readers response.body with
      | error fault => simp [(providerId_eq_error_iff.mp hid).1]
      | ok id =>
        have hread : readers.loads response.body ≠ .tooDeep := fun h => by
          rw [providerId_eq_error_iff.mpr ⟨h, rfl⟩] at hid
          cases hid
        cases id <;> simp [hread]
    · dsimp only
      rw [if_neg hstatus]
      cases hreason : errorReason readers response.body with
      | error fault => simp [(errorReason_eq_error_iff.mp hreason).1]
      | ok reason =>
        have hread : readers.loads response.body ≠ .tooDeep := fun h => by
          rw [errorReason_eq_error_iff.mpr ⟨h, rfl⟩] at hreason
          cases hreason
        have hhint := @retryAfterSeconds_eq_error_iff readers reason response.statusCode
          response.retryAfter
        simp only [hread, false_or, Except.ok.injEq, forall_eq']
        rw [and_comm (b := reason ∉ quotaErrorNames), ← hhint]
        unfold classifyError
        dsimp only
        by_cases hmismatch : response.statusCode = 409 ∧ reason = "invalid_idempotent_request"
        · rw [if_pos hmismatch, retryAfterSeconds.eq_def, if_pos (by omega)]
          simp
        · rw [if_neg hmismatch]
          by_cases hserver : 500 ≤ response.statusCode ∧ response.statusCode < 600
          · rw [if_pos hserver, retryAfterSeconds.eq_def, if_pos (by omega)]
            simp
          · rw [if_neg hserver]
            cases retryAfterSeconds readers response.statusCode reason response.retryAfter <;> simp

lemma classify_accepted (h : classify readers keyed answer = .accepted id) :
    IsProviderId id ∧ ∃ response, answer = .response response ∧ 200 ≤ response.statusCode ∧
      response.statusCode < 300 ∧ providerId readers response.body = .ok (some id) := by
  cases answer with
  | failure reason phase sent =>
    unfold classify at h
    cases sent <;> cases h
  | response response =>
    unfold classify at h
    dsimp only at h
    split_ifs at h with hstatus
    · cases hid : providerId readers response.body with
      | error fault =>
        rw [hid] at h
        cases h
      | ok found =>
        rw [hid] at h
        cases found with
        | none => cases h
        | some id' =>
          cases h
          exact ⟨isProviderId_of_providerId hid, response, rfl, hstatus.1, hstatus.2, hid⟩
    · cases hreason : errorReason readers response.body with
      | error fault =>
        rw [hreason] at h
        cases h
      | ok reason =>
        rw [hreason] at h
        dsimp only at h
        unfold classifyError at h
        dsimp only at h
        split_ifs at h
        split at h <;> cases h

lemma classify_notSent {reason : String} (h : classify readers keyed answer = .notSent reason) :
    ∃ phase, answer = .failure reason phase false := by
  cases answer with
  | failure reason' phase sent =>
    unfold classify at h
    cases sent with
    | true => cases h
    | false =>
      cases h
      exact ⟨phase, rfl⟩
  | response response =>
    unfold classify at h
    dsimp only at h
    split_ifs at h with hstatus
    · split at h <;> cases h
    · split at h
      · cases h
      · unfold classifyError at h
        dsimp only at h
        split_ifs at h
        split at h <;> cases h

lemma classify_unknown (hambiguous : IsAmbiguous readers answer)
    (h : ∀ fault, classify readers keyed answer ≠ .raised fault) :
    ∃ reason phase replyCode, classify readers keyed answer = .unknown reason phase keyed replyCode := by
  cases answer with
  | failure reason phase sent =>
    cases sent with
    | true => exact ⟨reason, phase, none, rfl⟩
    | false => cases hambiguous
  | response response =>
    unfold IsAmbiguous at hambiguous
    unfold classify at h ⊢
    dsimp only at h ⊢
    by_cases hstatus : 200 ≤ response.statusCode ∧ response.statusCode < 300
    · rw [if_pos hstatus] at h ⊢
      have hnone := (hambiguous.resolve_right (by omega)).2.2
      cases hid : providerId readers response.body with
      | error fault =>
        rw [hid] at h
        exact absurd rfl (h fault)
      | ok found =>
        cases found with
        | none => exact ⟨_, _, _, rfl⟩
        | some id => exact absurd hid (hnone id)
    · rw [if_neg hstatus] at h ⊢
      have hserver := hambiguous.resolve_left fun h' => hstatus ⟨h'.1, h'.2.1⟩
      cases hreason : errorReason readers response.body with
      | error fault =>
        rw [hreason] at h
        exact absurd rfl (h fault)
      | ok reason =>
        unfold classifyError
        dsimp only
        rw [if_neg (by omega), if_pos hserver]
        exact ⟨_, _, _, rfl⟩

lemma classified_iff (h : refuseUnsafeHeaderValues message = none) :
    Classified readers answer (resendSend readers sha256 message answer) ↔
      ¬ Escapes readers message answer := by
  unfold resendSend Escapes
  rw [h]
  dsimp only
  by_cases hmany : maxRecipients < message.recipients.length
  · rw [if_pos hmany]
    refine iff_of_true ⟨?_, ?_, ?_, ?_⟩ fun hescapes => absurd hescapes.1 (not_le.mpr hmany)
    all_goals simp
  · rw [if_neg hmany]
    simp only [not_lt.mp hmany, true_and]
    cases hrequest : resendRequest sha256 message with
    | none =>
      have hsurrogate := resendRequest_eq_none_iff.mp hrequest
      refine iff_of_false (fun hclassified => ?_) (fun hnot => hnot (.inl hsurrogate))
      exact hclassified.handled .unicodeEncodeError rfl
    | some request =>
      have hencodes : ¬ ∃ t ∈ texts message, hasSurrogate t = true := fun hsurrogate => by
        rw [resendRequest_eq_none_iff.mpr hsurrogate] at hrequest
        cases hrequest
      simp only [hencodes, false_or]
      rw [← @classify_raised_iff readers answer (identity message).isSome]
      constructor
      · rintro hclassified ⟨fault, hfault⟩
        exact hclassified.handled fault hfault
      · intro hnot
        have hhandled : ∀ fault, classify readers (identity message).isSome answer ≠
            .raised fault := fun fault hfault => hnot ⟨fault, hfault⟩
        refine ⟨hhandled, fun id hid => classify_accepted hid, fun reason hreason =>
          classify_notSent hreason, fun sent hsent hambiguous => ?_⟩
        cases hsent
        rw [isSome_idempotencyKey hrequest]
        exact classify_unknown hambiguous hhandled

/-- A message whose headers were accepted is classified exactly if nothing escapes, and each attempt
sends the same request. -/
theorem resendSend_classified_iff (validateAddress : List Char → Bool) (readers : Readers)
    (sha256 : List ℕ → Text) (message : EmailMessage Text)
    (h : validateListHeaders validateAddress message = none) :
    (∀ answer, Classified readers answer (resendSend readers sha256 message answer) ↔
      ¬ Escapes readers message answer) ∧
    ∀ answer answer', (resendSend readers sha256 message answer).1 =
      (resendSend readers sha256 message answer').1 := by
  have hsafe := refuseUnsafeHeaderValues_of_isAccepted (isAccepted_of_validateListHeaders h)
  refine ⟨fun _ => classified_iff hsafe, fun answer answer' => ?_⟩
  unfold resendSend
  rw [hsafe]
  dsimp only
  split_ifs
  · rfl
  · cases resendRequest sha256 message <;> rfl

/-- Superscripts are digits that `int` does not read. -/
def latinReaders : Readers where
  loads body := if body = text "\x7b\x7d" then .value (.dict []) else .invalid
  isDigit c := (48 ≤ c && c ≤ 57) || c == 0xB2 || c == 0xB3 || c == 0xB9
  decimal c := if 48 ≤ c ∧ c ≤ 57 then some (c - 48) else none
  parseDate _ := .refused

def notice : EmailMessage Text where
  sender := text "noreply@example.com"
  recipients := [text "user@example.org"]
  subject := text "Notice"
  textBody := text "Hello."
  htmlBody := none
  replyTo := none
  messageId := none
  idempotencyKey := some (text "notification.1")
  listUnsubscribe := []
  listUnsubscribePost := false
  inReplyTo := []
  references := []

/-- A 429 with a `Retry-After`. -/
def rateLimited (retryAfter : Text) : Answer :=
  .response ⟨429, some retryAfter, text "\x7b\x7d"⟩

theorem resendSend_classified_iff_notice :
    Classified latinReaders (rateLimited (text "30"))
        (resendSend latinReaders (fun _ => text "0") notice (rateLimited (text "30"))) ↔
      ¬ Escapes latinReaders notice (rateLimited (text "30")) :=
  (resendSend_classified_iff (fun _ => true) latinReaders (fun _ => text "0") notice
    (by decide +kernel)).1 _

/-- A `Retry-After` of a superscript, or of too many digits, escapes. -/
theorem resendSend_raises :
    (resendSend latinReaders (fun _ => text "0") notice (rateLimited [0xB2])).2 = .raised .valueError ∧
    (resendSend latinReaders (fun _ => text "0") notice (rateLimited (List.replicate 309 57))).2 =
      .raised .overflowError ∧
    ¬ ∀ answer, Classified latinReaders answer
      (resendSend latinReaders (fun _ => text "0") notice answer) := by
  have hsuperscript : (resendSend latinReaders (fun _ => text "0") notice (rateLimited [0xB2])).2 =
      .raised .valueError := by decide +kernel
  exact ⟨hsuperscript, by decide +kernel, fun h =>
    (h (rateLimited [0xB2])).handled .valueError hsuperscript⟩

end SaasOs.Email
