import SaasOs.Foundation.HeaderFolding
import SaasOs.Foundation.PyUrl

/-!
# List and threading headers of an email

Four fields of a message become headers.  Their values are checked (`validateListHeaders`), put
together (`messageHeaders`) and written on folded lines (`fold`) by the one adapter, and handed on
as they are by the other.  Every value that is accepted is made of printable words that fit on a
line, so folding keeps it, and the fields are read back from the headers.
-/

namespace SaasOs.Email

open HeaderFolding

/-- `EmailMessage`.  The texts that only some adapter reads are of a type `τ`; those of the four
headers are lists of characters, and `recipients` is `to`. -/
structure EmailMessage (τ : Type) where
  sender : τ
  recipients : List τ
  subject : τ
  textBody : τ
  htmlBody : Option τ
  replyTo : Option τ
  messageId : Option τ
  idempotencyKey : Option τ
  listUnsubscribe : List (List Char)
  listUnsubscribePost : Bool
  inReplyTo : List (List Char)
  references : List (List Char)

variable {τ : Type}

/-! ## Validation -/

def maxUriLength : ℕ := 2048

def maxMessageIds : ℕ := 20

def maxUnfoldableToken : ℕ := 997

def hasControlCharacter (value : List Char) : Bool :=
  value.any fun c => c.toNat < 0x20 || c.toNat == 0x7f

/-- A match of `_URI_CHARACTERS`. -/
def isUriCharacters (uri : List Char) : Bool :=
  uri ≠ [] && uri.all fun c => 0x21 ≤ c.toNat && c.toNat ≤ 0x7e

def uriForbidden : List Char := ['<', '>', '"', '\\', ',']

/-- A character of `[A-Za-z0-9.-]`. -/
def isHostCharacter (c : Char) : Bool := c.isAlphanum || c == '.' || c == '-'

/-- A match of `([/?#].*)?`. -/
def isUriRest : List Char → Bool
  | [] => true
  | c :: rest => (c == '/' || c == '?' || c == '#') && rest.all (· ≠ '\n')

/-- The match of `_HTTPS_URI`, with the digits of the port. -/
def httpsMatch (uri : List Char) : Option (Option (List Char)) :=
  if "https://".toList.isPrefixOf uri then
    let host := (uri.drop 8).takeWhile isHostCharacter
    if host.head?.any Char.isAlphanum && host.getLast?.any Char.isAlphanum then
      match (uri.drop 8).dropWhile isHostCharacter with
      | ':' :: behind =>
        let port := behind.takeWhile Char.isDigit
        if 1 ≤ port.length ∧ port.length ≤ 5 ∧ isUriRest (behind.dropWhile Char.isDigit) = true then
          some (some port)
        else none
      | behind => if isUriRest behind then some none else none
    else none
  else none

/-- The scheme of a URI that is accepted. -/
inductive Scheme
  | https
  | mailto
  deriving DecidableEq

/-- `_check_uri`: the scheme, or the refusal. -/
def checkUri (validateAddress : List Char → Bool) (uri : List Char) : Except String Scheme :=
  if uri = [] then .error "List-Unsubscribe URI must not be empty."
  else if hasControlCharacter uri then
    .error "List-Unsubscribe URI contains a forbidden control character."
  else if ¬ isUriCharacters uri then
    .error "List-Unsubscribe URI must be printable ASCII without spaces."
  else if maxUriLength < uri.length then
    .error "List-Unsubscribe URI is longer than 2048 characters."
  else if maxUnfoldableToken < (['<'] ++ uri ++ ['>', ',']).length then
    .error "List-Unsubscribe URI does not fit in one header line (998 characters)."
  else if uriForbidden.any (· ∈ uri) then
    .error "List-Unsubscribe URI contains a character that is not allowed in it."
  else if "mailto:".toList.isPrefixOf uri then
    if '?' ∈ uri.drop 7 ∨ '%' ∈ uri.drop 7 then
      .error "List-Unsubscribe mailto URI must be the plain form mailto:address."
    else if validateAddress (uri.drop 7) then .ok .mailto
    else .error "List-Unsubscribe mailto URI does not hold a valid address."
  else
    match httpsMatch uri with
    | none => .error "List-Unsubscribe URI must be an https:// URI or a mailto: URI."
    | some none => .ok .https
    | some (some port) =>
      if 0 < Nat.ofDigitChars 10 port 0 ∧ Nat.ofDigitChars 10 port 0 ≤ 65535 then .ok .https
      else .error "List-Unsubscribe URI has an invalid port."

/-- `_check_uri` of each URI. -/
def checkUris (validateAddress : List Char → Bool) : List (List Char) → Except String (List Scheme)
  | [] => .ok []
  | uri :: uris =>
    match checkUri validateAddress uri with
    | .error refusal => .error refusal
    | .ok scheme => (checkUris validateAddress uris).map (scheme :: ·)

/-- A character of `_ATEXT`. -/
def isAtext (c : Char) : Bool := c.isAlphanum || c ∈ "!#$%&'*+/=?^_`\x7b|\x7d~-".toList

/-- A match of `_DOT_ATOM`. -/
def isDotAtom (text : List Char) : Bool :=
  text.all (fun c => isAtext c || c == '.') && (text.splitOn '.').all (· ≠ [])

/-- A match of `_NO_FOLD_LITERAL`. -/
def isNoFoldLiteral : List Char → Bool
  | '[' :: rest => rest.getLast? = some ']' &&
    rest.dropLast.all fun c =>
      (0x21 ≤ c.toNat && c.toNat ≤ 0x5a) || (0x5e ≤ c.toNat && c.toNat ≤ 0x7e)
  | _ => false

/-- A match of `_MESSAGE_ID`. -/
def isMessageId : List Char → Bool
  | '<' :: rest => rest.getLast? = some '>' && '@' ∈ rest.dropLast &&
    isDotAtom (PyUrl.before '@' rest.dropLast) &&
      (isDotAtom (PyUrl.behind '@' rest.dropLast) || isNoFoldLiteral (PyUrl.behind '@' rest.dropLast))
  | _ => false

/-- `str.isascii()`. -/
def isAscii (text : List Char) : Bool := text.all fun c => c.toNat < 0x80

/-- What `_check_message_ids` refuses an item for. -/
def checkMessageId (name : String) (item : List Char) : Option String :=
  if hasControlCharacter item then some (name ++ " contains a forbidden control character.")
  else if ¬ isMessageId item ∨ ¬ isAscii item then
    some (name ++ " holds a value that is not a valid <id@host> message id.")
  else if maxUnfoldableToken < item.length then
    some (name ++ " holds a message id that does not fit in one header line.")
  else none

/-- `_check_message_ids`: the refusal, if there is one. -/
def checkMessageIds (name : String) (ids : List (List Char)) : Option String :=
  if maxMessageIds < ids.length then some (name ++ " holds more than 20 message ids.")
  else
    match ids.findSome? (checkMessageId name) with
    | some refusal => some refusal
    | none => if ids.Nodup then none else some (name ++ " holds a duplicate message id.")

/-- What `validate_list_headers` refuses the URIs for. -/
def checkListUnsubscribe (validateAddress : List Char → Bool) (message : EmailMessage τ) :
    Option String :=
  if message.listUnsubscribe ≠ [] then
    if message.recipients.length ≠ 1 then some "list_unsubscribe requires exactly one recipient."
    else
      match checkUris validateAddress message.listUnsubscribe with
      | .error refusal => some refusal
      | .ok schemes =>
        if ¬ schemes.Nodup then some "list_unsubscribe takes at most one https and one mailto URI."
        else if message.listUnsubscribePost ∧ Scheme.https ∉ schemes then
          some "list_unsubscribe_post requires an https List-Unsubscribe URI."
        else none
  else if message.listUnsubscribePost then
    some "list_unsubscribe_post requires an https List-Unsubscribe URI."
  else none

/-- `validate_list_headers`: the refusal, if there is one. -/
def validateListHeaders (validateAddress : List Char → Bool) (message : EmailMessage τ) :
    Option String :=
  match checkListUnsubscribe validateAddress message with
  | some refusal => some refusal
  | none =>
    match checkMessageIds "in_reply_to" message.inReplyTo with
    | some refusal => some refusal
    | none => checkMessageIds "references" message.references

def hasHttps (uris : List (List Char)) : Bool := uris.any ("https://".toList.isPrefixOf ·)

/-- What `refuse_unsafe_header_values` refuses an item of a field for. -/
def refuseUnsafeItem (name : String) (item : List Char) : Option String :=
  if hasControlCharacter item then some (name ++ " contains a forbidden control character.")
  else if ¬ isAscii item then some (name ++ " must be ASCII.")
  else none

/-- `refuse_unsafe_header_values`: the refusal, if there is one. -/
def refuseUnsafeHeaderValues (message : EmailMessage τ) : Option String :=
  match message.listUnsubscribe.findSome? (refuseUnsafeItem "list_unsubscribe") with
  | some refusal => some refusal
  | none =>
    match message.inReplyTo.findSome? (refuseUnsafeItem "in_reply_to") with
    | some refusal => some refusal
    | none =>
      match message.references.findSome? (refuseUnsafeItem "references") with
      | some refusal => some refusal
      | none =>
        if message.listUnsubscribePost && !hasHttps message.listUnsubscribe then
          some "list_unsubscribe_post requires an https List-Unsubscribe URI."
        else none

/-! ## The headers -/

/-- `LIST_UNSUBSCRIBE`. -/
def listUnsubscribeName : String := "List-Unsubscribe"

/-- `LIST_UNSUBSCRIBE_POST`. -/
def listUnsubscribePostName : String := "List-Unsubscribe-Post"

/-- `IN_REPLY_TO`. -/
def inReplyToName : String := "In-Reply-To"

/-- `REFERENCES`. -/
def referencesName : String := "References"

def headerNames : List String :=
  [listUnsubscribeName, listUnsubscribePostName, inReplyToName, referencesName]

def oneClickValue : List Char := "List-Unsubscribe=One-Click".toList

def bracket (uri : List Char) : List Char := '<' :: uri ++ ['>']

def messageHeaders (message : EmailMessage τ) : List (String × List Char) :=
  (if message.listUnsubscribe ≠ [] then
    (listUnsubscribeName, [',', ' '].intercalate (message.listUnsubscribe.map bracket)) ::
      if message.listUnsubscribePost && hasHttps message.listUnsubscribe then
        [(listUnsubscribePostName, oneClickValue)]
      else []
  else []) ++
  (if message.inReplyTo ≠ [] then [(inReplyToName, [' '].intercalate message.inReplyTo)] else []) ++
  if message.references ≠ [] then [(referencesName, [' '].intercalate message.references)] else []

/-! ## The adapters -/

def foldAt : ℕ := 78

def maxLine : ℕ := 998

/-- `name.lower() in _LIST_HEADER_NAMES`. -/
def isListHeader (name : String) : Bool :=
  (headerNames.map fun each => each.toList.map Char.toLower).contains (name.toList.map Char.toLower)

/-- `_ListHeaderPolicy.fold` of a list header. -/
def fold (linesep : Linesep) (name : String) (value : List Char) : List Char :=
  joinLines linesep (foldTokens foldAt (name.toList ++ [':']) maxLine (value.splitOn ' '))

/-- `_ListHeaderPolicy.header_store_parse`, `none` where it raises; `standard` is the policy for the
other headers. -/
def headerStoreParse (standard : String → List Char → Option (List Char))
    (header : String × List Char) : Option (String × List Char) :=
  if isListHeader header.1 then
    if header.2.all fun c => 0x20 ≤ c.toNat && c.toNat ≤ 0x7e then some header else none
  else (standard header.1 header.2).map (header.1, ·)

def storeHeaders (standard : String → List Char → Option (List Char)) :
    List (String × List Char) → Option (List (String × List Char))
  | [] => some []
  | header :: headers =>
    match headerStoreParse standard header with
    | none => none
    | some stored => (storeHeaders standard headers).map (stored :: ·)

/-- The headers of the message that the SMTP adapter writes, `none` where it raises before;
`messageId` is the message's own or a fresh one. -/
def smtpHeaders (standard : String → List Char → Option (List Char))
    (message : EmailMessage (List Char)) (messageId : List Char) : Option (List (String × List Char)) :=
  if (refuseUnsafeHeaderValues message).isSome then none
  else
    storeHeaders standard
      ([("From", message.sender), ("To", [',', ' '].intercalate message.recipients),
        ("Subject", message.subject), ("Message-ID", messageId)] ++
        (message.replyTo.toList.map ("Reply-To", ·)) ++ messageHeaders message)

/-- The custom headers in the body of a request to Resend; `ascii` reads the characters of a header
value. -/
def customHeaders (ascii : List Char → τ) (message : EmailMessage τ) : List (String × τ) :=
  (messageHeaders message).map (fun header => (header.1, ascii header.2)) ++
    message.messageId.toList.map ("Message-ID", ·)

/-! ## Reading the headers -/

def bracketed : Option (List Char) → List Char → List (List Char)
  | _, [] => []
  | none, c :: text => if c = '<' then bracketed (some []) text else bracketed none text
  | some read, c :: text =>
    if c = '>' then read.reverse :: bracketed none text else bracketed (some (c :: read)) text

/-- The values that a reader takes back from the headers. -/
def readHeaders (headers : List (String × List Char)) :
    List (List Char) × Bool × List (List Char) × List (List Char) :=
  (((headers.lookup listUnsubscribeName).map (bracketed none)).getD [],
    (headers.lookup listUnsubscribePostName).isSome,
    ((headers.lookup inReplyToName).map (List.splitOn ' ')).getD [],
    ((headers.lookup referencesName).map (List.splitOn ' ')).getD [])

/-- The items of a header, between which it may be folded. -/
def items (message : EmailMessage τ) (name : String) : List (List Char) :=
  if name = listUnsubscribeName then message.listUnsubscribe.map bracket
  else if name = inReplyToName then message.inReplyTo
  else if name = referencesName then message.references
  else []

/-- The lines cut the value at spaces: the first begins with the name, and none is empty. -/
def IsCutBetween (name : String) (value : List Char) (lines : List (List Char)) : Prop :=
  ∃ (group : List (List Char)) (groups : List (List (List Char))),
    lines = (name.toList ++ ':' :: spaced group) :: groups.map spaced ∧
      group ++ groups.flatten = value.splitOn ' ' ∧ ∀ words ∈ groups, words ≠ []

variable {validateAddress : List Char → Bool} {message : EmailMessage τ} {uri item word : List Char}
  {uris ids words : List (List Char)} {schemes : List Scheme} {name : String}

/-! ## What is accepted -/

/-- A word that fits on a line behind a space. -/
structure IsWord (word : List Char) : Prop where
  printable : IsPrintable word
  ne_nil : word ≠ []
  length_le : word.length ≤ maxUnfoldableToken

/-- A URI that is accepted: it stays a word in brackets with a comma, and has no bracket or comma
of its own. -/
structure IsListUri (uri : List Char) : Prop where
  word : IsWord (bracket uri ++ [','])
  bracket_notMem : '>' ∉ uri

lemma isListUri_of_checkUri {scheme : Scheme} (h : checkUri validateAddress uri = .ok scheme) :
    IsListUri uri := by
  unfold checkUri at h
  split_ifs at h with hempty hcontrol hchars hmax hlength hforbidden
  all_goals
    have hprintable : IsPrintable uri := by
      intro c hc
      unfold isUriCharacters at hchars
      simp only [Bool.and_eq_true, List.all_eq_true, decide_eq_true_eq] at hchars
      exact hchars.2 c hc
    have hclose : '>' ∉ uri := by
      intro hmem
      exact hforbidden (List.any_eq_true.mpr ⟨'>', by decide, decide_eq_true hmem⟩)
    refine ⟨⟨?_, by simp [bracket], ?_⟩, hclose⟩
    · intro c hc
      simp only [bracket, List.cons_append, List.append_assoc, List.nil_append, List.mem_cons,
        List.mem_append, List.not_mem_nil, or_false] at hc
      rcases hc with rfl | hc | rfl | rfl
      · decide
      · exact hprintable c hc
      · decide
      · decide
    · simp only [bracket, List.length_append, List.length_cons, List.length_nil] at hlength ⊢
      omega

lemma https_of_checkUri (h : checkUri validateAddress uri = .ok .https) :
    "https://".toList.isPrefixOf uri = true := by
  unfold checkUri at h
  split_ifs at h
  · cases h
  · by_contra hnot
    unfold httpsMatch at h
    rw [if_neg hnot] at h
    cases h

lemma forall_of_checkUris (h : checkUris validateAddress uris = .ok schemes) :
    (∀ uri ∈ uris, IsListUri uri) ∧ (Scheme.https ∈ schemes → hasHttps uris = true) := by
  induction uris generalizing schemes with
  | nil =>
    cases h
    exact ⟨by simp, by simp⟩
  | cons uri uris ih =>
    unfold checkUris at h
    cases hcheck : checkUri validateAddress uri with
    | error refusal =>
      rw [hcheck] at h
      cases h
    | ok scheme =>
      rw [hcheck] at h
      cases hrest : checkUris validateAddress uris with
      | error refusal =>
        rw [hrest] at h
        cases h
      | ok rest =>
        rw [hrest] at h
        cases h
        obtain ⟨hall, hhttps⟩ := ih hrest
        refine ⟨List.forall_mem_cons.mpr ⟨isListUri_of_checkUri hcheck, hall⟩, fun hmem => ?_⟩
        unfold hasHttps
        rw [List.any_cons, Bool.or_eq_true]
        rcases List.mem_cons.mp hmem with rfl | hmem
        · exact .inl (https_of_checkUri hcheck)
        · exact .inr (hhttps hmem)

lemma isPrintable_of_isDotAtom {text : List Char} (h : isDotAtom text = true) : IsPrintable text := by
  intro c hc
  unfold isDotAtom at h
  have hchar := List.all_eq_true.mp (Bool.and_eq_true_iff.mp h).1 c hc
  rcases Bool.or_eq_true_iff.mp hchar with hatext | hdot
  · unfold isAtext at hatext
    rcases Bool.or_eq_true_iff.mp hatext with halnum | hspecial
    · delta Char.isAlphanum Char.isAlpha Char.isUpper Char.isLower Char.isDigit at halnum
      simp only [Bool.or_eq_true, Bool.and_eq_true, decide_eq_true_eq] at halnum
      have htoNat : c.toNat = c.val.toNat := rfl
      simp only [UInt32.le_iff_toNat_le] at halnum
      simp at halnum
      omega
    · rw [decide_eq_true_eq] at hspecial
      simp at hspecial
      rcases hspecial with rfl | rfl | rfl | rfl | rfl | rfl | rfl | rfl | rfl | rfl | rfl | rfl |
        rfl | rfl | rfl | rfl | rfl | rfl | rfl <;> decide
  · rw [beq_iff_eq.mp hdot]
    decide

lemma isPrintable_of_isNoFoldLiteral {text : List Char} (h : isNoFoldLiteral text = true) :
    IsPrintable text := by
  unfold isNoFoldLiteral at h
  split at h
  next rest =>
    obtain ⟨hlast, hinner⟩ := Bool.and_eq_true_iff.mp h
    obtain ⟨inner, rfl⟩ := List.getLast?_eq_some_iff.mp (of_decide_eq_true hlast)
    rw [List.dropLast_concat] at hinner
    intro c hc
    rcases List.mem_cons.mp hc with rfl | hc
    · decide
    · rcases List.mem_append.mp hc with hc | hc
      · have hchar := List.all_eq_true.mp hinner c hc
        simp only [Bool.or_eq_true, Bool.and_eq_true, decide_eq_true_eq] at hchar
        omega
      · rw [List.mem_singleton.mp hc]
        decide
  next => cases h

lemma before_append_behind {separator : Char} {text : List Char} (h : separator ∈ text) :
    PyUrl.before separator text ++ separator :: PyUrl.behind separator text = text := by
  unfold PyUrl.before PyUrl.behind
  have hne : text.dropWhile (· ≠ separator) ≠ [] := fun hnil => by
    simpa using List.dropWhile_eq_nil_iff.mp hnil separator h
  obtain ⟨c, rest, hrest⟩ := List.exists_cons_of_ne_nil hne
  have hc := List.head_dropWhile_not (p := (· ≠ separator)) (l := text) hne
  simp only [hrest, List.head_cons] at hc
  have hseparator : c = separator := by simpa using hc
  have hjoin := List.takeWhile_append_dropWhile (p := (· ≠ separator)) (l := text)
  rw [hrest, hseparator] at hjoin
  rw [hrest]
  exact hjoin

lemma isPrintable_of_isMessageId (h : isMessageId item = true) : IsPrintable item ∧ item ≠ [] := by
  unfold isMessageId at h
  split at h
  next rest =>
    simp only [Bool.and_eq_true, decide_eq_true_eq] at h
    obtain ⟨⟨⟨hlast, hat⟩, hlocal⟩, hdomain⟩ := h
    obtain ⟨body, rfl⟩ := List.getLast?_eq_some_iff.mp hlast
    rw [List.dropLast_concat] at hat hlocal hdomain
    have hbehind : IsPrintable (PyUrl.behind '@' body) :=
      (Bool.or_eq_true_iff.mp hdomain).elim isPrintable_of_isDotAtom isPrintable_of_isNoFoldLiteral
    refine ⟨fun c hc => ?_, List.cons_ne_nil _ _⟩
    rw [← before_append_behind hat] at hc
    simp only [List.mem_cons, List.mem_append, List.not_mem_nil, or_false] at hc
    rcases hc with rfl | (hc | rfl | hc) | rfl
    · decide
    · exact isPrintable_of_isDotAtom hlocal c hc
    · decide
    · exact hbehind c hc
    · decide
  next => cases h

lemma isWord_of_checkMessageIds (h : checkMessageIds name ids = none) : ∀ item ∈ ids, IsWord item := by
  unfold checkMessageIds at h
  have hmax : ¬ maxMessageIds < ids.length := fun hmax => by
    rw [if_pos hmax] at h
    cases h
  rw [if_neg hmax] at h
  cases hfind : ids.findSome? (checkMessageId name) with
  | some refusal =>
    rw [hfind] at h
    cases h
  | none =>
    intro item hitem
    have hnone := List.findSome?_eq_none_iff.mp hfind item hitem
    unfold checkMessageId at hnone
    split_ifs at hnone with hcontrol hid hlength
    rw [not_or, not_not] at hid
    obtain ⟨hprintable, hne⟩ := isPrintable_of_isMessageId hid.1
    exact ⟨hprintable, hne, not_lt.mp hlength⟩

/-- What a message that is accepted satisfies. -/
structure IsAccepted (message : EmailMessage τ) : Prop where
  uris : ∀ uri ∈ message.listUnsubscribe, IsListUri uri
  post : message.listUnsubscribePost = true →
    message.listUnsubscribe ≠ [] ∧ hasHttps message.listUnsubscribe = true
  inReplyTo : ∀ item ∈ message.inReplyTo, IsWord item
  references : ∀ item ∈ message.references, IsWord item

lemma isAccepted_of_validateListHeaders (h : validateListHeaders validateAddress message = none) :
    IsAccepted message := by
  unfold validateListHeaders at h
  cases hlist : checkListUnsubscribe validateAddress message with
  | some refusal =>
    rw [hlist] at h
    cases h
  | none =>
    cases hreply : checkMessageIds "in_reply_to" message.inReplyTo with
    | some refusal =>
      rw [hlist, hreply] at h
      cases h
    | none =>
      rw [hlist, hreply] at h
      have hids := isWord_of_checkMessageIds hreply
      have hreferences := isWord_of_checkMessageIds h
      unfold checkListUnsubscribe at hlist
      split_ifs at hlist with hne hto hpost
      · cases hcheck : checkUris validateAddress message.listUnsubscribe with
        | error refusal =>
          rw [hcheck] at hlist
          cases hlist
        | ok schemes =>
          rw [hcheck] at hlist
          dsimp only at hlist
          split_ifs at hlist with hnodup hone
          obtain ⟨hall, hhttps⟩ := forall_of_checkUris hcheck
          refine ⟨hall, fun hpost => ⟨hne, hhttps ?_⟩, hids, hreferences⟩
          by_contra hnot
          exact hone ⟨hpost, hnot⟩
      · have hnil := not_not.mp hne
        refine ⟨?_, fun h' => absurd h' hpost, hids, hreferences⟩
        rw [hnil]
        simp

/-! ## The words of the values -/

def commaSeparated : List (List Char) → List (List Char)
  | [] => []
  | [item] => [item]
  | item :: next :: items => (item ++ [',']) :: commaSeparated (next :: items)

lemma intercalate_comma (items : List (List Char)) :
    [',', ' '].intercalate items = [' '].intercalate (commaSeparated items) := by
  induction items with
  | nil => rfl
  | cons item items ih =>
    cases items with
    | nil => rfl
    | cons next items =>
      have hne : commaSeparated (next :: items) ≠ [] := by
        cases items <;> exact List.cons_ne_nil _ _
      rw [commaSeparated, List.intercalate_cons_cons, ih, List.intercalate_cons_of_ne_nil hne]
      simp

lemma mem_commaSeparated {piece : List Char} {items : List (List Char)}
    (h : piece ∈ commaSeparated items) : ∃ item ∈ items, piece = item ∨ piece = item ++ [','] := by
  induction items with
  | nil => cases h
  | cons item items ih =>
    cases items with
    | nil => exact ⟨item, List.mem_cons_self .., .inl (List.mem_singleton.mp h)⟩
    | cons next items =>
      rcases List.mem_cons.mp h with rfl | h
      · exact ⟨item, List.mem_cons_self .., .inr rfl⟩
      · obtain ⟨item, hitem, hpiece⟩ := ih h
        exact ⟨item, List.mem_cons_of_mem _ hitem, hpiece⟩

lemma exists_piece {items : List (List Char)} (h : item ∈ items) :
    ∃ piece ∈ commaSeparated items, item <+: piece := by
  induction items with
  | nil => cases h
  | cons first items ih =>
    cases items with
    | nil => exact ⟨first, List.mem_singleton.mpr rfl, (List.mem_singleton.mp h) ▸ List.prefix_rfl⟩
    | cons next items =>
      rcases List.mem_cons.mp h with rfl | h
      · exact ⟨_, List.mem_cons_self .., List.prefix_append ..⟩
      · obtain ⟨piece, hpiece, hbegins⟩ := ih h
        exact ⟨piece, List.mem_cons_of_mem _ hpiece, hbegins⟩

/-- A value that is made of words, with the items as parts of words. -/
structure IsFoldable (value : List Char) (items : List (List Char)) : Prop where
  words : ∀ word ∈ value.splitOn ' ', IsWord word
  kept : ∀ item ∈ items, ∃ word ∈ value.splitOn ' ', item <+: word

lemma IsWord.space_notMem (h : IsWord word) : ' ' ∉ word := fun hmem =>
  absurd (h.printable ' ' hmem).1 (by decide)

lemma splitOn_intercalate_words (hne : words ≠ []) (h : ∀ word ∈ words, IsWord word) :
    ([' '].intercalate words).splitOn ' ' = words :=
  List.splitOn_intercalate _ (fun word hword => (h word hword).space_notMem) hne

lemma isFoldable_intercalate (hne : words ≠ []) (h : ∀ word ∈ words, IsWord word)
    {items : List (List Char)} (hkept : ∀ item ∈ items, ∃ word ∈ words, item <+: word) :
    IsFoldable ([' '].intercalate words) items := by
  have hsplit := splitOn_intercalate_words hne h
  exact ⟨hsplit.symm ▸ h, hsplit.symm ▸ hkept⟩

lemma IsListUri.bracket (h : IsListUri uri) : IsWord (bracket uri) := by
  refine ⟨fun c hc => h.word.printable c (List.mem_append_left _ hc), List.cons_ne_nil _ _, ?_⟩
  have hlength := h.word.length_le
  rw [List.length_append] at hlength
  omega

lemma isFoldable_listUnsubscribe (hne : uris ≠ []) (h : ∀ uri ∈ uris, IsListUri uri) :
    IsFoldable ([',', ' '].intercalate (uris.map bracket)) (uris.map bracket) := by
  rw [intercalate_comma]
  refine isFoldable_intercalate ?_ ?_ fun item hitem => exists_piece hitem
  · intro hnil
    obtain ⟨uri, rest, rfl⟩ := List.exists_cons_of_ne_nil hne
    obtain ⟨piece, hpiece, -⟩ := exists_piece (List.mem_cons_self (a := bracket uri)
      (l := rest.map bracket))
    rw [List.map_cons] at hnil
    rw [hnil] at hpiece
    cases hpiece
  · intro piece hpiece
    obtain ⟨item, hitem, hcase⟩ := mem_commaSeparated hpiece
    obtain ⟨uri, huri, rfl⟩ := List.mem_map.mp hitem
    rcases hcase with rfl | rfl
    · exact (h uri huri).bracket
    · exact (h uri huri).word

lemma isFoldable_ids (hne : ids ≠ []) (h : ∀ item ∈ ids, IsWord item) :
    IsFoldable ([' '].intercalate ids) ids :=
  isFoldable_intercalate hne h fun item hitem => ⟨item, hitem, List.prefix_rfl⟩

/-! ## Folding keeps the values -/

lemma unbroken_spaced (h : ∀ word ∈ words, IsPrintable word) : Unbroken (spaced words) := by
  have hchar : ∀ c ∈ spaced words, 0x20 ≤ c.toNat := by
    intro c hc
    obtain ⟨word, hword, hc⟩ := List.mem_flatMap.mp hc
    rcases List.mem_cons.mp hc with rfl | hc
    · decide
    · exact le_trans (by decide) (h word hword c hc).1
  exact ⟨fun hmem => absurd (hchar _ hmem) (by decide), fun hmem => absurd (hchar _ hmem) (by decide)⟩

/-- How a value that is made of words is written. -/
structure IsWritten (linesep : Linesep) (name : String) (value : List Char)
    (items : List (List Char)) : Prop where
  unfolded : unfoldText (fold linesep name value) =
    name.toList ++ [':', ' '] ++ value ++ linesep.text
  length_le : ∀ line ∈ physicalLines (fold linesep name value), line.length ≤ maxLine
  spaced : ∀ line ∈ (physicalLines (fold linesep name value)).tail,
    ∃ rest, line = ' ' :: rest ∧ ∃ c ∈ rest, c ≠ ' '
  printable : ∀ c ∈ value, 0x20 ≤ c.toNat ∧ c.toNat ≤ 0x7e
  cut : IsCutBetween name value (physicalLines (fold linesep name value))
  kept : ∀ item ∈ items, ∃ word ∈ value.splitOn ' ', item <+: word

theorem isWritten_of_isFoldable (linesep : Linesep) {value : List Char} {items : List (List Char)}
    (hname : Unbroken name.toList) (hlength : name.toList.length + 1 ≤ maxLine)
    (h : IsFoldable value items) : IsWritten linesep name value items := by
  have hsplit : [' '].intercalate (value.splitOn ' ') = value := List.intercalate_splitOn ' '
  have hne : value.splitOn ' ' ≠ [] := List.splitOn_ne_nil ' ' value
  obtain ⟨group, groups, hlines, hcut, hgroups⟩ :=
    exists_cut_foldTokens foldAt (name.toList ++ [':']) maxLine (value.splitOn ' ')
  have hgroup : ∀ word ∈ group, IsWord word := fun word hword =>
    h.words word (hcut ▸ List.mem_append_left _ hword)
  have hothers : ∀ words ∈ groups, ∀ word ∈ words, IsWord word := fun words hwords word hword =>
    h.words word (hcut ▸ List.mem_append_right _ (List.mem_flatten.mpr ⟨words, hwords, hword⟩))
  -- no line is broken, so that they are the physical ones
  have hunbroken : ∀ each ∈ (name.toList ++ [':'] ++ spaced group) :: groups.map spaced,
      Unbroken each := by
    refine List.forall_mem_cons.mpr ⟨?_, fun each heach => ?_⟩
    · have hspaced := unbroken_spaced fun word hword => (hgroup word hword).printable
      have hcolon : Unbroken [':'] := by simp [Unbroken]
      unfold Unbroken at hname hspaced hcolon ⊢
      simp only [List.mem_append, not_or]
      exact ⟨⟨⟨hname.1, hcolon.1⟩, hspaced.1⟩, ⟨hname.2, hcolon.2⟩, hspaced.2⟩
    · obtain ⟨words, hwords, rfl⟩ := List.mem_map.mp heach
      exact unbroken_spaced fun word hword => (hothers words hwords word hword).printable
  have hphysical : physicalLines (fold linesep name value) =
      (name.toList ++ [':'] ++ spaced group) :: groups.map spaced := by
    unfold fold
    rw [hlines]
    exact physicalLines_joinLines linesep hunbroken
  have hbegins : ∀ line ∈ groups.map spaced, ∃ rest, line = ' ' :: rest ∧ ∃ c ∈ rest, c ≠ ' ' := by
    intro line hline
    obtain ⟨words, hwords, rfl⟩ := List.mem_map.mp hline
    obtain ⟨word, rest, rfl⟩ :=
      List.exists_cons_of_ne_nil fun hnil : words = [] => hgroups (hnil ▸ hwords)
    have hword := hothers _ hwords word (List.mem_cons_self ..)
    obtain ⟨c, tail, htail⟩ := List.exists_cons_of_ne_nil hword.ne_nil
    refine ⟨word ++ spaced rest, rfl, c, ?_, ?_⟩
    · rw [htail]
      exact List.mem_append_left _ (List.mem_cons_self ..)
    · rintro rfl
      exact hword.space_notMem (htail ▸ List.mem_cons_self ..)
  refine ⟨?_, ?_, ?_, ?_, ?_, h.kept⟩
  · unfold fold
    rw [hlines, unfoldText_joinLines linesep hunbroken fun line hline => by
      obtain ⟨rest, rfl, -⟩ := hbegins line hline
      rfl]
    rw [List.flatten_cons, flatten_map_spaced, List.append_assoc (name.toList ++ [':'])]
    have hall : spaced group ++ spaced groups.flatten = ' ' :: value := by
      conv_rhs => rw [← hsplit, ← spaced_eq_intercalate hne, ← hcut]
      unfold HeaderFolding.spaced
      rw [List.flatMap_append]
    rw [hall]
    simp
  · rw [hphysical, ← hlines]
    intro line hline
    refine length_le_of_mem_foldTokens ?_ le_rfl (by decide) (fun token htoken => ?_) hline
    · rw [List.length_append]
      exact hlength
    · exact Nat.succ_le_succ (h.words token htoken).length_le
  · rw [hphysical, List.tail_cons]
    exact hbegins
  · intro c hc
    rw [← hsplit] at hc
    have hmem : c ∈ HeaderFolding.spaced (value.splitOn ' ') := by
      rw [spaced_eq_intercalate hne]
      exact List.mem_cons_of_mem _ hc
    obtain ⟨word, hword, hc⟩ := List.mem_flatMap.mp hmem
    rcases List.mem_cons.mp hc with rfl | hc
    · decide
    · have hprintable := (h.words word hword).printable c hc
      exact ⟨le_trans (by decide) hprintable.1, hprintable.2⟩
  · refine ⟨group, groups, ?_, hcut, fun words hwords hnil => hgroups (hnil ▸ hwords)⟩
    rw [hphysical]
    simp

lemma headerName_fits : ∀ name ∈ headerNames,
    Unbroken name.toList ∧ name.toList.length + 1 ≤ maxLine := by
  unfold headerNames Unbroken
  simp only [List.forall_mem_cons, List.not_mem_nil, false_implies, implies_true, and_true]
  decide +kernel

/-- Every header of an accepted message folds between its items. -/
lemma isFoldable_of_mem_messageHeaders (h : IsAccepted message) {header : String × List Char}
    (hheader : header ∈ messageHeaders message) :
    header.1 ∈ headerNames ∧ IsFoldable header.2 (items message header.1) := by
  unfold messageHeaders at hheader
  rcases List.mem_append.mp hheader with hheader | hheader
  · rcases List.mem_append.mp hheader with hheader | hheader
    · split_ifs at hheader with hne hpost
      · rcases List.mem_cons.mp hheader with rfl | hheader
        · exact ⟨by simp [headerNames], isFoldable_listUnsubscribe hne h.uris⟩
        · obtain rfl := List.mem_singleton.mp hheader
          refine ⟨by simp [headerNames], ⟨fun word hword => ?_, fun item hitem => ?_⟩⟩
          · have hsplit : oneClickValue.splitOn ' ' = [oneClickValue] := by decide +kernel
            obtain rfl := List.mem_singleton.mp (hsplit ▸ hword)
            refine ⟨fun c hc => ?_, by decide +kernel, by decide +kernel⟩
            have hall : oneClickValue.all (fun c => 0x21 ≤ c.toNat ∧ c.toNat ≤ 0x7e) = true := by
              decide +kernel
            exact of_decide_eq_true (List.all_eq_true.mp hall c hc)
          · have hnil : items message listUnsubscribePostName = [] := by
              unfold items
              rw [if_neg (by decide), if_neg (by decide), if_neg (by decide)]
            rw [hnil] at hitem
            cases hitem
      · obtain rfl := List.mem_singleton.mp hheader
        exact ⟨by simp [headerNames], isFoldable_listUnsubscribe hne h.uris⟩
      · cases hheader
    · split_ifs at hheader with hne
      · obtain rfl := List.mem_singleton.mp hheader
        exact ⟨by simp [headerNames], isFoldable_ids hne h.inReplyTo⟩
      · cases hheader
  · split_ifs at hheader with hne
    · obtain rfl := List.mem_singleton.mp hheader
      exact ⟨by simp [headerNames], isFoldable_ids hne h.references⟩
    · cases hheader

/-! ## The fields are read back -/

lemma bracketed_some (read : List Char) (h : '>' ∉ uri) (text : List Char) :
    bracketed (some read) (uri ++ '>' :: text) = (read.reverse ++ uri) :: bracketed none text := by
  induction uri generalizing read with
  | nil => simp [bracketed]
  | cons c uri ih =>
    rw [List.mem_cons, not_or] at h
    rw [List.cons_append, bracketed, if_neg (Ne.symm h.1), ih (c :: read) h.2]
    simp

lemma bracketed_intercalate (h : ∀ uri ∈ uris, '>' ∉ uri) :
    bracketed none ([',', ' '].intercalate (uris.map bracket)) = uris := by
  induction uris with
  | nil => rfl
  | cons uri uris ih =>
    obtain ⟨huri, huris⟩ := List.forall_mem_cons.mp h
    cases uris with
    | nil =>
      rw [List.map_singleton, List.intercalate_singleton, bracket, List.cons_append, bracketed,
        if_pos rfl, bracketed_some [] huri]
      rfl
    | cons next uris =>
      rw [List.map_cons, List.map_cons, List.intercalate_cons_cons, ← List.map_cons, bracket,
        List.cons_append, List.cons_append, List.cons_append, bracketed, if_pos rfl,
        List.append_assoc, List.append_assoc, List.singleton_append, bracketed_some [] huri]
      have hskip : bracketed none ([',', ' '] ++
          [',', ' '].intercalate ((next :: uris).map bracket)) = next :: uris := by
        rw [List.cons_append, bracketed, if_neg (by decide), List.cons_append, bracketed,
          if_neg (by decide), List.nil_append, ih huris]
      rw [hskip]
      rfl

theorem readHeaders_messageHeaders (h : IsAccepted message) :
    readHeaders (messageHeaders message) = (message.listUnsubscribe, message.listUnsubscribePost,
      message.inReplyTo, message.references) := by
  have huris := bracketed_intercalate fun uri huri => (h.uris uri huri).bracket_notMem
  have hids : ∀ ids : List (List Char), (∀ item ∈ ids, IsWord item) → ids ≠ [] →
      ([' '].intercalate ids).splitOn ' ' = ids := fun ids hall hne =>
    splitOn_intercalate_words hne hall
  have hreply := hids _ h.inReplyTo
  have hreferences := hids _ h.references
  have hpost : (message.listUnsubscribePost && hasHttps message.listUnsubscribe) =
      message.listUnsubscribePost := by
    cases hp : message.listUnsubscribePost with
    | false => rfl
    | true => rw [(h.post hp).2, Bool.and_self]
  have hnone : message.listUnsubscribe = [] → message.listUnsubscribePost = false := fun hnil => by
    by_contra hne
    exact (h.post (Bool.not_eq_false _ |>.mp hne)).1 hnil
  unfold readHeaders messageHeaders
  rw [hpost]
  by_cases hl : message.listUnsubscribe = [] <;> by_cases hi : message.inReplyTo = [] <;>
    by_cases hr : message.references = [] <;> cases hp : message.listUnsubscribePost <;>
    simp_all [List.lookup_cons, listUnsubscribeName, listUnsubscribePostName, inReplyToName,
      referencesName]

/-! ## The adapters emit the same headers -/

lemma refuseUnsafeItem_of_isPrintable (h : IsPrintable item) : refuseUnsafeItem name item = none := by
  unfold refuseUnsafeItem
  have hcontrol : hasControlCharacter item = false := by
    unfold hasControlCharacter
    refine List.any_eq_false.mpr fun c hc => ?_
    have := h c hc
    simp
    omega
  have hascii : isAscii item = true := by
    unfold isAscii
    refine List.all_eq_true.mpr fun c hc => decide_eq_true ?_
    have := h c hc
    omega
  rw [hcontrol, hascii]
  rfl

lemma refuseUnsafeHeaderValues_of_isAccepted (h : IsAccepted message) :
    refuseUnsafeHeaderValues message = none := by
  have hfind : ∀ (name : String) (ids : List (List Char)), (∀ item ∈ ids, IsPrintable item) →
      ids.findSome? (refuseUnsafeItem name) = none := fun name ids hall =>
    List.findSome?_eq_none_iff.mpr fun item hitem =>
      refuseUnsafeItem_of_isPrintable (hall item hitem)
  have huris : ∀ uri ∈ message.listUnsubscribe, IsPrintable uri := fun uri huri c hc =>
    (h.uris uri huri).bracket.printable c
      (List.mem_append_left _ (List.mem_cons_of_mem _ hc))
  unfold refuseUnsafeHeaderValues
  rw [hfind _ _ huris, hfind _ _ fun item hitem => (h.inReplyTo item hitem).printable,
    hfind _ _ fun item hitem => (h.references item hitem).printable]
  cases hp : message.listUnsubscribePost with
  | false => rfl
  | true =>
    rw [(h.post hp).2]
    rfl

variable {standard : String → List Char → Option (List Char)}

/-- Storing keeps the list headers, whatever the standard policy does to the others. -/
lemma filter_storeHeaders {headers stored : List (String × List Char)}
    (h : storeHeaders standard headers = some stored) :
    stored.filter (isListHeader ·.1) = headers.filter (isListHeader ·.1) := by
  induction headers generalizing stored with
  | nil =>
    cases h
    rfl
  | cons header headers ih =>
    unfold storeHeaders at h
    cases hstore : headerStoreParse standard header with
    | none =>
      rw [hstore] at h
      cases h
    | some first =>
      rw [hstore] at h
      obtain ⟨rest, hrest, rfl⟩ := Option.map_eq_some_iff.mp h
      unfold headerStoreParse at hstore
      split_ifs at hstore with hlist hprintable
      · cases hstore
        rw [List.filter_cons, List.filter_cons, if_pos hlist, if_pos hlist, ih hrest]
      · obtain ⟨value, -, rfl⟩ := Option.map_eq_some_iff.mp hstore
        rw [List.filter_cons, List.filter_cons, if_neg hlist, if_neg hlist, ih hrest]

lemma isListHeader_of_mem_headerNames (h : name ∈ headerNames) : isListHeader name = true := by
  unfold isListHeader
  exact List.contains_iff_mem.mpr (List.mem_map_of_mem h)

lemma filter_messageHeaders (h : IsAccepted message) :
    (messageHeaders message).filter (isListHeader ·.1) = messageHeaders message :=
  List.filter_eq_self.mpr fun _ hheader =>
    isListHeader_of_mem_headerNames (isFoldable_of_mem_messageHeaders h hheader).1

lemma filter_map_of_not (h : isListHeader name = false) (values : List (List Char)) :
    (values.map (name, ·)).filter (isListHeader ·.1) = [] := by
  refine List.filter_eq_nil_iff.mpr fun header hheader => ?_
  obtain ⟨value, -, rfl⟩ := List.mem_map.mp hheader
  simp [h]

lemma isListHeader_others : ∀ name ∈ ["From", "To", "Subject", "Message-ID", "Reply-To"],
    isListHeader name = false := by
  decide +kernel

lemma filter_smtpHeaders {messageId : List Char} {message : EmailMessage (List Char)}
    {stored : List (String × List Char)}
    (h : IsAccepted message) (hstored : smtpHeaders standard message messageId = some stored) :
    stored.filter (isListHeader ·.1) = messageHeaders message := by
  unfold smtpHeaders at hstored
  rw [refuseUnsafeHeaderValues_of_isAccepted h, if_neg (by simp)] at hstored
  rw [filter_storeHeaders hstored, List.filter_append, List.filter_append, filter_messageHeaders h,
    filter_map_of_not (isListHeader_others _ (by simp))]
  have hfirst : [("From", message.sender), ("To", [',', ' '].intercalate message.recipients),
      ("Subject", message.subject), ("Message-ID", messageId)].filter (isListHeader ·.1) = [] := by
    refine List.filter_eq_nil_iff.mpr fun header hheader => ?_
    rw [isListHeader_others header.1 ?_]
    · exact Bool.false_ne_true
    · simp only [List.mem_cons, List.not_mem_nil, or_false] at hheader
      rcases hheader with rfl | rfl | rfl | rfl <;> simp
  rw [hfirst, List.nil_append, List.nil_append]

lemma filter_customHeaders {message : EmailMessage (List Char)} (h : IsAccepted message) :
    (customHeaders id message).filter (isListHeader ·.1) = messageHeaders message := by
  unfold customHeaders
  have hid : (messageHeaders message).map (fun header => (header.1, id header.2)) =
      messageHeaders message := List.map_id _
  rw [hid, List.filter_append, filter_messageHeaders h,
    filter_map_of_not (isListHeader_others _ (by simp)), List.append_nil]

/-- The headers of a message that is accepted are written as they are, on lines that are cut between
their items, are read back, and are the same in both adapters. -/
theorem validateListHeaders_sound (validateAddress : List Char → Bool)
    (message : EmailMessage (List Char)) (linesep : Linesep)
    (standard : String → List Char → Option (List Char))
    (h : validateListHeaders validateAddress message = none) :
    (∀ header ∈ messageHeaders message, header.1 ∈ headerNames ∧
      IsWritten linesep header.1 header.2 (items message header.1)) ∧
    readHeaders (messageHeaders message) = (message.listUnsubscribe, message.listUnsubscribePost,
      message.inReplyTo, message.references) ∧
    (refuseUnsafeHeaderValues message = none ∧
      ∀ header ∈ messageHeaders message, headerStoreParse standard header = some header) ∧
    (∀ messageId stored, smtpHeaders standard message messageId = some stored →
      stored.filter (isListHeader ·.1) = messageHeaders message) ∧
    (customHeaders id message).filter (isListHeader ·.1) = messageHeaders message := by
  have haccepted := isAccepted_of_validateListHeaders h
  have hwritten : ∀ header ∈ messageHeaders message, header.1 ∈ headerNames ∧
      IsWritten linesep header.1 header.2 (items message header.1) := fun header hheader => by
    obtain ⟨hname, hfoldable⟩ := isFoldable_of_mem_messageHeaders haccepted hheader
    obtain ⟨hunbroken, hlength⟩ := headerName_fits _ hname
    exact ⟨hname, isWritten_of_isFoldable linesep hunbroken hlength hfoldable⟩
  refine ⟨hwritten, readHeaders_messageHeaders haccepted,
    ⟨refuseUnsafeHeaderValues_of_isAccepted haccepted, fun header hheader => ?_⟩,
    fun messageId stored hstored => filter_smtpHeaders haccepted hstored,
    filter_customHeaders haccepted⟩
  obtain ⟨hname, hvalue⟩ := hwritten header hheader
  unfold headerStoreParse
  rw [if_pos (isListHeader_of_mem_headerNames hname), if_pos]
  refine List.all_eq_true.mpr fun c hc => ?_
  have hprintable := hvalue.printable c hc
  simp [hprintable]

def newsletter : EmailMessage (List Char) where
  sender := "news@example.com".toList
  recipients := ["reader@example.org".toList]
  subject := "News".toList
  textBody := "Hello.".toList
  htmlBody := none
  replyTo := none
  messageId := some "<2@example.com>".toList
  idempotencyKey := none
  listUnsubscribe := [
    "https://example.com:8443/unsubscribe?list=spring-offers-of-the-year&t=1".toList,
    "mailto:unsubscribe@example.com".toList]
  listUnsubscribePost := true
  inReplyTo := ["<1@[127.0.0.1]>".toList]
  references := ["<newsletter.2026-02.reader.0@example.com>".toList,
    "<newsletter.2026-03.reader.1@example.com>".toList, "<1@[127.0.0.1]>".toList]

theorem validateListHeaders_sound_newsletter :
    readHeaders (messageHeaders newsletter) = (newsletter.listUnsubscribe, true,
      newsletter.inReplyTo, newsletter.references) :=
  (validateListHeaders_sound (fun _ => true) newsletter .crlf (fun _ value => some value)
    (by decide +kernel)).2.1

end SaasOs.Email
