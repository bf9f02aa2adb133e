import Mathlib.Data.List.TakeWhile
import Mathlib.Tactic

/-!
# URLs as `urllib.parse` reads and writes them

`urlsplit` cuts a text at the first delimiters, `urlparse` cuts the parameters of the last segment
off the path, and `urlunparse` puts the parts together again, without what is empty.  The host and
the port are read from the authority (`hostname`, `port`).  `str.lower` is that of ASCII texts.
-/

namespace PyUrl

/-! ## Pieces of texts -/

/-- What `partition` puts before the first separator. -/
def before (separator : Char) (text : List Char) : List Char := text.takeWhile (· ≠ separator)

/-- What `partition` puts behind the first separator. -/
def behind (separator : Char) (text : List Char) : List Char :=
  (text.dropWhile (· ≠ separator)).tail

/-- What `rpartition` puts behind the last separator, all of the text where there is none. -/
def behindLast (separator : Char) (text : List Char) : List Char :=
  (text.reverse.takeWhile (· ≠ separator)).reverse

def upToLast (separator : Char) (text : List Char) : List Char :=
  (text.reverse.dropWhile (· ≠ separator)).reverse

variable {separator : Char} {text rest : List Char}

section

variable (h : separator ∉ text)

include h

lemma before_append :
    before separator (text ++ separator :: rest) = text := by
  unfold before
  rw [List.takeWhile_append_of_pos fun c hc => by simpa using fun heq : c = separator => h (heq ▸ hc)]
  simp

lemma behind_append :
    behind separator (text ++ separator :: rest) = rest := by
  unfold behind
  rw [List.dropWhile_append_of_pos fun c hc => by simpa using fun heq : c = separator => h (heq ▸ hc)]
  simp

lemma before_of_notMem :
    before separator text = text :=
  List.takeWhile_eq_self_iff.2 fun c hc => by simpa using fun heq : c = separator => h (heq ▸ hc)

lemma behind_of_notMem :
    behind separator text = [] := by
  unfold behind
  rw [List.dropWhile_eq_nil_iff.2 fun c hc => by simpa using fun heq : c = separator => h (heq ▸ hc)]
  rfl

end

lemma notMem_before : separator ∉ before separator text := by
  intro h
  simpa using List.mem_takeWhile_imp h

lemma forall_mem_of_all {P : Char → Prop} [DecidablePred P]
    (h : text.all (fun c => decide (P c)) = true) : ∀ c ∈ text, P c := fun c hc =>
  of_decide_eq_true (List.all_eq_true.1 h c hc)

variable {c : Char}

lemma mem_of_mem_before (h : c ∈ before separator text) :
    c ∈ text :=
  (List.takeWhile_prefix _).subset h

lemma mem_of_mem_behind (h : c ∈ behind separator text) :
    c ∈ text :=
  (List.dropWhile_suffix _).subset (List.mem_of_mem_tail h)

lemma notMem_behindLast :
    separator ∉ behindLast separator text := by
  intro h
  simpa using List.mem_takeWhile_imp (List.mem_reverse.1 h)

lemma mem_of_mem_behindLast (h : c ∈ behindLast separator text) : c ∈ text :=
  List.mem_reverse.1 ((List.takeWhile_prefix _).subset (List.mem_reverse.1 h))

lemma behindLast_of_notMem (h : separator ∉ text) :
    behindLast separator text = text := by
  unfold behindLast
  rw [List.takeWhile_eq_self_iff.2 fun c hc => by
    simpa using fun heq : c = separator => h (heq ▸ List.mem_reverse.1 hc), List.reverse_reverse]

lemma upToLast_append_behindLast (separator : Char) (text : List Char) :
    upToLast separator text ++ behindLast separator text = text := by
  unfold upToLast behindLast
  rw [← List.reverse_append, List.takeWhile_append_dropWhile, List.reverse_reverse]

lemma upToLast_append (h : separator ∉ rest) :
    upToLast separator (text ++ rest) = upToLast separator text := by
  unfold upToLast
  rw [List.reverse_append, List.dropWhile_append_of_pos fun c hc => by
    simpa using fun heq : c = separator => h (heq ▸ List.mem_reverse.1 hc)]

lemma behindLast_append (h : separator ∉ rest) :
    behindLast separator (text ++ rest) = behindLast separator text ++ rest := by
  unfold behindLast
  rw [List.reverse_append, List.takeWhile_append_of_pos fun c hc => by
    simpa using fun heq : c = separator => h (heq ▸ List.mem_reverse.1 hc)]
  simp

/-! ## Parsing -/

/-- `SplitResult`. -/
structure SplitResult where
  scheme : List Char
  netloc : List Char
  path : List Char
  query : List Char
  fragment : List Char

/-- `ParseResult`. -/
structure ParseResult where
  scheme : List Char
  netloc : List Char
  path : List Char
  params : List Char
  query : List Char
  fragment : List Char
  deriving DecidableEq

/-- `scheme_chars`. -/
def isSchemeChar (c : Char) : Bool := c.isAlphanum || c == '+' || c == '-' || c == '.'

/-- A character of `_UNSAFE_URL_BYTES_TO_REMOVE`. -/
def isUnsafe (c : Char) : Bool := c == '\t' || c == '\r' || c == '\n'

def isDelimiter (c : Char) : Bool := c == '/' || c == '?' || c == '#'

/-- What `NFKC` makes of a text, and whether a text is an address of version 6. -/
structure Unicode where
  nfkc : List Char → List Char
  isIpv6 : List Char → Bool

def cleaned (url : List Char) : List Char :=
  (url.dropWhile fun c => c.toNat ≤ 32).filter fun c => !isUnsafe c

def splitScheme (url : List Char) : List Char × List Char :=
  if ':' ∈ url ∧ (url.head?.any Char.isAlpha) = true ∧ (before ':' url).all isSchemeChar = true then
    ((before ':' url).map Char.toLower, behind ':' url)
  else ([], url)

def splitNetloc : List Char → List Char × List Char
  | '/' :: '/' :: url => (url.takeWhile (!isDelimiter ·), url.dropWhile (!isDelimiter ·))
  | url => ([], url)

/-- The regular expression of `IPvFuture`. -/
def isIpvFuture : List Char → Bool
  | 'v' :: host =>
    let version := before '.' host
    let address := behind '.' host
    version ≠ [] && version.all (fun c => c.isDigit || ('a' ≤ c && c ≤ 'f') || ('A' ≤ c && c ≤ 'F')) &&
      address ≠ [] && address.all (· ≠ '\n')
  | _ => false

variable (unicode : Unicode)

/-- `_check_bracketed_netloc` accepts the authority. -/
def checkBracketedNetloc (netloc : List Char) : Bool :=
  let hostnameAndPort := behindLast '@' netloc
  if '[' ∈ hostnameAndPort then
    let bracketed := behind '[' hostnameAndPort
    let hostname := before ']' bracketed
    let port := behind ']' bracketed
    before '[' hostnameAndPort = [] && (port = [] || port.head? = some ':') &&
      (if hostname.head? = some 'v' then isIpvFuture hostname else unicode.isIpv6 hostname)
  else
    let hostname := before ':' hostnameAndPort
    if hostname.head? = some 'v' then isIpvFuture hostname else unicode.isIpv6 hostname

def checkBrackets (netloc : List Char) : Bool :=
  if '[' ∈ netloc ∧ ']' ∈ netloc then checkBracketedNetloc unicode netloc
  else '[' ∉ netloc && ']' ∉ netloc

/-- `_checknetloc` accepts the authority. -/
def checkNetloc (netloc : List Char) : Bool :=
  let bare := netloc.filter fun c => !(c == '@' || c == ':' || c == '#' || c == '?')
  netloc.all (fun c => c.toNat < 128) || unicode.nfkc bare = bare ||
    (unicode.nfkc bare).all fun c =>
      !(c == '/' || c == '?' || c == '#' || c == '@' || c == ':')

/-- `urlsplit`, `none` where it raises. -/
def urlsplit (url : List Char) : Option SplitResult :=
  let (scheme, rest) := splitScheme (cleaned url)
  let (netloc, rest) := splitNetloc rest
  if checkBrackets unicode netloc && checkNetloc unicode netloc then
    some ⟨scheme, netloc, before '?' (before '#' rest), behind '?' (before '#' rest), behind '#' rest⟩
  else none

def usesParams (scheme : List Char) : Bool :=
  ["", "ftp", "hdl", "prospero", "http", "https", "shttp", "rtsp", "rtsps", "sip", "sips", "mms",
    "sftp", "tel"].any fun name => name.toList = scheme

def splitParams (path : List Char) : List Char × List Char :=
  (upToLast '/' path ++ before ';' (behindLast '/' path), behind ';' (behindLast '/' path))

/-- `urlparse`, `none` where it raises. -/
def urlparse (url : List Char) : Option ParseResult :=
  (urlsplit unicode url).map fun parts =>
    if usesParams parts.scheme then
      ⟨parts.scheme, parts.netloc, (splitParams parts.path).1, (splitParams parts.path).2, parts.query,
        parts.fragment⟩
    else ⟨parts.scheme, parts.netloc, parts.path, [], parts.query, parts.fragment⟩

/-! ## Putting together -/

def usesNetloc (scheme : List Char) : Bool :=
  ["", "ftp", "http", "gopher", "nntp", "telnet", "imap", "wais", "file", "mms", "https", "shttp",
    "snews", "prospero", "rtsp", "rtsps", "rtspu", "rsync", "svn", "svn+ssh", "sftp", "nfs", "git",
    "git+ssh", "ws", "wss", "itms-services"].any fun name => name.toList = scheme

def delimited (delimiter : Char) (part : List Char) : List Char :=
  if part = [] then [] else delimiter :: part

def withNetloc (scheme netloc path : List Char) : List Char :=
  if netloc ≠ [] then
    '/' :: '/' :: netloc ++ (if path ≠ [] ∧ path.head? ≠ some '/' then '/' :: path else path)
  else if path.take 2 = ['/', '/'] then '/' :: '/' :: path
  else if scheme ≠ [] ∧ usesNetloc scheme ∧ (path = [] ∨ path.head? = some '/') then
    '/' :: '/' :: path
  else path

def urlunsplit (parts : SplitResult) : List Char :=
  (if parts.scheme ≠ [] then parts.scheme ++ [':'] else []) ++
    (withNetloc parts.scheme parts.netloc parts.path ++
      (delimited '?' parts.query ++ delimited '#' parts.fragment))

def urlunparse (parts : ParseResult) : List Char :=
  urlunsplit ⟨parts.scheme, parts.netloc, parts.path ++ delimited ';' parts.params, parts.query,
    parts.fragment⟩

/-! ## Authorities -/

/-- The host and the port of the authority, as `_hostinfo` reads them. -/
def hostinfo (netloc : List Char) : List Char × List Char :=
  let info := behindLast '@' netloc
  if '[' ∈ info then
    let bracketed := behind '[' info
    (before ']' bracketed, behind ':' (behind ']' bracketed))
  else (before ':' info, behind ':' info)

/-- `hostname`: the zone of a scoped address stays as it is. -/
def hostname (netloc : List Char) : Option (List Char) :=
  let host := (hostinfo netloc).1
  if host = [] then none
  else some ((before '%' host).map Char.toLower ++ host.dropWhile (· ≠ '%'))

/-- `port`; the outer `none` where it raises. -/
def port (netloc : List Char) : Option (Option ℕ) :=
  let digits := (hostinfo netloc).2
  if digits = [] then some none
  else if digits.all Char.isDigit then
    if Nat.ofDigitChars 10 digits 0 ≤ 65535 then some (some (Nat.ofDigitChars 10 digits 0)) else none
  else none

/-! ## What is parsed, put together with another authority -/

/-- A scheme that `urlsplit` reads as it is. -/
def IsScheme (scheme : List Char) : Prop :=
  (scheme.head?.any fun c => c.isAlpha && 32 < c.toNat) = true ∧
    scheme.all (fun c => isSchemeChar c && !isUnsafe c && c ≠ ':') = true ∧
      scheme.map Char.toLower = scheme ∧ usesParams scheme = true

instance : DecidablePred IsScheme := fun scheme =>
  inferInstanceAs (Decidable
    ((scheme.head?.any fun c => c.isAlpha && 32 < c.toNat) = true ∧
      scheme.all (fun c => isSchemeChar c && !isUnsafe c && c ≠ ':') = true ∧
        scheme.map Char.toLower = scheme ∧ usesParams scheme = true))

def Safe (text : List Char) : Prop := ∀ c ∈ text, isUnsafe c = false

def Rooted (path : List Char) : Prop := path = [] ∨ path.head? = some '/'

/-- What follows the authority of a URL that was parsed. -/
structure Tail (parts : ParseResult) : Prop where
  safe : Safe parts.path ∧ Safe parts.params ∧ Safe parts.query ∧ Safe parts.fragment
  rooted : Rooted (parts.path ++ delimited ';' parts.params)
  path : '#' ∉ parts.path ∧ '?' ∉ parts.path ∧ ';' ∉ behindLast '/' parts.path
  params : '#' ∉ parts.params ∧ '?' ∉ parts.params ∧ '/' ∉ parts.params
  query : '#' ∉ parts.query

def IsAuthority (netloc : List Char) : Prop :=
  netloc ≠ [] ∧ Safe netloc ∧ ∀ c ∈ netloc, isDelimiter c = false

variable {delimiter : Char} {part : List Char}

lemma mem_delimited (h : c ∈ delimited delimiter part) :
    c = delimiter ∨ c ∈ part := by
  unfold delimited at h
  split_ifs at h with hpart
  · simp at h
  · simpa using h

lemma before_delimited (h : delimiter ∉ text) :
    before delimiter (text ++ delimited delimiter part) = text := by
  unfold delimited
  split_ifs with hpart
  · rw [List.append_nil, before_of_notMem h]
  · exact before_append h

lemma behind_delimited (h : delimiter ∉ text) :
    behind delimiter (text ++ delimited delimiter part) = part := by
  unfold delimited
  split_ifs with hpart
  · rw [List.append_nil, behind_of_notMem h, hpart]
  · exact behind_append h

lemma head_upToLast (h : text.head? = some separator) :
    (upToLast separator text).head? = some separator := by
  have hsplit := upToLast_append_behindLast separator text
  cases hup : upToLast separator text with
  | nil =>
    rw [hup, List.nil_append] at hsplit
    have hmem : separator ∈ text := List.mem_of_mem_head? (by rw [h]; rfl)
    exact absurd (hsplit ▸ hmem) notMem_behindLast
  | cons c rest =>
    rw [hup, List.cons_append] at hsplit
    rw [← hsplit] at h
    simpa using h

lemma splitParams_delimited {path params : List Char} (hpath : ';' ∉ behindLast '/' path)
    (hparams : '/' ∉ params) : splitParams (path ++ delimited ';' params) = (path, params) := by
  have hslash : '/' ∉ delimited ';' params := fun h =>
    (mem_delimited h).elim (by decide) hparams
  unfold splitParams
  rw [upToLast_append hslash, behindLast_append hslash, before_delimited hpath,
    behind_delimited hpath, upToLast_append_behindLast]

lemma Safe.append {left right : List Char} (hleft : Safe left) (hright : Safe right) :
    Safe (left ++ right) := fun c hc => (List.mem_append.1 hc).elim (hleft c) (hright c)

lemma Safe.delimited {delimiter : Char} {part : List Char} (hd : isUnsafe delimiter = false)
    (hpart : Safe part) : Safe (delimited delimiter part) := fun c hc =>
  (mem_delimited hc).elim (fun h => h ▸ hd) (hpart c)

lemma cleaned_scheme {scheme rest : List Char} (hscheme : IsScheme scheme) (hrest : Safe rest) :
    cleaned (scheme ++ rest) = scheme ++ rest := by
  obtain ⟨hhead, hall, -, -⟩ := hscheme
  cases scheme with
  | nil => simp at hhead
  | cons c scheme =>
    have hc : ¬ c.toNat ≤ 32 := by simp at hhead; omega
    unfold cleaned
    rw [List.cons_append, List.dropWhile_cons_of_neg (by simpa using hc), ← List.cons_append,
      List.filter_eq_self]
    intro d hd
    rcases List.mem_append.1 hd with hd | hd
    · have := List.all_eq_true.1 hall d hd
      simp_all
    · simp [hrest d hd]

lemma splitScheme_scheme {scheme rest : List Char} (hscheme : IsScheme scheme) :
    splitScheme (scheme ++ ':' :: rest) = (scheme, rest) := by
  obtain ⟨hhead, hall, hlower, -⟩ := hscheme
  have hcolon : ':' ∉ scheme := fun h => by simpa using List.all_eq_true.1 hall _ h
  unfold splitScheme
  rw [before_append hcolon, behind_append hcolon, hlower, if_pos]
  refine ⟨by simp, ?_, List.all_eq_true.2 fun c hc => ?_⟩
  · cases scheme with
    | nil => simp at hhead
    | cons c scheme => simp_all
  · have := List.all_eq_true.1 hall c hc
    simp_all

lemma splitNetloc_netloc {netloc rest : List Char} (hnetloc : ∀ c ∈ netloc, isDelimiter c = false)
    (hrest : rest = [] ∨ (rest.head?.any isDelimiter) = true) :
    splitNetloc ('/' :: '/' :: (netloc ++ rest)) = (netloc, rest) := by
  simp only [splitNetloc]
  rw [List.takeWhile_append_of_pos fun c hc => by simp [hnetloc c hc],
    List.dropWhile_append_of_pos fun c hc => by simp [hnetloc c hc]]
  cases rest with
  | nil => simp
  | cons c rest =>
    have hc : isDelimiter c = true := by simpa using hrest
    simp [hc]

/-- Put together with an authority, what was parsed is parsed as it was, where the authority is
accepted. -/
theorem urlparse_urlunparse {parts : ParseResult} (hscheme : IsScheme parts.scheme)
    (htail : Tail parts) (hnetloc : IsAuthority parts.netloc) :
    urlparse unicode (urlunparse parts) =
      if checkBrackets unicode parts.netloc && checkNetloc unicode parts.netloc then some parts
      else none := by
  obtain ⟨scheme, netloc, path, params, query, fragment⟩ := parts
  obtain ⟨⟨spath, sparams, squery, sfragment⟩, hrooted, ⟨p1, p2, p3⟩, ⟨q1, q2, q3⟩, r1⟩ := htail
  obtain ⟨n1, n2, n3⟩ := hnetloc
  dsimp only at *
  have hne : scheme ≠ [] := by rintro rfl; simp [IsScheme] at hscheme
  have hpath : (if path ++ delimited ';' params ≠ [] ∧
      (path ++ delimited ';' params).head? ≠ some '/' then '/' :: (path ++ delimited ';' params)
      else path ++ delimited ';' params) = path ++ delimited ';' params :=
    if_neg fun h => hrooted.elim h.1 h.2
  -- the URL as it is put together
  have hurl : urlunparse ⟨scheme, netloc, path, params, query, fragment⟩ =
      scheme ++ ':' :: ('/' :: '/' :: (netloc ++ (((path ++ delimited ';' params) ++
        delimited '?' query) ++ delimited '#' fragment))) := by
    simp only [urlunparse, urlunsplit, withNetloc, if_pos hne, if_pos n1, hpath]
    simp
  have hhash : '#' ∉ (path ++ delimited ';' params) ++ delimited '?' query := by
    intro h
    rcases List.mem_append.1 h with h | h
    · rcases List.mem_append.1 h with h | h
      · exact p1 h
      · exact (mem_delimited h).elim (by decide) q1
    · exact (mem_delimited h).elim (by decide) r1
  have hquestion : '?' ∉ path ++ delimited ';' params := by
    intro h
    rcases List.mem_append.1 h with h | h
    · exact p2 h
    · exact (mem_delimited h).elim (by decide) q2
  have hsafe : Safe (':' :: ('/' :: '/' :: (netloc ++ (((path ++ delimited ';' params) ++
      delimited '?' query) ++ delimited '#' fragment)))) :=
    Safe.append (show Safe [':', '/', '/'] by simp [Safe, isUnsafe])
      (n2.append (((spath.append (.delimited rfl sparams)).append (.delimited rfl squery)).append
        (.delimited rfl sfragment)))
  have hhead : (((path ++ delimited ';' params) ++ delimited '?' query) ++
      delimited '#' fragment) = [] ∨ ((((path ++ delimited ';' params) ++ delimited '?' query) ++
        delimited '#' fragment).head?.any isDelimiter) = true := by
    rcases hrooted with h | h
    · rw [h]
      unfold delimited
      split_ifs <;> simp [isDelimiter]
    · right
      rw [List.append_assoc, List.head?_append, h]
      rfl
  rw [hurl]
  unfold urlparse urlsplit
  simp only [cleaned_scheme hscheme hsafe, splitScheme_scheme hscheme, splitNetloc_netloc n3 hhead,
    before_delimited hhash, behind_delimited hhash, before_delimited hquestion,
    behind_delimited hquestion]
  split_ifs with hcheck
  · simp [hscheme.2.2.2, splitParams_delimited p3 q3]
  · rfl

lemma safe_cleaned (url : List Char) : Safe (cleaned url) := fun c hc => by
  simpa using (List.mem_filter.1 hc).2

variable {url : List Char}

lemma safe_splitScheme (h : Safe url) : Safe (splitScheme url).2 := by
  unfold splitScheme
  split_ifs
  · exact fun c hc => h c (mem_of_mem_behind hc)
  · exact h

lemma splitNetloc_spec (h : Safe url) (hne : (splitNetloc url).1 ≠ []) :
    IsAuthority (splitNetloc url).1 ∧ Safe (splitNetloc url).2 ∧
      ((splitNetloc url).2 = [] ∨ ((splitNetloc url).2.head?.any isDelimiter) = true) := by
  unfold splitNetloc at hne ⊢
  split at hne
  next url =>
    refine ⟨⟨hne, fun c hc => h c ?_, fun c hc => by simpa using List.mem_takeWhile_imp hc⟩,
      fun c hc => h c ?_, ?_⟩
    · exact .tail _ (.tail _ ((List.takeWhile_prefix _).subset hc))
    · exact .tail _ (.tail _ ((List.dropWhile_suffix _).subset hc))
    · cases hrest : url.dropWhile (!isDelimiter ·) with
      | nil => exact .inl rfl
      | cons c rest =>
        have := List.head_dropWhile_not (p := (!isDelimiter ·)) (l := url) (by simp [hrest])
        right
        simpa [hrest] using this
  next => exact absurd rfl hne

lemma rooted_before (h : rest = [] ∨ (rest.head?.any isDelimiter) = true) :
    Rooted (before '?' (before '#' rest)) := by
  rcases h with rfl | h
  · exact .inl rfl
  · cases rest with
    | nil => simp at h
    | cons c rest =>
      simp only [List.head?_cons, Option.any_some, isDelimiter, Bool.or_eq_true, beq_iff_eq] at h
      obtain (rfl | rfl) | rfl := h
      · exact .inr (by simp [before])
      · exact .inl (by simp [before])
      · exact .inl (by simp [before])

lemma rooted_splitParams {path : List Char} (h : Rooted path) :
    Rooted ((splitParams path).1 ++ delimited ';' (splitParams path).2) := by
  rcases h with rfl | h
  · exact .inl rfl
  · right
    unfold splitParams
    rw [List.append_assoc, List.head?_append, head_upToLast h]
    rfl

lemma behindLast_upToLast (separator : Char) (text : List Char) :
    behindLast separator (upToLast separator text) = [] := by
  unfold behindLast upToLast
  rw [List.reverse_reverse, List.reverse_eq_nil_iff]
  cases hrest : text.reverse.dropWhile (· ≠ separator) with
  | nil => rfl
  | cons c rest =>
    have hc := List.head_dropWhile_not (p := (· ≠ separator)) (by rw [hrest]; simp)
    simp only [hrest, List.head_cons] at hc
    exact List.takeWhile_cons_of_neg (by simpa using hc)

lemma splitParams_tail {path : List Char} :
    ';' ∉ behindLast '/' (splitParams path).1 ∧ '/' ∉ (splitParams path).2 ∧
      (∀ c ∈ (splitParams path).1, c ∈ path) ∧ ∀ c ∈ (splitParams path).2, c ∈ path := by
  have hslash : '/' ∉ before ';' (behindLast '/' path) := fun h =>
    notMem_behindLast (mem_of_mem_before h)
  refine ⟨?_, fun h => notMem_behindLast (mem_of_mem_behind h), fun c hc => ?_, fun c hc =>
    mem_of_mem_behindLast (mem_of_mem_behind hc)⟩
  · unfold splitParams
    rw [behindLast_append hslash]
    intro h
    rcases List.mem_append.1 h with h | h
    · rw [behindLast_upToLast] at h
      simp at h
    · exact notMem_before h
  · rcases List.mem_append.1 hc with hc | hc
    · exact List.mem_reverse.1 ((List.dropWhile_suffix _).subset (List.mem_reverse.1 hc))
    · exact mem_of_mem_behindLast (mem_of_mem_before hc)

theorem tail_of_urlparse {parts : ParseResult} (h : urlparse unicode url = some parts)
    (hscheme : usesParams parts.scheme = true) (hnetloc : parts.netloc ≠ []) :
    Tail parts ∧ IsAuthority parts.netloc ∧
      checkBrackets unicode parts.netloc = true ∧ checkNetloc unicode parts.netloc = true := by
  obtain ⟨split, hsplit, rfl⟩ := Option.map_eq_some_iff.1 h
  unfold urlsplit at hsplit
  have hsafe := safe_splitScheme (safe_cleaned url)
  generalize splitScheme (cleaned url) = cut at hsplit hsafe
  obtain ⟨scheme, rest⟩ := cut
  dsimp only at hsplit hsafe
  have hspec := splitNetloc_spec hsafe
  generalize splitNetloc rest = cut at hsplit hspec
  obtain ⟨netloc, rest⟩ := cut
  dsimp only at hsplit hspec
  split_ifs at hsplit with hcheck
  obtain rfl := Option.some.inj hsplit
  have huses : usesParams scheme = true := by
    by_contra hnot
    simp [hnot] at hscheme
  simp only [huses, if_true] at hnetloc ⊢
  obtain ⟨hauthority, hrest, hhead⟩ := hspec hnetloc
  obtain ⟨p1, p2, p3, p4⟩ := @splitParams_tail (before '?' (before '#' rest))
  have hbefore : ∀ {c}, c ∈ before '?' (before '#' rest) → c ∈ rest := fun hc =>
    mem_of_mem_before (mem_of_mem_before hc)
  refine ⟨⟨⟨fun c hc => hrest c (hbefore (p3 c hc)), fun c hc => hrest c (hbefore (p4 c hc)),
      fun c hc => hrest c (mem_of_mem_before (mem_of_mem_behind hc)), fun c hc =>
        hrest c (mem_of_mem_behind hc)⟩, rooted_splitParams (rooted_before hhead),
      ⟨fun h => ?_, fun h => ?_, p1⟩, ⟨fun h => ?_, fun h => ?_, p2⟩, fun h => ?_⟩, hauthority, ?_⟩
  · exact notMem_before (mem_of_mem_before (p3 _ h))
  · exact notMem_before (p3 _ h)
  · exact notMem_before (mem_of_mem_before (p4 _ h))
  · exact notMem_before (p4 _ h)
  · exact notMem_before (mem_of_mem_behind h)
  · simpa using hcheck

end PyUrl
