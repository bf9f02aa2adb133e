import SaasOs.Foundation.PyUrl
import SaasOs.Egress.Client

/-!
# Pinning a URL to an address

`pin_url_to_address` puts an address that was checked in place of the authority of a URL, and says
which `Host` header names the authority that was there.
-/

namespace SaasOs.Egress

open Ip

/-! ## The standard library -/

def unicode (nfkc : List Char → List Char) (library : Library) : PyUrl.Unicode :=
  ⟨nfkc, fun host => match library.ipAddress (String.ofList host) with
    | some (.v6 ..) => true
    | _ => false⟩

/-- The standard library with its `urlsplit`. -/
def withUrllib (nfkc : List Char → List Char) (library : Library) : Library :=
  { library with
    urlsplit := fun url => (PyUrl.urlsplit (unicode nfkc library) url.toList).map fun parts =>
      ⟨String.ofList parts.scheme, decide ('@' ∈ parts.netloc),
        (PyUrl.hostname parts.netloc).map String.ofList, PyUrl.port parts.netloc⟩ }

def addressChars : List Char := "0123456789abcdef:.".toList

/-- The characters that end a host, or that `urlsplit` drops. -/
def endingChars : List Char := "/?#@]\t\r\n".toList

/-- How `ipaddress` writes an address. -/
structure WritesAddresses (library : Library) : Prop where
  nonempty : ∀ address, library.str address ≠ ""
  v4 : ∀ bits, ∀ c ∈ (library.str (.v4 bits)).toList, c ∈ addressChars ∧ c ≠ ':'
  v6 : ∀ bits, ':' ∈ (library.str (.v6 bits none)).toList ∧
    ∀ c ∈ (library.str (.v6 bits none)).toList, c ∈ addressChars
  zone : ∀ bits scope, (library.str (.v6 bits (some scope))).toList =
    (library.str (.v6 bits none)).toList ++ '%' :: scope.toList

/-! ## Pinning -/

section Pinning

variable (nfkc : List Char → List Char) (library : Library)

def formatAddressForUrl (address : IPAddress) : List Char :=
  match address with
  | .v6 .. => '[' :: (library.str address).toList ++ [']']
  | .v4 _ => (library.str address).toList

def hostAndPort (host : List Char) (port : Option ℕ) : List Char :=
  host ++ port.elim [] fun port => ':' :: Nat.toDigits 10 port

/-- `pin_url_to_address`: the URL, the name for the certificate and the `Host` header; `none` where
it raises. -/
def pinUrlToAddress (url : List Char) (address : IPAddress) :
    Option (List Char × List Char × List Char) := do
  let parsed ← PyUrl.urlparse (unicode nfkc library) url
  let hostname ← PyUrl.hostname parsed.netloc
  let port ← PyUrl.port parsed.netloc
  some (PyUrl.urlunparse
      { parsed with netloc := hostAndPort (formatAddressForUrl library address) port },
    hostname, hostAndPort hostname port)

def uriAuthority (netloc : List Char) : Option (List Char) := do
  let hostname ← PyUrl.hostname netloc
  let port ← PyUrl.port netloc
  some (hostAndPort (if '[' ∈ netloc then '[' :: hostname ++ [']'] else hostname) port)

/-- A URL has the address as its host, and agrees with another in the rest. -/
structure OnlyHost (address : IPAddress) (original pinned : PyUrl.ParseResult) : Prop where
  host : PyUrl.hostname pinned.netloc = some (library.str address).toList
  scheme : pinned.scheme = original.scheme
  port : PyUrl.port pinned.netloc = PyUrl.port original.netloc
  path : pinned.path = original.path
  params : pinned.params = original.params
  query : pinned.query = original.query

def Pinned (url : List Char) (address : IPAddress) : Prop :=
  ∃ original pinnedUrl hostname hostHeader pinned,
    PyUrl.urlparse (unicode nfkc library) url = some original ∧
      pinUrlToAddress nfkc library url address = some (pinnedUrl, hostname, hostHeader) ∧
      PyUrl.urlparse (unicode nfkc library) pinnedUrl = some pinned ∧
      OnlyHost library address original pinned ∧ uriAuthority original.netloc = some hostHeader

/-- The host is not in brackets, nothing in the text of the address ends the host, and the authority
with the address is one that `urlsplit` takes for normalised. -/
def Pinnable (url : List Char) (address : IPAddress) : Prop :=
  ∃ original port, PyUrl.urlparse (unicode nfkc library) url = some original ∧
    PyUrl.port original.netloc = some port ∧ '[' ∉ original.netloc ∧
      (∀ c ∈ (library.str address).toList, c ∉ endingChars) ∧
      PyUrl.checkNetloc (unicode nfkc library)
        (hostAndPort (formatAddressForUrl library address) port) = true

variable {nfkc : List Char → List Char} {library : Library} {policy : StrictEgressPolicy}
  {url : String} {destination : Destination} {address : IPAddress}

/-! ## What is accepted -/

lemma parsed_of_validateUrl
    (h : validateUrl (withUrllib nfkc library) policy url = .ok destination) :
    ∃ original hostname port, PyUrl.urlparse (unicode nfkc library) url.toList = some original ∧
      PyUrl.hostname original.netloc = some hostname ∧ PyUrl.port original.netloc = some port ∧
      original.scheme = "https".toList ∧ '@' ∉ original.netloc := by
  unfold validateUrl at h
  split at h
  · cases h
  split at h
  · cases h
  next parts hparts =>
  split at h
  · cases h
  next port hport =>
  split at h
  · cases h
  next hscheme =>
  split at h
  · cases h
  next huser =>
  split at h
  · cases h
  next hostname hhost =>
  obtain ⟨split, hsplit, rfl⟩ := Option.map_eq_some_iff.1 hparts
  have hname : (PyUrl.hostname split.netloc).map String.ofList = some hostname :=
    (Option.filter_eq_some_iff.1 hhost).1
  obtain ⟨host, hhost, -⟩ := Option.map_eq_some_iff.1 hname
  have hs : split.scheme = "https".toList := by
    have : String.ofList split.scheme = "https" := not_not.1 hscheme
    rw [← this, String.toList_ofList]
  have huses : PyUrl.usesParams split.scheme = true := by rw [hs]; decide
  refine ⟨_, host, port, by rw [PyUrl.urlparse, hsplit, Option.map_some, if_pos huses], hhost, hport,
    hs, by simpa using huser⟩

/-! ## The text of an address -/

lemma text_eq (hw : WritesAddresses library) (address : IPAddress) :
    ∃ digits zone, (library.str address).toList = digits ++ zone ∧
      (∀ c ∈ digits, c ∈ addressChars) ∧ (zone = [] ∨ ∃ scope, zone = '%' :: scope) := by
  match address with
  | .v4 bits => exact ⟨_, [], (List.append_nil _).symm, fun c hc => (hw.v4 bits c hc).1, .inl rfl⟩
  | .v6 bits none => exact ⟨_, [], (List.append_nil _).symm, (hw.v6 bits).2, .inl rfl⟩
  | .v6 bits (some scope) =>
    exact ⟨_, _, hw.zone bits scope, (hw.v6 bits).2, .inr ⟨_, rfl⟩⟩

lemma head_text (hw : WritesAddresses library) (address : IPAddress) :
    (library.str address).toList.head? ≠ some 'v' := by
  obtain ⟨digits, zone, htext, hdigits, hzone⟩ := text_eq hw address
  rw [htext]
  cases digits with
  | nil => rcases hzone with rfl | ⟨scope, rfl⟩ <;> simp
  | cons c digits =>
    rintro h
    have hc : c = 'v' := by simpa using h
    exact absurd (hdigits 'v' (hc ▸ .head _)) (by decide)

variable {netloc : List Char}

lemma hostname_text (hw : WritesAddresses library)
    (h : (PyUrl.hostinfo netloc).1 = (library.str address).toList) :
    PyUrl.hostname netloc = some (library.str address).toList := by
  obtain ⟨digits, zone, htext, hdigits, hzone⟩ := text_eq hw address
  have hne : (library.str address).toList ≠ [] := by
    simpa using hw.nonempty address
  have hpercent : '%' ∉ digits := fun hc => absurd (hdigits _ hc) (by decide)
  have hbefore : PyUrl.before '%' (library.str address).toList = digits := by
    rw [htext]
    rcases hzone with rfl | ⟨scope, rfl⟩
    · rw [List.append_nil, PyUrl.before_of_notMem hpercent]
    · exact PyUrl.before_append hpercent
  have hchars : ∀ c ∈ addressChars, c.toLower = c := PyUrl.forall_mem_of_all (by decide)
  have hlower : digits.map Char.toLower = digits :=
    (List.map_congr_left fun c hc => hchars c (hdigits c hc)).trans (List.map_id digits)
  unfold PyUrl.hostname
  simp only [h, if_neg hne]
  rw [hbefore, hlower, ← hbefore]
  exact congrArg some List.takeWhile_append_dropWhile

def portSuffix (port : Option ℕ) : List Char := port.elim [] fun port => ':' :: Nat.toDigits 10 port

variable {port : Option ℕ} {c : Char}

lemma mem_portSuffix (h : c ∈ portSuffix port) :
    c = ':' ∨ c.isDigit = true := by
  cases port with
  | none => simp [portSuffix] at h
  | some n =>
    exact (List.mem_cons.1 h).imp_right fun h =>
      Nat.isDigit_of_mem_toDigits (by decide) (by decide) h

lemma behind_portSuffix (port : Option ℕ) :
    PyUrl.behind ':' (portSuffix port) = port.elim [] (Nat.toDigits 10) := by
  cases port with
  | none => rfl
  | some n => exact PyUrl.behind_append (List.not_mem_nil : ':' ∉ [])

lemma pinned_v6 (bits : Fin (2 ^ 128)) (scope : Option String) (port : Option ℕ) :
    hostAndPort (formatAddressForUrl library (.v6 bits scope)) port =
      '[' :: ((library.str (.v6 bits scope)).toList ++ ']' :: portSuffix port) := by
  simp [hostAndPort, formatAddressForUrl, portSuffix]

lemma mem_pinned (h : c ∈ hostAndPort (formatAddressForUrl library address) port) :
    c ∈ (library.str address).toList ∨ c ∈ "[]:".toList ∨ c.isDigit = true := by
  rcases List.mem_append.1 h with h | h
  · cases address with
    | v4 bits => exact .inl h
    | v6 bits scope =>
      simp only [formatAddressForUrl, List.mem_append, List.mem_cons, List.not_mem_nil,
        or_false] at h
      obtain (rfl | h) | rfl := h
      · exact .inr (.inl (by decide))
      · exact .inl h
      · exact .inr (.inl (by decide))
  · right
    rcases mem_portSuffix h with rfl | h
    · exact .inl (by decide)
    · exact .inr h

lemma pinned_notMem (hends : ∀ c ∈ (library.str address).toList, c ∉ endingChars)
    (h : c ∈ hostAndPort (formatAddressForUrl library address) port) (hc : c ≠ ']') :
    c ∉ endingChars := by
  have hdigit : ∀ c ∈ endingChars, c.isDigit = false := PyUrl.forall_mem_of_all (by decide)
  rcases mem_pinned h with h | h | h
  · exact hends c h
  · have : ∀ c ∈ "[]:".toList, c ≠ ']' → c ∉ endingChars := PyUrl.forall_mem_of_all (by decide)
    exact this c h hc
  · exact fun hmem => by simp [hdigit c hmem] at h

lemma clean_of_notMem (h : c ∉ endingChars) :
    PyUrl.isUnsafe c = false ∧ PyUrl.isDelimiter c = false := by
  refine ⟨Bool.eq_false_iff.2 fun hc => h ?_, Bool.eq_false_iff.2 fun hc => h ?_⟩
  · simp only [PyUrl.isUnsafe, Bool.or_eq_true, beq_iff_eq] at hc
    obtain (rfl | rfl) | rfl := hc <;> decide
  · simp only [PyUrl.isDelimiter, Bool.or_eq_true, beq_iff_eq] at hc
    obtain (rfl | rfl) | rfl := hc <;> decide

lemma isAuthority_pinned (hw : WritesAddresses library)
    (hends : ∀ c ∈ (library.str address).toList, c ∉ endingChars) :
    PyUrl.IsAuthority (hostAndPort (formatAddressForUrl library address) port) := by
  have hclean : ∀ c ∈ hostAndPort (formatAddressForUrl library address) port,
      PyUrl.isUnsafe c = false ∧ PyUrl.isDelimiter c = false := by
    intro c hc
    by_cases heq : c = ']'
    · subst heq
      decide
    · exact clean_of_notMem (pinned_notMem hends hc heq)
  refine ⟨fun h => ?_, fun c hc => (hclean c hc).1, fun c hc => (hclean c hc).2⟩
  have hne : (library.str address).toList ≠ [] := by simpa using hw.nonempty address
  cases address with
  | v4 bits => exact hne (List.append_eq_nil_iff.1 h).1
  | v6 bits scope => simp [pinned_v6] at h

lemma behindLast_pinned (hends : ∀ c ∈ (library.str address).toList, c ∉ endingChars) :
    PyUrl.behindLast '@' (hostAndPort (formatAddressForUrl library address) port) =
      hostAndPort (formatAddressForUrl library address) port :=
  PyUrl.behindLast_of_notMem fun h => pinned_notMem hends h (by decide) (by decide)

lemma v4_notMem (hw : WritesAddresses library) {bits : Fin (2 ^ 32)}
    (hc : c ∉ addressChars ∧ c ≠ ':' ∧ c.isDigit = false) :
    c ∉ hostAndPort (formatAddressForUrl library (.v4 bits)) port := fun h =>
  (List.mem_append.1 h).elim (fun h => hc.1 (hw.v4 bits c h).1) fun h =>
    (mem_portSuffix h).elim hc.2.1 fun h => by simp [hc.2.2] at h

lemma hostinfo_pinned (hw : WritesAddresses library)
    (hends : ∀ c ∈ (library.str address).toList, c ∉ endingChars) :
    PyUrl.hostinfo (hostAndPort (formatAddressForUrl library address) port) =
      ((library.str address).toList, port.elim [] (Nat.toDigits 10)) := by
  unfold PyUrl.hostinfo
  rw [behindLast_pinned hends]
  cases address with
  | v4 bits =>
    have hcolon : ':' ∉ (library.str (.v4 bits)).toList := fun h => (hw.v4 bits _ h).2 rfl
    rw [if_neg (v4_notMem hw (by decide))]
    cases port with
    | none =>
      simp only [hostAndPort, formatAddressForUrl, Option.elim_none, List.append_nil,
        PyUrl.before_of_notMem hcolon, PyUrl.behind_of_notMem hcolon]
    | some n =>
      simp only [hostAndPort, formatAddressForUrl, Option.elim_some,
        PyUrl.before_append hcolon, PyUrl.behind_append hcolon]
  | v6 bits scope =>
    have hbracket : ']' ∉ (library.str (.v6 bits scope)).toList := fun h =>
      hends _ h (by decide)
    rw [pinned_v6, if_pos (by simp)]
    have hopen : PyUrl.behind '[' ('[' :: ((library.str (.v6 bits scope)).toList ++
        ']' :: portSuffix port)) = (library.str (.v6 bits scope)).toList ++ ']' :: portSuffix port :=
      PyUrl.behind_append (List.not_mem_nil : '[' ∉ [])
    simp only [hopen, PyUrl.before_append hbracket, PyUrl.behind_append hbracket,
      behind_portSuffix]

lemma checkBrackets_pinned (hw : WritesAddresses library)
    (ha : library.ipAddress (library.str address) = some address)
    (hends : ∀ c ∈ (library.str address).toList, c ∉ endingChars) :
    PyUrl.checkBrackets (unicode nfkc library)
      (hostAndPort (formatAddressForUrl library address) port) = true := by
  unfold PyUrl.checkBrackets
  cases haddress : address with
  | v4 bits =>
    have hopen : '[' ∉ hostAndPort (formatAddressForUrl library (.v4 bits)) port :=
      v4_notMem hw (by decide)
    have hclose : ']' ∉ hostAndPort (formatAddressForUrl library (.v4 bits)) port :=
      v4_notMem hw (by decide)
    rw [if_neg fun h => hopen h.1]
    simp [hopen, hclose]
  | v6 bits scope =>
    subst haddress
    have hbracket : ']' ∉ (library.str (.v6 bits scope)).toList := fun h =>
      hends _ h (by decide)
    have hv := head_text hw (.v6 bits scope)
    rw [if_pos (by rw [pinned_v6]; simp)]
    unfold PyUrl.checkBracketedNetloc
    rw [behindLast_pinned hends, pinned_v6, if_pos (by simp)]
    have hopen : PyUrl.behind '[' ('[' :: ((library.str (.v6 bits scope)).toList ++
        ']' :: portSuffix port)) = (library.str (.v6 bits scope)).toList ++ ']' :: portSuffix port :=
      PyUrl.behind_append (List.not_mem_nil : '[' ∉ [])
    have hhead : portSuffix port = [] ∨ (portSuffix port).head? = some ':' := by
      cases port with
      | none => exact .inl rfl
      | some n => exact .inr rfl
    simp only [hopen, PyUrl.before_append hbracket, PyUrl.behind_append hbracket, if_neg hv]
    simp [PyUrl.before, unicode, String.ofList_toList, ha, hhead]

lemma port_digits {netloc netloc' : List Char} (h : PyUrl.port netloc = some port)
    (hinfo : (PyUrl.hostinfo netloc').2 = port.elim [] (Nat.toDigits 10)) :
    PyUrl.port netloc' = some port := by
  unfold PyUrl.port at h ⊢
  rw [hinfo]
  cases port with
  | none => rfl
  | some n =>
    have hn : n ≤ 65535 := by
      simp only at h
      split_ifs at h with h1 h2 h3 <;> simp_all
    have hall : (Nat.toDigits 10 n).all Char.isDigit = true := List.all_eq_true.2 fun c hc =>
      Nat.isDigit_of_mem_toDigits (by decide) (by decide) hc
    simp [Nat.toDigits_ne_nil, hall, Nat.ofDigitChars_ten_toDigits, hn]

/-! ## Exactly when -/

variable {original : PyUrl.ParseResult} {text : List Char}

lemma urlparse_pinned (hw : WritesAddresses library) {port : Option ℕ}
    (horiginal : PyUrl.urlparse (unicode nfkc library) text = some original)
    (hscheme : original.scheme = "https".toList) (hnetloc : original.netloc ≠ [])
    (ha : library.ipAddress (library.str address) = some address)
    (hends : ∀ c ∈ (library.str address).toList, c ∉ endingChars) :
    PyUrl.urlparse (unicode nfkc library) (PyUrl.urlunparse
        { original with netloc := hostAndPort (formatAddressForUrl library address) port }) =
      if PyUrl.checkNetloc (unicode nfkc library)
          (hostAndPort (formatAddressForUrl library address) port) then
        some { original with netloc := hostAndPort (formatAddressForUrl library address) port }
      else none := by
  have htail := (PyUrl.tail_of_urlparse _ horiginal (by rw [hscheme]; decide) hnetloc).1
  have hcheck : PyUrl.checkBrackets (unicode nfkc library)
      (hostAndPort (formatAddressForUrl library address) port) = true :=
    checkBrackets_pinned hw ha hends
  have hauthority : PyUrl.IsAuthority (hostAndPort (formatAddressForUrl library address) port) :=
    isAuthority_pinned hw hends
  generalize hostAndPort (formatAddressForUrl library address) port = netloc at *
  have hs : PyUrl.IsScheme ({ original with netloc := netloc } : PyUrl.ParseResult).scheme := by
    dsimp only
    rw [hscheme]
    decide
  have ht : PyUrl.Tail { original with netloc := netloc } :=
    ⟨htail.safe, htail.rooted, htail.path, htail.params, htail.query⟩
  rw [PyUrl.urlparse_urlunparse _ hs ht hauthority, hcheck, Bool.true_and]

lemma colon_mem (hw : WritesAddresses library) (bits : Fin (2 ^ 128)) (scope : Option String) :
    ':' ∈ (library.str (.v6 bits scope)).toList := by
  cases scope with
  | none => exact (hw.v6 bits).1
  | some scope =>
    rw [hw.zone]
    exact List.mem_append_left _ (hw.v6 bits).1

lemma toLower_eq_of_lt (h : c.toLower.toNat < 97) : c.toLower = c := by
  unfold Char.toLower at h ⊢
  split_ifs with hupper
  · rw [dif_pos hupper] at h
    have hge : 65 ≤ c.val.toNat := by simpa using UInt32.le_iff_toNat_le.1 hupper.1
    have hle : c.val.toNat ≤ 90 := by simpa using UInt32.le_iff_toNat_le.1 hupper.2
    have hval : (c.val + ('a'.val - 'A'.val)).toNat = c.val.toNat + 32 := by
      rw [UInt32.toNat_add]
      have : ('a'.val - 'A'.val).toNat = 32 := by decide
      omega
    have : (c.val + ('a'.val - 'A'.val)).toNat < 97 := h
    omega
  · rfl

lemma notMem_of_hostname (hw : WritesAddresses library) (hnetloc : PyUrl.IsAuthority netloc)
    (h : PyUrl.hostname netloc = some (library.str address).toList) :
    ∀ c ∈ (library.str address).toList, c ∉ endingChars := by
  have hsmall : ∀ c ∈ endingChars, c.toNat < 97 := PyUrl.forall_mem_of_all (by decide)
  have hmem : ∀ c ∈ (library.str address).toList, c.toNat < 97 →
      c ∈ (PyUrl.hostinfo netloc).1 := by
    intro c hc hlt
    unfold PyUrl.hostname at h
    dsimp only at h
    split_ifs at h
    rw [← Option.some.inj h] at hc
    rcases List.mem_append.1 hc with hc | hc
    · obtain ⟨d, hd, rfl⟩ := List.mem_map.1 hc
      rw [toLower_eq_of_lt hlt]
      exact PyUrl.mem_of_mem_before hd
    · exact (List.dropWhile_suffix _).subset hc
  obtain ⟨-, hsafe, hdelimiter⟩ := hnetloc
  intro c hc hending
  have hhost := hmem c hc (hsmall c hending)
  have hkinds : ∀ c ∈ endingChars, PyUrl.isUnsafe c = true ∨ PyUrl.isDelimiter c = true ∨
      c = '@' ∨ c = ']' := PyUrl.forall_mem_of_all (by decide)
  unfold PyUrl.hostinfo at hhost hmem
  dsimp only at hhost hmem
  by_cases hopen : '[' ∈ PyUrl.behindLast '@' netloc
  · -- the host ends with the bracket, and stands behind the userinfo
    rw [if_pos hopen] at hhost
    have hinfo : c ∈ PyUrl.behindLast '@' netloc :=
      PyUrl.mem_of_mem_behind (PyUrl.mem_of_mem_before hhost)
    have hin := PyUrl.mem_of_mem_behindLast hinfo
    obtain h | h | rfl | rfl := hkinds c hending
    · exact absurd (hsafe c hin) (by simp [h])
    · exact absurd (hdelimiter c hin) (by simp [h])
    · exact PyUrl.notMem_behindLast hinfo
    · exact PyUrl.notMem_before hhost
  · -- without a bracket there is no colon in the host
    rw [if_neg hopen] at hmem
    cases address with
    | v4 bits =>
      have : ∀ c ∈ addressChars, c ∉ endingChars := PyUrl.forall_mem_of_all (by decide)
      exact this c (hw.v4 bits c hc).1 hending
    | v6 bits scope => exact PyUrl.notMem_before (hmem ':' (colon_mem hw bits scope) (by decide))

theorem not_pinned_of_bracket
    (horiginal : PyUrl.urlparse (unicode nfkc library) text = some original)
    (hopen : '[' ∈ original.netloc) : ¬ Pinned nfkc library text address := by
  rintro ⟨original', pinnedUrl, sni, hostHeader, pinned, hparse, hpin, -, -, hheader⟩
  obtain rfl : original = original' := Option.some.inj (horiginal.symm.trans hparse)
  unfold uriAuthority at hheader
  unfold pinUrlToAddress at hpin
  cases hhost : PyUrl.hostname original.netloc with
  | none => simp [hhost] at hheader
  | some hostname =>
    cases hport : PyUrl.port original.netloc with
    | none => simp [hhost, hport] at hheader
    | some port =>
      simp only [horiginal, hhost, hport, Option.bind_eq_bind, Option.bind_some, if_pos hopen,
        Option.some.injEq, Prod.mk.injEq] at hheader hpin
      -- the header that is written is shorter by the two brackets
      have hlength := congrArg List.length (hheader.trans hpin.2.2.symm)
      simp only [hostAndPort, List.length_append, List.length_cons, List.length_nil] at hlength
      omega

/-- For every URL that is accepted and every address: pinning changes only where the connection goes,
exactly if the host is not in brackets, nothing in the text of the address ends the host, and the
authority with it is one that `urlsplit` takes for normalised. -/
theorem pinned_iff (hw : WritesAddresses library)
    (ha : library.ipAddress (library.str address) = some address)
    (h : validateUrl (withUrllib nfkc library) policy url = .ok destination) :
    Pinned nfkc library url.toList address ↔ Pinnable nfkc library url.toList address := by
  obtain ⟨original, hostname, port, horiginal, hhost, hport, hscheme, huser⟩ :=
    parsed_of_validateUrl h
  have hnetloc : original.netloc ≠ [] := by
    intro hnil
    simp [hnil, PyUrl.hostname, PyUrl.hostinfo, PyUrl.behindLast, PyUrl.before] at hhost
  have hpin : pinUrlToAddress nfkc library url.toList address =
      some (PyUrl.urlunparse
        { original with netloc := hostAndPort (formatAddressForUrl library address) port },
        hostname, hostAndPort hostname port) := by
    simp [pinUrlToAddress, horiginal, hhost, hport]
  constructor
  · rintro ⟨original', pinnedUrl, sni, hostHeader, pinned, hparse, hpin', hpinned, honly, hheader⟩
    obtain rfl : original = original' := Option.some.inj (horiginal.symm.trans hparse)
    rw [hpin] at hpin'
    obtain ⟨rfl, rfl, rfl⟩ : _ = pinnedUrl ∧ _ = sni ∧ _ = hostHeader := by simpa using hpin'
    have hauthority : PyUrl.IsAuthority pinned.netloc :=
      (PyUrl.tail_of_urlparse _ hpinned (by rw [honly.scheme, hscheme]; decide) fun hnil => by
        have := honly.host
        simp [hnil, PyUrl.hostname, PyUrl.hostinfo, PyUrl.behindLast, PyUrl.before] at this).2.1
    have hends := notMem_of_hostname hw hauthority honly.host
    refine ⟨original, port, horiginal, hport, fun hopen => ?_, hends, ?_⟩
    · exact not_pinned_of_bracket horiginal hopen
        ⟨original, _, _, _, pinned, horiginal, hpin, hpinned, honly, hheader⟩
    · by_contra hcheck
      rw [urlparse_pinned hw horiginal hscheme hnetloc ha hends, if_neg hcheck] at hpinned
      cases hpinned
  · rintro ⟨original', port', hparse, hport', hopen, hends, hcheck⟩
    obtain rfl : original = original' := Option.some.inj (horiginal.symm.trans hparse)
    obtain rfl : port = port' := Option.some.inj (hport.symm.trans hport')
    have hinfo : PyUrl.hostinfo (hostAndPort (formatAddressForUrl library address) port) =
        ((library.str address).toList, port.elim [] (Nat.toDigits 10)) := hostinfo_pinned hw hends
    refine ⟨original, _, _, _, _, horiginal, hpin,
      (urlparse_pinned hw horiginal hscheme hnetloc ha hends).trans (if_pos hcheck),
      ⟨hostname_text hw (congrArg Prod.fst hinfo), rfl,
        (port_digits hport (congrArg Prod.snd hinfo)).trans hport.symm, rfl, rfl, rfl⟩, ?_⟩
    simp [uriAuthority, hhost, hport, hopen]

def cloudflare : Library where
  urlsplit _ := none
  ipAddress text :=
    if text = "1.1.1.1" then some (.v4 ⟨0x1010101, by decide⟩)
    else if text = "2606:4700:4700::1111" then
      some (.v6 ⟨0x26064700470000000000000000001111, by decide⟩ none)
    else none
  str
    | .v4 _ => "1.1.1.1"
    | .v6 _ none => "2606:4700:4700::1111"
    | .v6 _ (some scope) => "2606:4700:4700::1111%" ++ scope
  classes := ⟨fun _ => true, fun _ => false, fun _ => false, fun _ => false, fun _ => false,
    fun _ => false, fun _ => false, fun _ => false⟩

def defaultPolicy : StrictEgressPolicy := ⟨1024, [443], 2, []⟩

lemma cloudflare_writes : WritesAddresses cloudflare where
  nonempty address := by
    match address with
    | .v4 _ | .v6 _ none => simp [cloudflare]
    | .v6 _ (some _) => simp [cloudflare]
  v4 _ := show ∀ c ∈ "1.1.1.1".toList, c ∈ addressChars ∧ c ≠ ':' from
    PyUrl.forall_mem_of_all (by decide)
  v6 _ := show ':' ∈ "2606:4700:4700::1111".toList ∧
    ∀ c ∈ "2606:4700:4700::1111".toList, c ∈ addressChars from
    ⟨by decide, PyUrl.forall_mem_of_all (by decide)⟩
  zone _ scope := by simp [cloudflare]

theorem pinned_host : Pinned id cloudflare "https://example.com:443/a;b?c#d".toList (.v4 0x1010101) :=
  (pinned_iff cloudflare_writes (by decide +kernel)
    (show validateUrl (withUrllib id cloudflare) defaultPolicy "https://example.com:443/a;b?c#d" =
      .ok ⟨"example.com", 443, none⟩ by decide +kernel)).2
    ⟨⟨"https".toList, "example.com:443".toList, "/a".toList, "b".toList, "c".toList, "d".toList⟩,
      some 443, by decide +kernel, by decide +kernel, by decide +kernel,
      PyUrl.forall_mem_of_all (by decide +kernel), by decide +kernel⟩

/-- The literal of an address of version 6 is accepted, and its `Host` header has no brackets. -/
theorem literal_pinned_without_brackets :
    validateUrl (withUrllib id cloudflare) defaultPolicy "https://[2606:4700:4700::1111]/" =
        .ok ⟨"2606:4700:4700::1111", 443, some (.v6 0x26064700470000000000000000001111 none)⟩ ∧
      ¬ Pinned id cloudflare "https://[2606:4700:4700::1111]/".toList
        (.v6 0x26064700470000000000000000001111 none) :=
  ⟨by decide +kernel, not_pinned_of_bracket
    (show _ = some ⟨"https".toList, "[2606:4700:4700::1111]".toList, "/".toList, [], [], []⟩ by
      decide +kernel) (by decide +kernel)⟩

end Pinning

end SaasOs.Egress
