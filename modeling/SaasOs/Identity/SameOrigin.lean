import SaasOs.Foundation.PyString
import SaasOs.Foundation.PyUrl

/-!
# The same-origin guard

A state change that a browser authenticates by its cookie must carry the origin of the application.
The origin that the header names and the trusted one are compared as texts, put together from what
`urlsplit` reads.  A host loses its brackets there, so an IPv6 address that ends like another
address with a port is taken for it, and a literal of a future version for a name (`Confused`); and
an empty user information, query or fragment is read like none (`EmptyDelimited`).  Apart from
these, equal texts denote equal origins.
-/

namespace SaasOs.SameOrigin

open PyUrl

/-! ## Origins -/

/-- What an origin is put together from; the text does not show whether the host was written in
brackets. -/
@[ext]
structure OriginParts where
  scheme : List Char
  literal : Bool
  host : List Char
  port : Option ℕ

def defaultPorts : List (List Char × ℕ) :=
  [(['h', 't', 't', 'p'], 80), (['h', 't', 't', 'p', 's'], 443)]

/-- `value.strip()`. -/
def strip (value : List Char) : List Char :=
  ((value.dropWhile PyString.isSpace).reverse.dropWhile PyString.isSpace).reverse

def userInfo (netloc : List Char) : Option (List Char) :=
  if '@' ∈ netloc then some (upToLast '@' netloc).dropLast else none

def username (netloc : List Char) : Option (List Char) :=
  (userInfo netloc).map (before ':')

def password (netloc : List Char) : Option (List Char) :=
  (userInfo netloc).bind fun info => if ':' ∈ info then some (behind ':' info) else none

section Normalize

variable (unicode : Unicode) (lower : List Char → List Char)

/-- `hostname`, with the zone of a scoped address as it is. -/
def hostnameOf (netloc : List Char) : Option (List Char) :=
  let host := (hostinfo netloc).1
  if host = [] then none else some (lower (before '%' host) ++ host.dropWhile (· ≠ '%'))

/-- `port`; the outer `none` where it raises, which `int` does for more than 4300 digits. -/
def portOf (netloc : List Char) : Option (Option ℕ) :=
  if 4300 < (hostinfo netloc).2.length then none else PyUrl.port netloc

/-- The checks of `_normalized_origin`, and the parts that are put together; the ports are those
for which the text shows none. -/
def readOrigin (value : List Char) : Option OriginParts :=
  match urlsplit unicode (strip value) with
  | none => none
  | some parts =>
    match portOf parts.netloc with
    | none => none
    | some port =>
      match defaultPorts.lookup parts.scheme, hostnameOf lower parts.netloc with
      | some defaultPort, some hostname =>
        if ¬ (parts.path = [] ∨ parts.path = ['/']) ∨ parts.query ≠ [] ∨ parts.fragment ≠ [] ∨
            (username parts.netloc).any (· ≠ []) = true then none
        else if (password parts.netloc).isSome then none
        else some ⟨parts.scheme, decide ('[' ∈ behindLast '@' parts.netloc), lower hostname,
          port.filter (· ≠ defaultPort)⟩
      | _, _ => none

def OriginParts.text (parts : OriginParts) : List Char :=
  parts.scheme ++ [':', '/', '/'] ++ parts.host ++
    match parts.port with
    | none => []
    | some port => ':' :: Nat.toDigits 10 port

def normalizedOrigin (value : List Char) : Option (List Char) :=
  (readOrigin unicode lower value).map OriginParts.text

/-- The scheme, the host and the port that a text denotes, as `urlsplit` reads it. -/
def denoted (value : List Char) : Option (List Char × Bool × List Char × ℕ) :=
  (readOrigin unicode lower value).map fun parts =>
    (parts.scheme, parts.literal, parts.host,
      parts.port.getD ((defaultPorts.lookup parts.scheme).getD 0))

/-- The text is exactly an origin: a known scheme, a host, a port that can be read, a path that is
empty or a slash, and no delimiter of a user information, a query or a fragment. -/
def IsOrigin (value : List Char) : Prop :=
  '?' ∉ value ∧ '#' ∉ value ∧ ∃ parts, urlsplit unicode (strip value) = some parts ∧
    (defaultPorts.lookup parts.scheme).isSome = true ∧
      (hostnameOf lower parts.netloc).isSome = true ∧ (portOf parts.netloc).isSome = true ∧
        '@' ∉ parts.netloc ∧ (parts.path = [] ∨ parts.path = ['/'])

/-- The text has the delimiter of a user information, a query or a fragment, with nothing where it
delimits, and is an origin without. -/
def EmptyDelimited (value : List Char) : Prop :=
  ∃ parts, urlsplit unicode (strip value) = some parts ∧
    ('@' ∈ parts.netloc ∨ '?' ∈ value ∨ '#' ∈ value) ∧
      (username parts.netloc).any (· ≠ []) = false ∧ password parts.netloc = none ∧
        parts.query = [] ∧ parts.fragment = [] ∧ (defaultPorts.lookup parts.scheme).isSome = true ∧
          (hostnameOf lower parts.netloc).isSome = true ∧ (portOf parts.netloc).isSome = true ∧
            (parts.path = [] ∨ parts.path = ['/'])

def IsConfused (a b : OriginParts) : Prop :=
  a.scheme = b.scheme ∧ a.port = none ∧
    ∃ port ∈ b.port, a.host = b.host ++ ':' :: Nat.toDigits 10 port

def IsBracketed (a b : OriginParts) : Prop :=
  a.scheme = b.scheme ∧ a.literal ≠ b.literal ∧ a.host = b.host ∧ a.port = b.port

/-- The texts are read as two origins, with one spelling of host and port for both. -/
def Confused (a b : List Char) : Prop :=
  ∃ x ∈ readOrigin unicode lower a, ∃ y ∈ readOrigin unicode lower b,
    IsConfused x y ∨ IsConfused y x ∨ IsBracketed x y

/-! ## The guard -/

structure AuthHttpConfig where
  publicAppOrigin : Option (List Char)
  redirectUri : List Char

/-- The origin that is trusted, before it is normalized; `none` if `urlsplit` raises. -/
def trustedSource (config : AuthHttpConfig) : Option (List Char) :=
  match config.publicAppOrigin with
  | some origin => some origin
  | none => (urlsplit unicode config.redirectUri).map fun callback =>
    callback.scheme ++ [':', '/', '/'] ++ callback.netloc

/-- The headers of a request that the guard reads; the method is in upper case. -/
structure GuardedRequest where
  method : String
  authorization : Option (List Char)
  cookieToken : Option (List Char)
  origin : Option (List Char)
  secFetchSite : Option (List Char)

def safeMethods : List String := ["GET", "HEAD", "OPTIONS"]

/-- How the guard ends: the request passes, is forbidden with a reason, or `urlsplit` raises. -/
inductive GuardOutcome
  | passed
  | forbidden (reason : String)
  | raised
  deriving DecidableEq

/-- `_enforce_same_origin_for_cookie_mutation`; there is no configuration where reading it raises. -/
def enforceSameOrigin (config : Option AuthHttpConfig) (request : GuardedRequest) : GuardOutcome :=
  if request.authorization.isSome || safeMethods.contains request.method then .passed
  else
    match config with
    | none => .forbidden "no_trusted_origin_configured"
    | some config =>
      match trustedSource unicode config with
      | none => .raised
      | some source =>
        match normalizedOrigin unicode lower source, request.origin with
        | none, _ => .forbidden "no_trusted_origin_configured"
        | some _, none => .forbidden "origin_missing"
        | some trusted, some origin =>
          if normalizedOrigin unicode lower origin ≠ some trusted then .forbidden "origin_mismatch"
          else if request.secFetchSite.any
              (fun site => lower (strip site) ≠ "same-origin".toList) then
            .forbidden "fetch_site_not_same_origin"
          else .passed

def cookieMutationGuard (config : Option AuthHttpConfig) (request : GuardedRequest) :
    GuardOutcome :=
  if request.cookieToken.isSome then enforceSameOrigin unicode lower config request else .passed

def IsCookieMutation (request : GuardedRequest) : Prop :=
  request.cookieToken.isSome = true ∧ request.authorization = none ∧ request.method ∉ safeMethods

/-- `Sec-Fetch-Site` is absent or same-origin. -/
def IsSameSite (request : GuardedRequest) : Prop :=
  request.secFetchSite.any (fun site => lower (strip site) ≠ "same-origin".toList) = false

/-- The header `Origin` denotes the trusted origin. -/
def DenotesTrusted (config : Option AuthHttpConfig) (request : GuardedRequest) : Prop :=
  ∃ settings ∈ config, ∃ source ∈ trustedSource unicode settings, ∃ origin ∈ request.origin,
    ∃ meaning ∈ denoted unicode lower origin, denoted unicode lower source = some meaning

/-- The header `Origin` is confused with the trusted origin. -/
def IsConfusedRequest (config : Option AuthHttpConfig) (request : GuardedRequest) : Prop :=
  ∃ settings ∈ config, ∃ source ∈ trustedSource unicode settings, ∃ origin ∈ request.origin,
    Confused unicode lower origin source

end Normalize

variable {unicode : Unicode} {lower : List Char → List Char} {a b value : List Char}
  {x y : OriginParts}

/-! ## Texts of origins -/

/-- The parts that are read have a known scheme, and no port that is the default one. -/
structure IsRead (x : OriginParts) : Prop where
  scheme : ∃ defaultPort, defaultPorts.lookup x.scheme = some defaultPort ∧
    x.port ≠ some defaultPort

lemma isRead_of_readOrigin (h : readOrigin unicode lower value = some x) : IsRead x := by
  unfold readOrigin at h
  cases hsplit : urlsplit unicode (strip value) with
  | none =>
    rw [hsplit] at h
    cases h
  | some parts =>
    rw [hsplit] at h
    dsimp only at h
    cases hport : portOf parts.netloc with
    | none =>
      rw [hport] at h
      cases h
    | some port =>
      rw [hport] at h
      dsimp only at h
      cases hscheme : defaultPorts.lookup parts.scheme with
      | none =>
        rw [hscheme] at h
        cases h
      | some defaultPort =>
        cases hhost : hostnameOf lower parts.netloc with
        | none =>
          rw [hscheme, hhost] at h
          cases h
        | some hostname =>
          rw [hscheme, hhost] at h
          dsimp only at h
          split at h
          · cases h
          · split at h
            · cases h
            · cases h
              refine ⟨defaultPort, hscheme, fun heq => ?_⟩
              have hfilter := (Option.filter_eq_some_iff.mp heq).2
              simp at hfilter

lemma IsRead.scheme_cases (h : IsRead x) :
    x.scheme = ['h', 't', 't', 'p'] ∨ x.scheme = ['h', 't', 't', 'p', 's'] := by
  obtain ⟨defaultPort, hlookup, -⟩ := h.scheme
  unfold defaultPorts at hlookup
  rw [List.lookup_cons, List.lookup_cons, List.lookup_nil] at hlookup
  cases hhttp : x.scheme == ['h', 't', 't', 'p'] with
  | true => exact .inl (beq_iff_eq.mp hhttp)
  | false =>
    rw [hhttp] at hlookup
    cases hhttps : x.scheme == ['h', 't', 't', 'p', 's'] with
    | true => exact .inr (beq_iff_eq.mp hhttps)
    | false =>
      rw [hhttps] at hlookup
      cases hlookup

def OriginParts.rest (parts : OriginParts) : List Char :=
  parts.host ++
    match parts.port with
    | none => []
    | some port => ':' :: Nat.toDigits 10 port

lemma scheme_eq_of_text_eq (hx : IsRead x) (hy : IsRead y) (h : x.text = y.text) :
    x.scheme = y.scheme ∧ x.rest = y.rest := by
  have hsplit : ∀ parts : OriginParts, parts.text = parts.scheme ++ ([':', '/', '/'] ++ parts.rest) :=
    fun parts => by
      unfold OriginParts.text OriginParts.rest
      simp only [List.append_assoc]
  rw [hsplit, hsplit] at h
  rcases hx.scheme_cases with hxs | hxs <;> rcases hy.scheme_cases with hys | hys <;>
    rw [hxs, hys] at h ⊢
  · exact ⟨rfl, by simpa using h⟩
  · simp at h
  · simp at h
  · exact ⟨rfl, by simpa using h⟩

lemma colon_not_mem_toDigits (n : ℕ) : ':' ∉ Nat.toDigits 10 n := by
  intro hmem
  have hdigit := Nat.isDigit_of_mem_toDigits (by norm_num) (by norm_num) hmem
  exact absurd hdigit (by decide)

lemma append_port_inj {host host' : List Char} {n n' : ℕ}
    (h : host ++ ':' :: Nat.toDigits 10 n = host' ++ ':' :: Nat.toDigits 10 n') :
    host = host' ∧ n = n' := by
  have hreverse := congrArg List.reverse h
  rw [List.reverse_append, List.reverse_append, List.reverse_cons, List.reverse_cons,
    List.append_assoc, List.append_assoc, List.singleton_append, List.singleton_append] at hreverse
  have hnot : ∀ n, ':' ∉ (Nat.toDigits 10 n).reverse := fun n hmem =>
    colon_not_mem_toDigits n (List.mem_reverse.mp hmem)
  have hdigits := congrArg (before ':') hreverse
  have hhost := congrArg (behind ':') hreverse
  rw [before_append (hnot n), before_append (hnot n'), List.reverse_inj] at hdigits
  rw [behind_append (hnot n), behind_append (hnot n'), List.reverse_inj] at hhost
  refine ⟨hhost, ?_⟩
  have hvalue := congrArg (fun digits => Nat.ofDigitChars 10 digits 0) hdigits
  simpa using hvalue

lemma text_eq_iff (hx : IsRead x) (hy : IsRead y) :
    x.text = y.text ↔ (x.scheme = y.scheme ∧ x.host = y.host ∧ x.port = y.port) ∨
      IsConfused x y ∨ IsConfused y x := by
  obtain ⟨scheme, literal, host, port⟩ := x
  obtain ⟨scheme', literal', host', port'⟩ := y
  constructor
  · intro h
    obtain ⟨hscheme, hrest⟩ := scheme_eq_of_text_eq hx hy h
    dsimp only at hscheme
    subst hscheme
    unfold OriginParts.rest at hrest
    cases port with
    | none =>
      cases port' with
      | none =>
        simp only [List.append_nil] at hrest
        exact .inl ⟨rfl, hrest, rfl⟩
      | some n' =>
        simp only [List.append_nil] at hrest
        exact .inr (.inl ⟨rfl, rfl, n', rfl, hrest⟩)
    | some n =>
      cases port' with
      | none =>
        simp only [List.append_nil] at hrest
        exact .inr (.inr ⟨rfl, rfl, n, rfl, hrest.symm⟩)
      | some n' =>
        obtain ⟨hhost, hport⟩ := append_port_inj hrest
        exact .inl ⟨rfl, hhost, congrArg some hport⟩
  · have hconfused : ∀ {x y : OriginParts}, IsConfused x y → x.text = y.text := by
      rintro ⟨scheme, literal, host, port⟩ ⟨scheme', literal', host', port'⟩
        ⟨hscheme, hport, n, hn, hhost⟩
      dsimp only at hscheme hport hhost
      cases hn
      subst hscheme hport hhost
      unfold OriginParts.text
      simp
    rintro (h | h | h)
    · obtain ⟨hscheme, hhost, hport⟩ := h
      dsimp only at hscheme hhost hport
      subst hscheme hhost hport
      rfl
    · exact hconfused h
    · exact (hconfused h).symm

lemma IsConfused.host_ne (h : IsConfused x y) : x.host ≠ y.host := by
  obtain ⟨-, -, n, -, hhost⟩ := h
  intro heq
  have hlength := congrArg List.length (hhost.symm.trans heq)
  simp at hlength

lemma port_eq_of_getD_eq (hx : IsRead x) (hy : IsRead y) (hscheme : x.scheme = y.scheme)
    (hport : x.port.getD ((defaultPorts.lookup x.scheme).getD 0) =
      y.port.getD ((defaultPorts.lookup y.scheme).getD 0)) : x.port = y.port := by
  obtain ⟨d, hd, hne⟩ := hx.scheme
  obtain ⟨d', hd', hne'⟩ := hy.scheme
  rw [← hscheme] at hd' hport
  cases hd.symm.trans hd'
  rw [hd, Option.getD_some] at hport
  cases hpx : x.port with
  | none =>
    cases hpy : y.port with
    | none => rfl
    | some n' =>
      rw [hpx, hpy] at hport
      exact absurd (hpy.trans (congrArg some hport.symm)) hne'
  | some n =>
    cases hpy : y.port with
    | none =>
      rw [hpx, hpy] at hport
      exact absurd (hpx.trans (congrArg some hport)) hne
    | some n' =>
      rw [hpx, hpy] at hport
      exact congrArg some hport

lemma denoted_eq_iff (ha : readOrigin unicode lower a = some x)
    (hb : readOrigin unicode lower b = some y) :
    denoted unicode lower a = denoted unicode lower b ↔ x = y := by
  unfold denoted
  rw [ha, hb, Option.map_some, Option.map_some, Option.some_inj]
  constructor
  · intro h
    simp only [Prod.mk.injEq] at h
    obtain ⟨hscheme, hliteral, hhost, hport⟩ := h
    have hshown := port_eq_of_getD_eq (isRead_of_readOrigin ha) (isRead_of_readOrigin hb) hscheme hport
    exact OriginParts.ext hscheme hliteral hhost hshown
  · intro h
    rw [h]

lemma eq_iff_of_text_eq (hx : IsRead x) (hy : IsRead y) (h : x.text = y.text) :
    x = y ↔ ¬ (IsConfused x y ∨ IsConfused y x ∨ IsBracketed x y) := by
  constructor
  · rintro rfl (h | h | h)
    · exact h.host_ne rfl
    · exact h.host_ne rfl
    · exact h.2.1 rfl
  · intro hnot
    rcases (text_eq_iff hx hy).mp h with ⟨hscheme, hhost, hport⟩ | h | h
    · by_cases hliteral : x.literal = y.literal
      · exact OriginParts.ext hscheme hliteral hhost hport
      · exact absurd (.inr (.inr ⟨hscheme, hliteral, hhost, hport⟩)) hnot
    · exact absurd (.inl h) hnot
    · exact absurd (.inr (.inl h)) hnot

lemma text_eq_of_confused (hx : IsRead x) (hy : IsRead y)
    (h : IsConfused x y ∨ IsConfused y x ∨ IsBracketed x y) : x.text = y.text := by
  rcases h with h | h | ⟨hscheme, -, hhost, hport⟩
  · exact (text_eq_iff hx hy).mpr (.inr (.inl h))
  · exact (text_eq_iff hx hy).mpr (.inr (.inr h))
  · exact (text_eq_iff hx hy).mpr (.inl ⟨hscheme, hhost, hport⟩)

lemma denoted_eq_iff_not_confused :
    (∀ text, normalizedOrigin unicode lower a = some text →
      normalizedOrigin unicode lower b = some text →
        denoted unicode lower a = denoted unicode lower b) ↔ ¬ Confused unicode lower a b := by
  constructor
  · rintro h ⟨x, hx, y, hy, hconfused⟩
    have hreadx := isRead_of_readOrigin hx
    have hready := isRead_of_readOrigin hy
    have htext := text_eq_of_confused hreadx hready hconfused
    have hdenoted := h x.text (congrArg (Option.map OriginParts.text) hx)
      (htext ▸ congrArg (Option.map OriginParts.text) hy)
    exact (eq_iff_of_text_eq hreadx hready htext).mp ((denoted_eq_iff hx hy).mp hdenoted) hconfused
  · intro hnot text ha hb
    obtain ⟨x, hx, hxtext⟩ := Option.map_eq_some_iff.mp ha
    obtain ⟨y, hy, hytext⟩ := Option.map_eq_some_iff.mp hb
    refine (denoted_eq_iff hx hy).mpr ?_
    refine (eq_iff_of_text_eq (isRead_of_readOrigin hx) (isRead_of_readOrigin hy)
      (hxtext.trans hytext.symm)).mpr fun hconfused => hnot ⟨x, hx, y, hy, hconfused⟩

/-! ## What is accepted -/

lemma normalizedOrigin_isSome_iff :
    (normalizedOrigin unicode lower value).isSome = true ↔
      ∃ parts, urlsplit unicode (strip value) = some parts ∧
        (username parts.netloc).any (· ≠ []) = false ∧ password parts.netloc = none ∧
          parts.query = [] ∧ parts.fragment = [] ∧ (defaultPorts.lookup parts.scheme).isSome = true ∧
            (hostnameOf lower parts.netloc).isSome = true ∧ (portOf parts.netloc).isSome = true ∧
              (parts.path = [] ∨ parts.path = ['/']) := by
  unfold normalizedOrigin readOrigin
  rw [Option.isSome_map]
  cases hsplit : urlsplit unicode (strip value) with
  | none => simp
  | some parts =>
    simp only [Option.some.injEq, exists_eq_left']
    cases hport : portOf parts.netloc with
    | none => simp
    | some port =>
      cases hscheme : defaultPorts.lookup parts.scheme with
      | none => simp
      | some defaultPort =>
        cases hhost : hostnameOf lower parts.netloc with
        | none => simp
        | some hostname =>
          dsimp only
          split_ifs with hpath hpassword
          · simp only [Option.isSome_none, Bool.false_eq_true, Option.isSome_some, true_and,
              false_iff]
            rintro ⟨huser, -, hquery, hfragment, hroot⟩
            rw [huser] at hpath
            simp [hroot, hquery, hfragment] at hpath
          · simp only [Option.isSome_none, Bool.false_eq_true, Option.isSome_some, true_and,
              false_iff]
            rintro ⟨-, hnone, -⟩
            rw [hnone] at hpassword
            cases hpassword
          · simp only [not_or, not_not, Bool.not_eq_true] at hpath
            obtain ⟨hroot, hquery, hfragment, huser⟩ := hpath
            have hnone := Option.not_isSome_iff_eq_none.mp hpassword
            have hpath := or_iff_not_and_not.mpr hroot
            exact ⟨fun _ => ⟨huser, hnone, hquery, hfragment, rfl, rfl, rfl, hpath⟩, fun _ => rfl⟩

lemma accepts_only_origins_iff :
    (¬ IsOrigin unicode lower value → normalizedOrigin unicode lower value = none) ↔
      ¬ EmptyDelimited unicode lower value := by
  constructor
  · rintro h ⟨parts, hsplit, hdelimiter, hrest⟩
    have hsome := normalizedOrigin_isSome_iff.mpr ⟨parts, hsplit, hrest⟩
    rw [h ?_] at hsome
    · cases hsome
    · rintro ⟨hquery, hfragment, parts', hsplit', -, -, -, hat, -⟩
      cases hsplit.symm.trans hsplit'
      exact hdelimiter.elim hat fun h => h.elim hquery hfragment
  · intro hnot horigin
    by_contra hne
    obtain ⟨parts, hsplit, huser, hpassword, hquery, hfragment, hscheme, hhost, hport, hpath⟩ :=
      normalizedOrigin_isSome_iff.mp (Option.isSome_iff_ne_none.mpr hne)
    by_cases hdelimiter : '@' ∈ parts.netloc ∨ '?' ∈ value ∨ '#' ∈ value
    · exact hnot ⟨parts, hsplit, hdelimiter, huser, hpassword, hquery, hfragment, hscheme, hhost,
        hport, hpath⟩
    · simp only [not_or] at hdelimiter
      exact horigin ⟨hdelimiter.2.1, hdelimiter.2.2, parts, hsplit, hscheme, hhost, hport,
        hdelimiter.1, hpath⟩

/-! ## What passes the guard -/

variable {config : Option AuthHttpConfig} {request : GuardedRequest}

lemma cookieMutationGuard_passed_iff (h : IsCookieMutation request) :
    cookieMutationGuard unicode lower config request = .passed ↔
      (∃ settings ∈ config, ∃ source ∈ trustedSource unicode settings, ∃ origin ∈ request.origin,
        ∃ text, normalizedOrigin unicode lower source = some text ∧
          normalizedOrigin unicode lower origin = some text) ∧ IsSameSite lower request := by
  obtain ⟨hcookie, hauthorization, hmethod⟩ := h
  have hnot : ¬ (request.authorization.isSome || safeMethods.contains request.method) = true := by
    rw [hauthorization]
    simpa using hmethod
  unfold cookieMutationGuard enforceSameOrigin IsSameSite
  rw [if_pos hcookie, if_neg hnot]
  cases config with
  | none =>
    simp only [reduceCtorEq, false_iff]
    rintro ⟨⟨settings, hsettings, -⟩, -⟩
    cases hsettings
  | some settings =>
    dsimp only
    cases hsource : trustedSource unicode settings with
    | none =>
      simp only [reduceCtorEq, false_iff]
      rintro ⟨⟨settings', hsettings, source, hsource', -⟩, -⟩
      cases hsettings
      cases hsource.symm.trans hsource'
    | some source =>
      dsimp only
      cases htrusted : normalizedOrigin unicode lower source with
      | none =>
        simp only [reduceCtorEq, false_iff]
        rintro ⟨⟨settings', hsettings, source', hsource', origin, -, text, htext, -⟩, -⟩
        cases hsettings
        cases hsource.symm.trans hsource'
        cases htrusted.symm.trans htext
      | some trusted =>
        cases horigin : request.origin with
        | none =>
          simp only [reduceCtorEq, false_iff]
          rintro ⟨⟨settings', hsettings, source', hsource', origin, horigin', -⟩, -⟩
          cases horigin'
        | some origin =>
          dsimp only
          split_ifs with hmatch hsite
          · simp only [false_iff]
            rintro ⟨⟨settings', hsettings, source', hsource', origin', horigin', text, htext, ho⟩, -⟩
            cases hsettings
            cases hsource.symm.trans hsource'
            cases horigin'
            exact hmatch (ho.trans (htext.symm.trans htrusted))
          · simp only [false_iff]
            rintro ⟨-, hsame⟩
            rw [hsame] at hsite
            cases hsite
          · rw [not_not] at hmatch
            simp only [true_iff]
            exact ⟨⟨settings, rfl, source, hsource, origin, rfl, trusted, htrusted, hmatch⟩,
              Bool.not_eq_true _ |>.mp hsite⟩

lemma denotesTrusted_iff_not_confused (h : IsCookieMutation request) :
    (cookieMutationGuard unicode lower config request = .passed →
      DenotesTrusted unicode lower config request ∧ IsSameSite lower request) ↔
        (IsSameSite lower request → ¬ IsConfusedRequest unicode lower config request) := by
  rw [cookieMutationGuard_passed_iff h]
  constructor
  · rintro hpassed hsame ⟨settings, hsettings, source, hsource, origin, horigin, hconfused⟩
    obtain ⟨x, hx, y, hy, hcase⟩ := hconfused
    have htext := text_eq_of_confused (isRead_of_readOrigin hx) (isRead_of_readOrigin hy) hcase
    obtain ⟨⟨settings', hsettings', source', hsource', origin', horigin', meaning, hmeaning,
      hdenoted⟩, -⟩ := hpassed ⟨⟨settings, hsettings, source, hsource, origin, horigin, y.text,
        congrArg (Option.map OriginParts.text) hy,
        htext ▸ congrArg (Option.map OriginParts.text) hx⟩, hsame⟩
    cases hsettings.symm.trans hsettings'
    cases hsource.symm.trans hsource'
    cases horigin.symm.trans horigin'
    have heq := (denoted_eq_iff hx hy).mp (hmeaning.trans hdenoted.symm)
    exact (eq_iff_of_text_eq (isRead_of_readOrigin hx) (isRead_of_readOrigin hy) htext).mp heq hcase
  · rintro hnot ⟨⟨settings, hsettings, source, hsource, origin, horigin, text, hs, ho⟩, hsame⟩
    have hconfused : ¬ Confused unicode lower origin source := fun hconfused =>
      hnot hsame ⟨settings, hsettings, source, hsource, origin, horigin, hconfused⟩
    have hdenoted := denoted_eq_iff_not_confused.mpr hconfused text ho hs
    obtain ⟨x, hx, -⟩ := Option.map_eq_some_iff.mp hs
    have hmeaning : denoted unicode lower source = some _ := congrArg (Option.map _) hx
    exact ⟨⟨settings, hsettings, source, hsource, origin, horigin, _, hdenoted.trans hmeaning,
      hmeaning⟩, hsame⟩

/-- Equal texts denote equal origins, only origins are accepted, and only the trusted one passes the
guard: exactly if no origins are confused and no empty part is delimited. -/
theorem sameOrigin_guard_iff (unicode : Unicode) (lower : List Char → List Char) :
    (∀ a b, (∀ text, normalizedOrigin unicode lower a = some text →
      normalizedOrigin unicode lower b = some text →
        denoted unicode lower a = denoted unicode lower b) ↔ ¬ Confused unicode lower a b) ∧
    (∀ value, (¬ IsOrigin unicode lower value → normalizedOrigin unicode lower value = none) ↔
      ¬ EmptyDelimited unicode lower value) ∧
    ∀ config request, IsCookieMutation request →
      ((cookieMutationGuard unicode lower config request = .passed →
        DenotesTrusted unicode lower config request ∧ IsSameSite lower request) ↔
          (IsSameSite lower request → ¬ IsConfusedRequest unicode lower config request)) :=
  ⟨fun _ _ => denoted_eq_iff_not_confused, fun _ => accepts_only_origins_iff,
    fun _ _ h => denotesTrusted_iff_not_confused h⟩

/-- `NFKC` and the addresses, for the texts of the examples. -/
def loopback : Unicode where
  nfkc := id
  isIpv6 := fun host => host == "::1".toList || host == "::1:8080".toList

def loopbackConfig : AuthHttpConfig where
  publicAppOrigin := some "http://[::1]:8080".toList
  redirectUri := "http://[::1]:8080/auth/callback".toList

def loopbackRequest : GuardedRequest where
  method := "POST"
  authorization := none
  cookieToken := some "token".toList
  origin := some "http://[::1:8080]".toList
  secFetchSite := none

theorem sameOrigin_guard_iff_loopback :
    IsCookieMutation loopbackRequest ∧
    ((cookieMutationGuard loopback (List.map Char.toLower) (some loopbackConfig) loopbackRequest =
        .passed →
      DenotesTrusted loopback (List.map Char.toLower) (some loopbackConfig) loopbackRequest ∧
        IsSameSite (List.map Char.toLower) loopbackRequest) ↔
      (IsSameSite (List.map Char.toLower) loopbackRequest →
        ¬ IsConfusedRequest loopback (List.map Char.toLower) (some loopbackConfig)
          loopbackRequest)) :=
  have hmutation : IsCookieMutation loopbackRequest := ⟨rfl, rfl, by decide⟩
  ⟨hmutation, (sameOrigin_guard_iff loopback (List.map Char.toLower)).2.2 _ _ hmutation⟩

/-- Two addresses have one text, a text with empty parts is accepted, and the guard passes another
origin than the trusted one. -/
theorem sameOrigin_guard_confuses :
    (¬ ∀ a b text, normalizedOrigin loopback (List.map Char.toLower) a = some text →
      normalizedOrigin loopback (List.map Char.toLower) b = some text →
        denoted loopback (List.map Char.toLower) a = denoted loopback (List.map Char.toLower) b) ∧
    (¬ ∀ value, ¬ IsOrigin loopback (List.map Char.toLower) value →
      normalizedOrigin loopback (List.map Char.toLower) value = none) ∧
    ¬ ∀ config request, IsCookieMutation request →
      cookieMutationGuard loopback (List.map Char.toLower) config request = .passed →
        DenotesTrusted loopback (List.map Char.toLower) config request := by
  refine ⟨fun h => ?_, fun h => ?_, fun h => ?_⟩
  · have hdenoted := h "http://[::1]:8080".toList "http://[::1:8080]".toList
      "http://::1:8080".toList (by decide +kernel) (by decide +kernel)
    exact absurd hdenoted (by decide +kernel)
  · have hnone := h "https://@app.example.com/?#".toList fun horigin =>
      horigin.1 (by decide +kernel)
    exact absurd hnone (by decide +kernel)
  · obtain ⟨settings, hsettings, source, hsource, origin, horigin, meaning, hmeaning, htrusted⟩ :=
      h (some loopbackConfig) loopbackRequest ⟨rfl, rfl, by decide⟩ (by decide +kernel)
    cases hsettings
    cases hsource
    cases horigin
    have hdenoted := Eq.trans hmeaning htrusted.symm
    exact absurd hdenoted (by decide +kernel)

end SaasOs.SameOrigin
