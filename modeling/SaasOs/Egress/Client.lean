import SaasOs.Foundation.Fallback
import SaasOs.Foundation.IpAddress

/-!
# The strict egress client

A request goes to a destination that its URL names.  The host is resolved once, every address of the
answer is checked, and the addresses are tried one after another under one deadline.  The URL that
is handed to `httpx` has the address in place of the host (`pin_url_to_address`), so the address
that is tried is the one that is connected to.
-/

namespace SaasOs.Egress

open Ip Fallback

/-! ## Addresses -/

section Addresses

variable (classes : Classes)

def isNonPublicItself (address : IPAddress) : Bool :=
  !classes.isGlobal address || classes.isPrivate address || classes.isLoopback address ||
    classes.isLinkLocal address || classes.isUnspecified address || classes.isReserved address ||
    classes.isMulticast address ||
    (match address with
      | .v4 _ => false
      | .v6 _ _ => classes.isSiteLocal address)

def isNonPublicAddress (address : IPAddress) : Bool :=
  isNonPublicItself classes address ||
    (embeddedIpv4Addresses address).any (isNonPublicItself classes)

def neverTrustableNetworks : List Network :=
  [.v4 0 8, .v4 (127 * 2 ^ 24) 8, .v4 (169 * 2 ^ 24 + 254 * 2 ^ 16) 16,
    .v4 (100 * 2 ^ 24 + 100 * 2 ^ 16 + 100 * 2 ^ 8 + 200) 32, .v4 (224 * 2 ^ 24) 4,
    .v4 (240 * 2 ^ 24) 4, .v6 0 128, .v6 1 128, .v6 (0xfe80 * 2 ^ 112) 10, .v6 (0xff00 * 2 ^ 112) 8,
    .v6 (0xfd000ec2 * 2 ^ 96 + 0x254) 128]

def isBlocked (candidate : IPAddress) : Bool :=
  classes.isLoopback candidate || classes.isLinkLocal candidate || classes.isMulticast candidate ||
    classes.isUnspecified candidate || classes.isReserved candidate ||
    neverTrustableNetworks.any fun network => network.contains candidate

def isNeverTrustable (address : IPAddress) : Bool :=
  (address :: embeddedIpv4Addresses address).any (isBlocked classes)

end Addresses

/-! ## Policy and URL -/

structure TrustedEndpoint where
  host : String
  port : ℕ
  networks : List Network

/-- `StrictEgressPolicy`, without the timeouts that are handed to `httpx`. -/
structure StrictEgressPolicy where
  maxResponseBytes : ℕ
  allowedPorts : List ℕ
  maxAddressesTried : ℕ
  trustedEndpoints : List TrustedEndpoint

/-- The parts of a URL; the port is `none` where reading it raises. -/
structure UrlParts where
  scheme : String
  hasUserinfo : Bool
  hostname : Option String
  port : Option (Option ℕ)

/-- The standard library. -/
structure Library where
  urlsplit : String → Option UrlParts
  ipAddress : String → Option IPAddress
  str : IPAddress → String
  classes : Classes

/-- `EgressError` and what is derived from it. -/
inductive EgressError
  | destination (reason : String)
  | proxyRefused
  | proxyUnavailable
  | resolution
  | connect
  | tls
  | timeout (reason phase : String) (sent : Bool)
  | redirect (status : ℕ)
  | responseTooLarge
  | protocol (reason phase : String)
  deriving DecidableEq

def EgressError.requestMayHaveBeenSent : EgressError → Bool
  | .destination _ | .proxyRefused | .proxyUnavailable | .resolution | .connect | .tls => false
  | .timeout _ _ sent => sent
  | .redirect _ | .responseTooLarge | .protocol _ _ => true

/-- `_Destination`. -/
structure Destination where
  hostname : String
  port : ℕ
  literal : Option IPAddress
  deriving DecidableEq

def validHostname (parts : UrlParts) : Option String :=
  parts.hostname.filter fun hostname => hostname ≠ "" && hostname.length ≤ 253

section Request

variable (library : Library) (policy : StrictEgressPolicy)

def validateUrl (url : String) : Except EgressError Destination :=
  if url = "" || 2048 < url.length || !url.toList.all fun c => c.toNat < 128 then
    .error (.destination "invalid_url")
  else match library.urlsplit url with
    | none => .error (.destination "invalid_url")
    | some parts =>
      match parts.port with
      | none => .error (.destination "invalid_url")
      | some port =>
        if parts.scheme ≠ "https" then .error (.destination "scheme_not_allowed")
        else if parts.hasUserinfo then .error (.destination "userinfo_not_allowed")
        else match validHostname parts with
          | none => .error (.destination "invalid_url")
          | some hostname =>
            if port.getD 443 ∉ policy.allowedPorts then .error (.destination "port_not_allowed")
            else if (library.ipAddress hostname).any (isNonPublicAddress library.classes) then
              .error (.destination "non_public_address")
            else .ok ⟨hostname, port.getD 443, library.ipAddress hostname⟩

/-- `_trusted`: the first entry for this host and port decides. -/
def trusted (destination : Destination) (address : IPAddress) : Bool :=
  if isNeverTrustable library.classes address then false
  else match policy.trustedEndpoints.find? fun entry =>
      entry.host = destination.hostname.toLower && entry.port = destination.port with
    | some entry => entry.networks.any fun network => network.contains address
    | none => false

/-- `item.split("%", 1)[0]`. -/
def withoutScope (item : String) : String :=
  String.ofList (item.toList.takeWhile fun c => c ≠ '%')

/-- The loop of `_validated_addresses` over the answer, after some addresses. -/
def validateAnswers (destination : Destination) (validated : List IPAddress) :
    List String → Except EgressError (List IPAddress)
  | [] => .ok validated
  | item :: rest =>
    match library.ipAddress (withoutScope item) with
    | none => .error (.destination "invalid_resolved_address")
    | some address =>
      if isNonPublicAddress library.classes address &&
          !trusted library policy destination address then
        .error (.destination "non_public_address")
      else if address ∈ validated then validateAnswers destination validated rest
      else validateAnswers destination (validated ++ [address]) rest

/-- What the resolver comes to: an answer, a failure, another exception, or the deadline expires
before. -/
inductive Resolution
  | answers (items : List String)
  | unresolved
  | raised
  | expired

/-! ## Exchanges -/

inductive NoConnection
  | connectError (tls : Bool)
  | connectTimeout
  | poolTimeout
  | proxyRefused
  | proxyUnavailable

/-- How `httpx` fails on a connection. -/
inductive LateFailure
  | writeTimeout
  | writeError
  | readTimeout
  | readError
  | remoteProtocolError
  | other (name : String)

/-- A response, as far as it is looked at: its status, its encoding in lower case, the length that
it declares, and the length of its body. -/
structure Response where
  status : ℕ
  encoding : String
  declared : Option ℕ
  bodyLength : ℕ

/-- What the try of one address comes to. -/
inductive Exchange
  | noConnection (reason : NoConnection)
  | failed (written : Bool) (failure : LateFailure)
  | expired (written : Bool)
  | raised (written : Bool)
  | responded (response : Response)

def Exchange.written : Exchange → Bool
  | .noConnection _ => false
  | .failed written _ | .expired written | .raised written => written
  | .responded _ => true

/-- How a request ends, beside with a response: an error of the client, the expiry of the deadline
within an await, or an exception that the client does not know. -/
inductive Ending
  | response (response : Response)
  | error (error : EgressError)
  | expired
  | raised

/-- What `_exchange` makes of a response. -/
def receive (response : Response) : Ending :=
  if 300 ≤ response.status ∧ response.status < 400 then .error (.redirect response.status)
  else if response.encoding ≠ "" ∧ response.encoding ≠ "identity" then
    .error (.protocol "unexpected_content_encoding" "response")
  else if response.declared.any fun declared => policy.maxResponseBytes < declared then
    .error .responseTooLarge
  else if policy.maxResponseBytes < response.bodyLength then .error .responseTooLarge
  else .response response

def exchange : Exchange → Ending
  | .noConnection (.connectError true) => .error .tls
  | .noConnection (.connectError false) => .error .connect
  | .noConnection .connectTimeout => .error (.timeout "connect_timeout" "connect" false)
  | .noConnection .poolTimeout => .error (.timeout "connect_timeout" "connect" false)
  | .noConnection .proxyRefused => .error .proxyRefused
  | .noConnection .proxyUnavailable => .error .proxyUnavailable
  | .failed _ .writeTimeout => .error (.timeout "write_timeout" "write" true)
  | .failed _ .readTimeout => .error (.timeout "read_timeout" "read" true)
  | .failed _ _ => .error (.protocol "exchange_failed" "exchange")
  | .expired _ => .expired
  | .raised _ => .raised
  | .responded response => receive policy response

/-- The errors after which `_try_addresses` takes the next address. -/
def isRetried : EgressError → Bool
  | .connect => true
  | .timeout _ _ sent => !sent
  | _ => false

/-- What `_try_addresses` makes of one exchange. -/
def tryAddress (exchanges : ℕ → Exchange) (i : ℕ) (_ : IPAddress) : Tried Ending EgressError :=
  match exchange policy (exchanges i) with
  | .error error => if isRetried error then .next error else .done (.error error)
  | ending => .done ending

/-- `_try_addresses`: the addresses that were tried, and how it ended. -/
def tryAddresses (expired : ℕ → Bool) (exchanges : ℕ → Exchange) (addresses : List IPAddress) :
    List (ℕ × IPAddress) × Ending :=
  match inTurn expired (tryAddress policy exchanges) 0 .connect
      (addresses.take policy.maxAddressesTried) with
  | (tried, .ok ending) => (tried, ending)
  | (tried, .error error) => (tried, .error error)

def validatedAddresses (destination : Destination) (resolution : Resolution) :
    Except Ending (List IPAddress) :=
  match destination.literal, resolution with
  | some literal, _ => .ok [literal]
  | none, .unresolved => .error (.error .resolution)
  | none, .raised => .error .raised
  | none, .expired => .error .expired
  | none, .answers [] => .error (.error .resolution)
  | none, .answers items =>
    match validateAnswers library policy destination [] items with
    | .ok addresses => .ok addresses
    | .error error => .error (.error error)

def timedOut (exchangeStarted : Bool) : Ending → Ending
  | .expired => .error (.timeout "deadline_expired" "total" exchangeStarted)
  | ending => ending

/-- `_request`: the addresses to which a connection was attempted, and how it ended. -/
def request (url : String) (forbiddenHeader expiredAtStart : Bool) (resolution : Resolution)
    (expired : ℕ → Bool) (exchanges : ℕ → Exchange) : List (ℕ × IPAddress) × Ending :=
  match validateUrl library policy url with
  | .error error => ([], .error error)
  | .ok destination =>
    if forbiddenHeader then ([], .error (.destination "forbidden_header"))
    else if expiredAtStart then ([], .error (.timeout "deadline_expired" "total" false))
    else match validatedAddresses library policy destination resolution with
      | .error ending => ([], timedOut false ending)
      | .ok addresses =>
        let (tried, ending) := tryAddresses policy expired exchanges addresses
        (tried, timedOut true ending)

/-! ## What is attempted -/

def IsPublic (classes : Classes) (address : IPAddress) : Prop :=
  ∀ candidate ∈ address :: embeddedIpv4Addresses address, isNonPublicItself classes candidate = false

/-- The address lies in a network that is trusted for the host and the port, and neither it nor one
that it carries is beyond trust. -/
def IsTrusted (destination : Destination) (address : IPAddress) : Prop :=
  (∃ entry ∈ policy.trustedEndpoints, entry.host = destination.hostname.toLower ∧
    entry.port = destination.port ∧ ∃ network ∈ entry.networks, network.contains address = true) ∧
  ∀ candidate ∈ address :: embeddedIpv4Addresses address, isBlocked library.classes candidate = false

def Allowed (destination : Destination) (address : IPAddress) : Prop :=
  IsPublic library.classes address ∨ IsTrusted library policy destination address

def Names (item : String) (address : IPAddress) : Prop :=
  library.ipAddress (withoutScope item) = some address

def Resolved (destination : Destination) (resolution : Resolution) (address : IPAddress) : Prop :=
  destination.literal = some address ∨ destination.literal = none ∧ ∃ items,
    resolution = .answers items ∧ ∃ item ∈ items, Names library item address

/-- What is to hold of the connections that were attempted and of the error that was raised. -/
structure Safe (url : String) (resolution : Resolution) (exchanges : ℕ → Exchange)
    (tried : List (ℕ × IPAddress)) (ending : Ending) : Prop where
  allowed : ∀ x ∈ tried, ∃ destination, validateUrl library policy url = .ok destination ∧
    Resolved library destination resolution x.2 ∧
    Allowed library policy destination x.2
  allOrNothing : ∀ destination items, validateUrl library policy url = .ok destination →
    destination.literal = none → resolution = .answers items →
    (∃ item ∈ items, ∀ address, Names library item address →
      ¬Allowed library policy destination address) → tried = []
  further : ∀ before x y after, tried = before ++ x :: y :: after → (exchanges x.1).written = false
  notSent : ∀ error, ending = .error error → error.requestMayHaveBeenSent = false →
    ∀ x ∈ tried, (exchanges x.1).written = false

variable {library policy} {destination : Destination} {address : IPAddress} {items : List String}
  {resolution : Resolution} {validated addresses : List IPAddress} {url : String}
  {forbiddenHeader expiredAtStart : Bool} {expired : ℕ → Bool} {exchanges : ℕ → Exchange}
  {tried : List (ℕ × IPAddress)} {ending : Ending}

lemma isPublic_iff {classes : Classes} :
    isNonPublicAddress classes address = false ↔ IsPublic classes address := by
  simp [isNonPublicAddress, IsPublic]

lemma isTrusted_of_trusted (h : trusted library policy destination address = true) :
    IsTrusted library policy destination address := by
  unfold trusted at h
  split at h
  · cases h
  · next hnever =>
    split at h
    · next entry hentry =>
      have hfound := List.find?_some hentry
      simp only [Bool.and_eq_true, decide_eq_true_eq] at hfound
      refine ⟨⟨entry, List.mem_of_find?_eq_some hentry, hfound.1, hfound.2, by simpa using h⟩, ?_⟩
      simpa [isNeverTrustable] using hnever
    · cases h

/-- One more answer is read, which names an address with the property. -/
lemma answers_cons {P : IPAddress → Prop} {item : String} {rest : List String}
    {address : IPAddress} {validated more addresses : List IPAddress}
    (hnames : Names library item address) (hP : P address)
    (hmem : ∀ a ∈ more, a ∈ validated ∨ a = address)
    (h : (∀ other ∈ rest, ∃ a, Names library other a ∧ P a) ∧
      ∀ a ∈ addresses, a ∈ more ∨ ∃ other ∈ rest, Names library other a) :
    (∀ other ∈ item :: rest, ∃ a, Names library other a ∧ P a) ∧
      ∀ a ∈ addresses, a ∈ validated ∨ ∃ other ∈ item :: rest, Names library other a := by
  refine ⟨List.forall_mem_cons.2 ⟨⟨address, hnames, hP⟩, h.1⟩, fun a ha => ?_⟩
  rcases h.2 a ha with ha | ⟨other, hother, hnamed⟩
  · rcases hmem a ha with ha | rfl
    · exact .inl ha
    · exact .inr ⟨item, by simp, hnames⟩
  · exact .inr ⟨other, by simp [hother], hnamed⟩

/-- What passes the loop: every answer names an address that is allowed, and the addresses are those
that answers name. -/
theorem validateAnswers_eq_ok
    (h : validateAnswers library policy destination validated items = .ok addresses) :
    (∀ item ∈ items, ∃ address, Names library item address ∧
      Allowed library policy destination address) ∧
    ∀ address ∈ addresses, address ∈ validated ∨ ∃ item ∈ items, Names library item address := by
  induction items generalizing validated with
  | nil =>
    obtain rfl : validated = addresses := by simpa [validateAnswers] using h
    exact ⟨by simp, fun address haddress => .inl haddress⟩
  | cons item rest ih =>
    unfold validateAnswers at h
    split at h
    · cases h
    · next address hnames =>
      split at h
      · cases h
      · next hcheck =>
        have hallowed : Allowed library policy destination address := by
          cases hpublic : isNonPublicAddress library.classes address with
          | false => exact .inl (isPublic_iff.1 hpublic)
          | true => exact .inr (isTrusted_of_trusted (by simpa [hpublic] using hcheck))
        have hrest : ∃ more, validateAnswers library policy destination more rest = .ok addresses ∧
            ∀ a ∈ more, a ∈ validated ∨ a = address := by
          split at h
          · exact ⟨validated, h, fun a ha => .inl ha⟩
          · exact ⟨validated ++ [address], h, fun a ha => by simpa using ha⟩
        obtain ⟨more, hmore, hmem⟩ := hrest
        exact answers_cons hnames hallowed hmem (ih hmore)

lemma isPublic_of_validateUrl (h : validateUrl library policy url = .ok destination)
    (hliteral : destination.literal = some address) : IsPublic library.classes address := by
  unfold validateUrl at h
  split at h
  · cases h
  · split at h
    · cases h
    · split at h
      · cases h
      · split at h
        · cases h
        · split at h
          · cases h
          · split at h
            · cases h
            · split at h
              · cases h
              · split at h
                · cases h
                · next hpublic =>
                  obtain rfl := Except.ok.inj h
                  change library.ipAddress _ = some address at hliteral
                  rw [hliteral] at hpublic
                  exact isPublic_iff.1 (by simpa using hpublic)

theorem validatedAddresses_eq_ok (hurl : validateUrl library policy url = .ok destination)
    (h : validatedAddresses library policy destination resolution = .ok addresses) :
    (∀ address ∈ addresses, Resolved library destination resolution address) ∧
    (∀ address ∈ addresses, Allowed library policy destination address) ∧
    ∀ items, destination.literal = none → resolution = .answers items → ∀ item ∈ items,
      ∃ address, Names library item address ∧ Allowed library policy destination address := by
  unfold validatedAddresses at h
  split at h
  · next literal hliteral =>
    obtain rfl := Except.ok.inj h
    simp only [List.mem_singleton, forall_eq]
    exact ⟨.inl hliteral, .inl (isPublic_of_validateUrl hurl hliteral), by simp [hliteral]⟩
  · cases h
  · cases h
  · cases h
  · cases h
  · next items _ hliteral =>
    split at h
    · next validated hvalid =>
      obtain rfl := Except.ok.inj h
      obtain ⟨hitems, haddresses⟩ := validateAnswers_eq_ok hvalid
      have hnamed : ∀ address ∈ validated, ∃ item ∈ items, Names library item address :=
        fun address haddress => (haddresses address haddress).resolve_left (by simp)
      refine ⟨fun address haddress => .inr ⟨hliteral, items, rfl, hnamed address haddress⟩,
        fun address haddress => ?_, fun items' _ heq item hitem => ?_⟩
      · obtain ⟨item, hitem, hname⟩ := hnamed address haddress
        obtain ⟨other, hother, hallowed⟩ := hitems item hitem
        obtain rfl : address = other := Option.some.inj (hname.symm.trans hother)
        exact hallowed
      · obtain rfl := Resolution.answers.inj heq
        exact hitems item hitem
    · cases h

lemma sent_of_receive {response : Response} {error : EgressError}
    (h : receive policy response = .error error) : error.requestMayHaveBeenSent = true := by
  unfold receive at h
  split at h
  · obtain rfl := Ending.error.inj h
    rfl
  · split at h
    · obtain rfl := Ending.error.inj h
      rfl
    · split at h
      · obtain rfl := Ending.error.inj h
        rfl
      · split at h
        · obtain rfl := Ending.error.inj h
          rfl
        · cases h

lemma written_of_exchange {outcome : Exchange} {error : EgressError}
    (h : exchange policy outcome = .error error) (hsent : error.requestMayHaveBeenSent = false) :
    outcome.written = false := by
  cases outcome with
  | noConnection reason => rfl
  | failed written failure =>
    cases failure <;> (obtain rfl := Ending.error.inj h; cases hsent)
  | expired written => cases h
  | raised written => cases h
  | responded response =>
    rw [sent_of_receive h] at hsent
    cases hsent

lemma sent_of_isRetried {error : EgressError} (h : isRetried error = true) :
    error.requestMayHaveBeenSent = false := by
  cases error with
  | connect => rfl
  | timeout reason phase sent => simpa [isRetried, EgressError.requestMayHaveBeenSent] using h
  | destination | proxyRefused | proxyUnavailable | resolution | tls | redirect | responseTooLarge |
    protocol => cases h

lemma written_of_askedForNext {x : ℕ × IPAddress} (h : AskedForNext (tryAddress policy exchanges) x) :
    (exchanges x.1).written = false := by
  obtain ⟨error, h⟩ := h
  unfold tryAddress at h
  split at h
  · next e hexchange =>
    split at h
    · next hretried => exact written_of_exchange hexchange (sent_of_isRetried hretried)
    · cases h
  · cases h

/-- What `_try_addresses` does: it tries the first addresses, takes another one only if nothing was
sent before, and says rightly that nothing was sent. -/
theorem tryAddresses_spec (h : tryAddresses policy expired exchanges addresses = (tried, ending)) :
    (∀ x ∈ tried, x.2 ∈ addresses) ∧
    (∀ before x y after, tried = before ++ x :: y :: after → (exchanges x.1).written = false) ∧
    ∀ error, ending = .error error → error.requestMayHaveBeenSent = false →
      ∀ x ∈ tried, (exchanges x.1).written = false := by
  unfold tryAddresses at h
  generalize hturn : inTurn expired (tryAddress policy exchanges) 0 .connect
    (addresses.take policy.maxAddressesTried) = result at h
  obtain ⟨tried', result⟩ := result
  obtain ⟨hinitial, hends⟩ := inTurn_spec hturn
  have htried : tried' = tried := by
    cases result <;> exact congrArg Prod.fst h
  subst htried
  refine ⟨fun x hx => ?_, fun before x y after heq => ?_, fun error hending hsent x hx => ?_⟩
  · exact List.mem_of_mem_take (hinitial.subset (List.mem_map_of_mem hx))
  · rw [heq] at hends
    exact written_of_askedForNext hends.askedForNext
  · cases result with
    | error last => exact written_of_askedForNext (hends x hx)
    | ok final =>
      obtain rfl : final = ending := congrArg Prod.snd h
      obtain ⟨before, y, rfl, hbefore, hdone⟩ := hends
      rcases List.mem_append.1 hx with hx | hx
      · exact written_of_askedForNext (hbefore x hx)
      · obtain rfl : x = y := by simpa using hx
        unfold tryAddress at hdone
        split at hdone
        · next e hexchange =>
          split at hdone
          · cases hdone
          · obtain rfl : Ending.error e = final := Tried.done.inj hdone
            obtain rfl : e = error := Ending.error.inj hending
            exact written_of_exchange hexchange hsent
        · next hother =>
          obtain rfl := Tried.done.inj hdone
          exact absurd hending (hother error)

lemma safe_nil : Safe library policy url resolution exchanges [] ending :=
  ⟨by simp, fun _ _ _ _ _ _ => rfl, by simp, by simp⟩

/-- Every request attempts connections to allowed addresses only, and says rightly that nothing was
sent. -/
theorem request_safe
    (h : request library policy url forbiddenHeader expiredAtStart resolution expired exchanges =
      (tried, ending)) :
    Safe library policy url resolution exchanges tried ending := by
  unfold request at h
  split at h
  · obtain ⟨rfl, rfl⟩ := Prod.mk.inj h
    exact safe_nil
  · next destination hurl =>
    split at h
    · obtain ⟨rfl, rfl⟩ := Prod.mk.inj h
      exact safe_nil
    · split at h
      · obtain ⟨rfl, rfl⟩ := Prod.mk.inj h
        exact safe_nil
      · split at h
        · obtain ⟨rfl, rfl⟩ := Prod.mk.inj h
          exact safe_nil
        · next addresses haddresses =>
          obtain ⟨hresolved, hallowed, hanswers⟩ := validatedAddresses_eq_ok hurl haddresses
          generalize htry : tryAddresses policy expired exchanges addresses = result at h
          obtain ⟨tried', ending'⟩ := result
          obtain ⟨rfl, rfl⟩ := Prod.mk.inj h
          obtain ⟨hmem, hfurther, hnotSent⟩ := tryAddresses_spec htry
          refine ⟨fun x hx =>
              ⟨destination, hurl, hresolved x.2 (hmem x hx), hallowed x.2 (hmem x hx)⟩,
            fun destination' items hurl' hliteral hitems hfails => ?_, hfurther,
            fun error hending hsent => ?_⟩
          · obtain rfl : destination = destination' := Except.ok.inj (hurl.symm.trans hurl')
            obtain ⟨item, hitem, hfails⟩ := hfails
            obtain ⟨address, hnames, hallowed⟩ := hanswers items hliteral hitems item hitem
            exact absurd hallowed (hfails address hnames)
          · cases ending' with
            | expired =>
              obtain rfl := Ending.error.inj hending
              cases hsent
            | error error' => exact hnotSent error hending hsent
            | response | raised => cases hending

end Request

end SaasOs.Egress
