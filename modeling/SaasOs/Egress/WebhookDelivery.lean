import SaasOs.Egress.Client

/-!
# Delivering a webhook

The delivery of a webhook resolves the host of its URL, checks that every address of the answer is
public, and posts to the first two of them in turn, under one deadline.  As for the strict client,
connections are attempted to addresses that were checked only, and what is raised as not sent was
not sent.
-/

namespace SaasOs.Egress

open Ip Fallback

structure WebhookSecurityConfig where
  httpAllowed : Bool
  allowedPorts : Option (List ℕ)

inductive WebhookError
  | destinationRejected
  | destinationUnresolved
  | notSent (reason : String)
  | ambiguous (reason phase : String)

def WebhookError.saysNotSent : WebhookError → Bool
  | .destinationRejected | .destinationUnresolved | .notSent _ => true
  | .ambiguous _ _ => false

/-- How a delivery ends, beside with the status of a response: an error, the expiry of the deadline
within an await, or another exception. -/
inductive DeliveryEnding
  | status (status : ℕ)
  | error (error : WebhookError)
  | expired
  | raised

def maxAddressesTried : ℕ := 2

def LateFailure.name : LateFailure → String
  | .writeTimeout => "WriteTimeout"
  | .writeError => "WriteError"
  | .readTimeout => "ReadTimeout"
  | .readError => "ReadError"
  | .remoteProtocolError => "RemoteProtocolError"
  | .other name => name

def ambiguousPhase : LateFailure → String
  | .writeTimeout | .writeError => "write"
  | .readTimeout | .readError => "read"
  | .remoteProtocolError => "response"
  | .other _ => "exchange"

section Delivery

variable (library : Library)

/-- The loop of `_validate_destination_addresses` over the answer, after some addresses. -/
def validatePublicAnswers (validated : List IPAddress) :
    List String → Except DeliveryEnding (List IPAddress)
  | [] => .ok (validated.mergeSort fun a b => library.str a ≤ library.str b)
  | item :: rest =>
    match library.ipAddress (withoutScope item) with
    | none => .error .raised
    | some address =>
      if isNonPublicAddress library.classes address then .error (.error .destinationRejected)
      else if address ∈ validated then validatePublicAnswers validated rest
      else validatePublicAnswers (validated ++ [address]) rest

def validateDestinationAddresses (parts : UrlParts) (resolution : Resolution) :
    Except DeliveryEnding (List IPAddress) :=
  match parts.hostname, resolution with
  | none, _ => .error (.error .destinationRejected)
  | some _, .unresolved => .error (.error .destinationUnresolved)
  | some _, .raised => .error .raised
  | some _, .expired => .error .expired
  | some hostname, .answers items =>
    if hostname = "" then .error (.error .destinationRejected)
    else if items = [] then .error (.error .destinationUnresolved)
    else validatePublicAnswers library [] items

/-- `_require_http_allowed` and `_require_allowed_port` accept the URL. -/
def acceptsUrl (config : WebhookSecurityConfig) (parts : UrlParts) : Bool :=
  (parts.scheme ≠ "http" || config.httpAllowed) &&
    match parts.port, config.allowedPorts with
    | none, _ => false
    | some _, none => true
    | some (some port), some allowed => port ∈ allowed
    | some none, some allowed =>
      (parts.scheme = "https" && 443 ∈ allowed) || (parts.scheme = "http" && 80 ∈ allowed)

/-- What `_post_to_validated_addresses` makes of one exchange. -/
def postOnce (exchanges : ℕ → Exchange) (i : ℕ) (_ : IPAddress) : Tried DeliveryEnding String :=
  match exchanges i with
  | .noConnection .proxyRefused => .done (.error .destinationRejected)
  | .noConnection .proxyUnavailable => .done (.error (.notSent "egress_proxy_unavailable"))
  | .noConnection (.connectError _) => .next "ConnectError"
  | .noConnection .connectTimeout => .next "ConnectTimeout"
  | .noConnection .poolTimeout => .done (.error (.notSent "PoolTimeout"))
  | .failed _ failure => .done (.error (.ambiguous failure.name (ambiguousPhase failure)))
  | .expired _ => .done .expired
  | .raised _ => .done .raised
  | .responded response => .done (.status response.status)

def postToValidatedAddresses (expired : ℕ → Bool) (exchanges : ℕ → Exchange)
    (addresses : List IPAddress) : List (ℕ × IPAddress) × DeliveryEnding :=
  match inTurn expired (postOnce exchanges) 0 "deadline_expired"
      (addresses.take maxAddressesTried) with
  | (tried, .ok ending) => (tried, ending)
  | (tried, .error last) => (tried, .error (.notSent last))

def classified (tried : List (ℕ × IPAddress)) : DeliveryEnding → DeliveryEnding
  | .expired =>
    if tried = [] then .error (.notSent "deadline_expired")
    else .error (.ambiguous "deadline_expired" "exchange")
  | ending => ending

/-- `_send_signed`: the addresses to which a connection was attempted, and how it ended. -/
def sendSigned (config : WebhookSecurityConfig) (url : String) (resolution : Resolution)
    (expired : ℕ → Bool) (exchanges : ℕ → Exchange) : List (ℕ × IPAddress) × DeliveryEnding :=
  match library.urlsplit url with
  | none => ([], .raised)
  | some parts =>
    if !acceptsUrl config parts then ([], .error .destinationRejected)
    else match validateDestinationAddresses library parts resolution with
      | .error ending => ([], classified [] ending)
      | .ok addresses =>
        let (tried, ending) := postToValidatedAddresses expired exchanges addresses
        (tried, classified tried ending)

/-- What is to hold of the connections that a delivery attempted and of the error that was raised. -/
structure SafeDelivery (resolution : Resolution) (exchanges : ℕ → Exchange)
    (tried : List (ℕ × IPAddress)) (ending : DeliveryEnding) : Prop where
  allowed : ∀ x ∈ tried, IsPublic library.classes x.2 ∧
    ∃ items, resolution = .answers items ∧ ∃ item ∈ items, Names library item x.2
  allOrNothing : ∀ items, resolution = .answers items →
    (∃ item ∈ items, ∀ address, Names library item address → ¬IsPublic library.classes address) →
    tried = []
  further : ∀ before x y after, tried = before ++ x :: y :: after → (exchanges x.1).written = false
  notSent : ∀ error, ending = .error error → error.saysNotSent = true →
    ∀ x ∈ tried, (exchanges x.1).written = false

variable {library} {parts : UrlParts} {items : List String} {resolution : Resolution}
  {validated addresses : List IPAddress} {config : WebhookSecurityConfig} {url : String}
  {expired : ℕ → Bool} {exchanges : ℕ → Exchange} {tried : List (ℕ × IPAddress)}
  {ending : DeliveryEnding}

/-- What passes the loop: every answer names a public address, and the addresses are those that
answers name. -/
theorem validatePublicAnswers_eq_ok
    (h : validatePublicAnswers library validated items = .ok addresses) :
    (∀ item ∈ items, ∃ address, Names library item address ∧ IsPublic library.classes address) ∧
    ∀ address ∈ addresses, address ∈ validated ∨ ∃ item ∈ items, Names library item address := by
  induction items generalizing validated with
  | nil =>
    obtain rfl := Except.ok.inj h
    exact ⟨by simp, fun address haddress => .inl ((List.mergeSort_perm _ _).mem_iff.1 haddress)⟩
  | cons item rest ih =>
    unfold validatePublicAnswers at h
    split at h
    · cases h
    · next address hnames =>
      split at h
      · cases h
      · next hpublic =>
        have hrest : ∃ more, validatePublicAnswers library more rest = .ok addresses ∧
            ∀ a ∈ more, a ∈ validated ∨ a = address := by
          split at h
          · exact ⟨validated, h, fun a ha => .inl ha⟩
          · exact ⟨validated ++ [address], h, fun a ha => by simpa using ha⟩
        obtain ⟨more, hmore, hmem⟩ := hrest
        exact answers_cons hnames (isPublic_iff.1 (by simpa using hpublic)) hmem (ih hmore)

theorem validateDestinationAddresses_eq_ok
    (h : validateDestinationAddresses library parts resolution = .ok addresses) :
    ∃ items, resolution = .answers items ∧
      (∀ item ∈ items, ∃ address, Names library item address ∧ IsPublic library.classes address) ∧
      ∀ address ∈ addresses, ∃ item ∈ items, Names library item address := by
  unfold validateDestinationAddresses at h
  split at h
  · cases h
  · cases h
  · cases h
  · cases h
  · next items _ =>
    split at h
    · cases h
    · split at h
      · cases h
      · obtain ⟨hitems, haddresses⟩ := validatePublicAnswers_eq_ok h
        exact ⟨items, rfl, hitems,
          fun address haddress => (haddresses address haddress).resolve_left (by simp)⟩

lemma written_of_postOnce_next {x : ℕ × IPAddress} (h : AskedForNext (postOnce exchanges) x) :
    (exchanges x.1).written = false := by
  obtain ⟨reason, h⟩ := h
  unfold postOnce at h
  split at h
  · cases h
  · cases h
  · next hexchange =>
    rw [hexchange]
    rfl
  · next hexchange =>
    rw [hexchange]
    rfl
  · cases h
  · cases h
  · cases h
  · cases h
  · cases h

lemma written_of_postOnce_done {x : ℕ × IPAddress} {error : WebhookError}
    (h : postOnce exchanges x.1 x.2 = .done (.error error)) (hsent : error.saysNotSent = true) :
    (exchanges x.1).written = false := by
  unfold postOnce at h
  split at h
  · next hexchange =>
    rw [hexchange]
    rfl
  · next hexchange =>
    rw [hexchange]
    rfl
  · cases h
  · cases h
  · next hexchange =>
    rw [hexchange]
    rfl
  · obtain rfl := DeliveryEnding.error.inj (Tried.done.inj h)
    cases hsent
  · cases h
  · cases h
  · cases h

theorem postToValidatedAddresses_spec
    (h : postToValidatedAddresses expired exchanges addresses = (tried, ending)) :
    (∀ x ∈ tried, x.2 ∈ addresses) ∧
    (∀ before x y after, tried = before ++ x :: y :: after → (exchanges x.1).written = false) ∧
    (ending = .expired → tried ≠ []) ∧
    ∀ error, ending = .error error → error.saysNotSent = true →
      ∀ x ∈ tried, (exchanges x.1).written = false := by
  unfold postToValidatedAddresses at h
  generalize hturn : inTurn expired (postOnce exchanges) 0 "deadline_expired"
    (addresses.take maxAddressesTried) = result at h
  obtain ⟨tried', result⟩ := result
  obtain ⟨hinitial, hends⟩ := inTurn_spec hturn
  have htried : tried' = tried := by
    cases result <;> exact congrArg Prod.fst h
  subst htried
  refine ⟨fun x hx => ?_, fun before x y after heq => ?_, fun hexpired => ?_,
    fun error hending hsent x hx => ?_⟩
  · exact List.mem_of_mem_take (hinitial.subset (List.mem_map_of_mem hx))
  · rw [heq] at hends
    exact written_of_postOnce_next hends.askedForNext
  · cases result with
    | error last =>
      have hlast : DeliveryEnding.error (.notSent last) = ending := congrArg Prod.snd h
      rw [hexpired] at hlast
      cases hlast
    | ok final =>
      obtain ⟨before, y, rfl, -⟩ := hends
      simp
  · cases result with
    | error last => exact written_of_postOnce_next (hends x hx)
    | ok final =>
      obtain rfl : final = ending := congrArg Prod.snd h
      obtain ⟨before, y, rfl, hbefore, hdone⟩ := hends
      rcases List.mem_append.1 hx with hx | hx
      · exact written_of_postOnce_next (hbefore x hx)
      · obtain rfl : x = y := by simpa using hx
        exact written_of_postOnce_done (hending ▸ hdone) hsent

lemma safeDelivery_nil : SafeDelivery library resolution exchanges [] ending :=
  ⟨by simp, fun _ _ _ => rfl, by simp, by simp⟩

/-- Every delivery attempts connections to public addresses only, and says rightly that nothing was
sent. -/
theorem deliver_safe
    (h : sendSigned library config url resolution expired exchanges = (tried, ending)) :
    SafeDelivery library resolution exchanges tried ending := by
  unfold sendSigned at h
  split at h
  · obtain ⟨rfl, rfl⟩ := Prod.mk.inj h
    exact safeDelivery_nil
  · split at h
    · obtain ⟨rfl, rfl⟩ := Prod.mk.inj h
      exact safeDelivery_nil
    · split at h
      · obtain ⟨rfl, rfl⟩ := Prod.mk.inj h
        exact safeDelivery_nil
      · next addresses haddresses =>
        obtain ⟨items, rfl, hitems, hnamed⟩ := validateDestinationAddresses_eq_ok haddresses
        generalize hpost : postToValidatedAddresses expired exchanges addresses = result at h
        obtain ⟨tried', ending'⟩ := result
        obtain ⟨rfl, rfl⟩ := Prod.mk.inj h
        obtain ⟨hmem, hfurther, hexpired, hnotSent⟩ := postToValidatedAddresses_spec hpost
        refine ⟨fun x hx => ?_, fun items' heq hfails => ?_, hfurther,
          fun error hending hsent => ?_⟩
        · obtain ⟨item, hitem, hname⟩ := hnamed x.2 (hmem x hx)
          obtain ⟨address, haddress, hpublic⟩ := hitems item hitem
          obtain rfl : x.2 = address := Option.some.inj (hname.symm.trans haddress)
          exact ⟨hpublic, items, rfl, item, hitem, hname⟩
        · obtain rfl := Resolution.answers.inj heq
          obtain ⟨item, hitem, hfails⟩ := hfails
          obtain ⟨address, hname, hpublic⟩ := hitems item hitem
          exact absurd hpublic (hfails address hname)
        · cases ending' with
          | expired =>
            rw [classified, if_neg (hexpired rfl)] at hending
            obtain rfl := DeliveryEnding.error.inj hending
            cases hsent
          | error error' => exact hnotSent error hending hsent
          | status | raised => cases hending

end Delivery

/-- Whatever the URL, the answer of the resolver, the policy, the outcomes of the connections and the
expiries of the deadline: a request of the strict client attempts connections to allowed addresses of
its one resolution only, and to none if an answer is not allowed; it takes another address only if
nothing was sent before, and an error that says that nothing was sent is right.  A delivery of a
webhook does the same with public addresses. -/
theorem outbound_requests_checked (library : Library) (url : String) (resolution : Resolution)
    (expired : ℕ → Bool) (exchanges : ℕ → Exchange) :
    (∀ policy forbiddenHeader expiredAtStart,
      Safe library policy url resolution exchanges
        (request library policy url forbiddenHeader expiredAtStart resolution expired exchanges).1
        (request library policy url forbiddenHeader expiredAtStart resolution expired exchanges).2) ∧
    ∀ config,
      SafeDelivery library resolution exchanges
        (sendSigned library config url resolution expired exchanges).1
        (sendSigned library config url resolution expired exchanges).2 :=
  ⟨fun _ _ _ => request_safe rfl, fun _ => deliver_safe rfl⟩

end SaasOs.Egress
