import SaasOs.Foundation.UniqueInsert
import SaasOs.Platform.Operators

/-!
# Logins and erasures

A callback consumes a login transaction, exchanges its code, validates the ID token, resolves the
identity to a user, whom it may have to create and to link, and issues a session; an erasure of a
user removes the links, then what the user has in each tenant, and the sessions last.  Every one of
these is a transaction of its own, and they interleave.
-/

namespace SaasOs.Logins

open Rows UniqueInsert

/-! ## Rows -/

/-- A row of `core.login_transactions`. -/
structure LoginTransaction where
  id : Uuid
  state : String
  nonce : String
  codeVerifier : String
  expiresAt : Instant

/-- A row of `core.sessions`. -/
structure Session where
  id : Uuid
  userId : Uuid
  expiresAt : Instant
  revokedAt : Option Instant

/-- The unique key of a link: issuer and subject. -/
abbrev Identity := String × String

def identityOf (link : ExternalIdentity) : Identity := (link.issuer, link.subject)

/-- An ID token; `accepted` stands for the checks of `validate_id_token` other than the nonce's. -/
structure IdToken where
  issuer : String
  subject : String
  nonce : String
  accepted : Bool

/-- The errors of `validate_session`. -/
inductive SessionError
  | notFound
  | revoked (sessionId : Uuid)
  | expired (sessionId : Uuid)
  | inactiveUser (userId : Uuid)

def validateSession (sessions : List Session) (users : List User) (now : Instant) (token : Uuid) :
    Except SessionError Session :=
  match sessions.find? fun record => record.id = token with
  | none => .error .notFound
  | some record =>
    if record.revokedAt.isSome then .error (.revoked record.id)
    else if record.expiresAt ≤ now then .error (.expired record.id)
    else
      match users.find? fun user => user.id = record.userId with
      | none => .error (.inactiveUser record.userId)
      | some user => if user.isActive then .ok record else .error (.inactiveUser record.userId)

/-- `_DEFAULT_LIFETIME` of a login transaction: ten minutes. -/
def loginLifetime : ℤ := 600 * 1000000

/-- `_DEFAULT_SESSION_LIFETIME`: twelve hours. -/
def sessionLifetime : ℤ := 43200 * 1000000

/-! ## The system -/

/-- Where a callback is: it has consumed its transaction, exchanged its code, validated the token;
it has found no link and is to create a user, has created one, has inserted the link, has lost the
insertion to another; it has found a link, has resolved its user, has issued its session, or has
raised. -/
inductive LoginPhase
  | consumed (nonce codeVerifier : String)
  | exchanged (nonce : String) (idToken : IdToken)
  | authenticated (identity : Identity)
  | provisioning (identity : Identity)
  | linking (identity : Identity) (userId : Uuid)
  | inserted (identity : Identity) (userId : Uuid)
  | lost (identity : Identity)
  | found (identity : Identity) (userId : Uuid)
  | resolved (identity : Identity) (userId : Uuid)
  | issued (identity : Identity) (session : Session)
  | raised

def LoginPhase.holds? : LoginPhase → Option Uuid
  | consumed _ _ => none
  | exchanged _ _ => none
  | authenticated _ => none
  | provisioning _ => none
  | linking _ userId => some userId
  | inserted _ userId => some userId
  | lost _ => none
  | found _ userId => some userId
  | resolved _ userId => some userId
  | issued _ _ => none
  | raised => none

def LoginPhase.resolution? : LoginPhase → Option (Identity × Uuid)
  | consumed _ _ => none
  | exchanged _ _ => none
  | authenticated _ => none
  | provisioning _ => none
  | linking _ _ => none
  | inserted _ _ => none
  | lost _ => none
  | found identity userId => some (identity, userId)
  | resolved identity userId => some (identity, userId)
  | issued identity session => some (identity, session.userId)
  | raised => none

def LoginPhase.isDone : LoginPhase → Bool
  | issued _ _ => true
  | raised => true
  | _ => false

def LoginPhase.isBetween : LoginPhase → Bool
  | inserted _ _ => false
  | issued _ _ => false
  | raised => false
  | _ => true

/-- A callback, with the users whose erasure had returned when it began. -/
structure Callback where
  transactionId : Uuid
  erasedBefore : List Uuid
  phase : LoginPhase

/-- Where an erasure is: it has begun; its transaction under the owners' lock has selected links; it
goes through the tenants; it has selected sessions; it has returned, or raised. -/
inductive ErasurePhase
  | started (userId : Uuid) (tenantIds : List Uuid)
  | removing (userId : Uuid) (tenantIds : List Uuid) (links : List Uuid)
  | erasing (userId : Uuid) (tenantIds : List Uuid)
  | purging (userId : Uuid) (sessions : List Uuid)
  | returned (userId : Uuid)
  | raised

def ErasurePhase.user? : ErasurePhase → Option Uuid
  | started userId _ => some userId
  | removing userId _ _ => some userId
  | erasing userId _ => some userId
  | purging userId _ => some userId
  | returned _ => none
  | raised => none

/-- A session as it was issued: by which callback, for which transaction and identity. -/
structure Issued where
  callback : ℕ
  transactionId : Uuid
  identity : Identity
  session : Session

/-- The tables, the platform owners' lock with the links that its holder has locked, the callbacks
and the erasures.  Of the past the state keeps the ids of the transactions that were begun, the
users that erasures were called for and whose erasure has returned, and the sessions issued. -/
structure LoginState where
  clock : Instant
  transactions : List LoginTransaction
  users : List User
  links : Table ℕ ExternalIdentity
  sessions : List Session
  ownersLock : Option (ℕ × List Uuid)
  callbacks : ℕ → Option Callback
  erasures : ℕ → Option ErasurePhase
  begun : List Uuid
  named : List Uuid
  erased : List Uuid
  issued : List Issued

inductive CallbackAction
  | exchange (idToken : Option IdToken)
  | validate
  | find
  | create (userId : Uuid)
  | link (linkId : Uuid)
  | commit
  | load
  | issue (sessionId : Uuid)
  | crash

inductive ErasureAction
  | lockOwners (enrolled : Bool)
  | removeLinks
  | eraseTenant
  | select
  | purge
  | abort

/-- What can happen next to the logins and erasures. -/
inductive LoginEvent
  | tick (elapsed : ℕ)
  | setActive (userId : Uuid) (isActive : Bool)
  | login (transactionId : Uuid) (state nonce codeVerifier : String)
  | consume (n : ℕ) (transactionId : Uuid) (state : String)
  | callback (n : ℕ) (action : CallbackAction)
  | erase (k : ℕ) (userId : Uuid) (tenantIds : List Uuid) (actorUserId : Uuid) (declared : Bool)
  | erasure (k : ℕ) (action : ErasureAction)

namespace LoginState

/-- The callback at `n` enters a phase. -/
def setPhase (state : LoginState) (n : ℕ) (callback : Callback) (phase : LoginPhase) : LoginState :=
  { state with
    callbacks := Function.update state.callbacks n (some { callback with phase := phase }) }

/-- The erasure at `k` enters a phase. -/
def setErasure (state : LoginState) (k : ℕ) (phase : ErasurePhase) : LoginState :=
  { state with erasures := Function.update state.erasures k (some phase) }

def lockedLinks (state : LoginState) : List Uuid :=
  (state.ownersLock.map Prod.snd).getD []

/-- `find_external_identity`, by a callback that goes on in `missing` if there is no link. -/
def findIdentity (state : LoginState) (identity : Identity) (missing : LoginPhase) : LoginPhase :=
  if PyString.hasControlCharacter identity.1 || PyString.hasControlCharacter identity.2 then .raised
  else
    match state.links.committed.find? fun link => identityOf link = identity with
    | some link => .found identity link.userId
    | none => missing

def stepCallback (state : LoginState) (n : ℕ) (callback : Callback) :
    CallbackAction → LoginState
  | .exchange idToken =>
    match callback.phase, idToken with
    | .consumed nonce _, some idToken => state.setPhase n callback (.exchanged nonce idToken)
    | .consumed _ _, none => state.setPhase n callback .raised
    | _, _ => state
  | .validate =>
    match callback.phase with
    | .exchanged nonce idToken =>
      if idToken.accepted ∧ idToken.nonce = nonce then
        state.setPhase n callback (.authenticated (idToken.issuer, idToken.subject))
      else state.setPhase n callback .raised
    | _ => state
  | .find =>
    match callback.phase with
    | .authenticated identity =>
      state.setPhase n callback (state.findIdentity identity (.provisioning identity))
    | .lost identity => state.setPhase n callback (state.findIdentity identity .raised)
    | _ => state
  | .create userId =>
    match callback.phase with
    | .provisioning identity =>
      -- a new id is one that no row has and no call was given
      if (∀ user ∈ state.users, user.id ≠ userId) ∧ userId ∉ state.named then
        { state with users := ⟨userId, true⟩ :: state.users }.setPhase n callback
          (.linking identity userId)
      else state
    | _ => state
  | .link linkId =>
    match callback.phase with
    | .linking identity userId =>
      -- the id is new, and an insertion waits for the removal of a link with its key
      if ∃ link ∈ state.links.committed, link.id = linkId ∨
          identityOf link = identity ∧ link.id ∈ state.lockedLinks then
        state
      else
        match state.links.tryInsert identityOf n identity with
        | .inserted =>
          { state with
            links := state.links.insert n ⟨linkId, userId, identity.1, identity.2⟩ }.setPhase n
              callback (.inserted identity userId)
        | .waits => state
        | .violates => state.setPhase n callback (.lost identity)
    | _ => state
  | .commit =>
    match callback.phase with
    | .inserted identity userId =>
      { state with links := state.links.commit n }.setPhase n callback (.resolved identity userId)
    | _ => state
  | .load =>
    match callback.phase with
    | .found identity userId =>
      if ∃ user ∈ state.users, user.id = userId then
        state.setPhase n callback (.resolved identity userId)
      else state.setPhase n callback .raised
    | _ => state
  | .issue sessionId =>
    match callback.phase with
    | .resolved identity userId =>
      if ∃ user ∈ state.users, user.id = userId ∧ user.isActive then
        if ∀ session ∈ state.sessions, session.id ≠ sessionId then
          let session : Session := ⟨sessionId, userId, state.clock + sessionLifetime, none⟩
          { state with
            sessions := session :: state.sessions
            issued := ⟨n, callback.transactionId, identity, session⟩ :: state.issued }.setPhase n
              callback (.issued identity session)
        else state
      else state.setPhase n callback .raised
    | _ => state
  | .crash =>
    if callback.phase.isDone then state
    else { state with links := state.links.rollback n }.setPhase n callback .raised

def stepErasure (state : LoginState) (k : ℕ) (phase : ErasurePhase) :
    ErasureAction → LoginState
  | .lockOwners enrolled =>
    match phase, state.ownersLock with
    | .started userId tenantIds, none =>
      if enrolled then state.setErasure k .raised
      else
        let links := (state.links.committed.filter fun link => link.userId = userId).map
          ExternalIdentity.id
        { state with ownersLock := some (k, links) }.setErasure k (.removing userId tenantIds links)
    | _, _ => state
  | .removeLinks =>
    match phase with
    | .removing userId tenantIds links =>
      { state with
        links := state.links.delete fun link => decide (link.id ∈ links)
        ownersLock := none }.setErasure k (.erasing userId tenantIds)
    | _ => state
  | .eraseTenant =>
    match phase with
    | .erasing userId (_ :: tenantIds) => state.setErasure k (.erasing userId tenantIds)
    | _ => state
  | .select =>
    match phase with
    | .erasing userId [] =>
      state.setErasure k (.purging userId
        ((state.sessions.filter fun session => session.userId = userId).map Session.id))
    | _ => state
  | .purge =>
    match phase with
    | .purging userId sessions =>
      { state with
        sessions := state.sessions.filter fun session => session.id ∉ sessions
        erased := userId :: state.erased }.setErasure k (.returned userId)
    | _ => state
  | .abort =>
    match phase with
    | .returned _ => state
    | .removing _ _ _ => { state with ownersLock := none }.setErasure k .raised
    | _ => state.setErasure k .raised

def step (state : LoginState) : LoginEvent → LoginState
  | .tick elapsed => { state with clock := state.clock + elapsed }
  | .setActive userId isActive =>
    { state with users := state.users.map fun user =>
        if user.id = userId then { user with isActive := isActive } else user }
  | .login transactionId secret nonce codeVerifier =>
    if transactionId ∈ state.begun then state
    else
      { state with
        transactions := ⟨transactionId, secret, nonce, codeVerifier,
          state.clock + loginLifetime⟩ :: state.transactions
        begun := transactionId :: state.begun }
  | .consume n transactionId secret =>
    match state.callbacks n, state.transactions.find? fun record => record.id = transactionId with
    | none, some record =>
      let rest := state.transactions.filter fun other => other.id ≠ transactionId
      -- the row is deleted whether or not it is valid
      if record.expiresAt ≤ state.clock ∨ record.state ≠ secret then
        { state with transactions := rest }
      else
        { state with
          transactions := rest
          callbacks := Function.update state.callbacks n (some ⟨transactionId, state.erased,
            .consumed record.nonce record.codeVerifier⟩) }
    | _, _ => state
  | .erase k userId tenantIds actorUserId declared =>
    if state.erasures k = none then
      { state with named := userId :: state.named }.setErasure k
        (if declared ∧ ∃ user ∈ state.users, user.id = actorUserId then .started userId tenantIds
          else .raised)
    else state
  | .callback n action =>
    match state.callbacks n with
    | some callback => state.stepCallback n callback action
    | none => state
  | .erasure k action =>
    match state.erasures k with
    | some phase => state.stepErasure k phase action
    | none => state

/-! ## What is promised -/

def LinkedTo (state : LoginState) (identity : Identity) (userId : Uuid) : Prop :=
  ∃ link ∈ state.links.committed, identityOf link = identity ∧ link.userId = userId

def Resolved (state : LoginState) (n : ℕ) (identity : Identity) (userId : Uuid) : Prop :=
  ∃ callback, state.callbacks n = some callback ∧
    callback.phase.resolution? = some (identity, userId)

/-- What holds in every state: no transaction yields two sessions, no identity has two users, and
every session is an old one or was issued by a callback. -/
structure LoginsSafe (old : List Session) (state : LoginState) : Prop where
  once : (state.issued.map Issued.transactionId).Nodup
  linked : ∀ identity userId userId', state.LinkedTo identity userId →
    state.LinkedTo identity userId' → userId = userId'
  sessions : ∀ session ∈ state.sessions,
    session ∈ old ∨ ∃ record ∈ state.issued, record.session = session

/-- Every session that a run issues belongs to the user that its identity was linked to at the event
of the run that resolved it. -/
def ResolvedAsLinked (start : LoginState) (events : List LoginEvent) : Prop :=
  ∀ record ∈ (Run.run step start events).issued, ∃ before event after,
    events = before ++ event :: after ∧
    ¬ (Run.run step start before).Resolved record.callback record.identity record.session.userId ∧
    (step (Run.run step start before) event).Resolved record.callback record.identity
      record.session.userId ∧
    (step (Run.run step start before) event).LinkedTo record.identity record.session.userId

/-- A user whose erasure has returned has no session that validates, and no callback that began
later has resolved an identity to the user. -/
structure ErasedStayOut (state : LoginState) : Prop where
  sessions : ∀ userId ∈ state.erased, ∀ token session,
    validateSession state.sessions state.users state.clock token = .ok session →
      session.userId ≠ userId
  callbacks : ∀ n callback identity userId, state.callbacks n = some callback →
    callback.phase.resolution? = some (identity, userId) → userId ∉ callback.erasedBefore

/-- No callback holds the user, and no identity is linked to it. -/
structure Gone (state : LoginState) (userId : Uuid) : Prop where
  unheld : ∀ n callback, state.callbacks n = some callback → callback.phase.holds? ≠ some userId
  unlinked : ∀ link ∈ state.links.committed, link.userId ≠ userId

/-- An erasure that selects the sessions finds no login of the user under way. -/
def SelectsGone (state : LoginState) : LoginEvent → Prop
  | .erasure k .select => ∀ userId, state.erasures k = some (.erasing userId []) → state.Gone userId
  | _ => True

/-- Before the first callback and the first erasure. -/
structure Initial (state : LoginState) : Prop where
  unique : state.links.Unique identityOf
  committed : state.links.uncommitted = []
  begun : ∀ record ∈ state.transactions, record.id ∈ state.begun
  noLock : state.ownersLock = none
  noCallbacks : ∀ n, state.callbacks n = none
  noErasures : ∀ k, state.erasures k = none
  noneErased : state.erased = []
  noneIssued : state.issued = []

/-! ## The invariant of every run -/

variable {state : LoginState} {old : List Session}

/-- What every state of a run satisfies. -/
structure Sound (old : List Session) (state : LoginState) : Prop where
  unique : state.links.Unique identityOf
  begun : ∀ record ∈ state.transactions, record.id ∈ state.begun
  consumed : ∀ n callback, state.callbacks n = some callback →
    callback.transactionId ∈ state.begun ∧
      ∀ record ∈ state.transactions, record.id ≠ callback.transactionId
  alone : ∀ n m callback other, state.callbacks n = some callback → state.callbacks m = some other →
    callback.transactionId = other.transactionId → n = m
  inserted : ∀ n callback identity userId, state.callbacks n = some callback →
    callback.phase = .inserted identity userId →
      ∃ link, (n, link) ∈ state.links.uncommitted ∧ identityOf link = identity ∧
        link.userId = userId
  pending : ∀ n link, (n, link) ∈ state.links.uncommitted → ∃ callback,
    state.callbacks n = some callback ∧ callback.phase = .inserted (identityOf link) link.userId
  issued : ∀ record ∈ state.issued, ∃ callback, state.callbacks record.callback = some callback ∧
    callback.transactionId = record.transactionId ∧
      callback.phase = .issued record.identity record.session
  once : (state.issued.map Issued.callback).Nodup
  sessions : ∀ session ∈ state.sessions,
    session ∈ old ∨ ∃ record ∈ state.issued, record.session = session

lemma Initial.sound (h : state.Initial) : state.Sound state.sessions where
  unique := h.unique
  begun := h.begun
  consumed n _ hcall := by
    rw [h.noCallbacks n] at hcall
    cases hcall
  alone n _ _ _ hcall := by
    rw [h.noCallbacks n] at hcall
    cases hcall
  inserted n _ _ _ hcall := by
    rw [h.noCallbacks n] at hcall
    cases hcall
  pending n link hlink := by
    rw [h.committed] at hlink
    cases hlink
  issued record hrecord := by
    rw [h.noneIssued] at hrecord
    cases hrecord
  once := by
    rw [h.noneIssued]
    exact List.nodup_nil
  sessions session hsession := .inl hsession

variable {n m : ℕ} {phase : LoginPhase}

lemma callbacks_setPhase {callback other : Callback}
    (h : (state.setPhase n callback phase).callbacks m = some other) :
    m = n ∧ other = { callback with phase := phase } ∨ m ≠ n ∧ state.callbacks m = some other := by
  unfold setPhase at h
  exact Run.update_some_cases h

variable {callback : Callback}

variable {links : Table ℕ ExternalIdentity}

lemma Sound.update (h : state.Sound old) (hcall : state.callbacks n = some callback)
    (hgoes : callback.phase.isDone = false) (users : List User) (hunique : links.Unique identityOf)
    (hothers : ∀ m link, m ≠ n →
      ((m, link) ∈ links.uncommitted ↔ (m, link) ∈ state.links.uncommitted))
    (hinserted : ∀ identity userId, phase = .inserted identity userId →
      ∃ link, (n, link) ∈ links.uncommitted ∧ identityOf link = identity ∧ link.userId = userId)
    (hown : ∀ link, (n, link) ∈ links.uncommitted →
      phase = .inserted (identityOf link) link.userId) :
    (setPhase { state with users := users, links := links } n callback phase).Sound old where
  unique := hunique
  begun := h.begun
  consumed m other hm := by
    rcases callbacks_setPhase hm with ⟨-, rfl⟩ | ⟨-, hm⟩
    · exact h.consumed n callback hcall
    · exact h.consumed m other hm
  alone m k other third hm hk hsame := by
    rcases callbacks_setPhase hm with ⟨rfl, rfl⟩ | ⟨-, hm'⟩
    · rcases callbacks_setPhase hk with ⟨rfl, rfl⟩ | ⟨-, hk'⟩
      · rfl
      · exact h.alone m k callback third hcall hk' hsame
    · rcases callbacks_setPhase hk with ⟨rfl, rfl⟩ | ⟨-, hk'⟩
      · exact h.alone m k other callback hm' hcall hsame
      · exact h.alone m k other third hm' hk' hsame
  inserted m other identity userId hm hphase := by
    rcases callbacks_setPhase hm with ⟨rfl, rfl⟩ | ⟨hmn, hm⟩
    · exact hinserted identity userId hphase
    · obtain ⟨link, hlink, hrest⟩ := h.inserted m other identity userId hm hphase
      exact ⟨link, (hothers m link hmn).mpr hlink, hrest⟩
  pending m link hlink := by
    by_cases hmn : m = n
    · subst hmn
      exact ⟨{ callback with phase := phase }, Function.update_self m _ state.callbacks,
        hown link hlink⟩
    · obtain ⟨other, hother, hphase⟩ := h.pending m link ((hothers m link hmn).mp hlink)
      exact ⟨other, by simp [setPhase, hmn, hother], hphase⟩
  issued record hrecord := by
    obtain ⟨other, hother, htransaction, hphase⟩ := h.issued record hrecord
    have hne : record.callback ≠ n := by
      intro heq
      rw [heq, hcall] at hother
      obtain rfl := Option.some.inj hother
      rw [hphase] at hgoes
      cases hgoes
    exact ⟨other, by simp [setPhase, hne, hother], htransaction, hphase⟩
  once := h.once
  sessions := h.sessions

lemma LoginPhase.isDone_of_isBetween (h : phase.isBetween = true) :
    phase.isDone = false := by
  cases phase <;> first | rfl | cases h

lemma Sound.setPhase (h : state.Sound old) {n : ℕ} {callback : Callback} {phase : LoginPhase}
    (hcall : state.callbacks n = some callback) (hbetween : callback.phase.isBetween = true)
    (users : List User) (hphase : ∀ identity userId, phase ≠ .inserted identity userId) :
    (LoginState.setPhase { state with users := users } n callback phase).Sound old := by
  refine h.update hcall (LoginPhase.isDone_of_isBetween hbetween) users h.unique
    (fun _ _ _ => Iff.rfl) (fun identity userId heq => absurd heq (hphase identity userId))
    fun link hlink => ?_
  obtain ⟨other, hother, hinserted⟩ := h.pending n link hlink
  rw [hcall] at hother
  obtain rfl := Option.some.inj hother
  rw [hinserted] at hbetween
  cases hbetween

lemma Sound.issue (h : state.Sound old) (identity : Identity) (session : Session)
    (hcall : state.callbacks n = some callback) (hbetween : callback.phase.isBetween = true) :
    (LoginState.setPhase { state with
      sessions := session :: state.sessions
      issued := ⟨n, callback.transactionId, identity, session⟩ :: state.issued } n callback
        (.issued identity session)).Sound old := by
  have hsound : (state.setPhase n callback (.issued identity session)).Sound old :=
    h.setPhase hcall hbetween state.users fun _ _ => nofun
  have hnew : n ∉ state.issued.map Issued.callback := by
    intro hmem
    obtain ⟨record, hrecord, rfl⟩ := List.mem_map.mp hmem
    obtain ⟨other, hother, -, hphase⟩ := h.issued record hrecord
    rw [hcall] at hother
    obtain rfl := Option.some.inj hother
    rw [hphase] at hbetween
    cases hbetween
  exact
    { unique := hsound.unique
      begun := hsound.begun
      consumed := hsound.consumed
      alone := hsound.alone
      inserted := hsound.inserted
      pending := hsound.pending
      issued := fun record hrecord => by
        rcases List.mem_cons.mp hrecord with rfl | hrecord
        · exact ⟨{ callback with phase := .issued identity session },
            Function.update_self n _ state.callbacks, rfl, rfl⟩
        · exact hsound.issued record hrecord
      once := List.nodup_cons.mpr ⟨hnew, h.once⟩
      sessions := fun other hother => by
        rcases List.mem_cons.mp hother with rfl | hother
        · exact .inr ⟨_, List.mem_cons_self, rfl⟩
        · rcases h.sessions other hother with hold | ⟨record, hrecord, hsame⟩
          · exact .inl hold
          · exact .inr ⟨record, List.mem_cons_of_mem _ hrecord, hsame⟩ }

/-- What an action of a callback does to the state: nothing; it goes on, or raises, and holds no
user; it finds a link, creates a user, inserts the link, commits it, loads the user it has found,
issues a session, or crashes. -/
inductive CallbackMove (state : LoginState) (n : ℕ) (callback : Callback) : LoginState → Prop
  | stays : CallbackMove state n callback state
  | goes (phase : LoginPhase) (hbetween : callback.phase.isBetween = true)
      (hholds : phase.holds? = none) (hresolution : phase.resolution? = none) :
      CallbackMove state n callback (state.setPhase n callback phase)
  | finds (link : ExternalIdentity) (hbetween : callback.phase.isBetween = true)
      (hlink : link ∈ state.links.committed) :
      CallbackMove state n callback
        (state.setPhase n callback (.found (identityOf link) link.userId))
  | creates (identity : Identity) (userId : Uuid)
      (hphase : callback.phase = .provisioning identity) (hnew : userId ∉ state.named) :
      CallbackMove state n callback
        ({ state with users := ⟨userId, true⟩ :: state.users }.setPhase n callback
          (.linking identity userId))
  | inserts (identity : Identity) (userId linkId : Uuid)
      (hphase : callback.phase = .linking identity userId)
      (hinserted : state.links.tryInsert identityOf n identity = .inserted) :
      CallbackMove state n callback
        ({ state with
          links := state.links.insert n ⟨linkId, userId, identity.1, identity.2⟩ }.setPhase n
            callback (.inserted identity userId))
  | commits (identity : Identity) (userId : Uuid)
      (hphase : callback.phase = .inserted identity userId) :
      CallbackMove state n callback
        ({ state with links := state.links.commit n }.setPhase n callback
          (.resolved identity userId))
  | loads (identity : Identity) (userId : Uuid) (hphase : callback.phase = .found identity userId) :
      CallbackMove state n callback (state.setPhase n callback (.resolved identity userId))
  | issues (identity : Identity) (session : Session)
      (hphase : callback.phase = .resolved identity session.userId) :
      CallbackMove state n callback
        ({ state with
          sessions := session :: state.sessions
          issued := ⟨n, callback.transactionId, identity, session⟩ :: state.issued }.setPhase n
            callback (.issued identity session))
  | crashes (hgoes : callback.phase.isDone = false) :
      CallbackMove state n callback
        ({ state with links := state.links.rollback n }.setPhase n callback .raised)

variable {identity : Identity}

lemma CallbackMove.find {missing : LoginPhase} (hbetween : callback.phase.isBetween = true)
    (hholds : missing.holds? = none) (hresolution : missing.resolution? = none) :
    state.CallbackMove n callback
      (state.setPhase n callback (state.findIdentity identity missing)) := by
  unfold findIdentity
  split
  · exact .goes .raised hbetween rfl rfl
  · split
    · next link hfind =>
      obtain rfl : identityOf link = identity := by simpa using List.find?_some hfind
      exact .finds link hbetween (List.mem_of_find?_eq_some hfind)
    · exact .goes missing hbetween hholds hresolution

lemma callbackMove_stepCallback (n : ℕ) (callback : Callback) (action : CallbackAction) :
    state.CallbackMove n callback (state.stepCallback n callback action) := by
  cases action with
  | exchange idToken =>
    dsimp only [LoginState.stepCallback]
    split
    · next hphase => exact .goes _ (by rw [hphase]; rfl) rfl rfl
    · next hphase => exact .goes _ (by rw [hphase]; rfl) rfl rfl
    · exact .stays
  | validate =>
    dsimp only [LoginState.stepCallback]
    split
    · next hphase =>
      have hbetween : callback.phase.isBetween = true := by rw [hphase]; rfl
      split
      · exact .goes _ hbetween rfl rfl
      · exact .goes _ hbetween rfl rfl
    · exact .stays
  | find =>
    dsimp only [LoginState.stepCallback]
    split
    · next hphase => exact .find (by rw [hphase]; rfl) rfl rfl
    · next hphase => exact .find (by rw [hphase]; rfl) rfl rfl
    · exact .stays
  | create userId =>
    dsimp only [LoginState.stepCallback]
    split
    · next identity hphase =>
      split
      · next hnew => exact .creates identity userId hphase hnew.2
      · exact .stays
    · exact .stays
  | link linkId =>
    dsimp only [LoginState.stepCallback]
    split
    · next identity userId hphase =>
      split
      · exact .stays
      · split
        · next hinserted => exact .inserts identity userId linkId hphase hinserted
        · exact .stays
        · exact .goes _ (by rw [hphase]; rfl) rfl rfl
    · exact .stays
  | commit =>
    dsimp only [LoginState.stepCallback]
    split
    · next identity userId hphase => exact .commits identity userId hphase
    · exact .stays
  | load =>
    dsimp only [LoginState.stepCallback]
    split
    · next identity userId hphase =>
      split
      · exact .loads identity userId hphase
      · exact .goes _ (by rw [hphase]; rfl) rfl rfl
    · exact .stays
  | issue sessionId =>
    dsimp only [LoginState.stepCallback]
    split
    · next identity userId hphase =>
      split
      · split
        · exact .issues identity _ hphase
        · exact .stays
      · exact .goes _ (by rw [hphase]; rfl) rfl rfl
    · exact .stays
  | crash =>
    dsimp only [LoginState.stepCallback]
    split
    · exact .stays
    · next hgoes => exact .crashes (Bool.not_eq_true _ ▸ hgoes)

variable {next : LoginState}

lemma Sound.callbackMove (h : state.Sound old) (hcall : state.callbacks n = some callback)
    (hmove : state.CallbackMove n callback next) :
    next.Sound old := by
  cases hmove with
  | stays => exact h
  | goes phase hbetween hholds =>
    refine h.setPhase hcall hbetween state.users ?_
    rintro _ _ rfl
    cases hholds
  | finds link hbetween => exact h.setPhase hcall hbetween state.users fun _ _ => nofun
  | creates identity userId hphase =>
    exact h.setPhase hcall (by rw [hphase]; rfl) _ fun _ _ => nofun
  | inserts identity userId linkId hphase hinserted =>
    refine h.update hcall (by rw [hphase]; rfl) state.users
      (h.unique.insert hinserted) (fun m link hmn => ?_) ?_ fun link hlink => ?_
    · simp [hmn]
    · rintro _ _ ⟨⟩
      exact ⟨_, Table.mem_uncommitted_insert.mpr (.inr ⟨rfl, rfl⟩), rfl, rfl⟩
    · rcases Table.mem_uncommitted_insert.mp hlink with hlink | ⟨-, rfl⟩
      · obtain ⟨other, hother, hpending⟩ := h.pending n link hlink
        rw [hcall] at hother
        obtain rfl := Option.some.inj hother
        rw [hphase] at hpending
        cases hpending
      · rfl
  | commits identity userId hphase =>
    exact h.update hcall (by rw [hphase]; rfl) state.users (h.unique.commit n)
      (fun m link hmn => by simp [hmn]) (fun _ _ => nofun) fun link hlink => by simp at hlink
  | loads identity userId hphase =>
    exact h.setPhase hcall (by rw [hphase]; rfl) state.users fun _ _ => nofun
  | issues identity session hphase => exact h.issue identity session hcall (by rw [hphase]; rfl)
  | crashes hgoes =>
    exact h.update hcall hgoes state.users (h.unique.rollback n)
      (fun m link hmn => by simp [hmn]) (fun _ _ => nofun) fun link hlink => by simp at hlink

lemma Sound.frame (h : state.Sound old) (clock : Instant) (users : List User)
    (ownersLock : Option (ℕ × List Uuid)) (erasures : ℕ → Option ErasurePhase)
    (named erased : List Uuid) :
    Sound old { state with
      clock := clock, users := users, ownersLock := ownersLock, erasures := erasures
      named := named, erased := erased } :=
  ⟨h.unique, h.begun, h.consumed, h.alone, h.inserted, h.pending, h.issued, h.once, h.sessions⟩

lemma Sound.stepErasure (h : state.Sound old) (k : ℕ) (phase : ErasurePhase)
    (action : ErasureAction) : (state.stepErasure k phase action).Sound old := by
  cases action with
  | lockOwners enrolled =>
    dsimp only [LoginState.stepErasure]
    split
    · split
      · exact h.frame _ _ _ _ _ _
      · exact h.frame _ _ _ _ _ _
    · exact h
  | removeLinks =>
    dsimp only [LoginState.stepErasure]
    split
    · exact ⟨h.unique.delete _, h.begun, h.consumed, h.alone, h.inserted, h.pending, h.issued,
        h.once, h.sessions⟩
    · exact h
  | eraseTenant =>
    dsimp only [LoginState.stepErasure]
    split
    · exact h.frame _ _ _ _ _ _
    · exact h
  | select =>
    dsimp only [LoginState.stepErasure]
    split
    · exact h.frame _ _ _ _ _ _
    · exact h
  | purge =>
    dsimp only [LoginState.stepErasure]
    split
    · exact ⟨h.unique, h.begun, h.consumed, h.alone, h.inserted, h.pending, h.issued, h.once,
        fun session hsession => h.sessions session (List.mem_of_mem_filter hsession)⟩
    · exact h
  | abort =>
    dsimp only [LoginState.stepErasure]
    split
    · exact h
    · exact h.frame _ _ _ _ _ _
    · exact h.frame _ _ _ _ _ _

variable {record : LoginTransaction}

lemma Sound.login (h : state.Sound old) (hnew : record.id ∉ state.begun) :
    Sound old { state with
      transactions := record :: state.transactions, begun := record.id :: state.begun } := by
  refine ⟨h.unique, fun other hother => ?_, fun n callback hcall => ?_, h.alone, h.inserted,
    h.pending, h.issued, h.once, h.sessions⟩
  · rcases List.mem_cons.mp hother with rfl | hother
    · exact List.mem_cons_self
    · exact List.mem_cons_of_mem _ (h.begun other hother)
  · obtain ⟨hbegun, hrows⟩ := h.consumed n callback hcall
    refine ⟨List.mem_cons_of_mem _ hbegun, fun other hother => ?_⟩
    rcases List.mem_cons.mp hother with rfl | hother
    · exact fun heq => hnew (heq ▸ hbegun)
    · exact hrows other hother

variable {rest : List LoginTransaction}

lemma Sound.delete (h : state.Sound old) (hrest : ∀ record ∈ rest, record ∈ state.transactions) :
    Sound old { state with transactions := rest } :=
  ⟨h.unique, fun record hrecord => h.begun record (hrest record hrecord), fun m callback hm =>
    ⟨(h.consumed m callback hm).1, fun record hrecord =>
      (h.consumed m callback hm).2 record (hrest record hrecord)⟩,
    h.alone, h.inserted, h.pending, h.issued, h.once, h.sessions⟩

lemma Sound.begin (h : state.Sound old) (hcall : state.callbacks n = none)
    (hrecord : record ∈ state.transactions)
    (hrest : ∀ other ∈ rest, other ∈ state.transactions ∧ other.id ≠ record.id)
    (erasedBefore : List Uuid) :
    Sound old { state with
      transactions := rest
      callbacks := Function.update state.callbacks n
        (some ⟨record.id, erasedBefore, .consumed record.nonce record.codeVerifier⟩) } := by
  have hne : ∀ m callback, state.callbacks m = some callback → m ≠ n := by
    rintro m callback hm rfl
    rw [hcall] at hm
    cases hm
  refine ⟨h.unique, fun other hother => h.begun other (hrest other hother).1,
    fun m callback hm => ?_, fun m k callback other hm hk hsame => ?_,
    fun m callback identity userId hm hphase => ?_, fun m link hlink => ?_,
    fun issued hissued => ?_, h.once, h.sessions⟩
  · rcases Run.update_some_cases hm with ⟨-, rfl⟩ | ⟨-, hm⟩
    · exact ⟨h.begun record hrecord, fun other hother => (hrest other hother).2⟩
    · exact ⟨(h.consumed m callback hm).1, fun other hother =>
        (h.consumed m callback hm).2 other (hrest other hother).1⟩
  · -- a callback that is there has not consumed this row
    rcases Run.update_some_cases hm with ⟨rfl, rfl⟩ | ⟨-, hm'⟩
    · rcases Run.update_some_cases hk with ⟨rfl, -⟩ | ⟨-, hk'⟩
      · rfl
      · exact absurd hsame ((h.consumed k other hk').2 record hrecord)
    · rcases Run.update_some_cases hk with ⟨rfl, rfl⟩ | ⟨-, hk'⟩
      · exact absurd hsame.symm ((h.consumed m callback hm').2 record hrecord)
      · exact h.alone m k callback other hm' hk' hsame
  · rcases Run.update_some_cases hm with ⟨-, rfl⟩ | ⟨-, hm⟩
    · cases hphase
    · exact h.inserted m callback identity userId hm hphase
  · obtain ⟨callback, hcallback, hphase⟩ := h.pending m link hlink
    exact ⟨callback, by simp [hne m callback hcallback, hcallback], hphase⟩
  · obtain ⟨callback, hcallback, hrest⟩ := h.issued issued hissued
    exact ⟨callback, by simp [hne _ callback hcallback, hcallback], hrest⟩

lemma Sound.step (h : state.Sound old) (event : LoginEvent) : (state.step event).Sound old := by
  cases event with
  | tick elapsed =>
    exact h.frame _ _ _ _ _ _
  | setActive userId isActive =>
    exact h.frame _ _ _ _ _ _
  | login transactionId secret nonce codeVerifier =>
    dsimp only [LoginState.step]
    split
    · exact h
    · next hnew => exact h.login hnew
  | consume n transactionId secret =>
    dsimp only [LoginState.step]
    split
    · next record hcall hfind =>
      have hrecord := List.mem_of_find?_eq_some hfind
      obtain rfl : record.id = transactionId := by simpa using List.find?_some hfind
      split
      · exact h.delete fun other hother => List.mem_of_mem_filter hother
      · refine h.begin hcall hrecord (fun other hother => ?_) state.erased
        obtain ⟨hother, hne⟩ := List.mem_filter.mp hother
        exact ⟨hother, of_decide_eq_true hne⟩
    · exact h
  | callback n action =>
    dsimp only [LoginState.step]
    split
    · next callback hcall => exact h.callbackMove hcall (callbackMove_stepCallback n callback action)
    · exact h
  | erase k userId tenantIds actorUserId declared =>
    dsimp only [LoginState.step]
    split
    · exact h.frame _ _ _ _ _ _
    · exact h
  | erasure k action =>
    dsimp only [LoginState.step]
    split
    · next phase _ => exact h.stepErasure k phase action
    · exact h

lemma Sound.loginsSafe (h : state.Sound old) : state.LoginsSafe old where
  once := by
    refine List.Nodup.map_on (fun record hrecord other hother hsame => ?_) h.once.of_map
    obtain ⟨callback, hcall, htransaction, -⟩ := h.issued record hrecord
    obtain ⟨callback', hcall', htransaction', -⟩ := h.issued other hother
    have halone := h.alone record.callback other.callback callback callback' hcall hcall'
      (htransaction.trans (hsame.trans htransaction'.symm))
    exact List.inj_on_of_nodup_map h.once hrecord hother halone
  linked := by
    rintro _ _ _ ⟨link, hlink, rfl, rfl⟩ ⟨link', hlink', hsame, rfl⟩
    rw [h.unique.uniqueOn_committed.eq_of_key_eq hlink' hlink hsame]
  sessions := h.sessions

/-! ## Resolutions -/

variable {userId : Uuid}

lemma resolved_setPhase (h : (state.setPhase n callback phase).Resolved m identity userId) :
    m = n ∧ phase.resolution? = some (identity, userId) ∨ state.Resolved m identity userId := by
  obtain ⟨other, hother, hresolution⟩ := h
  rcases callbacks_setPhase hother with ⟨rfl, rfl⟩ | ⟨-, hother⟩
  · exact .inl ⟨rfl, hresolution⟩
  · exact .inr ⟨other, hother, hresolution⟩

lemma callbacks_step_erasure (k : ℕ) (action : ErasureAction) :
    (state.step (.erasure k action)).callbacks = state.callbacks := by
  dsimp only [LoginState.step]
  split
  · cases action <;> dsimp only [LoginState.stepErasure] <;> repeat' split
    all_goals rfl
  · rfl

lemma Sound.linkedTo_of_callbackMove (h : state.Sound old)
    (hcall : state.callbacks n = some callback) (hmove : state.CallbackMove n callback next)
    (hbefore : ¬ state.Resolved m identity userId) (hafter : next.Resolved m identity userId) :
    next.LinkedTo identity userId := by
  -- the callback has taken the step, and what it resolves now it had not resolved before
  have hresolves : ∀ {written : LoginState} {phase : LoginPhase},
      written.callbacks = state.callbacks →
      (written.setPhase n callback phase).Resolved m identity userId →
        m = n ∧ phase.resolution? = some (identity, userId) := by
    intro written phase hsame hresolved
    rcases resolved_setPhase hresolved with hnew | hold
    · exact hnew
    · rw [Resolved, hsame] at hold
      exact absurd hold hbefore
  have hold : ∀ phase, callback.phase = phase → m = n →
      phase.resolution? = some (identity, userId) → False := by
    rintro phase rfl rfl hresolution
    exact hbefore ⟨callback, hcall, hresolution⟩
  cases hmove with
  | stays => exact absurd hafter hbefore
  | goes phase hbetween hholds hresolution =>
    rw [(hresolves rfl hafter).2] at hresolution
    cases hresolution
  | finds link hbetween hlink =>
    obtain ⟨rfl, rfl⟩ := Prod.mk.inj (Option.some.inj (hresolves rfl hafter).2)
    exact ⟨link, hlink, rfl, rfl⟩
  | creates => cases (hresolves rfl hafter).2
  | inserts => cases (hresolves rfl hafter).2
  | commits _ _ hphase =>
    obtain ⟨rfl, hresolution⟩ := hresolves rfl hafter
    obtain ⟨rfl, rfl⟩ := Prod.mk.inj (Option.some.inj hresolution)
    obtain ⟨link, hlink, hrest⟩ := h.inserted m callback _ _ hcall hphase
    exact ⟨link, Table.mem_committed_commit.mpr (.inr hlink), hrest⟩
  | loads _ _ hphase =>
    obtain ⟨hsame, hresolution⟩ := hresolves rfl hafter
    exact (hold _ hphase hsame hresolution).elim
  | issues _ _ hphase =>
    obtain ⟨hsame, hresolution⟩ := hresolves rfl hafter
    exact (hold _ hphase hsame hresolution).elim
  | crashes => cases (hresolves rfl hafter).2

lemma Sound.linkedTo_of_resolves (h : state.Sound old) {event : LoginEvent}
    (hbefore : ¬ state.Resolved m identity userId)
    (hafter : (state.step event).Resolved m identity userId) :
    (state.step event).LinkedTo identity userId := by
  cases event with
  | tick elapsed => exact absurd hafter hbefore
  | setActive other isActive => exact absurd hafter hbefore
  | login transactionId secret nonce codeVerifier =>
    dsimp only [LoginState.step] at hafter
    split at hafter <;> exact absurd hafter hbefore
  | consume n transactionId secret =>
    dsimp only [LoginState.step] at hafter
    split at hafter
    · split at hafter
      · exact absurd hafter hbefore
      · obtain ⟨callback, hcallback, hresolution⟩ := hafter
        rcases Run.update_some_cases hcallback with ⟨-, rfl⟩ | ⟨-, hcallback⟩
        · cases hresolution
        · exact absurd ⟨callback, hcallback, hresolution⟩ hbefore
    · exact absurd hafter hbefore
  | callback n action =>
    dsimp only [LoginState.step] at hafter ⊢
    split at hafter
    · next callback hcall =>
        exact h.linkedTo_of_callbackMove hcall (callbackMove_stepCallback n callback _) hbefore hafter
    · exact absurd hafter hbefore
  | erase k other tenantIds actorUserId declared =>
    dsimp only [LoginState.step] at hafter
    split at hafter <;> exact absurd hafter hbefore
  | erasure k action =>
    rw [Resolved, callbacks_step_erasure] at hafter
    exact absurd hafter hbefore

lemma resolvedAsLinked {start : LoginState} (h : start.Initial) (events : List LoginEvent) :
    ResolvedAsLinked start events := by
  intro record hrecord
  have hsound : ∀ before, Sound start.sessions (Run.run step start before) :=
    Run.run_of_step (fun _ event h => h.step event) h.sound
  obtain ⟨callback, hcallback, -, hphase⟩ := (hsound events).issued record hrecord
  have hend : (Run.run step start events).Resolved record.callback record.identity
      record.session.userId := ⟨callback, hcallback, by rw [hphase]; rfl⟩
  have hstart : ¬ start.Resolved record.callback record.identity record.session.userId := by
    rintro ⟨other, hother, -⟩
    rw [h.noCallbacks] at hother
    cases hother
  obtain ⟨before, event, after, hevents, hbefore, hafter⟩ := Run.exists_step_of_not
    (I := fun state : LoginState =>
      state.Resolved record.callback record.identity record.session.userId)
    hstart hend
  exact ⟨before, event, after, hevents, hbefore, hafter,
    (hsound before).linkedTo_of_resolves hbefore hafter⟩

/-! ## Erased users -/

/-- What a run satisfies as long as sessions are selected for gone users only: the user of an
erasure that has selected the sessions is gone, and has no other sessions; an erased user is gone,
and has none. -/
structure Cleared (state : LoginState) : Prop where
  named : ∀ k phase userId, state.erasures k = some phase → phase.user? = some userId →
    userId ∈ state.named
  purging : ∀ k userId ids, state.erasures k = some (.purging userId ids) →
    state.Gone userId ∧ ∀ session ∈ state.sessions, session.userId = userId → session.id ∈ ids
  erased : ∀ userId ∈ state.erased, userId ∈ state.named ∧ state.Gone userId ∧
    ∀ session ∈ state.sessions, session.userId ≠ userId
  before : ∀ n callback, state.callbacks n = some callback →
    ∀ userId ∈ callback.erasedBefore, userId ∈ state.erased
  late : ∀ n callback identity userId, state.callbacks n = some callback →
    callback.phase.resolution? = some (identity, userId) → userId ∉ callback.erasedBefore

lemma Initial.cleared (h : state.Initial) : state.Cleared where
  named k _ _ hphase := by
    rw [h.noErasures k] at hphase
    cases hphase
  purging k _ _ hphase := by
    rw [h.noErasures k] at hphase
    cases hphase
  erased userId huser := by
    rw [h.noneErased] at huser
    cases huser
  before n _ hcall := by
    rw [h.noCallbacks n] at hcall
    cases hcall
  late n _ _ _ hcall := by
    rw [h.noCallbacks n] at hcall
    cases hcall

lemma Gone.update (h : state.Gone userId) (hnamed : userId ∈ state.named)
    (hcall : state.callbacks n = some callback) (users : List User) (sessions : List Session)
    (issued : List Issued)
    (hlinks : ∀ link ∈ links.committed, link ∈ state.links.committed ∨
      callback.phase.holds? = some link.userId)
    (hholds : ∀ other, phase.holds? = some other → callback.phase.holds? = some other ∨
      other ∉ state.named ∨ ∃ link ∈ state.links.committed, link.userId = other) :
    (LoginState.setPhase { state with
      users := users, links := links, sessions := sessions, issued := issued } n callback
        phase).Gone userId where
  unheld m other hm hother := by
    rcases callbacks_setPhase hm with ⟨-, rfl⟩ | ⟨-, hm⟩
    · rcases hholds userId hother with hold | hnew | ⟨link, hlink, hsame⟩
      · exact h.unheld n callback hcall hold
      · exact hnew hnamed
      · exact h.unlinked link hlink hsame
    · exact h.unheld m other hm hother
  unlinked link hlink hsame := by
    rcases hlinks link hlink with hlink | hheld
    · exact h.unlinked link hlink hsame
    · exact h.unheld n callback hcall (hsame ▸ hheld)

lemma Cleared.update (h : state.Cleared) {n : ℕ} {callback : Callback}
    (hcall : state.callbacks n = some callback) {phase : LoginPhase} (users : List User)
    {links : Table ℕ ExternalIdentity} {sessions : List Session} (issued : List Issued)
    (hlinks : ∀ link ∈ links.committed, link ∈ state.links.committed ∨
      callback.phase.holds? = some link.userId)
    (hsessions : ∀ session ∈ sessions, session ∈ state.sessions ∨
      callback.phase.holds? = some session.userId)
    (hholds : ∀ other, phase.holds? = some other → callback.phase.holds? = some other ∨
      other ∉ state.named ∨ ∃ link ∈ state.links.committed, link.userId = other)
    (hresolution : ∀ identity other, phase.resolution? = some (identity, other) →
      callback.phase.holds? = some other ∨ ∃ link ∈ state.links.committed, link.userId = other) :
    (LoginState.setPhase { state with
      users := users, links := links, sessions := sessions, issued := issued } n callback
        phase).Cleared where
  named := h.named
  purging k userId ids hphase := by
    obtain ⟨hgone, hids⟩ := h.purging k userId ids hphase
    refine ⟨hgone.update (h.named k _ userId hphase rfl) hcall users sessions issued hlinks hholds,
      fun session hsession hsame => ?_⟩
    rcases hsessions session hsession with hold | hheld
    · exact hids session hold hsame
    · exact absurd (hsame ▸ hheld) (hgone.unheld n callback hcall)
  erased userId huser := by
    obtain ⟨hnamed, hgone, hnone⟩ := h.erased userId huser
    refine ⟨hnamed, hgone.update hnamed hcall users sessions issued hlinks hholds,
      fun session hsession hsame => ?_⟩
    rcases hsessions session hsession with hold | hheld
    · exact hnone session hold hsame
    · exact hgone.unheld n callback hcall (hsame ▸ hheld)
  before m other hm := by
    rcases callbacks_setPhase hm with ⟨-, rfl⟩ | ⟨-, hm⟩
    · exact h.before n callback hcall
    · exact h.before m other hm
  late m other identity userId hm hother := by
    rcases callbacks_setPhase hm with ⟨-, rfl⟩ | ⟨-, hm⟩
    · -- the user is held or linked now, so its erasure has not returned
      intro hbefore
      obtain ⟨-, hgone, -⟩ := h.erased userId (h.before n callback hcall userId hbefore)
      rcases hresolution identity userId hother with hheld | ⟨link, hlink, hsame⟩
      · exact hgone.unheld n callback hcall hheld
      · exact hgone.unlinked link hlink hsame
    · exact h.late m other identity userId hm hother

lemma Cleared.setPhase (h : state.Cleared) {n : ℕ} {callback : Callback}
    (hcall : state.callbacks n = some callback) {phase : LoginPhase}
    (hholds : ∀ other, phase.holds? = some other → callback.phase.holds? = some other ∨
      other ∉ state.named ∨ ∃ link ∈ state.links.committed, link.userId = other)
    (hresolution : ∀ identity other, phase.resolution? = some (identity, other) →
      callback.phase.holds? = some other ∨ ∃ link ∈ state.links.committed, link.userId = other) :
    (state.setPhase n callback phase).Cleared :=
  h.update hcall state.users state.issued (fun _ hlink => .inl hlink)
    (fun _ hsession => .inl hsession) hholds hresolution

lemma Cleared.callbackMove (h : state.Cleared) (hsound : state.Sound old)
    (hcall : state.callbacks n = some callback) (hmove : state.CallbackMove n callback next) :
    next.Cleared := by
  cases hmove with
  | stays => exact h
  | goes phase hbetween hholds hresolution =>
    refine h.setPhase hcall (fun other hother => ?_) fun identity other hother => ?_
    · rw [hholds] at hother
      cases hother
    · rw [hresolution] at hother
      cases hother
  | finds link hbetween hlink =>
    refine h.setPhase hcall (fun other hother => ?_) fun identity other hother => ?_
    · exact .inr (.inr ⟨link, hlink, Option.some.inj hother⟩)
    · exact .inr ⟨link, hlink, (Prod.mk.inj (Option.some.inj hother)).2⟩
  | creates identity userId hphase hnew =>
    refine h.update hcall _ state.issued (fun _ hlink => .inl hlink)
      (fun _ hsession => .inl hsession) ?_ fun _ _ => nofun
    rintro _ ⟨⟩
    exact .inr (.inl hnew)
  | inserts identity userId linkId hphase =>
    refine h.update hcall state.users state.issued (fun _ hlink => .inl hlink)
      (fun _ hsession => .inl hsession) (fun other hother => .inl ?_) fun _ _ => nofun
    rw [hphase]
    exact hother
  | commits identity userId hphase =>
    refine h.update hcall state.users state.issued (fun link hlink => ?_)
      (fun _ hsession => .inl hsession) (fun other hother => .inl ?_)
      fun identity other hother => .inl ?_
    · rcases Table.mem_committed_commit.mp hlink with hlink | hlink
      · exact .inl hlink
      · obtain ⟨other, hother, hinserted⟩ := hsound.pending n link hlink
        rw [hcall] at hother
        obtain rfl := Option.some.inj hother
        rw [hinserted]
        exact .inr rfl
    · rw [hphase]
      exact hother
    · rw [hphase]
      exact congrArg (Option.map Prod.snd) hother
  | loads identity userId hphase =>
    refine h.setPhase hcall (fun other hother => .inl ?_) fun identity other hother => .inl ?_
    · rw [hphase]
      exact hother
    · rw [hphase]
      exact congrArg (Option.map Prod.snd) hother
  | issues identity session hphase =>
    refine h.update hcall state.users _ (fun _ hlink => .inl hlink) (fun other hother => ?_)
      (fun _ => nofun) fun identity other hother => .inl ?_
    · rcases List.mem_cons.mp hother with rfl | hold
      · rw [hphase]
        exact .inr rfl
      · exact .inl hold
    · rw [hphase]
      exact congrArg (Option.map Prod.snd) hother
  | crashes hgoes =>
    exact h.update hcall state.users state.issued (fun _ hlink => .inl hlink)
      (fun _ hsession => .inl hsession) (fun _ => nofun) fun _ _ => nofun

lemma erasures_setErasure {k l : ℕ} {phase other : ErasurePhase}
    (h : (state.setErasure k phase).erasures l = some other) :
    l = k ∧ other = phase ∨ l ≠ k ∧ state.erasures l = some other := by
  unfold setErasure at h
  exact Run.update_some_cases h

lemma Cleared.setErasure (h : state.Cleared) (k : ℕ) {phase : ErasurePhase}
    (ownersLock : Option (ℕ × List Uuid)) {named : List Uuid} {links : Table ℕ ExternalIdentity}
    (hold : state.named ⊆ named) (hlinks : links.committed ⊆ state.links.committed)
    (hnamed : ∀ userId, phase.user? = some userId → userId ∈ named)
    (hpurging : ∀ userId ids, phase = .purging userId ids → state.Gone userId ∧
      ∀ session ∈ state.sessions, session.userId = userId → session.id ∈ ids) :
    (LoginState.setErasure { state with
      ownersLock := ownersLock, named := named, links := links } k phase).Cleared := by
  have hgone : ∀ userId, state.Gone userId → (LoginState.setErasure { state with
      ownersLock := ownersLock, named := named, links := links } k phase).Gone userId :=
    fun userId h => ⟨h.unheld, fun link hlink => h.unlinked link (hlinks hlink)⟩
  exact
    { named := fun l other userId hl huser => by
        rcases erasures_setErasure hl with ⟨-, rfl⟩ | ⟨-, hl⟩
        · exact hnamed userId huser
        · exact hold (h.named l other userId hl huser)
      purging := fun l userId ids hl => by
        rcases erasures_setErasure hl with ⟨-, heq⟩ | ⟨-, hl⟩
        · obtain ⟨hout, hids⟩ := hpurging userId ids heq.symm
          exact ⟨hgone userId hout, hids⟩
        · obtain ⟨hout, hids⟩ := h.purging l userId ids hl
          exact ⟨hgone userId hout, hids⟩
      erased := fun userId huser => by
        obtain ⟨hin, hout, hnone⟩ := h.erased userId huser
        exact ⟨hold hin, hgone userId hout, hnone⟩
      before := h.before
      late := h.late }

lemma Cleared.purge (h : state.Cleared) {k : ℕ} {ids : List Uuid}
    (hphase : state.erasures k = some (.purging userId ids)) :
    (LoginState.setErasure { state with
      sessions := state.sessions.filter fun session => session.id ∉ ids
      erased := userId :: state.erased } k (.returned userId)).Cleared where
  named l other user hl huser := by
    rcases erasures_setErasure hl with ⟨-, rfl⟩ | ⟨-, hl⟩
    · cases huser
    · exact h.named l other user hl huser
  purging l user others hl := by
    rcases erasures_setErasure hl with ⟨-, heq⟩ | ⟨-, hl⟩
    · cases heq
    · obtain ⟨hgone, hids⟩ := h.purging l user others hl
      exact ⟨⟨hgone.unheld, hgone.unlinked⟩, fun session hsession =>
        hids session (List.mem_of_mem_filter hsession)⟩
  erased user huser := by
    rcases List.mem_cons.mp huser with rfl | huser
    · obtain ⟨hgone, hids⟩ := h.purging k user ids hphase
      refine ⟨h.named k _ user hphase rfl, ⟨hgone.unheld, hgone.unlinked⟩,
        fun session hsession hsame => ?_⟩
      obtain ⟨hsession, hkept⟩ := List.mem_filter.mp hsession
      exact of_decide_eq_true hkept (hids session hsession hsame)
    · obtain ⟨hnamed, hgone, hnone⟩ := h.erased user huser
      exact ⟨hnamed, ⟨hgone.unheld, hgone.unlinked⟩, fun session hsession =>
        hnone session (List.mem_of_mem_filter hsession)⟩
  before n callback hcall user huser :=
    List.mem_cons_of_mem _ (h.before n callback hcall user huser)
  late := h.late

lemma Cleared.stepErasure (h : state.Cleared) {k : ℕ} {phase : ErasurePhase}
    (hphase : state.erasures k = some phase) {action : ErasureAction}
    (hselects : state.SelectsGone (.erasure k action)) :
    (state.stepErasure k phase action).Cleared := by
  have hnamed : ∀ userId, phase.user? = some userId → userId ∈ state.named :=
    fun userId huser => h.named k phase userId hphase huser
  cases action with
  | lockOwners enrolled =>
    dsimp only [LoginState.stepErasure]
    split
    · split
      · exact h.setErasure k _ (List.Subset.refl _) (List.Subset.refl _) (fun _ => nofun)
          fun _ _ => nofun
      · exact h.setErasure k _ (List.Subset.refl _) (List.Subset.refl _) hnamed fun _ _ => nofun
    · exact h
  | removeLinks =>
    dsimp only [LoginState.stepErasure]
    split
    · exact h.setErasure k _ (List.Subset.refl _)
        (fun _ hlink => List.mem_of_mem_filter hlink) hnamed fun _ _ => nofun
    · exact h
  | eraseTenant =>
    dsimp only [LoginState.stepErasure]
    split
    · exact h.setErasure k _ (List.Subset.refl _) (List.Subset.refl _) hnamed fun _ _ => nofun
    · exact h
  | select =>
    dsimp only [LoginState.stepErasure]
    split
    · next userId =>
      refine h.setErasure k _ (List.Subset.refl _) (List.Subset.refl _) hnamed ?_
      rintro _ _ ⟨⟩
      refine ⟨hselects userId hphase, fun session hsession hsame => ?_⟩
      exact List.mem_map_of_mem (List.mem_filter.mpr ⟨hsession, decide_eq_true hsame⟩)
    · exact h
  | purge =>
    dsimp only [LoginState.stepErasure]
    split
    · exact h.purge hphase
    · exact h
  | abort =>
    dsimp only [LoginState.stepErasure]
    split
    · exact h
    · exact h.setErasure k _ (List.Subset.refl _) (List.Subset.refl _) (fun _ => nofun)
        fun _ _ => nofun
    · exact h.setErasure k _ (List.Subset.refl _) (List.Subset.refl _) (fun _ => nofun)
        fun _ _ => nofun

lemma Cleared.begin (h : state.Cleared) (n : ℕ) (transactions : List LoginTransaction)
    (transactionId : Uuid) (nonce codeVerifier : String) :
    Cleared { state with
      transactions := transactions
      callbacks := Function.update state.callbacks n
        (some ⟨transactionId, state.erased, .consumed nonce codeVerifier⟩) } := by
  have hgone : ∀ userId, state.Gone userId → Gone { state with
      transactions := transactions
      callbacks := Function.update state.callbacks n
        (some ⟨transactionId, state.erased, .consumed nonce codeVerifier⟩) } userId := by
    intro userId hgone
    refine ⟨fun m callback hm hheld => ?_, hgone.unlinked⟩
    rcases Run.update_some_cases hm with ⟨-, rfl⟩ | ⟨-, hm⟩
    · cases hheld
    · exact hgone.unheld m callback hm hheld
  refine ⟨h.named, fun k userId ids hphase => ?_, fun userId huser => ?_, fun m callback hm => ?_,
    fun m callback identity userId hm hresolution => ?_⟩
  · obtain ⟨hout, hids⟩ := h.purging k userId ids hphase
    exact ⟨hgone userId hout, hids⟩
  · obtain ⟨hnamed, hout, hnone⟩ := h.erased userId huser
    exact ⟨hnamed, hgone userId hout, hnone⟩
  · rcases Run.update_some_cases hm with ⟨-, rfl⟩ | ⟨-, hm⟩
    · exact fun _ huser => huser
    · exact h.before m callback hm
  · rcases Run.update_some_cases hm with ⟨-, rfl⟩ | ⟨-, hm⟩
    · cases hresolution
    · exact h.late m callback identity userId hm hresolution

lemma Cleared.frame (h : state.Cleared) (clock : Instant) (transactions : List LoginTransaction)
    (users : List User) (begun : List Uuid) :
    Cleared { state with
      clock := clock, transactions := transactions, users := users, begun := begun } :=
  ⟨h.named, fun k userId ids hphase => ⟨⟨(h.purging k userId ids hphase).1.unheld,
      (h.purging k userId ids hphase).1.unlinked⟩, (h.purging k userId ids hphase).2⟩,
    fun userId huser => ⟨(h.erased userId huser).1, ⟨(h.erased userId huser).2.1.unheld,
      (h.erased userId huser).2.1.unlinked⟩, (h.erased userId huser).2.2⟩, h.before, h.late⟩

lemma Cleared.step (h : state.Cleared) (hsound : state.Sound old) {event : LoginEvent}
    (hselects : state.SelectsGone event) : (state.step event).Cleared := by
  cases event with
  | tick elapsed => exact h.frame _ _ _ _
  | setActive userId isActive => exact h.frame _ _ _ _
  | login transactionId secret nonce codeVerifier =>
    dsimp only [LoginState.step]
    split
    · exact h
    · exact h.frame _ _ _ _
  | consume n transactionId secret =>
    dsimp only [LoginState.step]
    split
    · split
      · exact h.frame _ _ _ _
      · exact h.begin n _ transactionId _ _
    · exact h
  | callback n action =>
    dsimp only [LoginState.step]
    split
    · next callback hcall =>
        exact h.callbackMove hsound hcall (callbackMove_stepCallback n callback action)
    · exact h
  | erase k userId tenantIds actorUserId declared =>
    dsimp only [LoginState.step]
    split
    · refine h.setErasure k _ (List.subset_cons_self _ _) (List.Subset.refl _)
        (fun other hother => ?_) fun other ids hother => ?_
      · split at hother
        · cases hother
          exact List.mem_cons_self
        · cases hother
      · split at hother <;> cases hother
    · exact h
  | erasure k action =>
    dsimp only [LoginState.step]
    split
    · next phase hphase => exact h.stepErasure hphase hselects
    · exact h

lemma mem_of_validateSession {sessions : List Session} {users : List User} {now : Instant}
    {token : Uuid} {session : Session} (h : validateSession sessions users now token = .ok session) :
    session ∈ sessions := by
  unfold validateSession at h
  split at h
  · cases h
  · next record hfind =>
    have hmem := List.mem_of_find?_eq_some hfind
    split at h
    · cases h
    split at h
    · cases h
    split at h
    · cases h
    split at h
    · cases h
      exact hmem
    · cases h

lemma Cleared.erasedStayOut (h : state.Cleared) : state.ErasedStayOut where
  sessions userId huser _ session hvalid :=
    (h.erased userId huser).2.2 session (mem_of_validateSession hvalid)
  callbacks := h.late

end LoginState

open LoginState

/-! ## Runs -/

/-- **Every login is safe**, and an erased user stays out of every run in which sessions are
selected for gone users only. -/
theorem erased_stay_out {start : LoginState} (h : start.Initial) (events : List LoginEvent) :
    (Run.Always step (LoginsSafe start.sessions) start events ∧ ResolvedAsLinked start events) ∧
      (Run.Along step SelectsGone start events → Run.Always step ErasedStayOut start events) := by
  refine ⟨⟨fun before _ _ => ?_, resolvedAsLinked h events⟩, fun hselects before after hsplit => ?_⟩
  · exact (Run.run_of_step (fun _ event h => h.step event) h.sound before).loginsSafe
  · have halways := Run.always_of_along
      (I := fun state : LoginState => state.Cleared ∧ state.Sound start.sessions)
      (fun _ event h hevent => ⟨h.1.step h.2 hevent, h.2.step event⟩) ⟨h.cleared, h.sound⟩ hselects
    exact (halways before after hsplit).1.erasedStayOut

def linkedUser : LoginState where
  clock := 0
  transactions := []
  users := [⟨1, true⟩, ⟨2, true⟩]
  links := ⟨[⟨10, 1, "issuer", "subject"⟩], []⟩
  sessions := []
  ownersLock := none
  callbacks _ := none
  erasures _ := none
  begun := []
  named := []
  erased := []
  issued := []

lemma linkedUser_initial : linkedUser.Initial where
  unique := List.nodup_singleton _
  committed := rfl
  begun _ h := by cases h
  noLock := rfl
  noCallbacks _ := rfl
  noErasures _ := rfl
  noneErased := rfl
  noneIssued := rfl

def subjectToken : IdToken := ⟨"issuer", "subject", "nonce", true⟩

/-- A callback resolves the user, the whole erasure of the user runs, and the callback goes on. -/
def pausedLogin : List LoginEvent :=
  [.login 5 "state" "nonce" "verifier", .consume 0 5 "state",
    .callback 0 (.exchange (some subjectToken)), .callback 0 .validate, .callback 0 .find,
    .callback 0 .load, .erase 0 1 [7] 2 true, .erasure 0 (.lockOwners false),
    .erasure 0 .removeLinks, .erasure 0 .eraseTenant, .erasure 0 .select, .erasure 0 .purge,
    .callback 0 (.issue 30)]

/-- The erased user has a session that validates. -/
theorem erased_user_logs_in :
    linkedUser.Initial ∧ ¬ Run.Always step ErasedStayOut linkedUser pausedLogin := by
  refine ⟨linkedUser_initial, fun halways => ?_⟩
  have hout := halways pausedLogin [] (List.append_nil _).symm
  have herased : 1 ∈ (Run.run step linkedUser pausedLogin).erased := by decide +kernel
  have hvalid : validateSession (Run.run step linkedUser pausedLogin).sessions
      (Run.run step linkedUser pausedLogin).users (Run.run step linkedUser pausedLogin).clock 30 =
        .ok ⟨30, 1, sessionLifetime, none⟩ := by rfl
  exact hout.sessions 1 herased 30 _ hvalid rfl

/-- The callback issues its session before the erasure; the next one, with the same token, finds no
link any more and creates a user. -/
def erasedLater : List LoginEvent :=
  [.login 5 "state" "nonce" "verifier", .consume 0 5 "state",
    .callback 0 (.exchange (some subjectToken)), .callback 0 .validate, .callback 0 .find,
    .callback 0 .load, .callback 0 (.issue 30), .erase 0 1 [7] 2 true,
    .erasure 0 (.lockOwners false), .erasure 0 .removeLinks, .erasure 0 .eraseTenant,
    .erasure 0 .select, .erasure 0 .purge, .login 6 "state" "nonce" "verifier",
    .consume 1 6 "state", .callback 1 (.exchange (some subjectToken)), .callback 1 .validate,
    .callback 1 .find, .callback 1 (.create 3), .callback 1 (.link 11), .callback 1 .commit,
    .callback 1 (.issue 31)]

/-- The only session left is one of the new user. -/
theorem erased_stay_out_later :
    Run.Always step ErasedStayOut linkedUser erasedLater ∧
      (Run.run step linkedUser erasedLater).sessions = [⟨31, 3, sessionLifetime, none⟩] := by
  refine ⟨(erased_stay_out linkedUser_initial erasedLater).2 ⟨trivial, trivial, trivial, trivial,
    trivial, trivial, trivial, trivial, trivial, trivial, trivial, ?_, trivial, trivial, trivial,
    trivial, trivial, trivial, trivial, trivial, trivial, trivial, trivial⟩, rfl⟩
  intro userId _
  have hlinks : (Run.run step linkedUser (erasedLater.take 11)).links.committed = [] := rfl
  refine ⟨fun n callback hcall => ?_, fun link hlink => ?_⟩
  · match n with
    | 0 =>
      obtain rfl := Option.some.inj hcall
      exact nofun
    | n + 1 => cases hcall
  · change link ∈ (Run.run step linkedUser (erasedLater.take 11)).links.committed at hlink
    rw [hlinks] at hlink
    cases hlink

end SaasOs.Logins
