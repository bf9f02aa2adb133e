import SaasOs.Foundation.SortedSets
import SaasOs.Foundation.Run
import Mathlib.Data.Rat.Floor

/-!
# Concurrency leases

A lease holds one slot in each of several scopes.  A scope is a sorted set whose members are lease
ids, scored by the instant at which they expire, on the clock of the store.  One script acquires a
lease in all of its scopes or in none.
-/

namespace SaasOs.RateLimit

open SortedSets SortedSets.Store Rows

/-! ## The scripts and the calls -/

structure LeaseScope where
  name : String
  limit : ℤ

structure Lease where
  leaseId : String
  keys : List String

/-- What `acquire` answers: the lease, the first scope that is full, or a `ValueError`. -/
inductive Acquired
  | lease (lease : Lease)
  | refusal (scope : String)
  | invalid

/-- `_key`, for the key prefix of the leases. -/
def scopeKey (keyPrefix scope : String) : String :=
  keyPrefix ++ ":" ++ scope

/-- `max(1, math.ceil(ttl_seconds * 1000))`. -/
def ttlMs (ttlSeconds : ℚ) : ℕ :=
  max 1 ⌈ttlSeconds * 1000⌉₊

/-- The first loop of `_ACQUIRE_SCRIPT`: the store it leaves and the index of a full scope. -/
def findFull (now : ℕ) : Store → List (String × ℤ) → ℕ → Store × Option ℕ
  | store, [], _ => (store, none)
  | store, (key, limit) :: rest, i =>
    let store := store.zremrangebyscore key now
    if limit ≤ store.zcard key then (store, some i) else findFull now store rest (i + 1)

def hold (now ttl : ℕ) (member : String) (store : Store) (key : String) : Store :=
  let store := store.zadd key (now + ttl) member
  if store.pttl now key < ttl then store.pexpire now key ttl else store

/-- `_ACQUIRE_SCRIPT`: the store it leaves and the index of a full scope. -/
def acquireScript (now ttl : ℕ) (member : String) (store : Store) (scopes : List (String × ℤ)) :
    Store × Option ℕ :=
  match findFull now store scopes 0 with
  | (store, some i) => (store, some i)
  | (store, none) => ((scopes.map Prod.fst).foldl (hold now ttl member) store, none)

def releaseScript (member : String) (store : Store) (keys : List String) : Store :=
  keys.foldl (fun store key => store.zrem key member) store

def heldScript (now : ℕ) (store : Store) (key : String) : Store × ℕ :=
  let store := store.zremrangebyscore key now
  (store, store.zcard key)

/-- `acquire`, with the lease id that is drawn. -/
def acquire (keyPrefix : String) (now : ℕ) (store : Store) (scopes : List LeaseScope)
    (ttlSeconds : ℚ) (leaseId : String) : Store × Acquired :=
  if scopes = [] then (store, .invalid)
  else if scopes.any fun scope => scope.name.isEmpty || scope.limit < 1 then (store, .invalid)
  else if ¬ 0 < ttlSeconds then (store, .invalid)
  else
    let keys := scopes.map fun scope => (scopeKey keyPrefix scope.name, scope.limit)
    match acquireScript now (ttlMs ttlSeconds) leaseId store keys with
    | (store, none) => (store, .lease ⟨leaseId, keys.map Prod.fst⟩)
    | (store, some i) => (store, .refusal ((scopes[i]?).elim "" LeaseScope.name))

def release (store : Store) (lease : Lease) : Store :=
  releaseScript lease.leaseId store lease.keys

def held (keyPrefix : String) (now : ℕ) (store : Store) (scope : String) : Store × ℕ :=
  heldScript now store (scopeKey keyPrefix scope)

/-! ## The system -/

/-- A lease that was granted, and when it expires. -/
structure Grant where
  lease : Lease
  expiresAt : ℕ

/-- The clock of the store in milliseconds, the store, the lease ids that were drawn, the leases that
were granted, and the ids that were released. -/
structure LeaseState where
  clock : ℕ
  store : Store
  drawn : List String
  granted : List Grant
  released : List String

/-- What can happen next to the leases. -/
inductive LeaseEvent
  | tick (elapsed : ℕ)
  | acquire (scopes : List LeaseScope) (ttlSeconds : ℚ) (leaseId : String)
  | release (lease : Lease)
  | held (scope : String)

namespace LeaseState

def initial (clock : ℕ) : LeaseState :=
  ⟨clock, Store.empty, [], [], []⟩

def holders (state : LeaseState) (key : String) : List (String × ℕ) :=
  state.store.live state.clock key

def step (keyPrefix : String) (state : LeaseState) : LeaseEvent → LeaseState
  | .tick elapsed =>
    { state with
      clock := state.clock + elapsed
      store := state.store.expire (state.clock + elapsed) }
  | .acquire scopes ttlSeconds leaseId =>
    if leaseId ∈ state.drawn then state
    else
      let (store, acquired) :=
        RateLimit.acquire keyPrefix state.clock state.store scopes ttlSeconds leaseId
      { state with
        store := store
        drawn := leaseId :: state.drawn
        granted := match acquired with
          | .lease lease => ⟨lease, state.clock + ttlMs ttlSeconds⟩ :: state.granted
          | .refusal _ => state.granted
          | .invalid => state.granted }
  | .release lease =>
    { state with
      store := RateLimit.release state.store lease
      released := lease.leaseId :: state.released }
  | .held scope =>
    { state with store := (RateLimit.held keyPrefix state.clock state.store scope).1 }

def StepKept (keyPrefix : String) (state : LeaseState) (event : LeaseEvent) : Prop :=
  match event with
  | .tick _ => True
  | .acquire scopes ttlSeconds leaseId =>
    leaseId ∉ state.drawn →
      match (RateLimit.acquire keyPrefix state.clock state.store scopes ttlSeconds leaseId).2 with
      | .lease _ => ∀ scope ∈ scopes, (((state.step keyPrefix event).holders
          (scopeKey keyPrefix scope.name)).length : ℤ) ≤ scope.limit
      | .refusal name =>
        (∀ key, ∀ member ∈ (state.step keyPrefix event).store.members key, member.1 ≠ leaseId) ∧
          ∃ scope ∈ scopes, scope.name = name ∧
            scope.limit ≤ (state.holders (scopeKey keyPrefix name)).length
      | .invalid => (state.step keyPrefix event).store = state.store
  | .release lease => ∀ key member, member.1 ≠ lease.leaseId →
      (member ∈ (state.step keyPrefix event).store.members key ↔ member ∈ state.store.members key)
  | .held scope => (RateLimit.held keyPrefix state.clock state.store scope).2 =
      (state.holders (scopeKey keyPrefix scope)).length

/-- What the leases promise in a state: a lease that is neither expired nor released is in all of its
scopes, and an expired one is in none. -/
structure LeasesHeld (state : LeaseState) : Prop where
  present : ∀ grant ∈ state.granted, state.clock < grant.expiresAt →
    grant.lease.leaseId ∉ state.released → ∀ key ∈ grant.lease.keys,
      grant.lease.leaseId ∈ (state.holders key).map Prod.fst
  gone : ∀ grant ∈ state.granted, grant.expiresAt ≤ state.clock → ∀ key,
    grant.lease.leaseId ∉ (state.holders key).map Prod.fst

end LeaseState


/-! ## What the scripts do -/

variable {now ttl : ℕ} {member key : String} {store store' : Store}

structure Trimmed (now : ℕ) (store store' : Store) : Prop where
  live_eq : ∀ key, store'.live now key = store.live now key
  mem : ∀ key, ∀ entry ∈ store'.members key, entry ∈ store.members key
  covered : store.Covered → store'.Covered

lemma trimmed_refl (now : ℕ) (store : Store) : Trimmed now store store :=
  ⟨fun _ => rfl, fun _ _ h => h, id⟩

lemma Trimmed.trim {i : ℕ} (h : Trimmed now (store.zremrangebyscore key i) store') (hi : i = now) :
    Trimmed now store store' := by
  subst hi
  refine ⟨fun other => (h.live_eq other).trans live_zremrangebyscore, fun other entry hentry => ?_,
    fun hcovered => h.covered (hcovered.retain _)⟩
  have hmem := h.mem other entry hentry
  rw [zremrangebyscore, members_retain] at hmem
  split at hmem
  · exact (List.mem_filter.mp hmem).1
  · exact hmem

lemma trimmed_findFull (now : ℕ) (store : Store) (scopes : List (String × ℤ)) (i : ℕ) :
    Trimmed now store (findFull now store scopes i).1 := by
  induction scopes generalizing store i with
  | nil => exact trimmed_refl now store
  | cons scope rest ih =>
    unfold findFull
    dsimp only
    split
    · exact (trimmed_refl now _).trim rfl
    · exact (ih (store.zremrangebyscore scope.1 now) (i + 1)).trim rfl

lemma findFull_eq_none {scopes : List (String × ℤ)} {i : ℕ}
    (h : (findFull now store scopes i).2 = none) :
    ∀ scope ∈ scopes, ((store.live now scope.1).length : ℤ) < scope.2 := by
  induction scopes generalizing store i with
  | nil => exact fun scope hscope => absurd hscope (List.not_mem_nil)
  | cons first rest ih =>
    unfold findFull at h
    dsimp only at h
    split at h
    · cases h
    · next hroom =>
      intro scope hscope
      rw [zcard_zremrangebyscore, not_le] at hroom
      rcases List.mem_cons.mp hscope with rfl | hrest
      · exact hroom
      · have hlt := ih h scope hrest
        rwa [live_zremrangebyscore] at hlt

lemma findFull_eq_some {scopes : List (String × ℤ)} {i j : ℕ}
    (h : (findFull now store scopes i).2 = some j) :
    ∃ k scope, j = i + k ∧ scopes[k]? = some scope ∧
      scope.2 ≤ (store.live now scope.1).length := by
  induction scopes generalizing store i with
  | nil => cases h
  | cons first rest ih =>
    unfold findFull at h
    dsimp only at h
    split at h
    · next hfull =>
      rw [zcard_zremrangebyscore] at hfull
      exact ⟨0, first, (Option.some.inj h).symm, rfl, hfull⟩
    · obtain ⟨k, scope, rfl, hscope, hfull⟩ := ih h
      rw [live_zremrangebyscore] at hfull
      exact ⟨k + 1, scope, by omega, hscope, hfull⟩

@[simp] lemma members_hold (other : String) :
    (hold now ttl member store key).members other =
      if other = key then added (store.members other) (now + ttl) member
      else store.members other := by
  unfold hold
  dsimp only
  split
  · rw [members_pexpire, members_zadd]
  · exact members_zadd

lemma covered_hold (h : store.Covered) : (hold now ttl member store key).Covered := by
  intro other set hset
  by_cases hother : other = key
  · subst hother
    cases hold : store other with
    | none =>
      have hpttl : (store.zadd other (now + ttl) member).pttl now other < ttl := by
        simp only [pttl, zadd, Function.update_self, hold]
        omega
      rw [RateLimit.hold, if_pos hpttl] at hset
      simp only [pexpire, zadd, Function.update_self, hold, Option.map_some, Option.some.injEq]
        at hset
      subst hset
      refine ⟨now + ttl, rfl, fun entry hentry => ?_⟩
      rw [List.mem_singleton.mp hentry]
    | some old =>
      obtain ⟨instant, hinstant, hle⟩ := h other old hold
      have hpttl : (store.zadd other (now + ttl) member).pttl now other = instant - now := by
        simp only [pttl, zadd, Function.update_self, hold, hinstant]
      unfold RateLimit.hold at hset
      rw [hpttl] at hset
      split at hset
      · next hless =>
        simp only [pexpire, zadd, Function.update_self, hold, Option.map_some, Option.some.injEq]
          at hset
        subst hset
        refine ⟨now + ttl, rfl, fun entry hentry => ?_⟩
        rcases mem_added.mp hentry with ⟨hmem, -⟩ | rfl
        · have hentry' := hle entry hmem
          omega
        · exact le_rfl
      · next hmore =>
        simp only [zadd, Function.update_self, hold, Option.some.injEq] at hset
        subst hset
        refine ⟨instant, hinstant, fun entry hentry => ?_⟩
        rcases mem_added.mp hentry with ⟨hmem, -⟩ | rfl
        · exact hle entry hmem
        · dsimp only
          omega
  · refine h other set ?_
    unfold RateLimit.hold at hset
    split at hset
    · rwa [pexpire, Function.update_of_ne hother, zadd, Function.update_of_ne hother] at hset
    · rwa [zadd, Function.update_of_ne hother] at hset

lemma members_foldl_hold (store : Store) (keys : List String) :
    (keys.foldl (hold now ttl member) store).members key =
      if key ∈ keys then added (store.members key) (now + ttl) member
      else store.members key := by
  induction keys generalizing store with
  | nil => rfl
  | cons first keys ih =>
    rw [List.foldl_cons, ih, members_hold]
    by_cases hfirst : key = first
    · simp only [hfirst, List.mem_cons_self, if_true]
      split
      · exact added_added _ _ _
      · rfl
    · simp only [hfirst, List.mem_cons, false_or, if_false]

lemma covered_foldl_hold (h : store.Covered) (keys : List String) :
    (keys.foldl (hold now ttl member) store).Covered := by
  induction keys generalizing store with
  | nil => exact h
  | cons first keys ih => exact ih (covered_hold h)

lemma members_releaseScript (store : Store) (keys : List String) :
    (releaseScript member store keys).members key =
      if key ∈ keys then (store.members key).filter fun other => other.1 ≠ member
      else store.members key := by
  unfold releaseScript
  induction keys generalizing store with
  | nil => rfl
  | cons first keys ih =>
    rw [List.foldl_cons, ih, zrem, members_retain]
    by_cases hfirst : key = first
    · simp only [hfirst, List.mem_cons_self, if_true]
      split
      · rw [List.filter_filter]
        simp
      · rfl
    · simp only [hfirst, List.mem_cons, false_or, if_false]

lemma covered_releaseScript (h : store.Covered) (keys : List String) :
    (releaseScript member store keys).Covered := by
  unfold releaseScript
  induction keys generalizing store with
  | nil => exact h
  | cons first keys ih => exact ih (h.retain _)

lemma mem_releaseScript_of_ne {entry : String × ℕ} (hne : entry.1 ≠ member) (keys : List String) :
    entry ∈ (releaseScript member store keys).members key ↔ entry ∈ store.members key := by
  rw [members_releaseScript]
  split
  · simp [hne]
  · rfl

lemma acquire_cases (keyPrefix : String) (now : ℕ) (store : Store) (scopes : List LeaseScope)
    (ttlSeconds : ℚ) (leaseId : String) :
    acquire keyPrefix now store scopes ttlSeconds leaseId = (store, .invalid) ∨
    (∃ store' scope, scope ∈ scopes ∧ Trimmed now store store' ∧
      acquire keyPrefix now store scopes ttlSeconds leaseId = (store', .refusal scope.name) ∧
      scope.limit ≤ (store.live now (scopeKey keyPrefix scope.name)).length) ∨
    ∃ store', Trimmed now store store' ∧
      (∀ scope ∈ scopes,
        ((store.live now (scopeKey keyPrefix scope.name)).length : ℤ) < scope.limit) ∧
      acquire keyPrefix now store scopes ttlSeconds leaseId =
        ((scopes.map fun scope => scopeKey keyPrefix scope.name).foldl
            (hold now (ttlMs ttlSeconds) leaseId) store',
          .lease ⟨leaseId, scopes.map fun scope => scopeKey keyPrefix scope.name⟩) := by
  unfold acquire
  split
  · exact .inl rfl
  split
  · exact .inl rfl
  split
  · exact .inl rfl
  dsimp only
  generalize hkeys : (scopes.map fun scope => (scopeKey keyPrefix scope.name, scope.limit)) = keys
  have hfirst : keys.map Prod.fst = scopes.map fun scope => scopeKey keyPrefix scope.name := by
    rw [← hkeys, List.map_map]
    rfl
  have htrimmed := trimmed_findFull now store keys 0
  unfold acquireScript
  cases hfull : findFull now store keys 0 with
  | mk store' full =>
    rw [hfull] at htrimmed
    cases full with
    | none =>
      refine .inr (.inr ⟨store', htrimmed, fun scope hscope => ?_, by rw [← hfirst]⟩)
      have hroom := findFull_eq_none (congrArg Prod.snd hfull)
      rw [← hkeys] at hroom
      exact hroom _ (List.mem_map_of_mem hscope)
    | some i =>
      obtain ⟨k, entry, rfl, hentry, hlimit⟩ := findFull_eq_some (congrArg Prod.snd hfull)
      rw [← hkeys, List.getElem?_map] at hentry
      obtain ⟨scope, hscope, rfl⟩ := Option.map_eq_some_iff.mp hentry
      refine .inr (.inl ⟨store', scope, List.mem_of_getElem? hscope, htrimmed, ?_, hlimit⟩)
      simp only [Nat.zero_add, hscope, Option.elim_some]

/-! ## The invariant -/

namespace LeaseState

/-- What every state of a run satisfies: the keys outlive their members, every member is a lease that
was granted, with the instant at which it expires, and a lease that is neither expired nor released
is in all of its scopes. -/
structure Sound (state : LeaseState) : Prop where
  covered : state.store.Covered
  granted : ∀ key, ∀ member ∈ state.store.members key,
    ∃ grant ∈ state.granted, (grant.lease.leaseId, grant.expiresAt) = member
  present : ∀ grant ∈ state.granted, state.clock < grant.expiresAt →
    grant.lease.leaseId ∉ state.released → ∀ key ∈ grant.lease.keys,
      (grant.lease.leaseId, grant.expiresAt) ∈ state.store.members key
  oneGrant : UniqueOn state.granted fun grant => grant.lease.leaseId
  drawn : ∀ grant ∈ state.granted, grant.lease.leaseId ∈ state.drawn

variable {state : LeaseState}

lemma sound_initial (clock : ℕ) : (initial clock).Sound where
  covered := covered_empty
  granted _ _ h := by cases h
  present _ h := by cases h
  oneGrant := List.nodup_nil
  drawn _ h := by cases h

lemma Sound.ne_of_not_drawn (h : state.Sound) {leaseId key : String} (hnew : leaseId ∉ state.drawn)
    {member : String × ℕ} (hmember : member ∈ state.store.members key) : member.1 ≠ leaseId := by
  rintro rfl
  obtain ⟨grant, hgrant, rfl⟩ := h.granted key member hmember
  exact hnew (h.drawn grant hgrant)

lemma Sound.trim (h : state.Sound) {store : Store} (htrim : Trimmed state.clock state.store store)
    (drawn : List String) (hdrawn : ∀ id ∈ state.drawn, id ∈ drawn) :
    Sound { state with store := store, drawn := drawn } where
  covered := htrim.covered h.covered
  granted key member hmember := h.granted key member (htrim.mem key member hmember)
  present grant hgrant hexpires hreleased key hkey := by
    have hmember := h.present grant hgrant hexpires hreleased key hkey
    have hlive : (grant.lease.leaseId, grant.expiresAt) ∈ state.store.live state.clock key :=
      List.mem_filter.mpr ⟨hmember, decide_eq_true hexpires⟩
    rw [← htrim.live_eq] at hlive
    exact (List.mem_filter.mp hlive).1
  oneGrant := h.oneGrant
  drawn grant hgrant := hdrawn _ (h.drawn grant hgrant)

lemma Sound.grant (h : state.Sound) {leaseId : String} (hnew : leaseId ∉ state.drawn)
    (keys : List String) (ttl : ℕ) :
    Sound { state with
      store := keys.foldl (hold state.clock ttl leaseId) state.store
      drawn := leaseId :: state.drawn
      granted := ⟨⟨leaseId, keys⟩, state.clock + ttl⟩ :: state.granted } where
  covered := covered_foldl_hold h.covered keys
  granted key member hmember := by
    dsimp only at hmember
    rw [members_foldl_hold] at hmember
    have hold : member ∈ state.store.members key → ∃ grant ∈
        (⟨⟨leaseId, keys⟩, state.clock + ttl⟩ :: state.granted : List Grant),
        (grant.lease.leaseId, grant.expiresAt) = member := by
      intro hmem
      obtain ⟨grant, hgrant, rfl⟩ := h.granted key member hmem
      exact ⟨grant, List.mem_cons_of_mem _ hgrant, rfl⟩
    split at hmember
    · rcases mem_added.mp hmember with ⟨hmem, -⟩ | rfl
      · exact hold hmem
      · exact ⟨_, List.mem_cons_self, rfl⟩
    · exact hold hmember
  present grant hgrant hexpires hreleased key hkey := by
    dsimp only
    rw [members_foldl_hold]
    rcases List.mem_cons.mp hgrant with rfl | hgrant
    · rw [if_pos hkey]
      exact mem_added.mpr (.inr rfl)
    · have hmember := h.present grant hgrant hexpires hreleased key hkey
      split
      · exact mem_added.mpr (.inl ⟨hmember, h.ne_of_not_drawn hnew hmember⟩)
      · exact hmember
  oneGrant := by
    refine List.nodup_cons.mpr ⟨fun hmem => ?_, h.oneGrant⟩
    obtain ⟨grant, hgrant, hid⟩ := List.mem_map.mp hmem
    have hdrawn := h.drawn grant hgrant
    rw [hid] at hdrawn
    exact hnew hdrawn
  drawn grant hgrant := by
    rcases List.mem_cons.mp hgrant with rfl | hgrant
    · exact List.mem_cons_self
    · exact List.mem_cons_of_mem _ (h.drawn grant hgrant)

lemma Sound.release (h : state.Sound) (lease : Lease) :
    Sound { state with
      store := RateLimit.release state.store lease
      released := lease.leaseId :: state.released } where
  covered := covered_releaseScript h.covered lease.keys
  granted key member hmember := by
    dsimp only [RateLimit.release] at hmember
    rw [members_releaseScript] at hmember
    split at hmember
    · exact h.granted key member (List.mem_filter.mp hmember).1
    · exact h.granted key member hmember
  present grant hgrant hexpires hreleased key hkey := by
    have hne : grant.lease.leaseId ≠ lease.leaseId :=
      fun heq => hreleased (heq ▸ List.mem_cons_self)
    have hold : grant.lease.leaseId ∉ state.released :=
      fun hmem => hreleased (List.mem_cons_of_mem _ hmem)
    exact (mem_releaseScript_of_ne hne lease.keys).mpr (h.present grant hgrant hexpires hold key hkey)
  oneGrant := h.oneGrant
  drawn := h.drawn

lemma Sound.tick (h : state.Sound) (elapsed : ℕ) :
    Sound { state with
      clock := state.clock + elapsed
      store := state.store.expire (state.clock + elapsed) } where
  covered := h.covered.expire _
  granted key member hmember := h.granted key member (mem_of_mem_expire hmember)
  present grant hgrant hexpires hreleased key hkey := by
    dsimp only at hexpires
    exact mem_expire_of_live h.covered
      (h.present grant hgrant (by omega) hreleased key hkey) hexpires.le
  oneGrant := h.oneGrant
  drawn := h.drawn

lemma Sound.step (keyPrefix : String) (h : state.Sound) (event : LeaseEvent) :
    (state.step keyPrefix event).Sound := by
  cases event with
  | tick elapsed => exact h.tick elapsed
  | acquire scopes ttlSeconds leaseId =>
    unfold LeaseState.step
    by_cases hdrawn : leaseId ∈ state.drawn
    · simp only [if_pos hdrawn]
      exact h
    · simp only [if_neg hdrawn]
      have hmore : ∀ id ∈ state.drawn, id ∈ leaseId :: state.drawn :=
        fun id hid => List.mem_cons_of_mem _ hid
      rcases acquire_cases keyPrefix state.clock state.store scopes ttlSeconds leaseId with
        hinvalid | ⟨store, scope, -, htrim, hrefusal, -⟩ | ⟨store, htrim, -, hlease⟩
      · rw [hinvalid]
        exact h.trim (trimmed_refl _ _) _ hmore
      · rw [hrefusal]
        exact h.trim htrim _ hmore
      · rw [hlease]
        have htrimmed : Sound { state with store := store } := h.trim htrim _ fun _ hid => hid
        exact htrimmed.grant hdrawn _ _
  | release lease => exact h.release lease
  | held scope =>
    have htrim : Trimmed state.clock state.store
        (RateLimit.held keyPrefix state.clock state.store scope).1 :=
      (trimmed_refl _ _).trim rfl
    exact h.trim htrim _ fun _ hid => hid

/-! ## What the leases promise -/

lemma Sound.leasesHeld (h : state.Sound) : state.LeasesHeld where
  present grant hgrant hexpires hreleased key hkey := by
    refine List.mem_map.mpr ⟨(grant.lease.leaseId, grant.expiresAt), ?_, rfl⟩
    exact List.mem_filter.mpr ⟨h.present grant hgrant hexpires hreleased key hkey,
      decide_eq_true hexpires⟩
  gone grant hgrant hexpired key hmem := by
    obtain ⟨member, hmember, hid⟩ := List.mem_map.mp hmem
    obtain ⟨hmember, hlive⟩ := List.mem_filter.mp hmember
    obtain ⟨other, hother, rfl⟩ := h.granted key member hmember
    obtain rfl := h.oneGrant.eq_of_key_eq hother hgrant hid
    exact absurd (of_decide_eq_true hlive) (not_lt.mpr hexpired)

lemma Sound.stepKept (keyPrefix : String) (h : state.Sound) (event : LeaseEvent) :
    state.StepKept keyPrefix event := by
  cases event with
  | tick elapsed => trivial
  | acquire scopes ttlSeconds leaseId =>
    intro hdrawn
    unfold LeaseState.step
    simp only [if_neg hdrawn]
    rcases acquire_cases keyPrefix state.clock state.store scopes ttlSeconds leaseId with
      hinvalid | ⟨store, scope, hscope, htrim, hrefusal, hfull⟩ | ⟨store, htrim, hroom, hlease⟩
    · rw [hinvalid]
    · rw [hrefusal]
      refine ⟨fun key member hmember => ?_, scope, hscope, rfl, hfull⟩
      exact h.ne_of_not_drawn hdrawn (htrim.mem key member hmember)
    · rw [hlease]
      intro scope hscope
      have hlt := hroom scope hscope
      rw [← htrim.live_eq] at hlt
      have hkey : scopeKey keyPrefix scope.name ∈
          scopes.map fun scope => scopeKey keyPrefix scope.name :=
        List.mem_map_of_mem hscope
      dsimp only [holders, Store.live] at hlt ⊢
      rw [members_foldl_hold, if_pos hkey]
      have hle := length_filter_added_le (store.members (scopeKey keyPrefix scope.name))
        (state.clock + ttlMs ttlSeconds) leaseId fun member => decide (state.clock < member.2)
      omega
  | release lease =>
    exact fun key member hne => mem_releaseScript_of_ne hne lease.keys
  | held scope => exact zcard_zremrangebyscore

end LeaseState

open LeaseState

/-! ## Runs -/

/-- **Concurrency leases never exceed their limits**, and none is lost: in every run of acquisitions,
releases and counts, over any passage of time, every step and every state keeps what the leases
promise. -/
theorem leases_kept (keyPrefix : String) (clock : ℕ) (events : List LeaseEvent) :
    Run.Along (LeaseState.step keyPrefix) (StepKept keyPrefix) (initial clock) events ∧
      Run.Always (LeaseState.step keyPrefix) LeasesHeld (initial clock) events := by
  have hstart : (initial clock).Sound := sound_initial clock
  have hkeeps : ∀ state event, Sound state → Sound (state.step keyPrefix event) :=
    fun _ event h => h.step keyPrefix event
  constructor
  · exact Run.along_of_invariant hkeeps (fun _ event h => h.stepKept keyPrefix event) hstart events
  · intro before after _
    exact (Run.run_of_step hkeeps hstart before).leasesHeld

end SaasOs.RateLimit
