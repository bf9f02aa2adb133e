import SaasOs.Foundation.Rows

/-!
# Sorted sets in a key-value store whose keys expire

A store maps keys to sorted sets: members with a score, at least one of them, each member once.  A
key has an expiry of its own, and the store drops the key with all its members when that instant has
passed.
-/

namespace SortedSets

open Rows

/-- A sorted set and the instant at which its key expires, if it has one. -/
structure SortedSet where
  members : List (String × ℕ)
  expireAt : Option ℕ
  unique : UniqueOn members Prod.fst
  nonempty : members ≠ []

def SortedSet.isExpired (now : ℕ) (set : SortedSet) : Bool :=
  set.expireAt.any fun instant => instant < now

abbrev Store := String → Option SortedSet

namespace Store

def empty : Store := fun _ => none

def members (store : Store) (key : String) : List (String × ℕ) :=
  (store key).elim [] SortedSet.members

def live (now : ℕ) (store : Store) (key : String) : List (String × ℕ) :=
  (store.members key).filter fun member => now < member.2

def retain (store : Store) (key : String) (p : String × ℕ → Bool) : Store :=
  Function.update store key ((store key).bind fun set =>
    if h : set.members.filter p ≠ [] then
      some ⟨set.members.filter p, set.expireAt, set.unique.filter p, h⟩
    else none)

/-- `ZREMRANGEBYSCORE key -inf max`. -/
def zremrangebyscore (store : Store) (key : String) (max : ℕ) : Store :=
  store.retain key fun member => max < member.2

/-- `ZREM key member`. -/
def zrem (store : Store) (key member : String) : Store :=
  store.retain key fun other => other.1 ≠ member

/-- `ZCARD key`. -/
def zcard (store : Store) (key : String) : ℕ :=
  (store.members key).length

/-- The members of a set after `ZADD`, which replaces the score of a member that is there. -/
def added (members : List (String × ℕ)) (score : ℕ) (member : String) : List (String × ℕ) :=
  members.filter (fun other => other.1 ≠ member) ++ [(member, score)]

variable {members : List (String × ℕ)}

lemma uniqueOn_added (h : UniqueOn members Prod.fst) (score : ℕ) (member : String) :
    UniqueOn (added members score member) Prod.fst :=
  (h.filter _).concat fun other hother => by simpa using (List.mem_filter.mp hother).2

/-- `ZADD key score member`. -/
def zadd (store : Store) (key : String) (score : ℕ) (member : String) : Store :=
  Function.update store key (some (match store key with
    | none => ⟨[(member, score)], none, List.nodup_singleton _, List.cons_ne_nil _ _⟩
    | some set => ⟨added set.members score member, set.expireAt,
        uniqueOn_added set.unique score member, List.append_ne_nil_of_right_ne_nil _
          (List.cons_ne_nil _ _)⟩))

/-- `PTTL key`: -2 without the key, -1 without an expiry. -/
def pttl (now : ℕ) (store : Store) (key : String) : ℤ :=
  match store key with
  | none => -2
  | some set =>
    match set.expireAt with
    | none => -1
    | some instant => instant - now

/-- `PEXPIRE key ttl`. -/
def pexpire (now : ℕ) (store : Store) (key : String) (ttl : ℕ) : Store :=
  Function.update store key ((store key).map fun set => { set with expireAt := some (now + ttl) })

def expire (now : ℕ) (store : Store) : Store := fun key =>
  (store key).bind fun set => if set.isExpired now then none else some set

/-! ## Members -/

variable {store : Store} {key other : String} {now score : ℕ} {member : String}

lemma members_retain (p : String × ℕ → Bool) :
    (store.retain key p).members other =
      if other = key then (store.members other).filter p else store.members other := by
  unfold members retain
  split
  · next h =>
    subst h
    rw [Function.update_self]
    cases hset : store other with
    | none => rfl
    | some set =>
      by_cases hnonempty : set.members.filter p ≠ []
      · simp [hnonempty]
      · simp only [Option.bind_some, dif_neg hnonempty, Option.elim_none, Option.elim_some]
        exact (not_not.mp hnonempty).symm
  · next h => rw [Function.update_of_ne h]

variable {entry : String × ℕ}

lemma mem_added :
    entry ∈ added members score member ↔
      entry ∈ members ∧ entry.1 ≠ member ∨ entry = (member, score) := by
  simp [added]

lemma added_added (members : List (String × ℕ)) (score : ℕ) (member : String) :
    added (added members score member) score member = added members score member := by
  unfold added
  simp [List.filter_append]

lemma length_filter_added_le (members : List (String × ℕ)) (score : ℕ) (member : String)
    (p : String × ℕ → Bool) : ((added members score member).filter p).length ≤ (members.filter p).length + 1 := by
  unfold added
  rw [List.filter_append, List.length_append]
  have hold : ((members.filter fun other => other.1 ≠ member).filter p).length ≤
      (members.filter p).length := (List.filter_sublist.filter p).length_le
  have hnew : ([(member, score)].filter p).length ≤ 1 := List.length_filter_le _ _
  omega

lemma members_zadd :
    (store.zadd key score member).members other =
      if other = key then added (store.members other) score member else store.members other := by
  unfold members zadd
  by_cases h : other = key
  · subst h
    rw [Function.update_self, if_pos rfl]
    cases store other <;> rfl
  · rw [Function.update_of_ne h, if_neg h]

@[simp] lemma members_pexpire (ttl : ℕ) :
    (store.pexpire now key ttl).members other = store.members other := by
  unfold members pexpire
  by_cases h : other = key
  · subst h
    rw [Function.update_self]
    cases store other <;> rfl
  · rw [Function.update_of_ne h]

lemma zcard_zremrangebyscore :
    (store.zremrangebyscore key now).zcard key = (store.live now key).length := by
  rw [zcard, zremrangebyscore, members_retain, if_pos rfl]
  rfl

@[simp] lemma live_zremrangebyscore :
    (store.zremrangebyscore key now).live now other = store.live now other := by
  unfold live zremrangebyscore
  rw [members_retain]
  split
  · rw [List.filter_filter]
    exact List.filter_congr fun r _ => Bool.and_self _
  · rfl

/-! ## Keys that outlive their members -/

def Covered (store : Store) : Prop :=
  ∀ key set, store key = some set →
    ∃ instant, set.expireAt = some instant ∧ ∀ entry ∈ set.members, entry.2 ≤ instant

lemma covered_empty : Covered empty := by
  rintro key set ⟨⟩

lemma Covered.retain (h : store.Covered) (p : String × ℕ → Bool) : (store.retain key p).Covered := by
  intro other set hset
  by_cases hother : other = key
  · subst hother
    rw [Store.retain, Function.update_self] at hset
    obtain ⟨old, hold, hset⟩ := Option.bind_eq_some_iff.mp hset
    split at hset
    · obtain rfl := Option.some.inj hset
      obtain ⟨instant, hinstant, hle⟩ := h other old hold
      exact ⟨instant, hinstant, fun entry hentry => hle entry (List.mem_filter.mp hentry).1⟩
    · cases hset
  · rw [Store.retain, Function.update_of_ne hother] at hset
    exact h other set hset

lemma expire_eq_some {set : SortedSet} :
    store.expire now key = some set ↔ store key = some set ∧ set.isExpired now = false := by
  unfold expire
  rw [Option.bind_eq_some_iff]
  constructor
  · rintro ⟨old, hold, hset⟩
    split at hset
    · cases hset
    · next hexpired =>
      obtain rfl := Option.some.inj hset
      exact ⟨hold, Bool.eq_false_iff.mpr hexpired⟩
  · rintro ⟨hset, hexpired⟩
    exact ⟨set, hset, if_neg (Bool.eq_false_iff.mp hexpired)⟩

lemma Covered.expire (h : store.Covered) (now : ℕ) : (store.expire now).Covered :=
  fun key set hset => h key set (expire_eq_some.mp hset).1

lemma mem_of_mem_expire (h : entry ∈ (store.expire now).members key) :
    entry ∈ store.members key := by
  unfold members at h ⊢
  cases hset : store.expire now key with
  | none =>
    rw [hset] at h
    cases h
  | some set =>
    rw [hset] at h
    rw [(expire_eq_some.mp hset).1]
    exact h

lemma mem_expire_of_live (h : store.Covered) (hentry : entry ∈ store.members key)
    (hlive : now ≤ entry.2) :
    entry ∈ (store.expire now).members key := by
  unfold members at hentry ⊢
  cases hset : store key with
  | none =>
    rw [hset] at hentry
    cases hentry
  | some set =>
    rw [hset] at hentry
    obtain ⟨instant, hinstant, hle⟩ := h key set hset
    have hkept : set.isExpired now = false := by
      have hnot : ¬ instant < now := not_lt.mpr (hlive.trans (hle entry hentry))
      simp [SortedSet.isExpired, hinstant, hnot]
    rw [expire_eq_some.mpr ⟨hset, hkept⟩]
    exact hentry

end Store

end SortedSets
