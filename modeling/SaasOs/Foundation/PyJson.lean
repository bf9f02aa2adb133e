import SaasOs.Foundation.Json

/-!
# Python values and their JSON copies

Texts are lists of code points, surrogates among them.  `json.dumps` writes what is not ASCII as
escapes, a code point beyond 16 bits as a pair of surrogates, and `json.loads` joins such a pair
wherever it meets one.  So a text that holds a pair as two code points does not come back as it was
(`readBack`), but what has come back once stays as it is (`readBack_readBack`).
-/

namespace PyJson

/-! ## Texts -/

/-- A `str` of Python, by its code points. -/
abbrev Text := List ℕ

scoped instance decidableMem (t : Text) (texts : List Text) : Decidable (t ∈ texts) :=
  inferInstanceAs (Decidable ((t : List ℕ) ∈ texts))

def text (s : String) : Text := s.toList.map Char.toNat

def IsAscii (t : Text) : Prop := ∀ c ∈ t, c < 128

instance (t : Text) : Decidable (IsAscii t) := inferInstanceAs (Decidable (∀ c ∈ t, c < 128))

def isHigh (c : ℕ) : Bool := 0xD800 ≤ c && c < 0xDC00

def isLow (c : ℕ) : Bool := 0xDC00 ≤ c && c < 0xE000

def joinPair (high low : ℕ) : ℕ := 0x10000 + (high - 0xD800) * 0x400 + (low - 0xDC00)

def readBack : Text → Text
  | [] => []
  | [c] => [c]
  | c :: d :: rest =>
    if isHigh c && isLow d then joinPair c d :: readBack rest else c :: readBack (d :: rest)

lemma le_joinPair (c d : ℕ) : 0x10000 ≤ joinPair c d := by
  unfold joinPair
  omega

lemma isHigh_joinPair (c d : ℕ) : isHigh (joinPair c d) = false := by
  have := le_joinPair c d
  simp only [isHigh, Bool.and_eq_false_iff, decide_eq_false_iff_not]
  omega

lemma isLow_joinPair (c d : ℕ) : isLow (joinPair c d) = false := by
  have := le_joinPair c d
  simp only [isLow, Bool.and_eq_false_iff, decide_eq_false_iff_not]
  omega

lemma readBack_cons {c : ℕ} {t : Text} (h : isHigh c = true → ∀ d ∈ t.head?, isLow d = false) :
    readBack (c :: t) = c :: readBack t := by
  cases t with
  | nil => rfl
  | cons d rest =>
    have hpair : (isHigh c && isLow d) = false := by
      cases hc : isHigh c with
      | false => rfl
      | true => simpa using h hc d rfl
    simp only [readBack, hpair, Bool.false_eq_true, if_false]

lemma isLow_head_readBack {d : ℕ} {rest : Text} (hd : isLow d = false) :
    ∀ e ∈ (readBack (d :: rest)).head?, isLow e = false := by
  intro e he
  cases rest with
  | nil =>
    obtain rfl : d = e := by simpa [readBack] using he
    exact hd
  | cons c rest =>
    simp only [readBack] at he
    split at he
    · obtain rfl : joinPair d c = e := by simpa using he
      exact isLow_joinPair d c
    · obtain rfl : d = e := by simpa using he
      exact hd

theorem readBack_readBack (t : Text) : readBack (readBack t) = readBack t := by
  induction t using readBack.induct with
  | case1 => rfl
  | case2 c => rfl
  | case3 c d rest hpair ih =>
    simp only [readBack, hpair, if_true]
    rw [readBack_cons (by simp [isHigh_joinPair]), ih]
  | case4 c d rest hpair ih =>
    simp only [readBack, hpair, if_false, Bool.false_eq_true]
    rw [readBack_cons fun hc => isLow_head_readBack (by simpa [hc] using hpair), ih]

lemma readBack_of_isAscii {t : Text} (h : IsAscii t) : readBack t = t := by
  induction t with
  | nil => rfl
  | cons c t ih =>
    have hc : isHigh c = false := by
      have := h c (by simp)
      simp only [isHigh, Bool.and_eq_false_iff, decide_eq_false_iff_not]
      omega
    rw [readBack_cons (by simp [hc]), ih fun d hd => h d (by simp [hd])]

lemma eq_of_isAscii_readBack {t : Text} (h : IsAscii (readBack t)) : readBack t = t := by
  induction t using readBack.induct with
  | case1 => rfl
  | case2 c => rfl
  | case3 c d rest hpair ih =>
    simp only [readBack, hpair, if_true] at h
    have := h (joinPair c d) (by simp)
    have := le_joinPair c d
    omega
  | case4 c d rest hpair ih =>
    simp only [readBack, hpair, if_false, Bool.false_eq_true] at h ⊢
    rw [ih fun e he => h e (by simp [he])]

/-- `lower` of an ASCII character. -/
def lowerAscii (c : ℕ) : ℕ := if 65 ≤ c ∧ c ≤ 90 then c + 32 else c

def isAlnumAscii (c : ℕ) : Bool :=
  (48 ≤ c && c ≤ 57) || (65 ≤ c && c ≤ 90) || (97 ≤ c && c ≤ 122)

lemma isAscii_map_lowerAscii {t : Text} (h : IsAscii t) : IsAscii (t.map lowerAscii) := by
  intro c hc
  obtain ⟨d, hd, rfl⟩ := List.mem_map.1 hc
  have := h d hd
  unfold lowerAscii
  split <;> omega

/-- The tables of Unicode: what is relied on is what they say of ASCII. -/
structure Unicode where
  nfkc : Text → Text
  casefold : Text → Text
  nfkd : Text → Text
  isalnum : ℕ → Bool
  strip : Text → Text
  lower : Text → Text
  nfkc_of_isAscii : ∀ t, IsAscii t → nfkc t = t
  casefold_of_isAscii : ∀ t, IsAscii t → casefold t = t.map lowerAscii
  nfkd_of_isAscii : ∀ t, IsAscii t → nfkd t = t
  isalnum_of_lt : ∀ c < 128, isalnum c = isAlnumAscii c

/-! ## Dictionaries -/

section Dictionaries

variable {α : Type} {d e : List (Text × α)} {k : Text} {v : α} {x : Text × α}

/-- `d[k] = v`. -/
def setItem (d : List (Text × α)) (k : Text) (v : α) : List (Text × α) :=
  if k ∈ d.map Prod.fst then d.map fun x => if x.1 = k then (k, v) else x else d ++ [(k, v)]

/-- `{**d, **e}`. -/
def update (d e : List (Text × α)) : List (Text × α) :=
  e.foldl (fun d x => setItem d x.1 x.2) d

@[simp] lemma update_nil (d : List (Text × α)) : update d [] = d := rfl

@[simp] lemma update_cons (d e : List (Text × α)) (x : Text × α) :
    update d (x :: e) = update (setItem d x.1 x.2) e := rfl

lemma mem_of_mem_setItem (h : x ∈ setItem d k v) : x ∈ d ∨ x = (k, v) := by
  unfold setItem at h
  split at h
  · obtain ⟨y, hy, hxy⟩ := List.mem_map.1 h
    split at hxy
    · exact .inr hxy.symm
    · exact .inl (hxy ▸ hy)
  · simpa using h

lemma keys_setItem_of_mem (h : k ∈ d.map Prod.fst) :
    (setItem d k v).map Prod.fst = d.map Prod.fst := by
  simp only [setItem, h, if_true, List.map_map]
  refine List.map_congr_left fun x _ => ?_
  simp only [Function.comp]
  split
  · exact (‹x.1 = k›).symm
  · rfl

lemma keys_setItem_of_not_mem (h : k ∉ d.map Prod.fst) :
    (setItem d k v).map Prod.fst = d.map Prod.fst ++ [k] := by
  simp only [setItem, h, if_false, List.map_append, List.map_cons, List.map_nil]

lemma mem_keys_setItem {k' : Text} :
    k' ∈ (setItem d k v).map Prod.fst ↔ k' ∈ d.map Prod.fst ∨ k' = k := by
  by_cases h : k ∈ d.map Prod.fst
  · rw [keys_setItem_of_mem h]
    exact ⟨.inl, fun h' => h'.elim id fun heq => heq ▸ h⟩
  · rw [keys_setItem_of_not_mem h, List.mem_append, List.mem_singleton]

lemma nodup_setItem (h : (d.map Prod.fst).Nodup) : ((setItem d k v).map Prod.fst).Nodup := by
  by_cases hk : k ∈ d.map Prod.fst
  · rwa [keys_setItem_of_mem hk]
  · rw [keys_setItem_of_not_mem hk]
    exact List.Nodup.append h (List.nodup_singleton k) (by simpa using hk)

lemma mem_of_mem_update : ∀ {e d : List (Text × α)}, x ∈ update d e → x ∈ d ∨ x ∈ e
  | [], _, h => .inl h
  | y :: e, d, h => by
    rcases mem_of_mem_update (e := e) h with h | h
    · rcases mem_of_mem_setItem h with h | h
      · exact .inl h
      · exact .inr (by simp [h])
    · exact .inr (by simp [h])

lemma mem_keys_update {k' : Text} : ∀ {e d : List (Text × α)},
    k' ∈ (update d e).map Prod.fst ↔ k' ∈ d.map Prod.fst ∨ k' ∈ e.map Prod.fst
  | [], _ => by simp
  | y :: e, d => by
    rw [update_cons, mem_keys_update (e := e), mem_keys_setItem, List.map_cons, List.mem_cons,
      or_assoc]

lemma nodup_update : ∀ {e d : List (Text × α)}, (d.map Prod.fst).Nodup →
    ((update d e).map Prod.fst).Nodup
  | [], _, h => h
  | _ :: e, _, h => nodup_update (e := e) (nodup_setItem h)

lemma update_of_nodup : ∀ {e d : List (Text × α)}, ((d ++ e).map Prod.fst).Nodup →
    update d e = d ++ e
  | [], d, _ => (List.append_nil d).symm
  | y :: e, d, h => by
    have hy : y.1 ∉ d.map Prod.fst := by
      intro hmem
      rw [List.map_append, List.nodup_append] at h
      exact h.2.2 y.1 hmem y.1 (by simp) rfl
    have hset : setItem d y.1 y.2 = d ++ [y] := by simp only [setItem, hy, if_false]
    rw [update_cons, hset, update_of_nodup (e := e) (by simpa using h), List.append_assoc,
      List.singleton_append]

end Dictionaries

/-! ## Values -/

/-- A leaf. -/
inductive Leaf
  | none
  | bool (b : Bool)
  | int (n : ℤ)
  | float (written : Option String)
  | str (t : Text)

inductive Py
  | leaf (l : Leaf)
  | list (items : List Py)
  | tuple (items : List Py)
  | dict (entries : List (Text × Py))

namespace Py

variable {v w : Py} {k : Text}

@[elab_as_elim]
theorem ind {P : Py → Prop} (leaf : ∀ l, P (.leaf l))
    (list : ∀ items, (∀ v ∈ items, P v) → P (.list items))
    (tuple : ∀ items, (∀ v ∈ items, P v) → P (.tuple items))
    (dict : ∀ entries, (∀ x ∈ entries, P x.2) → P (.dict entries)) : ∀ v, P v
  | .leaf l => leaf l
  | .list items => list items fun v _ => ind leaf list tuple dict v
  | .tuple items => tuple items fun v _ => ind leaf list tuple dict v
  | .dict entries => dict entries fun x _ => ind leaf list tuple dict x.2
termination_by v => sizeOf v
decreasing_by
  · have := List.sizeOf_lt_of_mem ‹v ∈ items›
    simp only [Py.list.sizeOf_spec]
    omega
  · have := List.sizeOf_lt_of_mem ‹v ∈ items›
    simp only [Py.tuple.sizeOf_spec]
    omega
  · obtain ⟨k, v⟩ := x
    have := List.sizeOf_lt_of_mem ‹(k, v) ∈ entries›
    simp only [Prod.mk.sizeOf_spec, Py.dict.sizeOf_spec] at this ⊢
    omega

def entries : Py → List (Text × Py)
  | .dict entries => entries
  | _ => []

/-- A value has an entry, at any depth. -/
inductive HasEntry : Py → Text → Py → Prop
  | entry {es : List (Text × Py)} {k : Text} {w : Py} (h : (k, w) ∈ es) : HasEntry (.dict es) k w
  | inDict {es : List (Text × Py)} {x : Text × Py} {k : Text} {w : Py} (hx : x ∈ es)
      (h : HasEntry x.2 k w) : HasEntry (.dict es) k w
  | inList {items : List Py} {v : Py} {k : Text} {w : Py} (hv : v ∈ items) (h : HasEntry v k w) :
      HasEntry (.list items) k w
  | inTuple {items : List Py} {v : Py} {k : Text} {w : Py} (hv : v ∈ items) (h : HasEntry v k w) :
      HasEntry (.tuple items) k w

/-! ## The JSON text -/

def escape (c : ℕ) : List Char :=
  if c = 34 then ['\\', '"']
  else if c = 92 then ['\\', '\\']
  else if c = 10 then ['\\', 'n']
  else if c = 13 then ['\\', 'r']
  else if c = 9 then ['\\', 't']
  else if c = 8 then ['\\', 'b']
  else if c = 12 then ['\\', 'f']
  else if 32 ≤ c ∧ c < 127 then [Char.ofNat c]
  else if c < 0x10000 then Json.escapeUnit c
  else Json.escapeUnit (0xD800 + (c - 0x10000) / 0x400) ++
    Json.escapeUnit (0xDC00 + (c - 0x10000) % 0x400)

def quote (t : Text) : List Char := '"' :: (t.flatMap escape ++ ['"'])

def dumpsLeaf : Leaf → Option (List Char)
  | .none => some ['n', 'u', 'l', 'l']
  | .bool true => some ['t', 'r', 'u', 'e']
  | .bool false => some ['f', 'a', 'l', 's', 'e']
  | .int n => some (toString n).toList
  | .float written => written.map String.toList
  | .str t => some (quote t)

mutual

/-- `json.dumps` with `allow_nan=False`. -/
def dumps : Py → Option (List Char)
  | .leaf l => dumpsLeaf l
  | .list items => (dumpsItems items).map fun texts => '[' :: (texts ++ [']'])
  | .tuple items => (dumpsItems items).map fun texts => '[' :: (texts ++ [']'])
  | .dict entries => (dumpsEntries entries).map fun texts => '\x7b' :: (texts ++ ['\x7d'])

def dumpsItems : List Py → Option (List Char)
  | [] => some []
  | [v] => dumps v
  | v :: w :: rest => do
    let first ← dumps v
    let others ← dumpsItems (w :: rest)
    some (first ++ [',', ' '] ++ others)

def dumpsEntries : List (Text × Py) → Option (List Char)
  | [] => some []
  | [(k, v)] => (dumps v).map fun value => quote k ++ [':', ' '] ++ value
  | (k, v) :: x :: rest => do
    let value ← dumps v
    let others ← dumpsEntries (x :: rest)
    some (quote k ++ [':', ' '] ++ value ++ [',', ' '] ++ others)

end

mutual

def depth : Py → ℕ
  | .leaf _ => 0
  | .list items => depthItems items + 1
  | .tuple items => depthItems items + 1
  | .dict entries => depthEntries entries + 1

def depthItems : List Py → ℕ
  | [] => 0
  | v :: rest => max (depth v) (depthItems rest)

def depthEntries : List (Text × Py) → ℕ
  | [] => 0
  | (_, v) :: rest => max (depth v) (depthEntries rest)

end

/-! ## The copy -/

mutual

/-- `json.loads` of `json.dumps`. -/
def copy : Py → Py
  | .leaf (.str t) => .leaf (.str (readBack t))
  | .leaf l => .leaf l
  | .list items => .list (copyItems items)
  | .tuple items => .list (copyItems items)
  | .dict entries => .dict (update [] (copyEntries entries))

def copyItems : List Py → List Py
  | [] => []
  | v :: rest => copy v :: copyItems rest

def copyEntries : List (Text × Py) → List (Text × Py)
  | [] => []
  | (k, v) :: rest => (readBack k, copy v) :: copyEntries rest

end

lemma copyItems_eq_map : ∀ items : List Py, copyItems items = items.map copy
  | [] => rfl
  | v :: rest => by rw [copyItems, copyItems_eq_map rest, List.map_cons]

lemma copyEntries_eq_map : ∀ entries : List (Text × Py),
    copyEntries entries = entries.map fun x => (readBack x.1, copy x.2)
  | [] => rfl
  | (k, v) :: rest => by rw [copyEntries, copyEntries_eq_map rest, List.map_cons]

/-- A value that JSON denotes: no tuple, no pair of surrogates in two code points, each key once. -/
inductive Plain : Py → Prop
  | leaf {l : Leaf} (h : ∀ t, l = .str t → readBack t = t) : Plain (.leaf l)
  | list {items : List Py} (h : ∀ v ∈ items, Plain v) : Plain (.list items)
  | dict {es : List (Text × Py)} (hkeys : (es.map Prod.fst).Nodup)
      (hback : ∀ x ∈ es, readBack x.1 = x.1) (h : ∀ x ∈ es, Plain x.2) : Plain (.dict es)

theorem copy_of_plain (h : Plain v) : v.copy = v := by
  induction h with
  | @leaf l h =>
    cases l with
    | str t => rw [copy, h t rfl]
    | none | bool | int | float => rfl
  | @list items h ih =>
    rw [copy, copyItems_eq_map, List.map_congr_left ih, List.map_id']
  | @dict es hkeys hback h ih =>
    have hmap : (es.map fun x => (readBack x.1, copy x.2)) = es := by
      rw [List.map_congr_left fun x hx => by rw [hback x hx, ih x hx]]
      exact List.map_id' es
    rw [copy, copyEntries_eq_map, hmap, update_of_nodup (by simpa using hkeys), List.nil_append]

theorem plain_copy (v : Py) : Plain v.copy := by
  induction v using ind with
  | leaf l =>
    cases l with
    | str t =>
      refine .leaf fun t' ht' => ?_
      obtain rfl : readBack t = t' := by simpa using ht'
      exact readBack_readBack t
    | none | bool | int | float => exact .leaf (by simp)
  | list items ih =>
    rw [copy, copyItems_eq_map]
    exact .list (by simpa using ih)
  | tuple items ih =>
    rw [copy, copyItems_eq_map]
    exact .list (by simpa using ih)
  | dict es ih =>
    rw [copy, copyEntries_eq_map]
    have hmem : ∀ x ∈ update [] (es.map fun x => (readBack x.1, copy x.2)),
        ∃ y ∈ es, (readBack y.1, copy y.2) = x := by
      intro x hx
      rcases mem_of_mem_update hx with h | h
      · cases h
      · exact List.mem_map.1 h
    refine .dict (nodup_update (by simp)) (fun x hx => ?_) fun x hx => ?_
    · obtain ⟨y, -, rfl⟩ := hmem x hx
      exact readBack_readBack y.1
    · obtain ⟨y, hy, rfl⟩ := hmem x hx
      exact ih y hy

end Py

end PyJson
