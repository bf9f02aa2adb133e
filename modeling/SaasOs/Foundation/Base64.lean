import SaasOs.Foundation.PyJson

/-!
# Base64

`encode` writes three bytes as four characters of an alphabet whose last two characters may be
chosen, and pads the last group.  `decodeStrict` reads characters one at a time, as
`binascii.a2b_base64` does in strict mode: it accepts exactly the texts that are made of groups, but
does not look at the bits of a last group that belong to no byte.
-/

namespace Base64

open PyJson

abbrev Byte := Fin 256

/-- `=`. -/
def pad : ℕ := 61

def alphabet (c62 c63 : ℕ) (v : ℕ) : ℕ :=
  if v < 26 then v + 65
  else if v < 52 then v + 71
  else if v < 62 then v - 4
  else if v = 62 then c62 else c63

def value (c : ℕ) : Option ℕ :=
  if 65 ≤ c ∧ c ≤ 90 then some (c - 65)
  else if 97 ≤ c ∧ c ≤ 122 then some (c - 71)
  else if 48 ≤ c ∧ c ≤ 57 then some (c + 4)
  else if c = 43 then some 62
  else if c = 47 then some 63
  else none

/-- `base64.b64encode` with the last two characters of the alphabet. -/
def encode (c62 c63 : ℕ) : List Byte → Text
  | [] => []
  | [a] => [alphabet c62 c63 (a / 4), alphabet c62 c63 (a % 4 * 16), pad, pad]
  | [a, b] =>
    [alphabet c62 c63 (a / 4), alphabet c62 c63 (a % 4 * 16 + b / 16),
      alphabet c62 c63 (b % 16 * 4), pad]
  | a :: b :: c :: bytes =>
    alphabet c62 c63 (a / 4) :: alphabet c62 c63 (a % 4 * 16 + b / 16) ::
      alphabet c62 c63 (b % 16 * 4 + c / 64) :: alphabet c62 c63 (c % 64) :: encode c62 c63 bytes

/-- The loop of `binascii.a2b_base64` in strict mode: the position in the group, the bits that are
left, the pads of the group, and whether padding has begun. -/
def decodeFrom (quadPos left pads : ℕ) (padding : Bool) : Text → Option (List Byte)
  | [] => if quadPos = 0 then some [] else none
  | c :: text =>
    if c = pad then
      -- excess padding
      if quadPos = 0 then none
      else if 2 ≤ quadPos ∧ 4 ≤ quadPos + (pads + 1) then
        -- excess data after padding
        if text = [] then some [] else none
      else decodeFrom quadPos left (if 2 ≤ quadPos then pads + 1 else pads) true text
    else
      match value c with
      | none => none
      | some v =>
        -- discontinuous padding
        if padding then none
        else
          match quadPos with
          | 0 => decodeFrom 1 v 0 padding text
          | 1 => (decodeFrom 2 (v % 16) 0 padding text).map (Fin.ofNat 256 (left * 4 + v / 16) :: ·)
          | 2 => (decodeFrom 3 (v % 4) 0 padding text).map (Fin.ofNat 256 (left * 16 + v / 4) :: ·)
          | _ => (decodeFrom 0 0 0 padding text).map (Fin.ofNat 256 (left * 64 + v) :: ·)

/-- `binascii.a2b_base64(text, strict_mode=True)`. -/
def decodeStrict (text : Text) : Option (List Byte) :=
  if text.head? = some pad then none else decodeFrom 0 0 0 false text

/-- The text is made of groups that stand for the bytes. -/
inductive Spells : Text → List Byte → Prop
  | nil : Spells [] []
  | one {c d u v : ℕ} (hc : value c = some u) (hd : value d = some v) :
      Spells [c, d, pad, pad] [Fin.ofNat 256 (u * 4 + v / 16)]
  | two {c d e u v w : ℕ} (hc : value c = some u) (hd : value d = some v) (he : value e = some w) :
      Spells [c, d, e, pad]
        [Fin.ofNat 256 (u * 4 + v / 16), Fin.ofNat 256 (v % 16 * 16 + w / 4)]
  | three {c d e f u v w x : ℕ} {text : Text} {bytes : List Byte} (hc : value c = some u)
      (hd : value d = some v) (he : value e = some w) (hf : value f = some x)
      (h : Spells text bytes) :
      Spells (c :: d :: e :: f :: text)
        (Fin.ofNat 256 (u * 4 + v / 16) :: Fin.ofNat 256 (v % 16 * 16 + w / 4) ::
          Fin.ofNat 256 (w % 4 * 64 + x) :: bytes)

variable {text : Text} {bytes : List Byte} {c v : ℕ}

lemma ne_pad_of_value (h : value c = some v) : c ≠ pad := by
  rintro rfl
  simp [value, pad] at h

lemma value_lt (h : value c = some v) : v < 64 := by
  unfold value at h
  split_ifs at h <;> simp only [Option.some.injEq] at h <;> omega

lemma value_alphabet (h : v < 64) : value (alphabet 43 47 v) = some v := by
  unfold value alphabet
  split_ifs <;> first | omega | (simp only [Option.some.injEq]; omega)

lemma alphabet_value (h : value c = some v) : alphabet 43 47 v = c := by
  unfold value at h
  unfold alphabet
  split_ifs at h <;> simp only [Option.some.injEq] at h <;> split_ifs <;> omega

/-! ## What is accepted -/

variable {quadPos left pads : ℕ} {padding : Bool}

lemma decodeFrom_nil :
    decodeFrom quadPos left pads padding [] = if quadPos = 0 then some [] else none := rfl

lemma decodeFrom_cons :
    decodeFrom quadPos left pads padding (c :: text) =
      if c = pad then
        if quadPos = 0 then none
        else if 2 ≤ quadPos ∧ 4 ≤ quadPos + (pads + 1) then
          if text = [] then some [] else none
        else decodeFrom quadPos left (if 2 ≤ quadPos then pads + 1 else pads) true text
      else
        match value c with
        | none => none
        | some v =>
          if padding then none
          else
            match quadPos with
            | 0 => decodeFrom 1 v 0 padding text
            | 1 => (decodeFrom 2 (v % 16) 0 padding text).map (Fin.ofNat 256 (left * 4 + v / 16) :: ·)
            | 2 => (decodeFrom 3 (v % 4) 0 padding text).map (Fin.ofNat 256 (left * 16 + v / 4) :: ·)
            | _ => (decodeFrom 0 0 0 padding text).map (Fin.ofNat 256 (left * 64 + v) :: ·) := rfl

lemma Spells.decodeFrom (h : Spells text bytes) : decodeFrom 0 0 0 false text = some bytes := by
  induction h with
  | nil => rfl
  | one hc hd =>
    simp [decodeFrom_cons, hc, hd, ne_pad_of_value hc, ne_pad_of_value hd]
  | two hc hd he =>
    simp [decodeFrom_cons, hc, hd, he, ne_pad_of_value hc, ne_pad_of_value hd, ne_pad_of_value he]
  | three hc hd he hf _ ih =>
    simp [decodeFrom_cons, hc, hd, he, hf, ne_pad_of_value hc, ne_pad_of_value hd,
      ne_pad_of_value he, ne_pad_of_value hf, ih]

lemma decodeFrom_one_padding {left pads : ℕ} :
    ∀ text : Text, decodeFrom 1 left pads true text = none
  | [] => rfl
  | c :: text => by
    by_cases hc : c = pad
    · subst hc
      simpa [decodeFrom_cons] using decodeFrom_one_padding text
    · cases hv : value c <;> simp [decodeFrom_cons, hc, hv]

lemma of_decodeFrom_two_padding (h : decodeFrom 2 left 1 true text = some bytes) :
    text = [pad] ∧ bytes = [] := by
  cases text with
  | nil => simp [decodeFrom_nil] at h
  | cons c text =>
    by_cases hc : c = pad
    · obtain ⟨rfl, rfl⟩ : text = [] ∧ [] = bytes := by simpa [decodeFrom_cons, hc] using h
      exact ⟨by rw [hc], rfl⟩
    · cases hv : value c <;> simp [decodeFrom_cons, hc, hv] at h

lemma of_decodeFrom_zero (h : decodeFrom 0 0 0 false (c :: text) = some bytes) :
    ∃ u, value c = some u ∧ decodeFrom 1 u 0 false text = some bytes := by
  by_cases hc : c = pad
  · simp [decodeFrom_cons, hc] at h
  · cases hv : value c with
    | none => simp [decodeFrom_cons, hc, hv] at h
    | some u => exact ⟨u, rfl, by simpa [decodeFrom_cons, hc, hv] using h⟩

lemma of_decodeFrom_one (h : decodeFrom 1 left 0 false (c :: text) = some bytes) :
    ∃ v rest, value c = some v ∧ decodeFrom 2 (v % 16) 0 false text = some rest ∧
      bytes = Fin.ofNat 256 (left * 4 + v / 16) :: rest := by
  by_cases hc : c = pad
  · simp [decodeFrom_cons, hc, decodeFrom_one_padding] at h
  · cases hv : value c with
    | none => simp [decodeFrom_cons, hc, hv] at h
    | some v =>
      simp only [decodeFrom_cons, hc, hv, if_false, Bool.false_eq_true] at h
      obtain ⟨rest, hrest, heq⟩ := Option.map_eq_some_iff.1 h
      exact ⟨v, rest, rfl, hrest, heq.symm⟩

lemma of_decodeFrom_two (h : decodeFrom 2 left 0 false (c :: text) = some bytes) :
    (c = pad ∧ text = [pad] ∧ bytes = []) ∨
      ∃ v rest, value c = some v ∧ decodeFrom 3 (v % 4) 0 false text = some rest ∧
        bytes = Fin.ofNat 256 (left * 16 + v / 4) :: rest := by
  by_cases hc : c = pad
  · exact .inl ⟨hc, of_decodeFrom_two_padding (by simpa [decodeFrom_cons, hc] using h)⟩
  · cases hv : value c with
    | none => simp [decodeFrom_cons, hc, hv] at h
    | some v =>
      simp only [decodeFrom_cons, hc, hv, if_false, Bool.false_eq_true] at h
      obtain ⟨rest, hrest, heq⟩ := Option.map_eq_some_iff.1 h
      exact .inr ⟨v, rest, rfl, hrest, heq.symm⟩

lemma of_decodeFrom_three (h : decodeFrom 3 left 0 false (c :: text) = some bytes) :
    (c = pad ∧ text = [] ∧ bytes = []) ∨
      ∃ v rest, value c = some v ∧ decodeFrom 0 0 0 false text = some rest ∧
        bytes = Fin.ofNat 256 (left * 64 + v) :: rest := by
  by_cases hc : c = pad
  · obtain ⟨htext, rfl⟩ : text = [] ∧ [] = bytes := by simpa [decodeFrom_cons, hc] using h
    exact .inl ⟨hc, htext, rfl⟩
  · cases hv : value c with
    | none => simp [decodeFrom_cons, hc, hv] at h
    | some v =>
      simp only [decodeFrom_cons, hc, hv, if_false, Bool.false_eq_true] at h
      obtain ⟨rest, hrest, heq⟩ := Option.map_eq_some_iff.1 h
      exact .inr ⟨v, rest, rfl, hrest, heq.symm⟩

lemma spells_of_decodeFrom (text : Text) (bytes : List Byte)
    (h : decodeFrom 0 0 0 false text = some bytes) : Spells text bytes := by
  match text with
  | [] =>
    obtain rfl : [] = bytes := by simpa [decodeFrom_nil] using h
    exact .nil
  | [c] =>
    obtain ⟨u, -, h⟩ := of_decodeFrom_zero h
    simp [decodeFrom_nil] at h
  | [c, d] =>
    obtain ⟨u, -, h⟩ := of_decodeFrom_zero h
    obtain ⟨v, rest, -, h, -⟩ := of_decodeFrom_one h
    simp [decodeFrom_nil] at h
  | [c, d, e] =>
    obtain ⟨u, -, h⟩ := of_decodeFrom_zero h
    obtain ⟨v, rest, -, h, -⟩ := of_decodeFrom_one h
    rcases of_decodeFrom_two h with ⟨-, hpad, -⟩ | ⟨w, rest, -, h, -⟩
    · simp at hpad
    · simp [decodeFrom_nil] at h
  | c :: d :: e :: f :: text =>
    obtain ⟨u, hc, h₁⟩ := of_decodeFrom_zero h
    obtain ⟨v, rest, hd, h₂, rfl⟩ := of_decodeFrom_one h₁
    rcases of_decodeFrom_two h₂ with ⟨rfl, hpad, rfl⟩ | ⟨w, rest, he, h₃, rfl⟩
    · obtain ⟨rfl, rfl⟩ := List.cons.inj hpad
      exact .one hc hd
    · rcases of_decodeFrom_three h₃ with ⟨rfl, rfl, rfl⟩ | ⟨x, rest, hf, h₄, rfl⟩
      · exact .two hc hd he
      · exact .three hc hd he hf (spells_of_decodeFrom text rest h₄)

theorem decodeStrict_eq_some : decodeStrict text = some bytes ↔ Spells text bytes := by
  unfold decodeStrict
  constructor
  · intro h
    split_ifs at h
    exact spells_of_decodeFrom text bytes h
  · intro h
    rw [if_neg, h.decodeFrom]
    cases h with
    | nil => exact nofun
    | one hc hd => exact fun heq => ne_pad_of_value hc (Option.some.inj heq)
    | two hc hd he => exact fun heq => ne_pad_of_value hc (Option.some.inj heq)
    | three hc hd he hf h => exact fun heq => ne_pad_of_value hc (Option.some.inj heq)

def isGroups : Text → Bool
  | [] => true
  | [c, d, e, f] =>
    (value c).isSome && (value d).isSome &&
      (((value e).isSome && ((value f).isSome || f == pad)) || (e == pad && f == pad))
  | c :: d :: e :: f :: text =>
    (value c).isSome && (value d).isSome && (value e).isSome && (value f).isSome && isGroups text
  | _ => false

lemma Spells.isGroups (h : Spells text bytes) : isGroups text = true := by
  induction h with
  | nil => rfl
  | one hc hd => simp [Base64.isGroups, hc, hd]
  | two hc hd he => simp [Base64.isGroups, hc, hd, he]
  | @three c d e f u v w x text bytes hc hd he hf h ih =>
    cases text with
    | nil => simp [Base64.isGroups, hc, hd, he, hf]
    | cons c' text => simp [Base64.isGroups, hc, hd, he, hf, ih]

lemma exists_spells : ∀ text : Text, isGroups text = true → ∃ bytes, Spells text bytes
  | [], _ => ⟨[], .nil⟩
  | [c], h => by simp [isGroups] at h
  | [c, d], h => by simp [isGroups] at h
  | [c, d, e], h => by simp [isGroups] at h
  | [c, d, e, f], h => by
    simp only [isGroups, Bool.and_eq_true, Bool.or_eq_true, beq_iff_eq, Option.isSome_iff_exists]
      at h
    obtain ⟨⟨⟨u, hc⟩, v, hd⟩, ⟨⟨w, he⟩, ⟨x, hf⟩ | rfl⟩ | ⟨rfl, rfl⟩⟩ := h
    · exact ⟨_, .three hc hd he hf .nil⟩
    · exact ⟨_, .two hc hd he⟩
    · exact ⟨_, .one hc hd⟩
  | c :: d :: e :: f :: g :: text, h => by
    simp only [isGroups, Bool.and_eq_true, Option.isSome_iff_exists] at h
    obtain ⟨⟨⟨⟨⟨u, hc⟩, v, hd⟩, w, he⟩, x, hf⟩, h⟩ := h
    obtain ⟨bytes, hbytes⟩ := exists_spells (g :: text) h
    exact ⟨_, .three hc hd he hf hbytes⟩

lemma Spells.length (h : Spells text bytes) :
    3 * text.length = 4 * (bytes.length + text.count pad) ∧ text.count pad ≤ 2 := by
  have hcount : ∀ {c v : ℕ}, value c = some v → ∀ text : Text,
      (c :: text).count pad = text.count pad := by
    intro c v hc text
    exact List.count_cons_of_ne (ne_pad_of_value hc)
  induction h with
  | nil => simp
  | one hc hd => simp [hcount hc, hcount hd]
  | two hc hd he => simp [hcount hc, hcount hd, hcount he]
  | three hc hd he hf h ih =>
    rw [hcount hc, hcount hd, hcount he, hcount hf]
    simp only [List.length_cons]
    omega

/-! ## Round trips -/

lemma spells_encode : ∀ bytes : List Byte, Spells (encode 43 47 bytes) bytes
  | [] => .nil
  | [a] => by
    have ha := a.isLt
    have h := Spells.one (value_alphabet (v := a / 4) (by omega))
      (value_alphabet (v := a % 4 * 16) (by omega))
    have hbyte : Fin.ofNat 256 (a / 4 * 4 + a % 4 * 16 / 16 : ℕ) = a := by
      apply Fin.ext
      simp only [Fin.val_ofNat]
      omega
    rwa [hbyte] at h
  | [a, b] => by
    have ha := a.isLt
    have hb := b.isLt
    have h := Spells.two (value_alphabet (v := a / 4) (by omega))
      (value_alphabet (v := a % 4 * 16 + b / 16) (by omega))
      (value_alphabet (v := b % 16 * 4) (by omega))
    have hbyte : Fin.ofNat 256 (a / 4 * 4 + (a % 4 * 16 + b / 16) / 16 : ℕ) = a := by
      apply Fin.ext
      simp only [Fin.val_ofNat]
      omega
    have hbyte' :
        Fin.ofNat 256 ((a % 4 * 16 + b / 16) % 16 * 16 + b % 16 * 4 / 4 : ℕ) = b := by
      apply Fin.ext
      simp only [Fin.val_ofNat]
      omega
    rwa [hbyte, hbyte'] at h
  | a :: b :: c :: bytes => by
    have ha := a.isLt
    have hb := b.isLt
    have hc := c.isLt
    have h := Spells.three (value_alphabet (v := a / 4) (by omega))
      (value_alphabet (v := a % 4 * 16 + b / 16) (by omega))
      (value_alphabet (v := b % 16 * 4 + c / 64) (by omega))
      (value_alphabet (v := c % 64) (by omega)) (spells_encode bytes)
    have hbyte : Fin.ofNat 256 (a / 4 * 4 + (a % 4 * 16 + b / 16) / 16 : ℕ) = a := by
      apply Fin.ext
      simp only [Fin.val_ofNat]
      omega
    have hbyte' :
        Fin.ofNat 256 ((a % 4 * 16 + b / 16) % 16 * 16 + (b % 16 * 4 + c / 64) / 4 : ℕ) = b := by
      apply Fin.ext
      simp only [Fin.val_ofNat]
      omega
    have hbyte'' : Fin.ofNat 256 ((b % 16 * 4 + c / 64) % 4 * 64 + c % 64 : ℕ) = c := by
      apply Fin.ext
      simp only [Fin.val_ofNat]
      omega
    rwa [hbyte, hbyte', hbyte''] at h

def leftover : Text → ℕ
  | [_, d, e, f] =>
    if f = pad then
      if e = pad then (value d).getD 0 % 16 else (value e).getD 0 % 4
    else 0
  | _ :: _ :: _ :: _ :: text => leftover text
  | _ => 0

theorem Spells.encode_eq_iff (h : Spells text bytes) :
    encode 43 47 bytes = text ↔ leftover text = 0 := by
  induction h with
  | nil => exact iff_of_true rfl rfl
  | @one c d u v hc hd =>
    have hu := value_lt hc
    have hv := value_lt hd
    have hfirst : (u * 4 + v / 16) % 256 / 4 = u := by omega
    have hsecond : (u * 4 + v / 16) % 256 % 4 * 16 = v - v % 16 := by omega
    simp only [encode, leftover, Fin.val_ofNat, hfirst, hsecond, alphabet_value hc, hd, if_true,
      Option.getD_some, List.cons.injEq, true_and, and_true]
    constructor
    · intro heq
      have hvalue := (value_alphabet (v := v - v % 16) (by omega)).symm.trans (heq ▸ hd)
      have := Option.some.inj hvalue
      omega
    · intro hzero
      rw [hzero, Nat.sub_zero]
      exact alphabet_value hd
  | @two c d e u v w hc hd he =>
    have hu := value_lt hc
    have hv := value_lt hd
    have hw := value_lt he
    have hfirst : (u * 4 + v / 16) % 256 / 4 = u := by omega
    have hsecond : (u * 4 + v / 16) % 256 % 4 * 16 + (v % 16 * 16 + w / 4) % 256 / 16 = v := by
      omega
    have hthird : (v % 16 * 16 + w / 4) % 256 % 16 * 4 = w - w % 4 := by omega
    simp only [encode, leftover, Fin.val_ofNat, hfirst, hsecond, hthird, alphabet_value hc,
      alphabet_value hd, he, if_true, if_neg (ne_pad_of_value he), Option.getD_some,
      List.cons.injEq, true_and, and_true]
    constructor
    · intro heq
      have hvalue := (value_alphabet (v := w - w % 4) (by omega)).symm.trans (heq ▸ he)
      have := Option.some.inj hvalue
      omega
    · intro hzero
      rw [hzero, Nat.sub_zero]
      exact alphabet_value he
  | @three c d e f u v w x text bytes hc hd he hf h ih =>
    have hu := value_lt hc
    have hv := value_lt hd
    have hw := value_lt he
    have hx := value_lt hf
    have hfirst : (u * 4 + v / 16) % 256 / 4 = u := by omega
    have hsecond : (u * 4 + v / 16) % 256 % 4 * 16 + (v % 16 * 16 + w / 4) % 256 / 16 = v := by
      omega
    have hthird :
        (v % 16 * 16 + w / 4) % 256 % 16 * 4 + (w % 4 * 64 + x) % 256 / 64 = w := by omega
    have hfourth : (w % 4 * 64 + x) % 256 % 64 = x := by omega
    have hleftover : leftover (c :: d :: e :: f :: text) = leftover text := by
      cases text with
      | nil => simp [leftover, ne_pad_of_value hf]
      | cons c' text => rfl
    rw [hleftover, ← ih]
    simp only [encode, Fin.val_ofNat, hfirst, hsecond, hthird, hfourth, alphabet_value hc,
      alphabet_value hd, alphabet_value he, alphabet_value hf, List.cons.injEq, true_and]

/-! ## Two characters of the alphabet -/

def toStandard (c : ℕ) : ℕ := if c = 45 then 43 else if c = 95 then 47 else c

def toUrlSafe (c : ℕ) : ℕ := if c = 43 then 45 else if c = 47 then 95 else c

lemma alphabet_toUrlSafe (h : v < 64) : alphabet 45 95 v = toUrlSafe (alphabet 43 47 v) := by
  unfold alphabet toUrlSafe
  split_ifs <;> omega

lemma encode_toUrlSafe : ∀ bytes : List Byte,
    encode 45 95 bytes = (encode 43 47 bytes).map toUrlSafe
  | [] => rfl
  | [a] => by
    have ha := a.isLt
    rw [encode, encode, alphabet_toUrlSafe (by omega), alphabet_toUrlSafe (by omega)]
    rfl
  | [a, b] => by
    have ha := a.isLt
    have hb := b.isLt
    rw [encode, encode, alphabet_toUrlSafe (by omega), alphabet_toUrlSafe (by omega),
      alphabet_toUrlSafe (by omega)]
    rfl
  | a :: b :: c :: bytes => by
    have ha := a.isLt
    have hb := b.isLt
    have hc := c.isLt
    rw [encode, encode, alphabet_toUrlSafe (by omega), alphabet_toUrlSafe (by omega),
      alphabet_toUrlSafe (by omega), alphabet_toUrlSafe (by omega), encode_toUrlSafe bytes]
    rfl

def UrlSafe (text : Text) : Prop := ∀ c ∈ text, c ≠ 43 ∧ c ≠ 47

instance (text : Text) : Decidable (UrlSafe text) :=
  inferInstanceAs (Decidable (∀ c ∈ text, c ≠ 43 ∧ c ≠ 47))

lemma Spells.value_or_pad (h : Spells text bytes) :
    ∀ c ∈ text, (∃ v, value c = some v) ∨ c = pad := by
  induction h with
  | nil => exact fun _ h => nomatch h
  | one hc hd => simp [hc, hd]
  | two hc hd he => simp [hc, hd, he]
  | three hc hd he hf h ih => simpa [hc, hd, he, hf] using ih

lemma Spells.ne (h : Spells text bytes) : ∀ c ∈ text, c ≠ 45 ∧ c ≠ 95 ∧ c < 128 := by
  intro c hc
  rcases h.value_or_pad c hc with ⟨v, hv⟩ | rfl
  · unfold value at hv
    split_ifs at hv <;> omega
  · decide

/-- **What is read back in the URL-safe alphabet is the text that is encoded** exactly if it is
URL-safe and no bit is left over. -/
theorem encode_urlSafe_iff (h : Spells (text.map toStandard) bytes) :
    encode 45 95 bytes = text ↔ UrlSafe text ∧ leftover (text.map toStandard) = 0 := by
  rw [encode_toUrlSafe, ← h.encode_eq_iff]
  constructor
  · intro heq
    have hback : ∀ c ∈ encode 43 47 bytes, toStandard (toUrlSafe c) = c := by
      intro c hc
      obtain ⟨h45, h95, -⟩ := (spells_encode bytes).ne c hc
      unfold toStandard toUrlSafe
      split_ifs <;> omega
    refine ⟨?_, ?_⟩
    · intro c hc
      rw [← heq] at hc
      obtain ⟨c', -, rfl⟩ := List.mem_map.1 hc
      unfold toUrlSafe
      split_ifs <;> omega
    · rw [← heq, List.map_map]
      conv_lhs => rw [← List.map_id (encode 43 47 bytes)]
      exact List.map_congr_left fun c hc => (hback c hc).symm
  · rintro ⟨hsafe, heq⟩
    rw [heq, List.map_map]
    conv_rhs => rw [← List.map_id text]
    refine List.map_congr_left fun c hc => ?_
    obtain ⟨h43, h47⟩ := hsafe c hc
    simp only [Function.comp_apply, id_eq]
    unfold toStandard toUrlSafe
    split_ifs <;> omega

lemma spells_encode_urlSafe (bytes : List Byte) :
    Spells ((encode 45 95 bytes).map toStandard) bytes := by
  have hback : ((encode 45 95 bytes).map toStandard) = encode 43 47 bytes := by
    rw [encode_toUrlSafe, List.map_map]
    conv_rhs => rw [← List.map_id (encode 43 47 bytes)]
    refine List.map_congr_left fun c hc => ?_
    obtain ⟨h45, h95, -⟩ := (spells_encode bytes).ne c hc
    simp only [Function.comp_apply, id_eq]
    unfold toStandard toUrlSafe
    split_ifs <;> omega
  rw [hback]
  exact spells_encode bytes

end Base64
