import Mathlib.Tactic

/-!
# Canonical JSON

The values that `json.dumps` is given here: `null`, natural numbers, strings, and objects, whose
members come in the order of their insertion.  The canonical text has its keys sorted and no
whitespace, and escapes quotes, backslashes and control characters only.  The text of a string and
the digits of a number tell where they end.
-/

mutual

inductive Json
  | null
  | num (n : ℕ)
  | str (s : String)
  | obj (members : JsonMembers)

inductive JsonMembers
  | nil
  | cons (key : String) (value : Json) (rest : JsonMembers)

end

namespace JsonMembers

def ofList : List (String × Json) → JsonMembers
  | [] => .nil
  | (key, value) :: rest => .cons key value (ofList rest)

def get? (key : String) : JsonMembers → Option Json
  | .nil => none
  | .cons key' value rest => if key = key' then some value else rest.get? key

def insertSorted (key : String) (value : Json) : JsonMembers → JsonMembers
  | .nil => .cons key value .nil
  | .cons key' value' rest =>
    if key ≤ key' then .cons key value (.cons key' value' rest)
    else .cons key' value' (rest.insertSorted key value)

end JsonMembers

mutual

def Json.sorted : Json → Json
  | .null => .null
  | .num n => .num n
  | .str s => .str s
  | .obj members => .obj members.sorted

def JsonMembers.sorted : JsonMembers → JsonMembers
  | .nil => .nil
  | .cons key value rest => rest.sorted.insertSorted key value.sorted

end

namespace Json

/-! ## Texts -/

def hexDigit (n : ℕ) : Char :=
  ("0123456789abcdef".toList).getD n '0'

def escapeChar (c : Char) : List Char :=
  if c = '"' then ['\\', '"']
  else if c = '\\' then ['\\', '\\']
  else if c = '\n' then ['\\', 'n']
  else if c = '\r' then ['\\', 'r']
  else if c = '\t' then ['\\', 't']
  else if c = '\x08' then ['\\', 'b']
  else if c = '\x0c' then ['\\', 'f']
  else if c.toNat < 32 then ['\\', 'u', '0', '0', hexDigit (c.toNat / 16), hexDigit (c.toNat % 16)]
  else [c]

def quote (s : String) : List Char :=
  '"' :: (s.toList.flatMap escapeChar ++ ['"'])

end Json

mutual

def Json.render : Json → List Char
  | .null => ['n', 'u', 'l', 'l']
  | .num n => Nat.toDigits 10 n
  | .str s => Json.quote s
  | .obj .nil => ['{', '}']
  | .obj (.cons key value rest) =>
    '{' :: (Json.quote key ++ ':' :: (value.render ++ rest.renderRest))

def JsonMembers.renderRest : JsonMembers → List Char
  | .nil => ['}']
  | .cons key value rest =>
    ',' :: (Json.quote key ++ ':' :: (value.render ++ rest.renderRest))

end

/-- `json.dumps(value, sort_keys=True, separators=(",", ":"), ensure_ascii=False)`. -/
def Json.canonical (value : Json) : String :=
  String.ofList value.sorted.render

example : (Json.obj (.ofList [("b", .num 10), ("a", .str "x\n")])).canonical =
    "\x7b\"a\":\"x\\n\",\"b\":10\x7d" := by
  decide +kernel

/-! ## ASCII texts -/

/-- Four hexadecimal digits after `\u`. -/
def Json.escapeUnit (n : ℕ) : List Char :=
  ['\\', 'u', Json.hexDigit (n / 4096 % 16), Json.hexDigit (n / 256 % 16),
    Json.hexDigit (n / 16 % 16), Json.hexDigit (n % 16)]

/-- The text of a character in a string whose other characters are escaped too unless they are
printable ASCII; beyond the basic plane as a pair of surrogates. -/
def Json.escapeAscii (c : Char) : List Char :=
  if c.toNat < 0x7f then Json.escapeChar c
  else if c.toNat < 0x10000 then Json.escapeUnit c.toNat
  else Json.escapeUnit (0xd800 + (c.toNat - 0x10000) / 1024) ++
    Json.escapeUnit (0xdc00 + (c.toNat - 0x10000) % 1024)

/-- The text of a string with `ensure_ascii=True`. -/
def Json.quoteAscii (s : String) : List Char :=
  '"' :: (s.toList.flatMap Json.escapeAscii ++ ['"'])

namespace Json

/-! ## Unambiguous texts -/

def unescapeChar : List Char → Option (Char × List Char)
  | '\\' :: 'n' :: rest => some ('\n', rest)
  | '\\' :: 'r' :: rest => some ('\r', rest)
  | '\\' :: 't' :: rest => some ('\t', rest)
  | '\\' :: 'b' :: rest => some ('\x08', rest)
  | '\\' :: 'f' :: rest => some ('\x0c', rest)
  | '\\' :: 'u' :: '0' :: '0' :: h :: l :: rest =>
    some (Char.ofNat (("0123456789abcdef".toList.idxOf h) * 16 +
      "0123456789abcdef".toList.idxOf l), rest)
  | '\\' :: c :: rest => some (c, rest)
  | c :: rest => some (c, rest)
  | [] => none

lemma ofNat_hexDigits : ∀ n < 32, Char.ofNat
    (("0123456789abcdef".toList.idxOf (hexDigit (n / 16))) * 16 +
      "0123456789abcdef".toList.idxOf (hexDigit (n % 16))) = Char.ofNat n := by
  decide +kernel

lemma unescapeChar_escapeChar (c : Char) (rest : List Char) :
    unescapeChar (escapeChar c ++ rest) = some (c, rest) := by
  unfold escapeChar
  split_ifs with h₁ h₂ h₃ h₄ h₅ h₆ h₇ h₈
  · simp [unescapeChar, h₁]
  · simp [unescapeChar, h₂]
  · simp [unescapeChar, h₃]
  · simp [unescapeChar, h₄]
  · simp [unescapeChar, h₅]
  · simp [unescapeChar, h₆]
  · simp [unescapeChar, h₇]
  · have hc := ofNat_hexDigits c.toNat h₈
    rw [Char.ofNat_toNat] at hc
    simp only [List.cons_append, List.nil_append, unescapeChar, hc]
  · unfold unescapeChar
    split <;> simp_all

lemma exists_escapeChar_eq_cons (c : Char) : ∃ d rest, escapeChar c = d :: rest ∧ d ≠ '"' := by
  unfold escapeChar
  split_ifs with h₁
  all_goals exact ⟨_, _, rfl, by first | exact h₁ | decide⟩

lemma escape_append_inj {s t r r' : List Char}
    (h : s.flatMap escapeChar ++ '"' :: r = t.flatMap escapeChar ++ '"' :: r') :
    s = t ∧ r = r' := by
  induction s generalizing t with
  | nil =>
    cases t with
    | nil => exact ⟨rfl, (List.cons.inj h).2⟩
    | cons d t =>
      obtain ⟨d', rest, hd, hquote⟩ := exists_escapeChar_eq_cons d
      simp only [List.flatMap_nil, List.nil_append, List.flatMap_cons, hd, List.cons_append] at h
      exact absurd (List.cons.inj h).1.symm hquote
  | cons c s ih =>
    cases t with
    | nil =>
      obtain ⟨c', rest, hc, hquote⟩ := exists_escapeChar_eq_cons c
      simp only [List.flatMap_nil, List.nil_append, List.flatMap_cons, hc, List.cons_append] at h
      exact absurd (List.cons.inj h).1 hquote
    | cons d t =>
      simp only [List.flatMap_cons, List.append_assoc] at h
      have hunescape := congrArg unescapeChar h
      rw [unescapeChar_escapeChar, unescapeChar_escapeChar] at hunescape
      simp only [Option.some.injEq, Prod.mk.injEq] at hunescape
      obtain ⟨rfl, hrest⟩ := hunescape
      obtain ⟨rfl, hr⟩ := ih hrest
      exact ⟨rfl, hr⟩

lemma quote_append_inj {s t : String} {r r' : List Char} (h : quote s ++ r = quote t ++ r') :
    s = t ∧ r = r' := by
  unfold quote at h
  simp only [List.cons_append, List.append_assoc, List.nil_append, List.cons.injEq,
    true_and] at h
  obtain ⟨hs, hr⟩ := escape_append_inj h
  exact ⟨String.toList_injective hs, hr⟩

def NoDigit (rest : List Char) : Prop :=
  ∀ c ∈ rest.head?, c.isDigit = false

lemma toDigits_append_inj {n m : ℕ} {r r' : List Char} (hr : NoDigit r) (hr' : NoDigit r')
    (h : Nat.toDigits 10 n ++ r = Nat.toDigits 10 m ++ r') : n = m ∧ r = r' := by
  have htake : ∀ (k : ℕ) (rest : List Char), NoDigit rest →
      (Nat.toDigits 10 k ++ rest).takeWhile Char.isDigit = Nat.toDigits 10 k := by
    intro k rest hrest
    rw [List.takeWhile_append_of_pos fun c hc =>
      Nat.isDigit_of_mem_toDigits (by decide) (by decide) hc]
    cases rest with
    | nil => simp
    | cons c rest => simp [hrest c rfl]
  have hdigits := congrArg (List.takeWhile Char.isDigit) h
  rw [htake n r hr, htake m r' hr'] at hdigits
  have hvalue := congrArg (fun digits => Nat.ofDigitChars 10 digits 0) hdigits
  simp only [Nat.ofDigitChars_ten_toDigits] at hvalue
  subst hvalue
  exact ⟨rfl, List.append_cancel_left h⟩

end Json
