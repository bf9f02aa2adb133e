import SaasOs.Foundation.PyDatetime
import Mathlib.Data.Int.Log

/-!
# What a Lua script keeps of JSON

A Lua script in the store decodes JSON into tables and encodes tables again.  An array and an object
without members are the same table, and a number is written with 14 significant digits; the rest of
a value is written as it was read, up to the order of members (`Value.rewritten`).  So a value
survives exactly if no array in it is empty and no number needs more digits.
-/

namespace CJson

/-! ## Numbers -/

def lastPlace (q : ℚ) : ℤ :=
  Int.log 10 |q| - 13

/-- `"%.14g"`: the number rounded to 14 significant digits, a half to the even one. -/
def toSignificant (q : ℚ) : ℚ :=
  PyDatetime.roundHalfEven (q / 10 ^ lastPlace q) * 10 ^ lastPlace q

def HasSignificant (q : ℚ) : Prop :=
  (q / 10 ^ lastPlace q).den = 1

instance (q : ℚ) : Decidable (HasSignificant q) :=
  inferInstanceAs (Decidable (_ = _))

lemma roundHalfEven_intCast (n : ℤ) : PyDatetime.roundHalfEven n = n := by
  unfold PyDatetime.roundHalfEven
  simp only [Rat.floor_intCast, sub_self]
  rw [if_pos (by norm_num)]

lemma hasSignificant_iff_exists {q : ℚ} :
    HasSignificant q ↔ ∃ n : ℤ, q = n * 10 ^ lastPlace q := by
  have hpos : (0 : ℚ) < 10 ^ lastPlace q := by positivity
  unfold HasSignificant
  constructor
  · intro h
    refine ⟨(q / 10 ^ lastPlace q).num, ?_⟩
    rw [(Rat.den_eq_one_iff _).mp h, div_mul_cancel₀ _ hpos.ne']
  · rintro ⟨n, hn⟩
    have hquotient : q / 10 ^ lastPlace q = n := by
      rw [div_eq_iff hpos.ne']
      exact hn
    rw [hquotient]
    exact Rat.den_intCast n

lemma toSignificant_eq_iff {q : ℚ} : toSignificant q = q ↔ HasSignificant q := by
  have hpos : (0 : ℚ) < 10 ^ lastPlace q := by positivity
  rw [hasSignificant_iff_exists]
  unfold toSignificant
  constructor
  · exact fun h => ⟨_, h.symm⟩
  · rintro ⟨n, hn⟩
    have hquotient : q / 10 ^ lastPlace q = n := by
      rw [div_eq_iff hpos.ne']
      exact hn
    rw [hquotient, roundHalfEven_intCast]
    exact hn.symm

/-! ## Values -/

inductive Value
  | null
  | bool (b : Bool)
  | num (q : ℚ)
  | str (s : String)
  | array (items : List Value)
  | object (members : String → Option Value)

namespace Value

/-- Every object has finitely many members. -/
inductive Finite : Value → Prop
  | null : Finite .null
  | bool (b : Bool) : Finite (.bool b)
  | num (q : ℚ) : Finite (.num q)
  | str (s : String) : Finite (.str s)
  | array {items : List Value} (h : ∀ item ∈ items, Finite item) : Finite (.array items)
  | object {members : String → Option Value} (keys : List String)
      (hkeys : ∀ key, members key ≠ none → key ∈ keys)
      (h : ∀ key value, members key = some value → Finite value) : Finite (.object members)

/-- No array is empty, and every number has at most 14 significant digits. -/
inductive Kept : Value → Prop
  | null : Kept .null
  | bool (b : Bool) : Kept (.bool b)
  | num {q : ℚ} (h : HasSignificant q) : Kept (.num q)
  | str (s : String) : Kept (.str s)
  | array {items : List Value} (hne : items ≠ []) (h : ∀ item ∈ items, Kept item) :
      Kept (.array items)
  | object {members : String → Option Value}
      (h : ∀ key value, members key = some value → Kept value) : Kept (.object members)

mutual

def rewritten : Value → Value
  | .null => .null
  | .bool b => .bool b
  | .num q => .num (toSignificant q)
  | .str s => .str s
  -- an empty table is an object
  | .array [] => .object fun _ => none
  | .array (item :: items) => .array (rewritten item :: rewrittenItems items)
  | .object members => .object fun key => rewrittenMember (members key)

def rewrittenItems : List Value → List Value
  | [] => []
  | item :: items => rewritten item :: rewrittenItems items

def rewrittenMember : Option Value → Option Value
  | none => none
  | some value => some (rewritten value)

end

mutual

theorem rewritten_eq_iff : ∀ value : Value, value.rewritten = value ↔ Kept value
  | .null => iff_of_true rfl .null
  | .bool b => iff_of_true rfl (.bool b)
  | .num q => by
    rw [rewritten, num.injEq, toSignificant_eq_iff]
    exact ⟨.num, fun | .num h => h⟩
  | .str s => iff_of_true rfl (.str s)
  | .array [] => by
    refine iff_of_false (by rw [rewritten]; exact nofun) ?_
    rintro (_ | _)
    contradiction
  | .array (item :: items) => by
    rw [rewritten, array.injEq, List.cons.injEq, rewritten_eq_iff item, rewrittenItems_eq_iff items]
    constructor
    · rintro ⟨hitem, hitems⟩
      exact .array (List.cons_ne_nil _ _) (List.forall_mem_cons.mpr ⟨hitem, hitems⟩)
    · rintro (_ | _)
      next hne h => exact List.forall_mem_cons.mp h
  | .object members => by
    rw [rewritten, object.injEq, funext_iff]
    have hmembers : ∀ key, rewrittenMember (members key) = members key ↔
        ∀ value, members key = some value → Kept value :=
      fun key => rewrittenMember_eq_iff (members key)
    simp only [hmembers]
    exact ⟨.object, fun | .object h => h⟩

theorem rewrittenItems_eq_iff : ∀ items : List Value,
    rewrittenItems items = items ↔ ∀ item ∈ items, Kept item
  | [] => iff_of_true rfl nofun
  | item :: items => by
    rw [rewrittenItems, List.cons.injEq, rewritten_eq_iff item, rewrittenItems_eq_iff items,
      List.forall_mem_cons]

theorem rewrittenMember_eq_iff : ∀ member : Option Value,
    rewrittenMember member = member ↔ ∀ value, member = some value → Kept value
  | none => iff_of_true rfl nofun
  | some value => by
    rw [rewrittenMember, Option.some.injEq, rewritten_eq_iff value]
    exact ⟨fun h _ heq => Option.some.inj heq ▸ h, fun h => h value rfl⟩

end

mutual

theorem finite_rewritten : ∀ value : Value, Finite value → Finite value.rewritten
  | .null, _ => .null
  | .bool b, _ => .bool b
  | .num q, _ => .num _
  | .str s, _ => .str s
  | .array [], _ => .object [] (fun _ h => absurd rfl h) nofun
  | .array (item :: items), h => by
    have hitems : ∀ other ∈ item :: items, Finite other := match h with | .array h => h
    obtain ⟨hitem, hrest⟩ := List.forall_mem_cons.mp hitems
    exact .array (List.forall_mem_cons.mpr
      ⟨finite_rewritten item hitem, finite_rewrittenItems items hrest⟩)
  | .object members, h => by
    obtain ⟨keys, hkeys, hvalues⟩ : ∃ keys : List String,
        (∀ key, members key ≠ none → key ∈ keys) ∧
          ∀ key value, members key = some value → Finite value :=
      match h with | .object keys hkeys h => ⟨keys, hkeys, h⟩
    refine .object keys (fun key hkey => hkeys key fun hnone => hkey ?_) fun key value hvalue => ?_
    · rw [hnone, rewrittenMember]
    · exact finite_rewrittenMember (members key) (hvalues key) value hvalue

theorem finite_rewrittenItems : ∀ items : List Value, (∀ item ∈ items, Finite item) →
    ∀ item ∈ rewrittenItems items, Finite item
  | [], _ => nofun
  | item :: items, h => by
    obtain ⟨hitem, hrest⟩ := List.forall_mem_cons.mp h
    rw [rewrittenItems]
    exact List.forall_mem_cons.mpr
      ⟨finite_rewritten item hitem, finite_rewrittenItems items hrest⟩

theorem finite_rewrittenMember : ∀ member : Option Value,
    (∀ value, member = some value → Finite value) →
      ∀ value, rewrittenMember member = some value → Finite value
  | none, _ => nofun
  | some value, h => by
    intro other hother
    rw [rewrittenMember, Option.some.injEq] at hother
    rw [← hother]
    exact finite_rewritten value (h value rfl)

end

end Value

/-! ## Texts -/

/-- A value with finitely many members. -/
abbrev Document := { value : Value // value.Finite }

def Document.rewritten (document : Document) : Document :=
  ⟨document.1.rewritten, Value.finite_rewritten document.1 document.2⟩

def Document.setMember {members : String → Option Value} (h : (Value.object members).Finite)
    (key text : String) : Document :=
  ⟨.object (Function.update members key (some (.str text))), by
    obtain ⟨keys, hkeys, hvalues⟩ : ∃ keys : List String,
        (∀ key, members key ≠ none → key ∈ keys) ∧
          ∀ key value, members key = some value → Value.Finite value :=
      match h with | .object keys hkeys h => ⟨keys, hkeys, h⟩
    refine .object (key :: keys) (fun other hother => ?_) fun other value hvalue => ?_
    · by_cases heq : other = key
      · exact heq ▸ List.mem_cons_self
      · rw [Function.update_of_ne heq] at hother
        exact List.mem_cons_of_mem key (hkeys other hother)
    · by_cases heq : other = key
      · rw [heq, Function.update_self, Option.some.injEq] at hvalue
        exact hvalue ▸ .str text
      · rw [Function.update_of_ne heq] at hvalue
        exact hvalues other value hvalue⟩

lemma Value.rewritten_object (members : String → Option Value) :
    (Value.object members).rewritten =
      .object fun key => Value.rewrittenMember (members key) := by
  simp only [Value.rewritten]

lemma Document.rewritten_setMember {members : String → Option Value}
    (h : (Value.object members).Finite) (key text : String) :
    (Document.setMember h key text).rewritten.1 = .object fun other =>
      Value.rewrittenMember (Function.update members key (some (.str text)) other) :=
  Value.rewritten_object _

/-- `cjson`, on texts: what a text says, if it can be decoded, and the text of a table. -/
structure Codec (Raw : Type*) where
  decode : Raw → Option Document
  encode : Document → Raw
  decode_encode : ∀ document, decode (encode document) = some document.rewritten

end CJson
