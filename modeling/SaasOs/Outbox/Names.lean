import SaasOs.Foundation.PyJson
import SaasOs.Foundation.PyRegex

/-!
# Idempotency keys and the names of events and consumers

The validators test a length and match an expression between `^` and `$`.  A line break at the end of
a text that is not too long passes them, and nothing else does that is not of the alphabet
(`validators_exact_iff`).
-/

namespace SaasOs.KeyValidators

open PyJson PyRegex RegularExpression

/-! ## The validators -/

def letters : Text := text "abcdefghijklmnopqrstuvwxyz"

def keyCharacters : Text :=
  text "ABCDEFGHIJKLMNOPQRSTUVWXYZ" ++ letters ++ text "0123456789._~-"

def nameCharacters : Text := letters ++ text "0123456789_"

/-- `_SAFE_KEY_PATTERN`: `^[A-Za-z0-9._~-]{1,200}$`. -/
def safeKeyPattern : Regex := between (oneOf keyCharacters) 1 200

/-- `[a-z][a-z0-9_]*`. -/
def segment : Regex := oneOf letters * (oneOf nameCharacters).star

/-- `_DOTTED_NAME` and `_CONSUMER_NAME`: `^[a-z][a-z0-9_]*(\.[a-z][a-z0-9_]*)+$`. -/
def dottedName : Regex := segment * oneOrMore (char 46 * segment)

/-- The refusals of the three checks, with what they say. -/
inductive NameError
  | idempotencyKeyInvalid (message : String)
  | invalidOutboxEvent (field reason : String)
  deriving DecidableEq

def validateIdempotencyKey (key : Text) : Except NameError Unit :=
  if key = [] then .error (.idempotencyKeyInvalid "Idempotency key must not be empty.")
  else if 200 < key.length then
    .error (.idempotencyKeyInvalid "Idempotency key exceeds 200 characters.")
  else if anchoredMatch safeKeyPattern key = false then
    .error (.idempotencyKeyInvalid ("Idempotency key contains characters outside the safe set " ++
      "(letters, digits, '.', '_', '~', '-')."))
  else .ok ()

/-- The check of a dotted name in both functions `_validate`, of events and of consumptions. -/
def checkDottedName (field : String) (name : Text) : Except NameError Unit :=
  if 100 < name.length ∨ anchoredMatch dottedName name = false then
    .error (.invalidOutboxEvent field "must be a dotted lowercase name")
  else .ok ()

def checkEventType (eventType : Text) : Except NameError Unit :=
  checkDottedName "event_type" eventType

def checkConsumer (consumer : Text) : Except NameError Unit :=
  checkDottedName "consumer" consumer

/-! ## What they are to accept -/

/-- An idempotency key: at most 200 of the characters that keys may have. -/
def IsKey (key : Text) : Prop :=
  1 ≤ key.length ∧ key.length ≤ 200 ∧ ∀ c ∈ key, c ∈ keyCharacters

/-- A lowercase letter, then lowercase letters, digits and underscores. -/
def IsSegment (t : Text) : Prop :=
  ∃ first ∈ letters, ∃ rest : Text, t = first :: rest ∧ ∀ c ∈ rest, c ∈ nameCharacters

/-- Two or more segments between dots. -/
def IsDotted (t : Text) : Prop :=
  ∃ segments : List Text, 2 ≤ segments.length ∧ (∀ part ∈ segments, IsSegment part) ∧
    t = [46].intercalate segments

def IsName (name : Text) : Prop := name.length ≤ 100 ∧ IsDotted name

/-- The validators accept exactly what they are to accept, as far as this text goes. -/
structure ExactAt (t : Text) : Prop where
  key : validateIdempotencyKey t = .ok () ↔ IsKey t
  eventType : checkEventType t = .ok () ↔ IsName t
  consumer : checkConsumer t = .ok () ↔ IsName t

/-! ## The languages of the patterns -/

variable {t : Text}

lemma mem_safeKeyPattern : t ∈ safeKeyPattern.matches' ↔ IsKey t :=
  mem_between_oneOf (by decide)

lemma mem_segment : t ∈ segment.matches' ↔ IsSegment t := by
  rw [segment, matches'_mul, Language.mem_mul]
  constructor
  · rintro ⟨front, hfront, rest, hrest, rfl⟩
    obtain ⟨first, hfirst, rfl⟩ := mem_oneOf.mp hfront
    exact ⟨first, hfirst, rest, rfl, mem_star_oneOf.mp hrest⟩
  · rintro ⟨first, hfirst, rest, rfl, hrest⟩
    exact ⟨[first], mem_oneOf.mpr ⟨first, hfirst, rfl⟩, rest, mem_star_oneOf.mpr hrest, rfl⟩

lemma mem_dot_segment :
    t ∈ (char 46 * segment).matches' ↔ ∃ part, IsSegment part ∧ t = 46 :: part := by
  rw [matches'_mul, Language.mem_mul]
  constructor
  · rintro ⟨dot, hdot, part, hpart, rfl⟩
    obtain rfl : dot = [46] := hdot
    exact ⟨part, mem_segment.mp hpart, rfl⟩
  · rintro ⟨part, hpart, rfl⟩
    exact ⟨[46], rfl, part, mem_segment.mpr hpart, rfl⟩

lemma intercalate_dot (first : Text) (rest : List Text) :
    [46].intercalate (first :: rest) = first ++ (rest.map (46 :: ·)).flatten := by
  induction rest generalizing first with
  | nil => simp [List.intercalate]
  | cons second rest ih =>
    have hstep : [46].intercalate (first :: second :: rest) =
        first ++ 46 :: [46].intercalate (second :: rest) := by
      simp [List.intercalate]
    rw [hstep, ih]
    simp

lemma mem_dottedName : t ∈ dottedName.matches' ↔ IsDotted t := by
  rw [dottedName, oneOrMore, matches'_mul, matches'_mul, matches'_star, Language.mem_mul]
  constructor
  · rintro ⟨first, hfirst, rest, hrest, rfl⟩
    obtain ⟨second, hsecond, more, hmore, rfl⟩ := (Language.mem_mul).mp hrest
    obtain ⟨part, hpart, rfl⟩ := mem_dot_segment.mp hsecond
    obtain ⟨parts, rfl, hparts⟩ := Language.mem_kstar.mp hmore
    choose! name hname using fun p hp => mem_dot_segment.mp (hparts p hp)
    refine ⟨first :: part :: parts.map name, by simp, ?_, ?_⟩
    · refine List.forall_mem_cons.mpr ⟨mem_segment.mp hfirst,
        List.forall_mem_cons.mpr ⟨hpart, fun p hp => ?_⟩⟩
      obtain ⟨q, hq, rfl⟩ := List.mem_map.mp hp
      exact (hname q hq).1
    · have hflatten : (parts.map name).map (46 :: ·) = parts := by
        rw [List.map_map]
        exact List.map_congr_left (fun p hp => (hname p hp).2.symm) |>.trans (List.map_id parts)
      rw [intercalate_dot, List.map_cons, hflatten]
      rfl
  · rintro ⟨segments, hlength, hall, rfl⟩
    match segments, hlength with
    | first :: second :: rest, _ =>
      obtain ⟨hfirst, hothers⟩ := List.forall_mem_cons.mp hall
      obtain ⟨hsecond, hrest⟩ := List.forall_mem_cons.mp hothers
      refine ⟨first, mem_segment.mpr hfirst, ((second :: rest).map (46 :: ·)).flatten, ?_,
        (intercalate_dot first (second :: rest)).symm⟩
      refine (Language.mem_mul).mpr ⟨46 :: second, mem_dot_segment.mpr ⟨second, hsecond, rfl⟩,
        (rest.map (46 :: ·)).flatten, ?_, rfl⟩
      refine Language.mem_kstar.mpr ⟨rest.map (46 :: ·), rfl, fun p hp => ?_⟩
      obtain ⟨q, hq, rfl⟩ := List.mem_map.mp hp
      exact mem_dot_segment.mpr ⟨q, hrest q hq, rfl⟩

/-! ## No accepted text ends with a line break -/

lemma ten_notMem_nameCharacters : (10 : ℕ) ∉ nameCharacters ∧ (10 : ℕ) ∉ keyCharacters := by
  decide +kernel

lemma ten_notMem_of_isKey (h : IsKey t) : 10 ∉ t :=
  fun hmem => ten_notMem_nameCharacters.2 (h.2.2 10 hmem)

lemma ten_notMem_of_isDotted (h : IsDotted t) : 10 ∉ t := by
  have hpart : ∀ part, IsSegment part → 10 ∉ part := by
    rintro part ⟨first, hfirst, rest, rfl, hrest⟩ hmem
    rcases List.mem_cons.mp hmem with rfl | hmem
    · exact ten_notMem_nameCharacters.1 (List.mem_append_left _ hfirst)
    · exact ten_notMem_nameCharacters.1 (hrest 10 hmem)
  obtain ⟨segments, -, hall, rfl⟩ := h
  cases segments with
  | nil => nofun
  | cons first rest =>
    rw [intercalate_dot]
    intro hmem
    rcases List.mem_append.mp hmem with hmem | hmem
    · exact hpart first (hall first List.mem_cons_self) hmem
    · obtain ⟨dotted, hdotted, hmem⟩ := List.mem_flatten.mp hmem
      obtain ⟨part, hpart', rfl⟩ := List.mem_map.mp hdotted
      rcases List.mem_cons.mp hmem with h | hmem
      · cases h
      · exact hpart part (hall part (List.mem_cons_of_mem _ hpart')) hmem

/-! ## What they accept -/

lemma validateIdempotencyKey_iff {key : Text} : validateIdempotencyKey key = .ok () ↔
    IsKey key ∨ ∃ front, IsKey front ∧ front.length < 200 ∧ key = front ++ [10] := by
  have hmatch : anchoredMatch safeKeyPattern key = true ↔
      IsKey key ∨ ∃ front, IsKey front ∧ key = front ++ [10] := by
    simp only [anchoredMatch_iff, mem_safeKeyPattern]
  unfold validateIdempotencyKey
  split_ifs with hnil hlong hno
  · refine iff_of_false nofun ?_
    rintro (hkey | ⟨front, -, -, heq⟩)
    · rw [hnil] at hkey
      exact absurd hkey.1 (by simp)
    · rw [hnil] at heq
      exact absurd heq.symm (by simp)
  · refine iff_of_false nofun ?_
    rintro (hkey | ⟨front, -, hlength, heq⟩)
    · exact absurd hkey.2.1 (Nat.not_le.mpr hlong)
    · rw [heq, List.length_append] at hlong
      simp at hlong
      omega
  · refine iff_of_false nofun ?_
    have hnone := mt hmatch.mpr (Bool.not_eq_true _ |>.mpr hno)
    rintro (hkey | ⟨front, hfront, -, heq⟩)
    · exact hnone (.inl hkey)
    · exact hnone (.inr ⟨front, hfront, heq⟩)
  · refine iff_of_true rfl ?_
    rcases hmatch.mp (Bool.not_eq_false _ |>.mp hno) with hkey | ⟨front, hfront, heq⟩
    · exact .inl hkey
    · refine .inr ⟨front, hfront, ?_, heq⟩
      rw [heq, List.length_append] at hlong
      simp at hlong
      omega

lemma checkDottedName_iff {field : String} {name : Text} : checkDottedName field name = .ok () ↔
    IsName name ∨ ∃ front, IsDotted front ∧ front.length < 100 ∧ name = front ++ [10] := by
  have hmatch : anchoredMatch dottedName name = true ↔
      IsDotted name ∨ ∃ front, IsDotted front ∧ name = front ++ [10] := by
    simp only [anchoredMatch_iff, mem_dottedName]
  have hlength : ∀ front : Text, name = front ++ [10] → (name.length ≤ 100 ↔ front.length < 100) := by
    rintro front rfl
    rw [List.length_append]
    exact Nat.succ_le_iff
  have hok : checkDottedName field name = .ok () ↔
      name.length ≤ 100 ∧ anchoredMatch dottedName name = true := by
    unfold checkDottedName
    split_ifs with h
    · refine iff_of_false nofun fun hboth => ?_
      rcases h with hlong | hno
      · omega
      · rw [hno] at hboth
        exact absurd hboth.2 (by simp)
    · obtain ⟨hlong, hno⟩ := not_or.mp h
      exact iff_of_true rfl ⟨Nat.not_lt.mp hlong, Bool.not_eq_false _ |>.mp hno⟩
  rw [hok, hmatch]
  constructor
  · rintro ⟨hle, hdotted | ⟨front, hfront, heq⟩⟩
    · exact .inl ⟨hle, hdotted⟩
    · exact .inr ⟨front, hfront, (hlength front heq).mp hle, heq⟩
  · rintro (⟨hle, hdotted⟩ | ⟨front, hfront, hlt, heq⟩)
    · exact ⟨hle, .inl hdotted⟩
    · exact ⟨(hlength front heq).mpr hlt, .inr ⟨front, hfront, heq⟩⟩

lemma iff_of_lineBreak {accepted : Prop} {spec short : Text → Prop} (hten : ∀ s, spec s → 10 ∉ s)
    (h : accepted ↔ spec t ∨ ∃ front, short front ∧ t = front ++ [10]) :
    (accepted ↔ spec t) ↔ ¬ ∃ front, short front ∧ t = front ++ [10] := by
  constructor
  · rintro hiff ⟨front, hshort, heq⟩
    refine hten t (hiff.mp (h.mpr (.inr ⟨front, hshort, heq⟩))) ?_
    rw [heq]
    exact List.mem_append_right _ List.mem_cons_self
  · intro hnone
    rw [h, or_iff_left hnone]

/-- The validators are exact at a text, unless it is a key or a name that is followed by a line break
and is not too long with it. -/
theorem validators_exact_iff (t : Text) : ExactAt t ↔
    ¬ ∃ front, (IsKey front ∧ front.length < 200 ∨ IsDotted front ∧ front.length < 100) ∧
      t = front ++ [10] := by
  have hkey : (validateIdempotencyKey t = .ok () ↔ IsKey t) ↔
      ¬ ∃ front, (IsKey front ∧ front.length < 200) ∧ t = front ++ [10] :=
    iff_of_lineBreak (fun s => ten_notMem_of_isKey)
      (validateIdempotencyKey_iff.trans (or_congr_right (exists_congr fun front => and_assoc.symm)))
  have hname : ∀ field, (checkDottedName field t = .ok () ↔ IsName t) ↔
      ¬ ∃ front, (IsDotted front ∧ front.length < 100) ∧ t = front ++ [10] := fun field =>
    iff_of_lineBreak (fun s hs => ten_notMem_of_isDotted hs.2)
      (checkDottedName_iff.trans (or_congr_right (exists_congr fun front => and_assoc.symm)))
  constructor
  · rintro hexact ⟨front, hfront | hfront, heq⟩
    · exact hkey.mp hexact.key ⟨front, hfront, heq⟩
    · exact (hname "event_type").mp hexact.eventType ⟨front, hfront, heq⟩
  · intro hnone
    have hnoKey := hkey.mpr fun ⟨front, hfront, heq⟩ => hnone ⟨front, .inl hfront, heq⟩
    have hnoName := fun field => (hname field).mpr fun ⟨front, hfront, heq⟩ =>
      hnone ⟨front, .inr hfront, heq⟩
    exact ⟨hnoKey, hnoName "event_type", hnoName "consumer"⟩

/-- The key `a` and a line break. -/
theorem validators_accept_lineBreak : validateIdempotencyKey (text "a\n") = .ok () ∧
    ¬ IsKey (text "a\n") := by
  have hkey : IsKey (text "a") := by
    refine ⟨by decide, by decide, ?_⟩
    decide +kernel
  refine ⟨validateIdempotencyKey_iff.mpr (.inr ⟨text "a", hkey, by decide, rfl⟩), fun h => ?_⟩
  exact ten_notMem_of_isKey h (by decide)

end SaasOs.KeyValidators
