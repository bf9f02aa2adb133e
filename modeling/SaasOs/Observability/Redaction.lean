import Mathlib.Data.List.TakeWhile
import SaasOs.Foundation.PyJson

/-!
# Redaction of log values

`redact` copies a value that is built of dictionaries, lists, tuples and leaves, hides what stands
under sensitive keys, and cuts off containers that are nested too deep.  Keys are normalized by
methods of Python strings that are parameters here; nothing is assumed of them.
-/

namespace SaasOs.Redaction

open PyJson

/-! ## Values -/

/-- `str.lower`, and the characters for which `isalnum` and `isalpha` hold. -/
structure Letters where
  lower : Text → Text
  isalnum : ℕ → Bool
  isalpha : ℕ → Bool

/-- A key of a dictionary: a text, or anything else that can be hashed. -/
inductive Key (κ : Type)
  | str (t : Text)
  | other (key : κ)

/-- A leaf is a text or any object that is no container. -/
inductive Value (κ ο : Type)
  | str (t : Text)
  | object (o : ο)
  | dict (entries : List (Key κ × Value κ ο))
  | list (items : List (Value κ ο))
  | tuple (items : List (Value κ ο))

variable {κ ο : Type} {u : Letters} {key : Key κ} {v w v' : Value κ ο} {n : ℕ}

def Value.isContainer : Value κ ο → Bool
  | .str _ => false
  | .object _ => false
  | _ => true

/-! ## The function -/

def redacted : Text := text "[REDACTED]"

def sensitiveKeys : List Text :=
  ["password", "passwd", "secret", "client_secret", "token", "access_token", "refresh_token",
    "session_token", "id_token", "bearer", "authorization", "proxy_authorization", "auth", "cookie",
    "set_cookie", "api_key", "apikey", "x_api_key", "credential", "credentials", "private_key",
    "signing_key", "encryption_key"].map text

def normalizeKey (u : Letters) (key : Text) : Text := (u.lower key).filter u.isalnum

def isSensitiveKey (u : Letters) (key : Text) : Bool :=
  normalizeKey u key ∈ sensitiveKeys.map (normalizeKey u)

/-- `_redact_authorization_value`: a scheme of letters before the first blank stays. -/
def redactAuthorizationValue (u : Letters) (value : Text) : Text :=
  let scheme := value.takeWhile fun c => c ≠ 32
  if 32 ∈ value ∧ scheme ≠ [] ∧ scheme.all u.isalpha = true then scheme ++ text " [REDACTED]"
  else redacted

/-- `is_auth_key`. -/
def isAuthKey (u : Letters) : Key κ → Bool
  | .str t => normalizeKey u t ∈ [text "authorization", text "proxyauthorization"]
  | .other _ => false

def isSensitive (u : Letters) : Key κ → Bool
  | .str t => isSensitiveKey u t
  | .other _ => false

/-- What stands for a value under a sensitive key. -/
def hide (u : Letters) (key : Key κ) : Value κ ο → Value κ ο
  | .str t => .str (if isAuthKey u key then redactAuthorizationValue u t else redacted)
  | _ => .str redacted

/-- `redact` at a depth from which as many levels are left. -/
def redactAt (u : Letters) : ℕ → Value κ ο → Value κ ο
  | 0, v => if v.isContainer then .str (text "[REDACTION_DEPTH_EXCEEDED]") else v
  | n + 1, .dict entries => .dict (entries.map fun x =>
      (x.1, if isSensitive u x.1 then hide u x.1 x.2 else redactAt u n x.2))
  | n + 1, .list items => .list (items.map (redactAt u n))
  | n + 1, .tuple items => .tuple (items.map (redactAt u n))
  | _ + 1, .str t => .str t
  | _ + 1, .object o => .object o

def maxRedactionDepth : ℕ := 10

def redact (u : Letters) (v : Value κ ο) : Value κ ο := redactAt u maxRedactionDepth v

/-! ## Values that differ in what is hidden -/

/-- The values differ only under sensitive keys, where what they have is related, and below the depth
limit. -/
def Agree (u : Letters) (under : Key κ → Value κ ο → Value κ ο → Prop) :
    ℕ → Value κ ο → Value κ ο → Prop
  | 0, v, w => v = w ∨ v.isContainer = true ∧ w.isContainer = true
  | n + 1, .dict xs, .dict ys => List.Forall₂ (fun x y => x.1 = y.1 ∧
      (isSensitive u x.1 = true → under x.1 x.2 y.2) ∧
      (isSensitive u x.1 = false → Agree u under n x.2 y.2)) xs ys
  | n + 1, .list xs, .list ys => List.Forall₂ (Agree u under n) xs ys
  | n + 1, .tuple xs, .tuple ys => List.Forall₂ (Agree u under n) xs ys
  | _ + 1, v, w => v = w

/-- The first word of a text, where it is of letters and a blank follows it. -/
def authorizationScheme (u : Letters) (t : Text) : Option Text :=
  if 32 ∈ t ∧ (t.takeWhile fun c => c ≠ 32) ≠ [] ∧
      (t.takeWhile fun c => c ≠ 32).all u.isalpha = true then
    some (t.takeWhile fun c => c ≠ 32)
  else none

def shownScheme (u : Letters) : Value κ ο → Option Text
  | .str t => authorizationScheme u t
  | _ => none

/-- A hidden value: nothing of it, or its scheme. -/
def hiddenText (scheme : Option Text) : Text :=
  match scheme with
  | some scheme => scheme ++ text " [REDACTED]"
  | none => redacted

lemma redactAuthorizationValue_eq (t : Text) :
    redactAuthorizationValue u t = hiddenText (authorizationScheme u t) := by
  unfold redactAuthorizationValue authorizationScheme
  dsimp only
  split <;> rfl

lemma hide_eq (u : Letters) (key : Key κ) (v : Value κ ο) :
    hide u key v = .str (hiddenText (if isAuthKey u key then shownScheme u v else none)) := by
  cases hauth : isAuthKey u key with
  | true =>
    cases v with
    | str t => simp only [hide, hauth, if_true, shownScheme, redactAuthorizationValue_eq]
    | object | dict | list | tuple => rfl
  | false => cases v <;> simp [hide, hauth, hiddenText]

lemma authorizationScheme_eq_some {t scheme : Text} (h : authorizationScheme u t = some scheme) :
    scheme = (t.takeWhile fun c => c ≠ 32) ∧ scheme ≠ [] ∧ scheme.all u.isalpha = true ∧
      ∃ rest, t = scheme ++ 32 :: rest := by
  unfold authorizationScheme at h
  split at h
  · next hscheme =>
    obtain rfl := Option.some.inj h
    refine ⟨rfl, hscheme.2.1, hscheme.2.2, ?_⟩
    have hdrop : t.dropWhile (fun c => decide (c ≠ 32)) ≠ [] := fun hnil =>
      absurd (List.dropWhile_eq_nil_iff.mp hnil 32 hscheme.1) (by simp)
    obtain ⟨c, rest, hc⟩ := List.exists_cons_of_ne_nil hdrop
    have hhead : c = 32 := by
      have hnot := List.head_dropWhile_not (fun c => decide (c ≠ 32)) hdrop
      simp only [hc, List.head_cons] at hnot
      simpa using hnot
    have hparts : (t.takeWhile fun c => c ≠ 32) ++ (t.dropWhile fun c => c ≠ 32) = t :=
      List.takeWhile_append_dropWhile
    rw [hc, hhead] at hparts
    exact ⟨rest, hparts.symm⟩
  · cases h

lemma authorizationScheme_hiddenText {t : Text} :
    authorizationScheme u (hiddenText (authorizationScheme u t)) = authorizationScheme u t := by
  cases hscheme : authorizationScheme u t with
  | none => rfl
  | some scheme =>
    obtain ⟨htake, hne, halpha, -⟩ := authorizationScheme_eq_some hscheme
    have hword : ∀ c ∈ scheme, decide (c ≠ 32) = true := by
      intro c hc
      rw [htake] at hc
      have hall : ((t.takeWhile fun c => c ≠ 32).all fun c => c ≠ 32) = true :=
        List.all_takeWhile
      exact List.all_eq_true.mp hall c hc
    have htext : hiddenText (some scheme) = scheme ++ 32 :: redacted := rfl
    unfold authorizationScheme
    rw [htext, List.takeWhile_append_of_pos hword]
    simp [hne, halpha]

lemma hide_hide (u : Letters) (key : Key κ) (v : Value κ ο) :
    hide u key (hide u key v) = hide u key v := by
  rw [hide_eq u key v, hide_eq]
  cases hauth : isAuthKey u key with
  | true =>
    cases v with
    | str t => simp only [if_true, shownScheme, authorizationScheme_hiddenText]
    | object | dict | list | tuple => rfl
  | false => simp

/-! ## Non-interference -/

lemma redactAt_eq_of_agree (h : Agree u (fun key a b => isAuthKey u key = true →
    shownScheme u a = shownScheme u b) n v w) : redactAt u n v = redactAt u n w := by
  induction n generalizing v w with
  | zero =>
    rcases h with rfl | ⟨hv, hw⟩
    · rfl
    · rw [redactAt, redactAt, if_pos hv, if_pos hw]
  | succ n ih =>
    have hitems : ∀ {xs ys : List (Value κ ο)}, List.Forall₂ (Agree u (fun key a b =>
        isAuthKey u key = true → shownScheme u a = shownScheme u b) n) xs ys →
        xs.map (redactAt u n) = ys.map (redactAt u n) := by
      intro xs ys hall
      induction hall with
      | nil => rfl
      | cons hxy _ ihall => rw [List.map_cons, List.map_cons, ih hxy, ihall]
    cases v with
    | dict xs =>
      cases w with
      | dict ys =>
        unfold redactAt
        congr 1
        unfold Agree at h
        induction h with
        | nil => rfl
        | @cons x y _ _ hxy _ ihall =>
          obtain ⟨hkey, hhidden, hshown⟩ := hxy
          rw [List.map_cons, List.map_cons, ihall, ← hkey]
          cases hs : isSensitive u x.1 with
          | true =>
            have hscheme : (if isAuthKey u x.1 = true then shownScheme u x.2 else none) =
                if isAuthKey u x.1 = true then shownScheme u y.2 else none := by
              split
              · next hauth => exact hhidden hs hauth
              · rfl
            rw [if_pos rfl, if_pos rfl, hide_eq, hide_eq, hscheme]
          | false => rw [if_neg (by simp), if_neg (by simp), ih (hshown hs)]
      | str | object | list | tuple => cases h
    | list xs =>
      cases w with
      | list ys => exact congrArg Value.list (hitems h)
      | str | object | dict | tuple => cases h
    | tuple xs =>
      cases w with
      | tuple ys => exact congrArg Value.tuple (hitems h)
      | str | object | dict | list => cases h
    | str t =>
      obtain rfl : Value.str t = w := by
        cases w <;> exact h
      rfl
    | object o =>
      obtain rfl : Value.object o = w := by
        cases w <;> exact h
      rfl

lemma redactAt_idem (v : Value κ ο) : redactAt u n (redactAt u n v) = redactAt u n v := by
  induction n generalizing v with
  | zero => cases v <;> rfl
  | succ n ih =>
    cases v with
    | dict entries =>
      simp only [redactAt, List.map_map]
      congr 1
      refine List.map_congr_left fun x _ => ?_
      cases hs : isSensitive u x.1 with
      | true => simp [hs, hide_hide]
      | false => simp [hs, ih]
    | list items => simp only [redactAt, List.map_map, Function.comp_def, ih]
    | tuple items => simp only [redactAt, List.map_map, Function.comp_def, ih]
    | str t => rfl
    | object o => rfl

/-! ## What is kept -/

/-- The part at a position, unless it stands under a key that is not admitted. -/
def Value.child (admits : Key κ → Bool) : Value κ ο → ℕ → Option (Value κ ο)
  | .dict entries, i => (entries[i]?.filter fun x => admits x.1).map Prod.snd
  | .list items, i => items[i]?
  | .tuple items, i => items[i]?
  | _, _ => none

/-- The part of a value under a path of admitted keys. -/
def Value.reach (admits : Key κ → Bool) : Value κ ο → List ℕ → Option (Value κ ο)
  | v, [] => some v
  | v, i :: path => (v.child admits i).bind fun part => part.reach admits path

/-- The kind, the keys and the length of a container. -/
def Value.frame : Value κ ο → String × List (Key κ) × ℕ
  | .dict entries => ("dict", entries.map Prod.fst, entries.length)
  | .list items => ("list", [], items.length)
  | .tuple items => ("tuple", [], items.length)
  | _ => ("leaf", [], 0)

lemma child_redactAt (i : ℕ) : (redactAt u (n + 1) v).child (fun key => !isSensitive u key) i =
    (v.child (fun key => !isSensitive u key) i).map (redactAt u n) := by
  cases v with
  | dict entries =>
    simp only [redactAt, Value.child, List.getElem?_map]
    cases entries[i]? with
    | none => rfl
    | some x => cases hs : isSensitive u x.1 <;> simp [Option.filter, hs]
  | list items => simp [redactAt, Value.child]
  | tuple items => simp [redactAt, Value.child]
  | str | object => rfl

lemma reach_redactAt {path : List ℕ} (h : path.length ≤ n) :
    (redactAt u n v).reach (fun key => !isSensitive u key) path =
      (v.reach (fun key => !isSensitive u key) path).map (redactAt u (n - path.length)) := by
  induction path generalizing v n with
  | nil => rfl
  | cons i path ih =>
    cases n with
    | zero => cases h
    | succ n =>
      rw [Value.reach, Value.reach, child_redactAt, List.length_cons, Nat.add_sub_add_right]
      cases v.child (fun key => !isSensitive u key) i with
      | none => rfl
      | some part => exact ih (Nat.succ_le_succ_iff.mp h)

lemma redactAt_leaf (h : v.isContainer = false) : redactAt u n v = v := by
  cases n with
  | zero => simp [redactAt, h]
  | succ n => cases v <;> first | rfl | cases h

lemma frame_redactAt : (redactAt u (n + 1) v).frame = v.frame := by
  cases v <;> simp [redactAt, Value.frame, Function.comp_def]

lemma length_lt_of_reach {path : List ℕ} (h : (redactAt u n v).reach (fun _ => true) path = some w)
    (hw : w.isContainer = true) : path.length < n := by
  have hleaf : ∀ {a : Value κ ο} {path : List ℕ}, a.isContainer = false →
      a.reach (fun _ => true) path = some w → False := by
    intro a path ha hreach
    cases path with
    | nil =>
      cases hreach
      rw [ha] at hw
      cases hw
    | cons i path =>
      obtain ⟨part, hpart, -⟩ := Option.bind_eq_some_iff.mp hreach
      cases a with
      | str | object => cases hpart
      | dict | list | tuple => cases ha
  induction n generalizing v path with
  | zero =>
    refine (hleaf (a := redactAt u 0 v) ?_ h).elim
    cases v <;> rfl
  | succ n ih =>
    cases path with
    | nil => exact Nat.succ_pos n
    | cons i path =>
      have hpart : ∀ {part : Value κ ο}, part.reach (fun _ => true) path = some w →
          (∃ a, part = redactAt u n a) ∨ part.isContainer = false → path.length < n := by
        rintro part hpart (⟨a, rfl⟩ | hcontainer)
        · exact ih hpart
        · exact (hleaf hcontainer hpart).elim
      obtain ⟨part, hchild, hreach⟩ := Option.bind_eq_some_iff.mp h
      refine Nat.succ_lt_succ (hpart hreach ?_)
      cases v with
      | dict entries =>
        simp only [redactAt, Value.child, List.getElem?_map, Option.map_eq_some_iff,
          Option.filter_eq_some_iff] at hchild
        obtain ⟨_, ⟨⟨x, -, rfl⟩, -⟩, rfl⟩ := hchild
        dsimp only
        split
        · rw [hide_eq]
          exact .inr rfl
        · exact .inl ⟨x.2, rfl⟩
      | list items =>
        simp only [redactAt, Value.child, List.getElem?_map, Option.map_eq_some_iff] at hchild
        obtain ⟨a, -, rfl⟩ := hchild
        exact .inl ⟨a, rfl⟩
      | tuple items =>
        simp only [redactAt, Value.child, List.getElem?_map, Option.map_eq_some_iff] at hchild
        obtain ⟨a, -, rfl⟩ := hchild
        exact .inl ⟨a, rfl⟩
      | str | object => cases hchild

/-- What an output shows where another one differs: nothing, or a word of letters. -/
def ShowsScheme (u : Letters) (v : Value κ ο) : Prop :=
  v = .str redacted ∨ ∃ scheme : Text, scheme ≠ [] ∧ scheme.all u.isalpha = true ∧
    v = .str (scheme ++ text " [REDACTED]")

lemma showsScheme_hide : ShowsScheme u (hide u key v) := by
  rw [hide_eq]
  cases hscheme : (if isAuthKey u key then shownScheme u v else none) with
  | none => exact .inl rfl
  | some scheme =>
    split at hscheme
    · cases v with
      | str t =>
        obtain ⟨-, hne, halpha, -⟩ := authorizationScheme_eq_some hscheme
        exact .inr ⟨scheme, hne, halpha, rfl⟩
      | object | dict | list | tuple => cases hscheme
    · cases hscheme

lemma agree_redactAt (h : Agree u (fun _ _ _ => True) n v w) :
    Agree u (fun key a b => a = b ∨ isAuthKey u key = true ∧ ShowsScheme u a ∧ ShowsScheme u b) n
      (redactAt u n v) (redactAt u n w) := by
  induction n generalizing v w with
  | zero =>
    rcases h with rfl | ⟨hv, hw⟩
    · exact .inl rfl
    · exact .inl (by rw [redactAt, redactAt, if_pos hv, if_pos hw])
  | succ n ih =>
    have hitems : ∀ {xs ys : List (Value κ ο)}, List.Forall₂ (Agree u (fun _ _ _ => True) n) xs ys →
        List.Forall₂ (Agree u (fun key a b => a = b ∨ isAuthKey u key = true ∧ ShowsScheme u a ∧
          ShowsScheme u b) n) (xs.map (redactAt u n)) (ys.map (redactAt u n)) := fun hall =>
      List.forall₂_map_left_iff.mpr (List.forall₂_map_right_iff.mpr (hall.imp fun _ _ => ih))
    cases v with
    | dict xs =>
      cases w with
      | dict ys =>
        unfold Agree at h
        unfold redactAt Agree
        refine List.forall₂_map_left_iff.mpr (List.forall₂_map_right_iff.mpr (h.imp fun x y hxy => ?_))
        obtain ⟨hkey, -, hshown⟩ := hxy
        refine ⟨hkey, fun hs => ?_, fun hs => ?_⟩
        · dsimp only at hs ⊢
          rw [← hkey, if_pos hs, if_pos hs]
          cases hauth : isAuthKey u x.1 with
          | true => exact .inr ⟨rfl, showsScheme_hide, showsScheme_hide⟩
          | false => exact .inl (by simp [hide_eq, hauth])
        · dsimp only at hs ⊢
          rw [← hkey, hs, if_neg (by simp), if_neg (by simp)]
          exact ih (hshown hs)
      | str | object | list | tuple => cases h
    | list xs =>
      cases w with
      | list ys => exact hitems h
      | str | object | dict | tuple => cases h
    | tuple xs =>
      cases w with
      | tuple ys => exact hitems h
      | str | object | dict | list => cases h
    | str t =>
      obtain rfl : Value.str t = w := by
        cases w <;> exact h
      rfl
    | object o =>
      obtain rfl : Value.object o = w := by
        cases w <;> exact h
      rfl

/-- **What stands under sensitive keys does not interfere, but for the schemes of authorization
values.** -/
theorem redact_nonInterfering (u : Letters) :
    (∀ v w : Value κ ο, Agree u (fun _ _ _ => True) maxRedactionDepth v w →
      Agree u (fun key a b => a = b ∨ isAuthKey u key = true ∧ ShowsScheme u a ∧ ShowsScheme u b)
        maxRedactionDepth (redact u v) (redact u w)) ∧
    (∀ v w : Value κ ο, Agree u (fun key a b => isAuthKey u key = true →
      shownScheme u a = shownScheme u b) maxRedactionDepth v w → redact u v = redact u w) ∧
    (∀ (v : Value κ ο) (scheme : Text), shownScheme u v = some scheme → scheme ≠ [] ∧
      scheme.all u.isalpha = true ∧ ∃ rest, v = .str (scheme ++ 32 :: rest)) ∧
    (∀ v : Value κ ο, redact u (redact u v) = redact u v) ∧
    (∀ (v part : Value κ ο) (path : List ℕ),
      v.reach (fun key => !isSensitive u key) path = some part →
        (path.length < maxRedactionDepth → ∃ part', part'.frame = part.frame ∧
          (redact u v).reach (fun key => !isSensitive u key) path = some part') ∧
        (path.length ≤ maxRedactionDepth → part.isContainer = false →
          (redact u v).reach (fun key => !isSensitive u key) path = some part)) ∧
    ∀ (v part : Value κ ο) (path : List ℕ), (redact u v).reach (fun _ => true) path = some part →
      part.isContainer = true → path.length < maxRedactionDepth := by
  refine ⟨fun v w h => agree_redactAt h, fun v w h => redactAt_eq_of_agree h,
    fun v scheme h => ?_, fun v => redactAt_idem v, fun v part path h => ⟨fun hlt => ?_,
    fun hle hleaf => ?_⟩, fun v part path h hcontainer => length_lt_of_reach h hcontainer⟩
  · cases v with
    | str t =>
      obtain ⟨-, hne, halpha, rest, rfl⟩ := authorizationScheme_eq_some h
      exact ⟨hne, halpha, rest, rfl⟩
    | object | dict | list | tuple => cases h
  · obtain ⟨m, hm⟩ : ∃ m, maxRedactionDepth - path.length = m + 1 :=
      Nat.exists_eq_succ_of_ne_zero (Nat.sub_ne_zero_of_lt hlt)
    refine ⟨redactAt u (m + 1) part, frame_redactAt, ?_⟩
    rw [redact, reach_redactAt hlt.le, h, hm]
    rfl
  · rw [redact, reach_redactAt hle, h, Option.map_some, redactAt_leaf hleaf]

end SaasOs.Redaction
