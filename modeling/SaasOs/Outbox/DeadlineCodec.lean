import SaasOs.Foundation.IsoText
import SaasOs.Outbox.LastError

/-!
# The codec of deadlines

A deadline is written behind a stored text as a tag in UTC, and read back from the end of the text.
No text of an error carries a deadline, since its markers are made harmless before it is stored.
Whatever contains a marker and does not end with a tag reads as a deadline that has passed, except
that a newline behind the tag is not seen, and a deadline can be written if it is in the range of
UTC (`codecSound_iff`).
-/

namespace SaasOs

/-! ## Aware datetimes -/

/-- An aware datetime: what its clock shows, and the offset of its clock. -/
structure AwareDatetime where
  wall : Instant
  offset : ℤ
  wall_range : PyDatetime.min ≤ wall ∧ wall ≤ PyDatetime.max := by decide
  offset_range : |offset| < 86400 * PyDatetime.second := by decide

/-- `astimezone(UTC)`; `none` is the `OverflowError`. -/
def AwareDatetime.utc (deadline : AwareDatetime) : Option Instant :=
  PyDatetime.add deadline.wall (-deadline.offset)

def AwareDatetime.instant (deadline : AwareDatetime) : Instant :=
  deadline.wall - deadline.offset

variable {utc : Instant}

lemma AwareDatetime.utc_eq_some {deadline : AwareDatetime} :
    deadline.utc = some utc ↔
      utc = deadline.instant ∧ PyDatetime.min ≤ utc ∧ utc ≤ PyDatetime.max := by
  unfold AwareDatetime.utc AwareDatetime.instant PyDatetime.add
  rw [← sub_eq_add_neg]
  split
  case isTrue h =>
    rw [Option.some_inj]
    constructor
    · rintro rfl
      exact ⟨rfl, h⟩
    · rintro ⟨rfl, -⟩
      rfl
  case isFalse h =>
    refine iff_of_false (fun hnone => by cases hnone) ?_
    rintro ⟨rfl, hrange⟩
    exact h hrange

/-! ## Tags -/

/-- An instant in the range of `datetime`. -/
def InRange (instant : Instant) : Prop :=
  PyDatetime.min ≤ instant ∧ instant ≤ PyDatetime.max

instance (instant : Instant) : Decidable (InRange instant) :=
  inferInstanceAs (Decidable (_ ∧ _))

def EndsWithTag (text : String) : Prop :=
  ∃ body utc, InRange utc ∧ text = body ++ deadlineTag utc

/-- The text has a newline behind its tag. -/
def HidesNewline (text : String) : Prop :=
  ∃ body utc, InRange utc ∧ PyDatetime.truncated utc ≠ deadlineUnreadable ∧
    text = body ++ deadlineTag utc ++ "\n"

lemma toList_deadlineTag (utc : Instant) :
    (deadlineTag utc).toList =
      tagMarker.toList ++ ((PyDatetime.isoformatSeconds utc).toList ++ [']']) := by
  simp [deadlineTag, String.toList_append]

lemma length_deadlineTag (hmax : utc ≤ PyDatetime.max) :
    (deadlineTag utc).length = 50 := by
  have hshape := PyDatetime.hasIsoShape_isoformatSeconds hmax
  simp only [PyDatetime.hasIsoShape, Bool.and_eq_true, beq_iff_eq] at hshape
  rw [← String.length_toList, toList_deadlineTag, List.length_append, List.length_append, hshape.1]
  rfl

lemma length_withTag_le (text : String) (hmax : utc ≤ PyDatetime.max) :
    (withTag text (some (deadlineTag utc))).length ≤ maxErrorLength := by
  have htag := length_deadlineTag hmax
  have htake : (PyString.take (maxErrorLength - (deadlineTag utc).length - 1)
      (describeText text)).length ≤ maxErrorLength - (deadlineTag utc).length - 1 := by
    rw [PyString.take, String.length_ofList]
    exact List.length_take_le _ _
  have hspace : " ".length = 1 := rfl
  unfold withTag
  rw [String.length_append, String.length_append]
  unfold maxErrorLength at *
  omega

variable {text : String}

lemma HidesNewline.not_endsWithTag (h : HidesNewline text) : ¬ EndsWithTag text := by
  obtain ⟨body, utc, -, -, rfl⟩ := h
  rintro ⟨body', utc', -, heq⟩
  have hlast := congrArg (fun s => s.toList.getLast?) heq
  simp [String.toList_append, toList_deadlineTag, List.getLast?_append] at hlast

lemma HidesNewline.retryDeadline_ne (h : HidesNewline text) :
    tagMarker.toList <:+: text.toList ∧ retryDeadline (some text) ≠ some deadlineUnreadable := by
  obtain ⟨body, utc, ⟨hmin, hmax⟩, hne, rfl⟩ := h
  have htext : (body ++ deadlineTag utc ++ "\n").toList = body.toList ++ (tagMarker.toList ++
      ((PyDatetime.isoformatSeconds utc).toList ++ ']' :: ['\n'])) := by
    simp [String.toList_append, toList_deadlineTag]
  constructor
  · rw [htext, ← List.append_assoc]
    exact List.infix_append _ _ _
  · rw [retryDeadline_of_tag htext (.inr rfl) (PyDatetime.hasIsoShape_isoformatSeconds hmax),
      PyDatetime.fromIsoformat_isoformatSeconds hmin hmax, Option.getD_some]
    exact fun heq => hne (Option.some.inj heq)

lemma exists_beforeFinalNewline_append (text : List Char) :
    ∃ ending, (ending = [] ∨ ending = ['\n']) ∧ text = beforeFinalNewline text ++ ending := by
  unfold beforeFinalNewline
  split
  case isTrue hnewline =>
    exact ⟨['\n'], .inr rfl, (List.dropLast_append_getLast? _ hnewline).symm⟩
  case isFalse => exact ⟨[], .inl rfl, (List.append_nil text).symm⟩

lemma eq_of_trailingTag? {start : ℕ} {time : List Char}
    (h : trailingTag? text = some (start, time)) :
    PyDatetime.hasIsoShape time = true ∧ ∃ body ending, (ending = [] ∨ ending = ['\n']) ∧
      text.toList = body ++ (tagMarker.toList ++ (time ++ ']' :: ending)) := by
  obtain ⟨ending, hending, htext⟩ := exists_beforeFinalNewline_append text.toList
  unfold trailingTag? at h
  dsimp only at h
  split at h
  case isFalse => cases h
  case isTrue htag =>
    cases h
    obtain ⟨htag, hshape⟩ := htag
    refine ⟨hshape, (beforeFinalNewline text.toList).take
      ((beforeFinalNewline text.toList).length - (tagMarker.toList.length + 26)), ending, hending,
      ?_⟩
    have hbefore := (List.take_append_drop ((beforeFinalNewline text.toList).length -
      (tagMarker.toList.length + 26)) (beforeFinalNewline text.toList)).symm
    have hparts := congrArg (List.take ((beforeFinalNewline text.toList).length -
      (tagMarker.toList.length + 26)) (beforeFinalNewline text.toList) ++ ·) htag
    refine (htext.trans (congrArg (· ++ ending) (hbefore.trans hparts))).trans ?_
    simp only [List.append_assoc, List.cons_append, List.nil_append]

lemma retryDeadline_eq_unreadable (hmarker : tagMarker.toList <:+: text.toList)
    (hend : ¬ EndsWithTag text) (hnewline : ¬ HidesNewline text) :
    retryDeadline (some text) = some deadlineUnreadable := by
  unfold retryDeadline
  dsimp only [Option.getD_some]
  cases hfind : PyString.rfind tagMarker text with
  | none => exact absurd hmarker (PyString.rfind_eq_none.mp hfind)
  | some markerAt =>
    dsimp only
    cases htag : trailingTag? text with
    | none => rfl
    | some found =>
      obtain ⟨start, time⟩ := found
      dsimp only
      split
      case isFalse => rfl
      case isTrue =>
        obtain ⟨hshape, body, ending, hending, htext⟩ := eq_of_trailingTag? htag
        cases hparse : PyDatetime.fromIsoformat time with
        | none => rfl
        | some utc =>
          obtain ⟨htime, hmin, hmax, htruncated⟩ :=
            PyDatetime.isoformatSeconds_of_fromIsoformat hshape hparse
          rcases hending with rfl | rfl
          · refine absurd ⟨String.ofList body, utc, ⟨hmin, hmax⟩, String.toList_inj.mp ?_⟩ hend
            rw [htext, String.toList_append, toList_deadlineTag, htime, String.toList_ofList]
          · have hhides : PyDatetime.truncated utc ≠ deadlineUnreadable → HidesNewline text := by
              refine fun hne => ⟨String.ofList body, utc, ⟨hmin, hmax⟩, hne,
                String.toList_inj.mp ?_⟩
              rw [htext, String.toList_append, String.toList_append, toList_deadlineTag, htime,
                String.toList_ofList]
              simp
            have hfirst : utc = deadlineUnreadable := by
              by_contra hne
              exact hnewline (hhides (htruncated.symm ▸ hne))
            rw [Option.getD_some, hfirst]

/-! ## Soundness -/

/-- What the codec promises of a text and a deadline that are stored, of an error that is described,
and of a text that is read. -/
structure CodecSound (text : String) (deadline : AwareDatetime) (error : Failure)
    (lastError : String) : Prop where
  /-- The deadline is read back, cut down to the second, from a text that is not too long and ends
  with its tag. -/
  stored : ∃ utc, deadline.utc = some utc ∧
    let tagged := withTag text (some (deadlineTag utc))
    retryDeadline (some tagged) = some (PyDatetime.truncated deadline.instant) ∧
      tagged.length ≤ maxErrorLength ∧ ∃ body, tagged = body ++ deadlineTag utc
  described : retryDeadline (some (describeError error)) = none
  unreadable : tagMarker.toList <:+: lastError.toList → ¬ EndsWithTag lastError →
    retryDeadline (some lastError) = some deadlineUnreadable

lemma retryDeadline_describeError (error : Failure) :
    retryDeadline (some (describeError error)) = none := by
  cases error with
  | text text => exact retryDeadline_describeText text
  | exception error => exact retryDeadline_describeText _

/-- The codec keeps its promises exactly if the deadline is in the range of UTC, and the text that is
read does not hide a newline behind a tag. -/
theorem codecSound_iff (text : String) (deadline : AwareDatetime) (error : Failure)
    (lastError : String) :
    CodecSound text deadline error lastError ↔
      InRange deadline.instant ∧ ¬ HidesNewline lastError := by
  constructor
  · intro h
    obtain ⟨utc, hutc, -⟩ := h.stored
    obtain ⟨rfl, hrange⟩ := AwareDatetime.utc_eq_some.mp hutc
    refine ⟨hrange, fun hhides => ?_⟩
    obtain ⟨hmarker, hne⟩ := hhides.retryDeadline_ne
    exact hne (h.unreadable hmarker hhides.not_endsWithTag)
  · rintro ⟨hrange, hhides⟩
    refine ⟨⟨deadline.instant, AwareDatetime.utc_eq_some.mpr ⟨rfl, hrange⟩, ?_, ?_, ?_⟩,
      retryDeadline_describeError error, fun hmarker hend =>
        retryDeadline_eq_unreadable hmarker hend hhides⟩
    · exact retryDeadline_withTag text hrange.1 hrange.2
    · exact length_withTag_le text hrange.2
    · exact ⟨_, rfl⟩

def newYear : Instant := 63902822400000000

def newlineText : String :=
  "sent [idempotent-retry-until 2026-01-01T00:00:00+00:00]\n"

/-- It reads as the deadline of the tag. -/
theorem newlineText_not_codecSound :
    retryDeadline (some newlineText) = some newYear ∧
      ∀ text deadline error, ¬ CodecSound text deadline error newlineText := by
  have hread : retryDeadline (some newlineText) = some newYear := by decide +kernel
  have hhides : HidesNewline newlineText :=
    ⟨"sent ", newYear, by decide, by decide, by decide +kernel⟩
  refine ⟨hread, fun text deadline error h => ?_⟩
  have hunreadable := h.unreadable hhides.retryDeadline_ne.1 hhides.not_endsWithTag
  rw [hread] at hunreadable
  revert hunreadable
  decide

end SaasOs
