import SaasOs.Schema.Tables
import SaasOs.Foundation.PyString
import SaasOs.Foundation.PyDatetime

/-!
# The stored error of an outbox event

`last_error` keeps the text of the latest failure, bounded, and at its end the deadline after which
an event with an ambiguous outcome must not be retried.  The deadline is written as a tag; a text
that is not such a tag but contains its marker reads as a deadline that has passed.
-/

namespace SaasOs

/-! ## Exceptions -/

/-- What the outbox reads of one exception object: its identity, the name of its type, its message
and which of the two classes it belongs to. -/
structure RaisedError where
  identity : ℕ
  typeName : String
  message : String
  permanent : Bool := false
  confirmedNotSent : Bool := false

/-- An exception, or a group of exceptions. -/
inductive PyException
  | single (raised : RaisedError)
  | group (raised : RaisedError) (members : List PyException)

namespace PyException

def raised : PyException → RaisedError
  | single raised => raised
  | group raised _ => raised

/-- The exception itself, or every member of the group that is no group, nested groups included. -/
def leaves : PyException → List RaisedError
  | single raised => [raised]
  | group _ members => members.flatMap leaves

end PyException

/-- Is the error a credible statement that nothing was sent?  Every leaf of it and every leaf of the
exception that left the consumer's block says so, and each leaf of the error is one of the
latter. -/
def isAttestedNotSent (error : PyException) (blockException : Option PyException) : Bool :=
  match blockException with
  | none => false
  | some block =>
    error.leaves.all RaisedError.confirmedNotSent &&
      block.leaves.all RaisedError.confirmedNotSent &&
      error.leaves.all fun leaf => (block.leaves.map RaisedError.identity).contains leaf.identity

/-- A failure, as an exception or as a text. -/
inductive Failure
  | text (text : String)
  | exception (error : PyException)

/-- An outcome that is not known, with at most one retry policy. -/
structure AmbiguousOutcome where
  reason : String
  phase : String
  /-- How long the destination recognises a repeated request, in microseconds. -/
  retryWithin : Option ℤ := none
  /-- The destination tolerates repeated requests. -/
  atLeastOnce : Bool := false
  one_policy : retryWithin.isSome = true → atLeastOnce = false := by decide
  retryWithin_pos : ∀ w ∈ retryWithin, 0 < w := by decide

/-! ## The text -/

def maxErrorLength : ℕ := 500

def tagMarker : String := "[idempotent-retry-until "

def neutralMarker : String := "(idempotent-retry-until "

def describeText (text : String) : String :=
  PyString.take maxErrorLength
    (PyString.replace tagMarker neutralMarker (PyString.replace "\x00" "\ufffd" text))

def describeError : Failure → String
  | .text text => describeText text
  | .exception error => describeText (error.raised.typeName ++ ": " ++ error.raised.message)

def outcomeUnknown (error : AmbiguousOutcome) (note : String) : String :=
  "OutcomeUnknown: " ++ PyString.take 120 error.reason ++ " (" ++ PyString.take 40 error.phase ++
    "); " ++ note

/-! ## The deadline -/

def deadlineTag (deadline : Instant) : String :=
  tagMarker ++ PyDatetime.isoformatSeconds deadline ++ "]"

def deadlineUnreadable : Instant := PyDatetime.min

/-- The text up to where `$` can match: before a newline at its very end. -/
def beforeFinalNewline (text : List Char) : List Char :=
  if text.getLast? = some '\n' then text.dropLast else text

def trailingTag? (text : String) : Option (ℕ × List Char) :=
  let body := beforeFinalNewline text.toList
  let start := body.length - (tagMarker.toList.length + 26)
  let tag := body.drop start
  let time := (tag.drop tagMarker.toList.length).take 25
  if tag = tagMarker.toList ++ time ++ [']'] ∧ PyDatetime.hasIsoShape time = true then
    some (start, time)
  else
    none

/-- The deadline a stored text carries: none without a marker, and one that has passed when the
marker is not the beginning of a tag at the end. -/
def retryDeadline (lastError : Option String) : Option Instant :=
  let text := lastError.getD ""
  match PyString.rfind tagMarker text with
  | none => none
  | some markerAt =>
    match trailingTag? text with
    | none => some deadlineUnreadable
    | some (start, time) =>
      if start = markerAt then some ((PyDatetime.fromIsoformat time).getD deadlineUnreadable)
      else some deadlineUnreadable

/-- The text as it is stored, ending with the tag if there is one; the text is shortened, never the
tag. -/
def withTag (text : String) : Option String → String
  | none => describeText text
  | some tag => PyString.take (maxErrorLength - tag.length - 1) (describeText text) ++ " " ++ tag

def recordError (lastError : Option String) (error : Failure) : String :=
  withTag (describeError error) ((retryDeadline lastError).map deadlineTag)

/-! ## Deadlines survive -/

lemma not_infix_describeText (text : String) :
    ¬ tagMarker.toList <:+: (describeText text).toList := by
  intro hinfix
  simp only [describeText, PyString.take, String.toList_ofList] at hinfix
  have hreplaced := hinfix.trans (List.take_prefix _ _).isInfix
  simp only [PyString.replace, String.toList_ofList] at hreplaced
  exact PyString.not_infix_replaceFrom (c := '[') (d := '(') (by decide) (by decide) 0 _ hreplaced

lemma retryDeadline_describeText (text : String) :
    retryDeadline (some (describeText text)) = none := by
  simp only [retryDeadline, Option.getD_some,
    PyString.rfind_eq_none.mpr (not_infix_describeText text)]

lemma bracket_not_mem_of_hasIsoShape {time : List Char} (h : PyDatetime.hasIsoShape time = true) :
    '[' ∉ time := by
  intro hmem
  simp only [PyDatetime.hasIsoShape, Bool.and_eq_true, beq_iff_eq, List.all_eq_true] at h
  obtain ⟨hlen, hall⟩ := h
  obtain ⟨i, hi, hget⟩ := List.getElem_of_mem hmem
  have hi' : i < "dddd-dd-ddTdd:dd:dd+00:00".toList.length := hi.trans_eq hlen
  have hzip : i < (time.zip "dddd-dd-ddTdd:dd:dd+00:00".toList).length := by
    rw [List.length_zip]
    exact lt_min hi hi'
  have hcolumn := hall _ (List.getElem_mem hzip)
  rw [List.getElem_zip, hget] at hcolumn
  dsimp only at hcolumn
  split at hcolumn
  · exact absurd hcolumn (by decide)
  · have hshape : '[' ∈ "dddd-dd-ddTdd:dd:dd+00:00".toList := by
      rw [beq_iff_eq] at hcolumn
      rw [hcolumn]
      exact List.getElem_mem hi'
    exact absurd hshape (by decide)

lemma rfind_tagMarker {body rest : List Char} {text : String}
    (htext : text.toList = body ++ (tagMarker.toList ++ rest)) (hrest : '[' ∉ rest) :
    PyString.rfind tagMarker text = some body.length := by
  have hdrop : text.toList.drop body.length = tagMarker.toList ++ rest := by
    rw [htext, List.drop_left]
  refine PyString.rfind_eq_some ?_ ?_ fun j hj hstart => ?_
  · rw [htext, List.length_append]
    exact Nat.le_add_right _ _
  · rw [hdrop]
    exact List.prefix_append _ _
  · -- what follows the first character of the tag has no opening bracket
    obtain ⟨k, rfl⟩ : ∃ k, j = body.length + (k + 1) := ⟨j - (body.length + 1), by omega⟩
    rw [← List.drop_drop, hdrop] at hstart
    have hbracket : '[' ∈ (tagMarker.toList ++ rest).drop (k + 1) := hstart.subset (by decide)
    have hmem := List.mem_of_mem_drop (show '[' ∈ (tagMarker.toList.tail ++ rest).drop k
      from hbracket)
    rcases List.mem_append.mp hmem with hmarker | hmem
    · exact absurd hmarker (by decide)
    · exact hrest hmem

section Tagged

variable {body time : List Char} {text : String}

lemma trailingTag?_eq
    (htext : beforeFinalNewline text.toList = body ++ (tagMarker.toList ++ time ++ [']']))
    (hshape : PyDatetime.hasIsoShape time = true) :
    trailingTag? text = some (body.length, time) := by
  have hlen : time.length = 25 := by
    simp only [PyDatetime.hasIsoShape, Bool.and_eq_true, beq_iff_eq] at hshape
    exact hshape.1
  have hstart : (body ++ (tagMarker.toList ++ time ++ [']'])).length -
      (tagMarker.toList.length + 26) = body.length := by
    simp only [List.length_append, List.length_cons, List.length_nil, hlen]
    omega
  have htake : ((tagMarker.toList ++ time ++ [']']).drop tagMarker.toList.length).take 25 =
      time := by
    rw [List.append_assoc, List.drop_left, ← hlen, List.take_left]
  simp only [trailingTag?, htext, hstart, List.drop_left, htake, hshape, and_self, if_true]

lemma retryDeadline_of_tag {ending : List Char}
    (htext : text.toList = body ++ (tagMarker.toList ++ (time ++ ']' :: ending)))
    (hending : ending = [] ∨ ending = ['\n']) (hshape : PyDatetime.hasIsoShape time = true) :
    retryDeadline (some text) =
      some ((PyDatetime.fromIsoformat time).getD deadlineUnreadable) := by
  have hrest : '[' ∉ time ++ ']' :: ending := by
    rw [List.mem_append, List.mem_cons]
    rintro (htime | hend | hending')
    · exact bracket_not_mem_of_hasIsoShape hshape htime
    · exact absurd hend (by decide)
    · rcases hending with rfl | rfl
      · exact absurd hending' (by decide)
      · exact absurd hending' (by decide)
  have hbody : beforeFinalNewline text.toList =
      body ++ (tagMarker.toList ++ time ++ [']']) := by
    rcases hending with rfl | rfl
    · unfold beforeFinalNewline
      rw [htext, ← List.append_assoc, ← List.append_assoc, List.getLast?_concat, if_neg (by decide)]
      simp only [List.append_assoc]
    · have hnewline : text.toList = body ++ (tagMarker.toList ++ time ++ [']']) ++ ['\n'] := by
        rw [htext]
        simp only [List.append_assoc, List.cons_append, List.nil_append]
      unfold beforeFinalNewline
      rw [hnewline, List.getLast?_concat, if_pos rfl, List.dropLast_concat]
  simp only [retryDeadline, Option.getD_some, rfind_tagMarker htext hrest,
    trailingTag?_eq hbody hshape, if_true]

end Tagged

lemma retryDeadline_withTag (text : String) {deadline : Instant} (hmin : PyDatetime.min ≤ deadline)
    (hmax : deadline ≤ PyDatetime.max) :
    retryDeadline (some (withTag text (some (deadlineTag deadline)))) =
      some (PyDatetime.truncated deadline) := by
  have htext : (withTag text (some (deadlineTag deadline))).toList =
      ((PyString.take (maxErrorLength - (deadlineTag deadline).length - 1)
        (describeText text)).toList ++ [' ']) ++ (tagMarker.toList ++
          ((PyDatetime.isoformatSeconds deadline).toList ++ ']' :: [])) := by
    simp [withTag, deadlineTag, String.toList_append]
  rw [retryDeadline_of_tag htext (.inl rfl) (PyDatetime.hasIsoShape_isoformatSeconds hmax),
    PyDatetime.fromIsoformat_isoformatSeconds hmin hmax, Option.getD_some]

lemma retryDeadline_recordError {lastError : Option String} {deadline : Instant}
    (h : retryDeadline lastError = some deadline) (hmin : PyDatetime.min ≤ deadline)
    (hmax : deadline ≤ PyDatetime.max) (hseconds : PyDatetime.truncated deadline = deadline)
    (error : Failure) : retryDeadline (some (recordError lastError error)) = some deadline := by
  unfold recordError
  rw [h, Option.map_some, retryDeadline_withTag _ hmin hmax, hseconds]

end SaasOs
