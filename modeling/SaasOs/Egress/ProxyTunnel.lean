import SaasOs.Foundation.Exceptions
import SaasOs.Foundation.PyBytes

/-!
# The tunnel through the egress proxy

A connection through the egress proxy is a tunnel: the backend connects to the proxy, sends `CONNECT`
with the address, and reads the answer up to the blank line behind its headers.  A refusal, which is
the status 403, is reported as such, and anything else that keeps the tunnel from being established
as an unavailable proxy.
-/

namespace SaasOs.ProxyTunnel

abbrev Bytes := List UInt8

def maxConnectResponseBytes : ℕ := 8192

def crlf : Bytes := [13, 10]

def blankLine : Bytes := [13, 10, 13, 10]

/-- `HTTP/1.` -/
def httpVersion : Bytes := [72, 84, 84, 80, 47, 49, 46]

/-- The status of the first line, or the message of a `ValueError`. -/
def connectStatus (head : Bytes) : Except String ℕ :=
  let firstLine := ((PyBytes.partition crlf head).map Prod.fst).getD head
  match firstLine.splitOn 32 with
  | version :: status :: _ =>
    if httpVersion.isPrefixOf version && PyBytes.isDigit status then
      match PyBytes.int status with
      | some status => .ok status
      | none => .error "Exceeds the limit (4300 digits) for integer string conversion"
    else .error "not an HTTP answer"
  | _ => .error "not an HTTP answer"

/-- The status is `2xx`. -/
def isEstablished (status : ℕ) : Bool :=
  decide (200 ≤ status) && decide (status ≤ 299)

/-- The reads of a stream, in their order; an empty one is the end of the stream, and `none` a network
error or a timeout. -/
abbrev Reads := ℕ → Option Bytes

/-- Read until the blank line; `n` reads were made, which gave `received`. -/
def readHead (reads : Reads) (n : ℕ) (received : Bytes) : Except String (Bytes × Bytes) :=
  match PyBytes.partition blankLine received with
  | some parts => .ok parts
  | none =>
    match reads n with
    | none => .error "network error"
    | some chunk =>
      if chunk = [] then .error "connection closed"
      else if maxConnectResponseBytes < (received ++ chunk).length then .error "answer too long"
      else readHead reads (n + 1) (received ++ chunk)
termination_by maxConnectResponseBytes + 1 - received.length
decreasing_by
  have hpos : 0 < chunk.length := List.length_pos_iff.mpr ‹_›
  rw [List.length_append] at *
  omega

def readConnectStatus (reads : Reads) : Except String ℕ := do
  let (head, rest) ← readHead reads 0 []
  let status ← connectStatus head
  if isEstablished status && !rest.isEmpty then .error "data after the answer"
  else .ok status

inductive ConnectOutcome
  | stream
  | refused
  | unavailable

/-- `connect_tcp` to a valid address: whether the proxy accepts the connection and the request can be
written, and the reads of its answer. -/
def connectTcp (connected written : Bool) (reads : Reads) : ConnectOutcome :=
  if !connected then .unavailable
  else if !written then .unavailable
  else
    match readConnectStatus reads with
    | .error _ => .unavailable
    | .ok status =>
      if isEstablished status then .stream
      else if status = 403 then .refused
      else .unavailable

/-! ## Streams -/

/-- What the first `n` reads have given. -/
def received (reads : Reads) (n : ℕ) : Bytes :=
  (List.range n).flatMap fun i => (reads i).getD []

@[simp] lemma received_zero (reads : Reads) : received reads 0 = [] := rfl

variable {n : ℕ} {chunk : Bytes}

lemma received_succ {reads : Reads} (h : reads n = some chunk) :
    received reads (n + 1) = received reads n ++ chunk := by
  simp [received, List.range_succ, h]

variable {m : ℕ}

lemma isPrefix_received (reads : Reads) (h : m ≤ n) :
    received reads m <+: received reads n := by
  obtain ⟨k, rfl⟩ := Nat.exists_eq_add_of_le h
  unfold received
  rw [List.range_add, List.flatMap_append]
  exact List.prefix_append _ _

/-- Each of the first `n` reads gives something, and no blank line has been received before them. -/
def IsOpen (reads : Reads) (n : ℕ) : Prop :=
  ∀ i < n, (∃ chunk, reads i = some chunk ∧ chunk ≠ []) ∧
    PyBytes.partition blankLine (received reads i) = none

/-- The `n`-th read completes the headers, and the beginning of what follows them. -/
structure Completes (reads : Reads) (n : ℕ) (head rest : Bytes) : Prop where
  isOpen : IsOpen reads n
  parts : PyBytes.partition blankLine (received reads n) = some (head, rest)

variable {reads : Reads} {head rest : Bytes}

lemma IsOpen.succ (h : IsOpen reads n) (hread : reads n = some chunk) (hchunk : chunk ≠ [])
    (hnone : PyBytes.partition blankLine (received reads n) = none) :
    IsOpen reads (n + 1) := by
  intro i hi
  rcases Nat.lt_succ_iff_lt_or_eq.mp hi with hlt | rfl
  · exact h i hlt
  · exact ⟨⟨chunk, hread, hchunk⟩, hnone⟩

lemma Completes.unique {head' rest' : Bytes} (h : Completes reads n head rest)
    (h' : Completes reads m head' rest') : m = n ∧ head' = head ∧ rest' = rest := by
  have hlt : ∀ {i j : ℕ} {a b c d : Bytes}, Completes reads i a b → Completes reads j c d →
      ¬ i < j := by
    intro i j a b c d hi hj hij
    have hnone := (hj.isOpen i hij).2
    rw [hi.parts] at hnone
    cases hnone
  obtain rfl := Nat.le_antisymm (not_lt.mp (hlt h h')) (not_lt.mp (hlt h' h))
  have hparts := h'.parts
  rw [h.parts] at hparts
  cases hparts
  exact ⟨rfl, rfl, rfl⟩

lemma readHead_eq_ok (hopen : IsOpen reads n)
    (hlength : (received reads n).length ≤ maxConnectResponseBytes) :
    readHead reads n (received reads n) = .ok (head, rest) ↔
      ∃ m, n ≤ m ∧ Completes reads m head rest ∧
        (received reads m).length ≤ maxConnectResponseBytes := by
  generalize hleft : maxConnectResponseBytes - (received reads n).length = left
  induction left using Nat.strong_induction_on generalizing n with
  | _ left ih =>
    unfold readHead
    cases hparts : PyBytes.partition blankLine (received reads n) with
    | some parts =>
      dsimp only
      constructor
      · intro h
        cases h
        exact ⟨n, le_rfl, ⟨hopen, hparts⟩, hlength⟩
      · rintro ⟨m, -, hcompletes, -⟩
        obtain ⟨-, rfl, rfl⟩ := Completes.unique ⟨hopen, hparts⟩ hcompletes
        rfl
    | none =>
      -- the headers are completed by a later read
      have hlater : ∀ m, n ≤ m → Completes reads m head rest → n < m := by
        intro m hnm hcompletes
        refine lt_of_le_of_ne hnm fun heq => ?_
        rw [heq, hcompletes.parts] at hparts
        cases hparts
      dsimp only
      cases hread : reads n with
      | none =>
        dsimp only
        refine iff_of_false (fun h => by cases h) ?_
        rintro ⟨m, hnm, hcompletes, -⟩
        obtain ⟨⟨chunk, hchunk, -⟩, -⟩ := hcompletes.isOpen n (hlater m hnm hcompletes)
        rw [hread] at hchunk
        cases hchunk
      | some chunk =>
        dsimp only
        rw [← received_succ hread]
        split
        case isTrue hempty =>
          refine iff_of_false (fun h => by cases h) ?_
          rintro ⟨m, hnm, hcompletes, -⟩
          obtain ⟨⟨chunk', hchunk', hne⟩, -⟩ := hcompletes.isOpen n (hlater m hnm hcompletes)
          rw [hread] at hchunk'
          cases hchunk'
          exact hne hempty
        case isFalse hchunk =>
          split
          case isTrue hlong =>
            refine iff_of_false (fun h => by cases h) ?_
            rintro ⟨m, hnm, hcompletes, hshort⟩
            have hlt : n + 1 ≤ m := hlater m hnm hcompletes
            have hle := (isPrefix_received reads hlt).length_le
            omega
          case isFalse hshort =>
            have hgrows : (received reads n).length < (received reads (n + 1)).length := by
              rw [received_succ hread, List.length_append]
              have := List.length_pos_iff.mpr hchunk
              omega
            rw [ih _ (by omega) (hopen.succ hread hchunk hparts) (not_lt.mp hshort) rfl]
            constructor
            · rintro ⟨m, hnm, h⟩
              exact ⟨m, by omega, h⟩
            · rintro ⟨m, hnm, hcompletes, h⟩
              exact ⟨m, hlater m hnm hcompletes, hcompletes, h⟩

variable {status : ℕ}

lemma readConnectStatus_eq_ok :
    readConnectStatus reads = .ok status ↔ ∃ n head rest, Completes reads n head rest ∧
      (received reads n).length ≤ maxConnectResponseBytes ∧ connectStatus head = .ok status ∧
      (isEstablished status = true → rest = []) := by
  have hhead : ∀ head rest, readHead reads 0 [] = .ok (head, rest) ↔ ∃ n, 0 ≤ n ∧
      Completes reads n head rest ∧ (received reads n).length ≤ maxConnectResponseBytes :=
    fun head rest => readHead_eq_ok (fun i hi => absurd hi (Nat.not_lt_zero i)) (Nat.zero_le _)
  unfold readConnectStatus
  constructor
  · intro h
    obtain ⟨⟨head, rest⟩, hread, h⟩ := bind_eq_ok.mp h
    obtain ⟨parsed, hstatus, h⟩ := bind_eq_ok.mp h
    obtain ⟨n, -, hcompletes, hlength⟩ := (hhead head rest).mp hread
    split at h
    · cases h
    · next hdata =>
      cases h
      refine ⟨n, head, rest, hcompletes, hlength, hstatus, fun hestablished => ?_⟩
      rw [hestablished, Bool.true_and, Bool.not_eq_true', Bool.not_eq_false,
        List.isEmpty_iff] at hdata
      exact hdata
  · rintro ⟨n, head, rest, hcompletes, hlength, hstatus, hdata⟩
    refine bind_eq_ok.mpr ⟨(head, rest), (hhead head rest).mpr
      ⟨n, Nat.zero_le n, hcompletes, hlength⟩, bind_eq_ok.mpr ⟨status, hstatus, ?_⟩⟩
    rw [if_neg]
    intro hboth
    rw [Bool.and_eq_true] at hboth
    rw [hdata hboth.1] at hboth
    exact Bool.noConfusion hboth.2

lemma exists_error_iff {α : Type} {answer : Except String α} :
    (∃ message, answer = .error message) ↔ ∀ value, answer ≠ .ok value := by
  cases answer with
  | error message => simp
  | ok value => simp

/-! ## Independence of the split -/

/-- The answer fits into the buffer with the blank line that ends it. -/
def IsShort (head : Bytes) : Prop :=
  (head ++ blankLine).length ≤ maxConnectResponseBytes

instance (head : Bytes) : Decidable (IsShort head) :=
  inferInstanceAs (Decidable (_ ≤ _))

/-- The answer is read alike, however it is split: a status other than `2xx` is returned, and `403` is
a refusal; a `2xx` is returned if nothing follows; and without headers within the limit something is
raised. -/
structure ReadsAlike (reads : Reads) : Prop where
  rejected : ∀ n head rest status, Completes reads n head rest → IsShort head →
    connectStatus head = .ok status → isEstablished status = false →
    readConnectStatus reads = .ok status ∧
      (status = 403 → connectTcp true true reads = .refused)
  established : ∀ n head rest status, Completes reads n head rest → IsShort head →
    connectStatus head = .ok status → isEstablished status = true →
    if rest = [] then readConnectStatus reads = .ok status
    else ∃ message, readConnectStatus reads = .error message
  incomplete : (∀ n head rest, Completes reads n head rest → ¬ IsShort head) →
    ∃ message, readConnectStatus reads = .error message

lemma Completes.received_eq (h : Completes reads n head rest) :
    received reads n = head ++ blankLine ++ rest :=
  PyBytes.partition_eq_some h.parts

lemma Completes.connectStatus_eq (h : Completes reads n head rest)
    (hstatus : readConnectStatus reads = .ok status) :
    (received reads n).length ≤ maxConnectResponseBytes ∧ connectStatus head = .ok status ∧
      (isEstablished status = true → rest = []) := by
  obtain ⟨m, head', rest', h', hread⟩ := readConnectStatus_eq_ok.mp hstatus
  obtain ⟨rfl, rfl, rfl⟩ := h.unique h'
  exact hread

/-- The answer is read alike exactly if no read that completes the headers of a refusal goes beyond
the limit. -/
theorem readsAlike_iff :
    ReadsAlike reads ↔ ∀ n head rest status, Completes reads n head rest → IsShort head →
      connectStatus head = .ok status → isEstablished status = false →
      (received reads n).length ≤ maxConnectResponseBytes := by
  constructor
  · intro h n head rest status hcompletes hshort hstatus hrejected
    exact (hcompletes.connectStatus_eq
      (h.rejected n head rest status hcompletes hshort hstatus hrejected).1).1
  · intro h
    constructor
    · intro n head rest status hcompletes hshort hstatus hrejected
      have hreturned : readConnectStatus reads = .ok status :=
        readConnectStatus_eq_ok.mpr ⟨n, head, rest, hcompletes,
          h n head rest status hcompletes hshort hstatus hrejected, hstatus,
          fun hestablished => absurd hestablished (Bool.eq_false_iff.mp hrejected)⟩
      refine ⟨hreturned, ?_⟩
      rintro rfl
      unfold connectTcp
      rw [hreturned]
      rfl
    · intro n head rest status hcompletes hshort hstatus hestablished
      split
      case isTrue hrest =>
        refine readConnectStatus_eq_ok.mpr ⟨n, head, rest, hcompletes, ?_, hstatus, fun _ => hrest⟩
        rw [hcompletes.received_eq, hrest, List.append_nil]
        exact hshort
      case isFalse hrest =>
        refine exists_error_iff.mpr fun status' hreturned => ?_
        obtain ⟨-, hstatus', hdata⟩ := hcompletes.connectStatus_eq hreturned
        rw [hstatus] at hstatus'
        cases hstatus'
        exact hrest (hdata hestablished)
    · intro hincomplete
      refine exists_error_iff.mpr fun status hreturned => ?_
      obtain ⟨n, head, rest, hcompletes, hlength, -⟩ := readConnectStatus_eq_ok.mp hreturned
      refine hincomplete n head rest hcompletes ?_
      rw [hcompletes.received_eq, List.length_append] at hlength
      unfold IsShort
      omega

/-- `HTTP/1.1 403 No` -/
def refusalLine : Bytes :=
  [72, 84, 84, 80, 47, 49, 46, 49, 32, 52, 48, 51, 32, 78, 111]

def refusalBody : Bytes :=
  List.replicate 8190 120

lemma length_refusalBody : refusalBody.length = 8190 :=
  List.length_replicate

def splitRefusal : Reads
  | 0 => some (refusalLine ++ crlf)
  | 1 => some (crlf ++ refusalBody)
  | _ => some []

lemma partition_refusal (body : Bytes) :
    PyBytes.partition blankLine (refusalLine ++ crlf ++ (crlf ++ body)) =
      some (refusalLine, body) :=
  rfl

lemma splitRefusal_completes : Completes splitRefusal 2 refusalLine refusalBody := by
  constructor
  · intro i hi
    interval_cases i
    · exact ⟨⟨refusalLine ++ crlf, rfl, by decide⟩, rfl⟩
    · exact ⟨⟨crlf ++ refusalBody, rfl, List.cons_ne_nil _ _⟩, rfl⟩
  · have hfirst : splitRefusal 0 = some (refusalLine ++ crlf) := rfl
    have hsecond : splitRefusal 1 = some (crlf ++ refusalBody) := rfl
    rw [received_succ hsecond, received_succ hfirst, received_zero, List.nil_append,
      partition_refusal]

/-- The refusal is reported as an unavailable proxy, although its headers are short and no read is
longer than the limit. -/
theorem splitRefusal_not_readsAlike :
    (∀ i chunk, splitRefusal i = some chunk → chunk.length ≤ maxConnectResponseBytes) ∧
      connectStatus refusalLine = .ok 403 ∧ connectTcp true true splitRefusal = .unavailable ∧
      ¬ ReadsAlike splitRefusal := by
  have hlong : ¬ (received splitRefusal 2).length ≤ maxConnectResponseBytes := by
    rw [splitRefusal_completes.received_eq, List.length_append, length_refusalBody]
    decide
  have hraised : ∃ message, readConnectStatus splitRefusal = .error message :=
    exists_error_iff.mpr fun status hstatus =>
      hlong (splitRefusal_completes.connectStatus_eq hstatus).1
  refine ⟨?_, by decide +kernel, ?_, fun h => ?_⟩
  · intro i chunk hread
    match i with
    | 0 =>
      cases hread
      decide
    | 1 =>
      cases hread
      rw [List.length_append, length_refusalBody]
      decide
    | i + 2 =>
      cases hread
      exact Nat.zero_le _
  · obtain ⟨message, hmessage⟩ := hraised
    unfold connectTcp
    rw [hmessage]
    rfl
  · obtain ⟨message, hmessage⟩ := hraised
    have hreturned := (h.rejected 2 refusalLine refusalBody 403 splitRefusal_completes (by decide)
      (by decide +kernel) rfl).1
    rw [hmessage] at hreturned
    cases hreturned

end SaasOs.ProxyTunnel
