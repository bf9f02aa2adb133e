import SaasOs.AuditDigest.Records
import SaasOs.Foundation.Run
import Mathlib.Data.List.Chain

/-!
# Digesting settled windows

A run of the job reads the clock and the last stored record, and the oldest row if nothing is
stored; it reads the rows of the settled windows that follow, and logs and stores one record after
the other.  A record that cannot be stored, because its window is stored already, ends the run.
Runs may overlap and crash, and transactions insert audit rows with their own start time at any
later moment.
-/

namespace SaasOs

/-! ## Runs -/

/-- A row of `core.audit_digests`, and the settle time of the run that stored it. -/
structure StoredDigest where
  windowStart : Instant
  windowEnd : Instant
  digest : String
  record : DigestRecord
  settle : ℤ

def StoredDigest.ofWindow (sha256 : String → String) (window : WindowDigest)
    (previous : Option String) (settle : ℤ) : StoredDigest :=
  let record := buildRecord sha256 window previous
  ⟨window.windowStart, window.windowEnd, record.digest sha256, record, settle⟩

inductive DigestPhase
  /-- Nothing was stored when the clock was read. -/
  | unstarted (clock : Instant)
  /-- The settled windows are known, and the digest of the record before them. -/
  | planned (starts : List Instant) (previous : Option String)
  /-- The windows that are not stored yet; the first one is logged next. -/
  | logging (windows : List WindowDigest) (previous : Option String)
  /-- The record of the first window is logged, and stored next. -/
  | storing (windows : List WindowDigest) (previous : Option String)
  | ended

structure DigestRun where
  config : AuditDigestConfig
  phase : DigestPhase

/-- The clock, the audit tables, the start times of open transactions, the stored records in the
order of their insertion, the logged records, and the runs. -/
structure DigestState where
  clock : Instant
  tables : AuditTables
  transactions : ℕ → Option Instant
  stored : List StoredDigest
  log : List (DigestRecord × String)
  runs : ℕ → Option DigestRun

inductive DigestAction
  | readEarliest
  | readRows
  | logRecord
  | store
  | crash

/-- A step: time passes, a transaction begins, or commits new tenants and audit rows, a run begins
with its tunables, or a run takes its next action. -/
inductive DigestStep
  | tick (microseconds : ℕ)
  | begin (transaction : ℕ)
  | commit (transaction : ℕ) (tenants : List Uuid) (auditLog : List AuditLogRow)
      (platformAuditLog : List PlatformAuditLogRow)
  | start (n : ℕ) (config : AuditDigestConfig)
  | act (n : ℕ) (action : DigestAction)

namespace AuditTables

def insert (tables : AuditTables) (now : Instant) (tenants : List Uuid)
    (auditLog : List AuditLogRow) (platformAuditLog : List PlatformAuditLogRow) : AuditTables where
  tenants := tables.tenants ++ tenants
  auditLog := tables.auditLog ++ auditLog.map fun row => { row with createdAt := now }
  platformAuditLog := tables.platformAuditLog ++
    platformAuditLog.map fun row => { row with createdAt := now }

end AuditTables

/-! ## Steps -/

namespace DigestState

def ordered (state : DigestState) : List StoredDigest :=
  state.stored.insertionSort fun a b => a.windowStart ≤ b.windowStart

def setPhase (state : DigestState) (n : ℕ) (run : DigestRun) (phase : DigestPhase) : DigestState :=
  { state with runs := Function.update state.runs n (some { run with phase := phase }) }

def plan (config : AuditDigestConfig) (clock start : Instant) : List Instant :=
  settledStarts clock config.window config.settle config.maxWindowsPerRun start

/-- A run begins: it reads the clock and the last stored record, which it logs once more if windows
have settled since. -/
def cursor (state : DigestState) (n : ℕ) (config : AuditDigestConfig) : DigestState :=
  match state.ordered.getLast? with
  | none => state.setPhase n ⟨config, .ended⟩ (.unstarted state.clock)
  | some last =>
    let starts := plan config state.clock last.windowEnd
    { state with
      log := if starts = [] then state.log else state.log ++ [(last.record, last.digest)] }.setPhase
        n ⟨config, .ended⟩ (.planned starts (some last.digest))

def logRecord (sha256 : String → String) (state : DigestState) (n : ℕ) (run : DigestRun)
    (previous : Option String) : List WindowDigest → DigestState
  | [] => state.setPhase n run .ended
  | window :: windows =>
    let record := buildRecord sha256 window previous
    { state with log := state.log ++ [(record, record.digest sha256)] }.setPhase n run
      (.storing (window :: windows) previous)

def store (sha256 : String → String) (state : DigestState) (n : ℕ) (run : DigestRun)
    (previous : Option String) : List WindowDigest → DigestState
  | [] => state.setPhase n run .ended
  | window :: windows =>
    if state.stored.any fun row => decide (row.windowStart = window.windowStart) then
      state.setPhase n run .ended
    else
      let row := StoredDigest.ofWindow sha256 window previous run.config.settle
      { state with stored := state.stored ++ [row] }.setPhase n run
        (.logging windows (some row.digest))

def advance (sha256 : String → String) (state : DigestState) (n : ℕ) (run : DigestRun) :
    DigestAction → DigestPhase → DigestState
  | .readEarliest, .unstarted clock =>
    state.setPhase n run (.planned (plan run.config clock
      (floorToWindow (state.tables.earliestRow.getD clock) run.config.window)) none)
  | .readRows, .planned starts previous =>
    state.setPhase n run
      (.logging (computeWindows sha256 state.tables starts run.config.window) previous)
  | .logRecord, .logging windows previous => state.logRecord sha256 n run previous windows
  | .store, .storing windows previous => state.store sha256 n run previous windows
  | .crash, _ => state.setPhase n run .ended
  | _, _ => state

def step (sha256 : String → String) (state : DigestState) : DigestStep → DigestState
  | .tick microseconds => { state with clock := state.clock + microseconds }
  | .begin transaction =>
    { state with
      transactions := Function.update state.transactions transaction (some state.clock) }
  | .commit transaction tenants auditLog platformAuditLog =>
    match state.transactions transaction with
    | none => state
    | some now =>
      { state with
        tables := state.tables.insert now tenants auditLog platformAuditLog
        transactions := Function.update state.transactions transaction none }
  | .start n config =>
    match state.runs n with
    | some _ => state
    | none => state.cursor n config
  | .act n action =>
    match state.runs n with
    | none => state
    | some run => state.advance sha256 n run action run.phase

/-- Nothing is stored, and nothing runs. -/
structure Initial (state : DigestState) : Prop where
  stored : state.stored = []
  runs : ∀ n, state.runs n = none

def Follows (before after : StoredDigest) : Prop :=
  after.windowStart = before.windowEnd ∧ after.record.previous = some before.digest

/-- The stored records form one chain of settled windows. -/
structure OneChain (state : DigestState) : Prop where
  first : ∀ row ∈ state.ordered.head?, row.record.previous = none
  follows : state.ordered.IsChain Follows
  settled : ∀ row ∈ state.stored, row.windowEnd ≤ state.clock - row.settle

/-- A run that has found nothing stored finds nothing stored, or its window, when it stores the
first record of its chain. -/
def BeginsNoOtherChain (state : DigestState) (step : DigestStep) : Prop :=
  ∀ n, step = .act n .store → ∀ run window windows, state.runs n = some run →
    run.phase = .storing (window :: windows) none →
    state.stored = [] ∨ ∃ row ∈ state.stored, row.windowStart = window.windowStart

end DigestState

/-! ## The invariant -/

/-- The windows, given by their bounds, follow each other from the start on, and end by the limit. -/
def ConsecutiveFrom (limit : Instant) : Instant → List (Instant × Instant) → Prop
  | _, [] => True
  | start, bounds :: rest => bounds.1 = start ∧ bounds.1 < bounds.2 ∧ bounds.2 ≤ limit ∧
      ConsecutiveFrom limit bounds.2 rest

lemma ConsecutiveFrom.mono {limit limit' : Instant} (hle : limit ≤ limit') {start : Instant}
    {windows : List (Instant × Instant)} (h : ConsecutiveFrom limit start windows) :
    ConsecutiveFrom limit' start windows := by
  induction windows generalizing start with
  | nil => trivial
  | cons bounds rest ih => exact ⟨h.1, h.2.1, h.2.2.1.trans hle, ih h.2.2.2⟩

lemma consecutiveFrom_settledStarts {width : ℤ} (hwidth : 0 < width) (clock settle : ℤ) (n : ℕ)
    (start : Instant) : ConsecutiveFrom (clock - settle) start
      ((settledStarts clock width settle n start).map fun s => (s, s + width)) := by
  induction n generalizing start with
  | zero => trivial
  | succ n ih =>
    unfold settledStarts
    split
    · next hsettled =>
      exact ⟨rfl, Int.lt_add_of_pos_right start hwidth, Int.le_sub_right_of_add_le hsettled,
        ih (start + width)⟩
    · trivial

def WindowDigest.bounds (window : WindowDigest) : Instant × Instant :=
  (window.windowStart, window.windowEnd)

lemma bounds_computeWindows (sha256 : String → String) (tables : AuditTables)
    (starts : List Instant) (width : ℤ) :
    (computeWindows sha256 tables starts width).map WindowDigest.bounds =
      starts.map fun s => (s, s + width) := by
  unfold computeWindows
  cases starts with
  | nil => rfl
  | cons first rest =>
    obtain ⟨last, hlast⟩ : ∃ last, (first :: rest).getLast? = some last :=
      ⟨_, List.getLast?_eq_some_getLast (List.cons_ne_nil first rest)⟩
    rw [hlast]
    dsimp only [List.head?_cons]
    rw [List.map_map]
    calc
      _ = (first :: rest).zipIdx.map ((fun s => (s, s + width)) ∘ Prod.fst) :=
        List.map_congr_left fun _ _ => rfl
      _ = ((first :: rest).zipIdx.map Prod.fst).map fun s => (s, s + width) := List.map_map.symm
      _ = _ := by rw [List.zipIdx_map_fst]

namespace DigestState

def Linked (state : DigestState) (previous : Option String) (start : Instant) : Prop :=
  ∀ digest, previous = some digest →
    ∃ row ∈ state.stored, row.windowEnd = start ∧ row.digest = digest

def PhaseSound (state : DigestState) (config : AuditDigestConfig) : DigestPhase → Prop
  | .unstarted clock => clock ≤ state.clock
  | .planned starts previous => ∃ start, state.Linked previous start ∧
      ConsecutiveFrom (state.clock - config.settle) start
        (starts.map fun s => (s, s + config.window))
  | .logging windows previous | .storing windows previous => ∃ start,
      state.Linked previous start ∧
      ConsecutiveFrom (state.clock - config.settle) start (windows.map WindowDigest.bounds)
  | .ended => True

/-- The invariant: the records were stored in the order of the chain. -/
structure Sound (state : DigestState) : Prop where
  first : ∀ row ∈ state.stored.head?, row.record.previous = none
  follows : state.stored.IsChain Follows
  nonempty : ∀ row ∈ state.stored, row.windowStart < row.windowEnd
  settled : ∀ row ∈ state.stored, row.windowEnd ≤ state.clock - row.settle
  run : ∀ n run, state.runs n = some run → state.PhaseSound run.config run.phase

variable {state : DigestState} {n : ℕ} {run : DigestRun}

lemma PhaseSound.frame {config : AuditDigestConfig} {phase : DigestPhase}
    (h : state.PhaseSound config phase) {state' : DigestState} (hclock : state.clock ≤ state'.clock)
    (hstored : ∀ row ∈ state.stored, row ∈ state'.stored) : state'.PhaseSound config phase := by
  have hlimit : state.clock - config.settle ≤ state'.clock - config.settle :=
    Int.sub_le_sub_right hclock _
  have hlinked : ∀ previous start, state.Linked previous start → state'.Linked previous start := by
    intro previous start hlinked digest hdigest
    obtain ⟨row, hrow, hend⟩ := hlinked digest hdigest
    exact ⟨row, hstored row hrow, hend⟩
  cases phase with
  | unstarted clock => exact le_trans h hclock
  | planned starts previous =>
    obtain ⟨start, hprevious, hwindows⟩ := h
    exact ⟨start, hlinked _ _ hprevious, hwindows.mono hlimit⟩
  | logging windows previous =>
    obtain ⟨start, hprevious, hwindows⟩ := h
    exact ⟨start, hlinked _ _ hprevious, hwindows.mono hlimit⟩
  | storing windows previous =>
    obtain ⟨start, hprevious, hwindows⟩ := h
    exact ⟨start, hlinked _ _ hprevious, hwindows.mono hlimit⟩
  | ended => trivial

lemma Sound.ordered_eq (hsound : state.Sound) : state.ordered = state.stored := by
  have hchain : state.stored.IsChain fun a b => a.windowStart < b.windowStart := by
    refine hsound.follows.imp_of_mem_imp fun a b ha _ hfollows => ?_
    rw [hfollows.1]
    exact hsound.nonempty a ha
  have hpairwise : state.stored.Pairwise fun a b => a.windowStart < b.windowStart := by
    have : IsTrans StoredDigest fun a b => a.windowStart < b.windowStart :=
      ⟨fun _ _ _ => lt_trans⟩
    exact List.isChain_iff_pairwise.mp hchain
  exact List.Pairwise.insertionSort_eq (hpairwise.imp fun h => h.le)

lemma Sound.oneChain (hsound : state.Sound) : state.OneChain := by
  refine ⟨?_, ?_, hsound.settled⟩
  · rw [hsound.ordered_eq]
    exact hsound.first
  · rw [hsound.ordered_eq]
    exact hsound.follows

lemma Sound.setPhase (hsound : state.Sound) {config : AuditDigestConfig}
    {log : List (DigestRecord × String)} {phase phase' : DigestPhase}
    (hphase : state.PhaseSound config phase) :
    ({ state with log := log }.setPhase n ⟨config, phase'⟩ phase).Sound := by
  refine ⟨hsound.first, hsound.follows, hsound.nonempty, hsound.settled, fun m other hm => ?_⟩
  obtain rfl | hne := eq_or_ne m n
  · simp only [DigestState.setPhase, Function.update_self, Option.some.injEq] at hm
    subst hm
    exact hphase.frame (le_refl _) fun _ h => h
  · simp only [DigestState.setPhase, Function.update_of_ne hne] at hm
    exact (hsound.run m other hm).frame (le_refl _) fun _ h => h

lemma Sound.getLast?_eq (hsound : state.Sound) {row : StoredDigest} (hrow : row ∈ state.stored)
    (hfree : ∀ other ∈ state.stored, other.windowStart ≠ row.windowEnd) :
    state.stored.getLast? = some row := by
  obtain ⟨before, after, hsplit⟩ := List.append_of_mem hrow
  cases after with
  | nil => rw [hsplit, List.getLast?_concat]
  | cons next after =>
    have hfollows := hsound.follows
    rw [hsplit, List.isChain_append_cons_cons] at hfollows
    refine absurd hfollows.2.1.1 (hfree next ?_)
    rw [hsplit]
    simp

lemma Sound.append (hsound : state.Sound) {new : StoredDigest}
    (hfollows : (state.stored = [] ∧ new.record.previous = none) ∨
      ∃ row, state.stored.getLast? = some row ∧ Follows row new)
    (hnonempty : new.windowStart < new.windowEnd)
    (hsettled : new.windowEnd ≤ state.clock - new.settle) {phase : DigestPhase}
    (hphase : ({ state with stored := state.stored ++ [new] } : DigestState).PhaseSound run.config
      phase) : ({ state with stored := state.stored ++ [new] }.setPhase n run phase).Sound := by
  have hmem : ∀ row ∈ state.stored ++ [new], row ∈ state.stored ∨ row = new := by
    intro row hrow
    rcases List.mem_append.mp hrow with hold | hnew
    · exact .inl hold
    · exact .inr (List.mem_singleton.mp hnew)
  refine ⟨?_, ?_, fun row hrow => ?_, fun row hrow => ?_, fun m other hm => ?_⟩
  · rcases hfollows with ⟨hempty, hprevious⟩ | ⟨row, hlast, -⟩
    · simp [DigestState.setPhase, hempty, hprevious]
    · dsimp only [DigestState.setPhase]
      rw [List.head?_append_of_ne_nil _ (List.ne_nil_of_mem (List.mem_of_getLast? hlast))]
      exact hsound.first
  · refine List.isChain_append.mpr ⟨hsound.follows, List.IsChain.singleton new, ?_⟩
    rcases hfollows with ⟨hempty, -⟩ | ⟨row, hlast, hrow⟩
    · simp [hempty]
    · simpa [hlast] using hrow
  · rcases hmem row hrow with hold | rfl
    · exact hsound.nonempty row hold
    · exact hnonempty
  · rcases hmem row hrow with hold | rfl
    · exact hsound.settled row hold
    · exact hsettled
  · obtain rfl | hne := eq_or_ne m n
    · simp only [DigestState.setPhase, Function.update_self, Option.some.injEq] at hm
      subst hm
      exact hphase.frame (le_refl _) fun _ h => h
    · simp only [DigestState.setPhase, Function.update_of_ne hne] at hm
      exact (hsound.run m other hm).frame (le_refl _) fun _ h => List.mem_append_left _ h

lemma Sound.store (hsound : state.Sound) (hn : state.runs n = some run) (sha256 : String → String)
    {windows : List WindowDigest} {previous : Option String}
    (hphase : run.phase = .storing windows previous)
    (hbegins : state.BeginsNoOtherChain (.act n .store)) :
    (state.store sha256 n run previous windows).Sound := by
  have hrun := hsound.run n run hn
  rw [hphase] at hrun
  obtain ⟨start, hlinked, hwindows⟩ := hrun
  cases windows with
  | nil => exact hsound.setPhase trivial
  | cons window windows =>
    dsimp only [DigestState.store]
    split
    · exact hsound.setPhase trivial
    · next htaken =>
      have hfree : ∀ row ∈ state.stored, row.windowStart ≠ window.windowStart := by
        simpa using htaken
      obtain ⟨hstart, hnonempty, hsettled, hrest⟩ := hwindows
      refine hsound.append ?_ hnonempty hsettled ⟨window.windowEnd, fun digest hdigest => ?_, hrest⟩
      · cases previous with
        | none =>
          rcases hbegins n rfl run window windows hn hphase with hempty | ⟨row, hrow, hwindow⟩
          · exact .inl ⟨hempty, rfl⟩
          · exact absurd hwindow (hfree row hrow)
        | some digest =>
          obtain ⟨row, hrow, hend, hdigest⟩ := hlinked digest rfl
          have hends : row.windowEnd = window.windowStart := hend.trans hstart.symm
          refine .inr ⟨row, hsound.getLast?_eq hrow (hends ▸ hfree), hends.symm, ?_⟩
          exact congrArg some hdigest.symm
      · cases hdigest
        exact ⟨_, List.mem_append_right _ List.mem_cons_self, rfl, rfl⟩

lemma Sound.advance (hsound : state.Sound) (hn : state.runs n = some run) (sha256 : String → String)
    {action : DigestAction} (hbegins : state.BeginsNoOtherChain (.act n action)) :
    (state.advance sha256 n run action run.phase).Sound := by
  have hrun := hsound.run n run hn
  unfold DigestState.advance
  split
  · next clock hphase =>
    rw [hphase] at hrun
    have hlimit : clock - run.config.settle ≤ state.clock - run.config.settle :=
      Int.sub_le_sub_right hrun _
    have hwindows := consecutiveFrom_settledStarts run.config.window_pos clock run.config.settle
      run.config.maxWindowsPerRun
      (floorToWindow (state.tables.earliestRow.getD clock) run.config.window)
    refine hsound.setPhase ⟨_, fun digest hdigest => ?_, hwindows.mono hlimit⟩
    cases hdigest
  · next starts previous hphase =>
    rw [hphase] at hrun
    obtain ⟨start, hlinked, hwindows⟩ := hrun
    refine hsound.setPhase ⟨start, hlinked, ?_⟩
    rw [bounds_computeWindows]
    exact hwindows
  · next windows previous hphase =>
    rw [hphase] at hrun
    cases windows with
    | nil => exact hsound.setPhase trivial
    | cons window windows => exact hsound.setPhase hrun
  · next windows previous hphase => exact hsound.store hn sha256 hphase hbegins
  · exact hsound.setPhase trivial
  · exact hsound

lemma Sound.cursor (hsound : state.Sound) (config : AuditDigestConfig) :
    (state.cursor n config).Sound := by
  unfold DigestState.cursor
  rw [hsound.ordered_eq]
  split
  · exact hsound.setPhase (le_refl state.clock)
  · next last hlast =>
    refine hsound.setPhase ⟨last.windowEnd, fun digest hdigest => ?_,
      consecutiveFrom_settledStarts config.window_pos _ _ _ _⟩
    cases hdigest
    exact ⟨last, List.mem_of_getLast? hlast, rfl, rfl⟩

lemma Sound.step (hsound : state.Sound) (sha256 : String → String) {step : DigestStep}
    (hbegins : state.BeginsNoOtherChain step) : (state.step sha256 step).Sound := by
  cases step with
  | tick microseconds =>
    have hclock : state.clock ≤ state.clock + microseconds :=
      Int.le_add_of_nonneg_right (Int.natCast_nonneg microseconds)
    refine ⟨hsound.first, hsound.follows, hsound.nonempty, fun row hrow => ?_, fun n run hn => ?_⟩
    · exact (hsound.settled row hrow).trans (Int.sub_le_sub_right hclock _)
    · exact (hsound.run n run hn).frame hclock fun _ h => h
  | begin transaction =>
    refine ⟨hsound.first, hsound.follows, hsound.nonempty, hsound.settled, fun n run hn => ?_⟩
    exact (hsound.run n run hn).frame (le_refl _) fun _ h => h
  | commit transaction tenants auditLog platformAuditLog =>
    dsimp only [DigestState.step]
    split
    · exact hsound
    · refine ⟨hsound.first, hsound.follows, hsound.nonempty, hsound.settled, fun n run hn => ?_⟩
      exact (hsound.run n run hn).frame (le_refl _) fun _ h => h
  | start n config =>
    dsimp only [DigestState.step]
    split
    · exact hsound
    · exact hsound.cursor config
  | act n action =>
    dsimp only [DigestState.step]
    split
    · exact hsound
    · next run hn => exact hsound.advance hn sha256 hbegins

lemma Initial.sound (h : state.Initial) : state.Sound := by
  obtain ⟨hstored, hruns⟩ := h
  constructor <;> simp [hstored, hruns]

/-- **One chain.**  In every run of the system, from an empty table on, in which no run begins a
chain beside one that is stored, the stored records form one chain of settled windows. -/
theorem run_oneChain (hinitial : state.Initial) {sha256 : String → String} {steps : List DigestStep}
    (hbegins : Run.Along (step sha256) BeginsNoOtherChain state steps) :
    Run.Always (step sha256) OneChain state steps := by
  have hsound := Run.always_of_along (I := Sound) (fun state step h => h.step sha256)
    hinitial.sound hbegins
  exact fun before after hsteps => (hsound before after hsteps).oneChain

def beginsNoOtherChain (state : DigestState) (phase : DigestPhase) : Bool :=
  match phase with
  | .storing (window :: _) none => state.stored.isEmpty ||
      state.stored.any fun row => decide (row.windowStart = window.windowStart)
  | _ => true

lemma beginsNoOtherChain_of_all {step : DigestStep}
    (h : ∀ n, step = .act n .store →
      (state.runs n).all (fun run => state.beginsNoOtherChain run.phase) = true) :
    state.BeginsNoOtherChain step := by
  intro n hstep run window windows hn hphase
  have hall := h n hstep
  rw [hn, Option.all_some, hphase] at hall
  simpa [beginsNoOtherChain] using hall

end DigestState

def hour : ℕ := 3600000000

def noDigests : DigestState :=
  ⟨epoch, ⟨[1], [], []⟩, fun _ => none, [], [], fun _ => none⟩

def signedIn (id : Uuid) : AuditLogRow :=
  { id, tenantId := 1, actorType := "user", actorUserId := some 7, actorServiceAccountId := none,
    actingAsTenantId := none, delegationGrantId := none, supportAccessId := none,
    action := "session.create", resourceType := "session", resourceId := none,
    outcome := "success", correlationId := none, metadata := none, createdAt := 0 }

def logAndStore (n : ℕ) : List DigestStep :=
  [.act n .logRecord, .act n .store]

def digestedTwice : List DigestStep :=
  [.begin 1, .commit 1 [] [signedIn 1] [], .tick (3 * hour), .start 1 {}, .start 2 {},
    .act 1 .readEarliest, .act 2 .readEarliest, .act 1 .readRows, .act 2 .readRows] ++
    logAndStore 1 ++ logAndStore 2 ++ logAndStore 1

/-- The first run stores two windows, and the second one stops. -/
theorem run_oneChain_digestedTwice :
    (Run.run (DigestState.step id) noDigests digestedTwice).stored.length = 2 ∧
      Run.Always (DigestState.step id) DigestState.OneChain noDigests digestedTwice := by
  refine ⟨by decide +kernel, DigestState.run_oneChain ⟨rfl, fun _ => rfl⟩ ?_⟩
  refine ⟨?_, ?_, ?_, ?_, ?_, ?_, ?_, ?_, ?_, ?_, ?_, ?_, ?_, ?_, ?_, trivial⟩
  all_goals refine DigestState.beginsNoOtherChain_of_all fun n hstep => ?_
  case refine_11 =>
    cases hstep
    decide +kernel
  case refine_13 =>
    cases hstep
    decide +kernel
  case refine_15 =>
    cases hstep
    decide +kernel
  all_goals cases hstep

/-- A transaction that began first commits between the readings of two runs, which begin at
different rows. -/
def begunTwice : List DigestStep :=
  [.begin 1, .tick hour, .begin 2, .commit 2 [] [signedIn 2] [], .tick (2 * hour), .start 1 {},
    .start 2 {}, .act 1 .readEarliest, .commit 1 [] [signedIn 1] [], .act 2 .readEarliest,
    .act 1 .readRows, .act 2 .readRows] ++ logAndStore 1 ++ logAndStore 2 ++ logAndStore 2

/-- Two records name no record before them. -/
theorem begunTwice_not_oneChain :
    ((Run.run (DigestState.step id) noDigests begunTwice).ordered.map fun row =>
        (row.windowStart - epoch, row.record.previous)) = [(0, none), ((hour : ℤ), none)] ∧
      ¬ Run.Always (DigestState.step id) DigestState.OneChain noDigests begunTwice := by
  have hordered : ((Run.run (DigestState.step id) noDigests begunTwice).ordered.map fun row =>
      (row.windowStart - epoch, row.record.previous)) = [(0, none), ((hour : ℤ), none)] := by
    decide +kernel
  refine ⟨hordered, fun halways => ?_⟩
  have hchain := (halways begunTwice [] (List.append_nil _).symm).follows
  generalize (Run.run (DigestState.step id) noDigests begunTwice).ordered = rows at hordered hchain
  obtain ⟨first, rest, rfl, -, hrest⟩ := List.map_eq_cons_iff.mp hordered
  obtain ⟨second, rest, rfl, hsecond, -⟩ := List.map_eq_cons_iff.mp hrest
  have hprevious := (List.isChain_cons_cons.mp hchain).1.2
  rw [(Prod.mk.inj hsecond).2] at hprevious
  cases hprevious

end SaasOs
