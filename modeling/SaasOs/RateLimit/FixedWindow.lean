import SaasOs.Foundation.Run

/-!
# The fixed-window limiter

A key counts the requests of one window and expires with it.  One script increments the counter and
starts a window when it created the counter or found it without an expiry; a peek reads the counter
and its remaining time with two commands of a pipeline, between which other calls may come.
-/

namespace SaasOs.RateLimit

open Run

/-! ## The calls -/

/-- The fields of `RateLimitConfig` that count, as `__post_init__` requires them. -/
structure RateLimitConfig where
  requestsPerWindow : ℤ
  windowSeconds : ℕ
  requests_pos : 1 ≤ requestsPerWindow
  window_pos : 1 ≤ windowSeconds

structure RateLimitResult where
  allowed : Bool
  remaining : ℤ
  retryAfterSeconds : ℤ

/-- The counter under a key, and the instant at which the key expires, if it has one. -/
structure Counter where
  count : ℤ
  expireAt : Option ℕ

/-- The largest counter: `INCR` is an error there. -/
def counterMax : ℤ := 2 ^ 63 - 1

/-- `INCR`, which keeps the expiry. -/
def incr : Option Counter → Option Counter
  | none => some ⟨1, none⟩
  | some counter =>
    if counter.count < counterMax then some ⟨counter.count + 1, counter.expireAt⟩ else none

/-- `TTL`: -2 without the key, -1 without an expiry. -/
def keyTtl (now : ℕ) : Option Counter → ℤ
  | none => -2
  | some counter =>
    match counter.expireAt with
    | none => -1
    | some instant => ((instant - now + 500) / 1000 : ℕ)

def Counter.expire (now seconds : ℕ) (counter : Counter) : Counter :=
  { counter with expireAt := some (now + 1000 * seconds) }

/-- `_INCREMENT_SCRIPT`: the counter it leaves, the count and the remaining time. -/
def incrementScript (now windowSeconds : ℕ) (key : Option Counter) : Option (Counter × ℤ × ℤ) :=
  match incr key with
  | none => none
  | some counter =>
    if counter.count = 1 ∨ keyTtl now (some counter) = -1 then
      let expiring := counter.expire now windowSeconds
      some (expiring, counter.count, keyTtl now (some expiring))
    else some (counter, counter.count, keyTtl now (some counter))

/-- `ttl if ttl > 0 else config.window_seconds`. -/
def retryAfter (config : RateLimitConfig) (ttl : ℤ) : ℤ :=
  if 0 < ttl then ttl else config.windowSeconds

/-- `check_rate_limit`: the key it leaves and its answer, or nothing for a `RateLimitBackendError`. -/
def checkRateLimit (config : RateLimitConfig) (now : ℕ) (key : Option Counter) :
    Option Counter × Option RateLimitResult :=
  match incrementScript now config.windowSeconds key with
  | none => (key, none)
  | some (counter, count, ttl) =>
    if config.requestsPerWindow < count then
      (some counter, some ⟨false, 0, retryAfter config ttl⟩)
    else
      (some counter, some ⟨true, config.requestsPerWindow - count, retryAfter config ttl⟩)

/-- `peek_rate_limit`, on what `GET` and `TTL` answered. -/
def peekRateLimit (config : RateLimitConfig) (rawCount : Option ℤ) (rawTtl : ℤ) :
    RateLimitResult :=
  let ttl := if rawCount.isSome then rawTtl else -2
  let count := rawCount.getD 0
  if config.requestsPerWindow ≤ count then ⟨false, 0, retryAfter config ttl⟩
  else ⟨true, config.requestsPerWindow - count, retryAfter config ttl⟩

/-! ## The system -/

/-- A peek between its two commands: the count that it read, in which window, and whether a check
would have been allowed at that instant. -/
structure Peek where
  count : Option ℤ
  window : ℕ
  checkAllowed : Bool

/-- A caller that was refused in a window, and when its wait is over. -/
structure Refusal where
  window : ℕ
  waitedAt : ℕ
  deriving DecidableEq

/-- The clock of the store in milliseconds, the key, the number of times that it expired, the count
that the window began with, the checks that were allowed in it, the peeks in progress and the
refusals. -/
structure LimiterState where
  clock : ℕ
  key : Option Counter
  window : ℕ
  base : ℤ
  admitted : ℕ
  peeks : ℕ → Option Peek
  refusals : List Refusal

/-- What happens; `get` and `ttl` are the two commands of a peek. -/
inductive LimiterEvent
  | tick (elapsed : ℕ)
  | check
  | get (caller : ℕ)
  | ttl (caller : ℕ)

def isExpired (now : ℕ) (key : Option Counter) : Bool :=
  (key.bind Counter.expireAt).any fun instant => instant < now

namespace LimiterState

def start (clock : ℕ) (key : Option Counter) : LimiterState :=
  let present := if isExpired clock key then none else key
  ⟨clock, present, 0, present.elim 0 Counter.count, 0, fun _ => none, []⟩

def refused (state : LimiterState) (window : ℕ) (result : RateLimitResult) : List Refusal :=
  if result.allowed then state.refusals
  else ⟨window, state.clock + 1000 * result.retryAfterSeconds.toNat⟩ :: state.refusals

def checkAllowed (config : RateLimitConfig) (state : LimiterState) : Bool :=
  (checkRateLimit config state.clock state.key).2.any RateLimitResult.allowed

def step (config : RateLimitConfig) (state : LimiterState) : LimiterEvent → LimiterState
  | .tick elapsed =>
    if isExpired (state.clock + elapsed) state.key then
      { state with
        clock := state.clock + elapsed
        key := none
        window := state.window + 1
        base := 0
        admitted := 0 }
    else { state with clock := state.clock + elapsed }
  | .check =>
    match checkRateLimit config state.clock state.key with
    | (key, none) => { state with key := key }
    | (key, some result) =>
      { state with
        key := key
        admitted := if result.allowed then state.admitted + 1 else state.admitted
        refusals := state.refused state.window result }
  | .get caller =>
    { state with
      peeks := Function.update state.peeks caller
        (some ⟨state.key.map Counter.count, state.window, state.checkAllowed config⟩) }
  | .ttl caller =>
    match state.peeks caller with
    | none => state
    | some peek =>
      { state with
        peeks := Function.update state.peeks caller none
        refusals := state.refused peek.window
          (peekRateLimit config peek.count (keyTtl state.clock state.key)) }

/-! ## What the limiter promises -/

/-- Between two expiries, and before the first one unless the counter began below zero, no more
checks are allowed than the limit. -/
def Bounded (config : RateLimitConfig) (state : LimiterState) : Prop :=
  0 < state.window ∨ 0 ≤ state.base → (state.admitted : ℤ) ≤ config.requestsPerWindow

/-- What one step keeps: a check leaves the key with an expiry within a window, and no later than
the one that it had; a peek leaves the key as it is and answers as a check would have done. -/
def StepKept (config : RateLimitConfig) (state : LimiterState) (event : LimiterEvent) : Prop :=
  match event with
  | .tick _ => True
  | .check =>
    match (checkRateLimit config state.clock state.key).2 with
    | none => (state.step config event).key = state.key
    | some _ => ∃ counter instant, (state.step config event).key = some counter ∧
        counter.expireAt = some instant ∧
        instant ≤ state.clock + 1000 * config.windowSeconds ∧
        ∀ old ∈ state.key.bind Counter.expireAt, instant ≤ old
  | .get _ => (state.step config event).key = state.key
  | .ttl caller => (state.step config event).key = state.key ∧
      ∀ peek ∈ state.peeks caller,
        (peekRateLimit config peek.count (keyTtl state.clock state.key)).allowed =
          peek.checkAllowed

/-- Who waited as long as a refusal said is in a later window. -/
def Waited (state : LimiterState) : Prop :=
  ∀ refusal ∈ state.refusals, refusal.waitedAt ≤ state.clock → refusal.window < state.window

/-! ## When it does -/

def WaitFits (now : ℕ) : Option ℕ → Prop
  | none => False
  | some instant => instant - now < 500 ∨ 500 ≤ (instant - now) % 1000

instance (now : ℕ) : ∀ expireAt, Decidable (WaitFits now expireAt)
  | none => inferInstanceAs (Decidable False)
  | some instant => inferInstanceAs
    (Decidable (instant - now < 500 ∨ 500 ≤ (instant - now) % 1000))

/-- A check meets an expiry that lies within a window, or beyond it when the counter is zero, which
starts a window again; a peek does not read a counter below the limit that cannot be increased. -/
def CounterFits (config : RateLimitConfig) (state : LimiterState) : LimiterEvent → Prop
  | .check => ∀ counter ∈ state.key, ∀ instant ∈ counter.expireAt, counter.count < counterMax →
      if counter.count = 0 then state.clock + 1000 * config.windowSeconds ≤ instant
      else instant ≤ state.clock + 1000 * config.windowSeconds
  | .get _ => ∀ counter ∈ state.key, counter.count < config.requestsPerWindow →
      counter.count < counterMax
  | _ => True

/-- A caller that is refused, by a check or by a peek whose window is not over, is told a time that
is rounded up or to nothing. -/
def RefusalFits (config : RateLimitConfig) (state : LimiterState) : LimiterEvent → Prop
  | .check => ∀ counter ∈ state.key, counter.count < counterMax →
      config.requestsPerWindow ≤ counter.count → WaitFits state.clock counter.expireAt
  | .ttl caller => ∀ peek ∈ state.peeks caller, peek.window = state.window →
      ∀ count ∈ peek.count, config.requestsPerWindow ≤ count →
        WaitFits state.clock (state.key.bind Counter.expireAt)
  | _ => True

instance (config : RateLimitConfig) (state : LimiterState) :
    ∀ event, Decidable (state.CounterFits config event)
  | .check => inferInstanceAs (Decidable (∀ counter ∈ state.key, ∀ instant ∈ counter.expireAt,
      counter.count < counterMax →
        if counter.count = 0 then state.clock + 1000 * config.windowSeconds ≤ instant
        else instant ≤ state.clock + 1000 * config.windowSeconds))
  | .get _ => inferInstanceAs (Decidable (∀ counter ∈ state.key,
      counter.count < config.requestsPerWindow → counter.count < counterMax))
  | .tick _ => inferInstanceAs (Decidable True)
  | .ttl _ => inferInstanceAs (Decidable True)

instance (config : RateLimitConfig) (state : LimiterState) :
    ∀ event, Decidable (state.RefusalFits config event)
  | .check => inferInstanceAs (Decidable (∀ counter ∈ state.key, counter.count < counterMax →
      config.requestsPerWindow ≤ counter.count → WaitFits state.clock counter.expireAt))
  | .ttl caller => inferInstanceAs (Decidable (∀ peek ∈ state.peeks caller,
      peek.window = state.window → ∀ count ∈ peek.count, config.requestsPerWindow ≤ count →
        WaitFits state.clock (state.key.bind Counter.expireAt)))
  | .tick _ => inferInstanceAs (Decidable True)
  | .get _ => inferInstanceAs (Decidable True)

end LimiterState

/-! ## One call -/

variable {config : RateLimitConfig} {now instant : ℕ} {key : Option Counter} {counter : Counter}
  {result : RateLimitResult}

lemma keyTtl_eq_neg_one : keyTtl now (some counter) = -1 ↔ counter.expireAt = none := by
  cases hinstant : counter.expireAt with
  | none => simp [keyTtl, hinstant]
  | some instant =>
    simp only [keyTtl, hinstant, reduceCtorEq]

/-- What a check that answers leaves behind and says. -/
structure CheckAnswers (config : RateLimitConfig) (now : ℕ) (key : Option Counter)
    (counter : Counter) (result : RateLimitResult) : Prop where
  room : ∀ old ∈ key, old.count < counterMax
  count_eq : counter.count = key.elim 0 Counter.count + 1
  allowed_iff : result.allowed = true ↔ counter.count ≤ config.requestsPerWindow
  retry_eq : result.retryAfterSeconds = retryAfter config (keyTtl now (some counter))
  expireAt_cases : (key.bind Counter.expireAt = none ∨ counter.count = 1) ∧
      counter.expireAt = some (now + 1000 * config.windowSeconds) ∨
    counter.count ≠ 1 ∧ ∃ instant, key.bind Counter.expireAt = some instant ∧
      counter.expireAt = some instant

namespace CheckAnswers

lemma count_of_key (h : CheckAnswers config now key counter result) {old : Counter}
    (hkey : key = some old) : counter.count = old.count + 1 := by
  rw [h.count_eq, hkey, Option.elim_some]

lemma expireAt_of_key (h : CheckAnswers config now key counter result) {old : Counter}
    (hkey : key = some old) (hone : 1 ≤ old.count) (hinstant : old.expireAt = some instant) :
    counter.expireAt = some instant := by
  have hcount := h.count_of_key hkey
  have hbind : key.bind Counter.expireAt = some instant := by rw [hkey, Option.bind_some, hinstant]
  rcases h.expireAt_cases with ⟨hnone | hnew, -⟩ | ⟨-, other, hother, hkept⟩
  · rw [hbind] at hnone
    cases hnone
  · omega
  · rw [hkept, ← hother, hbind]

end CheckAnswers

lemma checkRateLimit_cases (config : RateLimitConfig) (now : ℕ) (key : Option Counter) :
    (∃ old, key = some old ∧ counterMax ≤ old.count ∧ checkRateLimit config now key = (key, none)) ∨
      ∃ counter result, checkRateLimit config now key = (some counter, some result) ∧
        CheckAnswers config now key counter result := by
  cases hincr : incr key with
  | none =>
    cases key with
    | none => cases hincr
    | some old =>
      refine .inl ⟨old, rfl, ?_, by simp only [checkRateLimit, incrementScript, hincr]⟩
      by_contra hroom
      simp only [incr, if_pos (not_le.mp hroom), reduceCtorEq] at hincr
  | some increased =>
    have hincreased : (∀ old ∈ key, old.count < counterMax) ∧
        increased.count = key.elim 0 Counter.count + 1 ∧
        increased.expireAt = key.bind Counter.expireAt := by
      cases key with
      | none =>
        simp only [incr, Option.some.injEq] at hincr
        subst hincr
        simp
      | some old =>
        unfold incr at hincr
        dsimp only at hincr
        split at hincr
        · next hroom =>
          simp only [Option.some.injEq] at hincr
          subst hincr
          simpa using hroom
        · cases hincr
    obtain ⟨hroom, hcount, hexpireAt⟩ := hincreased
    right
    unfold checkRateLimit incrementScript
    simp only [hincr]
    by_cases hstarts : increased.count = 1 ∨ keyTtl now (some increased) = -1
    · rw [if_pos hstarts]
      rw [keyTtl_eq_neg_one, hexpireAt] at hstarts
      dsimp only
      split
      · next hover =>
        exact ⟨_, _, rfl, hroom, hcount, by simpa [Counter.expire] using hover, rfl,
          .inl ⟨hstarts.symm, rfl⟩⟩
      · next hover =>
        exact ⟨_, _, rfl, hroom, hcount, by simpa [Counter.expire] using hover, rfl,
          .inl ⟨hstarts.symm, rfl⟩⟩
    · rw [if_neg hstarts]
      rw [keyTtl_eq_neg_one, hexpireAt, not_or] at hstarts
      obtain ⟨hone, hsome⟩ := hstarts
      obtain ⟨instant, hinstant⟩ := Option.ne_none_iff_exists'.mp hsome
      dsimp only
      split
      · next hover =>
        exact ⟨_, _, rfl, hroom, hcount, by simpa using hover, rfl,
          .inr ⟨hone, instant, hinstant, hexpireAt.trans hinstant⟩⟩
      · next hover =>
        exact ⟨_, _, rfl, hroom, hcount, by simpa using hover, rfl,
          .inr ⟨hone, instant, hinstant, hexpireAt.trans hinstant⟩⟩

lemma checkAllowed_iff (state : LimiterState) :
    state.checkAllowed config = true ↔ (∀ counter ∈ state.key, counter.count < counterMax) ∧
      state.key.elim 0 Counter.count < config.requestsPerWindow := by
  unfold LimiterState.checkAllowed
  rcases checkRateLimit_cases config state.clock state.key with
    ⟨old, hkey, hmax, heq⟩ | ⟨counter, result, heq, h⟩
  · simp only [heq, Option.any_none, Bool.false_eq_true, false_iff, not_and]
    exact fun hroom => absurd (hroom old hkey) (not_lt.mpr hmax)
  · simp only [heq, Option.any_some, h.allowed_iff, h.count_eq, Int.add_one_le_iff]
    exact ⟨fun hlimit => ⟨h.room, hlimit⟩, fun hlimit => hlimit.2⟩

lemma peekRateLimit_allowed_iff (rawCount : Option ℤ) (rawTtl : ℤ) :
    (peekRateLimit config rawCount rawTtl).allowed = true ↔
      rawCount.getD 0 < config.requestsPerWindow := by
  unfold peekRateLimit
  dsimp only
  split
  · next h => simpa using h
  · next h => simpa using h

lemma WaitFits.lt (hexpireAt : counter.expireAt = some instant)
    (h : LimiterState.WaitFits now (some instant)) :
    instant < now + 1000 * (retryAfter config (keyTtl now (some counter))).toNat := by
  have hwindow := config.window_pos
  have hfits : instant - now < 500 ∨ 500 ≤ (instant - now) % 1000 := h
  unfold retryAfter
  simp only [keyTtl, hexpireAt]
  split
  · omega
  · simp only [Int.toNat_natCast]
    omega

/-! ## Counting -/

namespace LimiterState

variable {state : LimiterState}

/-- The counter counts the checks that were allowed, from what the window began with. -/
structure Counted (config : RateLimitConfig) (state : LimiterState) : Prop where
  within : state.base + state.admitted ≤ state.key.elim 0 Counter.count
  bounded : (state.admitted : ℤ) ≤ max 0 (config.requestsPerWindow - state.base)
  later : 0 < state.window → state.base = 0

lemma counted_start (config : RateLimitConfig) (clock : ℕ) (key : Option Counter) :
    (start clock key).Counted config :=
  ⟨by simp [start], by simp [start], fun h => absurd h (lt_irrefl 0)⟩

lemma Counted.step (h : state.Counted config) (event : LimiterEvent) :
    (state.step config event).Counted config := by
  obtain ⟨hwithin, hbounded, hlater⟩ := h
  cases event with
  | tick elapsed =>
    simp only [LimiterState.step]
    split
    · exact ⟨le_rfl, le_max_left _ _, fun _ => rfl⟩
    · exact ⟨hwithin, hbounded, hlater⟩
  | check =>
    simp only [LimiterState.step]
    rcases checkRateLimit_cases config state.clock state.key with
      ⟨old, -, -, heq⟩ | ⟨counter, result, heq, hanswers⟩
    · rw [heq]
      exact ⟨hwithin, hbounded, hlater⟩
    · rw [heq]
      have hcount := hanswers.count_eq
      cases hallowed : result.allowed with
      | false =>
        refine ⟨?_, by simpa only [hallowed, Bool.false_eq_true, if_false] using hbounded, hlater⟩
        simp only [hallowed, Bool.false_eq_true, if_false, Option.elim_some]
        omega
      | true =>
        have hlimit := hanswers.allowed_iff.mp hallowed
        refine ⟨?_, ?_, hlater⟩
        · simp only [hallowed, if_true, Option.elim_some]
          omega
        · simp only [hallowed, if_true]
          omega
  | get caller => exact ⟨hwithin, hbounded, hlater⟩
  | ttl caller =>
    simp only [LimiterState.step]
    cases state.peeks caller with
    | none => exact ⟨hwithin, hbounded, hlater⟩
    | some peek => exact ⟨hwithin, hbounded, hlater⟩

lemma Counted.toBounded (h : state.Counted config) : state.Bounded config := by
  intro hwindow
  have hbase : 0 ≤ state.base := hwindow.elim (fun hlater => (h.later hlater).ge) id
  have hlimit := config.requests_pos
  have hbounded := h.bounded
  omega

/-! ## Answering as a check does -/

def PeeksAgree (config : RateLimitConfig) (state : LimiterState) : Prop :=
  ∀ caller peek, state.peeks caller = some peek →
    (peek.checkAllowed = true ↔ peek.count.getD 0 < config.requestsPerWindow)

lemma PeeksAgree.step {event : LimiterEvent} (h : state.PeeksAgree config)
    (hfits : state.CounterFits config event) : (state.step config event).PeeksAgree config := by
  cases event with
  | tick elapsed =>
    simp only [LimiterState.step]
    split
    · exact h
    · exact h
  | check =>
    simp only [LimiterState.step]
    split
    · exact h
    · exact h
  | get caller =>
    intro other peek hpeek
    rcases update_some_cases hpeek with ⟨-, rfl⟩ | ⟨-, hold⟩
    · dsimp only
      rw [checkAllowed_iff]
      have hfits' : ∀ counter ∈ state.key, counter.count < config.requestsPerWindow →
        counter.count < counterMax := hfits
      cases hkey : state.key with
      | none => simp
      | some counter =>
        have hroom := hfits' counter hkey
        simpa using hroom
    · exact h other peek hold
  | ttl caller =>
    simp only [LimiterState.step]
    cases hcaller : state.peeks caller with
    | none => exact h
    | some peek =>
      intro other peek' hpeek
      exact h other peek' (update_none_cases hpeek).2

lemma stepKept_of_counterFits {event : LimiterEvent} (h : state.PeeksAgree config)
    (hfits : state.CounterFits config event) : state.StepKept config event := by
  cases event with
  | tick elapsed => trivial
  | check =>
    simp only [StepKept, LimiterState.step]
    rcases checkRateLimit_cases config state.clock state.key with
      ⟨old, -, -, heq⟩ | ⟨counter, result, heq, hanswers⟩
    · rw [heq]
    · rw [heq]
      dsimp only
      have hfits' : ∀ counter ∈ state.key, ∀ instant ∈ counter.expireAt,
        counter.count < counterMax →
          if counter.count = 0 then state.clock + 1000 * config.windowSeconds ≤ instant
          else instant ≤ state.clock + 1000 * config.windowSeconds := hfits
      rcases hanswers.expireAt_cases with ⟨hstarts, hinstant⟩ | ⟨hone, instant, hold, hinstant⟩
      · refine ⟨counter, _, rfl, hinstant, le_rfl, fun instant hinstant' => ?_⟩
        -- a window starts again under an expiry only from a counter of zero
        obtain ⟨old, hkey, hexpireAt⟩ := Option.bind_eq_some_iff.mp hinstant'
        have hzero : old.count = 0 := by
          have hcount := hanswers.count_of_key hkey
          rcases hstarts with hnone | hone
          · rw [hinstant'] at hnone
            cases hnone
          · omega
        have hle := hfits' old hkey instant hexpireAt (hanswers.room old hkey)
        rwa [if_pos hzero] at hle
      · obtain ⟨old, hkey, hexpireAt⟩ := Option.bind_eq_some_iff.mp hold
        have hcount := hanswers.count_of_key hkey
        have hle := hfits' old hkey instant hexpireAt (hanswers.room old hkey)
        rw [if_neg (by omega)] at hle
        refine ⟨counter, instant, rfl, hinstant, hle, fun instant' hinstant' => ?_⟩
        rw [Option.mem_def, hold] at hinstant'
        exact (Option.some.inj hinstant').le
  | get caller => rfl
  | ttl caller =>
    refine ⟨?_, fun peek hpeek => ?_⟩
    · simp only [LimiterState.step]
      split
      · rfl
      · rfl
    · rw [Bool.eq_iff_iff, peekRateLimit_allowed_iff, h caller peek hpeek]

/-! ## Waiting -/

/-- The key has not expired; a refused caller whose window is not over waits until after its expiry;
and the counter is no less than what a peek read in the same window. -/
structure Waiting (state : LimiterState) : Prop where
  unexpired : ∀ instant ∈ state.key.bind Counter.expireAt, state.clock ≤ instant
  refusal : ∀ refusal ∈ state.refusals, refusal.window < state.window ∨
    refusal.window = state.window ∧ ∃ counter instant, state.key = some counter ∧
      1 ≤ counter.count ∧ counter.expireAt = some instant ∧ instant < refusal.waitedAt
  peek : ∀ caller peek, state.peeks caller = some peek → peek.window < state.window ∨
    peek.window = state.window ∧ ∀ count ∈ peek.count, ∃ counter, state.key = some counter ∧
      count ≤ counter.count

lemma not_isExpired {now : ℕ} {key : Option Counter} (h : ¬ isExpired now key = true) :
    ∀ instant ∈ key.bind Counter.expireAt, now ≤ instant := by
  intro instant hinstant
  unfold isExpired at h
  rw [Option.mem_def.mp hinstant, Option.any_some, decide_eq_true_iff, not_lt] at h
  exact h

lemma waiting_start (clock : ℕ) (key : Option Counter) : (start clock key).Waiting := by
  refine ⟨?_, fun refusal h => absurd h List.not_mem_nil, fun caller peek h => by cases h⟩
  simp only [start]
  split
  · exact fun instant h => by cases h
  · next hpresent => exact not_isExpired hpresent

lemma Waiting.tick {elapsed : ℕ} (h : state.Waiting) :
    (state.step config (.tick elapsed)).Waiting := by
  simp only [LimiterState.step]
  split
  · refine ⟨fun instant hinstant => (by cases hinstant), fun refusal hrefusal => .inl ?_,
      fun caller peek hpeek => .inl ?_⟩
    · rcases h.refusal refusal hrefusal with hlt | ⟨heq, -⟩
      · exact Nat.lt_succ_of_lt hlt
      · exact heq ▸ Nat.lt_succ_self state.window
    · rcases h.peek caller peek hpeek with hlt | ⟨heq, -⟩
      · exact Nat.lt_succ_of_lt hlt
      · exact heq ▸ Nat.lt_succ_self state.window
  · next hpresent => exact ⟨not_isExpired hpresent, h.refusal, h.peek⟩

lemma Waiting.check (h : state.Waiting) (hfits : state.RefusalFits config .check) :
    (state.step config .check).Waiting := by
  simp only [LimiterState.step]
  rcases checkRateLimit_cases config state.clock state.key with
    ⟨old, -, -, heq⟩ | ⟨counter, result, heq, hanswers⟩
  · rw [heq]
    exact h
  · rw [heq]
    dsimp only
    refine ⟨fun instant hinstant => ?_, ?_, fun caller peek hpeek => ?_⟩
    · rcases hanswers.expireAt_cases with ⟨-, hnew⟩ | ⟨-, old, hold, hkept⟩
      · have hinstant' : counter.expireAt = some instant := hinstant
        rw [hnew, Option.some.injEq] at hinstant'
        change state.clock ≤ instant
        omega
      · have hinstant' : counter.expireAt = some instant := hinstant
        rw [hkept] at hinstant'
        exact h.unexpired instant (hold.trans hinstant')
    · have hrefusals : ∀ refusal ∈ state.refusals, refusal.window < state.window ∨
          refusal.window = state.window ∧ ∃ new instant, some counter = some new ∧
            1 ≤ new.count ∧ new.expireAt = some instant ∧ instant < refusal.waitedAt := by
        intro refusal hrefusal
        refine (h.refusal refusal hrefusal).imp_right ?_
        rintro ⟨hwindow, old, instant, hkey, hone, hinstant, hlt⟩
        have hcount := hanswers.count_of_key hkey
        exact ⟨hwindow, counter, instant, rfl, by omega, hanswers.expireAt_of_key hkey hone hinstant,
          hlt⟩
      unfold refused
      split
      · exact hrefusals
      · next hrefused =>
        intro refusal hrefusal
        rcases List.mem_cons.mp hrefusal with rfl | hrefusal
        · rw [hanswers.allowed_iff, not_le] at hrefused
          have hlimit := config.requests_pos
          cases hkey : state.key with
          | none =>
            rw [hanswers.count_eq, hkey, Option.elim_none] at hrefused
            omega
          | some old =>
            have hcount := hanswers.count_of_key hkey
            have hfits' := hfits old hkey (hanswers.room old hkey) (by omega)
            cases hexpireAt : old.expireAt with
            | none =>
              rw [hexpireAt] at hfits'
              exact hfits'.elim
            | some instant =>
              rw [hexpireAt] at hfits'
              have hinstant := hanswers.expireAt_of_key hkey (by omega) hexpireAt
              refine .inr ⟨rfl, counter, instant, rfl, by omega, hinstant, ?_⟩
              rw [hanswers.retry_eq]
              exact WaitFits.lt hinstant hfits'
        · exact hrefusals refusal hrefusal
    · refine (h.peek caller peek hpeek).imp_right ?_
      rintro ⟨hwindow, hcounts⟩
      refine ⟨hwindow, fun count hmem => ⟨counter, rfl, ?_⟩⟩
      obtain ⟨old, hkey, hle⟩ := hcounts count hmem
      have hcount := hanswers.count_of_key hkey
      omega

lemma Waiting.get {caller : ℕ} (h : state.Waiting) :
    (state.step config (.get caller)).Waiting := by
  refine ⟨h.unexpired, h.refusal, fun other peek hpeek => ?_⟩
  rcases update_some_cases hpeek with ⟨-, rfl⟩ | ⟨-, hold⟩
  · refine .inr ⟨rfl, fun count hcount => ?_⟩
    obtain ⟨counter, hkey, rfl⟩ := Option.map_eq_some_iff.mp hcount
    exact ⟨counter, hkey, le_rfl⟩
  · exact h.peek other peek hold

lemma Waiting.ttl {caller : ℕ} (h : state.Waiting) (hfits : state.RefusalFits config (.ttl caller)) :
    (state.step config (.ttl caller)).Waiting := by
  simp only [LimiterState.step]
  cases hcaller : state.peeks caller with
  | none => exact h
  | some peek =>
    refine ⟨h.unexpired, ?_, fun other peek' hpeek => h.peek other peek' (update_none_cases hpeek).2⟩
    dsimp only
    unfold refused
    split
    · exact h.refusal
    · next hrefused =>
      intro refusal hrefusal
      rcases List.mem_cons.mp hrefusal with rfl | hrefusal
      · rcases h.peek caller peek hcaller with hlt | ⟨heq, hcounts⟩
        · exact .inl hlt
        · have hlimit := config.requests_pos
          rw [peekRateLimit_allowed_iff, not_lt] at hrefused
          cases hcount : peek.count with
          | none =>
            rw [hcount, Option.getD_none] at hrefused
            omega
          | some count =>
            rw [hcount, Option.getD_some] at hrefused
            obtain ⟨counter, hkey, hle⟩ := hcounts count hcount
            have hfits' := hfits peek hcaller heq count hcount hrefused
            rw [hkey, Option.bind_some] at hfits'
            cases hexpireAt : counter.expireAt with
            | none =>
              rw [hexpireAt] at hfits'
              exact hfits'.elim
            | some instant =>
              rw [hexpireAt] at hfits'
              refine .inr ⟨heq, counter, instant, hkey, by omega, hexpireAt, ?_⟩
              have hretry : (peekRateLimit config (some count)
                  (keyTtl state.clock state.key)).retryAfterSeconds =
                    retryAfter config (keyTtl state.clock (some counter)) := by
                unfold peekRateLimit
                dsimp only [Option.isSome_some]
                split
                · rw [if_pos rfl, hkey]
                · rw [if_pos rfl, hkey]
              rw [hretry]
              exact WaitFits.lt hexpireAt hfits'
      · exact h.refusal refusal hrefusal

lemma Waiting.step {event : LimiterEvent} (h : state.Waiting)
    (hfits : state.RefusalFits config event) : (state.step config event).Waiting :=
  match event, hfits with
  | .tick _, _ => h.tick
  | .check, hfits => h.check hfits
  | .get _, _ => h.get
  | .ttl _, hfits => h.ttl hfits

lemma Waiting.waited (h : state.Waiting) : state.Waited := by
  intro refusal hrefusal hwaited
  refine (h.refusal refusal hrefusal).resolve_right ?_
  rintro ⟨-, counter, instant, hkey, -, hexpireAt, hlt⟩
  have hle := h.unexpired instant (by rw [hkey, Option.bind_some, hexpireAt, Option.mem_def])
  omega

/-! ## Runs -/

/-- **The limiter.**  Every run is bounded; every step of a run whose checks and peeks meet a counter
that fits keeps the window; and in a run whose refusals fit, a refused caller that has waited is in a
new window. -/
theorem fixedWindow_kept (config : RateLimitConfig) (clock : ℕ) (key : Option Counter)
    (events : List LimiterEvent) :
    Always (step config) (Bounded config) (start clock key) events ∧
      (Along (step config) (CounterFits config) (start clock key) events →
        Along (step config) (StepKept config) (start clock key) events) ∧
      (Along (step config) (RefusalFits config) (start clock key) events →
        Always (step config) Waited (start clock key) events) := by
  refine ⟨fun before after _ => ?_, fun hfits => ?_, fun hfits before after happend => ?_⟩
  · exact (run_of_step (fun state event h => h.step event)
      (counted_start config clock key) before).toBounded
  · refine along_of_along (fun state event h hevent => PeeksAgree.step h hevent)
      (fun state event h hevent => stepKept_of_counterFits h hevent) ?_ hfits
    exact fun caller peek hpeek => by cases hpeek
  · exact (always_of_along (fun state event h hevent => Waiting.step h hevent)
      (waiting_start clock key) hfits before after happend).waited

def threeAMinute : RateLimitConfig := ⟨3, 60, by decide, by decide⟩

def lateRefusal : List LimiterEvent :=
  [.check, .tick 10000, .get 1, .check, .ttl 1, .tick 49600, .check, .tick 60000]

/-- A counter that was left without an expiry gets one. -/
theorem fixedWindow_kept_repaired :
    Always (step threeAMinute) (Bounded threeAMinute) (start 0 (some ⟨1, none⟩)) lateRefusal ∧
      Along (step threeAMinute) (StepKept threeAMinute) (start 0 (some ⟨1, none⟩)) lateRefusal ∧
      Always (step threeAMinute) Waited (start 0 (some ⟨1, none⟩)) lateRefusal := by
  have h := fixedWindow_kept threeAMinute 0 (some ⟨1, none⟩) lateRefusal
  exact ⟨h.1, h.2.1 (by decide +kernel), h.2.2 (by decide +kernel)⟩

/-- A caller that is refused 1.4 seconds before the end of the window is told to wait for a second,
and then is still in it. -/
theorem fixedWindow_not_kept_roundedDown :
    ¬ Always (step threeAMinute) Waited (start 0 none)
      [.check, .check, .check, .tick 58600, .check, .tick 1000] := by
  intro h
  have hwaited := h [.check, .check, .check, .tick 58600, .check, .tick 1000] [] rfl
  exact absurd (hwaited ⟨0, 59600⟩ (by decide +kernel) (by decide +kernel)) (by decide +kernel)

end LimiterState

end SaasOs.RateLimit
