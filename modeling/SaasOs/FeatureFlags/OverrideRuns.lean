import SaasOs.FeatureFlags.Overrides

/-!
# Runs of sets and removes

A set that finds its own value takes its place in the serial order at its read, a remove that finds
no row likewise, and any other call when it commits; a remove that waits for a row takes its place
right behind the call that removes the row.  Every step that is undisturbed keeps the order
(`Sound`), and a disturbed step raises.
-/

namespace SaasOs.FeatureFlags

open UniqueInsert SerialOrder Rows

/-! ## Committed rows -/

section Rows

variable {table table' : Table ℕ FeatureFlagTenantOverride} {key : OverrideKey}
  {row : FeatureFlagTenantOverride}

lemma findKey_eq_some (h : table.Unique (·.key)) :
    findKey table.committed key = some row ↔ row ∈ table.committed ∧ row.key = key := by
  have hone : AtMostOne table.committed fun row => decide (row.key = key) :=
    h.uniqueOn_committed.atMostOne fun _ hrow => of_decide_eq_true hrow
  unfold findKey
  simpa using find?_eq_some_iff hone (r := row)

lemma findKey_eq_none : findKey table.committed key = none ↔
    ∀ row ∈ table.committed, row.key ≠ key := by
  simp [findKey]

lemma findId_eq_none {id : Uuid} : findId table.committed id = none ↔
    ¬ ∃ row ∈ table.committed, row.id = id := by
  simp [findId]

lemma mem_of_findId {id : Uuid} (h : findId table.committed id = some row) :
    row ∈ table.committed ∧ row.id = id :=
  ⟨List.mem_of_find?_eq_some h, by simpa using List.find?_some h⟩

lemma view_of_mem (h : table.Unique (·.key)) (hrow : row ∈ table.committed) :
    view table row.key = some row.enabled := by
  unfold view
  rw [(findKey_eq_some h).2 ⟨hrow, rfl⟩]
  rfl

lemma view_eq_none (h : ∀ row ∈ table.committed, row.key ≠ key) : view table key = none := by
  unfold view
  rw [findKey_eq_none.2 h]
  rfl

lemma view_eq_update (h : table.Unique (·.key)) (h' : table'.Unique (·.key)) {value : Option Bool}
    (hself : view table' key = value)
    (hother : ∀ row, row.key ≠ key → (row ∈ table'.committed ↔ row ∈ table.committed)) :
    view table' = Function.update (view table) key value := by
  funext k
  by_cases hk : k = key
  · subst hk
    rw [Function.update_self, hself]
  · rw [Function.update_of_ne hk]
    refine congrArg (Option.map _) (Option.ext fun row => ?_)
    rw [findKey_eq_some h, findKey_eq_some h']
    constructor
    · rintro ⟨hrow, rfl⟩
      exact ⟨(hother row hk).1 hrow, rfl⟩
    · rintro ⟨hrow, rfl⟩
      exact ⟨(hother row hk).2 hrow, rfl⟩

end Rows

/-! ## Invariants -/

def Present (state : FlagState) (id : Uuid) : Prop :=
  ∃ row ∈ state.overrides.committed, row.id = id

def Seen (keyOf : Uuid → OverrideKey) (state : FlagState) (id : Uuid) (key : OverrideKey) : Prop :=
  id < state.nextId ∧ keyOf id = key ∧ ∀ entry ∈ state.overrides.uncommitted, entry.2.id ≠ id

def Placed (order : List (ℕ × Request)) (n : ℕ) : Prop := n ∈ order.map Prod.fst

def Pending (keyOf : Uuid → OverrideKey) (order : List (ℕ × Request)) (state : FlagState) (n : ℕ)
    (request : Request) : Change → Prop
  | .nothing => Placed order n
  | .update row => ¬ Placed order n ∧ request.operation = .set row.enabled ∧
      row.key = request.key ∧ Seen keyOf state row.id row.key ∧ state.locks row.id = some n ∧
      Present state row.id
  | .insert row => ¬ Placed order n ∧ request.operation = .set row.enabled ∧
      row.key = request.key ∧ (n, row) ∈ state.overrides.uncommitted
  | .delete row => ¬ Placed order n ∧ request.operation = .remove ∧
      row.key = request.key ∧ Seen keyOf state row.id row.key ∧ state.locks row.id = some n ∧
      Present state row.id

def Fits (keyOf : Uuid → OverrideKey) (order : List (ℕ × Request)) (state : FlagState) (n : ℕ)
    (call : Call) : Prop :=
  match call.phase with
  | .called | .absent => ¬ Placed order n
  | .found row => Seen keyOf state row.id call.request.key ∧ row.key = call.request.key ∧
      (Placed order n ↔ call.request.operation = .set row.enabled)
  | .selecting none => Placed order n
  | .selecting (some id) => call.request.operation = .remove ∧
      Seen keyOf state id call.request.key ∧ (Placed order n ↔ ¬ Present state id)
  | .locked row => ¬ Placed order n ∧ row.key = call.request.key ∧
      Seen keyOf state row.id row.key ∧ state.locks row.id = some n ∧ Present state row.id
  | .flushed change _ | .ready change _ => Pending keyOf order state n call.request change
  | .returned _ _ => Placed order n
  | .raised _ => False

def auditedRows (call : Call) : List AuditRow :=
  match call.phase with
  | .returned change _ => auditRows call.request change
  | _ => []

def Inserting (call : Call) (row : FeatureFlagTenantOverride) : Prop :=
  match call.phase with
  | .flushed change _ | .ready change _ => change = .insert row
  | _ => False

/-- What every state of a run satisfies, with the keys of the ids that were given out, and the calls
that have their place. -/
structure Sound (keyOf : Uuid → OverrideKey) (order : List (ℕ × Request)) (state : FlagState) :
    Prop where
  unique : state.overrides.Unique (·.key)
  committed : ∀ row ∈ state.overrides.committed,
    row.id < state.nextId ∧ keyOf row.id = row.key
  uncommitted : ∀ entry ∈ state.overrides.uncommitted,
    entry.2.id < state.nextId ∧ keyOf entry.2.id = entry.2.key ∧
      ∃ call, state.calls entry.1 = some call ∧ Inserting call entry.2
  fits : ∀ n call, state.calls n = some call → Fits keyOf order state n call
  explains : Explains apply state.requests (fun _ => none) state.history order
    (view state.overrides)
  evidenced : ∀ n call, state.calls n = some call →
    (state.audit.filter (·.1 = n)).map Prod.snd = auditedRows call
  silent : ∀ n, state.calls n = none → (state.audit.filter (·.1 = n)).map Prod.snd = []

variable {keyOf keyOf' : Uuid → OverrideKey} {order order' : List (ℕ × Request)}
  {state state' : FlagState} {n m : ℕ} {call other : Call}
  {row : FeatureFlagTenantOverride}

lemma Sound.seen (h : Sound keyOf order state) (hrow : row ∈ state.overrides.committed) :
    Seen keyOf state row.id row.key := by
  obtain ⟨hid, hkey⟩ := h.committed row hrow
  refine ⟨hid, hkey, fun entry hentry heq => h.unique.key_ne hrow hentry ?_⟩
  rw [← (h.uncommitted entry hentry).2.1, heq, hkey]

variable {key : OverrideKey}

lemma Sound.key_of_id (h : Sound keyOf order state) (hrow : row ∈ state.overrides.committed)
    (hkey : keyOf row.id = key) : row.key = key :=
  (h.committed row hrow).2.symm.trans hkey

/-- What a step of another call leaves as it was, from the point of view of the call at `m`. -/
structure Frame (keyOf keyOf' : Uuid → OverrideKey) (order order' : List (ℕ × Request))
    (state state' : FlagState) (m : ℕ) (other : Call) : Prop where
  given : state.nextId ≤ state'.nextId
  keys : ∀ id < state.nextId, keyOf' id = keyOf id
  locks : ∀ id, state.locks id = some m → state'.locks id = some m
  held : ∀ id, state.locks id = some m → Present state id → Present state' id
  uncommitted : ∀ row, (m, row) ∈ state.overrides.uncommitted →
    (m, row) ∈ state'.overrides.uncommitted
  new : ∀ entry ∈ state'.overrides.uncommitted,
    entry ∈ state.overrides.uncommitted ∨ state.nextId ≤ entry.2.id
  placed : Placed order m → Placed order' m
  unplaced : (∀ id, other.phase ≠ .selecting (some id)) → Placed order' m → Placed order m
  waiting : ∀ id key, other.phase = .selecting (some id) → other.request.operation = .remove →
    Seen keyOf state id key → (Placed order m ↔ ¬ Present state id) →
      (Placed order' m ↔ ¬ Present state' id)

variable {id : Uuid}

lemma Seen.frame (h : Seen keyOf state id key)
    (hframe : Frame keyOf keyOf' order order' state state' m other) :
    Seen keyOf' state' id key := by
  obtain ⟨hid, hkey, hcommitted⟩ := h
  refine ⟨hid.trans_le hframe.given, (hframe.keys id hid).trans hkey, fun entry hentry => ?_⟩
  rcases hframe.new entry hentry with hentry | hnew
  · exact hcommitted entry hentry
  · exact fun heq => absurd (heq ▸ hnew) (Nat.not_le.2 hid)

lemma Pending.frame {request : Request} {change : Change}
    (h : Pending keyOf order state m request change)
    (hframe : Frame keyOf keyOf' order order' state state' m other)
    (hphase : ∀ id, other.phase ≠ .selecting (some id)) :
    Pending keyOf' order' state' m request change := by
  cases change with
  | nothing => exact hframe.placed h
  | update row =>
    obtain ⟨hnot, hoperation, hkey, hseen, hlock, hpresent⟩ := h
    exact ⟨fun hin => hnot (hframe.unplaced hphase hin), hoperation, hkey, hseen.frame hframe,
      hframe.locks _ hlock, hframe.held _ hlock hpresent⟩
  | insert row =>
    obtain ⟨hnot, hoperation, hkey, hrow⟩ := h
    exact ⟨fun hin => hnot (hframe.unplaced hphase hin), hoperation, hkey,
      hframe.uncommitted row hrow⟩
  | delete row =>
    obtain ⟨hnot, hoperation, hkey, hseen, hlock, hpresent⟩ := h
    exact ⟨fun hin => hnot (hframe.unplaced hphase hin), hoperation, hkey, hseen.frame hframe,
      hframe.locks _ hlock, hframe.held _ hlock hpresent⟩

lemma Fits.frame (h : Fits keyOf order state m other)
    (hframe : Frame keyOf keyOf' order order' state state' m other) :
    Fits keyOf' order' state' m other := by
  obtain ⟨request, retried, phase⟩ := other
  cases phase with
  | called | absent => exact fun hin => h (hframe.unplaced (fun _ => nofun) hin)
  | found row =>
    refine ⟨h.1.frame hframe, h.2.1, ?_⟩
    rw [← h.2.2]
    exact ⟨hframe.unplaced (fun _ => nofun), hframe.placed⟩
  | selecting id =>
    cases id with
    | none => exact hframe.placed h
    | some id =>
      obtain ⟨hremove, hseen, hplaced⟩ := h
      exact ⟨hremove, hseen.frame hframe,
        hframe.waiting id request.key rfl hremove hseen hplaced⟩
  | locked row =>
    obtain ⟨hnot, hkey, hseen, hlock, hpresent⟩ := h
    exact ⟨fun hin => hnot (hframe.unplaced (fun _ => nofun) hin), hkey, hseen.frame hframe,
      hframe.locks _ hlock, hframe.held _ hlock hpresent⟩
  | flushed change row => exact Pending.frame h hframe fun _ => nofun
  | ready change result => exact Pending.frame h hframe fun _ => nofun
  | returned change result => exact hframe.placed h
  | raised error => exact h

/-! ## Steps -/

lemma requests_enter (hcall : state.calls n = some call) (new : Call)
    (hcalls : state'.calls = Function.update state.calls n (some new))
    (hrequest : new.request = call.request) :
    state'.requests = state.requests := by
  funext m
  unfold FlagState.requests
  rw [hcalls]
  by_cases hm : m = n
  · subst hm
    simp [hcall, hrequest]
  · simp [Function.update_of_ne hm]

variable {request : Request}

lemma Placed.take_of_ne (hm : m ≠ n) :
    Placed (order ++ [(n, request)]) m ↔ Placed order m := by
  simp [Placed, hm]

lemma Placed.take_self : Placed (order ++ [(n, request)]) n := by
  simp [Placed]

lemma Sound.enter (h : Sound keyOf order state) (hcall : state.calls n = some call) (new : Call)
    {locks : Uuid → Option ℕ} (hrequest : new.request = call.request)
    (horder : ∀ m, m ≠ n → (Placed order' m ↔ Placed order m))
    (hexplains : Explains apply state.requests (fun _ => none) state.history order'
      (view state.overrides))
    (hlocks : ∀ id m, m ≠ n → state.locks id = some m → locks id = some m)
    (hcallRows : auditedRows call = []) (hnewRows : auditedRows new = [])
    (hinserting : ∀ row, Inserting call row → Inserting new row)
    (hfits : Fits keyOf order' { state with
      locks := locks, calls := Function.update state.calls n (some new) } n new) :
    Sound keyOf order' { state with
      locks := locks, calls := Function.update state.calls n (some new) } where
  unique := h.unique
  committed := h.committed
  uncommitted entry hentry := by
    obtain ⟨hid, hkey, other, hother, hinserts⟩ := h.uncommitted entry hentry
    refine ⟨hid, hkey, ?_⟩
    by_cases hn : entry.1 = n
    · rw [hn, hcall] at hother
      obtain rfl := Option.some.inj hother
      exact ⟨new, by simp [hn], hinserting _ hinserts⟩
    · exact ⟨other, by simpa [Function.update_of_ne hn] using hother, hinserts⟩
  fits m other hm := by
    rcases Run.update_some_cases hm with ⟨rfl, rfl⟩ | ⟨hmn, hm⟩
    · exact hfits
    · refine (h.fits m other hm).frame ⟨le_rfl, fun _ _ => rfl, fun id => hlocks id m hmn,
        fun _ _ hpresent => hpresent, fun _ hrow => hrow, fun _ hentry => .inl hentry,
        (horder m hmn).2, fun _ => (horder m hmn).1, ?_⟩
      intro id key _ _ _ hplaced
      exact (horder m hmn).trans hplaced
  explains := by
    rw [requests_enter hcall new rfl hrequest]
    exact hexplains
  evidenced m other hm := by
    rcases Run.update_some_cases hm with ⟨rfl, rfl⟩ | ⟨-, hm⟩
    · rw [hnewRows, ← hcallRows]
      exact h.evidenced m call hcall
    · exact h.evidenced m other hm
  silent m hm := by
    by_cases hmn : m = n
    · subst hmn
      simp at hm
    · exact h.silent m (by simpa [hmn] using hm)

variable {phase : Phase}

section

variable (h : Sound keyOf order state) (hcall : state.calls n = some call)

include h hcall

lemma Sound.enter_same (hcallRows : auditedRows call = [])
    (hnewRows : auditedRows { call with phase := phase } = [])
    (hinserting : ∀ row, Inserting call row → Inserting { call with phase := phase } row)
    (hfits : Fits keyOf order (state.enter n call phase) n { call with phase := phase }) :
    Sound keyOf order (state.enter n call phase) :=
  h.enter hcall { call with phase := phase } rfl (fun _ _ => Iff.rfl) h.explains
    (fun _ _ _ hlock => hlock) hcallRows hnewRows hinserting hfits

lemma Sound.enter_lock (hfree : state.locks id = none) (hcallRows : auditedRows call = [])
    (hnewRows : auditedRows { call with phase := phase } = [])
    (hinserting : ∀ row, ¬ Inserting call row)
    (hfits : Fits keyOf order ((state.lock n id).enter n call phase) n
      { call with phase := phase }) :
    Sound keyOf order ((state.lock n id).enter n call phase) := by
  refine h.enter hcall { call with phase := phase } rfl (fun _ _ => Iff.rfl) h.explains
    (fun id' m hm hlock => ?_) hcallRows hnewRows (fun row hrow => absurd hrow (hinserting row))
    hfits
  have hne : id' ≠ id := by
    rintro rfl
    exact absurd (hfree.symm.trans hlock) nofun
  exact (Function.update_of_ne hne _ _).trans hlock

lemma Sound.enter_take (hplaced : ¬ Placed order n)
    (hsame : apply call.request (view state.overrides) = view state.overrides)
    (hcallRows : auditedRows call = [])
    (hnewRows : auditedRows { call with phase := phase } = [])
    (hinserting : ∀ row, ¬ Inserting call row)
    (hfits : Fits keyOf (order ++ [(n, call.request)]) (state.enter n call phase) n
      { call with phase := phase }) :
    Sound keyOf (order ++ [(n, call.request)]) (state.enter n call phase) := by
  have hrequest : state.requests n = some call.request := by simp [FlagState.requests, hcall]
  exact h.enter hcall { call with phase := phase } rfl
    (fun m hm => Placed.take_of_ne hm) (h.explains.take hrequest hplaced hsame)
    (fun _ _ _ hlock => hlock) hcallRows hnewRows
    (fun row hrow => absurd hrow (hinserting row)) hfits

lemma Sound.proceed_called (hphase : call.phase = .called) :
    ∃ order', Sound keyOf order' (state.proceed n call) := by
  have hfits := h.fits n call hcall
  obtain ⟨⟨key, operation⟩, retried, phase⟩ := call
  obtain rfl : phase = .called := hphase
  replace hfits : ¬ Placed order n := hfits
  cases hfind : findKey state.overrides.committed key with
  | none =>
    cases operation with
    | set enabled =>
      simp only [FlagState.proceed, hfind]
      exact ⟨order, h.enter_same hcall rfl rfl (fun _ hrow => hrow.elim) hfits⟩
    | remove =>
      simp only [FlagState.proceed, hfind, Option.map_none]
      refine ⟨_, h.enter_take hcall hfits ?_ rfl rfl (fun _ hrow => hrow) Placed.take_self⟩
      exact Function.update_eq_self_iff.2 (view_eq_none (findKey_eq_none.1 hfind)).symm
  | some row =>
    obtain ⟨hrow, rfl⟩ := (findKey_eq_some h.unique).1 hfind
    have hseen : Seen keyOf state row.id row.key := h.seen hrow
    cases operation with
    | set enabled =>
      simp only [FlagState.proceed, hfind]
      by_cases hsame : enabled = row.enabled
      · subst hsame
        refine ⟨_, h.enter_take hcall hfits ?_ rfl rfl (fun _ hrow => hrow)
          ⟨hseen, rfl, iff_of_true Placed.take_self rfl⟩⟩
        exact Function.update_eq_self_iff.2 (view_of_mem h.unique hrow).symm
      · refine ⟨order, h.enter_same hcall rfl rfl (fun _ hrow => hrow.elim)
          ⟨hseen, rfl, iff_of_false hfits ?_⟩⟩
        exact fun heq => hsame (Operation.set.inj heq)
    | remove =>
      simp only [FlagState.proceed, hfind, Option.map_some]
      exact ⟨order, h.enter_same hcall rfl rfl (fun _ hrow => hrow.elim)
        ⟨rfl, hseen,
          iff_of_false hfits (not_not.2 ⟨row, hrow, rfl⟩)⟩⟩

lemma Sound.proceed_found (hphase : call.phase = .found row)
    (hundisturbed : Undisturbed state (.proceed n)) :
    Sound keyOf order (state.proceed n call) := by
  have hfits := h.fits n call hcall
  obtain ⟨⟨key, operation⟩, retried, phase⟩ := call
  obtain rfl : phase = .found row := hphase
  obtain ⟨hseen, rfl, hplaced⟩ := hfits
  cases operation with
  | remove => exact h
  | set enabled =>
    unfold Undisturbed at hundisturbed
    simp only [hcall] at hundisturbed
    simp only [FlagState.proceed]
    split
    case isTrue hsame =>
      exact h.enter_same hcall rfl rfl (fun _ hrow => hrow.elim) (hplaced.2 (by rw [hsame]))
    case isFalse hne =>
      split
      case h_1 => exact h
      case h_2 hfree hgone =>
        exact absurd (hundisturbed hne hfree) (findId_eq_none.1 hgone)
      case h_3 hfree hfound =>
        obtain ⟨hrow, hid⟩ := mem_of_findId hfound
        refine h.enter_lock hcall hfree rfl rfl (fun _ hrow => hrow)
          ⟨?_, rfl, rfl, hseen, ?_, _, hrow, hid⟩
        · exact fun hin => hne (Operation.set.inj (hplaced.1 hin)).symm
        · exact Function.update_self ..

end

lemma Sound.insert (h : Sound keyOf order state) (hcall : state.calls n = some call)
    (hphase : call.phase = .absent) {enabled : Bool}
    (hoperation : call.request.operation = .set enabled)
    (hinserted : state.overrides.tryInsert (·.key) n call.request.key = .inserted) :
    Sound (Function.update keyOf state.nextId call.request.key) order
      (state.insert n call enabled) := by
  have hfits := h.fits n call hcall
  obtain ⟨⟨key, operation⟩, retried, phase⟩ := call
  obtain rfl : phase = .absent := hphase
  obtain rfl : operation = .set enabled := hoperation
  have hkeys : ∀ id < state.nextId, Function.update keyOf state.nextId key id = keyOf id :=
    fun id hid => Function.update_of_ne hid.ne _ _
  refine ⟨Table.Unique.insert h.unique hinserted, ?_, ?_, ?_, ?_, ?_, ?_⟩
  · intro row hrow
    obtain ⟨hid, hkey⟩ := h.committed row hrow
    exact ⟨Nat.lt_succ_of_lt hid, (hkeys _ hid).trans hkey⟩
  · rintro ⟨m, row⟩ hentry
    rcases Table.mem_uncommitted_insert.1 hentry with hentry | ⟨rfl, rfl⟩
    · obtain ⟨hid, hkey, other, hother, hinserts⟩ := h.uncommitted _ hentry
      refine ⟨Nat.lt_succ_of_lt hid, (hkeys _ hid).trans hkey, other, ?_, hinserts⟩
      have hmn : m ≠ n := by
        rintro rfl
        obtain rfl := Option.some.inj (hcall.symm.trans hother)
        exact hinserts
      exact (Function.update_of_ne hmn _ _).trans hother
    · exact ⟨Nat.lt_succ_self _, Function.update_self .., _, Function.update_self .., rfl⟩
  · intro m other hm
    rcases Run.update_some_cases hm with ⟨rfl, rfl⟩ | ⟨hmn, hm⟩
    · exact ⟨hfits, rfl, rfl, Table.mem_uncommitted_insert.2 (.inr ⟨rfl, rfl⟩)⟩
    · refine (h.fits m other hm).frame ⟨Nat.le_succ _, hkeys, fun _ hlock => hlock,
        fun _ _ hpresent => hpresent,
        fun _ hrow => Table.mem_uncommitted_insert.2 (.inl hrow), ?_, fun hin => hin,
        fun _ hin => hin, fun _ _ _ _ _ hplaced => hplaced⟩
      rintro ⟨m', row⟩ hentry
      rcases Table.mem_uncommitted_insert.1 hentry with hentry | ⟨-, rfl⟩
      · exact .inl hentry
      · exact .inr le_rfl
  · have hrequests : (state.insert n ⟨⟨key, .set enabled⟩, retried, .absent⟩ enabled).requests =
        state.requests := requests_enter hcall _ rfl rfl
    rw [hrequests]
    exact h.explains
  · intro m other hm
    rcases Run.update_some_cases hm with ⟨rfl, rfl⟩ | ⟨-, hm⟩
    · exact h.evidenced m ⟨⟨key, .set enabled⟩, retried, .absent⟩ hcall
    · exact h.evidenced m other hm
  · intro m hm
    by_cases hmn : m = n
    · subst hmn
      simp [FlagState.insert, FlagState.enter] at hm
    · exact h.silent m (by simpa [FlagState.insert, FlagState.enter, hmn] using hm)

lemma Sound.proceed_absent (h : Sound keyOf order state) (hcall : state.calls n = some call)
    (hphase : call.phase = .absent) (hundisturbed : Undisturbed state (.proceed n)) :
    ∃ keyOf', Sound keyOf' order (state.proceed n call) := by
  have hfits := h.fits n call hcall
  obtain ⟨⟨key, operation⟩, retried, phase⟩ := call
  obtain rfl : phase = .absent := hphase
  cases operation with
  | remove => exact ⟨keyOf, h⟩
  | set enabled =>
    unfold Undisturbed at hundisturbed
    simp only [hcall] at hundisturbed
    simp only [FlagState.proceed]
    split
    case h_1 => exact ⟨keyOf, h⟩
    case h_2 hinserted => exact ⟨_, h.insert hcall rfl rfl hinserted⟩
    case h_3 hviolates =>
      split
      case isTrue => exact ⟨keyOf, h⟩
      case isFalse hwritten =>
        unfold FlagState.violate
        split
        case isFalse =>
          exact ⟨keyOf, h.enter hcall ⟨⟨key, .set enabled⟩, true, .called⟩ rfl
            (fun _ _ => Iff.rfl) h.explains (fun _ _ _ hlock => hlock) rfl rfl
            (fun _ hrow => hrow.elim) hfits⟩
        case isTrue hretried =>
          have hown : ∀ entry ∈ state.overrides.uncommitted, entry.1 ≠ n := by
            rintro entry hentry rfl
            obtain ⟨-, -, other, hother, hinserts⟩ := h.uncommitted entry hentry
            obtain rfl := Option.some.inj (hcall.symm.trans hother)
            exact hinserts
          obtain ⟨other, hother, hkey⟩ := Table.exists_committed_of_violates hown hviolates
          have hfind : findKey state.overrides.committed key = some other :=
            (findKey_eq_some h.unique).2 ⟨hother, hkey⟩
          rw [hfind] at hwritten
          exact absurd (hundisturbed hretried other hother hkey) hwritten

variable {change : Change}

section

variable (h : Sound keyOf order state) (hcall : state.calls n = some call)

include h hcall

lemma Sound.proceed_flushed (hphase : call.phase = .flushed change row)
    (hundisturbed : Undisturbed state (.proceed n)) :
    Sound keyOf order (state.proceed n call) := by
  have hfits := h.fits n call hcall
  obtain ⟨⟨key, operation⟩, retried, phase⟩ := call
  obtain rfl : phase = .flushed change row := hphase
  cases operation with
  | remove => cases change <;> exact h
  | set enabled =>
    cases change with
    | update row' => exact h.enter_same hcall rfl rfl (fun _ hrow => hrow) hfits
    | insert row' => exact h.enter_same hcall rfl rfl (fun _ hrow => hrow) hfits
    | delete row' => exact h.enter_same hcall rfl rfl (fun _ hrow => hrow) hfits
    | nothing =>
      unfold Undisturbed at hundisturbed
      simp only [hcall] at hundisturbed
      simp only [FlagState.proceed]
      split
      case h_1 hgone => exact absurd hundisturbed (findId_eq_none.1 hgone)
      case h_2 => exact h.enter_same hcall rfl rfl (fun _ hrow => hrow) hfits

lemma Sound.proceed_selecting {id : Option Uuid} (hphase : call.phase = .selecting id) :
    Sound keyOf order (state.proceed n call) := by
  have hfits := h.fits n call hcall
  obtain ⟨⟨key, operation⟩, retried, phase⟩ := call
  obtain rfl : phase = .selecting id := hphase
  cases operation with
  | set enabled => cases id <;> exact h
  | remove =>
    cases id with
    | none => exact h.enter_same hcall rfl rfl (fun _ hrow => hrow.elim) hfits
    | some id =>
      obtain ⟨-, hseen, hplaced⟩ := hfits
      simp only [FlagState.proceed]
      split
      case h_1 => exact h
      case h_2 hfree hgone =>
        exact h.enter_same hcall rfl rfl (fun _ hrow => hrow.elim)
          (hplaced.2 (findId_eq_none.1 hgone))
      case h_3 row hfree hfound =>
        obtain ⟨hrow, rfl⟩ := mem_of_findId hfound
        have hseenRow : Seen keyOf state row.id row.key := h.seen hrow
        refine h.enter_lock hcall hfree rfl rfl (fun _ hrow => hrow)
          ⟨?_, ?_, hseenRow, ?_, row, hrow, rfl⟩
        · exact fun hin => hplaced.1 hin ⟨row, hrow, rfl⟩
        · exact h.key_of_id hrow hseen.2.1
        · exact Function.update_self ..

lemma Sound.proceed_locked (hphase : call.phase = .locked row) :
    Sound keyOf order (state.proceed n call) := by
  have hfits := h.fits n call hcall
  obtain ⟨⟨key, operation⟩, retried, phase⟩ := call
  obtain rfl : phase = .locked row := hphase
  cases operation with
  | set enabled => exact h
  | remove =>
    obtain ⟨hnot, hkey, hseen, hlock, hpresent⟩ := hfits
    exact h.enter_same hcall rfl rfl (fun _ hrow => hrow.elim)
      ⟨hnot, rfl, hkey, hseen, hlock, hpresent⟩

end

/-! ## Commits -/

lemma Sound.commit (h : Sound keyOf order state) (hcall : state.calls n = some call)
    {change : Change} {result : Option FeatureFlagTenantOverride}
    (hphase : call.phase = .ready change result)
    (hunique : (change.commit n state.overrides).Unique (·.key))
    (hcommitted : ∀ row ∈ (change.commit n state.overrides).committed,
      row.id < state.nextId ∧ keyOf row.id = row.key)
    (huncommitted : ∀ entry ∈ (change.commit n state.overrides).uncommitted,
      entry ∈ state.overrides.uncommitted ∧ entry.1 ≠ n)
    (hframe : ∀ m other, m ≠ n → state.calls m = some other → Frame keyOf keyOf order order' state
      ((state.commit n call change).enter n call (.returned change result)) m other)
    (hexplains : Explains apply state.requests (fun _ => none)
      (state.history ++ [.committed (view (change.commit n state.overrides))]) order'
      (view (change.commit n state.overrides)))
    (hplaced : Placed order' n) :
    Sound keyOf order' ((state.commit n call change).enter n call (.returned change result)) where
  unique := hunique
  committed := hcommitted
  uncommitted entry hentry := by
    obtain ⟨hentry, hne⟩ := huncommitted entry hentry
    obtain ⟨hid, hkey, other, hother, hinserts⟩ := h.uncommitted entry hentry
    exact ⟨hid, hkey, other, (Function.update_of_ne hne _ _).trans hother, hinserts⟩
  fits m other hm := by
    rcases Run.update_some_cases hm with ⟨rfl, rfl⟩ | ⟨hmn, hm⟩
    · exact hplaced
    · exact (h.fits m other hm).frame (hframe m other hmn hm)
  explains := by
    rw [requests_enter hcall { call with phase := .returned change result } rfl rfl]
    have hfinish := hexplains.finish hplaced
    rwa [List.append_assoc] at hfinish
  evidenced m other hm := by
    rcases Run.update_some_cases hm with ⟨rfl, rfl⟩ | ⟨hmn, hm⟩
    · have hrows := h.evidenced m call hcall
      simp only [auditedRows, hphase] at hrows
      simp [FlagState.enter, FlagState.commit, List.filter_append, List.filter_map, hrows,
        auditedRows, Function.comp_def]
    · simpa [FlagState.enter, FlagState.commit, List.filter_append, List.filter_map,
        Function.comp_def, hmn.symm] using h.evidenced m other hm
  silent m hm := by
    by_cases hmn : m = n
    · subst hmn
      simp [FlagState.enter] at hm
    · have hnone : state.calls m = none := by
        simpa [FlagState.enter, FlagState.commit, hmn] using hm
      have hne : n ≠ m := fun heq => hmn heq.symm
      simpa [FlagState.enter, FlagState.commit, List.filter_append, List.filter_map,
        Function.comp_def, hne] using h.silent m hnone

variable {result : Option FeatureFlagTenantOverride}

lemma Sound.inserted_iff (h : Sound keyOf order state) (hcall : state.calls n = some call)
    (hphase : call.phase = .ready change result) (hrow : (n, row) ∈ state.overrides.uncommitted) :
    change = .insert row := by
  obtain ⟨-, -, other, hother, hinserts⟩ := h.uncommitted _ hrow
  obtain rfl := Option.some.inj (hcall.symm.trans hother)
  unfold Inserting at hinserts
  rw [hphase] at hinserts
  exact hinserts

lemma locks_commit (call : Call) (change : Change) (hmn : m ≠ n) (hlock : state.locks id = some m) :
    (state.commit n call change).locks id = some m := by
  have hne : state.locks id ≠ some n := fun heq => hmn (Option.some.inj (hlock.symm.trans heq))
  exact (if_neg hne).trans hlock

lemma present_update {rows : List FeatureFlagTenantOverride} :
    (∃ other ∈ rows.map fun other => if other.id = row.id then row else other, other.id = id) ↔
      ∃ other ∈ rows, other.id = id := by
  constructor
  · rintro ⟨_, hmem, rfl⟩
    obtain ⟨other, hother, rfl⟩ := List.mem_map.1 hmem
    refine ⟨other, hother, ?_⟩
    split
    · assumption
    · rfl
  · rintro ⟨other, hother, rfl⟩
    refine ⟨_, List.mem_map_of_mem hother, ?_⟩
    split
    · exact (by assumption : other.id = row.id).symm
    · rfl

lemma frame_commit (hmn : m ≠ n)
    (huncommitted : (change.commit n state.overrides).uncommitted = state.overrides.uncommitted)
    (hpresent : ∀ id, state.locks id = some m → Present state id →
      ∃ row ∈ (change.commit n state.overrides).committed, row.id = id)
    (hplaced : Placed order m → Placed order' m)
    (hunplaced : (∀ id, other.phase ≠ .selecting (some id)) → Placed order' m → Placed order m)
    (hwaiting : ∀ id key, other.phase = .selecting (some id) → other.request.operation = .remove →
      Seen keyOf state id key → (Placed order m ↔ ¬ Present state id) →
        (Placed order' m ↔ ¬ ∃ row ∈ (change.commit n state.overrides).committed, row.id = id)) :
    Frame keyOf keyOf order order' state
      ((state.commit n call change).enter n call (.returned change result)) m other where
  given := le_rfl
  keys _ _ := rfl
  locks _ hlock := locks_commit call change hmn hlock
  held := hpresent
  uncommitted _ hrow := huncommitted.symm ▸ hrow
  new _ hentry := .inl (huncommitted ▸ hentry)
  placed := hplaced
  unplaced := hunplaced
  waiting := hwaiting

section

variable (h : Sound keyOf order state) (hcall : state.calls n = some call)

include h hcall

lemma Sound.fst_ne (hphase : call.phase = .ready change result)
    (hchange : ∀ row, change ≠ .insert row) {entry : ℕ × FeatureFlagTenantOverride}
    (hentry : entry ∈ state.overrides.uncommitted) :
    entry.1 ≠ n := by
  rintro rfl
  exact hchange _ (h.inserted_iff hcall hphase hentry)

lemma Sound.commit_nothing (hphase : call.phase = .ready .nothing result) :
    Sound keyOf order
      ((state.commit n call .nothing).enter n call (.returned .nothing result)) := by
  have hplaced : Placed order n := by
    have hfits := h.fits n call hcall
    unfold Fits at hfits
    rwa [hphase] at hfits
  refine h.commit hcall hphase h.unique h.committed
    (fun entry hentry => ⟨hentry, h.fst_ne hcall hphase (fun _ => nofun) hentry⟩)
    (fun m other hmn hm => ?_) h.explains.commit hplaced
  exact frame_commit hmn rfl (fun _ _ hpresent => hpresent) (fun hin => hin) (fun _ hin => hin)
    fun _ _ _ _ _ hwaits => hwaits

lemma Sound.commit_update (hphase : call.phase = .ready (.update row) result) :
    Sound keyOf (order ++ [(n, call.request)])
      ((state.commit n call (.update row)).enter n call (.returned (.update row) result)) := by
  have hfits := h.fits n call hcall
  unfold Fits at hfits
  rw [hphase] at hfits
  obtain ⟨hnot, hoperation, hkey, hseen, -, old, hold, hid⟩ := hfits
  have hkeys : ∀ other ∈ state.overrides.committed, other.id = row.id → other.key = row.key := by
    intro other hother heq
    rw [← (h.committed other hother).2, heq, hseen.2.1]
  have hkept : ∀ other : FeatureFlagTenantOverride,
      other ∈ ((Change.update row).commit n state.overrides).committed ↔
        (other ∈ state.overrides.committed ∧ other.id ≠ row.id) ∨ other = row := by
    intro other
    constructor
    · intro hother
      obtain ⟨before, hbefore, rfl⟩ := List.mem_map.1 hother
      split
      · exact .inr rfl
      · exact .inl ⟨hbefore, by assumption⟩
    · rintro (⟨hother, hne⟩ | rfl)
      · exact List.mem_map.2 ⟨other, hother, if_neg hne⟩
      · exact List.mem_map.2 ⟨old, hold, if_pos hid⟩
  have hunique : ((Change.update row).commit n state.overrides).Unique (·.key) := by
    have hupdate : (Change.update row).commit n state.overrides = state.overrides.update
        fun other => if other.id = row.id ∧ other.key = row.key then row else other := by
      refine congrArg (Table.mk · _) (List.map_congr_left fun other hother => ?_)
      exact if_congr ⟨fun heq => ⟨heq, hkeys other hother heq⟩, And.left⟩ rfl rfl
    rw [hupdate]
    refine Table.Unique.update h.unique fun other => ?_
    split
    case isTrue heq => exact heq.2.symm
    case isFalse => rfl
  have hview : view ((Change.update row).commit n state.overrides) =
      apply call.request (view state.overrides) := by
    unfold apply
    rw [hoperation, ← hkey]
    refine view_eq_update h.unique hunique (view_of_mem hunique ((hkept row).2 (.inr rfl)))
      fun other hne => ?_
    rw [hkept]
    constructor
    · rintro (⟨hother, -⟩ | rfl)
      · exact hother
      · exact absurd rfl hne
    · exact fun hother => .inl ⟨hother, fun heq => hne (hkeys other hother heq)⟩
  have hrequest : state.requests n = some call.request := by simp [FlagState.requests, hcall]
  refine h.commit hcall hphase hunique (fun other hother => ?_)
    (fun entry hentry => ⟨hentry, h.fst_ne hcall hphase (fun _ => nofun) hentry⟩)
    (fun m other hmn hm => ?_) (hview ▸ h.explains.change hrequest hnot) Placed.take_self
  · rcases (hkept other).1 hother with ⟨hother, -⟩ | rfl
    · exact h.committed other hother
    · exact ⟨hseen.1, hseen.2.1⟩
  · refine frame_commit hmn rfl (fun id _ hpresent => present_update.2 hpresent)
      (Placed.take_of_ne hmn).2 (fun _ => (Placed.take_of_ne hmn).1) ?_
    intro id key _ _ _ hwaits
    exact (Placed.take_of_ne hmn).trans (hwaits.trans (not_congr present_update.symm))

lemma Sound.commit_insert (hphase : call.phase = .ready (.insert row) result) :
    Sound keyOf (order ++ [(n, call.request)])
      ((state.commit n call (.insert row)).enter n call (.returned (.insert row) result)) := by
  have hfits := h.fits n call hcall
  unfold Fits at hfits
  rw [hphase] at hfits
  obtain ⟨hnot, hoperation, hkey, hrow⟩ := hfits
  have hkept : ∀ other : FeatureFlagTenantOverride,
      other ∈ (state.overrides.commit n).committed ↔
        other ∈ state.overrides.committed ∨ other = row := by
    intro other
    rw [Table.mem_committed_commit]
    refine or_congr_right ⟨fun hother => ?_, fun heq => heq ▸ hrow⟩
    exact (Change.insert.inj (h.inserted_iff hcall hphase hother)).symm
  have hunique : (state.overrides.commit n).Unique (·.key) := Table.Unique.commit h.unique n
  have hview : view (state.overrides.commit n) = apply call.request (view state.overrides) := by
    unfold apply
    rw [hoperation, ← hkey]
    refine view_eq_update h.unique hunique (view_of_mem hunique ((hkept row).2 (.inr rfl)))
      fun other hne => (hkept other).trans (or_iff_left ?_)
    rintro rfl
    exact hne rfl
  have hrequest : state.requests n = some call.request := by simp [FlagState.requests, hcall]
  have hexplains := h.explains.change hrequest hnot
  rw [← hview] at hexplains
  refine h.commit hcall hphase hunique (fun other hother => ?_)
    (fun entry hentry => Table.mem_uncommitted_commit.1 hentry)
    (fun m other hmn hm => ⟨le_rfl, fun _ _ => rfl,
      fun _ hlock => locks_commit call (.insert row) hmn hlock, ?_,
      fun _ hother => Table.mem_uncommitted_commit.2 ⟨hother, hmn⟩,
      fun _ hentry => .inl (Table.mem_uncommitted_commit.1 hentry).1,
      (Placed.take_of_ne hmn).2, fun _ => (Placed.take_of_ne hmn).1, ?_⟩)
    hexplains Placed.take_self
  · rcases (hkept other).1 hother with hother | rfl
    · exact h.committed other hother
    · obtain ⟨hid, hkeyOf, -⟩ := h.uncommitted _ hrow
      exact ⟨hid, hkeyOf⟩
  · rintro id - ⟨other, hother, hid⟩
    exact ⟨other, (hkept other).2 (.inl hother), hid⟩
  · rintro id key - - ⟨-, -, hseen⟩ hwaits
    refine (Placed.take_of_ne hmn).trans (hwaits.trans (not_congr ⟨?_, ?_⟩))
    · rintro ⟨other, hother, hid⟩
      exact ⟨other, (hkept other).2 (.inl hother), hid⟩
    · rintro ⟨other, hother, hid⟩
      rcases (hkept other).1 hother with hother | rfl
      · exact ⟨other, hother, hid⟩
      · exact absurd hid (hseen (n, other) hrow)

lemma Sound.commit_delete (hphase : call.phase = .ready (.delete row) result) :
    ∃ order', Sound keyOf order'
      ((state.commit n call (.delete row)).enter n call (.returned (.delete row) result)) := by
  have hfits := h.fits n call hcall
  unfold Fits at hfits
  rw [hphase] at hfits
  obtain ⟨hnot, hoperation, hkey, hseen, hlock, old, hold, hid⟩ := hfits
  have hkept : ∀ other : FeatureFlagTenantOverride,
      other ∈ ((Change.delete row).commit n state.overrides).committed ↔
        other ∈ state.overrides.committed ∧ other.id ≠ row.id := by
    intro other
    simp [Change.commit, Table.delete]
  have holdKey : old.key = row.key := by
    rw [← (h.committed old hold).2, hid, hseen.2.1]
  have hunique : ((Change.delete row).commit n state.overrides).Unique (·.key) :=
    Table.Unique.delete h.unique _
  have hview : view ((Change.delete row).commit n state.overrides) =
      apply call.request (view state.overrides) := by
    unfold apply
    rw [hoperation, ← hkey]
    refine view_eq_update h.unique hunique (view_eq_none fun other hother heq => ?_)
      fun other hne => (hkept other).trans ⟨And.left, fun hother => ⟨hother, fun heq => hne ?_⟩⟩
    · obtain ⟨hother, hne⟩ := (hkept other).1 hother
      obtain rfl : other = old :=
        h.unique.uniqueOn_committed.eq_of_key_eq hother hold (heq.trans holdKey.symm)
      exact hne hid
    · rw [← (h.committed other hother).2, heq, hseen.2.1]
  have hrequest : state.requests n = some call.request := by simp [FlagState.requests, hcall]
  have hexplains := h.explains.change hrequest hnot
  rw [← hview] at hexplains
  have hwaiter : ∀ m other, state.calls m = some other →
      other.phase = .selecting (some row.id) →
        other.request.operation = .remove ∧ other.request.key = row.key ∧ ¬ Placed order m := by
    intro m other hm hwaits
    have hfits := h.fits m other hm
    unfold Fits at hfits
    rw [hwaits] at hfits
    obtain ⟨hremove, hseenOther, hplaced⟩ := hfits
    exact ⟨hremove, hseenOther.2.1.symm.trans hseen.2.1, fun hin => hplaced.1 hin ⟨old, hold, hid⟩⟩
  obtain ⟨order', hexplains', hmem⟩ := hexplains.take_all
    (fun m => ∃ other, state.calls m = some other ∧ other.phase = .selecting (some row.id)) (by
      rintro m ⟨other, hm, hwaits⟩
      obtain ⟨hremove, hotherKey, -⟩ := hwaiter m other hm hwaits
      refine ⟨other.request, by simp [FlagState.requests, hm], ?_⟩
      rw [hview]
      unfold apply
      rw [hremove, hoperation, hotherKey, ← hkey]
      simp)
  have hplaced : ∀ m other, m ≠ n → state.calls m = some other →
      (Placed order' m ↔ Placed order m ∨ other.phase = .selecting (some row.id)) := by
    intro m other hmn hm
    refine (hmem m).trans (or_congr (Placed.take_of_ne hmn) ⟨?_, fun hwaits => ⟨other, hm, hwaits⟩⟩)
    rintro ⟨other', hm', hwaits⟩
    obtain rfl := Option.some.inj (hm.symm.trans hm')
    exact hwaits
  refine ⟨order', h.commit hcall hphase hunique (fun other hother => ?_)
    (fun entry hentry => ⟨hentry, h.fst_ne hcall hphase (fun _ => nofun) hentry⟩)
    (fun m other hmn hm => frame_commit hmn rfl ?_
      (fun hin => (hplaced m other hmn hm).2 (.inl hin)) ?_ ?_)
    hexplains' ((hmem n).2 (.inl Placed.take_self))⟩
  · exact h.committed other ((hkept other).1 hother).1
  · rintro id hlockOther ⟨other', hother', rfl⟩
    refine ⟨other', (hkept other').2 ⟨hother', fun heq => hmn ?_⟩, rfl⟩
    exact Option.some.inj (hlockOther.symm.trans (heq ▸ hlock))
  · intro hphaseOther hin
    exact ((hplaced m other hmn hm).1 hin).resolve_right (hphaseOther row.id)
  · intro id key hphaseOther _ _ hwaits
    rw [hplaced m other hmn hm, hphaseOther]
    by_cases hidRow : id = row.id
    · subst hidRow
      refine iff_of_true (.inr rfl) ?_
      rintro ⟨other', hother', heq⟩
      exact ((hkept other').1 hother').2 heq
    · have hne : Phase.selecting (some id) ≠ .selecting (some row.id) :=
        fun heq => hidRow (by simpa using heq)
      rw [or_iff_left hne, hwaits]
      refine not_congr ⟨?_, ?_⟩
      · rintro ⟨other', hother', rfl⟩
        exact ⟨other', (hkept other').2 ⟨hother', hidRow⟩, rfl⟩
      · rintro ⟨other', hother', hid'⟩
        exact ⟨other', ((hkept other').1 hother').1, hid'⟩

end

/-! ## Runs -/

lemma Sound.proceed (h : Sound keyOf order state) (hcall : state.calls n = some call)
    (hundisturbed : Undisturbed state (.proceed n)) :
    ∃ keyOf' order', Sound keyOf' order' (state.proceed n call) := by
  cases hphase : call.phase with
  | called => exact ⟨keyOf, h.proceed_called hcall hphase⟩
  | found row => exact ⟨keyOf, order, h.proceed_found hcall hphase hundisturbed⟩
  | absent =>
    obtain ⟨keyOf', h'⟩ := h.proceed_absent hcall hphase hundisturbed
    exact ⟨keyOf', order, h'⟩
  | selecting id => exact ⟨keyOf, order, h.proceed_selecting hcall hphase⟩
  | locked row => exact ⟨keyOf, order, h.proceed_locked hcall hphase⟩
  | flushed change row => exact ⟨keyOf, order, h.proceed_flushed hcall hphase hundisturbed⟩
  | ready change result =>
    refine ⟨keyOf, ?_⟩
    simp only [FlagState.proceed, hphase]
    cases change with
    | nothing => exact ⟨_, h.commit_nothing hcall hphase⟩
    | update row => exact ⟨_, h.commit_update hcall hphase⟩
    | insert row => exact ⟨_, h.commit_insert hcall hphase⟩
    | delete row => exact h.commit_delete hcall hphase
  | returned change result =>
    simp only [FlagState.proceed, hphase]
    exact ⟨keyOf, order, h⟩
  | raised error =>
    simp only [FlagState.proceed, hphase]
    exact ⟨keyOf, order, h⟩

lemma Sound.begins (h : Sound keyOf order state) (request : Request) :
    Sound keyOf order (state.step (.call n request)) := by
  unfold FlagState.step
  dsimp only
  split
  case h_2 => exact h
  case h_1 hnone =>
    have hrequests : state.requests n = none := by simp [FlagState.requests, hnone]
    have hbegan := h.explains.began hrequests request
    have hnot : ¬ Placed order n := by
      intro hin
      obtain ⟨entry, hentry, rfl⟩ := List.mem_map.1 hin
      exact absurd ((h.explains.requested entry hentry).symm.trans hrequests) nofun
    refine ⟨h.unique, h.committed, fun entry hentry => ?_, fun m other hm => ?_, ?_,
      fun m other hm => ?_, fun m hm => ?_⟩
    · obtain ⟨hid, hkey, other, hother, hinserts⟩ := h.uncommitted entry hentry
      have hne : entry.1 ≠ n := by
        rintro rfl
        exact absurd (hnone.symm.trans hother) nofun
      exact ⟨hid, hkey, other, (Function.update_of_ne hne _ _).trans hother, hinserts⟩
    · rcases Run.update_some_cases hm with ⟨rfl, rfl⟩ | ⟨hmn, hm⟩
      · exact hnot
      · exact h.fits m other hm
    · have heq : FlagState.requests { state with
          calls := Function.update state.calls n (some ⟨request, false, .called⟩)
          history := state.history ++ [.began n] } =
            Function.update state.requests n (some request) := by
        funext m
        unfold FlagState.requests
        by_cases hm : m = n
        · simp [hm]
        · simp [Function.update_of_ne hm]
      rw [heq]
      exact hbegan
    · rcases Run.update_some_cases hm with ⟨rfl, rfl⟩ | ⟨hmn, hm⟩
      · exact h.silent _ hnone
      · exact h.evidenced m other hm
    · by_cases hmn : m = n
      · subst hmn
        simp at hm
      · exact h.silent m (by simpa [hmn] using hm)

lemma Sound.step (h : Sound keyOf order state) {event : FlagEvent}
    (hundisturbed : Undisturbed state event) :
    ∃ keyOf' order', Sound keyOf' order' (state.step event) := by
  cases event with
  | call n request => exact ⟨keyOf, order, h.begins request⟩
  | proceed n =>
    unfold FlagState.step
    dsimp only
    split
    case h_1 call hcall => exact h.proceed hcall hundisturbed
    case h_2 => exact ⟨keyOf, order, h⟩

lemma Sound.raises (h : Sound keyOf order state) {event : FlagEvent}
    (hdisturbed : ¬ Undisturbed state event) : ¬ Serializable (state.step event) := by
  cases event with
  | call n request => exact absurd trivial hdisturbed
  | proceed n =>
    cases hcall : state.calls n with
    | none =>
      unfold Undisturbed at hdisturbed
      simp [hcall] at hdisturbed
    | some call =>
      -- it is enough that the call enters a phase in which it has raised
      suffices hraised : ∃ error, state.proceed n call = state.enter n call (.raised error) by
        obtain ⟨error, hstep⟩ := hraised
        have heq : state.step (.proceed n) = state.enter n call (.raised error) := by
          unfold FlagState.step
          simp only [hcall, hstep]
        rw [heq]
        exact fun hserial => hserial.normal n _ (Function.update_self ..) error rfl
      unfold Undisturbed at hdisturbed
      simp only [hcall] at hdisturbed
      obtain ⟨⟨key, operation⟩, retried, phase⟩ := call
      cases operation with
      | remove => cases phase <;> simp at hdisturbed
      | set enabled =>
        cases phase with
        | called | selecting id | locked row | ready change result | returned change result
        | raised error => simp at hdisturbed
        | found row =>
          simp only [Classical.not_imp] at hdisturbed
          obtain ⟨hne, hfree, hgone⟩ := hdisturbed
          refine ⟨.staleDataError, ?_⟩
          simp only [FlagState.proceed, if_neg hne, hfree, findId_eq_none.2 hgone]
        | absent =>
          simp only [Classical.not_imp, not_forall] at hdisturbed
          obtain ⟨hretried, other, hother, rfl, hwritten⟩ := hdisturbed
          have hviolates := Table.tryInsert_of_committed (t := n) hother h.unique
          have hfind := (findKey_eq_some h.unique).2 ⟨hother, rfl⟩
          refine ⟨.integrityError, ?_⟩
          simp only [FlagState.proceed, hviolates, hfind, Option.any_some, hwritten,
            FlagState.violate, hretried]
          rfl
        | flushed change row =>
          cases change with
          | update row' | insert row' | delete row' => simp at hdisturbed
          | nothing =>
            refine ⟨.invalidRequestError, ?_⟩
            simp only [FlagState.proceed, findId_eq_none.2 hdisturbed]

lemma sound_initial : Sound (fun _ => ⟨0, 0⟩) [] FlagState.initial where
  unique := List.nodup_nil
  committed _ h := nomatch h
  uncommitted _ h := nomatch h
  fits _ _ h := nomatch h
  explains := .nil apply _
  evidenced _ _ h := nomatch h
  silent _ _ := rfl

lemma replay_of_last {start : View} (before : List (ℕ × Request))
    {enabled : Bool} (hoperation : request.operation = .set enabled)
    (after : List (ℕ × Request)) (hafter : ∀ later ∈ after, later.2.key ≠ request.key) :
    replay apply start (before ++ (n, request) :: after) request.key = some enabled := by
  induction after using List.reverseRecOn with
  | nil =>
    rw [replay_concat]
    unfold apply
    rw [hoperation]
    exact Function.update_self ..
  | append_singleton after later ih =>
    rw [← List.cons_append, ← List.append_assoc, replay_concat]
    have hne : request.key ≠ later.2.key := (hafter later (by simp)).symm
    have hkept : ∀ view : View, apply later.2 view request.key = view request.key := by
      intro view
      unfold apply
      cases later.2.operation with
      | set value => exact Function.update_of_ne hne _ _
      | remove => exact Function.update_of_ne hne _ _
    rw [hkept]
    exact ih fun other hother => hafter other (List.mem_append_left _ hother)

/-! ## Waiting -/

def Typed (call : Call) : Prop :=
  match call.phase, call.request.operation with
  | .found _, .remove | .absent, .remove | .flushed _ _, .remove => False
  | .selecting _, .set _ | .locked _, .set _ => False
  | _, _ => True

def Ends (call : Call) : Prop :=
  match call.phase with
  | .locked _ | .flushed _ _ | .ready _ _ => True
  | _ => False

/-- The phases are those of the operations, and no call that holds a lock waits. -/
structure Live (state : FlagState) : Prop where
  typed : ∀ n call, state.calls n = some call → Typed call
  locks : ∀ id n, state.locks id = some n → ∃ call, state.calls n = some call ∧ Ends call

variable {new : Call}

section

variable (h : Live state) (hcall : state.calls n = some call)

include h hcall

lemma Live.enter {locks : Uuid → Option ℕ} (htyped : Typed new) (hends : Ends call → Ends new)
    (hlocks : ∀ id m, locks id = some m → state.locks id = some m ∨ (m = n ∧ Ends new)) :
    Live { state with locks := locks, calls := Function.update state.calls n (some new) } where
  typed m other hm := by
    rcases Run.update_some_cases hm with ⟨rfl, rfl⟩ | ⟨-, hm⟩
    · exact htyped
    · exact h.typed m other hm
  locks id m hm := by
    rcases hlocks id m hm with hm | ⟨rfl, hnew⟩
    · obtain ⟨other, hother, hotherEnds⟩ := h.locks id m hm
      by_cases hmn : m = n
      · subst hmn
        obtain rfl := Option.some.inj (hcall.symm.trans hother)
        exact ⟨new, Function.update_self .., hends hotherEnds⟩
      · exact ⟨other, (Function.update_of_ne hmn _ _).trans hother, hotherEnds⟩
    · exact ⟨new, Function.update_self .., hnew⟩

lemma Live.enter_same (htyped : Typed new) (hends : Ends call → Ends new) :
    Live { state with calls := Function.update state.calls n (some new) } :=
  h.enter hcall htyped hends fun _ _ hlock => .inl hlock

lemma Live.enter_lock (htyped : Typed { call with phase := phase })
    (hends : Ends { call with phase := phase }) :
    Live ((state.lock n id).enter n call phase) := by
  refine h.enter hcall htyped (fun _ => hends) fun id' m hlock => ?_
  rcases Run.update_some_cases hlock with ⟨-, rfl⟩ | ⟨-, hlock⟩
  · exact .inr ⟨rfl, hends⟩
  · exact .inl hlock

end

lemma Live.commit (h : Live state) {change : Change} {result : Option FeatureFlagTenantOverride} :
    Live ((state.commit n call change).enter n call (.returned change result)) where
  typed m other hm := by
    rcases Run.update_some_cases hm with ⟨rfl, rfl⟩ | ⟨-, hm⟩
    · trivial
    · exact h.typed m other hm
  locks id m hm := by
    obtain ⟨hne, hm⟩ : state.locks id ≠ some n ∧ state.locks id = some m := by
      simpa [FlagState.enter, FlagState.commit] using hm
    obtain ⟨other, hother, hends⟩ := h.locks id m hm
    have hmn : m ≠ n := fun heq => hne (heq ▸ hm)
    exact ⟨other, (Function.update_of_ne hmn _ _).trans hother, hends⟩

lemma Live.proceed (h : Live state) (hcall : state.calls n = some call)
    (hundisturbed : Undisturbed state (.proceed n)) : Live (state.proceed n call) := by
  have htyped := h.typed n call hcall
  unfold Undisturbed at hundisturbed
  simp only [hcall] at hundisturbed
  obtain ⟨⟨key, operation⟩, retried, phase⟩ := call
  cases phase with
  | ready change result => exact h.commit
  | returned change result => exact h
  | raised error => exact h
  | called =>
    cases operation with
    | remove => exact h.enter_same hcall trivial False.elim
    | set enabled =>
      simp only [FlagState.proceed]
      split <;> exact h.enter_same hcall trivial False.elim
  | found row =>
    cases operation with
    | remove => exact h
    | set enabled =>
      simp only [FlagState.proceed]
      split
      case isTrue => exact h.enter_same hcall trivial False.elim
      case isFalse =>
        split
        case h_1 => exact h
        case h_2 => exact h.enter_same hcall trivial False.elim
        case h_3 => exact h.enter_lock hcall trivial trivial
  | absent =>
    cases operation with
    | remove => exact h
    | set enabled =>
      simp only [FlagState.proceed]
      split
      case h_1 => exact h
      case h_2 =>
        have hlive : Live (state.enter n ⟨⟨key, .set enabled⟩, retried, .absent⟩
            (.flushed (.insert ⟨state.nextId, key, enabled⟩) ⟨state.nextId, key, enabled⟩)) :=
          h.enter_same hcall trivial False.elim
        exact ⟨hlive.typed, hlive.locks⟩
      case h_3 =>
        split
        case isTrue => exact h
        case isFalse =>
          unfold FlagState.violate
          split <;> exact h.enter_same hcall trivial False.elim
  | selecting id =>
    cases operation with
    | set enabled => exact htyped.elim
    | remove =>
      cases id with
      | none => exact h.enter_same hcall trivial False.elim
      | some id =>
        simp only [FlagState.proceed]
        split
        case h_1 => exact h
        case h_2 => exact h.enter_same hcall trivial False.elim
        case h_3 => exact h.enter_lock hcall trivial trivial
  | locked row =>
    cases operation with
    | set enabled => exact htyped.elim
    | remove => exact h.enter_same hcall trivial fun _ => trivial
  | flushed change row =>
    cases operation with
    | remove => exact htyped.elim
    | set enabled =>
      cases change with
      | update row' | insert row' | delete row' =>
        exact h.enter_same hcall trivial fun _ => trivial
      | nothing =>
        simp only [FlagState.proceed]
        split
        case h_1 hgone => exact absurd hundisturbed (findId_eq_none.1 hgone)
        case h_2 => exact h.enter_same hcall trivial fun _ => trivial

lemma Live.step (h : Live state) {event : FlagEvent} (hundisturbed : Undisturbed state event) :
    Live (state.step event) := by
  cases event with
  | proceed n =>
    unfold FlagState.step
    dsimp only
    split
    case h_1 call hcall => exact h.proceed hcall hundisturbed
    case h_2 => exact h
  | call n request =>
    unfold FlagState.step
    dsimp only
    split
    case h_2 => exact h
    case h_1 hnone =>
      constructor
      · intro m other hm
        rcases Run.update_some_cases hm with ⟨rfl, rfl⟩ | ⟨-, hm⟩
        · trivial
        · exact h.typed m other hm
      · intro id m hm
        obtain ⟨other, hother, hends⟩ := h.locks id m hm
        have hmn : m ≠ n := by
          rintro rfl
          exact absurd (hnone.symm.trans hother) nofun
        exact ⟨other, (Function.update_of_ne hmn _ _).trans hother, hends⟩

lemma live_initial : Live FlagState.initial where
  typed _ _ h := nomatch h
  locks _ _ h := nomatch h

lemma goes_enter (h : (state.proceed n call).calls n = some new)
    (hremaining : new.remaining < call.remaining) : Goes state n call :=
  ⟨new, h, hremaining⟩

lemma Live.goes_of_ends (h : Live state) (hcall : state.calls n = some call) (hends : Ends call) :
    Goes state n call := by
  have htyped := h.typed n call hcall
  obtain ⟨⟨key, operation⟩, retried, phase⟩ := call
  cases phase with
  | called | found row | absent | selecting id | returned change result | raised error =>
    exact hends.elim
  | ready change result =>
    exact goes_enter (Function.update_self ..) (by simp [Call.remaining])
  | locked row =>
    cases operation with
    | set enabled => exact htyped.elim
    | remove => exact goes_enter (Function.update_self ..) (by simp [Call.remaining])
  | flushed change row =>
    cases operation with
    | remove => exact htyped.elim
    | set enabled =>
      cases change with
      | update row' | insert row' | delete row' =>
        exact goes_enter (Function.update_self ..) (by simp [Call.remaining])
      | nothing =>
        unfold Goes
        simp only [FlagState.proceed]
        split
        · exact ⟨_, Function.update_self .., by simp [Call.remaining]⟩
        · exact ⟨_, Function.update_self .., by simp [Call.remaining]⟩

lemma Inserting.ends (h : Inserting call row) : Ends call := by
  obtain ⟨request, retried, phase⟩ := call
  cases phase with
  | flushed change row' => trivial
  | ready change result => trivial
  | _ => exact h.elim

lemma exists_lock_of_isWritten (h : state.isWritten id = true) :
    ∃ m, state.locks id = some m := by
  cases hlock : state.locks id with
  | some m => exact ⟨m, rfl⟩
  | none =>
    unfold FlagState.isWritten at h
    simp [hlock] at h

lemma exists_of_waits {table : Table ℕ FeatureFlagTenantOverride}
    (h : table.tryInsert (·.key) n key = .waits) : ∃ entry, entry ∈ table.uncommitted := by
  unfold Table.tryInsert at h
  split at h
  case isTrue hwaits =>
    obtain ⟨entry, hentry, -⟩ := List.any_eq_true.1 hwaits
    exact ⟨entry, hentry⟩
  case isFalse => split at h <;> cases h

lemma Sound.goes (h : Sound keyOf order state) (hlive : Live state)
    (hcall : state.calls n = some call)
    (hreturned : ∀ change result, call.phase ≠ .returned change result) :
    Goes state n call ∨ ∃ m other, state.calls m = some other ∧ Goes state m other := by
  have hholder : ∀ id m, state.locks id = some m →
      ∃ m other, state.calls m = some other ∧ Goes state m other := by
    intro id m hlock
    obtain ⟨other, hother, hends⟩ := hlive.locks id m hlock
    exact ⟨m, other, hother, hlive.goes_of_ends hother hends⟩
  by_cases hends : Ends call
  · exact .inl (hlive.goes_of_ends hcall hends)
  have htyped := hlive.typed n call hcall
  have hfits := h.fits n call hcall
  obtain ⟨⟨key, operation⟩, retried, phase⟩ := call
  cases phase with
  | locked row | flushed change row | ready change result => exact absurd trivial hends
  | returned change result => exact absurd rfl (hreturned change result)
  | raised error => exact hfits.elim
  | called =>
    refine .inl ?_
    unfold Goes
    cases operation with
    | remove => exact ⟨_, Function.update_self .., by simp [Call.remaining]⟩
    | set enabled =>
      simp only [FlagState.proceed]
      split <;> exact ⟨_, Function.update_self .., by simp [Call.remaining]⟩
  | found row =>
    cases operation with
    | remove => exact htyped.elim
    | set enabled =>
      cases hlock : state.locks row.id with
      | some m => exact .inr (hholder row.id m hlock)
      | none =>
        refine .inl ?_
        unfold Goes
        simp only [FlagState.proceed, hlock]
        split
        · exact ⟨_, Function.update_self .., by simp [Call.remaining]⟩
        · split <;> first
            | exact ⟨_, Function.update_self .., by simp [Call.remaining]⟩
            | contradiction
  | selecting id =>
    cases operation with
    | set enabled => exact htyped.elim
    | remove =>
      cases id with
      | none => exact .inl (goes_enter (Function.update_self ..) (by simp [Call.remaining]))
      | some id =>
        cases hlock : state.locks id with
        | some m => exact .inr (hholder id m hlock)
        | none =>
          refine .inl ?_
          unfold Goes
          simp only [FlagState.proceed, hlock]
          split <;> first
            | exact ⟨_, Function.update_self .., by simp [Call.remaining]⟩
            | contradiction
  | absent =>
    cases operation with
    | remove => exact htyped.elim
    | set enabled =>
      cases hinsertion : state.overrides.tryInsert (·.key) n key with
      | inserted =>
        refine .inl ?_
        unfold Goes
        simp only [FlagState.proceed, hinsertion]
        exact ⟨_, Function.update_self .., by simp [Call.remaining]⟩
      | waits =>
        obtain ⟨⟨m, row⟩, hentry⟩ := exists_of_waits hinsertion
        obtain ⟨-, -, other, hother, hinserts⟩ := h.uncommitted _ hentry
        exact .inr ⟨m, other, hother, hlive.goes_of_ends hother hinserts.ends⟩
      | violates =>
        cases hwritten :
          (findKey state.overrides.committed key).any (state.isWritten ·.id) with
        | true =>
          obtain ⟨row, -, hrow⟩ := Option.any_eq_true _ _ |>.1 hwritten
          obtain ⟨m, hlock⟩ := exists_lock_of_isWritten hrow
          exact .inr (hholder row.id m hlock)
        | false =>
          refine .inl ?_
          unfold Goes
          simp only [FlagState.proceed, hinsertion, hwritten, FlagState.violate]
          cases retried with
          | true => exact ⟨_, Function.update_self .., by simp [Call.remaining]⟩
          | false => exact ⟨_, Function.update_self .., by simp [Call.remaining]⟩

lemma Sound.serializable (h : Sound keyOf order state) (hlive : Live state) :
    Serializable state where
  single key := h.unique.countP_committed_le_one key
  normal n call hcall error hphase := by
    have hfits := h.fits n call hcall
    unfold Fits at hfits
    rwa [hphase] at hfits
  live n call hcall hreturned := h.goes hlive hcall hreturned
  serial := by
    refine ⟨order, h.explains, fun n call change result hcall hphase => ?_, ?_⟩
    · have hfits := h.fits n call hcall
      unfold Fits at hfits
      rwa [hphase] at hfits
    · rintro before n request after enabled rfl hoperation hafter
      rw [h.explains.last]
      exact replay_of_last before hoperation after hafter
  evidenced := h.evidenced

/-- **The calls are serializable exactly as long as nothing was removed, or inserted, in between.** -/
theorem serializable_iff (events : List FlagEvent) :
    Run.Along FlagState.step Undisturbed FlagState.initial events ↔
      Run.Always FlagState.step Serializable FlagState.initial events := by
  suffices hsound : ∀ events state, (∃ keyOf order, Sound keyOf order state) → Live state →
      (Run.Along FlagState.step Undisturbed state events ↔
        Run.Always FlagState.step Serializable state events) from
    hsound events FlagState.initial ⟨_, [], sound_initial⟩ live_initial
  intro events
  induction events with
  | nil =>
    rintro state ⟨keyOf, order, h⟩ hlive
    refine iff_of_true trivial fun before after heq => ?_
    obtain ⟨rfl, -⟩ := List.append_eq_nil_iff.1 heq.symm
    exact h.serializable hlive
  | cons event events ih =>
    rintro state ⟨keyOf, order, h⟩ hlive
    constructor
    · rintro ⟨hundisturbed, halong⟩ before after heq
      cases before with
      | nil => exact h.serializable hlive
      | cons first before =>
        obtain ⟨rfl, rfl⟩ := List.cons.inj heq
        exact (ih _ (h.step hundisturbed) (hlive.step hundisturbed)).1 halong before after rfl
    · intro halways
      have hundisturbed : Undisturbed state event := by
        by_contra hdisturbed
        exact h.raises hdisturbed (halways [event] events rfl)
      refine ⟨hundisturbed, (ih _ (h.step hundisturbed) (hlive.step hundisturbed)).2 ?_⟩
      rintro before after rfl
      exact halways (event :: before) after rfl

end SaasOs.FeatureFlags
