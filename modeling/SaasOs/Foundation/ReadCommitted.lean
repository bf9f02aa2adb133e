import SaasOs.Foundation.LockTable
import SaasOs.Foundation.LockedRead
import SaasOs.Foundation.Run

/-!
# Transactions under read committed

A service call is a `Program`: statements, commits and rollbacks, and at the end a result.  Each
statement reads what the others have committed by then together with the writes of its own
transaction, locks what it has to lock, or waits, and adds to those writes.  A commit makes them
visible to everybody and gives the locks back; a rollback forgets them.  Calls are interleaved
statement by statement, and each of them may end at any moment without a trace of its open
transaction.
-/

namespace LockTable

variable {ρ τ : Type} [DecidableEq τ]

def heldBy (t : LockTable ρ τ) (i : τ) : List (ρ × LockMode) :=
  (t.held.filter fun l => decide (l.holder = i)).map fun l => (l.resource, l.mode)

lemma mem_heldBy {t : LockTable ρ τ} {i : τ} {resource : ρ} {mode : LockMode} :
    (resource, mode) ∈ t.heldBy i ↔ t.Holds i mode resource := by
  unfold heldBy Holds
  rw [List.mem_map]
  constructor
  · rintro ⟨l, hl, heq⟩
    obtain ⟨hmem, hholder⟩ := List.mem_filter.mp hl
    obtain ⟨rfl, rfl⟩ := Prod.mk.inj heq
    rw [decide_eq_true_iff] at hholder
    subst hholder
    exact hmem
  · intro hmem
    exact ⟨_, List.mem_filter.mpr ⟨hmem, decide_eq_true rfl⟩, rfl⟩

variable (t : LockTable ρ τ)

@[simp] lemma heldBy_release_self (i : τ) : (t.release i).heldBy i = [] := by
  unfold heldBy release
  dsimp only
  rw [List.filter_filter, List.map_eq_nil_iff, List.filter_eq_nil_iff]
  intro l _
  simp

@[simp] lemma heldBy_release_of_ne {i j : τ} (hji : j ≠ i) :
    (t.release i).heldBy j = t.heldBy j := by
  unfold heldBy release
  dsimp only
  rw [List.filter_filter]
  congr 1
  refine List.filter_congr fun l _ => ?_
  by_cases hl : l.holder = j
  · simp [hl, hji]
  · simp [hl]

section Acquire

variable [DecidableEq ρ]

variable {t t' : LockTable ρ τ} {mode : LockMode} {resources : List ρ}

lemma heldBy_acquire_self {i : τ} (h : t.acquire i mode resources = some t') :
    t'.heldBy i = (resources.map fun resource => (resource, mode)) ++ t.heldBy i := by
  unfold acquire at h
  split at h
  · cases h
    unfold heldBy requests
    dsimp only
    rw [List.filter_append, List.map_append]
    congr 1
    rw [List.filter_eq_self.mpr, List.map_map]
    · rfl
    · rintro l hl
      obtain ⟨_, -, rfl⟩ := List.mem_map.mp hl
      exact decide_eq_true rfl
  · cases h

lemma heldBy_acquire_of_ne {i j : τ} (hji : j ≠ i) (h : t.acquire i mode resources = some t') :
    t'.heldBy j = t.heldBy j := by
  unfold acquire at h
  split at h
  · cases h
    unfold heldBy requests
    dsimp only
    rw [List.filter_append, List.map_append]
    have hnone : (List.map (fun resource => (⟨resource, mode, i⟩ : HeldLock ρ τ)) resources).filter
        (fun l => decide (l.holder = j)) = [] := by
      rw [List.filter_eq_nil_iff]
      rintro l hl
      obtain ⟨_, -, rfl⟩ := List.mem_map.mp hl
      simpa using hji.symm
    rw [hnone]
    rfl
  · cases h

end Acquire

end LockTable

namespace ReadCommitted

abbrev Locks (ρ : Type) := List (ρ × LockMode)

def Compatible {ρ : Type} (held held' : Locks ρ) : Prop :=
  ∀ resource mode mode', (resource, mode) ∈ held → (resource, mode') ∈ held' →
    mode = .share ∧ mode' = .share

variable {ρ : Type}

lemma Compatible.not_mem {held held' : Locks ρ} (h : Compatible held held') {resource : ρ}
    (hheld : (resource, .exclusive) ∈ held) (mode : LockMode) :
    (resource, mode) ∉ held' := by
  intro hheld'
  have hshare := (h resource _ _ hheld hheld').1
  cases hshare

lemma Compatible.not_exclusive {held held' : Locks ρ} (h : Compatible held held') {resource : ρ}
    {mode : LockMode} (hheld : (resource, mode) ∈ held) :
    (resource, .exclusive) ∉ held' := by
  intro hheld'
  have hshare := (h resource _ _ hheld hheld').2
  cases hshare

/-! ## Programs -/

/-- The program of a call: `δ` is the contents of the database, `ω` what is written to it, `ρ` what
can be locked and `α` the result. -/
inductive Program (δ ω ρ α : Type)
  /-- The call ends; an open transaction is lost. -/
  | done (a : α)
  /-- One statement: it locks, and reads and writes once everything is locked. -/
  | statement (mode : LockMode) (resources : δ → List ρ) (writes : δ → List ω)
      (next : δ → Program δ ω ρ α)
  /-- The transaction is committed and the next one begins. -/
  | commit (next : Program δ ω ρ α)
  /-- The transaction is rolled back and the next one begins. -/
  | rollback (next : Program δ ω ρ α)

namespace Program

variable {δ ω ρ α β : Type}

def bind : Program δ ω ρ α → (α → Program δ ω ρ β) → Program δ ω ρ β
  | done a, f => f a
  | statement mode resources writes next, f =>
    statement mode resources writes fun view => (next view).bind f
  | commit next, f => commit (next.bind f)
  | rollback next, f => rollback (next.bind f)

instance : Monad (Program δ ω ρ) where
  pure := done
  bind := bind

end Program

/-- The part of a call that lies in one transaction and may raise. -/
abbrev Body (δ ω ρ ε : Type) := ExceptT ε (Program δ ω ρ)

namespace Body

variable {δ ω ρ ε α : Type}

def statement (mode : LockMode) (resources : δ → List ρ) (writes : δ → List ω)
    (result : δ → Except ε α) : Body δ ω ρ ε α :=
  ExceptT.mk (.statement mode resources writes fun view => .done (result view))

def lockedRead (mode : LockMode) (resources : δ → List ρ) (result : δ → Except ε α) :
    Body δ ω ρ ε α :=
  statement mode resources (fun _ => []) result

def read (result : δ → Except ε α) : Body δ ω ρ ε α :=
  lockedRead .share (fun _ => []) result

/-- A read that leaves the rows it relied on locked `FOR SHARE`. -/
def query {σ : Type} (row : σ → ρ) (answer : δ → LockedRead σ α) : Body δ ω ρ ε α :=
  lockedRead .share (fun db => (answer db).locks.map row) fun db => .ok (answer db).val

def lock (mode : LockMode) (resource : ρ) : Body δ ω ρ ε Unit :=
  lockedRead mode (fun _ => [resource]) fun _ => .ok ()

def check (result : Except ε α) : Body δ ω ρ ε α := ExceptT.mk (.done result)

/-- Run the body in a transaction, which is committed when the body returns and rolled back when it
raises. -/
def transaction (body : Body δ ω ρ ε α) : Program δ ω ρ (Except ε α) :=
  body.run.bind fun
    | .ok a => .commit (.done (.ok a))
    | .error e => .rollback (.done (.error e))

end Body

/-! ## The system -/

/-- A call in progress: what is left of its program, the writes of its open transaction, and those
it has committed. -/
structure Session (κ δ ω ρ α : Type) where
  call : κ
  program : Program δ ω ρ α
  writes : List ω := []
  committed : List ω := []

/-- A call that has ended, with its result and with what it has committed. -/
structure Outcome (κ ω α : Type) where
  call : κ
  result : α
  committed : List ω

/-- The committed contents, the locks, the calls in progress and those that have ended. -/
structure System (κ δ ω ρ α : Type) where
  db : δ
  locks : LockTable ρ ℕ
  session : ℕ → Option (Session κ δ ω ρ α)
  finished : List (Outcome κ ω α)

inductive Event (κ δ : Type)
  /-- A call begins. -/
  | start (i : ℕ) (call : κ)
  /-- A call takes its next step, unless it has to wait. -/
  | advance (i : ℕ)
  /-- A call is cut off: a crash, a timeout, or the victim of a deadlock. -/
  | abort (i : ℕ)
  /-- Somebody else changes the contents. -/
  | external (db : δ)

def Event.isInternal {κ δ : Type} : Event κ δ → Bool
  | start _ _ | advance _ | abort _ => true
  | external _ => false

namespace System

variable {κ δ ω ρ α : Type}

def initial (db : δ) : System κ δ ω ρ α where
  db := db
  locks := .empty
  session := fun _ => none
  finished := []

def close (s : System κ δ ω ρ α) (i : ℕ) : System κ δ ω ρ α :=
  { s with
    locks := s.locks.release i
    session := Function.update s.session i none }

def proceed (s : System κ δ ω ρ α) (i : ℕ) (locks : LockTable ρ ℕ) (session : Session κ δ ω ρ α) :
    System κ δ ω ρ α :=
  { s with
    locks := locks
    session := Function.update s.session i (some session) }

variable [DecidableEq ρ] (service : κ → Program δ ω ρ α) (apply : δ → ω → δ)

def advance (s : System κ δ ω ρ α) (i : ℕ) (session : Session κ δ ω ρ α) : System κ δ ω ρ α :=
  match session.program with
  | .done a =>
    { s.close i with finished := s.finished ++ [⟨session.call, a, session.committed⟩] }
  | .statement mode resources writes next =>
    let view := session.writes.foldl apply s.db
    match s.locks.acquire i mode (resources view) with
    | none => s
    | some locks =>
      s.proceed i locks
        { session with program := next view, writes := session.writes ++ writes view }
  | .commit next =>
    { s.proceed i (s.locks.release i)
        { session with
          program := next, writes := [], committed := session.committed ++ session.writes } with
      db := session.writes.foldl apply s.db }
  | .rollback next =>
    s.proceed i (s.locks.release i) { session with program := next, writes := [] }

def step (s : System κ δ ω ρ α) : Event κ δ → System κ δ ω ρ α
  | .start i call =>
    match s.session i with
    | none => s.proceed i s.locks { call := call, program := service call }
    | some _ => s
  | .advance i =>
    match s.session i with
    | none => s
    | some session => s.advance apply i session
  | .abort i => s.close i
  | .external db => { s with db := db }

end System

/-! ## Protocols -/

structure Protocol (κ δ ω ρ : Type) where
  /-- What a write does. -/
  apply : δ → ω → δ
  /-- What holds of the committed contents. -/
  Inv : δ → Prop
  /-- How a call that holds the locks may change the contents when it commits. -/
  Guarantee : κ → Locks ρ → δ → δ → Prop
  /-- How the contents change otherwise. -/
  External : δ → δ → Prop
  /-- How the contents change at most while a call holds the locks. -/
  Rely : Locks ρ → δ → δ → Prop
  rely_refl : ∀ held db, Rely held db db
  rely_trans : ∀ held db db' db'', Rely held db db' → Rely held db' db'' → Rely held db db''
  inv_of_guarantee : ∀ call held db db', Inv db → Guarantee call held db db' → Inv db'
  inv_of_external : ∀ db db', Inv db → External db db' → Inv db'
  rely_of_guarantee : ∀ call held held' db db', Compatible held held' → Inv db →
    Guarantee call held' db db' → Rely held db db'
  rely_of_external : ∀ held db db', Inv db → External db db' → Rely held db db'

/-- How far a call has come: its locks, the writes of its open transaction, and those it has
committed. -/
structure Standing (ω ρ : Type) where
  held : Locks ρ := []
  writes : List ω := []
  committed : List ω := []

namespace Protocol

variable {κ δ ω ρ α β ε : Type} (P : Protocol κ δ ω ρ) (call : κ)

def view (db : δ) (writes : List ω) : δ := writes.foldl P.apply db

/-- The program keeps the protocol whatever the others do, and ends as `Q` says. -/
def Safe (Q : α → Standing ω ρ → δ → Prop) : Program δ ω ρ α → Standing ω ρ → δ → Prop
  | .done a, t, db => Q a t db
  | .statement mode resources writes next, t, db => ∀ db', P.Rely t.held db db' → P.Inv db' →
    Safe Q (next (P.view db' t.writes))
      { t with
        held := ((resources (P.view db' t.writes)).map fun resource => (resource, mode)) ++ t.held
        writes := t.writes ++ writes (P.view db' t.writes) } db'
  | .commit next, t, db => ∀ db', P.Rely t.held db db' → P.Inv db' →
    P.Guarantee call t.held db' (P.view db' t.writes) ∧
      Safe Q next { committed := t.committed ++ t.writes } (P.view db' t.writes)
  | .rollback next, t, db => ∀ db', P.Rely t.held db db' → P.Inv db' →
    Safe Q next { committed := t.committed } db'

variable {P call}

variable {program : Program δ ω ρ α}

lemma Safe.mono {Q Q' : α → Standing ω ρ → δ → Prop} (hQ : ∀ a t db, Q a t db → Q' a t db)
    {t : Standing ω ρ} {db : δ} (h : P.Safe call Q program t db) :
    P.Safe call Q' program t db := by
  induction program generalizing t db with
  | done a => exact hQ a t db h
  | statement mode resources writes next ih =>
    intro db' hrely hinv
    exact ih _ (h db' hrely hinv)
  | commit next ih =>
    intro db' hrely hinv
    exact ⟨(h db' hrely hinv).1, ih (h db' hrely hinv).2⟩
  | rollback next ih =>
    intro db' hrely hinv
    exact ih (h db' hrely hinv)

lemma Safe.bind {Q : β → Standing ω ρ → δ → Prop} {f : α → Program δ ω ρ β}
    {program : Program δ ω ρ α} {t : Standing ω ρ} {db : δ}
    (h : P.Safe call (fun a t db => P.Safe call Q (f a) t db) program t db) :
    P.Safe call Q (program.bind f) t db := by
  induction program generalizing t db with
  | done a => exact h
  | statement mode resources writes next ih =>
    intro db' hrely hinv
    exact ih _ (h db' hrely hinv)
  | commit next ih =>
    intro db' hrely hinv
    exact ⟨(h db' hrely hinv).1, ih (h db' hrely hinv).2⟩
  | rollback next ih =>
    intro db' hrely hinv
    exact ih (h db' hrely hinv)

lemma Safe.of_rely {post : α → List ω → Prop} {t : Standing ω ρ} {db db' : δ}
    (h : P.Safe call (fun a t _ => post a t.committed) program t db)
    (hrely : P.Rely t.held db db') :
    P.Safe call (fun a t _ => post a t.committed) program t db' := by
  cases program with
  | done a => exact h
  | statement mode resources writes next =>
    exact fun db'' hrely' => h db'' (P.rely_trans _ _ _ _ hrely hrely')
  | commit next => exact fun db'' hrely' => h db'' (P.rely_trans _ _ _ _ hrely hrely')
  | rollback next => exact fun db'' hrely' => h db'' (P.rely_trans _ _ _ _ hrely hrely')

/-! ### Bodies -/

variable (P call)

/-- The body keeps the protocol and ends as `Q` says; `E` says what has been committed when it
raises. -/
def SafeBody (Q : α → Standing ω ρ → δ → Prop) (E : ε → List ω → Prop) (body : Body δ ω ρ ε α)
    (t : Standing ω ρ) (db : δ) : Prop :=
  P.Safe call (fun result t db => Except.casesOn result (fun e => E e t.committed)
    fun a => Q a t db) body.run t db

variable {P call} {Q : α → Standing ω ρ → δ → Prop} {E : ε → List ω → Prop} {t : Standing ω ρ}
  {db : δ}

lemma SafeBody.mono {Q' : α → Standing ω ρ → δ → Prop} {E' : ε → List ω → Prop}
    (hQ : ∀ a t db, Q a t db → Q' a t db) (hE : ∀ e committed, E e committed → E' e committed)
    {body : Body δ ω ρ ε α} (h : P.SafeBody call Q E body t db) :
    P.SafeBody call Q' E' body t db := by
  refine Safe.mono ?_ h
  rintro (e | a) t db hend
  · exact hE e t.committed hend
  · exact hQ a t db hend

lemma safeBody_pure {a : α} (h : Q a t db) :
    P.SafeBody call Q E (pure a : Body δ ω ρ ε α) t db := h

lemma safeBody_throw {e : ε} (h : E e t.committed) :
    P.SafeBody call Q E (throw e : Body δ ω ρ ε α) t db := h

lemma safeBody_check {result : Except ε α}
    (h : Except.casesOn result (fun e => E e t.committed) fun a => Q a t db) :
    P.SafeBody call Q E (Body.check result) t db := h

lemma safeBody_bind {f : β → Body δ ω ρ ε α} {body : Body δ ω ρ ε β}
    (h : P.SafeBody call (fun b t db => P.SafeBody call Q E (f b) t db) E body t db) :
    P.SafeBody call Q E (body >>= f) t db := by
  refine Safe.bind (Safe.mono ?_ h)
  rintro (e | b) t db hend
  · exact hend
  · exact hend

lemma safeBody_statement {mode : LockMode} {resources : δ → List ρ} {writes : δ → List ω}
    {result : δ → Except ε α}
    (h : ∀ db', P.Rely t.held db db' → P.Inv db' →
      Except.casesOn (result (P.view db' t.writes)) (fun e => E e t.committed) fun a => Q a
        { t with
          held := ((resources (P.view db' t.writes)).map fun resource => (resource, mode)) ++ t.held
          writes := t.writes ++ writes (P.view db' t.writes) } db') :
    P.SafeBody call Q E (Body.statement mode resources writes result) t db := h

lemma safe_transaction {Q : Except ε α → Standing ω ρ → δ → Prop} {body : Body δ ω ρ ε α}
    (h : P.SafeBody call (fun a t db => ∀ db', P.Rely t.held db db' → P.Inv db' →
      P.Guarantee call t.held db' (P.view db' t.writes) ∧
        Q (.ok a) { committed := t.committed ++ t.writes } (P.view db' t.writes))
      (fun e committed => ∀ db', P.Inv db' → Q (.error e) { committed := committed } db')
      body t db) :
    P.Safe call Q body.transaction t db := by
  refine Safe.bind (Safe.mono ?_ h)
  rintro (e | a) t db hend
  · exact fun db' _ hinv => hend db' hinv
  · exact hend

end Protocol

/-! ## Systems of safe programs -/

namespace System

variable {κ δ ω ρ α : Type} (P : Protocol κ δ ω ρ) (post : κ → α → List ω → Prop)

/-- What holds in every state of a system of safe programs. -/
structure Sound (s : System κ δ ω ρ α) : Prop where
  inv : P.Inv s.db
  safe : ∀ i session, s.session i = some session →
    P.Safe session.call (fun a t _ => post session.call a t.committed) session.program
      ⟨s.locks.heldBy i, session.writes, session.committed⟩ s.db
  idle : ∀ i, s.session i = none → s.locks.heldBy i = []
  finished : ∀ outcome ∈ s.finished, post outcome.call outcome.result outcome.committed

variable {P post} {s : System κ δ ω ρ α}

variable {db : δ}

lemma sound_initial (hinv : P.Inv db) :
    Sound P post (initial db : System κ δ ω ρ α) where
  inv := hinv
  safe _ _ h := nomatch h
  idle _ _ := rfl
  finished _ h := nomatch h

lemma compatible_heldBy (locks : LockTable ρ ℕ) {i j : ℕ} (hij : i ≠ j) :
    Compatible (locks.heldBy i) (locks.heldBy j) := by
  intro resource mode mode' hi hj
  exact locks.compatible _ (LockTable.mem_heldBy.mp hi) _ (LockTable.mem_heldBy.mp hj) rfl hij

lemma Sound.proceed (h : Sound P post s) {i : ℕ} {locks : LockTable ρ ℕ}
    {session : Session κ δ ω ρ α} {db : δ} (hinv : P.Inv db)
    (hlocks : ∀ j, j ≠ i → locks.heldBy j = s.locks.heldBy j)
    (hrely : ∀ j, j ≠ i → P.Rely (s.locks.heldBy j) s.db db)
    (hsafe : P.Safe session.call (fun a t _ => post session.call a t.committed) session.program
      ⟨locks.heldBy i, session.writes, session.committed⟩ db) :
    Sound P post { s.proceed i locks session with db := db } where
  inv := hinv
  safe j other hother := by
    by_cases hji : j = i
    · subst hji
      obtain rfl : session = other :=
        Option.some.inj ((Function.update_self j _ s.session).symm.trans hother)
      exact hsafe
    · have hold : s.session j = some other :=
        (Function.update_of_ne hji _ s.session).symm.trans hother
      have hkept := (h.safe j other hold).of_rely (hrely j hji)
      change P.Safe _ _ _ ⟨locks.heldBy j, _, _⟩ _
      rw [hlocks j hji]
      exact hkept
  idle j hidle := by
    have hji : j ≠ i := by
      rintro rfl
      exact Option.some_ne_none _ ((Function.update_self j _ s.session).symm.trans hidle)
    change locks.heldBy j = []
    rw [hlocks j hji]
    exact h.idle j ((Function.update_of_ne hji _ s.session).symm.trans hidle)
  finished := h.finished

variable {i : ℕ} {session : Session κ δ ω ρ α}

lemma Sound.proceed_same (h : Sound P post s) {locks : LockTable ρ ℕ}
    (hlocks : ∀ j, j ≠ i → locks.heldBy j = s.locks.heldBy j)
    (hsafe : P.Safe session.call (fun a t _ => post session.call a t.committed) session.program
      ⟨locks.heldBy i, session.writes, session.committed⟩ s.db) :
    Sound P post (s.proceed i locks session) :=
  h.proceed h.inv hlocks (fun _ _ => P.rely_refl _ _) hsafe

lemma Sound.close (h : Sound P post s) (i : ℕ) : Sound P post (s.close i) where
  inv := h.inv
  safe j session hsession := by
    have hji : j ≠ i := by
      rintro rfl
      exact Option.some_ne_none _ (hsession.symm.trans (Function.update_self j _ s.session))
    change P.Safe _ _ _ ⟨(s.locks.release i).heldBy j, _, _⟩ _
    rw [LockTable.heldBy_release_of_ne _ hji]
    exact h.safe j session ((Function.update_of_ne hji _ s.session).symm.trans hsession)
  idle j hidle := by
    by_cases hji : j = i
    · subst hji
      exact LockTable.heldBy_release_self _ _
    · change (s.locks.release i).heldBy j = []
      rw [LockTable.heldBy_release_of_ne _ hji]
      exact h.idle j ((Function.update_of_ne hji _ s.session).symm.trans hidle)
  finished := h.finished

lemma Sound.guarantee (h : Sound P post s) (hsession : s.session i = some session)
    {next : Program δ ω ρ α} (hprogram : session.program = .commit next) :
    P.Guarantee session.call (s.locks.heldBy i) s.db (session.writes.foldl P.apply s.db) ∧
      P.Safe session.call (fun a t _ => post session.call a t.committed) next
        { committed := session.committed ++ session.writes } (session.writes.foldl P.apply s.db) := by
  have hsafe := h.safe i session hsession
  rw [hprogram] at hsafe
  exact hsafe s.db (P.rely_refl _ _) h.inv

variable [DecidableEq ρ]

lemma Sound.advance (h : Sound P post s) {i : ℕ} {session : Session κ δ ω ρ α}
    (hsession : s.session i = some session) : Sound P post (s.advance P.apply i session) := by
  have hsafe := h.safe i session hsession
  have hreleased : ∀ j, j ≠ i → (s.locks.release i).heldBy j = s.locks.heldBy j :=
    fun j hji => LockTable.heldBy_release_of_ne _ hji
  unfold System.advance
  cases hprogram : session.program with
  | done a =>
    rw [hprogram] at hsafe
    refine { h.close i with finished := ?_ }
    intro outcome houtcome
    rcases List.mem_append.mp houtcome with hold | hnew
    · exact h.finished outcome hold
    · obtain rfl := List.mem_singleton.mp hnew
      exact hsafe
  | statement mode resources writes next =>
    rw [hprogram] at hsafe
    dsimp only
    cases hlocks : s.locks.acquire i mode (resources (session.writes.foldl P.apply s.db)) with
    | none => exact h
    | some locks =>
      refine h.proceed_same (fun j hji => LockTable.heldBy_acquire_of_ne hji hlocks) ?_
      have hnext := hsafe s.db (P.rely_refl _ _) h.inv
      rw [LockTable.heldBy_acquire_self hlocks]
      exact hnext
  | commit next =>
    obtain ⟨hguarantee, hnext⟩ := h.guarantee hsession hprogram
    refine h.proceed (P.inv_of_guarantee _ _ _ _ h.inv hguarantee) hreleased ?_ ?_
    · intro j hji
      exact P.rely_of_guarantee _ _ _ _ _ (compatible_heldBy s.locks hji) h.inv hguarantee
    · rw [LockTable.heldBy_release_self]
      exact hnext
  | rollback next =>
    rw [hprogram] at hsafe
    refine h.proceed_same hreleased ?_
    rw [LockTable.heldBy_release_self]
    exact hsafe s.db (P.rely_refl _ _) h.inv

variable (P) in
/-- The events of a system: the calls that begin are admitted, and others change the contents as the
protocol says. -/
def Allowed (Admitted : κ → Prop) (s : System κ δ ω ρ α) : Event κ δ → Prop
  | .start _ call => Admitted call
  | .advance _ => True
  | .abort _ => True
  | .external db => P.External s.db db

variable {Admitted : κ → Prop} {event : Event κ δ}

omit [DecidableEq ρ] in
lemma allowed_of_isInternal (hadmitted : ∀ call, Admitted call) (h : event.isInternal = true) :
    s.Allowed P Admitted event := by
  cases event with
  | start i call => exact hadmitted call
  | advance i => trivial
  | abort i => trivial
  | external db => cases h

variable {service : κ → Program δ ω ρ α}

theorem sound_step (hservice : ∀ call db, Admitted call → P.Inv db →
      P.Safe call (fun a t _ => post call a t.committed) (service call) {} db)
    (s : System κ δ ω ρ α) (event : Event κ δ) (h : Sound P post s)
    (hallowed : s.Allowed P Admitted event) : Sound P post (s.step service P.apply event) := by
  cases event with
  | start i call =>
    dsimp only [step]
    cases hsession : s.session i with
    | some _ => exact h
    | none =>
      refine h.proceed_same (fun _ _ => rfl) ?_
      rw [h.idle i hsession]
      exact hservice call s.db hallowed h.inv
  | advance i =>
    dsimp only [step]
    cases hsession : s.session i with
    | none => exact h
    | some session => exact h.advance hsession
  | abort i => exact h.close i
  | external db =>
    exact
      { inv := P.inv_of_external _ _ h.inv hallowed
        safe := fun i session hsession =>
          (h.safe i session hsession).of_rely (P.rely_of_external _ _ _ h.inv hallowed)
        idle := h.idle
        finished := h.finished }

def Admits (Admitted : κ → Prop) (s : System κ δ ω ρ α) : Prop :=
  ∀ i session, s.session i = some session → Admitted session.call

omit [DecidableEq ρ] in
lemma admits_initial :
    (initial db : System κ δ ω ρ α).Admits Admitted := fun _ _ h => nomatch h

omit [DecidableEq ρ] in
lemma Admits.proceed {Admitted : κ → Prop} (h : s.Admits Admitted) (i : ℕ) (locks : LockTable ρ ℕ)
    (session : Session κ δ ω ρ α) (hcall : Admitted session.call) :
    (s.proceed i locks session).Admits Admitted := by
  intro j other hother
  by_cases hji : j = i
  · subst hji
    obtain rfl : session = other :=
      Option.some.inj ((Function.update_self j _ s.session).symm.trans hother)
    exact hcall
  · exact h j other ((Function.update_of_ne hji _ s.session).symm.trans hother)

omit [DecidableEq ρ] in
lemma Admits.close {Admitted : κ → Prop} (h : s.Admits Admitted) (i : ℕ) :
    (s.close i).Admits Admitted := by
  intro j other hother
  have hji : j ≠ i := by
    rintro rfl
    exact Option.some_ne_none _ (hother.symm.trans (Function.update_self j _ s.session))
  exact h j other ((Function.update_of_ne hji _ s.session).symm.trans hother)

lemma admits_step (s : System κ δ ω ρ α) (event : Event κ δ) (h : s.Admits Admitted)
    (hallowed : s.Allowed P Admitted event) : (s.step service P.apply event).Admits Admitted := by
  cases event with
  | start i call =>
    dsimp only [step]
    cases s.session i with
    | some _ => exact h
    | none => exact h.proceed i s.locks ⟨call, service call, [], []⟩ hallowed
  | advance i =>
    dsimp only [step]
    cases hsession : s.session i with
    | none => exact h
    | some session =>
      have hcall := h i session hsession
      dsimp only
      unfold System.advance
      split
      · exact h.close i
      · dsimp only
        split
        · exact h
        · exact h.proceed i _ _ hcall
      · next next _ =>
        exact h.proceed i (s.locks.release i)
          ⟨session.call, next, [], session.committed ++ session.writes⟩ hcall
      · exact h.proceed i _ _ hcall
  | abort i => exact h.close i
  | external db => exact h

/-- The event is the commit of a session of the call. -/
def Commits (s : System κ δ ω ρ α) (event : Event κ δ) (call : κ) : Prop :=
  ∃ i session next, event = .advance i ∧ s.session i = some session ∧ session.call = call ∧
    session.program = .commit next

def committing (s : System κ δ ω ρ α) : Event κ δ → Option κ
  | .advance i => (s.session i).bind fun session =>
    match session.program with
    | .commit _ => some session.call
    | .done _ | .statement _ _ _ _ | .rollback _ => none
  | .start _ _ | .abort _ | .external _ => none

variable {call : κ}

omit [DecidableEq ρ] in
lemma commits_of_committing (h : s.committing event = some call) :
    s.Commits event call := by
  cases event with
  | advance i =>
    obtain ⟨session, hsession, hcall⟩ := Option.bind_eq_some_iff.mp h
    cases hprogram : session.program with
    | commit next =>
      rw [hprogram] at hcall
      exact ⟨i, session, next, rfl, hsession, Option.some.inj hcall, hprogram⟩
    | _ =>
      rw [hprogram] at hcall
      cases hcall
  | _ => cases h

omit [DecidableEq ρ] in
lemma Commits.admitted (h : s.Commits event call) (hadmits : s.Admits Admitted) :
    Admitted call := by
  obtain ⟨i, session, -, -, hsession, rfl, -⟩ := h
  exact hadmits i session hsession

omit [DecidableEq ρ] in
lemma Commits.unique {call call' : κ} (h : s.Commits event call) (h' : s.Commits event call') :
    call = call' := by
  obtain ⟨i, session, -, rfl, hsession, rfl, -⟩ := h
  obtain ⟨j, session', -, hevent, hsession', rfl, -⟩ := h'
  obtain rfl := Event.advance.inj hevent
  rw [Option.some.inj (hsession.symm.trans hsession')]

theorem Sound.guarantee_of_commits (service : κ → Program δ ω ρ α) (h : Sound P post s)
    (hcommits : s.Commits event call) :
    ∃ held, P.Guarantee call held s.db (s.step service P.apply event).db := by
  obtain ⟨i, session, next, rfl, hsession, rfl, hprogram⟩ := hcommits
  refine ⟨s.locks.heldBy i, ?_⟩
  dsimp only [step]
  rw [hsession]
  dsimp only
  unfold System.advance
  rw [hprogram]
  exact (h.guarantee hsession hprogram).1

theorem Sound.db_step (h : Sound P post s) (hallowed : s.Allowed P Admitted event) :
    (s.step service P.apply event).db = s.db ∨
      P.External s.db (s.step service P.apply event).db ∨
      ∃ call held, s.Commits event call ∧
        P.Guarantee call held s.db (s.step service P.apply event).db := by
  cases event with
  | start i call =>
    dsimp only [step]
    cases s.session i <;> exact .inl rfl
  | advance i =>
    dsimp only [step]
    cases hsession : s.session i with
    | none => exact .inl rfl
    | some session =>
      dsimp only
      unfold System.advance
      cases hprogram : session.program with
      | done a => exact .inl rfl
      | statement mode resources writes next =>
        dsimp only
        cases s.locks.acquire i mode (resources (session.writes.foldl P.apply s.db)) with
        | none => exact .inl rfl
        | some locks => exact .inl rfl
      | commit next =>
        exact .inr (.inr ⟨session.call, _, ⟨i, session, next, rfl, hsession, rfl, hprogram⟩,
          (h.guarantee hsession hprogram).1⟩)
      | rollback next => exact .inl rfl
  | abort i => exact .inl rfl
  | external db => exact .inr (.inl hallowed)

end System

end ReadCommitted
