import SaasOs.Foundation.ReadCommitted

/-!
# A program logic for transactions

What a call knows while it works is an assertion about its locks, its writes and the committed
contents.  An assertion is `Steady` when neither the commits of the others nor further locks make it
wrong.  `Triple` says that a body keeps the protocol and leads from one assertion to another; its
rules follow the statements of the body, and `Triple.transaction` closes it: what is known at the end
must be enough for what the call guarantees.
-/

namespace ReadCommitted

/-! ## Justified writes -/

/-- The writes of a transaction, each of them justified in the view of the ones before it. -/
inductive JustifiedWrites {δ ω : Type} (apply : δ → ω → δ) (J : δ → ω → Prop) (db : δ) :
    List ω → Prop
  | nil : JustifiedWrites apply J db []
  | concat {writes : List ω} {w : ω} (h : JustifiedWrites apply J db writes)
      (hw : J (writes.foldl apply db) w) : JustifiedWrites apply J db (writes ++ [w])

namespace JustifiedWrites

variable {δ ω : Type} {apply : δ → ω → δ} {J : δ → ω → Prop} {db : δ} {writes : List ω}

lemma preserves {I : δ → Prop} (h : JustifiedWrites apply J db writes) (hI : I db)
    (hstep : ∀ view w, I view → J view w → I (apply view w)) : I (writes.foldl apply db) := by
  induction h with
  | nil => exact hI
  | concat _ hw ih =>
    rw [List.foldl_concat]
    exact hstep _ _ ih hw

end JustifiedWrites

namespace Body

variable {δ ω ρ ε α : Type}

def inTransaction (body : Body δ ω ρ ε α) : Body δ ω ρ ε α := ExceptT.mk body.transaction

end Body

namespace Protocol

/-- What a call knows of its locks and its writes and of the committed contents. -/
abbrev Assertion (δ ω ρ : Type) := Standing ω ρ → δ → Prop

variable {κ δ ω ρ ε α β : Type} (P : Protocol κ δ ω ρ)

/-! ## Assertions -/

/-- The others do not make it wrong, and further locks do not, either. -/
structure Steady (F : Assertion δ ω ρ) : Prop where
  rely : ∀ t db db', P.Inv db → P.Inv db' → P.Rely t.held db db' → F t db → F t db'
  lock : ∀ t db locks, F t db → F { t with held := locks ++ t.held } db

variable {P} {F F' : Assertion δ ω ρ} {call : κ}

lemma Steady.and (h : P.Steady F) (h' : P.Steady F') : P.Steady fun t db => F t db ∧ F' t db where
  rely t db db' hinv hinv' hrely hboth :=
    ⟨h.rely t db db' hinv hinv' hrely hboth.1, h'.rely t db db' hinv hinv' hrely hboth.2⟩
  lock t db locks hboth := ⟨h.lock t db locks hboth.1, h'.lock t db locks hboth.2⟩

lemma Steady.or (h : P.Steady F) (h' : P.Steady F') : P.Steady fun t db => F t db ∨ F' t db where
  rely t db db' hinv hinv' hrely :=
    Or.imp (h.rely t db db' hinv hinv' hrely) (h'.rely t db db' hinv hinv' hrely)
  lock t db locks := Or.imp (h.lock t db locks) (h'.lock t db locks)

lemma steady_const (p : Prop) : P.Steady fun _ _ => p where
  rely _ _ _ _ _ _ h := h
  lock _ _ _ h := h

lemma steady_held (lock : ρ × LockMode) : P.Steady fun t _ => lock ∈ t.held where
  rely _ _ _ _ _ _ h := h
  lock _ _ _ h := List.mem_append_right _ h

lemma steady_writes (p : List ω → Prop) : P.Steady fun t _ => p t.writes where
  rely _ _ _ _ _ _ h := h
  lock _ _ _ h := h

variable {ι : Type}

lemma steady_forall {F : ι → Assertion δ ω ρ} (h : ∀ i, P.Steady (F i)) :
    P.Steady fun t db => ∀ i, F i t db where
  rely t db db' hinv hinv' hrely hall i := (h i).rely t db db' hinv hinv' hrely (hall i)
  lock t db locks hall i := (h i).lock t db locks (hall i)

lemma steady_exists {F : ι → Assertion δ ω ρ} (h : ∀ i, P.Steady (F i)) :
    P.Steady fun t db => ∃ i, F i t db where
  rely t db db' hinv hinv' hrely := fun ⟨i, hi⟩ => ⟨i, (h i).rely t db db' hinv hinv' hrely hi⟩
  lock t db locks := fun ⟨i, hi⟩ => ⟨i, (h i).lock t db locks hi⟩

lemma Steady.imp (p : Prop) (h : P.Steady F) : P.Steady fun t db => p → F t db where
  rely t db db' hinv hinv' hrely himp hp := h.rely t db db' hinv hinv' hrely (himp hp)
  lock t db locks himp hp := h.lock t db locks (himp hp)

def Wrote (F : Assertion δ ω ρ) (w : ω) : Assertion δ ω ρ := fun t db =>
  ∃ writes, t.writes = writes ++ [w] ∧ F { t with writes := writes } db

lemma Steady.wrote (h : P.Steady F) (w : ω) : P.Steady (Wrote F w) where
  rely t db db' hinv hinv' hrely := fun ⟨writes, hwrites, hknown⟩ =>
    ⟨writes, hwrites, h.rely { t with writes := writes } db db' hinv hinv' hrely hknown⟩
  lock t db locks := fun ⟨writes, hwrites, hknown⟩ =>
    ⟨writes, hwrites, h.lock { t with writes := writes } db locks hknown⟩

/-! ## Triples -/

variable (P call) in
/-- From `F`, the body keeps the protocol; when it returns, `G` is known, and when it raises, nothing
more has been committed. -/
def Triple (F : Assertion δ ω ρ) (body : Body δ ω ρ ε α) (G : α → Assertion δ ω ρ) : Prop :=
  ∀ t db, P.Inv db → F t db → P.SafeBody call
    (fun a t' db' => P.Inv db' ∧ t'.committed = t.committed ∧ G a t' db')
    (fun _ committed => committed = t.committed) body t db

variable {G G' : α → Assertion δ ω ρ} {H : β → Assertion δ ω ρ}

variable {body : Body δ ω ρ ε α}

lemma Triple.weaken (h : P.Triple call F body G) (hF : ∀ t db, P.Inv db → F' t db → F t db)
    (hG : ∀ a t db, P.Inv db → G a t db → G' a t db) : P.Triple call F' body G' := by
  intro t db hinv hknown
  refine (h t db hinv (hF t db hinv hknown)).mono ?_ fun _ _ hcommitted => hcommitted
  rintro a t' db' ⟨hinv', hcommitted, hend⟩
  exact ⟨hinv', hcommitted, hG a t' db' hinv' hend⟩

lemma triple_exists {F : ι → Assertion δ ω ρ} (h : ∀ i, P.Triple call (F i) body G) :
    P.Triple call (fun t db => ∃ i, F i t db) body G :=
  fun t db hinv ⟨i, hi⟩ => h i t db hinv hi

lemma triple_pure {a : α} (h : ∀ t db, F t db → G a t db) :
    P.Triple call F (pure a : Body δ ω ρ ε α) G :=
  fun t db hinv hknown => safeBody_pure ⟨hinv, rfl, h t db hknown⟩

lemma triple_throw {e : ε} : P.Triple call F (throw e : Body δ ω ρ ε α) G :=
  fun _ _ _ _ => safeBody_throw rfl

lemma Triple.bind {f : α → Body δ ω ρ ε β} (h : P.Triple call F body G)
    (hf : ∀ a, P.Triple call (G a) (f a) H) : P.Triple call F (body >>= f) H := by
  intro t db hinv hknown
  refine safeBody_bind ((h t db hinv hknown).mono ?_ fun _ _ hcommitted => hcommitted)
  rintro a t' db' ⟨hinv', hcommitted, hmiddle⟩
  have hrest := hf a t' db' hinv' hmiddle
  rw [hcommitted] at hrest
  exact hrest

lemma triple_check {result : Except ε α} :
    P.Triple call F (Body.check result) fun a t db => F t db ∧ result = .ok a := by
  intro t db hinv hknown
  refine safeBody_check ?_
  cases result with
  | error e => rfl
  | ok a => exact ⟨hinv, rfl, hknown, rfl⟩

lemma triple_require {result : Except ε α} :
    P.Triple call F (Body.check result) fun _ => F :=
  triple_check.weaken (fun _ _ _ h => h) fun _ _ _ _ h => h.1

variable {mode : LockMode} {resources : δ → List ρ} {result : δ → Except ε α}

section

variable (hF : P.Steady F)

include hF

lemma triple_statement {write : δ → List ω}
    (h : ∀ t db a, P.Inv db → F t db →
      (∀ resource ∈ resources (P.view db t.writes), (resource, mode) ∈ t.held) →
      result (P.view db t.writes) = .ok a →
      G a { t with writes := t.writes ++ write (P.view db t.writes) } db) :
    P.Triple call F (Body.statement mode resources write result) G := by
  intro t db hinv hknown
  refine safeBody_statement fun db' hrely hinv' => ?_
  have hknown' := hF.lock t db'
    ((resources (P.view db' t.writes)).map fun resource => (resource, mode))
    (hF.rely t db db' hinv hinv' hrely hknown)
  cases hresult : result (P.view db' t.writes) with
  | error e => rfl
  | ok a =>
    refine ⟨hinv', rfl, h _ db' a hinv' hknown' ?_ hresult⟩
    intro resource hresource
    exact List.mem_append_left _ (List.mem_map.mpr ⟨resource, hresource, rfl⟩)

lemma triple_write {w : ω} (h : ∀ t db a, P.Inv db → F t db →
      (∀ resource ∈ resources (P.view db t.writes), (resource, mode) ∈ t.held) →
      result (P.view db t.writes) = .ok a → F' t db) :
    P.Triple call F (Body.statement mode resources (fun _ => [w]) result) fun _ => Wrote F' w :=
  triple_statement hF fun t db a hinv hknown hheld hresult =>
    ⟨t.writes, rfl, h t db a hinv hknown hheld hresult⟩

lemma triple_lockedRead (h : ∀ t db a, P.Inv db → F t db →
      (∀ resource ∈ resources (P.view db t.writes), (resource, mode) ∈ t.held) →
      result (P.view db t.writes) = .ok a → G a t db) :
    P.Triple call F (Body.lockedRead mode resources result) G := by
  refine triple_statement hF fun t db a hinv hknown hheld hresult => ?_
  rw [List.append_nil]
  exact h t db a hinv hknown hheld hresult

lemma triple_query :
    P.Triple call F (Body.lockedRead mode resources result) fun _ => F :=
  triple_lockedRead hF fun _ _ _ _ hknown _ _ => hknown

lemma triple_lock {resource : ρ} :
    P.Triple call F (Body.lock mode resource : Body δ ω ρ ε Unit)
      fun _ t db => F t db ∧ (resource, mode) ∈ t.held :=
  triple_lockedRead hF fun _ _ _ _ hknown hheld _ => ⟨hknown, hheld resource List.mem_cons_self⟩

end

/-! ## Transactions -/

lemma Triple.transaction {body : Body δ ω ρ ε α} (h : P.Triple call F body G)
    (hG : ∀ a, P.Steady (G a))
    (hcommit : ∀ a t db, P.Inv db → G a t db → P.Guarantee call t.held db (P.view db t.writes))
    {Q : Except ε α → Standing ω ρ → δ → Prop} {t : Standing ω ρ} {db : δ} (hinv : P.Inv db)
    (hknown : F t db)
    (hok : ∀ a t' db', P.Inv db' → P.Inv (P.view db' t'.writes) → t'.committed = t.committed →
      G a t' db' → Q (.ok a) { committed := t.committed ++ t'.writes } (P.view db' t'.writes))
    (herror : ∀ e db', P.Inv db' → Q (.error e) { committed := t.committed } db') :
    P.Safe call Q body.transaction t db := by
  refine safe_transaction ((h t db hinv hknown).mono ?_ ?_)
  · rintro a t' db' ⟨hinv', hcommitted, hend⟩ db'' hrely hinv''
    have hend' := (hG a).rely t' db' db'' hinv' hinv'' hrely hend
    have hguarantee := hcommit a t' db'' hinv'' hend'
    refine ⟨hguarantee, ?_⟩
    rw [hcommitted]
    exact hok a t' db'' hinv'' (P.inv_of_guarantee _ _ _ _ hinv'' hguarantee) hcommitted hend'
  · rintro e committed rfl db' hinv'
    exact herror e db' hinv'

/-! ### Several transactions -/

variable (P call) in
/-- From `F`, the transactions of the body keep the protocol one after the other. `E` says what has
been committed when the body raises. -/
def Transactions (E : ε → List ω → Prop) (F : List ω → δ → Prop) (body : Body δ ω ρ ε α)
    (G : α → List ω → δ → Prop) : Prop :=
  ∀ committed db, P.Inv db → F committed db → P.SafeBody call
    (fun a t db' => P.Inv db' ∧ t.held = [] ∧ t.writes = [] ∧ G a t.committed db') E body
    { committed := committed } db

section Transactions

variable {E : ε → List ω → Prop} {before : List ω → δ → Prop} {between : α → List ω → δ → Prop}
  {after : β → List ω → δ → Prop}

variable {body : Body δ ω ρ ε α}

lemma Triple.transactions (h : P.Triple call F body G) (hG : ∀ a, P.Steady (G a))
    (hcommit : ∀ a t db, P.Inv db → G a t db → P.Guarantee call t.held db (P.view db t.writes))
    (hbegin : ∀ committed db, before committed db → F { committed := committed } db)
    (hok : ∀ a t db, P.Inv (P.view db t.writes) → G a t db →
      between a (t.committed ++ t.writes) (P.view db t.writes))
    (herror : ∀ e committed db, before committed db → E e committed) :
    P.Transactions call E before body.inTransaction between := by
  intro committed db hinv hbefore
  refine h.transaction hG hcommit hinv (hbegin committed db hbefore) ?_ fun e _ _ =>
    herror e committed db hbefore
  intro a t db' _ hinv' hcommitted hend
  have hknown := hok a t db' hinv' hend
  rw [hcommitted] at hknown
  exact ⟨hinv', rfl, rfl, hknown⟩

lemma transactions_check {result : Except ε α}
    (herror : ∀ e committed db, before committed db → E e committed) :
    P.Transactions call E before (Body.check result : Body δ ω ρ ε α) fun _ => before := by
  intro committed db hinv hbefore
  refine safeBody_check ?_
  cases result with
  | error e => exact herror e committed db hbefore
  | ok a => exact ⟨hinv, rfl, rfl, hbefore⟩

lemma Transactions.bind {f : α → Body δ ω ρ ε β} (h : P.Transactions call E before body between)
    (hf : ∀ a, P.Transactions call E (between a) (f a) after) :
    P.Transactions call E before (body >>= f) after := by
  intro committed db hinv hbefore
  refine safeBody_bind ((h committed db hinv hbefore).mono ?_ fun _ _ hraised => hraised)
  rintro a ⟨held, writes, committed'⟩ db' ⟨hinv', hheld, hwrites, hbetween⟩
  obtain rfl : held = [] := hheld
  obtain rfl : writes = [] := hwrites
  exact hf a committed' db' hinv' hbetween

lemma Transactions.safe (h : P.Transactions call E before body between)
    {post : Except ε α → List ω → Prop} {db : δ} (hinv : P.Inv db) (hbefore : before [] db)
    (hok : ∀ a committed db, between a committed db → post (.ok a) committed)
    (herror : ∀ e committed, E e committed → post (.error e) committed) :
    P.Safe call (fun result t _ => post result t.committed) body.run {} db := by
  refine Safe.mono ?_ (h [] db hinv hbefore)
  rintro (e | a) t db' hend
  · exact herror e t.committed hend
  · exact hok a t.committed db' hend.2.2.2

end Transactions

lemma Triple.safe (h : P.Triple call F body G) (hG : ∀ a, P.Steady (G a))
    (hcommit : ∀ a t db, P.Inv db → G a t db → P.Guarantee call t.held db (P.view db t.writes))
    {t : Standing ω ρ} {db : δ} (hinv : P.Inv db) (hknown : F t db) :
    P.Safe call (fun _ _ _ => True) body.transaction t db :=
  h.transaction hG hcommit hinv hknown (fun _ _ _ _ _ _ _ => trivial) fun _ _ _ => trivial

end Protocol

end ReadCommitted
