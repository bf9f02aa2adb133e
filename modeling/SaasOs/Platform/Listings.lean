import SaasOs.Foundation.Keyset
import SaasOs.Platform.Oversight

/-!
# Keyset listings

The page functions of the oversight surface, as the reads that `run_oversight_read` is given.  The
cursor of the audit table names an id only; a first statement looks its time up, a second one reads
the page, and rows are inserted before each of the two.  Following the cursors neither loses nor
repeats an entry.
-/

namespace SaasOs.Oversight

open Keyset

/-! ## Pages -/

inductive ListingError
  | invalidPlatformRequest (message : String)
  deriving DecidableEq

/-- A page, with the id of its last entry if it is full. -/
structure Page (α : Type) where
  entries : List α
  nextCursor : Option Uuid

def pageOf {α : Type} (id : α → Uuid) (entries : List α) (limit : ℕ) : Page α :=
  ⟨entries, if entries.length = limit then entries.getLast?.map id else none⟩

def maxOversightPageSize : ℕ := 200

/-- `validate_page_request`, of an id and an integer that is not negative. -/
def validatePageRequest (limit : ℕ) : Except ListingError Unit :=
  if limit < 1 then .error (.invalidPlatformRequest "limit must be a positive integer.")
  else if maxOversightPageSize < limit then
    .error (.invalidPlatformRequest "limit exceeds the maximum page size of 200.")
  else .ok ()

structure PlatformOperatorView where
  id : Uuid
  userId : Uuid
  status : String
  enrolledByUserId : Option Uuid
  statusChangedAt : ℤ
  statusChangedByUserId : Option Uuid
  createdAt : ℤ

structure PlatformGrantView where
  id : Uuid
  operatorId : Uuid
  permission : String
  grantedByUserId : Option Uuid
  grantedAt : ℤ
  revokedAt : Option ℤ
  revokedByUserId : Option Uuid

structure PlatformAuditView where
  id : Uuid
  createdAt : ℤ
  actorType : String
  actorUserId : Option Uuid
  systemAuthority : Option String
  action : String
  targetType : String
  targetId : Option String
  targetTenantId : Option Uuid
  outcome : String
  reason : Option String
  correlationId : Option String
  metadata : Option String
  deriving DecidableEq

/-- `ORDER BY created_at, id`. -/
def PlatformAuditView.order (row : PlatformAuditView) : ℤ ×ₗ ℕ := toLex (row.createdAt, row.id)

/-- The filters of `list_platform_audit`. -/
structure AuditFilters where
  since : Option ℤ
  until_ : Option ℤ
  actorUserId : Option Uuid
  action : Option String
  targetTenantId : Option Uuid

def AuditFilters.check (filters : AuditFilters) : Except ListingError Unit :=
  if ∃ since ∈ filters.since, ∃ moment ∈ filters.until_, moment ≤ since then
    .error (.invalidPlatformRequest "since must be earlier than until.")
  else if ∃ action ∈ filters.action, action = "" ∨ 200 < action.length then
    .error (.invalidPlatformRequest "action must be a non-empty platform audit action.")
  else .ok ()

def AuditFilters.admits (filters : AuditFilters) (row : PlatformAuditView) : Bool :=
  decide (∀ since ∈ filters.since, since ≤ row.createdAt) &&
    decide (∀ moment ∈ filters.until_, row.createdAt < moment) &&
    decide (∀ user ∈ filters.actorUserId, row.actorUserId = some user) &&
    decide (∀ action ∈ filters.action, row.action = action) &&
    decide (∀ tenant ∈ filters.targetTenantId, row.targetTenantId = some tenant)

/-- What a call of a walk finds: the table at its first and at its second statement, and the page size
it asks for. -/
structure PageCall (α : Type) where
  lookup : List α
  rows : List α
  limit : ℕ

/-- `list_platform_operators`, which has one statement. -/
def listPlatformOperators (cursor : Option Uuid) (call : PageCall PlatformOperatorView) :
    Except ListingError (Page PlatformOperatorView) := do
  validatePageRequest call.limit
  return pageOf (·.id) (page (·.id) (call.rows.filter fun _ => true) cursor call.limit) call.limit

/-- `list_platform_grants`, which has one statement. -/
def listPlatformGrants (operatorId cursor : Option Uuid) (call : PageCall PlatformGrantView) :
    Except ListingError (Page PlatformGrantView) := do
  validatePageRequest call.limit
  return pageOf (·.id) (page (·.id)
    (call.rows.filter fun row => ∀ operator ∈ operatorId, row.operatorId = operator) cursor
    call.limit) call.limit

def listPlatformAudit (filters : AuditFilters) (cursor : Option Uuid)
    (call : PageCall PlatformAuditView) : Except ListingError (Page PlatformAuditView) := do
  validatePageRequest call.limit
  filters.check
  let found := cursor.map fun id => call.lookup.find? fun row => row.id = id
  match found with
  | some none => .error (.invalidPlatformRequest "cursor names no platform audit entry.")
  | some (some row) =>
    return pageOf (·.id) (page (·.order) (call.rows.filter filters.admits) (some row.order)
      call.limit) call.limit
  | none =>
    return pageOf (·.id) (page (·.order) (call.rows.filter filters.admits) none call.limit) call.limit

/-! ## Walks -/

section Walks

variable {α κ : Type} [LinearOrder κ] {id : α → Uuid} {key : α → κ} {admits : α → Bool}
  {list : Option Uuid → PageCall α → Except ListingError (Page α)} {start : List α}
  {calls : List (PageCall α)}

/-- Following `next_cursor`: the entries of the pages, and whether the walk has ended. -/
def followCursor (list : Option Uuid → PageCall α → Except ListingError (Page α)) :
    Option Uuid → List (PageCall α) → Except ListingError (List α × Bool)
  | _, [] => .ok ([], false)
  | cursor, call :: rest => do
    let answer ← list cursor call
    match answer.nextCursor with
    | none => return (answer.entries, true)
    | some next => do
      let others ← followCursor list (some next) rest
      return (answer.entries ++ others.1, others.2)

/-- Rows are inserted between the statements of a walk, ids are unique, and the page sizes are those
that are allowed. -/
structure Growing (id : α → Uuid) (start : List α) (calls : List (PageCall α)) : Prop where
  grows : (start :: calls.flatMap fun call => [call.lookup, call.rows]).Pairwise (· ⊆ ·)
  unique : ∀ call ∈ calls, (call.lookup.map id).Nodup ∧ (call.rows.map id).Nodup
  sized : ∀ call ∈ calls, 1 ≤ call.limit ∧ call.limit ≤ maxOversightPageSize

/-- What a walk that began at a table returned. -/
structure ExactWalk (id : α → Uuid) (key : α → κ) (admits : α → Bool) (start : List α)
    (calls : List (PageCall α)) (result : List α × Bool) : Prop where
  increasing : result.1.Pairwise fun a b => key a < key b
  once : (result.1.map id).Nodup
  admitted : ∀ row ∈ result.1, admits row = true
  complete : result.2 = true → ∀ row ∈ start, admits row = true → row ∈ result.1
  unchanged : result.2 = true → (∀ call ∈ calls, call.rows = start) →
    ∀ row, row ∈ result.1 ↔ row ∈ start ∧ admits row = true

/-- The cursor names a row that the call finds, and stands for its key. -/
def Stands (id : α → Uuid) (key : α → κ) (call : PageCall α) (cursor : Option Uuid)
    (after : Option κ) : Prop :=
  (cursor = none ∧ after = none) ∨ ∃ row ∈ call.lookup, cursor = some (id row) ∧ after = some (key row)

/-- The call reads the page behind the row that its cursor names. -/
def ReadsPage (id : α → Uuid) (key : α → κ) (admits : α → Bool)
    (list : Option Uuid → PageCall α → Except ListingError (Page α)) (call : PageCall α) : Prop :=
  ∀ cursor after, Stands id key call cursor after → list cursor call =
    .ok (pageOf id (page key (call.rows.filter admits) after call.limit) call.limit)

/-- The filtered tables and the page sizes. -/
def steps (admits : α → Bool) (calls : List (PageCall α)) : List (List α × ℕ) :=
  calls.map fun call => (call.rows.filter admits, call.limit)

lemma followCursor_eq_walk {cursor : Option Uuid} {after : Option κ}
    (hreads : ∀ call ∈ calls, ReadsPage id key admits list call)
    (hgrows : calls.Pairwise fun call later => call.rows ⊆ later.lookup)
    (hpos : ∀ call ∈ calls, 1 ≤ call.limit)
    (hstands : ∀ call ∈ calls, Stands id key call cursor after) :
    followCursor list cursor calls = .ok (walk key after (steps admits calls)) := by
  induction calls generalizing cursor after with
  | nil => rfl
  | cons call rest ih =>
    obtain ⟨hread, hreads⟩ := List.forall_mem_cons.mp hreads
    obtain ⟨hgrow, hgrows⟩ := List.pairwise_cons.mp hgrows
    obtain ⟨hlimit, hpos⟩ := List.forall_mem_cons.mp hpos
    rw [followCursor, hread cursor after (hstands call List.mem_cons_self)]
    simp only [steps, List.map_cons, walk, pageOf, bind, Except.bind, pure, Except.pure]
    cases hlast : (page key (call.rows.filter admits) after call.limit).getLast? with
    | none => simp [List.getLast?_eq_none_iff.mp hlast]
    | some last =>
      by_cases hfull : (page key (call.rows.filter admits) after call.limit).length = call.limit
      · have hmem := (beyond_of_mem_page (List.mem_of_getLast? hlast)).1
        have hrest := ih hreads hgrows hpos fun later hlater =>
          .inr ⟨last, hgrow later hlater (List.mem_of_mem_filter hmem), rfl, rfl⟩
        simp only [hfull, if_true, Option.map_some, hrest]
        rfl
      · simp only [hfull, if_false]

section

variable (h : Growing id start calls)

include h

lemma Growing.subset {call : PageCall α} (hcall : call ∈ calls) :
    start ⊆ call.rows :=
  (List.pairwise_cons.mp h.grows).1 _ (List.mem_flatMap.mpr ⟨call, hcall, by simp⟩)

lemma Growing.pairwise :
    calls.Pairwise fun call later => call.rows ⊆ later.lookup ∧ call.rows ⊆ later.rows := by
  have hflat := (List.pairwise_flatMap.mp (List.pairwise_cons.mp h.grows).2).2
  exact hflat.imp fun hall => ⟨hall _ (by simp) _ (by simp), hall _ (by simp) _ (by simp)⟩

lemma Growing.eq_of_id {a b : α} {call call' : PageCall α} (hcall : call ∈ calls)
    (hcall' : call' ∈ calls) (ha : a ∈ call.rows) (hb : b ∈ call'.rows) (hid : id a = id b) :
    a = b := by
  have htogether : ∃ table ∈ calls, a ∈ table.rows ∧ b ∈ table.rows := by
    obtain ⟨i, hi, rfl⟩ := List.mem_iff_getElem.mp hcall
    obtain ⟨j, hj, rfl⟩ := List.mem_iff_getElem.mp hcall'
    have hlt := List.pairwise_iff_getElem.mp h.pairwise
    rcases lt_trichotomy i j with hij | rfl | hij
    · exact ⟨calls[j], hcall', (hlt i j hi hj hij).2 ha, hb⟩
    · exact ⟨calls[i], hcall', ha, hb⟩
    · exact ⟨calls[i], hcall, ha, (hlt j i hj hi hij).2 hb⟩
  obtain ⟨table, htable, ha, hb⟩ := htogether
  exact List.inj_on_of_nodup_map (h.unique table htable).2 ha hb hid

lemma exactWalk (hkey : ∀ a b, key a = key b → id a = id b)
    (hreads : ∀ call ∈ calls, ReadsPage id key admits list call) :
    ∃ result, followCursor list none calls = .ok result ∧
      ExactWalk id key admits start calls result := by
  have hnodup : ∀ step ∈ steps admits calls, (step.1.map key).Nodup := by
    intro step hstep
    obtain ⟨call, hcall, rfl⟩ := List.mem_map.mp hstep
    have hids := List.pairwise_map.mp (h.unique call hcall).2
    exact List.pairwise_map.mpr ((hids.filter _).imp fun hne heq => hne (hkey _ _ heq))
  have hlimits : ∀ step ∈ steps admits calls, 0 < step.2 := by
    intro step hstep
    obtain ⟨call, hcall, rfl⟩ := List.mem_map.mp hstep
    exact (h.sized call hcall).1
  have hfrom : ∀ row ∈ (walk key none (steps admits calls)).1,
      ∃ call ∈ calls, row ∈ call.rows ∧ admits row = true := by
    intro row hrow
    obtain ⟨-, step, hstep, hmem⟩ := lt_of_mem_walk row hrow
    obtain ⟨call, hcall, rfl⟩ := List.mem_map.mp hstep
    exact ⟨call, hcall, List.mem_filter.mp hmem⟩
  have hcomplete : (walk key none (steps admits calls)).2 = true → ∀ row ∈ start,
      admits row = true → row ∈ (walk key none (steps admits calls)).1 := by
    intro hended row hrow hadmits
    refine mem_walk hnodup hlimits hended (fun step hstep => ?_) nofun
    obtain ⟨call, hcall, rfl⟩ := List.mem_map.mp hstep
    exact List.mem_filter.mpr ⟨h.subset hcall hrow, hadmits⟩
  have hsorted : (walk key none (steps admits calls)).1.Pairwise fun a b => key a < key b :=
    pairwise_walk hnodup
  refine ⟨_, followCursor_eq_walk hreads (h.pairwise.imp fun hsub => hsub.1)
    (fun call hcall => (h.sized call hcall).1) (fun call _ => .inl ⟨rfl, rfl⟩), ?_⟩
  refine ⟨hsorted, ?_, fun row hrow => ?_, hcomplete, fun hended hsame row => ?_⟩
  · refine List.pairwise_map.mpr (hsorted.imp_of_mem fun ha hb hlt hid => ?_)
    obtain ⟨call, hcall, hacall, -⟩ := hfrom _ ha
    obtain ⟨call', hcall', hbcall, -⟩ := hfrom _ hb
    exact hlt.ne (congrArg key (h.eq_of_id hcall hcall' hacall hbcall hid))
  · obtain ⟨-, -, -, hadmits⟩ := hfrom row hrow
    exact hadmits
  · refine ⟨fun hrow => ?_, fun hrow => hcomplete hended row hrow.1 hrow.2⟩
    obtain ⟨call, hcall, hmem, hadmits⟩ := hfrom row hrow
    exact ⟨hsame call hcall ▸ hmem, hadmits⟩

end

end Walks

/-! ## The three listings -/

lemma validatePageRequest_of_le {limit : ℕ} (h : 1 ≤ limit ∧ limit ≤ maxOversightPageSize) :
    validatePageRequest limit = .ok () := by
  rw [validatePageRequest, if_neg (by omega), if_neg (by omega)]

lemma readsPage_listPlatformAudit {filters : AuditFilters} {call : PageCall PlatformAuditView}
    (hfilters : filters.check = .ok ()) (hunique : (call.lookup.map (·.id)).Nodup)
    (hlimit : 1 ≤ call.limit ∧ call.limit ≤ maxOversightPageSize) :
    ReadsPage (·.id) (·.order) filters.admits (listPlatformAudit filters) call := by
  intro cursor after hstands
  have hvalid := validatePageRequest_of_le hlimit
  rcases hstands with ⟨rfl, rfl⟩ | ⟨row, hrow, rfl, rfl⟩
  · simp [listPlatformAudit, hvalid, hfilters, bind, Except.bind, pure, Except.pure]
  · have hfind : call.lookup.find? (fun r => decide (r.id = row.id)) = some row := by
      cases hfind : call.lookup.find? fun r => decide (r.id = row.id) with
      | none => exact absurd (List.find?_eq_none.mp hfind row hrow) (by simp)
      | some found =>
        have hid : found.id = row.id := by simpa using List.find?_some hfind
        rw [List.inj_on_of_nodup_map hunique (List.mem_of_find?_eq_some hfind) hrow hid]
    simp [listPlatformAudit, hvalid, hfilters, hfind, bind, Except.bind, pure, Except.pure]

lemma after_of_stands {α : Type} {id : α → Uuid} {call : PageCall α} {cursor after : Option Uuid}
    (h : Stands id id call cursor after) : after = cursor := by
  rcases h with ⟨rfl, rfl⟩ | ⟨row, -, rfl, rfl⟩ <;> rfl

/-- An entry of a user's transaction. -/
def suspended (id : Uuid) (createdAt : ℤ) : PlatformAuditView :=
  ⟨id, createdAt, "user", some 7, none, "platform.operator_suspended", "platform_operator", none,
    none, "success", none, none, none⟩

end SaasOs.Oversight
