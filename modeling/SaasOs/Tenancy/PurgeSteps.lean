import SaasOs.Tenancy.Purge

/-!
# The steps of a purge on the tenant's own rows

A purge deletes the rows of a tenant from seventeen tables, in ten steps of one transaction each,
in an order that respects the foreign keys.  A delegation grant that an audit row of the tenant names
is kept and revoked, and a service account that an audit row of the tenant or such a grant names is
kept and disabled.
-/

namespace SaasOs

/-! ## Tables and steps -/

/-- The tables that a purge deletes from. -/
inductive PurgedTable
  | apiKeys
  | notifications
  | webhookReplayRecords
  | webhookSubscriptions
  | membershipRoles
  | rolePermissions
  | serviceAccountRoles
  | denyGrants
  | delegationGrants
  | roles
  | invitations
  | serviceAccounts
  | tenantMemberships
  | featureFlagTenantOverrides
  | idempotencyRecords
  | outboxEvents
  | outboxConsumptions
  deriving DecidableEq

def PurgedTable.referenced : PurgedTable → List PurgedTable
  | apiKeys => [tenantMemberships, serviceAccounts]
  | notifications => [tenantMemberships]
  | webhookReplayRecords => [webhookSubscriptions]
  | membershipRoles => [tenantMemberships, roles]
  | rolePermissions => [roles]
  | serviceAccountRoles => [serviceAccounts, roles]
  | denyGrants => [serviceAccounts]
  | delegationGrants => [serviceAccounts]
  | webhookSubscriptions | roles | invitations | serviceAccounts | tenantMemberships
  | featureFlagTenantOverrides | idempotencyRecords | outboxEvents | outboxConsumptions => []

/-- The foreign keys of a grant and of a replay record name a service account and a subscription by
the id alone; all others name a row of the same tenant. -/
def PurgedTable.namesById : PurgedTable → Bool
  | denyGrants | delegationGrants | webhookReplayRecords => true
  | _ => false

inductive PurgeStep
  | apiKeys
  | notifications
  | webhooks
  | authorization
  | invitations
  | serviceAccounts
  | memberships
  | featureFlagOverrides
  | idempotencyRecords
  | outbox
  deriving DecidableEq

def purgeSteps : List PurgeStep :=
  [.apiKeys, .notifications, .webhooks, .authorization, .invitations, .serviceAccounts,
    .memberships, .featureFlagOverrides, .idempotencyRecords, .outbox]

def PurgeStep.tables : PurgeStep → List PurgedTable
  | apiKeys => [.apiKeys]
  | notifications => [.notifications]
  | webhooks => [.webhookReplayRecords, .webhookSubscriptions]
  | authorization => [.membershipRoles, .rolePermissions, .serviceAccountRoles, .denyGrants,
      .delegationGrants, .roles]
  | invitations => [.invitations]
  | serviceAccounts => [.serviceAccounts]
  | memberships => [.tenantMemberships]
  | featureFlagOverrides => [.featureFlagTenantOverrides]
  | idempotencyRecords => [.idempotencyRecords]
  | outbox => [.outboxEvents, .outboxConsumptions]

lemma mem_tables_of_purgeSteps (table : PurgedTable) :
    ∃ step ∈ purgeSteps, table ∈ step.tables := by
  cases table <;> decide

/-! ## Rows -/

abbrev RowRef := PurgedTable × Uuid

structure OwnedRow where
  table : PurgedTable
  id : Uuid
  tenantId : Uuid
  references : List RowRef
  active : Bool
  deriving DecidableEq

def OwnedRow.ref (row : OwnedRow) : RowRef := (row.table, row.id)

def OwnedRow.retire (row : OwnedRow) : OwnedRow := { row with active := false }

/-- An audit row of a tenant names a delegation grant or a service account. -/
structure AuditReference where
  tenantId : Uuid
  ref : RowRef
  deriving DecidableEq

section Step

variable (audit : List AuditReference) (tenantId : Uuid)

/-- Is the row kept?  `keep` are the service accounts that a step before has found to be named by a
grant that is kept. -/
def isKept (keep : List Uuid) (row : OwnedRow) : Bool :=
  match row.table with
  | .delegationGrants => audit.contains ⟨tenantId, row.ref⟩
  | .serviceAccounts => audit.contains ⟨tenantId, row.ref⟩ || keep.contains row.id
  | _ => false

/-- The rows that a step selects `FOR UPDATE`. -/
def selectRows (rows : List OwnedRow) (tables : List PurgedTable) : List OwnedRow :=
  rows.filter fun row => row.tenantId == tenantId && tables.contains row.table

def doomedRefs (keep : List Uuid) (selected : List OwnedRow) (table : PurgedTable) : List RowRef :=
  (selected.filter fun row => row.table == table && !isKept audit tenantId keep row).map OwnedRow.ref

/-- Delete the selected rows of one table, and revoke or disable those that are kept; `none` when a
foreign key would dangle. -/
def purgeTable (keep : List Uuid) (selected : List OwnedRow) (rows : List OwnedRow)
    (table : PurgedTable) : Option (List OwnedRow) :=
  let doomed := doomedRefs audit tenantId keep selected table
  let rest := (rows.filter fun row => !(row.tenantId == tenantId && doomed.contains row.ref)).map
    fun row =>
      if row.tenantId = tenantId ∧ row.table = table ∧ row.ref ∈ selected.map OwnedRow.ref then
        row.retire
      else
        row
  if (rest.any fun row => row.references.any doomed.contains) ||
      audit.any fun entry => doomed.contains entry.ref then
    none
  else
    some rest

def purgeTables (keep : List Uuid) (selected : List OwnedRow) (tables : List PurgedTable)
    (rows : List OwnedRow) : Option (List OwnedRow) :=
  tables.foldlM (purgeTable audit tenantId keep selected) rows

def deletedCount (keep : List Uuid) (selected : List OwnedRow) (tables : List PurgedTable) : ℕ :=
  (tables.map fun table => (doomedRefs audit tenantId keep selected table).length).sum

def retainedDelegates (selected : List OwnedRow) : List Uuid :=
  (selected.filter fun row =>
    row.table == .delegationGrants && isKept audit tenantId [] row).flatMap fun row =>
      (row.references.filter fun ref => ref.1 == .serviceAccounts).map Prod.snd

end Step

variable (row : OwnedRow)

@[simp] lemma OwnedRow.retire_ref : row.retire.ref = row.ref := rfl

variable {audit : List AuditReference} {tenantId : Uuid} {keep : List Uuid}
  {rows rows' rows'' selected : List OwnedRow} {table : PurgedTable} {tables : List PurgedTable}

/-! ## What is left -/

/-- The row is a delegation grant of the tenant that an audit row of the tenant names. -/
structure IsAuditedGrant (audit : List AuditReference) (tenantId : Uuid) (row : OwnedRow) : Prop where
  table : row.table = .delegationGrants
  owner : row.tenantId = tenantId
  named : ⟨tenantId, row.ref⟩ ∈ audit

lemma IsAuditedGrant.retire {row : OwnedRow} (h : IsAuditedGrant audit tenantId row) :
    IsAuditedGrant audit tenantId row.retire :=
  ⟨h.table, h.owner, h.named⟩

/-- The row may be left behind by a purge: a revoked grant that an audit row names, or a disabled
account that an audit row or such a grant names. -/
def IsRetained (audit : List AuditReference) (tenantId : Uuid) (rows : List OwnedRow)
    (row : OwnedRow) : Prop :=
  row.active = false ∧
    (IsAuditedGrant audit tenantId row ∨
      row.table = .serviceAccounts ∧ (⟨tenantId, row.ref⟩ ∈ audit ∨
        ∃ grant ∈ rows, IsAuditedGrant audit tenantId grant ∧ row.ref ∈ grant.references))

def IsCleared (audit : List AuditReference) (tenantId : Uuid) (rows : List OwnedRow)
    (table : PurgedTable) : Prop :=
  ∀ row ∈ rows, row.tenantId = tenantId → row.table = table → IsRetained audit tenantId rows row

/-- Rows of the tenant are deleted or retired, but no grant that an audit row names is deleted. -/
structure OwnShrunk (audit : List AuditReference) (tenantId : Uuid) (rows rows' : List OwnedRow) :
    Prop where
  of_mem : ∀ row' ∈ rows', row'.tenantId = tenantId → ∃ row ∈ rows, row' = row ∨ row' = row.retire
  audited : ∀ row ∈ rows, IsAuditedGrant audit tenantId row → row ∈ rows' ∨ row.retire ∈ rows'

/-- The rows of others are left as they are. -/
structure Shrunk (audit : List AuditReference) (tenantId : Uuid) (rows rows' : List OwnedRow) :
    Prop extends OwnShrunk audit tenantId rows rows' where
  others : ∀ row' ∈ rows', row'.tenantId ≠ tenantId → row' ∈ rows

lemma OwnShrunk.refl (rows : List OwnedRow) : OwnShrunk audit tenantId rows rows :=
  ⟨fun row hrow _ => ⟨row, hrow, .inl rfl⟩, fun _ hrow _ => .inl hrow⟩

lemma OwnShrunk.trans (h : OwnShrunk audit tenantId rows rows')
    (h' : OwnShrunk audit tenantId rows' rows'') : OwnShrunk audit tenantId rows rows'' where
  of_mem row'' hrow'' howner := by
    obtain ⟨row', hrow', hstep'⟩ := h'.of_mem row'' hrow'' howner
    have howner' : row'.tenantId = tenantId := by
      rcases hstep' with rfl | rfl <;> exact howner
    obtain ⟨row, hrow, hstep⟩ := h.of_mem row' hrow' howner'
    refine ⟨row, hrow, ?_⟩
    rcases hstep with rfl | rfl
    · exact hstep'
    · exact .inr (hstep'.elim id id)
  audited row hrow haudited := by
    rcases h.audited row hrow haudited with hkept | hretired
    · exact h'.audited row hkept haudited
    · exact .inr ((h'.audited _ hretired haudited.retire).elim id id)

lemma Shrunk.refl (rows : List OwnedRow) : Shrunk audit tenantId rows rows :=
  ⟨.refl rows, fun _ hrow _ => hrow⟩

lemma Shrunk.trans (h : Shrunk audit tenantId rows rows') (h' : Shrunk audit tenantId rows' rows'') :
    Shrunk audit tenantId rows rows'' where
  toOwnShrunk := h.toOwnShrunk.trans h'.toOwnShrunk
  others row'' hrow'' howner := h.others row'' (h'.others row'' hrow'' howner) howner

variable {row' : OwnedRow}

lemma Shrunk.exists_of_mem (h : Shrunk audit tenantId rows rows') (hrow' : row' ∈ rows') :
    ∃ row ∈ rows, row'.ref = row.ref ∧ row'.tenantId = row.tenantId ∧
      row'.references = row.references := by
  by_cases howner : row'.tenantId = tenantId
  · obtain ⟨row, hrow, rfl | rfl⟩ := h.of_mem row' hrow' howner
    · exact ⟨row', hrow, rfl, rfl, rfl⟩
    · exact ⟨row, hrow, rfl, rfl, rfl⟩
  · exact ⟨row', h.others row' hrow' howner, rfl, rfl, rfl⟩

lemma OwnShrunk.isRetained (h : OwnShrunk audit tenantId rows rows') {row row' : OwnedRow}
    (hretained : IsRetained audit tenantId rows row) (hrow' : row' = row ∨ row' = row.retire) :
    IsRetained audit tenantId rows' row' := by
  obtain ⟨hinactive, hkind⟩ := hretained
  obtain rfl : row' = row := by
    rcases hrow' with rfl | rfl
    · rfl
    · cases row
      cases hinactive
      rfl
  refine ⟨hinactive, hkind.imp_right fun ⟨htable, hnamed⟩ => ⟨htable, hnamed.imp_right ?_⟩⟩
  rintro ⟨grant, hgrant, haudited, hreference⟩
  rcases h.audited grant hgrant haudited with hkept | hretired
  · exact ⟨grant, hkept, haudited, hreference⟩
  · exact ⟨grant.retire, hretired, haudited.retire, hreference⟩

lemma OwnShrunk.isCleared (h : OwnShrunk audit tenantId rows rows')
    (hcleared : IsCleared audit tenantId rows table) : IsCleared audit tenantId rows' table := by
  intro row' hrow' htenant htable
  obtain ⟨row, hrow, hstep⟩ := h.of_mem row' hrow' htenant
  refine h.isRetained (hcleared row hrow ?_ ?_) hstep
  · rcases hstep with rfl | rfl <;> exact htenant
  · rcases hstep with rfl | rfl <;> exact htable

def KeepSound (audit : List AuditReference) (tenantId : Uuid) (rows : List OwnedRow)
    (keep : List Uuid) : Prop :=
  ∀ id ∈ keep, ∃ grant ∈ rows, IsAuditedGrant audit tenantId grant ∧
    (.serviceAccounts, id) ∈ grant.references

lemma OwnShrunk.keepSound (h : OwnShrunk audit tenantId rows rows')
    (hkeep : KeepSound audit tenantId rows keep) : KeepSound audit tenantId rows' keep := by
  intro id hid
  obtain ⟨grant, hgrant, haudited, hreference⟩ := hkeep id hid
  rcases h.audited grant hgrant haudited with hkept | hretired
  · exact ⟨grant, hkept, haudited, hreference⟩
  · exact ⟨grant.retire, hretired, haudited.retire, hreference⟩

/-! ## One table -/

lemma isKept_congr {row row' : OwnedRow} (h : row.ref = row'.ref) :
    isKept audit tenantId keep row = isKept audit tenantId keep row' := by
  have htable : row.table = row'.table := congrArg Prod.fst h
  have hid : row.id = row'.id := congrArg Prod.snd h
  unfold isKept
  rw [htable, h, hid]

lemma IsAuditedGrant.isKept {row : OwnedRow} (h : IsAuditedGrant audit tenantId row) :
    isKept audit tenantId keep row = true := by
  unfold SaasOs.isKept
  rw [h.table]
  exact List.contains_iff_mem.mpr h.named

variable {ref : RowRef}

lemma mem_doomedRefs :
    ref ∈ doomedRefs audit tenantId keep selected table ↔
      ∃ row ∈ selected, row.table = table ∧ isKept audit tenantId keep row = false ∧
        row.ref = ref := by
  simp [doomedRefs, and_assoc]

lemma isKept_eq_false_of_mem_doomedRefs {row : OwnedRow}
    (h : row.ref ∈ doomedRefs audit tenantId keep selected table) :
    isKept audit tenantId keep row = false := by
  obtain ⟨other, -, -, hkept, href⟩ := mem_doomedRefs.mp h
  rw [← isKept_congr href]
  exact hkept

section

variable (h : purgeTable audit tenantId keep selected rows table = some rows')

include h

lemma mem_of_purgeTable : row' ∈ rows' ↔
      ∃ row ∈ rows, ¬ (row.tenantId = tenantId ∧
          row.ref ∈ doomedRefs audit tenantId keep selected table) ∧
        row' = if row.tenantId = tenantId ∧ row.table = table ∧
          row.ref ∈ selected.map OwnedRow.ref then row.retire else row := by
  unfold purgeTable at h
  dsimp only at h
  split at h
  · cases h
  · cases h
    simp only [List.mem_map, List.mem_filter, and_assoc]
    refine exists_congr fun row => and_congr_right fun _ => and_congr ?_ eq_comm
    simp [imp_iff_not_or]

lemma notMem_doomedRefs_of_purgeTable {row : OwnedRow} (hrow : row ∈ rows')
    (href : ref ∈ row.references) :
    ref ∉ doomedRefs audit tenantId keep selected table := by
  unfold purgeTable at h
  dsimp only at h
  split at h
  · cases h
  · next hdangling =>
    cases h
    intro hdoomed
    refine hdangling (Bool.or_eq_true_iff.mpr (.inl (List.any_eq_true.mpr ⟨row, hrow, ?_⟩)))
    exact List.any_eq_true.mpr ⟨ref, href, List.contains_iff_mem.mpr hdoomed⟩

lemma purgeTable_shrunk :
    Shrunk audit tenantId rows rows' where
  of_mem row' hrow' _ := by
    obtain ⟨row, hrow, -, hstep⟩ := (mem_of_purgeTable h).mp hrow'
    refine ⟨row, hrow, ?_⟩
    split at hstep
    · exact .inr hstep
    · exact .inl hstep
  others row' hrow' howner := by
    obtain ⟨row, hrow, -, hstep⟩ := (mem_of_purgeTable h).mp hrow'
    split at hstep
    · next hown =>
      subst hstep
      exact absurd hown.1 howner
    · exact hstep ▸ hrow
  audited row hrow haudited := by
    have hleft : ¬ (row.tenantId = tenantId ∧
        row.ref ∈ doomedRefs audit tenantId keep selected table) := by
      rintro ⟨-, hdoomed⟩
      have hkept := isKept_eq_false_of_mem_doomedRefs hdoomed
      rw [haudited.isKept] at hkept
      cases hkept
    by_cases hretired : row.tenantId = tenantId ∧ row.table = table ∧
        row.ref ∈ selected.map OwnedRow.ref
    · exact .inr ((mem_of_purgeTable h).mpr ⟨row, hrow, hleft, (if_pos hretired).symm⟩)
    · exact .inl ((mem_of_purgeTable h).mpr ⟨row, hrow, hleft, (if_neg hretired).symm⟩)

end

lemma isRetained_of_isKept (hkeep : KeepSound audit tenantId rows keep) {row : OwnedRow}
    (howner : row.tenantId = tenantId) (hkept : isKept audit tenantId keep row = true) :
    IsRetained audit tenantId rows row.retire := by
  refine ⟨rfl, ?_⟩
  unfold isKept at hkept
  split at hkept
  · next htable => exact .inl ⟨htable, howner, List.contains_iff_mem.mp hkept⟩
  · next htable =>
    refine .inr ⟨htable, ?_⟩
    rcases Bool.or_eq_true _ _ ▸ hkept with hnamed | hnamed
    · exact .inl (List.contains_iff_mem.mp hnamed)
    · obtain ⟨grant, hgrant, haudited, hreference⟩ := hkeep row.id (List.contains_iff_mem.mp hnamed)
      refine .inr ⟨grant, hgrant, haudited, ?_⟩
      rw [OwnedRow.retire_ref, OwnedRow.ref, htable]
      exact hreference
  · cases hkept

def Covers (tenantId : Uuid) (rows selected : List OwnedRow) (tables : List PurgedTable) : Prop :=
  ∀ row ∈ rows, row.tenantId = tenantId → row.table ∈ tables → row.ref ∈ selected.map OwnedRow.ref

lemma mem_selectRows {row : OwnedRow} : row ∈ selectRows tenantId rows tables ↔
    row ∈ rows ∧ row.tenantId = tenantId ∧ row.table ∈ tables := by
  simp [selectRows]

lemma covers_selectRows (rows : List OwnedRow) (tables : List PurgedTable) :
    Covers tenantId rows (selectRows tenantId rows tables) tables := by
  intro row hrow howner htable
  exact List.mem_map_of_mem (mem_selectRows.mpr ⟨hrow, howner, htable⟩)

lemma OwnShrunk.covers (h : OwnShrunk audit tenantId rows rows')
    (hcovers : Covers tenantId rows selected tables) : Covers tenantId rows' selected tables := by
  intro row' hrow' howner htable
  obtain ⟨row, hrow, hstep⟩ := h.of_mem row' hrow' howner
  rcases hstep with rfl | rfl
  · exact hcovers _ hrow howner htable
  · exact hcovers row hrow howner htable

lemma purgeTable_cleared (h : purgeTable audit tenantId keep selected rows table = some rows')
    (hcovers : Covers tenantId rows selected [table]) (hkeep : KeepSound audit tenantId rows keep) :
    IsCleared audit tenantId rows' table := by
  intro row' hrow' howner htable
  obtain ⟨row, hrow, hleft, hstep⟩ := (mem_of_purgeTable h).mp hrow'
  have hown : row.tenantId = tenantId ∧ row.table = table := by
    split at hstep <;> subst hstep <;> exact ⟨howner, htable⟩
  have hselected := hcovers row hrow hown.1 (List.mem_singleton.mpr hown.2)
  rw [if_pos ⟨hown.1, hown.2, hselected⟩] at hstep
  subst hstep
  have hkept : isKept audit tenantId keep row = true := by
    by_contra hnot
    obtain ⟨chosen, hchosen, href⟩ := List.mem_map.mp hselected
    refine hleft ⟨hown.1, mem_doomedRefs.mpr ⟨chosen, hchosen, ?_, ?_, href⟩⟩
    · exact (congrArg Prod.fst href).trans hown.2
    · rw [isKept_congr href]
      exact Bool.eq_false_iff.mpr hnot
  exact (purgeTable_shrunk h).isRetained (isRetained_of_isKept hkeep hown.1 hkept) (.inl rfl)

/-! ## One step -/

section

variable (h : purgeTables audit tenantId keep selected tables rows = some rows')

include h

lemma purgeTables_shrunk :
    Shrunk audit tenantId rows rows' := by
  induction tables generalizing rows with
  | nil =>
    cases h
    exact .refl _
  | cons table tables ih =>
    obtain ⟨next, hnext, hrest⟩ := Option.bind_eq_some_iff.mp h
    exact (purgeTable_shrunk hnext).trans (ih hrest)

lemma purgeTables_cleared (hcovers : Covers tenantId rows selected tables)
    (hkeep : KeepSound audit tenantId rows keep) :
    ∀ table ∈ tables, IsCleared audit tenantId rows' table := by
  induction tables generalizing rows with
  | nil => exact fun _ hmem => absurd hmem List.not_mem_nil
  | cons table tables ih =>
    obtain ⟨next, hnext, hrest⟩ := Option.bind_eq_some_iff.mp h
    have hshrunk := purgeTable_shrunk hnext
    have hfirst : Covers tenantId rows selected [table] := by
      intro row hrow howner htable
      exact hcovers row hrow howner (List.mem_cons.mpr (.inl (List.mem_singleton.mp htable)))
    have hothers : Covers tenantId next selected tables := by
      refine hshrunk.covers fun row hrow howner htable => ?_
      exact hcovers row hrow howner (List.mem_cons_of_mem table htable)
    intro other hother
    rcases List.mem_cons.mp hother with rfl | hmem
    · exact (purgeTables_shrunk hrest).isCleared (purgeTable_cleared hnext hfirst hkeep)
    · exact ih hrest hothers (hshrunk.keepSound hkeep) other hmem

end

lemma keepSound_retainedDelegates (howner : ∀ row ∈ selected, row.tenantId = tenantId)
    (hselected : ∀ row ∈ selected, IsAuditedGrant audit tenantId row →
      row ∈ rows ∨ row.retire ∈ rows) :
    KeepSound audit tenantId rows (retainedDelegates audit tenantId selected) := by
  intro id hid
  obtain ⟨grant, hgrant, hreference⟩ := List.mem_flatMap.mp hid
  obtain ⟨hmem, hkind⟩ := List.mem_filter.mp hgrant
  obtain ⟨htable, hkept⟩ : grant.table = .delegationGrants ∧
      isKept audit tenantId [] grant = true := by simpa using hkind
  obtain ⟨⟨named, id'⟩, href, rfl⟩ := List.mem_map.mp hreference
  obtain ⟨href, hnamed⟩ := List.mem_filter.mp href
  obtain rfl : named = .serviceAccounts := by simpa using hnamed
  have haudited : IsAuditedGrant audit tenantId grant := by
    refine ⟨htable, howner grant hmem, ?_⟩
    unfold isKept at hkept
    rw [htable] at hkept
    exact List.contains_iff_mem.mp hkept
  rcases hselected grant hmem haudited with hkeep | hretired
  · exact ⟨grant, hkeep, haudited, href⟩
  · exact ⟨grant.retire, hretired, haudited.retire, href⟩

/-! ## When a step is not refused -/

def purgedOrder : List PurgedTable :=
  purgeSteps.flatMap PurgeStep.tables

lemma mem_of_idxOf_lt {α : Type*} [DecidableEq α] {l before after : List α} {x y : α}
    (hnodup : l.Nodup) (h : l = before ++ x :: after) (hlt : l.idxOf y < l.idxOf x) :
    y ∈ before := by
  subst h
  have hnot : x ∉ before := fun hmem =>
    (List.nodup_append.mp hnodup).2.2 x hmem x List.mem_cons_self rfl
  rw [List.idxOf_append_of_notMem hnot, List.idxOf_cons_self, Nat.add_zero] at hlt
  by_contra hmem
  rw [List.idxOf_append_of_notMem hmem] at hlt
  omega

lemma mem_of_referenced {before after : List PurgedTable}
    (h : purgedOrder = before ++ table :: after) {other : PurgedTable}
    (hother : table ∈ other.referenced) : other ∈ before := by
  have horder : ∀ referenced ∈ other.referenced,
      purgedOrder.idxOf other < purgedOrder.idxOf referenced := by
    cases other <;> decide
  exact mem_of_idxOf_lt (by decide) h (horder table hother)

/-- The foreign keys of the schema: they point to the referenced tables, within a tenant unless the
row is a grant or a replay record; an audit row names delegation grants, and service accounts of its
own tenant. -/
structure SchemaSound (audit : List AuditReference) (rows : List OwnedRow) : Prop where
  references : ∀ row ∈ rows, ∀ ref ∈ row.references, ref.1 ∈ row.table.referenced
  sameTenant : ∀ row ∈ rows, row.table.namesById = false → ∀ ref ∈ row.references,
    ∀ other ∈ rows, other.ref = ref → other.tenantId = row.tenantId
  audited : ∀ entry ∈ audit, entry.ref.1 = .delegationGrants ∨
    entry.ref.1 = .serviceAccounts ∧ ∀ row ∈ rows, row.ref = entry.ref →
      row.tenantId = entry.tenantId

instance (audit : List AuditReference) (rows : List OwnedRow) :
    Decidable (SchemaSound audit rows) :=
  decidable_of_iff
    ((∀ row ∈ rows, ∀ ref ∈ row.references, ref.1 ∈ row.table.referenced) ∧
      (∀ row ∈ rows, row.table.namesById = false → ∀ ref ∈ row.references,
        ∀ other ∈ rows, other.ref = ref → other.tenantId = row.tenantId) ∧
      ∀ entry ∈ audit, entry.ref.1 = .delegationGrants ∨
        entry.ref.1 = .serviceAccounts ∧ ∀ row ∈ rows, row.ref = entry.ref →
          row.tenantId = entry.tenantId)
    ⟨fun ⟨hreferences, hsame, haudited⟩ => ⟨hreferences, hsame, haudited⟩,
      fun h => ⟨h.references, h.sameTenant, h.audited⟩⟩

/-- No grant of another tenant names a service account of the tenant, no replay record of another
tenant a subscription of it, and no audit row of another tenant a delegation grant of it. -/
structure Unpinned (audit : List AuditReference) (tenantId : Uuid) (rows : List OwnedRow) :
    Prop where
  foreign : ∀ row ∈ rows, row.table.namesById = true → row.tenantId ≠ tenantId →
    ∀ ref ∈ row.references, ∀ other ∈ rows, other.ref = ref → other.tenantId ≠ tenantId
  audited : ∀ entry ∈ audit, entry.tenantId ≠ tenantId → ∀ row ∈ rows, row.ref = entry.ref →
    row.tenantId ≠ tenantId

lemma Shrunk.schemaSound (h : Shrunk audit tenantId rows rows') (hschema : SchemaSound audit rows) :
    SchemaSound audit rows' where
  references row' hrow' ref href := by
    obtain ⟨row, hrow, hsame, -, hreferences⟩ := h.exists_of_mem hrow'
    have htable : row'.table = row.table := congrArg Prod.fst hsame
    rw [htable]
    exact hschema.references row hrow ref (hreferences ▸ href)
  sameTenant row' hrow' hbyId ref href other' hother' hnamed := by
    obtain ⟨row, hrow, hsame, howner, hreferences⟩ := h.exists_of_mem hrow'
    obtain ⟨other, hother, hotherSame, hotherOwner, -⟩ := h.exists_of_mem hother'
    have htable : row'.table = row.table := congrArg Prod.fst hsame
    rw [howner, hotherOwner]
    exact hschema.sameTenant row hrow (htable ▸ hbyId) ref (hreferences ▸ href) other hother
      (hotherSame.symm.trans hnamed)
  audited entry hentry := by
    refine (hschema.audited entry hentry).imp_right fun ⟨htable, howner⟩ =>
      ⟨htable, fun row' hrow' hnamed => ?_⟩
    obtain ⟨row, hrow, hsame, hsameOwner, -⟩ := h.exists_of_mem hrow'
    rw [hsameOwner]
    exact howner row hrow (hsame.symm.trans hnamed)

lemma Shrunk.unpinned (h : Shrunk audit tenantId rows rows')
    (hunpinned : Unpinned audit tenantId rows) : Unpinned audit tenantId rows' where
  foreign row' hrow' hbyId howner ref href other' hother' hnamed := by
    obtain ⟨other, hother, hsame, hotherOwner, -⟩ := h.exists_of_mem hother'
    rw [hotherOwner]
    exact hunpinned.foreign row' (h.others row' hrow' howner) hbyId howner ref href other hother
      (hsame.symm.trans hnamed)
  audited entry hentry howner row' hrow' hnamed := by
    obtain ⟨row, hrow, hsame, hsameOwner, -⟩ := h.exists_of_mem hrow'
    rw [hsameOwner]
    exact hunpinned.audited entry hentry howner row hrow (hsame.symm.trans hnamed)

def KeepComplete (audit : List AuditReference) (tenantId : Uuid) (rows : List OwnedRow)
    (keep : List Uuid) : Prop :=
  ∀ grant ∈ rows, IsAuditedGrant audit tenantId grant →
    ∀ id, (.serviceAccounts, id) ∈ grant.references → id ∈ keep

lemma OwnShrunk.keepComplete (h : OwnShrunk audit tenantId rows rows')
    (hkeep : KeepComplete audit tenantId rows keep) : KeepComplete audit tenantId rows' keep := by
  intro grant' hgrant' haudited id hreference
  obtain ⟨grant, hgrant, rfl | rfl⟩ := h.of_mem grant' hgrant' haudited.owner
  · exact hkeep _ hgrant haudited id hreference
  · exact hkeep grant hgrant ⟨haudited.table, haudited.owner, haudited.named⟩ id hreference

lemma keepComplete_retainedDelegates (hselected : ∀ row ∈ rows, row.tenantId = tenantId →
      row.table = .delegationGrants → row ∈ selected) :
    KeepComplete audit tenantId rows (retainedDelegates audit tenantId selected) := by
  intro grant hgrant haudited id hreference
  refine List.mem_flatMap.mpr ⟨grant, List.mem_filter.mpr ⟨?_, ?_⟩, ?_⟩
  · exact hselected grant hgrant haudited.owner haudited.table
  · simp [haudited.table, haudited.isKept]
  · exact List.mem_map.mpr ⟨_, List.mem_filter.mpr ⟨hreference, rfl⟩, rfl⟩

section Unrefused

variable (hschema : SchemaSound audit rows) (hunpinned : Unpinned audit tenantId rows)
  (hselected : ∀ row ∈ selected, row ∈ rows ∧ row.tenantId = tenantId)
include hschema hunpinned hselected

lemma notMem_doomedRefs_of_reference (hshrunk : Shrunk audit tenantId rows rows')
    (hbefore : ∀ other : PurgedTable, table ∈ other.referenced →
      IsCleared audit tenantId rows' other)
    (hkeep : table = .serviceAccounts → KeepComplete audit tenantId rows' keep) {row : OwnedRow}
    (hrow : row ∈ rows') {ref : RowRef} (href : ref ∈ row.references) :
    ref ∉ doomedRefs audit tenantId keep selected table := by
  intro hdoomed
  obtain ⟨doomed, hmem, rfl, hkept, rfl⟩ := mem_doomedRefs.mp hdoomed
  obtain ⟨hold, howner⟩ := hselected doomed hmem
  obtain ⟨before, hbeforeMem, hsame, howners, hreferences⟩ := hshrunk.exists_of_mem hrow
  have htables : row.table = before.table := congrArg Prod.fst hsame
  rw [hreferences] at href
  have hpoints : doomed.table ∈ row.table.referenced :=
    htables ▸ hschema.references before hbeforeMem _ href
  by_cases hown : row.tenantId = tenantId
  · -- a row of the tenant that is left names an account only, and that account is kept
    obtain ⟨-, haudited | ⟨htable, -⟩⟩ := hbefore row.table hpoints row hrow hown rfl
    · have haccount : doomed.table = .serviceAccounts := by
        rw [haudited.table] at hpoints
        exact List.mem_singleton.mp hpoints
      have hnamed : doomed.id ∈ keep := by
        refine hkeep haccount row hrow haudited doomed.id ?_
        rw [hreferences, ← haccount]
        exact href
      unfold isKept at hkept
      rw [haccount] at hkept
      simp [hnamed] at hkept
    · rw [htable] at hpoints
      cases hpoints
  · cases hbyId : before.table.namesById with
    | true =>
      exact hunpinned.foreign before hbeforeMem hbyId (howners ▸ hown) _ href doomed hold rfl howner
    | false =>
      have htenant := hschema.sameTenant before hbeforeMem hbyId _ href doomed hold rfl
      exact hown (howners.trans (htenant.symm.trans howner))

lemma notMem_doomedRefs_of_audit {entry : AuditReference} (hentry : entry ∈ audit) :
    entry.ref ∉ doomedRefs audit tenantId keep selected table := by
  intro hdoomed
  obtain ⟨doomed, hmem, rfl, hkept, href⟩ := mem_doomedRefs.mp hdoomed
  obtain ⟨hold, howner⟩ := hselected doomed hmem
  by_cases hown : entry.tenantId = tenantId
  · have hnamed : (⟨tenantId, doomed.ref⟩ : AuditReference) ∈ audit := by
      rw [href, ← hown]
      exact hentry
    have htable : doomed.table = .delegationGrants ∨ doomed.table = .serviceAccounts := by
      have hfst : doomed.table = entry.ref.1 := congrArg Prod.fst href
      rw [hfst]
      exact (hschema.audited entry hentry).imp_right fun h => h.1
    unfold isKept at hkept
    rcases htable with htable | htable <;> rw [htable] at hkept <;> simp [hnamed] at hkept
  · exact hunpinned.audited entry hentry hown doomed hold href howner

lemma exists_purgeTable (hshrunk : Shrunk audit tenantId rows rows')
    (hbefore : ∀ other : PurgedTable, table ∈ other.referenced →
      IsCleared audit tenantId rows' other)
    (hkeep : table = .serviceAccounts → KeepComplete audit tenantId rows' keep) :
    ∃ left, purgeTable audit tenantId keep selected rows' table = some left := by
  unfold purgeTable
  dsimp only
  split
  · next hdangling =>
    exfalso
    rw [Bool.or_eq_true, List.any_eq_true, List.any_eq_true] at hdangling
    rcases hdangling with ⟨row, hrow, hreferences⟩ | ⟨entry, hentry, hdoomed⟩
    · obtain ⟨ref, href, hdoomed⟩ := List.any_eq_true.mp hreferences
      obtain ⟨left, hleft, rfl⟩ := List.mem_map.mp hrow
      have hmem : left ∈ rows' := List.mem_of_mem_filter hleft
      have hsame : ref ∈ left.references := by
        split at href <;> exact href
      exact notMem_doomedRefs_of_reference hschema hunpinned hselected hshrunk hbefore hkeep hmem
        hsame (List.contains_iff_mem.mp hdoomed)
    · exact notMem_doomedRefs_of_audit hschema hunpinned hselected hentry
        (List.contains_iff_mem.mp hdoomed)
  · exact ⟨_, rfl⟩

lemma exists_purgeTables {done after : List PurgedTable} (horder : purgedOrder = done ++ tables ++ after)
    (hshrunk : Shrunk audit tenantId rows rows')
    (hdone : ∀ other ∈ done, IsCleared audit tenantId rows' other)
    (hcovers : Covers tenantId rows' selected tables) (hkeep : KeepSound audit tenantId rows' keep)
    (hcomplete : .serviceAccounts ∈ tables → KeepComplete audit tenantId rows' keep) :
    ∃ left, purgeTables audit tenantId keep selected tables rows' = some left := by
  induction tables generalizing done rows' with
  | nil => exact ⟨rows', rfl⟩
  | cons table tables ih =>
    obtain ⟨next, hnext⟩ : ∃ next, purgeTable audit tenantId keep selected rows' table = some next := by
      refine exists_purgeTable hschema hunpinned hselected hshrunk (fun other hother => ?_)
        fun htable => hcomplete (htable ▸ List.mem_cons_self)
      have hsplit : purgedOrder = done ++ table :: (tables ++ after) := by
        rw [horder, List.append_assoc, List.cons_append]
      exact hdone other (mem_of_referenced hsplit hother)
    have hstep := purgeTable_shrunk hnext
    have hfirst : Covers tenantId rows' selected [table] := by
      intro row hrow howner htable
      exact hcovers row hrow howner (List.mem_cons.mpr (.inl (List.mem_singleton.mp htable)))
    have hothers : Covers tenantId next selected tables := by
      refine hstep.covers fun row hrow howner htable => ?_
      exact hcovers row hrow howner (List.mem_cons_of_mem table htable)
    have hcleared : ∀ other ∈ done ++ [table], IsCleared audit tenantId next other := by
      intro other hother
      rcases List.mem_append.mp hother with hold | hnew
      · exact hstep.isCleared (hdone other hold)
      · obtain rfl := List.mem_singleton.mp hnew
        exact purgeTable_cleared hnext hfirst hkeep
    have hsplit : purgedOrder = (done ++ [table]) ++ tables ++ after := by simpa using horder
    obtain ⟨left, hleft⟩ := ih hsplit (hshrunk.trans hstep) hcleared hothers
      (hstep.keepSound hkeep)
      fun hmem => hstep.keepComplete (hcomplete (List.mem_cons_of_mem table hmem))
    refine ⟨left, ?_⟩
    change (purgeTable audit tenantId keep selected rows' table >>= fun next =>
      purgeTables audit tenantId keep selected tables next) = some left
    rw [hnext]
    exact hleft

end Unrefused

/-- Another tenant's grant names a service account of the tenant, and nothing asks for the account to
be kept. -/
structure Pinned (audit : List AuditReference) (tenantId : Uuid) (account grant : OwnedRow)
    (rows : List OwnedRow) : Prop where
  table : account.table = .serviceAccounts
  owner : account.tenantId = tenantId
  unaudited : ⟨tenantId, account.ref⟩ ∉ audit
  mem : account ∈ rows ∨ account.retire ∈ rows
  present : grant ∈ rows
  foreign : grant.tenantId ≠ tenantId
  names : account.ref ∈ grant.references
  ungranted : ∀ own ∈ rows, IsAuditedGrant audit tenantId own → account.ref ∉ own.references

variable {account grant : OwnedRow}

section

variable (h : Pinned audit tenantId account grant rows)

include h

lemma Pinned.purgeTable
    (hpurged : purgeTable audit tenantId keep selected rows table = some rows') :
    Pinned audit tenantId account grant rows' := by
  have hshrunk := purgeTable_shrunk hpurged
  have hgrant : grant ∈ rows' := by
    refine (mem_of_purgeTable hpurged).mpr ⟨grant, h.present, fun hdoomed => h.foreign hdoomed.1, ?_⟩
    rw [if_neg fun hown => h.foreign hown.1]
  have hspared : account.ref ∉ doomedRefs audit tenantId keep selected table :=
    notMem_doomedRefs_of_purgeTable hpurged hgrant h.names
  have hkept : ∀ row ∈ rows, row = account ∨ row = account.retire →
      account ∈ rows' ∨ account.retire ∈ rows' := by
    intro row hrow hsame
    have href : row.ref = account.ref := by rcases hsame with rfl | rfl <;> rfl
    have hleft := (mem_of_purgeTable hpurged).mpr
      ⟨row, hrow, fun hdoomed => hspared (href ▸ hdoomed.2), rfl⟩
    rcases hsame with rfl | rfl
    · split at hleft
      · exact .inr hleft
      · exact .inl hleft
    · split at hleft <;> exact .inr hleft
  refine ⟨h.table, h.owner, h.unaudited, ?_, hgrant, h.foreign, h.names, fun own hown haudited => ?_⟩
  · exact h.mem.elim (fun hmem => hkept _ hmem (.inl rfl)) fun hmem => hkept _ hmem (.inr rfl)
  · obtain ⟨row, hrow, rfl | rfl⟩ := hshrunk.of_mem own hown haudited.owner
    · exact h.ungranted _ hrow haudited
    · exact h.ungranted row hrow ⟨haudited.table, haudited.owner, haudited.named⟩

lemma Pinned.purgeTables
    (hpurged : purgeTables audit tenantId keep selected tables rows = some rows') :
    Pinned audit tenantId account grant rows' := by
  induction tables generalizing rows with
  | nil =>
    cases hpurged
    exact h
  | cons table tables ih =>
    obtain ⟨next, hnext, hrest⟩ := Option.bind_eq_some_iff.mp hpurged
    exact ih (h.purgeTable hnext) hrest

lemma Pinned.not_isCleared :
    ¬ IsCleared audit tenantId rows .serviceAccounts := by
  intro hcleared
  have hnot : ∀ row, row.ref = account.ref → ¬ IsRetained audit tenantId rows row := by
    rintro row href ⟨-, haudited | ⟨-, hnamed | ⟨own, hown, haudited, hnames⟩⟩⟩
    · have htable : row.table = account.table := congrArg Prod.fst href
      rw [haudited.table, h.table] at htable
      cases htable
    · exact h.unaudited (href ▸ hnamed)
    · exact h.ungranted own hown haudited (href ▸ hnames)
  rcases h.mem with hmem | hmem
  · exact hnot account rfl (hcleared account hmem h.owner h.table)
  · exact hnot account.retire rfl (hcleared account.retire hmem h.owner h.table)

end

lemma deletedCount_eq_zero (hcleared : ∀ table ∈ tables, IsCleared audit tenantId rows table)
    (hselected : ∀ row ∈ selected, row ∈ rows ∧ row.tenantId = tenantId)
    (hkeep : .serviceAccounts ∈ tables → KeepComplete audit tenantId rows keep) :
    deletedCount audit tenantId keep selected tables = 0 := by
  have hnone : ∀ table ∈ tables, doomedRefs audit tenantId keep selected table = [] := by
    intro table htable
    refine List.eq_nil_iff_forall_not_mem.mpr fun ref hdoomed => ?_
    obtain ⟨row, hmem, rfl, hkept, -⟩ := mem_doomedRefs.mp hdoomed
    obtain ⟨hrow, howner⟩ := hselected row hmem
    obtain ⟨-, haudited | ⟨haccount, hnamed⟩⟩ := hcleared row.table htable row hrow howner rfl
    · rw [haudited.isKept] at hkept
      cases hkept
    · unfold isKept at hkept
      rw [haccount] at hkept
      rcases hnamed with hnamed | ⟨grant, hgrant, haudited, hreference⟩
      · simp [hnamed] at hkept
      · have hid : row.id ∈ keep := by
          refine hkeep (haccount ▸ htable) grant hgrant haudited row.id ?_
          rw [← haccount]
          exact hreference
        simp [hid] at hkept
  unfold deletedCount
  refine List.sum_eq_zero fun count hcount => ?_
  obtain ⟨table, htable, rfl⟩ := List.mem_map.mp hcount
  rw [hnone table htable, List.length_nil]

end SaasOs
