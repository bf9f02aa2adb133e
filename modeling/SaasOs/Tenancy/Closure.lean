import SaasOs.Tenancy.Service

/-!
# The ancestry table is the closure of the parent pointers

`core.tenant_ancestry` is maintained by two operations: a creation extends one chain, and a move
deletes the rows that link the moved subtree to its old ancestors and inserts the product of the new
parent's ancestors with the subtree.  Both redirect one parent pointer, so both are instances of
`ParentChain.climb_update_iff`.
-/

namespace SaasOs

open ParentChain Rows

/-- The closure table is exact, the hierarchy is acyclic, and no tenant is more than `maxDepth`
steps below an ancestor. -/
structure HierarchyInvariant (maxDepth : ℕ) (db : Tables) : Prop where
  closure : db.AncestryIsClosure
  acyclic : Acyclic db.parentOf
  bounded : ∀ t a d, climb db.parentOf d t = some a → d ≤ maxDepth

namespace Tables

/-! ## Parent pointers after a write -/

variable {db : Tables}

lemma parentOf_insert (tenant : Tenant) (hfresh : tenant.id ∉ db.tenants.map Tenant.id) :
    parentOf { db with tenants := db.tenants ++ [tenant] } =
      Function.update db.parentOf tenant.id tenant.parentId := by
  funext t
  unfold parentOf tenant?
  rw [List.find?_append]
  by_cases ht : t = tenant.id
  · subst ht
    have hnone : db.tenants.find? (fun row => row.id == tenant.id) = none := by
      rw [List.find?_eq_none]
      intro row hrow hid
      exact hfresh (List.mem_map.mpr ⟨row, hrow, by simpa using hid⟩)
    simp [hnone]
  · have hne : (tenant.id == t) = false := by simpa using Ne.symm ht
    simp [Function.update_of_ne ht, hne]

lemma parentOf_setParent {t : Uuid} {p : Option Uuid} (hregistered : t ∈ db.tenants.map Tenant.id) :
    (db.setParent t p).parentOf = Function.update db.parentOf t p := by
  have hid : ∀ row : Tenant,
      (if row.id = t then { row with parentId := p } else row).id = row.id := by
    intro row
    split <;> rfl
  funext u
  unfold parentOf tenant? setParent
  simp only [List.find?_map, Function.comp_def, hid]
  cases hfind : db.tenants.find? fun row => row.id == u with
  | none =>
    have hu : u ≠ t := by
      rintro rfl
      obtain ⟨row, hrow, hrowid⟩ := List.mem_map.mp hregistered
      exact List.find?_eq_none.mp hfind row hrow (by simpa using hrowid)
    rw [Function.update_of_ne hu, hfind]
    rfl
  | some row =>
    have hrow : row.id = u := by simpa using List.find?_some hfind
    by_cases hu : u = t
    · simp [hu, hrow]
    · rw [Function.update_of_ne hu, hfind]
      simp [hrow, hu]

lemma le_of_maxDepth_eq_ok {rows : List TenantAncestry} {m : ℕ} (h : maxDepth rows = .ok m)
    (row : TenantAncestry) (hrow : row ∈ rows) : row.depth ≤ m := by
  unfold maxDepth at h
  cases hmax : (rows.map TenantAncestry.depth).max? with
  | none => rw [hmax] at h; cases h
  | some n =>
    rw [hmax] at h
    cases h
    exact (List.max?_eq_some_iff.mp hmax).2 _ (List.mem_map.mpr ⟨row, hrow, rfl⟩)

end Tables

namespace Database

lemma registered_parent (db : Database) {t p : Uuid} (h : db.parentOf t = some p) :
    p ∈ db.tenants.map Tenant.id := by
  obtain ⟨tenant, hfind, hparent⟩ := Option.bind_eq_some_iff.mp h
  have hfk := db.constraints.foreignKeys.tenants_parent tenant (Tables.tenant?_eq_some hfind).1
  rwa [hparent] at hfk

lemma climb_ne_unregistered (db : Database) {t id : Uuid} (hid : id ∉ db.tenants.map Tenant.id)
    (ht : t ≠ id) (k : ℕ) : climb db.parentOf k t ≠ some id := by
  intro hclimb
  cases k with
  | zero => exact ht (Option.some.inj hclimb)
  | succ k =>
    obtain ⟨b, hb⟩ := exists_climb_of_le hclimb (Nat.le_succ k)
    rw [climb_succ_of_climb hb] at hclimb
    exact hid (db.registered_parent hclimb)

lemma hierarchyInvariant_of_empty (db : Database) (maxDepth : ℕ) (h : db.tenants = []) :
    HierarchyInvariant maxDepth db.toTables := by
  have hparent : ∀ t, db.parentOf t = none := by
    intro t
    simp [Tables.parentOf, Tables.tenant?, h]
  have hclimb : ∀ t d, climb db.parentOf (d + 1) t = none := by
    intro t d
    rw [climb_succ, hparent, Option.bind_none]
  refine ⟨?_, ?_, ?_⟩
  · intro t a d
    constructor
    · intro hrow
      have hfk := db.constraints.foreignKeys.tenant_ancestry_tenant _ hrow
      simp [h] at hfk
    · rintro ⟨ht, -⟩
      simp [h] at ht
  · intro t d hcycle
    rw [hclimb] at hcycle
    cases hcycle
  · intro t a d hd
    cases d with
    | zero => exact Nat.zero_le _
    | succ d =>
      rw [hclimb] at hd
      cases hd

/-! ## Creation -/

variable {config : TenancyConfig} {db db' : Database} {tenantId : Uuid} {parentId : Option Uuid}
   {caller : Caller}

variable {name : String} {tenant : Tenant}

lemma createTenant_ok
    (h : db.createTenant config tenantId name parentId caller = .ok (db', tenant)) :
    tenantId ∉ db.tenants.map Tenant.id ∧
    (∀ p ∈ parentId, p ∈ db.tenants.map Tenant.id) ∧
    ∃ rows, db.newTenantAncestry config tenantId parentId = .ok rows ∧
      db'.toTables = { db.toTables with
        tenants := db.tenants ++ [⟨tenantId, name, .pending, parentId⟩]
        tenantAncestry := db.tenantAncestry ++ rows } := by
  unfold createTenant at h
  simp only [bind_eq_ok] at h
  obtain ⟨-, -, -, -, parent, hparent, -, -, -, -, inserted, hinserted, rows, hrows, created,
    hcreated, hdone⟩ := h
  cases hdone
  have hins := flush_ok hinserted
  have hcre := flush_ok hcreated
  refine ⟨?_, ?_, rows, hrows, ?_⟩
  · have hpk := inserted.constraints.unique.tenants_pk
    rw [hins] at hpk
    unfold UniqueOn at hpk
    rw [List.map_append, List.map_singleton, List.nodup_append] at hpk
    intro hmem
    exact hpk.2.2 _ hmem tenantId (by simp) rfl
  · rintro p ⟨⟩
    obtain ⟨row, hrow, -⟩ := bind_eq_ok.mp (hparent : (db.getTenant p >>= fun row => _) = _)
    exact Tables.isSome_tenant?_iff.mp (Option.isSome_of_mem (Tables.getTenant_eq_ok.mp hrow))
  · rw [hcre, hins]

lemma newTenantAncestry_ok {db : Tables} {rows : List TenantAncestry}
    (h : db.newTenantAncestry config tenantId parentId = .ok rows) :
    (∀ row, row ∈ rows ↔ row = ⟨tenantId, tenantId, 0⟩ ∨
      ∃ p ∈ parentId, ∃ a d, ⟨p, a, d⟩ ∈ db.tenantAncestry ∧ row = ⟨tenantId, a, d + 1⟩) ∧
    ∀ p ∈ parentId, ∀ a d, ⟨p, a, d⟩ ∈ db.tenantAncestry → d + 1 ≤ config.maxHierarchyDepth := by
  cases parentId with
  | none =>
    cases h
    simp
  | some p =>
    simp only [Tables.newTenantAncestry, bind_eq_ok] at h
    obtain ⟨m, hm, ⟨⟩, hrequired, hrows⟩ := h
    have hdepth : m + 1 ≤ config.maxHierarchyDepth := by simpa using hrequired
    cases hrows
    refine ⟨?_, ?_⟩
    · intro row
      simp only [List.mem_cons, List.mem_map, Tables.mem_ancestryOf, Option.mem_some_iff,
        exists_eq_left']
      constructor
      · rintro (hself | ⟨⟨p', a, d⟩, ⟨hmem, rfl⟩, rfl⟩)
        · exact Or.inl hself
        · exact Or.inr ⟨a, d, hmem, rfl⟩
      · rintro (hself | ⟨a, d, hmem, rfl⟩)
        · exact Or.inl hself
        · exact Or.inr ⟨⟨p, a, d⟩, ⟨hmem, rfl⟩, rfl⟩
    · rintro _ ⟨⟩ a d hmem
      have hle := Tables.le_of_maxDepth_eq_ok hm ⟨p, a, d⟩ (Tables.mem_ancestryOf.mpr ⟨hmem, rfl⟩)
      exact le_trans (Nat.succ_le_succ hle) hdepth

lemma createTenant_hierarchyInvariant
    (hinv : HierarchyInvariant config.maxHierarchyDepth db.toTables)
    (h : db.createTenant config tenantId name parentId caller = .ok (db', tenant)) :
    HierarchyInvariant config.maxHierarchyDepth db'.toTables := by
  obtain ⟨hfresh, hparents, rows, hrows, hdb'⟩ := createTenant_ok h
  obtain ⟨hmem, hdepth⟩ := newTenantAncestry_ok hrows
  have hparent : db'.parentOf = Function.update db.parentOf tenantId parentId := by
    rw [hdb']
    exact Tables.parentOf_insert ⟨tenantId, name, .pending, parentId⟩ hfresh
  -- the new id is above nobody, so the redirection cannot close a cycle
  have havoid : ∀ b ∈ parentId, ∀ k, climb db.parentOf k b ≠ some tenantId := by
    intro b hb k
    refine db.climb_ne_unregistered hfresh ?_ k
    rintro rfl
    exact hfresh (hparents b hb)
  have hbelow : ∀ t k, climb db.parentOf k t = some tenantId ↔ t = tenantId ∧ k = 0 := by
    intro t k
    constructor
    · intro hk
      by_cases ht : t = tenantId
      · subst ht
        exact ⟨rfl, hinv.acyclic.eq_zero_of_climb_self hk⟩
      · exact absurd hk (db.climb_ne_unregistered hfresh ht k)
    · rintro ⟨rfl, rfl⟩
      rfl
  have hchain : ∀ t a d, climb db'.parentOf d t = some a ↔
      (t ≠ tenantId ∧ climb db.parentOf d t = some a) ∨
      (t = tenantId ∧ ((a = tenantId ∧ d = 0) ∨
        ∃ p ∈ parentId, ∃ m, climb db.parentOf m p = some a ∧ d = m + 1)) := by
    intro t a d
    rw [hparent, climb_update_iff hinv.acyclic havoid]
    simp only [ne_eq, hbelow]
    constructor
    · rintro (⟨hold, hnot | ⟨k, rfl, rfl⟩⟩ | ⟨k, m, q, ⟨rfl, rfl⟩, hq, hm, rfl⟩)
      · exact Or.inl ⟨fun ht => hnot 0 ⟨ht, rfl⟩, hold⟩
      · obtain ⟨rfl, rfl⟩ := (hbelow t d).mp hold
        exact Or.inr ⟨rfl, Or.inl ⟨rfl, rfl⟩⟩
      · exact Or.inr ⟨rfl, Or.inr ⟨q, hq, m, hm, rfl⟩⟩
    · rintro (⟨ht, hold⟩ | ⟨rfl, ⟨rfl, rfl⟩ | ⟨p, hp, m, hm, rfl⟩⟩)
      · exact Or.inl ⟨hold, Or.inl fun k hk => ht hk.1⟩
      · exact Or.inl ⟨rfl, Or.inr ⟨0, rfl, rfl⟩⟩
      · exact Or.inr ⟨0, m, p, ⟨rfl, rfl⟩, hp, hm, rfl⟩
  refine ⟨?_, ?_, ?_⟩
  · intro t a d
    have hregistered : t ∈ db'.tenants.map Tenant.id ↔
        t ∈ db.tenants.map Tenant.id ∨ t = tenantId := by
      rw [hdb']
      simp
    have hrow : (⟨t, a, d⟩ : TenantAncestry) ∈ db'.tenantAncestry ↔
        ⟨t, a, d⟩ ∈ db.tenantAncestry ∨ (⟨t, a, d⟩ : TenantAncestry) ∈ rows := by
      rw [hdb']
      exact List.mem_append
    rw [hrow, hregistered, hchain, hinv.closure, hmem]
    constructor
    · rintro (⟨ht, hold⟩ | hself | ⟨p, hp, b, e, hanc, heq⟩)
      · exact ⟨Or.inl ht, Or.inl ⟨fun heq => hfresh (heq ▸ ht), hold⟩⟩
      · cases hself
        exact ⟨Or.inr rfl, Or.inr ⟨rfl, Or.inl ⟨rfl, rfl⟩⟩⟩
      · cases heq
        have habove := ((hinv.closure p _ e).mp hanc).2
        exact ⟨Or.inr rfl, Or.inr ⟨rfl, Or.inr ⟨p, hp, e, habove, rfl⟩⟩⟩
    · rintro ⟨ht, ⟨hne, hold⟩ | ⟨rfl, ⟨rfl, rfl⟩ | ⟨p, hp, m, hm, rfl⟩⟩⟩
      · exact Or.inl ⟨ht.resolve_right hne, hold⟩
      · exact Or.inr (Or.inl rfl)
      · have hanc := (hinv.closure p a m).mpr ⟨hparents p hp, hm⟩
        exact Or.inr (Or.inr ⟨p, hp, a, m, hanc, rfl⟩)
  · rw [hparent]
    exact hinv.acyclic.update havoid
  · intro t a d hd
    rcases (hchain t a d).mp hd with ⟨-, hold⟩ | ⟨-, ⟨-, rfl⟩ | ⟨p, hp, m, hm, rfl⟩⟩
    · exact hinv.bounded t a d hold
    · exact Nat.zero_le _
    · exact hdepth p hp a m ((hinv.closure p a m).mpr ⟨hparents p hp, hm⟩)

/-! ## Moves -/

lemma registered_of_climb (db : Database) {t a : Uuid} {d : ℕ} (ht : t ∈ db.tenants.map Tenant.id)
    (h : climb db.parentOf d t = some a) : a ∈ db.tenants.map Tenant.id := by
  cases d with
  | zero =>
    cases h
    exact ht
  | succ d =>
    obtain ⟨b, hb⟩ := exists_climb_of_le h (Nat.le_succ d)
    rw [climb_succ_of_climb hb] at h
    exact db.registered_parent h

variable {now : Instant} {newParentId : Option Uuid}

lemma rewriteHierarchy_ok (h : db.rewriteHierarchy config now tenantId newParentId = .ok db') :
    (∃ m n, db.depthBelowNewParent newParentId = .ok m ∧
      Tables.maxDepth (db.subtreeOf tenantId) = .ok n ∧ m + n ≤ config.maxHierarchyDepth) ∧
    db'.toTables = Tables.setParent { db.toTables with
      tenantAncestry :=
        (db.tenantAncestry.filter fun row =>
          !Tables.isBridgeRow ((db.subtreeOf tenantId).map TenantAncestry.tenantId) row) ++
        Tables.newBridgeRows (db.newParentAncestry newParentId) (db.subtreeOf tenantId) }
      tenantId newParentId ∧
    ((db.guardTenants now (((db.subtreeOf tenantId).insertionSort Tables.nearestFirst).map
      TenantAncestry.tenantId)).val.verify db'.toTables now).val = .ok () := by
  unfold rewriteHierarchy at h
  simp only [bind_eq_ok] at h
  obtain ⟨m, hm, n, hn, ⟨⟩, hrequired, detached, hdetached, moved, hmoved, ⟨⟩, hverified, hdone⟩ := h
  cases hdone
  refine ⟨⟨m, n, hm, hn, by simpa using hrequired⟩, ?_, hverified⟩
  rw [flush_ok hmoved, flush_ok hdetached]
  rfl

variable {reason : Option String}

lemma moveTenant_ok (h : db.moveTenant config now tenantId newParentId caller reason = .ok db') :
    db' = db ∨
    (tenantId ∈ db.tenants.map Tenant.id ∧
      (∀ p ∈ newParentId, p ∈ db.tenants.map Tenant.id ∧
        ∀ d, (⟨p, tenantId, d⟩ : TenantAncestry) ∉ db.tenantAncestry) ∧
      db.rewriteHierarchy config now tenantId newParentId = .ok db') := by
  unfold moveTenant at h
  simp only [bind_eq_ok] at h
  obtain ⟨-, -, -, -, -, -, tenant, htenant, newParent, hnewParent, hmove⟩ := h
  have hregistered := Tables.isSome_tenant?_iff.mp
    (Option.isSome_of_mem (Tables.val_lockOpenTenant_eq_ok htenant).1)
  split at hmove
  · cases hmove
    exact Or.inl rfl
  · obtain ⟨-, -, hrewrite⟩ := bind_eq_ok.mp hmove
    refine Or.inr ⟨hregistered, ?_, hrewrite⟩
    rintro p ⟨⟩
    simp only [Tables.checkNewParent, bind_eq_ok] at hnewParent
    obtain ⟨parent, hparent, ⟨⟩, hcycle, -⟩ := hnewParent
    refine ⟨Tables.isSome_tenant?_iff.mp
      (Option.isSome_of_mem (Tables.val_lockOpenTenant_eq_ok hparent).1), ?_⟩
    intro d hrow
    rw [require_eq_ok, Bool.not_eq_true', List.any_eq_false] at hcycle
    exact hcycle _ hrow (by simp)

lemma mem_newBridgeRows {db : Tables} {t : Uuid} {p : Option Uuid} {row : TenantAncestry} :
    row ∈ Tables.newBridgeRows (db.newParentAncestry p) (db.subtreeOf t) ↔
      ∃ q ∈ p, ∃ m k, ⟨q, row.ancestorId, m⟩ ∈ db.tenantAncestry ∧
        ⟨row.tenantId, t, k⟩ ∈ db.tenantAncestry ∧ row.depth = m + 1 + k := by
  cases p with
  | none => simp [Tables.newBridgeRows, Tables.newParentAncestry]
  | some q =>
    simp only [Tables.newBridgeRows, Tables.newParentAncestry, List.mem_flatMap, List.mem_map,
      Tables.mem_ancestryOf, Tables.mem_subtreeOf, Option.mem_some_iff, exists_eq_left']
    constructor
    · rintro ⟨⟨_, a, m⟩, ⟨hanc, rfl⟩, ⟨u, _, k⟩, ⟨hsub, rfl⟩, rfl⟩
      exact ⟨m, k, hanc, hsub, rfl⟩
    · obtain ⟨u, a, d⟩ := row
      rintro ⟨m, k, hanc, hsub, rfl⟩
      exact ⟨⟨q, a, m⟩, ⟨hanc, rfl⟩, ⟨u, t, k⟩, ⟨hsub, rfl⟩, rfl⟩

lemma moveTenant_hierarchyInvariant (hinv : HierarchyInvariant config.maxHierarchyDepth db.toTables)
    (h : db.moveTenant config now tenantId newParentId caller reason = .ok db') :
    HierarchyInvariant config.maxHierarchyDepth db'.toTables := by
  obtain rfl | ⟨hregistered, hparents, hrewrite⟩ := moveTenant_ok h
  · exact hinv
  obtain ⟨⟨m₀, n₀, hm₀, hn₀, hdepth⟩, hdb', -⟩ := rewriteHierarchy_ok hrewrite
  have hparent : db'.parentOf = Function.update db.parentOf tenantId newParentId := by
    rw [hdb']
    exact Tables.parentOf_setParent hregistered
  -- the table says that the new parent is not in the subtree, and the table is exact
  have havoid : ∀ q ∈ newParentId, ∀ k, climb db.parentOf k q ≠ some tenantId := by
    intro q hq k hk
    exact (hparents q hq).2 k ((hinv.closure q tenantId k).mpr ⟨(hparents q hq).1, hk⟩)
  have hsubtree : ∀ u, u ∈ (db.subtreeOf tenantId).map TenantAncestry.tenantId ↔
      u ∈ db.tenants.map Tenant.id ∧ ∃ k, climb db.parentOf k u = some tenantId := by
    intro u
    rw [List.mem_map]
    constructor
    · rintro ⟨⟨_, _, k⟩, hnode, rfl⟩
      obtain ⟨hrow, rfl⟩ := Tables.mem_subtreeOf.mp hnode
      have := (hinv.closure _ _ k).mp hrow
      exact ⟨this.1, k, this.2⟩
    · rintro ⟨hu, k, hk⟩
      refine ⟨⟨u, tenantId, k⟩, Tables.mem_subtreeOf.mpr ⟨?_, rfl⟩, rfl⟩
      exact (hinv.closure u tenantId k).mpr ⟨hu, hk⟩
  refine ⟨?_, ?_, ?_⟩
  · intro u a d
    have hids : db'.tenants.map Tenant.id = db.tenants.map Tenant.id := by
      rw [hdb']
      simp only [Tables.setParent, List.map_map]
      refine List.map_congr_left fun row _ => ?_
      simp only [Function.comp_apply]
      split <;> rfl
    have hrow : (⟨u, a, d⟩ : TenantAncestry) ∈ db'.tenantAncestry ↔
        (⟨u, a, d⟩ ∈ db.tenantAncestry ∧
          (u ∈ (db.subtreeOf tenantId).map TenantAncestry.tenantId →
            a ∈ (db.subtreeOf tenantId).map TenantAncestry.tenantId)) ∨
        (⟨u, a, d⟩ : TenantAncestry) ∈
          Tables.newBridgeRows (db.newParentAncestry newParentId) (db.subtreeOf tenantId) := by
      rw [hdb']
      simp only [Tables.setParent, List.mem_append, List.mem_filter, Tables.isBridgeRow,
        Bool.not_and, Bool.not_not, Bool.or_eq_true, Bool.not_eq_true', ← Bool.not_eq_true,
        List.contains_iff_mem, ← imp_iff_not_or]
    rw [hrow, mem_newBridgeRows, hids, hparent, climb_update_iff hinv.acyclic havoid,
      hinv.closure, hsubtree, hsubtree]
    constructor
    · rintro (⟨⟨hu, hold⟩, hkept⟩ | ⟨q, hq, m, k, hanc, hsub, rfl⟩)
      · refine ⟨hu, Or.inl ⟨hold, ?_⟩⟩
        by_cases hbelow : ∃ k, climb db.parentOf k u = some tenantId
        · exact Or.inr (hkept ⟨hu, hbelow⟩).2
        · exact Or.inl fun k hk => hbelow ⟨k, hk⟩
      · obtain ⟨hu, hk⟩ := (hinv.closure u tenantId k).mp hsub
        obtain ⟨-, hm⟩ := (hinv.closure q a m).mp hanc
        exact ⟨hu, Or.inr ⟨k, m, q, hk, hq, hm, rfl⟩⟩
    · rintro ⟨hu, ⟨hold, hcase⟩ | ⟨k, m, q, hk, hq, hm, rfl⟩⟩
      · refine Or.inl ⟨⟨hu, hold⟩, ?_⟩
        rintro ⟨-, k, hk⟩
        refine ⟨db.registered_of_climb hu hold, ?_⟩
        exact hcase.resolve_left fun havoids => havoids k hk
      · have hanc := (hinv.closure q a m).mpr ⟨(hparents q hq).1, hm⟩
        have hsub := (hinv.closure u tenantId k).mpr ⟨hu, hk⟩
        exact Or.inr ⟨q, hq, m, k, hanc, hsub, rfl⟩
  · rw [hparent]
    exact hinv.acyclic.update havoid
  · intro u a d hd
    rw [hparent, climb_update_iff hinv.acyclic havoid] at hd
    rcases hd with ⟨hold, -⟩ | ⟨k, m, q, hk, hq, hm, rfl⟩
    · exact hinv.bounded u a d hold
    · cases hq
      obtain ⟨e, he, hm₀'⟩ := bind_eq_ok.mp hm₀
      cases hm₀'
      have hparentRow := (hinv.closure q a m).mpr ⟨(hparents q rfl).1, hm⟩
      have hmle : m ≤ e := Tables.le_of_maxDepth_eq_ok he
        ⟨q, a, m⟩ (Tables.mem_ancestryOf.mpr ⟨hparentRow, rfl⟩)
      have hu : u ∈ db.tenants.map Tenant.id := by
        cases k with
        | zero =>
          cases hk
          exact hregistered
        | succ k =>
          rw [climb_succ] at hk
          obtain ⟨b, hb, -⟩ := Option.bind_eq_some_iff.mp hk
          exact Tables.registered_of_parentOf hb
      have hkle : k ≤ n₀ := Tables.le_of_maxDepth_eq_ok hn₀
        ⟨u, tenantId, k⟩
        (Tables.mem_subtreeOf.mpr ⟨(hinv.closure u tenantId k).mpr ⟨hu, hk⟩, rfl⟩)
      omega

end Database

/-! ## Sequences of operations -/

/-- One call of an operation that writes the hierarchy, with its arguments. -/
inductive HierarchyCall
  | create (tenantId : Uuid) (name : String) (parentId : Option Uuid) (caller : Caller)
  | move (now : Instant) (tenantId : Uuid) (newParentId : Option Uuid) (caller : Caller)
      (reason : Option String)

def HierarchyCall.perform (config : TenancyConfig) (db : Database) :
    HierarchyCall → Result Database
  | create tenantId name parentId caller =>
    Prod.fst <$> db.createTenant config tenantId name parentId caller
  | move now tenantId newParentId caller reason =>
    db.moveTenant config now tenantId newParentId caller reason

def HierarchyCall.commit (config : TenancyConfig) (db : Database) (call : HierarchyCall) :
    Database :=
  match call.perform config db with
  | .ok db' => db'
  | .error _ => db

def Database.afterHierarchyCalls (config : TenancyConfig) (db : Database)
    (calls : List HierarchyCall) : Database :=
  calls.foldl (HierarchyCall.commit config) db

variable {config : TenancyConfig} {db : Database}

lemma HierarchyCall.commit_hierarchyInvariant
    (hinv : HierarchyInvariant config.maxHierarchyDepth db.toTables) (call : HierarchyCall) :
    HierarchyInvariant config.maxHierarchyDepth (call.commit config db).toTables := by
  unfold HierarchyCall.commit
  cases hcall : call.perform config db with
  | error e => exact hinv
  | ok db' =>
    cases call with
    | create tenantId name parentId caller =>
      simp only [HierarchyCall.perform, map_eq_ok] at hcall
      obtain ⟨created, hcreate, rfl⟩ := hcall
      exact Database.createTenant_hierarchyInvariant hinv hcreate
    | move now tenantId newParentId caller reason =>
      exact Database.moveTenant_hierarchyInvariant hinv hcall

lemma Database.afterHierarchyCalls_hierarchyInvariant
    (hinv : HierarchyInvariant config.maxHierarchyDepth db.toTables) (calls : List HierarchyCall) :
    HierarchyInvariant config.maxHierarchyDepth (db.afterHierarchyCalls config calls).toTables := by
  induction calls generalizing db with
  | nil => exact hinv
  | cons call calls ih => exact ih (call.commit_hierarchyInvariant hinv)

/-- After any sequence of creations and moves from an empty registry, the ancestry table holds
exactly one row `(t, a, d)` for each registered tenant `t` from which `d` parent steps lead to `a`
and no other row, the parent relation is acyclic, and no chain is longer than the configured
depth. -/
theorem Database.afterHierarchyCalls_closure (config : TenancyConfig) (db₀ : Database)
    (hempty : db₀.tenants = []) (calls : List HierarchyCall) :
    let db := db₀.afterHierarchyCalls config calls
    db.tenantAncestry.Nodup ∧
    (∀ t a d, ⟨t, a, d⟩ ∈ db.tenantAncestry ↔
      t ∈ db.tenants.map Tenant.id ∧ climb db.parentOf d t = some a) ∧
    (∀ t d, climb db.parentOf (d + 1) t ≠ some t) ∧
    ∀ t a d, climb db.parentOf d t = some a → d ≤ config.maxHierarchyDepth := by
  intro db
  have hinv : HierarchyInvariant config.maxHierarchyDepth db.toTables :=
    Database.afterHierarchyCalls_hierarchyInvariant
      (db₀.hierarchyInvariant_of_empty config.maxHierarchyDepth hempty) calls
  refine ⟨?_, hinv.closure, hinv.acyclic, hinv.bounded⟩
  exact List.Nodup.of_map _ db.constraints.unique.tenant_ancestry_pk

def emptyRegistry : Database where
  users := [⟨1, true⟩]
  platformOperators := [⟨2, 1, .active⟩]
  platformGrants := [⟨3, 2, .tenantCreate, none⟩, ⟨4, 2, .tenantMove, none⟩]
  constraints := by decide

/-- Two roots of which the second has a child, and then the second root, with its child, moves
beneath the first. -/
def growAndMove : List HierarchyCall :=
  [.create 10 "first" none (.user 1), .create 20 "second" none (.user 1),
    .create 30 "child" (some 20) (.user 1), .move 0 20 (some 10) (.user 1) none]

/-- Moving a root with its child beneath another tree leaves six exact rows. -/
theorem afterHierarchyCalls_growAndMove :
    (emptyRegistry.afterHierarchyCalls {} growAndMove).tenantAncestry =
      [⟨10, 10, 0⟩, ⟨20, 20, 0⟩, ⟨30, 30, 0⟩, ⟨30, 20, 1⟩, ⟨20, 10, 1⟩, ⟨30, 10, 2⟩] ∧
    climb (emptyRegistry.afterHierarchyCalls {} growAndMove).parentOf 2 30 = some 10 := by
  have hrows : (emptyRegistry.afterHierarchyCalls {} growAndMove).tenantAncestry =
      [⟨10, 10, 0⟩, ⟨20, 20, 0⟩, ⟨30, 30, 0⟩, ⟨30, 20, 1⟩, ⟨20, 10, 1⟩, ⟨30, 10, 2⟩] := by decide
  have hclosure := Database.afterHierarchyCalls_closure {} emptyRegistry rfl growAndMove
  exact ⟨hrows, ((hclosure.2.1 30 10 2).mp (by rw [hrows]; decide)).2⟩

end SaasOs
