import Mathlib.Data.Finmap
import Mathlib.Data.Finset.Sort
import Mathlib.Data.String.Basic
import SaasOs.Foundation.PyString

/-!
# The inventory of the schema

`schema_at_head` replays the calls of `op` in the migrations without running them: it visits the
syntax tree of each `upgrade` as `ast.walk` does, level by level.  A migration executes its calls in
the order of its text.
-/

namespace SaasOs.SchemaInventory

/-! ## Replaying migrations -/

/-- A call of `op` with literal names. -/
inductive OpCall
  | createTable (table : String) (args : List (Option String)) (schema : Option String)
  | addColumn (table column : String) (schema : Option String)
  | dropColumn (table column : String) (schema : Option String)
  | dropTable (table : String) (schema : Option String)

def OpCall.key : OpCall → String
  | createTable table _ schema | addColumn table _ schema | dropColumn table _ schema
  | dropTable table schema => schema.getD "core" ++ "." ++ table

/-- Nodes of a syntax tree: calls of `op`, and others with their children. -/
inductive Nodes
  | nil
  | call (call : OpCall) (rest : Nodes)
  | node (children rest : Nodes)

namespace Nodes

def append : Nodes → Nodes → Nodes
  | nil, queue => queue
  | call c rest, queue => call c (rest.append queue)
  | node children rest, queue => node children (rest.append queue)

def size : Nodes → ℕ
  | nil => 0
  | call _ rest => rest.size + 1
  | node children rest => children.size + rest.size + 1

lemma size_append (nodes queue : Nodes) : (nodes.append queue).size = nodes.size + queue.size := by
  induction nodes with
  | nil => simp [append, size]
  | call c rest ih => simp only [append, size, ih]; omega
  | node children rest _ ih => simp only [append, size, ih]; omega

/-- The calls that `ast.walk` visits: the first node of the queue is taken, and its children are put
at the end. -/
def walk : Nodes → List OpCall
  | nil => []
  | call c rest => c :: rest.walk
  | node children rest => (rest.append children).walk
termination_by nodes => nodes.size
decreasing_by
  · simp [size]
  · simp only [size, size_append]; omega

/-- The calls in the order of the text. -/
def calls : Nodes → List OpCall
  | nil => []
  | call c rest => c :: rest.calls
  | node children rest => children.calls ++ rest.calls

/-- The calls in the order of the text, with their depths. -/
def nested (depth : ℕ) : Nodes → List (ℕ × OpCall)
  | nil => []
  | call c rest => (depth, c) :: rest.nested depth
  | node children rest => children.nested (depth + 1) ++ rest.nested depth

/-- No call is nested deeper than a later one on the same table. -/
def InOrder (body : Nodes) : Prop :=
  (body.nested 0).Pairwise fun a b => a.2.key = b.2.key → a.1 ≤ b.1

end Nodes

abbrev Schema := Finmap fun _ : String => Finset String

/-- What `_apply_upgrade` does when it visits a call. -/
def replay (schema : Schema) (call : OpCall) : Schema :=
  match call with
  | .createTable _ args _ => schema.insert call.key args.reduceOption.toFinset
  | .addColumn _ column _ =>
    schema.insert call.key (insert column ((schema.lookup call.key).getD ∅))
  | .dropColumn _ column _ =>
    match schema.lookup call.key with
    | some columns => schema.insert call.key (columns.erase column)
    | none => schema
  | .dropTable _ _ => schema.erase call.key

def applyUpgrade (schema : Schema) (body : Nodes) : Schema := body.walk.foldl replay schema

/-- `schema_at_head`, of the bodies of the functions `upgrade` in revision order. -/
def schemaAtHead (history : List Nodes) : Schema := history.foldl applyUpgrade ∅

/-- What the database does; `none` if it raises. -/
def execute (schema : Schema) (call : OpCall) : Option Schema :=
  match call, schema.lookup call.key with
  | .createTable _ args _, none => some (schema.insert call.key args.reduceOption.toFinset)
  | .addColumn _ column _, some columns =>
    if column ∈ columns then none else some (schema.insert call.key (insert column columns))
  | .dropColumn _ column _, some columns =>
    if column ∈ columns then some (schema.insert call.key (columns.erase column)) else none
  | .dropTable _ _, some _ => some (schema.erase call.key)
  | _, _ => none

def executeUpgrade (schema : Schema) (body : Nodes) : Option Schema :=
  body.calls.foldlM execute schema

def executeAll (history : List Nodes) : Option Schema := history.foldlM executeUpgrade ∅

/-! ## The audit of the classification -/

inductive IsolationClass
  | tenantOwned
  | global
  | system
  deriving DecidableEq

def IsolationClass.value : IsolationClass → String
  | .tenantOwned => "tenant_owned"
  | .global => "global"
  | .system => "system"

structure TableIsolation where
  isolation : IsolationClass
  reason : String
  excludesTenantContext : Bool

/-- `IsolationInventoryViolation`. -/
structure Violation where
  kind : String
  table : String
  detail : String

def hasReason (entry : TableIsolation) : Bool := PyString.strip entry.reason != ""

abbrev Entries := List (String × TableIsolation)

/-- An entry is kept if it is the first one of its table. -/
def classifyEntry (repr : TableIsolation → String) (found : Entries × List Violation)
    (x : String × TableIsolation) : Entries × List Violation :=
  match found.1.find? fun y => y.1 = x.1 with
  | some y => (found.1, found.2 ++ [⟨"duplicate", x.1,
      "classified more than once (" ++ repr y.2 ++ " and " ++ repr x.2 ++ ")"⟩])
  | none => (found.1 ++ [x], found.2)

def classify (repr : TableIsolation → String) (entries : Entries) : Entries × List Violation :=
  entries.foldl (classifyEntry repr) ([], [])

def entryViolations (schema : Schema) (x : String × TableIsolation) : List Violation :=
  let table := x.1
  let entry := x.2
  (if entry.excludesTenantContext ∧ entry.isolation ≠ .global then
    [⟨"exclusion_policy_on_non_global", table,
      "only a GLOBAL table may carry the tenant-context exclusion policy"⟩] else []) ++
  (if entry.isolation = .tenantOwned then
    (if hasReason entry then
      [⟨"unexpected_reason", table, "TENANT_OWNED needs no exemption reason"⟩] else []) ++
    (match schema.lookup table with
      | some columns => if "tenant_id" ∈ columns then [] else
        [⟨"tenant_owned_without_tenant_key", table,
          "TENANT_OWNED but has no tenant_id column for the RLS policy"⟩]
      | none => [])
  else if hasReason entry then []
  else [⟨"missing_reason", table, entry.isolation.value ++ " requires a reason"⟩]) ++
  if entry.isolation ≠ .tenantOwned ∧ "tenant_id" ∈ (schema.lookup table).getD ∅ ∧
      hasReason entry = false then
    [⟨"tenant_keyed_not_tenant_owned", table,
      "has a tenant_id column but is not TENANT_OWNED and gives no reason"⟩]
  else []

def auditIsolationClassification (repr : TableIsolation → String) (schema : Schema)
    (entries : Entries) (systemTables : Finset String) : List Violation :=
  let seen := (classify repr entries).1
  let tables := (seen.map Prod.fst).toFinset
  let known := schema.keys ∪ systemTables
  ((classify repr entries).2 ++
    (known \ tables).sort.map (fun table =>
      Violation.mk "unclassified" table "produced by the migrations but not classified") ++
    (tables \ known).sort.map (fun table =>
      Violation.mk "stale" table "classified but not in the schema") ++
    seen.flatMap (entryViolations schema)).mergeSort fun a b =>
      a.kind < b.kind || a.kind = b.kind && a.table ≤ b.table

/-! ## The order of the visits -/

namespace Nodes

variable {nodes : Nodes} {depth : ℕ} {key : String}

def roots : Nodes → List OpCall
  | nil => []
  | call c rest => c :: rest.roots
  | node _ rest => rest.roots

def children : Nodes → Nodes
  | nil => nil
  | call _ rest => rest.children
  | node below rest => below.append rest.children

lemma append_nil (nodes : Nodes) : nodes.append nil = nodes := by
  induction nodes with
  | nil => rfl
  | call c rest ih => rw [append, ih]
  | node below rest _ ih => rw [append, ih]

lemma append_assoc (nodes queue queue' : Nodes) :
    (nodes.append queue).append queue' = nodes.append (queue.append queue') := by
  induction nodes with
  | nil => rfl
  | call c rest ih => simp only [append, ih]
  | node below rest _ ih => simp only [append, ih]

lemma walk_append (nodes queue : Nodes) :
    (nodes.append queue).walk = nodes.roots ++ (queue.append nodes.children).walk := by
  induction nodes generalizing queue with
  | nil => rw [append, roots, children, append_nil, List.nil_append]
  | call c rest ih => rw [append, walk, ih, roots, children, List.cons_append]
  | node below rest _ ih => rw [append, walk, append_assoc, ih, roots, children, append_assoc]

lemma walk_eq (nodes : Nodes) : nodes.walk = nodes.roots ++ nodes.children.walk := by
  have hwalk := walk_append nodes nil
  rwa [append_nil] at hwalk

lemma nested_append (depth : ℕ) (nodes queue : Nodes) :
    (nodes.append queue).nested depth = nodes.nested depth ++ queue.nested depth := by
  induction nodes with
  | nil => rfl
  | call c rest ih => simp only [append, nested, ih, List.cons_append]
  | node below rest _ ih => simp only [append, nested, ih, List.append_assoc]

lemma map_nested (depth : ℕ) (nodes : Nodes) : (nodes.nested depth).map Prod.snd = nodes.calls := by
  induction nodes generalizing depth with
  | nil => rfl
  | call c rest ih => simp only [nested, calls, List.map_cons, ih]
  | node below rest ihBelow ih => simp only [nested, calls, List.map_append, ihBelow, ih]

lemma calls_append (nodes queue : Nodes) :
    (nodes.append queue).calls = nodes.calls ++ queue.calls := by
  simp only [← map_nested 0, nested_append, List.map_append]

lemma nested_children_sublist (depth : ℕ) (nodes : Nodes) :
    (nodes.children.nested (depth + 1)).Sublist (nodes.nested depth) := by
  induction nodes with
  | nil => exact .slnil
  | call c rest ih => exact ih.cons _
  | node below rest _ ih =>
    rw [children, nested_append]
    exact (List.Sublist.refl _).append ih

lemma le_of_mem_nested {x : ℕ × OpCall} (h : x ∈ nodes.nested depth) : depth ≤ x.1 := by
  induction nodes generalizing depth with
  | nil => cases h
  | call c rest ih =>
    rcases List.mem_cons.1 h with rfl | h
    · exact le_rfl
    · exact ih h
  | node below rest ihBelow ih =>
    rcases List.mem_append.1 h with h | h
    · exact (Nat.le_succ depth).trans (ihBelow h)
    · exact ih h

lemma mem_nested_of_mem_roots {c : OpCall} (h : c ∈ nodes.roots) :
    (depth, c) ∈ nodes.nested depth := by
  induction nodes with
  | nil => cases h
  | call c' rest ih =>
    rcases List.mem_cons.1 h with rfl | h
    · exact List.mem_cons_self
    · exact List.mem_cons_of_mem _ (ih h)
  | node below rest _ ih => exact List.mem_append_right _ (ih h)

lemma filter_calls (h : (nodes.nested depth).Pairwise fun a b => a.2.key = b.2.key → a.1 ≤ b.1) :
    (nodes.roots.filter fun c => c.key = key) ++
        (nodes.children.calls.filter fun c => c.key = key) =
      nodes.calls.filter fun c => c.key = key := by
  induction nodes with
  | nil => rfl
  | call c rest ih =>
    have ih := ih h.of_cons
    simp only [roots, children, calls, List.filter_cons]
    split
    · rw [List.cons_append, ih]
    · exact ih
  | node below rest _ ih =>
    rw [nested, List.pairwise_append] at h
    obtain ⟨-, hrest, hacross⟩ := h
    simp only [roots, children, calls, calls_append, List.filter_append, ← ih hrest]
    -- A call below comes before a root of the rest, which is nested less deep.
    have hempty : (below.calls.filter fun c => c.key = key) = [] ∨
        (rest.roots.filter fun c => c.key = key) = [] := by
      by_contra hboth
      rw [not_or] at hboth
      obtain ⟨c, hc⟩ := List.exists_mem_of_ne_nil _ hboth.1
      obtain ⟨c', hc'⟩ := List.exists_mem_of_ne_nil _ hboth.2
      rw [List.mem_filter, decide_eq_true_eq] at hc hc'
      rw [← map_nested (depth + 1), List.mem_map] at hc
      obtain ⟨⟨x, hx, rfl⟩, hkey⟩ := hc
      have hle := hacross x hx _ (mem_nested_of_mem_roots hc'.1) (hkey.trans hc'.2.symm)
      exact absurd (le_of_mem_nested hx) (Nat.not_succ_le_self depth |> fun hn hd =>
        hn (hd.trans hle))
    rcases hempty with hempty | hempty <;> simp [hempty]

lemma size_children (h : nodes ≠ nil) : nodes.children.size < nodes.size := by
  induction nodes with
  | nil => exact absurd rfl h
  | call c rest ih =>
    by_cases hrest : rest = nil
    · simp [hrest, children, size]
    · exact (ih hrest).trans (Nat.lt_succ_self _)
  | node below rest _ ih =>
    rw [children, size_append, size]
    by_cases hrest : rest = nil
    · simp [hrest, children, size]
    · have := ih hrest
      omega

lemma filter_walk {nodes : Nodes} {depth : ℕ}
    (h : (nodes.nested depth).Pairwise fun a b => a.2.key = b.2.key → a.1 ≤ b.1) :
    (nodes.walk.filter fun c => c.key = key) = nodes.calls.filter fun c => c.key = key := by
  by_cases hnil : nodes = nil
  · rw [hnil, walk]
    rfl
  · rw [walk_eq, List.filter_append, ← filter_calls h,
      filter_walk (List.Pairwise.sublist (nested_children_sublist depth nodes) h)]
termination_by nodes.size
decreasing_by exact size_children hnil

end Nodes

/-! ## Calls on different tables commute -/

/-- What a call makes of the columns of its table. -/
def OpCall.effect (call : OpCall) (columns : Option (Finset String)) : Option (Finset String) :=
  match call with
  | .createTable _ args _ => some args.reduceOption.toFinset
  | .addColumn _ column _ => some (insert column (columns.getD ∅))
  | .dropColumn _ column _ => columns.map fun columns => columns.erase column
  | .dropTable _ _ => none

lemma lookup_replay (schema : Schema) (call : OpCall) (key : String) :
    (replay schema call).lookup key =
      if call.key = key then call.effect (schema.lookup key) else schema.lookup key := by
  split
  · next hkey =>
    subst hkey
    cases call with
    | createTable | addColumn => simp [replay, OpCall.effect, Finmap.lookup_insert]
    | dropTable => simp [replay, OpCall.effect, Finmap.lookup_erase]
    | dropColumn table column schemaName =>
      simp only [replay, OpCall.effect]
      split
      · next columns hcolumns => simp [hcolumns, Finmap.lookup_insert]
      · next hnone => simp [hnone]
  · next hkey =>
    have hne : key ≠ call.key := Ne.symm hkey
    cases call with
    | createTable | addColumn => simp only [replay, Finmap.lookup_insert_of_ne _ hne]
    | dropTable => simp only [replay, Finmap.lookup_erase_ne hne]
    | dropColumn table column schemaName =>
      simp only [replay]
      split
      · exact Finmap.lookup_insert_of_ne _ hne
      · rfl

lemma lookup_foldl_replay (calls : List OpCall) (schema : Schema) (key : String) :
    (calls.foldl replay schema).lookup key =
      (calls.filter fun c => c.key = key).foldl (fun columns c => c.effect columns)
        (schema.lookup key) := by
  induction calls generalizing schema with
  | nil => rfl
  | cons call calls ih =>
    rw [List.foldl_cons, ih, lookup_replay, List.filter_cons]
    by_cases hkey : call.key = key <;> simp [hkey]

lemma applyUpgrade_eq {body : Nodes} (h : body.InOrder) (schema : Schema) :
    applyUpgrade schema body = body.calls.foldl replay schema := by
  refine Finmap.ext_lookup fun key => ?_
  rw [applyUpgrade, lookup_foldl_replay, lookup_foldl_replay, Nodes.filter_walk h]

lemma eq_replay_of_execute {schema schema' : Schema} {call : OpCall}
    (h : execute schema call = some schema') : schema' = replay schema call := by
  unfold execute at h
  split at h
  · exact (Option.some.inj h).symm
  · next hcolumns =>
    split_ifs at h
    simp only [replay, hcolumns, Option.getD_some]
    exact (Option.some.inj h).symm
  · next hcolumns =>
    split_ifs at h
    simp only [replay, hcolumns]
    exact (Option.some.inj h).symm
  · exact (Option.some.inj h).symm
  · cases h

lemma eq_foldl_of_foldlM {α : Type} {run : Schema → α → Option Schema} {step : Schema → α → Schema}
    {xs : List α} {schema schema' : Schema}
    (hstep : ∀ x ∈ xs, ∀ schema schema', run schema x = some schema' → schema' = step schema x)
    (h : xs.foldlM run schema = some schema') : schema' = xs.foldl step schema := by
  induction xs generalizing schema with
  | nil => exact (Option.some.inj h).symm
  | cons x xs ih =>
    rw [List.foldlM_cons] at h
    obtain ⟨middle, hmiddle, h⟩ := Option.bind_eq_some_iff.1 h
    rw [List.foldl_cons, ← hstep x List.mem_cons_self schema middle hmiddle]
    exact ih (fun y hy => hstep y (List.mem_cons_of_mem _ hy)) h

lemma schemaAtHead_eq {history : List Nodes} {schema : Schema} (h : ∀ body ∈ history, body.InOrder)
    (hexecute : executeAll history = some schema) :
    schemaAtHead history = schema := by
  refine (eq_foldl_of_foldlM (fun body hbody before after hrun => ?_) hexecute).symm
  rw [applyUpgrade_eq (h body hbody)]
  exact eq_foldl_of_foldlM (fun _ _ _ _ => eq_replay_of_execute) hrun

/-! ## What the audit says -/

variable {repr : TableIsolation → String} {entries : Entries} {schema : Schema}
  {systemTables : Finset String}

lemma foldl_classifyEntry {found : Entries × List Violation}
    (h : (entries.foldl (classifyEntry repr) found).2 = []) (hfound : (found.1.map Prod.fst).Nodup) :
    found.2 = [] ∧ (entries.foldl (classifyEntry repr) found).1 = found.1 ++ entries ∧
      ((found.1 ++ entries).map Prod.fst).Nodup := by
  induction entries generalizing found with
  | nil => exact ⟨h, (List.append_nil _).symm, by rwa [List.append_nil]⟩
  | cons x entries ih =>
    rw [List.foldl_cons] at h ⊢
    cases hfind : found.1.find? fun y => y.1 = x.1 with
    | some y =>
      simp only [classifyEntry, hfind] at h
      exact absurd (ih h hfound).1 (by simp)
    | none =>
      simp only [classifyEntry, hfind] at h ⊢
      have hnew : ((found.1 ++ [x]).map Prod.fst).Nodup := by
        rw [List.map_append, List.nodup_append]
        refine ⟨hfound, by simp, fun a ha b hb => ?_⟩
        obtain ⟨y, hy, rfl⟩ := List.mem_map.1 ha
        obtain rfl : b = x.1 := by simpa using hb
        simpa using List.find?_eq_none.1 hfind y hy
      obtain ⟨hnone, hseen, hnodup⟩ := ih h hnew
      rw [List.append_assoc] at hseen hnodup
      exact ⟨hnone, hseen, hnodup⟩

lemma classified_of_audit (h : auditIsolationClassification repr schema entries systemTables = []) :
    (∀ table ∈ schema, (entries.map Prod.fst).count table = 1) ∧
      ∀ x ∈ entries, if x.2.isolation = .tenantOwned then
        ∀ columns, schema.lookup x.1 = some columns → "tenant_id" ∈ columns
      else hasReason x.2 = true := by
  have hlength := congrArg List.length h
  rw [auditIsolationClassification, List.length_mergeSort, List.length_nil,
    List.length_eq_zero_iff] at hlength
  simp only [List.append_eq_nil_iff, List.map_eq_nil_iff, List.flatMap_eq_nil_iff] at hlength
  obtain ⟨⟨⟨hduplicates, hunclassified⟩, -⟩, hentries⟩ := hlength
  obtain ⟨-, hseen, hnodup⟩ := foldl_classifyEntry hduplicates List.nodup_nil
  rw [List.nil_append] at hseen hnodup
  have hclassify : (classify repr entries).1 = entries := hseen
  rw [hclassify] at hunclassified hentries
  refine ⟨fun table htable => List.count_eq_one_of_mem hnodup ?_, fun x hx => ?_⟩
  · by_contra hnot
    have hmem : table ∈ ((schema.keys ∪ systemTables) \ (entries.map Prod.fst).toFinset).sort := by
      rw [Finset.mem_sort, Finset.mem_sdiff, Finset.mem_union, Finmap.mem_keys, List.mem_toFinset]
      exact ⟨.inl htable, hnot⟩
    rw [hunclassified] at hmem
    cases hmem
  · have hx := hentries x hx
    simp only [entryViolations, List.append_eq_nil_iff] at hx
    split
    · next howned =>
      rintro columns hcolumns
      have hkey := hx.1.2
      rw [if_pos howned, List.append_eq_nil_iff, hcolumns] at hkey
      by_contra hnot
      simp [hnot] at hkey
    · next howned =>
      have hreason := hx.1.2
      rw [if_neg howned] at hreason
      by_contra hnot
      simp [hnot] at hreason

/-- **The inventory is what the migrations build**, where no call is nested deeper than a later one on
the same table; then the audit says what it should of the tables that exist. -/
theorem schemaAtHead_built {history : List Nodes} (h : ∀ body ∈ history, body.InOrder)
    (hexecute : executeAll history = some schema) :
    schemaAtHead history = schema ∧
      ∀ (repr : TableIsolation → String) (entries : Entries) (systemTables : Finset String),
        auditIsolationClassification repr (schemaAtHead history) entries systemTables = [] →
        (∀ table ∈ schema, (entries.map Prod.fst).count table = 1) ∧
          ∀ x ∈ entries, if x.2.isolation = .tenantOwned then
            ∀ columns, schema.lookup x.1 = some columns → "tenant_id" ∈ columns
          else hasReason x.2 = true := by
  have hhead := schemaAtHead_eq h hexecute
  refine ⟨hhead, fun repr entries systemTables haudit => ?_⟩
  rw [hhead] at haudit
  exact classified_of_audit haudit

def createNotes (column : String) : OpCall := .createTable "notes" [some column, none] none

/-- `ast.Expr`, and what follows it. -/
def statement (call : OpCall) (rest : Nodes) : Nodes := .node (.call call .nil) rest

/-- A table is created, and a column is added to it in a block. -/
def notesHistory : List Nodes :=
  [statement (createNotes "id") (.node (statement (.addColumn "notes" "tenant_id" none) .nil) .nil)]

def notesSchema : Schema :=
  ((∅ : Schema).insert "core.notes" {"id"}).insert "core.notes" {"tenant_id", "id"}

lemma executeAll_notesHistory : executeAll notesHistory = some notesSchema := by
  simp only [executeAll, executeUpgrade, notesHistory, statement, createNotes, Nodes.calls,
    List.foldlM_cons, List.foldlM_nil, List.nil_append, List.cons_append, execute, OpCall.key,
    Option.getD_none, Finmap.lookup_empty, Option.bind_eq_bind, Option.bind_some,
    Finmap.lookup_insert]
  rfl

lemma audit_notesSchema :
    auditIsolationClassification (fun _ => "") notesSchema
      [("core.notes", ⟨.tenantOwned, "", false⟩)] ∅ = [] := by
  have hkeys : notesSchema.keys = {"core.notes"} := by
    ext key
    rw [Finmap.mem_keys, notesSchema, Finmap.mem_insert, Finmap.mem_insert, Finset.mem_singleton]
    constructor
    · rintro (hkey | hkey | hkey)
      · exact hkey
      · exact hkey
      · exact absurd hkey Finmap.notMem_empty
    · exact .inl
  have hlookup : notesSchema.lookup "core.notes" = some {"tenant_id", "id"} :=
    Finmap.lookup_insert _
  have hreason : hasReason ⟨.tenantOwned, "", false⟩ = false := by decide +kernel
  simp [auditIsolationClassification, classify, classifyEntry, entryViolations, hkeys, hlookup,
    hreason]

theorem schemaAtHead_built_block :
    schemaAtHead notesHistory = notesSchema ∧
      ∀ columns, notesSchema.lookup "core.notes" = some columns → "tenant_id" ∈ columns := by
  obtain ⟨hhead, haudit⟩ := schemaAtHead_built
    (by simp [notesHistory, Nodes.InOrder, Nodes.nested, statement]) executeAll_notesHistory
  have hentries := (haudit (fun _ => "") [("core.notes", ⟨.tenantOwned, "", false⟩)] ∅
    (by rw [hhead, audit_notesSchema])).2
  exact ⟨hhead, by simpa using hentries⟩

/-- A table that is dropped in a block and created anew after it is lost. -/
def recreated : List Nodes :=
  [statement (createNotes "tenant_id") .nil,
    .node (statement (.dropTable "notes" none) .nil) (statement (createNotes "id") .nil)]

theorem recreated_lost : ∃ schema, executeAll recreated = some schema ∧ "core.notes" ∈ schema ∧
    "core.notes" ∉ schemaAtHead recreated ∧
    ∀ repr, auditIsolationClassification repr (schemaAtHead recreated) [] ∅ = [] := by
  have hhead : schemaAtHead recreated = ∅ := by
    simp only [schemaAtHead, recreated, statement, createNotes, applyUpgrade, Nodes.walk,
      Nodes.append, replay, OpCall.key, List.foldl_cons, List.foldl_nil, Finmap.insert_insert]
    refine Finmap.ext_lookup fun key => ?_
    by_cases hkey : key = "core.notes"
    · rw [hkey]
      exact Finmap.lookup_erase _ _
    · simp [Finmap.lookup_erase_ne, Finmap.lookup_insert_of_ne, hkey]
  refine ⟨_, by
    simp [executeAll, executeUpgrade, recreated, statement, createNotes, Nodes.calls, execute,
      OpCall.key, Finmap.lookup_insert, Finmap.lookup_erase]
    rfl, by simp, ?_, fun repr => ?_⟩ <;> rw [hhead]
  · exact Finmap.notMem_empty
  · simp [auditIsolationClassification, classify]

end SaasOs.SchemaInventory
