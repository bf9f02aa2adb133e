import SaasOs.Foundation.Json
import SaasOs.Foundation.PyString
import SaasOs.Rbac.Authorization

/-!
# Declared permission grant migrations

A product declares an ordered list of migrations, each of which adds registered permissions to the
role of one name.  The whole list is validated before any work on the database
(`validatePermissionGrantMigrations`): well-formed fields, unique ids, one namespace, and no
permission that changes authority.
-/

namespace SaasOs

namespace PermissionGrants

/-! ## Declarations -/

/-- One declared migration: add the permissions, pairs of a resource and an action, to the role of
this name in every tenant it is applied to. -/
structure PermissionGrantMigration where
  id : String
  «namespace» : String
  roleName : String
  permissions : List (String × String)
  reason : String

/-- A declaration that passed validation, with its digest. -/
structure ValidatedMigration where
  migration : PermissionGrantMigration
  digest : String

/-- The errors of runs and of the administration of roles. -/
inductive Error
  | service (e : ServiceError)
  | invalidPermissionGrantMigration (message : String)
  | authorityPermissionGrant (migrationId resource action : String)
  | unregisteredPermissionGrant (migrationId resource action : String)
  | permissionGrantMigrationChanged («namespace» migrationId : String)
  | invalidRoleName (message : String)
  | duplicateRoleName (tenantId : Uuid) (name : String)
  /-- The database cancels a statement, or the connection is lost. -/
  | operationalError
  deriving DecidableEq

/-- What validation takes from the standard library. -/
structure Library where
  repr : String → String
  /-- The SHA-256 of a text, in hexadecimal. -/
  sha256 : String → String

/-- `MAX_ID_LENGTH`, of ids and namespaces. -/
def maxIdLength : ℕ := 100

def maxRoleNameLength : ℕ := 100

def maxPermissionPartLength : ℕ := 100

def maxReasonLength : ℕ := 500

def maxPermissionsPerMigration : ℕ := 100

/-! ## Fields -/

def text (library : Library) (value field migrationId : String) (limit : ℕ) : Except Error String :=
  if value.isEmpty || limit < value.length then
    .error (.invalidPermissionGrantMigration s!"Permission grant migration {library.repr migrationId
      }: {field} must be a non-empty string of at most {limit} characters.")
  else if PyString.hasControlCharacter value then
    .error (.invalidPermissionGrantMigration s!"Permission grant migration {library.repr migrationId
      }: {field} contains a control character.")
  else
    .ok value

/-- A match of `[A-Za-z0-9]`. -/
def isIdentifierStart (c : Char) : Bool := c.isAlphanum

/-- A match of `[A-Za-z0-9._:-]`. -/
def isIdentifierPart (c : Char) : Bool :=
  c.isAlphanum || c == '.' || c == '_' || c == ':' || c == '-'

/-- `[A-Za-z0-9][A-Za-z0-9._:-]*` matches the whole string. -/
def isIdentifier (value : String) : Bool :=
  match value.toList with
  | [] => false
  | c :: rest => isIdentifierStart c && rest.all isIdentifierPart

def identifier (library : Library) (value field migrationId : String) : Except Error String := do
  let text ← text library value field migrationId maxIdLength
  if isIdentifier text then
    .ok text
  else
    .error (.invalidPermissionGrantMigration s!"Permission grant migration {library.repr migrationId
      }: {field} may hold only letters, digits and . _ : - and must start with a letter or digit.")

/-! ## Digests -/

def permissionText (pair : String × String) : List Char :=
  '[' :: (Json.quoteAscii pair.1 ++ ',' :: (Json.quoteAscii pair.2 ++ [']']))

/-- The canonical JSON text of a migration: its keys sorted, the permissions in their declared
order. -/
def PermissionGrantMigration.canonical (migration : PermissionGrantMigration) : String :=
  String.ofList ("\x7b\"id\":".toList ++ Json.quoteAscii migration.id ++
    ",\"namespace\":".toList ++ Json.quoteAscii migration.namespace ++
    ",\"permissions\":[".toList ++
    List.intercalate [','] (migration.permissions.map permissionText) ++
    "],\"reason\":".toList ++ Json.quoteAscii migration.reason ++
    ",\"role_name\":".toList ++ Json.quoteAscii migration.roleName ++ ['}'])

def permissionGrantMigrationDigest (library : Library) (migration : PermissionGrantMigration) :
    String :=
  library.sha256 migration.canonical

/-! ## Validation -/

/-- The permissions of a migration, one after the other; `pairs` has come before. -/
def validatePairs (library : Library) (migrationId : String) (pairs : List (String × String)) :
    List (String × String) → Except Error Unit
  | [] => .ok ()
  | pair :: rest => do
    let resource ← text library pair.1 "permission resource" migrationId maxPermissionPartLength
    let action ← text library pair.2 "permission action" migrationId maxPermissionPartLength
    if pairs.contains (resource, action) then
      .error (.invalidPermissionGrantMigration s!"Permission grant migration {
        library.repr migrationId} names {resource}:{action} more than once.")
    else if isAuthorityChanging resource action then
      .error (.authorityPermissionGrant migrationId resource action)
    else
      validatePairs library migrationId ((resource, action) :: pairs) rest

/-- One migration; `seen` are the ids that have come before. -/
def validateMigration (library : Library) (runNamespace : String) (seen : List String)
    (migration : PermissionGrantMigration) : Except Error ValidatedMigration := do
  let migrationId ← identifier library migration.id "id" (PyString.take 100 migration.id)
  if seen.contains migrationId then
    .error (.invalidPermissionGrantMigration s!"Permission grant migration id {
      library.repr migrationId} is declared more than once.")
  else if migration.namespace != runNamespace then
    .error (.invalidPermissionGrantMigration s!"Permission grant migration {library.repr migrationId
      } belongs to another namespace than the run's.")
  else
    let _ ← text library migration.roleName "role_name" migrationId maxRoleNameLength
    let _ ← text library migration.reason "reason" migrationId maxReasonLength
    if migration.permissions.isEmpty || maxPermissionsPerMigration < migration.permissions.length then
      .error (.invalidPermissionGrantMigration s!"Permission grant migration {
        library.repr migrationId}: permissions must be a non-empty tuple of at most {
        maxPermissionsPerMigration} (resource, action) pairs.")
    else
      validatePairs library migrationId [] migration.permissions
      .ok ⟨migration, permissionGrantMigrationDigest library migration⟩

def validateMigrations (library : Library) (runNamespace : String) (seen : List String) :
    List PermissionGrantMigration → Except Error (List ValidatedMigration)
  | [] => .ok []
  | migration :: migrations => do
    let item ← validateMigration library runNamespace seen migration
    let items ← validateMigrations library runNamespace (item.migration.id :: seen) migrations
    .ok (item :: items)

def validatePermissionGrantMigrations (library : Library) (runNamespace : String)
    (migrations : List PermissionGrantMigration) : Except Error (List ValidatedMigration) := do
  let runNamespace ← identifier library runNamespace "namespace" "<run>"
  validateMigrations library runNamespace [] migrations

/-! ## What validation says -/

section Validation

variable {library : Library} {runNamespace migrationId : String}

variable {value field value' : String}

lemma text_ok {limit : ℕ} (h : text library value field migrationId limit = .ok value') :
    value' = value := by
  unfold text at h
  split at h
  · cases h
  · split at h
    · cases h
    · exact (Except.ok.inj h).symm

lemma identifier_ok (h : identifier library value field migrationId = .ok value') :
    value' = value := by
  obtain ⟨checked, hchecked, hrest⟩ := bind_eq_ok.mp h
  split at hrest
  · obtain rfl := Except.ok.inj hrest
    exact text_ok hchecked
  · cases hrest

lemma validatePairs_ok {pairs rest : List (String × String)}
    (h : validatePairs library migrationId pairs rest = .ok ()) :
    ∀ pair ∈ rest, isAuthorityChanging pair.1 pair.2 = false := by
  induction rest generalizing pairs with
  | nil => exact fun _ hpair => absurd hpair List.not_mem_nil
  | cons pair rest ih =>
    obtain ⟨resource, hresource, hrest⟩ := bind_eq_ok.mp h
    obtain ⟨action, haction, hrest⟩ := bind_eq_ok.mp hrest
    obtain rfl := text_ok hresource
    obtain rfl := text_ok haction
    split at hrest
    · cases hrest
    · split at hrest
      · cases hrest
      · next _ hunchanged =>
        intro other hother
        rcases List.mem_cons.mp hother with rfl | hother
        · exact Bool.eq_false_iff.mpr hunchanged
        · exact ih hrest other hother

/-- What validation says of one migration. -/
structure ValidatedMigration.Valid (library : Library) (runNamespace : String)
    (item : ValidatedMigration) : Prop where
  «namespace» : item.migration.namespace = runNamespace
  digest : item.digest = permissionGrantMigrationDigest library item.migration
  permitted : ∀ pair ∈ item.migration.permissions, isAuthorityChanging pair.1 pair.2 = false

variable {seen : List String}

lemma validateMigration_ok {migration : PermissionGrantMigration} {item : ValidatedMigration}
    (h : validateMigration library runNamespace seen migration = .ok item) :
    item.Valid library runNamespace ∧ item.migration.id ∉ seen := by
  obtain ⟨id, hid, hrest⟩ := bind_eq_ok.mp h
  obtain rfl := identifier_ok hid
  split at hrest
  · cases hrest
  · next hfresh =>
    split at hrest
    · cases hrest
    · next hnamespace =>
      obtain ⟨-, -, hrest⟩ := bind_eq_ok.mp hrest
      obtain ⟨-, -, hrest⟩ := bind_eq_ok.mp hrest
      split at hrest
      · cases hrest
      · obtain ⟨_, hpairs, hitem⟩ := bind_eq_ok.mp hrest
        obtain rfl := Except.ok.inj hitem
        rw [bne_iff_ne, ne_eq, not_not] at hnamespace
        rw [List.contains_iff_mem] at hfresh
        exact ⟨⟨hnamespace, rfl, validatePairs_ok hpairs⟩, hfresh⟩

variable {migrations : List PermissionGrantMigration} {items : List ValidatedMigration}

lemma validateMigrations_ok
    (h : validateMigrations library runNamespace seen migrations = .ok items) :
    (∀ item ∈ items, item.Valid library runNamespace ∧ item.migration.id ∉ seen) ∧
      (items.map fun item => item.migration.id).Nodup := by
  induction migrations generalizing seen items with
  | nil =>
    obtain rfl := Except.ok.inj h
    exact ⟨fun _ hitem => absurd hitem List.not_mem_nil, List.nodup_nil⟩
  | cons migration migrations ih =>
    obtain ⟨item, hitem, hrest⟩ := bind_eq_ok.mp h
    obtain ⟨rest, hitems, hdone⟩ := bind_eq_ok.mp hrest
    obtain rfl := Except.ok.inj hdone
    obtain ⟨hvalid, hnodup⟩ := ih hitems
    constructor
    · intro other hother
      rcases List.mem_cons.mp hother with rfl | hother
      · exact validateMigration_ok hitem
      · obtain ⟨hother, hfresh⟩ := hvalid other hother
        exact ⟨hother, fun hseen => hfresh (List.mem_cons_of_mem _ hseen)⟩
    · rw [List.map_cons, List.nodup_cons]
      refine ⟨fun hmem => ?_, hnodup⟩
      obtain ⟨other, hother, heq⟩ := List.mem_map.mp hmem
      exact (hvalid other hother).2 (List.mem_cons.mpr (.inl heq))

theorem validatePermissionGrantMigrations_ok
    (h : validatePermissionGrantMigrations library runNamespace migrations = .ok items) :
    (∀ item ∈ items, item.Valid library runNamespace) ∧
      (items.map fun item => item.migration.id).Nodup := by
  obtain ⟨checked, hchecked, hitems⟩ := bind_eq_ok.mp h
  obtain rfl := identifier_ok hchecked
  obtain ⟨hvalid, hnodup⟩ := validateMigrations_ok hitems
  exact ⟨fun item hitem => (hvalid item hitem).1, hnodup⟩

end Validation

end PermissionGrants

end SaasOs
