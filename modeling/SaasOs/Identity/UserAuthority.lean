import SaasOs.Platform.Authorization
import SaasOs.Rbac.GuardedChange

/-!
# Deactivating a user

A deactivation reaches every tenant the user is an active member of.  It scans the registry page by
page for those tenants, guards them, and only then decides; with the user's row locked it scans once
more, because a membership that appeared in between would be unguarded, and is tried again if there
is one.
-/

namespace SaasOs

open Rows

def scanPageSize : ℕ := 500

def maxAttempts : ℕ := 3

namespace Tables

/-! ## The scan -/

def unpurgedTenantIds (db : Tables) : List Uuid :=
  ((db.tenants.filter fun row => row.status != .purged).map Tenant.id).insertionSort (· ≤ ·)

def countUnpurgedTenants (db : Tables) (limit : ℕ) : ℕ := (db.unpurgedTenantIds.take limit).length

def unpurgedTenantIdsAfter (db : Tables) (after : Option Uuid) : List Uuid :=
  db.unpurgedTenantIds.filter fun id => after.all fun last => decide (last < id)

def unpurgedTenantIdsPage (db : Tables) (after : Option Uuid) (limit : ℕ) : List Uuid :=
  (db.unpurgedTenantIdsAfter after).take limit

/-- The tenants of one page in which the user is an active member. -/
def scanPage (db : Tables) (userId : Uuid) (ceiling : ℕ) :
    List Uuid → List Uuid → ℕ → Result (List Uuid × ℕ)
  | [], found, visited => .ok (found, visited)
  | tenantId :: page, found, visited => do
    require (visited + 1 ≤ ceiling)
      (.deactivationScanLimit PlatformOperation.userDeactivate.key ceiling)
    db.scanPage userId ceiling page
      (if db.isActiveMember tenantId [userId] then found ++ [tenantId] else found) (visited + 1)

/-- Read page after page until one is empty. -/
def scanPages (db : Tables) (userId : Uuid) (ceiling : ℕ) :
    ℕ → Option Uuid → List Uuid → ℕ → Result (List Uuid × ℕ)
  | 0, _, found, visited => .ok (found, visited)
  | rounds + 1, after, found, visited =>
    let page := db.unpurgedTenantIdsPage after scanPageSize
    if page.isEmpty then
      .ok (found, visited)
    else do
      let scanned ← db.scanPage userId ceiling page found visited
      db.scanPages userId ceiling rounds page.getLast? scanned.1 scanned.2

/-- One complete pass: the tenants in which the user holds an active membership, and how many
tenants were visited. -/
def scanActiveMemberships (db : Tables) (userId : Uuid) (ceiling : ℕ) : Result (List Uuid × ℕ) :=
  db.scanPages userId ceiling (db.tenants.length + 1) none [] 0

variable {db : Tables} {userId : Uuid} {ceiling visited visited' : ℕ}

lemma scanPage_ok {page found found' : List Uuid}
    (h : db.scanPage userId ceiling page found visited = .ok (found', visited')) :
    (∀ t ∈ found, t ∈ found') ∧
      ∀ t ∈ page, db.isActiveMember t [userId] = true → t ∈ found' := by
  induction page generalizing found visited with
  | nil =>
    cases h
    simp
  | cons tenantId page ih =>
    simp only [scanPage, bind_eq_ok] at h
    obtain ⟨⟨⟩, -, hrest⟩ := h
    obtain ⟨hkeeps, hfinds⟩ := ih hrest
    refine ⟨?_, ?_⟩
    · intro t ht
      apply hkeeps
      split
      · exact List.mem_append_left _ ht
      · exact ht
    · intro t ht hmember
      rcases List.mem_cons.mp ht with rfl | ht
      · apply hkeeps
        rw [if_pos hmember]
        simp
      · exact hfinds t ht hmember

variable {after : Option Uuid} {t : Uuid}

lemma mem_unpurgedTenantIdsAfter :
    t ∈ db.unpurgedTenantIdsAfter after ↔ t ∈ db.unpurgedTenantIds ∧ ∀ a ∈ after, a < t := by
  unfold unpurgedTenantIdsAfter
  rw [List.mem_filter]
  cases after <;> simp

variable {last : Uuid}

lemma length_unpurgedTenantIdsAfter_lt (hlast : last ∈ db.unpurgedTenantIdsAfter after) :
    (db.unpurgedTenantIdsAfter (some last)).length < (db.unpurgedTenantIdsAfter after).length := by
  have hrefine : db.unpurgedTenantIdsAfter (some last) =
      (db.unpurgedTenantIdsAfter after).filter fun id => decide (last < id) := by
    unfold unpurgedTenantIdsAfter
    rw [List.filter_filter]
    refine List.filter_congr fun id _ => ?_
    by_cases hbehind : last < id
    · cases after with
      | none => simp
      | some a =>
        have hal : a < last := (mem_unpurgedTenantIdsAfter.mp hlast).2 a rfl
        simp [lt_trans hal hbehind]
    · simp [hbehind]
  rw [hrefine, List.length_filter_lt_length_iff_exists]
  exact ⟨last, hlast, by simp⟩

lemma mem_page_or_behind {limit : ℕ}
    (hlast : (db.unpurgedTenantIdsPage after limit).getLast? = some last)
    (ht : t ∈ db.unpurgedTenantIdsAfter after) :
    t ∈ db.unpurgedTenantIdsPage after limit ∨ last < t := by
  have hsorted : (db.unpurgedTenantIdsAfter after).Pairwise (· ≤ ·) :=
    List.Pairwise.filter _ (List.pairwise_insertionSort (· ≤ ·) _)
  have hlastmem : last ∈ db.unpurgedTenantIdsPage after limit := List.mem_of_getLast? hlast
  rw [← List.take_append_drop limit (db.unpurgedTenantIdsAfter after)] at ht hsorted
  rcases List.mem_append.mp ht with hpage | hrest
  · exact Or.inl hpage
  · have hle : last ≤ t := (List.pairwise_append.mp hsorted).2.2 last hlastmem t hrest
    rcases Nat.lt_or_eq_of_le hle with hlt | rfl
    · exact Or.inr hlt
    · exact Or.inl hlastmem

lemma scanPages_ok {ceiling rounds : ℕ} {found found' : List Uuid}
    (hrounds : (db.unpurgedTenantIdsAfter after).length < rounds)
    (h : db.scanPages userId ceiling rounds after found visited = .ok (found', visited')) :
    (∀ t ∈ found, t ∈ found') ∧
      ∀ t ∈ db.unpurgedTenantIdsAfter after, db.isActiveMember t [userId] = true → t ∈ found' := by
  induction rounds generalizing after found visited with
  | zero => omega
  | succ rounds ih =>
    simp only [scanPages] at h
    split at h
    · next hempty =>
      -- an empty page: nothing is ahead
      cases h
      have hnil : db.unpurgedTenantIdsAfter after = [] := by
        rcases List.take_eq_nil_iff.mp (List.isEmpty_iff.mp hempty) with hsize | hnil
        · cases hsize
        · exact hnil
      refine ⟨fun t ht => ht, ?_⟩
      intro t ht
      rw [hnil] at ht
      cases ht
    · next hnonempty =>
      simp only [bind_eq_ok] at h
      obtain ⟨⟨scanned, visited₁⟩, hscanned, hrest⟩ := h
      have hne : db.unpurgedTenantIdsPage after scanPageSize ≠ [] := by
        intro hnil
        exact hnonempty (List.isEmpty_iff.mpr hnil)
      have hlast := List.getLast?_eq_some_getLast hne
      have hahead := List.mem_of_mem_take (List.getLast_mem hne)
      have hshorter := length_unpurgedTenantIdsAfter_lt hahead
      rw [hlast] at hrest
      obtain ⟨hkeeps, hfinds⟩ := ih (by omega) hrest
      obtain ⟨hkeeps₀, hfinds₀⟩ := scanPage_ok hscanned
      refine ⟨fun t ht => hkeeps t (hkeeps₀ t ht), ?_⟩
      intro t ht hmember
      rcases mem_page_or_behind hlast ht with hpage | hbehind
      · exact hkeeps t (hfinds₀ t hpage hmember)
      · have hunpurged := (mem_unpurgedTenantIdsAfter.mp ht).1
        refine hfinds t (mem_unpurgedTenantIdsAfter.mpr ⟨hunpurged, ?_⟩) hmember
        rintro a ⟨⟩
        exact hbehind

lemma scanActiveMemberships_ok {scanned : List Uuid × ℕ}
    (h : db.scanActiveMemberships userId ceiling = .ok scanned) {tenant : Tenant}
    (htenant : tenant ∈ db.tenants) (hstatus : tenant.status ≠ .purged)
    (hmember : db.ActiveMember tenant.id userId) : tenant.id ∈ scanned.1 := by
  have hlength : (db.unpurgedTenantIdsAfter none).length < db.tenants.length + 1 := by
    calc (db.unpurgedTenantIdsAfter none).length
        ≤ db.unpurgedTenantIds.length := List.length_filter_le _ _
      _ = (db.tenants.filter fun row => row.status != .purged).length := by
          simp [unpurgedTenantIds]
      _ ≤ db.tenants.length := List.length_filter_le _ _
      _ < db.tenants.length + 1 := Nat.lt_succ_self _
  have hunpurged : tenant.id ∈ db.unpurgedTenantIds := by
    unfold unpurgedTenantIds
    rw [List.mem_insertionSort]
    exact List.mem_map.mpr ⟨tenant, List.mem_filter.mpr ⟨htenant, by simpa using hstatus⟩, rfl⟩
  refine (scanPages_ok hlength h).2 tenant.id (mem_unpurgedTenantIdsAfter.mpr ⟨hunpurged, ?_⟩) ?_
  · rintro a ⟨⟩
  · exact isActiveMember_iff.mpr ⟨userId, List.mem_singleton.mpr rfl, hmember⟩

/-! ## The order of the guard -/

def rootDepth (db : Tables) (tenantId : Uuid) : ℕ :=
  ((db.ancestryOf tenantId).map TenantAncestry.depth).foldl max 0

def rootFirst (db : Tables) (a b : Uuid) : Prop :=
  db.rootDepth a < db.rootDepth b ∨ (db.rootDepth a = db.rootDepth b ∧ a ≤ b)

instance (db : Tables) : DecidableRel db.rootFirst := fun _ _ =>
  inferInstanceAs (Decidable (_ ∨ _))

/-! ## The change -/

def requireDeactivatable (db : Tables) (userId : Uuid) : Result Unit :=
  match (db.lockUserIsActive userId).val with
  | none => .error (.platformSubjectNotFound userId)
  | some false => .error (.invalidUserState userId "inactive")
  | some true => .ok ()

/-- Deactivate the user and revoke every unrevoked session and every unrevoked API key the user
owns. -/
def withoutUser (db : Tables) (now : Instant) (userId : Uuid) : Tables :=
  { db with
    users := db.users.map fun row => if row.id = userId then { row with isActive := false } else row
    sessions := db.sessions.map fun row =>
      if row.userId = userId ∧ row.revokedAt = none then { row with revokedAt := some now } else row
    apiKeys := db.apiKeys.map fun row =>
      if row.userId = some userId ∧ row.revokedAt = none then { row with revokedAt := some now }
      else row }

def mayScan (db : Tables) : Caller → Bool
  | .user callerId => (db.platformCan callerId .userDeactivate).val
  | .serviceAccount _ _ => false
  | .system _ => false

def requireOtherTarget (userId : Uuid) : Caller → Result Unit
  | .user callerId =>
    require (callerId != userId) (.platformSelfTarget PlatformOperation.userDeactivate.key)
  | .serviceAccount _ _ => .ok ()
  | .system _ => .ok ()

end Tables

namespace Database

def deactivateInTransaction (db : Database) (now : Instant) (userId : Uuid) (caller : Caller)
    (ceiling : ℕ) : Result Database := do
  let operation := PlatformOperation.userDeactivate
  require (db.mayScan caller) (.platformNotAuthorized operation.key)
  require (db.countUnpurgedTenants (ceiling + 1) ≤ ceiling)
    (.deactivationScanLimit operation.key ceiling)
  let first ← db.scanActiveMemberships userId ceiling
  let guard := (db.guardTenants now (first.1.insertionSort db.rootFirst)).val
  (db.authorizePlatformCaller caller operation).val
  Tables.requireOtherTarget userId caller
  db.requireDeactivatable userId
  let second ← db.scanActiveMemberships userId ceiling
  require (second.1.all first.1.contains) .membershipAppeared
  let changed ← flush .integrityError (db.withoutUser now userId)
  (guard.verify changed.toTables now).val
  require (!db.platformOwnerExists || changed.platformOwnerExists)
    (.lastPlatformOwner operation.key)
  return changed

def retryDeactivation (userId : Uuid) (attempt : Result Database) : ℕ → Result Database
  | 0 => .error (.deactivationRetry userId)
  | attempts + 1 =>
    match attempt with
    | .error .membershipAppeared => retryDeactivation userId attempt attempts
    | other => other

def deactivateUser (db : Database) (now : Instant) (userId : Uuid) (caller : Caller)
    (reason : String) (ceiling : ℕ) : Result Database := do
  refuseServiceAccount PlatformOperation.userDeactivate.key caller
  let _ ← validateReason reason
  retryDeactivation userId (db.deactivateInTransaction now userId caller ceiling) maxAttempts

variable {userId : Uuid}

lemma retryDeactivation_ok {attempt : Result Database} {attempts : ℕ} {db' : Database}
    (h : retryDeactivation userId attempt attempts = .ok db') :
    attempt = .ok db' := by
  induction attempts with
  | zero => cases h
  | succ attempts ih =>
    unfold retryDeactivation at h
    split at h
    · exact ih h
    · exact h

lemma deactivateUser_ok {db db' : Database} {now : Instant} {caller : Caller} {reason : String}
    {ceiling : ℕ} (h : db.deactivateUser now userId caller reason ceiling = .ok db') :
    db'.toTables = db.withoutUser now userId ∧
    ∃ scanned, db.scanActiveMemberships userId ceiling = .ok scanned ∧
      ((db.guardTenants now (scanned.1.insertionSort db.rootFirst)).val.verify
        db'.toTables now).val = .ok () := by
  unfold deactivateUser at h
  simp only [bind_eq_ok] at h
  obtain ⟨⟨⟩, -, _, -, hretry⟩ := h
  have hattempt := retryDeactivation_ok hretry
  unfold deactivateInTransaction at hattempt
  simp only [bind_eq_ok] at hattempt
  obtain ⟨⟨⟩, -, ⟨⟩, -, scanned, hscanned, ⟨⟩, -, ⟨⟩, -, ⟨⟩, -, second, -, ⟨⟩, -, changed, hchanged,
    ⟨⟩, hverified, ⟨⟩, -, hdone⟩ := hattempt
  cases hdone
  exact ⟨flush_ok hchanged, scanned, hscanned, hverified⟩

end Database

end SaasOs
