import SaasOs.Platform.Operators
import SaasOs.Foundation.ProgramLogic

/-!
# Statements that only read and lock

The statements by which a call is authorized, locks and looks around keep every steady assertion, in
any protocol on the platform's tables.  A lookup of a user adds what it found.
-/

namespace SaasOs

open ReadCommitted

lemma lockUserIsActive_eq_some {db : Tables} {userId : Uuid} {isActive : Bool}
    (h : (db.lockUserIsActive userId).val = some isActive) :
    RowKey.user userId ∈ (db.lockUserIsActive userId).locks ∧
      ∃ row ∈ db.users, row.id = userId ∧ row.isActive = isActive := by
  unfold Tables.lockUserIsActive at h ⊢
  cases hfind : db.users.find? fun row => row.id == userId with
  | none =>
    rw [hfind] at h
    cases h
  | some row =>
    rw [hfind] at h
    have hid := List.find?_some hfind
    rw [beq_iff_eq] at hid
    refine ⟨?_, row, List.mem_of_find?_eq_some hfind, hid, Option.some.inj h⟩
    rw [← hid]
    exact List.mem_singleton.mpr rfl

namespace PlatformLogic

variable {κ : Type} {P : Protocol κ PlatformTables PlatformWrite PlatformLock} {call : κ}
  {F : Protocol.Assertion PlatformTables PlatformWrite PlatformLock} {caller : Caller}

section

variable (hF : P.Steady F)

include hF

lemma triple_lockedQuery {α : Type} {query : PlatformTables → Locked α} :
    P.Triple call F (lockedQuery query) fun _ => F :=
  Protocol.triple_query hF

lemma triple_authorizePlatformCaller {operation : PlatformOperation} :
    P.Triple call F (authorizePlatformCaller caller operation) fun _ => F :=
  (triple_lockedQuery hF).bind fun _ => Protocol.triple_require

lemma triple_lockAdministrators {tenantIds : List Uuid} :
    P.Triple call F (lockAdministrators tenantIds) fun _ => F := by
  induction tenantIds with
  | nil => exact Protocol.triple_pure fun _ _ h => h
  | cons tenantId tenantIds ih => exact (Protocol.triple_query hF).bind fun _ => ih

lemma triple_lockUser {mode : LockMode} {userId : Uuid} (hwrites : ∀ t db, F t db → t.writes = []) :
    P.Triple call F (Body.lockedRead mode (fun db => (db.lockUserIsActive userId).locks.map .row)
        fun db => .ok (db.lockUserIsActive userId).val : PlatformBody (Option Bool))
      fun found t db => F t db ∧ ∀ isActive, found = some isActive →
        (PlatformLock.row (.user userId), mode) ∈ t.held ∧
          ∃ row ∈ db.users, row.id = userId ∧ row.isActive = isActive := by
  refine Protocol.triple_lockedRead hF fun t db found _ hknown hheld hresult => ⟨hknown, ?_⟩
  rintro isActive rfl
  rw [hwrites t db hknown] at hheld hresult
  obtain ⟨hlock, hrow⟩ := lockUserIsActive_eq_some (Except.ok.inj hresult)
  exact ⟨hheld _ (List.mem_map.mpr ⟨_, hlock, rfl⟩), hrow⟩

lemma triple_guardDeactivation {now : Instant} {userId : Uuid} {ceiling : ℕ}
    (hwrites : ∀ t db, F t db → t.writes = [])
    (hactive : P.Steady fun t db => F t db ∧
      (PlatformLock.row (.user userId), LockMode.exclusive) ∈ t.held ∧ db.ActiveUser userId) :
    P.Triple call F (guardDeactivation now userId caller ceiling) fun _ t db => F t db ∧
      (PlatformLock.row (.user userId), LockMode.exclusive) ∈ t.held ∧ db.ActiveUser userId := by
  refine (Protocol.triple_query hF).bind fun _ => (Protocol.triple_query hF).bind fun _ => ?_
  refine (Protocol.triple_query hF).bind fun first => (Protocol.triple_query hF).bind fun order => ?_
  refine (triple_lockAdministrators hF).bind fun _ => (triple_lockedQuery hF).bind fun guard => ?_
  refine (triple_authorizePlatformCaller hF).bind fun _ => Protocol.triple_require.bind fun _ => ?_
  refine (triple_lockUser hF hwrites).bind fun found => ?_
  refine (Protocol.triple_check.weaken (fun _ _ _ h => h) ?_).bind fun _ =>
    (Protocol.triple_query hactive).bind fun second => Protocol.triple_require.bind fun _ =>
      Protocol.triple_pure fun _ _ h => h
  rintro _ t db - ⟨⟨hknown, hfound⟩, hcheck⟩
  rcases found with _ | _ | _
  · cases hcheck
  · cases hcheck
  · exact ⟨hknown, hfound true rfl⟩

end

end PlatformLogic

end SaasOs
