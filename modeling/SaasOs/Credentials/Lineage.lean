import SaasOs.Credentials.Runs

/-!
# The lineages of API keys

A rotation holds the row of the key that it replaces, and finds it live; so a key is rotated once,
and the keys that come from one key form a chain of which only the last one can be live.  The chain
keeps its tenant and its owner, and its expiry only moves forward.
-/

namespace SaasOs

open ReadCommitted

namespace PlatformTables

/-- The new key came from the previous one by a rotation. -/
def Rotated (db : PlatformTables) (previousId newId : Uuid) : Prop :=
  ∃ rotation ∈ db.keyRotations, rotation.previousKeyId = previousId ∧ rotation.newKeyId = newId

/-- The key belongs to the lineage: it is the first key, or comes from it by rotations. -/
abbrev Descends (db : PlatformTables) (first id : Uuid) : Prop :=
  Relation.ReflTransGen db.Rotated first id

namespace CredentialsValid

variable {db : PlatformTables} (h : db.CredentialsValid)

include h

lemma rotated_rightUnique : Relator.RightUnique db.Rotated := by
  rintro previousId newId newId' ⟨rotation, hrotation, hprevious, rfl⟩
    ⟨rotation', hrotation', hprevious', rfl⟩
  rw [h.rotations_previous.eq_of_key_eq hrotation hrotation' (hprevious.trans hprevious'.symm)]

lemma eq_of_descends_of_live {key : ApiKey} (hkey : key ∈ db.apiKeys) (hlive : key.revokedAt = none)
    {id : Uuid} (hdescends : db.Descends key.id id) : key.id = id := by
  rcases hdescends.cases_head with heq | ⟨next, ⟨rotation, hrotation, hid, -⟩, -⟩
  · exact heq
  · obtain ⟨-, -, previous, hprevious, -, hpreviousId, hrevoked, -⟩ := h.rotated rotation hrotation
    obtain rfl := h.api_keys_pk.eq_of_key_eq hprevious hkey (hpreviousId.trans hid)
    exact absurd hlive hrevoked

lemma lineage_oneLive {first : Uuid} {key key' : ApiKey} (hkey : key ∈ db.apiKeys)
    (hkey' : key' ∈ db.apiKeys) (hdescends : db.Descends first key.id)
    (hdescends' : db.Descends first key'.id) (hlive : key.revokedAt = none)
    (hlive' : key'.revokedAt = none) : key = key' := by
  have htotal := Relation.ReflTransGen.total_of_right_unique h.rotated_rightUnique hdescends
    hdescends'
  refine h.api_keys_pk.eq_of_key_eq hkey hkey' ?_
  rcases htotal with hbefore | hafter
  · exact h.eq_of_descends_of_live hkey hlive hbefore
  · exact (h.eq_of_descends_of_live hkey' hlive' hafter).symm

lemma replaces_of_descends {previous key : ApiKey} (hprevious : previous ∈ db.apiKeys)
    (hkey : key ∈ db.apiKeys) (hdescends : db.Descends previous.id key.id) :
    key.Replaces previous := by
  have hall : ∀ id, db.Descends previous.id id → ∀ key ∈ db.apiKeys, key.id = id →
      key.Replaces previous := by
    intro id hdescends
    induction hdescends with
    | refl =>
      intro key hkey hid
      rw [h.api_keys_pk.eq_of_key_eq hkey hprevious hid]
      exact .refl previous
    | tail hbefore hlast ih =>
      intro key hkey hid
      obtain ⟨rotation, hrotation, rfl, hnew⟩ := hlast
      obtain ⟨new, hnewKey, middle, hmiddle, hnewId, hmiddleId, -, hreplaces⟩ :=
        h.rotated rotation hrotation
      obtain rfl := h.api_keys_pk.eq_of_key_eq hkey hnewKey (hid.trans (hnew.symm.trans hnewId.symm))
      exact hreplaces.trans (ih middle hmiddle hmiddleId)
  exact hall key.id hdescends key hkey rfl

end CredentialsValid

end PlatformTables

variable {limit : ℕ} {call : CredentialCall} {held : Locks PlatformLock} {db : PlatformTables}
  {writes : List PlatformWrite}

lemma keyRotations_after (h : CredentialWrites call held db writes) :
    ∀ rotation ∈ (db.after writes).keyRotations, rotation ∈ db.keyRotations ∨
      ∃ previous ∈ db.apiKeys, previous.id = rotation.previousKeyId ∧ previous.revokedAt = none := by
  refine h.preserves (I := fun view => ∀ rotation ∈ view.keyRotations, rotation ∈ db.keyRotations ∨
    ∃ previous ∈ db.apiKeys, previous.id = rotation.previousKeyId ∧ previous.revokedAt = none)
    (fun _ hrotation => .inl hrotation) ?_
  intro view w hview hw rotation hrotation
  rcases keyRotations_write_cases view w with ⟨row, rfl⟩ | hsame
  · rcases List.mem_append.mp hrotation with hold | hnew
    · exact hview rotation hold
    · obtain rfl := List.mem_singleton.mp hnew
      exact .inr hw.2.2.2.2.2
  · rw [hsame] at hrotation
    exact hview rotation hrotation

namespace CredentialSystem

variable {s : CredentialSystem} {event : Event CredentialCall PlatformTables}
  {events : List (Event CredentialCall PlatformTables)} {id : Uuid}

lemma rotated_event (h : Sound limit s) (hallowed : s.Allowed event) (hrevoked : s.db.KeyRevoked id)
    {newId : Uuid} (hrotated : (step limit s event).db.Rotated id newId) :
    s.db.Rotated id newId := by
  obtain ⟨rotation, hrotation, hprevious, hnew⟩ := hrotated
  rcases db_event h hallowed with hsame | ⟨call, held, hguarantee⟩
  · rw [hsame.keyRotations] at hrotation
    exact ⟨rotation, hrotation, hprevious, hnew⟩
  · obtain ⟨writes, hwrites, hdb⟩ := hguarantee.justified
    rw [hdb] at hrotation
    rcases keyRotations_after hwrites rotation hrotation with hold | ⟨key, hkey, hid, hlive⟩
    · exact ⟨rotation, hold, hprevious, hnew⟩
    · exact absurd hlive (hrevoked.2 key hkey (hid.trans hprevious))

lemma keyRevoked_run (h : Sound limit s) (hallowed : Run.Along (step limit) Allowed s events)
    (hrevoked : s.db.KeyRevoked id) : (Run.run (step limit) s events).db.KeyRevoked id := by
  obtain ⟨⟨key, hkey, rfl⟩, hall⟩ := hrevoked
  exact keyRevoked_of_continue (sound_run h hallowed).inv.valid.api_keys_pk
    (continue_run h hallowed).2 hkey (hall key hkey rfl)

section

variable (h : Sound limit s) (hallowed : Run.Along (step limit) Allowed s events)

include h hallowed

lemma rotated_run (hrevoked : s.db.KeyRevoked id) {newId : Uuid}
    (hrotated : (Run.run (step limit) s events).db.Rotated id newId) : s.db.Rotated id newId := by
  induction events generalizing s with
  | nil => exact hrotated
  | cons event events ih =>
    have hnext : (step limit s event).db.KeyRevoked id :=
      @keyRevoked_run limit s [event] id h ⟨hallowed.1, trivial⟩ hrevoked
    exact rotated_event h hallowed.1 hrevoked
      (ih (sound_event h hallowed.1) hallowed.2 hnext hrotated)

lemma descends_run (hrevoked : ∀ other, s.db.Descends id other → s.db.KeyRevoked other)
    {last : Uuid} (hdescends : (Run.run (step limit) s events).db.Descends id last) :
    s.db.Descends id last := by
  induction hdescends with
  | refl => exact .refl
  | tail _ hlast ih => exact ih.tail (rotated_run h hallowed (hrevoked _ ih) hlast)

end

lemma liveKeyCount_event (h : Sound limit s) (hallowed : s.Allowed event) {userId : Uuid}
    (hcount : s.db.liveKeyCount userId ≤ limit) :
    (step limit s event).db.liveKeyCount userId ≤ limit := by
  rcases db_event h hallowed with hsame | ⟨call, held, hguarantee⟩
  · rw [liveKeyCount_of_apiKeys_eq hsame.apiKeys]
    exact hcount
  · rcases hguarantee.counted userId with hless | ⟨-, hlimit⟩
    · exact hless.trans hcount
    · exact hlimit

lemma liveKeyCount_run (h : Sound limit s) (hallowed : Run.Along (step limit) Allowed s events)
    {userId : Uuid} (hcount : s.db.liveKeyCount userId ≤ limit) :
    (Run.run (step limit) s events).db.liveKeyCount userId ≤ limit := by
  have hboth := Run.run_of_along (I := fun s : CredentialSystem =>
    Sound limit s ∧ s.db.liveKeyCount userId ≤ limit)
    (fun _ _ hkept hevent =>
      ⟨sound_event hkept.1 hevent, liveKeyCount_event hkept.1 hevent hkept.2⟩) ⟨h, hcount⟩ hallowed
  exact hboth.2

end CredentialSystem

/-- **The lineages of API keys and the limit.**  In every interleaving of the calls: in every
committed state a lineage has at most one live key, and a key has the tenant, the owner and no later
an expiry than the keys that it comes from; a revoked key stays revoked and is not rotated any more,
and a lineage of which every key is revoked gains no key; and a user with no more live keys than the
limit never has more. -/
theorem apiKeyLineage_kept (hinv : CredentialInvariant db)
    {events : List (Event CredentialCall PlatformTables)}
    (hallowed : Run.Along (CredentialSystem.step limit) CredentialSystem.Allowed
      (System.initial db) events) :
    Run.Always (CredentialSystem.step limit) (fun s =>
        (∀ first, ∀ key ∈ s.db.apiKeys, ∀ key' ∈ s.db.apiKeys, s.db.Descends first key.id →
          s.db.Descends first key'.id → key.revokedAt = none → key'.revokedAt = none →
            key = key') ∧
        ∀ previous ∈ s.db.apiKeys, ∀ key ∈ s.db.apiKeys, s.db.Descends previous.id key.id →
          key.Replaces previous)
      (System.initial db) events ∧
    (∀ before after, events = before ++ after →
      let s := Run.run (CredentialSystem.step limit) (System.initial db) before
      ∀ id, s.db.KeyRevoked id → Run.Always (CredentialSystem.step limit) (fun later =>
        later.db.KeyRevoked id ∧
        (∀ newId, later.db.Rotated id newId → s.db.Rotated id newId) ∧
        ((∀ other, s.db.Descends id other → s.db.KeyRevoked other) →
          ∀ other, later.db.Descends id other → s.db.Descends id other)) s after) ∧
    ∀ userId, db.liveKeyCount userId ≤ limit →
      Run.Always (CredentialSystem.step limit) (fun s => s.db.liveKeyCount userId ≤ limit)
        (System.initial db) events := by
  have hstart : CredentialSystem.Sound limit (System.initial db) := System.sound_initial hinv
  refine ⟨?_, ?_, ?_⟩
  · rintro before after rfl
    have hvalid :=
      (CredentialSystem.sound_run hstart (Run.along_append.mp hallowed).1).inv.valid
    exact ⟨fun _ _ hkey _ hkey' => hvalid.lineage_oneLive hkey hkey',
      fun _ hprevious _ hkey => hvalid.replaces_of_descends hprevious hkey⟩
  · rintro before after rfl s id hrevoked between rest rfl
    obtain ⟨hbefore, hafter⟩ := Run.along_append.mp hallowed
    have hsound := CredentialSystem.sound_run hstart hbefore
    have hbetween := (Run.along_append.mp hafter).1
    exact ⟨CredentialSystem.keyRevoked_run hsound hbetween hrevoked,
      fun _ => CredentialSystem.rotated_run hsound hbetween hrevoked,
      fun hall _ => CredentialSystem.descends_run hsound hbetween hall⟩
  · rintro userId hcount before after rfl
    exact CredentialSystem.liveKeyCount_run hstart (Run.along_append.mp hallowed).1 hcount

/-! ### Two rotations of one key -/

def oneKey : PlatformTables where
  tenants := [⟨7, "acme", .active, none⟩]
  users := [⟨1, true⟩]
  tenantMemberships := [⟨71, 7, 1, .active, 0⟩]
  apiKeys := [⟨51, 7, some 1, none, "ci", "hash", some 90, none⟩]

lemma credentialInvariant_oneKey : CredentialInvariant oneKey where
  valid :=
    { users_pk := by decide
      sessions_pk := by decide
      api_keys_pk := by decide
      rotations_new := by decide
      rotations_previous := by decide
      rotated := nofun }
  inactive := by
    rintro userId ⟨row, hrow, -, hinactive⟩
    have hactive : ∀ row ∈ oneKey.users, row.isActive = true := by decide
    rw [hactive row hrow] at hinactive
    cases hinactive

def twoRotations : List (Event CredentialCall PlatformTables) :=
  [.start 0 (.rotateApiKey 5 52 91 7 51 (.user 1) "first" (some 80)),
    .start 1 (.rotateApiKey 6 53 92 7 51 (.user 1) "second" none)] ++
    List.replicate 8 (.advance 0) ++ List.replicate 12 (.advance 1) ++
    List.replicate 8 (.advance 0) ++ List.replicate 12 (.advance 1)

/-- The second rotation is refused; the new key replaces the old one, and the limit of one key is
kept. -/
theorem apiKeyLineage_kept_twoRotations :
    ((Run.run (CredentialSystem.step 1) (System.initial oneKey) twoRotations).finished.map
        Outcome.result = [.ok (), .error (.revokedApiKey 51)] ∧
      (Run.run (CredentialSystem.step 1) (System.initial oneKey) twoRotations).db.keyRotations =
        [⟨52, 51⟩]) ∧
    (⟨52, 7, some 1, none, "ci", "first", some 80, none⟩ : ApiKey).Replaces
      ⟨51, 7, some 1, none, "ci", "hash", some 90, some 5⟩ ∧
    (Run.run (CredentialSystem.step 1) (System.initial oneKey) twoRotations).db.liveKeyCount 1
      ≤ 1 := by
  refine ⟨by decide +kernel, ?_⟩
  have hinternal : ∀ event ∈ twoRotations, event.isInternal = true := by decide
  obtain ⟨hlineages, -, hlimit⟩ := @apiKeyLineage_kept 1 _ credentialInvariant_oneKey _
    (Run.along_of_mem fun event hevent s =>
      CredentialSystem.allowed_of_isInternal (hinternal event hevent) s)
  have hkeys : (Run.run (CredentialSystem.step 1) (System.initial oneKey) twoRotations).db.apiKeys =
      [⟨51, 7, some 1, none, "ci", "hash", some 90, some 5⟩,
        ⟨52, 7, some 1, none, "ci", "first", some 80, none⟩] := by decide +kernel
  have hrotations : (⟨52, 51⟩ : KeyRotation) ∈
      (Run.run (CredentialSystem.step 1) (System.initial oneKey) twoRotations).db.keyRotations := by
    decide +kernel
  refine ⟨?_, hlimit 1 (by decide) twoRotations [] (List.append_nil _).symm⟩
  refine (hlineages twoRotations [] (List.append_nil _).symm).2 _ ?_ _ ?_
    (.single ⟨⟨52, 51⟩, hrotations, rfl, rfl⟩)
  · rw [hkeys]
    exact List.mem_cons_self
  · rw [hkeys]
    exact List.mem_cons_of_mem _ List.mem_cons_self

end SaasOs
