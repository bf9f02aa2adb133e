import SaasOs.AuditLog.Attribution
import SaasOs.Foundation.Exceptions

/-!
# The metadata of audit records

The writers of the audit log store a copy of the metadata they are given.  Whatever a key spells
`initiated_by`, `correlation` or `system_actor`, at any depth, has a value that was rebuilt through
the constructors, and the reserved keys come from the typed arguments only.
-/

namespace SaasOs.AuditLog

open PyJson

/-- Why a record is refused. -/
inductive AuditError
  | invalidActor (message : String)
  | reservedKey (key : Text)
  | notSerializable
  | tooLarge (size limit : ℕ)
  | forbiddenKey (key : Text)
  | otherArgument

inductive AttributionName
  | initiatedBy
  | correlation
  | systemActor
  deriving DecidableEq

def AttributionName.key : AttributionName → Text
  | .initiatedBy => text "initiated_by"
  | .correlation => text "correlation"
  | .systemActor => text "system_actor"

def systemAuthorityKey : Text := text "system_authority"

/-- `INITIATOR_UNAVAILABLE`. -/
def unavailable : Py := .leaf (.str (text "unavailable"))

def maxMetadataBytes : ℕ := 8192

def forbiddenKeys : List Text :=
  ["password", "passwd", "secret", "client_secret", "token", "access_token", "refresh_token",
    "session_token", "id_token", "bearer", "authorization", "auth", "cookie", "set-cookie",
    "api_key", "apikey", "credential", "credentials", "private_key", "signing_key"].map text

/-! ## Rebuilding attribution values -/

def plainStrings : List (Text × Py) → Option Fields
  | [] => some []
  | (k, .leaf (.str t)) :: rest => (plainStrings rest).map fun fields => (k, t) :: fields
  | _ :: _ => none

def rebuiltShape (message : String) (read : Fields → Option Shape) : Py → Except AuditError Py
  | .dict entries =>
    match (plainStrings entries).bind fun fields =>
        (read fields).filter fun shape => fields.isPerm shape.fields with
    | some shape => .ok shape.recorded
    | none => .error (.invalidActor message)
  | _ => .error (.invalidActor message)

def userInitiatorInMetadata : String :=
  "An initiated_by value in audit metadata must be \"unavailable\" or the recorded shape of a " ++
  "service-account or system initiator (Initiator.as_metadata()): new audit records do not store " ++
  "a user id as the initiator (owner decision D2)."

def invalidCorrelationInMetadata : String :=
  "A correlation value in audit metadata must be the recorded shape of a SystemCorrelation " ++
  "(SystemCorrelation.as_metadata()): only arq_job_id, outbox_event_id and request_id, none " ++
  "naming a user or other principal (owner decision D2)."

def invalidSystemActorInMetadata : String :=
  "A system_actor value in audit metadata must be the recorded shape of a SystemActor " ++
  "(SystemActor.as_metadata()): exactly kind and name (owner decision D2)."

def rebuiltInitiatorValue : Py → Except AuditError Py
  | .leaf .none => .ok (.leaf .none)
  | .leaf (.str t) =>
    if t = text "unavailable" then .ok unavailable
    else .error (.invalidActor userInitiatorInMetadata)
  | value => rebuiltShape userInitiatorInMetadata (fun fields =>
      ((initiatorFromMetadata fields).filter Initiator.isAudited).map Initiator.asMetadata) value

def rebuiltCorrelationValue : Py → Except AuditError Py
  | .leaf .none => .ok (.leaf .none)
  | value => rebuiltShape invalidCorrelationInMetadata (fun fields =>
      (correlationFromMetadata fields).map SystemCorrelation.asMetadata) value

def rebuiltSystemActorValue : Py → Except AuditError Py
  | .leaf .none => .ok (.leaf .none)
  | value => rebuiltShape invalidSystemActorInMetadata (fun fields =>
      (actorFromMetadata fields).map SystemActor.asMetadata) value

def rebuilders : AttributionName → Py → Except AuditError Py
  | .initiatedBy => rebuiltInitiatorValue
  | .correlation => rebuiltCorrelationValue
  | .systemActor => rebuiltSystemActorValue

/-- What may stand under an attribution key: nothing, the word that an initiator is unavailable, or
the shape of a value that can be made; a user is no initiator to be recorded. -/
inductive Recorded : AttributionName → Py → Prop
  | none (name : AttributionName) : Recorded name (.leaf .none)
  | unavailable : Recorded .initiatedBy unavailable
  | initiator (initiator : Initiator) (h : initiator.isAudited = true) :
      Recorded .initiatedBy initiator.asMetadata.recorded
  | correlation (correlation : SystemCorrelation) :
      Recorded .correlation correlation.asMetadata.recorded
  | systemActor (actor : SystemActor) : Recorded .systemActor actor.asMetadata.recorded

section Rebuilding

variable {name : AttributionName} {value rebuilt : Py} {message : String}
  {read : Fields → Option Shape} {shape : Shape} {k : Text}

lemma plainStrings_fields (fields : Fields) :
    plainStrings (fields.map fun x => (x.1, .leaf (.str x.2))) = some fields := by
  induction fields with
  | nil => rfl
  | cons x rest ih => simp only [List.map_cons, plainStrings, ih, Option.map_some]

lemma rebuiltShape_recorded (h : read shape.fields = some shape) :
    rebuiltShape message read shape.recorded = .ok shape.recorded := by
  have hperm : shape.fields.isPerm shape.fields = true := List.isPerm_iff.2 (List.Perm.refl _)
  simp [rebuiltShape, Shape.recorded, plainStrings_fields, h, Option.filter, hperm]

lemma rebuiltShape_eq_ok (h : rebuiltShape message read value = .ok rebuilt) :
    ∃ fields shape, read fields = some shape ∧ rebuilt = Shape.recorded shape := by
  cases value with
  | dict entries =>
    simp only [rebuiltShape] at h
    split at h
    · next shape hread =>
      obtain ⟨fields, -, hfields⟩ := Option.bind_eq_some_iff.1 hread
      exact ⟨fields, shape, (Option.filter_eq_some_iff.1 hfields).1, by simpa using h.symm⟩
    · cases h
  | leaf | list | tuple => cases h

theorem recorded_of_rebuilders (h : rebuilders name value = .ok rebuilt) :
    Recorded name rebuilt := by
  cases name with
  | initiatedBy =>
    simp only [rebuilders, rebuiltInitiatorValue] at h
    split at h
    · obtain rfl : Py.leaf .none = rebuilt := by simpa using h
      exact .none _
    · split at h
      · obtain rfl : unavailable = rebuilt := by simpa using h
        exact .unavailable
      · cases h
    · obtain ⟨fields, shape, hread, rfl⟩ := rebuiltShape_eq_ok h
      obtain ⟨initiator, hinitiator, rfl⟩ := Option.map_eq_some_iff.1 hread
      exact .initiator initiator (Option.filter_eq_some_iff.1 hinitiator).2
  | correlation =>
    simp only [rebuilders, rebuiltCorrelationValue] at h
    split at h
    · obtain rfl : Py.leaf .none = rebuilt := by simpa using h
      exact .none _
    · obtain ⟨fields, shape, hread, rfl⟩ := rebuiltShape_eq_ok h
      obtain ⟨correlation, -, rfl⟩ := Option.map_eq_some_iff.1 hread
      exact .correlation correlation
  | systemActor =>
    simp only [rebuilders, rebuiltSystemActorValue] at h
    split at h
    · obtain rfl : Py.leaf .none = rebuilt := by simpa using h
      exact .none _
    · obtain ⟨fields, shape, hread, rfl⟩ := rebuiltShape_eq_ok h
      obtain ⟨actor, -, rfl⟩ := Option.map_eq_some_iff.1 hread
      exact .systemActor actor

theorem Recorded.rebuilders (h : Recorded name value) : rebuilders name value = .ok value := by
  cases h with
  | none => cases name <;> rfl
  | unavailable =>
    simp only [AuditLog.rebuilders, rebuiltInitiatorValue, AuditLog.unavailable, if_true]
  | initiator initiator haudited =>
    obtain ⟨read, hread, htype, hshape⟩ := initiatorFromMetadata_asMetadata initiator
    have hread' : read.isAudited = true := by rwa [Initiator.isAudited, htype]
    exact rebuiltShape_recorded (by simp [hread, Option.filter, hread', hshape])
  | correlation correlation =>
    exact rebuiltShape_recorded (by simp [correlationFromMetadata_asMetadata])
  | systemActor actor => exact rebuiltShape_recorded (by simp [actorFromMetadata_asMetadata])

lemma Recorded.plain (h : Recorded name value) : value.Plain := by
  cases h with
  | none => exact .leaf (by simp)
  | unavailable =>
    refine .leaf fun t ht => ?_
    obtain rfl : text "unavailable" = t := by simpa using ht
    exact readBack_of_isAscii (by decide +kernel)
  | initiator initiator =>
    exact plain_recorded initiator.nodup_asMetadata initiator.isAscii_asMetadata
  | correlation correlation =>
    exact plain_recorded correlation.nodup_asMetadata correlation.isAscii_asMetadata
  | systemActor actor =>
    exact plain_recorded (by simp [SystemActor.asMetadata]) actor.isAscii_asMetadata

lemma exists_field_of_hasEntry (h : shape.recorded.HasEntry k value) :
    ∃ field : Field, k = field.key := by
  unfold Shape.recorded at h
  cases h with
  | entry hmem =>
    obtain ⟨x, hx, heq⟩ := List.mem_map.1 hmem
    obtain ⟨y, -, rfl⟩ := List.mem_map.1 hx
    exact ⟨y.1, (congrArg Prod.fst heq).symm⟩
  | inDict hmem hentry =>
    obtain ⟨x, -, rfl⟩ := List.mem_map.1 hmem
    cases hentry

lemma Recorded.exists_field (h : Recorded name rebuilt) (hentry : rebuilt.HasEntry k value) :
    ∃ field : Field, k = field.key := by
  cases h with
  | none | unavailable => cases hentry
  | initiator | correlation | systemActor => exact exists_field_of_hasEntry hentry

end Rebuilding

/-! ## Keys -/

section Keys

variable (unicode : Unicode)

def normalizedKey (key : Text) : Text :=
  (unicode.nfkd (unicode.casefold (unicode.nfkc key))).filter unicode.isalnum

def attributionKey (key : Text) : Option AttributionName :=
  [AttributionName.initiatedBy, .correlation, .systemActor].find? fun name =>
    normalizedKey unicode name.key = normalizedKey unicode key

def isForbidden (key : Text) : Bool := unicode.lower (unicode.strip key) ∈ forbiddenKeys

variable {unicode}

variable {key : Text}

lemma normalizedKey_of_isAscii (h : IsAscii key) :
    normalizedKey unicode key = (key.map lowerAscii).filter isAlnumAscii := by
  have hlower := isAscii_map_lowerAscii h
  rw [normalizedKey, unicode.nfkc_of_isAscii key h, unicode.casefold_of_isAscii key h,
    unicode.nfkd_of_isAscii _ hlower]
  exact List.filter_congr fun c hc => unicode.isalnum_of_lt c (hlower c hc)

variable (name : AttributionName)

lemma AttributionName.isAscii_key : IsAscii name.key := by
  cases name <;> decide +kernel

lemma attributionKey_of_isAscii (h : IsAscii key) : attributionKey unicode key =
    [AttributionName.initiatedBy, .correlation, .systemActor].find? fun name =>
      (name.key.map lowerAscii).filter isAlnumAscii = (key.map lowerAscii).filter isAlnumAscii := by
  have hname : ∀ name : AttributionName, normalizedKey unicode name.key =
      (name.key.map lowerAscii).filter isAlnumAscii :=
    fun name => normalizedKey_of_isAscii name.isAscii_key
  simp only [attributionKey, normalizedKey_of_isAscii h, hname]

lemma attributionKey_key : attributionKey unicode name.key = some name := by
  rw [attributionKey_of_isAscii name.isAscii_key]
  cases name <;> decide +kernel

lemma attributionKey_field (field : Field) : attributionKey unicode field.key = none := by
  rw [attributionKey_of_isAscii (isAscii_key field)]
  cases field <;> decide +kernel

lemma attributionKey_systemAuthorityKey : attributionKey unicode systemAuthorityKey = none := by
  rw [attributionKey_of_isAscii (by decide +kernel)]
  decide +kernel

end Keys

/-! ## Checks over a whole value -/

section Checks

variable (unicode : Unicode)

def checkDirect : List (Text × Py) → Except AuditError Unit
  | [] => .ok ()
  | (k, v) :: rest =>
    match attributionKey unicode k with
    | some name => do
      let _ ← rebuilders name v
      checkDirect rest
    | none => checkDirect rest

mutual

/-- `_check_attribution_values` of all names: what was put on the list last is looked at first. -/
def checkAttributionValues : Py → Except AuditError Unit
  | .leaf _ => .ok ()
  | .list items => checkItems items
  | .tuple items => checkItems items
  | .dict entries => do
    checkDirect unicode entries
    checkNested entries

def checkItems : List Py → Except AuditError Unit
  | [] => .ok ()
  | v :: rest => do
    checkItems rest
    checkAttributionValues v

def checkNested : List (Text × Py) → Except AuditError Unit
  | [] => .ok ()
  | (k, v) :: rest => do
    checkNested rest
    match attributionKey unicode k with
    | some _ => .ok ()
    | none => checkAttributionValues v

end

mutual

def checkKeys : Py → Except AuditError Unit
  | .leaf _ => .ok ()
  | .list items => checkKeysItems items
  | .tuple _ => .ok ()
  | .dict entries => checkKeysEntries entries

def checkKeysItems : List Py → Except AuditError Unit
  | [] => .ok ()
  | v :: rest => do
    checkKeys v
    checkKeysItems rest

def checkKeysEntries : List (Text × Py) → Except AuditError Unit
  | [] => .ok ()
  | (k, v) :: rest =>
    if isForbidden unicode k then .error (.forbiddenKey k)
    else do
      checkKeys v
      checkKeysEntries rest

end

mutual

def rebuildAttribution : Py → Except AuditError Py
  | .leaf l => .ok (.leaf l)
  | .list items => do
    let rebuilt ← rebuildItems items
    .ok (.list rebuilt)
  | .tuple items => .ok (.tuple items)
  | .dict entries => do
    let rebuilt ← rebuildEntries entries
    .ok (.dict rebuilt)

def rebuildItems : List Py → Except AuditError (List Py)
  | [] => .ok []
  | v :: rest => do
    let first ← rebuildAttribution v
    let others ← rebuildItems rest
    .ok (first :: others)

def rebuildEntries : List (Text × Py) → Except AuditError (List (Text × Py))
  | [] => .ok []
  | (k, v) :: rest => do
    let value ← match attributionKey unicode k with
      | some name => rebuilders name v
      | none => rebuildAttribution v
    let others ← rebuildEntries rest
    .ok ((k, value) :: others)

end

/-- Whatever reads as an attribution key holds a value that may be recorded. -/
def RecordedShape (v : Py) : Prop :=
  ∀ k w name, v.HasEntry k w → attributionKey unicode k = some name → Recorded name w

variable {unicode} {v w : Py} {items items' : List Py} {entries entries' : List (Text × Py)}

lemma checkDirect_eq_ok (h : ∀ x ∈ entries, ∀ name, attributionKey unicode x.1 = some name →
    Recorded name x.2) : checkDirect unicode entries = .ok () := by
  induction entries with
  | nil => rfl
  | cons x rest ih =>
    have hrest := ih fun y hy => h y (by simp [hy])
    unfold checkDirect
    split
    · next name hname =>
      rw [(h x (by simp) name hname).rebuilders]
      exact hrest
    · exact hrest

lemma checkItems_eq_ok (h : ∀ v ∈ items, checkAttributionValues unicode v = .ok ()) :
    checkItems unicode items = .ok () := by
  induction items with
  | nil => rfl
  | cons v rest ih =>
    rw [checkItems, ih fun w hw => h w (by simp [hw])]
    exact h v (by simp)

lemma checkNested_eq_ok (h : ∀ x ∈ entries, attributionKey unicode x.1 = none →
    checkAttributionValues unicode x.2 = .ok ()) : checkNested unicode entries = .ok () := by
  induction entries with
  | nil => rfl
  | cons x rest ih =>
    rw [checkNested, ih fun y hy => h y (by simp [hy])]
    change (match attributionKey unicode x.1 with
      | some _ => Except.ok ()
      | none => checkAttributionValues unicode x.2) = .ok ()
    split
    · rfl
    · next hkey => exact h x (by simp) hkey

theorem checkAttributionValues_eq_ok (h : RecordedShape unicode v) :
    checkAttributionValues unicode v = .ok () := by
  induction v using Py.ind with
  | leaf l => rfl
  | list items ih =>
    exact checkItems_eq_ok fun v hv => ih v hv fun k w name hentry => h k w name (.inList hv hentry)
  | tuple items ih =>
    exact checkItems_eq_ok fun v hv => ih v hv fun k w name hentry => h k w name (.inTuple hv hentry)
  | dict entries ih =>
    rw [checkAttributionValues,
      checkDirect_eq_ok fun x hx name hname => h x.1 x.2 name (.entry hx) hname]
    exact checkNested_eq_ok fun x hx _ => ih x hx fun k w name hentry =>
      h k w name (.inDict hx hentry)

lemma rebuildItems_self (h : ∀ v ∈ items, rebuildAttribution unicode v = .ok v) :
    rebuildItems unicode items = .ok items := by
  induction items with
  | nil => rfl
  | cons v rest ih =>
    rw [rebuildItems, h v (by simp), ih fun w hw => h w (by simp [hw])]
    rfl

def rebuildValue (unicode : Unicode) (k : Text) (v : Py) : Except AuditError Py :=
  match attributionKey unicode k with
  | some name => rebuilders name v
  | none => rebuildAttribution unicode v

lemma rebuildEntries_cons (k : Text) (v : Py) (rest : List (Text × Py)) :
    rebuildEntries unicode ((k, v) :: rest) =
      (rebuildValue unicode k v >>= fun value =>
        rebuildEntries unicode rest >>= fun others => .ok ((k, value) :: others)) := by
  rw [rebuildEntries, rebuildValue]
  cases attributionKey unicode k <;> rfl

lemma rebuildEntries_self (h : ∀ x ∈ entries, rebuildValue unicode x.1 x.2 = .ok x.2) :
    rebuildEntries unicode entries = .ok entries := by
  induction entries with
  | nil => rfl
  | cons x rest ih =>
    rw [rebuildEntries_cons, h x (by simp), ih fun y hy => h y (by simp [hy])]
    rfl

theorem rebuildAttribution_self (h : RecordedShape unicode v) :
    rebuildAttribution unicode v = .ok v := by
  induction v using Py.ind with
  | leaf l => rfl
  | list items ih =>
    rw [rebuildAttribution, rebuildItems_self fun v hv =>
      ih v hv fun k w name hentry => h k w name (.inList hv hentry)]
    rfl
  | tuple items ih => rfl
  | dict entries ih =>
    rw [rebuildAttribution, rebuildEntries_self fun x hx => ?_]
    · rfl
    · unfold rebuildValue
      split
      · next name hname => exact (h x.1 x.2 name (.entry hx) hname).rebuilders
      · exact ih x hx fun k w name hentry => h k w name (.inDict hx hentry)

lemma exists_of_rebuildItems (h : rebuildItems unicode items = .ok items') :
    ∀ w ∈ items', ∃ v ∈ items, rebuildAttribution unicode v = .ok w := by
  induction items generalizing items' with
  | nil =>
    obtain rfl : [] = items' := by simpa [rebuildItems] using h
    simp
  | cons v rest ih =>
    obtain ⟨first, hfirst, h⟩ := bind_eq_ok.1 h
    obtain ⟨others, hothers, h⟩ := bind_eq_ok.1 h
    obtain rfl : first :: others = items' := by simpa using h
    intro w hw
    rcases List.mem_cons.1 hw with rfl | hw
    · exact ⟨v, by simp, hfirst⟩
    · obtain ⟨u, hu, hrebuilt⟩ := ih hothers w hw
      exact ⟨u, by simp [hu], hrebuilt⟩

lemma exists_of_rebuildEntries (h : rebuildEntries unicode entries = .ok entries') :
    entries'.map Prod.fst = entries.map Prod.fst ∧
      ∀ y ∈ entries', ∃ x ∈ entries, x.1 = y.1 ∧ rebuildValue unicode x.1 x.2 = .ok y.2 := by
  induction entries generalizing entries' with
  | nil =>
    obtain rfl : [] = entries' := by simpa [rebuildEntries] using h
    simp
  | cons x rest ih =>
    rw [rebuildEntries_cons] at h
    obtain ⟨value, hvalue, h⟩ := bind_eq_ok.1 h
    obtain ⟨others, hothers, h⟩ := bind_eq_ok.1 h
    obtain rfl : (x.1, value) :: others = entries' := by simpa using h
    obtain ⟨hkeys, hmem⟩ := ih hothers
    refine ⟨by rw [List.map_cons, List.map_cons, hkeys], fun y hy => ?_⟩
    rcases List.mem_cons.1 hy with rfl | hy
    · exact ⟨x, by simp, rfl, hvalue⟩
    · obtain ⟨u, hu, hrebuilt⟩ := hmem y hy
      exact ⟨u, by simp [hu], hrebuilt⟩

/-- Rebuilding a value that JSON denotes gives another one, with attribution values that may be
recorded. -/
theorem rebuildAttribution_spec (hv : v.Plain) (h : rebuildAttribution unicode v = .ok w) :
    w.Plain ∧ RecordedShape unicode w := by
  induction hv generalizing w with
  | @leaf l hl =>
    obtain rfl : Py.leaf l = w := by simpa [rebuildAttribution] using h
    exact ⟨.leaf hl, fun k u name hentry => nomatch hentry⟩
  | @list items _ ih =>
    rw [rebuildAttribution] at h
    obtain ⟨items', hitems, h⟩ := bind_eq_ok.1 h
    obtain rfl : Py.list items' = w := by simpa using h
    have hmem := exists_of_rebuildItems hitems
    refine ⟨.list fun u hu => ?_, fun k u name hentry hname => ?_⟩
    · obtain ⟨x, hx, hrebuilt⟩ := hmem u hu
      exact (ih x hx hrebuilt).1
    · cases hentry with
      | inList hu hentry =>
        obtain ⟨x, hx, hrebuilt⟩ := hmem _ hu
        exact (ih x hx hrebuilt).2 k u name hentry hname
  | @dict entries hkeys hback _ ih =>
    rw [rebuildAttribution] at h
    obtain ⟨entries', hentries, h⟩ := bind_eq_ok.1 h
    obtain rfl : Py.dict entries' = w := by simpa using h
    obtain ⟨hsame, hmem⟩ := exists_of_rebuildEntries hentries
    have hvalue : ∀ y ∈ entries', readBack y.1 = y.1 ∧ y.2.Plain ∧ RecordedShape unicode y.2 ∧
        ∀ name, attributionKey unicode y.1 = some name → Recorded name y.2 := by
      intro y hy
      obtain ⟨x, hx, hkey, hrebuilt⟩ := hmem y hy
      rw [← hkey]
      refine ⟨hback x hx, ?_⟩
      unfold rebuildValue at hrebuilt
      split at hrebuilt
      · next name hname =>
        have hrecorded := recorded_of_rebuilders hrebuilt
        refine ⟨hrecorded.plain, fun k u name' hentry hname' => ?_, fun name' hname' => ?_⟩
        · obtain ⟨field, rfl⟩ := hrecorded.exists_field hentry
          rw [attributionKey_field] at hname'
          cases hname'
        · obtain rfl : name = name' := by rw [hname] at hname'; simpa using hname'
          exact hrecorded
      · next hname =>
        have hrest := ih x hx hrebuilt
        refine ⟨hrest.1, hrest.2, fun name' hname' => ?_⟩
        rw [hname] at hname'
        cases hname'
    refine ⟨.dict (hsame ▸ hkeys) (fun y hy => (hvalue y hy).1) fun y hy => (hvalue y hy).2.1,
      fun k u name hentry hname => ?_⟩
    cases hentry with
    | entry hy => exact (hvalue _ hy).2.2.2 name hname
    | inDict hy hentry => exact (hvalue _ hy).2.2.1 k u name hentry hname

lemma checkKeys_of_mem (h : checkKeysItems unicode items = .ok ()) :
    ∀ v ∈ items, checkKeys unicode v = .ok () := by
  induction items with
  | nil => simp
  | cons v rest ih =>
    obtain ⟨⟨⟩, hfirst, h⟩ := bind_eq_ok.1 h
    intro w hw
    rcases List.mem_cons.1 hw with rfl | hw
    · exact hfirst
    · exact ih h w hw

lemma checkKeysEntries_eq_ok (h : checkKeysEntries unicode entries = .ok ()) :
    ∀ x ∈ entries, isForbidden unicode x.1 = false ∧ checkKeys unicode x.2 = .ok () := by
  induction entries with
  | nil => simp
  | cons x rest ih =>
    unfold checkKeysEntries at h
    split at h
    · cases h
    · next hforbidden =>
      obtain ⟨⟨⟩, hfirst, h⟩ := bind_eq_ok.1 h
      intro y hy
      rcases List.mem_cons.1 hy with rfl | hy
      · exact ⟨by simpa using hforbidden, hfirst⟩
      · exact ih h y hy

theorem isForbidden_of_checkKeys (hv : v.Plain) (h : checkKeys unicode v = .ok ()) {k : Text}
    {w : Py} (hentry : v.HasEntry k w) : isForbidden unicode k = false := by
  induction hv generalizing k w with
  | leaf => cases hentry
  | list _ ih =>
    cases hentry with
    | inList hu hentry => exact ih _ hu (checkKeys_of_mem h _ hu) hentry
  | dict _ _ _ ih =>
    have hmem := checkKeysEntries_eq_ok h
    cases hentry with
    | entry hx => exact (hmem _ hx).1
    | inDict hx hentry => exact ih _ hx (hmem _ hx).2 hentry

end Checks

/-! ## What is stored -/

section Storing

variable (unicode : Unicode) (maxDepth : ℕ)

/-- `validate_metadata`, where the interpreter refuses what is nested deeper than `maxDepth`. -/
def validateMetadata (v : Py) : Except AuditError Unit :=
  match v.dumps with
  | none => .error .notSerializable
  | some written =>
    if maxDepth < v.depth then .error .notSerializable
    else if maxMetadataBytes < written.length then
      .error (.tooLarge written.length maxMetadataBytes)
    else checkKeys unicode v

/-- `trusted_metadata` of a dictionary. -/
def trustedMetadata (v : Py) : Except AuditError Py := do
  checkAttributionValues unicode v
  validateMetadata unicode maxDepth v
  let rebuilt ← rebuildAttribution unicode v.copy
  validateMetadata unicode maxDepth rebuilt
  .ok rebuilt

def refuseReservedMetadata (reserved : List Text) (metadata : List (Text × Py)) :
    Except AuditError Unit :=
  match metadata.find? fun x => normalizedKey unicode x.1 ∈ reserved.map (normalizedKey unicode) with
  | some x => .error (.reservedKey x.1)
  | none => .ok ()

def reservedMetadataKeys : List Text :=
  [AttributionName.systemActor.key, AttributionName.initiatedBy.key, AttributionName.correlation.key]

/-- `_require_attribution_types`: a user is no initiator to be recorded. -/
def requireAuditedInitiator (initiatedBy : Option Initiator) : Except AuditError Unit :=
  if initiatedBy.all Initiator.isAudited then .ok ()
  else .error (.invalidActor ("initiated_by must be a service-account or system initiator: new " ++
    "audit records do not store a user id as the initiator (owner decision D2). Pass None to " ++
    "record it as unavailable."))

def attribution (actor : Option SystemActor) (initiatedBy : Option Initiator)
    (correlation : Option SystemCorrelation) : List (Text × Py) :=
  (actor.map fun actor => (AttributionName.systemActor.key, actor.asMetadata.recorded)).toList ++
    [(AttributionName.initiatedBy.key,
        initiatedBy.elim unavailable fun initiator => initiator.asMetadata.recorded),
      (AttributionName.correlation.key,
        correlation.elim (Shape.recorded []) fun correlation => correlation.asMetadata.recorded)]

/-- The caller of `record_in_transaction`. -/
inductive AuditCaller
  | user
  | serviceAccount
  | system (authority : Text) (actor : Option SystemActor)

/-- The writers, with their typed arguments. -/
inductive AuditWriter
  | record
  | recordInTransaction (caller : AuditCaller) (initiatedBy : Option Initiator)
      (correlation : Option SystemCorrelation)
  | recordSystemAction (actor : SystemActor) (initiatedBy : Option Initiator)
      (correlation : Option SystemCorrelation)

def systemAttribution (actor : Option SystemActor) (initiatedBy : Option Initiator)
    (correlation : Option SystemCorrelation) : List (Text × Py) :=
  if actor.isSome || initiatedBy.isSome || correlation.isSome then
    attribution actor initiatedBy correlation
  else []

def AuditWriter.typed : AuditWriter → List (Text × Py)
  | .recordInTransaction (.system _ actor) initiatedBy correlation =>
    systemAttribution actor initiatedBy correlation
  | .recordSystemAction actor initiatedBy correlation =>
    attribution (some actor) initiatedBy correlation
  | _ => []

/-- `_validated_entry`: the metadata of the entry. -/
def validatedEntry (othersPass : Bool) : Option (List (Text × Py)) → Except AuditError (Option Py)
  | none => if othersPass then .ok none else .error .otherArgument
  | some metadata =>
    if othersPass then trustedMetadata unicode maxDepth (.dict metadata) >>= fun v => .ok (some v)
    else .error .otherArgument

def stored (othersPass : Bool) (metadata : Option (List (Text × Py))) :
    AuditWriter → Except AuditError (Option Py)
  | .record => do
    refuseReservedMetadata unicode reservedMetadataKeys (metadata.getD [])
    validatedEntry unicode maxDepth othersPass metadata
  | .recordInTransaction caller initiatedBy correlation => do
    refuseReservedMetadata unicode reservedMetadataKeys (metadata.getD [])
    requireAuditedInitiator initiatedBy
    match caller with
    | .system authority actor =>
      validatedEntry unicode maxDepth othersPass (some (update (update (metadata.getD [])
        (systemAttribution actor initiatedBy correlation))
        [(systemAuthorityKey, .leaf (.str authority))]))
    | .user | .serviceAccount =>
      if initiatedBy.isSome || correlation.isSome then
        .error (.invalidActor ("initiated_by and correlation apply only to a SystemCaller; a " ++
          "user or service-account caller is its own initiator."))
      else validatedEntry unicode maxDepth othersPass metadata
  | .recordSystemAction actor initiatedBy correlation => do
    refuseReservedMetadata unicode (systemAuthorityKey :: reservedMetadataKeys) (metadata.getD [])
    requireAuditedInitiator initiatedBy
    validatedEntry unicode maxDepth othersPass (some (update (metadata.getD [])
      (attribution (some actor) initiatedBy correlation)))

def rowsAfter (rows : List (Option Py)) : Except AuditError (Option Py) → List (Option Py)
  | .ok row => rows ++ [row]
  | .error _ => rows

/-- What a stored row is to be: its attribution values may be recorded; at the top they are those of
the typed arguments, each once and under its canonical key; no key is on the denylist, and the text
is bounded. -/
structure Gate (typed : List (Text × Py)) (row : Py) : Prop where
  recorded : RecordedShape unicode row
  canonical : ∀ x ∈ row.entries, ∀ name, attributionKey unicode x.1 = some name →
    x.1 = name.key ∧ x ∈ typed
  once : ∀ x ∈ row.entries, ∀ y ∈ row.entries, ∀ name, attributionKey unicode x.1 = some name →
    attributionKey unicode y.1 = some name → x = y
  allowed : ∀ k w, row.HasEntry k w → isForbidden unicode k = false
  bounded : ∃ written, row.dumps = some written ∧ written.length ≤ maxMetadataBytes

variable {unicode maxDepth} {v w row : Py} {othersPass : Bool} {metadata : Option (List (Text × Py))}
  {entries typed : List (Text × Py)} {writer : AuditWriter}

lemma validateMetadata_eq_ok (h : validateMetadata unicode maxDepth v = .ok ()) :
    (∃ written, v.dumps = some written ∧ written.length ≤ maxMetadataBytes) ∧
      checkKeys unicode v = .ok () := by
  unfold validateMetadata at h
  split at h
  · cases h
  · next written hwritten =>
    split at h
    · cases h
    · split at h
      · cases h
      · next hsize => exact ⟨⟨written, hwritten, Nat.le_of_not_lt hsize⟩, h⟩

lemma trustedMetadata_eq_ok (h : trustedMetadata unicode maxDepth v = .ok w) :
    rebuildAttribution unicode v.copy = .ok w ∧ validateMetadata unicode maxDepth w = .ok () := by
  obtain ⟨⟨⟩, -, h⟩ := bind_eq_ok.1 h
  obtain ⟨⟨⟩, -, h⟩ := bind_eq_ok.1 h
  obtain ⟨rebuilt, hrebuilt, h⟩ := bind_eq_ok.1 h
  obtain ⟨⟨⟩, hvalid, h⟩ := bind_eq_ok.1 h
  obtain rfl : rebuilt = w := by simpa using h
  exact ⟨hrebuilt, hvalid⟩

theorem trustedMetadata_self (hplain : v.Plain) (hshape : RecordedShape unicode v)
    (hvalid : validateMetadata unicode maxDepth v = .ok ()) :
    trustedMetadata unicode maxDepth v = .ok v := by
  rw [trustedMetadata, checkAttributionValues_eq_ok hshape, hvalid, Py.copy_of_plain hplain,
    rebuildAttribution_self hshape]
  change (validateMetadata unicode maxDepth v).bind (fun _ => Except.ok v) = .ok v
  rw [hvalid]
  rfl

theorem trustedMetadata_idempotent (h : trustedMetadata unicode maxDepth v = .ok w) :
    trustedMetadata unicode maxDepth w = .ok w := by
  obtain ⟨hrebuilt, hvalid⟩ := trustedMetadata_eq_ok h
  obtain ⟨hplain, hshape⟩ := rebuildAttribution_spec (Py.plain_copy v) hrebuilt
  exact trustedMetadata_self hplain hshape hvalid

lemma entries_of_trustedMetadata (h : trustedMetadata unicode maxDepth (.dict entries) = .ok w) :
    ∃ rebuilt, w = .dict rebuilt ∧ (rebuilt.map Prod.fst).Nodup ∧
      (∀ k, k ∈ rebuilt.map Prod.fst ↔ ∃ x ∈ entries, readBack x.1 = k) ∧
      ∀ y ∈ rebuilt, ∃ x ∈ entries, readBack x.1 = y.1 ∧
        rebuildValue unicode y.1 x.2.copy = .ok y.2 := by
  obtain ⟨hrebuilt, -⟩ := trustedMetadata_eq_ok h
  rw [Py.copy, Py.copyEntries_eq_map, rebuildAttribution] at hrebuilt
  obtain ⟨rebuilt, hentries, hw⟩ := bind_eq_ok.1 hrebuilt
  obtain rfl : Py.dict rebuilt = w := by simpa using hw
  obtain ⟨hsame, hmem⟩ := exists_of_rebuildEntries hentries
  refine ⟨rebuilt, rfl, ?_, fun k => ?_, fun y hy => ?_⟩
  · rw [hsame]
    exact nodup_update (by simp)
  · rw [hsame, mem_keys_update]
    simp
  · obtain ⟨z, hz, hkey, hvalue⟩ := hmem y hy
    rcases mem_of_mem_update hz with hz | hz
    · cases hz
    · obtain ⟨x, hx, rfl⟩ := List.mem_map.1 hz
      exact ⟨x, hx, hkey, hkey ▸ hvalue⟩

/-! ## The writers -/

lemma refuseReservedMetadata_eq_ok {reserved : List Text}
    (h : refuseReservedMetadata unicode reserved entries = .ok ()) :
    ∀ x ∈ entries, ∀ key ∈ reserved, normalizedKey unicode x.1 ≠ normalizedKey unicode key := by
  unfold refuseReservedMetadata at h
  split at h
  · cases h
  · next hnone =>
    intro x hx key hkey heq
    have := List.find?_eq_none.1 hnone x hx
    exact this (by simpa using ⟨key, hkey, heq.symm⟩)

lemma mem_reservedMetadataKeys (name : AttributionName) : name.key ∈ reservedMetadataKeys := by
  cases name <;> simp [reservedMetadataKeys]

variable {initiatedBy : Option Initiator}

lemma recorded_attribution {actor : Option SystemActor} {correlation : Option SystemCorrelation}
    (h : initiatedBy.all Initiator.isAudited = true) :
    ∀ x ∈ attribution actor initiatedBy correlation, ∃ name : AttributionName,
      x.1 = name.key ∧ Recorded name x.2 := by
  intro x hx
  simp only [attribution, List.mem_append, Option.mem_toList, Option.map_eq_some_iff, List.mem_cons,
    List.not_mem_nil, or_false] at hx
  rcases hx with ⟨actor, -, rfl⟩ | rfl | rfl
  · exact ⟨.systemActor, rfl, .systemActor actor⟩
  · refine ⟨.initiatedBy, rfl, ?_⟩
    cases initiatedBy with
    | none => exact .unavailable
    | some initiator => exact .initiator initiator (by simpa using h)
  · refine ⟨.correlation, rfl, ?_⟩
    cases correlation with
    | none => exact .correlation ⟨none, none, none, by simp, by simp⟩
    | some correlation => exact .correlation correlation

/-- What is known of the metadata that reaches the check: it holds the metadata of the caller, none
of whose keys is reserved, and what the typed arguments make. -/
structure Merged (unicode : Unicode) (metadata typed merged : List (Text × Py)) : Prop where
  free : ∀ x ∈ metadata, ∀ name : AttributionName,
    normalizedKey unicode x.1 ≠ normalizedKey unicode name.key
  shapes : ∀ x ∈ typed, ∃ name : AttributionName, x.1 = name.key ∧ Recorded name x.2
  mem : ∀ x ∈ merged, x ∈ metadata ∨ x ∈ typed ∨ x.1 = systemAuthorityKey
  kept : ∀ x ∈ metadata, ∃ y ∈ merged, y.1 = x.1

lemma requireAuditedInitiator_eq_ok (h : requireAuditedInitiator initiatedBy = .ok ()) :
    initiatedBy.all Initiator.isAudited = true := by
  unfold requireAuditedInitiator at h
  split at h
  · assumption
  · cases h

lemma validatedEntry_eq_ok
    (h : validatedEntry unicode maxDepth othersPass metadata = .ok (some row)) : ∃ merged,
    metadata = some merged ∧ trustedMetadata unicode maxDepth (.dict merged) = .ok row := by
  cases metadata with
  | none => cases othersPass <;> cases h
  | some merged =>
    cases othersPass with
    | false => cases h
    | true =>
      obtain ⟨v, hv, h⟩ := bind_eq_ok.1 h
      obtain rfl : v = row := by simpa using h
      exact ⟨merged, rfl, hv⟩

lemma exists_of_mem_keys {k : Text} (h : k ∈ entries.map Prod.fst) : ∃ y ∈ entries, y.1 = k :=
  List.mem_map.1 h

theorem merged_of_stored (h : stored unicode maxDepth othersPass metadata writer = .ok (some row)) :
    ∃ merged, Merged unicode (metadata.getD []) writer.typed merged ∧
      trustedMetadata unicode maxDepth (.dict merged) = .ok row := by
  cases writer with
  | record =>
    obtain ⟨⟨⟩, hreserved, h⟩ := bind_eq_ok.1 h
    obtain ⟨merged, rfl, htrusted⟩ := validatedEntry_eq_ok h
    exact ⟨merged, ⟨fun x hx name => refuseReservedMetadata_eq_ok hreserved x hx _
      (mem_reservedMetadataKeys name), by simp [AuditWriter.typed], fun x hx => .inl hx,
      fun x hx => ⟨x, hx, rfl⟩⟩, htrusted⟩
  | recordInTransaction caller initiatedBy correlation =>
    obtain ⟨⟨⟩, hreserved, h⟩ := bind_eq_ok.1 h
    obtain ⟨⟨⟩, haudited, h⟩ := bind_eq_ok.1 h
    have hfree : ∀ x ∈ metadata.getD [], ∀ name : AttributionName,
        normalizedKey unicode x.1 ≠ normalizedKey unicode name.key :=
      fun x hx name => refuseReservedMetadata_eq_ok hreserved x hx _ (mem_reservedMetadataKeys name)
    have hprincipal : ∀ {result : Except AuditError (Option Py)},
        (if (initiatedBy.isSome || correlation.isSome) = true then result
          else validatedEntry unicode maxDepth othersPass metadata) = .ok (some row) →
        (∀ r, result ≠ .ok r) → ∃ merged, Merged unicode (metadata.getD []) [] merged ∧
          trustedMetadata unicode maxDepth (.dict merged) = .ok row := by
      intro result h hresult
      split at h
      · exact absurd h (hresult _)
      · obtain ⟨merged, rfl, htrusted⟩ := validatedEntry_eq_ok h
        exact ⟨merged, ⟨hfree, by simp, fun x hx => .inl hx, fun x hx => ⟨x, hx, rfl⟩⟩, htrusted⟩
    cases caller with
    | user | serviceAccount => exact hprincipal h nofun
    | system authority actor =>
      obtain ⟨merged, hmerged, htrusted⟩ := validatedEntry_eq_ok h
      obtain rfl := Option.some.inj hmerged
      refine ⟨_, ⟨hfree, fun x hx => ?_, fun x hx => ?_, fun x hx => ?_⟩, htrusted⟩
      · change x ∈ systemAttribution actor initiatedBy correlation at hx
        unfold systemAttribution at hx
        split at hx
        · exact recorded_attribution (requireAuditedInitiator_eq_ok haudited) x hx
        · cases hx
      · rcases mem_of_mem_update hx with hx | hx
        · rcases mem_of_mem_update hx with hx | hx
          · exact .inl hx
          · exact .inr (.inl hx)
        · obtain rfl := List.mem_singleton.1 hx
          exact .inr (.inr rfl)
      · exact exists_of_mem_keys (mem_keys_update.2 (.inl (mem_keys_update.2
          (.inl (List.mem_map_of_mem hx)))))
  | recordSystemAction actor initiatedBy correlation =>
    obtain ⟨⟨⟩, hreserved, h⟩ := bind_eq_ok.1 h
    obtain ⟨⟨⟩, haudited, h⟩ := bind_eq_ok.1 h
    obtain ⟨merged, hmerged, htrusted⟩ := validatedEntry_eq_ok h
    obtain rfl := Option.some.inj hmerged
    refine ⟨_, ⟨fun x hx name => refuseReservedMetadata_eq_ok hreserved x hx _
      (List.mem_cons_of_mem _ (mem_reservedMetadataKeys name)),
      recorded_attribution (requireAuditedInitiator_eq_ok haudited), fun x hx => ?_, fun x hx => ?_⟩,
      htrusted⟩
    · rcases mem_of_mem_update hx with hx | hx
      · exact .inl hx
      · exact .inr (.inl hx)
    · exact exists_of_mem_keys (mem_keys_update.2 (.inl (List.mem_map_of_mem hx)))

/-! ## The gate -/

lemma Merged.key_ne {merged : List (Text × Py)} (h : Merged unicode entries typed merged)
    {x : Text × Py} (hx : x ∈ entries) (name : AttributionName) : readBack x.1 ≠ name.key := by
  intro hkey
  have hascii : IsAscii (readBack x.1) := hkey ▸ name.isAscii_key
  rw [eq_of_isAscii_readBack hascii] at hkey
  exact h.free x hx name (congrArg (normalizedKey unicode) hkey)

/-- A stored row is as it should be exactly when no key that the caller gave at the top comes back
as an attribution key. -/
theorem gate_iff (h : stored unicode maxDepth othersPass metadata writer = .ok (some row)) :
    Gate unicode writer.typed row ↔
      ∀ x ∈ metadata.getD [], attributionKey unicode (readBack x.1) = none := by
  obtain ⟨merged, hmerged, htrusted⟩ := merged_of_stored h
  obtain ⟨hrebuilt, hvalid⟩ := trustedMetadata_eq_ok htrusted
  obtain ⟨hplain, hshape⟩ := rebuildAttribution_spec (Py.plain_copy _) hrebuilt
  obtain ⟨hbounded, hkeys⟩ := validateMetadata_eq_ok hvalid
  obtain ⟨rebuilt, rfl, hnodup, hcame, hvalues⟩ := entries_of_trustedMetadata htrusted
  constructor
  · intro hgate x hx
    by_contra hne
    obtain ⟨name, hname⟩ := Option.ne_none_iff_exists'.1 hne
    obtain ⟨z, hz, hzkey⟩ := hmerged.kept x hx
    obtain ⟨y, hy, hykey⟩ := exists_of_mem_keys ((hcame (readBack x.1)).2 ⟨z, hz, by rw [hzkey]⟩)
    have hcanonical := (hgate.canonical y hy name (by rw [hykey]; exact hname)).1
    exact hmerged.key_ne hx name (hykey ▸ hcanonical)
  · intro hback
    have hcanonical : ∀ y ∈ rebuilt, ∀ name, attributionKey unicode y.1 = some name →
        y.1 = name.key ∧ y ∈ writer.typed := by
      intro y hy name hname
      obtain ⟨x, hx, hkey, hvalue⟩ := hvalues y hy
      rcases hmerged.mem x hx with hx | hx | hx
      · rw [← hkey, hback x hx] at hname
        cases hname
      · obtain ⟨name', hname', hrecorded⟩ := hmerged.shapes x hx
        have hkey' : y.1 = name'.key := by
          rw [← hkey, hname', readBack_of_isAscii name'.isAscii_key]
        obtain rfl : name' = name := by
          rw [hkey', attributionKey_key] at hname
          simpa using hname
        simp only [rebuildValue, hname, Py.copy_of_plain hrecorded.plain,
          hrecorded.rebuilders] at hvalue
        have hxy : x = y := Prod.ext (hname'.trans hkey'.symm) (by simpa using hvalue)
        exact ⟨hkey', hxy ▸ hx⟩
      · rw [← hkey, hx, readBack_of_isAscii (by decide +kernel),
          attributionKey_systemAuthorityKey] at hname
        cases hname
    refine ⟨hshape, hcanonical, fun x hx y hy name hxname hyname => ?_,
      fun k w hentry => isForbidden_of_checkKeys hplain hkeys hentry, hbounded⟩
    have hsame : x.1 = y.1 :=
      (hcanonical x hx name hxname).1.trans (hcanonical y hy name hyname).1.symm
    exact List.inj_on_of_nodup_map hnodup hx hy hsame

end Storing

/-- Whatever metadata and typed arguments a writer is given: the row that it stores is as it should
be, exactly when no key at the top of the metadata comes back from JSON as an attribution key. -/
theorem audit_gate (unicode : Unicode) (maxDepth : ℕ) :
    (∀ othersPass metadata writer row,
      stored unicode maxDepth othersPass metadata writer = .ok (some row) →
      (Gate unicode writer.typed row ↔
        ∀ x ∈ metadata.getD [], attributionKey unicode (readBack x.1) = none)) ∧
    (∀ v w, trustedMetadata unicode maxDepth v = .ok w →
      trustedMetadata unicode maxDepth w = .ok w) ∧
    (∀ v : Py, v.Plain → RecordedShape unicode v → validateMetadata unicode maxDepth v = .ok () →
      trustedMetadata unicode maxDepth v = .ok v) ∧
    ∀ othersPass metadata writer rows error,
      stored unicode maxDepth othersPass metadata writer = .error error →
      rowsAfter rows (stored unicode maxDepth othersPass metadata writer) = rows := by
  refine ⟨fun othersPass metadata writer row h => gate_iff h, fun v w => trustedMetadata_idempotent,
    fun v => trustedMetadata_self, fun othersPass metadata writer rows error h => ?_⟩
  rw [h]
  rfl

/-! ## A forged key -/

def boldUnicode : Unicode where
  nfkc t := t.map fun c => if 0x1D41A ≤ c ∧ c ≤ 0x1D433 then c - 0x1D41A + 97 else c
  casefold t := t.map lowerAscii
  nfkd t := t
  isalnum := isAlnumAscii
  strip t := t
  lower t := t.map lowerAscii
  nfkc_of_isAscii t h := by
    refine (List.map_congr_left fun c hc => ?_).trans (List.map_id t)
    have := h c hc
    rw [if_neg (by omega), id]
  casefold_of_isAscii _ _ := rfl
  nfkd_of_isAscii _ _ := rfl
  isalnum_of_lt _ _ := rfl

def digestSender : SystemActor := ⟨.workerJob, text "digest", by decide +kernel⟩

/-- `initiated_by` with a bold first letter, which is given by its two surrogates. -/
def forgedKey : Text := 0xD835 :: 0xDC22 :: text "nitiated_by"

def forgedMetadata : List (Text × Py) :=
  [(forgedKey, (Initiator.serviceAccount ⟨7, by norm_num⟩).asMetadata.recorded)]

def storedKeys (result : Except AuditError (Option Py)) : List Text :=
  match result with
  | .ok (some row) => row.entries.map Prod.fst
  | _ => []

/-- The writer of system actions stores an initiator that the metadata names, beside the one that it
was given. -/
theorem forged_attribution : ∃ row,
    stored boldUnicode 100 true (some forgedMetadata) (.recordSystemAction digestSender none none) =
      .ok (some row) ∧
    ¬Gate boldUnicode (AuditWriter.recordSystemAction digestSender none none).typed row := by
  have hkeys : ∃ key ∈ storedKeys (stored boldUnicode 100 true (some forgedMetadata)
      (.recordSystemAction digestSender none none)),
      attributionKey boldUnicode key = some .initiatedBy ∧
        key ≠ AttributionName.initiatedBy.key := by
    decide +kernel
  obtain ⟨key, hkey, hname, hne⟩ := hkeys
  unfold storedKeys at hkey
  split at hkey
  · next row hrow =>
    obtain ⟨x, hx, rfl⟩ := List.mem_map.1 hkey
    exact ⟨row, hrow, fun hgate => hne (hgate.canonical x hx .initiatedBy hname).1⟩
  · cases hkey

/-- Metadata that nests an initiator is stored as it should be. -/
theorem audit_gate_nested : ∃ row,
    stored boldUnicode 100 true (some [(text "cause", .dict forgedMetadata)]) .record =
      .ok (some row) ∧
    Gate boldUnicode [] row := by
  have hkeys : storedKeys (stored boldUnicode 100 true (some [(text "cause", .dict forgedMetadata)])
      .record) ≠ [] := by
    decide +kernel
  unfold storedKeys at hkeys
  split at hkeys
  · next row hrow =>
    refine ⟨row, hrow, ((audit_gate boldUnicode 100).1 true _ .record row hrow).2 ?_⟩
    decide +kernel
  · cases hkeys rfl

end SaasOs.AuditLog
