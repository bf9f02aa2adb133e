import SaasOs.Backup.Pipeline
import SaasOs.Foundation.PyString

/-!
# Restoring an encrypted backup

The ciphertext is decrypted beside itself, the backup that the metadata file names is checked, the
target database is created, and the archive is restored into it.  The databases that were there are
not changed.  What is restored is the decrypted archive exactly if the metadata names the decrypted
file, or a file with the same bytes.
-/

namespace SaasOs.Backup

/-- How a tool ends: an exception, as for a timeout, with or without the effect, another exit code than
0, or success. -/
inductive ToolEnd
  | raises (applied : Bool)
  | fails
  | succeeds

/-- How `age` ends: an exception, another exit code than 0, or success with what it wrote. -/
inductive AgeEnd
  | raises
  | fails
  | writes (plain : Bytes)

/-- The programs that are run. -/
structure Tools where
  hasAge : Bool
  age : String → Bytes → AgeEnd
  createDatabase : ToolEnd
  pgRestore : Bytes → ToolEnd

/-- The databases by name: the archives that were restored into them. -/
abbrev Databases := String → Option (List Bytes)

/-- A call of `run_production_restore`; `user` is the one of the configured URL. -/
structure RestoreRun where
  container : String
  user : String
  metadataPath : Path
  encryptedPath : Path
  identity : Option String
  targetDatabase : String

/-- What a restore raises; `other` is none of the four errors. -/
inductive RestoreFault
  | backupError
  | restoreError
  | encryptionError
  | pipelineError
  | other
  deriving DecidableEq

/-- `path.with_suffix("")`, `none` where it raises. -/
def withoutSuffix (path : Path) : Option Path :=
  if path.name = "" then none
  else
    match PyString.rfind "." path.name with
    | none => some path
    | some i =>
      if 0 < i ∧ i + 1 < path.name.length then some ⟨path.directory, PyString.take i path.name⟩
      else some path

/-- The text without the line break at its end, which `$` passes over. -/
def withoutFinalBreak (name : List Char) : List Char :=
  if name.getLast? = some '\n' then name.dropLast else name

/-- A match of `_IDENTIFIER_RE`. -/
def isIdentifier (name : String) : Bool :=
  match withoutFinalBreak name.toList with
  | [] => false
  | c :: rest => (c.isAlpha || c == '_') && rest.length ≤ 62 &&
    rest.all fun c => c.isAlphanum || c == '_'

/-- A match of `_CONTAINER_NAME_RE`. -/
def isContainerName (name : String) : Bool :=
  match withoutFinalBreak name.toList with
  | [] => false
  | c :: rest => c.isAlphanum && rest.length ≤ 127 &&
    rest.all fun c => c.isAlphanum || c == '_' || c == '.' || c == '-'

def databaseName (name : String) : String := PyString.take 63 name

section Restore

variable (library : Library) (tools : Tools)

/-- `decrypt_backup_artifact`, to the path of the ciphertext without its suffix: the path and the bytes
that are written. -/
def decryptArtifact (files : List File) (run : RestoreRun) : Except RestoreFault (Path × Bytes) :=
  match run.identity with
  | none => .error .pipelineError
  | some identity =>
    if identity = "" then .error .pipelineError
    else
      match withoutSuffix run.encryptedPath with
      | none => .error .other
      | some plaintextPath =>
        if tools.hasAge = false then .error .encryptionError
        else if "AGE-SECRET-KEY-1".toList.isPrefixOf identity.toList = false then
          .error .encryptionError
        else
          match content files run.encryptedPath with
          | none => .error .encryptionError
          | some ciphertext =>
            if PyString.isAscii identity = false then .error .other
            else
              match tools.age identity ciphertext with
              | .raises => .error .other
              | .fails => .error .encryptionError
              | .writes plain =>
                if plain = [] then .error .encryptionError else .ok (plaintextPath, plain)

/-- The checks of `restore_backup`: the metadata, and the archive that it names. -/
def checkRestore (files : List File) (run : RestoreRun) :
    Except RestoreFault (BackupMetadata × Bytes) :=
  if isContainerName run.container = false then .error .other
  else
    match verifyBackupChecksum library files run.metadataPath with
    | .error .backup => .error .backupError
    | .error .checksumMismatch => .error .restoreError
    | .error .other => .error .other
    | .ok metadata =>
      if isIdentifier run.targetDatabase = false then .error .other
      else if isIdentifier run.user = false then .error .other
      else
        match content files metadata.artifactPath with
        | none => .error .other
        | some archive => .ok (metadata, archive)

/-- `_create_database`: `psql` fails if the database is there. -/
def createDatabase (databases : Databases) (name : String) : ToolEnd :=
  if (databases name).isSome then
    match tools.createDatabase with
    | .raises _ => .raises false
    | _ => .fails
  else tools.createDatabase

/-- How a restore ends: what was fed to `pg_restore` by the metadata, or the error, and whether the
target was created before. -/
structure RestoreEnd where
  result : Except RestoreFault (BackupMetadata × Bytes)
  created : Bool
  databases : Databases

def setDatabase (databases : Databases) (name : String) (restored : List Bytes) : Databases :=
  fun each => if each = name then some restored else databases each

/-- `pg_restore` into a database that was created. -/
def restoreInto (databases : Databases) (name : String) (metadata : BackupMetadata)
    (archive : Bytes) : RestoreEnd :=
  match tools.pgRestore archive with
  | .raises applied =>
    ⟨.error .other, true, setDatabase databases name (if applied then [archive] else [])⟩
  | .fails => ⟨.error .restoreError, true, setDatabase databases name []⟩
  | .succeeds => ⟨.ok (metadata, archive), true, setDatabase databases name [archive]⟩

def restoreBackup (files : List File) (databases : Databases) (run : RestoreRun) : RestoreEnd :=
  match checkRestore library files run with
  | .error fault => ⟨.error fault, false, databases⟩
  | .ok (metadata, archive) =>
    let name := databaseName run.targetDatabase
    match createDatabase tools databases name with
    | .raises applied =>
      ⟨.error .other, applied, if applied then setDatabase databases name [] else databases⟩
    | .fails => ⟨.error .restoreError, false, databases⟩
    | .succeeds => restoreInto tools databases name metadata archive

/-- `run_production_restore` of an encrypted artifact. -/
def runProductionRestore (files : List File) (databases : Databases) (run : RestoreRun) :
    RestoreEnd :=
  match decryptArtifact tools files run with
  | .error fault => ⟨.error fault, false, databases⟩
  | .ok (plaintextPath, plain) =>
    restoreBackup library tools (write files plaintextPath plain) databases run

/-! ## What is promised -/

/-- What is fed to `pg_restore` is the decryption, and the metadata file records its digest and its
size. -/
def RestoresDecrypted (files : List File) (databases : Databases) (run : RestoreRun) : Prop :=
  ∀ metadata archive, (runProductionRestore library tools files databases run).result =
      .ok (metadata, archive) →
    ∃ plaintextPath, decryptArtifact tools files run = .ok (plaintextPath, archive) ∧
      ∃ bytes members, content (write files plaintextPath archive) run.metadataPath = some bytes ∧
        library.decode bytes = .object members ∧
          members.lookup "sha256" = some (.text (library.sha256 archive)) ∧
            members.lookup "size_bytes" = some (.number archive.length)

/-- Every check passes and every program succeeds, but the metadata names another file than the
decrypted one, with other bytes. -/
def IsMisdirected (files : List File) (databases : Databases) (run : RestoreRun) : Prop :=
  ∃ plaintextPath plain metadata archive, decryptArtifact tools files run = .ok (plaintextPath, plain) ∧
    checkRestore library (write files plaintextPath plain) run = .ok (metadata, archive) ∧
      databases (databaseName run.targetDatabase) = none ∧ tools.createDatabase = .succeeds ∧
        tools.pgRestore archive = .succeeds ∧ metadata.artifactPath ≠ plaintextPath ∧
          content files metadata.artifactPath ≠ some plain

/-- A restore that fails before it has created a database fails with an error of its own. -/
def ReportsFailure (files : List File) (databases : Databases) (run : RestoreRun) : Prop :=
  ∀ fault, (runProductionRestore library tools files databases run).result = .error fault →
    (runProductionRestore library tools files databases run).created = false → fault ≠ .other

/-- Decrypting raises an error that is not handled: the path has no name, the identity is not ASCII, or
`age` does not end. -/
def DecryptRaises (files : List File) (run : RestoreRun) : Prop :=
  ∃ identity, run.identity = some identity ∧ identity ≠ "" ∧
    (withoutSuffix run.encryptedPath = none ∨
      (withoutSuffix run.encryptedPath).isSome = true ∧ tools.hasAge = true ∧
        "AGE-SECRET-KEY-1".toList.isPrefixOf identity.toList = true ∧
          ∃ ciphertext, content files run.encryptedPath = some ciphertext ∧
            (PyString.isAscii identity = false ∨ tools.age identity ciphertext = .raises))

/-- An error that is none of the four is raised before the target is created: by decrypting, for a name
that is not valid, for a metadata file that is read as something else than an object with a path, or
by `psql`. -/
def RaisesOther (files : List File) (databases : Databases) (run : RestoreRun) : Prop :=
  DecryptRaises tools files run ∨
    ∃ plaintextPath plain, decryptArtifact tools files run = .ok (plaintextPath, plain) ∧
      (isContainerName run.container = false ∨
        verifyBackupChecksum library (write files plaintextPath plain) run.metadataPath =
          .error .other ∨
        ∃ metadata, verifyBackupChecksum library (write files plaintextPath plain)
            run.metadataPath = .ok metadata ∧
          (isIdentifier run.targetDatabase = false ∨ isIdentifier run.user = false ∨
            createDatabase tools databases (databaseName run.targetDatabase) = .raises false))

end Restore

variable {library : Library} {tools : Tools} {files : List File} {databases : Databases}
  {run : RestoreRun} {metadata : BackupMetadata} {plain archive : Bytes} {path path' : Path}

/-! ## The files -/

lemma content_write_self : content (write files path plain) path = some plain := by
  unfold content write unlink
  rw [List.find?_append]
  have hnone : (files.filter fun file => file.path ≠ path).find? (fun file => file.path = path) =
      none := by
    refine List.find?_eq_none.mpr fun file hfile => ?_
    simpa using (List.mem_filter.mp hfile).2
  rw [hnone]
  simp

lemma recorded_of_verify (h : verifyBackupChecksum library files path = .ok metadata) :
    ∃ bytes members artifact, content files path = some bytes ∧
      library.decode bytes = .object members ∧
        content files metadata.artifactPath = some artifact ∧
          members.lookup "sha256" = some (.text (library.sha256 artifact)) ∧
            members.lookup "size_bytes" = some (.number artifact.length) := by
  have hfield : ∀ {members : List (String × JsonValue)} {name : String} {value : JsonValue},
      field members name = .ok value → members.lookup name = some value := by
    intro members name value hvalue
    unfold field at hvalue
    split at hvalue
    · cases hvalue
    next found hlookup =>
      cases hvalue
      exact hlookup
  obtain ⟨-, bytes, members, artifact, hbytes, hdecoded, hcontent, hsha, hsize, -⟩ :=
    verifyBackupChecksum_ok h
  exact ⟨bytes, members, artifact, hbytes, hdecoded, hcontent, hfield hsha, hfield hsize⟩

/-! ## The checks -/

lemma checkRestore_ok_iff :
    checkRestore library files run = .ok (metadata, archive) ↔
      isContainerName run.container = true ∧
        verifyBackupChecksum library files run.metadataPath = .ok metadata ∧
          isIdentifier run.targetDatabase = true ∧ isIdentifier run.user = true ∧
            content files metadata.artifactPath = some archive := by
  unfold checkRestore
  cases hcontainer : isContainerName run.container with
  | false => simp
  | true =>
    simp only [Bool.true_eq_false, if_false, true_and]
    cases hverify : verifyBackupChecksum library files run.metadataPath with
    | error error => cases error <;> simp
    | ok found =>
      cases htarget : isIdentifier run.targetDatabase <;> cases huser : isIdentifier run.user <;>
        cases hcontent : content files found.artifactPath <;> simp <;> grind

lemma checkRestore_other_iff :
    checkRestore library files run = .error .other ↔ isContainerName run.container = false ∨
      verifyBackupChecksum library files run.metadataPath = .error .other ∨
        ∃ metadata, verifyBackupChecksum library files run.metadataPath = .ok metadata ∧
          (isIdentifier run.targetDatabase = false ∨ isIdentifier run.user = false) := by
  unfold checkRestore
  cases hcontainer : isContainerName run.container with
  | false => simp
  | true =>
    simp only [Bool.true_eq_false, if_false, false_or]
    cases hverify : verifyBackupChecksum library files run.metadataPath with
    | error error => cases error <;> simp
    | ok found =>
      obtain ⟨bytes, members, artifact, -, -, hcontent, -⟩ := recorded_of_verify hverify
      cases htarget : isIdentifier run.targetDatabase <;> cases huser : isIdentifier run.user <;>
        simp [hcontent]

lemma decryptArtifact_other_iff :
    decryptArtifact tools files run = .error .other ↔ DecryptRaises tools files run := by
  unfold decryptArtifact DecryptRaises
  cases hidentity : run.identity with
  | none => simp
  | some identity =>
    simp only [Option.some.injEq, exists_eq_left']
    by_cases hempty : identity = ""
    · simp [hempty]
    · rw [if_neg hempty]
      cases hsuffix : withoutSuffix run.encryptedPath with
      | none => simp [hempty]
      | some plaintextPath =>
        dsimp only
        cases hage : tools.hasAge with
        | false => simp
        | true =>
          simp only [Bool.true_eq_false, if_false]
          cases hkey : "AGE-SECRET-KEY-1".toList.isPrefixOf identity.toList with
          | false => simp
          | true =>
            simp only [Bool.true_eq_false, if_false]
            cases hcipher : content files run.encryptedPath with
            | none => simp
            | some ciphertext =>
              dsimp only
              cases hascii : PyString.isAscii identity with
              | false => simp [hempty]
              | true =>
                simp only [Bool.true_eq_false, if_false]
                cases hend : tools.age identity ciphertext with
                | raises => simp [hempty, hend]
                | fails => simp [hend]
                | writes plain => by_cases hplain : plain = [] <;> simp [hend, hplain]

lemma createDatabase_succeeds_iff {name : String} :
    createDatabase tools databases name = .succeeds ↔
      databases name = none ∧ tools.createDatabase = .succeeds := by
  unfold createDatabase
  cases hdatabase : databases name with
  | none => simp
  | some restored => cases tools.createDatabase <;> simp

lemma createDatabase_of_isSome {name : String} (h : (databases name).isSome = true) :
    createDatabase tools databases name = .fails ∨
      createDatabase tools databases name = .raises false := by
  unfold createDatabase
  rw [if_pos h]
  cases tools.createDatabase <;> simp

lemma raisesOther_iff_of_decrypted :
    (isContainerName run.container = false ∨
      verifyBackupChecksum library files run.metadataPath = .error .other ∨
      ∃ metadata, verifyBackupChecksum library files run.metadataPath = .ok metadata ∧
        (isIdentifier run.targetDatabase = false ∨ isIdentifier run.user = false ∨
          createDatabase tools databases (databaseName run.targetDatabase) = .raises false)) ↔
    checkRestore library files run = .error .other ∨
      ∃ checked, checkRestore library files run = .ok checked ∧
        createDatabase tools databases (databaseName run.targetDatabase) = .raises false := by
  rw [checkRestore_other_iff]
  constructor
  · rintro (h | h | ⟨metadata, hverify, h | h | h⟩)
    · exact .inl (.inl h)
    · exact .inl (.inr (.inl h))
    · exact .inl (.inr (.inr ⟨metadata, hverify, .inl h⟩))
    · exact .inl (.inr (.inr ⟨metadata, hverify, .inr h⟩))
    · cases hcontainer : isContainerName run.container with
      | false => exact .inl (.inl rfl)
      | true =>
        cases htarget : isIdentifier run.targetDatabase with
        | false => exact .inl (.inr (.inr ⟨metadata, hverify, .inl rfl⟩))
        | true =>
          cases huser : isIdentifier run.user with
          | false => exact .inl (.inr (.inr ⟨metadata, hverify, .inr rfl⟩))
          | true =>
            obtain ⟨bytes, members, artifact, -, -, hcontent, -⟩ := recorded_of_verify hverify
            exact .inr ⟨(metadata, artifact), checkRestore_ok_iff.mpr
              ⟨hcontainer, hverify, htarget, huser, hcontent⟩, h⟩
  · rintro ((h | h | ⟨metadata, hverify, h | h⟩) | ⟨⟨metadata, archive⟩, hcheck, h⟩)
    · exact .inl h
    · exact .inr (.inl h)
    · exact .inr (.inr ⟨metadata, hverify, .inl h⟩)
    · exact .inr (.inr ⟨metadata, hverify, .inr (.inl h)⟩)
    · exact .inr (.inr ⟨metadata, (checkRestore_ok_iff.mp hcheck).2.1, .inr (.inr h)⟩)

lemma exists_ok_iff {P : Path → Bytes → Prop} :
    (∃ path' bytes, (Except.ok (path, plain) : Except RestoreFault (Path × Bytes)) =
      .ok (path', bytes) ∧ P path' bytes) ↔ P path plain := by
  constructor
  · rintro ⟨path', bytes, heq, hP⟩
    cases heq
    exact hP
  · exact fun hP => ⟨path, plain, rfl, hP⟩

/-! ## The whole restore -/

lemma runProductionRestore_ok_iff :
    (runProductionRestore library tools files databases run).result = .ok (metadata, archive) ↔
      ∃ plaintextPath plain, decryptArtifact tools files run = .ok (plaintextPath, plain) ∧
        checkRestore library (write files plaintextPath plain) run = .ok (metadata, archive) ∧
          createDatabase tools databases (databaseName run.targetDatabase) = .succeeds ∧
            tools.pgRestore archive = .succeeds := by
  unfold runProductionRestore
  cases hdecrypt : decryptArtifact tools files run with
  | error fault => simp
  | ok decrypted =>
    obtain ⟨plaintextPath, plain⟩ := decrypted
    rw [exists_ok_iff]
    dsimp only
    unfold restoreBackup
    cases hcheck : checkRestore library (write files plaintextPath plain) run with
    | error fault => simp
    | ok checked =>
      obtain ⟨found, archive'⟩ := checked
      dsimp only
      cases hcreate : createDatabase tools databases (databaseName run.targetDatabase) with
      | raises applied => simp
      | fails => simp
      | succeeds =>
        unfold restoreInto
        cases hrestore : tools.pgRestore archive' <;> simp <;> grind

theorem databases_runProductionRestore {name : String} {restored : List Bytes}
    (h : databases name = some restored) :
    (runProductionRestore library tools files databases run).databases name = some restored := by
  unfold runProductionRestore
  split
  · exact h
  unfold restoreBackup
  split
  · exact h
  dsimp only
  by_cases hname : name = databaseName run.targetDatabase
  · have hsome : (databases (databaseName run.targetDatabase)).isSome = true := by
      rw [← hname, h]
      rfl
    have hcases : createDatabase tools databases (databaseName run.targetDatabase) = .fails ∨
        createDatabase tools databases (databaseName run.targetDatabase) = .raises false :=
      createDatabase_of_isSome hsome
    rcases hcases with hcreate | hcreate <;> rw [hcreate] <;> exact h
  · have hset : ∀ kept : List Bytes,
        setDatabase databases (databaseName run.targetDatabase) kept name = some restored :=
      fun kept => (if_neg hname).trans h
    split
    next applied _ => cases applied <;> simp [hset, h]
    · exact h
    · unfold restoreInto
      split <;> exact hset _

theorem databases_of_not_created
    (h : (runProductionRestore library tools files databases run).created = false) :
    (runProductionRestore library tools files databases run).databases = databases := by
  unfold runProductionRestore at h ⊢
  split at h
  · rfl
  unfold restoreBackup at h ⊢
  split at h
  · rfl
  dsimp only at h ⊢
  split at h
  next applied _ =>
    dsimp only at h
    rw [h]
    rfl
  · rfl
  · unfold restoreInto at h
    split at h <;> cases h

lemma restoresDecrypted_iff :
    RestoresDecrypted library tools files databases run ↔
      ¬ IsMisdirected library tools files databases run := by
  constructor
  · rintro h ⟨plaintextPath, plain, metadata, archive, hdecrypt, hcheck, hnone, hcreate, hrestore, hne,
      hother⟩
    have hresult := runProductionRestore_ok_iff.mpr ⟨plaintextPath, plain, hdecrypt, hcheck,
      createDatabase_succeeds_iff.mpr ⟨hnone, hcreate⟩, hrestore⟩
    obtain ⟨plaintextPath', hdecrypt', -⟩ := h metadata archive hresult
    cases hdecrypt.symm.trans hdecrypt'
    have hcontent := (checkRestore_ok_iff.mp hcheck).2.2.2.2
    rw [content_write_of_ne hne] at hcontent
    exact hother hcontent
  · intro hnot metadata archive hresult
    obtain ⟨plaintextPath, plain, hdecrypt, hcheck, hcreate, hrestore⟩ :=
      runProductionRestore_ok_iff.mp hresult
    obtain ⟨hnone, hsucceeds⟩ := createDatabase_succeeds_iff.mp hcreate
    obtain ⟨-, hverify, -, -, hcontent⟩ := checkRestore_ok_iff.mp hcheck
    have harchive : archive = plain := by
      by_cases hpath : metadata.artifactPath = plaintextPath
      · rw [hpath, content_write_self] at hcontent
        exact (Option.some.inj hcontent).symm
      · by_contra hne
        refine hnot ⟨plaintextPath, plain, metadata, archive, hdecrypt, hcheck, hnone, hsucceeds,
          hrestore, hpath, fun hplain => hne ?_⟩
        rw [content_write_of_ne hpath, hplain] at hcontent
        exact (Option.some.inj hcontent).symm
    subst harchive
    obtain ⟨bytes, members, artifact, hbytes, hdecoded, hartifact, hsha, hsize⟩ :=
      recorded_of_verify hverify
    cases hcontent.symm.trans hartifact
    exact ⟨plaintextPath, hdecrypt, bytes, members, hbytes, hdecoded, hsha, hsize⟩

lemma reportsFailure_iff :
    ReportsFailure library tools files databases run ↔
      ¬ RaisesOther library tools files databases run := by
  have hother : RaisesOther library tools files databases run ↔
      (runProductionRestore library tools files databases run).result = .error .other ∧
        (runProductionRestore library tools files databases run).created = false := by
    unfold RaisesOther
    rw [← decryptArtifact_other_iff]
    unfold runProductionRestore
    cases hdecrypt : decryptArtifact tools files run with
    | error fault => simp
    | ok decrypted =>
      obtain ⟨plaintextPath, plain⟩ := decrypted
      rw [exists_ok_iff, raisesOther_iff_of_decrypted]
      simp only [reduceCtorEq, false_or]
      unfold restoreBackup
      cases hcheck : checkRestore library (write files plaintextPath plain) run with
      | error fault => simp
      | ok checked =>
        obtain ⟨metadata, archive⟩ := checked
        dsimp only
        cases hcreate : createDatabase tools databases (databaseName run.targetDatabase) with
        | raises applied => cases applied <;> simp
        | fails => simp
        | succeeds =>
          unfold restoreInto
          cases tools.pgRestore archive <;> simp
  unfold ReportsFailure
  rw [hother]
  constructor
  · rintro h ⟨hresult, hcreated⟩
    exact h .other hresult hcreated rfl
  · rintro hnot fault hresult hcreated rfl
    exact hnot ⟨hresult, hcreated⟩

/-- A restore restores the decryption exactly if it is not misdirected, and reports a failure before the
target is created exactly if nothing else is raised; the databases that were there stay as they
were. -/
theorem runProductionRestore_iff (library : Library) (tools : Tools) (files : List File)
    (databases : Databases) (run : RestoreRun) :
    (RestoresDecrypted library tools files databases run ↔
      ¬ IsMisdirected library tools files databases run) ∧
    (ReportsFailure library tools files databases run ↔
      ¬ RaisesOther library tools files databases run) ∧
    (∀ name restored, databases name = some restored →
      (runProductionRestore library tools files databases run).databases name = some restored) ∧
    ((runProductionRestore library tools files databases run).created = false →
      (runProductionRestore library tools files databases run).databases = databases) :=
  ⟨restoresDecrypted_iff, reportsFailure_iff, fun _ _ h => databases_runProductionRestore h,
    databases_of_not_created⟩

def driftLibrary : Library where
  sha256 _ := "0"
  decode _ := .object [("artifact_path", .text "old"), ("sha256", .text "0"), ("database", .text "app"),
    ("created_at", .text "2026"), ("size_bytes", .number 1), ("format", .text "custom")]
  path _ := ⟨"/backups", "old.pgdump"⟩

def driftTools : Tools where
  hasAge := true
  age _ _ := .writes [2]
  createDatabase := .succeeds
  pgRestore _ := .succeeds

def driftFiles : List File :=
  [⟨⟨"/backups", "old.pgdump.json"⟩, [0]⟩, ⟨⟨"/backups", "old.pgdump"⟩, [1]⟩,
    ⟨⟨"/download", "new.pgdump.age"⟩, [3]⟩]

def driftRun (target : String) : RestoreRun where
  container := "postgres"
  user := "admin"
  metadataPath := ⟨"/backups", "old.pgdump.json"⟩
  encryptedPath := ⟨"/download", "new.pgdump.age"⟩
  identity := some "AGE-SECRET-KEY-1X"
  targetDatabase := target

/-- The archive that the metadata names is restored, not the decrypted one, and an invalid name is
reported by another error. -/
theorem runProductionRestore_drifts :
    ¬ RestoresDecrypted driftLibrary driftTools driftFiles (fun _ => none) (driftRun "restored") ∧
    ¬ ReportsFailure driftLibrary driftTools driftFiles (fun _ => none) (driftRun "a-b") := by
  refine ⟨fun h => ?_, fun h => ?_⟩
  · obtain ⟨path, hdecrypt, -⟩ := h
      ⟨⟨"/backups", "old.pgdump"⟩, ⟨"/backups", "old.pgdump.json"⟩, .text "app", .text "2026"⟩ [1]
      (by decide +kernel)
    have hplain : decryptArtifact driftTools driftFiles (driftRun "restored") =
        .ok (⟨"/download", "new.pgdump"⟩, [2]) := by decide +kernel
    have hbytes := (Prod.mk.inj (Except.ok.inj (hplain.symm.trans hdecrypt))).2
    exact absurd hbytes (by decide)
  · exact h .other (by decide +kernel) (by decide +kernel) rfl

end SaasOs.Backup
