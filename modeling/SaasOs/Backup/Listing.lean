import SaasOs.Foundation.Exceptions

/-!
# The backups of a directory

A backup is an artifact with a metadata file beside it.  `listBackups` reads every metadata file of
the directory, checks the digest and the size of the artifact that it names, and passes over the files
that it cannot load; `pruneBackups` deletes all backups but the newest ones.
-/

namespace SaasOs.Backup

/-! ## Files -/

abbrev Bytes := List ℕ

/-- The path of a file: its directory and its name. -/
structure Path where
  directory : String
  name : String
  deriving DecidableEq

structure File where
  path : Path
  content : Bytes

def content (files : List File) (path : Path) : Option Bytes :=
  (files.find? fun file => file.path = path).map File.content

/-- `unlink(missing_ok=True)`. -/
def unlink (files : List File) (path : Path) : List File :=
  files.filter fun file => file.path ≠ path

def write (files : List File) (path : Path) (bytes : Bytes) : List File :=
  unlink files path ++ [⟨path, bytes⟩]

/-- A value of a metadata file: a text, a number, or another one, which has no order. -/
inductive JsonValue
  | text (value : String)
  | number (value : ℤ)
  | other
  deriving DecidableEq

/-- What a metadata file is read as: `raises` is an error that is not one of JSON, as for a text that
is not UTF-8. -/
inductive Decoded
  | raises
  | notJson
  | notObject
  | object (members : List (String × JsonValue))

/-- The standard library: digests, JSON texts, and paths from texts. -/
structure Library where
  sha256 : Bytes → String
  decode : Bytes → Decoded
  path : String → Path

/-! ## Checking a backup -/

/-- What a check raises: a `BackupError`, a `ChecksumMismatchError`, which is none, or another
exception. -/
inductive VerifyError
  | backup
  | checksumMismatch
  | other
  deriving DecidableEq

/-- `BackupMetadata`, without the digest, the size and the format, which were checked or are not read
here. -/
structure BackupMetadata where
  artifactPath : Path
  metadataPath : Path
  database : JsonValue
  createdAt : JsonValue
  deriving DecidableEq

def field (members : List (String × JsonValue)) (name : String) : Except VerifyError JsonValue :=
  match members.lookup name with
  | none => .error .backup
  | some value => .ok value

/-- `Path(value)`. -/
def pathOf (library : Library) : JsonValue → Except VerifyError Path
  | .text value => .ok (library.path value)
  | _ => .error .other

def verifyBackupChecksum (library : Library) (files : List File) (metadataPath : Path) :
    Except VerifyError BackupMetadata :=
  match content files metadataPath with
  | none => .error .backup
  | some bytes =>
    match library.decode bytes with
    | .raises => .error .other
    | .notJson => .error .backup
    | .notObject => .error .other
    | .object members => do
      let artifactPath ← pathOf library (← field members "artifact_path")
      let recordedSha256 ← field members "sha256"
      let database ← field members "database"
      let createdAt ← field members "created_at"
      let sizeBytes ← field members "size_bytes"
      let _ ← field members "format"
      match content files artifactPath with
      | none => .error .backup
      | some artifact =>
        if .text (library.sha256 artifact) ≠ recordedSha256 then .error .checksumMismatch
        else if .number artifact.length ≠ sizeBytes then .error .checksumMismatch
        else .ok ⟨artifactPath, metadataPath, database, createdAt⟩

/-! ## Listing -/

/-- `output_dir.glob("*.pgdump.json")`, sorted. -/
def metadataPaths (outputDir : String) (files : List File) : List Path :=
  ((files.map File.path).filter fun path =>
    path.directory = outputDir ∧ ".pgdump.json".toList <:+ path.name.toList).insertionSort
      fun p q => p.name ≤ q.name

def JsonValue.le : JsonValue → JsonValue → Bool
  | .text s, .text t => s ≤ t
  | .number m, .number n => m ≤ n
  | .text _, _ | .number _, .other | .other, .other => true
  | .number _, .text _ | .other, _ => false

def createdBefore (a b : BackupMetadata) : Prop := a.createdAt.le b.createdAt = true

instance : DecidableRel createdBefore := fun a b =>
  inferInstanceAs (Decidable (a.createdAt.le b.createdAt = true))

/-- Every two of the values can be compared: all are texts, or all are numbers, or there is one. -/
def comparable (backups : List BackupMetadata) : Bool :=
  backups.length ≤ 1 ||
    (backups.all fun backup => match backup.createdAt with
      | .text _ => true
      | _ => false) ||
    backups.all fun backup => match backup.createdAt with
      | .number _ => true
      | _ => false

/-- The loop over the metadata files: what raises a `BackupError` is passed over. -/
def verifyAll (library : Library) (files : List File) :
    List Path → Except VerifyError (List BackupMetadata)
  | [] => .ok []
  | path :: paths =>
    match verifyBackupChecksum library files path with
    | .ok backup => (verifyAll library files paths).map (backup :: ·)
    | .error .backup => verifyAll library files paths
    | .error error => .error error

def listBackups (library : Library) (outputDir : String) (files : List File) :
    Except VerifyError (List BackupMetadata) := do
  let results ← verifyAll library files (metadataPaths outputDir files)
  if comparable results then .ok (results.insertionSort createdBefore) else .error .other

/-! ## What a listing is for -/

section Listing

variable (library : Library) (outputDir : String) (files : List File)

def verifiable : List BackupMetadata :=
  (metadataPaths outputDir files).filterMap fun path =>
    (verifyBackupChecksum library files path).toOption

def Lists : Prop :=
  ∃ backups, listBackups library outputDir files = .ok backups ∧
    backups.Perm (verifiable library outputDir files) ∧ comparable backups = true ∧
    backups.Pairwise createdBefore

/-- No metadata file raises an error that is no `BackupError`: each is text, what is JSON is an object
that names its artifact by a text, and artifacts that are there have the digest and the size that were
recorded; and the times can be compared. -/
def Listable : Prop :=
  (∀ path ∈ metadataPaths outputDir files,
    verifyBackupChecksum library files path ≠ .error .checksumMismatch ∧
      verifyBackupChecksum library files path ≠ .error .other) ∧
    comparable (verifiable library outputDir files) = true

instance : Decidable (Listable library outputDir files) :=
  inferInstanceAs (Decidable ((∀ path ∈ metadataPaths outputDir files,
    verifyBackupChecksum library files path ≠ .error .checksumMismatch ∧
      verifyBackupChecksum library files path ≠ .error .other) ∧
    comparable (verifiable library outputDir files) = true))

variable {library : Library} {outputDir : String} {files : List File}

/-! ## Listing is right -/

lemma JsonValue.total (a b : JsonValue) : a.le b = true ∨ b.le a = true := by
  cases a <;> cases b <;> simp only [JsonValue.le, decide_eq_true_eq, true_or, or_true]
  · exact String.le_total _ _
  · omega

lemma JsonValue.trans {a b c : JsonValue} (hab : a.le b = true) (hbc : b.le c = true) :
    a.le c = true := by
  cases a <;> cases b <;> cases c <;> simp_all [JsonValue.le]
  · exact String.le_trans hab hbc
  · omega

instance : Std.Total createdBefore := ⟨fun a b => JsonValue.total a.createdAt b.createdAt⟩

instance : IsTrans BackupMetadata createdBefore := ⟨fun _ _ _ => JsonValue.trans⟩

variable {backup : BackupMetadata} {backups : List BackupMetadata}

lemma map_cons_eq_ok {result : Except VerifyError (List BackupMetadata)} :
    result.map (backup :: ·) = .ok backups ↔ ∃ rest, result = .ok rest ∧ backups = backup :: rest := by
  cases result <;> simp [Except.map, eq_comm]

variable {paths : List Path}

lemma verifyAll_eq_ok :
    verifyAll library files paths = .ok backups ↔
      (∀ path ∈ paths, verifyBackupChecksum library files path ≠ .error .checksumMismatch ∧
        verifyBackupChecksum library files path ≠ .error .other) ∧
      backups = paths.filterMap fun path => (verifyBackupChecksum library files path).toOption := by
  induction paths generalizing backups with
  | nil => simp [verifyAll, eq_comm]
  | cons path paths ih =>
    cases hverify : verifyBackupChecksum library files path with
    | ok backup =>
      simp only [verifyAll, hverify, map_cons_eq_ok, ih, List.mem_cons, forall_eq_or_imp,
        List.filterMap_cons, Except.toOption]
      constructor
      · rintro ⟨rest, ⟨hrest, rfl⟩, rfl⟩
        exact ⟨⟨⟨nofun, nofun⟩, hrest⟩, rfl⟩
      · rintro ⟨⟨-, hrest⟩, rfl⟩
        exact ⟨_, ⟨hrest, rfl⟩, rfl⟩
    | error error =>
      cases error with
      | backup => simp [verifyAll, hverify, ih, Except.toOption]
      | checksumMismatch => simp [verifyAll, hverify]
      | other => simp [verifyAll, hverify]

lemma comparable_perm {backups backups' : List BackupMetadata} (h : backups.Perm backups') :
    comparable backups = comparable backups' := by
  unfold comparable
  rw [h.length_eq, h.all_eq, h.all_eq]

lemma listBackups_eq_ok :
    listBackups library outputDir files = .ok backups ↔ Listable library outputDir files ∧
      backups = (verifiable library outputDir files).insertionSort createdBefore := by
  have hresults : verifyAll library files (metadataPaths outputDir files) =
      .ok (verifiable library outputDir files) ↔
        ∀ path ∈ metadataPaths outputDir files,
          verifyBackupChecksum library files path ≠ .error .checksumMismatch ∧
            verifyBackupChecksum library files path ≠ .error .other := by
    rw [verifyAll_eq_ok]
    exact and_iff_left rfl
  unfold listBackups Listable
  rw [← hresults]
  cases hall : verifyAll library files (metadataPaths outputDir files) with
  | error error => simp [bind, Except.bind]
  | ok results =>
    obtain rfl : results = verifiable library outputDir files := (verifyAll_eq_ok.1 hall).2
    by_cases hcomparable : comparable (verifiable library outputDir files) = true
    · simp [bind, Except.bind, hcomparable, eq_comm]
    · simp [bind, Except.bind, hcomparable]

theorem lists_iff : Lists library outputDir files ↔ Listable library outputDir files := by
  constructor
  · rintro ⟨backups, hlist, -⟩
    exact (listBackups_eq_ok.1 hlist).1
  · intro h
    refine ⟨_, listBackups_eq_ok.2 ⟨h, rfl⟩, List.perm_insertionSort _ _, ?_,
      List.pairwise_insertionSort _ _⟩
    rw [comparable_perm (List.perm_insertionSort _ _)]
    exact h.2

/-! ## Pruning -/

def toRemove (keepLast : ℕ) (backups : List BackupMetadata) : List BackupMetadata :=
  backups.take (backups.length - keepLast)

def toKeep (keepLast : ℕ) (backups : List BackupMetadata) : List BackupMetadata :=
  backups.drop (backups.length - keepLast)

def pathsOf (backups : List BackupMetadata) : List Path :=
  backups.flatMap fun backup => [backup.artifactPath, backup.metadataPath]

/-- `prune_backups`: the files that are left. -/
def pruneBackups (library : Library) (outputDir : String) (keepLast : ℕ) (files : List File) :
    Except VerifyError (List File) :=
  if keepLast < 1 then .error .other
  else
    (listBackups library outputDir files).map fun backups =>
      (pathsOf (toRemove keepLast backups)).foldl unlink files

def Prunes (library : Library) (outputDir : String) (keepLast : ℕ) (files : List File) : Prop :=
  ∃ backups files', listBackups library outputDir files = .ok backups ∧
    pruneBackups library outputDir keepLast files = .ok files' ∧
    (∀ backup ∈ toKeep keepLast backups,
      verifyBackupChecksum library files' backup.metadataPath = .ok backup) ∧
    ∀ file ∈ files, file.path.directory ≠ outputDir → file ∈ files'

/-- Every backup to be removed has its artifact in the directory, and shares no file with one that is
kept. -/
def Separate (outputDir : String) (keepLast : ℕ) (backups : List BackupMetadata) : Prop :=
  (∀ backup ∈ toRemove keepLast backups, backup.artifactPath.directory = outputDir) ∧
    ∀ backup ∈ toKeep keepLast backups, backup.artifactPath ∉ pathsOf (toRemove keepLast backups) ∧
      backup.metadataPath ∉ pathsOf (toRemove keepLast backups)

instance {outputDir : String} {keepLast : ℕ} {backups : List BackupMetadata} :
    Decidable (Separate outputDir keepLast backups) :=
  inferInstanceAs (Decidable (_ ∧ _))

def Prunable (library : Library) (outputDir : String) (keepLast : ℕ) (files : List File) : Prop :=
  Listable library outputDir files ∧
    Separate outputDir keepLast ((verifiable library outputDir files).insertionSort createdBefore)

instance {library : Library} {outputDir : String} {keepLast : ℕ} {files : List File} :
    Decidable (Prunable library outputDir keepLast files) :=
  inferInstanceAs (Decidable (_ ∧ _))

lemma foldl_unlink (paths : List Path) :
    paths.foldl unlink files = files.filter fun file => file.path ∉ paths := by
  induction paths generalizing files with
  | nil => simp
  | cons path paths ih =>
    rw [List.foldl_cons, ih, unlink, List.filter_filter]
    refine List.filter_congr fun file _ => ?_
    simp [Bool.and_comm]

variable {path : Path}

lemma content_foldl_unlink :
    content (paths.foldl unlink files) path = if path ∈ paths then none else content files path := by
  unfold content
  rw [foldl_unlink, List.find?_filter]
  split_ifs with hmem
  · rw [List.find?_eq_none.2, Option.map_none]
    rintro file -
    simp only [decide_eq_true_eq, not_and]
    rintro hnot rfl
    exact hnot hmem
  · congr 2
    funext file
    rw [Bool.eq_iff_iff]
    simp only [decide_eq_true_eq, and_iff_right_iff_imp]
    rintro rfl
    exact hmem

lemma pruneBackups_of_list {keepLast : ℕ} (h : 1 ≤ keepLast)
    (hlist : listBackups library outputDir files = .ok backups) :
    pruneBackups library outputDir keepLast files =
      .ok ((pathsOf (toRemove keepLast backups)).foldl unlink files) := by
  unfold pruneBackups
  rw [if_neg (by omega), hlist]
  rfl

lemma verifyBackupChecksum_ok (h : verifyBackupChecksum library files path = .ok backup) :
    backup.metadataPath = path ∧ ∃ bytes members artifact, content files path = some bytes ∧
      library.decode bytes = .object members ∧
      content files backup.artifactPath = some artifact ∧
      field members "sha256" = .ok (.text (library.sha256 artifact)) ∧
      field members "size_bytes" = .ok (.number artifact.length) ∧
      ∀ files', content files' path = some bytes →
        content files' backup.artifactPath = some artifact →
        verifyBackupChecksum library files' path = .ok backup := by
  unfold verifyBackupChecksum at h ⊢
  split at h
  · cases h
  next bytes hbytes =>
  cases hdecoded : library.decode bytes with
  | raises => simp [hdecoded] at h
  | notJson => simp [hdecoded] at h
  | notObject => simp [hdecoded] at h
  | object members =>
    simp only [hdecoded, bind_eq_ok] at h
    obtain ⟨artifactValue, hartifact, artifactPath, hpath, sha, hsha, database, hdatabase, createdAt,
      hcreated, size, hsize, format, hformat, h⟩ := h
    split at h
    · cases h
    next artifact hcontent =>
    split_ifs at h with hdigest hlength
    obtain rfl := Except.ok.inj h
    refine ⟨rfl, bytes, members, artifact, hbytes, hdecoded, hcontent, ?_, ?_,
      fun files' hfile hartifact' => ?_⟩
    · rw [hsha, not_not.mp hdigest]
    · rw [hsize, not_not.mp hlength]
    simp only [hfile, hdecoded, bind_eq_ok]
    refine ⟨_, hartifact, _, hpath, _, hsha, _, hdatabase, _, hcreated, _, hsize, _, hformat, ?_⟩
    simp only [hartifact', if_neg hdigest, if_neg hlength]

lemma verify_foldl_unlink (h : verifyBackupChecksum library files path = .ok backup) :
    verifyBackupChecksum library (paths.foldl unlink files) path = .ok backup ↔
      backup.artifactPath ∉ paths ∧ backup.metadataPath ∉ paths := by
  obtain ⟨rfl, bytes, -, artifact, hbytes, -, hartifact, -, -, hagain⟩ := verifyBackupChecksum_ok h
  constructor
  · intro hafter
    obtain ⟨-, bytes', -, artifact', hbytes', -, hartifact', -⟩ := verifyBackupChecksum_ok hafter
    rw [content_foldl_unlink] at hbytes' hartifact'
    exact ⟨fun hmem => by simp [hmem] at hartifact', fun hmem => by simp [hmem] at hbytes'⟩
  · rintro ⟨hnot, hnot'⟩
    refine hagain _ ?_ ?_
    · rw [content_foldl_unlink, if_neg hnot', hbytes]
    · rw [content_foldl_unlink, if_neg hnot, hartifact]

lemma verified_of_mem (h : backup ∈ verifiable library outputDir files) :
    verifyBackupChecksum library files backup.metadataPath = .ok backup ∧
      backup.metadataPath.directory = outputDir := by
  obtain ⟨path, hpath, hverify⟩ := List.mem_filterMap.1 h
  have hok : verifyBackupChecksum library files path = .ok backup := by
    cases hresult : verifyBackupChecksum library files path with
    | error error => simp [hresult, Except.toOption] at hverify
    | ok other =>
      rw [hresult] at hverify
      exact congrArg _ (Option.some.inj hverify)
  obtain ⟨rfl, -⟩ := verifyBackupChecksum_ok hok
  refine ⟨hok, ?_⟩
  have hfilter := (List.mem_insertionSort _).1 hpath
  exact (of_decide_eq_true (List.mem_filter.1 hfilter).2).1

/-- Pruning keeps the newest backups and removes nothing outside the directory exactly if the
directory can be listed and what is to be removed is separate. -/
theorem prunes_iff {keepLast : ℕ} (hkeepLast : 1 ≤ keepLast) :
    Prunes library outputDir keepLast files ↔ Prunable library outputDir keepLast files := by
  have hmem : ∀ backup ∈ (verifiable library outputDir files).insertionSort createdBefore,
      verifyBackupChecksum library files backup.metadataPath = .ok backup ∧
        backup.metadataPath.directory = outputDir := fun backup h =>
    verified_of_mem ((List.mem_insertionSort _).1 h)
  constructor
  · rintro ⟨backups, files', hlist, hprune, hkept, hothers⟩
    obtain ⟨hlistable, rfl⟩ := listBackups_eq_ok.1 hlist
    rw [pruneBackups_of_list hkeepLast hlist] at hprune
    obtain rfl := Except.ok.inj hprune
    refine ⟨hlistable, fun backup hremove => ?_, fun backup hkeep => ?_⟩
    · -- the artifact was there, and is gone
      by_contra houtside
      obtain ⟨-, -, -, artifact, -, -, hcontent, -⟩ :=
        verifyBackupChecksum_ok (hmem backup (List.mem_of_mem_take hremove)).1
      obtain ⟨file, hfind, -⟩ := Option.map_eq_some_iff.1 hcontent
      have hpath : file.path = backup.artifactPath := by simpa using List.find?_some hfind
      have hstill := hothers file (List.mem_of_find?_eq_some hfind) (hpath ▸ houtside)
      rw [foldl_unlink] at hstill
      refine of_decide_eq_true (List.mem_filter.1 hstill).2 ?_
      exact List.mem_flatMap.2 ⟨backup, hremove, by simp [hpath]⟩
    · exact (verify_foldl_unlink (hmem backup (List.mem_of_mem_drop hkeep)).1).1
        (hkept backup hkeep)
  · rintro ⟨hlistable, hinside, hseparate⟩
    have hlist := listBackups_eq_ok.2 ⟨hlistable, rfl⟩
    refine ⟨_, _, hlist, pruneBackups_of_list hkeepLast hlist, fun backup hkeep => ?_,
      fun file hfile houtside => ?_⟩
    · exact (verify_foldl_unlink (hmem backup (List.mem_of_mem_drop hkeep)).1).2
        (hseparate backup hkeep)
    · rw [foldl_unlink]
      refine List.mem_filter.2 ⟨hfile, decide_eq_true fun hremoved => ?_⟩
      obtain ⟨backup, hbackup, hpath⟩ := List.mem_flatMap.1 hremoved
      simp only [List.mem_cons, List.not_mem_nil, or_false] at hpath
      rcases hpath with hpath | hpath
      · exact houtside (hpath ▸ hinside backup hbackup)
      · exact houtside (hpath ▸ (hmem backup (List.mem_of_mem_take hbackup)).2)

end Listing

end SaasOs.Backup
