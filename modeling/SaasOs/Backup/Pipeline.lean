import SaasOs.Backup.Listing
import SaasOs.Foundation.Run

/-!
# Runs of the backup pipeline

Runs for any number of databases share a directory and a destination.  A run dumps its database,
encrypts the dump, checks the ciphertext and uploads it; it raises or crashes after any of its
steps.  Retention, the last step of a run, is an event of its own: it deletes all objects of the
destination but the newest ones, of whatever database, and can fail in between.
-/

namespace SaasOs.Backup

open Run

/-! ## The system -/

/-- An object of the destination, with the database that it is of. -/
structure StoredObject where
  key : String
  database : String
  lastModified : ℤ
  content : Bytes
  deriving DecidableEq

/-- What was handed to `destination.upload`, with the artifact of the run. -/
structure Upload where
  source : Path
  artifact : Path
  content : Bytes

/-- A retention: the objects before and after it, and the key that was uploaded last. -/
structure Retention where
  before : List StoredObject
  after : List StoredObject
  lastUploaded : Option String

/-- The files, the objects under the prefix in the order in which the destination lists them, and what
was done: the uploads, the retentions, and the files that were listed and pruned. -/
structure BackupSystem where
  files : List File
  objects : List StoredObject
  lastUploaded : Option String
  uploads : List Upload
  retentions : List Retention
  listings : List (List File)
  prunings : List (ℕ × List File)

/-- A run of `run_production_backup`: its database and configuration, what `pg_dump`, `json.dumps` and
`age` write, and the number of steps after which it raises or crashes. -/
structure BackupRun where
  database : String
  stem : String
  recipient : Option String
  offSite : Bool
  dump : Bytes
  metadata : Bytes
  recorded : Bytes
  encrypted : Bytes
  lastModified : ℤ
  stop : ℕ

def ageCiphertextHeader : Bytes := "age-encryption.org/v1".toList.map Char.toNat

/-- `verify_encrypted_artifact` accepts the file. -/
def isCiphertext (path : Path) (bytes : Bytes) : Bool :=
  ".age".toList.isSuffixOf path.name.toList && ageCiphertextHeader.isPrefixOf bytes &&
    ageCiphertextHeader.length < bytes.length

/-- `validate_recipient` accepts the recipient; blanks do not begin with its prefix. -/
def validRecipient (recipient : Option String) : Bool :=
  recipient.any fun recipient => "age1".toList.isPrefixOf recipient.toList

section Runs

variable (library : Library) (outputDir : String)

namespace BackupRun

def artifactPath (r : BackupRun) : Path := ⟨outputDir, r.stem ++ ".pgdump"⟩

def metadataPath (r : BackupRun) : Path := ⟨outputDir, r.stem ++ ".pgdump.json"⟩

/-- `encrypted_artifact_path`. -/
def encryptedPath (r : BackupRun) : Path := ⟨outputDir, r.stem ++ ".pgdump.age"⟩

def encrypts (r : BackupRun) : Bool := r.recipient.any (· ≠ "")

def verified (r : BackupRun) (s : BackupSystem) : Bool :=
  (content s.files (r.encryptedPath outputDir)).any (isCiphertext (r.encryptedPath outputDir))

/-- `create_backup`, and the check of what it has written. -/
def createBackup (r : BackupRun) : List (BackupSystem → Option BackupSystem) :=
  [fun s => some { s with files := write s.files (r.artifactPath outputDir) r.dump },
    fun s => some { s with files := write s.files (r.metadataPath outputDir) r.metadata },
    fun s => match verifyBackupChecksum library s.files (r.metadataPath outputDir) with
      | .ok _ => some s
      | .error _ => none]

/-- `encrypt_backup_artifact`: an output that is no ciphertext is deleted. -/
def encrypt (r : BackupRun) (s : BackupSystem) : Option BackupSystem :=
  if r.encrypts then
    if validRecipient r.recipient && isCiphertext (r.encryptedPath outputDir) r.encrypted then
      some { s with files := write s.files (r.encryptedPath outputDir) r.encrypted }
    else none
  else some s

/-- `_ciphertext_for_upload`, or the same check of a run that stays on the host. -/
def ciphertextForUpload (r : BackupRun) (s : BackupSystem) : Option BackupSystem :=
  if r.offSite then
    if r.encrypts && r.encryptedPath outputDir ≠ r.artifactPath outputDir &&
        r.verified outputDir s then
      some s
    else none
  else if r.encrypts && !r.verified outputDir s then none
  else some s

def recordEncryptedArtifact (r : BackupRun) (s : BackupSystem) : Option BackupSystem :=
  if r.encrypts then
    some { s with files := write s.files (r.metadataPath outputDir) r.recorded }
  else some s

def key (r : BackupRun) : String := "postgres/" ++ (r.encryptedPath outputDir).name

def upload (r : BackupRun) (s : BackupSystem) : Option BackupSystem :=
  if r.offSite then
    (content s.files (r.encryptedPath outputDir)).map fun bytes =>
      { s with
        objects := s.objects.filter (fun object => object.key ≠ r.key outputDir) ++
          [⟨r.key outputDir, r.database, r.lastModified, bytes⟩]
        lastUploaded := some (r.key outputDir)
        uploads := s.uploads ++ [⟨r.encryptedPath outputDir, r.artifactPath outputDir, bytes⟩] }
  else some s

/-- The steps of `run_production_backup` up to the retention. -/
def steps (r : BackupRun) : List (BackupSystem → Option BackupSystem) :=
  r.createBackup library outputDir ++
    [fun s => if r.offSite && !validRecipient r.recipient then none else some s,
      r.encrypt outputDir] ++
    [r.ciphertextForUpload outputDir, r.recordEncryptedArtifact outputDir, r.upload outputDir]

end BackupRun

def execute : List (BackupSystem → Option BackupSystem) → BackupSystem → BackupSystem
  | [], s => s
  | step :: rest, s =>
    match step s with
    | none => s
    | some s' => execute rest s'

inductive BackupEvent
  | run (r : BackupRun)
  /-- `apply_retention`, which fails after some deletions. -/
  | retention (keepLast deletions : ℕ)
  | list
  | prune (keepLast : ℕ)
  | write (path : Path) (bytes : Bytes)
  | remove (path : Path)
  /-- The destination lists its objects in another order. -/
  | relist (objects : List StoredObject)

def byLastModified (objects : List StoredObject) : List StoredObject :=
  objects.insertionSort fun a b => a.lastModified ≤ b.lastModified

def deletionCount (keepLast deletions : ℕ) (objects : List StoredObject) : ℕ :=
  min (objects.length - max keepLast 1) deletions

/-- `apply_retention`: the objects that are left. -/
def applyRetention (keepLast deletions : ℕ) (objects : List StoredObject) : List StoredObject :=
  ((byLastModified objects).take (deletionCount keepLast deletions objects)).foldl
    (fun objects deleted => objects.filter fun object => object.key ≠ deleted.key) objects

def step (s : BackupSystem) : BackupEvent → BackupSystem
  | .run r => execute ((r.steps library outputDir).take r.stop) s
  | .retention keepLast deletions =>
    { s with
      objects := applyRetention keepLast deletions s.objects
      retentions := s.retentions ++
        [⟨s.objects, applyRetention keepLast deletions s.objects, s.lastUploaded⟩] }
  | .list => { s with listings := s.listings ++ [s.files] }
  | .prune keepLast =>
    { s with
      files := (pruneBackups library outputDir keepLast s.files).toOption.getD s.files
      prunings := s.prunings ++ [(keepLast, s.files)] }
  | .write path bytes => { s with files := write s.files path bytes }
  | .remove path => { s with files := unlink s.files path }
  | .relist objects => if objects.Perm s.objects then { s with objects := objects } else s

/-! ## What backups are for -/

def Upload.Sealed (u : Upload) : Prop :=
  isCiphertext u.source u.content = true ∧ u.source ≠ u.artifact

/-- Of every object's database an object that is no older is left, and so is what was uploaded last. -/
def Retention.Keeps (r : Retention) : Prop :=
  (∀ object ∈ r.before, ∃ newer ∈ r.after,
    newer.database = object.database ∧ object.lastModified ≤ newer.lastModified) ∧
    ∀ object ∈ r.before, r.lastUploaded = some object.key → object ∈ r.after

/-- All that was uploaded, deleted, listed and pruned was as it should be. -/
structure Recoverable (s : BackupSystem) : Prop where
  uploads : ∀ u ∈ s.uploads, u.Sealed
  retentions : ∀ r ∈ s.retentions, r.Keeps
  listings : ∀ files ∈ s.listings, Lists library outputDir files
  prunings : ∀ pruning ∈ s.prunings, 1 ≤ pruning.1 → Prunes library outputDir pruning.1 pruning.2

/-- In the common order, a newest object of each database and what was uploaded last come after all
that is deleted. -/
def Spares (keepLast deletions : ℕ) (s : BackupSystem) : Prop :=
  (∀ object ∈ s.objects, ∃ newer ∈ s.objects,
    newer.database = object.database ∧ object.lastModified ≤ newer.lastModified ∧
      deletionCount keepLast deletions s.objects ≤ (byLastModified s.objects).idxOf newer) ∧
    ∀ object ∈ s.objects, s.lastUploaded = some object.key →
      deletionCount keepLast deletions s.objects ≤ (byLastModified s.objects).idxOf object

instance {keepLast deletions : ℕ} {s : BackupSystem} : Decidable (Spares keepLast deletions s) :=
  inferInstanceAs (Decidable (_ ∧ _))

/-- Retention spares the newest backups, and a listing or a pruning finds nothing that stops it. -/
def Careful (s : BackupSystem) : BackupEvent → Prop
  | .retention keepLast deletions => Spares keepLast deletions s
  | .list => Listable library outputDir s.files
  | .prune keepLast => 1 ≤ keepLast → Prunable library outputDir keepLast s.files
  | _ => True

instance : ∀ s event, Decidable (Careful library outputDir s event)
  | s, .retention keepLast deletions => inferInstanceAs (Decidable (Spares keepLast deletions s))
  | s, .list => inferInstanceAs (Decidable (Listable library outputDir s.files))
  | s, .prune keepLast =>
    inferInstanceAs (Decidable (1 ≤ keepLast → Prunable library outputDir keepLast s.files))
  | _, .run _ | _, .write _ _ | _, .remove _ | _, .relist _ => inferInstanceAs (Decidable True)

def KeysDistinct (s : BackupSystem) : Prop := (s.objects.map StoredObject.key).Nodup

variable {library : Library} {outputDir : String}

/-! ## Retention -/

section Retention

variable {objects : List StoredObject} {keepLast deletions : ℕ}

lemma foldl_filter_key (deleted : List StoredObject) :
    deleted.foldl (fun objects deleted => objects.filter fun object => object.key ≠ deleted.key)
      objects = objects.filter fun object => object.key ∉ deleted.map StoredObject.key := by
  induction deleted generalizing objects with
  | nil => simp
  | cons first deleted ih =>
    rw [List.foldl_cons, ih, List.filter_filter]
    refine List.filter_congr fun object _ => ?_
    simp [Bool.and_comm]

lemma mem_applyRetention (hkeys : (objects.map StoredObject.key).Nodup) {object : StoredObject} :
    object ∈ applyRetention keepLast deletions objects ↔ object ∈ objects ∧
      deletionCount keepLast deletions objects ≤ (byLastModified objects).idxOf object := by
  unfold applyRetention
  rw [foldl_filter_key, List.mem_filter]
  refine and_congr_right fun hobject => ?_
  have hprefix : (byLastModified objects).take (deletionCount keepLast deletions objects) <+:
      byLastModified objects := List.take_prefix _ _
  have hlength : ((byLastModified objects).take (deletionCount keepLast deletions objects)).length =
      deletionCount keepLast deletions objects := by
    rw [List.length_take, byLastModified, List.length_insertionSort]
    unfold deletionCount
    omega
  have hkey : object.key ∈ ((byLastModified objects).take
      (deletionCount keepLast deletions objects)).map StoredObject.key ↔
        object ∈ (byLastModified objects).take (deletionCount keepLast deletions objects) := by
    constructor
    · intro h
      obtain ⟨other, hother, heq⟩ := List.mem_map.1 h
      have hmem : other ∈ objects := (List.mem_insertionSort _).1 (List.mem_of_mem_take hother)
      obtain rfl := List.inj_on_of_nodup_map hkeys hmem hobject heq
      exact hother
    · exact List.mem_map_of_mem
  rw [decide_eq_true_eq, hkey, hprefix.mem_iff_idxOf_lt_length, hlength, not_lt]

lemma keeps_iff {s : BackupSystem} (hkeys : KeysDistinct s) :
    Retention.Keeps ⟨s.objects, applyRetention keepLast deletions s.objects, s.lastUploaded⟩ ↔
      Spares keepLast deletions s := by
  unfold Retention.Keeps Spares
  simp only [mem_applyRetention hkeys]
  refine and_congr (forall₂_congr fun object _ => ?_) (forall₂_congr fun object hobject => ?_)
  · exact exists_congr fun newer => by tauto
  · exact imp_congr_right fun _ => and_iff_right hobject

end Retention

/-! ## The steps of a run -/

section Steps

variable {r : BackupRun} {s s' : BackupSystem} {first : BackupSystem → Option BackupSystem}
  {steps rest : List (BackupSystem → Option BackupSystem)} {n : ℕ}

lemma execute_keeps {P : BackupSystem → Prop}
    (hkeeps : ∀ step ∈ steps, ∀ s s', P s → step s = some s' → P s') (h : P s) :
    P (execute steps s) := by
  induction steps generalizing s with
  | nil => exact h
  | cons first rest ih =>
    unfold execute
    cases hfirst : first s with
    | none => exact h
    | some s' =>
      exact ih (fun step hstep => hkeeps step (List.mem_cons_of_mem first hstep))
        (hkeeps first List.mem_cons_self s s' h hfirst)

lemma execute_append (steps : List (BackupSystem → Option BackupSystem)) (s : BackupSystem) :
    execute (steps ++ rest) s = execute steps s ∨
    execute (steps ++ rest) s = execute rest (execute steps s) := by
  induction steps generalizing s with
  | nil => exact .inr rfl
  | cons first steps ih =>
    simp only [List.cons_append, execute]
    cases first s with
    | none => exact .inl rfl
    | some s' => exact ih s'

lemma execute_take_cons (first : BackupSystem → Option BackupSystem)
    (rest : List (BackupSystem → Option BackupSystem)) (n : ℕ) (s : BackupSystem) :
    execute ((first :: rest).take n) s = s ∨
      ∃ s', first s = some s' ∧
        execute ((first :: rest).take n) s = execute (rest.take (n - 1)) s' := by
  cases n with
  | zero => exact .inl rfl
  | succ n =>
    simp only [List.take_succ_cons, execute]
    cases first s with
    | none => exact .inl rfl
    | some s' => exact .inr ⟨s', rfl, rfl⟩

lemma content_write_of_ne {files : List File} {path other : Path} {bytes : Bytes} (h : other ≠ path) :
    content (write files path bytes) other = content files other := by
  have hunlink : content (unlink files path) other = content files other := by
    have hfold : content ([path].foldl unlink files) other = if other ∈ [path] then none else _ :=
      content_foldl_unlink
    simpa [h] using hfold
  unfold write
  rw [← hunlink]
  unfold content
  rw [List.find?_append]
  simp [h.symm]

lemma encryptedPath_ne : r.encryptedPath outputDir ≠ r.metadataPath outputDir := by
  intro h
  have hname : (r.stem ++ ".pgdump.age").toList = (r.stem ++ ".pgdump.json").toList :=
    congrArg String.toList (congrArg Path.name h)
  simp only [String.toList_append, List.append_cancel_left_eq] at hname
  exact absurd hname (by decide)

lemma ciphertextForUpload_cases (h : r.ciphertextForUpload outputDir s = some s') :
    s' = s ∧ (r.offSite = true →
      r.encryptedPath outputDir ≠ r.artifactPath outputDir ∧ r.verified outputDir s = true) := by
  unfold BackupRun.ciphertextForUpload at h
  split_ifs at h with hoffSite hgate <;> obtain rfl := Option.some.inj h
  · simp only [Bool.and_eq_true, decide_eq_true_eq] at hgate
    exact ⟨rfl, fun _ => ⟨hgate.1.2, hgate.2⟩⟩
  · exact ⟨rfl, fun h => absurd h hoffSite⟩

lemma recordEncryptedArtifact_cases (h : r.recordEncryptedArtifact outputDir s = some s') :
    s' = { s with files := s'.files } ∧
      content s'.files (r.encryptedPath outputDir) = content s.files (r.encryptedPath outputDir) := by
  unfold BackupRun.recordEncryptedArtifact at h
  split_ifs at h <;> obtain rfl := Option.some.inj h
  · exact ⟨rfl, content_write_of_ne encryptedPath_ne⟩
  · exact ⟨rfl, rfl⟩

def BackupRun.uploaded (outputDir : String) (r : BackupRun) (bytes : Bytes) (s : BackupSystem) :
    BackupSystem :=
  { s with
    objects := s.objects.filter (fun object => object.key ≠ r.key outputDir) ++
      [⟨r.key outputDir, r.database, r.lastModified, bytes⟩]
    lastUploaded := some (r.key outputDir)
    uploads := s.uploads ++ [⟨r.encryptedPath outputDir, r.artifactPath outputDir, bytes⟩] }

lemma upload_cases (h : r.upload outputDir s = some s') :
    s' = s ∨ r.offSite = true ∧ ∃ bytes,
      content s.files (r.encryptedPath outputDir) = some bytes ∧ s' = r.uploaded outputDir bytes s := by
  unfold BackupRun.upload at h
  split_ifs at h with hoffSite
  · obtain ⟨bytes, hbytes, rfl⟩ := Option.map_eq_some_iff.1 h
    exact .inr ⟨hoffSite, bytes, hbytes, rfl⟩
  · exact .inl (Option.some.inj h).symm

lemma execute_last : (∃ files, execute ([r.ciphertextForUpload outputDir,
      r.recordEncryptedArtifact outputDir, r.upload outputDir].take n) s = { s with files := files }) ∨
    ∃ files bytes, Upload.Sealed ⟨r.encryptedPath outputDir, r.artifactPath outputDir, bytes⟩ ∧
      execute ([r.ciphertextForUpload outputDir, r.recordEncryptedArtifact outputDir,
        r.upload outputDir].take n) s = r.uploaded outputDir bytes { s with files := files } := by
  rcases execute_take_cons (r.ciphertextForUpload outputDir)
    [r.recordEncryptedArtifact outputDir, r.upload outputDir] n s with hstop | ⟨s₁, hgate, hnext⟩
  · exact .inl ⟨s.files, hstop⟩
  obtain ⟨rfl, hsealed⟩ := ciphertextForUpload_cases hgate
  rw [hnext]
  rcases execute_take_cons (r.recordEncryptedArtifact outputDir) [r.upload outputDir] (n - 1) s₁ with
    hstop | ⟨s₂, hrecord, hnext⟩
  · exact .inl ⟨s₁.files, hstop⟩
  obtain ⟨hfiles, hcontent⟩ := recordEncryptedArtifact_cases hrecord
  rw [hnext]
  rcases execute_take_cons (r.upload outputDir) [] (n - 1 - 1) s₂ with
    hstop | ⟨s₃, hupload, hnext⟩
  · exact .inl ⟨s₂.files, hstop.trans hfiles⟩
  rw [hnext, List.take_nil, execute]
  rcases upload_cases hupload with rfl | ⟨hoffSite, bytes, hbytes, rfl⟩
  · exact .inl ⟨_, hfiles⟩
  · obtain ⟨hne, hverified⟩ := hsealed hoffSite
    refine .inr ⟨s₂.files, bytes, ⟨?_, hne⟩, by rw [← hfiles]⟩
    rw [BackupRun.verified, ← hcontent, hbytes] at hverified
    exact hverified

lemma run_cases (library : Library) (outputDir : String) (r : BackupRun) (s : BackupSystem) :
    (∃ files, step library outputDir s (.run r) = { s with files := files }) ∨
    ∃ files bytes, Upload.Sealed ⟨r.encryptedPath outputDir, r.artifactPath outputDir, bytes⟩ ∧
      step library outputDir s (.run r) = r.uploaded outputDir bytes { s with files := files } := by
  simp only [step, BackupRun.steps]
  rw [List.take_append]
  generalize hlocal : r.createBackup library outputDir ++
    [fun s => if r.offSite && !validRecipient r.recipient then none else some s,
      r.encrypt outputDir] = steps
  have hfiles : ∃ files, execute (steps.take r.stop) s = { s with files := files } := by
    refine execute_keeps (P := fun s' => ∃ files, s' = { s with files := files }) ?_ ⟨s.files, rfl⟩
    rintro step hstep - s' ⟨files, rfl⟩ hnext
    have hmem := List.mem_of_mem_take hstep
    rw [← hlocal] at hmem
    simp only [BackupRun.createBackup, List.cons_append, List.nil_append, List.mem_cons,
      List.not_mem_nil, or_false] at hmem
    rcases hmem with rfl | rfl | rfl | rfl | rfl
    · exact ⟨_, (Option.some.inj hnext).symm⟩
    · exact ⟨_, (Option.some.inj hnext).symm⟩
    · dsimp only at hnext
      split at hnext
      · exact ⟨_, (Option.some.inj hnext).symm⟩
      · cases hnext
    · dsimp only at hnext
      split_ifs at hnext
      exact ⟨_, (Option.some.inj hnext).symm⟩
    · unfold BackupRun.encrypt at hnext
      split_ifs at hnext <;> exact ⟨_, (Option.some.inj hnext).symm⟩
  obtain ⟨files, hfiles⟩ := hfiles
  rcases execute_append (steps.take r.stop) s with hraised | hlast
  · exact .inl ⟨files, by rw [hraised, hfiles]⟩
  · rw [hlast, hfiles]
    exact execute_last

end Steps

/-! ## Runs of the system -/

section System

variable {s : BackupSystem} {event : BackupEvent} {events : List BackupEvent}

lemma keysDistinct_uploaded {r : BackupRun} {bytes : Bytes} (h : KeysDistinct s) :
    KeysDistinct (r.uploaded outputDir bytes s) := by
  unfold KeysDistinct BackupRun.uploaded
  rw [List.map_append, List.nodup_append]
  refine ⟨h.sublist (List.filter_sublist.map _), List.nodup_singleton _, ?_⟩
  rintro key hkey other hother rfl
  obtain ⟨object, hobject, rfl⟩ := List.mem_map.1 hkey
  rw [List.map_singleton, List.mem_singleton] at hother
  exact of_decide_eq_true (List.mem_filter.1 hobject).2 hother

lemma keysDistinct_step (h : KeysDistinct s) : KeysDistinct (step library outputDir s event) := by
  cases event with
  | run r =>
    rcases run_cases library outputDir r s with
      ⟨files, hstep⟩ | ⟨files, bytes, -, hstep⟩
    · rw [hstep]
      exact h
    · rw [hstep]
      exact keysDistinct_uploaded (s := { s with files := files }) h
  | retention keepLast deletions =>
    refine h.sublist (List.Sublist.map _ ?_)
    dsimp only [step]
    rw [applyRetention, foldl_filter_key]
    exact List.filter_sublist
  | list => exact h
  | prune keepLast => exact h
  | write path bytes => exact h
  | remove path => exact h
  | relist objects =>
    unfold step KeysDistinct
    dsimp only
    split_ifs with hperm
    · exact (hperm.map _).nodup_iff.2 h
    · exact h

lemma recoverable_step (hkeys : KeysDistinct s) (h : Recoverable library outputDir s)
    (hcareful : Careful library outputDir s event) :
    Recoverable library outputDir (step library outputDir s event) := by
  obtain ⟨huploads, hretentions, hlistings, hprunings⟩ := h
  cases event with
  | run r =>
    rcases run_cases library outputDir r s with
      ⟨files, hstep⟩ | ⟨files, bytes, hsealed, hstep⟩
    · rw [hstep]
      exact ⟨huploads, hretentions, hlistings, hprunings⟩
    · rw [hstep]
      exact ⟨List.forall_mem_append.2 ⟨huploads, List.forall_mem_singleton.2 hsealed⟩, hretentions,
        hlistings, hprunings⟩
  | retention keepLast deletions =>
    exact ⟨huploads, List.forall_mem_append.2
      ⟨hretentions, List.forall_mem_singleton.2 ((keeps_iff hkeys).2 hcareful)⟩, hlistings, hprunings⟩
  | list =>
    exact ⟨huploads, hretentions, List.forall_mem_append.2
      ⟨hlistings, List.forall_mem_singleton.2 (lists_iff.2 hcareful)⟩, hprunings⟩
  | prune keepLast =>
    exact ⟨huploads, hretentions, hlistings, List.forall_mem_append.2 ⟨hprunings,
      List.forall_mem_singleton.2 fun hpositive => (prunes_iff hpositive).2 (hcareful hpositive)⟩⟩
  | write path bytes => exact ⟨huploads, hretentions, hlistings, hprunings⟩
  | remove path => exact ⟨huploads, hretentions, hlistings, hprunings⟩
  | relist objects =>
    unfold step
    dsimp only
    split_ifs <;> exact ⟨huploads, hretentions, hlistings, hprunings⟩

lemma careful_of_recoverable (hkeys : KeysDistinct s)
    (h : Recoverable library outputDir (step library outputDir s event)) :
    Careful library outputDir s event := by
  cases event with
  | run r => trivial
  | retention keepLast deletions =>
    exact (keeps_iff hkeys).1 (h.retentions _ (List.mem_append_right _ (List.mem_singleton_self _)))
  | list =>
    exact lists_iff.1 (h.listings _ (List.mem_append_right _ (List.mem_singleton_self _)))
  | prune keepLast =>
    intro hpositive
    exact (prunes_iff hpositive).1
      (h.prunings _ (List.mem_append_right _ (List.mem_singleton_self _)) hpositive)
  | write path bytes => trivial
  | remove path => trivial
  | relist objects => trivial

def BackupSystem.initial (files : List File) (objects : List StoredObject) : BackupSystem :=
  ⟨files, objects, none, [], [], [], []⟩

lemma keysDistinct_initial {files : List File} : KeysDistinct (.initial files []) := List.nodup_nil

lemma recoverable_initial {files : List File} {objects : List StoredObject} :
    Recoverable library outputDir (.initial files objects) := by
  constructor <;> simp [BackupSystem.initial]

lemma along_of_always (hkeys : KeysDistinct s)
    (h : Always (step library outputDir) (Recoverable library outputDir) s events) :
    Along (step library outputDir) (Careful library outputDir) s events := by
  induction events generalizing s with
  | nil => trivial
  | cons event events ih =>
    refine ⟨careful_of_recoverable hkeys (h [event] events rfl), ih (keysDistinct_step hkeys) ?_⟩
    rintro before after rfl
    exact h (event :: before) after rfl

/-- From a destination that keeps one object under each key, every upload, retention, listing and
pruning of a run is as it should be exactly if every retention spares a newest object of each database
and what was uploaded last, and every directory that is listed or pruned can be. -/
theorem recoverable_iff {files : List File} {objects : List StoredObject}
    (hkeys : (objects.map StoredObject.key).Nodup) :
    Always (step library outputDir) (Recoverable library outputDir) (.initial files objects) events ↔
      Along (step library outputDir) (Careful library outputDir) (.initial files objects) events := by
  constructor
  · exact along_of_always hkeys
  · intro h before after hevents
    have hboth : Always (step library outputDir)
        (fun s => KeysDistinct s ∧ Recoverable library outputDir s) (.initial files objects) events :=
      always_of_along (fun s event hs hcareful =>
        ⟨keysDistinct_step hs.1, recoverable_step hs.1 hs.2 hcareful⟩) ⟨hkeys, recoverable_initial⟩ h
    exact (hboth before after hevents).2

/-! ### Two databases in one directory -/

/-- What `pg_dump` writes. -/
def sampleDump : Bytes := "PGDMP".toList.map Char.toNat

def sampleCorrupted : Bytes := "PGDM".toList.map Char.toNat

/-- What `age` writes. -/
def sampleCiphertext : Bytes := ageCiphertextHeader ++ [10]

def sampleMembers (database createdAt : String) (recorded : Bool) : List (String × JsonValue) :=
  [("artifact_path", .text ("/backups/" ++ database ++ ".pgdump")), ("created_at", .text createdAt),
    ("database", .text database)] ++
  (if recorded then
    [("encrypted_artifact_path", .text ("/backups/" ++ database ++ ".pgdump.age")),
      ("encrypted_sha256", .text "66c2c08ff126324347b09d35bf079722bacf8db334372cfdf61bd9573acbce0e"),
      ("encrypted_size_bytes", .number 22)]
  else []) ++
  [("format", .text "pg_dump-custom"),
    ("metadata_path", .text ("/backups/" ++ database ++ ".pgdump.json")),
    ("sha256", .text "b5a26a21290c39819235a235b8ed66b3bd98ed90c8316c8949bfbb7419cac878"),
    ("size_bytes", .number 5)]

def sampleText (members : List (String × JsonValue)) : Bytes :=
  let member : String × JsonValue → List String := fun
    | (name, .text value) => ["\"", name, "\": \"", value, "\""]
    | (name, .number value) => ["\"", name, "\": ", toString value]
    | (name, .other) => ["\"", name, "\": null"]
  let text := ["\x7b"] ++ [", "].intercalate (members.map member) ++ ["\x7d"]
  (text.flatMap String.toList).map Char.toNat

def sampleMetadata : List (List (String × JsonValue)) :=
  [sampleMembers "app" "2026-01-01T00:00:00+00:00" false,
    sampleMembers "app" "2026-01-01T00:00:00+00:00" true,
    sampleMembers "identity" "2026-01-02T00:00:00+00:00" false,
    sampleMembers "identity" "2026-01-02T00:00:00+00:00" true]

def sampleLibrary : Library where
  sha256 bytes :=
    if bytes = sampleDump then "b5a26a21290c39819235a235b8ed66b3bd98ed90c8316c8949bfbb7419cac878"
    else "5b0e78d010f84bf8513fa3f5453ff2cd4abbb1d5b4e3017843d29feac4587600"
  decode bytes := ((sampleMetadata.find? fun members => sampleText members = bytes).map
    Decoded.object).getD .notJson
  path text := ⟨"/backups", String.ofList (text.toList.drop 9)⟩

def sampleRun (database createdAt : String) (lastModified : ℤ) : BackupRun where
  database := database
  stem := database
  recipient := some "age1ql3z7hjy54pw3hyww5ayyfg7zqgvc7w3j2elw8zmrj2kg5sfn9aqmcac8p"
  offSite := true
  dump := sampleDump
  metadata := sampleText (sampleMembers database createdAt false)
  recorded := sampleText (sampleMembers database createdAt true)
  encrypted := sampleCiphertext
  lastModified := lastModified
  stop := 8

/-- Two databases that are uploaded and kept with room for both, listed and pruned. -/
theorem recoverable_sample : Always (step sampleLibrary "/backups")
    (Recoverable sampleLibrary "/backups") (.initial [] [])
    [.run (sampleRun "app" "2026-01-01T00:00:00+00:00" 1), .retention 2 1,
      .run (sampleRun "identity" "2026-01-02T00:00:00+00:00" 2), .retention 2 1, .list, .prune 2] :=
  (recoverable_iff (by decide +kernel)).2 (by decide +kernel)

/-- A listing fails on one artifact that was damaged, and a retention that keeps one object deletes the
only one of a database. -/
theorem not_recoverable_sample :
    ¬ Always (step sampleLibrary "/backups") (Recoverable sampleLibrary "/backups") (.initial [] [])
        [.run (sampleRun "app" "2026-01-01T00:00:00+00:00" 1),
          .write ⟨"/backups", "app.pgdump"⟩ sampleCorrupted, .list] ∧
      ¬ Always (step sampleLibrary "/backups") (Recoverable sampleLibrary "/backups") (.initial [] [])
        [.run (sampleRun "app" "2026-01-01T00:00:00+00:00" 1), .retention 1 1,
          .run (sampleRun "identity" "2026-01-02T00:00:00+00:00" 2), .retention 1 1] :=
  ⟨fun h => absurd (along_of_always keysDistinct_initial h) (by decide +kernel),
    fun h => absurd (along_of_always keysDistinct_initial h) (by decide +kernel)⟩

end System

end Runs

end SaasOs.Backup
