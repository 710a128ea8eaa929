import StorageManager.Scripts.AutoBackup
import StorageManager.Lib.Files
import StorageManager.Lib.Scan

/-!
# Checksums in `auto_backup.sh`

`backup_full_tar` writes the checksum of the archive and its *name* to a file beside it, and
`verify_backup` has `sha256sum -c` check that file.  The name is looked up in the directory the
script is run from, not in the one the archive is in.

* `checkEntries_checksumText` — the line that was written is read back as it was meant.
* `verifyBackup_eq_zero_iff` — what is checked is the file of that name in the working directory.
* `verify_backup_iff` — when the answer is about the archive: in `/backup/full`, or if the file of
  that name in the working directory happens to be as intact as the archive.
* `verifyBackup_elsewhere` — from any other directory the archive itself makes no difference.

The digest is an argument.  That files with one digest are equal is assumed of those that are
compared, not of all files.
-/

namespace Storage

open CString Files

/-- A digit of a checksum, as `sha256sum` prints it. -/
def isHex (c : Char) : Bool := c.isDigit || ('a' ≤ c && c ≤ 'f')

/-- The checksum of a file, in 64 digits. -/
structure Sha256 where
  digest : CStr → CStr
  length_digest : ∀ bytes, (digest bytes).length = 64
  hex : ∀ bytes, (digest bytes).all isHex = true

/-- The files there are, with their texts. -/
abbrev FileStore := Path → Option CStr

/-- `$BACKUP_ROOT/full`. -/
def fullDir : CStr := "/backup/full".toList

/-- The same directory, name by name. -/
def fullPath : Path := ["backup".toList, "full".toList]

/-- `backup_path`. -/
def archivePath (date : Tm) : CStr := fullDir ++ '/' :: archiveName date

/-- A line of a checksum file: a checksum, a blank, a blank or `*`, and a name. -/
def checkEntry (line : CStr) : Option (CStr × CStr) :=
  let sum := line.take 64
  let rest := line.drop 64
  if sum.length = 64 ∧ sum.all isHex = true ∧ rest.head? = some ' ' ∧
      (rest.tail.head? = some ' ' ∨ rest.tail.head? = some '*') then
    some (sum, rest.tail.tail)
  else none

/-- The digests and names in a checksum file. -/
def checkEntries (text : CStr) : List (CStr × CStr) := (tokens '\n' text).filterMap checkEntry

section Functions

variable (sha : Sha256)

/-- `echo "$checksum  $backup_name"`. -/
def checksumText (bytes : CStr) (date : Tm) : CStr :=
  (sha.digest bytes ++ ' ' :: ' ' :: archiveName date) ++ ['\n']

/-- The files after `backup_full_tar`, when `tar` makes an archive of these bytes. -/
def tarFiles (fs : FileStore) (cwd : Path) (date : Tm) (bytes : CStr) : FileStore :=
  Function.update (Function.update fs (resolve cwd (archivePath date)) (some bytes))
    (resolve cwd (checksumName (archivePath date))) (some (checksumText sha bytes date))

/-- `sha256sum -c`: there is something to check, and every file that is named has its checksum. -/
def sha256sumCheck (fs : FileStore) (cwd : Path) (text : CStr) : Bool :=
  !(checkEntries text).isEmpty && (checkEntries text).all fun e =>
    (fs (resolve cwd e.2)).any fun bytes => sha.digest bytes == e.1

/-- The code `verify_backup` returns. -/
def verifyBackup (fs : FileStore) (cwd : Path) (path : CStr) : ℕ :=
  match fs (resolve cwd (checksumName path)) with
  | none => 1
  | some text => if sha256sumCheck sha fs cwd text then 0 else 1

end Functions

/-- The archive after a change: other bytes, or `none` if it is deleted. -/
def changeArchive (fs : FileStore) (cwd : Path) (date : Tm) (now : Option CStr) : FileStore :=
  Function.update fs (resolve cwd (archivePath date)) now

/-- `verify_backup`, run in `cwd` on the absolute path of an archive that was made of `bytes` by a
script in `made` and is `now`, accepts what is intact and nothing else. -/
def VerifiesArchive (sha : Sha256) (fs : FileStore) (made cwd : Path) (date : Tm) (bytes : CStr)
    (now : Option CStr) : Prop :=
  verifyBackup sha (changeArchive (tarFiles sha fs made date bytes) cwd date now) cwd
    (archivePath date) = 0 ↔ now = some bytes

/-! ## Names -/

section Names

variable (date : Tm)

lemma notMem_archiveName {c : Char} (hlead : c ∉ archiveLead) (hdigit : c.isDigit = false)
    (hsep : c ≠ '_') (hend : c ∉ archiveEnd) : c ∉ archiveName date := by
  intro h
  rcases List.mem_append.mp h with h | h
  · exact hlead h
  rcases List.mem_append.mp h with h | h
  · rcases mem_stamp h with h | h
    · exact Bool.noConfusion (hdigit.symm.trans h)
    · exact hsep h
  · exact hend h

lemma slash_notMem_archiveName : '/' ∉ archiveName date :=
  notMem_archiveName date (by decide) rfl (by decide) (by decide)

lemma newline_notMem_archiveName : '\n' ∉ archiveName date :=
  notMem_archiveName date (by decide) rfl (by decide) (by decide)

lemma plainName_of_length {n : CStr} (hlen : 2 < n.length) (hslash : '/' ∉ n) : PlainName n where
  ne_nil h := by simp [h] at hlen
  ne_dot h := by simp [h] at hlen
  ne_dots h := by simp [h] at hlen
  no_slash := hslash

lemma plainName_archiveName : PlainName (archiveName date) :=
  plainName_of_length (by simp) (slash_notMem_archiveName date)

lemma plainName_checksumName : PlainName (checksumName (archiveName date)) := by
  refine plainName_of_length (by simp) fun h => ?_
  exact (List.mem_append.mp h).elim (slash_notMem_archiveName date) (by decide)

lemma resolve_fullDir (cwd : Path) : resolve cwd (fullDir ++ ['/']) = fullPath := rfl

@[simp] lemma resolve_archivePath (cwd : Path) :
    resolve cwd (archivePath date) = fullPath ++ [archiveName date] := by
  rw [archivePath, resolve_name cwd fullDir (plainName_archiveName date), resolve_fullDir]

@[simp] lemma resolve_checksumName (cwd : Path) :
    resolve cwd (checksumName (archivePath date)) =
      fullPath ++ [checksumName (archiveName date)] := by
  rw [archivePath, checksumName, List.append_assoc, List.cons_append, ← checksumName,
    resolve_name cwd fullDir (plainName_checksumName date), resolve_fullDir]

/-- No file with the archive's name is a checksum file. -/
lemma archive_ne_checksum (p q : Path) :
    p ++ [archiveName date] ≠ q ++ [checksumName (archiveName date)] := by
  intro h
  have hlast := List.append_inj_right' h rfl
  exact archiveName_ne_checksumName date date (List.singleton_injective hlast)

end Names

/-! ## The checksum file -/

section Check

variable {sha : Sha256} {fs : FileStore} {made cwd : Path} {date : Tm} {bytes : CStr}
  {now : Option CStr}

lemma newline_notMem_digest : '\n' ∉ sha.digest bytes := by
  intro h
  have hhex := List.all_eq_true.mp (sha.hex bytes) _ h
  exact absurd hhex (by decide)

lemma checkEntry_line {sum name : CStr} (hlen : sum.length = 64) (hhex : sum.all isHex = true) :
    checkEntry (sum ++ ' ' :: ' ' :: name) = some (sum, name) := by
  have htake : (sum ++ ' ' :: ' ' :: name).take 64 = sum := List.take_left' hlen
  have hdrop : (sum ++ ' ' :: ' ' :: name).drop 64 = ' ' :: ' ' :: name := List.drop_left' hlen
  simp only [checkEntry, htake, hdrop]
  exact if_pos ⟨hlen, hhex, rfl, Or.inl rfl⟩

/-- What `backup_full_tar` writes is read as the checksum of a file with the archive's name. -/
lemma checkEntries_checksumText :
    checkEntries (checksumText sha bytes date) = [(sha.digest bytes, archiveName date)] := by
  have hnewline : ∀ c ∈ sha.digest bytes ++ ' ' :: ' ' :: archiveName date, c ≠ '\n' := by
    rintro c hc rfl
    rcases List.mem_append.mp hc with hc | hc
    · exact newline_notMem_digest hc
    · have htail := (List.mem_cons.mp hc).resolve_left (by decide)
      exact newline_notMem_archiveName date ((List.mem_cons.mp htail).resolve_left (by decide))
  have hne : sha.digest bytes ++ ' ' :: ' ' :: archiveName date ≠ [] :=
    List.append_ne_nil_of_right_ne_nil _ (List.cons_ne_nil _ _)
  rw [checkEntries, checksumText, tokens_line hnewline hne]
  simp only [tokens, tokensFrom, if_true, List.filterMap_cons, List.filterMap_nil,
    checkEntry_line (sha.length_digest bytes) (sha.hex bytes)]

lemma sha256sumCheck_checksumText :
    sha256sumCheck sha fs cwd (checksumText sha bytes date) = true ↔
      ∃ c, fs (cwd ++ [archiveName date]) = some c ∧ sha.digest c = sha.digest bytes := by
  rw [sha256sumCheck, checkEntries_checksumText]
  simp [resolve_plain cwd (plainName_archiveName date), Option.any_eq_true]

/-- The file that is checked: the one in the working directory with the archive's name. -/
def checkedFile (fs : FileStore) (cwd : Path) (date : Tm) (now : Option CStr) : Option CStr :=
  if cwd = fullPath then now else fs (cwd ++ [archiveName date])

lemma changeArchive_archive :
    changeArchive (tarFiles sha fs made date bytes) cwd date now (cwd ++ [archiveName date]) =
      checkedFile fs cwd date now := by
  have hne : cwd ++ [archiveName date] ≠ fullPath ++ [checksumName (archiveName date)] :=
    archive_ne_checksum date _ _
  simp only [changeArchive, tarFiles, resolve_archivePath, resolve_checksumName,
    Function.update_apply, if_neg hne, checkedFile, List.append_left_inj]
  split_ifs <;> rfl

lemma changeArchive_checksum :
    changeArchive (tarFiles sha fs made date bytes) cwd date now
      (fullPath ++ [checksumName (archiveName date)]) = some (checksumText sha bytes date) := by
  rw [changeArchive, resolve_archivePath, Function.update_of_ne (archive_ne_checksum date _ _).symm,
    tarFiles, resolve_checksumName, Function.update_self]

/-- `verify_backup` answers for the file in the working directory. -/
lemma verifyBackup_eq_zero_iff :
    verifyBackup sha (changeArchive (tarFiles sha fs made date bytes) cwd date now) cwd
        (archivePath date) = 0 ↔
      ∃ c, checkedFile fs cwd date now = some c ∧ sha.digest c = sha.digest bytes := by
  have hfile : changeArchive (tarFiles sha fs made date bytes) cwd date now
      (cwd ++ [archiveName date]) = checkedFile fs cwd date now := changeArchive_archive
  rw [verifyBackup, resolve_checksumName, changeArchive_checksum, ← hfile,
    ← sha256sumCheck_checksumText]
  simp

/-- The checksum tells the bytes of the backup from those that are compared with them. -/
def CollisionFree (sha : Sha256) (fs : FileStore) (cwd : Path) (date : Tm) (bytes : CStr)
    (now : Option CStr) : Prop :=
  ∀ c, checkedFile fs cwd date now = some c → sha.digest c = sha.digest bytes → c = bytes

lemma CollisionFree.checked_iff (h : CollisionFree sha fs cwd date bytes now) :
    (∃ c, checkedFile fs cwd date now = some c ∧ sha.digest c = sha.digest bytes) ↔
      checkedFile fs cwd date now = some bytes := by
  constructor
  · rintro ⟨c, hc, hsum⟩
    rw [hc, h c hc hsum]
  · exact fun hc => ⟨bytes, hc, rfl⟩

/-- The answer is about the archive exactly if the script runs in `/backup/full`, or the file with
the archive's name in its own directory has the bytes of the backup just when the archive has. -/
theorem verify_backup_iff (h : CollisionFree sha fs cwd date bytes now) :
    VerifiesArchive sha fs made cwd date bytes now ↔
      cwd = fullPath ∨ (fs (cwd ++ [archiveName date]) = some bytes ↔ now = some bytes) := by
  rw [VerifiesArchive, verifyBackup_eq_zero_iff, h.checked_iff, checkedFile]
  by_cases hcwd : cwd = fullPath
  · simp [hcwd]
  · rw [if_neg hcwd, or_iff_right hcwd]

/-- From another directory the answer is the same whatever becomes of the archive. -/
lemma verifyBackup_elsewhere (hcwd : cwd ≠ fullPath) (now now' : Option CStr) :
    verifyBackup sha (changeArchive (tarFiles sha fs made date bytes) cwd date now) cwd
        (archivePath date) = 0 ↔
      verifyBackup sha (changeArchive (tarFiles sha fs made date bytes) cwd date now') cwd
        (archivePath date) = 0 := by
  rw [verifyBackup_eq_zero_iff, verifyBackup_eq_zero_iff, checkedFile, checkedFile, if_neg hcwd,
    if_neg hcwd]

end Check

/-! ## Runs -/

/-- A checksum that tells one archive from all others. -/
def sampleSha : Sha256 where
  digest bytes := List.replicate 64 (if bytes = "tar".toList then '1' else '0')
  length_digest _ := List.length_replicate
  hex bytes := by
    split_ifs <;> rfl

lemma sampleSha_collisionFree (fs : FileStore) (cwd : Path) (now : Option CStr) :
    CollisionFree sampleSha fs cwd newYear "tar".toList now := by
  intro c _ hsum
  by_contra hne
  have hdigit := (List.replicate_inj.mp hsum).2.resolve_left (by decide)
  rw [if_neg hne, if_pos rfl] at hdigit
  exact absurd hdigit (by decide)

/-- In `/backup/full` a damaged archive is found out. -/
theorem verify_backup_in_place :
    CollisionFree sampleSha (fun _ => none) fullPath newYear "tar".toList (some "rat".toList) ∧
      VerifiesArchive sampleSha (fun _ => none) [] fullPath newYear "tar".toList
        (some "rat".toList) :=
  ⟨sampleSha_collisionFree _ _ _,
    (verify_backup_iff (sampleSha_collisionFree _ _ _)).mpr (Or.inl rfl)⟩

/-- From the root an intact archive fails, and so does every other. -/
theorem verify_backup_fails_elsewhere :
    CollisionFree sampleSha (fun _ => none) [] newYear "tar".toList (some "tar".toList) ∧
      ¬ VerifiesArchive sampleSha (fun _ => none) [] [] newYear "tar".toList
        (some "tar".toList) := by
  refine ⟨sampleSha_collisionFree _ _ _, fun hclaim => ?_⟩
  obtain ⟨c, hc, _⟩ := verifyBackup_eq_zero_iff.mp (hclaim.mpr rfl)
  have hnone : checkedFile (fun _ => none) [] newYear (some "tar".toList) = none :=
    if_neg (List.cons_ne_nil _ _).symm
  rw [hnone] at hc
  exact Option.some_ne_none c hc.symm

end Storage
