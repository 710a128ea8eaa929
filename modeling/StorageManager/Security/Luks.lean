import StorageManager.CommandLines

/-!
# Encrypted volumes

`luks_format`, `luks_open`, `luks_close` and `luks_change_password` run `cryptsetup` and hand it the
passphrases in files: `mkstemp`, `write`, the command, `unlink`.  Each call is modelled as the list
of its system calls (`LuksPlan.acts`), so that it can also be cut off after any of them.

What `cryptsetup` does is a parameter (`LuksTools`).  The shell reads the words of a command line
(`LuksCall.Plain.parse`), and what `cryptsetup` is given as a key is what `write` put into the file:
nobody looks at what `write` returns.
-/

namespace Storage

open CString Shell CommandCall

/-! ## The calls -/

/-- The tool. -/
def cryptsetupWord : CStr := ['c', 'r', 'y', 'p', 't', 's', 'e', 't', 'u', 'p']

/-- The command of `luks_format`. -/
def luksFormatWord : CStr := ['l', 'u', 'k', 's', 'F', 'o', 'r', 'm', 'a', 't']

/-- The command of `luks_open`. -/
def luksOpenWord : CStr := ['l', 'u', 'k', 's', 'O', 'p', 'e', 'n']

/-- The command of `luks_close`. -/
def luksCloseWord : CStr := ['l', 'u', 'k', 's', 'C', 'l', 'o', 's', 'e']

/-- The command of `luks_change_password`. -/
def luksChangeKeyWord : CStr := ['l', 'u', 'k', 's', 'C', 'h', 'a', 'n', 'g', 'e', 'K', 'e', 'y']

/-- The option against questions. -/
def batchModeWord : CStr := ['-', '-', 'b', 'a', 't', 'c', 'h', '-', 'm', 'o', 'd', 'e']

/-- The option for the file with the passphrase. -/
def keyFileWord : CStr := ['-', '-', 'k', 'e', 'y', '-', 'f', 'i', 'l', 'e']

/-- The option for the cipher. -/
def cipherWord : CStr := ['-', '-', 'c', 'i', 'p', 'h', 'e', 'r']

/-- The option for the length of the key. -/
def keySizeWord : CStr := ['-', '-', 'k', 'e', 'y', '-', 's', 'i', 'z', 'e']

/-- The command of the two format functions up to the file. -/
def formatLead : CStr := "cryptsetup luksFormat --batch-mode --key-file ".toList

/-- The option for the cipher, in the middle of a line. -/
def cipherLead : CStr := " --cipher ".toList

/-- The option for the length of the key, in the middle of a line. -/
def keySizeLead : CStr := " --key-size ".toList

/-- The command of `luks_open` up to the file. -/
def openLead : CStr := "cryptsetup luksOpen --key-file ".toList

/-- The command of `luks_close` up to the name. -/
def closeLead : CStr := "cryptsetup luksClose ".toList

/-- The command of `luks_change_password` up to the device. -/
def changeLead : CStr := "cryptsetup luksChangeKey ".toList

/-- The option for the file, in the middle of a line. -/
def keyFileLead : CStr := " --key-file ".toList

/-- `cryptsetup luksFormat --batch-mode --key-file %s %s 2>&1`. -/
def formatText (file device : CStr) : CStr :=
  formatLead ++ (file ++ (' ' :: (device ++ errToOut)))

/-- The same with `--cipher %s --key-size %d` before the device. -/
def formatAdvancedText (file cipher : CStr) (keySize : ℤ) (device : CStr) : CStr :=
  formatLead ++ (file ++ (cipherLead ++ (cipher ++ (keySizeLead ++
    (intText keySize ++ (' ' :: (device ++ errToOut)))))))

/-- The cipher is used if it is given with a key size. -/
def luksFormatText (file : CStr) (cipher : Option CStr) (keySize : ℤ) (device : CStr) : CStr :=
  match cipher with
  | some cipher =>
      if 0 < keySize then formatAdvancedText file cipher keySize device else formatText file device
  | none => formatText file device

/-- `cryptsetup luksOpen --key-file %s %s %s 2>&1`. -/
def openText (file device name : CStr) : CStr :=
  openLead ++ (file ++ (' ' :: (device ++ (' ' :: (name ++ errToOut)))))

/-- `cryptsetup luksClose %s 2>&1`. -/
def closeText (name : CStr) : CStr := closeLead ++ (name ++ errToOut)

/-- `cryptsetup luksChangeKey %s --key-file %s %s 2>&1`. -/
def changeText (device old new : CStr) : CStr :=
  changeLead ++ (device ++ (keyFileLead ++ (old ++ (' ' :: (new ++ errToOut)))))

/-- The name of the file with the passphrase, up to the pid. -/
def passLead : CStr := "/tmp/luks_pass_".toList

/-- The name of the file with the old passphrase, up to the pid. -/
def oldLead : CStr := "/tmp/luks_old_".toList

/-- The name of the file with the new passphrase, up to the pid. -/
def newLead : CStr := "/tmp/luks_new_".toList

/-- The calls; `luks_format` is `luks_format_advanced` without a cipher. -/
inductive LuksCall
  | format (device passphrase : CStr) (cipher : Option CStr) (keySize : ℤ)
  | openAs (device name passphrase : CStr)
  | close (name : CStr)
  | change (device oldPass newPass : CStr)

namespace LuksCall

/-- The text of the command, with its key files. -/
def text (f g : CStr) : LuksCall → CStr
  | format device _ cipher keySize => luksFormatText f cipher keySize device
  | openAs device name _ => openText f device name
  | close name => closeText name
  | change device _ _ => changeText device f g

/-- The words the call has in mind. -/
def words (f g : CStr) : LuksCall → List CStr
  | format device _ (some cipher) keySize =>
      if 0 < keySize then
        [cryptsetupWord, luksFormatWord, batchModeWord, keyFileWord, f, cipherWord, cipher,
          keySizeWord, intText keySize, device]
      else [cryptsetupWord, luksFormatWord, batchModeWord, keyFileWord, f, device]
  | format device _ none _ =>
      [cryptsetupWord, luksFormatWord, batchModeWord, keyFileWord, f, device]
  | openAs device name _ => [cryptsetupWord, luksOpenWord, keyFileWord, f, device, name]
  | close name => [cryptsetupWord, luksCloseWord, name]
  | change device _ _ => [cryptsetupWord, luksChangeKeyWord, device, keyFileWord, f, g]

/-- Where the names of the key files begin. -/
def leads : LuksCall → CStr × CStr
  | change .. => (oldLead, newLead)
  | format .. | openAs .. | close .. => (passLead, passLead)

/-- The device it is about, if it names one. -/
def devices : LuksCall → List CStr
  | format device _ _ _ | openAs device _ _ | change device _ _ => [device]
  | close _ => []

/-- The strings of the command are words that stand for themselves, and no options. -/
def Operands : LuksCall → Prop
  | format device _ cipher keySize => Operand device ∧ (0 < keySize → ∀ w ∈ cipher, BareWord w)
  | openAs device name _ => Operand device ∧ Operand name
  | close name => Operand name
  | change device _ _ => Operand device

/-- A call with strings that stand for themselves, and a command that fits. -/
def Plain (c : LuksCall) : Prop :=
  (c.text (c.leads.1 ++ "XXXXXX".toList) (c.leads.2 ++ "XXXXXX".toList)).length < maxCommand ∧
    c.Operands

/-- The passphrases stand in the key files. -/
def HasKeys (file : CStr → Option CStr) (f g : CStr) : LuksCall → Prop
  | format _ passphrase _ _ | openAs _ _ passphrase => file f = some passphrase
  | close _ => True
  | change _ oldPass newPass => file f = some oldPass ∧ file g = some newPass

end LuksCall

/-! ## The system -/

/-- The characters `mkstemp` puts for the six `X`. -/
structure TempName where
  text : CStr
  length_text : text.length = 6
  alphanum : ∀ c ∈ text, c.isAlphanum = true

/-- The name of a key file. -/
def IsTemp (lead f : CStr) : Prop := ∃ x : TempName, f = lead ++ x.text

/-- The volumes and the files. -/
structure LuksSystem (σ : Type*) where
  volumes : σ
  file : CStr → Option CStr

/-- The programs: what one does when it is run with these words, and what `cryptsetup` should do to
a picture of the volumes for a call, with the keys that are in the files.  `cryptsetup` does that or
it fails and has not changed the picture, and of the files it may touch the device only.  A line
that the shell does not take for a simple command may do anything. -/
structure LuksTools (σ α : Type*) where
  deviceExists : LuksSystem σ → CStr → Bool
  program : List CStr → LuksSystem σ → LuksSystem σ × ExitStatus
  wild : CStr → LuksSystem σ → LuksSystem σ × ExitStatus
  view : σ → α
  spec : LuksCall → α → Option α
  cryptsetup_done : ∀ {c : LuksCall} {f g s}, c.Operands → IsTemp c.leads.1 f → IsTemp c.leads.2 g →
    c.HasKeys s.file f g → (program (c.words f g) s).2 = .exited 0 →
    spec c (view s.volumes) = some (view (program (c.words f g) s).1.volumes)
  cryptsetup_failed : ∀ {c : LuksCall} {f g s}, c.Operands →
    IsTemp c.leads.1 f → IsTemp c.leads.2 g → (program (c.words f g) s).2 ≠ .exited 0 →
    view (program (c.words f g) s).1.volumes = view s.volumes
  cryptsetup_files : ∀ {c : LuksCall} {f g s p}, c.Operands →
    IsTemp c.leads.1 f → IsTemp c.leads.2 g → p ∉ c.devices →
    (program (c.words f g) s).1.file p = s.file p

/-- What a call meets: the caller, whether the shell can be started, the names `mkstemp` hits upon
and how much `write` writes, for one file and for a second. -/
structure LuksEnv where
  root : Bool
  started : Bool
  temp : Option TempName
  temp' : Option TempName
  wrote : ℕ
  wrote' : ℕ

/-- The key files. -/
def LuksCall.files (env : LuksEnv) (f g : CStr) : LuksCall → List (CStr × CStr)
  | format _ passphrase _ _ | openAs _ _ passphrase => [(f, passphrase.take env.wrote)]
  | close _ => []
  | change _ oldPass newPass => [(f, oldPass.take env.wrote), (g, newPass.take env.wrote')]

/-- The call with as much of its passphrases as was written. -/
def LuksCall.written (env : LuksEnv) : LuksCall → LuksCall
  | format device passphrase cipher keySize =>
      format device (passphrase.take env.wrote) cipher keySize
  | openAs device name passphrase => openAs device name (passphrase.take env.wrote)
  | close name => close name
  | change device oldPass newPass =>
      change device (oldPass.take env.wrote) (newPass.take env.wrote')

section Functions

variable {σ α : Type*} (t : LuksTools σ α) (env : LuksEnv)

/-- A name that is taken already is not used. -/
def mkstemp (s : LuksSystem σ) (lead : CStr) (temp : Option TempName) : Option CStr :=
  temp.bind fun x => if (s.file (lead ++ x.text)).isNone then some (lead ++ x.text) else none

/-- The shell with a command line. -/
def LuksTools.shell (s : LuksSystem σ) (cmd : CStr) : LuksSystem σ × ExitStatus :=
  match parse cmd with
  | some r => t.program r.1 s
  | none => t.wild cmd s

/-- What `popen` gives for a command line. -/
def LuksTools.popen (s : LuksSystem σ) (cmd : CStr) : Option CommandRun :=
  if env.started then some ⟨[], (t.shell s cmd).2⟩ else none

/-! ## The functions -/

/-- The system calls the functions make. -/
inductive LuksAct
  | create (file : CStr)
  | write (file content : CStr)
  | shell (cmd : CStr)
  | unlink (file : CStr)

/-- What a system call does. -/
def LuksAct.exec (s : LuksSystem σ) : LuksAct → LuksSystem σ
  | create file => { s with file := Function.update s.file file (some []) }
  | write file content => { s with file := Function.update s.file file (some content) }
  | shell cmd => if env.started then (t.shell s cmd).1 else s
  | unlink file => { s with file := Function.update s.file file none }

/-- What a call is going to do: return early, or run a command between the key files and a buffer
for its output. -/
inductive LuksPlan
  | early (acts : List LuksAct) (code : Ret)
  | run (files : List (CStr × CStr)) (cmd : CStr) (outputSize : ℕ)

namespace LuksPlan

/-- The files are created and written, and removed after the command. -/
def acts : LuksPlan → List LuksAct
  | early acts _ => acts
  | run files cmd _ =>
      files.map (fun f => .create f.1) ++ (files.map (fun f => .write f.1 f.2) ++
        .shell cmd :: files.map fun f => .unlink f.1)

/-- The system the command finds. -/
def prepared (s : LuksSystem σ) (files : List (CStr × CStr)) : LuksSystem σ :=
  { s with file := files.foldl (fun file f => Function.update file f.1 (some f.2)) s.file }

/-- The code the call returns. -/
def code (s : LuksSystem σ) : LuksPlan → Ret
  | early _ code => code
  | run files cmd outputSize =>
      (executeCommand (t.popen env (prepared s files) cmd) outputSize).1

end LuksPlan

variable (s : LuksSystem σ)

/-- `luks_format_advanced`. -/
def luksFormatAdvanced (device passphrase : CStr) (cipher : Option CStr) (keySize : ℤ) : LuksPlan :=
  if env.root = false then .early [] .errorPermission
  else if t.deviceExists s device = false then .early [] .errorNotFound
  else
    match mkstemp s passLead env.temp with
    | none => .early [] .errorSystemCall
    | some passFile =>
        .run [(passFile, passphrase.take env.wrote)]
          (fit maxCommand (luksFormatText passFile cipher keySize device)) maxOutput

/-- `luks_format`. -/
def luksFormat (device passphrase : CStr) : LuksPlan :=
  luksFormatAdvanced t env s device passphrase none 0

/-- `luks_open`. -/
def luksOpen (device name passphrase : CStr) : LuksPlan :=
  if env.root = false then .early [] .errorPermission
  else
    match mkstemp s passLead env.temp with
    | none => .early [] .errorSystemCall
    | some passFile =>
        .run [(passFile, passphrase.take env.wrote)]
          (fit maxCommand (openText passFile device name)) maxOutput

/-- `luks_close`. -/
def luksClose (name : CStr) : LuksPlan :=
  if env.root = false then .early [] .errorPermission
  else .run [] (fit maxCommand (closeText name)) maxOutput

/-- `luks_change_password`.  A file that `mkstemp` has made stays if the other one cannot be. -/
def luksChangePassword (device oldPass newPass : CStr) : LuksPlan :=
  if env.root = false then .early [] .errorPermission
  else
    match mkstemp s oldLead env.temp, mkstemp s newLead env.temp' with
    | some oldFile, some newFile =>
        .run [(oldFile, oldPass.take env.wrote), (newFile, newPass.take env.wrote')]
          (fit maxCommand (changeText device oldFile newFile)) 0
    | fd1, fd2 => .early ((fd1.toList ++ fd2.toList).map .create) .errorSystemCall

/-- What a call is going to do. -/
def LuksCall.plan : LuksCall → LuksPlan
  | format device passphrase cipher keySize =>
      luksFormatAdvanced t env s device passphrase cipher keySize
  | openAs device name passphrase => luksOpen env s device name passphrase
  | close name => luksClose env name
  | change device oldPass newPass => luksChangePassword env s device oldPass newPass

/-- A call: the system after it, and the code it returns; `none` when it is cut off after so many of
its system calls. -/
def luksCall (c : LuksCall) : Option ℕ → LuksSystem σ × Option Ret
  | none =>
      ((c.plan t env s).acts.foldl (LuksAct.exec t env) s, some ((c.plan t env s).code t env s))
  | some n => (((c.plan t env s).acts.take n).foldl (LuksAct.exec t env) s, none)

end Functions

/-! ## The command lines -/

section CommandLines

variable {c : LuksCall} {f g : CStr}

lemma formatLead_eq : formatLead = cryptsetupWord ++ ' ' :: (luksFormatWord ++ ' ' ::
    (batchModeWord ++ ' ' :: (keyFileWord ++ [' ']))) := String.toList_ofList

lemma cipherLead_eq : cipherLead = ' ' :: (cipherWord ++ [' ']) := String.toList_ofList

lemma keySizeLead_eq : keySizeLead = ' ' :: (keySizeWord ++ [' ']) := String.toList_ofList

lemma openLead_eq : openLead = cryptsetupWord ++ ' ' :: (luksOpenWord ++ ' ' ::
    (keyFileWord ++ [' '])) := String.toList_ofList

lemma closeLead_eq : closeLead = cryptsetupWord ++ ' ' :: (luksCloseWord ++ [' ']) :=
  String.toList_ofList

lemma changeLead_eq : changeLead = cryptsetupWord ++ ' ' :: (luksChangeKeyWord ++ [' ']) :=
  String.toList_ofList

lemma keyFileLead_eq : keyFileLead = ' ' :: (keyFileWord ++ [' ']) := String.toList_ofList

lemma LuksCall.text_eq_line (c : LuksCall) (f g : CStr) :
    c.text f g = line ((c.words f g).map Piece.bare) ++ errToOut := by
  have hformat : ∀ device, formatText f device
      = line ([cryptsetupWord, luksFormatWord, batchModeWord, keyFileWord, f, device].map
          Piece.bare) ++ errToOut := by
    intro device
    simp [formatText, formatLead_eq, line, lineTail, Piece.text]
  cases c with
  | format device pass cipher keySize =>
      cases cipher with
      | none => exact hformat device
      | some cipher =>
          rw [text, words, luksFormatText]
          split_ifs
          · simp [formatAdvancedText, formatLead_eq, cipherLead_eq, keySizeLead_eq, line, lineTail,
              Piece.text]
          · exact hformat device
  | openAs device name pass =>
      simp [text, words, openText, openLead_eq, line, lineTail, Piece.text]
  | close name => simp [text, words, closeText, closeLead_eq, line, lineTail, Piece.text]
  | change device oldPass newPass =>
      simp [text, words, changeText, changeLead_eq, keyFileLead_eq, line, lineTail, Piece.text]

lemma IsTemp.bareWord {lead : CStr} (hlead : BareWord lead) (h : IsTemp lead f) : BareWord f := by
  obtain ⟨x, rfl⟩ := h
  exact Piece.Ok.bare_append hlead fun d hd => isBare_of_isAlphanum (x.alphanum d hd)

lemma bareWord_intText {n : ℤ} (hn : 0 < n) : BareWord (intText n) := by
  obtain ⟨k, rfl⟩ := Int.eq_ofNat_of_zero_le hn.le
  refine ⟨decimal_ne_nil k, fun _ => isBare_of_mem_decimal, fun d hd => ?_⟩
  have hd' := isAlphanum_of_mem_decimal (List.mem_of_mem_head? hd)
  simp only [isLeading, Bool.or_eq_false_iff, beq_eq_false_iff_ne]
  exact ⟨ne_of_isAlphanum hd' (by decide), ne_of_isAlphanum hd' (by decide)⟩

lemma bareWord_leads (c : LuksCall) : BareWord c.leads.1 ∧ BareWord c.leads.2 := by
  have hpass : BareWord passLead := ⟨by decide, by decide⟩
  have hold : BareWord oldLead := ⟨by decide, by decide⟩
  have hnew : BareWord newLead := ⟨by decide, by decide⟩
  cases c <;> exact ⟨by assumption, by assumption⟩

lemma LuksCall.Plain.bareWord (h : c.Plain) (hf : BareWord f) (hg : BareWord g) :
    ∀ w ∈ c.words f g, BareWord w := by
  have hfixed : ∀ w ∈ [cryptsetupWord, luksFormatWord, luksOpenWord, luksCloseWord,
      luksChangeKeyWord, batchModeWord, keyFileWord, cipherWord, keySizeWord],
      (Piece.bare w).Ok := by decide
  simp only [List.forall_mem_cons] at hfixed
  obtain ⟨h1, h2, h3, h4, h5, h6, h7, h8, h9, -⟩ := hfixed
  obtain ⟨-, hplain⟩ := h
  cases c with
  | format device pass cipher keySize =>
      obtain ⟨hdevice, hcipher⟩ := hplain
      cases cipher with
      | none =>
          simp only [words, List.forall_mem_cons]
          exact ⟨h1, h2, h6, h7, hf, hdevice.1, by simp⟩
      | some cipher =>
          rw [words]
          split_ifs with hsize
          · simp only [List.forall_mem_cons]
            exact ⟨h1, h2, h6, h7, hf, h8, hcipher hsize _ rfl, h9, bareWord_intText hsize,
              hdevice.1, by simp⟩
          · simp only [List.forall_mem_cons]
            exact ⟨h1, h2, h6, h7, hf, hdevice.1, by simp⟩
  | openAs device name pass =>
      simp only [words, List.forall_mem_cons]
      exact ⟨h1, h3, h7, hf, hplain.1.1, hplain.2.1, by simp⟩
  | close name =>
      simp only [words, List.forall_mem_cons]
      exact ⟨h1, h4, hplain.1, by simp⟩
  | change device oldPass newPass =>
      simp only [words, List.forall_mem_cons]
      exact ⟨h1, h5, hplain.1, h7, hf, hg, by simp⟩

lemma LuksCall.length_text {f' g' : CStr} (hf : f.length = f'.length) (hg : g.length = g'.length) :
    (c.text f g).length = (c.text f' g').length := by
  cases c with
  | format device pass cipher keySize =>
      cases cipher with
      | none => simp [text, luksFormatText, formatText, hf]
      | some cipher =>
          simp only [text, luksFormatText]
          split_ifs
          · simp [formatAdvancedText, hf]
          · simp [formatText, hf]
  | openAs device name pass => simp [text, openText, hf]
  | close name => rfl
  | change device oldPass newPass => simp [text, changeText, hf, hg]

/-- The shell reads the words the call has in mind. -/
lemma LuksCall.Plain.parse (h : c.Plain) (hf : IsTemp c.leads.1 f) (hg : IsTemp c.leads.2 g) :
    Shell.parse (fit maxCommand (c.text f g)) = some (c.words f g, true) := by
  have hlength : ∀ {lead f : CStr}, IsTemp lead f →
      f.length = (lead ++ "XXXXXX".toList).length := by
    rintro lead _ ⟨x, rfl⟩
    rw [List.length_append, List.length_append, x.length_text]
    rfl
  have hlen := h.1
  rw [← LuksCall.length_text (hlength hf) (hlength hg), c.text_eq_line] at hlen
  rw [c.text_eq_line]
  refine parse_fit_bare ?_ (h.bareWord (hf.bareWord (bareWord_leads c).1)
    (hg.bareWord (bareWord_leads c).2)) hlen
  cases c with
  | format device pass cipher keySize =>
      cases cipher with
      | none => exact List.cons_ne_nil _ _
      | some cipher =>
          rw [words]
          split_ifs <;> exact List.cons_ne_nil _ _
  | openAs | close | change => exact List.cons_ne_nil _ _

/-- What was written of the passphrases is not in the words. -/
lemma LuksCall.words_written (env : LuksEnv) (c : LuksCall) (f g : CStr) :
    (c.written env).words f g = c.words f g := by
  cases c with
  | format device pass cipher keySize => cases cipher <;> rfl
  | openAs | close | change => rfl

lemma LuksCall.operands_written (env : LuksEnv) : (c.written env).Operands ↔ c.Operands := by
  cases c <;> rfl

end CommandLines

end Storage
