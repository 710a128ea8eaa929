import StorageManager.CommandLines
import StorageManager.Lib.Told
import StorageManager.Security.Acl

/-!
# Access control lists over a run of calls

`acl_set`, `acl_set_default`, `acl_set_recursive`, `acl_remove` and `acl_remove_all` each print a
`setfacl` command and run it, and `acl_get` decodes what `getfacl` prints.  What `setfacl` makes of
its words is a parameter (`AclTools`); here is the way from the strings of a call to those words and
from the code it returns back to the lists.

A failure says that nothing has happened only where the command is a single step: `setfacl -R` may
have got through a part of the tree, and `setfacl -b` removes two lists (`AclCall.several`).

* `aclCall_honest` — one call: what it returns says what has happened to the lists.
* `acl_runs_decoded` — any run of calls: `acl_get` shows the list that the codes tell of.
-/

namespace Storage

open CString Shell CommandCall

/-! ## The functions -/

/-- `u:user:perms path`, with the redirection. -/
def entryText (path user perms : CStr) : CStr :=
  user ++ (':' :: (perms ++ (' ' :: (path ++ errToOut))))

/-- The command of `acl_set_default` up to the user. -/
def setDefaultLead : CStr := "setfacl -d -m u:".toList

/-- The command of `acl_set_recursive` up to the user. -/
def setRecursiveLead : CStr := "setfacl -R -m u:".toList

/-- The command of `acl_remove` up to the user. -/
def removeLead : CStr := "setfacl -x u:".toList

/-- The command of `acl_remove_all` up to the path. -/
def removeAllLead : CStr := "setfacl -b ".toList

section Functions

variable {β : Type*} (env : FsEnv β)

/-- What the functions without a check of the path do with their command. -/
def aclCommand (text : CStr) : Ret × Option CStr :=
  if env.isRoot = false then (.errorPermission, none)
  else
    let cmd := fit maxCommand text
    (if (executeCommand (env.popen cmd) maxOutput).1 = .success then .success
      else .errorSystemCall, some cmd)

/-- `acl_set_default`. -/
def aclSetDefault (path user perms : CStr) : Ret × Option CStr :=
  aclCommand env (setDefaultLead ++ entryText path user perms)

/-- `acl_set_recursive`. -/
def aclSetRecursive (path user perms : CStr) : Ret × Option CStr :=
  aclCommand env (setRecursiveLead ++ entryText path user perms)

/-- `acl_remove`. -/
def aclRemove (path user : CStr) : Ret × Option CStr :=
  aclCommand env (removeLead ++ (user ++ (' ' :: (path ++ errToOut))))

/-- `acl_remove_all`. -/
def aclRemoveAll (path : CStr) : Ret × Option CStr :=
  aclCommand env (removeAllLead ++ (path ++ errToOut))

end Functions

/-- The tool that changes a list. -/
def setfaclWord : CStr := ['s', 'e', 't', 'f', 'a', 'c', 'l']

/-- The tool that prints a list. -/
def getfaclWord : CStr := ['g', 'e', 't', 'f', 'a', 'c', 'l']

/-- The calls that change a list. -/
inductive AclCall
  | set (path user perms : CStr)
  | setDefault (path user perms : CStr)
  | setRecursive (path user perms : CStr)
  | remove (path user : CStr)
  | removeAll (path : CStr)

namespace AclCall

/-- The code a call returns and the command it runs. -/
def run {β : Type*} (env : FsEnv β) : AclCall → Ret × Option CStr
  | set path user perms => aclSet env path user perms
  | setDefault path user perms => aclSetDefault env path user perms
  | setRecursive path user perms => aclSetRecursive env path user perms
  | remove path user => aclRemove env path user
  | removeAll path => aclRemoveAll env path

/-- The path a call is about. -/
def path : AclCall → CStr
  | set path _ _ | setDefault path _ _ | setRecursive path _ _ | remove path _ | removeAll path =>
      path

/-- The text of the command. -/
def text : AclCall → CStr
  | set path user perms => setfaclText path user perms
  | setDefault path user perms => setDefaultLead ++ entryText path user perms
  | setRecursive path user perms => setRecursiveLead ++ entryText path user perms
  | remove path user => removeLead ++ (user ++ (' ' :: (path ++ errToOut)))
  | removeAll path => removeAllLead ++ (path ++ errToOut)

/-- `u:user:perms`. -/
def entry (user perms : CStr) : CStr := 'u' :: ':' :: (user ++ ':' :: perms)

/-- The options of `setfacl`. -/
def options : AclCall → List CStr
  | set .. => [['-', 'm']]
  | setDefault .. => [['-', 'd'], ['-', 'm']]
  | setRecursive .. => [['-', 'R'], ['-', 'm']]
  | remove .. => [['-', 'x']]
  | removeAll .. => [['-', 'b']]

/-- What follows them. -/
def operands : AclCall → List CStr
  | set path user perms | setDefault path user perms | setRecursive path user perms =>
      [entry user perms, path]
  | remove path user => ['u' :: ':' :: user, path]
  | removeAll path => [path]

/-- The words the call has in mind. -/
def words (c : AclCall) : List CStr := setfaclWord :: (c.options ++ c.operands)

/-- A call with strings that stand for themselves, and a command that fits. -/
def Plain (c : AclCall) : Prop :=
  Operand c.path ∧ c.text.length < maxCommand ∧
    match c with
    | set _ user perms | setDefault _ user perms | setRecursive _ user perms =>
        ∀ c ∈ user ++ perms, isBare c = true
    | remove _ user => ∀ c ∈ user, isBare c = true
    | removeAll _ => True

/-- The command takes several steps, and may fail between them. -/
def several : AclCall → Bool
  | setRecursive .. | removeAll _ => true
  | set .. | setDefault .. | remove .. => false

end AclCall

/-! ## The command lines -/

section CommandLines

variable {c : AclCall}

lemma setDefaultLead_eq : setDefaultLead
    = ['s', 'e', 't', 'f', 'a', 'c', 'l', ' ', '-', 'd', ' ', '-', 'm', ' ', 'u', ':'] :=
  String.toList_ofList

lemma setRecursiveLead_eq : setRecursiveLead
    = ['s', 'e', 't', 'f', 'a', 'c', 'l', ' ', '-', 'R', ' ', '-', 'm', ' ', 'u', ':'] :=
  String.toList_ofList

lemma removeLead_eq : removeLead
    = ['s', 'e', 't', 'f', 'a', 'c', 'l', ' ', '-', 'x', ' ', 'u', ':'] := String.toList_ofList

lemma removeAllLead_eq : removeAllLead
    = ['s', 'e', 't', 'f', 'a', 'c', 'l', ' ', '-', 'b', ' '] := String.toList_ofList

lemma AclCall.text_eq_line (c : AclCall) : c.text = line (c.words.map Piece.bare) ++ errToOut := by
  cases c <;>
    simp [AclCall.text, AclCall.words, AclCall.options, AclCall.operands, setfaclWord,
      AclCall.entry, entryText, setfaclText,
      setfaclLead_eq, setDefaultLead_eq, setRecursiveLead_eq, removeLead_eq, removeAllLead_eq, line,
      lineTail, Piece.text]

lemma bareWord_entry {user perms : CStr} (hu : ∀ c ∈ user, isBare c = true)
    (hp : ∀ c ∈ perms, isBare c = true) : BareWord (AclCall.entry user perms) := by
  refine ⟨List.cons_ne_nil _ _, ?_, fun c hc => ?_⟩
  · simp only [AclCall.entry, List.forall_mem_cons, List.forall_mem_append]
    exact ⟨by decide, by decide, hu, by decide, hp⟩
  · obtain rfl : 'u' = c := by simpa [AclCall.entry] using hc
    decide

lemma bareWord_user {user : CStr} (hu : ∀ c ∈ user, isBare c = true) :
    BareWord ('u' :: ':' :: user) := by
  refine ⟨List.cons_ne_nil _ _, ?_, fun c hc => ?_⟩
  · simp only [List.forall_mem_cons]
    exact ⟨by decide, by decide, hu⟩
  · obtain rfl : 'u' = c := by simpa using hc
    decide

lemma AclCall.Plain.bareWord (h : c.Plain) : ∀ w ∈ c.words, BareWord w := by
  have hfixed : ∀ w ∈ setfaclWord :: c.options, (Piece.bare w).Ok := by
    cases c <;>
      · simp only [AclCall.options]
        decide
  have hoperands : ∀ w ∈ c.operands, BareWord w := by
    obtain ⟨⟨hpath, -⟩, -, hentry⟩ := h
    cases c with
    | set | setDefault | setRecursive =>
        obtain ⟨hu, hp⟩ := List.forall_mem_append.mp hentry
        exact List.forall_mem_cons.mpr ⟨bareWord_entry hu hp, List.forall_mem_singleton.mpr hpath⟩
    | remove =>
        exact List.forall_mem_cons.mpr ⟨bareWord_user hentry, List.forall_mem_singleton.mpr hpath⟩
    | removeAll => exact List.forall_mem_singleton.mpr hpath
  exact List.forall_mem_append.mpr ⟨hfixed, hoperands⟩

/-- The shell reads the words the call has in mind. -/
lemma AclCall.Plain.parse (h : c.Plain) :
    Shell.parse (fit maxCommand c.text) = some (c.words, true) := by
  have hlen := h.2.1
  rw [c.text_eq_line] at hlen ⊢
  exact parse_fit_bare (List.cons_ne_nil _ _) h.bareWord hlen

end CommandLines

/-! ## The tools -/

/-- The list of each file that has one. -/
abbrev AclFiles := CStr → Option Acl

/-- The programs: what one does when it is run with these words, and what `setfacl` should do to the
lists for a call.  `setfacl` does that or it fails, and where it has a single step to make it has
then changed no list.  `getfacl` prints the list of a file, in some layout.  A line that the shell
does not take for a simple command may do anything. -/
structure AclTools (σ : Type*) where
  fileExists : σ → CStr → Bool
  program : List CStr → σ → σ × CommandRun
  wild : CStr → σ → σ × CommandRun
  lists : σ → AclFiles
  layout : σ → CStr → AclLayout
  spec : AclCall → AclFiles → Option AclFiles
  setfacl_done : ∀ {c : AclCall} {s}, c.Plain → (program c.words s).2.status = .exited 0 →
    spec c (lists s) = some (lists (program c.words s).1)
  setfacl_failed : ∀ {c : AclCall} {s}, c.Plain → c.several = false →
    (program c.words s).2.status ≠ .exited 0 → lists (program c.words s).1 = lists s
  getfacl_prints : ∀ {s path a}, Operand path → lists s path = some a →
    (program [getfaclWord, path] s).2 = ⟨a.text (layout s path), .exited 0⟩
  exists_of_listed : ∀ {s path a}, lists s path = some a → fileExists s path = true

/-- Who calls, and whether the shell can be started. -/
structure Caller where
  root : Bool
  started : Bool

section Tools

variable {σ : Type*} (t : AclTools σ)

/-- The shell with a command line. -/
def AclTools.shell (s : σ) (cmd : CStr) : σ × CommandRun :=
  match parse cmd with
  | some r => t.program r.1 s
  | none => t.wild cmd s

/-- What a call meets. -/
def AclTools.env (k : Caller) (s : σ) : FsEnv Unit where
  isRoot := k.root
  fileExists := t.fileExists s
  procMounts := true
  mounts := []
  dev _ := none
  popen cmd := if k.started then some (t.shell s cmd).2 else none

/-- A call: the system after it, and the code it returns. -/
def aclCall (s : σ) (k : Caller) (c : AclCall) : σ × Ret :=
  let r := c.run (t.env k s)
  (match r.2 with
    | some cmd => if k.started then (t.shell s cmd).1 else s
    | none => s, r.1)

end Tools

/-! ## One call -/

section Calls

variable {σ : Type*} {t : AclTools σ} {c : AclCall} {s : σ}

/-- A call returns a failure and has run nothing, or it runs its command and goes by its status. -/
lemma AclCall.run_cases {β : Type*} (env : FsEnv β) (c : AclCall) :
    ((c.run env).2 = none ∧ (c.run env).1 ≠ .success) ∨
      c.run env = (if (executeCommand (env.popen (fit maxCommand c.text)) maxOutput).1 = .success
        then .success else .errorSystemCall, some (fit maxCommand c.text)) := by
  have hcommand : ∀ text, ((aclCommand env text).2 = none ∧ (aclCommand env text).1 ≠ .success) ∨
      aclCommand env text = (if (executeCommand (env.popen (fit maxCommand text)) maxOutput).1
        = .success then .success else .errorSystemCall, some (fit maxCommand text)) := by
    intro text
    rw [aclCommand]
    split
    · exact .inl ⟨rfl, by simp⟩
    · exact .inr rfl
  cases c with
  | set path user perms =>
      change ((aclSet env path user perms).2 = none ∧ (aclSet env path user perms).1 ≠ .success) ∨
        aclSet env path user perms = _
      rw [aclSet]
      split
      · exact .inl ⟨rfl, by simp⟩
      · split
        · exact .inl ⟨rfl, by simp⟩
        · exact .inr rfl
  | setDefault | setRecursive | remove | removeAll => exact hcommand _

/-- The shell runs the command of a call with the words the call has in mind. -/
lemma shell_setfacl (h : c.Plain) (s : σ) :
    t.shell s (fit maxCommand c.text) = t.program c.words s := by
  rw [AclTools.shell, h.parse]

/-- The code of a call says what has happened to the lists, unless a command of several steps has
failed. -/
lemma aclCall_cases (h : c.Plain) (k : Caller) (s : σ) :
    if (aclCall t s k c).2 = .success then
      t.spec c (t.lists s) = some (t.lists (aclCall t s k c).1)
    else (c.several = true → (aclCall t s k c).2 ≠ .errorSystemCall) →
      t.lists (aclCall t s k c).1 = t.lists s := by
  unfold aclCall
  rcases AclCall.run_cases (t.env k s) c with ⟨hnone, hcode⟩ | hrun
  · simp only [hnone, if_neg hcode]
    exact fun _ => trivial
  · have hpopen : ∀ cmd, (t.env k s).popen cmd
        = if k.started then some (t.shell s cmd).2 else none := fun _ => rfl
    rw [hpopen] at hrun
    simp only [hrun]
    by_cases hstarted : k.started = true
    · simp only [if_pos hstarted, executeCommand_eq_success_iff, shell_setfacl h]
      by_cases hexit : (t.program c.words s).2.status = .exited 0
      · simp only [if_pos hexit, if_true]
        exact t.setfacl_done h hexit
      · simp only [if_neg hexit, reduceCtorEq, if_false]
        intro hclear
        exact t.setfacl_failed h (Bool.eq_false_iff.mpr fun hseveral => hclear hseveral rfl) hexit
    · simp only [if_neg hstarted]
      exact fun _ => trivial

end Calls

/-! ## A run -/

section Runs

variable {σ : Type*} (t : AclTools σ)

/-- The calls of a run one after the other, and the codes they return. -/
def aclRun : σ → List (Caller × AclCall) → σ × List Ret :=
  Told.run fun s kc => aclCall t s kc.1 kc.2

/-- The lists as the codes tell it. -/
def aclTold : AclFiles → List ((Caller × AclCall) × Ret) → Option AclFiles :=
  Told.told (fun code => decide (code = .success)) fun kc => t.spec kc.2

/-- The code leaves nothing open. -/
def AclCall.Clear (c : AclCall) (code : Ret) : Prop := c.several = true → code ≠ .errorSystemCall

/-- One call: if it returns success, the lists are what the call should make of them, and otherwise
they are what they were. -/
lemma aclCall_honest {kc : Caller × AclCall} (h : kc.2.Plain) :
    Told.Honest (fun s kc => aclCall t s kc.1 kc.2) (fun code => decide (code = .success))
      (fun kc => t.spec kc.2) t.lists (fun _ => True) (fun kc => kc.2.Clear) kc where
  keeps _ _ _ := trivial
  success s _ _ hcode := by
    have hcases := aclCall_cases (t := t) h kc.1 s
    rwa [if_pos (of_decide_eq_true hcode)] at hcases
  failure s _ hclear hcode := by
    have hcases := aclCall_cases (t := t) h kc.1 s
    rw [if_neg (of_decide_eq_false hcode)] at hcases
    exact hcases hclear

/-- The shell reads the two words of `acl_get`. -/
lemma parse_getfaclCommand {path : CStr} (hpath : Operand path)
    (hfits : ("getfacl ".toList ++ path ++ " 2>&1".toList).length < maxCommand) :
    Shell.parse (getfaclCommand path) = some ([getfaclWord, path], true) := by
  have hlead : "getfacl ".toList = getfaclWord ++ [' '] := String.toList_ofList
  have hline : "getfacl ".toList ++ path ++ " 2>&1".toList
      = line ([getfaclWord, path].map Piece.bare) ++ errToOut := by
    rw [hlead]
    simp [line, lineTail, Piece.text, errToOut]
  have hwords : ∀ w ∈ [getfaclWord, path], (Piece.bare w).Ok :=
    List.forall_mem_cons.mpr ⟨by decide, List.forall_mem_singleton.mpr hpath.1⟩
  rw [getfaclCommand, hline]
  exact parse_fit_bare (List.cons_ne_nil _ _) hwords (hline ▸ hfits)

variable {t} {s : σ}

/-- What `acl_get` leaves in the array: an entry for every user of the list. -/
lemma first_aclGet {k : Caller} (hstarted : k.started = true) {path : CStr} (hpath : Operand path)
    (hcmd : ("getfacl ".toList ++ path ++ " 2>&1".toList).length < maxCommand)
    {a : Acl} (ha : t.lists s path = some a)
    (hfits : (a.text (t.layout s path)).length < maxOutput)
    {maxEntries : ℤ} (hroom : (a.access.users.length : ℤ) ≤ maxEntries) (l : AclList) :
    (aclGet (t.env k s) path maxEntries l).1 = .success ∧
      (aclGet (t.env k s) path maxEntries l).2.first
        = a.access.users.map (a.access.stored (t.layout s path)) := by
  have hexists : (t.env k s).fileExists path = true := t.exists_of_listed ha
  have hpopen : (t.env k s).popen (getfaclCommand path)
      = some ⟨a.text (t.layout s path), .exited 0⟩ := by
    simp only [AclTools.env, if_pos hstarted, AclTools.shell, parse_getfaclCommand hpath hcmd,
      t.getfacl_prints hpath ha]
  have hget : aclGet (t.env k s) path maxEntries l = (.success,
      (tokens '\n' (captured maxOutput (a.text (t.layout s path)))).foldl (aclStep maxEntries)
        { l with count := 0 }) := by
    simp [aclGet, hexists, hpopen, executeCommand, maxOutput]
  refine ⟨by rw [hget], ?_⟩
  rw [hget, first_foldl_aclStep, filterMap_tokens_acl a hfits]
  · rfl
  · rw [filterMap_tokens_acl a hfits, List.length_map]
    push_cast
    omega

/-- **`acl_get` after any run shows the lists the codes tell of**: of a file that has a list, an
entry for each user of the list, with the permissions and what `getfacl` puts behind them where the
mask takes some away. -/
theorem acl_runs_decoded (t : AclTools σ) (s : σ) (calls : List (Caller × AclCall))
    (hcalls : ∀ kc ∈ calls, kc.2.Plain)
    (hclear : ∀ r ∈ calls.zip (aclRun t s calls).2, r.1.2.Clear r.2) :
    ∃ g, aclTold t (t.lists s) (calls.zip (aclRun t s calls).2) = some g ∧
      ∀ (k : Caller) (path : CStr) (a : Acl), k.started = true → Operand path →
        ("getfacl ".toList ++ path ++ " 2>&1".toList).length < maxCommand → g path = some a →
        (a.text (t.layout (aclRun t s calls).1 path)).length < maxOutput →
        ∀ (maxEntries : ℤ) (l : AclList), (a.access.users.length : ℤ) ≤ maxEntries →
          let r := aclGet (t.env k (aclRun t s calls).1) path maxEntries l
          r.1 = .success ∧
            r.2.first = a.access.users.map
              (a.access.stored (t.layout (aclRun t s calls).1 path)) ∧
            ((∀ u ∈ a.access.users, u.2.under a.access.mask = u.2) →
              r.2.first = a.access.users.map fun u => ⟨u.1.text, u.2.text, 0⟩) := by
  obtain ⟨-, htold⟩ :=
    Told.told_run (fun kc hkc => aclCall_honest t (hcalls kc hkc)) (s := s) trivial hclear
  refine ⟨t.lists (aclRun t s calls).1, htold, ?_⟩
  intro k path a hstarted hpath hcmd ha hfits maxEntries l hroom
  obtain ⟨hcode, hfirst⟩ := first_aclGet hstarted hpath hcmd ha hfits hroom l
  refine ⟨hcode, hfirst, fun hmask => ?_⟩
  rw [hfirst]
  exact List.map_congr_left fun u hu => (stored_eq_iff a.access u).mpr (hmask u hu)

end Runs

/-! ### A directory and one user -/

/-- The words that give `bob` a right in `/srv`. -/
def grantWords : List CStr := (AclCall.set "/srv".toList "bob".toList "r".toList).words

/-- The words that take it back. -/
def dropWords : List CStr := (AclCall.remove "/srv".toList "bob".toList).words

/-- `/srv` with an entry for `bob`, or without. -/
def srvAcl : Bool → Acl
  | true => ⟨⟨⟨true, true, true⟩, [(bobName, ⟨true, false, false⟩)], ⟨true, false, true⟩, [],
      some ⟨true, false, true⟩, ⟨false, false, false⟩⟩, none⟩
  | false => ⟨⟨⟨true, true, true⟩, [], ⟨true, false, true⟩, [], none, ⟨false, false, false⟩⟩, none⟩

/-- Programs that know these words and `getfacl`; the state is whether `bob` has an entry. -/
def srvProgram (ws : List CStr) (granted : Bool) : Bool × CommandRun :=
  if ws = [getfaclWord, "/srv".toList] then
    (granted, ⟨(srvAcl granted).text usualLayout, .exited 0⟩)
  else if ws = grantWords then (true, ⟨[], .exited 0⟩)
  else if ws = dropWords then (false, ⟨[], .exited 0⟩)
  else (granted, ⟨[], .exited 1⟩)

/-- The lists of the files. -/
def srvLists (granted : Bool) : AclFiles := fun q =>
  if q = "/srv".toList then some (srvAcl granted) else none

/-- What `setfacl` should do. -/
def srvSpec (c : AclCall) (_ : AclFiles) : Option AclFiles :=
  if c.words = grantWords then some (srvLists true)
  else if c.words = dropWords then some (srvLists false) else none

lemma srvProgram_words (c : AclCall) (granted : Bool) :
    srvProgram c.words granted
      = if c.words = grantWords then (true, ⟨[], .exited 0⟩)
        else if c.words = dropWords then (false, ⟨[], .exited 0⟩)
        else (granted, ⟨[], .exited 1⟩) := by
  refine if_neg fun h => ?_
  have hhead : setfaclWord = getfaclWord := List.head_eq_of_cons_eq h
  exact absurd hhead (by decide)

lemma srvProgram_done {c : AclCall} {granted : Bool}
    (h : (srvProgram c.words granted).2.status = .exited 0) :
    srvSpec c (srvLists granted) = some (srvLists (srvProgram c.words granted).1) := by
  rw [srvProgram_words] at h ⊢
  unfold srvSpec
  split_ifs at h ⊢
  · rfl
  · rfl
  · exact absurd h (by simp)

lemma srvProgram_failed {c : AclCall} {granted : Bool}
    (h : (srvProgram c.words granted).2.status ≠ .exited 0) :
    srvLists (srvProgram c.words granted).1 = srvLists granted := by
  rw [srvProgram_words] at h ⊢
  split_ifs at h ⊢
  · exact absurd rfl h
  · exact absurd rfl h
  · rfl

lemma srvProgram_getfacl {path : CStr} {granted : Bool} {a : Acl}
    (h : srvLists granted path = some a) :
    (srvProgram [getfaclWord, path] granted).2 = ⟨a.text usualLayout, .exited 0⟩ := by
  obtain ⟨rfl, ha⟩ := Option.ite_none_right_eq_some.mp h
  obtain rfl := Option.some_inj.mp ha
  rw [srvProgram, if_pos rfl]

lemma srvLists_exists {path : CStr} {granted : Bool} {a : Acl}
    (h : srvLists granted path = some a) : decide (path = "/srv".toList) = true :=
  decide_eq_true (Option.ite_none_right_eq_some.mp h).1

/-- The tools with these programs. -/
def srvTools : AclTools Bool where
  fileExists _ path := path = "/srv".toList
  program := srvProgram
  wild _ granted := (granted, ⟨[], .exited 127⟩)
  lists := srvLists
  layout _ _ := usualLayout
  spec := srvSpec
  setfacl_done _ := srvProgram_done
  setfacl_failed _ _ := srvProgram_failed
  getfacl_prints _ := srvProgram_getfacl
  exists_of_listed := srvLists_exists

/-- A right is given, its removal is refused to a caller without rights, and permissions that
`setfacl` does not know are refused by it. -/
def srvCalls : List (Caller × AclCall) :=
  [(⟨true, true⟩, .set "/srv".toList "bob".toList "r".toList),
    (⟨false, true⟩, .remove "/srv".toList "bob".toList),
    (⟨true, true⟩, .setDefault "/srv".toList "bob".toList "q".toList)]

/-- The codes tell of the one call that was done, and `acl_get` shows its entry. -/
theorem acl_runs_decoded_refused :
    (aclRun srvTools false srvCalls).2 = [.success, .errorPermission, .errorSystemCall] ∧
      (aclGet (srvTools.env ⟨false, true⟩ (aclRun srvTools false srvCalls).1) "/srv".toList 4
        ⟨fun _ => .zero, 0⟩).2.first = [⟨"bob".toList, "r--".toList, 0⟩] := by
  have hpath : Operand "/srv".toList := ⟨⟨by decide, by decide⟩, by decide⟩
  have hcalls : ∀ kc ∈ srvCalls, kc.2.Plain :=
    List.forall_mem_cons.mpr ⟨⟨hpath, by decide +kernel, List.all_eq_true.mp rfl⟩,
      List.forall_mem_cons.mpr ⟨⟨hpath, by decide +kernel, List.all_eq_true.mp rfl⟩,
        List.forall_mem_singleton.mpr ⟨hpath, by decide +kernel, List.all_eq_true.mp rfl⟩⟩⟩
  have hcodes : (aclRun srvTools false srvCalls).2
      = [.success, .errorPermission, .errorSystemCall] := by decide +kernel
  have hclear : ∀ r ∈ srvCalls.zip (aclRun srvTools false srvCalls).2, r.1.2.Clear r.2 := by
    rw [hcodes]
    simp [srvCalls, AclCall.Clear, AclCall.several]
  obtain ⟨g, hg, hdecoded⟩ := acl_runs_decoded srvTools false srvCalls hcalls hclear
  have hlist : g "/srv".toList = some (srvAcl true) := by
    rw [hcodes] at hg
    obtain rfl := Option.some_inj.mp hg
    rfl
  have hget := hdecoded ⟨false, true⟩ "/srv".toList (srvAcl true) rfl hpath (by decide +kernel)
    hlist (by decide +kernel) 4 ⟨fun _ => .zero, 0⟩ (by decide +kernel)
  exact ⟨hcodes, hget.2.2 (List.forall_mem_singleton.mpr rfl)⟩

end Storage
