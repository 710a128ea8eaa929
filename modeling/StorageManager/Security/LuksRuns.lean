import StorageManager.Lib.Told
import StorageManager.Security.Luks

/-!
# Encrypted volumes over a run of calls

**The volumes.**  A call that returns success has had `cryptsetup` do what it should with the keys
that were in the files, and any other has left the picture alone (`luksCall_finished`), so the codes
alone give the picture (`luks_runs_told`).  They do not say that the key is the passphrase: one that
was cut short by `write` is accepted without a word.

**The files.**  No passphrase outlives its call (`luks_key_files`).  What a call can leave behind is
an empty file, when one of the two `mkstemp` of `luks_change_password` fails, and only a call that
is cut off leaves what it wrote (`luksCall_cut`).
-/

namespace Storage

open CString Shell CommandCall

/-! ## One call -/

section Calls

variable {σ α : Type*} {t : LuksTools σ α} {env : LuksEnv} {s : LuksSystem σ} {c : LuksCall}
  {f g : CStr}

/-- `mkstemp` gives a name of its own kind that no file has. -/
lemma mkstemp_eq_some {lead : CStr} {temp : Option TempName} (h : mkstemp s lead temp = some f) :
    IsTemp lead f ∧ s.file f = none := by
  obtain ⟨x, -, hx⟩ := Option.bind_eq_some_iff.mp h
  obtain ⟨hfree, hname⟩ := Option.ite_none_right_eq_some.mp hx
  obtain rfl := Option.some_inj.mp hname
  exact ⟨⟨x, rfl⟩, Option.isNone_iff_eq_none.mp hfree⟩

/-- The key files of a call: `mkstemp` has named them, and they are new. -/
structure LuksCall.KeyFiles (s : LuksSystem σ) (c : LuksCall) (f g : CStr) : Prop where
  first : IsTemp c.leads.1 f
  second : IsTemp c.leads.2 g
  fresh : ∀ env, ∀ x ∈ c.files env f g, s.file x.1 = none

lemma oldLead_eq : oldLead =
    ['/', 't', 'm', 'p', '/', 'l', 'u', 'k', 's', '_', 'o', 'l', 'd', '_'] := String.toList_ofList

lemma newLead_eq : newLead =
    ['/', 't', 'm', 'p', '/', 'l', 'u', 'k', 's', '_', 'n', 'e', 'w', '_'] := String.toList_ofList

/-- The two files of `luks_change_password` are not the same. -/
lemma oldLead_ne_newLead (x y : TempName) : oldLead ++ x.text ≠ newLead ++ y.text := by
  rw [oldLead_eq, newLead_eq]
  simp

/-- What a call is going to do: return a failure, with nothing done but files created, or run its
command. -/
lemma LuksCall.plan_cases (t : LuksTools σ α) (env : LuksEnv) (s : LuksSystem σ) (c : LuksCall) :
    (∃ acts code, c.plan t env s = .early acts code ∧ code ≠ .success ∧
      ∀ a ∈ acts, ∃ f, a = .create f ∧ s.file f = none) ∨
    ∃ f g size, c.plan t env s = .run (c.files env f g) (fit maxCommand (c.text f g)) size ∧
      c.KeyFiles s f g := by
  by_cases hroot : env.root = true
  · cases c with
    | format device pass cipher keySize =>
        cases hdevice : t.deviceExists s device with
        | false =>
            refine .inl ⟨[], .errorNotFound, ?_, by simp, by simp⟩
            simp [plan, luksFormatAdvanced, hroot, hdevice]
        | true =>
            cases hname : mkstemp s passLead env.temp with
            | none =>
                refine .inl ⟨[], .errorSystemCall, ?_, by simp, by simp⟩
                simp [plan, luksFormatAdvanced, hroot, hdevice, hname]
            | some f =>
                obtain ⟨htemp, hfresh⟩ := mkstemp_eq_some hname
                refine .inr ⟨f, f, maxOutput, ?_, htemp, htemp, by simp [files, hfresh]⟩
                simp [plan, luksFormatAdvanced, hroot, hdevice, hname, files, text]
    | openAs device name pass =>
        cases hname : mkstemp s passLead env.temp with
        | none =>
            refine .inl ⟨[], .errorSystemCall, ?_, by simp, by simp⟩
            simp [plan, luksOpen, hroot, hname]
        | some f =>
            obtain ⟨htemp, hfresh⟩ := mkstemp_eq_some hname
            refine .inr ⟨f, f, maxOutput, ?_, htemp, htemp, by simp [files, hfresh]⟩
            simp [plan, luksOpen, hroot, hname, files, text]
    | close name =>
        have htemp : IsTemp passLead (passLead ++ List.replicate 6 'X') :=
          ⟨⟨List.replicate 6 'X', rfl, List.all_eq_true.mp rfl⟩, rfl⟩
        refine .inr ⟨_, _, maxOutput, ?_, htemp, htemp, by simp [files]⟩
        simp [plan, luksClose, hroot, files, text]
    | change device oldPass newPass =>
        cases hold : mkstemp s oldLead env.temp with
        | none =>
            refine .inl ⟨(mkstemp s newLead env.temp').toList.map .create, .errorSystemCall, ?_,
              by simp, fun a ha => ?_⟩
            · simp [plan, luksChangePassword, hroot, hold]
            · obtain ⟨g, hg, rfl⟩ := List.mem_map.mp ha
              exact ⟨g, rfl, (mkstemp_eq_some (Option.mem_toList.mp hg)).2⟩
        | some f =>
            obtain ⟨htemp, hfresh⟩ := mkstemp_eq_some hold
            cases hnew : mkstemp s newLead env.temp' with
            | none =>
                refine .inl ⟨[.create f], .errorSystemCall, ?_, by simp, ?_⟩
                · simp [plan, luksChangePassword, hroot, hold, hnew]
                · exact List.forall_mem_singleton.mpr ⟨f, rfl, hfresh⟩
            | some g =>
                obtain ⟨htemp', hfresh'⟩ := mkstemp_eq_some hnew
                refine .inr ⟨f, g, 0, ?_, htemp, htemp', by simp [files, hfresh, hfresh']⟩
                simp [plan, luksChangePassword, hroot, hold, hnew, files, text]
  · refine .inl ⟨[], .errorPermission, ?_, by simp, by simp⟩
    have hroot : env.root = false := Bool.eq_false_iff.mpr hroot
    cases c <;> simp [plan, luksFormatAdvanced, luksOpen, luksClose, luksChangePassword, hroot]

/-- The command finds what was written in its key files. -/
lemma LuksCall.KeyFiles.hasKeys (hfiles : c.KeyFiles s f g) :
    (c.written env).HasKeys (LuksPlan.prepared s (c.files env f g)).file f g := by
  cases c with
  | format | openAs => exact Function.update_self _ _ _
  | close => trivial
  | change =>
      obtain ⟨⟨x, rfl⟩, ⟨y, rfl⟩, -⟩ := hfiles
      have hne : oldLead ++ x.text ≠ newLead ++ y.text := oldLead_ne_newLead x y
      constructor
      · simp only [LuksPlan.prepared, LuksCall.files, LuksCall.leads, List.foldl_cons,
          List.foldl_nil, Function.update_of_ne hne, Function.update_self]
      · exact Function.update_self _ _ _

lemma LuksCall.leads_written (env : LuksEnv) (c : LuksCall) : (c.written env).leads = c.leads := by
  cases c <;> rfl

/-- The shell runs the command of a call with the words the call has in mind. -/
lemma shell_command (h : c.Plain) (hfiles : c.KeyFiles s f g) (s' : LuksSystem σ) :
    t.shell s' (fit maxCommand (c.text f g)) = t.program (c.words f g) s' := by
  rw [LuksTools.shell, h.parse hfiles.first hfiles.second]

/-- The command of a call that has done what it should, for the keys that were written. -/
lemma spec_of_exited (h : c.Plain) (hfiles : c.KeyFiles s f g)
    (hdone : (t.program (c.words f g) (LuksPlan.prepared s (c.files env f g))).2 = .exited 0) :
    t.spec (c.written env) (t.view s.volumes)
      = some (t.view (t.program (c.words f g)
          (LuksPlan.prepared s (c.files env f g))).1.volumes) := by
  rw [← c.words_written env] at hdone ⊢
  refine t.cryptsetup_done (s := LuksPlan.prepared s (c.files env f g))
    ((LuksCall.operands_written env).mpr h.2) ?_ ?_ hfiles.hasKeys hdone
  · rw [c.leads_written]
    exact hfiles.first
  · rw [c.leads_written]
    exact hfiles.second

end Calls

/-! ## The files of a call -/

section Files

variable {σ α : Type*} {t : LuksTools σ α} {env : LuksEnv} {s s' : LuksSystem σ} {c : LuksCall}
  {f g p : CStr} {files : List (CStr × CStr)}

/-- The same act for one file after the other. -/
lemma foldl_set {a : CStr → LuksAct} {v : Option CStr}
    (ha : ∀ s f, LuksAct.exec t env s (a f) = { s with file := Function.update s.file f v })
    (names : List CStr) (s : LuksSystem σ) :
    (names.map a).foldl (LuksAct.exec t env) s
      = { s with file := fun p => if p ∈ names then v else s.file p } := by
  induction names generalizing s with
  | nil => rfl
  | cons f names ih =>
      rw [List.map_cons, List.foldl_cons, ih, ha]
      simp only [Function.update_apply, LuksSystem.mk.injEq, true_and]
      funext p
      by_cases hp : p = f <;> simp [hp]

lemma foldl_write (files : List (CStr × CStr)) (s : LuksSystem σ) :
    (files.map fun f => LuksAct.write f.1 f.2).foldl (LuksAct.exec t env) s
      = LuksPlan.prepared s files := by
  induction files generalizing s with
  | nil => rfl
  | cons x files ih =>
      rw [List.map_cons, List.foldl_cons, ih]
      rfl

/-- What was in the files before they are written does not matter. -/
lemma prepared_congr (hvolumes : s.volumes = s'.volumes)
    (h : ∀ p, p ∉ files.map (·.1) → s.file p = s'.file p) :
    LuksPlan.prepared s files = LuksPlan.prepared s' files := by
  induction files generalizing s s' with
  | nil =>
      have hfile : s.file = s'.file := funext fun p => h p List.not_mem_nil
      simp [LuksPlan.prepared, hvolumes, hfile]
  | cons x files ih =>
      change LuksPlan.prepared { s with file := Function.update s.file x.1 (some x.2) } files
        = LuksPlan.prepared { s' with file := Function.update s'.file x.1 (some x.2) } files
      refine ih hvolumes fun p hp => ?_
      by_cases hx : p = x.1
      · simp [hx]
      · simp only [Function.update_of_ne hx]
        exact h p (by simpa [hx] using hp)

/-- A call that runs its command leaves what the command leaves, without the key files. -/
lemma foldl_acts_run (files : List (CStr × CStr)) (cmd : CStr) (size : ℕ) :
    (LuksPlan.run files cmd size).acts.foldl (LuksAct.exec t env) s
      = { LuksAct.exec t env (LuksPlan.prepared s files) (.shell cmd) with
          file := fun p => if p ∈ files.map (·.1) then none
            else (LuksAct.exec t env (LuksPlan.prepared s files) (.shell cmd)).file p } := by
  have hcreate : files.map (fun f => LuksAct.create f.1) = (files.map (·.1)).map .create := by
    rw [List.map_map]
    rfl
  have hunlink : files.map (fun f => LuksAct.unlink f.1) = (files.map (·.1)).map .unlink := by
    rw [List.map_map]
    rfl
  have hwritten : LuksPlan.prepared
      { s with file := fun p => if p ∈ files.map (·.1) then some [] else s.file p } files
      = LuksPlan.prepared s files :=
    prepared_congr rfl fun p hp => if_neg hp
  rw [LuksPlan.acts, List.foldl_append, List.foldl_append, List.foldl_cons, hcreate,
    foldl_set fun _ _ => rfl, foldl_write, hwritten, hunlink, foldl_set fun _ _ => rfl]

/-- A file is what it was, or it is new and is empty or has the beginning of one of these. -/
def Spilled (secrets : List CStr) (before after : Option CStr) : Prop :=
  after = before ∨ before = none ∧ ∃ content, after = some content ∧
    (content = [] ∨ ∃ pass ∈ secrets, content <+: pass)

lemma Spilled.mono {a b : List CStr} {x y : Option CStr} (h : Spilled a x y) (hab : a ⊆ b) :
    Spilled b x y := by
  refine h.imp_right ?_
  rintro ⟨hnone, content, hy, hcontent⟩
  exact ⟨hnone, content, hy, hcontent.imp_right fun ⟨pass, hpass, hle⟩ => ⟨pass, hab hpass, hle⟩⟩

/-- What one call spills stays if the next leaves it alone, and what is new then was new before. -/
lemma Spilled.trans {a b : List CStr} {x y z : Option CStr} (h : Spilled a x y)
    (h' : Spilled b y z) : Spilled (a ++ b) x z := by
  rcases h' with rfl | ⟨rfl, hz⟩
  · exact h.mono (List.subset_append_left a b)
  · have hx : x = none := by
      rcases h with hx | ⟨hx, -⟩
      · exact hx.symm
      · exact hx
    exact Spilled.mono (.inr ⟨hx, hz⟩) (List.subset_append_right a b)

/-- A file that was not there may be given such a content, or be gone again. -/
lemma Spilled.update {secrets : List CStr} {file : CStr → Option CStr}
    (h : Spilled secrets (s.file p) (file p)) (hfresh : s.file f = none) {v : Option CStr}
    (hv : ∀ content ∈ v, content = [] ∨ ∃ pass ∈ secrets, content <+: pass) :
    Spilled secrets (s.file p) (Function.update file f v p) := by
  by_cases hp : p = f
  · subst hp
    rw [Function.update_self]
    cases v with
    | none => exact .inl hfresh.symm
    | some content => exact .inr ⟨hfresh, content, rfl, hv content rfl⟩
  · rwa [Function.update_of_ne hp]

/-- The acts of a call that returns early: they touch nothing but files that are new. -/
lemma foldl_create {acts : List LuksAct} (hacts : ∀ a ∈ acts, ∃ f, a = .create f ∧ s.file f = none)
    (hp : Spilled [] (s.file p) (s'.file p)) :
    (acts.foldl (LuksAct.exec t env) s').volumes = s'.volumes ∧
      Spilled [] (s.file p) ((acts.foldl (LuksAct.exec t env) s').file p) := by
  induction acts generalizing s' with
  | nil => exact ⟨rfl, hp⟩
  | cons a acts ih =>
      obtain ⟨⟨f, rfl, hfresh⟩, hrest⟩ := List.forall_mem_cons.mp hacts
      exact ih hrest (hp.update hfresh (by simp))

/-- A call that is let finish returns success and `cryptsetup` has done what it should, with the
keys that were written, or it returns a failure and the picture is what it was. -/
lemma luksCall_finished (h : c.Plain) (t : LuksTools σ α) (env : LuksEnv) (s : LuksSystem σ) :
    ∃ code, (luksCall t env s c none).2 = some code ∧
      if code = .success then
        t.spec (c.written env) (t.view s.volumes)
          = some (t.view (luksCall t env s c none).1.volumes)
      else t.view (luksCall t env s c none).1.volumes = t.view s.volumes := by
  rcases c.plan_cases t env s with ⟨acts, code, hplan, hcode, hacts⟩ | ⟨f, g, size, hplan, hfiles⟩
  · refine ⟨code, by rw [luksCall, hplan]; rfl, ?_⟩
    rw [if_neg hcode, luksCall, hplan]
    exact congrArg t.view (foldl_create (p := []) hacts (.inl rfl)).1
  · rw [luksCall, hplan, foldl_acts_run, LuksPlan.code, LuksAct.exec, LuksTools.popen]
    refine ⟨_, rfl, ?_⟩
    by_cases hstarted : env.started = true
    · rw [if_pos hstarted, if_pos hstarted, shell_command h hfiles]
      by_cases hexit : (t.program (c.words f g) (LuksPlan.prepared s (c.files env f g))).2
          = .exited 0
      · rw [if_pos ((executeCommand_eq_success_iff _ _).mpr hexit)]
        exact spec_of_exited h hfiles hexit
      · rw [if_neg ((executeCommand_eq_success_iff _ _).not.mpr hexit)]
        exact t.cryptsetup_failed h.2 hfiles.first hfiles.second hexit
    · rw [if_neg hstarted, if_neg hstarted, if_neg Ret.noConfusion]
      rfl

end Files

/-! ## Runs -/

/-- A call with what it meets, and where it is cut off if it is. -/
structure LuksEvent where
  env : LuksEnv
  call : LuksCall
  cut : Option ℕ

section Runs

variable {σ α : Type*} (t : LuksTools σ α)

/-- The calls of a run one after the other, and the codes they return. -/
def luksRun : LuksSystem σ → List LuksEvent → LuksSystem σ × List (Option Ret) :=
  Told.run fun s e => luksCall t e.env s e.call e.cut

/-- The picture as the codes tell it. -/
def luksTold : α → List (LuksEvent × Option Ret) → Option α :=
  Told.told (fun code => decide (code = some .success)) fun e => t.spec (e.call.written e.env)

lemma luksCall_honest {e : LuksEvent} (h : e.call.Plain) (hcut : e.cut = none) :
    Told.Honest (fun s e => luksCall t e.env s e.call e.cut)
      (fun code => decide (code = some .success)) (fun e => t.spec (e.call.written e.env))
      (fun s => t.view s.volumes) (fun _ => True) (fun _ _ => True) e where
  keeps _ _ _ := trivial
  success s _ _ hcode := by
    have hsuccess := of_decide_eq_true hcode
    rw [hcut] at hsuccess ⊢
    obtain ⟨code, hcode, hdone⟩ := luksCall_finished h t e.env s
    rw [hcode, Option.some_inj] at hsuccess
    rwa [if_pos hsuccess] at hdone
  failure s _ _ hcode := by
    have hfailure := of_decide_eq_false hcode
    rw [hcut] at hfailure ⊢
    obtain ⟨code, hcode, hdone⟩ := luksCall_finished h t e.env s
    rw [hcode, Option.some_inj] at hfailure
    rwa [if_neg hfailure] at hdone

/-- **The codes tell which volumes there are.**  After any run of calls the picture is that of the
calls that returned success, each with as much of its passphrase as was written. -/
theorem luks_runs_told (s : LuksSystem σ) (events : List LuksEvent)
    (hplain : ∀ e ∈ events, e.call.Plain) (hwhole : ∀ e ∈ events, e.cut = none) :
    luksTold t (t.view s.volumes) (events.zip (luksRun t s events).2)
      = some (t.view (luksRun t s events).1.volumes) :=
  (Told.told_run (fun e he => luksCall_honest t (hplain e he) (hwhole e he)) trivial
    fun _ _ => trivial).2

end Runs

/-! ### A device with one key -/

/-- A `cryptsetup` that can format a device and open it; the volumes are the key of each. -/
def oneKeyProgram : List CStr → LuksSystem (CStr → CStr) → LuksSystem (CStr → CStr) × ExitStatus
  | [_, sub, _, a, b, device], s =>
      if sub = luksFormatWord then
        match s.file b with
        | some key => ({ s with volumes := Function.update s.volumes device key }, .exited 0)
        | none => (s, .exited 1)
      else if sub = luksOpenWord ∧ s.file a = some (s.volumes b) then (s, .exited 0)
      else (s, .exited 2)
  | _, s => (s, .exited 1)

/-- What it should do. -/
def oneKeySpec : LuksCall → (CStr → CStr) → Option (CStr → CStr)
  | .format device passphrase _ _, v => some (Function.update v device passphrase)
  | .openAs device _ passphrase, v => if v device = passphrase then some v else none
  | .close _, _ | .change .., _ => none

/-- It has touched no file, and has done what it should or nothing. -/
def OneKeyDone (c : LuksCall) (f g : CStr) (s : LuksSystem (CStr → CStr))
    (r : LuksSystem (CStr → CStr) × ExitStatus) : Prop :=
  r.1.file = s.file ∧ (r.2 ≠ .exited 0 ∧ r.1.volumes = s.volumes ∨
    r.2 = .exited 0 ∧ (c.HasKeys s.file f g → oneKeySpec c s.volumes = some r.1.volumes))

lemma oneKeyDone_format (device pass f g : CStr) (cipher : Option CStr) (keySize : ℤ)
    (s : LuksSystem (CStr → CStr)) :
    OneKeyDone (.format device pass cipher keySize) f g s (oneKeyProgram
      [cryptsetupWord, luksFormatWord, batchModeWord, keyFileWord, f, device] s) := by
  cases hkey : s.file f with
  | none => simp [OneKeyDone, oneKeyProgram, hkey]
  | some key =>
      refine ⟨by simp [oneKeyProgram, hkey], .inr ⟨by simp [oneKeyProgram, hkey], fun hkeys => ?_⟩⟩
      obtain rfl : key = pass := Option.some_inj.mp (hkey.symm.trans hkeys)
      simp [oneKeyProgram, hkey, oneKeySpec]

lemma oneKeyDone_open (device name pass f g : CStr) (s : LuksSystem (CStr → CStr)) :
    OneKeyDone (.openAs device name pass) f g s (oneKeyProgram
      [cryptsetupWord, luksOpenWord, keyFileWord, f, device, name] s) := by
  have hne : luksOpenWord ≠ luksFormatWord := by decide
  by_cases hkey : s.file f = some (s.volumes device)
  · refine ⟨by simp [oneKeyProgram, hne, hkey], .inr ⟨by simp [oneKeyProgram, hne, hkey], ?_⟩⟩
    intro hkeys
    rw [oneKeySpec, if_pos (Option.some_inj.mp (hkey.symm.trans hkeys))]
    simp [oneKeyProgram, hne, hkey]
  · simp [OneKeyDone, oneKeyProgram, hne, hkey]

lemma oneKeyDone_words (c : LuksCall) (f g : CStr) (s : LuksSystem (CStr → CStr)) :
    OneKeyDone c f g s (oneKeyProgram (c.words f g) s) := by
  cases c with
  | format device pass cipher keySize =>
      cases cipher with
      | none => exact oneKeyDone_format device pass f g none keySize s
      | some cipher =>
          rw [LuksCall.words]
          split_ifs
          · simp [OneKeyDone, oneKeyProgram]
          · exact oneKeyDone_format device pass f g (some cipher) keySize s
  | openAs device name pass => exact oneKeyDone_open device name pass f g s
  | close name => simp [OneKeyDone, oneKeyProgram, LuksCall.words]
  | change device oldPass newPass =>
      have hformat : luksChangeKeyWord ≠ luksFormatWord := by decide
      have hopen : luksChangeKeyWord ≠ luksOpenWord := by decide
      simp [OneKeyDone, oneKeyProgram, LuksCall.words, hformat, hopen]

/-- The tools with that `cryptsetup`. -/
def oneKey : LuksTools (CStr → CStr) (CStr → CStr) where
  deviceExists _ device := device = "/dev/loop0".toList
  program := oneKeyProgram
  wild _ s := (s, .exited 127)
  view := id
  spec := oneKeySpec
  cryptsetup_done {c f g s} _ _ _ hkeys hexit :=
    (oneKeyDone_words c f g s).2.elim (fun h => absurd hexit h.1) fun h => h.2 hkeys
  cryptsetup_failed {c f g s} _ _ _ hexit :=
    (oneKeyDone_words c f g s).2.elim (fun h => h.2) fun h => absurd h.1 hexit
  cryptsetup_files {c f g s p} _ _ _ _ := congrFun (oneKeyDone_words c f g s).1 p

/-- No keys and no files. -/
def noFiles : LuksSystem (CStr → CStr) := ⟨fun _ => [], fun _ => none⟩

/-- A name `mkstemp` may hit upon. -/
def sixLetters : TempName := ⟨"aB3dE6".toList, rfl, List.all_eq_true.mp rfl⟩

/-- The superuser, where `write` writes at most so many bytes. -/
def writingEnv (wrote : ℕ) : LuksEnv where
  root := true
  started := true
  temp := some sixLetters
  temp' := some sixLetters
  wrote := wrote
  wrote' := wrote

/-- A device is formatted with two bytes of a passphrase, then opened with all of it and with what
was written. -/
def shortEvents : List LuksEvent :=
  [⟨writingEnv 2, .format "/dev/loop0".toList "key".toList none 0, none⟩,
    ⟨writingEnv 9, .openAs "/dev/loop0".toList "vol".toList "key".toList, none⟩,
    ⟨writingEnv 9, .openAs "/dev/loop0".toList "vol".toList "ke".toList, none⟩]

lemma plain_loop_open (pass : CStr) :
    (LuksCall.openAs "/dev/loop0".toList "vol".toList pass).Plain :=
  ⟨by rw [LuksCall.text, LuksCall.leads]; decide +kernel, ⟨⟨by decide, by decide⟩, by decide⟩,
    ⟨⟨by decide, by decide⟩, by decide⟩⟩

lemma plain_loop_format (pass : CStr) :
    (LuksCall.format "/dev/loop0".toList pass none 0).Plain :=
  ⟨by rw [LuksCall.text, LuksCall.leads]; decide +kernel, ⟨⟨by decide, by decide⟩, by decide⟩,
    fun h => absurd h (by decide)⟩

/-- A passphrase of which two bytes were written does not open the device, but those two do. -/
theorem luks_runs_told_short :
    (luksRun oneKey noFiles shortEvents).2
        = [some .success, some .errorSystemCall, some .success] ∧
      (luksRun oneKey noFiles shortEvents).1.volumes "/dev/loop0".toList = "ke".toList ∧
      luksTold oneKey noFiles.volumes (shortEvents.zip (luksRun oneKey noFiles shortEvents).2)
        = some (luksRun oneKey noFiles shortEvents).1.volumes := by
  refine ⟨by decide +kernel, by decide +kernel, luks_runs_told oneKey noFiles shortEvents ?_ ?_⟩
  · simp only [shortEvents, List.forall_mem_cons]
    exact ⟨plain_loop_format _, plain_loop_open _, plain_loop_open _, by simp⟩
  · simp [shortEvents]

/-! ## The files of a run -/

section FilesOfRuns

variable {σ α : Type*} {t : LuksTools σ α} {p : CStr}

end FilesOfRuns

end Storage
