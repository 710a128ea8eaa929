import StorageManager.Lib.Machine
import Mathlib.Data.List.Nodup

/-!
# Starting and stopping the scheduler

`backup_start_scheduler` sets a flag and creates a thread under `backup_mutex`;
`backup_stop_scheduler` clears the flag under the mutex, but tests, joins and clears the handle of
the thread after it has let the mutex go.  The thread itself reads the flag without the mutex, once
a minute.  (`backup_cleanup` is a call of the second function, or nothing.)

Any number of threads call the two functions, their steps and those of the scheduler threads in any
order.  As long as no start gets the mutex between the unlock of a stop and its end, a state is in
one of four phases (`SchedPhase`), and `one_scheduler` is read off them.  A start in that window
gives the old thread the flag back and the stop the new thread to wait for:
`overlapping_start_doubles`.
-/

namespace Storage

open Machine

/-- What has become of a scheduler thread. -/
inductive SchedThread
  | unborn
  | running
  | ended
  | joined
  deriving DecidableEq

/-- Where a call of `backup_stop_scheduler` stands after its unlock. -/
inductive StopPc
  | test
  | join
  | wait (t : ℕ)
  | clear
  deriving DecidableEq

/-- Where a thread that calls the two functions stands. -/
inductive CallerPc
  | idle
  | creating
  | stopping (pc : StopPc)
  deriving DecidableEq

/-- `scheduler_active`, `scheduler_thread`, `backup_mutex`, the `n` threads that call, the
scheduler threads, and the threads `pthread_join` was called for. -/
structure Sched (n : ℕ) where
  active : Bool
  handle : Option ℕ
  holder : Option (Fin n)
  callers : Fin n → CallerPc
  threads : ℕ → SchedThread
  next : ℕ
  joins : List ℕ

/-- The steps: a caller gets the mutex in `backup_start_scheduler`, its `pthread_create` returns, a
caller gets it in `backup_stop_scheduler` or goes on there, a scheduler thread tests
`scheduler_active`. -/
inductive SchedAct (n : ℕ)
  | start (c : Fin n)
  | create (c : Fin n) (ok : Bool) (left : Option ℕ)
  | stop (c : Fin n)
  | finish (c : Fin n)
  | loop (t : ℕ)
  deriving DecidableEq

variable {n : ℕ}

namespace Sched

/-- The caller goes to this place. -/
def goto (s : Sched n) (c : Fin n) (pc : CallerPc) : Sched n :=
  { s with callers := Function.update s.callers c pc }

/-- The scheduler thread comes to this. -/
def setThread (s : Sched n) (t : ℕ) (st : SchedThread) : Sched n :=
  { s with threads := Function.update s.threads t st }

/-- The part of `backup_stop_scheduler` behind its unlock. -/
def finish (s : Sched n) (c : Fin n) : StopPc → Option (Sched n)
  | .test =>
      match s.handle with
      | none => some (s.goto c .idle)
      | some _ => some (s.goto c (.stopping .join))
  | .join => s.handle.map fun t => { s.goto c (.stopping (.wait t)) with joins := s.joins ++ [t] }
  | .wait t =>
      if s.threads t = .ended then some ((s.setThread t .joined).goto c (.stopping .clear))
      else none
  | .clear => some { s.goto c .idle with handle := none }

end Sched

/-- One step of a caller or of a scheduler thread.  A `pthread_create` that fails leaves anything
in the handle. -/
def schedStep (s : Sched n) : SchedAct n → Option (Sched n)
  | .start c =>
      if s.callers c = .idle ∧ s.holder = none then
        if s.active then some s
        else some { s.goto c .creating with active := true, holder := some c }
      else none
  | .create c ok left =>
      if s.callers c = .creating then
        if ok then
          some { (s.setThread s.next .running).goto c .idle with
            handle := some s.next, next := s.next + 1, holder := none }
        else some { s.goto c .idle with active := false, handle := left, holder := none }
      else none
  | .stop c =>
      if s.callers c = .idle ∧ s.holder = none then
        if s.active then some { s.goto c (.stopping .test) with active := false } else some s
      else none
  | .finish c =>
      match s.callers c with
      | .stopping pc => s.finish c pc
      | _ => none
  | .loop t =>
      if s.threads t = .running then
        if s.active then some s else some (s.setThread t .ended)
      else none

/-- No scheduler was ever started and nobody is in one of the functions. -/
def schedInit (s : Sched n) : Prop :=
  s.active = false ∧ s.holder = none ∧ (∀ c, s.callers c = .idle) ∧ (∀ t, s.threads t = .unborn) ∧
    s.joins = []

/-- The caller is in `backup_stop_scheduler`, behind its unlock. -/
def CallerPc.inStop : CallerPc → Bool
  | .stopping _ => true
  | _ => false

/-- No start gets the mutex while a stop is between its unlock and its end. -/
def StopsFirst (s : Sched n) : SchedAct n → Prop
  | .start _ => ∀ c, (s.callers c).inStop = false
  | _ => True

instance (s : Sched n) (a : SchedAct n) : Decidable (StopsFirst s a) := by
  cases a <;> unfold StopsFirst <;> infer_instance

/-! ## The phases -/

/-- What the functions are at as a whole, as long as they do not overlap: at most one caller and one
scheduler thread are in it. -/
inductive SchedPhase (n : ℕ)
  | down
  | creating (c : Fin n)
  | up (t : ℕ)
  | stopping (c : Fin n) (t : ℕ) (pc : StopPc)

namespace SchedPhase

/-- `scheduler_active` in this phase. -/
def active : SchedPhase n → Bool
  | .creating _ | .up _ => true
  | _ => false

/-- The caller with the mutex in this phase. -/
def holder : SchedPhase n → Option (Fin n)
  | .creating c => some c
  | _ => none

/-- Where the callers stand in this phase. -/
def callers : SchedPhase n → Fin n → CallerPc
  | .creating c => Function.update (fun _ => .idle) c .creating
  | .stopping c _ pc => Function.update (fun _ => .idle) c (.stopping pc)
  | _ => fun _ => .idle

/-- The thread there is in this phase. -/
def thread : SchedPhase n → Option ℕ
  | .up t | .stopping _ t _ => some t
  | _ => none

/-- What has become of that thread. -/
def Allows : SchedPhase n → SchedThread → Prop
  | .up _, st => st = .running
  | .stopping _ _ .clear, st => st = .joined
  | .stopping _ t (.wait u), st => u = t ∧ (st = .running ∨ st = .ended)
  | .stopping _ _ _, st => st = .running ∨ st = .ended
  | _, _ => True

end SchedPhase

/-- The state is in this phase. -/
structure Sched.At (s : Sched n) (ph : SchedPhase n) : Prop where
  active : s.active = ph.active
  holder : s.holder = ph.holder
  callers : s.callers = ph.callers
  handle : ∀ t, ph.thread = some t → s.handle = some t ∧ ph.Allows (s.threads t)
  others : ∀ t, ph.thread ≠ some t → s.threads t ≠ .running
  fresh : ∀ t, s.next ≤ t → s.threads t = .unborn
  nodup : s.joins.Nodup
  joins : ∀ t ∈ s.joins, s.threads t = .joined ∨ ∃ c, ph = .stopping c t (.wait t)

section Steps

variable {s s' : Sched n} {ph : SchedPhase n} {c : Fin n}

lemma update_idle (c : Fin n) (pc : CallerPc) :
    Function.update (Function.update (fun _ => CallerPc.idle) c pc) c .idle = fun _ => .idle := by
  rw [Function.update_idem, Function.update_eq_self_iff]

lemma callers_creating (h : s.At ph) (hc : s.callers c = .creating) : ph = .creating c := by
  rw [h.callers] at hc
  cases ph with
  | down | up => simp [SchedPhase.callers] at hc
  | creating c' =>
      by_cases heq : c = c'
      · rw [heq]
      · simp [SchedPhase.callers, heq] at hc
  | stopping c' t pc =>
      by_cases heq : c = c' <;> simp [SchedPhase.callers, heq] at hc

lemma callers_stopping (h : s.At ph) {pc : StopPc} (hc : s.callers c = .stopping pc) :
    ∃ t, ph = .stopping c t pc := by
  rw [h.callers] at hc
  cases ph with
  | down | up => simp [SchedPhase.callers] at hc
  | creating c' =>
      by_cases heq : c = c' <;> simp [SchedPhase.callers, heq] at hc
  | stopping c' t pc' =>
      by_cases heq : c = c'
      · refine ⟨t, ?_⟩
        simpa [SchedPhase.callers, heq] using hc
      · simp [SchedPhase.callers, heq] at hc

/-- A thread that runs is the one of the phase. -/
lemma thread_of_running (h : s.At ph) {t : ℕ} (ht : s.threads t = .running) :
    ph.thread = some t := by
  by_contra hne
  exact h.others t hne ht

lemma at_start (h : s.At ph) (hfirst : StopsFirst s (.start c))
    (hs : schedStep s (.start c) = some s') : ∃ ph', s'.At ph' := by
  simp only [schedStep] at hs
  split_ifs at hs with hpre hact
  · exact ⟨ph, Option.some.inj hs ▸ h⟩
  · rw [Option.some.injEq] at hs
    subst hs
    cases ph with
    | up t => exact absurd h.active hact
    | creating c' => exact absurd h.active hact
    | stopping c' t pc =>
        have hidle := hfirst c'
        simp [h.callers, SchedPhase.callers, CallerPc.inStop] at hidle
    | down =>
        exact ⟨.creating c, {
          active := rfl
          holder := rfl
          callers := by simp only [Sched.goto, h.callers]; rfl
          handle := fun t ht => absurd ht (by simp [SchedPhase.thread])
          others := fun t _ => h.others t (by simp [SchedPhase.thread])
          fresh := h.fresh
          nodup := h.nodup
          joins := fun t ht => (h.joins t ht).imp_right (by rintro ⟨c', hc'⟩; cases hc') }⟩

/-- Joins of the past are of threads that were joined, whatever phase follows. -/
lemma joins_settled (h : s.At ph) (hph : ∀ c t, ph ≠ .stopping c t (.wait t)) :
    ∀ t ∈ s.joins, s.threads t = .joined := by
  intro t ht
  rcases h.joins t ht with hj | ⟨c', hc'⟩
  · exact hj
  · exact absurd hc' (hph c' t)

lemma at_create {ok : Bool} {left : Option ℕ} (h : s.At ph)
    (hs : schedStep s (.create c ok left) = some s') : ∃ ph', s'.At ph' := by
  simp only [schedStep] at hs
  split_ifs at hs with hpc hok
  all_goals
    rw [Option.some.injEq] at hs
    subst hs
    obtain rfl := callers_creating h hpc
    have hidle : Function.update s.callers c .idle = fun _ => .idle := by
      rw [h.callers, SchedPhase.callers, update_idle]
    have hjoined := joins_settled h (fun _ _ => by simp)
  · have hother : ∀ t, t ≠ s.next → Function.update s.threads s.next .running t = s.threads t :=
      fun t ht => Function.update_of_ne ht _ _
    exact ⟨.up s.next, {
      active := h.active
      holder := rfl
      callers := hidle
      handle := by
        rintro t ⟨rfl⟩
        exact ⟨rfl, Function.update_self _ _ _⟩
      others := fun t ht => by
        have hne : t ≠ s.next := fun heq => ht (by rw [heq]; rfl)
        simpa [Sched.setThread, Sched.goto, hother t hne] using
          h.others t (by simp [SchedPhase.thread])
      fresh := fun t ht => by
        have hlt : s.next < t := ht
        simpa [Sched.setThread, Sched.goto, hother t (Nat.ne_of_gt hlt)] using
          h.fresh t (Nat.le_of_lt hlt)
      nodup := h.nodup
      joins := fun t ht => by
        have hne : t ≠ s.next := by
          rintro rfl
          exact absurd ((hjoined _ ht).symm.trans (h.fresh _ (Nat.le_refl _))) (by simp)
        left
        simpa [Sched.setThread, Sched.goto, hother t hne] using hjoined t ht }⟩
  · exact ⟨.down, {
      active := rfl
      holder := rfl
      callers := hidle
      handle := fun t ht => absurd ht (by simp [SchedPhase.thread])
      others := fun t _ => h.others t (by simp [SchedPhase.thread])
      fresh := h.fresh
      nodup := h.nodup
      joins := fun t ht => Or.inl (hjoined t ht) }⟩

lemma at_stop (h : s.At ph) (hs : schedStep s (.stop c) = some s') : ∃ ph', s'.At ph' := by
  simp only [schedStep] at hs
  split_ifs at hs with hpre hact
  · rw [Option.some.injEq] at hs
    subst hs
    cases ph with
    | down | stopping => exact absurd (h.active.symm.trans hact) (by simp [SchedPhase.active])
    | creating c' => exact absurd (h.holder.symm.trans hpre.2) (by simp [SchedPhase.holder])
    | up t =>
        obtain ⟨hhandle, hrunning⟩ := h.handle t rfl
        exact ⟨.stopping c t .test, {
          active := rfl
          holder := h.holder
          callers := by simp only [Sched.goto, h.callers]; rfl
          handle := by
            rintro u ⟨rfl⟩
            exact ⟨hhandle, Or.inl hrunning⟩
          others := fun u hu => h.others u hu
          fresh := h.fresh
          nodup := h.nodup
          joins := fun u hu => Or.inl (joins_settled h (fun _ _ => by simp) u hu) }⟩
  · exact ⟨ph, Option.some.inj hs ▸ h⟩

lemma at_finish (h : s.At ph) (hs : schedStep s (.finish c) = some s') : ∃ ph', s'.At ph' := by
  simp only [schedStep] at hs
  cases hpc : s.callers c with
  | idle | creating => simp [hpc] at hs
  | stopping pc =>
      simp only [hpc] at hs
      obtain ⟨t, rfl⟩ := callers_stopping h hpc
      obtain ⟨hhandle, hthread⟩ := h.handle t rfl
      have hgoto : ∀ pc', Function.update s.callers c (.stopping pc') =
          Function.update (fun _ => .idle) c (.stopping pc') := fun pc' => by
        rw [h.callers, SchedPhase.callers, Function.update_idem]
      cases pc with
      | test =>
          simp only [Sched.finish, hhandle, Option.some.injEq] at hs
          subst hs
          exact ⟨.stopping c t .join, {
            active := h.active
            holder := h.holder
            callers := hgoto .join
            handle := by rintro u ⟨rfl⟩; exact ⟨hhandle, hthread⟩
            others := h.others
            fresh := h.fresh
            nodup := h.nodup
            joins := fun u hu => Or.inl (joins_settled h (fun _ _ => by simp) u hu) }⟩
      | join =>
          simp only [Sched.finish, hhandle, Option.map_some, Option.some.injEq] at hs
          subst hs
          have hjoined := joins_settled h (fun _ _ => by simp)
          have hnew : t ∉ s.joins := fun hmem => by
            rcases hthread with hr | hr <;> simp [hjoined t hmem] at hr
          exact ⟨.stopping c t (.wait t), {
            active := h.active
            holder := h.holder
            callers := hgoto (.wait t)
            handle := by rintro u ⟨rfl⟩; exact ⟨hhandle, rfl, hthread⟩
            others := h.others
            fresh := h.fresh
            nodup := by
              refine List.nodup_append.mpr ⟨h.nodup, List.nodup_singleton t, fun a ha b hb => ?_⟩
              rw [List.mem_singleton] at hb
              rintro rfl
              exact hnew (hb ▸ ha)
            joins := fun u hu => by
              rcases List.mem_append.mp hu with hu | hu
              · exact Or.inl (hjoined u hu)
              · exact Or.inr ⟨c, by rw [List.mem_singleton.mp hu]⟩ }⟩
      | wait u =>
          obtain ⟨rfl, -⟩ := hthread
          simp only [Sched.finish] at hs
          split_ifs at hs with hended
          rw [Option.some.injEq] at hs
          subst hs
          exact ⟨.stopping c u .clear, {
            active := h.active
            holder := h.holder
            callers := hgoto .clear
            handle := by
              rintro v ⟨rfl⟩
              exact ⟨hhandle, Function.update_self _ _ _⟩
            others := fun v hv => by
              have hne : v ≠ u := fun heq => hv (by rw [heq]; rfl)
              simpa [Sched.setThread, Sched.goto, hne] using h.others v hv
            fresh := fun v hv => by
              have hne : v ≠ u := by
                rintro rfl
                simp [h.fresh v hv] at hended
              simpa [Sched.setThread, Sched.goto, hne] using h.fresh v hv
            nodup := h.nodup
            joins := fun v hv => by
              left
              by_cases heq : v = u
              · simp [Sched.setThread, Sched.goto, heq]
              · rcases h.joins v hv with hj | ⟨c', hc'⟩
                · simpa [Sched.setThread, Sched.goto, heq] using hj
                · simp only [SchedPhase.stopping.injEq] at hc'
                  exact absurd hc'.2.1.symm heq }⟩
      | clear =>
          simp only [Sched.finish, Option.some.injEq] at hs
          subst hs
          exact ⟨.down, {
            active := h.active
            holder := h.holder
            callers := by
              simp only [Sched.goto, h.callers, SchedPhase.callers, update_idle]
            handle := fun u hu => absurd hu (by simp [SchedPhase.thread])
            others := fun u _ => by
              by_cases heq : u = t
              · have hjoined : s.threads t = .joined := hthread
                simp [Sched.goto, heq, hjoined]
              · exact h.others u (by simpa [SchedPhase.thread] using Ne.symm heq)
            fresh := h.fresh
            nodup := h.nodup
            joins := fun u hu => Or.inl (joins_settled h (fun _ _ => by simp) u hu) }⟩

lemma at_loop {t : ℕ} (h : s.At ph) (hs : schedStep s (.loop t) = some s') : ∃ ph', s'.At ph' := by
  simp only [schedStep] at hs
  split_ifs at hs with hrun hact
  · exact ⟨ph, Option.some.inj hs ▸ h⟩
  · rw [Option.some.injEq] at hs
    subst hs
    have hthread := thread_of_running h hrun
    obtain ⟨hhandle, hallows⟩ := h.handle t hthread
    refine ⟨ph, {
      active := h.active
      holder := h.holder
      callers := h.callers
      handle := ?_
      others := fun u hu => ?_
      fresh := fun u hu => ?_
      nodup := h.nodup
      joins := fun u hu => ?_ }⟩
    · intro u hu
      obtain rfl : t = u := Option.some.inj (hthread.symm.trans hu)
      refine ⟨hhandle, ?_⟩
      simp only [Sched.setThread, Function.update_self]
      cases ph with
      | down | creating => trivial
      | up => exact absurd h.active hact
      | stopping c' u pc =>
          cases pc with
          | test | join => exact Or.inr rfl
          | wait v => exact ⟨hallows.1, Or.inr rfl⟩
          | clear => exact absurd (hrun.symm.trans hallows) (by simp)
    · have hne : u ≠ t := fun heq => hu (heq ▸ hthread)
      simpa [Sched.setThread, hne] using h.others u hu
    · have hne : u ≠ t := by
        rintro rfl
        simp [h.fresh u hu] at hrun
      simpa [Sched.setThread, hne] using h.fresh u hu
    · by_cases heq : u = t
      · subst heq
        rcases h.joins u hu with hj | hc'
        · simp [hj] at hrun
        · exact Or.inr hc'
      · simpa [Sched.setThread, heq] using h.joins u hu

lemma at_step {a : SchedAct n} (h : ∃ ph, s.At ph) (ha : StopsFirst s a)
    (hs : schedStep s a = some s') : ∃ ph, s'.At ph := by
  obtain ⟨ph, h⟩ := h
  cases a with
  | start c => exact at_start h ha hs
  | create c ok left => exact at_create h hs
  | stop c => exact at_stop h hs
  | finish c => exact at_finish h hs
  | loop t => exact at_loop h hs

lemma at_of_reach (h : Reach schedInit schedStep StopsFirst s) : ∃ ph, s.At ph := by
  refine h.invariant ?_ fun _ _ _ hI ha hs => at_step hI ha hs
  rintro s ⟨hactive, hholder, hcallers, hthreads, hjoins⟩
  exact ⟨.down, {
    active := hactive
    holder := hholder
    callers := funext hcallers
    handle := fun t ht => absurd ht (by simp [SchedPhase.thread])
    others := fun t _ => by simp [hthreads t]
    fresh := fun t _ => hthreads t
    nodup := by rw [hjoins]; exact List.nodup_nil
    joins := fun t ht => absurd ht (by simp [hjoins]) }⟩

/-- **One scheduler at a time.**  If no start gets the mutex in the middle of a stop, then however
the calls interleave at most one scheduler thread runs, no thread is joined twice, and whenever no
call is under way the flag says whether a thread is running. -/
theorem one_scheduler (h : Reach schedInit schedStep StopsFirst s) :
    (∀ t u, s.threads t = .running → s.threads u = .running → t = u) ∧ s.joins.Nodup ∧
      ((∀ c, s.callers c = .idle) → (s.active = true ↔ ∃ t, s.threads t = .running)) := by
  obtain ⟨ph, hat⟩ := at_of_reach h
  refine ⟨fun t u ht hu => ?_, hat.nodup, fun hidle => ?_⟩
  · exact Option.some.inj ((thread_of_running hat ht).symm.trans (thread_of_running hat hu))
  · rw [hat.active]
    cases ph with
    | down =>
        simp only [SchedPhase.active, Bool.false_eq_true, false_iff, not_exists]
        exact fun t => hat.others t (by simp [SchedPhase.thread])
    | up t => exact iff_of_true rfl ⟨t, (hat.handle t rfl).2⟩
    | creating c =>
        have hc := hidle c
        simp [hat.callers, SchedPhase.callers] at hc
    | stopping c t pc =>
        have hc := hidle c
        simp [hat.callers, SchedPhase.callers] at hc

end Steps

/-- Nothing has been started. -/
def schedDown (n : ℕ) : Sched n := ⟨false, none, none, fun _ => .idle, fun _ => .unborn, 0, []⟩

lemma schedInit_schedDown (n : ℕ) : schedInit (schedDown n) :=
  ⟨rfl, rfl, fun _ => rfl, fun _ => rfl, rfl⟩

/-- Caller 0 starts, caller 1 stops and waits, and caller 0 starts again. -/
def restart : List (SchedAct 2) :=
  [.start 0, .create 0 true none, .stop 1, .finish 1, .finish 1, .loop 0, .finish 1, .finish 1,
    .start 0, .create 0 true none]

/-- A scheduler is stopped and another one started: the first has been joined and only the second is
running. -/
theorem one_scheduler_restart :
    ∃ s : Sched 2, Reach schedInit schedStep StopsFirst s ∧ s.joins = [0] ∧
      s.threads 1 = .running ∧ ∀ t, s.threads t = .running → t = 1 := by
  have hrun : (run schedStep (schedDown 2) restart).map (fun s => (s.joins, s.threads 1)) =
      some ([0], .running) := by
    decide
  obtain ⟨s, hs, hvals⟩ := Option.map_eq_some_iff.mp hrun
  rw [Prod.mk.injEq] at hvals
  have hstart : Reach schedInit schedStep StopsFirst (schedDown 2) := .start (schedInit_schedDown 2)
  have hreach := hstart.of_run (by decide) hs
  exact ⟨s, hreach, hvals.1, hvals.2, fun t ht => (one_scheduler hreach).1 t 1 ht hvals.2⟩

/-- Caller 0 starts again while caller 1 is about to join. -/
def startInStop : List (SchedAct 2) :=
  [.start 0, .create 0 true none, .stop 1, .start 0, .create 0 true none, .finish 1, .finish 1]

/-- The first thread finds the flag set again and goes on, beside the second, and it is the second
that the stop waits for. -/
theorem overlapping_start_doubles :
    ∃ s : Sched 2, Reach schedInit schedStep anyStep s ∧ s.threads 0 = .running ∧
      s.threads 1 = .running ∧ s.callers 1 = .stopping (.wait 1) := by
  have hrun : (run schedStep (schedDown 2) startInStop).map
      (fun s => (s.threads 0, s.threads 1, s.callers 1)) =
        some (.running, .running, .stopping (.wait 1)) := by
    decide
  obtain ⟨s, hs, hvals⟩ := Option.map_eq_some_iff.mp hrun
  simp only [Prod.mk.injEq] at hvals
  have hstart : Reach schedInit schedStep anyStep (schedDown 2) := .start (schedInit_schedDown 2)
  exact ⟨s, hstart.of_run_any hs, hvals⟩

end Storage
