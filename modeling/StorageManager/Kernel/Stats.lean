import StorageManager.Lib.CString
import StorageManager.Lib.Machine
import Mathlib.Logic.Function.Basic
import Mathlib.Data.List.Nodup

/-!
# The statistics table of the kernel module

`storage_stats.c` keeps an array of `MAX_DEVICES` slots, searched by name from the front, a slot
being taken the first time a device is seen.  This file has the functions as they run when nobody
interferes; `Kernel/StatsRaces.lean` has them step by step.

**What the table is for** is `DeviceMap`: at most `MAX_DEVICES` devices, each with the totals of
its updates.  `Represents` relates the two, `represents_update` and `represents_reset` say that the
table does what the map does.

**Where it goes wrong.**  A slot keeps the first 63 characters of the name it was made for, and is
found by comparing that with the whole name.  `Recognised` is the condition that the comparison
gives the right answer.  `tracks_devices` shows that nothing else is needed, and
`unrecognised_update_breaks` that nothing less would do.
-/

namespace Storage

open CString Machine

/-- `MAX_DEVICES`. -/
def maxDevices : ℕ := 16

/-- A call of `update_storage_stats`. -/
structure StatsUpdate where
  device : CStr
  isRead : Bool
  bytes : UInt64
  latencyNs : UInt64
  deriving DecidableEq

/-- The counters of a `device_stats_t`; `unsigned long` has 64 bits, as `unsigned long long` has. -/
structure Counters where
  readOps : UInt64
  writeOps : UInt64
  readBytes : UInt64
  writeBytes : UInt64
  totalLatencyNs : UInt64
  opCount : UInt64
  deriving DecidableEq

namespace Counters

/-- The counters of a new slot. -/
def zero : Counters := ⟨0, 0, 0, 0, 0, 0⟩

/-- The second locked section of `update_storage_stats`. -/
def credit (c : Counters) (u : StatsUpdate) : Counters :=
  let c := if u.isRead then { c with readOps := c.readOps + 1, readBytes := c.readBytes + u.bytes }
    else { c with writeOps := c.writeOps + 1, writeBytes := c.writeBytes + u.bytes }
  { c with totalLatencyNs := c.totalLatencyNs + u.latencyNs, opCount := c.opCount + 1 }

/-- The sums over a list of updates, each modulo `2 ^ 64`. -/
def sums (us : List StatsUpdate) : Counters where
  readOps := .ofNat (us.filter (·.isRead)).length
  writeOps := .ofNat (us.filter (!·.isRead)).length
  readBytes := .ofNat ((us.filter (·.isRead)).map (·.bytes.toNat)).sum
  writeBytes := .ofNat ((us.filter (!·.isRead)).map (·.bytes.toNat)).sum
  totalLatencyNs := .ofNat (us.map (·.latencyNs.toNat)).sum
  opCount := .ofNat us.length

@[simp] lemma sums_nil : sums [] = zero := rfl

/-- Crediting one more update is adding it to the sums. -/
lemma sums_concat (us : List StatsUpdate) (u : StatsUpdate) :
    sums (us ++ [u]) = (sums us).credit u := by
  cases hread : u.isRead <;>
    simp [sums, credit, hread, UInt64.ofNat_add]

@[simp] lemma credit_opCount (c : Counters) (u : StatsUpdate) :
    (c.credit u).opCount = c.opCount + 1 := by
  cases hread : u.isRead <;> simp [credit, hread]

end Counters

/-- `device_stats_t`. -/
structure DeviceStats where
  deviceName : CStr
  counters : Counters
  active : Bool
  deriving DecidableEq

/-- `device_stats` and `device_count`. -/
structure StatsTable where
  deviceStats : ℕ → DeviceStats
  deviceCount : ℕ

namespace StatsTable

/-- The state `storage_stats_init` leaves. -/
def init : StatsTable := ⟨fun _ => ⟨[], .zero, false⟩, 0⟩

/-- The search loop of `get_device_stats`. -/
def lookup (t : StatsTable) (name : CStr) : Option ℕ :=
  (List.range t.deviceCount).find? fun i => (t.deviceStats i).deviceName = name

/-- The new slot of `get_device_stats`. -/
def create (t : StatsTable) (name : CStr) : StatsTable where
  deviceStats := Function.update t.deviceStats t.deviceCount ⟨fit 64 name, .zero, true⟩
  deviceCount := t.deviceCount + 1

/-- The update of the slot the pointer is for. -/
def credit (t : StatsTable) (i : ℕ) (u : StatsUpdate) : StatsTable :=
  { t with
    deviceStats := Function.update t.deviceStats i
      { t.deviceStats i with counters := (t.deviceStats i).counters.credit u } }

lemma lookup_some {t : StatsTable} {name : CStr} {i : ℕ} (h : t.lookup name = some i) :
    i < t.deviceCount ∧ (t.deviceStats i).deviceName = name ∧
      ∀ j, j < i → (t.deviceStats j).deviceName ≠ name := by
  obtain ⟨hname, hi, hfirst⟩ := List.find?_range_eq_some.mp h
  exact ⟨List.mem_range.mp hi, by simpa using hname, fun j hj => by simpa using hfirst j hj⟩

lemma lookup_none {t : StatsTable} {name : CStr} (h : t.lookup name = none) {i : ℕ}
    (hi : i < t.deviceCount) : (t.deviceStats i).deviceName ≠ name := by
  have := List.find?_eq_none.mp h i (List.mem_range.mpr hi)
  simpa using this

lemma create_of_ne (t : StatsTable) (name : CStr) {i : ℕ} (h : i ≠ t.deviceCount) :
    (t.create name).deviceStats i = t.deviceStats i := Function.update_of_ne h _ _

@[simp] lemma create_self (t : StatsTable) (name : CStr) :
    (t.create name).deviceStats t.deviceCount = ⟨fit 64 name, .zero, true⟩ :=
  Function.update_self _ _ _

lemma credit_of_ne (t : StatsTable) (u : StatsUpdate) {i j : ℕ} (h : j ≠ i) :
    (t.credit i u).deviceStats j = t.deviceStats j := Function.update_of_ne h _ _

@[simp] lemma credit_self (t : StatsTable) (i : ℕ) (u : StatsUpdate) :
    (t.credit i u).deviceStats i
      = { t.deviceStats i with counters := (t.deviceStats i).counters.credit u } :=
  Function.update_self _ _ _

/-- A credit changes nothing but counters. -/
@[simp] lemma credit_deviceName (t : StatsTable) (i j : ℕ) (u : StatsUpdate) :
    ((t.credit i u).deviceStats j).deviceName = (t.deviceStats j).deviceName := by
  by_cases h : j = i
  · subst h
    rw [credit_self]
  · rw [credit_of_ne t u h]

@[simp] lemma credit_deviceCount (t : StatsTable) (i : ℕ) (u : StatsUpdate) :
    (t.credit i u).deviceCount = t.deviceCount := rfl

@[simp] lemma create_deviceCount (t : StatsTable) (name : CStr) :
    (t.create name).deviceCount = t.deviceCount + 1 := rfl

end StatsTable

/-- `get_device_stats`, uninterrupted; the index stands for the address. -/
def getDeviceStats (t : StatsTable) (name : CStr) : StatsTable × Option ℕ :=
  match t.lookup name with
  | some i => (t, some i)
  | none =>
      if t.deviceCount < maxDevices then (t.create name, some ((t.create name).deviceCount - 1))
      else (t, none)

/-- `update_storage_stats`, uninterrupted; `false` when the update is dropped. -/
def updateStorageStats (t : StatsTable) (u : StatsUpdate) : StatsTable × Bool :=
  match getDeviceStats t u.device with
  | (t, none) => (t, false)
  | (t, some i) => (t.credit i u, true)

/-- `reset_stats`. -/
def resetStats (t : StatsTable) : StatsTable :=
  { t with
    deviceStats := fun i =>
      if i < t.deviceCount then { t.deviceStats i with counters := .zero } else t.deviceStats i }

@[simp] lemma resetStats_deviceCount (t : StatsTable) :
    (resetStats t).deviceCount = t.deviceCount := rfl

@[simp] lemma resetStats_deviceName (t : StatsTable) (i : ℕ) :
    ((resetStats t).deviceStats i).deviceName = (t.deviceStats i).deviceName := by
  simp only [resetStats]
  split_ifs <;> rfl

/-! ## The map -/

/-- What the table is for: up to `MAX_DEVICES` devices and the totals of each. -/
structure DeviceMap where
  devices : List CStr
  totals : CStr → Counters
  nodup : devices.Nodup
  bounded : devices.length ≤ maxDevices

namespace DeviceMap

/-- One more update of a device. -/
def add (m : DeviceMap) (u : StatsUpdate) : DeviceMap :=
  { m with totals := Function.update m.totals u.device ((m.totals u.device).credit u) }

/-- A new device, with nothing to its name yet. -/
def insert (m : DeviceMap) (d : CStr) (hnew : d ∉ m.devices)
    (hroom : m.devices.length < maxDevices) : DeviceMap where
  devices := m.devices ++ [d]
  totals := Function.update m.totals d .zero
  nodup := List.nodup_append.mpr ⟨m.nodup, List.nodup_singleton d, by
    rintro a ha b hb rfl
    exact hnew (List.mem_singleton.mp hb ▸ ha)⟩
  bounded := by
    rw [List.length_append]
    exact hroom

/-- An update of a device the map has, or has room for; `false` when there is no room. -/
def update (m : DeviceMap) (u : StatsUpdate) : DeviceMap × Bool :=
  if hin : u.device ∈ m.devices then (m.add u, true)
  else if hroom : m.devices.length < maxDevices then ((m.insert u.device hin hroom).add u, true)
  else (m, false)

/-- All sums are zero again, the devices stay. -/
def reset (m : DeviceMap) : DeviceMap := { m with totals := fun _ => .zero }

lemma add_totals_self (m : DeviceMap) (u : StatsUpdate) :
    (m.add u).totals u.device = (m.totals u.device).credit u := Function.update_self _ _ _

lemma add_totals_of_ne (m : DeviceMap) {u : StatsUpdate} {d : CStr} (h : d ≠ u.device) :
    (m.add u).totals d = m.totals d := Function.update_of_ne h _ _

lemma insert_totals_self {m : DeviceMap} {d : CStr} (hnew : d ∉ m.devices)
    (hroom : m.devices.length < maxDevices) : (m.insert d hnew hroom).totals d = .zero :=
  Function.update_self _ _ _

lemma insert_totals_of_ne {m : DeviceMap} {d e : CStr} (hnew : d ∉ m.devices)
    (hroom : m.devices.length < maxDevices) (h : e ≠ d) :
    (m.insert d hnew hroom).totals e = m.totals e := Function.update_of_ne h _ _

lemma update_of_mem {m : DeviceMap} {u : StatsUpdate} (h : u.device ∈ m.devices) :
    m.update u = (m.add u, true) := dif_pos h

lemma update_of_room {m : DeviceMap} {u : StatsUpdate} (h : u.device ∉ m.devices)
    (hroom : m.devices.length < maxDevices) :
    m.update u = ((m.insert u.device h hroom).add u, true) := by
  rw [update, dif_neg h, dif_pos hroom]

lemma update_of_full {m : DeviceMap} {u : StatsUpdate} (h : u.device ∉ m.devices)
    (hfull : ¬ m.devices.length < maxDevices) : m.update u = (m, false) := by
  rw [update, dif_neg h, dif_neg hfull]

end DeviceMap

/-- Slot by slot, the table holds the devices of the map under their names cut to 63 characters,
with their totals. -/
structure Represents (t : StatsTable) (m : DeviceMap) : Prop where
  count : t.deviceCount = m.devices.length
  name : ∀ i d, m.devices[i]? = some d → (t.deviceStats i).deviceName = fit 64 d
  total : ∀ i d, m.devices[i]? = some d → (t.deviceStats i).counters = m.totals d

/-- The first slot under the name `d` was made for `d`, and a name too long for a slot is new. -/
def Recognised (devices : List CStr) (d : CStr) : Prop :=
  (∀ o, devices.find? (fun o => fit 64 o = d) = some o → o = d) ∧ (64 ≤ d.length → d ∉ devices)

instance (devices : List CStr) (d : CStr) : Decidable (Recognised devices d) :=
  haveI : Decidable (∀ o, devices.find? (fun o => fit 64 o = d) = some o → o = d) :=
    match h : devices.find? (fun o => fit 64 o = d) with
    | none => isTrue fun _ ho => absurd ho (by simp)
    | some o => decidable_of_iff (o = d)
        ⟨fun heq _ ho => (Option.some.inj ho) ▸ heq, fun hall => hall o rfl⟩
  inferInstanceAs (Decidable (_ ∧ _))

section Simulation

variable {t : StatsTable} {m : DeviceMap}

/-- What the search finds is the first device whose name looks like the one asked for. -/
lemma Represents.find_of_lookup (h : Represents t m) {d : CStr} {i : ℕ}
    (hlookup : t.lookup d = some i) :
    ∃ o, m.devices[i]? = some o ∧ m.devices.find? (fun o => fit 64 o = d) = some o := by
  obtain ⟨hi, hname, hfirst⟩ := StatsTable.lookup_some hlookup
  rw [h.count] at hi
  have hget : ∀ j (hj : j < m.devices.length),
      (t.deviceStats j).deviceName = fit 64 m.devices[j] :=
    fun j hj => h.name j _ (List.getElem?_eq_getElem hj)
  refine ⟨m.devices[i], List.getElem?_eq_getElem hi, ?_⟩
  refine List.find?_eq_some_iff_getElem.mpr ⟨?_, i, hi, rfl, fun j hj => ?_⟩
  · rw [decide_eq_true_eq, ← hget i hi, hname]
  · have hne := hfirst j hj
    rw [hget j (Nat.lt_trans hj hi)] at hne
    simpa using hne

/-- A search without result means that no device looks like the one asked for. -/
lemma Represents.find_none (h : Represents t m) {d : CStr} (hlookup : t.lookup d = none) :
    ∀ o ∈ m.devices, fit 64 o ≠ d := by
  intro o ho
  obtain ⟨i, hi, rfl⟩ := List.mem_iff_getElem.mp ho
  have hne := StatsTable.lookup_none hlookup (i := i) (by rw [h.count]; exact hi)
  rwa [h.name i _ (List.getElem?_eq_getElem hi)] at hne

/-- A credit to the slot of a device. -/
lemma Represents.credit (h : Represents t m) {u : StatsUpdate} {i : ℕ}
    (hi : m.devices[i]? = some u.device) : Represents (t.credit i u) (m.add u) where
  count := h.count
  name j d hj := by rw [StatsTable.credit_deviceName]; exact h.name j d hj
  total j d hj := by
    have hj : m.devices[j]? = some d := hj
    by_cases hji : j = i
    · subst hji
      obtain rfl : u.device = d := Option.some.inj (hi.symm.trans hj)
      rw [StatsTable.credit_self, DeviceMap.add_totals_self]
      exact congrArg (·.credit u) (h.total j _ hj)
    · have hne : d ≠ u.device := by
        rintro rfl
        exact hji ((List.getElem?_inj (List.getElem?_eq_some_iff.mp hj).1 m.nodup).mp
          (hj.trans hi.symm))
      rw [StatsTable.credit_of_ne t u hji, m.add_totals_of_ne hne]
      exact h.total j d hj

lemma Represents.create (h : Represents t m) {d : CStr} (hnew : d ∉ m.devices)
    (hroom : m.devices.length < maxDevices) :
    Represents (t.create d) (m.insert d hnew hroom) := by
  -- the new slot is the last device of the map, the others stay where they were
  have hcases : ∀ i o, (m.insert d hnew hroom).devices[i]? = some o →
      (i ≠ t.deviceCount ∧ o ≠ d ∧ m.devices[i]? = some o) ∨ (i = t.deviceCount ∧ o = d) := by
    intro i o hi
    simp only [DeviceMap.insert, List.getElem?_append] at hi
    split_ifs at hi with hlt
    · refine Or.inl ⟨by rw [h.count]; omega, ?_, hi⟩
      rintro rfl
      exact hnew (List.mem_of_getElem? hi)
    · obtain ⟨hidx, heq⟩ := List.getElem?_eq_some_iff.mp hi
      have hzero : i = m.devices.length := by simp at hidx; omega
      subst hzero
      exact Or.inr ⟨h.count.symm, by simpa using heq.symm⟩
  refine ⟨by simp [DeviceMap.insert, h.count], fun i o hi => ?_, fun i o hi => ?_⟩
  · rcases hcases i o hi with ⟨hne, -, hold⟩ | ⟨rfl, rfl⟩
    · rw [StatsTable.create_of_ne t d hne]
      exact h.name i o hold
    · rw [StatsTable.create_self]
  · rcases hcases i o hi with ⟨hne, hod, hold⟩ | ⟨rfl, rfl⟩
    · rw [StatsTable.create_of_ne t d hne, DeviceMap.insert_totals_of_ne hnew hroom hod]
      exact h.total i o hold
    · rw [StatsTable.create_self, DeviceMap.insert_totals_self hnew hroom]

/-- A recognised device that the search does not find is not in the map. -/
lemma Represents.not_mem (h : Represents t m) {d : CStr} (hrec : Recognised m.devices d)
    (hlookup : t.lookup d = none) : d ∉ m.devices := by
  by_cases hlong : 64 ≤ d.length
  · exact hrec.2 hlong
  · intro hd
    exact h.find_none hlookup d hd (fit_of_lt (by omega))

/-- **The table does what the map does**, for a device it recognises. -/
theorem represents_update (h : Represents t m) {u : StatsUpdate}
    (hrec : Recognised m.devices u.device) :
    Represents (updateStorageStats t u).1 (m.update u).1 ∧
      (updateStorageStats t u).2 = (m.update u).2 := by
  cases hlookup : t.lookup u.device with
  | some i =>
      obtain ⟨o, hi, hfind⟩ := h.find_of_lookup hlookup
      obtain rfl := hrec.1 o hfind
      have hmem : u.device ∈ m.devices := List.mem_of_getElem? hi
      have hupdate : updateStorageStats t u = (t.credit i u, true) := by
        simp only [updateStorageStats, getDeviceStats, hlookup]
      rw [hupdate, DeviceMap.update_of_mem hmem]
      exact ⟨h.credit hi, rfl⟩
  | none =>
      have hnew := h.not_mem hrec hlookup
      by_cases hroom : m.devices.length < maxDevices
      · have hupdate : updateStorageStats t u
            = ((t.create u.device).credit t.deviceCount u, true) := by
          simp [updateStorageStats, getDeviceStats, hlookup, h.count, hroom]
        rw [hupdate, DeviceMap.update_of_room hnew hroom]
        refine ⟨(h.create hnew hroom).credit ?_, rfl⟩
        simp [DeviceMap.insert, h.count]
      · have hupdate : updateStorageStats t u = (t, false) := by
          simp [updateStorageStats, getDeviceStats, hlookup, h.count, hroom]
        rw [hupdate, DeviceMap.update_of_full hnew hroom]
        exact ⟨h, rfl⟩

/-- `reset_stats` is the reset of the map. -/
theorem represents_reset (h : Represents t m) : Represents (resetStats t) m.reset where
  count := h.count
  name i d hi := by rw [resetStats_deviceName]; exact h.name i d hi
  total i d hi := by
    have hlt : i < t.deviceCount := by
      rw [h.count]
      exact (List.getElem?_eq_some_iff.mp hi).1
    simp [resetStats, hlt, DeviceMap.reset]

end Simulation

/-! ## Runs of one call at a time -/

/-- The table, the device each slot was made for, the updates since the last reset, and every update
that was dropped, with the devices that had slots then. -/
structure StatsRun where
  table : StatsTable
  owners : List CStr
  updates : List StatsUpdate
  drops : List (CStr × List CStr)

/-- A call of `update_storage_stats` or of `reset_stats`. -/
inductive StatsOp
  | update (u : StatsUpdate)
  | reset

/-- One call, with its record. -/
def statsRunStep (s : StatsRun) : StatsOp → Option StatsRun
  | .update u =>
      let r := updateStorageStats s.table u
      some {
        table := r.1
        owners := if r.1.deviceCount = s.table.deviceCount then s.owners else s.owners ++ [u.device]
        updates := s.updates ++ [u]
        drops := if r.2 then s.drops else s.drops ++ [(u.device, s.owners)] }
  | .reset => some { s with table := resetStats s.table, updates := [] }

/-- The module has just been loaded. -/
def statsRunInit (s : StatsRun) : Prop := s = ⟨.init, [], [], []⟩

/-- Every slot has a device of its own, a device was only dropped when `MAX_DEVICES` others had
slots, and every slot has the sums over the updates of its device. -/
structure TracksDevices (s : StatsRun) : Prop where
  slots : s.table.deviceCount = s.owners.length
  distinct : s.owners.Nodup
  dropped : ∀ p ∈ s.drops, p.2.Nodup ∧ p.2.length = maxDevices ∧ p.1 ∉ p.2
  sums : ∀ i d, s.owners[i]? = some d →
    (s.table.deviceStats i).counters = .sums (s.updates.filter (·.device = d))

/-- The table recognises the device it is asked for. -/
def RecognisedOp (s : StatsRun) : StatsOp → Prop
  | .update u => Recognised s.owners u.device
  | .reset => True

instance (s : StatsRun) (op : StatsOp) : Decidable (RecognisedOp s op) :=
  match op with
  | .update u => inferInstanceAs (Decidable (Recognised s.owners u.device))
  | .reset => inferInstanceAs (Decidable True)

/-- The run against the map: the map has the devices the slots were made for and the sums of their
updates, and an update of any other device was dropped for want of room. -/
structure RunInv (s : StatsRun) (m : DeviceMap) : Prop where
  represents : Represents s.table m
  owners : s.owners = m.devices
  totals : ∀ d ∈ m.devices, m.totals d = .sums (s.updates.filter (·.device = d))
  others : ∀ u ∈ s.updates, u.device ∈ m.devices ∨ m.devices.length = maxDevices
  dropped : ∀ p ∈ s.drops, p.2.Nodup ∧ p.2.length = maxDevices ∧ p.1 ∉ p.2

lemma RunInv.tracks {s : StatsRun} {m : DeviceMap} (h : RunInv s m) : TracksDevices s where
  slots := by rw [h.owners]; exact h.represents.count
  distinct := by rw [h.owners]; exact m.nodup
  dropped := h.dropped
  sums i d hi := by
    rw [h.owners] at hi
    rw [h.represents.total i d hi, h.totals d (List.mem_of_getElem? hi)]

/-- One more update in the list counts for its own device only. -/
lemma filter_concat_self (us : List StatsUpdate) (u : StatsUpdate) :
    (us ++ [u]).filter (·.device = u.device) = us.filter (·.device = u.device) ++ [u] := by
  simp

lemma filter_concat_of_ne (us : List StatsUpdate) {u : StatsUpdate} {d : CStr}
    (h : d ≠ u.device) : (us ++ [u]).filter (·.device = d) = us.filter (·.device = d) := by
  simp [h.symm]

/-- The totals after an update that the map takes, from the totals before it. -/
lemma totals_add {m : DeviceMap} {us : List StatsUpdate} {u : StatsUpdate}
    (h : ∀ d ∈ m.devices, m.totals d = .sums (us.filter (·.device = d))) :
    ∀ d ∈ m.devices, u.device ∈ m.devices →
      (m.add u).totals d = .sums ((us ++ [u]).filter (·.device = d)) := by
  intro d hd hmem
  by_cases hdu : d = u.device
  · subst hdu
    rw [DeviceMap.add_totals_self, filter_concat_self, Counters.sums_concat, h _ hd]
  · rw [DeviceMap.add_totals_of_ne m hdu, filter_concat_of_ne us hdu, h d hd]

lemma RunInv.update {s s' : StatsRun} {m : DeviceMap} {u : StatsUpdate} (h : RunInv s m)
    (hrec : Recognised s.owners u.device) (hs : statsRunStep s (.update u) = some s') :
    RunInv s' (m.update u).1 := by
  rw [h.owners] at hrec
  obtain ⟨hrep, hkept⟩ := represents_update h.represents hrec
  obtain rfl := Option.some.inj hs
  by_cases hmem : u.device ∈ m.devices
  · rw [DeviceMap.update_of_mem hmem] at hrep hkept ⊢
    have hcount : (updateStorageStats s.table u).1.deviceCount = s.table.deviceCount :=
      hrep.count.trans h.represents.count.symm
    refine ⟨hrep, (if_pos hcount).trans h.owners, fun d hd => totals_add h.totals d hd hmem, ?_, ?_⟩
    · exact List.forall_mem_append.mpr ⟨h.others, List.forall_mem_singleton.mpr (Or.inl hmem)⟩
    · simp only [hkept, if_true]
      exact h.dropped
  by_cases hroom : m.devices.length < maxDevices
  · rw [DeviceMap.update_of_room hmem hroom] at hrep hkept ⊢
    have hcount : (updateStorageStats s.table u).1.deviceCount ≠ s.table.deviceCount := by
      rw [hrep.count, h.represents.count]
      simp [DeviceMap.add, DeviceMap.insert]
    -- an update of the new device would have been dropped, and then there would be no room
    have hnone : s.updates.filter (·.device = u.device) = [] := by
      refine List.filter_eq_nil_iff.mpr fun v hv heq => ?_
      rcases h.others v hv with hin | hfull
      · exact hmem (decide_eq_true_eq.mp heq ▸ hin)
      · exact Nat.lt_irrefl _ (hfull ▸ hroom)
    have hbefore : ∀ d ∈ (m.insert u.device hmem hroom).devices,
        (m.insert u.device hmem hroom).totals d = .sums (s.updates.filter (·.device = d)) := by
      refine List.forall_mem_append.mpr ⟨fun d hd => ?_, List.forall_mem_singleton.mpr ?_⟩
      · rw [DeviceMap.insert_totals_of_ne hmem hroom fun heq => hmem (heq ▸ hd), h.totals d hd]
      · rw [DeviceMap.insert_totals_self hmem hroom, hnone, Counters.sums_nil]
    have hself : u.device ∈ (m.insert u.device hmem hroom).devices :=
      List.mem_append_right _ (List.mem_singleton_self _)
    refine ⟨hrep, ?_, fun d hd => totals_add hbefore d hd hself, ?_, ?_⟩
    · exact (if_neg hcount).trans (by rw [h.owners]; rfl)
    · refine List.forall_mem_append.mpr ⟨fun v hv => ?_, List.forall_mem_singleton.mpr ?_⟩
      · rcases h.others v hv with hin | hfull
        · exact Or.inl (List.mem_append_left _ hin)
        · exact absurd hroom (by rw [hfull]; exact Nat.lt_irrefl _)
      · exact Or.inl hself
    · simp only [hkept, if_true]
      exact h.dropped
  · rw [DeviceMap.update_of_full hmem hroom] at hrep hkept ⊢
    have hfull : m.devices.length = maxDevices :=
      Nat.le_antisymm m.bounded (Nat.le_of_not_lt hroom)
    have hcount : (updateStorageStats s.table u).1.deviceCount = s.table.deviceCount :=
      hrep.count.trans h.represents.count.symm
    refine ⟨hrep, (if_pos hcount).trans h.owners, fun d hd => ?_, fun _ _ => Or.inr hfull, ?_⟩
    · rw [filter_concat_of_ne s.updates fun heq => hmem (heq ▸ hd)]
      exact h.totals d hd
    · simp only [hkept, Bool.false_eq_true, if_false]
      refine List.forall_mem_append.mpr ⟨h.dropped, List.forall_mem_singleton.mpr ?_⟩
      rw [h.owners]
      exact ⟨m.nodup, hfull, hmem⟩

lemma RunInv.reset {s s' : StatsRun} {m : DeviceMap} (h : RunInv s m)
    (hs : statsRunStep s .reset = some s') : RunInv s' m.reset := by
  obtain rfl := Option.some.inj hs
  exact ⟨represents_reset h.represents, h.owners, fun _ _ => rfl, by simp, h.dropped⟩

lemma runInv_init :
    RunInv ⟨.init, [], [], []⟩ ⟨[], fun _ => .zero, List.nodup_nil, Nat.zero_le _⟩ :=
  ⟨⟨rfl, by simp, by simp⟩, rfl, by simp, by simp, by simp⟩

lemma runInv_of_reach {s : StatsRun} (h : Reach statsRunInit statsRunStep RecognisedOp s) :
    ∃ m, RunInv s m := by
  refine h.invariant (I := fun s => ∃ m, RunInv s m) ?_ fun s op s' hI hrec hs => ?_
  · rintro s rfl
    exact ⟨_, runInv_init⟩
  · obtain ⟨m, hm⟩ := hI
    cases op with
    | update u => exact ⟨_, hm.update hrec hs⟩
    | reset => exact ⟨_, hm.reset hs⟩

/-- **The table is a bounded map from devices to totals**, in every run whose updates are of devices
it recognises. -/
theorem tracks_devices {s : StatsRun} (h : Reach statsRunInit statsRunStep RecognisedOp s) :
    TracksDevices s := by
  obtain ⟨m, hm⟩ := runInv_of_reach h
  exact hm.tracks

/-- The search fails for a name that no slot has room for. -/
lemma Represents.lookup_long {t : StatsTable} {m : DeviceMap} (h : Represents t m) {d : CStr}
    (hlong : 64 ≤ d.length) : t.lookup d = none := by
  cases hlookup : t.lookup d with
  | none => rfl
  | some i =>
      obtain ⟨o, -, hfind⟩ := h.find_of_lookup hlookup
      have hname : fit 64 o = d := by simpa using List.find?_some hfind
      have hlen := congrArg List.length hname
      simp only [fit, List.length_take] at hlen
      omega

/-- **The condition is exact.**  An update of a device that is not recognised is the end of the
correspondence: it goes to the totals of another device, or makes a second slot for its own, or is
dropped although its device has a slot. -/
theorem unrecognised_update_breaks {s s' : StatsRun} {m : DeviceMap} {u : StatsUpdate}
    (h : RunInv s m) (hrec : ¬ Recognised s.owners u.device)
    (hs : statsRunStep s (.update u) = some s') : ¬ TracksDevices s' := by
  intro htracks
  obtain rfl := Option.some.inj hs
  rw [Recognised, not_and_or, h.owners] at hrec
  rcases hrec with hother | hlong
  · push Not at hother
    obtain ⟨o, hfind, hne⟩ := hother
    obtain ⟨i, hlookup⟩ : ∃ i, s.table.lookup u.device = some i := by
      refine Option.ne_none_iff_exists'.mp fun hnone => ?_
      exact h.represents.find_none hnone o (List.mem_of_find?_eq_some hfind)
        (by simpa using List.find?_some hfind)
    obtain ⟨o', hi, hfind'⟩ := h.represents.find_of_lookup hlookup
    obtain rfl : o = o' := Option.some.inj (hfind.symm.trans hfind')
    have hupdate : updateStorageStats s.table u = (s.table.credit i u, true) := by
      simp only [updateStorageStats, getDeviceStats, hlookup]
    -- the slot of `o` has one operation more than the updates of `o`
    have hsum := htracks.sums i o (by simpa [hupdate, h.owners] using hi)
    have hold := h.tracks.sums i o (by rw [h.owners]; exact hi)
    rw [filter_concat_of_ne s.updates hne, ← hold, hupdate, StatsTable.credit_self] at hsum
    have hops := congrArg Counters.opCount hsum
    rw [Counters.credit_opCount] at hops
    exact absurd (UInt64.add_eq_left.mp hops) (by decide)
  · push Not at hlong
    obtain ⟨hlen, hmem⟩ := hlong
    have hlookup := h.represents.lookup_long hlen
    by_cases hroom : s.table.deviceCount < maxDevices
    · have hdistinct := htracks.distinct
      simp only [updateStorageStats, getDeviceStats, hlookup, hroom, if_true] at hdistinct
      simp only [StatsTable.credit_deviceCount, StatsTable.create_deviceCount, h.owners]
        at hdistinct
      rw [if_neg (Nat.succ_ne_self _), List.nodup_append] at hdistinct
      exact hdistinct.2.2 _ hmem _ (List.mem_singleton_self _) rfl
    · have hdropped := htracks.dropped (u.device, s.owners) (by
        simp [updateStorageStats, getDeviceStats, hlookup, hroom])
      rw [h.owners] at hdropped
      exact hdropped.2.2 hmem

/-- A read and a write of one device, and a reset between them. -/
def sdaOps : List StatsOp :=
  [.update ⟨['s', 'd', 'a'], true, 512, 7⟩, .reset, .update ⟨['s', 'd', 'a'], false, 4096, 9⟩]

/-- Only the write is in the sums after the reset. -/
theorem tracks_devices_sda :
    ∃ s, s.owners = [['s', 'd', 'a']] ∧
      (s.table.deviceStats 0).counters = ⟨0, 1, 0, 4096, 9, 1⟩ ∧
      Reach statsRunInit statsRunStep RecognisedOp s ∧ TracksDevices s := by
  have hrun : (run statsRunStep ⟨.init, [], [], []⟩ sdaOps).map
      (fun s => (s.owners, (s.table.deviceStats 0).counters))
        = some ([['s', 'd', 'a']], ⟨0, 1, 0, 4096, 9, 1⟩) := by decide +kernel
  obtain ⟨s, hs, heq⟩ := Option.map_eq_some_iff.mp hrun
  rw [Prod.mk.injEq] at heq
  have hinit : statsRunInit ⟨.init, [], [], []⟩ := rfl
  have hreach : Reach statsRunInit statsRunStep RecognisedOp s :=
    (Reach.start hinit).of_run (by decide +kernel) hs
  exact ⟨s, heq.1, heq.2, hreach, tracks_devices hreach⟩

/-- A name that is one character too long. -/
def longDevice : CStr := List.replicate 64 'a'

/-- It is not found again, and gets a second slot. -/
theorem long_name_takes_two_slots :
    ¬ ∀ s, Reach statsRunInit statsRunStep anyStep s → TracksDevices s := by
  intro hclaim
  have hrun : (run statsRunStep ⟨.init, [], [], []⟩
      [.update ⟨longDevice, true, 1, 1⟩, .update ⟨longDevice, true, 1, 1⟩]).map (·.owners)
        = some [longDevice, longDevice] := by decide +kernel
  obtain ⟨s, hs, howners⟩ := Option.map_eq_some_iff.mp hrun
  have hinit : statsRunInit ⟨.init, [], [], []⟩ := rfl
  have hdistinct := (hclaim s ((Reach.start hinit).of_run_any hs)).distinct
  rw [howners] at hdistinct
  exact absurd hdistinct (by decide +kernel)

end Storage
