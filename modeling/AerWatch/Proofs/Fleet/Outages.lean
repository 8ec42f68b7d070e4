import AerWatch.Proofs.Fleet.Runs

/-!
# Polls that fail

A check reads all status registers before it announces or remembers anything, so one that fails does
neither. Which polls of a run fail for a device does not depend on what was seen of it before, and a
run without them gives the same events about its errors and leaves the device the same.
-/

namespace AerWatch

section Checks

variable (s : ConfigSpace) (d : Device)

/-- The device has the register, but it cannot be read. -/
def StatusRegister.Unreadable : StatusRegister → Prop
  | deviceStatus =>
    ∃ cap e, d.express = some cap ∧ s.tryRead16 (cap + Register.deviceStatus) = .error e
  | uncorrectable =>
    ∃ pos e, d.aer = some pos ∧ s.tryRead32 (pos + Register.uncorrectableStatus) = .error e
  | correctable =>
    ∃ pos e, d.aer = some pos ∧ s.tryRead32 (pos + Register.correctableStatus) = .error e

theorem StatusRegister.exists_iff {P : StatusRegister → Prop} :
    (∃ k, P k) ↔ P deviceStatus ∨ P uncorrectable ∨ P correctable := by
  constructor
  · rintro ⟨k, hk⟩
    cases k
    · exact .inl hk
    · exact .inr (.inl hk)
    · exact .inr (.inr hk)
  · rintro (h | h | h)
    · exact ⟨_, h⟩
    · exact ⟨_, h⟩
    · exact ⟨_, h⟩

namespace Policy

variable {s d}

/-- The status cannot be read if one of the registers cannot. -/
theorem exists_readStatus_error_iff :
    (∃ e, readStatus d s = .error e) ↔ ∃ k : StatusRegister, k.Unreadable s d := by
  rw [StatusRegister.exists_iff]
  obtain ⟨address, express, aer, snapshot⟩ := d
  simp only [readStatus, StatusRegister.Unreadable]
  cases express <;> cases aer
  case none.none => simp [bind, Except.bind, pure, Except.pure]
  case none.some pos =>
    cases hu : s.tryRead32 (pos + Register.uncorrectableStatus) <;>
      cases hc : s.tryRead32 (pos + Register.correctableStatus) <;>
      simp [bind, Except.bind, pure, Except.pure, hu, hc]
  case some.none cap =>
    cases hs : s.tryRead16 (cap + Register.deviceStatus) <;>
      simp [bind, Except.bind, pure, Except.pure, Except.map, hs]
  case some.some cap pos =>
    cases hs : s.tryRead16 (cap + Register.deviceStatus) <;>
      cases hu : s.tryRead32 (pos + Register.uncorrectableStatus) <;>
      cases hc : s.tryRead32 (pos + Register.correctableStatus) <;>
      simp [bind, Except.bind, pure, Except.pure, Except.map, hs, hu, hc]

/-- A check that fails gives the error of the reading and keeps the device and the events. -/
theorem run_checking_eq_error_iff {p : Policy} {events : List Event} {e : Error}
    {c : Device × List Event} :
    (p.checking s).run (d, events) = .error e c ↔ readStatus d s = .error e ∧ c = (d, events) := by
  cases hstatus : readStatus d s with
  | error e' =>
    rw [run_checking_of_error hstatus]
    simp [eq_comm]
  | ok status =>
    rw [run_checking_of_ok hstatus]
    simp

end Policy

end Checks

namespace Fleet

section Runs

variable {p : Policy} {fleet : Fleet} {i : Nat} {d : Device}

/-- Whether a poll fails for a device does not depend on what was seen of it before. -/
theorem fails_snapshot (bus : Bus) (d : Device) (seen : Snapshot) :
    fails bus { d with snapshot := seen } = fails bus d := by
  rw [Bool.eq_iff_iff, fails_iff, fails_iff]
  simp only [Policy.exists_readStatus_error_iff]
  rfl

theorem fails_deviceAfter (earlier : List Bus) (bus : Bus) :
    fails bus (deviceAfter p d earlier) = fails bus d := by
  obtain ⟨status, hstatus⟩ := deviceAfter_eq p d earlier
  rw [hstatus, fails_snapshot]

/-- The polls of a device that do not fail. -/
def successful (d : Device) (buses : List Bus) : List Bus := buses.filter (!fails · d)

theorem successful_pollDevice (bus : Bus) (buses : List Bus) :
    successful (pollDevice p bus d).device buses = successful d buses := by
  obtain ⟨status, hstatus⟩ := device_pollDevice p bus d
  simp only [successful, hstatus, fails_snapshot]

/-- The polls that fail leave no trace in a device. -/
theorem deviceAfter_successful (buses : List Bus) :
    deviceAfter p d (successful d buses) = deviceAfter p d buses := by
  induction buses generalizing d with
  | nil => rfl
  | cons bus buses ih =>
    cases h : fails bus d with
    | true =>
      have hskip : successful d (bus :: buses) = successful d buses := by simp [successful, h]
      rw [hskip, ih, deviceAfter, deviceAfter, List.foldl_cons, pollDevice_of_fails p h]
    | false =>
      have hkeep : successful d (bus :: buses) = bus :: successful d buses := by
        simp [successful, h]
      rw [hkeep, ← successful_pollDevice bus, deviceAfter, List.foldl_cons]
      exact ih

/-- The errors announced of a device are those of the polls that do not fail. -/
theorem pcieErrors_successful (buses : List Bus) :
    (deviceEvents p d (successful d buses)).filter (·.topic == .pcieError) =
      (deviceEvents p d buses).filter (·.topic == .pcieError) := by
  induction buses generalizing d with
  | nil => rfl
  | cons bus buses ih =>
    cases h : fails bus d with
    | true =>
      have hskip : successful d (bus :: buses) = successful d buses := by simp [successful, h]
      rw [hskip, ih, deviceEvents, pollDevice_of_fails p h]
      rfl
    | false =>
      have hkeep : successful d (bus :: buses) = bus :: successful d buses := by
        simp [successful, h]
      rw [hkeep, ← successful_pollDevice bus, deviceEvents, deviceEvents, List.filter_append,
        List.filter_append, ih]

/-- A check fails if a status register of the device cannot be read, and then it has announced nothing
and left the device as it was. So a run of polls gives the same events about the errors of a device,
and leaves it the same, as the run without the polls that fail for it. The events that the polls of a
fleet dispatch are those of its devices in turn. -/
theorem events_of_run_with_outages (hd : fleet.devices[i]? = some d) (buses : List Bus) :
    let kept := successful d buses
    (∀ (d : Device) (s : ConfigSpace) (events : List Event),
      ((∃ e c, (p.checking s).run (d, events) = .error e c) ↔
        ∃ k : StatusRegister, k.Unreadable s d) ∧
      ∀ e c, (p.checking s).run (d, events) = .error e c → c = (d, events)) ∧
    (∀ earlier bus, (pollDevice p bus (deviceAfter p d earlier)).failed = fails bus d) ∧
    (eventsOf p i fleet buses).filter (·.topic == .pcieError) =
      (eventsOf p i fleet kept).filter (·.topic == .pcieError) ∧
    (fleet.after p buses).devices[i]? = (fleet.after p kept).devices[i]? ∧ ToldInTurn p fleet := by
  intro kept
  refine ⟨fun d s events => ⟨?_, fun e c h => (Policy.run_checking_eq_error_iff.mp h).2⟩,
    fun earlier bus => ?_, ?_, ?_, toldInTurn p fleet⟩
  · simp [Policy.run_checking_eq_error_iff, Policy.exists_readStatus_error_iff]
  · rw [failed_pollDevice, fails_deviceAfter]
  · rw [eventsOf_eq hd, eventsOf_eq hd]
    exact (pcieErrors_successful buses).symm
  · rw [getElem?_after hd, getElem?_after hd]
    exact congrArg some (deviceAfter_successful buses).symm

end Runs

section Sample

/-- A link error that vanishes while the device is gone and each of its registers is out of reach in
turn. -/
theorem events_of_error_that_vanishes_in_outage :
    let short := fun size => (sampleSpace 0 0x10 0).resize size
    let outage := sampleBus [] :: [0x4b, 0x106, 0x112].map fun size => sampleBus [short size]
    let buses := sampleBus [sampleSpace 0 0x10 0] :: outage ++ [sampleBus [sampleSpace 0 0 0]]
    let fleet : Fleet := ⟨[sampleDevice]⟩
    let kept := successful sampleDevice buses
    fleet.devices[0]? = some sampleDevice ∧ outage.all (fails · sampleDevice) ∧ kept.length = 2 ∧
      (eventsOf {} 0 fleet buses).length = 6 ∧
      (eventsOf {} 0 fleet buses).filter (·.topic == .pcieError) =
        (eventsOf {} 0 fleet kept).filter (·.topic == .pcieError) ∧
      (events {} fleet buses).filter (·.subject == sampleDevice.address.text) =
        eventsOf {} 0 fleet buses := by
  intro short outage buses fleet kept
  have hd : fleet.devices[0]? = some sampleDevice := rfl
  obtain ⟨-, -, herrors, -, hturn⟩ := events_of_run_with_outages (p := {}) hd buses
  refine ⟨hd, ?_, ?_, ?_, herrors, hturn.subject (List.nodup_singleton _) 0 sampleDevice hd buses⟩
  · decide +kernel
  · decide +kernel
  · decide +kernel

end Sample

end Fleet

end AerWatch
