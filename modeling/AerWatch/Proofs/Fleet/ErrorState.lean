import AerWatch.Proofs.Fleet.Discovery
import AerWatch.Proofs.Fleet.Runs
import AerWatch.Proofs.Policy.BitHistory
import AerWatch.Proofs.Policy.Notices

/-!
# The error state in the events

When masked errors are reported, too, the events of a device tell the state of every known bit of it:
the bit is set if the last event about it says so. This holds over all runs of polls, those that fail
for the device among them. The events of a device are those that the polls of its fleet dispatch for
it.
-/

namespace AerWatch.Fleet

section Sights

variable (k : StatusRegister) (b : ErrorBit)

/-- What a poll of a device sees of a bit of its registers, nothing if the device cannot be read. -/
def sight? (bus : Bus) (d : Device) : Option Sight :=
  (reading? bus d).map fun (s, status) => ⟨b.isSet (k.value status), b.isSet (k.masked s d)⟩

variable {k b} {p : Policy} {d : Device}

/-- What is seen of a bit does not depend on what was seen before. -/
theorem sight?_snapshot (hk : k.presentIn d) (bus : Bus) (seen : Snapshot) :
    sight? k b bus { d with snapshot := seen } = sight? k b bus d := by
  unfold sight? reading?
  cases bus.openSpace d.address with
  | error e => rfl
  | ok s =>
    have hmasked : k.masked s { d with snapshot := seen } = k.masked s d := by cases k <;> rfl
    have hvalue := Policy.map_value_readStatus (s := s) hk seen
    cases hold : Policy.readStatus d s <;>
      cases hnew : Policy.readStatus { d with snapshot := seen } s <;>
      simp_all [Except.map]

/-- A poll tells of a bit what the policy tells of what is seen of it. -/
theorem notices_pollDevice (hk : k.presentIn d) (hb : b ∈ k.bits) (bus : Bus) :
    (pollDevice p bus d).events.filterMap (·.notice? k b) =
      p.told (b.isSet (k.value d.snapshot)) [sight? k b bus d] := by
  rw [pollDevice_eq, sight?]
  cases reading? bus d with
  | none => rfl
  | some r =>
    simp only [notices_check hb hk, Policy.transition?_eq]
    simp [Policy.told]

/-- A poll changes only what is remembered of a device, which is then what was last seen. -/
theorem exists_snapshot_pollDevice (k : StatusRegister) (b : ErrorBit) (bus : Bus) :
    ∃ status, (pollDevice p bus d).device = { d with snapshot := status } ∧
      b.isSet (k.value status) = seen (b.isSet (k.value d.snapshot)) [sight? k b bus d] := by
  rw [pollDevice_eq, sight?]
  cases reading? bus d with
  | none => exact ⟨d.snapshot, rfl, rfl⟩
  | some r => exact ⟨r.2, rfl, rfl⟩

end Sights

section Runs

variable {k : StatusRegister} {b : ErrorBit} {p : Policy} {d : Device}

/-- A run of polls of a device tells of a bit what the policy tells of what is seen of it. -/
theorem told_of_deviceEvents (hk : k.presentIn d) (hb : b ∈ k.bits) (buses : List Bus) :
    (deviceEvents p d buses).filterMap (·.notice? k b) =
      p.told (b.isSet (k.value d.snapshot)) (buses.map (sight? k b · d)) := by
  induction buses generalizing d with
  | nil => rfl
  | cons bus buses ih =>
    obtain ⟨status, hstatus, hseen⟩ := exists_snapshot_pollDevice (p := p) (d := d) k b bus
    have hrest := ih (StatusRegister.presentIn_snapshot hk status)
    -- the later polls see the same of the device with its new snapshot
    simp only [sight?_snapshot hk] at hrest
    rw [deviceEvents, List.filterMap_append, notices_pollDevice hk hb, hstatus, hrest, hseen,
      ← Policy.told_append]
    rfl

theorem isSet_deviceAfter (hk : k.presentIn d) (buses : List Bus) :
    b.isSet (k.value (deviceAfter p d buses).snapshot) =
      seen (b.isSet (k.value d.snapshot)) (buses.map (sight? k b · d)) := by
  induction buses generalizing d with
  | nil => rfl
  | cons bus buses ih =>
    obtain ⟨status, hstatus, hseen⟩ := exists_snapshot_pollDevice (p := p) (d := d) k b bus
    have hrest := ih (StatusRegister.presentIn_snapshot hk status)
    simp only [sight?_snapshot hk] at hrest
    rw [deviceAfter, List.foldl_cons, hstatus]
    refine hrest.trans ?_
    rw [hseen]
    rfl

end Runs

section ErrorState

variable {bus₀ : Bus} {fleet : Fleet} {i : Nat} {d : Device} {p : Policy} {k : StatusRegister}
variable {b : ErrorBit}

/-- What the last of a number of polls that could read the device saw of a bit. -/
def lastSight? (k : StatusRegister) (b : ErrorBit) (buses : List Bus) (d : Device) : Option Sight :=
  (buses.filterMap (sight? k b · d)).getLast?

theorem seen_lastSight? (was : Bool) (buses : List Bus) :
    seen was (buses.map (sight? k b · d)) = ((lastSight? k b buses d).map (·.set)).getD was := by
  rw [seen_eq, List.filterMap_map]
  rfl

/-- The events that the polls of a fleet dispatch are those of its devices in turn, and when no two
devices are named alike those of a device are the ones that name it. Those about a known bit of a
discovered device tell whether the bit is set now. Under a policy that is not persistent they
alternate; under a persistent one they tell of every poll that saw the bit set and of every one that saw
it clear after it was set. -/
theorem error_state_of_events (hfleet : discover bus₀ = .ok fleet) (hd : fleet.devices[i]? = some d)
    (hmasked : p.reportMasked = true) (hk : k.presentIn d) (hb : b ∈ k.bits) (buses : List Bus) :
    let told := (eventsOf p i fleet buses).filterMap (·.notice? k b)
    ToldInTurn p fleet ∧
    (∃ d', (fleet.after p buses).devices[i]? = some d' ∧
      (told.getLast? = some .set ↔ b.isSet (k.value d'.snapshot))) ∧
    (p.persistent = false → Alternates told) ∧
    (p.persistent = true →
      told.count .set = buses.countP (fun bus => (sight? k b bus d).any (·.set)) ∧
      ∀ bus, ((shareOf p i bus (fleet.after p buses)).filterMap (·.notice? k b)).count .cleared =
        if (sight? k b bus d).any (!·.set) ∧ (lastSight? k b buses d).any (·.set) then 1
        else 0) := by
  intro told
  have hzero : b.isSet (k.value d.snapshot) = false := by
    rw [snapshot_of_discover hfleet (List.mem_of_getElem? hd), k.isSet_value_empty]
  have htold : told = p.told false (buses.map (sight? k b · d)) := by
    rw [← hzero, ← told_of_deviceEvents hk hb, ← eventsOf_eq hd]
  have hafter := getElem?_after (p := p) hd buses
  refine ⟨toldInTurn p fleet, ⟨_, hafter, ?_⟩, fun hpersistent => ?_,
    fun hpersistent => ⟨?_, fun bus => ?_⟩⟩
  · rw [isSet_deviceAfter hk, hzero, htold]
    exact Policy.getLast?_told_eq_set hmasked _
  · rw [htold]
    exact Policy.isChain_told hmasked hpersistent false _
  · rw [htold, Policy.count_set_told hmasked hpersistent, List.countP_map]
    rfl
  · obtain ⟨status, hstatus⟩ := deviceAfter_eq p d buses
    have hpresent : k.presentIn (deviceAfter p d buses) := by
      rw [hstatus]
      exact StatusRegister.presentIn_snapshot hk status
    have hlast := isSet_deviceAfter (p := p) (b := b) hk buses
    rw [shareOf_eq hafter, notices_pollDevice hpresent hb, hlast, hzero, hstatus,
      sight?_snapshot hk, Policy.count_cleared_told hmasked hpersistent, seen_lastSight?]
    cases lastSight? k b buses d <;> rfl

end ErrorState

section Sample

/-- A fatal error of a function that is seen, persists over a failed poll and is cleared, while another
function reports the same error in every poll. -/
theorem error_state_of_fatal_error :
    let other : Device := { sampleDevice with address := ⟨0, 4, 0, 0⟩ }
    let space := fun (d : Device) status => { sampleSpace status 0 0 with address := d.address }
    let p : Policy := { reportMasked := true }
    let fleet : Fleet := ⟨[sampleDevice, other]⟩
    let buses := [sampleBus [space sampleDevice 0x4, space other 0x4], sampleBus [space other 0],
      sampleBus [space sampleDevice 0, space other 0x4]]
    let named := (events p fleet buses).filter (·.subject == sampleDevice.address.text)
    let told := named.filterMap (·.notice? .deviceStatus ⟨0x4, "Fatal Error"⟩)
    discover (sampleBus [space sampleDevice 0, space other 0]) = .ok fleet ∧
      (events p fleet buses).length = 6 ∧ named = eventsOf p 0 fleet buses ∧
      told = [.set, .cleared] ∧ Alternates told := by
  intro other space p fleet buses named told
  have hfleet : discover (sampleBus [space sampleDevice 0, space other 0]) = .ok fleet := by
    decide +kernel
  have hd : fleet.devices[0]? = some sampleDevice := rfl
  have hnames : (fleet.devices.map (·.address.text)).Nodup := by decide +kernel
  obtain ⟨hturn, -, halternates, -⟩ := error_state_of_events (p := p) (k := .deviceStatus)
    (b := ⟨0x4, "Fatal Error"⟩) hfleet hd rfl rfl (by decide +kernel) buses
  have hnamed : named = eventsOf p 0 fleet buses := hturn.subject hnames 0 sampleDevice hd buses
  rw [← hnamed] at halternates
  exact ⟨hfleet, by decide +kernel, hnamed, by decide +kernel, halternates rfl⟩

end Sample

end AerWatch.Fleet
