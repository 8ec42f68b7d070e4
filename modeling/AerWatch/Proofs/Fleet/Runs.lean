import AerWatch.Proofs.Fleet.Polling

/-!
# Runs of polls

A run polls a fleet over and over while the platform changes, so it is given by the buses that the
polls meet. A fleet after a run holds at every place the device that polls of this device alone would
leave there, and of the events of a run those of one device are what polls of it alone would give. A
poll dispatches the events of its devices one after another, and where no two devices are named alike
those of a device can be told by their subject.
-/

namespace AerWatch.Fleet

section Runs

variable (p : Policy)

/-- A device after polls of it. -/
def deviceAfter (d : Device) (buses : List Bus) : Device :=
  buses.foldl (fun d bus => (pollDevice p bus d).device) d

/-- The events of polls of one device. -/
def deviceEvents : Device → List Bus → List Event
  | _, [] => []
  | d, bus :: buses => (pollDevice p bus d).events ++ deviceEvents (pollDevice p bus d).device buses

/-- A fleet after a run of polls. -/
def after (fleet : Fleet) (buses : List Bus) : Fleet :=
  buses.foldl (fun fleet bus => (poll p bus fleet).fleet) fleet

/-- The events of a run of polls. -/
def events : Fleet → List Bus → List Event
  | _, [] => []
  | fleet, bus :: buses => (poll p bus fleet).events ++ events (poll p bus fleet).fleet buses

/-- What the polls of a run find out, one after another. -/
def reports : Fleet → List Bus → List FleetReport
  | _, [] => []
  | fleet, bus :: buses => poll p bus fleet :: reports (poll p bus fleet).fleet buses

/-- The events of the `i`-th device in a poll. -/
def shareOf (i : Nat) (bus : Bus) (fleet : Fleet) : List Event :=
  (fleet.devices[i]?).elim [] fun d => (pollDevice p bus d).events

/-- The events of the `i`-th device in a run of polls. -/
def eventsOf (i : Nat) : Fleet → List Bus → List Event
  | _, [] => []
  | fleet, bus :: buses => shareOf p i bus fleet ++ eventsOf i (poll p bus fleet).fleet buses

/-- The events that the polls of a fleet dispatch are those of its devices. Every poll, whatever polls
came `earlier`, tells what it has found of the devices in turn. When no two devices are named alike,
those events of a run that name a device are the events of this device. -/
structure ToldInTurn (fleet : Fleet) : Prop where
  poll : ∀ earlier bus,
    (poll p bus (fleet.after p earlier)).events =
      (List.range fleet.devices.length).flatMap (shareOf p · bus (fleet.after p earlier))
  subject : (fleet.devices.map (·.address.text)).Nodup → ∀ i d, fleet.devices[i]? = some d →
    ∀ buses, (events p fleet buses).filter (·.subject == d.address.text) = eventsOf p i fleet buses

end Runs

section Devices

variable {p : Policy} {fleet : Fleet} {i : Nat} {d : Device}

theorem getElem?_poll (bus : Bus) (h : fleet.devices[i]? = some d) :
    (poll p bus fleet).fleet.devices[i]? = some (pollDevice p bus d).device := by
  simp [poll_eq, h]

/-- A run leaves of every device what polls of it alone would leave. -/
theorem devices_after (p : Policy) (fleet : Fleet) (buses : List Bus) :
    (fleet.after p buses).devices = fleet.devices.map (deviceAfter p · buses) := by
  induction buses generalizing fleet with
  | nil => simp [after, deviceAfter]
  | cons bus buses ih =>
    rw [after, List.foldl_cons, ← after, ih, poll_eq, List.map_map]
    rfl

theorem getElem?_after (h : fleet.devices[i]? = some d) (buses : List Bus) :
    (fleet.after p buses).devices[i]? = some (deviceAfter p d buses) := by
  simp [devices_after, h]

theorem shareOf_eq (h : fleet.devices[i]? = some d) (bus : Bus) :
    shareOf p i bus fleet = (pollDevice p bus d).events := by
  simp [shareOf, h]

/-- The shares of the devices are all events of a poll. -/
theorem flatMap_shareOf (p : Policy) (bus : Bus) (fleet : Fleet) :
    (List.range fleet.devices.length).flatMap (shareOf p · bus fleet) = (poll p bus fleet).events := by
  rw [poll_eq]
  exact flatMap_range_getElem? _ _ le_rfl

/-- The events of a device in a run are those of polls of it alone. -/
theorem eventsOf_eq (h : fleet.devices[i]? = some d) (buses : List Bus) :
    eventsOf p i fleet buses = deviceEvents p d buses := by
  induction buses generalizing fleet d with
  | nil => rfl
  | cons bus buses ih => rw [eventsOf, shareOf_eq h, ih (getElem?_poll bus h), deviceEvents]

/-- A poll leaves a device where it is, with the structures it has. -/
theorem device_pollDevice (p : Policy) (bus : Bus) (d : Device) :
    ∃ status, (pollDevice p bus d).device = { d with snapshot := status } := by
  rw [pollDevice_eq]
  cases reading? bus d with
  | none => exact ⟨d.snapshot, rfl⟩
  | some r => exact ⟨r.2, rfl⟩

theorem deviceAfter_eq (p : Policy) (d : Device) (buses : List Bus) :
    ∃ status, deviceAfter p d buses = { d with snapshot := status } := by
  induction buses generalizing d with
  | nil => exact ⟨d.snapshot, rfl⟩
  | cons bus buses ih =>
    obtain ⟨status, hstatus⟩ := device_pollDevice p bus d
    rw [deviceAfter, List.foldl_cons, hstatus]
    exact ih { d with snapshot := status }

theorem subject_of_mem_pollDevice {bus : Bus} {e : Event} (h : e ∈ (pollDevice p bus d).events) :
    e.subject = d.address.text := by
  rw [pollDevice_eq] at h
  cases hr : reading? bus d with
  | none =>
    rw [hr] at h
    rw [List.mem_singleton.mp h]
    rfl
  | some r =>
    rw [hr] at h
    obtain ⟨k, -, hk⟩ := List.mem_flatMap.mp h
    exact Policy.subject_of_mem_announced hk

end Devices

section Subjects

variable {p : Policy} {fleet : Fleet} {i : Nat} {d : Device}

theorem filter_subject_pollDevice (bus : Bus) (d : Device) (subject : String) :
    (pollDevice p bus d).events.filter (·.subject == subject) =
      if d.address.text = subject then (pollDevice p bus d).events else [] := by
  split_ifs with h
  · exact List.filter_eq_self.mpr fun e he => beq_iff_eq.mpr (subject_of_mem_pollDevice he ▸ h)
  · refine List.filter_eq_nil_iff.mpr fun e he hsubject => h ?_
    rw [← subject_of_mem_pollDevice he]
    exact beq_iff_eq.mp hsubject

theorem texts_poll (bus : Bus) :
    (poll p bus fleet).fleet.devices.map (·.address.text) =
      fleet.devices.map (·.address.text) := by
  simp only [poll_eq, List.map_map]
  refine List.map_congr_left fun d _ => ?_
  obtain ⟨status, hstatus⟩ := device_pollDevice p bus d
  simp [hstatus]

/-- When no two devices are named alike, the events of a device are those that name it. -/
theorem filter_subject_events (hnames : (fleet.devices.map (·.address.text)).Nodup)
    (h : fleet.devices[i]? = some d) (buses : List Bus) :
    (events p fleet buses).filter (·.subject == d.address.text) = eventsOf p i fleet buses := by
  induction buses generalizing fleet d with
  | nil => rfl
  | cons bus buses ih =>
    have hpoll : (poll p bus fleet).events.filter (·.subject == d.address.text) =
        shareOf p i bus fleet := by
      simp only [poll_eq, List.filter_flatMap, filter_subject_pollDevice]
      rw [flatMap_ite_of_nodup hnames (List.mem_of_getElem? h), shareOf_eq h]
    obtain ⟨status, hstatus⟩ := device_pollDevice p bus d
    have hrest := ih (texts_poll (p := p) bus ▸ hnames) (getElem?_poll bus h)
    rw [hstatus] at hrest
    rw [events, eventsOf, List.filter_append, hpoll, hrest]

theorem toldInTurn (p : Policy) (fleet : Fleet) : ToldInTurn p fleet where
  poll earlier bus := by
    rw [← flatMap_shareOf, devices_after, List.length_map]
  subject hnames _ _ h buses := filter_subject_events hnames h buses

end Subjects

end AerWatch.Fleet
