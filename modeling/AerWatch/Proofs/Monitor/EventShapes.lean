import AerWatch.Proofs.Monitor.Cycle
import AerWatch.Proofs.Policy.Notices

/-!
# The shapes of events

Registers and log make their events in different ways, but every event of a cycle is of one of three
shapes: a notice that something could not be read, the news that an error of a register is gone, or an
error that is present. The severity of the last kind follows from the class, whichever way it was
found.
-/

namespace AerWatch

/-- The shapes that an event can have. -/
inductive Shape where
  | failure
  | cleared
  | active
deriving DecidableEq

namespace Monitor

open Log

section Shapes

variable (m : Monitor) (bus : Option Bus) (fs : FileSystem) (e : Event)

/-- A notice that a device, or the log, could not be read. -/
structure IsFailureNotice : Prop where
  category : e.topic.category = ""
  severity : e.severity = .failure
  errorClass : e.errorClass = none
  metadata : e.metadata = .empty
  subject : e.subject = "" ∨ ∃ d ∈ m.fleet.devices, e.subject = d.address.text

/-- The news that an error is gone: a bit of a register that the poll reads as clear was set when the
device was last read. -/
structure IsClearedError : Prop where
  category : e.topic.category = "pcie_error"
  severity : e.severity = .ok
  errorClass : e.errorClass.isSome
  metadata : e.metadata = .empty
  origin : ∃ bus' ∈ bus, ∃ d ∈ m.fleet.devices, ∃ s status, ∃ k : StatusRegister, ∃ b ∈ k.bits,
    Fleet.reading? bus' d = some (s, status) ∧ k.presentIn d ∧
      b.isSet (k.value status) = false ∧ b.isSet (k.value d.snapshot) = true ∧
      e.subject = d.address.text ∧ e.notice? k b = some .cleared

/-- An error that is present. It has a class unless it was found in the log by a message that tells no
severity. -/
structure IsActiveError : Prop where
  category : e.topic.category = "pcie_error"
  severity : e.severity = if e.errorClass = some .fatal then .failure else .warning
  unclassified : e.errorClass = none → ∃ p ∈ m.parsers, ∃ messages message,
    (p.read fs m.firstRead).2 = .ok messages ∧ message ∈ messages ∧ e = message.toEvent ∧
      ∀ field ∈ message.items, field.2 ≠ "" → field.1.startsWith "severity" = false

/-- Whether an event of a cycle has a shape. -/
def Fits : Shape → Prop
  | .failure => IsFailureNotice m e
  | .cleared => IsClearedError m bus e
  | .active => IsActiveError m fs e

variable {m bus fs e}

/-- Category and severity tell the shapes apart. -/
theorem existsUnique_fits {shape : Shape} (h : Fits m bus fs e shape) :
    ∃! shape, Fits m bus fs e shape := by
  have hsevere : (if e.errorClass = some .fatal then Severity.failure else .warning) ≠ .ok := by
    split <;> decide
  refine ⟨shape, h, fun other hother => ?_⟩
  cases shape <;> cases other <;> try rfl
  case failure.cleared => exact absurd (h.category.symm.trans hother.category) (by decide)
  case failure.active => exact absurd (h.category.symm.trans hother.category) (by decide)
  case cleared.failure => exact absurd (h.category.symm.trans hother.category) (by decide)
  case active.failure => exact absurd (h.category.symm.trans hother.category) (by decide)
  case cleared.active => exact absurd (hother.severity.symm.trans h.severity) hsevere
  case active.cleared => exact absurd (h.severity.symm.trans hother.severity) hsevere

end Shapes

section Registers

variable {m : Monitor} {bus : Option Bus} {fs : FileSystem} {e : Event}

theorem severity_of_class (c : ErrorClass) :
    c.severity = if some c = some .fatal then Severity.failure else .warning := by
  cases c <;> rfl

/-- A change to set is announced by an active error. -/
theorem isActiveError_announce_set (subject : String) (c : ErrorClass) (label : String) (b : ErrorBit) :
    IsActiveError m fs (Policy.announce subject c label b .set) where
  category := rfl
  severity := severity_of_class c
  unclassified := nofun

/-- A bit that is announced as cleared is clear and was set. -/
theorem of_transition?_eq_cleared {p : Policy} {current previous masked : UInt32} {b : ErrorBit}
    (h : p.transition? current previous masked b = some .cleared) :
    b.isSet current = false ∧ b.isSet previous = true := by
  unfold Policy.transition? at h
  split at h
  · cases h
  · split at h
    · split at h <;> cases h
    · split at h
      · rename_i hcurrent hprevious
        exact ⟨by simpa using hcurrent, hprevious⟩
      · cases h

/-- What a poll announces of a device has one of the shapes. -/
theorem exists_fits_of_mem_pollDevice {bus' : Bus} {d : Device} (hd : d ∈ m.fleet.devices)
    (h : e ∈ (Fleet.pollDevice m.policy bus' d).events) : ∃ shape, Fits m (some bus') fs e shape := by
  rw [Fleet.pollDevice_eq] at h
  cases hreading : Fleet.reading? bus' d with
  | none =>
    rw [hreading] at h
    obtain rfl := List.mem_singleton.mp h
    exact ⟨.failure, rfl, rfl, rfl, rfl, .inr ⟨d, hd, rfl⟩⟩
  | some r =>
    obtain ⟨s, status⟩ := r
    rw [hreading] at h
    obtain ⟨k, -, hk⟩ := List.mem_flatMap.mp h
    obtain ⟨hpresent, b, t, hb, ht, rfl⟩ := Policy.exists_of_mem_announced hk
    cases t with
    | set => exact ⟨.active, isActiveError_announce_set ..⟩
    | cleared =>
      obtain ⟨hnow, hwas⟩ := of_transition?_eq_cleared ht
      have hnotice := notice?_announce (c := k.classOf s d b) (t := .cleared) hb hb d.address.text
      rw [if_pos ⟨rfl, rfl⟩] at hnotice
      exact ⟨.cleared, rfl, rfl, rfl, rfl, bus', rfl, d, hd, s, status, k, b, hb, hreading, hpresent,
        hnow, hwas, rfl, hnotice⟩

theorem exists_fits_of_mem_poll (h : e ∈ (m.poll bus).events) : ∃ shape, Fits m bus fs e shape := by
  cases bus with
  | none => simp [poll] at h
  | some bus' =>
    rw [poll, Fleet.poll_eq] at h
    obtain ⟨d, hd, he⟩ := List.mem_flatMap.mp h
    exact exists_fits_of_mem_pollDevice hd he

end Registers

section Log

variable {m : Monitor} {fs : FileSystem} {e : Event}

theorem severity_toEvent (message : Message) :
    message.toEvent.severity =
      if message.toEvent.errorClass = some .fatal then .failure else .warning := by
  rw [message.toEvent_eq]
  cases hclass : message.errorClass with
  | none => simp [Event.pcieError]
  | some c => simpa [Event.pcieError] using severity_of_class c

/-- A message without a class has no field that tells the severity. -/
theorem startsWith_of_errorClass_eq_none {message : Message} (h : message.errorClass = none) :
    ∀ field ∈ message.items, field.2 ≠ "" → field.1.startsWith "severity" = false := by
  intro field hfield hvalue
  rw [Message.errorClass_eq, Option.map_eq_none_iff, lastValue?_eq_none_iff] at h
  by_contra hstarts
  exact hvalue (h field hfield (eq_true_of_ne_false hstarts))

/-- An event of the log is an active error. -/
theorem isActiveError_of_mem_logEvents {p : LogParser} (hp : p ∈ m.parsers)
    (h : e ∈ logEvents fs m.firstRead p) : IsActiveError m fs e := by
  obtain ⟨message, hmessage, rfl⟩ := List.mem_map.mp h
  refine ⟨by rw [message.topic_toEvent]; rfl, severity_toEvent message, fun hnone => ?_⟩
  have hclass : message.errorClass = none := by
    rw [message.toEvent_eq] at hnone
    exact hnone
  cases hread : (p.read fs m.firstRead).2 with
  | error cause => simp [hread, Except.toOption] at hmessage
  | ok messages =>
    rw [hread] at hmessage
    exact ⟨p, hp, messages, message, hread, hmessage, rfl, startsWith_of_errorClass_eq_none hclass⟩

theorem severity_toEvent_ne_ok (message : Message) : message.toEvent.severity ≠ .ok := by
  rw [severity_toEvent]
  split <;> decide

end Log

/-- Every event of a cycle has exactly one of the three shapes. Only the registers tell that an error
is gone, no correctable or non-fatal error is a failure, and no fatal one is a warning. -/
theorem shape_of_event (m : Monitor) (bus : Option Bus) (fs : FileSystem) :
    ∀ e ∈ (m.read bus fs).events,
      (∃! shape, Fits m bus fs e shape) ∧
      (Fits m bus fs e .cleared →
        e ∈ (m.poll bus).events ∧ ∀ message : Message, message.toEvent ≠ e) ∧
      (e.errorClass = some .correctable ∨ e.errorClass = some .nonFatal → e.severity ≠ .failure) ∧
      (e.errorClass = some .fatal → e.severity ≠ .warning) := by
  intro e he
  have hsource := mem_events_read m bus fs he
  obtain ⟨shape, hshape⟩ : ∃ shape, Fits m bus fs e shape := by
    rcases hsource with h | ⟨p, hp, h⟩ | rfl
    · exact exists_fits_of_mem_poll h
    · exact ⟨.active, isActiveError_of_mem_logEvents hp h⟩
    · exact ⟨.failure, rfl, rfl, rfl, rfl, .inl rfl⟩
  -- no event of the log has the severity of a cleared error, and no notice about the log has it
  refine ⟨existsUnique_fits hshape, fun hcleared => ⟨?_, fun message hmessage => ?_⟩, ?_, ?_⟩
  · rcases hsource with h | ⟨p, hp, h⟩ | rfl
    · exact h
    · obtain ⟨message, -, rfl⟩ := List.mem_map.mp h
      exact absurd hcleared.severity (severity_toEvent_ne_ok message)
    · exact absurd hcleared.severity (by decide)
  · exact severity_toEvent_ne_ok message (hmessage ▸ hcleared.severity)
  · intro hclass
    cases shape with
    | failure => simp [hshape.errorClass] at hclass
    | cleared => simp [hshape.severity]
    | active =>
      rw [hshape.severity]
      rcases hclass with hclass | hclass <;> simp [hclass]
  · intro hclass
    cases shape with
    | failure => simp [hshape.errorClass] at hclass
    | cleared => simp [hshape.severity]
    | active => simp [hshape.severity, hclass]

section Sample

open Fleet

/-- A device has a fatal error, and one that was seen before is gone: the first is an active error and a
failure, the second is a cleared one. -/
theorem shape_of_event_gone :
    let bus := sampleBus [sampleSpace 0x4 0 0]
    let d : Device := { sampleDevice with snapshot := { uncorrectable := 0x10 } }
    let m : Monitor := { policy := {}, fleet := ⟨[d]⟩, parsers := [], firstRead := false }
    let set := Event.pcieError .failure "0000:03:00.0" (some .fatal)
      "Device Status Error set: Fatal Error"
    let gone := Event.pcieError .ok "0000:03:00.0" (some .nonFatal)
      "Uncorrectable(non_fatal) Error cleared: Data Link Protocol"
    (m.read (some bus) .empty).events = [set, gone] ∧
      (∃! shape, Fits m (some bus) .empty set shape) ∧ set.severity ≠ .warning ∧
      (∃! shape, Fits m (some bus) .empty gone shape) := by
  intro bus d m set gone
  have hevents : (m.read (some bus) .empty).events = [set, gone] := by decide +kernel
  have hset : set ∈ (m.read (some bus) .empty).events := by
    rw [hevents]
    exact List.mem_cons_self
  have hgone : gone ∈ (m.read (some bus) .empty).events := by
    rw [hevents]
    exact List.mem_cons_of_mem _ (List.mem_singleton_self _)
  obtain ⟨hshape, -, -, hfatal⟩ := shape_of_event m (some bus) .empty set hset
  exact ⟨hevents, hshape, hfatal rfl, (shape_of_event m (some bus) .empty gone hgone).1⟩

end Sample

end Monitor

end AerWatch
