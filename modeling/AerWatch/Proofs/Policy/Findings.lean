import AerWatch.Proofs.Policy.Registers
import Mathlib.Data.List.Basic
import Mathlib.Data.Nat.Bitwise

/-!
# What a check finds

A check goes down one list of findings: the known bits of the registers that a device has, each with
its state before and now, its mask and its class. `Finding.due?` says what is announced of a finding.
The registers are looked at in different ways, two of them only after a look at the register as a
whole, but all of this comes to the same as going down the list.
-/

namespace AerWatch

namespace ErrorBit

/-- The number of the bit in its register. -/
def index (b : ErrorBit) : Nat := b.mask.toNat.log2

/-- Whether a register has the bit of this number. -/
def isIn (b : ErrorBit) (value : UInt32) : Bool := value.toNat.testBit b.index

theorem mask_eq_two_pow (k : StatusRegister) : ∀ b ∈ k.bits, b.mask.toNat = 2 ^ b.index := by
  cases k <;> decide +kernel

/-- The mask of a known bit picks out one bit, whatever the others are. -/
theorem isSet_eq_isIn {k : StatusRegister} {b : ErrorBit} (hb : b ∈ k.bits) (value : UInt32) :
    b.isSet value = b.isIn value := by
  have hand : (b.mask &&& value).toNat = 2 ^ b.index * (b.isIn value).toNat := by
    rw [UInt32.toNat_and, mask_eq_two_pow k b hb, Nat.two_pow_and, isIn]
  have hzero : b.mask &&& value = 0 ↔ b.isIn value = false := by
    rw [← UInt32.toNat_inj, hand]
    cases b.isIn value <;> simp
  cases hin : b.isIn value with
  | false => simp [isSet, hzero.mpr hin]
  | true =>
    have hne : b.mask &&& value ≠ 0 := fun h => by simp [hzero.mp h] at hin
    simp [isSet, hne]

end ErrorBit

/-- What a check finds about an error bit. -/
structure Finding where
  bit : ErrorBit
  errorClass : ErrorClass
  /-- The kind of error, as it is announced. -/
  label : String
  was : Bool
  now : Bool
  masked : Bool

namespace Finding

variable (p : Policy) (subject : String) (f : Finding)

/-- The event that the bit is set. An error that is present is a failure if it is fatal. -/
def setEvent : Event where
  severity := if f.errorClass = .fatal then .failure else .warning
  subject
  topic := .pcieError
  errorClass := some f.errorClass
  message := f.label ++ " set: " ++ f.bit.name
  metadata := .empty

/-- The event that the bit is clear again. -/
def clearedEvent : Event where
  severity := .ok
  subject
  topic := .pcieError
  errorClass := some f.errorClass
  message := f.label ++ " cleared: " ++ f.bit.name
  metadata := .empty

/-- What is announced of a finding. -/
def due? : Option Event :=
  if p.reportMasked ∨ f.masked = false then
    if f.now = true ∧ (p.persistent ∨ f.was = false) then some (f.setEvent subject)
    else if f.now = false ∧ f.was = true then some (f.clearedEvent subject)
    else none
  else none

/-- The findings about the known bits of a register, each with the class and the label of its bit. -/
def ofRegister (bits : List ErrorBit) (was now mask : UInt32) (c : ErrorBit → ErrorClass)
    (label : ErrorBit → String) : List Finding :=
  bits.map fun b =>
    { bit := b
      errorClass := c b
      label := label b
      was := b.isIn was
      now := b.isIn now
      masked := b.isIn mask }

theorem ofRegister_congr {bits : List ErrorBit} {c c' : ErrorBit → ErrorClass}
    {label label' : ErrorBit → String} (hclass : ∀ b ∈ bits, c b = c' b)
    (hlabel : ∀ b ∈ bits, label b = label' b) (was now mask : UInt32) :
    ofRegister bits was now mask c label = ofRegister bits was now mask c' label' := by
  refine List.map_congr_left fun b hb => ?_
  rw [hclass b hb, hlabel b hb]

/-- The findings about a Device Status register. It has no mask, and its bits have their classes. -/
def ofDeviceStatus (was now : UInt16) : List Finding :=
  ofRegister ErrorBit.deviceStatus was.toUInt32 now.toUInt32 0
    (fun b => match b.index with
      | 0 => .correctable
      | 2 => .fatal
      | _ => .nonFatal)
    fun _ => "Device Status Error"

/-- The findings about an Uncorrectable Error Status register. Its bits have the classes that the
severity register gives them. -/
def ofUncorrectable (was now mask severity : UInt32) : List Finding :=
  ofRegister ErrorBit.uncorrectable was now mask
    (fun b => if b.isIn severity then .fatal else .nonFatal)
    fun b =>
      if b.isIn severity then "Uncorrectable(fatal) Error" else "Uncorrectable(non_fatal) Error"

/-- The findings about a Correctable Error Status register. -/
def ofCorrectable (was now mask : UInt32) : List Finding :=
  ofRegister ErrorBit.correctable was now mask (fun _ => .correctable) fun _ => "Correctable Error"

end Finding

/-- All that a check finds about a device, in order, when `status` was read. A mask or a severity that
cannot be read counts as zero. -/
def Device.findings (d : Device) (s : ConfigSpace) (status : Snapshot) : List Finding :=
  (match d.express with
    | none => []
    | some _ => Finding.ofDeviceStatus d.snapshot.deviceStatus status.deviceStatus) ++
  match d.aer with
  | none => []
  | some pos =>
    Finding.ofUncorrectable d.snapshot.uncorrectable status.uncorrectable
        (s.read32 (pos + Register.uncorrectableMask))
        (s.read32 (pos + Register.uncorrectableSeverity)) ++
      Finding.ofCorrectable d.snapshot.correctable status.correctable
        (s.read32 (pos + Register.correctableMask))

namespace Policy

variable {p : Policy} {d : Device} {s : ConfigSpace} {status : Snapshot}

/-- The change of a bit is announced as what is due of the finding about it. -/
theorem announce_transition? (subject : String) (current previous masked : UInt32) {k : StatusRegister}
    {b : ErrorBit} (hb : b ∈ k.bits) (c : ErrorClass) (label : String) :
    (p.transition? current previous masked b).map (announce subject c label b) =
      Finding.due? p subject ⟨b, c, label, b.isIn previous, b.isIn current, b.isIn masked⟩ := by
  have hset : announce subject c label b .set =
      Finding.setEvent subject ⟨b, c, label, b.isIn previous, b.isIn current, b.isIn masked⟩ := by
    cases c <;> rfl
  have hcleared : announce subject c label b .cleared =
      Finding.clearedEvent subject ⟨b, c, label, b.isIn previous, b.isIn current, b.isIn masked⟩ := rfl
  -- both sides depend on two options and three bits only
  simp only [transition?, ErrorBit.isSet_eq_isIn hb, Finding.due?, ← hset, ← hcleared]
  cases p.persistent <;> cases p.reportMasked <;> cases b.isIn masked <;> cases b.isIn current <;>
    cases b.isIn previous <;> rfl

/-- The changes of a register are announced as what is due of the findings about it. -/
theorem announce_transitions (subject : String) (current previous masked : UInt32)
    (k : StatusRegister) (c : ErrorBit → ErrorClass) (label : ErrorBit → String) :
    ((p.transitions k.bits current previous masked).map fun (b, t) =>
        announce subject (c b) (label b) b t) =
      (Finding.ofRegister k.bits previous current masked c label).filterMap
        (Finding.due? p subject) := by
  rw [transitions, List.map_filterMap, Finding.ofRegister, List.filterMap_map]
  refine List.filterMap_congr fun b hb => ?_
  rw [Option.map_map]
  exact announce_transition? subject current previous masked hb (c b) (label b)

theorem announced_deviceStatus (cap : UInt16) (hcap : d.express = some cap) :
    p.announced s d status .deviceStatus =
      (Finding.ofDeviceStatus d.snapshot.deviceStatus status.deviceStatus).filterMap
        (Finding.due? p d.address.text) := by
  have hpresent : StatusRegister.deviceStatus.presentIn d := by simp [StatusRegister.presentIn, hcap]
  have hclass : ∀ b ∈ ErrorBit.deviceStatus, StatusRegister.classOf s .deviceStatus d b =
      match b.index with
      | 0 => ErrorClass.correctable
      | 2 => .fatal
      | _ => .nonFatal := by
    simp only [StatusRegister.classOf]
    decide +kernel
  rw [announced, if_pos hpresent]
  refine (announce_transitions _ _ _ _ .deviceStatus (StatusRegister.classOf s .deviceStatus d)
    fun b => StatusRegister.deviceStatus.label (StatusRegister.classOf s .deviceStatus d b)).trans ?_
  exact congrArg _ (Finding.ofRegister_congr hclass (fun _ _ => rfl) _ _ _)

theorem announced_uncorrectable (pos : UInt16) (hpos : d.aer = some pos) :
    p.announced s d status .uncorrectable =
      (Finding.ofUncorrectable d.snapshot.uncorrectable status.uncorrectable
        (s.read32 (pos + Register.uncorrectableMask))
        (s.read32 (pos + Register.uncorrectableSeverity))).filterMap
          (Finding.due? p d.address.text) := by
  have hpresent : StatusRegister.uncorrectable.presentIn d := by
    simp [StatusRegister.presentIn, hpos]
  have hmask : StatusRegister.masked s .uncorrectable d =
      s.read32 (pos + Register.uncorrectableMask) := by
    simp only [StatusRegister.masked, hpos, Option.map_some, Option.getD_some]
  have hclass : ∀ b ∈ ErrorBit.uncorrectable, StatusRegister.classOf s .uncorrectable d b =
      if b.isIn (s.read32 (pos + Register.uncorrectableSeverity)) then .fatal else .nonFatal := by
    intro b hb
    rw [← ErrorBit.isSet_eq_isIn (k := .uncorrectable) hb]
    simp only [StatusRegister.classOf, uncorrectableClass, hpos, Option.map_some, Option.getD_some]
  rw [announced, if_pos hpresent]
  refine (announce_transitions _ _ _ _ .uncorrectable (StatusRegister.classOf s .uncorrectable d)
    fun b => StatusRegister.uncorrectable.label (StatusRegister.classOf s .uncorrectable d b)).trans ?_
  rw [hmask]
  refine congrArg _ (Finding.ofRegister_congr hclass (fun b hb => ?_) _ _ _)
  rw [hclass b hb]
  split_ifs <;> rfl

theorem announced_correctable (pos : UInt16) (hpos : d.aer = some pos) :
    p.announced s d status .correctable =
      (Finding.ofCorrectable d.snapshot.correctable status.correctable
        (s.read32 (pos + Register.correctableMask))).filterMap (Finding.due? p d.address.text) := by
  have hpresent : StatusRegister.correctable.presentIn d := by
    simp [StatusRegister.presentIn, hpos]
  have hmask : StatusRegister.masked s .correctable d =
      s.read32 (pos + Register.correctableMask) := by
    simp only [StatusRegister.masked, hpos, Option.map_some, Option.getD_some]
  rw [announced, if_pos hpresent]
  refine (announce_transitions _ _ _ _ .correctable (StatusRegister.classOf s .correctable d)
    fun b => StatusRegister.correctable.label (StatusRegister.classOf s .correctable d b)).trans ?_
  rw [hmask]
  rfl

theorem announced_of_absent {k : StatusRegister} (h : k.presentIn d = false) :
    p.announced s d status k = [] := by
  simp [announced, h]

/-- The registers one after another give what is due of all findings. -/
theorem announced_all :
    StatusRegister.all.flatMap (p.announced s d status) =
      (d.findings s status).filterMap (Finding.due? p d.address.text) := by
  simp only [StatusRegister.all, List.flatMap_cons, List.flatMap_nil, List.append_nil,
    Device.findings, List.filterMap_append]
  congr 1
  · cases hcap : d.express with
    | none => exact announced_of_absent (by simp [StatusRegister.presentIn, hcap])
    | some cap => exact announced_deviceStatus cap hcap
  · cases hpos : d.aer with
    | none =>
      rw [announced_of_absent (by simp [StatusRegister.presentIn, hpos]),
        announced_of_absent (by simp [StatusRegister.presentIn, hpos])]
      rfl
    | some pos =>
      rw [announced_uncorrectable pos hpos, announced_correctable pos hpos,
        List.filterMap_append]

/-- A check of a device whose status can be read succeeds, remembers what was read and announces what
is due of its findings, after the events so far. Looking at a register as a whole first passes over
no change and leaves nothing to be remembered, whatever the register holds. -/
theorem check_announces_findings (h : readStatus d s = .ok status) :
    let due := (d.findings s status).filterMap (Finding.due? p d.address.text)
    let d' := { d with snapshot := status }
    p.check d s = .ok (d', due) ∧
      (∀ events, (p.checking s).run (d, events) = .ok () (d', events ++ due)) ∧
      Shows d s status ∧
      ∀ bits current previous masked, p.hasNews current previous = false →
        p.transitions bits current previous masked = [] ∧ current = previous := by
  intro due d'
  have hrun (events : List Event) :
      (p.checking s).run (d, events) = .ok () (d', events ++ due) := by
    rw [run_checking_of_ok h, announced_all]
  refine ⟨?_, hrun, shows_of_readStatus h, fun bits current previous masked hnews =>
    ⟨transitions_of_not_hasNews hnews bits, eq_of_not_hasNews hnews⟩⟩
  rw [check, hrun]
  rfl

/-- A link error, fatal by now, is gone, a new correctable error joins one that was seen before, and
there are ones in bits that have no meaning. The mask of the correctable errors cannot be read. -/
theorem check_announces_fatal_error_gone :
    let space : MemorySpace := ⟨⟨0, 3, 0, 0⟩, List.replicate 0x114 0⟩
    let space := ((space.write16 0x4a 0xfff4).write32 0x104 0x80000000).write32 0x10c 0x10
    let s := (space.write32 0x110 0x80000041).toConfigSpace
    let d : Device :=
      { address := ⟨0, 3, 0, 0⟩, express := some 0x40, aer := some 0x100,
        snapshot := { uncorrectable := 0x40000010, correctable := 0x1 } }
    let status : Snapshot :=
      { deviceStatus := 0x4, uncorrectable := 0x80000000, correctable := 0x80000041 }
    readStatus d s = .ok status ∧
      (check {} d s).map (fun r => (r.1, r.2.map (·.text))) = .ok ({ d with snapshot := status },
        ["[FAILURE] 0000:03:00.0: Device Status Error set: Fatal Error",
          "[OKAY] 0000:03:00.0: Uncorrectable(fatal) Error cleared: Data Link Protocol",
          "[WARNING] 0000:03:00.0: Correctable Error set: Bad TLP Status"]) := by
  intro space₀ space s d status
  have hstatus : readStatus d s = .ok status := by decide +kernel
  refine ⟨hstatus, ?_⟩
  rw [(check_announces_findings (p := {}) hstatus).1]
  decide +kernel

end Policy

end AerWatch
