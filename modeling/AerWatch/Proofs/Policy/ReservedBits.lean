import AerWatch.Proofs.Policy.Findings
import Mathlib.Data.List.Forall2

/-!
# Bits without meaning

Of all that a configuration space holds, a check depends on the known bits of the status, mask and
severity registers alone, and of what was seen before on the known bits again. So two runs of checks
of a device whose spaces agree on these give the same events, whatever the other bits and bytes are.
The runs need not go the same way: a reserved bit that flips makes a register news in one of them,
and each run remembers reserved bits of its own.
-/

namespace AerWatch

section Relations

/-- Two values have the same known bits. -/
def SameBits (bits : List ErrorBit) (v w : UInt32) : Prop := ∀ b ∈ bits, b.isIn v = b.isIn w

instance (bits : List ErrorBit) (v w : UInt32) : Decidable (SameBits bits v w) :=
  inferInstanceAs (Decidable (∀ b ∈ bits, _))

/-- Two snapshots agree on all errors that are known. -/
def Snapshot.Agrees (x y : Snapshot) : Prop :=
  ∀ k : StatusRegister, SameBits k.bits (k.value x) (k.value y)

/-- Both results are values in the one relation or errors in the other. -/
def Corresponds {α : Type} (E : Error → Error → Prop) (R : α → α → Prop) :
    Except Error α → Except Error α → Prop
  | .ok a, .ok a' => R a a'
  | .error e, .error e' => E e e'
  | _, _ => False

instance {α : Type} (E : Error → Error → Prop) (R : α → α → Prop) [DecidableRel E] [DecidableRel R] :
    DecidableRel (Corresponds E R)
  | .ok a, .ok a' => inferInstanceAs (Decidable (R a a'))
  | .error e, .error e' => inferInstanceAs (Decidable (E e e'))
  | .ok _, .error _ | .error _, .ok _ => inferInstanceAs (Decidable False)

/-- Two spaces agree on the errors of a device: each of its status registers has the same known bits in
both or can be read in neither, and the known bits have the same masks and severities, where a register
that cannot be read counts as zero. What failures to read a register have in common is left open. -/
structure ConfigSpace.Agrees (E : Error → Error → Prop) (d : Device) (s s' : ConfigSpace) : Prop where
  deviceStatus : ∀ cap ∈ d.express,
    Corresponds E (fun v w => SameBits ErrorBit.deviceStatus v.toUInt32 w.toUInt32)
      (s.tryRead16 (cap + Register.deviceStatus)) (s'.tryRead16 (cap + Register.deviceStatus))
  uncorrectable : ∀ pos ∈ d.aer,
    Corresponds E (SameBits ErrorBit.uncorrectable)
      (s.tryRead32 (pos + Register.uncorrectableStatus))
      (s'.tryRead32 (pos + Register.uncorrectableStatus))
  correctable : ∀ pos ∈ d.aer,
    Corresponds E (SameBits ErrorBit.correctable)
      (s.tryRead32 (pos + Register.correctableStatus))
      (s'.tryRead32 (pos + Register.correctableStatus))
  uncorrectableMask : ∀ pos ∈ d.aer,
    SameBits ErrorBit.uncorrectable (s.read32 (pos + Register.uncorrectableMask))
      (s'.read32 (pos + Register.uncorrectableMask))
  severity : ∀ pos ∈ d.aer,
    SameBits ErrorBit.uncorrectable (s.read32 (pos + Register.uncorrectableSeverity))
      (s'.read32 (pos + Register.uncorrectableSeverity))
  correctableMask : ∀ pos ∈ d.aer,
    SameBits ErrorBit.correctable (s.read32 (pos + Register.correctableMask))
      (s'.read32 (pos + Register.correctableMask))

end Relations

section Correspondence

variable {α β : Type} {E : Error → Error → Prop} {R : α → α → Prop} {S : β → β → Prop}
  {x x' : Except Error α}

theorem Corresponds.bind {f f' : α → Except Error β} (h : Corresponds E R x x')
    (hf : ∀ a a', R a a' → Corresponds E S (f a) (f' a')) : Corresponds E S (x >>= f) (x' >>= f') := by
  cases x with
  | error e =>
    cases x' with
    | error e' => exact h
    | ok a' => exact h.elim
  | ok a =>
    cases x' with
    | error e' => exact h.elim
    | ok a' => exact hf a a' h

theorem Corresponds.map {f f' : α → β} (h : Corresponds E R x x')
    (hf : ∀ a a', R a a' → S (f a) (f' a')) : Corresponds E S (x.map f) (x'.map f') :=
  h.bind hf

theorem Corresponds.eq (h : Corresponds E (· = ·) x x') (hE : ∀ e e', E e e' → e = e') : x = x' := by
  cases x with
  | error e =>
    cases x' with
    | error e' => rw [hE e e' h]
    | ok a' => exact h.elim
  | ok a =>
    cases x' with
    | error e' => exact h.elim
    | ok a' => exact congrArg Except.ok h

/-- Lists whose members give the same one by one give the same. -/
theorem map_eq_of_forall₂ {γ : Type} {Q : α → α → Prop} {f : α → γ} {l l' : List α}
    (h : List.Forall₂ Q l l') (hf : ∀ a a', Q a a' → f a = f a') : l.map f = l'.map f := by
  induction h with
  | nil => rfl
  | cons ha _ ih => rw [List.map_cons, List.map_cons, hf _ _ ha, ih]

end Correspondence

section Bits

theorem ErrorBit.isIn_and (b : ErrorBit) (v w : UInt32) : b.isIn (v &&& w) = (b.isIn v && b.isIn w) := by
  rw [isIn, UInt32.toNat_and, Nat.testBit_and]
  rfl

theorem SameBits.and {bits : List ErrorBit} {v w : UInt32} (h : SameBits bits v w) (mask : UInt32) :
    SameBits bits (v &&& mask) (w &&& mask) := by
  intro b hb
  rw [b.isIn_and, b.isIn_and, h b hb]

theorem Snapshot.agrees_of_registers {x y : Snapshot}
    (hstatus : SameBits ErrorBit.deviceStatus x.deviceStatus.toUInt32 y.deviceStatus.toUInt32)
    (huncorrectable : SameBits ErrorBit.uncorrectable x.uncorrectable y.uncorrectable)
    (hcorrectable : SameBits ErrorBit.correctable x.correctable y.correctable) : x.Agrees y := by
  intro k
  cases k with
  | deviceStatus => exact hstatus
  | uncorrectable => exact huncorrectable
  | correctable => exact hcorrectable

end Bits

section Memory

/-- Two spaces in memory are of one function and of one size, and hold the same known bits in the
registers of a device. -/
structure MemorySpace.Agrees (d : Device) (m m' : MemorySpace) : Prop where
  address : m.address = m'.address
  size : m.bytes.length = m'.bytes.length
  deviceStatus : ∀ cap ∈ d.express,
    SameBits ErrorBit.deviceStatus (m.toConfigSpace.read16 (cap + Register.deviceStatus)).toUInt32
      (m'.toConfigSpace.read16 (cap + Register.deviceStatus)).toUInt32
  uncorrectable : ∀ pos ∈ d.aer,
    SameBits ErrorBit.uncorrectable (m.toConfigSpace.read32 (pos + Register.uncorrectableStatus))
        (m'.toConfigSpace.read32 (pos + Register.uncorrectableStatus)) ∧
      SameBits ErrorBit.uncorrectable (m.toConfigSpace.read32 (pos + Register.uncorrectableMask))
        (m'.toConfigSpace.read32 (pos + Register.uncorrectableMask)) ∧
      SameBits ErrorBit.uncorrectable (m.toConfigSpace.read32 (pos + Register.uncorrectableSeverity))
        (m'.toConfigSpace.read32 (pos + Register.uncorrectableSeverity))
  correctable : ∀ pos ∈ d.aer,
    SameBits ErrorBit.correctable (m.toConfigSpace.read32 (pos + Register.correctableStatus))
        (m'.toConfigSpace.read32 (pos + Register.correctableStatus)) ∧
      SameBits ErrorBit.correctable (m.toConfigSpace.read32 (pos + Register.correctableMask))
        (m'.toConfigSpace.read32 (pos + Register.correctableMask))

variable {d : Device} {m m' : MemorySpace}

/-- In spaces of one size a register can be read in both or fails alike. -/
theorem MemorySpace.Agrees.corresponds (h : m.Agrees d m') {α : Type} {R : α → α → Prop}
    (offset : UInt16) (size : Nat) (make : Nat → α) (zero : α)
    (hR : R (((m.toConfigSpace.tryRead offset size).map make).toOption.getD zero)
      (((m'.toConfigSpace.tryRead offset size).map make).toOption.getD zero)) :
    Corresponds (· = ·) R ((m.toConfigSpace.tryRead offset size).map make)
      ((m'.toConfigSpace.tryRead offset size).map make) := by
  by_cases hsize : size ≤ m.bytes.length - offset.toNat
  · have hsize' : size ≤ m'.bytes.length - offset.toNat := h.size ▸ hsize
    rw [MemorySpace.tryRead_toConfigSpace hsize, MemorySpace.tryRead_toConfigSpace hsize'] at hR ⊢
    exact hR
  · have hsize' : m'.bytes.length - offset.toNat < size := by
      rw [← h.size]
      omega
    rw [MemorySpace.tryRead_toConfigSpace_short (Nat.lt_of_not_le hsize),
      MemorySpace.tryRead_toConfigSpace_short hsize', h.address, h.size]
    exact rfl

/-- Spaces of one size that hold the same known bits agree, and failures to read them are the same. -/
theorem MemorySpace.Agrees.toConfigSpace (h : m.Agrees d m') :
    ConfigSpace.Agrees (· = ·) d m.toConfigSpace m'.toConfigSpace where
  deviceStatus cap hcap :=
    h.corresponds (cap + Register.deviceStatus) 2 UInt16.ofNat 0 (h.deviceStatus cap hcap)
  uncorrectable pos hpos :=
    h.corresponds (pos + Register.uncorrectableStatus) 4 UInt32.ofNat 0
      (h.uncorrectable pos hpos).1
  correctable pos hpos :=
    h.corresponds (pos + Register.correctableStatus) 4 UInt32.ofNat 0
      (h.correctable pos hpos).1
  uncorrectableMask pos hpos := (h.uncorrectable pos hpos).2.1
  severity pos hpos := (h.uncorrectable pos hpos).2.2
  correctableMask pos hpos := (h.correctable pos hpos).2

end Memory

section Findings

variable {bits : List ErrorBit} {was was' now now' mask mask' severity severity' : UInt32}

theorem Finding.ofRegister_congr_bits (hwas : SameBits bits was was') (hnow : SameBits bits now now')
    (hmask : SameBits bits mask mask') (c : ErrorBit → ErrorClass) (label : ErrorBit → String) :
    ofRegister bits was now mask c label = ofRegister bits was' now' mask' c label := by
  refine List.map_congr_left fun b hb => ?_
  rw [hwas b hb, hnow b hb, hmask b hb]

theorem Finding.ofUncorrectable_congr (hwas : SameBits ErrorBit.uncorrectable was was')
    (hnow : SameBits ErrorBit.uncorrectable now now')
    (hmask : SameBits ErrorBit.uncorrectable mask mask')
    (hseverity : SameBits ErrorBit.uncorrectable severity severity') :
    ofUncorrectable was now mask severity = ofUncorrectable was' now' mask' severity' := by
  unfold ofUncorrectable
  rw [ofRegister_congr_bits hwas hnow hmask]
  exact ofRegister_congr (fun b hb => by rw [hseverity b hb]) (fun b hb => by rw [hseverity b hb]) ..

variable {E : Error → Error → Prop} {d : Device} {x y status status' : Snapshot} {s s' : ConfigSpace}

/-- What a check finds depends on known bits alone. -/
theorem Device.findings_congr (hxy : x.Agrees y) (hspace : s.Agrees E d s')
    (hstatus : status.Agrees status') :
    { d with snapshot := x }.findings s status = { d with snapshot := y }.findings s' status' := by
  have hexpress : Finding.ofDeviceStatus x.deviceStatus status.deviceStatus =
      Finding.ofDeviceStatus y.deviceStatus status'.deviceStatus :=
    Finding.ofRegister_congr_bits (hxy .deviceStatus) (hstatus .deviceStatus) (fun _ _ => rfl) _ _
  unfold findings
  dsimp only
  rw [hexpress]
  cases haer : d.aer with
  | none => rfl
  | some pos =>
    have huncorrectable : Finding.ofUncorrectable x.uncorrectable status.uncorrectable _ _ =
        Finding.ofUncorrectable y.uncorrectable status'.uncorrectable _ _ :=
      Finding.ofUncorrectable_congr (hxy .uncorrectable) (hstatus .uncorrectable)
        (hspace.uncorrectableMask pos haer) (hspace.severity pos haer)
    have hcorrectable : Finding.ofCorrectable x.correctable status.correctable _ =
        Finding.ofCorrectable y.correctable status'.correctable _ :=
      Finding.ofRegister_congr_bits (hxy .correctable) (hstatus .correctable)
        (hspace.correctableMask pos haer) _ _
    dsimp only
    rw [huncorrectable, hcorrectable]

end Findings

namespace Policy

section Checks

variable {E : Error → Error → Prop} {d : Device} {x y : Snapshot} {s s' : ConfigSpace}

/-- Two readings of the status agree if the spaces do, and what was seen before. -/
theorem readStatus_corresponds (hxy : x.Agrees y) (hspace : s.Agrees E d s') :
    Corresponds E Snapshot.Agrees (readStatus { d with snapshot := x } s)
      (readStatus { d with snapshot := y } s') := by
  rw [readStatus_eq, readStatus_eq]
  refine Corresponds.bind (R := fun v w => SameBits ErrorBit.deviceStatus v.toUInt32 w.toUInt32)
    ?_ fun v w hvw => ?_
  · cases hcap : d.express with
    | none => exact hxy .deviceStatus
    | some cap =>
      refine (hspace.deviceStatus cap hcap).map fun v w hvw => ?_
      rw [UInt16.toUInt32_and, UInt16.toUInt32_and]
      exact hvw.and _
  · cases haer : d.aer with
    | none => exact Snapshot.agrees_of_registers hvw (hxy .uncorrectable) (hxy .correctable)
    | some pos =>
      refine (hspace.uncorrectable pos haer).bind fun u u' hu => ?_
      refine (hspace.correctable pos haer).bind fun c c' hc => ?_
      exact Snapshot.agrees_of_registers hvw hu hc

/-- What a check of a device comes to. -/
structure CheckReport where
  result : Except Error Unit
  device : Device
  events : List Event

variable (p : Policy)

/-- A check of a device, whether it succeeds or fails. -/
def checkReport (d : Device) (s : ConfigSpace) : CheckReport :=
  match (p.checking s).run (d, []) with
  | .ok () (d, events) => ⟨.ok (), d, events⟩
  | .error e (d, events) => ⟨.error e, d, events⟩

/-- Checks of a device one after another, each of the space that it meets. -/
def checkReports : Device → List ConfigSpace → List CheckReport
  | _, [] => []
  | d, s :: spaces => p.checkReport d s :: checkReports (p.checkReport d s).device spaces

/-- Two checks of a device `d` give the same events and results that correspond, and leave the device
with snapshots that agree. -/
structure CheckReport.Agrees (E : Error → Error → Prop) (d : Device) (r r' : CheckReport) : Prop where
  events : r.events = r'.events
  result : Corresponds E (· = ·) r.result r'.result
  device : ∃ x y, r.device = { d with snapshot := x } ∧ r'.device = { d with snapshot := y } ∧
    x.Agrees y

theorem checkReport_of_ok {status : Snapshot} (h : readStatus d s = .ok status) :
    p.checkReport d s = ⟨.ok (), { d with snapshot := status },
      (d.findings s status).filterMap (Finding.due? p d.address.text)⟩ := by
  simp only [checkReport, run_checking_of_ok h, announced_all, List.nil_append]

theorem checkReport_of_error {e : Error} (h : readStatus d s = .error e) :
    p.checkReport d s = ⟨.error e, d, []⟩ := by
  simp only [checkReport, run_checking_of_error h]

/-- One check of each of two spaces that agree. -/
theorem checkReport_agrees (hxy : x.Agrees y) (hspace : s.Agrees E d s') :
    CheckReport.Agrees E d (p.checkReport { d with snapshot := x } s)
      (p.checkReport { d with snapshot := y } s') := by
  have hread := readStatus_corresponds hxy hspace
  cases hs : readStatus { d with snapshot := x } s with
  | error e =>
    cases hs' : readStatus { d with snapshot := y } s' with
    | error e' =>
      rw [hs, hs'] at hread
      rw [checkReport_of_error p hs, checkReport_of_error p hs']
      exact ⟨rfl, hread, x, y, rfl, rfl, hxy⟩
    | ok status' =>
      rw [hs, hs'] at hread
      exact hread.elim
  | ok status =>
    cases hs' : readStatus { d with snapshot := y } s' with
    | error e' =>
      rw [hs, hs'] at hread
      exact hread.elim
    | ok status' =>
      rw [hs, hs'] at hread
      rw [checkReport_of_ok p hs, checkReport_of_ok p hs']
      refine ⟨?_, rfl, status, status', rfl, rfl, hread⟩
      exact congrArg (List.filterMap _) (Device.findings_congr hxy hspace hread)

/-- Checks of spaces that agree one by one. -/
theorem checkReports_agree (hxy : x.Agrees y) {spaces spaces' : List ConfigSpace}
    (hspaces : List.Forall₂ (ConfigSpace.Agrees E d) spaces spaces') :
    List.Forall₂ (CheckReport.Agrees E d) (p.checkReports { d with snapshot := x } spaces)
      (p.checkReports { d with snapshot := y } spaces') := by
  induction hspaces generalizing x y with
  | nil => exact .nil
  | cons hspace _ ih =>
    have hreport := checkReport_agrees p hxy hspace
    obtain ⟨x', y', hx', hy', hagree⟩ := hreport.device
    refine .cons hreport ?_
    rw [hx', hy']
    exact ih hagree

/-- Two runs of checks of a device whose spaces agree at every step, from snapshots that agree, give the
same events at every step and results that correspond, and leave snapshots that agree, so that no other
bit of the spaces and of the snapshots matters, under any policy. Where failures to read a register are
the same in both runs the results are the same, as with spaces in memory of one size. -/
theorem reports_of_agreeing_spaces (d : Device) (hxy : x.Agrees y) :
    (∀ spaces spaces', List.Forall₂ (ConfigSpace.Agrees E d) spaces spaces' →
      let reports := p.checkReports { d with snapshot := x } spaces
      let reports' := p.checkReports { d with snapshot := y } spaces'
      List.Forall₂ (CheckReport.Agrees E d) reports reports' ∧
        reports.map (·.events) = reports'.map (·.events) ∧
        ((∀ e e', E e e' → e = e') → reports.map (·.result) = reports'.map (·.result))) ∧
    ∀ spaces spaces', List.Forall₂ (MemorySpace.Agrees d) spaces spaces' →
      let reports := p.checkReports { d with snapshot := x } (spaces.map (·.toConfigSpace))
      let reports' := p.checkReports { d with snapshot := y } (spaces'.map (·.toConfigSpace))
      List.Forall₂ (CheckReport.Agrees (· = ·) d) reports reports' ∧
        reports.map (·.events) = reports'.map (·.events) ∧
        reports.map (·.result) = reports'.map (·.result) := by
  refine ⟨fun spaces spaces' hspaces => ?_, fun spaces spaces' hspaces => ?_⟩
  · intro reports reports'
    have hreports : List.Forall₂ (CheckReport.Agrees E d) reports reports' :=
      checkReports_agree p hxy hspaces
    refine ⟨hreports, ?_, fun hE => ?_⟩
    · exact map_eq_of_forall₂ hreports fun _ _ h => h.events
    · exact map_eq_of_forall₂ hreports fun _ _ h => h.result.eq hE
  · intro reports reports'
    have hconfig : List.Forall₂ (ConfigSpace.Agrees (· = ·) d) (spaces.map (·.toConfigSpace))
        (spaces'.map (·.toConfigSpace)) :=
      List.forall₂_map_left_iff.mpr (List.forall₂_map_right_iff.mpr
        (hspaces.imp fun _ _ h => h.toConfigSpace))
    have hreports : List.Forall₂ (CheckReport.Agrees (· = ·) d) reports reports' :=
      checkReports_agree p hxy hconfig
    refine ⟨hreports, ?_, ?_⟩
    · exact map_eq_of_forall₂ hreports fun _ _ h => h.events
    · exact map_eq_of_forall₂ hreports fun _ _ h => h.result.eq fun _ _ he => he

end Checks

section Sample

/-- The bits of the uncorrectable errors that have no meaning. -/
def unusedUncorrectable : UInt32 := 0xfc000fcf

/-- The bits of the correctable errors that have no meaning. -/
def unusedCorrectable : UInt32 := 0xffff0e3e

/-- The registers of a function with a fatal error, with noise in all that has no meaning. -/
def noisySpace (noise uncorrectable : UInt32) (size : Nat) : MemorySpace :=
  let space : MemorySpace := ⟨⟨0, 3, 0, 0⟩, List.replicate 0x28 noise.toUInt8⟩
  let space := space.write16 0x0a (0x4 ||| noise.toUInt16 &&& 0xfff0)
  let space := space.write32 0x14 (uncorrectable ||| noise &&& unusedUncorrectable)
  let space := space.write32 0x18 (noise &&& unusedUncorrectable)
  let space := space.write32 0x1c (0x10 ||| noise &&& unusedUncorrectable)
  let space := space.write32 0x20 (noise &&& unusedCorrectable)
  (space.write32 0x24 (noise &&& unusedCorrectable)).resize size

/-- A link error comes and goes while all other bits differ and change. In the second step one of the
runs has news and the other has none, in the third step the space is cut off within a register. -/
theorem reports_of_noisy_spaces :
    let d : Device := { address := ⟨0, 3, 0, 0⟩, express := some 0, aer := some 0x10 }
    let y : Snapshot := { deviceStatus := 0xfff0, uncorrectable := 0x1, correctable := 0x80000000 }
    let spaces := [noisySpace 0 0x10 0x28, noisySpace 0 0x10 0x28, noisySpace 0 0 0x22,
      noisySpace 0x1 0 0x28]
    let spaces' := [noisySpace 0xffffffff 0x10 0x28, noisySpace 0x40000000 0x10 0x28,
      noisySpace 0xffffffff 0 0x22, noisySpace 0x80000000 0 0x28]
    let reports := checkReports {} { d with snapshot := {} } (spaces.map (·.toConfigSpace))
    let reports' := checkReports {} { d with snapshot := y } (spaces'.map (·.toConfigSpace))
    Snapshot.Agrees {} y ∧ List.Forall₂ (MemorySpace.Agrees d) spaces spaces' ∧
      reports'.map (·.events.map (·.text)) =
        [["[FAILURE] 0000:03:00.0: Device Status Error set: Fatal Error",
            "[FAILURE] 0000:03:00.0: Uncorrectable(fatal) Error set: Data Link Protocol"], [], [],
          ["[OKAY] 0000:03:00.0: Uncorrectable(fatal) Error cleared: Data Link Protocol"]] ∧
      reports.map (·.events) = reports'.map (·.events) ∧
      reports.map (·.result) = reports'.map (·.result) := by
  intro d y spaces spaces' reports reports'
  have hy : Snapshot.Agrees {} y := by
    intro k
    cases k <;> decide +kernel
  have hspaces : List.Forall₂ (MemorySpace.Agrees d) spaces spaces' := by
    refine .cons ?_ (.cons ?_ (.cons ?_ (.cons ?_ .nil))) <;> refine ⟨rfl, by decide +kernel, ?_, ?_, ?_⟩ <;>
      rintro _ ⟨⟩ <;> decide +kernel
  obtain ⟨-, hevents, hresults⟩ :=
    (reports_of_agreeing_spaces (E := (· = ·)) {} d hy).2 spaces spaces' hspaces
  exact ⟨hy, hspaces, by decide +kernel, hevents, hresults⟩

end Sample

end Policy

end AerWatch
