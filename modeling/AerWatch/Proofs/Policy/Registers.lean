import AerWatch.Policy
import Mathlib.Data.List.Nodup

/-!
# The status registers in one view

The three status registers differ in the structure that holds them, their known bits, their mask and
the class of an error. With these as functions of a `StatusRegister`, a check of a device whose
status can be read gives the events of the three registers one after another and remembers what was
read.
-/

namespace AerWatch

/-- A register whose bits report errors. -/
inductive StatusRegister where
  | deviceStatus
  | uncorrectable
  | correctable
deriving DecidableEq

namespace StatusRegister

/-- The registers in the order in which they are checked. -/
def all : List StatusRegister := [deviceStatus, uncorrectable, correctable]

/-- The bits of the register that are known. -/
def bits : StatusRegister → List ErrorBit
  | deviceStatus => ErrorBit.deviceStatus
  | uncorrectable => ErrorBit.uncorrectable
  | correctable => ErrorBit.correctable

/-- What a snapshot holds of the register. -/
def value : StatusRegister → Snapshot → UInt32
  | deviceStatus, s => s.deviceStatus.toUInt32
  | uncorrectable, s => s.uncorrectable
  | correctable, s => s.correctable

/-- Whether a device has the structure that holds the register. -/
def presentIn : StatusRegister → Device → Bool
  | deviceStatus, d => d.express.isSome
  | uncorrectable, d | correctable, d => d.aer.isSome

/-- The bits that are masked now. Device Status has no mask. -/
def masked (s : ConfigSpace) : StatusRegister → Device → UInt32
  | deviceStatus, _ => 0
  | uncorrectable, d => (d.aer.map fun pos => s.read32 (pos + Register.uncorrectableMask)).getD 0
  | correctable, d => (d.aer.map fun pos => s.read32 (pos + Register.correctableMask)).getD 0

/-- The class that an error has now. -/
def classOf (s : ConfigSpace) : StatusRegister → Device → ErrorBit → ErrorClass
  | deviceStatus, _, b => Policy.deviceStatusClass b
  | uncorrectable, d, b =>
    Policy.uncorrectableClass
      ((d.aer.map fun pos => s.read32 (pos + Register.uncorrectableSeverity)).getD 0) b
  | correctable, _, _ => .correctable

/-- The label under which errors of a class are announced. -/
def label : StatusRegister → ErrorClass → String
  | deviceStatus, _ => "Device Status Error"
  | uncorrectable, c => "Uncorrectable(" ++ c.text ++ ") Error"
  | correctable, _ => "Correctable Error"

/-- Before anything has been seen no bit is set. -/
theorem isSet_value_empty (k : StatusRegister) (b : ErrorBit) : b.isSet (k.value {}) = false := by
  cases k <;> simp [value, ErrorBit.isSet]

theorem presentIn_snapshot {k : StatusRegister} {d : Device} (hk : k.presentIn d)
    (seen : Snapshot) : k.presentIn { d with snapshot := seen } := by
  cases k <;> exact hk

end StatusRegister

/-- Of elements that are alike, what one of them gives as often as it occurs. -/
theorem flatMap_ite_of_alike {α β : Type} {P : α → Prop} [DecidablePred P] {g : α → List β}
    {ys : List β} {l : List α} (h : ∀ x ∈ l, P x → g x = ys) :
    (l.flatMap fun x => if P x then g x else []) = (List.replicate (l.countP P) ys).flatten := by
  induction l with
  | nil => simp
  | cons x l ih =>
    obtain ⟨hx, hl⟩ := List.forall_mem_cons.mp h
    rw [List.flatMap_cons, ih hl]
    by_cases hP : P x
    · simp [hP, hx hP, List.replicate_succ]
    · simp [hP]

/-- Of elements that a function tells apart, what one of them gives. -/
theorem flatMap_ite_of_nodup {α β γ : Type} [DecidableEq β] {f : α → β} {g : α → List γ} {l : List α}
    {a : α} (hl : (l.map f).Nodup) (ha : a ∈ l) :
    (l.flatMap fun x => if f x = f a then g x else []) = g a := by
  have hsame : ∀ x ∈ l, f x = f a → g x = g a := fun x hx hf => by
    rw [List.inj_on_of_nodup_map hl hx ha hf]
  have hone : l.countP (f · = f a) = 1 := by
    have hcount := List.count_eq_one_of_mem hl (List.mem_map_of_mem ha)
    rwa [List.count, List.countP_map] at hcount
  rw [flatMap_ite_of_alike hsame, hone, List.replicate_one, List.flatten_singleton]

/-- What the elements of a list give can be gathered place by place. -/
theorem flatMap_range_getElem? {α β : Type} (f : α → List β) (as : List α) {n : Nat}
    (h : as.length ≤ n) :
    (List.range n).flatMap (fun i => (as[i]?).elim [] f) = as.flatMap f := by
  induction as generalizing n with
  | nil => simp
  | cons a as ih =>
    obtain ⟨n, rfl⟩ := Nat.exists_eq_add_one_of_ne_zero (Nat.ne_zero_of_lt h)
    rw [List.range_succ_eq_map, List.flatMap_cons, List.flatMap_map]
    simp [ih (Nat.le_of_succ_le_succ h)]

namespace Policy

section Shortcut

variable {p : Policy} {current previous masked : UInt32}

theorem transition?_eq_none_of_not_hasNews (h : p.hasNews current previous = false) (b : ErrorBit) :
    p.transition? current previous masked b = none := by
  simp only [hasNews, Bool.or_eq_false_iff, bne_eq_false_iff_eq] at h
  obtain ⟨hpersistent, rfl⟩ := h
  unfold transition?
  cases hset : b.isSet current with
  | false => simp
  | true =>
    have hne : (current != 0) = true := by
      rw [bne_iff_ne]
      rintro rfl
      simp [ErrorBit.isSet] at hset
    have hp : p.persistent = false := by simpa [hne] using hpersistent
    simp [hp]

theorem eq_of_not_hasNews (h : p.hasNews current previous = false) : current = previous := by
  simp only [hasNews, Bool.or_eq_false_iff, bne_eq_false_iff_eq] at h
  exact h.2

theorem transitions_of_not_hasNews (h : p.hasNews current previous = false) (bits : List ErrorBit) :
    p.transitions bits current previous masked = [] := by
  refine List.filterMap_eq_nil_iff.mpr fun b _ => ?_
  rw [transition?_eq_none_of_not_hasNews h]
  rfl

/-- Looking at a register as a whole first passes over no change. -/
theorem news_eq_transitions (bits : List ErrorBit) :
    p.news bits current previous masked = p.transitions bits current previous masked := by
  unfold news
  split
  · rfl
  · rename_i h
    exact (transitions_of_not_hasNews (by simpa using h) bits).symm

end Shortcut

section Check

variable (p : Policy) (s : ConfigSpace) (d : Device)

/-- The events of one register when `status` was read. -/
def announced (status : Snapshot) (k : StatusRegister) : List Event :=
  if k.presentIn d then
    (p.transitions k.bits (k.value status) (k.value d.snapshot) (k.masked s d)).map fun (b, t) =>
      announce d.address.text (k.classOf s d b) (k.label (k.classOf s d b)) b t
  else []

variable {p s d}

/-- The snapshot holds what the status registers of a device show. Those of a structure that it lacks
show what was seen last. -/
structure Shows (d : Device) (s : ConfigSpace) (status : Snapshot) : Prop where
  noExpress : d.express = none → status.deviceStatus = d.snapshot.deviceStatus
  express : ∀ cap, d.express = some cap → ∃ v,
    s.tryRead16 (cap + Register.deviceStatus) = .ok v ∧
      status.deviceStatus = v &&& ErrorBit.statusMask
  noAer : d.aer = none →
    status.uncorrectable = d.snapshot.uncorrectable ∧ status.correctable = d.snapshot.correctable
  aer : ∀ pos, d.aer = some pos →
    s.tryRead32 (pos + Register.uncorrectableStatus) = .ok status.uncorrectable ∧
      s.tryRead32 (pos + Register.correctableStatus) = .ok status.correctable

/-- The status is read in two steps, one for each structure. -/
theorem readStatus_eq :
    readStatus d s =
      (d.express.elim (.ok d.snapshot.deviceStatus) fun cap =>
        (s.tryRead16 (cap + Register.deviceStatus)).map (· &&& ErrorBit.statusMask)) >>=
      fun deviceStatus => d.aer.elim (.ok { d.snapshot with deviceStatus }) fun pos =>
        s.tryRead32 (pos + Register.uncorrectableStatus) >>= fun uncorrectable =>
          s.tryRead32 (pos + Register.correctableStatus) >>= fun correctable =>
            .ok { deviceStatus, uncorrectable, correctable } := by
  obtain ⟨address, express, aer, snapshot⟩ := d
  cases express <;> cases aer <;> rfl

/-- A reading of the status that succeeds gives what the registers show. -/
theorem shows_of_readStatus {status : Snapshot} (h : readStatus d s = .ok status) :
    Shows d s status := by
  rw [readStatus_eq] at h
  obtain ⟨v, hv, h⟩ := bind_eq_ok.mp h
  have hexpress : ∀ cap, d.express = some cap → ∃ w,
      s.tryRead16 (cap + Register.deviceStatus) = .ok w ∧ v = w &&& ErrorBit.statusMask := by
    intro cap hcap
    rw [hcap] at hv
    cases hw : s.tryRead16 (cap + Register.deviceStatus) with
    | error e => simp [hw, Except.map] at hv
    | ok w => exact ⟨w, rfl, by simpa [hw, Except.map] using hv.symm⟩
  have hnone : d.express = none → v = d.snapshot.deviceStatus := by
    intro hd
    rw [hd] at hv
    exact (Except.ok.inj hv).symm
  cases haer : d.aer with
  | none =>
    rw [haer] at h
    obtain rfl := Except.ok.inj h
    exact ⟨hnone, hexpress, fun _ => ⟨rfl, rfl⟩, fun _ hpos => absurd (haer.symm.trans hpos) nofun⟩
  | some pos =>
    rw [haer] at h
    obtain ⟨u, hu, h⟩ := bind_eq_ok.mp h
    obtain ⟨c, hc, h⟩ := bind_eq_ok.mp h
    obtain rfl := Except.ok.inj h
    refine ⟨hnone, hexpress, fun hd => absurd (haer.symm.trans hd) nofun, fun pos' hpos => ?_⟩
    obtain rfl := Option.some.inj (haer.symm.trans hpos)
    exact ⟨hu, hc⟩

/-- What is read of a register does not depend on what was seen before. -/
theorem map_value_readStatus {k : StatusRegister} (hk : k.presentIn d) (seen : Snapshot) :
    (readStatus { d with snapshot := seen } s).map k.value = (readStatus d s).map k.value := by
  obtain ⟨address, express, aer, snapshot⟩ := d
  unfold readStatus
  cases aer with
  | none =>
    obtain rfl : k = .deviceStatus := by
      cases k <;> simp_all [StatusRegister.presentIn]
    obtain ⟨cap, rfl⟩ := Option.isSome_iff_exists.mp hk
    dsimp only
    cases s.tryRead16 (cap + Register.deviceStatus) <;> rfl
  | some pos =>
    cases express with
    | some cap => rfl
    | none =>
      dsimp only
      cases s.tryRead32 (pos + Register.uncorrectableStatus) <;>
        cases s.tryRead32 (pos + Register.correctableStatus) <;>
        cases k <;>
        first | rfl | exact absurd hk Bool.false_ne_true

theorem checkDeviceStatus_of_none (hd : d.express = none) (status : UInt16) :
    p.checkDeviceStatus d status = (d, []) := by
  simp only [checkDeviceStatus, hd]

/-- Leaving a register alone that shows nothing new comes to the same as going through its bits and
remembering what was read. -/
theorem checkDeviceStatus_of_isSome (hd : d.express.isSome) (status : UInt16) :
    p.checkDeviceStatus d status =
      ({ d with snapshot := { d.snapshot with deviceStatus := status } },
        (p.transitions ErrorBit.deviceStatus status.toUInt32 d.snapshot.deviceStatus.toUInt32 0).map
          fun (b, t) => announce d.address.text (deviceStatusClass b) "Device Status Error" b t) := by
  obtain ⟨cap, hcap⟩ := Option.isSome_iff_exists.mp hd
  cases hnews : p.hasNews status.toUInt32 d.snapshot.deviceStatus.toUInt32 with
  | true => simp only [checkDeviceStatus, hcap, hnews, if_true]
  | false =>
    obtain rfl : status = d.snapshot.deviceStatus := UInt16.toUInt32_inj.mp (eq_of_not_hasNews hnews)
    simp only [checkDeviceStatus, hcap, hnews, transitions_of_not_hasNews hnews, Bool.false_eq_true,
      if_false, List.map_nil]
    rw [← hcap]

/-- A check of a device that can be read. -/
theorem run_checking_of_ok {status : Snapshot} (h : readStatus d s = .ok status)
    (events : List Event) :
    (p.checking s).run (d, events) =
      .ok () ({ d with snapshot := status },
        events ++ StatusRegister.all.flatMap (p.announced s d status)) := by
  have hstatus := (shows_of_readStatus h).noExpress
  have herrors := (shows_of_readStatus h).noAer
  simp only [run_checking, h, StatusRegister.all, List.flatMap_cons, List.flatMap_nil,
    List.append_nil, ← List.append_assoc (p.announced s d status _)]
  obtain ⟨address, express, aer, snapshot⟩ := d
  obtain ⟨ds, u, c⟩ := status
  cases express <;> cases aer <;>
    simp only [checkDeviceStatus_of_none, checkDeviceStatus_of_isSome, Option.isSome_some,
      checkUncorrectable, checkCorrectable, news_eq_transitions]
  case none.none =>
    obtain rfl := hstatus rfl
    obtain ⟨rfl, rfl⟩ := herrors rfl
    rfl
  case none.some =>
    obtain rfl := hstatus rfl
    rfl
  case some.none =>
    obtain ⟨rfl, rfl⟩ := herrors rfl
    rfl
  case some.some => rfl

theorem run_checking_of_error {e : Error} (h : readStatus d s = .error e) (events : List Event) :
    (p.checking s).run (d, events) = .error e (d, events) := by
  rw [run_checking, h]

/-- Every event of a register tells a change of one of its bits. -/
theorem exists_of_mem_announced {status : Snapshot} {k : StatusRegister} {e : Event}
    (h : e ∈ p.announced s d status k) :
    k.presentIn d ∧ ∃ b t, b ∈ k.bits ∧
      p.transition? (k.value status) (k.value d.snapshot) (k.masked s d) b = some t ∧
      e = announce d.address.text (k.classOf s d b) (k.label (k.classOf s d b)) b t := by
  unfold announced at h
  split at h
  · rename_i hpresent
    obtain ⟨⟨b, t⟩, hmem, rfl⟩ := List.mem_map.mp h
    obtain ⟨hb, ht⟩ := p.mem_transitions.mp hmem
    exact ⟨hpresent, b, t, hb, ht, rfl⟩
  · simp at h

theorem subject_of_mem_announced {status : Snapshot} {k : StatusRegister} {e : Event}
    (h : e ∈ p.announced s d status k) : e.subject = d.address.text := by
  obtain ⟨-, b, t, -, -, rfl⟩ := exists_of_mem_announced h
  cases t <;> rfl

end Check

end Policy

end AerWatch
