import AerWatch.Proofs.Address.Spelling
import AerWatch.Proofs.Bus.Showing
import AerWatch.Proofs.Fleet.Pruning
import AerWatch.Proofs.Fleet.Runs
import AerWatch.Proofs.Policy.Notices

/-!
# Functions that a table lists more than once

A table of `procfs` tells functions by the low half of their slots, and nothing looks for lines that
tell the same one. Discovery gives a device for every line of a PCI Express function. Devices of one
function stay alike, so that polls say everything about it as often as it is listed.
-/

namespace AerWatch

/-- Slots stand for one function if their low halves agree. -/
theorem Address.ofSlot_eq_ofSlot_iff {s t : UInt32} :
    ofSlot s = ofSlot t ↔ s.toNat % 65536 = t.toNat % 65536 := by
  have hlow₅ (n : Nat) : n &&& 31 = n % 32 := Nat.and_two_pow_sub_one_eq_mod n 5
  have hlow₃ (n : Nat) : n &&& 7 = n % 8 := Nat.and_two_pow_sub_one_eq_mod n 3
  simp only [ofSlot, mk.injEq, true_and, ← UInt8.toNat_inj, UInt32.toNat_toUInt8, UInt32.toNat_and,
    UInt32.toNat_shiftRight, UInt32.reduceToNat, Nat.reduceMod, Nat.shiftRight_eq_div_pow,
    Nat.reducePow, hlow₅, hlow₃]
  omega

namespace Bus

variable {fs : FileSystem} {root : String} {table : List Char}

/-- The functions that the lines of a table stand for. -/
def tableAddresses (table : List Char) : List Address :=
  (table.splitOn '\n').filterMap lineAddress?

/-- The number of lines that stand for a function. -/
def listings (table : List Char) (a : Address) : Nat :=
  (table.splitOn '\n').countP fun line => lineAddress? line == some a

theorem list_procfs (htable : fs.readText (listingPath root) = .ok table) :
    (procfs fs root).list = .ok (tableAddresses table) := by
  simp only [procfs, htable, tableAddresses]

theorem count_tableAddresses (table : List Char) (a : Address) :
    (tableAddresses table).count a = listings table a := List.count_filterMap ..

/-- The first field of a line spells a slot in hexadecimal digits. -/
theorem lineAddress?_eq_some_iff {line : List Char} {a : Address} :
    lineAddress? line = some a ↔ ∃ slot : UInt32, Address.ofSlot slot = a ∧
      Numeral.Spells 16 slot.toNat
        ((line.dropWhile Unicode.isBlank).takeWhile (!Unicode.isBlank ·)) := by
  simp only [lineAddress?, Option.map_eq_some_iff,
    Numeral.parse?_eq_some_iff (by decide : 1 < 16) (by decide : 16 ≤ 16)]
  constructor
  · rintro ⟨slot, ⟨hlt, hslot⟩, rfl⟩
    exact ⟨.ofNat slot, rfl, by rwa [UInt32.toNat_ofNat_of_lt' hlt]⟩
  · rintro ⟨slot, rfl, hslot⟩
    exact ⟨slot.toNat, ⟨slot.toNat_lt, hslot⟩, by rw [UInt32.ofNat_toNat]⟩

end Bus

namespace Fleet

section Alike

variable {fleet : Fleet} {d : Device}

/-- A poll tells of a function what a poll of one of its devices tells, as often as it has devices. -/
theorem filter_subject_poll_of_alike
    (halike : ∀ d' ∈ fleet.devices, d'.address = d.address → d' = d) (p : Policy) (buses : List Bus)
    (bus : Bus) :
    (poll p bus (fleet.after p buses)).events.filter (·.subject == d.address.text) =
      (List.replicate ((fleet.devices.map (·.address)).count d.address)
        (pollDevice p bus (deviceAfter p d buses)).events).flatten := by
  have haddress (d' : Device) : (deviceAfter p d' buses).address = d'.address := by
    obtain ⟨status, hstatus⟩ := deviceAfter_eq p d' buses
    rw [hstatus]
  have hcount : (fleet.devices.map (·.address)).count d.address =
      fleet.devices.countP (·.address.text = d.address.text) := by
    rw [List.count, List.countP_map]
    refine List.countP_congr fun d' _ => ?_
    simp [Address.text_injective.eq_iff]
  simp only [poll_eq, devices_after, List.flatMap_map, List.filter_flatMap,
    filter_subject_pollDevice, haddress]
  rw [hcount]
  refine flatMap_ite_of_alike fun d' hd' htext => ?_
  rw [halike d' hd' (Address.text_injective htext)]

end Alike

section Table

variable {bus : Bus}

/-- A fleet that follows a table: there is a device for every line of a PCI Express function, and the
devices of one function are alike for good. -/
structure FollowsTable (bus : Bus) (table : List Char) (fleet : Fleet) : Prop where
  addresses : fleet.devices.map (·.address) = (Bus.tableAddresses table).filter (isExpress bus)
  /-- Of every function there are as many devices as there are lines. -/
  count : ∀ d ∈ fleet.devices,
    (fleet.devices.map (·.address)).count d.address = Bus.listings table d.address
  alike : ∀ d ∈ fleet.devices, ∀ d' ∈ fleet.devices, d'.address = d.address → d' = d
  /-- A poll tells of a function what a poll of one device tells, for each of its lines once. -/
  events : ∀ d ∈ fleet.devices, ∀ p buses bus',
    (poll p bus' (fleet.after p buses)).events.filter (·.subject == d.address.text) =
      (List.replicate (Bus.listings table d.address)
        (pollDevice p bus' (deviceAfter p d buses)).events).flatten
  /-- So does it tell of every change of an error bit. -/
  notices : ∀ d ∈ fleet.devices, ∀ p buses bus' s status,
    let before := deviceAfter p d buses
    reading? bus' before = some (s, status) → ∀ k b, k.presentIn before → b ∈ k.bits →
      ((poll p bus' (fleet.after p buses)).events.filter (·.subject == d.address.text)).filterMap
          (·.notice? k b) =
        (p.transition? (k.value status) (k.value before.snapshot) (k.masked s before) b).elim []
          (List.replicate (Bus.listings table d.address))

/-- Discovery finds every PCI Express function of a list, and fails if there is none. -/
theorem discover_cases {as : List Address} (hlist : bus.list = .ok as) :
    discover bus = .error (.noDevicesFound bus.accessDir) ∧ as.filter (isExpress bus) = [] ∨
      ∃ fleet, discover bus = .ok fleet ∧ as.filter (isExpress bus) ≠ [] ∧
        List.Forall₂ (fun a => Located bus { address := a }) (as.filter (isExpress bus))
          fleet.devices := by
  have hlocated := forall₂_located bus as
  rw [discover_eq hlist]
  dsimp only
  split_ifs with hnone
  · rw [hnone, List.forall₂_nil_right_iff] at hlocated
    exact .inl ⟨rfl, hlocated⟩
  · refine .inr ⟨_, rfl, fun hempty => hnone ?_, hlocated⟩
    rwa [hempty, List.forall₂_nil_left_iff] at hlocated

variable {table : List Char} {fleet : Fleet} {as : List Address}

theorem address_of_located {a : Address} {d : Device} (h : Located bus { address := a } d) :
    d.address = a := by
  obtain ⟨s, -, rfl⟩ := h
  rfl

/-- What is located at an address is told by the address. -/
theorem eq_of_located {a : Address} {d d' : Device} (h : Located bus { address := a } d)
    (h' : Located bus { address := a } d') : d = d' := by
  obtain ⟨s, hs, rfl⟩ := h
  obtain ⟨s', hs', rfl⟩ := h'
  rw [Except.ok.inj (hs.symm.trans hs')]

theorem addresses_of_located
    (h : List.Forall₂ (fun a => Located bus { address := a }) as fleet.devices) :
    fleet.devices.map (·.address) = as := by
  have heq : List.Forall₂ Eq as (fleet.devices.map (·.address)) :=
    List.forall₂_map_right_iff.mpr (h.imp fun _ _ hd => (address_of_located hd).symm)
  rw [List.forall₂_eq_eq_eq] at heq
  exact heq.symm

/-- Devices that are found in one go differ in their addresses. -/
theorem alike_of_located
    (h : List.Forall₂ (fun a => Located bus { address := a }) as fleet.devices) {d d' : Device}
    (hd : d ∈ fleet.devices) (hd' : d' ∈ fleet.devices) (haddress : d'.address = d.address) :
    d' = d := by
  rw [← addresses_of_located h, List.forall₂_map_left_iff, List.forall₂_same] at h
  exact eq_of_located (haddress ▸ h d' hd') (h d hd)

theorem followsTable_of_located
    (h : List.Forall₂ (fun a => Located bus { address := a })
      ((Bus.tableAddresses table).filter (isExpress bus)) fleet.devices) :
    FollowsTable bus table fleet := by
  have hcount : ∀ d ∈ fleet.devices,
      (fleet.devices.map (·.address)).count d.address = Bus.listings table d.address := by
    intro d hd
    have haddress : d.address ∈ (Bus.tableAddresses table).filter (isExpress bus) :=
      addresses_of_located h ▸ List.mem_map_of_mem hd
    rw [addresses_of_located h, List.count_filter (List.mem_filter.mp haddress).2,
      Bus.count_tableAddresses]
  have hevents : ∀ d ∈ fleet.devices, ∀ p buses bus',
      (poll p bus' (fleet.after p buses)).events.filter (·.subject == d.address.text) =
        (List.replicate (Bus.listings table d.address)
          (pollDevice p bus' (deviceAfter p d buses)).events).flatten := by
    intro d hd p buses bus'
    rw [filter_subject_poll_of_alike (fun d' hd' => alike_of_located h hd hd'), hcount d hd]
  refine ⟨addresses_of_located h, hcount, fun d hd d' hd' => alike_of_located h hd hd', hevents, ?_⟩
  intro d hd p buses bus' s status before hread k b hk hb
  rw [hevents d hd, pollDevice_eq, hread, List.filterMap_flatten, List.map_replicate,
    notices_check hb hk]
  cases p.transition? (k.value status) (k.value before.snapshot) (k.masked s before) b <;> simp

variable {fs : FileSystem} {root : String}

/-- A line tells of a function by the low half of its slot. Discovery gives a device for every line of a
PCI Express function, in the order of the table, and fails if there is none; in every later poll all
that is told of a function is told for each of its lines once. So no function is polled twice exactly
if there is only one line for each of them. -/
theorem discover_of_table (htable : fs.readText (Bus.listingPath root) = .ok table) :
    let bus := Bus.procfs fs root
    (∀ line a, Bus.lineAddress? line = some a ↔ ∃ slot : UInt32, Address.ofSlot slot = a ∧
      Numeral.Spells 16 slot.toNat
        ((line.dropWhile Unicode.isBlank).takeWhile (!Unicode.isBlank ·))) ∧
    (∀ slot slot', Address.ofSlot slot = Address.ofSlot slot' ↔
      slot.toNat % 65536 = slot'.toNat % 65536) ∧
    (discover bus = .error (.noDevicesFound root) ↔
      ∀ a ∈ Bus.tableAddresses table, isExpress bus a = false) ∧
    ((∃ a ∈ Bus.tableAddresses table, isExpress bus a) →
      ∃ fleet, discover bus = .ok fleet ∧ FollowsTable bus table fleet ∧
        ((fleet.devices.map (·.address)).Nodup ↔
          ∀ d ∈ fleet.devices, Bus.listings table d.address = 1)) := by
  intro bus
  have hlist : bus.list = .ok (Bus.tableAddresses table) := Bus.list_procfs htable
  refine ⟨fun line a => Bus.lineAddress?_eq_some_iff, fun _ _ => Address.ofSlot_eq_ofSlot_iff, ?_⟩
  have hnone : (Bus.tableAddresses table).filter (isExpress bus) = [] ↔
      ∀ a ∈ Bus.tableAddresses table, isExpress bus a = false := by
    simp [List.filter_eq_nil_iff]
  rcases discover_cases hlist with ⟨hdiscover, hempty⟩ | ⟨fleet, hdiscover, hne, hlocated⟩
  · refine ⟨iff_of_true hdiscover (hnone.mp hempty), fun ⟨a, ha, hexpress⟩ => ?_⟩
    rw [hnone.mp hempty a ha] at hexpress
    exact absurd hexpress Bool.false_ne_true
  · refine ⟨iff_of_false (hdiscover ▸ nofun) (hnone.not.mp hne), fun _ => ⟨fleet, hdiscover, ?_⟩⟩
    have hfollows := followsTable_of_located hlocated
    refine ⟨hfollows, ?_⟩
    rw [List.nodup_iff_count_eq_one, List.forall_mem_map]
    exact forall₂_congr fun d hd => by rw [hfollows.count d hd]

section Sample

/-- A tree of `procfs` with a table and the space of a function. -/
def sampleProcfs (table : String) (space : MemorySpace) : FileSystem :=
  .ofRecords [("devices", .ok ⟨1, .regular (Utf8.encode table)⟩),
    ("03/00.0", .ok ⟨2, .regular space.bytes⟩)] []

/-- Slots that differ in their high halves, and a function that cannot be opened. -/
theorem discover_of_table_with_repeats :
    let table := "0300\t8086\n0400\nslot\n10300\n"
    let fs := sampleProcfs table (sampleSpace 0 0 0)
    fs.readText (Bus.listingPath "") = .ok table.toList ∧
      ∃ fleet, discover (.procfs fs "") = .ok fleet ∧
        FollowsTable (.procfs fs "") table.toList fleet ∧
        fleet.devices.map (·.address) = [⟨0, 3, 0, 0⟩, ⟨0, 3, 0, 0⟩] ∧
        Bus.listings table.toList ⟨0, 3, 0, 0⟩ = 2 := by
  intro table fs
  have htable : fs.readText (Bus.listingPath "") = .ok table.toList := by decide +kernel
  have hfound := (discover_of_table htable).2.2.2
  obtain ⟨fleet, hdiscover, hfollows, -⟩ := hfound ⟨⟨0, 3, 0, 0⟩, by decide +kernel, by decide +kernel⟩
  refine ⟨htable, fleet, hdiscover, hfollows, ?_, by decide +kernel⟩
  rw [hfollows.addresses]
  decide +kernel

/-- A function that is listed on two lines is polled twice, and its errors are told twice. -/
theorem error_of_repeated_line_told_twice :
    let table := "0300\n0300\n"
    let fleet : Fleet := ⟨[sampleDevice, sampleDevice]⟩
    let bus (status : UInt16) : Bus := .procfs (sampleProcfs table (sampleSpace status 0 0)) ""
    discover (bus 0) = .ok fleet ∧ ¬(fleet.devices.map (·.address)).Nodup ∧
      (poll {} (bus 0x4) fleet).events.filterMap (·.notice? .deviceStatus ⟨0x4, "Fatal Error"⟩) =
        [.set, .set] := by
  intro table fleet bus
  exact ⟨by decide +kernel, by decide +kernel, by decide +kernel⟩

end Sample

end Table

end Fleet

end AerWatch
