import AerWatch.FileTree
import AerWatch.Proofs.Bus.Showing
import AerWatch.Proofs.Fleet.Discovery
import AerWatch.Proofs.Fleet.Runs

/-!
# Interchangeable buses

Discovery and polls use no more of a bus than the list of its functions and the spaces that it opens.
So it makes no difference whether the functions are shown by a tree of `sysfs`, by one of `procfs` or
by copies of their spaces: discovery finds the same fleet, every run of polls gives the same reports,
and every register is read alike.
-/

namespace AerWatch

namespace Fleet

section Agreement

variable {bus bus' : Bus} {d : Device}

theorem locate?_congr
    (h : (bus.openSpace d.address).toOption = (bus'.openSpace d.address).toOption) :
    locate? bus d = locate? bus' d := by
  unfold locate?
  cases hs : bus.openSpace d.address <;> cases hs' : bus'.openSpace d.address <;>
    simp_all [Except.toOption]

theorem reading?_congr
    (h : (bus.openSpace d.address).toOption = (bus'.openSpace d.address).toOption) :
    reading? bus d = reading? bus' d := by
  unfold reading?
  cases hs : bus.openSpace d.address <;> cases hs' : bus'.openSpace d.address <;>
    simp_all [Except.toOption]

variable {p : Policy} {fleet : Fleet}

theorem poll_congr (h : ∀ d ∈ fleet.devices, reading? bus d = reading? bus' d) :
    poll p bus fleet = poll p bus' fleet := by
  have hpoll : ∀ d ∈ fleet.devices, pollDevice p bus d = pollDevice p bus' d := fun d hd => by
    rw [pollDevice_eq, pollDevice_eq, h d hd]
  have hfails : ∀ d ∈ fleet.devices, fails bus d = fails bus' d := fun d hd => by
    rw [fails, fails, h d hd]
  have hdevices := List.map_congr_left fun d hd => congrArg DeviceReport.device (hpoll d hd)
  have hevents := List.flatMap_congr fun d hd => congrArg DeviceReport.events (hpoll d hd)
  have hcount := List.countP_congr fun d hd => iff_of_eq (congrArg (· = true) (hfails d hd))
  rw [poll_eq, poll_eq, hdevices, hevents, hcount]

theorem forall_address_poll {as : List Address} (h : ∀ d ∈ fleet.devices, d.address ∈ as)
    (p : Policy) (bus : Bus) : ∀ d ∈ (poll p bus fleet).fleet.devices, d.address ∈ as := by
  rw [poll_eq]
  refine List.forall_mem_map.mpr fun d hd => ?_
  obtain ⟨status, hstatus⟩ := device_pollDevice p bus d
  rw [hstatus]
  exact h d hd

/-- Runs of polls on buses that open the same spaces give the same reports. -/
theorem reports_congr {ι : Type} {f g : ι → Bus} {as : List Address} {run : List ι}
    (h : ∀ x ∈ run, ∀ a ∈ as, ((f x).openSpace a).toOption = ((g x).openSpace a).toOption)
    (hfleet : ∀ d ∈ fleet.devices, d.address ∈ as) :
    reports p fleet (run.map f) = reports p fleet (run.map g) := by
  induction run generalizing fleet with
  | nil => rfl
  | cons x run ih =>
    obtain ⟨hx, hrun⟩ := List.forall_mem_cons.mp h
    have hpoll : poll p (f x) fleet = poll p (g x) fleet :=
      poll_congr fun d hd => reading?_congr (hx _ (hfleet d hd))
    rw [List.map_cons, List.map_cons, reports, reports, hpoll,
      ih hrun (forall_address_poll hfleet p (g x))]

end Agreement

end Fleet

/-! ### Three forms of a platform -/

/-- The forms in which functions are shown. -/
inductive Form where
  | sysfs
  | procfs
  /-- Copies of the spaces in memory. -/
  | memory

/-- The spaces of functions, and the files that show them. -/
structure Exposure where
  spaces : Spaces
  sysfs : FileSystem
  procfs : FileSystem

namespace Exposure

/-- The bus of a form, at the place that the form has. -/
def bus (x : Exposure) (roots : Form → String) (as : List Address) : Form → Bus
  | .sysfs => .sysfs x.sysfs (roots .sysfs)
  | .procfs => .procfs x.procfs (roots .procfs)
  | .memory => .memory (roots .memory) as x.spaces

/-- The files of both trees hold the spaces. -/
structure Holds (x : Exposure) (roots : Form → String) (as : List Address) : Prop where
  sysfs : ∀ a ∈ as, x.sysfs.Holds (Bus.sysfsPath (roots .sysfs) a) (x.spaces a)
  procfs : ∀ a ∈ as, x.procfs.Holds (Bus.procfsPath (roots .procfs) a) (x.spaces a)

/-- Both trees show the functions with their spaces. -/
structure Shows (x : Exposure) (roots : Form → String) (as : List Address) : Prop where
  sysfs : Bus.ShowsSysfs x.sysfs (roots .sysfs) as x.spaces
  procfs : Bus.ShowsProcfs x.procfs (roots .procfs) as x.spaces

variable {x : Exposure} {roots : Form → String} {as : List Address}

theorem Shows.holds (h : x.Shows roots as) : x.Holds roots as := ⟨h.sysfs.files, h.procfs.files⟩

theorem Holds.opens (h : x.Holds roots as) (form : Form) {a : Address} (ha : a ∈ as) :
    (x.bus roots as form).Opens a (x.spaces a) := by
  cases form with
  | sysfs => exact Bus.opens_of_holds rfl (h.sysfs a ha)
  | procfs => exact Bus.opens_of_holds rfl (h.procfs a ha)
  | memory => exact (Bus.offers_memory (roots .memory) as x.spaces).opens a ha

theorem Shows.offers (h : x.Shows roots as) (hsorted : as.Pairwise fun a b => a.key < b.key)
    (hplain : ∀ a ∈ as, a.domain = 0 ∧ a.InRange) (form : Form) :
    (x.bus roots as form).Offers as x.spaces := by
  cases form with
  | sysfs => exact Bus.offers_sysfs h.sysfs hsorted fun a ha => (hplain a ha).2
  | procfs => exact Bus.offers_procfs h.procfs hplain
  | memory => exact Bus.offers_memory (roots .memory) as x.spaces

theorem accessDir_bus (x : Exposure) (roots : Form → String) (as : List Address) (form : Form) :
    (x.bus roots as form).accessDir = roots form := by
  cases form <;> rfl

end Exposure

namespace Fleet

open Exposure

/-- It makes no difference in which form functions without a domain are shown. Discovery finds the same
fleet in all forms or no devices in any, all runs of polls in which the spaces change alike give the
same reports, and a function that has a space can be opened in every form and all registers are read
alike, also those that lie behind the end of the space. -/
theorem fleet_in_all_forms {as : List Address} (hsorted : as.Pairwise fun a b => a.key < b.key)
    (hplain : ∀ a ∈ as, a.domain = 0 ∧ a.InRange) {roots : Form → String} {x : Exposure}
    (hx : x.Shows roots as) :
    (∃ found, ∀ form, discover (x.bus roots as form) =
      if found = [] then .error (.noDevicesFound (roots form)) else .ok ⟨found⟩) ∧
    (∀ form fleet, discover (x.bus roots as form) = .ok fleet →
      ∀ (p : Policy) (run : List Exposure), (∀ y ∈ run, y.Holds roots as) → ∀ form₁ form₂,
        reports p fleet (run.map (·.bus roots as form₁)) =
          reports p fleet (run.map (·.bus roots as form₂))) ∧
    ∀ a ∈ as, match x.spaces a with
      | none => ∀ form, ∃ fault, (x.bus roots as form).openSpace a = .error (.openFailed a fault)
      | some bytes => ∃ s, (∀ form, (x.bus roots as form).openSpace a = .ok s) ∧
        ∀ offset size, s.tryRead offset size =
          if size ≤ bytes.length - offset.toNat then
            .ok (littleEndian ((bytes.drop offset.toNat).take size))
          else .error (.shortRead a offset size (bytes.length - offset.toNat)) := by
  have hsame {y : Exposure} (hy : y.Holds roots as) (form form' : Form) {a : Address} (ha : a ∈ as) :
      ((y.bus roots as form).openSpace a).toOption =
        ((y.bus roots as form').openSpace a).toOption :=
    (hy.opens form ha).toOption_eq.trans (hy.opens form' ha).toOption_eq.symm
  refine ⟨⟨as.filterMap fun address => locate? (x.bus roots as .memory) { address },
    fun form => ?_⟩, fun form fleet hfleet p run hrun form₁ form₂ => ?_, fun a ha => ?_⟩
  · have hfound : (as.filterMap fun address => locate? (x.bus roots as form) { address }) =
        as.filterMap fun address => locate? (x.bus roots as .memory) { address } :=
      List.filterMap_congr fun a ha => locate?_congr (hsame hx.holds form .memory ha)
    rw [discover_eq (hx.offers hsorted hplain form).list, hfound, accessDir_bus]
  · exact reports_congr (fun y hy a ha => hsame (hrun y hy) form₁ form₂ ha)
      (address_of_discover hfleet (hx.offers hsorted hplain form).list)
  · have hopens (form : Form) := hx.holds.opens form ha
    cases hspace : x.spaces a with
    | none =>
      rw [hspace] at hopens
      exact hopens
    | some bytes =>
      rw [hspace] at hopens
      refine ⟨_, hopens, fun offset size => ?_⟩
      split_ifs with hfits
      · exact MemorySpace.tryRead_toConfigSpace hfits
      · exact MemorySpace.tryRead_toConfigSpace_short (Nat.lt_of_not_le hfits)

section Sample

/-- Where the trees are in the sample. -/
def sampleRoots : Form → String
  | .sysfs => "/sys"
  | .procfs => "/proc"
  | .memory => "memory"

/-- Trees of files that show functions with their spaces. -/
def sampleExposure (as : List Address) (spaces : Spaces) : Exposure where
  spaces
  sysfs :=
    let root := sampleRoots .sysfs
    let tree : FileTree := as.foldr (fun a t =>
      match spaces a with
      | some bytes => t.write (FileTree.locate [] (Bus.sysfsPath root a)) bytes
      | none => t.makeDirectory (FileTree.locate [] (joinPath (Bus.listingPath root) a.text))) {}
    tree.fileSystem []
  procfs :=
    let root := sampleRoots .procfs
    let table := as.flatMap fun a => Numeral.hex 4 a.slot ++ "\t8086\n".toList
    let tree : FileTree := as.foldr (fun a t =>
      match spaces a with
      | some bytes => t.write (FileTree.locate [] (Bus.procfsPath root a)) bytes
      | none => t) {}
    (tree.write (FileTree.locate [] (Bus.listingPath root)) (Utf8.encode (.ofList table))).fileSystem []

/-- One of the functions cannot be opened, and the space of another one ends within its PCI Express
structure. -/
theorem fleet_with_cut_off_space :
    let as : List Address := [⟨0, 3, 0, 0⟩, ⟨0, 3, 1, 0⟩, ⟨0, 4, 0, 2⟩]
    let spaces (status : UInt16) : Spaces := fun a =>
      if a = ⟨0, 3, 0, 0⟩ then some (sampleSpace status 0 0).bytes
      else if a = ⟨0, 3, 1, 0⟩ then some ((sampleSpace 0 0 0).bytes.take 0x45)
      else none
    let x := sampleExposure as (spaces 0)
    let run := [sampleExposure as (spaces 0x4), sampleExposure as fun _ => none]
    let fleet : Fleet := ⟨[sampleDevice, { address := ⟨0, 3, 1, 0⟩, express := some 0x40 }]⟩
    (as.Pairwise fun a b => a.key < b.key) ∧ (∀ a ∈ as, a.domain = 0 ∧ a.InRange) ∧
      x.Shows sampleRoots as ∧ (∀ y ∈ run, y.Holds sampleRoots as) ∧
      (∀ form, discover (x.bus sampleRoots as form) = .ok fleet) ∧
      reports {} fleet (run.map (·.bus sampleRoots as .sysfs)) =
        reports {} fleet (run.map (·.bus sampleRoots as .procfs)) ∧
      ∃ s, (∀ form, (x.bus sampleRoots as form).openSpace ⟨0, 3, 1, 0⟩ = .ok s) ∧
        s.tryRead 0x44 2 = .error (.shortRead ⟨0, 3, 1, 0⟩ 0x44 2 1) := by
  intro as spaces x run fleet
  have hsorted : as.Pairwise fun a b => a.key < b.key := by decide
  have hplain : ∀ a ∈ as, a.domain = 0 ∧ a.InRange := by decide
  have hx : x.Shows sampleRoots as := by
    refine ⟨⟨⟨as.reverse.map Address.text, by decide +kernel, by decide +kernel⟩, by decide +kernel⟩,
      ⟨⟨as.map fun a => Numeral.hex 4 a.slot ++ "\t8086".toList, ?_, by decide +kernel⟩,
        by decide +kernel⟩⟩
    rw [List.forall₂_map_right_iff, List.forall₂_same]
    exact fun a _ => ⟨4, "\t8086".toList, rfl, rfl, by decide⟩
  have hrun : ∀ y ∈ run, y.Holds sampleRoots as := by
    simp only [run, List.forall_mem_cons]
    exact ⟨⟨by decide +kernel, by decide +kernel⟩, ⟨by decide +kernel, by decide +kernel⟩, nofun⟩
  obtain ⟨⟨found, hfound⟩, hreports, hspaces⟩ := fleet_in_all_forms hsorted hplain hx
  have hmemory : discover (x.bus sampleRoots as .memory) = .ok fleet := by decide +kernel
  have hfleet (form : Form) : discover (x.bus sampleRoots as form) = .ok fleet := by
    rw [hfound] at hmemory ⊢
    split_ifs at hmemory ⊢
    exact hmemory
  obtain ⟨s, hopen, hread⟩ := hspaces ⟨0, 3, 1, 0⟩ (by decide)
  refine ⟨hsorted, hplain, hx, hrun, hfleet, hreports .memory fleet hmemory {} run hrun _ _, s, hopen, ?_⟩
  rw [hread, if_neg (by decide +kernel)]
  rfl

end Sample

end Fleet

end AerWatch
