import AerWatch.Proofs.Address.Spelling
import AerWatch.Proofs.Bus.Showing
import Mathlib.Data.List.Nodup
import Mathlib.Data.List.Pairwise

/-!
# Entries of a tree and the functions they stand for

A tree of `sysfs` lists a function for every entry whose name spells an address, but opens it under the
name of the address. So the entry that is listed is the one that is opened as long as its name is the
name of an address. Of other spellings there may be several for one function, which is then listed more
than once and opened in an entry that may not exist.
-/

namespace AerWatch

section Paths

variable {name : String}

/-- A name without a slash is put behind the path of its directory. -/
theorem joinPath_eq (h : '/' ∉ name.toList) (dir : String) :
    joinPath dir name = joinPath dir "" ++ name := by
  have hrelative : name.startsWith "/" = false := by
    rw [String.startsWith_string_eq_false_iff]
    exact fun hfront => h (hfront.subset (by decide))
  unfold joinPath
  simp only [hrelative]
  split_ifs <;> simp_all

/-- A path that ends with a name is parted from what is put behind it by a slash. -/
theorem joinPath_append (h : '/' ∉ name.toList) (hne : name ≠ "") (front : String) :
    joinPath (front ++ name) "" = front ++ name ++ "/" := by
  have hname : name.toList ≠ [] := fun hnil => hne (String.toList_eq_nil_iff.mp hnil)
  have hempty : front ++ name ≠ "" := by
    rw [Ne, ← String.toList_eq_nil_iff, String.toList_append]
    exact List.append_ne_nil_of_right_ne_nil _ hname
  have hend : (front ++ name).endsWith "/" = false := by
    show (front ++ name).toSlice.endsWith "/" = false
    rw [String.Slice.endsWith_string_eq_false_iff]
    intro hlast
    have hslash : ['/'] <:+ front.toList ++ name.toList := by simpa using hlast
    rw [List.singleton_suffix_iff_getLast?_eq_some, List.getLast?_append_of_ne_nil _ hname] at hslash
    exact h (List.mem_of_getLast? hslash)
  simp [joinPath, hempty, hend]

end Paths

namespace Bus

section Entries

variable {name name' root : String} {a : Address}

/-- The file with the configuration space in the entry of a name. -/
def entryFile (root name : String) : String := joinPath (joinPath (listingPath root) name) "config"

theorem entryFile_eq (h : '/' ∉ name.toList) (hne : name ≠ "") :
    entryFile root name = joinPath (listingPath root) "" ++ name ++ "/" ++ "config" := by
  rw [entryFile, joinPath_eq h, joinPath_eq (by decide), joinPath_append h hne]

/-- Entries with different names have different files. -/
theorem entryFile_inj (h : '/' ∉ name.toList) (hne : name ≠ "") (h' : '/' ∉ name'.toList)
    (hne' : name' ≠ "") : entryFile root name = entryFile root name' ↔ name = name' := by
  rw [entryFile_eq h hne, entryFile_eq h' hne', String.append_left_inj, String.append_left_inj,
    String.append_right_inj]

theorem entryAddress?_eq_some_iff : entryAddress? name = some a ↔ a.InRange ∧ a.Spelled name := by
  unfold entryAddress?
  split_ifs with hspecial
  · refine ⟨nofun, fun ⟨_, hname⟩ => ?_⟩
    rw [hname.not_startsWith] at hspecial
    exact absurd hspecial Bool.false_ne_true
  · exact Address.parse?_eq_some_iff

/-- The entry of a spelling is the one that is opened if the spelling is the name of its address. -/
theorem entryFile_text_iff (h : entryAddress? name = some a) :
    entryFile root name = entryFile root a.text ↔ name = a.text := by
  obtain ⟨hrange, hname⟩ := entryAddress?_eq_some_iff.mp h
  obtain ⟨-, htext⟩ := entryAddress?_eq_some_iff.mp (entryAddress?_text hrange)
  have hslash {s : String} (hs : a.Spelled s) : '/' ∉ s.toList := hs.notMem (by decide) (by decide)
  exact entryFile_inj (hslash hname) hname.ne_empty (hslash htext) htext.ne_empty

end Entries

section Listing

variable {fs : FileSystem} {root : String} {names : List String}

/-- The functions that the entries with the given names stand for. -/
def listed (names : List String) : List Address := Address.sort (names.filterMap entryAddress?)

theorem list_sysfs (hdir : fs.listDirectory (listingPath root) = .ok names) :
    (sysfs fs root).list = .ok (listed names) := by
  simp only [sysfs, hdir, listed]

theorem listed_perm (names : List String) : (listed names).Perm (names.filterMap entryAddress?) :=
  Address.sort_perm _

theorem mem_listed {a : Address} : a ∈ listed names ↔ ∃ name ∈ names, entryAddress? name = some a := by
  rw [(listed_perm names).mem_iff, List.mem_filterMap]

theorem count_listed (a : Address) :
    (listed names).count a = names.countP fun name => entryAddress? name == some a := by
  rw [(listed_perm names).count_eq, List.count_filterMap]

theorem listed_eq_of_pairwise {as : List Address} (h : (names.filterMap entryAddress?).Perm as)
    (has : as.Pairwise fun a b => a.key ≤ b.key) : listed names = as :=
  eq_of_perm_of_pairwise ((listed_perm names).trans h) (pairwise_sort _) has

/-- In whatever order a directory gives its entries, the functions are listed in the same order. -/
theorem listed_eq_of_perm {names' : List String} (h : names'.Perm names) :
    listed names' = listed names :=
  listed_eq_of_pairwise ((h.filterMap entryAddress?).trans (listed_perm names).symm)
    (pairwise_sort _)

/-- In a sorted list the order is strict if nothing is repeated. -/
theorem strict_listed_iff : (listed names).Pairwise (fun a b => a.key < b.key) ↔
    (names.filterMap entryAddress?).Nodup := by
  rw [← (listed_perm names).nodup_iff]
  constructor
  · refine fun h => h.imp fun hlt => ?_
    rintro rfl
    exact Nat.lt_irrefl _ hlt
  · intro h
    have hboth : (listed names).Pairwise fun a b => a.key ≤ b.key ∧ a ≠ b := (pairwise_sort _).and h
    refine hboth.imp fun ⟨hle, hne⟩ => Nat.lt_of_le_of_ne hle fun heq => ?_
    exact hne (Address.key_injective heq)

/-- Addresses are listed in strict order just when no two entries stand for one function. -/
theorem pairwise_listed_iff (hdistinct : names.Nodup) :
    (listed names).Pairwise (fun a b => a.key < b.key) ↔
      ∀ name ∈ names, ∀ name' ∈ names, ∀ a, entryAddress? name = some a → entryAddress? name' = some a →
        name = name' := by
  rw [strict_listed_iff, List.Nodup, List.pairwise_filterMap]
  constructor
  · intro h name hname name' hname' a ha ha'
    have hsymm : Std.Symm fun x y : String => ∀ a, entryAddress? x = some a →
        ∀ b, entryAddress? y = some b → a ≠ b :=
      ⟨fun x y h b hb a ha heq => h a ha b hb heq.symm⟩
    by_contra hne
    exact h.forall hname hname' hne a ha a ha' rfl
  · intro h
    refine hdistinct.pairwise_of_forall_ne fun name hname name' hname' hne a ha b hb heq => hne ?_
    exact h name hname name' hname' a ha (heq ▸ hb)

/-- How the functions that a tree lists go with the names of its entries. -/
structure ListsEntries (fs : FileSystem) (root : String) (names : List String) (as : List Address) :
    Prop where
  list : (sysfs fs root).list = .ok as
  increasing : as.Pairwise fun a b => a.key ≤ b.key
  /-- The order in which the entries are delivered does not matter. -/
  anyOrder : ∀ fs' names', fs'.listDirectory (listingPath root) = .ok names' → names'.Perm names →
    (sysfs fs' root).list = .ok as
  /-- A function is listed as often as there are entries that stand for it. -/
  count : ∀ a, as.count a = names.countP fun name => entryAddress? name == some a
  /-- An entry stands for the function whose address its name spells, and others are left out. -/
  spelled : ∀ name a, entryAddress? name = some a ↔ a.InRange ∧ a.Spelled name
  named : ∀ a : Address, a.InRange → a.text ∈ names → a ∈ as
  /-- A function is opened in the entry that has the name of its address. -/
  opens : ∀ a ∈ as, (sysfs fs root).openSpace a = openFileSpace fs (entryFile root a.text) a
  opensEntry : ∀ name a, entryAddress? name = some a →
    (entryFile root name = entryFile root a.text ↔ name = a.text)
  strict : as.Pairwise (fun a b => a.key < b.key) ↔
    ∀ name ∈ names, ∀ name' ∈ names, ∀ a, entryAddress? name = some a → entryAddress? name' = some a →
      name = name'

/-- What a tree lists are the functions whose addresses the names of its entries spell, in increasing
order. So every function listed is opened in the entry that it is listed for, and is listed only once,
exactly if no entry has another spelling of an address for its name. -/
theorem list_of_spelled_entries (hdir : fs.listDirectory (listingPath root) = .ok names)
    (hdistinct : names.Nodup) :
    ∃ as, ListsEntries fs root names as ∧
      ((∀ a ∈ as, a.text ∈ names) ∧ as.Pairwise (fun a b => a.key < b.key) ↔
        ∀ name ∈ names, ∀ a, entryAddress? name = some a → name = a.text) := by
  have hstrict := pairwise_listed_iff hdistinct
  refine ⟨listed names, ⟨list_sysfs hdir, pairwise_sort _, fun fs' names' hdir' hperm => ?_,
    count_listed, fun name a => entryAddress?_eq_some_iff, fun a hrange ha => ?_, fun a _ => rfl,
    fun name a => entryFile_text_iff, hstrict⟩, ?_, fun h => ⟨fun a ha => ?_, ?_⟩⟩
  · rw [list_sysfs hdir', listed_eq_of_perm hperm]
  · exact mem_listed.mpr ⟨a.text, ha, entryAddress?_text hrange⟩
  · rintro ⟨hnamed, honce⟩ name hname a ha
    have htext : a.text ∈ names := hnamed a (mem_listed.mpr ⟨name, hname, ha⟩)
    exact hstrict.mp honce name hname a.text htext a ha
      (entryAddress?_text (entryAddress?_eq_some_iff.mp ha).1)
  · obtain ⟨name, hname, ha⟩ := mem_listed.mp ha
    exact h name hname a ha ▸ hname
  · refine hstrict.mpr fun name hname name' hname' a ha ha' => ?_
    rw [h name hname a ha, h name' hname' a ha']

/-- Two of five entries stand for one function, which is listed before the one of a higher bus. -/
theorem list_of_loosely_named_entries :
    let names := ["0000:04:00.0", "0:3:0.0", ".hidden", "0000:03:00.0", "host0"]
    let fs := FileSystem.ofRecords [] [("devices", .ok names)]
    fs.listDirectory (listingPath "") = .ok names ∧ names.Nodup ∧
      ∃ as, ListsEntries fs "" names as ∧ as = [⟨0, 3, 0, 0⟩, ⟨0, 3, 0, 0⟩, ⟨0, 4, 0, 0⟩] := by
  intro names fs
  have hdir : fs.listDirectory (listingPath "") = .ok names := by decide +kernel
  have hdistinct : names.Nodup := by decide +kernel
  obtain ⟨as, has, -⟩ := list_of_spelled_entries hdir hdistinct
  have hlisted : listed names = [⟨0, 3, 0, 0⟩, ⟨0, 3, 0, 0⟩, ⟨0, 4, 0, 0⟩] :=
    listed_eq_of_pairwise (by decide +kernel) (by decide +kernel)
  have hlist := (list_sysfs hdir).symm.trans has.list
  rw [hlisted] at hlist
  exact ⟨hdir, hdistinct, as, has, (Except.ok.inj hlist).symm⟩

/-- A function is listed for an entry of which nothing is opened, and once more for the entry that is. -/
theorem entry_listed_under_other_name :
    let names := ["0:3:0.0", "0000:03:00.0"]
    let fs := FileSystem.ofRecords [] [("devices", .ok names)]
    let a : Address := ⟨0, 3, 0, 0⟩
    fs.listDirectory (listingPath "") = .ok names ∧ names.Nodup ∧
      (sysfs fs "").list = .ok [a, a] ∧ ¬[a, a].Pairwise (fun a b => a.key < b.key) ∧
      entryAddress? "0:3:0.0" = some a ∧ a.text = "0000:03:00.0" ∧
      sysfsPath "" a = entryFile "" "0000:03:00.0" ∧ sysfsPath "" a ≠ entryFile "" "0:3:0.0" := by
  intro names fs a
  have hdir : fs.listDirectory (listingPath "") = .ok names := by decide +kernel
  have hlisted : listed names = [a, a] :=
    listed_eq_of_pairwise (by decide +kernel) (by decide +kernel)
  refine ⟨hdir, by decide +kernel, hlisted ▸ list_sysfs hdir, by decide +kernel, ?_⟩
  decide +kernel

end Listing

end Bus

end AerWatch
