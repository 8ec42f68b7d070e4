import AerWatch.Bus.Files
import AerWatch.Proofs.Address.Text
import AerWatch.Proofs.Text.Encoding
import Mathlib.Data.List.Forall2

/-!
# Three buses with the same functions

The same functions can be shown by a tree of `sysfs`, by one of `procfs`, and by copies of their
configuration spaces in memory. Each of these buses lists them in the order of their addresses, and
what can be opened on one of them is the same space on all three.
-/

namespace AerWatch

/-- The bytes of configuration spaces. A function may have none. -/
abbrev Spaces := Address → Option (List UInt8)

namespace FileSystem

/-- What there is at a path: a regular file with the bytes, or nothing that can be opened. -/
def Holds (fs : FileSystem) (path : String) (bytes : Option (List UInt8)) : Prop :=
  (fs.openFile path).toOption.map (·.content) = bytes.map .regular

instance (fs : FileSystem) (path : String) (bytes : Option (List UInt8)) :
    Decidable (fs.Holds path bytes) :=
  inferInstanceAs (Decidable (_ = _))

variable {fs : FileSystem} {path : String}

theorem Holds.exists_eq_error (h : fs.Holds path none) : ∃ fault, fs.openFile path = .error fault := by
  unfold Holds at h
  cases hopen : fs.openFile path with
  | error fault => exact ⟨fault, rfl⟩
  | ok file => simp [hopen, Except.toOption] at h

theorem Holds.exists_eq_ok {bytes : List UInt8} (h : fs.Holds path (some bytes)) :
    ∃ identity, fs.openFile path = .ok ⟨identity, .regular bytes⟩ := by
  unfold Holds at h
  cases hopen : fs.openFile path with
  | error fault => simp [hopen, Except.toOption] at h
  | ok file =>
    obtain ⟨identity, content⟩ := file
    obtain rfl : content = .regular bytes := by simpa [hopen, Except.toOption] using h
    exact ⟨identity, rfl⟩

/-- The text of a file is what its bytes encode. -/
theorem Holds.readText_eq {text : String} (h : fs.Holds path (some (Utf8.encode text))) :
    fs.readText path = .ok text.toList := by
  obtain ⟨identity, hopen⟩ := h.exists_eq_ok
  have hread : fs.readFile path = .ok (Utf8.encode text) := by
    rw [readFile, hopen]
    rfl
  rw [readText, hread]
  simp only [bind, Except.bind, Utf8.decode?_encode]
  rfl

end FileSystem

namespace Bus

/-- What comes of opening a function: its bytes can be read, or it cannot be opened. -/
def Opens (bus : Bus) (a : Address) : Option (List UInt8) → Prop
  | some bytes => bus.openSpace a = .ok (⟨a, bytes⟩ : MemorySpace).toConfigSpace
  | none => ∃ fault, bus.openSpace a = .error (.openFailed a fault)

/-- A bus that lists the functions in the given order and opens their spaces. -/
structure Offers (bus : Bus) (as : List Address) (spaces : Spaces) : Prop where
  list : bus.list = .ok as
  opens : ∀ a ∈ as, bus.Opens a (spaces a)

/-- What can be opened of a function is its space, if it has one. -/
theorem Opens.toOption_eq {bus : Bus} {a : Address} {space : Option (List UInt8)}
    (h : bus.Opens a space) :
    (bus.openSpace a).toOption = space.map fun bytes => (⟨a, bytes⟩ : MemorySpace).toConfigSpace := by
  cases space with
  | none =>
    obtain ⟨fault, hopen⟩ := h
    rw [hopen]
    rfl
  | some bytes =>
    rw [show bus.openSpace a = _ from h]
    rfl

section Files

variable {fs : FileSystem} {path : String} {a : Address}

/-- A regular file is read like a copy of its bytes: a read that gets fewer bytes than it asked for
gets all that were left. -/
theorem fileSpace_regular (a : Address) (identity : Nat) (bytes : List UInt8) :
    fileSpace a ⟨identity, .regular bytes⟩ = (⟨a, bytes⟩ : MemorySpace).toConfigSpace := by
  have hread : (fileSpace a ⟨identity, .regular bytes⟩).read =
      (⟨a, bytes⟩ : MemorySpace).toConfigSpace.read := by
    funext offset size
    have hdrop : bytes.drop (min offset.toNat bytes.length) = bytes.drop offset.toNat :=
      (List.drop_eq_drop_min ..).symm
    simp only [fileSpace, OpenFile.readAt, OpenFile.bytes, Except.map, MemorySpace.toConfigSpace,
      hdrop]
    by_cases h : (bytes.drop offset.toNat).length < size
    · have hshort : (bytes.drop offset.toNat).take size = bytes.drop offset.toNat :=
        List.take_of_length_le h.le
      rw [dif_pos h, dif_neg (by rw [hshort]; exact h.ne), hshort]
    · rw [dif_neg h, dif_pos (List.length_take_of_le (Nat.le_of_not_lt h))]
  exact congrArg (ConfigSpace.mk a) hread

theorem opens_of_holds {bus : Bus} {space : Option (List UInt8)}
    (hopen : bus.openSpace a = openFileSpace fs path a) (h : fs.Holds path space) :
    bus.Opens a space := by
  unfold openFileSpace at hopen
  cases space with
  | none =>
    obtain ⟨fault, hfault⟩ := h.exists_eq_error
    rw [hfault] at hopen
    exact ⟨fault, hopen⟩
  | some bytes =>
    obtain ⟨identity, hfile⟩ := h.exists_eq_ok
    rw [hfile] at hopen
    exact hopen.trans (congrArg Except.ok (fileSpace_regular a identity bytes))

end Files

section Sysfs

/-- A tree of `sysfs` that shows the functions: a directory for each of them, in any order, and in it
the file with the configuration space. -/
structure ShowsSysfs (fs : FileSystem) (root : String) (as : List Address) (spaces : Spaces) :
    Prop where
  directory : ∃ names, fs.listDirectory (listingPath root) = .ok names ∧
    names.Perm (as.map Address.text)
  files : ∀ a ∈ as, fs.Holds (sysfsPath root a) (spaces a)

variable {fs : FileSystem} {root : String} {as : List Address} {spaces : Spaces}

theorem entryAddress?_text {a : Address} (h : a.InRange) : entryAddress? a.text = some a := by
  rw [entryAddress?, a.not_startsWith_text, if_neg Bool.false_ne_true, Address.parse?_text h]

theorem pairwise_sort (as : List Address) :
    (Address.sort as).Pairwise fun a b => a.key ≤ b.key := by
  have hsort : (Address.sort as).Pairwise fun a b => decide (a.key ≤ b.key) :=
    List.pairwise_mergeSort (fun a b c => by simpa using Nat.le_trans)
      (fun a b => by simpa using Nat.le_total _ _) as
  exact hsort.imp of_decide_eq_true

/-- Addresses increase in one order only. -/
theorem eq_of_perm_of_pairwise {as bs : List Address} (h : bs.Perm as)
    (hbs : bs.Pairwise fun a b => a.key ≤ b.key) (has : as.Pairwise fun a b => a.key ≤ b.key) :
    bs = as := by
  have hunique : ∀ a b, a ∈ bs → b ∈ as → a.key ≤ b.key → b.key ≤ a.key → a = b :=
    fun a b _ _ hab hba => Address.key_injective (Nat.le_antisymm hab hba)
  exact h.eq_of_pairwise hunique hbs has

/-- Sorting puts addresses in the order in which they increase. -/
theorem sort_eq_of_perm {as bs : List Address} (h : bs.Perm as)
    (hsorted : as.Pairwise fun a b => a.key < b.key) : Address.sort bs = as :=
  eq_of_perm_of_pairwise ((Address.sort_perm bs).trans h) (pairwise_sort bs)
    (hsorted.imp Nat.le_of_lt)

theorem offers_sysfs (h : ShowsSysfs fs root as spaces)
    (hsorted : as.Pairwise fun a b => a.key < b.key) (hrange : ∀ a ∈ as, a.InRange) :
    (sysfs fs root).Offers as spaces where
  list := by
    obtain ⟨names, hnames, hperm⟩ := h.directory
    have hentry : ∀ a ∈ as, (entryAddress? ∘ Address.text) a = some a := fun a ha => by
      rw [Function.comp_apply, entryAddress?_text (hrange a ha)]
    have hread : (as.map Address.text).filterMap entryAddress? = as := by
      rw [List.filterMap_map, List.filterMap_congr hentry, List.filterMap_some]
    have hsort := sort_eq_of_perm ((hperm.filterMap entryAddress?).trans (.of_eq hread)) hsorted
    simp only [sysfs, hnames, hsort]
  opens a ha := opens_of_holds rfl (h.files a ha)

end Sysfs

section Procfs

/-- A line of the table: the slot value of the function, in any number of digits, and what else is
told of it behind a blank. -/
def IsTableLine (a : Address) (line : List Char) : Prop :=
  ∃ width rest, line = Numeral.hex width a.slot ++ rest ∧ rest.head?.all Unicode.isBlank ∧
    '\n' ∉ rest

/-- A tree of `procfs` that shows the functions: a table with a line for each of them, in order, and
the files with their configuration spaces. -/
structure ShowsProcfs (fs : FileSystem) (root : String) (as : List Address) (spaces : Spaces) :
    Prop where
  table : ∃ lines, List.Forall₂ IsTableLine as lines ∧
    fs.Holds (listingPath root) (some (Utf8.encode (.ofList (lines.flatMap (· ++ ['\n'])))))
  files : ∀ a ∈ as, fs.Holds (procfsPath root a) (spaces a)

variable {fs : FileSystem} {root : String} {as : List Address} {spaces : Spaces} {a : Address}
  {line : List Char}

theorem isBlank_of_mem_hex {width n : Nat} {c : Char} (h : c ∈ Numeral.hex width n) :
    Unicode.isBlank c = false := by
  obtain ⟨d, hd, rfl⟩ := Numeral.exists_of_mem_hex h
  interval_cases d <;> decide

theorem newline_notMem (h : IsTableLine a line) : '\n' ∉ line := by
  obtain ⟨width, rest, rfl, -, hrest⟩ := h
  exact List.not_mem_append (Numeral.notMem_hex (by decide) _ _) hrest

theorem lineAddress?_eq (h : IsTableLine a line) (hdomain : a.domain = 0) (hrange : a.InRange) :
    lineAddress? line = some a := by
  obtain ⟨width, rest, rfl, hblank, -⟩ := h
  have hslot : ∀ c ∈ Numeral.hex width a.slot, (!Unicode.isBlank c) = true := fun c hc => by
    rw [isBlank_of_mem_hex hc]
    rfl
  have hfront : (Numeral.hex width a.slot ++ rest).dropWhile Unicode.isBlank =
      Numeral.hex width a.slot ++ rest := by
    cases hhex : Numeral.hex width a.slot with
    | nil => exact absurd hhex (Numeral.hex_ne_nil _ _)
    | cons c cs =>
      have hc := isBlank_of_mem_hex (hhex ▸ List.mem_cons_self : c ∈ Numeral.hex width a.slot)
      rw [List.cons_append, List.dropWhile_cons_of_neg (by simp [hc])]
  have hbehind : rest.takeWhile (!Unicode.isBlank ·) = [] := by
    cases rest with
    | nil => rfl
    | cons c rest =>
      have hc : Unicode.isBlank c = true := hblank
      simp [hc]
  rw [lineAddress?, hfront, List.takeWhile_append_of_pos hslot, hbehind, List.append_nil,
    Numeral.parse?_hex width (Address.slot_lt hrange)]
  exact congrArg some (Address.ofSlot_slot hrange hdomain)

theorem newline_notMem_lines {lines : List (List Char)} (h : List.Forall₂ IsTableLine as lines) :
    ∀ line ∈ lines, '\n' ∉ line := by
  induction h with
  | nil => exact List.forall_mem_nil _
  | cons hline _ ih => exact List.forall_mem_cons.mpr ⟨newline_notMem hline, ih⟩

theorem filterMap_lines {lines : List (List Char)} (h : List.Forall₂ IsTableLine as lines)
    (hplain : ∀ a ∈ as, a.domain = 0 ∧ a.InRange) : lines.filterMap lineAddress? = as := by
  induction h with
  | nil => rfl
  | cons hline _ ih =>
    obtain ⟨⟨hdomain, hrange⟩, hplain⟩ := List.forall_mem_cons.mp hplain
    rw [List.filterMap_cons_some (lineAddress?_eq hline hdomain hrange), ih hplain]

/-- Splitting a table gives its lines, and an empty piece behind the last one. -/
theorem splitOn_table {lines : List (List Char)} (h : ∀ line ∈ lines, '\n' ∉ line) :
    (lines.flatMap (· ++ ['\n'])).splitOn '\n' = lines ++ [[]] := by
  induction lines with
  | nil => rfl
  | cons line lines ih =>
    obtain ⟨hline, hlines⟩ := List.forall_mem_cons.mp h
    rw [List.flatMap_cons, List.append_assoc, List.singleton_append,
      List.splitOn_append_cons_self_of_not_mem hline, ih hlines, List.cons_append]

theorem offers_procfs (h : ShowsProcfs fs root as spaces)
    (hplain : ∀ a ∈ as, a.domain = 0 ∧ a.InRange) : (procfs fs root).Offers as spaces where
  list := by
    obtain ⟨lines, hlines, htable⟩ := h.table
    have htext := htable.readText_eq
    rw [String.toList_ofList] at htext
    have hread : (lines ++ [[]]).filterMap lineAddress? = as := by
      rw [List.filterMap_append, filterMap_lines hlines hplain]
      exact List.append_nil as
    simp only [procfs, htext, splitOn_table (newline_notMem_lines hlines), hread]
  opens a ha := opens_of_holds rfl (h.files a ha)

end Procfs

section Memory

/-- Copies of the spaces that functions have. -/
def copies (as : List Address) (spaces : Spaces) : List (Address × MemorySpace) :=
  as.filterMap fun a => (spaces a).map fun bytes => (a, ⟨a, bytes⟩)

/-- The bus that has copies of the spaces of the given functions. -/
def memory (dir : String) (as : List Address) (spaces : Spaces) : Bus :=
  .ofSpaces dir (.ok as) (copies as spaces) .notFound

variable {as : List Address} {spaces : Spaces} {a : Address}

theorem mem_copies {m : MemorySpace} :
    (a, m) ∈ copies as spaces ↔ a ∈ as ∧ ∃ bytes, spaces a = some bytes ∧ m = ⟨a, bytes⟩ := by
  simp only [copies, List.mem_filterMap, Option.map_eq_some_iff, Prod.mk.injEq]
  constructor
  · rintro ⟨b, hb, bytes, hbytes, rfl, rfl⟩
    exact ⟨hb, bytes, hbytes, rfl⟩
  · rintro ⟨ha, bytes, hbytes, rfl⟩
    exact ⟨a, ha, bytes, hbytes, rfl, rfl⟩

theorem lookup_copies (h : a ∈ as) :
    (copies as spaces).lookup a = (spaces a).map fun bytes => ⟨a, bytes⟩ := by
  cases hlookup : (copies as spaces).lookup a with
  | none =>
    cases hspace : spaces a with
    | none => rfl
    | some bytes =>
      have hne := List.lookup_eq_none_iff.mp hlookup _ (mem_copies.mpr ⟨h, bytes, hspace, rfl⟩)
      exact absurd hne (by simp)
  | some m =>
    obtain ⟨before, after, hcopies, -⟩ := List.lookup_eq_some_iff.mp hlookup
    have hmem : (a, m) ∈ copies as spaces := hcopies ▸ List.mem_append_cons_self
    obtain ⟨-, bytes, hspace, rfl⟩ := mem_copies.mp hmem
    rw [hspace]
    rfl

theorem offers_memory (dir : String) (as : List Address) (spaces : Spaces) :
    (memory dir as spaces).Offers as spaces where
  list := rfl
  opens a ha := by
    have hlookup : (copies as spaces).lookup a = _ := lookup_copies ha
    cases hspace : spaces a with
    | none =>
      rw [hspace] at hlookup
      exact ⟨.notFound, by simp only [memory, ofSpaces, hlookup, Option.map_none]⟩
    | some bytes =>
      rw [hspace] at hlookup
      simp only [Opens, memory, ofSpaces, hlookup, Option.map_some]

end Memory

end Bus

end AerWatch
