import AerWatch.Proofs.Json.Grammar
import Mathlib.Tactic.SplitIfs

/-!
# Numerals of a JSON document

A numeral is read to its end, whatever comes behind it, and what is made of it does not depend on what
comes behind. An integer that fits 64 bits is read as the number that its digits write.
-/

namespace AerWatch.Json

section Digits

/-- A text that does not begin with a digit. -/
def EndsDigits (rest : List Char) : Prop := ∀ c ∈ rest.head?, c.isDigit = false

variable {ds rest : List Char}

theorem digitCount_append (hds : ∀ c ∈ ds, c.isDigit) (hrest : EndsDigits rest) :
    digitCount (ds ++ rest) = ds.length := by
  have htail : rest.takeWhile Char.isDigit = [] := by
    cases rest with
    | nil => rfl
    | cons c rest => simp [hrest c rfl]
  rw [digitCount, List.takeWhile_append_of_pos hds, htail, List.append_nil]

theorem digitCount_eq_zero (hrest : EndsDigits rest) : digitCount rest = 0 :=
  digitCount_append (List.forall_mem_nil _) hrest

theorem takeDigits_of_endsDigits (bound n : Nat) (hrest : EndsDigits rest) :
    takeDigits bound n rest = (n, rest) := by
  cases rest with
  | nil => rfl
  | cons c rest => simp [takeDigits, decimal?, hrest c rfl]

/-- Which digits are gathered does not depend on what comes behind the last one. -/
theorem exists_takeDigits (bound n : Nat) (hds : ∀ c ∈ ds, c.isDigit) :
    ∃ m left, (∀ c ∈ left, c.isDigit) ∧
      ∀ rest, EndsDigits rest → takeDigits bound n (ds ++ rest) = (m, left ++ rest) := by
  induction ds generalizing n with
  | nil => exact ⟨n, [], hds, fun rest hrest => takeDigits_of_endsDigits bound n hrest⟩
  | cons c ds ih =>
    obtain ⟨hc, hmore⟩ := List.forall_mem_cons.mp hds
    by_cases hfits : n * 10 + (c.toNat - 48) < bound
    · obtain ⟨m, left, hleft, htake⟩ := ih (n * 10 + (c.toNat - 48)) hmore
      refine ⟨m, left, hleft, fun rest hrest => ?_⟩
      simp only [List.cons_append, takeDigits, decimal?, hc, if_true, if_pos hfits, htake rest hrest]
    · refine ⟨n, c :: ds, hds, fun rest _ => ?_⟩
      simp only [List.cons_append, takeDigits, decimal?, hc, if_true, if_neg hfits]

theorem le_ofDigitChars (n : Nat) (ds : List Char) : n ≤ Nat.ofDigitChars 10 ds n := by
  induction ds generalizing n with
  | nil => exact Nat.le_refl n
  | cons c ds ih =>
    have hstep : n ≤ 10 * n + (c.toNat - '0'.toNat) := by omega
    rw [Nat.ofDigitChars_cons]
    exact Nat.le_trans hstep (ih _)

/-- Digits whose number fits are all gathered. -/
theorem takeDigits_of_lt {bound n : Nat} (hds : ∀ c ∈ ds, c.isDigit) (hrest : EndsDigits rest)
    (hfits : Nat.ofDigitChars 10 ds n < bound) :
    takeDigits bound n (ds ++ rest) = (Nat.ofDigitChars 10 ds n, rest) := by
  induction ds generalizing n with
  | nil => exact takeDigits_of_endsDigits bound n hrest
  | cons c ds ih =>
    obtain ⟨hc, hmore⟩ := List.forall_mem_cons.mp hds
    have hstep : 10 * n + (c.toNat - '0'.toNat) = n * 10 + (c.toNat - 48) := by
      rw [Nat.mul_comm]
      rfl
    rw [Nat.ofDigitChars_cons, hstep] at hfits ⊢
    have hlt : n * 10 + (c.toNat - 48) < bound := Nat.lt_of_le_of_lt (le_ofDigitChars _ ds) hfits
    simp only [List.cons_append, takeDigits, decimal?, hc, if_true, if_pos hlt]
    exact ih hmore hfits

/-- A number but zero is written without a zero in front. -/
theorem toDigits_eq_cons {n : Nat} (hn : n ≠ 0) : ∃ c cs, Nat.toDigits 10 n = c :: cs ∧ c ≠ '0' := by
  induction n using Nat.strongRecOn with
  | ind n ih =>
    rw [Nat.toDigits_eq_if (by decide)]
    split_ifs with hlt
    · exact ⟨n.digitChar, [], rfl, fun h => hn (Nat.digitChar_eq_zero.mp h)⟩
    · obtain ⟨c, cs, hcs, hc⟩ := ih (n / 10) (by omega) (by omega)
      exact ⟨c, cs ++ [(n % 10).digitChar], by rw [hcs, List.cons_append], hc⟩

theorem IsWhole.exists_digit {cs : List Char} (h : IsWhole cs) :
    ∃ c ds, cs = c :: ds ∧ c.isDigit := by
  cases h with
  | zero => exact ⟨'0', [], rfl, rfl⟩
  | digits _ hdigits => exact ⟨_, _, rfl, hdigits _ List.mem_cons_self⟩

end Digits

namespace Number

/-- A text that does not go on with a numeral. -/
def Ends (rest : List Char) : Prop :=
  ∀ c ∈ rest.head?, c.isDigit = false ∧ c ≠ '.' ∧ c ≠ 'e' ∧ c ≠ 'E'

theorem Ends.endsDigits {rest : List Char} (h : Ends rest) : EndsDigits rest := fun c hc => (h c hc).1

/-- A reader takes a text in full and makes the same of it whatever comes behind. -/
def Settles (read : List Char → Option (Number × List Char)) (cs : List Char) : Prop :=
  ∃ n : Option Number, ∀ rest, Ends rest → read (cs ++ rest) = n.map fun n => (n, rest)

/-- A reader settles a text when another one does to which it hands the text over. -/
theorem Settles.of_eq {read read' : List Char → Option (Number × List Char)} {cs ds : List Char}
    (h : Settles read' ds) (heq : ∀ rest, Ends rest → read (cs ++ rest) = read' (ds ++ rest)) :
    Settles read cs := by
  obtain ⟨n, hn⟩ := h
  exact ⟨n, fun rest hrest => (heq rest hrest).trans (hn rest hrest)⟩

section Parts

variable (positive : Bool) (significand : Nat) (exponent : Int) {cs ds : List Char}

theorem settles_ofParts? : Settles (ofParts? positive significand exponent) [] := by
  refine ⟨(Double.ofParts? positive (.ofNat significand) exponent).map .double, fun rest _ => ?_⟩
  rw [List.nil_append, ofParts?, Option.map_map]
  rfl

/-- Reads the digits of an exponent whose sign was read. -/
def readPower? (up : Bool) (digits : List Char) : Option (Number × List Char) :=
  let count := digitCount digits
  if count = 0 then none
  else
    let (e, after) := takeDigits exponentEnd 0 digits
    if digitCount after = 0 then
      ofParts? positive significand (if up then exponent + e else exponent - e) after
    else if significand ≠ 0 ∧ up then none
    else ofParts? positive 0 0 (digits.drop count)

theorem settles_readPower? (up : Bool) (hds : IsDigits ds) :
    Settles (readPower? positive significand exponent up) ds := by
  obtain ⟨e, left, hleft, htake⟩ := exists_takeDigits exponentEnd 0 hds.2
  have hcount (rest : List Char) (hrest : Ends rest) : digitCount (ds ++ rest) = ds.length :=
    digitCount_append hds.2 hrest.endsDigits
  have hafter (rest : List Char) (hrest : Ends rest) : digitCount (left ++ rest) = left.length :=
    digitCount_append hleft hrest.endsDigits
  have hne : ds.length ≠ 0 := fun h => hds.1 (List.length_eq_zero_iff.mp h)
  -- digits may be left over, and then the exponent is beyond all bounds
  by_cases hall : left = []
  · subst hall
    refine (settles_ofParts? positive significand (if up then exponent + e else exponent - e)).of_eq
      fun rest hrest => ?_
    simp only [readPower?, hcount rest hrest, if_neg hne, htake rest hrest.endsDigits,
      hafter rest hrest, List.length_nil, if_true]
  · have hsome : left.length ≠ 0 := fun h => hall (List.length_eq_zero_iff.mp h)
    by_cases hlarge : significand ≠ 0 ∧ up
    · refine ⟨none, fun rest hrest => ?_⟩
      simp only [readPower?, hcount rest hrest, if_neg hne, htake rest hrest.endsDigits,
        hafter rest hrest, if_neg hsome, if_pos hlarge, Option.map_none]
    · refine (settles_ofParts? positive 0 0).of_eq fun rest hrest => ?_
      simp only [readPower?, hcount rest hrest, if_neg hne, htake rest hrest.endsDigits,
        hafter rest hrest, if_neg hsome, if_neg hlarge, List.drop_left, List.nil_append]

theorem readExponent?_plus (cs : List Char) :
    readExponent? positive significand exponent ('+' :: cs) =
      readPower? positive significand exponent true cs := rfl

theorem readExponent?_minus (cs : List Char) :
    readExponent? positive significand exponent ('-' :: cs) =
      readPower? positive significand exponent false cs := rfl

theorem readExponent?_digit {c : Char} (hc : c.isDigit) (cs : List Char) :
    readExponent? positive significand exponent (c :: cs) =
      readPower? positive significand exponent true (c :: cs) := by
  unfold readExponent?
  split
  next up digits hsign =>
  split at hsign
  · next heq => exact absurd ((List.cons.inj heq).1 ▸ hc) (by decide)
  · next heq => exact absurd ((List.cons.inj heq).1 ▸ hc) (by decide)
  · obtain ⟨rfl, rfl⟩ := Prod.mk.inj hsign
    rfl

theorem settles_readExponent? {sign : List Char} (hsign : sign = [] ∨ sign = ['+'] ∨ sign = ['-'])
    (hds : IsDigits ds) : Settles (readExponent? positive significand exponent) (sign ++ ds) := by
  rcases hsign with rfl | rfl | rfl
  · refine (settles_readPower? positive significand exponent true hds).of_eq fun rest _ => ?_
    obtain ⟨hne, hdigits⟩ := hds
    match ds, hne with
    | c :: cs, _ => exact readExponent?_digit _ _ _ (hdigits c List.mem_cons_self) _
  · exact (settles_readPower? positive significand exponent true hds).of_eq
      fun rest _ => readExponent?_plus _ _ _ (ds ++ rest)
  · exact (settles_readPower? positive significand exponent false hds).of_eq
      fun rest _ => readExponent?_minus _ _ _ (ds ++ rest)

/-- A numeral goes on neither with a digit nor with a point where an exponent may stand. -/
theorem head_exponent (hcs : IsExponent cs) {rest : List Char} (hrest : Ends rest) :
    ∀ c ∈ (cs ++ rest).head?, c.isDigit = false ∧ c ≠ '.' := by
  intro c hc
  cases hcs with
  | none => exact ⟨(hrest c hc).1, (hrest c hc).2.1⟩
  | some hmark _ _ =>
    obtain rfl := Option.some.inj hc
    rcases hmark with rfl | rfl <;> decide

theorem readScaled?_of_ends {rest : List Char} (hrest : Ends rest) :
    readScaled? positive significand exponent rest = ofParts? positive significand exponent rest := by
  cases rest with
  | nil => rfl
  | cons c rest =>
    obtain ⟨_, _, hlower, hupper⟩ := hrest c rfl
    unfold readScaled?
    split
    · next heq => exact absurd (List.cons.inj heq).1 hlower
    · next heq => exact absurd (List.cons.inj heq).1 hupper
    · rfl

theorem settles_readScaled? (hcs : IsExponent cs) :
    Settles (readScaled? positive significand exponent) cs := by
  cases hcs with
  | none =>
    exact (settles_ofParts? positive significand exponent).of_eq
      fun rest hrest => readScaled?_of_ends _ _ _ hrest
  | some hmark hsign hds =>
    rcases hmark with rfl | rfl
    · exact settles_readExponent? positive significand exponent hsign hds
    · exact settles_readExponent? positive significand exponent hsign hds

theorem settles_readFraction? (hds : IsDigits ds) (hcs : IsExponent cs) :
    Settles (readFraction? positive significand exponent) (ds ++ cs) := by
  obtain ⟨m, left, hleft, htake⟩ := exists_takeDigits significandEnd significand hds.2
  have hne : ds.length ≠ 0 := fun h => hds.1 (List.length_eq_zero_iff.mp h)
  refine (settles_readScaled? positive m (exponent - ↑(ds.length - left.length)) hcs).of_eq
    fun rest hrest => ?_
  have hends : EndsDigits (cs ++ rest) := fun c hc => (head_exponent hcs hrest c hc).1
  rw [List.append_assoc]
  simp only [readFraction?, digitCount_append hds.2 hends, if_neg hne, htake _ hends,
    digitCount_append hleft hends, List.drop_left]

/-- A numeral goes on with no digit where a fraction may stand. -/
theorem endsDigits_fraction {fraction : List Char} (hfraction : IsFraction fraction)
    (hcs : IsExponent cs) {rest : List Char} (hrest : Ends rest) :
    EndsDigits (fraction ++ cs ++ rest) := by
  intro c hc
  cases hfraction with
  | none => exact (head_exponent hcs hrest c hc).1
  | some hds =>
    obtain rfl := Option.some.inj hc
    rfl

/-- Reads what follows digits that did not all fit. -/
def readRest? (cs : List Char) : Option (Number × List Char) :=
  match cs with
  | '.' :: rest => readFraction? positive significand exponent rest
  | rest => readScaled? positive significand exponent rest

theorem settles_readRest? {fraction : List Char} (hfraction : IsFraction fraction)
    (hcs : IsExponent cs) : Settles (readRest? positive significand exponent) (fraction ++ cs) := by
  cases hfraction with
  | none =>
    refine (settles_readScaled? positive significand exponent hcs).of_eq fun rest hrest => ?_
    have hhead := head_exponent hcs hrest
    rw [List.nil_append]
    generalize cs ++ rest = tail at hhead
    cases tail with
    | nil => rfl
    | cons c tail =>
      unfold readRest?
      split
      · next heq => exact absurd (List.cons.inj heq).1 (hhead c rfl).2
      · rfl
  | some hds => exact settles_readFraction? positive significand exponent hds hcs

/-- The number of digits that nothing follows. -/
def plain? : Option Number :=
  if positive then some (.integer significand)
  else if significand = 0 ∨ 0x8000000000000000 < significand then
    (Double.ofParts? false (.ofNat significand) 0).map .double
  else some (.integer (-significand))

theorem readTail?_of_ends {rest : List Char} (hrest : Ends rest) :
    readTail? positive significand rest = (plain? positive significand).map fun n => (n, rest) := by
  have hplain : (if positive then some (.integer significand, rest)
      else if significand = 0 ∨ 0x8000000000000000 < significand then
        ofParts? false significand 0 rest
      else some (.integer (-significand), rest)) =
        (plain? positive significand).map fun n => (n, rest) := by
    unfold plain? ofParts?
    split_ifs
    · rfl
    · rw [Option.map_map]
      rfl
    · rfl
  cases rest with
  | nil => exact hplain
  | cons c rest =>
    obtain ⟨_, hpoint, hlower, hupper⟩ := hrest c rfl
    unfold readTail?
    split
    · next heq => exact absurd (List.cons.inj heq).1 hpoint
    · next heq => exact absurd (List.cons.inj heq).1 hlower
    · next heq => exact absurd (List.cons.inj heq).1 hupper
    · exact hplain

theorem settles_readTail? {fraction : List Char} (hfraction : IsFraction fraction)
    (hcs : IsExponent cs) : Settles (readTail? positive significand) (fraction ++ cs) := by
  cases hfraction with
  | none =>
    cases hcs with
    | none => exact ⟨plain? positive significand, fun rest => readTail?_of_ends _ _⟩
    | some hmark hsign hds =>
      rcases hmark with rfl | rfl
      · exact settles_readExponent? positive significand 0 hsign hds
      · exact settles_readExponent? positive significand 0 hsign hds
  | some hds => exact settles_readFraction? positive significand 0 hds hcs

end Parts

section Whole

variable (positive : Bool) {whole fraction exponent : List Char}

/-- Reads digits of which the first one is no zero. -/
theorem readUnsigned?_digit {c : Char} (hzero : c ≠ '0') (cs : List Char) :
    readUnsigned? positive (c :: cs) =
      let count := digitCount (c :: cs)
      if count = 0 then none
      else
        let (n, after) := takeDigits significandEnd 0 (c :: cs)
        let left := digitCount after
        if left = 0 then readTail? positive n after
        else readRest? positive n left (after.drop left) := by
  unfold readUnsigned?
  split
  · next heq => exact absurd (List.cons.inj heq).1 hzero
  · rfl

theorem settles_readUnsigned? (hwhole : IsWhole whole) (hfraction : IsFraction fraction)
    (hexponent : IsExponent exponent) :
    Settles (readUnsigned? positive) (whole ++ (fraction ++ exponent)) := by
  have hends (rest : List Char) (hrest : Ends rest) : EndsDigits (fraction ++ exponent ++ rest) :=
    endsDigits_fraction hfraction hexponent hrest
  cases hwhole with
  | zero =>
    refine (settles_readTail? positive 0 hfraction hexponent).of_eq fun rest hrest => ?_
    exact if_pos (digitCount_eq_zero (hends rest hrest))
  | @digits c cs hzero hdigits =>
    obtain ⟨m, left, hleft, htake⟩ := exists_takeDigits significandEnd 0 hdigits
    have hcount (rest : List Char) (hrest : Ends rest) :
        digitCount (c :: cs ++ (fraction ++ exponent ++ rest)) ≠ 0 := by
      rw [digitCount_append hdigits (hends rest hrest)]
      exact nofun
    have hread (rest : List Char) (hrest : Ends rest) :
        readUnsigned? positive (c :: cs ++ (fraction ++ exponent) ++ rest) =
          if left.length = 0 then readTail? positive m (left ++ (fraction ++ exponent ++ rest))
          else readRest? positive m left.length (fraction ++ exponent ++ rest) := by
      rw [List.append_assoc, List.cons_append, readUnsigned?_digit positive hzero,
        ← List.cons_append]
      simp only [if_neg (hcount rest hrest), htake _ (hends rest hrest),
        digitCount_append hleft (hends rest hrest), List.drop_left]
    -- digits that no longer fit stand for powers of ten
    by_cases hall : left = []
    · subst hall
      exact (settles_readTail? positive m hfraction hexponent).of_eq hread
    · have hsome : left.length ≠ 0 := fun h => hall (List.length_eq_zero_iff.mp h)
      refine (settles_readRest? positive m left.length hfraction hexponent).of_eq fun rest hrest => ?_
      rw [hread rest hrest, if_neg hsome]

end Whole

theorem read?_digit {c : Char} (hc : c.isDigit) (cs : List Char) :
    read? (c :: cs) = readUnsigned? true (c :: cs) := by
  unfold read?
  split
  · next heq => exact absurd ((List.cons.inj heq).1 ▸ hc) (by decide)
  · rfl

/-- A numeral is read in full. -/
theorem settles_read? {cs : List Char} (hcs : IsNumeral cs) : Settles read? cs := by
  obtain ⟨hsign, hwhole, hfraction, hexponent⟩ := hcs
  rcases hsign with rfl | rfl
  · obtain ⟨c, ds, rfl, hc⟩ := hwhole.exists_digit
    exact (settles_readUnsigned? true hwhole hfraction hexponent).of_eq fun _ _ => read?_digit hc _
  · exact (settles_readUnsigned? false hwhole hfraction hexponent).of_eq fun _ _ => rfl

/-- An integer that fits 64 bits is read as the number that its digits write. -/
theorem read?_toDigits {n : Nat} (hn : n < UInt64.size) {rest : List Char} (hrest : Ends rest) :
    read? (Nat.toDigits 10 n ++ rest) = some (.integer n, rest) := by
  have hdigits : ∀ c ∈ Nat.toDigits 10 n, c.isDigit :=
    fun c hc => Nat.isDigit_of_mem_toDigits (by decide) (by decide) hc
  have hvalue : Nat.ofDigitChars 10 (Nat.toDigits 10 n) 0 = n :=
    Nat.ofDigitChars_toDigits (by decide) (by decide)
  by_cases hzero : n = 0
  · subst hzero
    have htail : read? ('0' :: rest) = readTail? true 0 rest :=
      if_pos (digitCount_eq_zero hrest.endsDigits)
    rw [Nat.toDigits_zero, List.singleton_append, htail, readTail?_of_ends _ _ hrest]
    rfl
  · have hcount : digitCount (Nat.toDigits 10 n ++ rest) ≠ 0 := by
      rw [digitCount_append hdigits hrest.endsDigits]
      exact Nat.pos_iff_ne_zero.mp Nat.length_toDigits_pos
    have htake : takeDigits significandEnd 0 (Nat.toDigits 10 n ++ rest) = (n, rest) := by
      rw [takeDigits_of_lt hdigits hrest.endsDigits (hvalue.symm ▸ hn), hvalue]
    obtain ⟨c, cs, hcs, hc⟩ := toDigits_eq_cons hzero
    rw [hcs] at hdigits hcount htake ⊢
    rw [List.cons_append] at hcount htake ⊢
    rw [read?_digit (hdigits c List.mem_cons_self), readUnsigned?_digit true hc]
    simp only [if_neg hcount, htake, digitCount_eq_zero hrest.endsDigits, if_true]
    rw [readTail?_of_ends _ _ hrest]
    rfl

/-- What is read of a numeral, and that all of it is. -/
theorem read?_numeral {n : Option Number} {cs : List Char} (h : IsNumeralOf n cs)
    {rest : List Char} (hrest : Ends rest) :
    read? (cs ++ rest) = n.map fun n => (n, rest) := by
  cases h with
  | integer n hn => exact read?_toDigits hn hrest
  | other hcs _ =>
    obtain ⟨n, hn⟩ := settles_read? hcs
    have hall : read? cs = n.map fun n => (n, []) := by
      rw [← hn [] nofun, List.append_nil]
    rw [hn rest hrest, hall, Option.map_map]
    cases n <;> rfl

end Number

end AerWatch.Json
