import AerWatch.Regex.Search
import Mathlib.Data.List.Infix

/-!
# Values between texts

The pattern of a field is mostly a text, a group around any number of characters of a set, and another
text. What such a pattern captures can be told without ways through the text: of the places where it
matches the leftmost one counts, and of the values there the longest one.
-/

namespace AerWatch.Regex

open AerWatch.Unicode

section Ways

namespace Path

/-- A way that went on over a text, in front of what is left then. -/
def along (p : Path) (passed rest : List Char) : Path :=
  { p with index := p.index + passed.length, before := passed.getLast?.or p.before, rest }

@[simp] theorem rest_along (p : Path) (passed rest : List Char) : (p.along passed rest).rest = rest :=
  rfl

theorem along_nil {p : Path} {cs : List Char} (h : p.rest = cs) : p.along [] cs = p := by
  subst h
  rfl

theorem along_pass (p : Path) (c : Char) (mid passed rest : List Char) :
    (p.pass c mid).along passed rest = p.along (c :: passed) rest := by
  have hindex : p.index + 1 + passed.length = p.index + (passed.length + 1) := by omega
  cases h : passed.getLast? <;> simp [along, pass, List.getLast?_cons, h, hindex]

@[simp] theorem rest_openGroup (p : Path) : p.openGroup.rest = p.rest := rfl

@[simp] theorem rest_closeGroup (p : Path) (i : Nat) : (p.closeGroup i).rest = p.rest := by
  unfold closeGroup
  split <;> rfl

theorem passText?_eq_some_iff {cs : List Char} {p q : Path} :
    p.passText? cs = some q ↔ ∃ rest, p.rest = cs ++ rest ∧ q = p.along cs rest := by
  induction cs generalizing p with
  | nil =>
    constructor
    · intro h
      exact ⟨p.rest, rfl, (Option.some.inj h).symm.trans (along_nil rfl).symm⟩
    · rintro ⟨rest, hrest, rfl⟩
      exact congrArg some (along_nil hrest).symm
  | cons c cs ih =>
    unfold passText?
    cases hrest : p.rest with
    | nil => simp
    | cons d after =>
      dsimp only
      split
      · rename_i hdc
        subst hdc
        rw [ih]
        simp only [along_pass, List.cons_append, List.cons.injEq, true_and]
        rfl
      · rename_i hne
        simp [hne]

end Path

end Ways

/-! ### Runs of characters -/

namespace Run

variable {s : CharSet} {n : Nat} {p q : Path}

/-- The ways over characters of a set pass a text of such characters. -/
theorem exists_of_mem_reach {cs : List Char} (hp : p.rest = cs) (h : q ∈ reach s n p cs) :
    ∃ passed rest, cs = passed ++ rest ∧ (∀ c ∈ passed, s.mem c) ∧ q = p.along passed rest := by
  induction cs generalizing n p with
  | nil =>
    have hq : q = p := by simpa [reach] using h
    exact ⟨[], [], rfl, by simp, hq.trans (Path.along_nil hp).symm⟩
  | cons c cs ih =>
    cases n with
    | zero =>
      have hq : q = p := by simpa [reach] using h
      exact ⟨[], c :: cs, rfl, by simp, hq.trans (Path.along_nil hp).symm⟩
    | succ n =>
      rw [reach, List.mem_cons] at h
      rcases h with rfl | h
      · exact ⟨[], c :: cs, rfl, by simp, (Path.along_nil hp).symm⟩
      · split at h
        · rename_i hc
          obtain ⟨passed, rest, rfl, hpassed, rfl⟩ := ih rfl h
          exact ⟨c :: passed, rest, rfl, List.forall_mem_cons.mpr ⟨hc, hpassed⟩,
            Path.along_pass ..⟩
        · simp at h

/-- The first way goes no further, and all others do. -/
theorem exists_reach_eq_cons {cs : List Char} (hp : p.rest = cs) :
    ∃ further, reach s n p cs = p :: further ∧ ∀ q ∈ further, ∃ passed rest, passed ≠ [] ∧
      cs = passed ++ rest ∧ (∀ c ∈ passed, s.mem c) ∧ q = p.along passed rest := by
  cases cs with
  | nil => exact ⟨[], by simp [reach], by simp⟩
  | cons c cs =>
    cases n with
    | zero => exact ⟨[], by simp [reach], by simp⟩
    | succ n =>
      refine ⟨_, rfl, fun q hq => ?_⟩
      split at hq
      · rename_i hc
        obtain ⟨passed, rest, rfl, hpassed, rfl⟩ := exists_of_mem_reach rfl hq
        exact ⟨c :: passed, rest, by simp, rfl, List.forall_mem_cons.mpr ⟨hc, hpassed⟩,
          Path.along_pass ..⟩
      · simp at hq

/-- The ways that go further than a text of the run stand behind those that do not. -/
theorem exists_reach_append {passed : List Char} (hpassed : ∀ c ∈ passed, s.mem c)
    (rest : List Char) (hp : p.rest = passed ++ rest) :
    ∃ shorter, reach s (passed.length + n) p (passed ++ rest) =
      shorter ++ reach s n (p.along passed rest) rest := by
  induction passed generalizing p with
  | nil =>
    have hnil : p.along [] rest = p := Path.along_nil hp
    exact ⟨[], by simp [hnil]⟩
  | cons c passed ih =>
    obtain ⟨hc, hpassed⟩ := List.forall_mem_cons.mp hpassed
    obtain ⟨shorter, h⟩ := ih hpassed (p := p.pass c (passed ++ rest)) rfl
    have hlength : (c :: passed).length + n = passed.length + n + 1 := by
      rw [List.length_cons]
      omega
    refine ⟨p :: shorter, ?_⟩
    rw [hlength, List.cons_append, reach, if_pos hc, h, Path.along_pass, List.cons_append]

/-- Any number of characters of a set, as many as possible. -/
def longest (s : CharSet) : Run := ⟨s, 0, none, true⟩

theorem ends_longest (s : CharSet) (p : Path) :
    (longest s).ends p = (reach s p.rest.length p p.rest).reverse := rfl

/-- The first way that can be gone on with is the longest one of those. -/
theorem findSome?_ends_longest {f : Path → Option Path} {value rest : List Char}
    (hp : p.rest = value ++ rest) (hvalue : ∀ c ∈ value, s.mem c)
    (hfound : f (p.along value rest) = some q)
    (hlonger : ∀ more after, more ≠ [] → rest = more ++ after → (∀ c ∈ more, s.mem c) →
      f ((p.along value rest).along more after) = none) :
    ((longest s).ends p).findSome? f = some q := by
  obtain ⟨shorter, hsplit⟩ := exists_reach_append (n := rest.length) hvalue rest hp
  obtain ⟨further, hcons, hfurther⟩ :=
    exists_reach_eq_cons (s := s) (n := rest.length) (p.rest_along value rest)
  have hnone : further.reverse.findSome? f = none := by
    refine List.findSome?_eq_none_iff.mpr fun r hr => ?_
    obtain ⟨more, after, hmore, hrest, hmem, rfl⟩ := hfurther r (List.mem_reverse.mp hr)
    exact hlonger more after hmore hrest hmem
  rw [ends_longest, hp, List.length_append, hsplit, hcons, List.reverse_append, List.reverse_cons,
    List.findSome?_append, List.findSome?_append, hnone]
  simp [hfound]

/-- Where no way over the run can be gone on with, none is found. -/
theorem findSome?_ends_eq_none {f : Path → Option Path}
    (h : ∀ passed rest, p.rest = passed ++ rest → (∀ c ∈ passed, s.mem c) →
      f (p.along passed rest) = none) : ((longest s).ends p).findSome? f = none := by
  refine List.findSome?_eq_none_iff.mpr fun r hr => ?_
  rw [ends_longest, List.mem_reverse] at hr
  obtain ⟨passed, rest, hrest, hpassed, rfl⟩ := exists_of_mem_reach rfl hr
  exact h passed rest hrest hpassed

end Run

/-! ### Enclosed values -/

/-- Whether a text begins with a value of characters of a set between two other texts. -/
def Encloses (before : List Char) (s : CharSet) (after cs value : List Char) : Prop :=
  (∀ c ∈ value, s.mem c) ∧ before ++ (value ++ after) <+: cs

namespace Straight

/-- The legs of a text, of which there is none for the empty one. -/
def textLegs : List Char → List Leg
  | [] => []
  | c :: cs => [.text (c :: cs)]

/-- The pattern of a value of characters of a set between two texts. -/
def enclosed (before : List Char) (s : CharSet) (after : List Char) : Straight where
  legs := [.openGroup, .text before, .openGroup, .run (.longest s), .closeGroup 1] ++
    (textLegs after ++ [.closeGroup 0])
  one_run := by cases after <;> rfl

theorem pass?_textLegs (cs : List Char) (legs : List Leg) (p : Path) :
    pass? (textLegs cs ++ legs) p = (p.passText? cs).bind (pass? legs) := by
  cases cs <;> rfl

variable {before after : List Char} {s : CharSet} {p : Path}

/-- The way on behind the value. -/
def leave? (after : List Char) (p : Path) : Option Path :=
  ((p.closeGroup 1).passText? after).map (·.closeGroup 0)

theorem pass?_enclosed (p : Path) :
    pass? (enclosed before s after).legs p =
      (p.openGroup.passText? before).bind fun q =>
        ((Run.longest s).ends q.openGroup).findSome? (leave? after) := by
  have hleave : pass? (.closeGroup 1 :: (textLegs after ++ [.closeGroup 0])) = leave? after := by
    funext q
    rw [pass?, pass?_textLegs]
    cases h : (q.closeGroup 1).passText? after <;> simp [leave?, h, pass?]
  simp only [enclosed, List.cons_append, List.nil_append, pass?, ← hleave]

theorem leave?_eq_none {p : Path} (h : ¬ after <+: p.rest) : leave? after p = none := by
  rw [leave?, Option.map_eq_none_iff, Option.eq_none_iff_forall_ne_some]
  intro q hq
  obtain ⟨rest, hrest, -⟩ := Path.passText?_eq_some_iff.mp hq
  exact h ⟨rest, by rw [← hrest, Path.rest_closeGroup]⟩

/-- There is no way past the pattern where no value is enclosed. -/
theorem pass?_enclosed_eq_none (h : ∀ value, ¬ Encloses before s after p.rest value) :
    pass? (enclosed before s after).legs p = none := by
  rw [pass?_enclosed, Option.bind_eq_none_iff]
  intro q hq
  obtain ⟨rest, hrest, rfl⟩ := Path.passText?_eq_some_iff.mp hq
  refine Run.findSome?_ends_eq_none fun value tail htail hvalue => leave?_eq_none fun hafter => ?_
  have htail' : rest = value ++ tail := htail
  refine h value ⟨hvalue, ?_⟩
  rw [Path.rest_openGroup] at hrest
  rw [hrest, htail']
  exact (List.prefix_append_right_inj _).mpr ((List.prefix_append_right_inj _).mpr hafter)

/-- The preferred way past the pattern holds the longest value in its first group. -/
theorem exists_pass?_enclosed {value rest : List Char}
    (hp : p.rest = before ++ (value ++ (after ++ rest))) (hvalue : ∀ c ∈ value, s.mem c)
    (hlongest : ∀ more, more ≠ [] → (∀ c ∈ more, s.mem c) → ¬ more ++ after <+: after ++ rest) :
    ∃ q, pass? (enclosed before s after).legs p = some q ∧
      q.groups.lookup 1 = some ⟨value ++ (after ++ rest), value.length⟩ := by
  let opened := (p.openGroup.along before (value ++ (after ++ rest))).openGroup
  let closed := (opened.along value (after ++ rest)).closeGroup 1
  have hbefore : p.openGroup.passText? before =
      some (p.openGroup.along before (value ++ (after ++ rest))) :=
    Path.passText?_eq_some_iff.mpr ⟨_, hp, rfl⟩
  have hafter : closed.passText? after = some (closed.along after rest) :=
    Path.passText?_eq_some_iff.mpr ⟨rest, rfl, rfl⟩
  have hfound : leave? after (opened.along value (after ++ rest)) =
      some ((closed.along after rest).closeGroup 0) := by
    rw [leave?, hafter, Option.map_some]
  refine ⟨(closed.along after rest).closeGroup 0, ?_, ?_⟩
  · rw [pass?_enclosed, hbefore, Option.bind_some]
    refine Run.findSome?_ends_longest rfl hvalue hfound fun more tail hmore htail hmem => ?_
    refine leave?_eq_none fun hprefix => hlongest more hmore hmem ?_
    rw [htail]
    exact (List.prefix_append_right_inj _).mpr hprefix
  · simp [closed, opened, Path.along, Path.openGroup, Path.closeGroup, List.lookup_cons]

/-- Places at which there is no way past a pattern are passed over. -/
theorem exists_findFrom?_append (t : Straight) {front tail : List Char}
    (h : ∀ b, b <:+ front → b ≠ [] → ∀ p : Path, p.rest = b ++ tail → pass? t.legs p = none)
    (index : Nat) (previous : Option Char) :
    ∃ index' previous', t.findFrom? index previous (front ++ tail) =
      t.findFrom? index' previous' tail := by
  induction front generalizing index previous with
  | nil => exact ⟨index, previous, rfl⟩
  | cons c front ih =>
    have hhere := h (c :: front) List.suffix_rfl (by simp)
      { index, before := previous, rest := c :: front ++ tail } rfl
    obtain ⟨index', previous', hrest⟩ :=
      ih (fun b hb => h b (hb.trans (List.suffix_cons ..))) (index + 1) (some c)
    refine ⟨index', previous', ?_⟩
    rw [← hrest, List.cons_append, findFrom?]
    rw [List.cons_append] at hhere
    simp only [hhere]

end Straight

/-- The pattern captures the longest value at the leftmost place where it matches. -/
theorem group?_find?_enclosed {before after front value rest : List Char} {s : CharSet} {text : String}
    (htext : text.toList = front ++ (before ++ (value ++ (after ++ rest))))
    (hvalue : ∀ c ∈ value, s.mem c)
    (hleftmost : ∀ b, b <:+ front → b ≠ [] → ∀ v,
      ¬ Encloses before s after (b ++ (before ++ (value ++ (after ++ rest)))) v)
    (hlongest : ∀ more, more ≠ [] → (∀ c ∈ more, s.mem c) → ¬ more ++ after <+: after ++ rest) :
    ((Regex.straight (.enclosed before s after)).find? text).bind (·.group? 1) =
      some (String.ofList value) := by
  obtain ⟨index, previous, hskip⟩ := Straight.exists_findFrom?_append (.enclosed before s after)
    (fun b hb hne p hp => Straight.pass?_enclosed_eq_none (hp ▸ hleftmost b hb hne)) 0 none
  obtain ⟨q, hpass, hgroup⟩ := Straight.exists_pass?_enclosed
    (p := { index, before := previous, rest := before ++ (value ++ (after ++ rest)) }) rfl hvalue
    hlongest
  have hfind : (Straight.enclosed before s after).find? text.toList = some q := by
    rw [Straight.find?, htext, hskip]
    unfold Straight.findFrom?
    simp only [hpass]
  simp [Regex.find?, hfind, Match.group?, hgroup, Capture.chars]

/-! ### Places of words -/

section Words

/-- Whether a word begins nowhere in a text behind which another one stands. -/
def Avoids (word text behind : List Char) : Prop :=
  ∀ b, b <:+ text → b ≠ [] → ¬ word <+: b ++ behind

/-- Whether a text can not hold the rest of a word that begins in front of it. -/
def StartsApart (word text : List Char) : Prop :=
  ∀ k < word.length, 0 < k → ¬ word.drop k <+: text ∧ ¬ text <+: word.drop k

/-- Whether a text neither holds a word nor ends with the beginning of it. -/
def EndsApart (word text : List Char) : Prop :=
  ¬ word <:+: text ∧ ∀ k < word.length, 0 < k → ¬ word.take k <:+ text

instance (word text : List Char) : Decidable (StartsApart word text) :=
  inferInstanceAs (Decidable (∀ k < word.length, 0 < k → _))

instance (word text : List Char) : Decidable (EndsApart word text) :=
  inferInstanceAs (Decidable (¬ _ ∧ ∀ k < word.length, 0 < k → _))

/-- Whether a word and a text neither hold nor overlap one another. -/
def StandsApart (word text : List Char) : Prop := StartsApart word text ∧ EndsApart word text

instance (word text : List Char) : Decidable (StandsApart word text) :=
  inferInstanceAs (Decidable (_ ∧ _))

variable {word text behind : List Char}

/-- A word at a place stands in the text up to another place, or reaches beyond it. -/
theorem prefix_append_cases (h : word <+: text ++ behind) :
    word <+: text ∨ ∃ rest, rest ≠ [] ∧ word = text ++ rest ∧ rest <+: behind := by
  obtain ⟨after, h⟩ := h
  rcases List.append_eq_append_iff.mp h with ⟨x, rfl, -⟩ | ⟨x, rfl, rfl⟩
  · exact .inl (List.prefix_append ..)
  · cases x with
    | nil => exact .inl (by simp)
    | cons c x => exact .inr ⟨c :: x, by simp, rfl, List.prefix_append ..⟩

theorem Avoids.append {first second : List Char} (hfirst : Avoids word first (second ++ behind))
    (hsecond : Avoids word second behind) : Avoids word (first ++ second) behind := by
  rintro b ⟨a, hab⟩ hne
  rcases List.append_eq_append_iff.mp hab with ⟨x, rfl, rfl⟩ | ⟨x, rfl, rfl⟩
  · cases x with
    | nil => simpa using hsecond second List.suffix_rfl (by simpa using hne)
    | cons c x =>
      rw [List.append_assoc]
      exact hfirst (c :: x) (List.suffix_append ..) (by simp)
  · exact hsecond b (List.suffix_append ..) hne

theorem avoids_of_head {c : Char} (h : c ∉ text) : Avoids (c :: word) text behind := by
  intro b hb hne hprefix
  cases b with
  | nil => exact hne rfl
  | cons d b =>
    obtain ⟨rfl, -⟩ := List.cons_prefix_cons.mp hprefix
    exact h (hb.mem List.mem_cons_self)

theorem StartsApart.avoids {before : List Char} (h : StartsApart word text)
    (hbefore : ¬ word <:+: before) : Avoids word before (text ++ behind) := by
  intro b hb hne hprefix
  rcases prefix_append_cases hprefix with hin | ⟨rest, hrest, rfl, hover⟩
  · exact hbefore (hin.isInfix.trans hb.isInfix)
  · have hk := h b.length (by simpa using List.length_pos_iff.mpr hrest)
      (List.length_pos_iff.mpr hne)
    rw [List.drop_left] at hk
    exact (List.prefix_or_prefix_of_prefix hover (List.prefix_append ..)).elim hk.1 hk.2

theorem EndsApart.avoids (h : EndsApart word text) : Avoids word text behind := by
  intro b hb hne hprefix
  rcases prefix_append_cases hprefix with hin | ⟨rest, hrest, rfl, -⟩
  · exact h.1 (hin.isInfix.trans hb.isInfix)
  · have hk := h.2 b.length (by simpa using List.length_pos_iff.mpr hrest)
      (List.length_pos_iff.mpr hne)
    rw [List.take_left] at hk
    exact hk hb

theorem StandsApart.avoids {before : List Char} (h : StandsApart word text)
    (hbefore : ¬ word <:+: before) : Avoids word (before ++ text) behind :=
  (h.1.avoids hbefore).append h.2.avoids

/-- A place of a word that the text in front does not hold stands behind all of that text. -/
theorem Avoids.prefix_of_eq {front rest tail : List Char} (h : Avoids word text behind)
    (hrest : rest <:+ text) (heq : front ++ (word ++ tail) = rest ++ behind) : rest <+: front := by
  rcases List.append_eq_append_iff.mp heq with ⟨x, rfl, hx⟩ | ⟨x, rfl, -⟩
  · cases x with
    | nil => simp
    | cons c x =>
      exact absurd ⟨tail, hx⟩ (h (c :: x) ((List.suffix_append ..).trans hrest) (by simp))
  · exact List.prefix_append ..

/-- No value is enclosed where the text in front of it does not stand. -/
theorem not_encloses_of_avoids {before after front tail : List Char} {s : CharSet}
    (h : Avoids before front tail) (b : List Char) (hb : b <:+ front) (hne : b ≠ [])
    (v : List Char) : ¬ Encloses before s after (b ++ tail) v :=
  fun hv => h b hb hne ((List.prefix_append ..).trans hv.2)

end Words

/-! ### Later places -/

section LaterPlaces

/-- Two characters do not stand side by side where one is missing up to a place and the other from
there on. -/
theorem pair_not_infix {a b : Char} {front behind : List Char} (ha : a ∉ front) (hb : b ∉ behind) :
    ¬ [a, b] <:+: front ++ behind := by
  rintro ⟨s, t, h⟩
  rw [List.append_assoc] at h
  rcases List.append_eq_append_iff.mp h with ⟨x, rfl, hx⟩ | ⟨x, rfl, rfl⟩
  · cases x with
    | nil => exact hb (by simp [← hx.trans (List.nil_append _)])
    | cons d x =>
      obtain ⟨rfl, -⟩ := List.cons_eq_cons.mp hx
      exact ha (by simp)
  · exact hb (by simp)

/-- A later place of a text in itself has the last two characters of it behind the first of these. -/
theorem pair_infix_of_later {a b : Char} (text : List Char) {more rest : List Char} (hmore : more ≠ [])
    (h : more ++ (text ++ [a, b]) <+: (text ++ [a, b]) ++ rest) : [a, b] <:+: b :: rest := by
  obtain ⟨t, h⟩ := h
  have hsplit : (more ++ text) ++ ([a, b] ++ t) = (text ++ [a]) ++ (b :: rest) := by simpa using h
  have hpos := List.length_pos_iff.mpr hmore
  rcases List.append_eq_append_iff.mp hsplit with ⟨x, hx, hrest⟩ | ⟨x, -, hrest⟩
  · have hlength := congrArg List.length hx
    simp only [List.length_append, List.length_singleton] at hlength
    obtain rfl : x = [] := List.length_eq_zero_iff.mp (by omega)
    exact ⟨[], t, by simpa using hrest⟩
  · exact ⟨x, t, by simp [hrest]⟩

/-- A text that begins with a character and ends no later than what follows an earlier place of it
holds the character. -/
theorem mem_of_later {c : Char} {value text front rest : List Char} (hfront : front ≠ [])
    (hlength : text.length ≤ rest.length) (h : c :: (value ++ text) = front ++ (c :: rest)) :
    c ∈ value := by
  obtain ⟨d, front, rfl⟩ := List.exists_cons_of_ne_nil hfront
  obtain ⟨-, h⟩ := List.cons_eq_cons.mp h
  rcases List.append_eq_append_iff.mp h with ⟨x, rfl, hx⟩ | ⟨x, rfl, hx⟩
  · have := congrArg List.length hx
    simp only [List.length_append, List.length_cons] at this
    omega
  · cases x with
    | nil =>
      have := congrArg List.length hx
      simp only [List.nil_append, List.length_cons] at this
      omega
    | cons e x =>
      obtain ⟨rfl, -⟩ := List.cons_eq_cons.mp hx
      simp

end LaterPlaces

end AerWatch.Regex
