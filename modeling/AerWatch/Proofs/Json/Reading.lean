import AerWatch.Proofs.Json.Numerals
import AerWatch.Proofs.Json.Strings

/-!
# Reading what is written

The tokens of a written form of a value are the tokens of the value. A numeral beyond all doubles is
where reading ends, and the text is then found to be malformed.
-/

namespace AerWatch.Json

/-- Reading on from a place gives tokens and comes to another place, unless one of the tokens says that
the text is malformed: then this is found somewhere. -/
def Leads (place : Place) (cs : List Char) (new : List Token) (next : Place) (rest : List Char) :
    Prop :=
  ∀ fuel, cs.length < fuel → ∃ left, rest.length < left ∧
    (tokensFrom fuel place cs = new ++ tokensFrom left next rest ∨
      .malformed ∈ new ∧ .malformed ∈ tokensFrom fuel place cs)

namespace Leads

variable {place mid next : Place} {cs ds rest : List Char} {new more : List Token}

theorem trans (h : Leads place cs new mid ds) (hmore : Leads mid ds more next rest) :
    Leads place cs (new ++ more) next rest := by
  intro fuel hfuel
  obtain ⟨inner, hinner, hcs⟩ := h fuel hfuel
  obtain ⟨left, hleft, hds⟩ := hmore inner hinner
  -- what was found malformed before the middle is still found
  refine ⟨left, hleft, ?_⟩
  rcases hcs with hcs | ⟨hnew, hcs⟩
  · rcases hds with hds | ⟨hmore, hds⟩
    · left
      rw [hcs, hds, List.append_assoc]
    · right
      exact ⟨List.mem_append_right _ hmore, hcs ▸ List.mem_append_right _ hds⟩
  · right
    exact ⟨List.mem_append_left _ hnew, hcs⟩

/-- One step. -/
theorem of_advance? {c : Char} {t : Option Token} (hgap : isGap c = false)
    (h : advance? place (c :: cs) = some (t, next, rest)) (hshort : rest.length ≤ cs.length) :
    Leads place (c :: cs) t.toList next rest := by
  intro fuel hfuel
  obtain ⟨left, rfl⟩ : ∃ left, fuel = left + 1 := ⟨fuel - 1, by omega⟩
  refine ⟨left, by simp only [List.length_cons] at hfuel; omega, .inl ?_⟩
  rw [tokensFrom, List.dropWhile_cons_of_neg (by simp [hgap])]
  simp only [h]
  cases t <;> rfl

/-- A place from which reading does not go on. -/
theorem of_advance?_eq_none {c : Char} (hgap : isGap c = false) (h : advance? place (c :: cs) = none)
    (hnew : .malformed ∈ new) : Leads place (c :: cs) new next rest := by
  intro fuel hfuel
  obtain ⟨left, rfl⟩ : ∃ left, fuel = left + 1 := ⟨fuel - 1, by omega⟩
  refine ⟨rest.length + 1, Nat.lt_succ_self _, .inr ⟨hnew, ?_⟩⟩
  rw [tokensFrom, List.dropWhile_cons_of_neg (by simp [hgap])]
  simp only [h]
  exact List.mem_singleton_self _

end Leads

section Blanks

variable {gap : List Char} (hgap : IsBlank gap)
include hgap

theorem isGap_of_isBlank : ∀ c ∈ gap, isGap c = true := by
  intro c hc
  rcases hgap c hc with rfl | rfl | rfl | rfl <;> rfl

theorem tokensFrom_blank (fuel : Nat) (place : Place) (cs : List Char) :
    tokensFrom fuel place (gap ++ cs) = tokensFrom fuel place cs := by
  cases fuel with
  | zero => rfl
  | succ fuel =>
    have hdrop : (gap ++ cs).dropWhile isGap = cs.dropWhile isGap :=
      List.dropWhile_append_of_pos (isGap_of_isBlank hgap)
    rw [tokensFrom, tokensFrom, hdrop]

variable {place next : Place} {cs rest : List Char} {new : List Token}

theorem Leads.blank_left (h : Leads place cs new next rest) :
    Leads place (gap ++ cs) new next rest := by
  intro fuel hfuel
  rw [List.length_append] at hfuel
  rw [tokensFrom_blank hgap]
  exact h fuel (by omega)

theorem Leads.blank_right (h : Leads place cs new next (gap ++ rest)) :
    Leads place cs new next rest := by
  intro fuel hfuel
  obtain ⟨left, hleft, hread⟩ := h fuel hfuel
  rw [tokensFrom_blank hgap] at hread
  rw [List.length_append] at hleft
  exact ⟨left, by omega, hread⟩

theorem ends_blank (hrest : Number.Ends rest) : Number.Ends (gap ++ rest) := by
  intro c hc
  cases gap with
  | nil => exact hrest c hc
  | cons d gap =>
    obtain rfl := Option.some.inj hc
    rcases hgap d List.mem_cons_self with rfl | rfl | rfl | rfl <;> decide

end Blanks

section Values

/-- A value may come next. -/
def Expect.AllowsValue (e : Expect) : Prop := e = .value ∨ e = .first

/-- A key may come next. -/
def Expect.AllowsKey (e : Expect) : Prop := e = .firstKey ∨ e = .key

variable {e : Expect} {enclosing : List Enclosure} {cs text rest : List Char}

theorem advance?_value (he : e.AllowsValue) {c : Char} (hc : c ≠ ']') :
    advance? ⟨e, enclosing⟩ (c :: cs) = readValue? enclosing (c :: cs) := by
  rcases he with rfl | rfl
  · rfl
  · cases enclosing with
    | nil => rfl
    | cons outer enclosing =>
      cases outer with
      | array =>
        unfold advance?
        split <;> simp_all
      | object => rfl

/-- A step that reads the start of a value. -/
theorem leads_value (he : e.AllowsValue) {c : Char} {token : Token} {next : Place}
    (hgap : isGap c = false) (hc : c ≠ ']')
    (hread : readValue? enclosing (c :: cs) = some (some token, next, rest))
    (hshort : rest.length ≤ cs.length) :
    Leads ⟨e, enclosing⟩ (c :: cs) [token] next rest :=
  .of_advance? (t := some token) hgap ((advance?_value he hc).trans hread) hshort

theorem leads_beginArray (he : e.AllowsValue) :
    Leads ⟨e, enclosing⟩ ('[' :: cs) [.beginArray] ⟨.first, .array :: enclosing⟩ cs :=
  leads_value he rfl (by decide) rfl le_rfl

theorem leads_beginObject (he : e.AllowsValue) :
    Leads ⟨e, enclosing⟩ ('{' :: cs) [.beginObject] ⟨.firstKey, .object :: enclosing⟩ cs :=
  leads_value he rfl (by decide) rfl le_rfl

/-- The words that are values. -/
def words : List (List Char × Token) :=
  [(['n', 'u', 'l', 'l'], .null), (['t', 'r', 'u', 'e'], .bool true),
   (['f', 'a', 'l', 's', 'e'], .bool false)]

theorem leads_word (he : e.AllowsValue) {word : List Char} {token : Token}
    (h : (word, token) ∈ words) :
    Leads ⟨e, enclosing⟩ (word ++ rest) [token] ⟨.next, enclosing⟩ rest := by
  simp only [words, List.mem_cons, Prod.mk.injEq, List.not_mem_nil, or_false] at h
  rcases h with ⟨rfl, rfl⟩ | ⟨rfl, rfl⟩ | ⟨rfl, rfl⟩
  all_goals exact leads_value he rfl (by decide) rfl (List.suffix_append _ _).length_le

theorem leads_string (he : e.AllowsValue) {s : String} (h : Spelled s.toList text) :
    Leads ⟨e, enclosing⟩ ('"' :: (text ++ '"' :: rest)) [.string s] ⟨.next, enclosing⟩ rest := by
  refine leads_value he rfl (by decide) ?_ ?_
  · rw [readValue?, readString?_spelled h, List.reverse_nil, List.nil_append, String.ofList_toList]
    rfl
  · simp only [List.length_append, List.length_cons]
    omega

/-- What the first character of a numeral is. -/
theorem IsNumeralOf.exists_cons {n : Option Number} (h : IsNumeralOf n text) :
    ∃ c more, text = c :: more ∧ (c = '-' ∨ c.isDigit) := by
  cases h with
  | integer n _ =>
    have hdigits : ∀ c ∈ Nat.toDigits 10 n, c.isDigit :=
      fun c hc => Nat.isDigit_of_mem_toDigits (by decide) (by decide) hc
    cases htext : Nat.toDigits 10 n with
    | nil => exact absurd htext Nat.toDigits_ne_nil
    | cons c more => exact ⟨c, more, rfl, .inr (hdigits c (htext ▸ List.mem_cons_self))⟩
  | other hcs _ =>
    obtain ⟨hsign, hwhole, _, _⟩ := hcs
    rcases hsign with rfl | rfl
    · obtain ⟨c, ds, rfl, hc⟩ := hwhole.exists_digit
      exact ⟨c, _, rfl, .inr hc⟩
    · exact ⟨'-', _, rfl, .inl rfl⟩

/-- A character that begins a numeral begins nothing else. -/
theorem readValue?_number {c : Char} (hc : c = '-' ∨ c.isDigit) (enclosing : List Enclosure)
    (cs : List Char) :
    readValue? enclosing (c :: cs) = (Number.read? (c :: cs)).map fun (n, rest) =>
      (some (.number n), ⟨.next, enclosing⟩, rest) := by
  have hother : ∀ d ∈ ['{', '[', '"', 'n', 't', 'f'], c ≠ d := by
    rintro d hd rfl
    simp only [List.mem_cons, List.not_mem_nil, or_false] at hd
    rcases hd with rfl | rfl | rfl | rfl | rfl | rfl <;> exact absurd hc (by decide)
  unfold readValue?
  split <;> simp_all

theorem leads_number (he : e.AllowsValue) {n : Option Number} (h : IsNumeralOf n text)
    (hrest : Number.Ends rest) :
    Leads ⟨e, enclosing⟩ (text ++ rest) (Value.number n).tokens ⟨.next, enclosing⟩ rest := by
  have hread := Number.read?_numeral h hrest
  obtain ⟨c, more, rfl, hc⟩ := h.exists_cons
  have hgap : isGap c = false := by
    rw [Bool.eq_false_iff]
    intro hgap
    simp only [isGap, Bool.or_eq_true, beq_iff_eq] at hgap
    rcases hgap with ((rfl | rfl) | rfl) | rfl <;> exact absurd hc (by decide)
  have hclose : c ≠ ']' := by
    rintro rfl
    exact absurd hc (by decide)
  have hvalue := readValue?_number hc enclosing (more ++ rest)
  rw [List.cons_append] at hread ⊢
  rw [hread] at hvalue
  cases n with
  | none =>
    refine .of_advance?_eq_none hgap ?_ List.mem_cons_self
    rw [advance?_value he hclose, hvalue]
    rfl
  | some n =>
    refine leads_value he hgap hclose hvalue ?_
    rw [List.length_append]
    omega

end Values

section Nested

variable {e : Expect} {enclosing : List Enclosure} {cs rest : List Char}

theorem leads_key (he : e.AllowsKey) {name : String} {before key after : List Char}
    (hbefore : IsBlank before) (hkey : Spelled name.toList key) (hafter : IsBlank after) :
    Leads ⟨e, .object :: enclosing⟩ (before ++ '"' :: (key ++ '"' :: (after ++ ':' :: rest)))
      [.key name] ⟨.value, .object :: enclosing⟩ rest := by
  have hstring := readString?_spelled hkey (after ++ ':' :: rest) []
  rw [List.reverse_nil, List.nil_append, String.ofList_toList] at hstring
  have hadvance (cs : List Char) : advance? ⟨e, .object :: enclosing⟩ ('"' :: cs) =
      readKey? (.object :: enclosing) ('"' :: cs) := by
    rcases he with rfl | rfl <;> rfl
  have hread : advance? ⟨e, .object :: enclosing⟩ ('"' :: (key ++ '"' :: (after ++ ':' :: rest))) =
      some (some (.key name), ⟨.colon, .object :: enclosing⟩, after ++ ':' :: rest) := by
    rw [hadvance, readKey?, hstring]
    rfl
  have hcolon : Leads ⟨.colon, .object :: enclosing⟩ (':' :: rest) [] ⟨.value, .object :: enclosing⟩
      rest := .of_advance? (t := none) rfl rfl le_rfl
  refine Leads.blank_left hbefore ((Leads.of_advance? rfl hread ?_).trans (hcolon.blank_left hafter))
  simp only [List.length_append, List.length_cons]
  omega

/-- The end of an array or of an object. -/
theorem leads_endArray (he : e = .first ∨ e = .next) :
    Leads ⟨e, .array :: enclosing⟩ (']' :: rest) [.endArray] ⟨.next, enclosing⟩ rest := by
  rcases he with rfl | rfl
  · exact .of_advance? (t := some .endArray) rfl rfl le_rfl
  · exact .of_advance? (t := some .endArray) rfl rfl le_rfl

theorem leads_endObject (he : e = .firstKey ∨ e = .next) :
    Leads ⟨e, .object :: enclosing⟩ ('}' :: rest) [.endObject] ⟨.next, enclosing⟩ rest := by
  rcases he with rfl | rfl
  · exact .of_advance? (t := some .endObject) rfl rfl le_rfl
  · exact .of_advance? (t := some .endObject) rfl rfl le_rfl

theorem leads_nextElement :
    Leads ⟨.next, .array :: enclosing⟩ (',' :: rest) [] ⟨.value, .array :: enclosing⟩ rest :=
  .of_advance? (t := none) rfl rfl le_rfl

theorem leads_nextMember :
    Leads ⟨.next, .object :: enclosing⟩ (',' :: rest) [] ⟨.key, .object :: enclosing⟩ rest :=
  .of_advance? (t := none) rfl rfl le_rfl

theorem ends_cons {c : Char} (hc : c = ',' ∨ c = ']' ∨ c = '}') : Number.Ends (c :: rest) := by
  intro d hd
  obtain rfl := Option.some.inj hd
  rcases hc with rfl | rfl | rfl <;> decide

/-- What reading on from the start of a part comes to. -/
def Part.Leads : Part → List Char → Prop
  | .value v, cs => ∀ e enclosing rest, Expect.AllowsValue e → Number.Ends rest →
      Json.Leads ⟨e, enclosing⟩ (cs ++ rest) v.tokens ⟨.next, enclosing⟩ rest
  | .elements vs, cs => ∀ e enclosing rest, Expect.AllowsValue e →
      Json.Leads ⟨e, .array :: enclosing⟩ (cs ++ ']' :: rest) (elementTokens vs ++ [.endArray])
        ⟨.next, enclosing⟩ rest
  | .members ms, cs => ∀ e enclosing rest, Expect.AllowsKey e →
      Json.Leads ⟨e, .object :: enclosing⟩ (cs ++ '}' :: rest) (memberTokens ms ++ [.endObject])
        ⟨.next, enclosing⟩ rest

/-- Reading on from the start of a part takes in the part. -/
theorem Written.leads {part : Part} {text : List Char} (h : Written part text) :
    part.Leads text := by
  -- by induction on the form; what stands behind a part is arbitrary, so that the parts can be joined
  induction h with
  | blank hbefore _ hafter ih =>
    intro e enclosing rest he hrest
    have hread := ih e enclosing _ he (ends_blank hafter hrest)
    rw [List.append_assoc, List.append_assoc]
    exact (hread.blank_right hafter).blank_left hbefore
  | null => exact fun e enclosing rest he _ => leads_word he (by decide)
  | true => exact fun e enclosing rest he _ => leads_word he (by decide)
  | false => exact fun e enclosing rest he _ => leads_word he (by decide)
  | number h => exact fun e enclosing rest he hrest => leads_number he h hrest
  | string h =>
    intro e enclosing rest he _
    rw [List.cons_append, List.append_assoc]
    exact leads_string he h
  | emptyArray hgap =>
    intro e enclosing rest he _
    rw [List.cons_append, List.append_assoc]
    exact (leads_beginArray he).trans ((leads_endArray (.inl rfl)).blank_left hgap)
  | array _ ih =>
    intro e enclosing rest he _
    rw [List.cons_append, List.append_assoc]
    exact (leads_beginArray he).trans (ih .first enclosing rest (.inr rfl))
  | emptyObject hgap =>
    intro e enclosing rest he _
    rw [List.cons_append, List.append_assoc]
    exact (leads_beginObject he).trans ((leads_endObject (.inl rfl)).blank_left hgap)
  | object _ ih =>
    intro e enclosing rest he _
    rw [List.cons_append, List.append_assoc]
    exact (leads_beginObject he).trans (ih .firstKey enclosing rest (.inl rfl))
  | element _ ih =>
    intro e enclosing rest he
    rw [elementTokens, elementTokens, List.append_nil]
    exact (ih e (.array :: enclosing) _ he (ends_cons (by decide))).trans (leads_endArray (.inr rfl))
  | elements _ _ ih ihmore =>
    intro e enclosing rest he
    rw [elementTokens, List.append_assoc, List.append_assoc, List.cons_append]
    exact (ih e (.array :: enclosing) _ he (ends_cons (by decide))).trans
      (leads_nextElement.trans (ihmore .value enclosing rest (.inl rfl)))
  | member hbefore hkey hafter _ ih =>
    intro e enclosing rest he
    have hvalue := (ih .value (.object :: enclosing) ('}' :: rest) (.inl rfl)
      (ends_cons (by decide))).trans (leads_endObject (.inr rfl))
    have hmember := (leads_key he hbefore hkey hafter).trans hvalue
    simpa only [memberTokens, List.append_assoc, List.cons_append, List.nil_append, List.append_nil]
      using hmember
  | @members name v ms before key after text more hbefore hkey hafter _ _ ih ihmore =>
    intro e enclosing rest he
    have hmore := leads_nextMember.trans (ihmore .key enclosing rest (.inr rfl))
    have hvalue := (ih .value (.object :: enclosing) _ (.inl rfl) (ends_cons (by decide))).trans hmore
    have hmember := (leads_key he hbefore hkey hafter).trans hvalue
    simpa only [memberTokens, List.append_assoc, List.cons_append, List.nil_append] using hmember

end Nested

/-- The tokens of a written form of a value are those of the value, unless a numeral in it is beyond all
doubles. -/
theorem tokens_written {v : Value} {cs : List Char} (h : Written (.value v) cs) :
    tokens cs = v.tokens ∨ .malformed ∈ v.tokens ∧ .malformed ∈ tokens cs := by
  have hfuel : (cs ++ []).length < cs.length + 1 := by
    rw [List.append_nil]
    exact Nat.lt_succ_self _
  obtain ⟨left, hleft, hread⟩ := h.leads .value [] [] (.inl rfl) nofun (cs.length + 1) hfuel
  obtain ⟨left, rfl⟩ : ∃ n, left = n + 1 := ⟨left - 1, by simp only [List.length_nil] at hleft; omega⟩
  have hend : tokensFrom (left + 1) ⟨.next, []⟩ [] = [] := rfl
  rwa [List.append_nil, hend, List.append_nil] at hread

end AerWatch.Json
