import AerWatch.Json.Decoder
import AerWatch.Proofs.Json.Reading

/-!
# What decoders read

A decoder reads a value when it turns the tokens of the value, with anything behind them, into a result.
A sound decoder takes exactly the tokens of a value or fails, so its result for a written form of a value
is the one that it reads the value as.
-/

namespace AerWatch.Json

section Outcomes

variable {ε α β γ : Type} {x : Except ε α}

theorem exists_of_map_eq_ok {f : α → β} {b : β} (h : x.map f = .ok b) : ∃ a, x = .ok a ∧ f a = b := by
  cases x with
  | error e => exact absurd h nofun
  | ok a => exact ⟨a, rfl, Except.ok.inj h⟩

theorem exists_of_bind_eq_ok {f : α → Except ε β} {b : β} (h : x.bind f = .ok b) :
    ∃ a, x = .ok a ∧ f a = .ok b := by
  cases x with
  | error e => exact absurd h nofun
  | ok a => exact ⟨a, rfl, h⟩

/-- A result of which the first part is changed. -/
theorem exists_of_map_fst_eq_ok {x : Except ε (α × γ)} {f : α → β} {b : β} {c : γ}
    (h : (x.map fun p => (f p.1, p.2)) = .ok (b, c)) : ∃ a, x = .ok (a, c) ∧ f a = b := by
  obtain ⟨⟨a, c⟩, hx, hpair⟩ := exists_of_map_eq_ok h
  obtain ⟨hb, rfl⟩ := Prod.mk.inj hpair
  exact ⟨a, hx, hb⟩

/-- A result to which a second part is added. -/
theorem of_map_prodMk_eq_ok {a : α} {c d : γ} (h : (x.map fun a => (a, c)) = .ok (a, d)) :
    d = c ∧ x = .ok a := by
  obtain ⟨a, hx, hpair⟩ := exists_of_map_eq_ok h
  obtain ⟨rfl, rfl⟩ := Prod.mk.inj hpair
  exact ⟨rfl, hx⟩

end Outcomes

section Tokens

/-- A token that is a value by itself. -/
def Token.IsScalar : Token → Prop
  | null | bool _ | number _ | string _ => True
  | beginObject | endObject | beginArray | endArray | key _ | malformed => False

theorem Token.IsScalar.ne_malformed {t : Token} (h : t.IsScalar) : t ≠ .malformed := by
  rintro rfl
  exact h

/-- The tokens of a value begin with no end of what is open, and a value that begins with a scalar is
this scalar. -/
theorem Value.exists_tokens (v : Value) :
    ∃ t ts, v.tokens = t :: ts ∧ t ≠ .endArray ∧ (t = .null → v = .null) ∧
      (t.IsScalar → ts = []) := by
  cases v with
  | null => exact ⟨.null, [], rfl, nofun, fun _ => rfl, fun _ => rfl⟩
  | bool b => exact ⟨.bool b, [], rfl, nofun, nofun, fun _ => rfl⟩
  | number n =>
    cases n with
    | none => exact ⟨.malformed, [], rfl, nofun, nofun, fun _ => rfl⟩
    | some n => exact ⟨.number n, [], rfl, nofun, nofun, fun _ => rfl⟩
  | string s => exact ⟨.string s, [], rfl, nofun, nofun, fun _ => rfl⟩
  | array vs => exact ⟨.beginArray, _, rfl, nofun, nofun, nofun⟩
  | object ms => exact ⟨.beginObject, _, rfl, nofun, nofun, nofun⟩

theorem length_le_elementTokens (vs : List Value) : vs.length ≤ (elementTokens vs).length := by
  induction vs with
  | nil => exact Nat.le_refl 0
  | cons v vs ih =>
    obtain ⟨t, ts, htokens, -⟩ := v.exists_tokens
    simp only [elementTokens, htokens, List.length_append, List.length_cons]
    omega

theorem length_le_memberTokens (ms : List (String × Value)) : ms.length ≤ (memberTokens ms).length := by
  induction ms with
  | nil => exact Nat.le_refl 0
  | cons m ms ih =>
    simp only [memberTokens, List.length_append, List.length_cons]
    omega

end Tokens

section Uses

/-- The tokens of a text that is well formed up to the rest. -/
def Uses (ts rest : List Token) : Prop := ∃ used, ts = used ++ rest ∧ .malformed ∉ used

variable {t : Token} {ts mid rest : List Token}

theorem Uses.one (h : t ≠ .malformed) (ts : List Token) : Uses (t :: ts) ts :=
  ⟨[t], rfl, fun hbad => h (List.mem_singleton.mp hbad).symm⟩

theorem Uses.trans (h : Uses ts mid) (hmore : Uses mid rest) : Uses ts rest := by
  obtain ⟨used, rfl, hused⟩ := h
  obtain ⟨more, rfl, hmore⟩ := hmore
  refine ⟨used ++ more, (List.append_assoc _ _ _).symm, fun hbad => ?_⟩
  rcases List.mem_append.mp hbad with hbad | hbad
  · exact hused hbad
  · exact hmore hbad

theorem Uses.notMem (h : Uses ts []) : .malformed ∉ ts := by
  obtain ⟨used, rfl, hused⟩ := h
  rwa [List.append_nil]

end Uses

section Contracts

variable {α : Type} (d : Decoder α)

/-- A decoder reads a value as a result, whatever comes behind the value. -/
def Decoder.Reads (v : Value) (a : α) : Prop := ∀ rest, d (v.tokens ++ rest) = .ok (a, rest)

/-- A decoder takes exactly the tokens of a value, or fails. -/
structure Decoder.Sound : Prop where
  exact {v : Value} {rest after : List Token} {a : α} :
    d (v.tokens ++ rest) = .ok (a, after) → after = rest ∧ d.Reads v a
  uses {ts rest : List Token} {a : α} : d ts = .ok (a, rest) → Uses ts rest

variable {d}

/-- What a decoder makes of a written form of a value. -/
theorem decodeText_written (hd : d.Sound) {v : Value} {cs : List Char} (h : Written (.value v) cs)
    {a : α} : decodeText d cs = .ok a ↔ d.Reads v a := by
  constructor
  · intro hdecode
    have hread : d (tokens cs) = .ok (a, []) := by
      unfold decodeText at hdecode
      split at hdecode
      · exact absurd hdecode nofun
      · next heq => rw [heq, Except.ok.inj hdecode]
      · exact absurd hdecode nofun
    rcases tokens_written h with htokens | ⟨_, hbad⟩
    · rw [htokens, ← List.append_nil v.tokens] at hread
      exact (hd.exact hread).2
    · exact absurd hbad (hd.uses hread).notMem
  · intro hread
    have hall := hread []
    rw [List.append_nil] at hall
    rcases tokens_written h with htokens | ⟨hbad, _⟩
    · simp only [decodeText, htokens, hall]
    · exact absurd hbad (hd.uses hall).notMem

end Contracts

namespace Decoder

section Single

variable {α : Type} {d : Decoder α}

/-- A decoder that looks at one token, and takes it only when it is a scalar. -/
theorem sound_of_single (hnil : ∀ p, d [] ≠ .ok p)
    (hcons : ∀ t rest, d (t :: rest) = (d [t]).map fun p => (p.1, rest))
    (hscalar : ∀ t p, d [t] = .ok p → t.IsScalar) : d.Sound where
  exact := by
    intro v rest after a h
    obtain ⟨t, ts, htokens, -, -, hts⟩ := v.exists_tokens
    rw [htokens, List.cons_append, hcons] at h
    obtain ⟨p, hp, hpair⟩ := exists_of_map_eq_ok h
    obtain rfl := hts (hscalar t p hp)
    obtain ⟨rfl, rfl⟩ := Prod.mk.inj hpair
    refine ⟨rfl, fun rest => ?_⟩
    rw [htokens, List.cons_append, hcons, hp]
    rfl
  uses := by
    intro ts rest a h
    cases ts with
    | nil => exact absurd h (hnil _)
    | cons t ts =>
      rw [hcons] at h
      obtain ⟨p, hp, hpair⟩ := exists_of_map_eq_ok h
      obtain ⟨-, rfl⟩ := Prod.mk.inj hpair
      exact .one (hscalar t p hp).ne_malformed _

theorem sound_text (expected : String) : (text expected).Sound :=
  sound_of_single nofun (fun t _ => by cases t <;> rfl) fun t _ _ => by cases t <;> trivial

theorem sound_bool : bool.Sound :=
  sound_of_single nofun (fun t _ => by cases t <;> rfl) fun t _ _ => by cases t <;> trivial

theorem sound_size : size.Sound := by
  refine sound_of_single nofun (fun t rest => ?_) fun t _ _ => by cases t <;> trivial
  cases t with
  | number n =>
    cases n with
    | integer value =>
      simp only [size]
      split_ifs <;> rfl
    | double bits => rfl
  | _ => rfl

theorem reads_text (expected s : String) : (text expected).Reads (.string s) s := fun _ => rfl

theorem reads_bool (b : Bool) : bool.Reads (.bool b) b := fun _ => rfl

theorem reads_size (n : Nat) : size.Reads (.number (some (.integer n))) n := fun _ => rfl

end Single

section Composed

variable {α : Type} {d : Decoder α}

theorem reads_map {β : Type} {f : α → β} {v : Value} {a : α} (h : d.Reads v a) :
    Reads (fun ts => (d ts).map fun p => (f p.1, p.2)) v (f a) := by
  intro rest
  show (d (v.tokens ++ rest)).map _ = _
  rw [h rest]
  rfl

theorem sound_map {β : Type} (hd : d.Sound) (f : α → β) :
    Sound fun ts => (d ts).map fun p => (f p.1, p.2) where
  exact := by
    intro v rest after b h
    obtain ⟨a, hread, rfl⟩ := exists_of_map_fst_eq_ok h
    obtain ⟨hafter, ha⟩ := hd.exact hread
    exact ⟨hafter, reads_map ha⟩
  uses := by
    intro ts rest b h
    obtain ⟨a, hread, -⟩ := exists_of_map_fst_eq_ok h
    exact hd.uses hread

theorem exists_of_reads_map {β : Type} (hd : d.Sound) {f : α → β} {v : Value} {b : β}
    (h : Reads (fun ts => (d ts).map fun p => (f p.1, p.2)) v b) : ∃ a, d.Reads v a := by
  obtain ⟨p, hread, -⟩ := exists_of_map_eq_ok (h [])
  exact ⟨p.1, (hd.exact hread).2⟩

theorem optional_value {v : Value} (hv : v ≠ .null) (rest : List Token) :
    optional d (v.tokens ++ rest) = (d (v.tokens ++ rest)).map fun p => (some p.1, p.2) := by
  obtain ⟨t, ts, htokens, -, hnull, -⟩ := v.exists_tokens
  have ht : t ≠ .null := fun h => hv (hnull h)
  rw [htokens, List.cons_append]
  cases t <;> first | rfl | exact absurd rfl ht

theorem reads_optional_null : (optional d).Reads .null none := fun _ => rfl

theorem reads_optional {v : Value} (hv : v ≠ .null) {a : α} (h : d.Reads v a) :
    (optional d).Reads v (some a) := by
  intro rest
  rw [optional_value hv, h rest]
  rfl

theorem sound_optional (hd : d.Sound) : (optional d).Sound where
  exact := by
    intro v rest after o h
    by_cases hv : v = .null
    · subst hv
      obtain ⟨rfl, rfl⟩ := Prod.mk.inj (Except.ok.inj h)
      exact ⟨rfl, reads_optional_null⟩
    · rw [optional_value hv] at h
      obtain ⟨a, hread, rfl⟩ := exists_of_map_fst_eq_ok h
      obtain ⟨hafter, ha⟩ := hd.exact hread
      exact ⟨hafter, reads_optional hv ha⟩
  uses := by
    intro ts rest o h
    unfold optional at h
    split at h
    · obtain ⟨-, rfl⟩ := Prod.mk.inj (Except.ok.inj h)
      exact .one (by decide) _
    · obtain ⟨a, hread, -⟩ := exists_of_map_fst_eq_ok h
      exact hd.uses hread

theorem elements_end (fuel : Nat) (acc : List α) (rest : List Token) :
    elements d fuel acc (.endArray :: rest) = .ok (acc.reverse, rest) := by
  cases fuel <;> rfl

theorem elements_succ {ts : List Token} (hts : ∀ rest, ts ≠ .endArray :: rest) (fuel : Nat)
    (acc : List α) :
    elements d (fuel + 1) acc ts = (d ts).bind fun p => elements d fuel (p.1 :: acc) p.2 := by
  rw [elements]
  · cases d ts <;> rfl
  · exact hts

theorem elements_cons {t : Token} (ht : t ≠ .endArray) (fuel : Nat) (acc : List α) (ts : List Token) :
    elements d (fuel + 1) acc (t :: ts) =
      (d (t :: ts)).bind fun p => elements d fuel (p.1 :: acc) p.2 :=
  elements_succ (fun _ h => ht (List.cons.inj h).1) fuel acc

theorem elements_zero {ts : List Token} (hts : ∀ rest, ts ≠ .endArray :: rest) (acc : List α) :
    elements d 0 acc ts = .error .malformed := by
  rw [elements]
  exact hts

/-- Elements that are read one by one are read as the elements of an array. -/
theorem elements_eq {vs : List Value} {as : List α} (h : List.Forall₂ d.Reads vs as) {fuel : Nat}
    (hfuel : vs.length ≤ fuel) (acc : List α) (rest : List Token) :
    elements d fuel acc (elementTokens vs ++ .endArray :: rest) = .ok (acc.reverse ++ as, rest) := by
  induction h generalizing fuel acc with
  | nil =>
    rw [elementTokens, List.nil_append, elements_end, List.append_nil]
  | @cons v a vs as ha _ ih =>
    obtain ⟨fuel, rfl⟩ : ∃ n, fuel = n + 1 := ⟨fuel - 1, by simp only [List.length_cons] at hfuel; omega⟩
    obtain ⟨t, ts, htokens, hend, -, -⟩ := v.exists_tokens
    have hread := ha (elementTokens vs ++ .endArray :: rest)
    rw [htokens] at hread
    rw [elementTokens, htokens, List.append_assoc, List.cons_append, elements_cons hend,
      ← List.cons_append, hread]
    have hmore := ih (Nat.le_of_succ_le_succ hfuel) (a :: acc)
    rw [List.reverse_cons, List.append_assoc, List.singleton_append] at hmore
    exact hmore

/-- Whatever is read up to the end of an array was read one by one. -/
theorem exists_of_elements (hd : d.Sound) {vs : List Value} {fuel : Nat} {acc as : List α}
    {rest after : List Token}
    (h : elements d fuel acc (elementTokens vs ++ .endArray :: rest) = .ok (as, after)) :
    after = rest ∧ ∃ bs, List.Forall₂ d.Reads vs bs ∧ as = acc.reverse ++ bs := by
  -- along the elements: soundness says that each turn takes exactly the next of them
  induction vs generalizing fuel acc with
  | nil =>
    rw [elementTokens, List.nil_append, elements_end] at h
    obtain ⟨rfl, rfl⟩ := Prod.mk.inj (Except.ok.inj h)
    exact ⟨rfl, [], .nil, (List.append_nil _).symm⟩
  | cons v vs ih =>
    obtain ⟨t, ts, htokens, hend, -, -⟩ := v.exists_tokens
    rw [elementTokens, htokens, List.append_assoc, List.cons_append] at h
    cases fuel with
    | zero =>
      rw [elements_zero (fun _ h => hend (List.cons.inj h).1)] at h
      cases h
    | succ fuel =>
      rw [elements_cons hend, ← List.cons_append, ← htokens] at h
      obtain ⟨⟨a, ts⟩, hread, hmore⟩ := exists_of_bind_eq_ok h
      obtain ⟨rfl, ha⟩ := hd.exact hread
      obtain ⟨rfl, bs, hbs, rfl⟩ := ih hmore
      refine ⟨rfl, a :: bs, .cons ha hbs, ?_⟩
      rw [List.reverse_cons, List.append_assoc, List.singleton_append]

theorem uses_of_elements (hd : d.Sound) {fuel : Nat} {acc as : List α} {ts rest : List Token}
    (h : elements d fuel acc ts = .ok (as, rest)) : Uses ts rest := by
  -- the tokens may be those of no value, so the induction is on the turns
  have hend {fuel : Nat} {acc : List α} {more : List Token}
      (h : elements d fuel acc (.endArray :: more) = .ok (as, rest)) :
      Uses (.endArray :: more) rest := by
    rw [elements_end] at h
    obtain ⟨-, rfl⟩ := Prod.mk.inj (Except.ok.inj h)
    exact .one (by decide) _
  induction fuel generalizing acc ts with
  | zero =>
    by_cases hts : ∃ more, ts = .endArray :: more
    · obtain ⟨more, rfl⟩ := hts
      exact hend h
    · rw [elements_zero (not_exists.mp hts)] at h
      exact absurd h nofun
  | succ fuel ih =>
    by_cases hts : ∃ more, ts = .endArray :: more
    · obtain ⟨more, rfl⟩ := hts
      exact hend h
    · rw [elements_succ (not_exists.mp hts)] at h
      obtain ⟨p, hread, hmore⟩ := exists_of_bind_eq_ok h
      exact (hd.uses hread).trans (ih hmore)

theorem list_array (vs : List Value) (rest : List Token) :
    list d ((Value.array vs).tokens ++ rest) =
      elements d (elementTokens vs ++ .endArray :: rest).length []
        (elementTokens vs ++ .endArray :: rest) := by
  rw [Value.tokens, List.cons_append, List.append_assoc]
  rfl

/-- An array is read as the list of what its elements are read as. -/
theorem reads_list {vs : List Value} {as : List α} (h : List.Forall₂ d.Reads vs as) :
    (list d).Reads (.array vs) as := by
  intro rest
  have hfuel : vs.length ≤ (elementTokens vs ++ .endArray :: rest).length := by
    rw [List.length_append]
    exact (length_le_elementTokens vs).trans (Nat.le_add_right _ _)
  rw [list_array, elements_eq h hfuel]
  rfl

theorem forall₂_of_reads_list (hd : d.Sound) {vs : List Value} {as : List α}
    (h : (list d).Reads (.array vs) as) : List.Forall₂ d.Reads vs as := by
  have hread := h []
  rw [list_array] at hread
  obtain ⟨-, bs, hbs, rfl⟩ := exists_of_elements hd hread
  exact hbs

theorem sound_list (hd : d.Sound) : (list d).Sound where
  exact := by
    intro v rest after as h
    cases v with
    | array vs =>
      rw [list_array] at h
      obtain ⟨rfl, bs, hbs, rfl⟩ := exists_of_elements hd h
      exact ⟨rfl, reads_list hbs⟩
    | number n => cases n <;> exact absurd h nofun
    | _ => exact absurd h nofun
  uses := by
    intro ts rest as h
    unfold list at h
    split at h
    · exact (Uses.one (by decide) _).trans (uses_of_elements hd h)
    · exact absurd h nofun

end Composed

end Decoder

end AerWatch.Json
