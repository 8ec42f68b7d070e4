import AerWatch.Config.Reader
import AerWatch.Proofs.Json.Decoding

/-!
# Records that are read from objects

A record is read from an object when its members can be read one by one, in the order in which they
stand. A member that is not known, or that stands twice, cannot.
-/

namespace AerWatch.Json

namespace Record

section Objects

variable {δ α : Type} (r : Record δ α)

/-- Members of an object that are read one by one into a draft. -/
inductive Fills : δ → List (String × Value) → δ → Prop
  | nil (draft : δ) : Fills draft [] draft
  | cons {draft next last : δ} {m : Member δ} {name : String} {v : Value}
      {ms : List (String × Value)} (hm : r.members.find? (·.name == name) = some m)
      (hset : m.isSet draft = false) (hread : (m.read draft).Reads v next)
      (h : Fills next ms last) : Fills draft ((name, v) :: ms) last

variable {r} {draft last : δ} {a : α} {ms : List (String × Value)} {fuel : Nat} {ts rest after : List Token}

theorem object_end (fuel : Nat) (draft : δ) (rest : List Token) :
    r.object fuel draft (.endObject :: rest) = (r.close draft).map fun a => (a, rest) := by
  cases fuel <;> rfl

theorem object_key {name : String} {m : Member δ} (hm : r.members.find? (·.name == name) = some m)
    (hset : m.isSet draft = false) (fuel : Nat) (ts : List Token) :
    r.object (fuel + 1) draft (.key name :: ts) =
      (m.read draft ts).bind fun p => r.object fuel p.1 p.2 := by
  rw [object]
  simp only [hm, hset, Bool.false_eq_true, if_false]
  cases m.read draft ts <;> rfl

/-- Members that can be read one by one are read as an object. -/
theorem Fills.object_eq (h : r.Fills draft ms last) (hfuel : ms.length ≤ fuel) (rest : List Token) :
    r.object fuel draft (memberTokens ms ++ .endObject :: rest) =
      (r.close last).map fun a => (a, rest) := by
  induction h generalizing fuel with
  | nil draft => rw [memberTokens, List.nil_append, object_end]
  | @cons draft next last m name v ms hm hset hread _ ih =>
    obtain ⟨fuel, rfl⟩ : ∃ n, fuel = n + 1 := ⟨fuel - 1, by simp only [List.length_cons] at hfuel; omega⟩
    rw [memberTokens, List.cons_append, List.append_assoc, object_key hm hset, hread]
    exact ih (Nat.le_of_succ_le_succ hfuel)

/-- What was read of a key: it is known and new, and its value could be read. -/
theorem exists_of_object_key {name : String}
    (h : r.object fuel draft (.key name :: ts) = .ok (a, after)) :
    ∃ left m next more, fuel = left + 1 ∧ r.members.find? (·.name == name) = some m ∧
      m.isSet draft = false ∧ m.read draft ts = .ok (next, more) ∧
      r.object left next more = .ok (a, after) := by
  cases fuel with
  | zero => exact absurd h nofun
  | succ left =>
    cases hm : r.members.find? (·.name == name) with
    | none =>
      simp only [object, hm] at h
      exact absurd h nofun
    | some m =>
      cases hset : m.isSet draft with
      | true =>
        simp only [object, hm, hset, if_true] at h
        exact absurd h nofun
      | false =>
        rw [object_key hm hset] at h
        obtain ⟨⟨next, more⟩, hread, hmore⟩ := exists_of_bind_eq_ok h
        exact ⟨left, m, next, more, rfl, rfl, hset, hread, hmore⟩

variable (hr : ∀ m ∈ r.members, ∀ draft, (m.read draft).Sound)
include hr

/-- Whatever is read as an object was read one by one. -/
theorem exists_of_object
    (h : r.object fuel draft (memberTokens ms ++ .endObject :: rest) = .ok (a, after)) :
    after = rest ∧ ∃ last, r.Fills draft ms last ∧ r.close last = .ok a := by
  induction ms generalizing fuel draft with
  | nil =>
    rw [memberTokens, List.nil_append, object_end] at h
    obtain ⟨hafter, hclose⟩ := of_map_prodMk_eq_ok h
    exact ⟨hafter, draft, .nil draft, hclose⟩
  | cons m ms ih =>
    obtain ⟨name, v⟩ := m
    rw [memberTokens, List.cons_append, List.append_assoc] at h
    obtain ⟨left, m, next, more, -, hm, hset, hread, hmore⟩ := exists_of_object_key h
    obtain ⟨rfl, hv⟩ := (hr m (List.mem_of_find?_eq_some hm) draft).exact hread
    obtain ⟨rfl, last, hlast, hclose⟩ := ih hmore
    exact ⟨rfl, last, .cons hm hset hv hlast, hclose⟩

theorem uses_of_object (h : r.object fuel draft ts = .ok (a, rest)) : Uses ts rest := by
  induction fuel using Nat.strongRecOn generalizing draft ts with
  | ind fuel ih =>
    cases ts with
    | nil => cases fuel <;> exact absurd h nofun
    | cons t ts =>
      cases t with
      | endObject =>
        rw [object_end] at h
        obtain ⟨rfl, -⟩ := of_map_prodMk_eq_ok h
        exact .one (by decide) _
      | key name =>
        obtain ⟨left, m, next, more, rfl, hm, -, hread, hmore⟩ := exists_of_object_key h
        have hvalue : Uses ts more := (hr m (List.mem_of_find?_eq_some hm) draft).uses hread
        exact (Uses.one (by simp) _).trans (hvalue.trans (ih left (Nat.lt_succ_self left) hmore))
      | _ => cases fuel <;> exact absurd h nofun

end Objects

section Arrays

variable {δ α : Type} {r : Record δ α} {ms : List (Member δ)} {done : Nat} {draft : δ} {a : α}
  {ts rest after : List Token}

/-- At the end of an array the record is closed, whatever comes behind. -/
theorem exists_of_array_end (h : r.array ms done draft (.endArray :: rest) = .ok (a, after)) :
    after = rest ∧ ∀ rest, r.array ms done draft (.endArray :: rest) = .ok (a, rest) := by
  have hend (rest : List Token) : r.array ms done draft (.endArray :: rest) =
      if ms.any (·.required) then .error (.wrongLength done r.title)
      else (r.close draft).map fun a => (a, rest) := by
    cases ms <;> rfl
  rw [hend] at h
  split_ifs at h with hrequired
  obtain ⟨rfl, hclose⟩ := of_map_prodMk_eq_ok h
  refine ⟨rfl, fun rest => ?_⟩
  rw [hend, if_neg hrequired, hclose]
  rfl

theorem array_cons {m : Member δ} (hts : ∀ rest, ts ≠ .endArray :: rest) :
    r.array (m :: ms) done draft ts =
      (m.read draft ts).bind fun p => r.array ms (done + 1) p.1 p.2 := by
  rw [array]
  · cases m.read draft ts <;> rfl
  · exact hts

theorem array_nil (hts : ∀ rest, ts ≠ .endArray :: rest) :
    r.array [] done draft ts = .error .malformed := by
  rw [array]
  exact hts

variable (hms : ∀ m ∈ ms, ∀ draft, (m.read draft).Sound)
include hms

/-- Members in their order are taken from an array exactly. -/
theorem array_exact {vs : List Value}
    (h : r.array ms done draft (elementTokens vs ++ .endArray :: rest) = .ok (a, after)) :
    after = rest ∧
      ∀ rest, r.array ms done draft (elementTokens vs ++ .endArray :: rest) = .ok (a, rest) := by
  induction vs generalizing ms done draft with
  | nil => exact exists_of_array_end h
  | cons v vs ih =>
    have hts (rest : List Token) : ∀ more, elementTokens (v :: vs) ++ .endArray :: rest ≠
        .endArray :: more := by
      obtain ⟨t, ts, htokens, hend, -, -⟩ := v.exists_tokens
      intro more heq
      rw [elementTokens, htokens] at heq
      exact hend (List.cons.inj heq).1
    cases ms with
    | nil =>
      rw [array_nil (hts rest)] at h
      cases h
    | cons m ms =>
      obtain ⟨hm, hmore⟩ := List.forall_mem_cons.mp hms
      rw [array_cons (hts rest)] at h
      obtain ⟨⟨next, ts⟩, hread, hrest⟩ := exists_of_bind_eq_ok h
      rw [elementTokens, List.append_assoc] at hread
      obtain ⟨rfl, hv⟩ := (hm draft).exact hread
      obtain ⟨rfl, hall⟩ := ih hmore hrest
      refine ⟨rfl, fun rest => ?_⟩
      rw [array_cons (hts rest), elementTokens, List.append_assoc, hv]
      exact hall rest

theorem uses_of_array (h : r.array ms done draft ts = .ok (a, rest)) : Uses ts rest := by
  induction ms generalizing done draft ts with
  | nil =>
    by_cases hts : ∃ more, ts = .endArray :: more
    · obtain ⟨more, rfl⟩ := hts
      obtain ⟨rfl, -⟩ := exists_of_array_end h
      exact .one (by decide) _
    · rw [array_nil (not_exists.mp hts)] at h
      exact absurd h nofun
  | cons m ms ih =>
    obtain ⟨hm, hmore⟩ := List.forall_mem_cons.mp hms
    by_cases hts : ∃ more, ts = .endArray :: more
    · obtain ⟨more, rfl⟩ := hts
      obtain ⟨rfl, -⟩ := exists_of_array_end h
      exact .one (by decide) _
    · rw [array_cons (not_exists.mp hts)] at h
      obtain ⟨p, hread, hrest⟩ := exists_of_bind_eq_ok h
      exact ((hm draft).uses hread).trans (ih hmore hrest)

end Arrays

section Decoders

variable {δ α : Type} {r : Record δ α} {ms : List (String × Value)} {a : α}

theorem decoder_object (ms : List (String × Value)) (rest : List Token) :
    r.decoder ((Value.object ms).tokens ++ rest) =
      r.object (memberTokens ms ++ .endObject :: rest).length r.empty
        (memberTokens ms ++ .endObject :: rest) := by
  rw [Value.tokens, List.cons_append, List.append_assoc]
  rfl

theorem decoder_array (vs : List Value) (rest : List Token) :
    r.decoder ((Value.array vs).tokens ++ rest) =
      Record.array { r with title := r.titleWithSize } r.members 0 r.empty
        (elementTokens vs ++ .endArray :: rest) := by
  rw [Value.tokens, List.cons_append, List.append_assoc]
  rfl

/-- A record is read from an object whose members can be read one by one. -/
theorem reads_object {last : δ} (h : r.Fills r.empty ms last) (hclose : r.close last = .ok a) :
    r.decoder.Reads (.object ms) a := by
  intro rest
  have hfuel : ms.length ≤ (memberTokens ms ++ .endObject :: rest).length := by
    rw [List.length_append]
    exact (length_le_memberTokens ms).trans (Nat.le_add_right _ _)
  rw [decoder_object, h.object_eq hfuel, hclose]
  rfl

variable (hr : ∀ m ∈ r.members, ∀ draft, (m.read draft).Sound)
include hr

theorem exists_of_reads_object (h : r.decoder.Reads (.object ms) a) :
    ∃ last, r.Fills r.empty ms last ∧ r.close last = .ok a := by
  have hread := h []
  rw [decoder_object] at hread
  exact (exists_of_object hr hread).2

theorem sound_decoder : r.decoder.Sound where
  exact := by
    intro v rest after a h
    cases v with
    | object ms =>
      rw [decoder_object] at h
      obtain ⟨hafter, last, hlast, hclose⟩ := exists_of_object hr h
      exact ⟨hafter, reads_object hlast hclose⟩
    | array vs =>
      rw [decoder_array] at h
      obtain ⟨hafter, hall⟩ := array_exact hr h
      refine ⟨hafter, fun rest => ?_⟩
      rw [decoder_array, hall]
    | number n => cases n <;> exact absurd h nofun
    | _ => exact absurd h nofun
  uses := by
    intro ts rest a h
    unfold decoder at h
    split at h
    · exact (Uses.one (by decide) _).trans (uses_of_object hr h)
    · exact (Uses.one (by decide) _).trans (uses_of_array hr h)
    · exact absurd h nofun

end Decoders

section Members

variable {δ α : Type}

/-- A member that is kept in a place of its own: to read it sets this member, and no other. -/
structure Lawful (r : Record δ α) : Prop where
  sound : ∀ m ∈ r.members, ∀ draft, (m.read draft).Sound
  isSet : ∀ m ∈ r.members, ∀ m' ∈ r.members, ∀ draft ts next rest,
    m.read draft ts = .ok (next, rest) → m'.isSet next = (m'.name == m.name || m'.isSet draft)

variable {r : Record δ α} {draft last : δ} {ms : List (String × Value)} {a : α}

theorem name_of_find? {name : String} {m : Member δ} (h : r.members.find? (·.name == name) = some m) :
    m ∈ r.members ∧ m.name = name :=
  ⟨List.mem_of_find?_eq_some h, by simpa using List.find?_some h⟩

/-- Every member that was read is known, and its value could be read. -/
theorem Fills.exists_member (h : r.Fills draft ms last) :
    ∀ p ∈ ms, ∃ m, r.members.find? (·.name == p.1) = some m ∧
      ∃ draft next, (m.read draft).Reads p.2 next := by
  induction h with
  | nil => exact List.forall_mem_nil _
  | cons hm _ hread _ ih => exact List.forall_mem_cons.mpr ⟨⟨_, hm, _, _, hread⟩, ih⟩

/-- A member that was set before is none of those that were read. -/
theorem Fills.isSet_eq_false (hr : r.Lawful) (h : r.Fills draft ms last) :
    ∀ p ∈ ms, ∀ m, r.members.find? (·.name == p.1) = some m → m.isSet draft = false := by
  induction h with
  | nil => exact List.forall_mem_nil _
  | @cons draft next last m name v ms hm hset hread _ ih =>
    refine List.forall_mem_cons.mpr ⟨fun m' hm' => ?_, fun p hp m' hm' => ?_⟩
    · obtain rfl := Option.some.inj (hm.symm.trans hm')
      exact hset
    · have hnext : m'.isSet next = (m'.name == m.name || m'.isSet draft) :=
        hr.isSet m (name_of_find? hm).1 m' (name_of_find? hm').1 draft _ next [] (hread [])
      rw [ih p hp m' hm'] at hnext
      exact (Bool.or_eq_false_iff.mp hnext.symm).2

theorem Fills.nodup (hr : r.Lawful) (h : r.Fills draft ms last) : (ms.map Prod.fst).Nodup := by
  induction h with
  | nil => exact List.nodup_nil
  | @cons draft next last m name v ms hm hset hread h ih =>
    have hmem := (name_of_find? hm).1
    have hnext : m.isSet next = true := by
      rw [hr.isSet m hmem m hmem draft _ next [] (hread []), beq_self_eq_true, Bool.true_or]
    refine List.nodup_cons.mpr ⟨fun hin => ?_, ih⟩
    obtain ⟨p, hp, hpname⟩ := List.mem_map.mp hin
    have hunset := h.isSet_eq_false hr p hp m (by rw [hpname]; exact hm)
    exact absurd (hnext.symm.trans hunset) nofun

/-- Members of an object of which one is not known, or two have the same name. -/
def IsFlawed (known : List String) (ms : List (String × Value)) : Prop :=
  (∃ m ∈ ms, m.1 ∉ known) ∨ ¬(ms.map Prod.fst).Nodup

/-- No record is read from an object with such members. -/
theorem not_reads_of_isFlawed (hr : r.Lawful) (h : IsFlawed r.names ms) (a : α) :
    ¬r.decoder.Reads (.object ms) a := by
  intro hread
  obtain ⟨last, hlast, -⟩ := exists_of_reads_object hr.sound hread
  rcases h with ⟨p, hp, hunknown⟩ | htwice
  · obtain ⟨m, hm, -⟩ := hlast.exists_member p hp
    obtain ⟨hmem, hname⟩ := name_of_find? hm
    exact hunknown (List.mem_map.mpr ⟨m, hmem, hname⟩)
  · exact htwice (hlast.nodup hr)

/-- What is in an object from which a record was read could be read itself. -/
theorem exists_reads_member (hr : r.Lawful) (h : r.decoder.Reads (.object ms) a) {name : String}
    {v : Value} (hp : (name, v) ∈ ms) {m : Member δ}
    (hm : r.members.find? (·.name == name) = some m) :
    ∃ draft next, (m.read draft).Reads v next := by
  obtain ⟨last, hlast, -⟩ := exists_of_reads_object hr.sound h
  obtain ⟨m', hm', hread⟩ := hlast.exists_member _ hp
  obtain rfl := Option.some.inj (hm.symm.trans hm')
  exact hread

section Sketches

variable {sketch : List String → δ} {Tells : String → Value → Prop}
  (hstep : ∀ names name v, Tells name v → name ∉ names →
    ∃ m, r.members.find? (·.name == name) = some m ∧ m.isSet (sketch names) = false ∧
      (m.read (sketch names)).Reads v (sketch (name :: names)))
include hstep

theorem fills_from_sketch {names : List String} (hms : ∀ m ∈ ms, Tells m.1 m.2)
    (hnodup : (ms.map Prod.fst).Nodup) (hnew : ∀ m ∈ ms, m.1 ∉ names) :
    r.Fills (sketch names) ms (sketch ((ms.map Prod.fst).reverse ++ names)) := by
  -- the names that were read grow with every member, so they are arbitrary
  induction ms generalizing names with
  | nil => exact .nil _
  | cons p ms ih =>
    obtain ⟨hp, hmore⟩ := List.forall_mem_cons.mp hms
    obtain ⟨hpnew, hmorenew⟩ := List.forall_mem_cons.mp hnew
    obtain ⟨hout, hrest⟩ := List.nodup_cons.mp hnodup
    obtain ⟨m, hm, hset, hread⟩ := hstep names p.1 p.2 hp hpnew
    have hnext : ∀ q ∈ ms, q.1 ∉ p.1 :: names := by
      intro q hq hin
      rcases List.mem_cons.mp hin with heq | hin
      · exact hout (List.mem_map.mpr ⟨q, hq, heq⟩)
      · exact hmorenew q hq hin
    have hall := ih hmore hrest hnext
    rw [List.map_cons, List.reverse_cons, List.append_assoc, List.singleton_append]
    exact .cons hm hset hread hall

/-- Members in any order are read one by one, when the drafts between them are given by the names that
were read. -/
theorem fills_sketch (hms : ∀ m ∈ ms, Tells m.1 m.2) (hnodup : (ms.map Prod.fst).Nodup) :
    r.Fills (sketch []) ms (sketch (ms.map Prod.fst).reverse) := by
  have hfills := fills_from_sketch hstep hms hnodup fun m _ => List.not_mem_nil
  rwa [List.append_nil] at hfills

end Sketches

end Members

section Fields

variable {δ α β : Type} {r : Record δ α} {d : Decoder β} {name : String} {required : Bool}
  {get : δ → Option β} {put : δ → β → δ}

theorem sound_field (hd : d.Sound) (draft : δ) :
    ((Member.field name required get put d).read draft).Sound :=
  Decoder.sound_map hd (put draft)

theorem reads_field {v : Value} {b : β} (h : d.Reads v b) (draft : δ) :
    ((Member.field name required get put d).read draft).Reads v (put draft b) :=
  Decoder.reads_map h

theorem exists_of_reads_field (hd : d.Sound) {draft next : δ} {v : Value}
    (h : ((Member.field name required get put d).read draft).Reads v next) : ∃ b, d.Reads v b :=
  Decoder.exists_of_reads_map hd h

theorem isSet_field {m' : Member δ} {draft next : δ} {ts rest : List Token}
    (hput : ∀ b, m'.isSet (put draft b) = (m'.name == name || m'.isSet draft))
    (h : (Member.field name required get put d).read draft ts = .ok (next, rest)) :
    m'.isSet next = (m'.name == name || m'.isSet draft) := by
  obtain ⟨b, -, rfl⟩ := exists_of_map_fst_eq_ok h
  exact hput b

/-- A field that is read next. -/
theorem sketch_field {sketch : List String → δ} {names : List String} {v : Value} {b : β}
    (hm : r.members.find? (·.name == name) = some (.field name required get put d))
    (hget : get (sketch names) = none) (hread : d.Reads v b)
    (hput : put (sketch names) b = sketch (name :: names)) :
    ∃ m, r.members.find? (·.name == name) = some m ∧ m.isSet (sketch names) = false ∧
      (m.read (sketch names)).Reads v (sketch (name :: names)) := by
  refine ⟨_, hm, ?_, ?_⟩
  · show (get (sketch names)).isSome = false
    rw [hget]
    rfl
  · rw [← hput]
    exact reads_field hread (sketch names)

end Fields

end Record

end AerWatch.Json
