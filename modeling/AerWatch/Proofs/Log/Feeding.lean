import AerWatch.Log.Tail

/-!
# Feeding lines to a parser

`LogParser.feed` hands lines to a parser one after another. Only the message under way changes by it,
and a line on which no rule captures anything changes nothing at all. Blank lines can be left out when
nothing is captured on them.
-/

namespace AerWatch.Log

namespace LogParser

/-- Takes in lines in order. Gives the messages that they complete. -/
def feed (p : LogParser) : List String → LogParser × List Message
  | [] => (p, [])
  | line :: rest =>
    let (p, message) := p.parseLine line
    let (p, messages) := p.feed rest
    (p, message.toList ++ messages)

theorem feed_eq_assembleAll (p : LogParser) (lines : List String) :
    p.feed lines = ({ p with pending := (assembleAll p.rules p.pending lines).1 },
      (assembleAll p.rules p.pending lines).2) := by
  induction lines generalizing p with
  | nil => rfl
  | cons line rest ih => simp [feed, ih, parseLine, assembleAll]

end LogParser

section Blank

variable {rules : List Rule}

/-- A draft that has a place for every rule. -/
def Fits (rules : List Rule) (pending : Option Draft) : Prop :=
  ∀ draft ∈ pending, draft.length = rules.length

theorem fits_none : Fits rules none := fun _ h => absurd h (by simp)

theorem fits_assemble {pending : Option Draft} (h : Fits rules pending) (line : String) :
    Fits rules (assemble rules pending line).1 := by
  intro draft hd
  simp only [assemble] at hd
  split at hd
  · simp at hd
  · rename_i begun hb
    have hl : begun.length = rules.length := by
      split at hb
      · obtain rfl := Option.some.inj hb
        simp [blankDraft]
      · exact h begun hb
    split at hd
    · simp at hd
    · obtain rfl := Option.some.inj hd
      simp [Draft.add, captures, hl]

theorem fits_assembleAll {pending : Option Draft} (h : Fits rules pending) (lines : List String) :
    Fits rules (assembleAll rules pending lines).1 := by
  induction lines generalizing pending with
  | nil => exact h
  | cons line rest ih => exact ih (fits_assemble h line)

theorem add_captures_of_none {line : String} (hc : ∀ r ∈ rules, r.capture line = none)
    {draft : Draft} (hl : draft.length = rules.length) : draft.add (captures rules line) = draft := by
  have hn : captures rules line = List.replicate draft.length none := by
    rw [captures, List.map_congr_left hc, List.map_const', hl]
  rw [hn]
  clear hn hl
  induction draft with
  | nil => rfl
  | cons value rest ih => simpa [Draft.add, List.replicate_succ] using ih

/-- A line on which nothing is captured leaves the message under way as it is. -/
theorem assemble_of_none {line : String} (hc : ∀ r ∈ rules, r.capture line = none)
    {pending : Option Draft} (h : Fits rules pending) : assemble rules pending line = (pending, none) := by
  have hn : ∀ value ∈ captures rules line, value = none := by
    intro value hv
    obtain ⟨r, hr, rfl⟩ := List.mem_map.mp hv
    exact hc r hr
  have hb : (captures rules line).begins = false := by
    simp only [Draft.begins]
    cases hh : (captures rules line).head? with
    | none => rfl
    | some value => simp [hn value (List.mem_of_head? hh)]
  have he : (captures rules line).ends = false := by
    simp only [Draft.ends]
    cases hg : (captures rules line).getLast? with
    | none => rfl
    | some value => simp [hn value (List.mem_of_getLast? hg)]
  cases pending with
  | none => simp [assemble, hb]
  | some draft => simp [assemble, hb, he, add_captures_of_none hc (h draft rfl)]

theorem assembleAll_concat_of_none {line : String} (hc : ∀ r ∈ rules, r.capture line = none)
    {pending : Option Draft} (h : Fits rules pending) (lines : List String) :
    assembleAll rules pending (lines ++ [line]) = assembleAll rules pending lines := by
  rw [assembleAll_append]
  simp [assembleAll, assemble_of_none hc (fits_assembleAll h lines)]

/-- The lines on which something stands. -/
def nonBlank (lines : List String) : List String := lines.filter (· ≠ "")

@[simp] theorem nonBlank_append (as bs : List String) :
    nonBlank (as ++ bs) = nonBlank as ++ nonBlank bs := List.filter_append ..

@[simp] theorem nonBlank_blank : nonBlank [""] = [] := rfl

/-- Lines on which nothing stands do not matter to rules that capture nothing there. -/
theorem assembleAll_nonBlank (hblank : ∀ r ∈ rules, r.capture "" = none) {pending : Option Draft}
    (h : Fits rules pending) (lines : List String) :
    assembleAll rules pending (nonBlank lines) = assembleAll rules pending lines := by
  induction lines generalizing pending with
  | nil => rfl
  | cons line rest ih =>
    by_cases hline : line = ""
    · subst hline
      have hrest : nonBlank ("" :: rest) = nonBlank rest := rfl
      rw [hrest, ih h]
      simp [assembleAll, assemble_of_none hblank h]
    · have hrest : nonBlank (line :: rest) = line :: nonBlank rest :=
        List.filter_cons_of_pos (by simpa using hline)
      simp only [hrest, assembleAll, ih (fits_assemble h line)]

end Blank

end AerWatch.Log
