import AerWatch.Proofs.Log.Feeding
import Mathlib.Data.List.Infix

/-!
# Framing of messages

Which messages a history of lines holds, said without a message under way. A segment runs from the
latest line on which the first rule captures to the first line from there on which the last rule
does, and its message has for every rule the value captured latest in it. `Log.assemble` takes a
history line by line and comes to the same messages.
-/

namespace AerWatch.Log

section Segments

variable (rules : List Rule)

/-- Whether a message begins on a line. -/
def opens (line : String) : Bool := rules.head?.any fun r => (r.capture line).isSome

/-- Whether a message ends on a line. -/
def closes (line : String) : Bool := rules.getLast?.any fun r => (r.capture line).isSome

/-- The lines from the latest one on which a message begins. -/
def segment? : List String → Option (List String)
  | [] => none
  | line :: rest => (segment? rest).or (if opens rules line then some (line :: rest) else none)

/-- Whether no message ends on any of the lines. -/
def isOpen (lines : List String) : Bool := lines.all (!closes rules ·)

/-- Whether a message ends on the last line of a segment and on no line before. -/
def closesLast (segment : List String) : Bool :=
  segment.getLast?.any (closes rules) && isOpen rules segment.dropLast

/-- The value that a rule captured latest. -/
def latest? (r : Rule) (lines : List String) : Option String := (lines.filterMap r.capture).getLast?

/-- The values captured latest, under the names of their rules. -/
def latestItems (lines : List String) : List (String × String) :=
  rules.filterMap fun r => (latest? r lines).map fun value => (r.name, value)

/-- The message of a closed segment, unless a mandatory value is missing. -/
def segmentMessage? (segment : List String) : Option Message :=
  if rules.any fun r => r.mandatory && (latest? r segment).isNone then none
  else some ⟨latestItems rules segment⟩

/-- The message that the last line of a history completes. -/
def framed? (history : List String) : Option Message :=
  (segment? rules history).bind fun s => if closesLast rules s then segmentMessage? rules s else none

variable {rules}

theorem segment?_concat (history : List String) (line : String) :
    segment? rules (history ++ [line]) =
      if opens rules line then some [line] else (segment? rules history).map (· ++ [line]) := by
  induction history with
  | nil => cases h : opens rules line <;> simp [segment?, h]
  | cons a rest ih =>
    simp only [List.cons_append, segment?, ih]
    cases opens rules line with
    | true => simp
    | false =>
      cases segment? rules rest with
      | some s => simp
      | none => cases opens rules a <;> simp

/-- A segment is the end of a history from a line on that begins a message, after which none does. -/
theorem segment?_eq_some_iff {history s : List String} :
    segment? rules history = some s ↔
      ∃ before line rest, history = before ++ line :: rest ∧ s = line :: rest ∧
        opens rules line = true ∧ ∀ l ∈ rest, opens rules l = false := by
  induction history using List.reverseRecOn generalizing s with
  | nil => simp [segment?]
  | append_singleton history last ih =>
    rw [segment?_concat]
    cases ho : opens rules last with
    | true =>
      constructor
      · intro h
        exact ⟨history, last, [], rfl, (by simpa using h.symm), ho, by simp⟩
      · rintro ⟨before, line, rest, hh, rfl, -, hrest⟩
        cases rest using List.reverseRecOn with
        | nil =>
          obtain ⟨-, h⟩ := List.append_inj' hh rfl
          simpa using h
        | append_singleton rest l =>
          rw [← List.cons_append, ← List.append_assoc] at hh
          obtain ⟨-, h⟩ := List.append_inj' hh rfl
          obtain rfl := List.singleton_inj.mp h
          exact absurd (hrest last (by simp)) (by simp [ho])
    | false =>
      simp only [Bool.false_eq_true, if_false, Option.map_eq_some_iff]
      constructor
      · rintro ⟨t, ht, rfl⟩
        obtain ⟨before, line, rest, rfl, rfl, hl, hrest⟩ := ih.mp ht
        refine ⟨before, line, rest ++ [last], by simp, by simp, hl, fun l hm => ?_⟩
        rcases List.mem_append.mp hm with hm | hm
        · exact hrest l hm
        · exact List.mem_singleton.mp hm ▸ ho
      · rintro ⟨before, line, rest, hh, rfl, hl, hrest⟩
        cases rest using List.reverseRecOn with
        | nil =>
          obtain ⟨-, h⟩ := List.append_inj' hh rfl
          obtain rfl := List.singleton_inj.mp h
          exact absurd hl (by simp [ho])
        | append_singleton rest l =>
          rw [← List.cons_append, ← List.append_assoc] at hh
          obtain ⟨rfl, h⟩ := List.append_inj' hh rfl
          obtain rfl := List.singleton_inj.mp h
          exact ⟨line :: rest, ih.mpr ⟨before, line, rest, rfl, rfl, hl, fun l hm =>
            hrest l (by simp [hm])⟩, by simp⟩

theorem latest?_concat (r : Rule) (lines : List String) (line : String) :
    latest? r (lines ++ [line]) = (r.capture line).or (latest? r lines) := by
  simp only [latest?, List.filterMap_append, List.getLast?_append]
  cases h : r.capture line <;> simp [h]

theorem isOpen_concat (s : List String) (line : String) :
    isOpen rules (s ++ [line]) = (isOpen rules s && !closes rules line) := by
  simp [isOpen]

theorem closesLast_concat (s : List String) (line : String) :
    closesLast rules (s ++ [line]) = (closes rules line && isOpen rules s) := by
  simp [closesLast]

end Segments

/-! ### The message under way -/

section Simulation

variable {rules : List Rule}

/-- The values of the segment that is open at the end of a history. -/
def openDraft (rules : List Rule) (history : List String) : Option Draft :=
  (segment? rules history).bind fun s =>
    if isOpen rules s then some (rules.map (latest? · s)) else none

theorem begins_captures (line : String) : (captures rules line).begins = opens rules line := by
  simp only [Draft.begins, captures, List.head?_map, opens]
  cases rules.head? <;> rfl

theorem ends_captures (line : String) : (captures rules line).ends = closes rules line := by
  simp only [Draft.ends, captures, List.getLast?_map, closes]
  cases rules.getLast? <;> rfl

theorem add_captures (s : List String) (line : String) :
    Draft.add (rules.map (latest? · s)) (captures rules line) =
      rules.map (latest? · (s ++ [line])) := by
  simp only [Draft.add, captures, List.zipWith_map, List.zipWith_self]
  exact List.map_congr_left fun r _ => (latest?_concat r s line).symm

theorem message?_map_latest (s : List String) :
    Draft.message? rules (rules.map (latest? · s)) = segmentMessage? rules s := by
  have hz : rules.zip (rules.map (latest? · s)) = rules.map fun r => (r, latest? r s) := by
    rw [List.zip_map_right, List.zip_eq_zipWith, List.zipWith_self, List.map_map]
    rfl
  simp only [Draft.message?, hz, List.any_map, List.filterMap_map, segmentMessage?, latestItems]
  rfl

/-- One line more of an open segment: what is under way then, and the message that the line
completes. -/
theorem advance {s : List String} (hs : isOpen rules s = true) (line : String) :
    (let draft := Draft.add (rules.map (latest? · s)) (captures rules line)
      if (captures rules line).ends then (none, draft.message? rules) else (some draft, none)) =
    (if isOpen rules (s ++ [line]) then some (rules.map (latest? · (s ++ [line]))) else none,
      if closesLast rules (s ++ [line]) then segmentMessage? rules (s ++ [line]) else none) := by
  simp only [add_captures, ends_captures, message?_map_latest, closesLast_concat, isOpen_concat, hs]
  cases h : closes rules line <;> rfl

/-- The assembly has under way the open segment of the history, and completes its messages. -/
theorem assemble_openDraft (history : List String) (line : String) :
    assemble rules (openDraft rules history) line =
      (openDraft rules (history ++ [line]), framed? rules (history ++ [line])) := by
  simp only [assemble, openDraft, framed?, segment?_concat, begins_captures]
  cases opens rules line with
  | true =>
    -- the new segment is the line alone, and a blank draft holds the values of no lines
    exact advance (s := []) rfl line
  | false =>
    cases hs : segment? rules history with
    | none => rfl
    | some s =>
      cases hopen : isOpen rules s with
      | true => simpa [hopen] using advance hopen line
      | false => simp [hopen, closesLast_concat, isOpen_concat]

theorem assembleAll_none (lines : List String) :
    assembleAll rules none lines =
      (openDraft rules lines, lines.inits.filterMap (framed? rules)) := by
  induction lines using List.reverseRecOn with
  | nil => rfl
  | append_singleton lines line ih =>
    rw [assembleAll_append, ih]
    simp only [assembleAll, assemble_openDraft, List.append_nil, List.inits_append, List.inits_cons,
      List.tail_cons, List.filterMap_append, List.map_map]
    cases h : framed? rules (lines ++ [line]) <;> simp [h]

end Simulation

/-! ### Complete messages -/

section Completeness

variable {rules : List Rule}

theorem latest?_isSome_iff {r : Rule} {lines : List String} :
    (latest? r lines).isSome ↔ ∃ line ∈ lines, (r.capture line).isSome := by
  simp only [latest?, Option.isSome_iff_ne_none, ne_eq, List.getLast?_eq_none_iff,
    List.filterMap_eq_nil_iff, not_forall, exists_prop]

/-- A message is that of a closed segment, in which no mandatory value is missing. -/
theorem framed?_eq_some {history : List String} {m : Message} (h : framed? rules history = some m) :
    ∃ s, segment? rules history = some s ∧ closesLast rules s = true ∧
      m.items = latestItems rules s ∧ ∀ r ∈ rules, r.mandatory = true → (latest? r s).isSome := by
  obtain ⟨s, hs, hm⟩ := Option.bind_eq_some_iff.mp h
  split at hm
  · rename_i hc
    unfold segmentMessage? at hm
    split at hm
    · simp at hm
    · rename_i hall
      obtain rfl := Option.some.inj hm
      refine ⟨s, hs, hc, rfl, fun r hr hmand => ?_⟩
      by_contra hnone
      exact hall (List.any_eq_true.mpr ⟨r, hr, by simpa [hmand] using hnone⟩)
  · simp at hm

/-- The first rule and the last one have a value in every closed segment. -/
theorem isSome_latest?_of_ends {history s : List String} (hs : segment? rules history = some s)
    (hc : closesLast rules s = true) {r : Rule}
    (h : rules.head? = some r ∨ rules.getLast? = some r) :
    (latest? r s).isSome := by
  rw [latest?_isSome_iff]
  rcases h with h | h
  · obtain ⟨-, line, rest, -, rfl, ho, -⟩ := segment?_eq_some_iff.mp hs
    exact ⟨line, by simp, by simpa [opens, h] using ho⟩
  · simp only [closesLast, Bool.and_eq_true, Option.any_eq_true] at hc
    obtain ⟨⟨line, hl, hline⟩, -⟩ := hc
    exact ⟨line, List.mem_of_getLast? hl, by simpa [closes, h] using hline⟩

/-- A fresh parser gives the messages of the closed segments, each on the line that closes it; they
have a value for the first rule, the last one and every mandatory one. -/
theorem messages_of_segments (name path : String) (rules : List Rule) (lines : List String) :
    let p : LogParser := { name, path, rules }
    (p.feed lines).2 = lines.inits.filterMap (framed? rules) ∧
    (∀ before line, ((p.feed before).1.parseLine line).2 = framed? rules (before ++ [line])) ∧
    ∀ m ∈ (p.feed lines).2, ∃ history s, history <+: lines ∧ segment? rules history = some s ∧
      closesLast rules s = true ∧ m.items = latestItems rules s ∧
      ∀ r ∈ rules, r.mandatory = true ∨ rules.head? = some r ∨ rules.getLast? = some r →
        (latest? r s).isSome := by
  intro p
  have hfeed (ls : List String) : p.feed ls =
      ({ p with pending := openDraft rules ls }, ls.inits.filterMap (framed? rules)) := by
    rw [LogParser.feed_eq_assembleAll, assembleAll_none]
  refine ⟨by rw [hfeed], fun before line => ?_, fun m hm => ?_⟩
  · rw [hfeed]
    simp only [LogParser.parseLine]
    exact congrArg Prod.snd (assemble_openDraft before line)
  · rw [hfeed] at hm
    obtain ⟨history, hh, hf⟩ := List.mem_filterMap.mp hm
    obtain ⟨s, hs, hc, hitems, hmand⟩ := framed?_eq_some hf
    refine ⟨history, s, (List.mem_inits _ _).mp hh, hs, hc, hitems, fun r hr h => ?_⟩
    rcases h with h | h
    · exact hmand r hr h
    · exact isSome_latest?_of_ends hs hc h

/-- A message that is begun anew on the second line and closed on the last one. -/
theorem messages_of_restarted_segment :
    let port : Rule := ⟨"port", true, fun l =>
      if l = "open" then some "a" else if l = "again" then some "b" else none⟩
    let kind : Rule := ⟨"kind", false, fun l => if l = "open" then some "old" else none⟩
    let id : Rule := ⟨"id", true, fun l => if l = "close" then some "7" else none⟩
    let p : LogParser := { name := "log", path := "syslog", rules := [port, kind, id] }
    let m : Message := ⟨[("port", "b"), ("id", "7")]⟩
    m ∈ (p.feed ["open", "again", "close"]).2 ∧ port ∈ p.rules ∧ port.mandatory = true ∧
      ∃ s, m.items = latestItems p.rules s ∧ (latest? port s).isSome := by
  intro port kind id p m
  have hm : m ∈ (p.feed ["open", "again", "close"]).2 := by decide
  have hp : port ∈ p.rules := List.mem_cons_self
  obtain ⟨-, -, h⟩ := messages_of_segments "log" "syslog" [port, kind, id] ["open", "again", "close"]
  obtain ⟨-, s, -, -, -, hitems, hall⟩ := h m hm
  exact ⟨hm, hp, rfl, s, hitems, hall port hp (.inl rfl)⟩

end Completeness

end AerWatch.Log
