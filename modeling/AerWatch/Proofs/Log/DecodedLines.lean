import AerWatch.Proofs.Log.WholeLines
import AerWatch.Proofs.Text.LineBreaks

/-!
# Lines of decoded text

Lines are cut out of a log file as bytes and decoded one by one. They are the lines of the decoded
whole: bytes that form no character, as when one is cut off by the line break, damage the line that
they are in and no other. So it does not matter either in how many reads the lines are taken.
-/

namespace AerWatch.Log

/-- The texts between the line breaks of a text, without the carriage returns at their ends. -/
def textLines (cs : List Char) : List String :=
  (cs.splitOn '\n').map fun line => String.ofList (dropReturns line)

section Lines

theorem lines_eq_textLines (bytes : List UInt8) : lines bytes = textLines (Utf8.decodeLossy bytes) := by
  rw [textLines, ← Utf8.map_decodeLossy_splitOn, List.map_map]
  rfl

theorem lines_append (front back : List UInt8) :
    lines (front ++ newline :: back) = lines front ++ lines back := by
  simp only [lines, List.splitOn_append_cons_self, List.map_append]

theorem lines_of_notMem {line : List UInt8} (h : newline ∉ line) : lines line = [lineText line] := by
  rw [lines, List.splitOn_eq_singleton h, List.map_singleton]

theorem dropLast_lines (bytes : List UInt8) : (lines bytes).dropLast = completeLines bytes := by
  rw [lines, completeLines_eq, List.map_dropLast]

theorem lines_completePart (bytes : List UInt8) :
    lines (completePart bytes) = completeLines bytes ++ [""] := by
  rw [← take_completeLength, lines_take_completeLength]

/-- The complete lines of parts that end with line breaks are those of the whole. -/
theorem completeLines_flatten {parts : List (List UInt8)} (h : ∀ part ∈ parts, IsComplete part) :
    completeLines parts.flatten = parts.flatMap completeLines := by
  induction parts with
  | nil => rfl
  | cons part parts ih =>
    obtain ⟨hpart, hparts⟩ := List.forall_mem_cons.mp h
    rw [List.flatten_cons, completeLines_append hpart, ih hparts, List.flatMap_cons]

end Lines

section Reading

variable {c : ParserConfig} {path : String} {fresh : LogParser}

/-- What a read takes of a file are the lines of the stretch that it passes over, decoded as a whole. -/
theorem takeFrom_eq_textLines (p : LogParser) (identity : Nat) (bytes : List UInt8) (start : Nat) :
    let consumed := completePart (bytes.drop start)
    p.takeFrom ⟨identity, .regular bytes⟩ start =
      ({ p with offset := some (start + consumed.length) }, .ok (textLines (Utf8.decodeLossy consumed))) := by
  intro consumed
  rw [takeFrom_regular, completeLength_eq, ← lines_completePart, lines_eq_textLines]

/-- What is taken of a file while it grows, in whichever reads, are the lines of one stretch of it. -/
theorem exists_consumed_of_run (hfresh : LogParser.create c path = .ok fresh) (identity : Nat)
    (turns : List Turn) :
    let f := (Following.start fresh).run identity turns
    let fed := (Following.start fresh).fed identity turns
    ∃ front consumed, front ++ consumed <+: f.file ∧ IsComplete consumed ∧
      nonBlank fed = nonBlank (textLines (Utf8.decodeLossy consumed)) ∧
      f.messages = (fresh.feed fed).2 := by
  intro f fed
  obtain ⟨rules, -, rfl⟩ := eq_of_create hfresh
  simp only [LogParser.feed_eq_assembleAll]
  have hrun := run_of_unread identity (f := .start { name := c.name, path, rules }) rfl rfl rfl rfl
  rcases hrun turns with ⟨hfed, -, hmessages⟩ | ⟨seen, h⟩
  · have hfed' : fed = [] := hfed
    rw [hfed']
    exact ⟨[], [], List.nil_prefix, isComplete_nil, rfl, hmessages⟩
  · have hprefix : completePart seen <+: seen := ⟨openTail seen, completePart_append_openTail seen⟩
    have hconsumed : passedOver [] turns ++ completePart seen <+: f.file :=
      ((List.prefix_append_right_inj _).mpr hprefix).trans h.grown
    refine ⟨_, completePart seen, hconsumed, isComplete_completePart seen, ?_, h.messages⟩
    rw [← lines_eq_textLines, lines_completePart, nonBlank_append, nonBlank_blank, List.append_nil]
    exact h.fed

end Reading

/-- Cutting a byte string into lines and decoding each gives the lines of the decoded text, for any
bytes. So what stands before a line break and what stands behind it do not alter each other, a line is
never torn or joined to another one, and lines that are taken in several reads are those of the whole
stretch that was read. -/
theorem lines_of_decoded_text :
    (∀ bytes, (bytes.splitOn newline).map Utf8.decodeLossy = (Utf8.decodeLossy bytes).splitOn '\n' ∧
      lines bytes = textLines (Utf8.decodeLossy bytes)) ∧
    (∀ front back, textLines (Utf8.decodeLossy (front ++ newline :: back)) =
      textLines (Utf8.decodeLossy front) ++ textLines (Utf8.decodeLossy back)) ∧
    (∀ line, newline ∉ line → textLines (Utf8.decodeLossy line) = [lineText line]) ∧
    (∀ parts : List (List UInt8), (∀ part ∈ parts, IsComplete part) →
      parts.flatMap (fun part => (lines part).dropLast) =
        (textLines (Utf8.decodeLossy parts.flatten)).dropLast) ∧
    (∀ (p : LogParser) identity bytes start,
      let consumed := completePart (bytes.drop start)
      p.takeFrom ⟨identity, .regular bytes⟩ start =
        ({ p with offset := some (start + consumed.length) },
          .ok (textLines (Utf8.decodeLossy consumed)))) ∧
    ∀ c path fresh, LogParser.create c path = .ok fresh → ∀ identity turns,
      let f := (Following.start fresh).run identity turns
      let fed := (Following.start fresh).fed identity turns
      ∃ front consumed, front ++ consumed <+: f.file ∧ IsComplete consumed ∧
        nonBlank fed = nonBlank (textLines (Utf8.decodeLossy consumed)) ∧
        f.messages = (fresh.feed fed).2 := by
  refine ⟨fun bytes => ⟨Utf8.map_decodeLossy_splitOn bytes, lines_eq_textLines bytes⟩,
    fun front back => ?_, fun line hline => ?_, fun parts hparts => ?_, takeFrom_eq_textLines,
    fun c path fresh hfresh => exists_consumed_of_run hfresh⟩
  · simp only [← lines_eq_textLines, lines_append]
  · rw [← lines_eq_textLines, lines_of_notMem hline]
  · rw [← lines_eq_textLines, dropLast_lines, completeLines_flatten hparts]
    simp only [dropLast_lines]

/-- A character that a line break cuts off, in front of a line that begins with a byte of none: each of
the two lines keeps its damage to itself, read at once or one by one. -/
theorem lines_of_text_with_cut_character :
    let c : ParserConfig := ⟨"ids", [{ name := "id", regex := "^id=(.*)" }]⟩
    let cut : List UInt8 := Utf8.encode "id=7" ++ [0xe2, 0x82]
    let next : List UInt8 := 0x82 :: Utf8.encode "id=8\r"
    let turns : List Turn := [.append (cut ++ [newline]), .read .empty true, .append (next ++ [newline]),
      .read .empty true]
    textLines (Utf8.decodeLossy (cut ++ newline :: next)) = ["id=7\uFFFD", "\uFFFDid=8"] ∧
      lineText cut = "id=7\uFFFD" ∧ lineText next = "\uFFFDid=8" ∧
      [cut ++ [newline], next ++ [newline]].flatMap (fun part => (lines part).dropLast) =
        ["id=7\uFFFD", "\uFFFDid=8"] ∧
      ∃ fresh, LogParser.create c "syslog" = .ok fresh ∧
        let f := (Following.start fresh).run 1 turns
        let fed := (Following.start fresh).fed 1 turns
        f.messages = [⟨[("id", "7\uFFFD")]⟩] ∧
        ∃ front consumed, front ++ consumed <+: f.file ∧ IsComplete consumed ∧
          nonBlank fed = nonBlank (textLines (Utf8.decodeLossy consumed)) ∧
          f.messages = (fresh.feed fed).2 := by
  intro c cut next turns
  obtain ⟨-, happend, hline, hparts, -, hrun⟩ := lines_of_decoded_text
  have hcut : textLines (Utf8.decodeLossy cut) = [lineText cut] := hline cut (by decide +kernel)
  have hnext : textLines (Utf8.decodeLossy next) = [lineText next] := hline next (by decide +kernel)
  have hcuttext : lineText cut = "id=7\uFFFD" := by decide +kernel
  have hnexttext : lineText next = "\uFFFDid=8" := by decide +kernel
  refine ⟨?_, hcuttext, hnexttext, ?_, ?_⟩
  · rw [happend, hcut, hnext, hcuttext, hnexttext]
    rfl
  · have hends : ∀ part ∈ [cut ++ [newline], next ++ [newline]], IsComplete part := by
      simp [isComplete_concat]
    rw [hparts _ hends]
    decide +kernel
  · have h : (LogParser.create c "syslog").toOption.any (fun fresh =>
        decide (((Following.start fresh).run 1 turns).messages = [⟨[("id", "7\uFFFD")]⟩])) = true := by
      decide +kernel
    obtain ⟨fresh, hfresh, h⟩ := exists_of_any h
    exact ⟨fresh, hfresh, of_decide_eq_true h, hrun c "syslog" fresh hfresh 1 turns⟩

end AerWatch.Log
