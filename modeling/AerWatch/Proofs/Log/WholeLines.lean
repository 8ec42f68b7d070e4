import AerWatch.Proofs.Log.Reads

/-!
# Whole lines

Every line that a parser takes in while a file grows is a whole line of the file, with one exception. A
first read that does not replay goes to the end of the file. When a line is unfinished there, what
completes it is taken for a line of its own.
-/

namespace AerWatch.Log

section Lines

/-- The text is a line of `bytes`: it begins where these begin or behind a line break, and it ends in
front of the next one. -/
def IsLineOf (bytes : List UInt8) (line : String) : Prop :=
  ∃ before body after, bytes = before ++ (body ++ newline :: after) ∧ IsComplete before ∧
    newline ∉ body ∧ line = lineText body

theorem isComplete_concat (body : List UInt8) : IsComplete (body ++ [newline]) :=
  isComplete_iff.mpr (.inr ⟨body, rfl⟩)

theorem IsComplete.append {before body : List UInt8} (hb : IsComplete before) (h : IsComplete body) :
    IsComplete (before ++ body) := by
  rcases isComplete_iff.mp h with rfl | ⟨front, rfl⟩
  · rwa [List.append_nil]
  · rw [← List.append_assoc]
    exact isComplete_concat _

theorem completeLines_cons {body : List UInt8} (h : newline ∉ body) (after : List UInt8) :
    completeLines (body ++ newline :: after) = lineText body :: completeLines after := by
  have hbody : completeLines (body ++ [newline]) = [lineText body] := by
    simp [completeLines_eq, List.splitOn_append_cons_self, List.splitOn_eq_singleton h]
  rw [List.append_cons, completeLines_append (isComplete_concat body), hbody, List.singleton_append]

/-- The complete lines are the lines between the line breaks. -/
theorem mem_completeLines_iff {bytes : List UInt8} {line : String} :
    line ∈ completeLines bytes ↔ IsLineOf bytes line := by
  constructor
  · intro h
    -- a line at a time, so that the file behind the first line break is the shorter one
    induction hn : bytes.length using Nat.strong_induction_on generalizing bytes with
    | _ n ih =>
      by_cases hbreak : newline ∈ bytes
      · obtain ⟨body, after, rfl, hbody⟩ := List.eq_append_cons_of_mem hbreak
        rw [completeLines_cons hbody, List.mem_cons] at h
        rcases h with rfl | h
        · exact ⟨[], body, after, rfl, isComplete_nil, hbody, rfl⟩
        · obtain ⟨before, body', after', rfl, hbefore, hbody', hline⟩ :=
            ih after.length (by simp [← hn]; omega) h rfl
          refine ⟨body ++ [newline] ++ before, body', after', by simp, ?_, hbody', hline⟩
          exact (isComplete_concat body).append hbefore
      · simp [completeLines_of_notMem hbreak] at h
  · rintro ⟨before, body, after, rfl, hbefore, hbody, rfl⟩
    rw [completeLines_append hbefore, completeLines_cons hbody]
    simp

theorem IsLineOf.mono {seen bytes : List UInt8} {line : String} (h : IsLineOf seen line)
    (hseen : seen <+: bytes) : IsLineOf bytes line := by
  obtain ⟨more, rfl⟩ := hseen
  obtain ⟨before, body, after, rfl, hbefore, hbody, hline⟩ := h
  exact ⟨before, body, after ++ more, by simp, hbefore, hbody, hline⟩

/-- What is complete behind a line break are lines of the whole. -/
theorem isLineOf_of_mem {front lines bytes : List UInt8} {line : String} (hfront : IsComplete front)
    (h : front ++ lines <+: bytes) (hline : line ∈ completeLines lines) : IsLineOf bytes line := by
  have hwhole : IsLineOf (front ++ lines) line := by
    rw [← mem_completeLines_iff, completeLines_append hfront]
    exact List.mem_append_right _ hline
  exact hwhole.mono h

/-- What is complete behind a part of the file is a stretch of its lines, but for the rest of the one
that the part left unfinished. -/
theorem completeLines_behind (base more : List UInt8) :
    ∃ rest front lines, completeLines more = rest ++ completeLines lines ∧ IsComplete front ∧
      front ++ lines <+: base ++ more ∧
      (rest = [] ∨ ¬IsComplete base ∧
        ∃ body, newline ∉ body ∧ front = base ++ (body ++ [newline]) ∧ rest = [lineText body]) := by
  by_cases hbase : IsComplete base
  · exact ⟨[], base, more, rfl, hbase, List.prefix_rfl, .inl rfl⟩
  · by_cases hbreak : newline ∈ more
    · obtain ⟨body, after, rfl, hbody⟩ := List.eq_append_cons_of_mem hbreak
      refine ⟨[lineText body], base ++ (body ++ [newline]), after, completeLines_cons hbody after, ?_,
        by simp, .inr ⟨hbase, body, hbody, rfl, rfl⟩⟩
      rw [← List.append_assoc]
      exact isComplete_concat _
    · exact ⟨[], [], [], completeLines_of_notMem hbreak, isComplete_nil, List.nil_prefix, .inl rfl⟩

end Lines

/-! ### Runs -/

namespace Following

variable (identity : Nat)

/-- The lines that the parser takes in during a turn. -/
def taken (f : Following) : Turn → List String
  | .append _ => []
  | .read fs replay =>
    let fs := fs.withFile f.parser.path (.ok ⟨identity, .regular f.file⟩)
    (f.parser.take fs replay).2.toOption.getD []
  | .refuse fs fault replay =>
    (f.parser.take (fs.withFile f.parser.path (.error fault)) replay).2.toOption.getD []

/-- All lines that the parser takes in during a run. -/
def fed (f : Following) : List Turn → List String
  | [] => []
  | turn :: rest => f.taken identity turn ++ (f.step identity turn).fed rest

end Following

/-- What a file holds when it is first read without replay, so that the parser passes it over. -/
def passedOver (file : List UInt8) : List Turn → List UInt8
  | [] => []
  | .append chunk :: rest => passedOver (file ++ chunk) rest
  | .read _ replay :: _ => if replay then [] else file
  | .refuse .. :: rest => passedOver file rest

section Invariant

/-- The parser was fed the lines `fed`, which are those complete in `seen`, a part of the file behind
`base`. -/
structure TailsFrom (fresh : LogParser) (identity : Nat) (base seen : List UInt8) (fed : List String)
    (f : Following) : Prop where
  grown : base ++ seen <+: f.file
  parser : f.parser =
    { fresh with
      offset := some (base.length + completeLength seen)
      identity := some identity
      pending := (assembleAll fresh.rules none fed).1 }
  messages : f.messages = (assembleAll fresh.rules none fed).2
  fed : nonBlank fed = nonBlank (completeLines seen)

variable {fresh : LogParser} {identity : Nat} {base seen : List UInt8} {fed : List String}
  {f : Following}

/-- A turn in which the parser takes lines of the file. -/
theorem step_of_take {fs : FileSystem} {replay : Bool} {q : LogParser} {lines : List String}
    (h : f.parser.take (fs.withFile f.parser.path (.ok ⟨identity, .regular f.file⟩)) replay =
      (q, .ok lines)) :
    f.taken identity (.read fs replay) = lines ∧
      f.step identity (.read fs replay) =
        { f with parser := (q.feed lines).1, messages := f.messages ++ (q.feed lines).2 } := by
  constructor
  · simp only [Following.taken, h]
    rfl
  · refine readThrough_of_ok ?_
    rw [LogParser.read_eq_feed, h]

/-- A file that cannot be opened gives no lines. -/
theorem taken_refuse (fs : FileSystem) (fault : FileFault) (replay : Bool) :
    f.taken identity (.refuse fs fault replay) = [] := by
  simp [Following.taken, LogParser.take, Except.toOption]

theorem TailsFrom.read (h : TailsFrom fresh identity base seen fed f) (fs : FileSystem)
    (replay : Bool) :
    ∃ seen, TailsFrom fresh identity base seen (fed ++ f.taken identity (.read fs replay))
      (f.step identity (.read fs replay)) := by
  obtain ⟨added, hfile⟩ := h.grown
  rw [List.append_assoc] at hfile
  have hseen : seen <+: seen ++ added := List.prefix_append ..
  have htake := take_of_grown (q := f.parser) (FileSystem.openFile_withFile fs ..) hfile.symm hseen
    (congrArg LogParser.identity h.parser) (congrArg LogParser.offset h.parser) replay
  obtain ⟨htaken, hstep⟩ := step_of_take htake
  refine ⟨seen ++ added, ?_⟩
  rw [htaken, hstep]
  refine ⟨by rw [hfile], ?_, ?_, ?_⟩
  · simp only [LogParser.feed_eq_assembleAll, assembleAll_append, h.parser]
  · simp only [LogParser.feed_eq_assembleAll, assembleAll_append, h.messages, h.parser]
  · -- the empty line that ends each read is blank, so the lines of both reads join up
    rw [nonBlank_append, nonBlank_append, h.fed, (completeLines_of_grown hseen).1, nonBlank_append,
      nonBlank_blank, List.append_nil]

/-- One turn of a run in which the parser has read the file before. -/
theorem TailsFrom.step (h : TailsFrom fresh identity base seen fed f) (turn : Turn) :
    ∃ seen, TailsFrom fresh identity base seen (fed ++ f.taken identity turn)
      (f.step identity turn) := by
  cases turn with
  | append chunk =>
    rw [Following.taken, List.append_nil]
    exact ⟨seen, h.grown.trans (List.prefix_append ..), h.parser, h.messages, h.fed⟩
  | read fs replay => exact h.read fs replay
  | refuse fs fault replay =>
    rw [taken_refuse, List.append_nil, Following.step, readThrough_refused]
    exact ⟨seen, h⟩

theorem TailsFrom.run (h : TailsFrom fresh identity base seen fed f) (turns : List Turn) :
    ∃ seen, TailsFrom fresh identity base seen (fed ++ f.fed identity turns)
      (f.run identity turns) := by
  induction turns generalizing seen fed f with
  | nil => exact ⟨seen, by rwa [Following.fed, List.append_nil]⟩
  | cons turn turns ih =>
    obtain ⟨seen, hstep⟩ := h.step turn
    rw [Following.fed, ← List.append_assoc]
    exact ih hstep

/-- The first read of the file. -/
theorem tailsFrom_of_unread (hoffset : fresh.offset = none) (hpending : fresh.pending = none)
    (hparser : f.parser = fresh) (hmessages : f.messages = []) (fs : FileSystem) (replay : Bool) :
    ∃ seen, TailsFrom fresh identity (if replay then [] else f.file) seen
      (f.taken identity (.read fs replay)) (f.step identity (.read fs replay)) := by
  subst hparser
  have hfile :=
    FileSystem.openFile_withFile fs f.parser.path (.ok ⟨identity, .regular f.file⟩)
  cases replay with
  | false =>
    obtain ⟨htaken, hstep⟩ := step_of_take (take_of_not_replay hfile hoffset)
    refine ⟨[], ?_⟩
    rw [htaken, hstep]
    refine ⟨by simp, ?_, ?_, rfl⟩
    · simp [LogParser.feed_eq_assembleAll, hpending]
    · simp [LogParser.feed_eq_assembleAll, hmessages]
  | true =>
    obtain ⟨htaken, hstep⟩ := step_of_take (take_fresh hfile hoffset)
    refine ⟨f.file, ?_⟩
    rw [htaken, hstep]
    refine ⟨by simp, ?_, ?_, ?_⟩
    · simp [LogParser.feed_eq_assembleAll, hpending]
    · simp [LogParser.feed_eq_assembleAll, hpending, hmessages]
    · simp

variable (identity) in
/-- What a run comes to: either the file is not read at all, or the parser tails it from where the first
read left it. -/
theorem run_of_unread (hoffset : fresh.offset = none) (hpending : fresh.pending = none)
    (hparser : f.parser = fresh) (hmessages : f.messages = []) (turns : List Turn) :
    (f.fed identity turns = [] ∧ (f.run identity turns).parser = fresh ∧
        (f.run identity turns).messages = []) ∨
      ∃ seen, TailsFrom fresh identity (passedOver f.file turns) seen (f.fed identity turns)
        (f.run identity turns) := by
  induction turns generalizing f with
  | nil => exact .inl ⟨rfl, hparser, hmessages⟩
  | cons turn turns ih =>
    cases turn with
    | append chunk => exact ih hparser hmessages
    | read fs replay =>
      obtain ⟨seen, h⟩ := tailsFrom_of_unread hoffset hpending hparser hmessages fs replay
      exact .inr (h.run turns)
    | refuse fs fault replay =>
      -- a file that cannot be opened is still unread, with the same bytes to pass over
      have hstep : f.step identity (.refuse fs fault replay) = f := readThrough_refused ..
      have hrun : f.run identity (.refuse fs fault replay :: turns) = f.run identity turns :=
        congrArg (Following.run identity · turns) hstep
      rw [hrun, Following.fed, taken_refuse, hstep, List.nil_append]
      exact ih hparser hmessages

end Invariant

/-- All lines that a parser takes in while a file grows are a stretch of the lines of the file, but for
one. If the first read does not replay the file, and the last line is unfinished then, the first line
taken in is what was missing of it. From the lines taken in the parser has assembled its messages. -/
theorem lines_taken_of_growing_file {c : ParserConfig} {path : String} {fresh : LogParser}
    (hfresh : LogParser.create c path = .ok fresh) (identity : Nat) (turns : List Turn) :
    let f := (Following.start fresh).run identity turns
    let fed := (Following.start fresh).fed identity turns
    let base := passedOver [] turns
    (∃ rest front lines, nonBlank fed = nonBlank (rest ++ completeLines lines) ∧ IsComplete front ∧
      front ++ lines <+: f.file ∧ (∀ line ∈ completeLines lines, IsLineOf f.file line) ∧
      (rest = [] ∨ ¬IsComplete base ∧
        ∃ body, newline ∉ body ∧ front = base ++ (body ++ [newline]) ∧ rest = [lineText body])) ∧
    f.messages = (fresh.feed fed).2 ∧ f.parser.pending = (fresh.feed fed).1.pending := by
  intro f fed base
  obtain ⟨rules, -, rfl⟩ := eq_of_create hfresh
  simp only [LogParser.feed_eq_assembleAll]
  have hrun := run_of_unread identity (f := .start { name := c.name, path, rules }) rfl rfl rfl rfl
  rcases hrun turns with ⟨hfed, hparser, hmessages⟩ | ⟨seen, h⟩
  · have hfed' : fed = [] := hfed
    rw [hfed']
    exact ⟨⟨[], [], [], rfl, isComplete_nil, List.nil_prefix, by simp, .inl rfl⟩, hmessages,
      congrArg LogParser.pending hparser⟩
  · refine ⟨?_, h.messages, congrArg LogParser.pending h.parser⟩
    obtain ⟨rest, front, lines, hlines, hfront, hbehind, hrest⟩ := completeLines_behind base seen
    have hstretch : front ++ lines <+: f.file := hbehind.trans h.grown
    exact ⟨rest, front, lines, by rw [h.fed, hlines], hfront, hstretch,
      fun line hline => isLineOf_of_mem hfront hstretch hline, hrest⟩

/-- The first read finds half a line and passes over it, and a later read finds half of the next one. -/
theorem lines_taken_behind_unfinished_line :
    let c : ParserConfig := ⟨"ids", [{ name := "id", regex := "^id=(.*)" }]⟩
    let turns : List Turn := [.append (Utf8.encode "port=1 "), .read .empty false,
      .append (Utf8.encode "id=7\nid="), .read .empty true, .append (Utf8.encode "8\n"),
      .read .empty false]
    ∃ fresh, LogParser.create c "syslog" = .ok fresh ∧
      let f := (Following.start fresh).run 1 turns
      let fed := (Following.start fresh).fed 1 turns
      let base := passedOver [] turns
      base = Utf8.encode "port=1 " ∧ nonBlank fed = ["id=7", "id=8"] ∧
      (∃ rest front lines, nonBlank fed = nonBlank (rest ++ completeLines lines) ∧ IsComplete front ∧
        front ++ lines <+: f.file ∧ (∀ line ∈ completeLines lines, IsLineOf f.file line) ∧
        (rest = [] ∨ ¬IsComplete base ∧
          ∃ body, newline ∉ body ∧ front = base ++ (body ++ [newline]) ∧ rest = [lineText body])) ∧
      f.messages = (fresh.feed fed).2 ∧ f.parser.pending = (fresh.feed fed).1.pending := by
  intro c turns
  have h : (LogParser.create c "syslog").toOption.any (fun fresh =>
      decide (passedOver [] turns = Utf8.encode "port=1 " ∧
        nonBlank ((Following.start fresh).fed 1 turns) = ["id=7", "id=8"])) = true := by
    decide +kernel
  obtain ⟨fresh, hfresh, h⟩ := exists_of_any h
  obtain ⟨hbase, hfed⟩ := of_decide_eq_true h
  exact ⟨fresh, hfresh, hbase, hfed, lines_taken_of_growing_file hfresh 1 turns⟩

/-- What completes a line that the first read passed over is taken for a line, which it is not, and gives
a message. -/
theorem message_of_torn_off_line :
    let c : ParserConfig := ⟨"ids", [{ name := "id", regex := "^id=(.*)" }]⟩
    let turns : List Turn := [.append (Utf8.encode "port=1 "), .read .empty false,
      .append (Utf8.encode "id=7\n"), .read .empty false]
    ∃ fresh, LogParser.create c "syslog" = .ok fresh ∧
      let f := (Following.start fresh).run 1 turns
      "id=7" ∈ (Following.start fresh).fed 1 turns ∧ ¬IsLineOf f.file "id=7" ∧
        f.messages = [⟨[("id", "7")]⟩] := by
  intro c turns
  have h : (LogParser.create c "syslog").toOption.any (fun fresh =>
      let f := (Following.start fresh).run 1 turns
      decide ("id=7" ∈ (Following.start fresh).fed 1 turns ∧
        completeLines f.file = ["port=1 id=7"] ∧ f.messages = [⟨[("id", "7")]⟩])) = true := by
    decide +kernel
  obtain ⟨fresh, hfresh, h⟩ := exists_of_any h
  obtain ⟨hfed, hlines, hmessages⟩ := of_decide_eq_true h
  refine ⟨fresh, hfresh, hfed, ?_, hmessages⟩
  rw [← mem_completeLines_iff, hlines]
  decide

end AerWatch.Log
