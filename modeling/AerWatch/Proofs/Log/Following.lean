import AerWatch.Proofs.Log.Feeding
import AerWatch.Proofs.Log.Lines

/-!
# Following a file that grows

A parser that follows a file is fed its complete lines, each once and in order, wherever the writes
and the reads are cut. The invariant of a run ties the parser to the part of the file that it saw
when it last read: its offset is the end of the complete lines of that part, and the message under
way and all messages given so far are those of a fresh parser on these lines.
-/

namespace AerWatch

/-- The file system in which opening a file comes out in a given way. -/
def FileSystem.withFile (fs : FileSystem) (path : String) (found : Except FileFault OpenFile) :
    FileSystem :=
  { fs with openFile := fun q => if q = path then found else fs.openFile q }

@[simp] theorem FileSystem.openFile_withFile (fs : FileSystem) (path : String)
    (found : Except FileFault OpenFile) : (fs.withFile path found).openFile path = found :=
  if_pos rfl

namespace Log

section Reading

/-- Taking lines from a place on gives those that are complete there, and an empty one for the piece
behind the last line break. -/
theorem takeFrom_regular (p : LogParser) (identity : Nat) (bytes : List UInt8) (start : Nat) :
    p.takeFrom ⟨identity, .regular bytes⟩ start =
      ({ p with offset := some (start + completeLength (bytes.drop start)) },
        .ok (completeLines (bytes.drop start) ++ [""])) := by
  simp only [LogParser.takeFrom, OpenFile.bytes, lines_take_completeLength]

/-- A read assembles the lines that it takes. An empty line behind them does not count, since nothing
is captured on it. -/
theorem read_of_take {p p' : LogParser} {fs : FileSystem} {replay : Bool} {lines : List String}
    (h : p.take fs replay = (p', .ok (lines ++ [""])))
    (hblank : ∀ r ∈ p'.rules, r.capture "" = none) (hfits : Fits p'.rules p'.pending) :
    p.read fs replay =
      ({ p' with pending := (assembleAll p'.rules p'.pending lines).1 },
        .ok (assembleAll p'.rules p'.pending lines).2) := by
  simp only [LogParser.read, h, assembleAll_concat_of_none hblank hfits]

/-- A parser that has read a file up to the complete lines of `seen`. -/
def LogParser.afterReading (fresh : LogParser) (identity : Nat) (seen : List UInt8) : LogParser :=
  { fresh with
    offset := some (completeLength seen)
    identity := some identity
    pending := (assembleAll fresh.rules none (completeLines seen)).1 }

variable {identity : Nat} {fs : FileSystem} {file : List UInt8}

section Taking

variable {q : LogParser} (hfile : fs.openFile q.path = .ok ⟨identity, .regular file⟩)
include hfile

/-- A parser that knows the file takes in what stands behind its offset. -/
theorem take_of_offset {n : Nat} (hidentity : q.identity = some identity)
    (hoffset : q.offset = some n) (hle : n ≤ file.length) (replay : Bool) :
    q.take fs replay =
      ({ q with offset := some (n + completeLength (file.drop n)), identity := some identity },
        .ok (completeLines (file.drop n) ++ [""])) := by
  have htake : q.take fs replay =
      { q with identity := some identity }.takeFrom ⟨identity, .regular file⟩ n := by
    simp [LogParser.take, LogParser.takeFile, LogParser.isReplaced, hfile, hidentity, hoffset,
      OpenFile.size, hle]
  rw [htake, takeFrom_regular]

/-- A parser that has read up to the complete lines of `seen`, behind `base`, takes in what has become
complete since. -/
theorem take_of_grown {base seen more : List UInt8} (hmore : file = base ++ more)
    (hseen : seen <+: more) (hidentity : q.identity = some identity)
    (hoffset : q.offset = some (base.length + completeLength seen)) (replay : Bool) :
    q.take fs replay =
      ({ q with offset := some (base.length + completeLength more), identity := some identity },
        .ok (completeLines (more.drop (completeLength seen)) ++ [""])) := by
  have hle : base.length + completeLength seen ≤ file.length := by
    have hend := (endsLines_completeLength seen).le.trans hseen.length_le
    rw [hmore, List.length_append]
    omega
  rw [take_of_offset hfile hidentity hoffset hle, hmore, List.drop_length_add_append, Nat.add_assoc,
    ← (completeLines_of_grown hseen).2]

/-- A parser that opens the file for the first time and does not replay it goes to its end. -/
theorem take_of_not_replay (hoffset : q.offset = none) :
    q.take fs false =
      ({ q with offset := some file.length, identity := some identity }, .ok []) := by
  simp [LogParser.take, LogParser.takeFile, hfile, hoffset, OpenFile.size]

end Taking

variable {fresh : LogParser} (hfile : fs.openFile fresh.path = .ok ⟨identity, .regular file⟩)
include hfile

theorem take_afterReading {seen : List UInt8} (hseen : seen <+: file) (replay : Bool) :
    (fresh.afterReading identity seen).take fs replay =
      ({ fresh.afterReading identity seen with offset := some (completeLength file) },
        .ok (completeLines (file.drop (completeLength seen)) ++ [""])) := by
  have hle : completeLength seen ≤ file.length :=
    (endsLines_completeLength seen).le.trans hseen.length_le
  rw [take_of_offset (q := fresh.afterReading identity seen) hfile rfl rfl hle,
    ← (completeLines_of_grown hseen).2]
  rfl

theorem take_fresh (hoffset : fresh.offset = none) :
    fresh.take fs true =
      ({ fresh with offset := some (completeLength file), identity := some identity },
        .ok (completeLines file ++ [""])) := by
  have htake : fresh.take fs true =
      { fresh with identity := some identity }.takeFrom ⟨identity, .regular file⟩ 0 := by
    simp [LogParser.take, LogParser.takeFile, hfile, hoffset]
  simp [htake, takeFrom_regular]

variable (hblank : ∀ r ∈ fresh.rules, r.capture "" = none)
include hblank

theorem read_afterReading {seen : List UInt8} (hseen : seen <+: file) (replay : Bool) :
    (fresh.afterReading identity seen).read fs replay =
      (fresh.afterReading identity file,
        .ok (assembleAll fresh.rules (assembleAll fresh.rules none (completeLines seen)).1
          (completeLines (file.drop (completeLength seen)))).2) := by
  have hfits : Fits fresh.rules (assembleAll fresh.rules none (completeLines seen)).1 :=
    fits_assembleAll fits_none _
  rw [read_of_take (take_afterReading hfile hseen replay) hblank hfits]
  simp only [LogParser.afterReading, (completeLines_of_grown hseen).1, assembleAll_append]

theorem read_fresh (hoffset : fresh.offset = none) (hpending : fresh.pending = none) :
    fresh.read fs true =
      (fresh.afterReading identity file,
        .ok (assembleAll fresh.rules none (completeLines file)).2) := by
  rw [read_of_take (take_fresh hfile hoffset) hblank (hpending ▸ fits_none)]
  simp only [LogParser.afterReading, hpending]

end Reading

/-! ### Runs -/

/-- A log file that only grows, and the parser that follows it. -/
structure Following where
  parser : LogParser
  /-- What the file holds. -/
  file : List UInt8 := []
  /-- All messages that the parser has given. -/
  messages : List Message := []

/-- What happens to the file or is done by the parser. -/
inductive Turn where
  /-- Bytes are added to the file. -/
  | append (chunk : List UInt8)
  /-- The parser reads the file. -/
  | read (fs : FileSystem) (replay : Bool)
  /-- The parser tries to read, but the file cannot be opened. -/
  | refuse (fs : FileSystem) (fault : FileFault) (replay : Bool)

namespace Following

/-- A parser that has read nothing yet, and an empty file. -/
def start (p : LogParser) : Following := { parser := p }

variable (identity : Nat)

/-- The parser reads the log through the platform. -/
def readThrough (f : Following) (fs : FileSystem) (replay : Bool) : Following :=
  match f.parser.read fs replay with
  | (p, .ok messages) => { f with parser := p, messages := f.messages ++ messages }
  | (p, .error _) => { f with parser := p }

/-- What one turn does to a file with an identity. -/
def step (f : Following) : Turn → Following
  | .append chunk => { f with file := f.file ++ chunk }
  | .read fs replay =>
    f.readThrough (fs.withFile f.parser.path (.ok ⟨identity, .regular f.file⟩)) replay
  | .refuse fs fault replay => f.readThrough (fs.withFile f.parser.path (.error fault)) replay

/-- One turn after another. -/
def run (f : Following) (turns : List Turn) : Following := turns.foldl (step identity) f

theorem run_concat (f : Following) (turns : List Turn) (turn : Turn) :
    f.run identity (turns ++ [turn]) = (f.run identity turns).step identity turn := by
  simp [run]

theorem file_readThrough (f : Following) (fs : FileSystem) (replay : Bool) :
    (f.readThrough fs replay).file = f.file := by
  unfold readThrough
  split <;> rfl

end Following

/-- Whether the first read that finds the file replays it. -/
def firstReplays : List Turn → Bool
  | [] => true
  | .read _ replay :: _ => replay
  | .append _ :: rest => firstReplays rest
  | .refuse .. :: rest => firstReplays rest

section Invariant

/-- The parser has taken in what the complete lines of `seen`, a part of the file, tell. -/
structure HasRead (fresh : LogParser) (identity : Nat) (seen : List UInt8) (f : Following) :
    Prop where
  grown : seen <+: f.file
  parser : f.parser = fresh.afterReading identity seen
  messages : f.messages = (assembleAll fresh.rules none (completeLines seen)).2

/-- The state of a run from which the turns `rest` are still to come. -/
inductive Reached (fresh : LogParser) (identity : Nat) (f : Following) (rest : List Turn) :
    Prop where
  | unread (parser : f.parser = fresh) (messages : f.messages = [])
    (first : firstReplays rest = true)
  | read (seen : List UInt8) (h : HasRead fresh identity seen f)

variable {fresh : LogParser} (hoffset : fresh.offset = none) (hpending : fresh.pending = none)
  (hblank : ∀ r ∈ fresh.rules, r.capture "" = none) {identity : Nat} {f : Following}
  {rest : List Turn}

theorem readThrough_of_ok {fs : FileSystem} {replay : Bool} {p : LogParser} {messages : List Message}
    (h : f.parser.read fs replay = (p, .ok messages)) :
    f.readThrough fs replay = { f with parser := p, messages := f.messages ++ messages } := by
  simp only [Following.readThrough, h]

theorem readThrough_refused (fs : FileSystem) (fault : FileFault) (replay : Bool) :
    f.readThrough (fs.withFile f.parser.path (.error fault)) replay = f := by
  simp [Following.readThrough, LogParser.read, LogParser.take]

include hoffset hpending hblank

/-- After a read of the file the parser has taken in all its complete lines. -/
theorem hasRead_of_read {fs : FileSystem} {replay : Bool}
    (h : Reached fresh identity f (.read fs replay :: rest)) :
    HasRead fresh identity f.file (f.step identity (.read fs replay)) := by
  cases h with
  | unread parser messages first =>
    obtain rfl : replay = true := first
    have hr : f.parser.read (fs.withFile f.parser.path (.ok ⟨identity, .regular f.file⟩)) true =
        (fresh.afterReading identity f.file,
          .ok (assembleAll fresh.rules none (completeLines f.file)).2) := by
      rw [parser]
      exact read_fresh (FileSystem.openFile_withFile ..) hblank hoffset hpending
    rw [Following.step, readThrough_of_ok hr]
    exact ⟨List.prefix_rfl, rfl, by simp [messages]⟩
  | read seen h =>
    have hr : f.parser.read (fs.withFile f.parser.path (.ok ⟨identity, .regular f.file⟩)) replay =
        (fresh.afterReading identity f.file,
          .ok (assembleAll fresh.rules (assembleAll fresh.rules none (completeLines seen)).1
            (completeLines (f.file.drop (completeLength seen)))).2) := by
      rw [h.parser]
      exact read_afterReading (FileSystem.openFile_withFile ..) hblank h.grown replay
    rw [Following.step, readThrough_of_ok hr]
    refine ⟨List.prefix_rfl, rfl, ?_⟩
    rw [h.messages, (completeLines_of_grown h.grown).1, assembleAll_append]

theorem reached_step {turn : Turn} (h : Reached fresh identity f (turn :: rest)) :
    Reached fresh identity (f.step identity turn) rest := by
  cases turn with
  | append chunk =>
    cases h with
    | unread parser messages first => exact .unread parser messages first
    | read seen h => exact .read seen ⟨h.grown.trans (List.prefix_append ..), h.parser, h.messages⟩
  | read fs replay => exact .read f.file (hasRead_of_read hoffset hpending hblank h)
  | refuse fs fault replay =>
    simp only [Following.step, readThrough_refused]
    cases h with
    | unread parser messages first => exact .unread parser messages first
    | read seen h => exact .read seen h

theorem reached_run {turns : List Turn} (h : Reached fresh identity f (turns ++ rest)) :
    Reached fresh identity (f.run identity turns) rest := by
  induction turns generalizing f with
  | nil => exact h
  | cons turn turns ih => exact ih (reached_step hoffset hpending hblank h)

end Invariant

theorem eq_of_create {c : ParserConfig} {path : String} {p : LogParser}
    (h : LogParser.create c path = .ok p) :
    ∃ rules, c.rules = .ok rules ∧ p = { name := c.name, path, rules } := by
  unfold LogParser.create at h
  cases hr : c.rules with
  | error e => rw [hr] at h; cases h
  | ok rules => rw [hr] at h; exact ⟨rules, rfl, (Except.ok.inj h).symm⟩

/-- After every read of a file that grows, the messages given so far and the one under way are those
of a fresh parser that is fed the complete lines of the file once and in order, and the offset is
where the last of them ends. -/
theorem messages_of_growing_file {c : ParserConfig} {path : String} {fresh : LogParser}
    (hfresh : LogParser.create c path = .ok fresh) (hblank : ∀ r ∈ fresh.rules, r.capture "" = none)
    (identity : Nat) (turns : List Turn) (fs : FileSystem) (replay : Bool)
    (hfirst : firstReplays (turns ++ [.read fs replay]) = true) :
    let f := (Following.start fresh).run identity (turns ++ [.read fs replay])
    let reference := fresh.feed (completeLines f.file)
    f.messages = reference.2 ∧ f.parser.pending = reference.1.pending ∧
      ∃ n, f.parser.offset = some n ∧ EndsLines f.file n := by
  intro f reference
  obtain ⟨rules, -, hp⟩ := eq_of_create hfresh
  have hoffset : fresh.offset = none := by rw [hp]
  have hpending : fresh.pending = none := by rw [hp]
  have hstart : Reached fresh identity (Following.start fresh) (turns ++ [.read fs replay]) :=
    .unread rfl rfl hfirst
  have hread := hasRead_of_read hoffset hpending hblank (reached_run hoffset hpending hblank hstart)
  rw [← Following.run_concat] at hread
  have hfile : f.file = ((Following.start fresh).run identity turns).file := by
    simp only [f, Following.run_concat, Following.step, Following.file_readThrough]
  rw [← hfile] at hread
  refine ⟨?_, ?_, completeLength f.file, ?_, endsLines_completeLength f.file⟩
  · rw [hread.messages]
    simp only [reference, LogParser.feed_eq_assembleAll, hpending]
  · rw [hread.parser]
    simp only [reference, LogParser.feed_eq_assembleAll, hpending, LogParser.afterReading]
  · rw [hread.parser]
    rfl

/-- The file appears after a failed read, and its last line is torn between two reads. The second of
them finds the end of one message and the start of another. -/
theorem messages_of_torn_line :
    let c : ParserConfig := ⟨"ports",
      [{ name := "port", regex := "port=(.*)" }, { name := "id", regex := "id=(.*)" }]⟩
    let turns : List Turn := [.refuse .empty .notFound false,
      .append (Utf8.encode "port=1\nport=2\ni"), .read .empty true,
      .append (Utf8.encode "d=7\nport=3\ni")]
    ∃ fresh, LogParser.create c "syslog" = .ok fresh ∧ (∀ r ∈ fresh.rules, r.capture "" = none) ∧
      firstReplays (turns ++ [.read .empty false]) = true ∧
      let f := (Following.start fresh).run 1 (turns ++ [.read .empty false])
      let reference := fresh.feed (completeLines f.file)
      completeLines f.file = ["port=1", "port=2", "id=7", "port=3"] ∧
      f.messages = [⟨[("port", "2"), ("id", "7")]⟩] ∧ f.parser.pending = some [some "3", none] ∧
      f.parser.offset = some 26 ∧ f.messages = reference.2 ∧
        f.parser.pending = reference.1.pending ∧
        ∃ n, f.parser.offset = some n ∧ EndsLines f.file n := by
  intro c turns
  have h : (LogParser.create c "syslog").toOption.any (fun fresh =>
      let f := (Following.start fresh).run 1 (turns ++ [.read .empty false])
      (fresh.rules.all fun r => (r.capture "").isNone) &&
      decide (completeLines f.file = ["port=1", "port=2", "id=7", "port=3"] ∧
        f.messages = [⟨[("port", "2"), ("id", "7")]⟩] ∧
        f.parser.pending = some [some "3", none] ∧ f.parser.offset = some 26)) = true := by
    decide +kernel
  obtain ⟨fresh, hfresh, h⟩ := exists_of_any h
  obtain ⟨hrules, hrun⟩ := (Bool.and_eq_true ..).mp h
  obtain ⟨hlines, hmessages, hpending, hoffset⟩ := of_decide_eq_true hrun
  have hblank : ∀ r ∈ fresh.rules, r.capture "" = none := by simpa using hrules
  exact ⟨fresh, hfresh, hblank, rfl, hlines, hmessages, hpending, hoffset,
    messages_of_growing_file hfresh hblank 1 turns .empty false rfl⟩

end Log

end AerWatch
