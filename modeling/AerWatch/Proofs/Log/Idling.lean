import AerWatch.Proofs.Log.Reads

/-!
# Reads of an idle log

A log is idle when no line break was added to it. A read of an idle log takes in an empty line, for the
piece behind the last line break, and moves the parser no further. When nothing is captured on the empty
line, any number of such reads give nothing and leave no trace in what later reads find.
-/

namespace AerWatch.Log

namespace LogParser

/-- The log at a path is the file known by its identity, with no line break from byte `n` on. -/
def IsIdle (path : String) (identity n : Nat) (fs : FileSystem) : Prop :=
  ∃ bytes, fs.openFile path = .ok ⟨identity, .regular bytes⟩ ∧ n ≤ bytes.length ∧
    newline ∉ bytes.drop n

section Idle

variable {p : LogParser} {identity n : Nat} {fs : FileSystem}

theorem take_of_idle (hoffset : p.offset = some n) (hidentity : p.identity = some identity)
    (hidle : IsIdle p.path identity n fs) (replay : Bool) : p.take fs replay = (p, .ok [""]) := by
  obtain ⟨bytes, hfile, hle, hrest⟩ := hidle
  rw [take_of_offset hfile hidentity hoffset hle, completeLines_of_notMem hrest,
    completeLength_of_notMem hrest, Nat.add_zero, ← hoffset, ← hidentity]
  rfl

/-- A read of an idle log takes in an empty line. -/
theorem read_of_idle (hoffset : p.offset = some n) (hidentity : p.identity = some identity)
    (hidle : IsIdle p.path identity n fs) (replay : Bool) :
    p.read fs replay = ((p.parseLine "").1, .ok (p.parseLine "").2.toList) := by
  rw [read_eq_feed, take_of_idle hoffset hidentity hidle]
  simp [feed]

/-- Reads of an idle log take in an empty line each. -/
theorem readAll_of_idle (hoffset : p.offset = some n) (hidentity : p.identity = some identity)
    {polls : List Attempt} (hidle : ∀ a ∈ polls, IsIdle p.path identity n a.fs) :
    (p.readAll polls).1 = (p.feed (List.replicate polls.length "")).1 ∧
      ∃ parts : List (List Message), (p.readAll polls).2 = parts.map .ok ∧
        parts.flatten = (p.feed (List.replicate polls.length "")).2 := by
  induction polls generalizing p with
  | nil => exact ⟨rfl, [], rfl, rfl⟩
  | cons a polls ih =>
    rw [List.forall_mem_cons] at hidle
    -- a parser that took in a line has the same path, identity and offset
    obtain ⟨hlast, parts, hparts, hflatten⟩ := @ih (p.parseLine "").1 hoffset hidentity hidle.2
    rw [readAll_cons, read_of_idle hoffset hidentity hidle.1, hparts]
    exact ⟨hlast, (p.parseLine "").2.toList :: parts, rfl, congrArg _ hflatten⟩

/-- An empty line on which nothing is captured changes nothing. -/
theorem parseLine_blank (hblank : ∀ r ∈ p.rules, r.capture "" = none) (hfits : Fits p.rules p.pending) :
    p.parseLine "" = (p, none) := by
  simp only [parseLine, assemble_of_none hblank hfits]

theorem readAll_of_idle_of_blank (hoffset : p.offset = some n) (hidentity : p.identity = some identity)
    {polls : List Attempt} (hidle : ∀ a ∈ polls, IsIdle p.path identity n a.fs)
    (hblank : ∀ r ∈ p.rules, r.capture "" = none) (hfits : Fits p.rules p.pending) :
    p.readAll polls = (p, polls.map fun _ => .ok []) := by
  induction polls with
  | nil => rfl
  | cons a polls ih =>
    rw [List.forall_mem_cons] at hidle
    rw [readAll_cons, read_of_idle hoffset hidentity hidle.1, parseLine_blank hblank hfits, ih hidle.2]
    rfl

/-- In every state reads of an idle log, with replay or without, move nothing but the message under way,
and do to it what as many empty lines do. When nothing is captured on the empty line they give no
message, and reads that come later find what they would find without them. -/
theorem reads_of_idle_log {c : ParserConfig} {path : String} {fresh : LogParser}
    (hfresh : create c path = .ok fresh) (hp : Reachable fresh p) (hoffset : p.offset = some n)
    (hidentity : p.identity = some identity) {polls : List Attempt}
    (hidle : ∀ a ∈ polls, IsIdle path identity n a.fs) (later : List Attempt) :
    let blank := p.feed (List.replicate polls.length "")
    ((p.readAll polls).1 = { p with pending := blank.1.pending } ∧
      ∃ parts : List (List Message), (p.readAll polls).2 = parts.map .ok ∧ parts.flatten = blank.2) ∧
    ((∀ r ∈ fresh.rules, r.capture "" = none) →
      p.readAll (polls ++ later) =
        ((p.readAll later).1, polls.map (fun _ => .ok []) ++ (p.readAll later).2)) := by
  intro blank
  have hstate := hp.isStateOf hfresh
  obtain ⟨rules, -, rfl⟩ := eq_of_create hfresh
  have hpath : p.path = path := hstate.path
  rw [← hpath] at hidle
  constructor
  · obtain ⟨hlast, hresults⟩ := readAll_of_idle hoffset hidentity hidle
    refine ⟨?_, hresults⟩
    simp only [hlast, blank, feed_eq_assembleAll]
  · intro hblank
    have hrules : p.rules = rules := hstate.rules
    rw [readAll_append,
      readAll_of_idle_of_blank hoffset hidentity hidle (hrules.symm ▸ hblank) hstate.fits]

/-- A message is under way, and its last line is written piece by piece. -/
theorem reads_of_log_with_open_line :
    let c : ParserConfig := ⟨"ports",
      [{ name := "port", regex := "port=(.*)" }, { name := "id", regex := "id=(.*)" }]⟩
    let log (text : String) : FileSystem :=
      FileSystem.empty.withFile "syslog" (.ok ⟨1, .regular (Utf8.encode text)⟩)
    let polls : List Attempt := [⟨log "port=1\n", true⟩, ⟨log "port=1\nid=", false⟩]
    let later : List Attempt := [⟨log "port=1\nid=7\n", false⟩]
    ∃ fresh p, create c "syslog" = .ok fresh ∧ Reachable fresh p ∧ p.offset = some 7 ∧
      p.identity = some 1 ∧ (∀ a ∈ polls, IsIdle "syslog" 1 7 a.fs) ∧
      (∀ r ∈ fresh.rules, r.capture "" = none) ∧
      (p.readAll later).2 = [.ok [⟨[("port", "1"), ("id", "7")]⟩]] ∧
      p.readAll (polls ++ later) =
        ((p.readAll later).1, polls.map (fun _ => .ok []) ++ (p.readAll later).2) := by
  intro c log polls later
  have h : (create c "syslog").toOption.any (fun fresh =>
      let p := (fresh.read (log "port=1\n") true).1
      decide (p.offset = some 7 ∧ p.identity = some 1 ∧ (∀ r ∈ fresh.rules, r.capture "" = none) ∧
        (p.readAll later).2 = [.ok [⟨[("port", "1"), ("id", "7")]⟩]])) = true := by
    decide +kernel
  obtain ⟨fresh, hfresh, h⟩ := exists_of_any h
  obtain ⟨hoffset, hidentity, hblank, hlater⟩ := of_decide_eq_true h
  have hp : Reachable fresh (fresh.read (log "port=1\n") true).1 := .read .start _ _
  have hidle : ∀ a ∈ polls, IsIdle "syslog" 1 7 a.fs := by
    simp only [polls, List.forall_mem_cons]
    refine ⟨⟨_, FileSystem.openFile_withFile .., ?_, ?_⟩, ⟨_, FileSystem.openFile_withFile .., ?_, ?_⟩,
      by simp⟩
    all_goals decide +kernel
  exact ⟨fresh, _, hfresh, hp, hoffset, hidentity, hidle, hblank, hlater,
    (reads_of_idle_log hfresh hp hoffset hidentity hidle later).2 hblank⟩

/-- The empty line is a message of its own for a pattern that finds the empty text. So reads of an idle
log give a message, again and again. -/
theorem read_of_idle_log_gives_message :
    let c : ParserConfig := ⟨"lines", [{ name := "line", regex := "(.*)" }]⟩
    let fs := FileSystem.empty.withFile "syslog" (.ok ⟨1, .regular []⟩)
    ∃ fresh, create c "syslog" = .ok fresh ∧
      let p := (fresh.read fs false).1
      Reachable fresh p ∧ p.offset = some 0 ∧ p.identity = some 1 ∧ IsIdle "syslog" 1 0 fs ∧
        (p.read fs false).2 = .ok [⟨[("line", "")]⟩] := by
  intro c fs
  have h : (create c "syslog").toOption.any (fun fresh =>
      let p := (fresh.read fs false).1
      decide (p.offset = some 0 ∧ p.identity = some 1 ∧
        (p.read fs false).2 = .ok [⟨[("line", "")]⟩])) = true := by
    decide +kernel
  obtain ⟨fresh, hfresh, h⟩ := exists_of_any h
  obtain ⟨hoffset, hidentity, hmessage⟩ := of_decide_eq_true h
  exact ⟨fresh, hfresh, .read .start _ _, hoffset, hidentity,
    ⟨[], FileSystem.openFile_withFile .., Nat.le_refl 0, by simp⟩, hmessage⟩

end Idle

end LogParser

end AerWatch.Log
