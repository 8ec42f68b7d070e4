import AerWatch.Proofs.Log.Following

/-!
# Reads in every state

A read changes nothing of a parser but its offset, the identity of the file and the message under way.
So in every state that reads and lines lead to, a parser has the rules it was made with, and it knows
the identity of the file once it knows an offset. A file that was replaced or cut is read as a fresh
parser reads it in full, whatever was under way in the old one.
-/

namespace AerWatch.Log

namespace LogParser

section Frame

variable (p : LogParser)

theorem exists_takeFrom (file : OpenFile) (start : Nat) :
    ∃ offset, (p.takeFrom file start).1 = { p with offset } := by
  unfold takeFrom
  split
  · exact ⟨p.offset, rfl⟩
  · exact ⟨_, rfl⟩

/-- A file that was opened is known by its identity, whatever could be taken of it. -/
theorem exists_takeFile (file : OpenFile) (replay : Bool) :
    ∃ offset pending, (pending = p.pending ∨ pending = none) ∧
      (p.takeFile file replay).1 = { p with offset, identity := some file.identity, pending } := by
  unfold takeFile
  cases p.offset with
  | none =>
    cases replay with
    | false => exact ⟨_, p.pending, .inl rfl, rfl⟩
    | true => exact (exists_takeFrom _ file 0).imp fun offset h => ⟨p.pending, .inl rfl, h⟩
  | some n =>
    dsimp only
    split
    · exact (exists_takeFrom _ file n).imp fun offset h => ⟨p.pending, .inl rfl, h⟩
    · exact (exists_takeFrom _ file 0).imp fun offset h => ⟨none, .inr rfl, h⟩

theorem path_take (fs : FileSystem) (replay : Bool) : (p.take fs replay).1.path = p.path := by
  unfold take
  cases fs.openFile p.path with
  | error fault => rfl
  | ok file =>
    obtain ⟨offset, pending, -, htake⟩ := p.exists_takeFile file replay
    dsimp only
    rw [htake]

/-- A parser reads by taking lines and feeding them to itself. -/
theorem read_eq_feed (fs : FileSystem) (replay : Bool) :
    p.read fs replay =
      match p.take fs replay with
      | (q, .error e) => (q, .error e)
      | (q, .ok lines) => ((q.feed lines).1, .ok (q.feed lines).2) := by
  unfold read
  obtain ⟨q, result⟩ := p.take fs replay
  cases result with
  | error e => rfl
  | ok lines => simp only [feed_eq_assembleAll]

theorem path_read (fs : FileSystem) (replay : Bool) : (p.read fs replay).1.path = p.path := by
  have hpath := p.path_take fs replay
  unfold read
  generalize p.take fs replay = taken at hpath ⊢
  obtain ⟨q, result⟩ := taken
  cases result <;> exact hpath

end Frame

/-! ### States -/

/-- The states that a parser comes to by reads, whatever these find, and by lines that it is given. -/
inductive Reachable (fresh : LogParser) : LogParser → Prop where
  | start : Reachable fresh fresh
  | read {p : LogParser} (h : Reachable fresh p) (fs : FileSystem) (replay : Bool) :
    Reachable fresh (p.read fs replay).1
  | parseLine {p : LogParser} (h : Reachable fresh p) (line : String) :
    Reachable fresh (p.parseLine line).1

/-- What all states of a parser have in common. -/
structure IsStateOf (fresh p : LogParser) : Prop where
  name : p.name = fresh.name
  path : p.path = fresh.path
  rules : p.rules = fresh.rules
  identity : p.offset.isSome → p.identity.isSome
  fits : Fits p.rules p.pending

section States

variable {fresh p : LogParser}

theorem isStateOf_create {c : ParserConfig} {path : String} (h : create c path = .ok p) :
    IsStateOf p p := by
  obtain ⟨rules, -, rfl⟩ := eq_of_create h
  exact ⟨rfl, rfl, rfl, nofun, fits_none⟩

theorem IsStateOf.parseLine (h : IsStateOf fresh p) (line : String) :
    IsStateOf fresh (p.parseLine line).1 where
  name := h.name
  path := h.path
  rules := h.rules
  identity := h.identity
  fits := fits_assemble h.fits line

theorem IsStateOf.feed (h : IsStateOf fresh p) (lines : List String) :
    IsStateOf fresh (p.feed lines).1 := by
  induction lines generalizing p with
  | nil => exact h
  | cons line rest ih => exact ih (h.parseLine line)

theorem IsStateOf.take (h : IsStateOf fresh p) (fs : FileSystem) (replay : Bool) :
    IsStateOf fresh (p.take fs replay).1 := by
  unfold LogParser.take
  cases fs.openFile p.path with
  | error fault => exact h
  | ok file =>
    obtain ⟨offset, pending, hpending, htake⟩ := exists_takeFile p file replay
    dsimp only
    rw [htake]
    refine ⟨h.name, h.path, h.rules, fun _ => rfl, ?_⟩
    rcases hpending with rfl | rfl
    · exact h.fits
    · exact fits_none

theorem IsStateOf.read (h : IsStateOf fresh p) (fs : FileSystem) (replay : Bool) :
    IsStateOf fresh (p.read fs replay).1 := by
  have htake := h.take fs replay
  rw [read_eq_feed]
  generalize p.take fs replay = taken at htake ⊢
  obtain ⟨q, result⟩ := taken
  cases result with
  | error e => exact htake
  | ok lines => exact htake.feed lines

theorem Reachable.isStateOf {c : ParserConfig} {path : String} (hfresh : create c path = .ok fresh)
    (h : Reachable fresh p) : IsStateOf fresh p := by
  induction h with
  | start => exact isStateOf_create hfresh
  | read _ fs replay ih => exact ih.read fs replay
  | parseLine _ line ih => exact ih.parseLine line

end States

/-! ### Sequences of reads -/

/-- A read of the log: what the platform holds then, and whether a first read replays it. -/
structure Attempt where
  fs : FileSystem
  replay : Bool

/-- Reads the log again and again. Gives what each read comes to. -/
def readAll (p : LogParser) : List Attempt → LogParser × List (Except Error (List Message))
  | [] => (p, [])
  | a :: rest =>
    let (p, result) := p.read a.fs a.replay
    let (p, results) := p.readAll rest
    (p, result :: results)

theorem readAll_cons (p : LogParser) (a : Attempt) (rest : List Attempt) :
    p.readAll (a :: rest) =
      (((p.read a.fs a.replay).1.readAll rest).1,
        (p.read a.fs a.replay).2 :: ((p.read a.fs a.replay).1.readAll rest).2) := rfl

theorem readAll_append (p : LogParser) (as bs : List Attempt) :
    p.readAll (as ++ bs) =
      (((p.readAll as).1.readAll bs).1, (p.readAll as).2 ++ ((p.readAll as).1.readAll bs).2) := by
  induction as generalizing p with
  | nil => rfl
  | cons a as ih => rw [List.cons_append, readAll_cons, ih, readAll_cons, List.cons_append]

/-! ### Replaced files -/

section Replaced

variable {fresh p : LogParser} {n identity : Nat} {bytes : List UInt8} {fs : FileSystem}

/-- The file opened is the one known if it has the identity that is known. -/
theorem isReplaced_eq_false_iff {file : OpenFile} (h : p.identity.isSome) :
    p.isReplaced file = false ↔ p.identity = some file.identity := by
  obtain ⟨known, hknown⟩ := Option.isSome_iff_exists.mp h
  simp [isReplaced, hknown]

/-- A parser that finds another file, or a shorter one, takes it from its start with nothing under way. -/
theorem IsStateOf.take_of_replaced (h : IsStateOf fresh p) (hoffset : p.offset = some n)
    (hfile : fs.openFile p.path = .ok ⟨identity, .regular bytes⟩)
    (hreplaced : p.identity ≠ some identity ∨ bytes.length < n) (replay : Bool) :
    p.take fs replay =
      ({ fresh with
          offset := some (completeLength bytes), identity := some identity, pending := none },
        .ok (completeLines bytes ++ [""])) := by
  have hrestart : ¬(n ≤ bytes.length ∧ (!p.isReplaced ⟨identity, .regular bytes⟩) = true) := by
    rintro ⟨hle, hsame⟩
    rw [Bool.not_eq_true', isReplaced_eq_false_iff (h.identity (hoffset ▸ rfl))] at hsame
    rcases hreplaced with hne | hlt
    · exact hne hsame
    · exact absurd hle (Nat.not_le_of_lt hlt)
  have htake : p.take fs replay =
      { p with identity := some identity, pending := none }.takeFrom
        ⟨identity, .regular bytes⟩ 0 := by
    simp only [LogParser.take, takeFile, hfile, hoffset]
    exact if_neg hrestart
  rw [htake, takeFrom_regular]
  simp [h.name, h.path, h.rules]

/-- In every state a file that was replaced, or is shorter than what was read, is read as a fresh parser
reads it in full: with nothing under way before, and all its lines fed. -/
theorem read_of_replaced_file {c : ParserConfig} {path : String} (hfresh : create c path = .ok fresh)
    (hp : Reachable fresh p) (hoffset : p.offset = some n)
    (hfile : fs.openFile path = .ok ⟨identity, .regular bytes⟩)
    (hreplaced : p.identity ≠ some identity ∨ bytes.length < n) (replay : Bool) :
    let reference := fresh.feed (completeLines bytes ++ [""])
    ∃ q, p.read fs replay = (q, .ok reference.2) ∧ fresh.read fs true = (q, .ok reference.2) ∧
      q = { reference.1 with offset := some (completeLength bytes), identity := some identity } := by
  intro reference
  have hstate := hp.isStateOf hfresh
  obtain ⟨rules, -, rfl⟩ := eq_of_create hfresh
  have hpath : p.path = path := hstate.path
  have htake := hstate.take_of_replaced hoffset (hpath.symm ▸ hfile) hreplaced replay
  have hfull := @take_fresh identity fs bytes { name := c.name, path, rules } hfile rfl
  refine ⟨_, ?_, ?_, rfl⟩
  · rw [read_eq_feed, htake]
    simp only [reference, feed_eq_assembleAll]
  · rw [read_eq_feed, hfull]
    simp only [reference, feed_eq_assembleAll]

/-- Half a message is under way when a longer file is put in place of the log. -/
theorem read_of_longer_replacement :
    let c : ParserConfig := ⟨"ports",
      [{ name := "port", regex := "port=(.*)" }, { name := "id", regex := "id=(.*)" }]⟩
    let log (identity : Nat) (text : String) : FileSystem :=
      FileSystem.empty.withFile "syslog" (.ok ⟨identity, .regular (Utf8.encode text)⟩)
    let text := "id=7\nport=2\nid=8\nport=3"
    ∃ fresh p, create c "syslog" = .ok fresh ∧ Reachable fresh p ∧ p.offset = some 7 ∧
      p.pending.isSome ∧ p.identity ≠ some 2 ∧
      let reference := fresh.feed (completeLines (Utf8.encode text) ++ [""])
      reference.2 = [⟨[("port", "2"), ("id", "8")]⟩] ∧
      ∃ q, p.read (log 2 text) false = (q, .ok reference.2) ∧
        fresh.read (log 2 text) true = (q, .ok reference.2) ∧
        q = { reference.1 with
          offset := some (completeLength (Utf8.encode text)), identity := some 2 } := by
  intro c log text
  have h : (create c "syslog").toOption.any (fun fresh =>
      let p := (fresh.read (log 1 "port=1\n") true).1
      decide (p.offset = some 7 ∧ p.pending.isSome ∧ p.identity ≠ some 2 ∧
        (fresh.feed (completeLines (Utf8.encode text) ++ [""])).2 =
          [⟨[("port", "2"), ("id", "8")]⟩])) = true := by
    decide +kernel
  obtain ⟨fresh, hfresh, h⟩ := exists_of_any h
  obtain ⟨hoffset, hpending, hidentity, hmessages⟩ := of_decide_eq_true h
  have hp : Reachable fresh (fresh.read (log 1 "port=1\n") true).1 := .read .start _ _
  exact ⟨fresh, _, hfresh, hp, hoffset, hpending, hidentity, hmessages,
    read_of_replaced_file hfresh hp hoffset (FileSystem.openFile_withFile ..) (.inl hidentity) false⟩

end Replaced

end LogParser

end AerWatch.Log
