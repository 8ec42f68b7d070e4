import AerWatch.Proofs.Log.Reads

/-!
# Reads that fail

A read fails when the log cannot be opened, or when a directory is in its place. In the first case the
parser stays as it is, so these reads can be left out of any run. A directory can be opened, though: it
is taken for the log that it replaced, and that it cannot be read turns out later. The offset stays, but
the identity of the directory is remembered and the message under way is given up as for a new file.
-/

namespace AerWatch.Log

namespace LogParser

section Failing

variable (p : LogParser)

/-- Whether the message under way goes on in a file that is opened. -/
def goesOnIn (file : OpenFile) : Bool :=
  p.offset.all fun n => n ≤ file.size ∧ !p.isReplaced file

/-- The parser when it has opened a file that it has not read. -/
def opening (file : OpenFile) : LogParser :=
  { p with
    identity := some file.identity
    pending := if p.goesOnIn file then p.pending else none }

theorem takeFile_directory (identity size : Nat) (replay : Bool) :
    p.takeFile ⟨identity, .directory size⟩ replay =
      if p.offset = none ∧ replay = false then
        ({ p with offset := some size, identity := some identity }, .ok [])
      else (p.opening ⟨identity, .directory size⟩, .error (.logRead p.path .isDirectory)) := by
  unfold takeFile
  cases hoffset : p.offset with
  | none =>
    cases replay with
    | false => rfl
    | true => simp [opening, goesOnIn, hoffset, takeFrom, OpenFile.bytes]
  | some n =>
    simp only [opening, goesOnIn, hoffset, takeFrom, OpenFile.bytes, Option.all_some,
      decide_eq_true_iff, reduceCtorEq, false_and, if_false]
    split
    · rfl
    · rfl

theorem takeFile_regular (identity : Nat) (bytes : List UInt8) (replay : Bool) :
    ∃ q lines, p.takeFile ⟨identity, .regular bytes⟩ replay = (q, .ok lines) := by
  unfold takeFile
  cases p.offset with
  | none =>
    cases replay with
    | false => exact ⟨_, _, rfl⟩
    | true => exact ⟨_, _, takeFrom_regular _ identity bytes _⟩
  | some n =>
    dsimp only
    split
    · exact ⟨_, _, takeFrom_regular _ identity bytes _⟩
    · exact ⟨_, _, takeFrom_regular _ identity bytes _⟩

/-- A read fails when the log cannot be opened or is a directory. -/
theorem read_eq_error_iff {fs : FileSystem} {replay : Bool} {q : LogParser} {e : Error} :
    p.read fs replay = (q, .error e) ↔
      (∃ fault, fs.openFile p.path = .error fault ∧ q = p ∧ e = .logRead p.path fault) ∨
      ∃ identity size, fs.openFile p.path = .ok ⟨identity, .directory size⟩ ∧
        (p.offset = none → replay = true) ∧ q = p.opening ⟨identity, .directory size⟩ ∧
        e = .logRead p.path .isDirectory := by
  rw [read_eq_feed, take]
  cases hopen : fs.openFile p.path with
  | error fault => simp [eq_comm]
  | ok file =>
    obtain ⟨identity, content⟩ := file
    cases content with
    | regular bytes =>
      obtain ⟨r, lines, htake⟩ := p.takeFile_regular identity bytes replay
      simp [htake]
    | directory size =>
      dsimp only
      by_cases hskip : p.offset = none ∧ replay = false
      · rw [takeFile_directory, if_pos hskip]
        simp [hskip]
      · rw [takeFile_directory, if_neg hskip]
        rw [not_and, Bool.not_eq_false] at hskip
        simpa [eq_comm] using fun _ _ => hskip

end Failing

/-! ### Runs -/

section Runs

/-- The reads of a run that do not fail. -/
def successful (p : LogParser) : List Attempt → List Attempt
  | [] => []
  | a :: rest =>
    let (q, result) := p.read a.fs a.replay
    if result.isOk then a :: q.successful rest else q.successful rest

/-- The reads for which there is something to open at a path. -/
def opened (path : String) (attempts : List Attempt) : List Attempt :=
  attempts.filter fun a => (a.fs.openFile path).isOk

/-- The messages that each successful read of a run gives. -/
def given (p : LogParser) (attempts : List Attempt) : List (List Message) :=
  (p.readAll attempts).2.filterMap (·.toOption)

variable {p : LogParser} {a : Attempt}

theorem read_of_not_opened {fault : FileFault} (h : a.fs.openFile p.path = .error fault) :
    p.read a.fs a.replay = (p, .error (.logRead p.path fault)) :=
  p.read_eq_error_iff.mpr (.inl ⟨fault, h, rfl, rfl⟩)

theorem given_cons (p : LogParser) (a : Attempt) (rest : List Attempt) :
    p.given (a :: rest) =
      (p.read a.fs a.replay).2.toOption.toList ++ (p.read a.fs a.replay).1.given rest := by
  simp only [given, readAll_cons]
  cases (p.read a.fs a.replay).2 <;> rfl

/-- Reads that find nothing to open leave no trace. -/
theorem readAll_opened (attempts : List Attempt) :
    (p.readAll (opened p.path attempts)).1 = (p.readAll attempts).1 ∧
      p.given (opened p.path attempts) = p.given attempts := by
  induction attempts generalizing p with
  | nil => exact ⟨rfl, rfl⟩
  | cons a rest ih =>
    cases hopen : a.fs.openFile p.path with
    | error fault =>
      have hskip : opened p.path (a :: rest) = opened p.path rest := by
        simp [opened, hopen, Except.isOk, Except.toBool]
      rw [hskip, readAll_cons, given_cons p a rest, read_of_not_opened hopen]
      exact ih
    | ok file =>
      have hkeep : opened p.path (a :: rest) = a :: opened p.path rest := by
        simp [opened, hopen, Except.isOk, Except.toBool]
      -- what is opened later depends on the path only, which a read does not change
      obtain ⟨hlast, hgiven⟩ := @ih (p.read a.fs a.replay).1
      rw [path_read] at hlast hgiven
      rw [hkeep, readAll_cons, readAll_cons, given_cons, given_cons, hgiven]
      exact ⟨hlast, rfl⟩

/-- Where there is no directory, a read fails only if there is nothing to open. -/
theorem isOk_read
    (hdirectory : ∀ identity size, a.fs.openFile p.path ≠ .ok ⟨identity, .directory size⟩) :
    (p.read a.fs a.replay).2.isOk = (a.fs.openFile p.path).isOk := by
  cases hopen : a.fs.openFile p.path with
  | error fault =>
    rw [read_of_not_opened hopen]
    rfl
  | ok file =>
    rcases hread : p.read a.fs a.replay with ⟨q, result⟩
    cases result with
    | error e =>
      rcases p.read_eq_error_iff.mp hread with ⟨fault, h, -⟩ | ⟨identity, size, h, -⟩
      · rw [hopen] at h
        cases h
      · exact absurd h (hdirectory identity size)
    | ok messages => rfl

theorem successful_eq_opened {attempts : List Attempt}
    (hdirectory : ∀ a ∈ attempts, ∀ identity size,
      a.fs.openFile p.path ≠ .ok ⟨identity, .directory size⟩) :
    p.successful attempts = opened p.path attempts := by
  induction attempts generalizing p with
  | nil => rfl
  | cons a rest ih =>
    rw [List.forall_mem_cons] at hdirectory
    have hrest := @ih (p.read a.fs a.replay).1 (by rw [path_read]; exact hdirectory.2)
    rw [path_read] at hrest
    simp only [successful, hrest, isOk_read hdirectory.1, opened, List.filter_cons]

/-- A read fails when the log cannot be opened, which leaves the parser as it was, or when a directory
is in its place, which leaves the offset but not the rest. So the reads that find nothing to open can be
left out of any run, and all reads that fail can if there is never a directory: the others give the same
messages, and the parser ends in the same state. -/
theorem reads_without_failed (p : LogParser) (attempts : List Attempt) :
    (∀ (q r : LogParser) fs replay e, q.read fs replay = (r, .error e) ↔
      (∃ fault, fs.openFile q.path = .error fault ∧ r = q ∧ e = .logRead q.path fault) ∨
      ∃ identity size, fs.openFile q.path = .ok ⟨identity, .directory size⟩ ∧
        (q.offset = none → replay = true) ∧ r = q.opening ⟨identity, .directory size⟩ ∧
        e = .logRead q.path .isDirectory) ∧
    ((p.readAll (opened p.path attempts)).1 = (p.readAll attempts).1 ∧
      p.given (opened p.path attempts) = p.given attempts) ∧
    ((∀ a ∈ attempts, ∀ identity size,
        a.fs.openFile p.path ≠ .ok ⟨identity, .directory size⟩) →
      (p.readAll (p.successful attempts)).1 = (p.readAll attempts).1 ∧
        p.given (p.successful attempts) = p.given attempts) := by
  refine ⟨fun q _ _ _ _ => q.read_eq_error_iff, readAll_opened attempts, fun hdirectory => ?_⟩
  rw [successful_eq_opened hdirectory]
  exact readAll_opened attempts

/-- The log is missing before the first read and while a message is under way. -/
theorem reads_without_those_of_missing_log :
    let c : ParserConfig := ⟨"ports",
      [{ name := "port", regex := "port=(.*)" }, { name := "id", regex := "id=(.*)" }]⟩
    let log (text : String) : FileSystem :=
      FileSystem.empty.withFile "syslog" (.ok ⟨1, .regular (Utf8.encode text)⟩)
    let attempts : List Attempt := [⟨.empty, false⟩, ⟨log "port=1\n", true⟩, ⟨.empty, true⟩,
      ⟨.empty, false⟩, ⟨log "port=1\nid=7\n", false⟩]
    ∃ p, create c "syslog" = .ok p ∧ (p.successful attempts).length = 2 ∧
      (∀ a ∈ attempts, ∀ identity size,
        a.fs.openFile p.path ≠ .ok ⟨identity, .directory size⟩) ∧
      p.given attempts = [[], [⟨[("port", "1"), ("id", "7")]⟩]] ∧
      (p.readAll (p.successful attempts)).1 = (p.readAll attempts).1 ∧
      p.given (p.successful attempts) = p.given attempts := by
  intro c log attempts
  have h : (create c "syslog").toOption.any (fun p =>
      decide (p.path = "syslog" ∧ (p.successful attempts).length = 2 ∧
        p.given attempts = [[], [⟨[("port", "1"), ("id", "7")]⟩]])) = true := by
    decide +kernel
  obtain ⟨p, hp, h⟩ := exists_of_any h
  obtain ⟨hpath, hlength, hgiven⟩ := of_decide_eq_true h
  have hdirectory : ∀ a ∈ attempts, ∀ identity size,
      a.fs.openFile p.path ≠ .ok ⟨identity, .directory size⟩ := by
    simp [attempts, log, hpath, FileSystem.empty]
  exact ⟨p, hp, hlength, hdirectory, hgiven, (reads_without_failed p attempts).2.2 hdirectory⟩

/-- A directory takes the place of the log for one read, which fails. The next read gives the message of
the log again, which it would not without the one that failed. -/
theorem message_repeated_after_failed_read :
    let c : ParserConfig := ⟨"ids", [{ name := "id", regex := "^id=(.*)" }]⟩
    let log := FileSystem.empty.withFile "syslog" (.ok ⟨1, .regular (Utf8.encode "id=7\n")⟩)
    let directory := FileSystem.empty.withFile "syslog" (.ok ⟨2, .directory 40⟩)
    let attempts : List Attempt := [⟨directory, false⟩, ⟨log, false⟩]
    ∃ fresh, create c "syslog" = .ok fresh ∧
      let p := (fresh.read log true).1
      Reachable fresh p ∧ (p.read directory false).2 = .error (.logRead "syslog" .isDirectory) ∧
        p.identity = some 1 ∧ (p.read directory false).1.identity = some 2 ∧
        p.given attempts = [[⟨[("id", "7")]⟩]] ∧ p.given (p.successful attempts) = [[]] := by
  intro c log directory attempts
  have h : (create c "syslog").toOption.any (fun fresh =>
      let p := (fresh.read log true).1
      decide ((p.read directory false).2 = .error (.logRead "syslog" .isDirectory) ∧
        p.identity = some 1 ∧ (p.read directory false).1.identity = some 2 ∧
        p.given attempts = [[⟨[("id", "7")]⟩]] ∧ p.given (p.successful attempts) = [[]])) = true := by
    decide +kernel
  obtain ⟨fresh, hfresh, h⟩ := exists_of_any h
  exact ⟨fresh, hfresh, .read .start _ _, of_decide_eq_true h⟩

end Runs

end LogParser

end AerWatch.Log
