import AerWatch.Proofs.Log.Following
import AerWatch.Proofs.Monitor.Cycle

/-!
# Watching a log

A monitor runs while its log file grows, is moved away and comes back, and while devices fail. The
parsers up to the first one that cannot read the log take in lines in a cycle and announce messages.
A `Watch` keeps all that the parser at each place took in and announced so far.
-/

namespace AerWatch

open Log

namespace Monitor

section Shares

variable (m : Monitor) (bus : Option Bus) (fs : FileSystem)

/-- The lines that a parser takes in. -/
def linesTaken (replay : Bool) (p : LogParser) : List String :=
  (p.take fs replay).2.toOption.getD []

/-- The parsers that read the log in a cycle. -/
def readers : List LogParser :=
  if m.failing bus = [] then m.parsers.takeWhile (canRead fs m.firstRead) else []

/-- The lines that the parser at a place takes in during a cycle. -/
def lineShare (i : Nat) : List String :=
  ((m.readers bus fs)[i]?).elim [] (linesTaken fs m.firstRead)

/-- The events of the messages that the parser at a place finds in a cycle. -/
def eventShare (i : Nat) : List Event :=
  ((m.readers bus fs)[i]?).elim [] (logEvents fs m.firstRead)

variable {m bus fs}

theorem readers_of_devicesFailed {r : CycleReport} {n : Nat} (h : DevicesFailed m bus r n) :
    m.readers bus fs = [] :=
  if_neg (List.length_pos_iff.mp (h.devices ▸ h.pos))

theorem readers_of_completed {r : CycleReport} (h : Completed m bus fs r) :
    m.readers bus fs = m.parsers := by
  rw [readers, if_pos h.devices, List.takeWhile_eq_self_iff]
  exact h.logs

theorem readers_of_logFailed {r : CycleReport} {before after : List LogParser} {p : LogParser}
    {cause : FileFault} (h : LogFailed m bus fs r before p after cause) :
    m.readers bus fs = before := by
  have hp : ¬canRead fs m.firstRead p = true := by simp [canRead_of_error h.error]
  rw [readers, if_pos h.devices, h.order, List.takeWhile_append_of_pos h.logs,
    List.takeWhile_cons_of_neg hp, List.append_nil]

theorem length_readers_le : (m.readers bus fs).length ≤ m.parsers.length := by
  unfold readers
  split
  · exact (List.takeWhile_prefix _).length_le
  · exact Nat.zero_le _

/-- The shares of a cycle are all that its readers found. -/
theorem flatMap_eventShare :
    (List.range m.parsers.length).flatMap (m.eventShare bus fs) =
      (m.readers bus fs).flatMap (logEvents fs m.firstRead) :=
  flatMap_range_getElem? _ _ length_readers_le

/-- The events of a cycle are those of the poll, then those that the parsers in turn found in the log,
and last the announcement that a parser could not read it. -/
theorem events_read (m : Monitor) (bus : Option Bus) (fs : FileSystem) :
    (m.read bus fs).events =
      (m.poll bus).events ++ (List.range m.parsers.length).flatMap (m.eventShare bus fs) ++
        match (m.read bus fs).result with
        | .error (.logRead ..) => [logFailure]
        | _ => [] := by
  rw [flatMap_eventShare]
  rcases read_cases m bus fs with h | ⟨n, h⟩ | ⟨before, p, after, cause, h⟩
  · simp only [h.events, h.result, readers_of_completed h, List.append_nil]
  · simp only [h.events, h.result, readers_of_devicesFailed h, List.flatMap_nil, List.append_nil]
  · simp only [h.events, h.result, readers_of_logFailed h]
    rfl

end Shares

section Idle

/-- A cycle that fails without any parser taking in anything. -/
structure Idle (m : Monitor) (bus : Option Bus) (fs : FileSystem) : Prop where
  result : (m.read bus fs).result ≠ .ok ()
  parsers : (m.read bus fs).monitor.parsers = m.parsers
  firstRead : (m.read bus fs).monitor.firstRead = m.firstRead
  readers : m.readers bus fs = []

variable {m : Monitor} {bus : Option Bus} {fs : FileSystem}

theorem Idle.lineShare (h : Idle m bus fs) (i : Nat) : m.lineShare bus fs i = [] := by
  simp [Monitor.lineShare, h.readers]

theorem Idle.eventShare (h : Idle m bus fs) (i : Nat) : m.eventShare bus fs i = [] := by
  simp [Monitor.eventShare, h.readers]

theorem idle_of_failing (h : m.failing bus ≠ []) (fs : FileSystem) : Idle m bus fs := by
  have hr := devicesFailed_read m bus fs h
  exact ⟨hr.result ▸ nofun, hr.parsers, hr.firstRead, readers_of_devicesFailed hr⟩

/-- A log that cannot be opened is left to the next read. -/
theorem read_of_missing {q : LogParser} {replay : Bool} {fault : FileFault}
    (h : fs.openFile q.path = .error fault) :
    q.read fs replay = (q, .error (.logRead q.path fault)) := by
  simp [LogParser.read, LogParser.take, h]

/-- When the log is missing, the first parser fails and those behind it are not asked. -/
theorem idle_of_missing {path : String} {fault : FileFault} (hpath : ∀ q ∈ m.parsers, q.path = path)
    (hne : m.parsers ≠ []) (hdevices : m.failing bus = [])
    (hfile : fs.openFile path = .error fault) : Idle m bus fs := by
  cases hparsers : m.parsers with
  | nil => exact absurd hparsers hne
  | cons q rest =>
    have hread (replay : Bool) : q.read fs replay = (q, .error (.logRead q.path fault)) :=
      read_of_missing ((hpath q (hparsers ▸ List.mem_cons_self)).symm ▸ hfile)
    have hcan := canRead_of_error (congrArg Prod.snd (hread m.firstRead))
    have horder : m.parsers = [] ++ q :: rest := hparsers
    obtain ⟨cause, hr⟩ := logFailed_read fs hdevices horder (by simp) hcan
    refine ⟨hr.result ▸ nofun, ?_, hr.firstRead, readers_of_logFailed hr⟩
    rw [hr.parsers, parserAfter, hread, hparsers]
    rfl

end Idle

section Settled

variable {p : LogParser}

/-- When bytes of the log could be taken, the offset is known from then on. -/
theorem isSome_offset_takeFrom {file : OpenFile} {start : Nat}
    (h : p.offset.isSome ∨ (p.takeFrom file start).2.isOk) :
    (p.takeFrom file start).1.offset.isSome := by
  unfold LogParser.takeFrom at h ⊢
  cases hbytes : file.bytes with
  | error fault => simpa [hbytes, Except.isOk, Except.toBool] using h
  | ok bytes => rfl

theorem isSome_offset_takeFile {file : OpenFile} {replay : Bool}
    (h : p.offset.isSome ∨ (p.takeFile file replay).2.isOk) :
    (p.takeFile file replay).1.offset.isSome := by
  unfold LogParser.takeFile at h ⊢
  cases hoffset : p.offset with
  | none =>
    cases replay with
    | false => rfl
    | true =>
      simp only [hoffset] at h ⊢
      exact isSome_offset_takeFrom (h.imp_left fun h => by simp at h)
  | some offset =>
    dsimp only
    split
    · exact isSome_offset_takeFrom (.inl rfl)
    · exact isSome_offset_takeFrom (.inl rfl)

variable {fs : FileSystem} {replay : Bool}

theorem isSome_offset_take (h : p.offset.isSome ∨ (p.take fs replay).2.isOk) :
    (p.take fs replay).1.offset.isSome := by
  unfold LogParser.take at h ⊢
  cases hopen : fs.openFile p.path with
  | error fault => simpa [hopen, Except.isOk, Except.toBool] using h
  | ok file =>
    simp only [hopen] at h
    exact isSome_offset_takeFile h

theorem isSome_offset_parserAfter (h : p.offset.isSome ∨ canRead fs replay p) :
    (parserAfter fs replay p).offset.isSome := by
  have htake : p.offset.isSome ∨ (p.take fs replay).2.isOk → (p.take fs replay).1.offset.isSome :=
    isSome_offset_take
  unfold parserAfter
  unfold canRead at h
  unfold LogParser.read at h ⊢
  generalize p.take fs replay = taken at h htake ⊢
  obtain ⟨q, result⟩ := taken
  cases result with
  | error e => exact htake h
  | ok lines => exact htake (.inr rfl)

/-- Once the log is no longer read from its start, all parsers know how far they have read it. -/
def Settled (m : Monitor) : Prop := m.firstRead = false → ∀ p ∈ m.parsers, p.offset.isSome

theorem settled_read {m : Monitor} (h : m.Settled) (bus : Option Bus) (fs : FileSystem) :
    (m.read bus fs).monitor.Settled := by
  intro hfirst
  rcases read_cases m bus fs with hr | ⟨n, hr⟩ | ⟨before, p, after, cause, hr⟩
  · rw [hr.parsers]
    exact List.forall_mem_map.mpr fun p hp => isSome_offset_parserAfter (.inr (hr.logs p hp))
  · rw [hr.parsers]
    exact h (hr.firstRead ▸ hfirst)
  · -- the flag was off before, so all parsers had an offset, which none of them loses
    have hm := h (hr.firstRead ▸ hfirst)
    simp only [hr.order, List.forall_mem_append, List.forall_mem_cons] at hm
    obtain ⟨hbefore, hp, hafter⟩ := hm
    simp only [hr.parsers, List.forall_mem_append, List.forall_mem_map, List.forall_mem_cons]
    exact ⟨fun q hq => isSome_offset_parserAfter (.inl (hbefore q hq)),
      isSome_offset_parserAfter (.inl hp), hafter⟩

end Settled

end Monitor

/-! ### Runs -/

/-- A monitor at work, and the log file that its parsers follow. -/
structure Watch where
  monitor : Monitor
  /-- What the log file holds. -/
  file : List UInt8
  /-- All lines that the parser at a place has taken in. -/
  fed : Nat → List String := fun _ => []
  /-- All events that were dispatched for messages of the parser at a place. -/
  told : Nat → List Event := fun _ => []

namespace Watch

open Monitor

/-- What happens to the log file or is done by the monitor. -/
inductive Turn where
  /-- Bytes are added to the file. -/
  | append (chunk : List UInt8)
  /-- The monitor runs a cycle. The log is there, unless it is `missing`. -/
  | cycle (bus : Option Bus) (fs : FileSystem) (missing : Option FileFault)

/-- A monitor that has not run yet, and what its log file holds. -/
def start (monitor : Monitor) (file : List UInt8) : Watch := { monitor, file }

variable (path : String) (identity : Nat)

/-- The platform in which the log has a path and an identity. -/
def platform (w : Watch) (fs : FileSystem) (missing : Option FileFault) : FileSystem :=
  fs.withFile path (missing.elim (.ok ⟨identity, .regular w.file⟩) .error)

/-- What one turn does. -/
def step (w : Watch) : Turn → Watch
  | .append chunk => { w with file := w.file ++ chunk }
  | .cycle bus fs missing =>
    let fs := w.platform path identity fs missing
    { w with
      monitor := (w.monitor.read bus fs).monitor
      fed := fun i => w.fed i ++ w.monitor.lineShare bus fs i
      told := fun i => w.told i ++ w.monitor.eventShare bus fs i }

/-- One turn after another. -/
def run (w : Watch) (turns : List Turn) : Watch := turns.foldl (step path identity) w

section Ends

variable (w : Watch) (bus : Option Bus) (fs : FileSystem)

/-- How a cycle ends that takes the log in as a whole or not at all. -/
inductive Ends : Option FileFault → Prop where
  /-- All devices could be read, and the log was there. -/
  | completed (devices : w.monitor.failing bus = [])
    (h : Completed w.monitor bus (w.platform path identity fs none)
      (w.monitor.read bus (w.platform path identity fs none))) : Ends none
  | idle {missing : Option FileFault} (failing : ¬(w.monitor.failing bus = [] ∧ missing = none))
    (h : Idle w.monitor bus (w.platform path identity fs missing)) : Ends missing

variable {w bus fs path identity} {missing : Option FileFault}

theorem Ends.result_eq_ok_iff (h : Ends path identity w bus fs missing) :
    (w.monitor.read bus (w.platform path identity fs missing)).result = .ok () ↔
      w.monitor.failing bus = [] ∧ missing = none := by
  cases h with
  | completed devices h => exact iff_of_true h.result ⟨devices, rfl⟩
  | idle failing h => exact iff_of_false h.result failing

/-- When there are parsers, all of one log, and they can read it when it is there, a cycle takes it in
as a whole or not at all. -/
theorem ends_of_canRead (hne : w.monitor.parsers ≠ []) (hpath : ∀ q ∈ w.monitor.parsers, q.path = path)
    (hcan : ∀ q ∈ w.monitor.parsers,
      canRead (w.platform path identity fs none) w.monitor.firstRead q)
    (bus : Option Bus) (missing : Option FileFault) : Ends path identity w bus fs missing := by
  by_cases hdevices : w.monitor.failing bus = []
  · cases missing with
    | none => exact .completed hdevices (completed_read _ hdevices hcan)
    | some fault =>
      exact .idle nofun (idle_of_missing hpath hne hdevices (FileSystem.openFile_withFile ..))
  · exact .idle (fun h => hdevices h.1) (idle_of_failing hdevices _)

end Ends

/-- A property that every turn keeps holds after a run. -/
theorem run_induction {motive : Watch → Prop} (turns : List Turn) {w : Watch} (h : motive w)
    (hstep : ∀ w turn, motive w → motive (w.step path identity turn)) :
    motive (w.run path identity turns) := by
  induction turns generalizing w with
  | nil => exact h
  | cons turn turns ih => exact ih (hstep w turn h)

end Watch

end AerWatch
