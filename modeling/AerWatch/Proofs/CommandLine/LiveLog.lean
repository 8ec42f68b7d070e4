import AerWatch.Proofs.CommandLine.LogReports
import AerWatch.Proofs.Monitor.FullRead

/-!
# Reports and first cycles

A report of a log builds the parsers one by one and has each read the log from its start. A monitor that
does not poll devices and is to read the log in full has all parsers before its first cycle and lets
them read in turn. Both give the same events, and once the log was read a cycle has nothing to add
until the log changes.
-/

namespace AerWatch

open Log

/-- The settings for watching a log from its start, and nothing else. -/
def Config.watching (c : Config) (file : String) : Config :=
  { c with source := .other, readLog := true, firstFullRead := true, logFile := file }

namespace Config

variable {c : Config} {file : String}

theorem bus?_watching (fs : FileSystem) : (c.watching file).bus? fs = none := rfl

/-- What is refused of a configuration has to do with its parsers only, once it reads the log. -/
theorem validate_watching (h : ({ c with readLog := true } : Config).validate = .ok ()) :
    (c.watching file).validate = .ok () := by
  cases hvalid : (c.watching file).validate with
  | ok => rfl
  | error e =>
    rcases validate_eq_error_iff.mp hvalid with ⟨-, hlog⟩ | ⟨-, hfirst, hp⟩
    · exact absurd hlog nofun
    · exact absurd (.parser (fun _ => rfl) hfirst hp) (not_isRefused_of_validate (e := e) h)

/-- A configuration that is not refused can watch a log, whatever the platform is like. -/
theorem exists_watching (h : (c.watching file).validate = .ok ()) :
    ∃ parsers, List.Forall₂ (fun p parser => LogParser.create p file = .ok parser) c.parsers parsers ∧
      ∀ fs, Monitor.ofConfig (c.watching file) fs =
        .ok { policy := c.policy, fleet := {}, parsers, firstRead := true } := by
  obtain ⟨parsers, hparsers⟩ := exists_parsers h
  exact ⟨parsers, forall₂_of_mapM hparsers, fun _ => Monitor.ofBus_of_validate h hparsers⟩

end Config

namespace Monitor

/-- What cycles find out while the platform changes. -/
def cycles (c : Config) : Monitor → List FileSystem → List CycleReport
  | _, [] => []
  | m, fs :: platforms =>
    let r := m.read (c.bus? fs) fs
    r :: cycles c r.monitor platforms

/-- All parsers have read a log up to its last complete line, and none of them captures anything on an
empty one. -/
def IsUpToDate (path : String) (identity : Nat) (bytes : List UInt8) (m : Monitor) : Prop :=
  ∀ q ∈ m.parsers, ∃ p, IsFresh path p ∧ q = p.afterReading identity bytes

section Cycles

variable {m : Monitor} {p : LogParser} {fs : FileSystem} {path : String} {identity : Nat}
  {bytes : List UInt8}

/-- Where no devices are polled none can fail. -/
theorem failing_none (m : Monitor) : m.failing none = [] := rfl

section Step

variable (hfile : fs.openFile path = .ok ⟨identity, .regular bytes⟩)
include hfile

/-- A parser that has read a log finds nothing more in it. -/
theorem read_again (hp : IsFresh path p) (replay : Bool) :
    (p.afterReading identity bytes).read fs replay = (p.afterReading identity bytes, .ok []) := by
  have hnone : completeLines (bytes.drop (completeLength bytes)) = [] :=
    List.self_eq_append_right.mp (completeLines_of_grown List.prefix_rfl).1
  rw [← hp.path] at hfile
  rw [read_afterReading hfile hp.blank List.prefix_rfl, hnone, assembleAll]

/-- A first cycle brings parsers up to date. -/
theorem isUpToDate_of_fresh (hps : ∀ p ∈ m.parsers, IsFresh path p) (hfirst : m.firstRead = true) :
    IsUpToDate path identity bytes (m.read none fs).monitor := by
  have hread : ∀ p ∈ m.parsers, p.read fs m.firstRead =
      (p.afterReading identity bytes, .ok (assembleAll p.rules none (completeLines bytes)).2) := by
    intro p hp
    have hfresh := hps p hp
    rw [hfirst]
    exact read_fresh (hfresh.path ▸ hfile) hfresh.blank hfresh.offset hfresh.pending
  have hr := completed_read fs (failing_none m) fun p hp => canRead_of_ok (hread p hp)
  intro q hq
  rw [hr.parsers] at hq
  obtain ⟨p, hp, rfl⟩ := List.mem_map.mp hq
  exact ⟨p, hps p hp, by rw [parserAfter, hread p hp]⟩

/-- A cycle adds nothing while the log stays as it is. -/
theorem IsUpToDate.read (h : IsUpToDate path identity bytes m) :
    let r := m.read none fs
    r.events = [] ∧ r.result = .ok () ∧ IsUpToDate path identity bytes r.monitor := by
  have hread : ∀ q ∈ m.parsers, q.read fs m.firstRead = (q, .ok []) := by
    intro q hq
    obtain ⟨p, hp, rfl⟩ := h q hq
    exact read_again hfile hp m.firstRead
  have hr := completed_read fs (failing_none m) fun q hq => canRead_of_ok (hread q hq)
  have hevents : m.parsers.flatMap (logEvents fs m.firstRead) = [] := by
    refine List.flatMap_eq_nil_iff.mpr fun q hq => ?_
    rw [logEvents, hread q hq]
    rfl
  have hparsers : m.parsers.map (parserAfter fs m.firstRead) = m.parsers := by
    have hsame : ∀ q ∈ m.parsers, parserAfter fs m.firstRead q = id q := fun q hq => by
      rw [parserAfter, hread q hq, id]
    rw [List.map_congr_left hsame, List.map_id]
  refine ⟨?_, hr.result, ?_⟩
  · rw [hr.events, hevents]
    rfl
  · intro q hq
    rw [hr.parsers, hparsers] at hq
    exact h q hq

end Step

theorem IsUpToDate.cycles {c : Config} (hbus : ∀ fs, c.bus? fs = none) {platforms : List FileSystem}
    (hfile : ∀ fs ∈ platforms, fs.openFile path = .ok ⟨identity, .regular bytes⟩)
    (h : IsUpToDate path identity bytes m) :
    ∀ r ∈ cycles c m platforms, r.events = [] ∧ r.result = .ok () := by
  induction platforms generalizing m with
  | nil => exact List.forall_mem_nil _
  | cons fs platforms ih =>
    obtain ⟨hfs, hplatforms⟩ := List.forall_mem_cons.mp hfile
    obtain ⟨hevents, hresult, hnext⟩ := h.read hfs
    rw [Monitor.cycles, hbus]
    exact List.forall_mem_cons.mpr ⟨⟨hevents, hresult⟩, ih hplatforms hnext⟩

end Cycles

end Monitor

namespace CommandLine

section Agreement

variable {c : Config} {fs : FileSystem} {file : String} {identity : Nat} {bytes : List UInt8}

/-- All events of a log are reported when all parsers can be built. -/
theorem parseLog_of_built (hfile : fs.openFile file = .ok ⟨identity, .regular bytes⟩)
    (h : ∀ p ∈ c.parsers, ¬ ∃ e, p.HasFault e) :
    parseLog fs c file = ⟨(c.parsers.flatMap (eventsIn bytes)).map .event, .ok ()⟩ := by
  have hevents := logEvents_append hfile h []
  rw [List.append_nil] at hevents
  simp only [parseLog, hevents, logEvents, List.append_nil]

/-- A new parser of a monitor finds the events that are reported of the log. -/
theorem read_of_create (hfile : fs.openFile file = .ok ⟨identity, .regular bytes⟩) {p : ParserConfig}
    {parser : LogParser} (h : LogParser.create p file = .ok parser) :
    Monitor.canRead fs true parser ∧ Monitor.logEvents fs true parser = eventsIn bytes p := by
  obtain ⟨rules, hrules, rfl⟩ := eq_of_create h
  have htake : ({ name := p.name, path := file, rules } : LogParser).take fs true = _ :=
    take_fresh hfile rfl
  simp only [Monitor.canRead, Monitor.logEvents, LogParser.read, htake, eventsIn, hrules]
  exact ⟨rfl, rfl⟩

theorem read_of_forall₂_create (hfile : fs.openFile file = .ok ⟨identity, .regular bytes⟩)
    {ps : List ParserConfig} {parsers : List LogParser}
    (h : List.Forall₂ (fun p parser => LogParser.create p file = .ok parser) ps parsers) :
    (∀ parser ∈ parsers, Monitor.canRead fs true parser) ∧
      parsers.flatMap (Monitor.logEvents fs true) = ps.flatMap (eventsIn bytes) := by
  induction h with
  | nil => exact ⟨nofun, rfl⟩
  | cons h _ ih =>
    obtain ⟨hcan, hevents⟩ := read_of_create hfile h
    refine ⟨List.forall_mem_cons.mpr ⟨hcan, ih.1⟩, ?_⟩
    rw [List.flatMap_cons, List.flatMap_cons, hevents, ih.2]

/-- With a configuration that is not refused, the report of a log gives the events that the first cycle
gives of a monitor that polls no devices and reads the log in full: those of all parsers in turn. If no
pattern captures anything on an empty line, later cycles add none as long as the log stays as it is. -/
theorem parseLog_eq_first_cycle (hvalid : ({ c with readLog := true } : Config).validate = .ok ())
    (hfile : fs.openFile file = .ok ⟨identity, .regular bytes⟩) :
    let live := c.watching file
    ∃ m, (∀ fs₀, Monitor.ofConfig live fs₀ = .ok m) ∧
      let first := m.read (live.bus? fs) fs
      (parseLog fs c file).result = .ok () ∧ first.result = .ok () ∧
      (parseLog fs c file).printed = first.events.map .event ∧
      first.events = c.parsers.flatMap (eventsIn bytes) ∧
      ((∀ p ∈ m.parsers, ∀ r ∈ p.rules, r.capture "" = none) →
        ∀ platforms : List FileSystem,
          (∀ fs' ∈ platforms, fs'.openFile file = .ok ⟨identity, .regular bytes⟩) →
          ∀ r ∈ Monitor.cycles live first.monitor platforms, r.events = [] ∧ r.result = .ok ()) := by
  intro live
  have hlive : live.validate = .ok () := Config.validate_watching hvalid
  obtain ⟨parsers, hparsers, hm⟩ := Config.exists_watching hlive
  have hbuilt : ∀ p ∈ c.parsers, ¬ ∃ e, p.HasFault e := by
    rintro p hp ⟨e, he⟩
    obtain ⟨parser, hparser⟩ := Config.exists_openParser hlive (Config.mem_of_mem_parsers (c := live) hp)
    rw [Config.openParser, (create_eq_error_iff _).mpr he] at hparser
    cases hparser
  obtain ⟨hlogs, hevents⟩ := read_of_forall₂_create hfile hparsers
  have hr := Monitor.completed_read fs (Monitor.failing_none ⟨c.policy, {}, parsers, true⟩) hlogs
  have hfirst := hr.events.trans ((List.nil_append _).trans hevents)
  refine ⟨_, hm, ?_⟩
  rw [parseLog_of_built hfile hbuilt]
  refine ⟨rfl, hr.result, congrArg (List.map Printed.event) hfirst.symm, hfirst, ?_⟩
  intro hblank platforms hplatforms
  have hfresh : ∀ parser ∈ parsers, IsFresh file parser := by
    intro parser hparser
    obtain ⟨i, hi, rfl⟩ := List.getElem_of_mem hparser
    exact isFresh_of_create (hparsers.get (hparsers.length_eq ▸ hi) hi) (hblank _ hparser)
  exact (Monitor.isUpToDate_of_fresh hfile hfresh rfl).cycles Config.bus?_watching hplatforms

/-- Two parsers find three errors, and the last line of the log is open. -/
theorem parseLog_of_log_with_open_line :
    let c : Config := { messagePatterns :=
      [⟨"ports", [{ name := "port", regex := "port=(.*)" }]⟩,
       ⟨"levels", [{ name := "severity", regex := "sev=(.*)" }]⟩] }
    let bytes := Utf8.encode "port=1\nsev=fatal\nport=2\nsev="
    let fs := FileSystem.empty.withFile "log" (.ok ⟨1, .regular bytes⟩)
    let live := c.watching "log"
    ({ c with readLog := true } : Config).validate = .ok () ∧
      fs.openFile "log" = .ok ⟨1, .regular bytes⟩ ∧
      ∃ m, Monitor.ofConfig live fs = .ok m ∧
        let first := m.read (live.bus? fs) fs
        (parseLog fs c "log").printed = first.events.map .event ∧ first.events.length = 3 ∧
        ∀ r ∈ Monitor.cycles live first.monitor [fs, fs], r.events = [] ∧ r.result = .ok () := by
  intro c bytes fs live
  have hvalid : ({ c with readLog := true } : Config).validate = .ok () := by decide +kernel
  have hfile : fs.openFile "log" = .ok ⟨1, .regular bytes⟩ := rfl
  obtain ⟨m, hm, -, -, hprinted, -, hlater⟩ := parseLog_eq_first_cycle hvalid hfile
  have hlength : (parseLog fs c "log").printed.length = 3 := by decide +kernel
  have hblank : (Monitor.ofConfig live fs).toOption.any (fun m =>
      m.parsers.all fun p => p.rules.all fun r => (r.capture "").isNone) = true := by decide +kernel
  have hsame : ∀ fs' ∈ [fs, fs], fs'.openFile "log" = .ok ⟨1, .regular bytes⟩ := by simp [hfile]
  rw [hm fs] at hblank
  rw [hprinted, List.length_map] at hlength
  exact ⟨hvalid, hfile, m, hm fs, hprinted, hlength,
    hlater (by simpa [Except.toOption] using hblank) [fs, fs] hsame⟩

end Agreement

end CommandLine

end AerWatch
