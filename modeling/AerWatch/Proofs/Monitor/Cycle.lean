import AerWatch.Monitor
import AerWatch.Proofs.Fleet.Polling
import AerWatch.Proofs.Log.Failing
import AerWatch.Proofs.Log.Reporting

/-!
# One cycle

A cycle polls the devices and then reads the log with one parser after another. It ends in one of
three ways: all went well, devices failed and the log was not touched, or a parser could not read the
log and those behind it were not asked. The announcements of failures tell which.
-/

namespace AerWatch

section Topics

/-- The announcements that data could not be collected. -/
def failures (events : List Event) : List Event := events.filter (·.topic == .monitor)

@[simp] theorem failures_append (es fs : List Event) :
    failures (es ++ fs) = failures es ++ failures fs := List.filter_append ..

theorem failures_eq_nil {events : List Event} (h : ∀ e ∈ events, e.topic = .pcieError) :
    failures events = [] := by
  refine List.filter_eq_nil_iff.mpr fun e he => ?_
  rw [h e he]
  decide

theorem Policy.topic_of_mem_announced {p : Policy} {s : ConfigSpace} {d : Device}
    {status : Snapshot} {k : StatusRegister} {e : Event} (h : e ∈ p.announced s d status k) :
    e.topic = .pcieError := by
  obtain ⟨-, b, t, -, -, rfl⟩ := exists_of_mem_announced h
  cases t <;> rfl

theorem Log.Message.topic_toEvent (m : Log.Message) : m.toEvent.topic = .pcieError := by
  rw [m.toEvent_eq]
  rfl

end Topics

namespace Fleet

theorem failures_pollDevice (p : Policy) (bus : Bus) (d : Device) :
    failures (pollDevice p bus d).events = if fails bus d then [readFailure d] else [] := by
  rw [pollDevice_eq, fails]
  cases reading? bus d with
  | none => rfl
  | some r =>
    refine failures_eq_nil fun e he => ?_
    obtain ⟨k, -, hk⟩ := List.mem_flatMap.mp he
    exact Policy.topic_of_mem_announced hk

/-- The failures that a poll announces are those of the devices that fail, in order. -/
theorem failures_poll (p : Policy) (bus : Bus) (fleet : Fleet) :
    failures (poll p bus fleet).events = (fleet.devices.filter (fails bus)).map readFailure := by
  rw [poll_eq]
  obtain ⟨ds⟩ := fleet
  induction ds with
  | nil => rfl
  | cons d ds ih =>
    dsimp only at ih ⊢
    rw [List.flatMap_cons, failures_append, failures_pollDevice, ih]
    cases h : fails bus d <;> simp [h]

end Fleet

namespace Monitor

section Logs

open Log

variable (fs : FileSystem) (replay : Bool)

/-- Whether a parser can read the log. -/
def canRead (p : LogParser) : Bool := (p.read fs replay).2.isOk

/-- A parser after it read the log. -/
def parserAfter (p : LogParser) : LogParser := (p.read fs replay).1

/-- The events of the messages that a parser finds. -/
def logEvents (p : LogParser) : List Event :=
  ((p.read fs replay).2.toOption.getD []).map (·.toEvent)

variable {fs replay}

theorem read_of_canRead {p : LogParser} (h : canRead fs replay p) :
    ∃ messages, p.read fs replay = (parserAfter fs replay p, .ok messages) ∧
      logEvents fs replay p = messages.map (·.toEvent) := by
  unfold canRead at h
  unfold parserAfter logEvents
  generalize p.read fs replay = r at h ⊢
  obtain ⟨p', result⟩ := r
  cases result with
  | error e => exact absurd h Bool.false_ne_true
  | ok messages => exact ⟨messages, rfl, rfl⟩

theorem read_of_not_canRead {p : LogParser} (h : canRead fs replay p = false) :
    ∃ e, p.read fs replay = (parserAfter fs replay p, .error e) := by
  unfold canRead at h
  unfold parserAfter
  generalize p.read fs replay = r at h ⊢
  obtain ⟨p', result⟩ := r
  cases result with
  | error e => exact ⟨e, rfl⟩
  | ok messages => exact absurd h.symm Bool.false_ne_true

theorem canRead_of_ok {p p' : LogParser} {messages : List Message}
    (h : p.read fs replay = (p', .ok messages)) : canRead fs replay p := by
  rw [canRead, h]
  rfl

theorem canRead_of_error {p : LogParser} {e : Error} (h : (p.read fs replay).2 = .error e) :
    canRead fs replay p = false := by
  rw [canRead, h]
  rfl

/-- The only error of a parser is that the log cannot be read, and it names the log. -/
theorem error_of_read {p : LogParser} {e : Error} (h : (p.read fs replay).2 = .error e) :
    ∃ cause, e = .logRead p.path cause := by
  rcases p.read_eq_error_iff.mp (Prod.ext rfl h) with
    ⟨cause, -, -, rfl⟩ | ⟨identity, size, -, -, -, rfl⟩
  · exact ⟨cause, rfl⟩
  · exact ⟨.isDirectory, rfl⟩

theorem topic_of_mem_logEvents {p : LogParser} {e : Event} (h : e ∈ logEvents fs replay p) :
    e.topic = .pcieError := by
  obtain ⟨m, -, rfl⟩ := List.mem_map.mp h
  exact m.topic_toEvent

theorem failures_logEvents (ps : List LogParser) :
    failures (ps.flatMap (logEvents fs replay)) = [] := by
  refine failures_eq_nil fun e he => ?_
  obtain ⟨p, -, hp⟩ := List.mem_flatMap.mp he
  exact topic_of_mem_logEvents hp

/-- Parsers that can read the log do so, and those behind them are asked next. -/
theorem readLogs_append {ps : List LogParser} (h : ∀ p ∈ ps, canRead fs replay p)
    (rest : List LogParser) :
    readLogs fs replay (ps ++ rest) =
      let (parsers, events, result) := readLogs fs replay rest
      (ps.map (parserAfter fs replay) ++ parsers, ps.flatMap (logEvents fs replay) ++ events,
        result) := by
  induction ps with
  | nil => rfl
  | cons p ps ih =>
    obtain ⟨hp, hps⟩ := List.forall_mem_cons.mp h
    obtain ⟨messages, hread, hevents⟩ := read_of_canRead hp
    simp [readLogs, hread, hevents, ih hps]

theorem readLogs_of_forall {ps : List LogParser} (h : ∀ p ∈ ps, canRead fs replay p) :
    readLogs fs replay ps =
      (ps.map (parserAfter fs replay), ps.flatMap (logEvents fs replay), .ok ()) := by
  simpa [readLogs] using readLogs_append h []

/-- A parser that cannot read the log ends the reading. -/
theorem readLogs_cons_of_not_canRead {p : LogParser} (h : canRead fs replay p = false)
    (rest : List LogParser) :
    ∃ cause, (p.read fs replay).2 = .error (.logRead p.path cause) ∧
      readLogs fs replay (p :: rest) =
        (parserAfter fs replay p :: rest, [logFailure], .error (.logRead p.path cause)) := by
  obtain ⟨e, he⟩ := read_of_not_canRead h
  obtain ⟨cause, rfl⟩ := error_of_read (congrArg Prod.snd he)
  exact ⟨cause, congrArg Prod.snd he, by simp [readLogs, he]⟩

/-- All parsers can read the log, or there is a first one that cannot. -/
theorem forall_canRead_or (fs : FileSystem) (replay : Bool) (ps : List LogParser) :
    (∀ p ∈ ps, canRead fs replay p) ∨
      ∃ before p after, ps = before ++ p :: after ∧ (∀ q ∈ before, canRead fs replay q) ∧
        canRead fs replay p = false := by
  cases hfirst : ps.find? (fun p => !canRead fs replay p) with
  | none => exact .inl (by simpa using List.find?_eq_none.mp hfirst)
  | some p =>
    obtain ⟨hp, before, after, horder, hbefore⟩ := List.find?_eq_some_iff_append.mp hfirst
    exact .inr ⟨before, p, after, horder, by simpa using hbefore, by simpa using hp⟩

end Logs

section Polling

variable (m : Monitor) (bus : Option Bus)

/-- The devices that fail when they are polled. -/
def failing : List Device := bus.elim [] fun bus => m.fleet.devices.filter (Fleet.fails bus)

theorem failures_poll : failures (m.poll bus).events = (m.failing bus).map Fleet.readFailure := by
  cases bus with
  | none => rfl
  | some bus => exact Fleet.failures_poll ..

theorem result_poll : (m.poll bus).result = Fleet.verdict (m.failing bus).length := by
  cases bus with
  | none => rfl
  | some bus => simp [poll, failing, Fleet.poll_eq, List.countP_eq_length_filter]

theorem read_of_failing (h : m.failing bus ≠ []) (fs : FileSystem) :
    m.read bus fs =
      ⟨{ m with fleet := (m.poll bus).fleet }, (m.poll bus).events,
        .error (.cycleFailed (m.failing bus).length)⟩ := by
  have hresult : (m.poll bus).result = .error (.cycleFailed (m.failing bus).length) := by
    rw [result_poll, Fleet.verdict, if_neg (mt List.length_eq_zero_iff.mp h)]
  simp only [read, hresult]

theorem read_of_not_failing (h : m.failing bus = []) (fs : FileSystem) :
    m.read bus fs =
      let (parsers, events, result) := readLogs fs m.firstRead m.parsers
      let m' := { m with fleet := (m.poll bus).fleet, parsers }
      { monitor := if result.isOk then { m' with firstRead := false } else m'
        events := (m.poll bus).events ++ events
        result } := by
  have hresult : (m.poll bus).result = .ok () := by
    rw [result_poll, h]
    rfl
  simp only [read, hresult]

end Polling

section Outcome

open Log

variable (m : Monitor) (bus : Option Bus) (fs : FileSystem)

/-- All devices were polled and all parsers read the log. -/
structure Completed (r : CycleReport) : Prop where
  result : r.result = .ok ()
  devices : m.failing bus = []
  logs : ∀ p ∈ m.parsers, canRead fs m.firstRead p
  parsers : r.monitor.parsers = m.parsers.map (parserAfter fs m.firstRead)
  events : r.events = (m.poll bus).events ++ m.parsers.flatMap (logEvents fs m.firstRead)
  failed : failures r.events = []
  firstRead : r.monitor.firstRead = false

/-- Some devices failed, and the log was not touched. -/
structure DevicesFailed (r : CycleReport) (n : Nat) : Prop where
  result : r.result = .error (.cycleFailed n)
  devices : (m.failing bus).length = n
  pos : 0 < n
  parsers : r.monitor.parsers = m.parsers
  events : r.events = (m.poll bus).events
  failed : failures r.events =
    (m.failing bus).map fun d => .failure d.address.text "Failed to read device status"
  firstRead : r.monitor.firstRead = m.firstRead

/-- All devices were polled, but the parser `p` could not read the log, and those behind it were not
asked. -/
structure LogFailed (r : CycleReport) (before : List LogParser) (p : LogParser)
    (after : List LogParser) (cause : FileFault) : Prop where
  result : r.result = .error (.logRead p.path cause)
  devices : m.failing bus = []
  order : m.parsers = before ++ p :: after
  logs : ∀ q ∈ before, canRead fs m.firstRead q
  error : (p.read fs m.firstRead).2 = .error (.logRead p.path cause)
  parsers : r.monitor.parsers =
    before.map (parserAfter fs m.firstRead) ++ parserAfter fs m.firstRead p :: after
  events : r.events = (m.poll bus).events ++ before.flatMap (logEvents fs m.firstRead) ++
    [.failure "" "Failed to read from log file"]
  failed : failures r.events = [.failure "" "Failed to read from log file"]
  firstRead : r.monitor.firstRead = m.firstRead

/-- Whatever happens to the log, the devices are as the poll left them. -/
theorem frame_read :
    (m.read bus fs).monitor.fleet = (m.poll bus).fleet ∧
      (m.read bus fs).monitor.policy = m.policy := by
  simp only [read]
  split
  · exact ⟨rfl, rfl⟩
  · dsimp only
    split <;> exact ⟨rfl, rfl⟩

theorem devicesFailed_read (h : m.failing bus ≠ []) :
    DevicesFailed m bus (m.read bus fs) (m.failing bus).length := by
  rw [m.read_of_failing bus h fs]
  exact ⟨rfl, rfl, List.length_pos_iff.mpr h, rfl, rfl, failures_poll m bus, rfl⟩

variable {m bus} (hdevices : m.failing bus = [])
include hdevices

theorem failures_poll_eq_nil : failures (m.poll bus).events = [] := by
  rw [failures_poll, hdevices, List.map_nil]

theorem completed_read (h : ∀ p ∈ m.parsers, canRead fs m.firstRead p) :
    Completed m bus fs (m.read bus fs) := by
  have hfailures := failures_poll_eq_nil hdevices
  rw [m.read_of_not_failing bus hdevices fs, readLogs_of_forall h]
  exact ⟨rfl, hdevices, h, rfl, rfl, by simp [hfailures, failures_logEvents], rfl⟩

theorem logFailed_read {before after : List LogParser} {p : LogParser}
    (horder : m.parsers = before ++ p :: after) (hbefore : ∀ q ∈ before, canRead fs m.firstRead q)
    (hp : canRead fs m.firstRead p = false) :
    ∃ cause, LogFailed m bus fs (m.read bus fs) before p after cause := by
  have hfailures := failures_poll_eq_nil hdevices
  obtain ⟨cause, herror, hread⟩ := readLogs_cons_of_not_canRead hp after
  rw [m.read_of_not_failing bus hdevices fs, horder, readLogs_append hbefore, hread]
  refine ⟨cause, rfl, hdevices, horder, hbefore, herror, rfl, (List.append_assoc ..).symm, ?_, rfl⟩
  rw [failures_append, failures_append, hfailures, failures_logEvents]
  rfl

omit hdevices

variable (m bus)

theorem read_cases :
    Completed m bus fs (m.read bus fs) ∨ (∃ n, DevicesFailed m bus (m.read bus fs) n) ∨
      ∃ before p after cause, LogFailed m bus fs (m.read bus fs) before p after cause := by
  by_cases hdevices : m.failing bus = []
  · rcases forall_canRead_or fs m.firstRead m.parsers with
      hlogs | ⟨before, p, after, horder, hbefore, hp⟩
    · exact .inl (completed_read fs hdevices hlogs)
    · exact .inr (.inr ⟨before, p, after, logFailed_read fs hdevices horder hbefore hp⟩)
  · exact .inr (.inl ⟨_, devicesFailed_read m bus fs hdevices⟩)

/-- The events of a cycle come from the poll or from the log, or tell that the log could not be read. -/
theorem mem_events_read {e : Event} (h : e ∈ (m.read bus fs).events) :
    e ∈ (m.poll bus).events ∨ (∃ p ∈ m.parsers, e ∈ logEvents fs m.firstRead p) ∨
      e = logFailure := by
  rcases read_cases m bus fs with hr | ⟨n, hr⟩ | ⟨before, p, after, cause, hr⟩
  · rw [hr.events] at h
    exact (List.mem_append.mp h).imp_right fun hlogs => .inl (List.mem_flatMap.mp hlogs)
  · rw [hr.events] at h
    exact .inl h
  · rw [hr.events, List.append_assoc] at h
    rcases List.mem_append.mp h with h | h
    · exact .inl h
    · refine .inr ((List.mem_append.mp h).imp (fun hlogs => ?_) List.mem_singleton.mp)
      obtain ⟨q, hq, hmem⟩ := List.mem_flatMap.mp hlogs
      rw [hr.order]
      exact ⟨q, List.mem_append_left _ hq, hmem⟩

/-- A cycle ends in one of three ways, and its result tells which. The devices are left as a poll alone
leaves them in each. -/
theorem outcome_of_read (m : Monitor) (bus : Option Bus) (fs : FileSystem) :
    let r := m.read bus fs
    r.monitor.fleet = (m.poll bus).fleet ∧ r.monitor.policy = m.policy ∧
    match r.result with
    | .ok () => Completed m bus fs r
    | .error (.cycleFailed n) => DevicesFailed m bus r n
    | .error (.logRead path cause) =>
      ∃ before p after, p.path = path ∧ LogFailed m bus fs r before p after cause
    | .error _ => False := by
  intro r
  obtain ⟨hfleet, hpolicy⟩ := frame_read m bus fs
  refine ⟨hfleet, hpolicy, ?_⟩
  rcases read_cases m bus fs with h | ⟨n, h⟩ | ⟨before, p, after, cause, h⟩
  · simp only [r, h.result]
    exact h
  · simp only [r, h.result]
    exact h
  · simp only [r, h.result]
    exact ⟨before, p, after, rfl, h⟩

end Outcome

end Monitor

end AerWatch
