import AerWatch.Proofs.Monitor.Watching
import Mathlib.Data.List.Forall2

/-!
# Reading a log in full

A monitor that reads the log in full at first feeds every parser all lines of it, each once and in
order, whatever cycles fail on the way. A parser either has not opened the log yet, and then the log is
still to be read from its start, or it has taken in the complete lines of a part of it.
-/

namespace AerWatch

open Log Monitor

section Creation

theorem forall₂_of_mapM {α β ε : Type} {f : α → Except ε β} {as : List α} {bs : List β}
    (h : as.mapM f = .ok bs) : List.Forall₂ (fun a b => f a = .ok b) as bs := by
  induction as generalizing bs with
  | nil =>
    obtain rfl : [] = bs := Except.ok.inj h
    exact .nil
  | cons a as ih =>
    rw [List.mapM_cons] at h
    obtain ⟨b, hb, h⟩ := bind_eq_ok.mp h
    obtain ⟨bs', hbs, h⟩ := bind_eq_ok.mp h
    obtain rfl : b :: bs' = bs := Except.ok.inj h
    exact .cons hb (ih hbs)

theorem Config.parsers_ne_nil (c : Config) : c.parsers ≠ [] := by
  unfold Config.parsers
  split
  · exact List.cons_ne_nil _ _
  · assumption

variable {c : Config} {bus : Option Bus} {m : Monitor}

/-- What a new monitor that reads the log is made of. -/
theorem Monitor.exists_of_ofBus (h : Monitor.ofBus c bus = .ok m) (hlog : c.readLog = true) :
    ∃ fleet parsers, c.parsers.mapM c.openParser = .ok parsers ∧
      m = { policy := c.policy, fleet, parsers, firstRead := c.firstFullRead } := by
  unfold Monitor.ofBus at h
  simp only [hlog, if_true] at h
  obtain ⟨-, -, h⟩ := bind_eq_ok.mp h
  cases bus
  all_goals
    obtain ⟨fleet, -, h⟩ := bind_eq_ok.mp h
    obtain ⟨parsers, hparsers, h⟩ := bind_eq_ok.mp h
    exact ⟨fleet, parsers, hparsers, (Except.ok.inj h).symm⟩

end Creation

section Parsers

/-- A parser of the log at a path that has not read anything. -/
structure IsFresh (path : String) (p : LogParser) : Prop where
  path : p.path = path
  offset : p.offset = none
  pending : p.pending = none
  blank : ∀ r ∈ p.rules, r.capture "" = none

theorem isFresh_of_create {c : ParserConfig} {path : String} {p : LogParser}
    (h : LogParser.create c path = .ok p) (hblank : ∀ r ∈ p.rules, r.capture "" = none) :
    IsFresh path p := by
  obtain ⟨rules, -, rfl⟩ := eq_of_create h
  exact ⟨rfl, rfl, rfl, hblank⟩

/-- What has become of the parser `p`, and the lines that it has taken in. -/
inductive HasTaken (identity : Nat) (file : List UInt8) (p : LogParser) :
    LogParser → List String → Prop where
  | nothing : HasTaken identity file p p []
  | part {seen : List UInt8} (h : seen <+: file) :
    HasTaken identity file p (p.afterReading identity seen) (completeLines seen)

variable {identity : Nat} {file : List UInt8} {p q : LogParser} {taken : List String}

theorem HasTaken.path_eq (h : HasTaken identity file p q taken) : q.path = p.path := by
  cases h <;> rfl

theorem HasTaken.append (h : HasTaken identity file p q taken) (chunk : List UInt8) :
    HasTaken identity (file ++ chunk) p q taken := by
  cases h with
  | nothing => exact .nothing
  | part h => exact .part (h.trans (List.prefix_append ..))

variable {path : String} {fs : FileSystem} {replay : Bool}

/-- A parser that reads the log takes in the lines that it has not taken in yet, and an empty one. -/
theorem HasTaken.read (h : HasTaken identity file p q taken) (hp : IsFresh path p)
    (hfile : fs.openFile path = .ok ⟨identity, .regular file⟩)
    (hreplay : q.offset = none → replay = true) :
    ∃ more, completeLines file = taken ++ more ∧ linesTaken fs replay q = more ++ [""] ∧
      q.read fs replay = (p.afterReading identity file,
        .ok (assembleAll p.rules (assembleAll p.rules none taken).1 more).2) := by
  rw [← hp.path] at hfile
  cases h with
  | nothing =>
    obtain rfl := hreplay hp.offset
    refine ⟨completeLines file, rfl, ?_, read_fresh hfile hp.blank hp.offset hp.pending⟩
    rw [linesTaken, take_fresh hfile hp.offset]
    rfl
  | part hseen =>
    refine ⟨_, (completeLines_of_grown hseen).1, ?_, read_afterReading hfile hp.blank hseen replay⟩
    rw [linesTaken, take_afterReading hfile hseen]
    rfl

end Parsers

/-! ### Runs -/

namespace Watch

/-- What the parser at a place took in and announced are the lines `taken`, blank ones aside, and the
messages that these hold. -/
structure Account (identity : Nat) (w : Watch) (i : Nat) (p q : LogParser) (taken : List String) :
    Prop where
  position : HasTaken identity w.file p q taken
  sublist : taken.Sublist (w.fed i)
  fed : nonBlank (w.fed i) = nonBlank taken
  told : w.told i = (assembleAll p.rules none taken).2.map (·.toEvent)

/-- The invariant of a run of a monitor that had the parsers `ps`. -/
structure Accounts (identity : Nat) (ps : List LogParser) (w : Watch) : Prop where
  settled : w.monitor.Settled
  length : w.monitor.parsers.length = ps.length
  account : ∀ i p q, ps[i]? = some p → w.monitor.parsers[i]? = some q →
    ∃ taken, Account identity w i p q taken

section Step

variable {path : String} {identity : Nat} {ps : List LogParser} {w : Watch} {bus : Option Bus}
  {fs : FileSystem} {missing : Option FileFault}

/-- An idle cycle leaves all accounts as they are. -/
theorem Accounts.of_idle (h : Accounts identity ps w)
    (hidle : Idle w.monitor bus (w.platform path identity fs missing)) :
    Accounts identity ps (w.step path identity (.cycle bus fs missing)) where
  settled := settled_read h.settled _ _
  length := hidle.parsers.symm ▸ h.length
  account i p q hp hq := by
    obtain ⟨taken, ha⟩ := h.account i p q hp (hidle.parsers ▸ hq)
    refine ⟨taken, ha.position, ?_, ?_, ?_⟩
    · simpa [step, hidle.lineShare] using ha.sublist
    · simpa [step, hidle.lineShare] using ha.fed
    · simpa [step, hidle.eventShare] using ha.told

variable (hps : ∀ p ∈ ps, IsFresh path p)
include hps

theorem Accounts.path_eq (h : Accounts identity ps w) :
    ∀ q ∈ w.monitor.parsers, q.path = path := by
  intro q hq
  obtain ⟨i, hi, rfl⟩ := List.getElem_of_mem hq
  have hi' : i < ps.length := h.length ▸ hi
  obtain ⟨taken, ha⟩ := h.account i _ _ (List.getElem?_eq_getElem hi') (List.getElem?_eq_getElem hi)
  rw [ha.position.path_eq]
  exact (hps _ (List.getElem_mem hi')).path

/-- A parser can read a log that is there, and takes in what it has not taken in yet. -/
theorem Accounts.read (h : Accounts identity ps w) (fs : FileSystem) {i : Nat} {p q : LogParser}
    (hp : ps[i]? = some p) (hq : w.monitor.parsers[i]? = some q) :
    ∃ taken more, Account identity w i p q taken ∧ completeLines w.file = taken ++ more ∧
      linesTaken (w.platform path identity fs none) w.monitor.firstRead q = more ++ [""] ∧
      q.read (w.platform path identity fs none) w.monitor.firstRead =
        (p.afterReading identity w.file,
          .ok (assembleAll p.rules (assembleAll p.rules none taken).1 more).2) := by
  obtain ⟨taken, ha⟩ := h.account i p q hp hq
  -- a parser that has not opened the log is one for which it is still to be replayed
  have hreplay : q.offset = none → w.monitor.firstRead = true := by
    intro hoffset
    by_contra hfirst
    have hsome := h.settled (Bool.eq_false_iff.mpr hfirst) q (List.mem_of_getElem? hq)
    rw [hoffset] at hsome
    exact absurd hsome nofun
  obtain ⟨more, hmore, hlines, hread⟩ := ha.position.read (hps p (List.mem_of_getElem? hp))
    (FileSystem.openFile_withFile fs path (.ok ⟨identity, .regular w.file⟩)) hreplay
  exact ⟨taken, more, ha, hmore, hlines, hread⟩

theorem Accounts.canRead (h : Accounts identity ps w) (fs : FileSystem) :
    ∀ q ∈ w.monitor.parsers,
      Monitor.canRead (w.platform path identity fs none) w.monitor.firstRead q := by
  intro q hq
  obtain ⟨i, hi, rfl⟩ := List.getElem_of_mem hq
  obtain ⟨_, _, _, _, _, hread⟩ := h.read hps fs
    (List.getElem?_eq_getElem (h.length ▸ hi)) (List.getElem?_eq_getElem hi)
  exact canRead_of_ok hread

/-- After a cycle that reads the log every parser has taken in all complete lines. -/
theorem Accounts.account_of_completed (h : Accounts identity ps w)
    (hdevices : w.monitor.failing bus = []) (fs : FileSystem) {i : Nat} {p : LogParser}
    (hp : ps[i]? = some p) :
    let w' := w.step path identity (.cycle bus fs none)
    w'.monitor.parsers[i]? = some (p.afterReading identity w.file) ∧
      Account identity w' i p (p.afterReading identity w.file) (completeLines w.file) := by
  have hi : i < w.monitor.parsers.length :=
    h.length ▸ (List.getElem?_eq_some_iff.mp hp).1
  have hq := List.getElem?_eq_getElem hi
  obtain ⟨taken, more, ha, hmore, hlines, hread⟩ := h.read hps fs hp hq
  have hr := completed_read _ hdevices (h.canRead hps fs)
  have hreaders := readers_of_completed hr
  have hafter : parserAfter (w.platform path identity fs none) w.monitor.firstRead
      w.monitor.parsers[i] = p.afterReading identity w.file := by
    rw [parserAfter, hread]
  have hevents : logEvents (w.platform path identity fs none) w.monitor.firstRead
      w.monitor.parsers[i] =
        (assembleAll p.rules (assembleAll p.rules none taken).1 more).2.map (·.toEvent) := by
    rw [logEvents, hread]
    rfl
  refine ⟨?_, .part List.prefix_rfl, ?_, ?_, ?_⟩
  · rw [step, hr.parsers, List.getElem?_map, hq, Option.map_some, hafter]
  · simp only [step, lineShare, hreaders, hq, Option.elim_some, hlines, hmore]
    exact ha.sublist.append (List.sublist_append_left ..)
  · simp only [step, lineShare, hreaders, hq, Option.elim_some, hlines, hmore, nonBlank_append,
      nonBlank_blank, List.append_nil, ha.fed]
  · simp only [step, eventShare, hreaders, hq, Option.elim_some, hevents, hmore, assembleAll_append,
      List.map_append, ha.told]

/-- A cycle reads the log in full or not at all. -/
theorem Accounts.ends (h : Accounts identity ps w) (hne : ps ≠ []) (bus : Option Bus)
    (fs : FileSystem) (missing : Option FileFault) : Ends path identity w bus fs missing := by
  refine ends_of_canRead (fun hnil => hne ?_) (h.path_eq hps) (h.canRead hps fs) bus missing
  exact List.eq_nil_of_length_eq_zero (h.length ▸ hnil ▸ rfl)

theorem Accounts.step (hne : ps ≠ []) (turn : Turn) (h : Accounts identity ps w) :
    Accounts identity ps (w.step path identity turn) := by
  cases turn with
  | append chunk =>
    refine ⟨h.settled, h.length, fun i p q hp hq => ?_⟩
    obtain ⟨taken, ha⟩ := h.account i p q hp hq
    exact ⟨taken, ha.position.append chunk, ha.sublist, ha.fed, ha.told⟩
  | cycle bus fs missing =>
    cases h.ends hps hne bus fs missing with
    | completed hdevices hr =>
      refine ⟨settled_read h.settled _ _, ?_, fun i p q hp hq => ?_⟩
      · rw [Watch.step, hr.parsers, List.length_map, h.length]
      · obtain ⟨hafter, ha⟩ := h.account_of_completed hps hdevices fs hp
        obtain rfl := Option.some.inj (hafter.symm.trans hq)
        exact ⟨_, ha⟩
    | idle _ hidle => exact h.of_idle hidle

end Step

theorem accounts_start {m : Monitor} (hfirst : m.firstRead = true) (identity : Nat)
    (file : List UInt8) : Accounts identity m.parsers (Watch.start m file) where
  settled h := absurd (hfirst.symm.trans h) nofun
  length := rfl
  account i p q hp hq := by
    obtain rfl := Option.some.inj (hp.symm.trans hq)
    exact ⟨[], .nothing, .slnil, rfl, rfl⟩

/-- While a log grows that a monitor is to read in full, a cycle succeeds exactly when no device fails
and the log is there. After it each parser has been fed all complete lines of the log, those on which
something stands once and in order, and has announced what a fresh parser finds on them. The log is no
longer read from its start only when every parser knows how far it has read it. -/
theorem lines_of_full_first_read {c : Config} {bus₀ : Option Bus} {m : Monitor}
    (hm : Monitor.ofBus c bus₀ = .ok m) (hlog : c.readLog = true) (hfull : c.firstFullRead = true)
    (hblank : ∀ p ∈ m.parsers, ∀ r ∈ p.rules, r.capture "" = none) (identity : Nat)
    (file : List UInt8) (turns : List Turn) (bus : Option Bus) (fs : FileSystem)
    (missing : Option FileFault) :
    let w := (start m file).run c.logFile identity turns
    let platform := w.platform c.logFile identity fs missing
    let r := w.monitor.read bus platform
    let w' := w.step c.logFile identity (.cycle bus fs missing)
    (w.monitor.firstRead = false → ∀ p ∈ w.monitor.parsers, p.offset.isSome) ∧
    (r.result = .ok () ↔ w.monitor.failing bus = [] ∧ missing = none) ∧
    r.events = (w.monitor.poll bus).events ++
      (List.range c.parsers.length).flatMap (w.monitor.eventShare bus platform) ++
        (match r.result with
        | .error (.logRead ..) => [logFailure]
        | _ => []) ∧
    (r.result = .ok () → ∀ i pc, c.parsers[i]? = some pc → ∃ fresh, c.openParser pc = .ok fresh ∧
      (completeLines w'.file).Sublist (w'.fed i) ∧
      nonBlank (w'.fed i) = nonBlank (completeLines w'.file) ∧
      w'.told i = (fresh.feed (nonBlank (completeLines w'.file))).2.map (·.toEvent)) := by
  intro w platform r w'
  obtain ⟨fleet, parsers, hmap, hmade⟩ := Monitor.exists_of_ofBus hm hlog
  have hfirst : m.firstRead = true := hmade ▸ hfull
  have hparsers : List.Forall₂ (fun pc p => c.openParser pc = .ok p) c.parsers m.parsers :=
    hmade ▸ forall₂_of_mapM hmap
  have hlength := hparsers.length_eq
  have hne : m.parsers ≠ [] := by
    intro hnil
    rw [hnil] at hparsers
    exact c.parsers_ne_nil (List.forall₂_nil_right_iff.mp hparsers)
  have hps : ∀ p ∈ m.parsers, IsFresh c.logFile p := by
    intro p hp
    obtain ⟨i, hi, rfl⟩ := List.getElem_of_mem hp
    exact isFresh_of_create (hparsers.get (hlength ▸ hi) hi) (hblank _ hp)
  have h : Accounts identity m.parsers w :=
    run_induction c.logFile identity turns (accounts_start hfirst identity file)
      fun _ turn h => h.step hps hne turn
  have hok := (h.ends hps hne bus fs missing).result_eq_ok_iff
  refine ⟨h.settled, hok, ?_, fun hresult i pc hpc => ?_⟩
  · rw [hlength, ← h.length]
    exact events_read ..
  · obtain ⟨hdevices, rfl⟩ := hok.mp hresult
    obtain ⟨hi, rfl⟩ := List.getElem?_eq_some_iff.mp hpc
    have hi' : i < m.parsers.length := hlength ▸ hi
    have hfresh := hps _ (List.getElem_mem hi')
    obtain ⟨-, ha⟩ := h.account_of_completed hps hdevices fs (List.getElem?_eq_getElem hi')
    refine ⟨m.parsers[i], hparsers.get hi hi', ha.sublist, ha.fed, ?_⟩
    rw [ha.told, LogParser.feed_eq_assembleAll, hfresh.pending,
      assembleAll_nonBlank hfresh.blank fits_none]
    rfl

/-- The first cycle fails for a device, the next one for the log, and the last line of the log is torn
between the two that succeed. -/
theorem lines_of_interrupted_first_read :
    let c : Config :=
      { readLog := true, firstFullRead := true, logFile := "syslog", messagePatterns :=
        [⟨"ports", [{ name := "port", regex := "port=(.*)" }]⟩,
         ⟨"pairs", [{ name := "port", regex := "port=(.*)" }, { name := "id", regex := "id=(.*)" }]⟩] }
    let bus := Fleet.sampleBus [Fleet.sampleSpace 0 0 0]
    let turns : List Turn :=
      [.cycle (some (Fleet.sampleBus [])) .empty none, .append (Utf8.encode "port=2\ni"),
       .cycle (some bus) .empty (some .notFound), .cycle (some bus) .empty none,
       .append (Utf8.encode "d=7\n")]
    ∃ m, Monitor.ofBus c (some bus) = .ok m ∧ c.readLog = true ∧ c.firstFullRead = true ∧
      (∀ p ∈ m.parsers, ∀ r ∈ p.rules, r.capture "" = none) ∧
      let w := (start m (Utf8.encode "port=1\n")).run c.logFile 1 turns
      let r := w.monitor.read (some bus) (w.platform c.logFile 1 .empty none)
      let w' := w.step c.logFile 1 (.cycle (some bus) .empty none)
      let port (n : String) : Message := ⟨[("port", n)]⟩
      let pair : Message := ⟨[("port", "2"), ("id", "7")]⟩
      r.result = .ok () ∧ r.events = [pair.toEvent] ∧
      completeLines w'.file = ["port=1", "port=2", "id=7"] ∧
      w'.fed 0 = ["port=1", "port=2", "", "id=7", ""] ∧ w'.fed 1 = w'.fed 0 ∧
      w'.told 0 = [(port "1").toEvent, (port "2").toEvent] ∧ w'.told 1 = [pair.toEvent] ∧
      ∀ i pc, c.parsers[i]? = some pc → ∃ fresh, c.openParser pc = .ok fresh ∧
        (completeLines w'.file).Sublist (w'.fed i) ∧
        nonBlank (w'.fed i) = nonBlank (completeLines w'.file) ∧
        w'.told i = (fresh.feed (nonBlank (completeLines w'.file))).2.map (·.toEvent) := by
  intro c bus turns
  have h : (Monitor.ofBus c (some bus)).toOption.any (fun m =>
      let w := (start m (Utf8.encode "port=1\n")).run c.logFile 1 turns
      let w' := w.step c.logFile 1 (.cycle (some bus) .empty none)
      let port (n : String) : Message := ⟨[("port", n)]⟩
      let pair : Message := ⟨[("port", "2"), ("id", "7")]⟩
      (m.parsers.all fun p => p.rules.all fun r => (r.capture "").isNone) &&
      decide (w.monitor.failing (some bus) = [] ∧
        (w.monitor.read (some bus) (w.platform c.logFile 1 .empty none)).events = [pair.toEvent] ∧
        completeLines w'.file = ["port=1", "port=2", "id=7"] ∧
        w'.fed 0 = ["port=1", "port=2", "", "id=7", ""] ∧ w'.fed 1 = w'.fed 0 ∧
        w'.told 0 = [(port "1").toEvent, (port "2").toEvent] ∧
        w'.told 1 = [pair.toEvent])) = true := by
    decide +kernel
  obtain ⟨m, hm, h⟩ := exists_of_any h
  obtain ⟨hrules, hrun⟩ := (Bool.and_eq_true ..).mp h
  obtain ⟨hdevices, hevents, hfile, hfed, hsame, hports, hpairs⟩ := of_decide_eq_true hrun
  have hblank : ∀ p ∈ m.parsers, ∀ r ∈ p.rules, r.capture "" = none := by simpa using hrules
  obtain ⟨-, hok, -, hlines⟩ := lines_of_full_first_read hm rfl rfl hblank 1
    (Utf8.encode "port=1\n") turns (some bus) .empty none
  have hresult := hok.mpr ⟨hdevices, rfl⟩
  exact ⟨m, hm, rfl, rfl, hblank, hresult, hevents, hfile, hfed, hsame, hports, hpairs,
    hlines hresult⟩

end Watch

end AerWatch
