import AerWatch.CommandLine.Execution
import AerWatch.Proofs.Config.Validation

/-!
# Reports of a log

The parsers of a configuration are built and read the log one by one, and the events of each are printed
before the next one is built. So a parser that cannot be built ends the report, but only behind the
events of the parsers in front of it.
-/

namespace AerWatch.CommandLine

open Log

/-- The events of the messages that a parser finds in a whole log, behind whose complete lines it sees an
empty one. -/
def eventsIn (bytes : List UInt8) (p : ParserConfig) : List Event :=
  match p.rules with
  | .error _ => []
  | .ok rules => (assembleAll rules none (completeLines bytes ++ [""])).2.map (·.toEvent)

section Reports

variable {fs : FileSystem} {file : String} {identity : Nat} {bytes : List UInt8}
  {p : ParserConfig} {ps : List ParserConfig} {e : Error}

theorem logEvents_cons_of_hasFault (h : p.HasFault e) : logEvents fs file (p :: ps) = ([], .error e) := by
  rw [logEvents, (create_eq_error_iff file).mpr h]

variable (hfile : fs.openFile file = .ok ⟨identity, .regular bytes⟩)
include hfile

theorem logEvents_cons_of_built (h : ¬ ∃ e, p.HasFault e) :
    logEvents fs file (p :: ps) =
      (eventsIn bytes p ++ (logEvents fs file ps).1, (logEvents fs file ps).2) := by
  cases hrules : p.rules with
  | error e => exact absurd ⟨e, rules_eq_error_iff.mp hrules⟩ h
  | ok rules =>
    have htake : ({ name := p.name, path := file, rules } : LogParser).take fs true = _ :=
      take_fresh hfile rfl
    simp only [logEvents, LogParser.create, hrules, Except.map, LogParser.read, htake, eventsIn]

/-- Parsers that can be built print their events and leave the rest to the others. -/
theorem logEvents_append (h : ∀ p ∈ ps, ¬ ∃ e, p.HasFault e) (rest : List ParserConfig) :
    logEvents fs file (ps ++ rest) =
      (ps.flatMap (eventsIn bytes) ++ (logEvents fs file rest).1, (logEvents fs file rest).2) := by
  induction ps with
  | nil => rfl
  | cons p ps ih =>
    obtain ⟨hp, hps⟩ := List.forall_mem_cons.mp h
    rw [List.cons_append, logEvents_cons_of_built hfile hp, ih hps, List.flatMap_cons,
      List.append_assoc]

/-- A report of a log that can be read ends at the first parser that cannot be built, with the error of
that parser. It holds the events of all parsers in front of it, so it is empty just when none of these finds
a message. -/
theorem parseLog_up_to_refusal (c : Config) :
    ∃ before rest, c.parsers = before ++ rest ∧ (∀ p ∈ before, ¬ ∃ e, p.HasFault e) ∧
      (parseLog fs c file).printed = (before.flatMap (eventsIn bytes)).map .event ∧
      ((parseLog fs c file).printed = [] ↔ ∀ p ∈ before, eventsIn bytes p = []) ∧
      match (parseLog fs c file).result with
      | .ok () => rest = []
      | .error e => ∃ p after, rest = p :: after ∧ p.HasFault e := by
  have hempty (ps : List ParserConfig) :
      (ps.flatMap (eventsIn bytes)).map Printed.event = [] ↔ ∀ p ∈ ps, eventsIn bytes p = [] := by
    rw [List.map_eq_nil_iff, List.flatMap_eq_nil_iff]
  by_cases hrefused : ∃ p, IsFirst (fun p => ∃ e, p.HasFault e) c.parsers p
  · obtain ⟨p, before, after, hparsers, hbefore, e, he⟩ := hrefused
    have hreport : parseLog fs c file =
        ⟨(before.flatMap (eventsIn bytes)).map .event, .error e⟩ := by
      simp only [parseLog, hparsers, logEvents_append hfile hbefore, logEvents_cons_of_hasFault he,
        List.append_nil]
    rw [hreport]
    exact ⟨before, p :: after, hparsers, hbefore, rfl, hempty before, p, after, rfl, he⟩
  · have hbuilt := forall_not_of_not_isFirst (not_exists.mp hrefused)
    have hreport : parseLog fs c file =
        ⟨(c.parsers.flatMap (eventsIn bytes)).map .event, .ok ()⟩ := by
      have hevents := logEvents_append hfile hbuilt []
      rw [List.append_nil] at hevents
      simp only [parseLog, hevents, logEvents, List.append_nil]
    rw [hreport]
    exact ⟨c.parsers, [], (List.append_nil _).symm, hbuilt, rfl, hempty c.parsers, rfl⟩

end Reports

/-- The second of three parsers finds the error that the log holds, and the third one has no patterns. -/
theorem parseLog_up_to_parser_without_patterns :
    let bytes := Utf8.encode "sev=fatal\n"
    let log := FileSystem.empty.withFile "log" (.ok ⟨1, .regular bytes⟩)
    let c : Config := { messagePatterns :=
      [.kernel, ⟨"levels", [{ name := "severity", regex := "sev=(.*)" }]⟩, ⟨"none", []⟩] }
    log.openFile "log" = .ok ⟨1, .regular bytes⟩ ∧
      ∃ before rest, c.parsers = before ++ rest ∧ (∀ p ∈ before, ¬ ∃ e, p.HasFault e) ∧
        (parseLog log c "log").printed = (before.flatMap (eventsIn bytes)).map .event ∧
        ((parseLog log c "log").printed = [] ↔ ∀ p ∈ before, eventsIn bytes p = []) ∧
        match (parseLog log c "log").result with
        | .ok () => rest = []
        | .error e => ∃ p after, rest = p :: after ∧ p.HasFault e := by
  intro bytes log c
  have hfile : log.openFile "log" = .ok ⟨1, .regular bytes⟩ := rfl
  exact ⟨hfile, parseLog_up_to_refusal hfile c⟩

/-- An event is printed before it is found out that an expression of the second parser cannot be read. -/
theorem event_before_refusal :
    let log := FileSystem.empty.withFile "log" (.ok ⟨1, .regular (Utf8.encode "sev=fatal\n")⟩)
    let c : Config := { messagePatterns :=
      [⟨"levels", [{ name := "severity", regex := "sev=(.*)" }]⟩,
       ⟨"bad", [{ name := "a", regex := "(" }]⟩] }
    log.openFile "log" = .ok ⟨1, .regular (Utf8.encode "sev=fatal\n")⟩ ∧
      (parseLog log c "log").printed =
        [.event (.pcieError .failure "" (some .fatal) "AER fatal error reported in log")] ∧
      (parseLog log c "log").result = .error (.invalidPattern "bad" "a" .malformed) := by
  intro log c
  have hevents : logEvents log "log" c.parsers =
      ([.pcieError .failure "" (some .fatal) "AER fatal error reported in log"],
        .error (.invalidPattern "bad" "a" .malformed)) := by
    decide +kernel
  simp [parseLog, hevents, log]

end AerWatch.CommandLine
