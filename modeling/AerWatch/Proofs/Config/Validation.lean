import AerWatch.Monitor
import AerWatch.Proofs.Log.KernelReports

/-!
# Refused configurations

A configuration is refused for the first thing that is wrong with it, in the order in which it is
looked at: the sources of data, then the parsers one by one, and in each of them the name and the
patterns. What is not refused can be built, and so can the parser of the kernel's messages.
-/

namespace AerWatch

/-! ### The first failure -/

section Traversal

variable {α β ε : Type} {P : α → Prop} {f : α → Except ε β} {a x : α} {as : List α} {e : ε}

/-- Whether an item is the first one with a property. -/
def IsFirst (P : α → Prop) (as : List α) (x : α) : Prop :=
  ∃ before after, as = before ++ x :: after ∧ (∀ a ∈ before, ¬ P a) ∧ P x

theorem isFirst_cons_iff : IsFirst P (a :: as) x ↔ (P a ∧ x = a) ∨ (¬ P a ∧ IsFirst P as x) := by
  constructor
  · rintro ⟨before, after, has, hbefore, hx⟩
    cases before with
    | nil =>
      obtain ⟨rfl, -⟩ := List.cons_eq_cons.mp has
      exact .inl ⟨hx, rfl⟩
    | cons b before =>
      obtain ⟨rfl, rfl⟩ := List.cons_eq_cons.mp has
      exact .inr ⟨hbefore a List.mem_cons_self,
        before, after, rfl, fun b hb => hbefore b (List.mem_cons_of_mem a hb), hx⟩
  · rintro (⟨ha, rfl⟩ | ⟨ha, before, after, rfl, hbefore, hx⟩)
    · exact ⟨[], as, rfl, fun _ hmem => absurd hmem List.not_mem_nil, ha⟩
    · exact ⟨a :: before, after, rfl, List.forall_mem_cons.mpr ⟨ha, hbefore⟩, hx⟩

/-- Where no item is the first one with a property, none has it. -/
theorem forall_not_of_not_isFirst (h : ∀ x, ¬ IsFirst P as x) : ∀ a ∈ as, ¬ P a := by
  induction as with
  | nil => simp
  | cons a as ih =>
    have ha : ¬ P a := fun ha => h a (isFirst_cons_iff.mpr (.inl ⟨ha, rfl⟩))
    exact List.forall_mem_cons.mpr ⟨ha, ih fun x hx => h x (isFirst_cons_iff.mpr (.inr ⟨ha, hx⟩))⟩

/-- Items are worked off up to the first one that fails. -/
theorem mapM_eq_error_iff :
    as.mapM f = .error e ↔ ∃ x, IsFirst (fun a => ∃ e, f a = .error e) as x ∧ f x = .error e := by
  induction as with
  | nil => simp [IsFirst, pure, Except.pure]
  | cons a as ih =>
    have hrest (b : β) : (as.mapM f >>= fun bs => pure (b :: bs)) = .error e ↔ as.mapM f = .error e := by
      simp [bind_eq_error, pure, Except.pure]
    simp only [List.mapM_cons, bind_eq_error, hrest, ih, isFirst_cons_iff]
    cases ha : f a <;> simp [ha]

theorem forM_eq_error_iff {f : α → Except ε Unit} :
    as.forM f = .error e ↔ ∃ x, IsFirst (fun a => ∃ e, f a = .error e) as x ∧ f x = .error e := by
  induction as with
  | nil => simp [IsFirst, pure, Except.pure]
  | cons a as ih =>
    have hcons : (a :: as).forM f = f a >>= fun _ => as.forM f := rfl
    simp only [hcons, bind_eq_error, ih, isFirst_cons_iff]
    cases ha : f a <;> simp [ha]

end Traversal

/-! ### Parsers -/

namespace Log

/-- Why a pattern is refused: its expression cannot be read, or else the one for the lines that it
leaves out. -/
inductive FieldPattern.HasFault (p : FieldPattern) (fault : Regex.Fault) : Prop where
  | regex (h : Regex.ofPattern p.regex = .error fault)
  | exclude {regex : Regex} {exclude : String} (hregex : Regex.ofPattern p.regex = .ok regex)
    (hexclude : p.exclude = some exclude) (h : Regex.ofPattern exclude = .error fault)

/-- Why a parser cannot be built: it has no patterns, or a first one that is refused. -/
inductive ParserConfig.HasFault (p : ParserConfig) : Error → Prop where
  | noPatterns (h : p.patterns = []) :
    p.HasFault (.invalidConfig (p.name ++ " parser has no patterns"))
  | pattern {pattern : FieldPattern} {fault : Regex.Fault}
    (hfirst : IsFirst (fun q => ∃ fault, q.HasFault fault) p.patterns pattern)
    (hfault : pattern.HasFault fault) : p.HasFault (.invalidPattern p.name pattern.name fault)

section Compilation

variable {parser : String} {e : Error}

theorem readRegex_eq_error_iff {pattern regex : String} :
    readRegex parser pattern regex = .error e ↔
      ∃ fault, Regex.ofPattern regex = .error fault ∧ e = .invalidPattern parser pattern fault := by
  rw [readRegex]
  cases Regex.ofPattern regex <;> simp [Except.mapError, eq_comm]

theorem readRegex_eq_ok_iff {pattern text : String} {regex : Regex} :
    readRegex parser pattern text = .ok regex ↔ Regex.ofPattern text = .ok regex := by
  rw [readRegex]
  cases Regex.ofPattern text <;> simp [Except.mapError]

theorem mapM_readRegex_eq_error_iff {pattern : String} {exclude : Option String} :
    exclude.mapM (readRegex parser pattern) = .error e ↔
      ∃ text, exclude = some text ∧ readRegex parser pattern text = .error e := by
  cases exclude with
  | none => simp [pure, Except.pure]
  | some text =>
    cases h : readRegex parser pattern text <;> simp [h]

theorem compile_eq_error_iff {p : FieldPattern} :
    p.compile parser = .error e ↔
      ∃ fault, p.HasFault fault ∧ e = .invalidPattern parser p.name fault := by
  simp only [FieldPattern.compile, bind_eq_error, mapM_readRegex_eq_error_iff]
  constructor
  · rintro (h | ⟨regex, hregex, ⟨text, htext, h⟩ | ⟨_, _, h⟩⟩)
    · obtain ⟨fault, hfault, rfl⟩ := readRegex_eq_error_iff.mp h
      exact ⟨fault, .regex hfault, rfl⟩
    -- the second expression is looked at only when the first one was read
    · obtain ⟨fault, hfault, rfl⟩ := readRegex_eq_error_iff.mp h
      exact ⟨fault, .exclude (readRegex_eq_ok_iff.mp hregex) htext hfault, rfl⟩
    · cases h
  · rintro ⟨fault, h | ⟨hregex, htext, h⟩, rfl⟩
    · exact .inl (readRegex_eq_error_iff.mpr ⟨fault, h, rfl⟩)
    · exact .inr ⟨_, readRegex_eq_ok_iff.mpr hregex,
        .inl ⟨_, htext, readRegex_eq_error_iff.mpr ⟨fault, h, rfl⟩⟩⟩

theorem rules_eq_error_iff {p : ParserConfig} : p.rules = .error e ↔ p.HasFault e := by
  have hfaulty (q : FieldPattern) :
      (∃ e, q.compile p.name = .error e) ↔ ∃ fault, q.HasFault fault := by
    simp [compile_eq_error_iff]
  unfold ParserConfig.rules
  split
  · rename_i hnone
    constructor
    · rintro ⟨⟩
      exact .noPatterns hnone
    · rintro (- | ⟨⟨before, after, hpatterns, -⟩, -⟩)
      · rfl
      · exact absurd (hnone.symm.trans hpatterns) (by simp)
  · rename_i hsome
    simp only [mapM_eq_error_iff, hfaulty]
    simp only [compile_eq_error_iff]
    constructor
    · rintro ⟨q, hfirst, fault, hfault, rfl⟩
      exact .pattern hfirst hfault
    · rintro (hnone | ⟨hfirst, hfault⟩)
      · exact absurd hnone hsome
      · exact ⟨_, hfirst, _, hfault, rfl⟩

theorem create_eq_error_iff {p : ParserConfig} (path : String) :
    LogParser.create p path = .error e ↔ p.HasFault e := by
  rw [← rules_eq_error_iff, LogParser.create]
  cases p.rules <;> simp [Except.map]

end Compilation

/-- Why a configured parser is refused: it must have a name, and it must be possible to build it. -/
inductive ParserConfig.IsRefused (p : ParserConfig) : Error → Prop where
  | unnamed (h : p.name = "") : p.IsRefused (.invalidConfig "parser without name")
  | unbuildable {e : Error} (hname : p.name ≠ "") (h : p.HasFault e) : p.IsRefused e

end Log

/-! ### Configurations -/

namespace Config

open Log

/-- Why a configuration is refused: there is nothing to monitor, or there is a first parser that is
refused. Whether the log is read does not matter for the parsers. -/
inductive IsRefused (c : Config) : Error → Prop where
  | noDataSource (hsource : c.source = .other) (hlog : c.readLog = false) : c.IsRefused .noDataSource
  | parser {p : ParserConfig} {e : Error} (hdata : c.source = .other → c.readLog = true)
    (hfirst : IsFirst (fun p => ∃ e, p.IsRefused e) c.messagePatterns p) (hp : p.IsRefused e) :
    c.IsRefused e

variable {c : Config} {e : Error}

theorem validateParser_eq_error_iff {p : ParserConfig} :
    c.validateParser p = .error e ↔ p.IsRefused e := by
  unfold validateParser
  split
  · rename_i hname
    constructor
    · rintro ⟨⟩
      exact .unnamed hname
    · rintro (- | ⟨hnamed, -⟩)
      · rfl
      · exact absurd hname hnamed
  · rename_i hname
    have hbuilt : discard (c.openParser p) = .error e ↔ p.HasFault e := by
      rw [← create_eq_error_iff c.logFile, ← openParser]
      cases c.openParser p <;> simp [discard, Functor.discard, Functor.mapConst, Except.map]
    rw [hbuilt]
    constructor
    · exact .unbuildable hname
    · rintro (hnone | ⟨-, hfault⟩)
      · exact absurd hnone hname
      · exact hfault

theorem validate_eq_error_iff : c.validate = .error e ↔ c.IsRefused e := by
  have hnothing : (!c.readsDevices && !c.readLog) = true ↔ c.source = .other ∧ c.readLog = false := by
    simp [readsDevices]
  unfold validate
  split
  · rename_i h
    obtain ⟨hsource, hlog⟩ := hnothing.mp h
    constructor
    · rintro ⟨⟩
      exact .noDataSource hsource hlog
    · rintro (- | ⟨hdata, -⟩)
      · rfl
      · exact absurd (hlog.symm.trans (hdata hsource)) Bool.false_ne_true
  · rename_i h
    have hdata (hsource : c.source = .other) : c.readLog = true := by
      by_contra hlog
      exact h (hnothing.mpr ⟨hsource, Bool.eq_false_of_not_eq_true hlog⟩)
    refine forM_eq_error_iff.trans ?_
    simp only [validateParser_eq_error_iff]
    constructor
    · rintro ⟨p, hfirst, hp⟩
      exact .parser hdata hfirst hp
    · rintro (⟨hsource, hlog⟩ | ⟨-, hfirst, hp⟩)
      · exact absurd (hdata hsource) (hlog ▸ Bool.false_ne_true)
      · exact ⟨_, hfirst, hp⟩

theorem not_isRefused_of_validate (h : c.validate = .ok ()) : ¬ c.IsRefused e := by
  intro hrefused
  rw [validate_eq_error_iff.mpr hrefused] at h
  cases h

/-- A configuration that is not refused has no parser that is. -/
theorem parser_not_isRefused (h : c.validate = .ok ()) :
    ∀ p ∈ c.messagePatterns, ¬ ∃ e, p.IsRefused e := by
  have hdata (hsource : c.source = .other) : c.readLog = true := by
    by_contra hlog
    exact not_isRefused_of_validate h (.noDataSource hsource (Bool.eq_false_of_not_eq_true hlog))
  refine forall_not_of_not_isFirst fun p hfirst => ?_
  obtain ⟨-, -, -, -, e, he⟩ := id hfirst
  exact not_isRefused_of_validate h (.parser hdata hfirst he)

/-- A configuration that is not refused has parsers that can be built, and so can the one of the kernel's
messages. -/
theorem exists_openParser (h : c.validate = .ok ()) {p : ParserConfig}
    (hp : p ∈ ParserConfig.kernel :: c.messagePatterns) : ∃ parser, c.openParser p = .ok parser := by
  rcases List.mem_cons.mp hp with rfl | hp
  · rw [openParser, LogParser.create, rules_kernel]
    exact ⟨_, rfl⟩
  · cases hparser : c.openParser p with
    | ok parser => exact ⟨parser, rfl⟩
    | error e =>
      refine absurd ?_ (parser_not_isRefused h p hp)
      by_cases hname : p.name = ""
      · exact ⟨_, .unnamed hname⟩
      · exact ⟨e, .unbuildable hname ((create_eq_error_iff _).mp hparser)⟩

theorem mem_of_mem_parsers {p : ParserConfig} (hp : p ∈ c.parsers) :
    p ∈ ParserConfig.kernel :: c.messagePatterns := by
  unfold parsers at hp
  split at hp
  · exact List.mem_cons.mpr (.inl (List.mem_singleton.mp hp))
  · exact List.mem_cons_of_mem _ hp

theorem exists_parsers (h : c.validate = .ok ()) :
    ∃ parsers, c.parsers.mapM c.openParser = .ok parsers := by
  cases hparsers : c.parsers.mapM c.openParser with
  | ok parsers => exact ⟨parsers, rfl⟩
  | error e =>
    obtain ⟨p, ⟨before, after, heq, -⟩, hp⟩ := mapM_eq_error_iff.mp hparsers
    obtain ⟨parser, hparser⟩ := exists_openParser h (mem_of_mem_parsers (p := p) (heq ▸ by simp))
    rw [hparser] at hp
    cases hp

end Config

/-! ### Monitors -/

namespace Monitor

variable {c : Config} {bus : Option Bus}

/-- The fleet that a monitor begins with. -/
def firstFleet (bus : Option Bus) : Except Error Fleet := bus.elim (.ok {}) Fleet.discover

/-- Behind a configuration that is not refused, a monitor stands and falls with its fleet. -/
theorem ofBus_of_validate {parsers : List Log.LogParser} (h : c.validate = .ok ())
    (hparsers : c.parsers.mapM c.openParser = .ok parsers) :
    ofBus c bus = (firstFleet bus).map fun fleet =>
      { policy := c.policy, fleet, parsers := if c.readLog then parsers else [],
        firstRead := c.firstFullRead } := by
  unfold ofBus firstFleet
  rw [h, hparsers]
  cases hlog : c.readLog <;> cases bus with
  | none => rfl
  | some b =>
    cases hfleet : Fleet.discover b <;>
      simp [hfleet, bind, Except.bind, Except.map, pure, Except.pure]

/-- A monitor cannot be made just when its configuration is refused, for the first thing that is wrong
with it, or when it is not and the devices of its bus cannot be discovered. Parsers that were not refused
are always built, and so is the one of the kernel's messages. -/
theorem outcome_of_initialisation (c : Config) (bus : Option Bus) :
    (∀ e, c.validate = .error e ↔ c.IsRefused e) ∧
    (∀ e, ofBus c bus = .error e ↔ c.validate = .error e ∨
      (c.validate = .ok () ∧ ∃ b, bus = some b ∧ Fleet.discover b = .error e)) ∧
    (c.validate = .ok () →
      (∀ p ∈ Log.ParserConfig.kernel :: c.messagePatterns, ∃ parser, c.openParser p = .ok parser) ∧
      ∃ parsers, c.parsers.mapM c.openParser = .ok parsers ∧
        ∀ fleet, firstFleet bus = .ok fleet →
          ofBus c bus = .ok { policy := c.policy, fleet, parsers := if c.readLog then parsers else [],
                              firstRead := c.firstFullRead }) := by
  refine ⟨fun e => Config.validate_eq_error_iff, fun e => ?_, fun hvalid => ?_⟩
  · cases hvalid : c.validate with
    | error e' =>
      have hfails : ofBus c bus = .error e' := by
        unfold ofBus
        rw [hvalid]
        rfl
      simp [hfails]
    | ok =>
      obtain ⟨parsers, hparsers⟩ := Config.exists_parsers hvalid
      rw [ofBus_of_validate hvalid hparsers]
      cases bus with
      | none => simp [firstFleet, Except.map]
      | some b => cases hfleet : Fleet.discover b <;> simp [firstFleet, Except.map, hfleet]
  · obtain ⟨parsers, hparsers⟩ := Config.exists_parsers hvalid
    refine ⟨fun p hp => Config.exists_openParser hvalid hp, parsers, hparsers, fun fleet hfleet => ?_⟩
    rw [ofBus_of_validate hvalid hparsers, hfleet]
    rfl

-- of three parsers that are refused the first one tells why
example : ({ messagePatterns := [⟨"a", [{ name := "x", regex := "(" }]⟩, ⟨"", []⟩, ⟨"b", []⟩] } :
    Config).validate = .error (.invalidPattern "a" "x" .malformed) := by
  decide +kernel

end Monitor

end AerWatch
