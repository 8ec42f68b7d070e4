import AerWatch.Proofs.Log.Following
import AerWatch.Proofs.Log.Reporting
import AerWatch.Proofs.Regex.Enclosed

/-!
# Reports of the kernel

The patterns of the kernel's parser are looked for in one line of free text, and the words around the
fields could stand elsewhere in it, too. Where none of these words stands in front of its place, each
pattern finds its own field, whatever message was under way before.
-/

namespace AerWatch.Regex.Progress

variable (p : Progress) {q : Progress}

/-- What a step has read is not read again. -/
theorem readAll?_of_read? {c : Char} {cs rest : List Char} (hspaced : p.flags.spaced = false)
    (h : p.read? (c :: cs) = some (q, rest)) (fuel : Nat) :
    readAll? (fuel + 1) p (c :: cs) = readAll? fuel q rest := by
  simp [readAll?, Flags.skip, hspaced, h]

/-- A class is read as a whole. -/
theorem read?_class {b : Bracket} {s : NestedSet} {cs inner rest : List Char}
    (hopen : openBracket p.flags cs = (b, inner))
    (hclass : readClass? p.flags (inner.length + 1) [] b inner = some (s, rest)) :
    p.read? ('[' :: cs) = some (p.add (.ofSet s.set) s.depth, rest) := by
  simp [read?, hopen, hclass]

end AerWatch.Regex.Progress

namespace AerWatch.Log

open Regex Unicode

/-! ### The rules -/

section Rules

/-- The characters of written addresses. -/
def addressSet : CharSet := ⟨[(46, 46), (48, 58), (65, 70), (97, 102)]⟩

/-- Any character but a comma. -/
def noComma : CharSet := (CharSet.single ',').negate

theorem mem_negate_single (a c : Char) : (CharSet.single a).negate.mem c = decide (c ≠ a) := by
  have hvalid : c.toNat < 0xd800 ∨ 0xdfff < c.toNat ∧ c.toNat < 0x110000 := c.valid
  have hne : c ≠ a ↔ c.toNat ≠ a.toNat := not_congr Char.toNat_inj.symm
  simp only [CharSet.mem, CharSet.contains, CharSet.negate, CharSet.complement, CharSet.single,
    CharSet.gapsFrom, lastCode, hne]
  generalize c.toNat = n at hvalid ⊢
  generalize a.toNat = m
  rw [Bool.eq_iff_iff]
  by_cases hfirst : 0 < m <;> by_cases hlast : m + 1 ≤ 1114111 <;>
    simp [hfirst, hlast, CharSet.search] <;> omega

/-- The written pattern of a value of characters of a set between two texts, as it is read. -/
def enclosedNode (before : List Char) (s : CharSet) (after : List Char) : Node :=
  let value : Node := .group 1 (.repetition (.set s) 0 none true)
  match after with
  | [] => .group 0 (.seq (.text before) value)
  | after => .group 0 (.seq (.text before) (.seq value (.text after)))

theorem ofNode_enclosedNode (before : List Char) (s : CharSet) (after : List Char) :
    Regex.ofNode (enclosedNode before s after) = .straight (.enclosed before s after) := by
  cases after <;> rfl

/-- The rule of a field whose value, of characters of a set, stands between two texts. -/
def enclosedRule (name : String) (mandatory : Bool) (before : String) (s : CharSet) (after : String) :
    Rule :=
  ⟨name, mandatory, captureWith (.straight (.enclosed before.toList s after.toList)) none 1⟩

/-- The rules of the kernel's parser. -/
def kernelRules : List Rule :=
  [enclosedRule Field.rootPort true "pcieport " NamedSet.inLine ": AER:",
   enclosedRule Field.device true " " addressSet ": PCIe Bus Error",
   enclosedRule Field.severity true "severity=" noComma "",
   enclosedRule Field.errorType false "type=" NamedSet.inLine ",",
   enclosedRule Field.id true ", id=" NamedSet.inLine ""]

theorem compile_eq_enclosedRule {parser name regex before after : String} {mandatory : Bool}
    {s : CharSet}
    (h : readPattern regex = .ok (enclosedNode before.toList s after.toList)) :
    FieldPattern.compile parser { name, regex, mandatory } =
      .ok (enclosedRule name mandatory before s after) := by
  have hregex : readRegex parser name regex =
      .ok (.straight (.enclosed before.toList s after.toList)) := by
    rw [readRegex, Regex.ofPattern, h, Except.map, ofNode_enclosedNode]
    rfl
  simp only [FieldPattern.compile, hregex]
  rfl

/-- The parts of the class of written addresses. -/
theorem union_addresses :
    ((((CharSet.empty.union (.range '0' '9')).union (.range 'a' 'f')).union (.range 'A' 'F')).union
      (.single ':')).union (.single '.') = addressSet := by
  simp [addressSet, CharSet.union, CharSet.ofRanges, CharSet.empty, CharSet.range, CharSet.single,
    CharSet.join, CharSet.joinFrom, List.mergeSort, List.MergeSort.Internal.splitInTwo]

/-- The pattern of the device, read step by step up to its class: the ranges of a class are sorted, which
does not compute. -/
theorem readPattern_device :
    readPattern " ([0-9a-fA-F:\\.]*): PCIe Bus Error" =
      .ok (enclosedNode " ".toList addressSet ": PCIe Bus Error".toList) := by
  let cs := "0-9a-fA-F:\\.]*): PCIe Bus Error".toList
  let behindSpace : Progress := { parts := [⟨.text [' '], 0, true⟩] }
  let inGroup : Progress := { groups := 1, outer := [⟨some 1, {}, [], behindSpace.parts⟩] }
  have htext : " ([0-9a-fA-F:\\.]*): PCIe Bus Error".toList = ' ' :: '(' :: '[' :: cs := rfl
  have hspace : Progress.read? {} (' ' :: '(' :: '[' :: cs) =
      some (behindSpace, '(' :: '[' :: cs) := rfl
  have hgroup : behindSpace.read? ('(' :: '[' :: cs) = some (inGroup, '[' :: cs) := rfl
  have hclass : readClass? {} (cs.length + 1) [] (.start false) cs =
      some (⟨addressSet, 2⟩, "*): PCIe Bus Error".toList) := by
    rw [← union_addresses]
    rfl
  rw [readPattern, readNode?, htext, Progress.readAll?_of_read? _ rfl hspace, List.length_cons,
    Progress.readAll?_of_read? _ rfl hgroup, List.length_cons,
    Progress.readAll?_of_read? _ rfl (inGroup.read?_class (b := .start false) rfl hclass)]
  decide +kernel

theorem rules_kernel : ParserConfig.kernel.rules = .ok kernelRules := by
  have hrootPort : readPattern "pcieport (.*): AER:" =
      .ok (enclosedNode "pcieport ".toList NamedSet.inLine ": AER:".toList) := by decide +kernel
  have hseverity : readPattern "severity=([^,]*)" =
      .ok (enclosedNode "severity=".toList noComma "".toList) := by decide +kernel
  have htype : readPattern "type=(.*)," =
      .ok (enclosedNode "type=".toList NamedSet.inLine ",".toList) := by decide +kernel
  have hid : readPattern ", id=(.*)" =
      .ok (enclosedNode ", id=".toList NamedSet.inLine "".toList) := by decide +kernel
  simp only [ParserConfig.rules, ParserConfig.kernel, List.mapM_cons, List.mapM_nil,
    compile_eq_enclosedRule hrootPort, compile_eq_enclosedRule readPattern_device,
    compile_eq_enclosedRule hseverity, compile_eq_enclosedRule htype, compile_eq_enclosedRule hid]
  rfl

/-- A rule captures the longest value at the leftmost place where it finds one. -/
theorem capture_enclosedRule {name before after line value : String} {mandatory : Bool} {s : CharSet}
    (front rest : List Char)
    (hline : line.toList = front ++ (before.toList ++ (value.toList ++ (after.toList ++ rest))))
    (hvalue : ∀ c ∈ value.toList, s.mem c)
    (hleftmost : ∀ b, b <:+ front → b ≠ [] → ∀ v, ¬ Encloses before.toList s after.toList
      (b ++ (before.toList ++ (value.toList ++ (after.toList ++ rest)))) v)
    (hlongest : ∀ more, more ≠ [] → (∀ c ∈ more, s.mem c) →
      ¬ more ++ after.toList <+: after.toList ++ rest) :
    (enclosedRule name mandatory before s after).capture line = some value := by
  have h := group?_find?_enclosed hline hvalue hleftmost hlongest
  rwa [String.ofList_toList] at h

end Rules

/-! ### Lines -/

/-- What stands in a line in which the kernel reports an error. -/
structure KernelReport where
  /-- What stands in front of the report, such as the time and the host. -/
  lead : String
  rootPort : String
  device : String
  severity : String
  errorType : String
  id : String

namespace KernelReport

/-- The line. -/
def line (r : KernelReport) : String :=
  r.lead ++ "pcieport " ++ r.rootPort ++ ": AER: " ++ r.device ++ ": PCIe Bus Error: severity=" ++
    r.severity ++ ", type=" ++ r.errorType ++ ", id=" ++ r.id

/-- The message of the line. -/
def message (r : KernelReport) : Message :=
  ⟨[(Field.rootPort, r.rootPort), (Field.device, r.device), (Field.severity, r.severity),
    (Field.errorType, r.errorType), (Field.id, r.id)]⟩

/-- The words around the fields. -/
def marks : List String := ["pcieport ", "AER:", "PCIe", "severity=", "type=", ", id="]

/-- The characters of a device. -/
def deviceChars : List Char := "0123456789abcdefABCDEF:.".toList

/-- Whether the parts of a line can be told from the words around them. -/
structure IsPlain (r : KernelReport) : Prop where
  inLine : ∀ part ∈ [r.lead, r.rootPort, r.device, r.severity, r.errorType, r.id],
    '\n' ∉ part.toList ∧ '\r' ∉ part.toList
  lead : ∀ mark ∈ marks, ¬ mark.toList <:+: r.lead.toList
  rootPort : ∀ mark ∈ marks, ¬ mark.toList <:+: r.rootPort.toList
  device : ∀ c ∈ r.device.toList, c ∈ deviceChars
  values : ∀ part ∈ [r.severity, r.errorType, r.id], ',' ∉ part.toList ∧ ':' ∉ part.toList
  severity : ¬ "type=".toList <:+: r.severity.toList

variable {r : KernelReport}

theorem toList_line (r : KernelReport) :
    r.line.toList = r.lead.toList ++ ("pcieport ".toList ++ (r.rootPort.toList ++
      (": AER: ".toList ++ (r.device.toList ++ (": PCIe Bus Error: severity=".toList ++
      (r.severity.toList ++ (", type=".toList ++ (r.errorType.toList ++ (", id=".toList ++
      r.id.toList))))))))) := by
  simp only [line, String.toList_append, List.append_assoc]

/-! #### The words in front of a field -/

section Words

/-- What stands in a line up to a text behind the device. -/
def upTo (r : KernelReport) (text : String) : List Char :=
  ((r.lead.toList ++ "pcieport ".toList) ++ (r.rootPort.toList ++ ": AER: ".toList)) ++
    (r.device.toList ++ text.toList)

theorem notMem_device (hr : r.IsPlain) {c : Char} (hc : c ∉ deviceChars) : c ∉ r.device.toList :=
  fun h => hc (hr.device c h)

/-- Whether one of the words neither holds nor overlaps what stands between the fields up to a text behind
the device, and has a character that no device has. -/
def StandsOut (word text : String) : Prop :=
  word ∈ marks ∧ word.toList.any (· ∉ deviceChars) ∧ StandsApart word.toList "pcieport ".toList ∧
    StandsApart word.toList ": AER: ".toList ∧ StandsApart word.toList text.toList

instance (word text : String) : Decidable (StandsOut word text) :=
  inferInstanceAs (Decidable (_ ∧ _))

theorem avoids_upTo (hr : r.IsPlain) {word text : String} (h : StandsOut word text)
    (behind : List Char) : Avoids word.toList (r.upTo text) behind := by
  obtain ⟨hmark, hany, hpcieport, haer, htext⟩ := h
  obtain ⟨c, hword, hc⟩ := List.any_iff_exists_prop.mp hany
  have hdevice : ¬ word.toList <:+: r.device.toList := fun h => notMem_device hr hc (h.mem hword)
  exact ((hpcieport.avoids (hr.lead word hmark)).append
    (haer.avoids (hr.rootPort word hmark))).append (htext.avoids hdevice)

end Words

/-! #### The values -/

section Values

theorem mem_inLine {cs : List Char} (h : '\n' ∉ cs) : ∀ c ∈ cs, NamedSet.inLine.mem c := by
  intro c hc
  rw [NamedSet.inLine, mem_negate_single, decide_eq_true_eq]
  exact fun heq => h (heq ▸ hc)

theorem mem_noComma_iff {c : Char} : noComma.mem c ↔ c ≠ ',' := by
  rw [noComma, mem_negate_single, decide_eq_true_eq]

theorem mem_addressSet (hr : r.IsPlain) : ∀ c ∈ r.device.toList, addressSet.mem c := by
  have hall : ∀ c ∈ deviceChars, addressSet.mem c := List.all_iff_forall_prop.mp (by decide)
  exact fun c hc => hall c (hr.device c hc)

theorem capture_rootPort (hr : r.IsPlain) :
    (enclosedRule Field.rootPort true "pcieport " NamedSet.inLine ": AER:").capture r.line =
      some r.rootPort := by
  let front := ":".toList ++ (" ".toList ++ (r.device.toList ++ ": PCIe Bus Error: severity=".toList))
  let behind := r.severity.toList ++ (", type=".toList ++ (r.errorType.toList ++
    (", id=".toList ++ r.id.toList)))
  obtain ⟨hseverity, htype, hid⟩ : ':' ∉ r.severity.toList ∧ ':' ∉ r.errorType.toList ∧
      ':' ∉ r.id.toList := by
    have := hr.values
    simp only [List.forall_mem_cons] at this
    exact ⟨this.1.2, this.2.1.2, this.2.2.1.2⟩
  -- behind the mark of the root port no `R` stands in front of a colon
  have hpair : ¬ ['R', ':'] <:+: front ++ behind := by
    refine pair_not_infix ?_ ?_
    · simp [front, notMem_device hr (show 'R' ∉ deviceChars by decide)]
    · simp [behind, hseverity, htype, hid]
  refine capture_enclosedRule r.lead.toList (front ++ behind).tail ?_
    (mem_inLine (hr.inLine _ (by simp)).1) ?_ ?_
  · rw [toList_line]
    simp [front, behind]
  · have hapart : StartsApart "pcieport ".toList "pcieport ".toList := by decide
    exact not_encloses_of_avoids (hapart.avoids (hr.lead _ (by decide)))
  · intro more hmore _ hprefix
    exact hpair (pair_infix_of_later ": AE".toList hmore hprefix)

theorem capture_device (hr : r.IsPlain) :
    (enclosedRule Field.device true " " addressSet ": PCIe Bus Error").capture r.line =
      some r.device := by
  let front := (r.lead.toList ++ "pcieport ".toList) ++ (r.rootPort.toList ++ ": AER:".toList)
  let behind := ": severity=".toList ++ (r.severity.toList ++ (", type=".toList ++
    (r.errorType.toList ++ (", id=".toList ++ r.id.toList))))
  have hspace : addressSet.mem ' ' = false := by decide
  refine capture_enclosedRule front behind ?_ (mem_addressSet hr) ?_ ?_
  · rw [toList_line]
    simp [front, behind]
  · rintro b hb hne v ⟨hv, t, ht⟩
    have hrest : b ++ (" ".toList ++ (r.device.toList ++ ": ".toList)) <:+ r.upTo ": " := by
      obtain ⟨a, ha⟩ := hb
      exact ⟨a, by rw [← List.append_assoc, ha]; simp [front, upTo]⟩
    have hmark : StandsOut "PCIe" ": " := by decide
    have havoids := avoids_upTo hr hmark ("PCIe Bus Error".toList ++ behind)
    have hsplit : (" ".toList ++ (v ++ ": ".toList)) ++ ("PCIe".toList ++ (" Bus Error".toList ++ t)) =
        (b ++ (" ".toList ++ (r.device.toList ++ ": ".toList))) ++
          ("PCIe Bus Error".toList ++ behind) := by simpa using ht
    -- the word behind the device stands nowhere before, so the match reaches at least as far
    obtain ⟨x, hx⟩ := havoids.prefix_of_eq hrest hsplit
    have hlength : ": ".toList.length ≤ (r.device.toList ++ (": ".toList ++ x)).length := by
      simp only [List.length_append]
      omega
    have hspace' : ' ' ∈ v := mem_of_later hne hlength (by simpa using hx.symm)
    rw [hv ' ' hspace'] at hspace
    exact Bool.noConfusion hspace
  · intro more hmore hmem hprefix
    have htext : ": PCIe Bus Error".toList = ':' :: ' ' :: "PCIe Bus Error".toList := rfl
    rw [htext] at hprefix
    cases more with
    | nil => exact hmore rfl
    | cons c more =>
      obtain ⟨-, hprefix⟩ := List.cons_prefix_cons.mp hprefix
      cases more with
      | nil => simp at hprefix
      | cons d more =>
        obtain ⟨rfl, -⟩ := List.cons_prefix_cons.mp hprefix
        simp [hspace] at hmem

theorem capture_severity (hr : r.IsPlain) :
    (enclosedRule Field.severity true "severity=" noComma "").capture r.line = some r.severity := by
  have hcomma : ',' ∉ r.severity.toList := (hr.values r.severity (by simp)).1
  have hmark : StandsOut "severity=" ": PCIe Bus Error: " := by decide
  refine capture_enclosedRule (r.upTo ": PCIe Bus Error: ")
    (", type=".toList ++ (r.errorType.toList ++ (", id=".toList ++ r.id.toList))) ?_ ?_ ?_ ?_
  · rw [toList_line]
    simp [upTo]
  · exact fun c hc => mem_noComma_iff.mpr fun heq => hcomma (heq ▸ hc)
  · exact not_encloses_of_avoids (avoids_upTo hr hmark _)
  · intro more hmore hmem hprefix
    obtain ⟨c, more, rfl⟩ := List.exists_cons_of_ne_nil hmore
    obtain ⟨rfl, -⟩ := List.cons_prefix_cons.mp hprefix
    exact mem_noComma_iff.mp (hmem _ List.mem_cons_self) rfl

theorem capture_errorType (hr : r.IsPlain) :
    (enclosedRule Field.errorType false "type=" NamedSet.inLine ",").capture r.line =
      some r.errorType := by
  have hcomma : ',' ∉ r.id.toList := (hr.values r.id (by simp)).1
  have hmark : StandsOut "type=" ": PCIe Bus Error: severity=" := by decide
  have hapart : StandsApart "type=".toList ", ".toList := by decide
  refine capture_enclosedRule
    (r.upTo ": PCIe Bus Error: severity=" ++ (r.severity.toList ++ ", ".toList))
    (" id=".toList ++ r.id.toList) ?_ (mem_inLine (hr.inLine _ (by simp)).1) ?_ ?_
  · rw [toList_line]
    simp [upTo]
  · exact not_encloses_of_avoids ((avoids_upTo hr hmark _).append (hapart.avoids hr.severity))
  · intro more hmore _ hprefix
    have htext : ",".toList = [','] := rfl
    rw [htext] at hprefix
    obtain ⟨c, more, rfl⟩ := List.exists_cons_of_ne_nil hmore
    obtain ⟨-, hprefix⟩ := List.cons_prefix_cons.mp hprefix
    have hmem : ',' ∈ " id=".toList ++ r.id.toList := hprefix.mem (by simp)
    simp [hcomma] at hmem

theorem capture_id (hr : r.IsPlain) :
    (enclosedRule Field.id true ", id=" NamedSet.inLine "").capture r.line = some r.id := by
  have hcomma : ',' ∉ r.severity.toList := (hr.values r.severity (by simp)).1
  have hcomma' : ',' ∉ r.errorType.toList := (hr.values r.errorType (by simp)).1
  have hmark : StandsOut ", id=" ": PCIe Bus Error: severity=" := by decide
  have hapart : StandsApart ", id=".toList ", type=".toList := by decide
  refine capture_enclosedRule
    (r.upTo ": PCIe Bus Error: severity=" ++ (r.severity.toList ++ ", type=".toList) ++
      r.errorType.toList)
    [] ?_ (mem_inLine (hr.inLine _ (by simp)).1) ?_ ?_
  · rw [toList_line]
    simp [upTo]
  · exact not_encloses_of_avoids (((avoids_upTo hr hmark _).append
      (hapart.avoids fun h => hcomma (h.mem (by decide)))).append (avoids_of_head hcomma'))
  · intro more hmore _ hprefix
    exact hmore (by simpa using hprefix)

end Values

/-! #### The message and its event -/

section Reports

/-- The line is a message of its own, whatever was under way. -/
theorem assemble_line (hr : r.IsPlain) (pending : Option Draft) :
    assemble kernelRules pending r.line = (none, some r.message) := by
  have hcaptures : captures kernelRules r.line =
      [some r.rootPort, some r.device, some r.severity, some r.errorType, some r.id] := by
    simp only [captures, kernelRules, List.map_cons, List.map_nil, capture_rootPort hr,
      capture_device hr, capture_severity hr, capture_errorType hr, capture_id hr]
  simp only [assemble, hcaptures]
  rfl

theorem subject_toEvent_message (r : KernelReport) : r.message.toEvent.subject = r.device := by
  have hdevice : lastValue? IsDevice r.message.items =
      if r.device = "" then none else some r.device := by
    have hother : ¬ IsDevice Field.rootPort ∧ ¬ IsDevice Field.severity ∧ ¬ IsDevice Field.errorType ∧
        ¬ IsDevice Field.id := by decide
    have hname : IsDevice Field.device := by decide
    by_cases h : r.device = "" <;> simp [lastValue?, message, hother, hname, h]
  have hsubject : r.message.subject = r.device := by
    rw [Message.subject_eq, hdevice]
    split
    · rename_i h
      exact h.symm
    · rfl
  rw [Message.toEvent_eq]
  exact hsubject

/-- The details of a report, without those that have no value. -/
def details (r : KernelReport) : List (String × String) :=
  [(Field.errorType, r.errorType), (Field.id, r.id), (Field.rootPort, r.rootPort)].filter (·.2 ≠ "")

theorem metadata_toEvent_message (r : KernelReport) :
    r.message.toEvent.metadata.entries = r.details := by
  have hdetail : IsDetail Field.rootPort ∧ IsDetail Field.errorType ∧ IsDetail Field.id := by decide
  have hother : ¬ IsDetail Field.device ∧ ¬ IsDetail Field.severity := by decide
  have hrole : r.message.inRole .detail =
      [(Field.rootPort, r.rootPort), (Field.errorType, r.errorType), (Field.id, r.id)].filter
        (·.2 ≠ "") := by
    simp only [Message.inRole_eq, ofName_eq_detail_iff, message, List.filter_cons, List.filter_nil]
    simp [hdetail, hother]
  have hfront : Field.errorType < Field.rootPort ∧ Field.id < Field.rootPort := by decide
  have hbehind : ¬ Field.id < Field.errorType ∧ Field.id ≠ Field.errorType := by decide
  rw [Message.toEvent_eq, Message.details, hrole, details]
  by_cases hrootPort : r.rootPort = "" <;> by_cases htype : r.errorType = "" <;>
    by_cases hid : r.id = "" <;>
    simp [hrootPort, htype, hid, Metadata.insert, Metadata.insertEntry, Metadata.empty, hfront,
      hbehind]

/-- Whatever a parser of the kernel's messages went through, it finds a report in its line, with all
fields as they are, and nothing is under way behind it. The event of the report is about the device and
tells the other fields that have a value. -/
theorem message_of_kernel_line {r : KernelReport} (hr : r.IsPlain) (path : String) :
    (∃ fresh, LogParser.create .kernel path = .ok fresh ∧
      ∀ p : LogParser, p.rules = fresh.rules →
        p.parseLine r.line = ({ p with pending := none }, some r.message)) ∧
    r.message.toEvent.subject = r.device ∧
    r.message.toEvent.metadata.entries = r.details := by
  obtain ⟨fresh, hfresh, hrules⟩ :
      ∃ fresh, LogParser.create .kernel path = .ok fresh ∧ fresh.rules = kernelRules := by
    rw [LogParser.create, rules_kernel]
    exact ⟨_, rfl, rfl⟩
  refine ⟨⟨fresh, hfresh, fun p hp => ?_⟩, subject_toEvent_message r, metadata_toEvent_message r⟩
  rw [LogParser.parseLine, hp, hrules, assemble_line hr]

/-- A report of a corrected error. -/
def corrected : KernelReport where
  lead := "Oct 19 10:00:00 host kernel: "
  rootPort := "0000:00:03.0"
  device := "0000:00:03.0"
  severity := "Corrected"
  errorType := "Physical Layer"
  id := "0008"

theorem message_of_corrected_error : corrected.IsPlain ∧
    (∃ fresh, LogParser.create .kernel "/var/log/syslog" = .ok fresh ∧
      ∀ p : LogParser, p.rules = fresh.rules →
        p.parseLine corrected.line = ({ p with pending := none }, some corrected.message)) ∧
    corrected.message.toEvent.subject = "0000:00:03.0" ∧
    corrected.message.toEvent.metadata.entries =
      [("error type", "Physical Layer"), ("id", "0008"), ("root port", "0000:00:03.0")] := by
  have hdevice : ∀ c ∈ corrected.device.toList, c ∈ deviceChars :=
    List.all_iff_forall_prop.mp (by decide)
  have hplain : corrected.IsPlain := by
    refine ⟨?_, ?_, ?_, hdevice, ?_, ?_⟩ <;> decide
  exact ⟨hplain, message_of_kernel_line hplain "/var/log/syslog"⟩

end Reports

end KernelReport

end AerWatch.Log
