import AerWatch.Log.Report
import Mathlib.Data.Bool.AllAny
import Mathlib.Data.List.Infix
import Mathlib.Data.List.Sort
import Mathlib.Logic.Relation

/-!
# What events tell of messages

The event of a message tells the last severity and the last device of it, and the last value under every
other name. Fields without a value do not count, and it does not matter how fields that tell different
things are mixed. The class of a severity is told by the words in its lower case form.
-/

namespace AerWatch

namespace Metadata

/-- The entries are told by the values under all names. -/
theorem ext_get? {m m' : Metadata} (h : ∀ key, m.get? key = m'.get? key) : m = m' := by
  obtain ⟨es, hes⟩ := m
  obtain ⟨fs, hfs⟩ := m'
  have mem_iff {es : List (String × String)} (hes : es.Pairwise (·.1 < ·.1)) (key value : String) :
      (key, value) ∈ es ↔ es.lookup key = some value := by
    rw [List.lookup_eq_some_iff]
    constructor
    · intro hmem
      obtain ⟨before, after, rfl⟩ := List.append_of_mem hmem
      refine ⟨before, after, rfl, fun e he => bne_iff_ne.mpr fun heq => ?_⟩
      have hlt := (List.pairwise_append.mp hes).2.2 e he (key, value) List.mem_cons_self
      exact String.lt_irrefl key (heq ▸ hlt)
    · rintro ⟨before, after, rfl, -⟩
      simp
  have hirrefl : Std.Irrefl (fun a b : String × String => a.1 < b.1) := ⟨fun a => String.lt_irrefl a.1⟩
  have hantisymm : Std.Antisymm (fun a b : String × String => a.1 < b.1) :=
    ⟨fun a b hab hba => absurd (String.lt_trans hab hba) (String.lt_irrefl a.1)⟩
  obtain rfl : es = fs := hes.eq_of_mem_iff hfs fun (key, value) => by
    rw [mem_iff hes, mem_iff hfs]
    exact Eq.congr_left (h key)
  rfl

/-- Of the values put under a name the last one stays. -/
theorem get?_foldl_insert (fields : List (String × String)) (m : Metadata) (key : String) :
    (fields.foldl (fun m field => m.insert field.1 field.2) m).get? key =
      (((fields.filter (·.1 = key)).getLast?).map (·.2)).or (m.get? key) := by
  induction fields using List.reverseRecOn with
  | nil => rfl
  | append_singleton fields field ih =>
    rw [List.foldl_concat, get?_insert, List.filter_append]
    by_cases hkey : key = field.1
    · simp [hkey]
    · simp [hkey, Ne.symm hkey, ih]

end Metadata

/-- Details change nothing else in an event. -/
theorem Event.foldl_withMetadata (fields : List (String × String)) (e : Event) :
    fields.foldl (fun e field => e.withMetadata field.1 field.2) e =
      { e with
        metadata := fields.foldl (fun m field => m.insert field.1 field.2) e.metadata } := by
  induction fields generalizing e with
  | nil => rfl
  | cons field fields ih => exact ih _

namespace Log

/-! ### Severities -/

section Severities

/-- The letters of the words that a severity is looked for. -/
def severityLetters : List Char := "non-fatal".toList

/-- A text in lower case, character by character. A letter of ASCII has its own lower case form. What
becomes of the other characters may hang on what stands around them, but it is never one of the letters
looked for. -/
inductive IsLowerCase : List Char → List Char → Prop where
  | nil : IsLowerCase [] []
  | ascii {c : Char} {cs low : List Char} (hc : c.toNat < 0x80) (h : IsLowerCase cs low) :
    IsLowerCase (c :: cs) (c.toLower :: low)
  | other {c d : Char} {cs ds low : List Char} (hc : 0x80 ≤ c.toNat)
    (hletters : ∀ e ∈ d :: ds, e ∉ severityLetters) (h : IsLowerCase cs low) :
    IsLowerCase (c :: cs) (d :: ds ++ low)

theorem toLower_of_le {c : Char} (h : 0x80 ≤ c.toNat) : c.toLower = c := by
  unfold Char.toLower
  split
  · rename_i hupper
    have hle : c.toNat ≤ 90 := hupper.2
    omega
  · rfl

theorem notMem_severityLetters {c : Char} (h : 0x80 ≤ c.toNat) : c ∉ severityLetters := by
  have hall : ∀ d ∈ severityLetters, d.toNat < 0x80 := List.all_iff_forall_prop.mp (by decide)
  exact fun hc => absurd (hall c hc) (Nat.not_lt.mpr h)

/-- Every text has a lower case form: the one of its letters of ASCII. -/
theorem isLowerCase_map_toLower (cs : List Char) : IsLowerCase cs (cs.map Char.toLower) := by
  induction cs with
  | nil => exact .nil
  | cons c cs ih =>
    by_cases hc : c.toNat < 0x80
    · exact .ascii hc ih
    · have hle := Nat.not_lt.mp hc
      rw [List.map_cons, toLower_of_le hle]
      have hletters : ∀ d ∈ [c], d ∉ severityLetters := by simpa using notMem_severityLetters hle
      exact .other hle hletters ih

variable {word cs low : List Char}

theorem IsLowerCase.prefix_iff (h : IsLowerCase cs low) (hword : ∀ c ∈ word, c ∈ severityLetters) :
    word <+: low ↔ word <+: cs.map Char.toLower := by
  induction h generalizing word with
  | nil => rfl
  | ascii hc _ ih =>
    cases word with
    | nil => simp
    | cons a word =>
      have hrest : ∀ d ∈ word, d ∈ severityLetters := fun d hd => hword d (List.mem_cons_of_mem a hd)
      rw [List.map_cons, List.cons_prefix_cons, List.cons_prefix_cons, ih hrest]
  | other hc hletters _ ih =>
    cases word with
    | nil => simp
    | cons a word =>
      have ha := hword a List.mem_cons_self
      rw [List.map_cons, List.cons_append, List.cons_prefix_cons, List.cons_prefix_cons,
        toLower_of_le hc]
      constructor
      · rintro ⟨rfl, -⟩
        exact absurd ha (hletters _ List.mem_cons_self)
      · rintro ⟨rfl, -⟩
        exact absurd ha (notMem_severityLetters hc)

/-- A word that begins with a character does not begin in a text without it. -/
theorem infix_append_iff_of_notMem {a : Char} {front behind : List Char} (ha : a ∉ front) :
    a :: word <:+: front ++ behind ↔ a :: word <:+: behind := by
  induction front with
  | nil => rfl
  | cons c front ih =>
    rw [List.mem_cons, not_or] at ha
    obtain ⟨hc, hfront⟩ := ha
    simp [List.infix_cons_iff, List.cons_prefix_cons, hc, ih hfront]

/-- All lower case forms of a text hold the same words of the letters looked for. -/
theorem IsLowerCase.infix_iff (h : IsLowerCase cs low) (hword : ∀ c ∈ word, c ∈ severityLetters) :
    word <:+: low ↔ word <:+: cs.map Char.toLower := by
  cases word with
  | nil => simp
  | cons a word =>
    have ha := hword a List.mem_cons_self
    induction h with
    | nil => rfl
    | ascii hc h ih =>
      rw [List.map_cons, List.infix_cons_iff, List.infix_cons_iff, ← List.map_cons]
      exact or_congr ((IsLowerCase.ascii hc h).prefix_iff hword) ih
    | @other c _ _ _ _ hc hletters _ ih =>
      have hlower : a ∉ [c.toLower] := by
        rw [toLower_of_le hc, List.mem_singleton]
        exact fun heq => notMem_severityLetters hc (heq ▸ ha)
      rw [infix_append_iff_of_notMem fun hmem => hletters a hmem ha]
      exact ih.trans (infix_append_iff_of_notMem hlower).symm

theorem holds_iff (word : String) {value : String} {low : List Char}
    (h : IsLowerCase value.toList low) (hword : ∀ c ∈ word.toList, c ∈ severityLetters) :
    holds value word = true ↔ word.toList <:+: low := by
  rw [holds, isWithin_iff, h.infix_iff hword]

/-- The class of a severity is told by the words in any lower case form of it. -/
theorem classify_eq_iff {value : String} {low : List Char} (h : IsLowerCase value.toList low) :
    (classify value = .fatal ↔
      "fatal".toList <:+: low ∧ ¬ "non-fatal".toList <:+: low) ∧
    (classify value = .nonFatal ↔ "non-fatal".toList <:+: low) ∧
    (classify value = .correctable ↔ ¬ "fatal".toList <:+: low) := by
  have hwithin : "fatal".toList <:+: "non-fatal".toList := by decide
  have hfatal := holds_iff "fatal" h fun _ hc => hwithin.subset hc
  have hnonFatal := holds_iff "non-fatal" h fun _ hc => hc
  have hclass : classify value = if "non-fatal".toList <:+: low then .nonFatal
      else if "fatal".toList <:+: low then .fatal else .correctable := by
    simp only [classify, hfatal, hnonFatal]
  rw [hclass]
  by_cases hn : "non-fatal".toList <:+: low
  · have hf := hwithin.trans hn
    rw [if_pos hn]
    exact ⟨⟨nofun, fun h => absurd hn h.2⟩, ⟨fun _ => hn, fun _ => rfl⟩,
      ⟨nofun, fun h => absurd hf h⟩⟩
  · rw [if_neg hn]
    by_cases hf : "fatal".toList <:+: low
    · rw [if_pos hf]
      exact ⟨⟨fun _ => ⟨hf, hn⟩, fun _ => rfl⟩, ⟨nofun, fun h => absurd h hn⟩,
        ⟨nofun, fun h => absurd hf h⟩⟩
    · rw [if_neg hf]
      exact ⟨⟨nofun, fun h => absurd h.1 hf⟩, ⟨nofun, fun h => absurd h hn⟩,
        ⟨fun _ => hf, fun _ => rfl⟩⟩

end Severities

/-! ### Fields -/

section Fields

/-- Whether a field tells the severity. -/
def IsSeverity (name : String) : Prop := name.startsWith "severity"

/-- Whether a field tells the device. -/
def IsDevice (name : String) : Prop := name.startsWith "device"

/-- Whether a field tells neither. -/
def IsDetail (name : String) : Prop := ¬ IsSeverity name ∧ ¬ IsDevice name

instance : DecidablePred IsSeverity := fun _ =>
  decidable_of_iff _ String.startsWith_string_iff.symm

instance : DecidablePred IsDevice := fun _ =>
  decidable_of_iff _ String.startsWith_string_iff.symm

instance : DecidablePred IsDetail := fun name =>
  inferInstanceAs (Decidable (¬ IsSeverity name ∧ ¬ IsDevice name))

theorem not_isDevice_of_isSeverity {name : String} (h : IsSeverity name) : ¬ IsDevice name := by
  intro hdevice
  rw [IsSeverity, String.startsWith_string_iff] at h
  rw [IsDevice, String.startsWith_string_iff] at hdevice
  exact absurd (List.prefix_of_prefix_length_le hdevice h (by decide)) (by decide)

theorem ofName_eq (name : String) :
    Role.ofName name =
      if IsSeverity name then .severity else if IsDevice name then .device else .detail :=
  if_congr Iff.rfl rfl (if_congr Iff.rfl rfl rfl)

theorem ofName_eq_severity_iff {name : String} : Role.ofName name = .severity ↔ IsSeverity name := by
  rw [ofName_eq]
  by_cases hs : IsSeverity name <;> by_cases hd : IsDevice name <;> simp [hs, hd]

theorem ofName_eq_device_iff {name : String} : Role.ofName name = .device ↔ IsDevice name := by
  rw [ofName_eq]
  by_cases hs : IsSeverity name
  · simp [hs, not_isDevice_of_isSeverity hs]
  · by_cases hd : IsDevice name <;> simp [hs, hd]

theorem ofName_eq_detail_iff {name : String} : Role.ofName name = .detail ↔ IsDetail name := by
  rw [ofName_eq, IsDetail]
  by_cases hs : IsSeverity name <;> by_cases hd : IsDevice name <;> simp [hs, hd]

/-- Whether a value is the last one of the fields with certain names. Fields without a value do not
count. -/
def IsLastValue (p : String → Prop) (fields : List (String × String)) (value : String) : Prop :=
  ∃ before name after, fields = before ++ (name, value) :: after ∧ p name ∧ value ≠ "" ∧
    ∀ field ∈ after, p field.1 → field.2 = ""

/-- The last value of the fields with certain names. -/
def lastValue? (p : String → Prop) [DecidablePred p] (fields : List (String × String)) :
    Option String :=
  ((fields.filter fun field => field.2 ≠ "" ∧ p field.1).getLast?).map (·.2)

variable {p : String → Prop} [DecidablePred p] {fields : List (String × String)} {value : String}

theorem lastValue?_eq_some_iff : lastValue? p fields = some value ↔ IsLastValue p fields value := by
  simp only [lastValue?, List.getLast?_filter, Option.map_eq_some_iff, List.find?_eq_some_iff_append]
  constructor
  · rintro ⟨⟨name, value⟩, ⟨hfield, after, before, hfields, hafter⟩, rfl⟩
    obtain ⟨hvalue, hname⟩ := of_decide_eq_true hfield
    refine ⟨before.reverse, name, after.reverse, ?_, hname, hvalue, fun field hmem hp => ?_⟩
    · rw [← List.reverse_reverse fields, hfields]
      simp
    · have := hafter field (List.mem_reverse.mp hmem)
      simpa [hp] using this
  · rintro ⟨before, name, after, rfl, hname, hvalue, hafter⟩
    refine ⟨(name, value), ⟨by simp [hname, hvalue], after.reverse, before.reverse, by simp, ?_⟩, rfl⟩
    intro field hmem
    have hempty := hafter field (List.mem_reverse.mp hmem)
    by_cases hp : p field.1
    · simp [hempty hp]
    · simp [hp]

theorem lastValue?_eq_none_iff :
    lastValue? p fields = none ↔ ∀ field ∈ fields, p field.1 → field.2 = "" := by
  simp only [lastValue?, Option.map_eq_none_iff, List.getLast?_eq_none_iff, List.filter_eq_nil_iff,
    decide_eq_true_eq, not_and]
  exact forall₂_congr fun field _ => ⟨fun h hp => by_contra fun hne => h hne hp,
    fun h hne hp => hne (h hp)⟩

theorem lastValue?_filter_nonempty :
    lastValue? p (fields.filter fun field => field.2 ≠ "") = lastValue? p fields := by
  rw [lastValue?, List.filter_filter, lastValue?]
  refine congrArg (fun fields : List (String × String) => fields.getLast?.map (·.2))
    (List.filter_congr fun field _ => ?_)
  rw [Bool.eq_iff_iff]
  simp only [Bool.and_eq_true, decide_eq_true_eq]
  exact ⟨fun h => h.1, fun h => ⟨h, h.1⟩⟩

/-- Whether two fields tell different things: they have different roles, or they are details with
different names. -/
def TellApart (a b : String × String) : Prop :=
  Role.ofName a.1 ≠ Role.ofName b.1 ∨ (IsDetail a.1 ∧ IsDetail b.1 ∧ a.1 ≠ b.1)

/-- Two neighbours that tell different things change places. -/
inductive Swapped : List (String × String) → List (String × String) → Prop where
  | swap (before after : List (String × String)) {a b : String × String} (h : TellApart a b) :
    Swapped (before ++ a :: b :: after) (before ++ b :: a :: after)

/-- Neighbours change places without a trace where not both of them count. -/
theorem lastValue?_swap {a b : String × String} (h : ¬ (p a.1 ∧ p b.1))
    (before after : List (String × String)) :
    lastValue? p (before ++ a :: b :: after) = lastValue? p (before ++ b :: a :: after) := by
  simp only [lastValue?, List.filter_append, List.filter_cons]
  by_cases ha : p a.1
  · have hb : ¬ p b.1 := fun hb => h ⟨ha, hb⟩
    simp [hb]
  · simp [ha]

end Fields

/-! ### Events -/

namespace Message

variable (m : Message)

/-- The fields without a role of their own, the last value for each name. -/
def details : Metadata :=
  (m.inRole .detail).foldl (fun details field => details.insert field.1 field.2) .empty

theorem toEvent_eq :
    m.toEvent =
      { Event.pcieError ((m.errorClass.map ErrorClass.severity).getD .warning) m.subject m.errorClass
          ("AER " ++ (m.errorClass.map ErrorClass.text).getD "" ++ " error reported in log") with
        metadata := m.details } :=
  Event.foldl_withMetadata (m.inRole .detail) _

theorem inRole_eq (role : Role) :
    m.inRole role = m.items.filter fun field => field.2 ≠ "" ∧ Role.ofName field.1 = role := by
  refine List.filter_congr fun field _ => ?_
  rw [Bool.eq_iff_iff]
  simp

theorem errorClass_eq : m.errorClass = (lastValue? IsSeverity m.items).map classify := by
  simp only [errorClass, inRole_eq, lastValue?, ofName_eq_severity_iff, Option.map_map]
  rfl

theorem subject_eq : m.subject = (lastValue? IsDevice m.items).getD "" := by
  simp only [subject, inRole_eq, lastValue?, ofName_eq_device_iff]

theorem get?_details (key : String) :
    m.details.get? key = if IsDetail key then lastValue? (· = key) m.items else none := by
  rw [details, Metadata.get?_foldl_insert, Metadata.get?_empty, Option.or_none, inRole_eq,
    List.filter_filter, lastValue?]
  split
  · rename_i hkey
    refine congrArg (fun fields : List (String × String) => fields.getLast?.map (·.2))
      (List.filter_congr fun field _ => ?_)
    rw [Bool.eq_iff_iff]
    simp only [ofName_eq_detail_iff, Bool.and_eq_true, decide_eq_true_eq]
    exact ⟨fun h => ⟨h.2.1, h.1⟩, fun h => ⟨h.2, h.1, h.2 ▸ hkey⟩⟩
  · rename_i hkey
    rw [Option.map_eq_none_iff, List.getLast?_eq_none_iff, List.filter_eq_nil_iff]
    intro field _
    simp only [ofName_eq_detail_iff, Bool.and_eq_true, decide_eq_true_eq]
    exact fun h => hkey (h.1 ▸ h.2.2)

/-- What an event has to tell of a message. -/
structure Tells (e : Event) : Prop where
  topic : e.topic = .pcieError
  message : e.message =
    "AER " ++ (e.errorClass.map ErrorClass.text).getD "" ++ " error reported in log"
  severity : ∀ value, IsLastValue IsSeverity m.items value →
    e.errorClass = some (classify value) ∧ e.severity = (classify value).severity
  noSeverity : (∀ field ∈ m.items, IsSeverity field.1 → field.2 = "") →
    e.errorClass = none ∧ e.severity = .warning
  device : ∀ value, IsLastValue IsDevice m.items value → e.subject = value
  noDevice : (∀ field ∈ m.items, IsDevice field.1 → field.2 = "") → e.subject = ""
  details : ∀ key value, e.metadata.get? key = some value ↔
    IsDetail key ∧ IsLastValue (· = key) m.items value

theorem tells_toEvent : m.Tells m.toEvent where
  topic := by
    rw [toEvent_eq]
    rfl
  message := by
    rw [toEvent_eq]
    rfl
  severity value h := by
    rw [← lastValue?_eq_some_iff] at h
    simp [toEvent_eq, errorClass_eq, h, Event.pcieError]
  noSeverity h := by
    rw [← lastValue?_eq_none_iff] at h
    simp [toEvent_eq, errorClass_eq, h, Event.pcieError]
  device value h := by
    rw [← lastValue?_eq_some_iff] at h
    simp [toEvent_eq, subject_eq, h, Event.pcieError]
  noDevice h := by
    rw [← lastValue?_eq_none_iff] at h
    simp [toEvent_eq, subject_eq, h, Event.pcieError]
  details key value := by
    rw [toEvent_eq, ← lastValue?_eq_some_iff]
    simp [get?_details]

variable {m}

/-- Nothing else is in the event. -/
theorem Tells.eq {e e' : Event} (h : m.Tells e) (h' : m.Tells e') : e = e' := by
  have hclass : e.errorClass = e'.errorClass ∧ e.severity = e'.severity := by
    cases hlast : lastValue? IsSeverity m.items with
    | none =>
      rw [lastValue?_eq_none_iff] at hlast
      rw [(h.noSeverity hlast).1, (h.noSeverity hlast).2, (h'.noSeverity hlast).1,
        (h'.noSeverity hlast).2]
      exact ⟨rfl, rfl⟩
    | some value =>
      rw [lastValue?_eq_some_iff] at hlast
      rw [(h.severity value hlast).1, (h.severity value hlast).2, (h'.severity value hlast).1,
        (h'.severity value hlast).2]
      exact ⟨rfl, rfl⟩
  have hsubject : e.subject = e'.subject := by
    cases hlast : lastValue? IsDevice m.items with
    | none =>
      rw [lastValue?_eq_none_iff] at hlast
      rw [h.noDevice hlast, h'.noDevice hlast]
    | some value =>
      rw [lastValue?_eq_some_iff] at hlast
      rw [h.device value hlast, h'.device value hlast]
  have hmetadata : e.metadata = e'.metadata :=
    Metadata.ext_get? fun key => Option.ext fun value => (h.details key value).trans
      (h'.details key value).symm
  have hmessage : e.message = e'.message := by rw [h.message, h'.message, hclass.1]
  have htopic : e.topic = e'.topic := h.topic.trans h'.topic.symm
  obtain ⟨severity, subject, topic, errorClass, message, metadata⟩ := e
  obtain ⟨severity', subject', topic', errorClass', message', metadata'⟩ := e'
  obtain ⟨rfl, rfl⟩ := hclass
  obtain rfl : subject = subject' := hsubject
  obtain rfl : metadata = metadata' := hmetadata
  obtain rfl : message = message' := hmessage
  obtain rfl : topic = topic' := htopic
  rfl

/-- The event hangs on nothing but the last values. -/
theorem toEvent_congr {m m' : Message}
    (hseverity : lastValue? IsSeverity m.items = lastValue? IsSeverity m'.items)
    (hdevice : lastValue? IsDevice m.items = lastValue? IsDevice m'.items)
    (hdetails : ∀ key, IsDetail key →
      lastValue? (· = key) m.items = lastValue? (· = key) m'.items) : m.toEvent = m'.toEvent := by
  have hmetadata : m.details = m'.details := by
    refine Metadata.ext_get? fun key => ?_
    rw [get?_details, get?_details]
    split
    · rename_i hkey
      exact hdetails key hkey
    · rfl
  rw [toEvent_eq, toEvent_eq, errorClass_eq, errorClass_eq, subject_eq, subject_eq, hseverity, hdevice,
    hmetadata]

theorem toEvent_of_swapped {items items' : List (String × String)} (h : Swapped items items') :
    (⟨items⟩ : Message).toEvent = (⟨items'⟩ : Message).toEvent := by
  obtain ⟨before, after, hapart⟩ := h
  refine toEvent_congr (lastValue?_swap ?_ before after) (lastValue?_swap ?_ before after)
    fun key hkey => lastValue?_swap ?_ before after
  · rintro ⟨ha, hb⟩
    rcases hapart with hrole | ⟨ha', -⟩
    · exact hrole ((ofName_eq_severity_iff.mpr ha).trans (ofName_eq_severity_iff.mpr hb).symm)
    · exact ha'.1 ha
  · rintro ⟨ha, hb⟩
    rcases hapart with hrole | ⟨ha', -⟩
    · exact hrole ((ofName_eq_device_iff.mpr ha).trans (ofName_eq_device_iff.mpr hb).symm)
    · exact ha'.2 ha
  · rintro ⟨ha, hb⟩
    rcases hapart with hrole | ⟨-, -, hne⟩
    · exact hrole (by rw [ha, hb])
    · exact hne (ha.trans hb.symm)

theorem toEvent_of_rearranged {items : List (String × String)}
    (h : Relation.ReflTransGen Swapped m.items items) : (⟨items⟩ : Message).toEvent = m.toEvent := by
  induction h with
  | refl => rfl
  | tail _ hswap ih => exact (toEvent_of_swapped hswap).symm.trans ih

/-- The event of a message is the one that tells its last values, and fields without a value do not
matter. The class of a severity is told by the words in its lower case form, and only fatal errors are
failures. Fields that tell different things can change places, again and again. -/
theorem event_of_last_values (m : Message) :
    (∀ e, m.Tells e ↔ e = m.toEvent) ∧
    (⟨m.items.filter fun field => field.2 ≠ ""⟩ : Message).toEvent = m.toEvent ∧
    (∀ value : String, ∃ low, IsLowerCase value.toList low) ∧
    (∀ (value : String) low, IsLowerCase value.toList low →
      (classify value = .fatal ↔ "fatal".toList <:+: low ∧ ¬ "non-fatal".toList <:+: low) ∧
      (classify value = .nonFatal ↔ "non-fatal".toList <:+: low) ∧
      (classify value = .correctable ↔ ¬ "fatal".toList <:+: low)) ∧
    (∀ c : ErrorClass, c.severity = if c = .fatal then .failure else .warning) ∧
    ∀ m' : Message, Relation.ReflTransGen Swapped m.items m'.items → m'.toEvent = m.toEvent := by
  refine ⟨fun e => ⟨fun h => h.eq m.tells_toEvent, fun h => h ▸ m.tells_toEvent⟩, ?_,
    fun value => ⟨_, isLowerCase_map_toLower value.toList⟩, fun value low h => classify_eq_iff h, ?_,
    fun _ h => toEvent_of_rearranged h⟩
  · exact toEvent_congr lastValue?_filter_nonempty lastValue?_filter_nonempty
      fun key _ => lastValue?_filter_nonempty
  · intro c
    cases c <;> rfl

end Message

end Log

end AerWatch
