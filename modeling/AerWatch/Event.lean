import AerWatch.Json.Text

/-!
# Events

What the monitor reports: an error of a device that was set or cleared, an error found in the log, or a
failure to collect data. `Event.text` is the form for people; `Event.json` and `Event.line` are objects
on one line, to which the time and, for a line, the host are given from outside.
-/

namespace AerWatch

/-- How serious an event is. -/
inductive Severity where
  | ok
  | warning
  | failure
deriving DecidableEq

/-- The severity in an object. -/
def Severity.tag : Severity → String
  | ok => "ok"
  | warning => "warning"
  | failure => "failure"

/-- The severity in a text for people. -/
def Severity.text : Severity → String
  | ok => "OKAY"
  | warning => "WARNING"
  | failure => "FAILURE"

/-- The classes of PCI Express errors. -/
inductive ErrorClass where
  | correctable
  | fatal
  | nonFatal
deriving DecidableEq

/-- The name of an error class. -/
def ErrorClass.text : ErrorClass → String
  | correctable => "correctable"
  | fatal => "fatal"
  | nonFatal => "non_fatal"

/-- The severity of an error of a class that is present. -/
def ErrorClass.severity : ErrorClass → Severity
  | fatal => .failure
  | correctable | nonFatal => .warning

/-- What an event is about. -/
inductive Topic where
  /-- An error of a PCI Express device. -/
  | pcieError
  /-- The monitor itself. -/
  | monitor
deriving DecidableEq

/-- The category by which an object tells its topic. -/
def Topic.category : Topic → String
  | pcieError => "pcie_error"
  | monitor => ""

/-- Values under names, in increasing order of the names. -/
structure Metadata where
  entries : List (String × String) := []
  sorted : entries.Pairwise (·.1 < ·.1) := by simp
deriving DecidableEq

namespace Metadata

def empty : Metadata := {}

/-- Puts a value under a name, in place of the value it had. -/
def insertEntry (key value : String) : List (String × String) → List (String × String)
  | [] => [(key, value)]
  | (k, v) :: rest =>
    if key < k then (key, value) :: (k, v) :: rest
    else if key = k then (key, value) :: rest
    else (k, v) :: insertEntry key value rest

theorem mem_insertEntry {key value : String} {es : List (String × String)} {e : String × String}
    (h : e ∈ insertEntry key value es) : e = (key, value) ∨ e ∈ es := by
  induction es with
  | nil => simpa [insertEntry] using h
  | cons a rest ih =>
    unfold insertEntry at h
    split at h
    · simpa using h
    · split at h
      · rcases List.mem_cons.mp h with h | h
        · exact .inl h
        · exact .inr (List.mem_cons_of_mem _ h)
      · rcases List.mem_cons.mp h with h | h
        · exact .inr (h ▸ List.mem_cons_self)
        · rcases ih h with h | h
          · exact .inl h
          · exact .inr (List.mem_cons_of_mem _ h)

theorem pairwise_insertEntry {key value : String} {es : List (String × String)}
    (h : es.Pairwise (·.1 < ·.1)) : (insertEntry key value es).Pairwise (·.1 < ·.1) := by
  induction es with
  | nil => simp [insertEntry]
  | cons a rest ih =>
    obtain ⟨hall, hrest⟩ := List.pairwise_cons.mp h
    unfold insertEntry
    split
    · rename_i hlt
      refine List.pairwise_cons.mpr ⟨fun e he => ?_, h⟩
      rcases List.mem_cons.mp he with rfl | he
      · exact hlt
      · exact String.lt_trans hlt (hall e he)
    · rename_i hlt
      split
      · rename_i heq
        exact List.pairwise_cons.mpr ⟨fun e he => heq ▸ hall e he, hrest⟩
      · rename_i hne
        refine List.pairwise_cons.mpr ⟨fun e he => ?_, ih hrest⟩
        rcases mem_insertEntry he with rfl | he
        · have hle := String.not_lt.mp hlt
          exact String.not_le.mp fun h => hne (String.le_antisymm h hle)
        · exact hall e he

/-- Puts a value under a name, in place of the value it had. -/
def insert (m : Metadata) (key value : String) : Metadata :=
  ⟨insertEntry key value m.entries, pairwise_insertEntry m.sorted⟩

/-- The value under a name. -/
def get? (m : Metadata) (key : String) : Option String := m.entries.lookup key

@[simp] theorem get?_empty (key : String) : empty.get? key = none := rfl

theorem get?_insert (m : Metadata) (key value k : String) :
    (m.insert key value).get? k = if k = key then some value else m.get? k := by
  obtain ⟨es, hs⟩ := m
  simp only [insert, get?]
  clear hs
  by_cases h : k = key
  · subst h
    induction es with
    | nil => simp [insertEntry]
    | cons a rest ih =>
      obtain ⟨a, b⟩ := a
      unfold insertEntry
      split
      · simp
      · split
        · simp
        · rename_i hne
          simp [List.lookup_cons, beq_eq_false_iff_ne.mpr hne, ih]
  · have hk : (k == key) = false := beq_eq_false_iff_ne.mpr h
    induction es with
    | nil => simp [insertEntry, List.lookup_cons, hk, h]
    | cons a rest ih =>
      obtain ⟨a, b⟩ := a
      unfold insertEntry
      split
      · simp [List.lookup_cons, hk]
      · split
        · rename_i heq
          subst heq
          simp [List.lookup_cons, hk]
        · simp [List.lookup_cons, ih, h]

end Metadata

/-- A report of the monitor. -/
structure Event where
  severity : Severity
  /-- The device the event is about, if it is about one. -/
  subject : String
  topic : Topic
  errorClass : Option ErrorClass
  message : String
  metadata : Metadata := {}
deriving DecidableEq

namespace Event

/-- The name under which events are published. -/
def plugin : String := "pcie_errors"

/-- A report of a PCI Express error. -/
def pcieError (severity : Severity) (subject : String) (errorClass : Option ErrorClass)
    (message : String) : Event :=
  { severity, subject, topic := .pcieError, errorClass, message }

/-- A report that data could not be collected. -/
def failure (subject message : String) : Event :=
  { severity := .failure, subject, topic := .monitor, errorClass := none, message }

/-- Adds a detail. -/
def withMetadata (e : Event) (key value : String) : Event :=
  { e with metadata := e.metadata.insert key value }

/-- The form for people. -/
def text (e : Event) : String :=
  let subject := if e.subject = "" then "" else e.subject ++ ": "
  "[" ++ e.severity.text ++ "] " ++ subject ++ e.message

/-- The details as the last member of an object, left out when there are none. -/
def metadataMember (e : Event) : List (List Char) :=
  match e.metadata.entries with
  | [] => []
  | es => [Json.memberText "metadata" (Json.objectText (es.map fun (k, v) =>
      Json.memberText k (Json.stringText v)))]

/-- The members of an object that stands for the event. -/
def members (timestamp : String) (e : Event) : List (List Char) :=
  [Json.memberText "timestamp" (Json.stringText timestamp),
   Json.memberText "severity" (Json.stringText e.severity.tag),
   Json.memberText "plugin" (Json.stringText plugin),
   Json.memberText "subject" (Json.stringText e.subject),
   Json.memberText "category" (Json.stringText e.topic.category),
   Json.memberText "type_instance"
    ((e.errorClass.map fun c => Json.stringText c.text).getD Json.nullText),
   Json.memberText "message" (Json.stringText e.message)] ++ e.metadataMember

/-- The event as an object. -/
def json (timestamp : String) (e : Event) : String :=
  String.ofList (Json.objectText (e.members timestamp))

/-- The event as an object that tells the host it was seen on. -/
def line (host timestamp : String) (e : Event) : String :=
  String.ofList
    (Json.objectText (Json.memberText "host" (Json.stringText host) :: e.members timestamp))

end Event

end AerWatch
