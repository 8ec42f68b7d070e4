import AerWatch.Proofs.Json.Records
import AerWatch.Proofs.Json.Writing
import AerWatch.Proofs.Text.Encoding
import Mathlib.Data.List.Forall2

/-!
# Documents of a configuration

A configuration is written as an object, with its members in any order. A member may be left out where
the configuration has the default. Every such document is read as the configuration, in whatever way
the object is written; a document with a member that is not known, or with one that stands twice, is
refused, be it in the configuration, in a parser or in a pattern.
-/

namespace AerWatch

open Json

section Telling

variable {α : Type}

/-- A value that a draft has once its name was read. -/
def told (names : List String) (name : String) (a : α) : Option α :=
  if name ∈ names then some a else none

theorem told_of_mem {names : List String} {name : String} (h : name ∈ names) (a : α) :
    told names name a = some a := if_pos h

theorem told_of_notMem {names : List String} {name : String} (h : name ∉ names) (a : α) :
    told names name a = none := if_neg h

/-- Where a name was read or the value is the default, the value is what comes out. -/
theorem getD_told {names : List String} {name : String} {a standard : α}
    (h : name ∈ names ∨ a = standard) : (told names name a).getD standard = a := by
  unfold told
  split_ifs with hin
  · rfl
  · rcases h with h | h
    · exact absurd h hin
    · exact h.symm

theorem join_told {names : List String} {name : String} {o : Option α}
    (h : name ∈ names ∨ o = none) : (told names name o).join = o := by
  unfold told
  split_ifs with hin
  · rfl
  · rcases h with h | h
    · exact absurd h hin
    · exact h.symm

theorem reads_nullable (expected : String) (o : Option String) :
    (Decoder.optional (.text expected)).Reads (.nullable o) o := by
  cases o with
  | none => exact Decoder.reads_optional_null
  | some s => exact Decoder.reads_optional (by simp [Value.nullable]) (Decoder.reads_text expected s)

end Telling

section Arrays

variable {α : Type} {d : Decoder α}

/-- Objects that are read one by one are read as an array. -/
theorem reads_objects {as : List α} {objects : List (List (String × Value))}
    (h : List.Forall₂ (fun a ms => d.Reads (.object ms) a) as objects) :
    (Decoder.list d).Reads (.array (objects.map .object)) as :=
  Decoder.reads_list (List.forall₂_map_left_iff.mpr h.flip)

/-- An array with an element that is not read is not read. -/
theorem not_reads_array (hd : d.Sound) {v : Value} {vs : List Value} (hv : v ∈ vs)
    (h : ∀ a, ¬d.Reads v a) (as : List α) : ¬(Decoder.list d).Reads (.array vs) as := by
  intro hread
  have hall := Decoder.forall₂_of_reads_list hd hread
  clear hread
  induction hall with
  | nil => exact absurd hv List.not_mem_nil
  | cons ha _ ih =>
    rcases List.mem_cons.mp hv with rfl | hv
    · exact h _ ha
    · exact ih hv

end Arrays

namespace Log

section Patterns

/-- A member by which a pattern is told. -/
inductive FieldPattern.Tells (p : FieldPattern) : String → Value → Prop
  | name : Tells p "name" (.string p.name)
  | regex : Tells p "regex" (.string p.regex)
  | submatch : Tells p "submatch_idx" (.number (some (.integer p.submatch)))
  | exclude : Tells p "exclude_regex" (.nullable p.exclude)
  | mandatory : Tells p "is_mandatory" (.bool p.mandatory)

/-- Members of an object that is a pattern. -/
structure FieldPattern.Renders (p : FieldPattern) (ms : List (String × Value)) : Prop where
  nodup : (ms.map Prod.fst).Nodup
  tells : ∀ m ∈ ms, p.Tells m.1 m.2
  name : "name" ∈ ms.map Prod.fst
  regex : "regex" ∈ ms.map Prod.fst
  submatch : "submatch_idx" ∈ ms.map Prod.fst ∨ p.submatch = 1
  exclude : "exclude_regex" ∈ ms.map Prod.fst ∨ p.exclude = none
  mandatory : "is_mandatory" ∈ ms.map Prod.fst ∨ p.mandatory = false

/-- The draft of a pattern of which the members with some names were read. -/
def FieldPattern.sketch (p : FieldPattern) (names : List String) : FieldPattern.Draft where
  name := told names "name" p.name
  regex := told names "regex" p.regex
  submatch := told names "submatch_idx" p.submatch
  exclude := told names "exclude_regex" p.exclude
  mandatory := told names "is_mandatory" p.mandatory

theorem FieldPattern.lawful_record : FieldPattern.record.Lawful where
  sound := by
    intro m hm draft
    simp only [record, List.mem_cons, List.not_mem_nil, or_false] at hm
    rcases hm with rfl | rfl | rfl | rfl | rfl
    · exact Record.sound_field (Decoder.sound_text _) draft
    · exact Record.sound_field (Decoder.sound_text _) draft
    · exact Record.sound_field Decoder.sound_size draft
    · exact Record.sound_field (Decoder.sound_optional (Decoder.sound_text _)) draft
    · exact Record.sound_field Decoder.sound_bool draft
  isSet := by
    intro m hm m' hm' draft ts next rest h
    simp only [record, List.mem_cons, List.not_mem_nil, or_false] at hm hm'
    rcases hm with rfl | rfl | rfl | rfl | rfl <;> refine Record.isSet_field (fun b => ?_) h <;>
      rcases hm' with rfl | rfl | rfl | rfl | rfl <;> rfl

theorem FieldPattern.sound_decoder : FieldPattern.record.decoder.Sound :=
  Record.sound_decoder lawful_record.sound

theorem FieldPattern.sketch_step (p : FieldPattern) (names : List String) (name : String) (v : Value)
    (h : p.Tells name v) (hnew : name ∉ names) :
    ∃ m, FieldPattern.record.members.find? (·.name == name) = some m ∧
      m.isSet (p.sketch names) = false ∧
        (m.read (p.sketch names)).Reads v (p.sketch (name :: names)) := by
  cases h with
  | name =>
    exact Record.sketch_field rfl (told_of_notMem hnew _) (Decoder.reads_text _ _)
      (by simp [sketch, told])
  | regex =>
    exact Record.sketch_field rfl (told_of_notMem hnew _) (Decoder.reads_text _ _)
      (by simp [sketch, told])
  | submatch =>
    exact Record.sketch_field rfl (told_of_notMem hnew _) (Decoder.reads_size _)
      (by simp [sketch, told])
  | exclude =>
    exact Record.sketch_field rfl (told_of_notMem hnew _) (reads_nullable _ _)
      (by simp [sketch, told])
  | mandatory =>
    exact Record.sketch_field rfl (told_of_notMem hnew _) (Decoder.reads_bool _)
      (by simp [sketch, told])

theorem FieldPattern.close_sketch (p : FieldPattern) {names : List String} (hname : "name" ∈ names)
    (hregex : "regex" ∈ names) (hsubmatch : "submatch_idx" ∈ names ∨ p.submatch = 1)
    (hexclude : "exclude_regex" ∈ names ∨ p.exclude = none)
    (hmandatory : "is_mandatory" ∈ names ∨ p.mandatory = false) :
    FieldPattern.record.close (p.sketch names) = .ok p := by
  have hmissing : FieldPattern.record.missing? (p.sketch names) = none := by
    simp [Record.missing?, record, Member.field, sketch, told_of_mem hname, told_of_mem hregex]
  have hfinish : FieldPattern.record.finish (p.sketch names) = some p := by
    simp [record, sketch, told_of_mem hname, told_of_mem hregex, getD_told hsubmatch,
      join_told hexclude, getD_told hmandatory]
  rw [Record.close, hmissing]
  simp only [hfinish]

/-- An object that is a pattern is read as the pattern. -/
theorem FieldPattern.Renders.reads {p : FieldPattern} {ms : List (String × Value)}
    (h : p.Renders ms) : FieldPattern.record.decoder.Reads (.object ms) p := by
  refine Record.reads_object (Record.fills_sketch p.sketch_step h.tells h.nodup) ?_
  refine p.close_sketch ?_ ?_ ?_ ?_ ?_
  all_goals rw [List.mem_reverse]
  · exact h.name
  · exact h.regex
  · exact h.submatch
  · exact h.exclude
  · exact h.mandatory

end Patterns

section Parsers

/-- A member by which a parser is told. -/
inductive ParserConfig.Tells (p : ParserConfig) : String → Value → Prop
  | name : Tells p "name" (.string p.name)
  | patterns {objects : List (List (String × Value))}
      (h : List.Forall₂ FieldPattern.Renders p.patterns objects) :
      Tells p "matches" (.array (objects.map .object))

/-- Members of an object that is a parser. -/
structure ParserConfig.Renders (p : ParserConfig) (ms : List (String × Value)) : Prop where
  nodup : (ms.map Prod.fst).Nodup
  tells : ∀ m ∈ ms, p.Tells m.1 m.2
  name : "name" ∈ ms.map Prod.fst
  patterns : "matches" ∈ ms.map Prod.fst

/-- The draft of a parser of which the members with some names were read. -/
def ParserConfig.sketch (p : ParserConfig) (names : List String) : ParserConfig.Draft where
  name := told names "name" p.name
  patterns := told names "matches" p.patterns

theorem ParserConfig.lawful_record : ParserConfig.record.Lawful where
  sound := by
    intro m hm draft
    simp only [record, List.mem_cons, List.not_mem_nil, or_false] at hm
    rcases hm with rfl | rfl
    · exact Record.sound_field (Decoder.sound_text _) draft
    · exact Record.sound_field (Decoder.sound_list FieldPattern.sound_decoder) draft
  isSet := by
    intro m hm m' hm' draft ts next rest h
    simp only [record, List.mem_cons, List.not_mem_nil, or_false] at hm hm'
    rcases hm with rfl | rfl <;> refine Record.isSet_field (fun b => ?_) h <;>
      rcases hm' with rfl | rfl <;> rfl

theorem ParserConfig.sound_decoder : ParserConfig.record.decoder.Sound :=
  Record.sound_decoder lawful_record.sound

theorem ParserConfig.sketch_step (p : ParserConfig) (names : List String) (name : String) (v : Value)
    (h : p.Tells name v) (hnew : name ∉ names) :
    ∃ m, ParserConfig.record.members.find? (·.name == name) = some m ∧
      m.isSet (p.sketch names) = false ∧
        (m.read (p.sketch names)).Reads v (p.sketch (name :: names)) := by
  cases h with
  | name =>
    exact Record.sketch_field rfl (told_of_notMem hnew _) (Decoder.reads_text _ _)
      (by simp [sketch, told])
  | patterns hpatterns =>
    exact Record.sketch_field rfl (told_of_notMem hnew _)
      (reads_objects (hpatterns.imp fun _ _ h => h.reads)) (by simp [sketch, told])

/-- An object that is a parser is read as the parser. -/
theorem ParserConfig.Renders.reads {p : ParserConfig} {ms : List (String × Value)}
    (h : p.Renders ms) : ParserConfig.record.decoder.Reads (.object ms) p := by
  refine Record.reads_object (Record.fills_sketch p.sketch_step h.tells h.nodup) ?_
  have hname := told_of_mem (List.mem_reverse.mpr h.name) p.name
  have hpatterns := told_of_mem (List.mem_reverse.mpr h.patterns) p.patterns
  simp [Record.close, Record.missing?, record, Member.field, sketch, hname, hpatterns]

end Parsers

section Flaws

/-- The names of the members of a pattern. -/
def FieldPattern.memberNames : List String :=
  ["name", "regex", "submatch_idx", "exclude_regex", "is_mandatory"]

/-- The names of the members of a parser. -/
def ParserConfig.memberNames : List String := ["name", "matches"]

/-- Members of an object of which one is not known or stands twice, in a parser or in one of its
patterns. -/
def ParserConfig.IsFlawed (ms : List (String × Value)) : Prop :=
  Record.IsFlawed memberNames ms ∨
    ∃ vs ps, ("matches", .array vs) ∈ ms ∧ .object ps ∈ vs ∧
      Record.IsFlawed FieldPattern.memberNames ps

/-- No parser is read from such an object. -/
theorem ParserConfig.not_reads_of_isFlawed {ms : List (String × Value)} (h : IsFlawed ms)
    (p : ParserConfig) : ¬ParserConfig.record.decoder.Reads (.object ms) p := by
  intro hread
  rcases h with hflaw | ⟨vs, ps, hvs, hps, hflaw⟩
  · exact Record.not_reads_of_isFlawed lawful_record hflaw p hread
  · obtain ⟨draft, next, hfield⟩ := Record.exists_reads_member lawful_record hread hvs rfl
    obtain ⟨patterns, hpatterns⟩ :=
      Record.exists_of_reads_field (Decoder.sound_list FieldPattern.sound_decoder) hfield
    have hpattern := Record.not_reads_of_isFlawed FieldPattern.lawful_record hflaw
    exact not_reads_array FieldPattern.sound_decoder hps hpattern patterns hpatterns

end Flaws

end Log

namespace Source

/-- A name by which a source is told: `sysfs` or `proc` with letters of either case, and any other text
for a source that is not polled. -/
def IsTold (s : Source) (name : String) : Prop :=
  match s with
  | sysfs => String.ofList (name.toList.map Char.toLower) = "sysfs"
  | proc => String.ofList (name.toList.map Char.toLower) = "proc"
  | other => String.ofList (name.toList.map Char.toLower) ∉ ["sysfs", "proc"]

theorem ofName_eq {s : Source} {name : String} (h : s.IsTold name) : ofName name = s := by
  -- an unknown name is no fault, so the third case is that of all other names
  cases s with
  | sysfs =>
    have hname : String.ofList (name.toList.map Char.toLower) = "sysfs" := h
    rw [ofName, hname]
    rfl
  | proc =>
    have hname : String.ofList (name.toList.map Char.toLower) = "proc" := h
    rw [ofName, hname]
    rfl
  | other =>
    have hname : String.ofList (name.toList.map Char.toLower) ∉ ["sysfs", "proc"] := h
    unfold ofName
    split
    · next heq => exact absurd (heq ▸ hname) (by decide)
    · next heq => exact absurd (heq ▸ hname) (by decide)
    · rfl

end Source

namespace Config

section Documents

/-- A member by which a configuration is told. -/
inductive Tells (c : Config) : String → Value → Prop
  | source {name : String} (h : c.source.IsTold name) : Tells c "source" (.string name)
  | accessDir : Tells c "access_dir" (.nullable c.accessDir)
  | reportMasked : Tells c "report_masked" (.bool c.reportMasked)
  | persistentNotifications :
      Tells c "persistent_notifications" (.bool c.persistentNotifications)
  | logFile : Tells c "log_file" (.string c.logFile)
  | readLog : Tells c "read_log" (.bool c.readLog)
  | firstFullRead : Tells c "first_full_read" (.bool c.firstFullRead)
  | messagePatterns {objects : List (List (String × Value))}
      (h : List.Forall₂ Log.ParserConfig.Renders c.messagePatterns objects) :
      Tells c "msg_patterns" (.array (objects.map .object))

/-- Members of an object that is a configuration. Those that are left out have their default. -/
structure Renders (c : Config) (ms : List (String × Value)) : Prop where
  nodup : (ms.map Prod.fst).Nodup
  tells : ∀ m ∈ ms, c.Tells m.1 m.2
  source : "source" ∈ ms.map Prod.fst ∨ c.source = .sysfs
  accessDir : "access_dir" ∈ ms.map Prod.fst ∨ c.accessDir = none
  reportMasked : "report_masked" ∈ ms.map Prod.fst ∨ c.reportMasked = false
  persistentNotifications :
    "persistent_notifications" ∈ ms.map Prod.fst ∨ c.persistentNotifications = false
  logFile : "log_file" ∈ ms.map Prod.fst ∨ c.logFile = "/var/log/syslog"
  readLog : "read_log" ∈ ms.map Prod.fst ∨ c.readLog = false
  firstFullRead : "first_full_read" ∈ ms.map Prod.fst ∨ c.firstFullRead = false
  messagePatterns : "msg_patterns" ∈ ms.map Prod.fst ∨ c.messagePatterns = []

/-- The draft of a configuration of which the members with some names were read. -/
def sketch (c : Config) (names : List String) : Draft where
  source := told names "source" c.source
  accessDir := told names "access_dir" c.accessDir
  reportMasked := told names "report_masked" c.reportMasked
  persistentNotifications := told names "persistent_notifications" c.persistentNotifications
  logFile := told names "log_file" c.logFile
  readLog := told names "read_log" c.readLog
  firstFullRead := told names "first_full_read" c.firstFullRead
  messagePatterns := told names "msg_patterns" c.messagePatterns

theorem lawful_record : record.Lawful where
  sound := by
    intro m hm draft
    simp only [record, List.mem_cons, List.not_mem_nil, or_false] at hm
    rcases hm with rfl | rfl | rfl | rfl | rfl | rfl | rfl | rfl
    · exact Record.sound_field (Decoder.sound_map (Decoder.sound_text _) Source.ofName) draft
    · exact Record.sound_field (Decoder.sound_optional (Decoder.sound_text _)) draft
    · exact Record.sound_field Decoder.sound_bool draft
    · exact Record.sound_field Decoder.sound_bool draft
    · exact Record.sound_field (Decoder.sound_text _) draft
    · exact Record.sound_field Decoder.sound_bool draft
    · exact Record.sound_field Decoder.sound_bool draft
    · exact Record.sound_field (Decoder.sound_list Log.ParserConfig.sound_decoder) draft
  isSet := by
    intro m hm m' hm' draft ts next rest h
    simp only [record, List.mem_cons, List.not_mem_nil, or_false] at hm hm'
    rcases hm with rfl | rfl | rfl | rfl | rfl | rfl | rfl | rfl <;>
      refine Record.isSet_field (fun b => ?_) h <;>
      rcases hm' with rfl | rfl | rfl | rfl | rfl | rfl | rfl | rfl <;> rfl

theorem sound_decoder : record.decoder.Sound := Record.sound_decoder lawful_record.sound

theorem sketch_step (c : Config) (names : List String) (name : String) (v : Value)
    (h : c.Tells name v) (hnew : name ∉ names) :
    ∃ m, record.members.find? (·.name == name) = some m ∧ m.isSet (c.sketch names) = false ∧
      (m.read (c.sketch names)).Reads v (c.sketch (name :: names)) := by
  cases h with
  | source hsource =>
    exact Record.sketch_field rfl (told_of_notMem hnew _) (Decoder.reads_map (Decoder.reads_text _ _))
      (by simp [sketch, told, Source.ofName_eq hsource])
  | accessDir =>
    exact Record.sketch_field rfl (told_of_notMem hnew _) (reads_nullable _ _)
      (by simp [sketch, told])
  | logFile =>
    exact Record.sketch_field rfl (told_of_notMem hnew _) (Decoder.reads_text _ _)
      (by simp [sketch, told])
  | messagePatterns hpatterns =>
    exact Record.sketch_field rfl (told_of_notMem hnew _)
      (reads_objects (hpatterns.imp fun _ _ h => h.reads)) (by simp [sketch, told])
  | _ =>
    exact Record.sketch_field rfl (told_of_notMem hnew _) (Decoder.reads_bool _)
      (by simp [sketch, told])

/-- An object that is a configuration is read as the configuration. -/
theorem Renders.reads {c : Config} {ms : List (String × Value)} (h : c.Renders ms) :
    record.decoder.Reads (.object ms) c := by
  refine Record.reads_object (Record.fills_sketch c.sketch_step h.tells h.nodup) ?_
  -- the draft that is left has each member that stood in the object, and the others are the default
  have hin {name : String} {p : Prop} (h : name ∈ ms.map Prod.fst ∨ p) :
      name ∈ (ms.map Prod.fst).reverse ∨ p := h.imp_left List.mem_reverse.mpr
  simp [Record.close, Record.missing?, record, Member.field, sketch, ofDraft, getD_told (hin h.source),
    getD_told (hin h.accessDir), getD_told (hin h.reportMasked),
    getD_told (hin h.persistentNotifications), getD_told (hin h.logFile), getD_told (hin h.readLog),
    getD_told (hin h.firstFullRead), getD_told (hin h.messagePatterns)]

/-- The names of the members of a configuration. -/
def memberNames : List String :=
  ["source", "access_dir", "report_masked", "persistent_notifications", "log_file", "read_log",
   "first_full_read", "msg_patterns"]

/-- Members of an object of which one is not known or stands twice, in a configuration, in one of its
parsers or in a pattern. -/
def IsFlawed (ms : List (String × Value)) : Prop :=
  Record.IsFlawed memberNames ms ∨
    ∃ vs ps, ("msg_patterns", .array vs) ∈ ms ∧ .object ps ∈ vs ∧ Log.ParserConfig.IsFlawed ps

/-- No configuration is read from such an object. -/
theorem not_reads_of_isFlawed {ms : List (String × Value)} (h : IsFlawed ms) (c : Config) :
    ¬record.decoder.Reads (.object ms) c := by
  intro hread
  rcases h with hflaw | ⟨vs, ps, hvs, hps, hflaw⟩
  · exact Record.not_reads_of_isFlawed lawful_record hflaw c hread
  · obtain ⟨draft, next, hfield⟩ := Record.exists_reads_member lawful_record hread hvs rfl
    obtain ⟨parsers, hparsers⟩ :=
      Record.exists_of_reads_field (Decoder.sound_list Log.ParserConfig.sound_decoder) hfield
    have hparser := Log.ParserConfig.not_reads_of_isFlawed hflaw
    exact not_reads_array Log.ParserConfig.sound_decoder hps hparser parsers hparsers

/-- What is read of the bytes of a text. -/
theorem ofBytes_encode (text : String) :
    ofBytes (Utf8.encode text) =
      (decodeText record.decoder text.toList).mapError .invalidJson := by
  have hchars : Utf8.decodeWith '\x00' (Utf8.encode text) = text.toList := by
    rw [Utf8.decodeWith, Utf8.decode_encode, List.map_map]
    exact List.map_id _
  rw [ofBytes, hchars]
  cases decodeText record.decoder text.toList <;> rfl

/-- A document of a configuration is read as the configuration, however it is written; a document with
a member that is not known, or with one that stands twice, is refused as a whole. -/
theorem ofBytes_document {ms : List (String × Value)} {text : String}
    (h : Written (.value (.object ms)) text.toList) :
    (∀ c : Config, c.Renders ms → ofBytes (Utf8.encode text) = .ok c) ∧
      (IsFlawed ms → ∃ fault, ofBytes (Utf8.encode text) = .error (.invalidJson fault)) := by
  have hdecode (c : Config) := decodeText_written sound_decoder h (a := c)
  rw [ofBytes_encode]
  constructor
  · intro c hc
    rw [(hdecode c).mpr hc.reads]
    rfl
  · intro hflaw
    cases hread : decodeText record.decoder text.toList with
    | ok c => exact absurd ((hdecode c).mp hread) (not_reads_of_isFlawed hflaw c)
    | error fault => exact ⟨fault, rfl⟩

/-- A source in letters of both cases, one of them escaped, is read; a source that stands twice is
not. -/
theorem ofBytes_document_proc :
    ofBytes (Utf8.encode "\x7b \"source\":\"PR\\u006fc\" ,\"access_dir\":null\x7d") =
        .ok { source := .proc } ∧
      ∃ fault, ofBytes (Utf8.encode "\x7b\"source\":\"a\",\"source\":\"b\"\x7d") =
        .error (.invalidJson fault) := by
  have hsource : Spelled "source".toList "source".toList := spelled_escape "source".toList
  have hdir : Spelled "access_dir".toList "access_dir".toList := spelled_escape "access_dir".toList
  constructor
  · have hproc : Spelled "PRoc".toList "PR\\u006fc".toList :=
      .cons (.plain (by decide) (by decide) (by decide)) <|
      .cons (.plain (by decide) (by decide) (by decide)) <|
      .cons (.unit ['0', '0', '6', 'f'] ⟨by decide, rfl⟩) <|
      .cons (.plain (by decide) (by decide) (by decide)) .nil
    have hvalue : Written (.value (.string "PRoc")) ('"' :: ("PR\\u006fc".toList ++ ['"']) ++ [' ']) :=
      .blank isBlank_nil (.string hproc) (by decide)
    have hdocument : Written
        (.value (.object [("source", .string "PRoc"), ("access_dir", .null)]))
        "\x7b \"source\":\"PR\\u006fc\" ,\"access_dir\":null\x7d".toList :=
      .object (.members (by decide : IsBlank [' ']) hsource isBlank_nil hvalue
        (.member isBlank_nil hdir isBlank_nil .null))
    have hrenders : Renders { source := .proc } [("source", .string "PRoc"), ("access_dir", .null)] :=
      { nodup := by decide
        tells := List.forall_mem_cons.mpr
          ⟨.source rfl, List.forall_mem_singleton.mpr .accessDir⟩
        source := .inl (by decide)
        accessDir := .inr rfl
        reportMasked := .inr rfl
        persistentNotifications := .inr rfl
        logFile := .inr rfl
        readLog := .inr rfl
        firstFullRead := .inr rfl
        messagePatterns := .inr rfl }
    exact (ofBytes_document hdocument).1 _ hrenders
  · have ha : Written (.value (.string "a")) ('"' :: ("a".toList ++ ['"'])) :=
      .string (spelled_escape "a".toList)
    have hb : Written (.value (.string "b")) ('"' :: ("b".toList ++ ['"'])) :=
      .string (spelled_escape "b".toList)
    have hdocument : Written (.value (.object [("source", .string "a"), ("source", .string "b")]))
        "\x7b\"source\":\"a\",\"source\":\"b\"\x7d".toList :=
      .object (.members isBlank_nil hsource isBlank_nil ha
        (.member isBlank_nil hsource isBlank_nil hb))
    exact (ofBytes_document hdocument).2 (.inl (.inr (by decide)))

end Documents

end Config

end AerWatch
