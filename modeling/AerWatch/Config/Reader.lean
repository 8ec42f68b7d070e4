import AerWatch.Config
import AerWatch.Json.Decoder

/-!
# Reading a configuration

A configuration is written as a JSON object, or as an array of its members in their order. Members
that are left out have their default; a member that is not known, or stands twice, is a fault.
-/

namespace AerWatch

open Json

/-- A member of a record that keeps its value in one place of the draft. -/
def Json.Member.field {δ α : Type} (name : String) (required : Bool) (get : δ → Option α)
    (put : δ → α → δ) (d : Decoder α) : Member δ where
  name
  required
  isSet draft := (get draft).isSome
  read draft ts := (d ts).map fun (a, rest) => (put draft a, rest)

namespace Log

/-- The members of a pattern that were read. -/
structure FieldPattern.Draft where
  name : Option String := none
  regex : Option String := none
  submatch : Option Nat := none
  exclude : Option (Option String) := none
  mandatory : Option Bool := none

/-- How a pattern is read. -/
def FieldPattern.record : Record FieldPattern.Draft FieldPattern where
  title := "struct MessagePattern"
  empty := {}
  members :=
    [.field "name" true (·.name) (fun d a => { d with name := some a }) .string,
     .field "regex" true (·.regex) (fun d a => { d with regex := some a }) .string,
     .field "submatch_idx" false (·.submatch) (fun d a => { d with submatch := some a }) .size,
     .field "exclude_regex" false (·.exclude) (fun d a => { d with exclude := some a })
      (.optional .string),
     .field "is_mandatory" false (·.mandatory) (fun d a => { d with mandatory := some a }) .bool]
  finish d := do
    return {
      name := ← d.name
      regex := ← d.regex
      submatch := d.submatch.getD 1
      exclude := d.exclude.join
      mandatory := d.mandatory.getD false }

/-- The members of a parser that were read. -/
structure ParserConfig.Draft where
  name : Option String := none
  patterns : Option (List FieldPattern) := none

/-- How a parser is read. -/
def ParserConfig.record : Record ParserConfig.Draft ParserConfig where
  title := "struct ParserConfig"
  empty := {}
  members :=
    [.field "name" true (·.name) (fun d a => { d with name := some a }) .string,
     .field "matches" true (·.patterns) (fun d a => { d with patterns := some a })
      (.list FieldPattern.record.decoder)]
  finish d := do
    return { name := ← d.name, patterns := ← d.patterns }

end Log

namespace Config

/-- The members of a configuration that were read. -/
structure Draft where
  source : Option Source := none
  accessDir : Option (Option String) := none
  reportMasked : Option Bool := none
  persistentNotifications : Option Bool := none
  logFile : Option String := none
  readLog : Option Bool := none
  firstFullRead : Option Bool := none
  messagePatterns : Option (List Log.ParserConfig) := none

/-- The name of a source. -/
def sourceDecoder : Decoder Source := fun ts =>
  (Decoder.string ts).map fun (name, rest) => (.ofName name, rest)

/-- The configuration with the members that were read, and defaults for all others. -/
def ofDraft (d : Draft) : Config :=
  let standard : Config := {}
  { source := d.source.getD standard.source
    accessDir := d.accessDir.getD standard.accessDir
    reportMasked := d.reportMasked.getD standard.reportMasked
    persistentNotifications := d.persistentNotifications.getD standard.persistentNotifications
    logFile := d.logFile.getD standard.logFile
    readLog := d.readLog.getD standard.readLog
    firstFullRead := d.firstFullRead.getD standard.firstFullRead
    messagePatterns := d.messagePatterns.getD standard.messagePatterns }

/-- How a configuration is read. -/
def record : Record Draft Config where
  title := "struct Config"
  empty := {}
  members :=
    [.field "source" false (·.source) (fun d a => { d with source := some a }) sourceDecoder,
     .field "access_dir" false (·.accessDir) (fun d a => { d with accessDir := some a })
      (.optional .path),
     .field "report_masked" false (·.reportMasked) (fun d a => { d with reportMasked := some a })
      .bool,
     .field "persistent_notifications" false (·.persistentNotifications)
      (fun d a => { d with persistentNotifications := some a }) .bool,
     .field "log_file" false (·.logFile) (fun d a => { d with logFile := some a }) .path,
     .field "read_log" false (·.readLog) (fun d a => { d with readLog := some a }) .bool,
     .field "first_full_read" false (·.firstFullRead)
      (fun d a => { d with firstFullRead := some a }) .bool,
     .field "msg_patterns" false (·.messagePatterns)
      (fun d a => { d with messagePatterns := some a }) (.list Log.ParserConfig.record.decoder)]
  finish d := some (ofDraft d)

/-- Reads a configuration. Bytes that form no character are no part of any document, just as a NUL. -/
def ofBytes (bytes : List UInt8) : Except Error Config :=
  match decodeText record.decoder (Utf8.decodeWith '\x00' bytes) with
  | .ok c => .ok c
  | .error fault => .error (.invalidJson fault)

/-- Reads a configuration file. -/
def ofFile (fs : FileSystem) (path : String) : Except Error Config :=
  match fs.readFile path with
  | .ok bytes => ofBytes bytes
  | .error fault => .error (.file fault)

end Config

end AerWatch
