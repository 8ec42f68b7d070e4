import AerWatch.Address
import AerWatch.Json.Fault
import AerWatch.Regex.Fault

/-!
# Errors

The ways in which a configuration can be refused, a device or a log file can be out of reach and a
poll cycle can fail. An error carries its cause; `Error.message` is its wording.
-/

namespace AerWatch

/-- Why the platform refused an operation on a file. -/
inductive FileFault where
  | notFound
  | notDirectory
  | isDirectory
  | nameTooLong
  | nulInName
  | invalidUtf8
  | other (text : String)
deriving DecidableEq

/-- The platform's wording. -/
def FileFault.message : FileFault → String
  | notFound => "No such file or directory (os error 2)"
  | notDirectory => "Not a directory (os error 20)"
  | isDirectory => "Is a directory (os error 21)"
  | nameTooLong => "File name too long (os error 36)"
  | nulInName => "file name contained an unexpected NUL byte"
  | invalidUtf8 => "stream did not contain valid UTF-8"
  | other text => text

/-- The errors of the monitor. -/
inductive Error where
  | invalidConfig (reason : String)
  | noDataSource
  | deviceListUnavailable (path : String) (cause : FileFault)
  | noDevicesFound (path : String)
  | invalidDeviceAddress (text : String)
  | openFailed (address : Address) (cause : FileFault)
  | readFailed (address : Address) (offset : UInt16) (cause : FileFault)
  | shortRead (address : Address) (offset : UInt16) (expected actual : Nat)
  | invalidPattern (parser pattern : String) (fault : Regex.Fault)
  | logRead (path : String) (cause : FileFault)
  | cycleFailed (count : Nat)
  | invalidJson (fault : Json.Fault)
  | file (cause : FileFault)
deriving DecidableEq

namespace Error

/-- A configured parser must have a name, by which its errors are reported. -/
def parserWithoutName : Error := .invalidConfig "parser without name"

/-- A parser needs a pattern that begins its messages. -/
def parserWithoutPatterns (parser : String) : Error :=
  .invalidConfig (parser ++ " parser has no patterns")

/-- Devices were asked for, but the configuration names no way to reach them. -/
def pollingDisabled : Error := .invalidConfig "device polling disabled for Other"

/-- The wording of an error. -/
def message : Error → String
  | invalidConfig reason => "Invalid configuration: " ++ reason
  | noDataSource => "Not configured for any source of data"
  | deviceListUnavailable path cause =>
    "Cannot get devices list from " ++ path ++ ": " ++ cause.message
  | noDevicesFound path => "No PCIe devices found in " ++ path
  | invalidDeviceAddress text => "Invalid device address: " ++ text
  | openFailed address cause => address.text ++ ": failed to open: " ++ cause.message
  | readFailed address offset cause =>
    "Failed to read " ++ address.text ++ " at pos " ++ Numeral.hexMarked 0 offset.toNat ++ ": " ++
      cause.message
  | shortRead address offset expected actual =>
    address.text ++ ": read only " ++ toString actual ++ " bytes at pos " ++
      Numeral.hexMarked 0 offset.toNat ++ ", should be " ++ toString expected
  | invalidPattern parser pattern fault =>
    "Invalid regex in " ++ parser ++ " parser, pattern " ++ pattern ++ ": " ++ fault.message
  | logRead path cause => "Failed to read from log file " ++ path ++ ": " ++ cause.message
  | cycleFailed count => "Failed to read the state of " ++ toString count ++ " device(s)"
  | invalidJson fault => "Invalid JSON file: " ++ fault.message
  | file cause => "Encountered IO error: " ++ cause.message

end Error

/-- Reads a written address, or reports the text that is none. -/
def Address.parse (s : String) : Except Error Address :=
  match Address.parse? s with
  | some a => .ok a
  | none => .error (.invalidDeviceAddress s)

/-- A computation that succeeds is made of steps that do. -/
theorem bind_eq_ok {ε α β : Type} {x : Except ε α} {f : α → Except ε β} {b : β} :
    x >>= f = .ok b ↔ ∃ a, x = .ok a ∧ f a = .ok b := by
  cases x <;> simp [bind, Except.bind]

/-- A computation fails in its first step, or in what comes after it. -/
theorem bind_eq_error {ε α β : Type} {x : Except ε α} {f : α → Except ε β} {e : ε} :
    x >>= f = .error e ↔ x = .error e ∨ ∃ a, x = .ok a ∧ f a = .error e := by
  cases x <;> simp [bind, Except.bind]

/-- A test that only a success can pass tells that there was one. -/
theorem exists_of_any {ε α : Type} {result : Except ε α} {p : α → Bool}
    (h : result.toOption.any p) : ∃ a, result = .ok a ∧ p a := by
  cases result with
  | error e => simp [Except.toOption] at h
  | ok a => exact ⟨a, rfl, h⟩

end AerWatch
