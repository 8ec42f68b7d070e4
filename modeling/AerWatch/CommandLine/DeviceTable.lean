import AerWatch.CommandLine.Command
import AerWatch.Fleet

/-!
# Tables of devices

The devices of a fleet with the offsets of their capability structures, in columns. A text that is
wider than its column pushes the next one on.
-/

namespace AerWatch.CommandLine

/-- A text filled up with blanks on its right side. -/
def column (width : Nat) (text : String) : String := String.ofList (text.toList.rightpad width ' ')

/-- The offset of a structure, or a hyphen in its place. -/
def offsetText : Option UInt16 → String
  | none => "-"
  | some offset => Numeral.hexMarked 5 offset.toNat

/-- A table without borders. -/
def compactTable (fleet : Fleet) : List String :=
  "Device        PCIe   AER  " :: "------------- ------ -----" ::
    fleet.devices.map fun d =>
      column 13 d.address.text ++ " " ++ column 6 (offsetText d.express) ++ " " ++ offsetText d.aer

/-- A row of a table in Markdown. -/
def markdownRow (device express aer : String) : String :=
  "| " ++ column 12 device ++ " | " ++ column 6 express ++ " | " ++ column 6 aer ++ " |"

/-- A table in Markdown. -/
def markdownTable (fleet : Fleet) : List String :=
  let header := markdownRow "Device" "PCIe" "AER"
  header :: String.ofList (List.replicate header.length '-') ::
    fleet.devices.map fun d => markdownRow d.address.text (offsetText d.express) (offsetText d.aer)

/-- The devices of a fleet in a format. -/
def deviceTable (format : ListFormat) (fleet : Fleet) : List String :=
  match format with
  | .compact => compactTable fleet
  | .markdown => markdownTable fleet

end AerWatch.CommandLine
