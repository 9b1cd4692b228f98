import InfraDiagram.Document.Value
import InfraDiagram.Text.CharClass

/-!
# Rack units

The height at which a device is mounted, read from whatever its document says about it.

## Main definitions

- `RackUnit.unpositioned` — the unit of a device without a position
- `RackUnit.ofValue?` — a unit as a number or as text
- `RackUnit.start` — the lowest unit of a device
-/

namespace InfraDiagram.RackUnit

open Text

/-- The unit of devices without a position. No rack is that tall, and devices at this unit stand
    below all positioned ones. -/
def unpositioned : Nat := 9999

def greatest : Nat := 4294967295

/-- The unit in the digits at the beginning of a text, white space in front of them aside. -/
def leading? (s : String) : Option Nat :=
  let digits := (s.toList.dropWhile isSpace).takeWhile isAsciiDigit
  if digits.isEmpty then none
  else if natOfDigits digits ≤ greatest then some (natOfDigits digits)
  else none

/-- A unit: an integer, a fraction rounded down, or the digits at the beginning of a text. What
    is below zero or above the greatest unit is none. -/
def ofValue? : Value → Option Nat
  | .number (.int i) => if 0 ≤ i ∧ i ≤ greatest then some i.toNat else none
  | .number (.float x) => if x.isWithin greatest then x.floor? else none
  | .text s => leading? s
  | _ => none

def ofRange? (device : Mapping) : Option Nat :=
  let range := (device.get? "positionRange").or (device.get? "position_range")
  (range.bind Value.list?).bind fun items => items.head?.bind ofValue?

def ofPosition? (device : Mapping) : Option Nat :=
  ((device.get? "position").bind Value.mapping?).bind fun p => (p.get? "unit").bind ofValue?

/-- The lowest unit of a device: from its range, else from its position. -/
def start (device : Mapping) : Nat :=
  ((ofRange? device).or (ofPosition? device)).getD unpositioned

end InfraDiagram.RackUnit
