import Bacnet.Code
import Bacnet.Identifier.PropertyId

set_option autoImplicit false

/-! # Enumerations: names for the codes of enumerated properties -/

namespace Bacnet.Enumeration

/-- The states of a binary quantity. -/
def binaryStates : List (String × UInt32) := [
  ("inactive", 0), ("active", 1)]

/-- The states of an event. -/
def eventStates : List (String × UInt32) := [
  ("normal", 0), ("fault", 1), ("offnormal", 2), ("high-limit", 3), ("low-limit", 4)]

/-- The grades of reliability. -/
def reliabilities : List (String × UInt32) := [
  ("no-fault-detected", 0), ("no-sensor", 1), ("over-range", 2), ("under-range", 3),
  ("open-loop", 4), ("shorted-loop", 5), ("no-output", 6), ("unreliable-other", 7)]

/-- The two polarities. -/
def polarities : List (String × UInt32) := [
  ("normal", 0), ("reverse", 1)]

/-- The states of a device. -/
def systemStates : List (String × UInt32) := [
  ("operational", 0), ("operational-read-only", 1), ("download-required", 2),
  ("download-in-progress", 3), ("non-operational", 4), ("backup-in-progress", 5)]

/-- Units of measurement. -/
def engineeringUnits : List (String × UInt32) := [
  ("square-meters", 0), ("milliamperes", 2), ("amperes", 3), ("volts", 5), ("kilovolts", 6),
  ("hertz", 27), ("percent-relative-humidity", 29), ("watts", 47), ("kilowatts", 48),
  ("pascals", 53), ("kilopascals", 54), ("bars", 55), ("degrees-celsius", 62),
  ("degrees-kelvin", 63), ("degrees-fahrenheit", 64), ("hours", 71), ("minutes", 72),
  ("seconds", 73), ("liters-per-second", 87), ("no-units", 95), ("percent", 98),
  ("revolutions-per-minute", 104), ("cubic-meters-per-hour", 135)]

/-- The names that go with a property. -/
def names (p : PropertyId) : List (String × UInt32) :=
  if p = .presentValue ∨ p = .relinquishDefault then binaryStates
  else if p = .eventState then eventStates
  else if p = .reliability then reliabilities
  else if p = .polarity then polarities
  else if p = .systemStatus then systemStates
  else if p = .units then engineeringUnits
  else []

/-- The code that a name stands for in a property. -/
def code? (p : PropertyId) (name : String) : Option UInt32 :=
  if p = .segmentationSupported then (Segmentation.ofName? name).map (·.code)
  else (names p).lookup name

end Bacnet.Enumeration
