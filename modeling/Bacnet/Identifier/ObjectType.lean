set_option autoImplicit false

/-! # Object types

An object type is its code. The standard types have a hyphenated name besides, which is how
templates, messages and summaries call them; every other type is called by its code. -/

namespace Bacnet

/-- A type of BACnet objects, standard or of a vendor. -/
structure ObjectType where
  code : UInt16
deriving DecidableEq, Repr, Hashable

namespace ObjectType

/-! ## The standard types -/

def analogInput : ObjectType := ⟨0⟩

def analogOutput : ObjectType := ⟨1⟩

def analogValue : ObjectType := ⟨2⟩

def binaryInput : ObjectType := ⟨3⟩

def binaryOutput : ObjectType := ⟨4⟩

def binaryValue : ObjectType := ⟨5⟩

def device : ObjectType := ⟨8⟩

def multiStateInput : ObjectType := ⟨13⟩

def multiStateOutput : ObjectType := ⟨14⟩

/-- Quantities with numbered states in the memory of a device. -/
def multiStateValue : ObjectType := ⟨19⟩

/-- The names of the standard types, in the order of their codes. -/
def standard : List (ObjectType × String) := [
  (analogInput, "analog-input"),
  (analogOutput, "analog-output"),
  (analogValue, "analog-value"),
  (binaryInput, "binary-input"),
  (binaryOutput, "binary-output"),
  (binaryValue, "binary-value"),
  (⟨6⟩, "calendar"),
  (⟨7⟩, "command"),
  (device, "device"),
  (⟨9⟩, "event-enrollment"),
  (⟨10⟩, "file"),
  (⟨11⟩, "group"),
  (⟨12⟩, "loop"),
  (multiStateInput, "multi-state-input"),
  (multiStateOutput, "multi-state-output"),
  (⟨15⟩, "notification-class"),
  (⟨16⟩, "program"),
  (⟨17⟩, "schedule"),
  (⟨18⟩, "averaging"),
  (multiStateValue, "multi-state-value"),
  (⟨20⟩, "trend-log")]

/-! ## Names -/

def name? (t : ObjectType) : Option String := standard.lookup t

def ofName? (name : String) : Option ObjectType :=
  (standard.find? (·.2 == name)).map (·.1)

/-- What a type is called: by its name, or else by its code. -/
def label (t : ObjectType) : String :=
  t.name?.getD ("object-type-" ++ toString t.code.toNat)

theorem ofName?_name : ∀ entry ∈ standard, ofName? entry.2 = some entry.1 := by decide

theorem name?_of_mem : ∀ entry ∈ standard, name? entry.1 = some entry.2 := by decide

end ObjectType

end Bacnet
