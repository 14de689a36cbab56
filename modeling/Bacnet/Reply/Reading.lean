import Bacnet.Device
import Bacnet.Reply

set_option autoImplicit false

/-! # Reading: what a device says about its properties

A question for one property is met with its value or with an error. A property that the object
lacks is acknowledged with the empty value of its datatype: scanners ask for every property that a
type may have, and take an error for a fault of the device.

A question for many properties is always acknowledged; what fails, fails element by element, and a
property that the object lacks is left out. A selector stands for all properties of a kind. -/

namespace Bacnet

namespace Target

/-- The name of a target that is an owned object. -/
def ownedName? : Target → Option String
  | device _ => none
  | object o => some o.name

/-- The value of a property, or the empty value if the target lacks the property. -/
def readOrEmpty (t : Target) (p : PropertyId) (index : Option UInt32) : Except ReadError Value :=
  match t.read p index with
  | .error (.unknownProperty q) => .ok (t.schema.emptyValue q)
  | outcome => outcome

/-! ## Elements -/

/-- What comes of reading a property; nothing if the target lacks it. -/
def element? (t : Target) (ref : PropertyReference) : Option AccessElement :=
  match t.read ref.property ref.index with
  | .ok value => some ⟨ref, .ok value⟩
  | .error (.unknownProperty _) => none
  | .error e => some ⟨ref, .error (.ofCodes e.errorClass e.errorCode)⟩

/-- Whether a selector stands for a property: the list of the properties is never meant. -/
def selects (selector : PropertyId) (spec : PropertySpec) : Bool :=
  spec.property != .propertyList &&
    if selector = .required then spec.required
    else if selector = .optional then !spec.required
    else true

/-- What a reference stands for: the properties that its selector selects, in the order of the
    schema, or the property itself. -/
def expand (t : Target) (ref : PropertyReference) : List PropertyReference :=
  if ref.property.isSelector then
    (t.schema.specs.filter (selects ref.property)).map (⟨·.property, none⟩)
  else [ref]

/-- What comes of reading all that references stand for. -/
def elements (t : Target) (refs : List PropertyReference) : List AccessElement :=
  refs.flatMap fun ref => (t.expand ref).filterMap t.element?

end Target

namespace Device

/-- The error of an object that is not there. -/
def unknownObject : AccessError := .ofCodes .object .unknownObject

/-- What comes of a question about one of several objects. -/
def access (d : Device) (spec : AccessSpec) : AccessResult :=
  match d.find? spec.objectId with
  | some target => ⟨target.id, target.elements spec.references⟩
  | none => ⟨spec.objectId, spec.references.map (⟨·, .error unknownObject⟩)⟩

/-! ## Replies -/

/-- The reply to a question for one property. -/
def replyToReadProperty (d : Device) (requester : Requester) (q : ReadProperty) : Reply :=
  match d.find? q.objectId with
  | none => .errorOf requester ReadProperty.service .object .unknownObject
  | some target =>
    match target.readOrEmpty q.property q.index with
    | .ok value =>
      .readPropertyAck requester target.ownedName? ⟨{ q with objectId := target.id }, value⟩
    | .error e => .errorOf requester ReadProperty.service e.errorClass e.errorCode

/-- The reply to a question for many properties. -/
def replyToReadPropertyMultiple (d : Device) (requester : Requester) (q : ReadPropertyMultiple) :
    Reply :=
  .readPropertyMultipleAck requester ⟨q.specs.map d.access⟩

end Device

end Bacnet
