import Bacnet.Proofs.Bounds.Reading
import Bacnet.Proofs.Registry

set_option autoImplicit false

/-! # Replying within bounds

To reply to a request a device looks things up: an object in its slot, an element of an array by its
index. A slot leads to an object because the directories of a device are exact
(`Table.Indexes.entryChecked_eq`), and an index is not zero where one is taken from it. The rest is
an object type that is cut out of an identifier and an empty bit string, which has no bit to set. So
with all operations partial that have bounds, the reply of such a device to every message is still a
reply, and it is the same one (`Device.Indexed.replyToApduChecked_eq`). -/

namespace Bacnet

/-! ## Values -/

namespace BitString

/-- Sets the bit at a place in octets. -/
def setBitChecked (octets : Octets) (place : Nat) : Checked Octets := do
  let octet ← Checked.item octets (place / 8)
  return octets.set (place / 8) (octet ||| 0x80 >>> UInt8.ofNat (place % 8))

/-- The bit string of a list of bits, set one after the other in octets of zeros. -/
def ofBitsChecked (bits : List Bool) : Checked BitString := do
  let zeros := List.replicate ((bits.length + 7) / 8) 0
  let octets ← bits.zipIdx.foldlM (fun octets (bit, place) =>
    if bit then setBitChecked octets place else pure octets) zeros
  return ⟨.ofNat (← Checked.difference (octets.length * 8) bits.length), octets⟩

end BitString

/-- The value that stands for a property that an object lacks. -/
def Schema.emptyValueChecked (s : Schema) (p : PropertyId) : Checked Value :=
  match ((s.spec? p).map (·.datatype)).or (datatype? p) with
  | none => return .null
  | some .bitString => return .bitString (← BitString.ofBitsChecked [])
  | some datatype => return datatype.emptyValue

@[simp] theorem Schema.emptyValueChecked_eq (s : Schema) (p : PropertyId) :
    s.emptyValueChecked p = .ok (s.emptyValue p) := by
  unfold emptyValueChecked emptyValue
  cases ((s.spec? p).map (·.datatype)).or (datatype? p) with
  | none => rfl
  | some datatype =>
      cases datatype with
      | _ => rfl

/-- The object type in the upper ten bits, cut to a word. -/
def ObjectId.objectTypeChecked (id : ObjectId) : Checked ObjectType := do
  return ⟨← Checked.toUInt16 ((id.raw >>> 22) &&& 0x3FF).toNat⟩

/-- Whether this addresses whichever device receives it. -/
def ObjectId.isDeviceWildcardChecked (id : ObjectId) : Checked Bool := do
  return (← id.objectTypeChecked) == .device && id.instanceNumber == wildcardInstance

@[simp] theorem ObjectId.objectTypeChecked_eq (id : ObjectId) :
    id.objectTypeChecked = .ok id.objectType := by
  have hword := id.raw.toNat_lt
  have htype : (id.raw >>> 22).toNat = id.raw.toNat / 2 ^ 22 := by
    rw [UInt32.toNat_shiftRight, Nat.shiftRight_eq_div_pow]
    rfl
  have hlt : (id.raw >>> 22).toNat < 2 ^ 10 := by omega
  have hbits : ((id.raw >>> 22) &&& 0x3FF).toNat = (id.raw >>> 22).toNat := by
    rw [UInt32.toNat_and]
    exact Nat.and_two_pow_sub_one_of_lt_two_pow hlt
  rw [objectTypeChecked, hbits, Checked.toUInt16_of_lt (Nat.lt_trans hlt (by decide))]
  rfl

@[simp] theorem ObjectId.isDeviceWildcardChecked_eq (id : ObjectId) :
    id.isDeviceWildcardChecked = .ok id.isDeviceWildcard := by
  simp [isDeviceWildcardChecked, isDeviceWildcard]

/-- The part of a value that an index asks for. -/
def Value.selectChecked (value : Value) (property : PropertyId) (index : Option UInt32) :
    Checked (Except ReadError Value) :=
  match index with
  | none => return .ok value
  | some index =>
    match value.items? with
    | none => return .error (.notAnArray property)
    | some items => do
      if index = 0 then return .ok (.unsigned (.ofNat (min items.length 0xFFFFFFFF)))
      let place ← Checked.difference index.toNat 1
      match items[place]? with
      | none => return .error (.invalidIndex property index)
      | some item => return .ok item

@[simp] theorem Value.selectChecked_eq (value : Value) (property : PropertyId)
    (index : Option UInt32) :
    value.selectChecked property index = .ok (value.select property index) := by
  cases index with
  | none => rfl
  | some index =>
      unfold selectChecked select
      cases value.items? with
      | none => rfl
      | some items =>
          by_cases hcount : index = 0
          · simp only [if_pos hcount]
            rfl
          have hpos : 1 ≤ index.toNat :=
            Nat.one_le_iff_ne_zero.2 fun h => hcount (UInt32.toNat_inj.1 h)
          simp only [if_neg hcount, Checked.difference_of_le hpos, Checked.ok_bind]
          cases items[index.toNat - 1]? with
          | none => rfl
          | some item => rfl

/-! ## Objects -/

namespace Object

/-- The whole value of a property. -/
def wholeChecked (o : Object) (p : PropertyId) : Checked (Option Value) := do
  if p = .objectIdentifier then return some (.objectId o.id)
  if p = .objectName then return some (.characterString o.name)
  if p = .objectType then return some (.enumerated (← o.id.objectTypeChecked).code.toUInt32)
  if p = .propertyList then return some (.list (o.propertyList.map (.enumerated ·.code)))
  return o.properties.get? p

/-- Reads a property, or the part of it that an index asks for. -/
def readChecked (o : Object) (p : PropertyId) (index : Option UInt32) :
    Checked (Except ReadError Value) := do
  match ← o.wholeChecked p with
  | none => return .error (.unknownProperty p)
  | some value => value.selectChecked p index

@[simp] theorem wholeChecked_eq (o : Object) (p : PropertyId) :
    o.wholeChecked p = .ok (o.whole? p) := by
  unfold wholeChecked whole?
  split_ifs <;> simp

@[simp] theorem readChecked_eq (o : Object) (p : PropertyId) (index : Option UInt32) :
    o.readChecked p index = .ok (o.read p index) := by
  rw [readChecked, read, wholeChecked_eq, Checked.ok_bind]
  cases o.whole? p with
  | none => rfl
  | some value => simp

end Object

/-! ## Devices -/

/-- The entry that a directory leads to, taken out of its slot. -/
def Table.entryChecked {κ α : Type} [DecidableEq κ] (t : Table κ Nat) (as : List α) (key : κ) :
    Checked (Option α) := do
  match t.get? key with
  | none => return none
  | some slot => return some (← Checked.item as slot)

theorem Table.Indexes.entryChecked_eq {κ α : Type} [DecidableEq κ] {t : Table κ Nat} {f : α → κ}
    {as : List α} (h : t.Indexes (as.map f)) (key : κ) :
    t.entryChecked as key = .ok ((t.get? key).bind (as[·]?)) := by
  unfold entryChecked
  cases hslot : t.get? key with
  | none => rfl
  | some slot =>
      obtain ⟨a, ha, -⟩ := h.get?_eq_some_iff.1 hslot
      simp [Checked.item_of_getElem? ha, ha]

/-- A directory that leads behind the last object stops the search. -/
example : (Table.empty.set "T" 0).entryChecked ([] : List Object) "T" = .error .index := rfl

namespace Device

def readChecked (d : Device) (p : PropertyId) (index : Option UInt32) :
    Checked (Except ReadError Value) :=
  if p = .objectList then (Value.list (d.objectList.map .objectId)).selectChecked p index
  else d.object.readChecked p index

/-- The largest APDU that the device says it takes. -/
def maxApduChecked (d : Device) : Checked UInt32 := do
  match ← d.object.readChecked .maxApduLengthAccepted none with
  | .ok (.unsigned octets) => return octets
  | _ => return defaultMaxApdu

/-- The segmentation that the device says it supports. -/
def segmentationChecked (d : Device) : Checked Segmentation := do
  match ← d.object.readChecked .segmentationSupported none with
  | .ok (.enumerated code) => return (Segmentation.ofCode? code).getD .noSegmentation
  | _ => return .noSegmentation

def vendorIdChecked (d : Device) : Checked UInt32 := do
  match ← d.object.readChecked .vendorIdentifier none with
  | .ok (.unsigned vendor) => return vendor
  | _ => return 0

/-- What an identifier addresses. -/
def findChecked (d : Device) (id : ObjectId) : Checked (Option Target) := do
  if id = d.id ∨ (← id.isDeviceWildcardChecked) then return some (.device d)
  return (← d.slotById.entryChecked d.objects id).map .object

/-- The owned object that a question is for. -/
def ownedChecked (d : Device) : Wanted → Checked (Option Object)
  | .byId id => return d.objects.find? (·.id == id)
  | .byName name => d.slotByName.entryChecked d.objects name

@[simp] theorem readChecked_eq (d : Device) (p : PropertyId) (index : Option UInt32) :
    d.readChecked p index = .ok (d.read p index) := by
  unfold readChecked read
  split_ifs <;> simp

@[simp] theorem maxApduChecked_eq (d : Device) : d.maxApduChecked = .ok d.maxApdu := by
  rw [maxApduChecked, maxApdu, Object.readChecked_eq, Checked.ok_bind]
  cases d.object.read .maxApduLengthAccepted none with
  | error e => rfl
  | ok value =>
      cases value with
      | _ => rfl

@[simp] theorem segmentationChecked_eq (d : Device) :
    d.segmentationChecked = .ok d.segmentation := by
  rw [segmentationChecked, segmentation, Object.readChecked_eq, Checked.ok_bind]
  cases d.object.read .segmentationSupported none with
  | error e => rfl
  | ok value =>
      cases value with
      | _ => rfl

@[simp] theorem vendorIdChecked_eq (d : Device) : d.vendorIdChecked = .ok d.vendorId := by
  rw [vendorIdChecked, vendorId, Object.readChecked_eq, Checked.ok_bind]
  cases d.object.read .vendorIdentifier none with
  | error e => rfl
  | ok value =>
      cases value with
      | _ => rfl

section Indexed

variable {d : Device} (h : d.Indexed)

include h

theorem Indexed.findChecked_eq (id : ObjectId) : d.findChecked id = .ok (d.find? id) := by
  simp only [findChecked, find?, ObjectId.isDeviceWildcardChecked_eq, Checked.ok_bind,
    h.ids.entryChecked_eq]
  split_ifs <;> rfl

theorem Indexed.ownedChecked_eq (wanted : Wanted) :
    d.ownedChecked wanted = .ok (d.owned? wanted) := by
  cases wanted with
  | byId id => rfl
  | byName name => exact h.names.entryChecked_eq name

end Indexed

end Device

/-! ## Reading -/

namespace Target

def readChecked (t : Target) (p : PropertyId) (index : Option UInt32) :
    Checked (Except ReadError Value) :=
  match t with
  | device d => d.readChecked p index
  | object o => o.readChecked p index

/-- The value of a property, or the empty value if the target lacks the property. -/
def readOrEmptyChecked (t : Target) (p : PropertyId) (index : Option UInt32) :
    Checked (Except ReadError Value) := do
  match ← t.readChecked p index with
  | .error (.unknownProperty q) => return .ok (← t.schema.emptyValueChecked q)
  | outcome => return outcome

/-- What comes of reading a property; nothing if the target lacks it. -/
def elementChecked (t : Target) (ref : PropertyReference) : Checked (Option AccessElement) := do
  match ← t.readChecked ref.property ref.index with
  | .ok value => return some ⟨ref, .ok value⟩
  | .error (.unknownProperty _) => return none
  | .error e => return some ⟨ref, .error (.ofCodes e.errorClass e.errorCode)⟩

/-- What comes of reading all that references stand for. -/
def elementsChecked (t : Target) (refs : List PropertyReference) :
    Checked (List AccessElement) := do
  return (← (refs.flatMap t.expand).mapM t.elementChecked).filterMap fun element? => element?

@[simp] theorem readChecked_eq (t : Target) (p : PropertyId) (index : Option UInt32) :
    t.readChecked p index = .ok (t.read p index) := by
  cases t with
  | device d => exact d.readChecked_eq p index
  | object o => exact o.readChecked_eq p index

@[simp] theorem readOrEmptyChecked_eq (t : Target) (p : PropertyId) (index : Option UInt32) :
    t.readOrEmptyChecked p index = .ok (t.readOrEmpty p index) := by
  rw [readOrEmptyChecked, readOrEmpty, readChecked_eq, Checked.ok_bind]
  cases t.read p index with
  | ok value => rfl
  | error e =>
      cases e with
      | unknownProperty q => simp
      | _ => rfl

@[simp] theorem elementChecked_eq (t : Target) (ref : PropertyReference) :
    t.elementChecked ref = .ok (t.element? ref) := by
  rw [elementChecked, element?, readChecked_eq, Checked.ok_bind]
  cases t.read ref.property ref.index with
  | ok value => rfl
  | error e =>
      cases e with
      | _ => rfl

@[simp] theorem elementsChecked_eq (t : Target) (refs : List PropertyReference) :
    t.elementsChecked refs = .ok (t.elements refs) := by
  rw [elementsChecked, Checked.mapM_eq fun ref _ => t.elementChecked_eq ref, Checked.ok_bind,
    List.filterMap_map, List.filterMap_flatMap]
  rfl

end Target

/-! ## Replies -/

namespace Device

def iAmChecked (d : Device) : Checked IAm := do
  return ⟨d.id, ← d.maxApduChecked, (← d.segmentationChecked).code, ← d.vendorIdChecked⟩

def replyToWhoIsChecked (d : Device) (q : WhoIs) : Checked Reply := do
  if q.admits d.instanceNumber then return .iAm (← d.iAmChecked) else return .silence

def replyToWhoHasChecked (d : Device) (q : WhoHas) : Checked Reply := do
  if q.admits d.instanceNumber then
    return (← d.ownedChecked q.wanted).elim .silence (.iHave <| d.iHave ·)
  else return .silence

/-- What comes of a question about one of several objects. -/
def accessChecked (d : Device) (spec : AccessSpec) : Checked AccessResult := do
  match ← d.findChecked spec.objectId with
  | some target => return ⟨target.id, ← target.elementsChecked spec.references⟩
  | none => return ⟨spec.objectId, spec.references.map (⟨·, .error unknownObject⟩)⟩

def replyToReadPropertyChecked (d : Device) (requester : Requester) (q : ReadProperty) :
    Checked Reply := do
  match ← d.findChecked q.objectId with
  | none => return .errorOf requester ReadProperty.service .object .unknownObject
  | some target =>
    match ← target.readOrEmptyChecked q.property q.index with
    | .ok value =>
      return .readPropertyAck requester target.ownedName? ⟨{ q with objectId := target.id }, value⟩
    | .error e => return .errorOf requester ReadProperty.service e.errorClass e.errorCode

def replyToReadPropertyMultipleChecked (d : Device) (requester : Requester)
    (q : ReadPropertyMultiple) : Checked Reply := do
  return .readPropertyMultipleAck requester ⟨← q.specs.mapM d.accessChecked⟩

/-- The reply of a device to a request. -/
def replyChecked (d : Device) (config : Config) (indication : Indication) : Checked Reply :=
  match indication.request, indication.requester with
  | .whoIs q, _ => d.replyToWhoIsChecked q
  | .whoHas q, _ => d.replyToWhoHasChecked q
  | .readProperty q, some requester => d.replyToReadPropertyChecked requester q
  | .readPropertyMultiple q, some requester => d.replyToReadPropertyMultipleChecked requester q
  | .unsupported _, some requester =>
    if config.rejectUnrecognized then
      return .reject ⟨requester.invokeId, RejectReason.unrecognizedService.code.toUInt8⟩
    else return .silence
  | .readProperty _, none | .readPropertyMultiple _, none | .unsupported _, none =>
    return .silence

/-- The reply of a device to the message behind a header. -/
def replyToApduChecked (d : Device) (config : Config) (header : Npdu) (apdu : Octets) :
    Checked Reply := do
  match ← Indication.read? header apdu with
  | none => return .silence
  | some indication => d.replyChecked config indication

@[simp] theorem replyToWhoIsChecked_eq (d : Device) (q : WhoIs) :
    d.replyToWhoIsChecked q = .ok (d.replyToWhoIs q) := by
  unfold replyToWhoIsChecked replyToWhoIs
  split_ifs
  · simp [iAmChecked, iAm]
  · rfl

namespace Indexed

variable {d : Device} (h : d.Indexed)

include h

theorem replyToWhoHasChecked_eq (q : WhoHas) :
    d.replyToWhoHasChecked q = .ok (d.replyToWhoHas q) := by
  unfold replyToWhoHasChecked replyToWhoHas
  split_ifs
  · rw [h.ownedChecked_eq]
    rfl
  · rfl

theorem accessChecked_eq (spec : AccessSpec) : d.accessChecked spec = .ok (d.access spec) := by
  rw [accessChecked, access, h.findChecked_eq, Checked.ok_bind]
  cases d.find? spec.objectId with
  | none => rfl
  | some target => simp

theorem replyToReadPropertyChecked_eq (requester : Requester) (q : ReadProperty) :
    d.replyToReadPropertyChecked requester q = .ok (d.replyToReadProperty requester q) := by
  rw [replyToReadPropertyChecked, replyToReadProperty, h.findChecked_eq, Checked.ok_bind]
  cases d.find? q.objectId with
  | none => rfl
  | some target =>
      simp only [Target.readOrEmptyChecked_eq, Checked.ok_bind]
      cases target.readOrEmpty q.property q.index with
      | ok value => rfl
      | error e => rfl

theorem replyToReadPropertyMultipleChecked_eq (requester : Requester) (q : ReadPropertyMultiple) :
    d.replyToReadPropertyMultipleChecked requester q
      = .ok (d.replyToReadPropertyMultiple requester q) := by
  rw [replyToReadPropertyMultipleChecked, Checked.mapM_eq fun spec _ => h.accessChecked_eq spec]
  rfl

theorem replyChecked_eq (config : Config) (indication : Indication) :
    d.replyChecked config indication = .ok (d.reply config indication) := by
  obtain ⟨requester, request⟩ := indication
  cases request with
  | whoIs q => exact d.replyToWhoIsChecked_eq q
  | whoHas q => exact h.replyToWhoHasChecked_eq q
  | readProperty q =>
      cases requester with
      | none => rfl
      | some requester => exact h.replyToReadPropertyChecked_eq requester q
  | readPropertyMultiple q =>
      cases requester with
      | none => rfl
      | some requester => exact h.replyToReadPropertyMultipleChecked_eq requester q
  | unsupported service =>
      cases requester with
      | none => rfl
      | some requester =>
          unfold replyChecked reply
          dsimp only
          split_ifs <;> rfl

theorem replyToApduChecked_eq (config : Config) (header : Npdu) (apdu : Octets) :
    d.replyToApduChecked config header apdu = .ok (d.replyToApdu config header apdu) := by
  rw [replyToApduChecked, replyToApdu, Indication.read?_eq, Checked.ok_bind]
  cases Indication.ofApdu? header apdu with
  | none => rfl
  | some indication => exact h.replyChecked_eq config indication

end Indexed

end Device

end Bacnet
