import Bacnet.Proofs.Template.Properties
import Bacnet.Responder

set_option autoImplicit false

/-! # Devices that answer alike

Two tables can hold the same values in different orders. No answer shows the order: an object is
read value by value, and the properties that it shows stand in the order of its schema. So devices
with the same objects, up to the order of their values, answer every datagram alike
(`Device.Alike.process_eq`). -/

namespace Bacnet

namespace Object

/-- Objects that differ in nothing but the order of their values. -/
structure Alike (o o' : Object) : Prop extends o.SameIdentity o' where
  get? : ∀ p, o'.properties.get? p = o.properties.get? p

namespace Alike

variable {o o' : Object} (h : o.Alike o')

include h

theorem lists_eq (p : PropertyId) : o'.lists p = o.lists p := by
  rw [lists, lists, Table.contains, Table.contains, h.get?]

theorem propertyList_eq : o'.propertyList = o.propertyList := by
  rw [propertyList, propertyList, h.schema, funext h.lists_eq]

theorem whole?_eq (p : PropertyId) : o'.whole? p = o.whole? p := by
  rw [whole?, whole?, h.id, h.name, h.propertyList_eq, h.get?]

theorem read_eq (p : PropertyId) (index : Option UInt32) : o'.read p index = o.read p index := by
  rw [read, read, h.whole?_eq]

end Alike

end Object

namespace Device

/-- Devices that differ in nothing but the order of values, and whose directories are exact. -/
structure Alike (d d' : Device) : Prop where
  object : d.object.Alike d'.object
  objects : List.Forall₂ Object.Alike d.objects d'.objects
  indexed : d.Indexed
  indexed' : d'.Indexed

end Device

/-- Targets of the same kind that differ in nothing but the order of values. -/
inductive Target.Alike : Target → Target → Prop
  | device {d d' : Device} (h : d.Alike d') : Alike (.device d) (.device d')
  | object {o o' : Object} (h : o.Alike o') : Alike (.object o) (.object o')

namespace Device.Alike

variable {d d' : Device} (h : d.Alike d')

include h

/-! ## Finding -/

theorem id_eq : d'.id = d.id := h.object.id

theorem objectList_eq : d'.objectList = d.objectList := by
  have hids : d.objects.map (·.id) = d'.objects.map (·.id) :=
    map_eq_map_of_forall₂ (fun _ _ ho => ho.id.symm) h.objects
  rw [objectList, objectList, h.id_eq, hids]

/-- An identifier leads to targets that are alike, or in both devices to nothing. -/
theorem rel_find? (id : ObjectId) : Option.Rel Target.Alike (d.find? id) (d'.find? id) := by
  have hkey : ∀ o o', Object.Alike o o' → (o.id == id) = (o'.id == id) := by
    intro o o' ho
    rw [ho.id]
  rw [h.indexed.find?_eq, h.indexed'.find?_eq, h.id_eq]
  split_ifs
  · exact .some (.device h)
  · have hfind := rel_find?_of_forall₂ hkey h.objects
    generalize d.objects.find? _ = o, d'.objects.find? _ = o' at hfind
    cases hfind with
    | none => exact .none
    | some ho => exact .some (.object ho)

theorem rel_owned? (wanted : Wanted) :
    Option.Rel Object.Alike (d.owned? wanted) (d'.owned? wanted) := by
  cases wanted with
  | byId id =>
      refine rel_find?_of_forall₂ (fun o o' ho => ?_) h.objects
      rw [ho.id]
  | byName name =>
      rw [owned?, owned?, h.indexed.findByName?_eq_find?, h.indexed'.findByName?_eq_find?]
      refine rel_find?_of_forall₂ (fun o o' ho => ?_) h.objects
      rw [ho.name]

/-! ## Reading -/

theorem read_eq (p : PropertyId) (index : Option UInt32) : d'.read p index = d.read p index := by
  rw [read, read, h.objectList_eq, h.object.read_eq]

end Device.Alike

namespace Target.Alike

variable {t t' : Target} (h : t.Alike t')

include h

theorem id_eq : t'.id = t.id := by
  cases h with
  | device hd => exact hd.object.id
  | object ho => exact ho.id

theorem schema_eq : t'.schema = t.schema := by
  cases h with
  | device hd => exact hd.object.schema
  | object ho => exact ho.schema

theorem ownedName?_eq : t'.ownedName? = t.ownedName? := by
  cases h with
  | device hd => rfl
  | object ho => exact congrArg some ho.name

theorem read_eq (p : PropertyId) (index : Option UInt32) : t'.read p index = t.read p index := by
  cases h with
  | device hd => exact hd.read_eq p index
  | object ho => exact ho.read_eq p index

theorem readOrEmpty_eq (p : PropertyId) (index : Option UInt32) :
    t'.readOrEmpty p index = t.readOrEmpty p index := by
  rw [readOrEmpty, readOrEmpty, h.read_eq, h.schema_eq]

theorem elements_eq (refs : List PropertyReference) : t'.elements refs = t.elements refs := by
  have helement : ∀ ref, t'.element? ref = t.element? ref := by
    intro ref
    rw [element?, element?, h.read_eq]
  have hexpand : ∀ ref, t'.expand ref = t.expand ref := by
    intro ref
    rw [expand, expand, h.schema_eq]
  rw [elements, elements, funext helement]
  simp only [hexpand]

end Target.Alike

namespace Device.Alike

variable {d d' : Device} (h : d.Alike d')

include h

/-! ## Replies -/

theorem replyToReadProperty_eq (requester : Requester) (q : ReadProperty) :
    d'.replyToReadProperty requester q = d.replyToReadProperty requester q := by
  unfold replyToReadProperty
  have hfind := h.rel_find? q.objectId
  generalize d.find? q.objectId = target, d'.find? q.objectId = target' at hfind
  cases hfind with
  | none => rfl
  | some htarget => simp only [htarget.readOrEmpty_eq, htarget.ownedName?_eq, htarget.id_eq]

theorem access_eq (spec : AccessSpec) : d'.access spec = d.access spec := by
  unfold access
  have hfind := h.rel_find? spec.objectId
  generalize d.find? spec.objectId = target, d'.find? spec.objectId = target' at hfind
  cases hfind with
  | none => rfl
  | some htarget => simp only [htarget.elements_eq, htarget.id_eq]

theorem iAm_eq : d'.iAm = d.iAm := by
  simp only [iAm, h.id_eq, maxApdu, segmentation, vendorId, h.object.read_eq]

theorem replyToWhoHas_eq (q : WhoHas) : d'.replyToWhoHas q = d.replyToWhoHas q := by
  rw [replyToWhoHas, replyToWhoHas, instanceNumber, instanceNumber, h.id_eq]
  split_ifs
  · have howned := h.rel_owned? q.wanted
    generalize d.owned? q.wanted = o, d'.owned? q.wanted = o' at howned
    cases howned with
    | none => rfl
    | some ho =>
        rw [Option.elim_some, Option.elim_some, iHave, iHave, h.id_eq, ho.id, ho.name]
  · rfl

theorem reply_eq (config : Config) (indication : Indication) :
    d'.reply config indication = d.reply config indication := by
  have hwhoIs : ∀ q, d'.replyToWhoIs q = d.replyToWhoIs q := by
    intro q
    rw [replyToWhoIs, replyToWhoIs, instanceNumber, instanceNumber, h.id_eq, h.iAm_eq]
  have hmultiple : ∀ requester q, d'.replyToReadPropertyMultiple requester q
      = d.replyToReadPropertyMultiple requester q := by
    intro requester q
    rw [replyToReadPropertyMultiple, replyToReadPropertyMultiple, funext h.access_eq]
  unfold reply
  simp only [hwhoIs, h.replyToWhoHas_eq, h.replyToReadProperty_eq, hmultiple]

/-- Devices that differ in nothing but the order of values answer every datagram alike. -/
theorem process_eq (config : Config) (datagram : Octets) (source : Endpoint) :
    (Responder.mk d' config).process datagram source
      = (Responder.mk d config).process datagram source := by
  unfold Responder.process
  simp only [replyToApdu, funext (h.reply_eq config)]

end Device.Alike

end Bacnet
