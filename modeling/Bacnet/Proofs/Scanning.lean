import Bacnet.Proofs.Elements
import Bacnet.Proofs.Reading
import Bacnet.Proofs.Template.Acceptance
import Mathlib.Data.Fintype.Card

set_option autoImplicit false

/-! # What a scanner finds

A scanner asks which device has an object, reads the list of the objects of a device, and asks each
object that is listed what it is. In a device that is built all three say the same about every
object (`Device.Presents`), and what is not listed is not there (`Template.scanned_of_build`). The
list starts with the device, so an object stands two further on than where it was registered. No
index is cut: the identifiers differ, and none of them is the one that every device answers to, so
there are fewer of them than there are words (`Device.Indexed.length_objectList_lt`). -/

namespace Bacnet

/-! ## Identifiers -/

theorem ObjectId.length_le_of_nodup {ids : List ObjectId} (h : ids.Nodup) :
    ids.length ≤ 0x100000000 := by
  have hinjective : Function.Injective fun id : ObjectId => id.raw.toFin := by
    intro id id' hraw
    exact congrArg ObjectId.mk (UInt32.toFin_inj.1 hraw)
  have hlength := (h.map hinjective).length_le_card
  rwa [List.length_map, Fintype.card_fin] at hlength

/-- No object is said to have the identifier that every device answers to. -/
theorem Object.Follows.isDeviceWildcard_id {o : Object} {s : Schema} {records : List Record}
    (h : o.Follows s records) : o.id.isDeviceWildcard = false := by
  obtain ⟨n, hn, hid⟩ := Option.map_eq_some_iff.1 h.id
  obtain ⟨setting, -, hinstance⟩ := Option.bind_eq_some_iff.1 hn
  rw [← hid]
  exact ObjectId.isDeviceWildcard_ofParts_of_lt (Setting.toOwnInstance?_eq_some_iff.1 hinstance).2

/-! ## What is found -/

namespace Device

/-- What a device says about an object that it owns at a place. -/
structure Presents (d : Device) (k : Nat) (o : Object) : Prop where
  hasId : ∀ range, DeviceRange.admits range d.instanceNumber = true →
    d.replyToWhoHas ⟨range, .byId o.id⟩ = .iHave ⟨d.id, o.id, o.name⟩
  hasName : ∀ range, DeviceRange.admits range d.instanceNumber = true →
    d.replyToWhoHas ⟨range, .byName o.name⟩ = .iHave ⟨d.id, o.id, o.name⟩
  index_lt : k + 2 < 0x100000000
  listed : ∀ id, id = d.id ∨ id.isDeviceWildcard = true →
    d.Tells id (.device d) .objectList (some (.ofNat (k + 2))) (.objectId o.id)
  identifier : d.Tells o.id (.object o) .objectIdentifier none (.objectId o.id)
  name : d.Tells o.id (.object o) .objectName none (.characterString o.name)
  type : d.Tells o.id (.object o) .objectType none (.enumerated o.id.objectType.code.toUInt32)

/-- What a scanner finds in a device: itself, the objects that it owns, and nothing else. -/
structure Scanned (d : Device) : Prop where
  count_lt : d.objects.length + 1 < 0x100000000
  count : ∀ id, id = d.id ∨ id.isDeviceWildcard = true →
    d.Tells id (.device d) .objectList (some 0) (.unsigned (.ofNat (d.objects.length + 1)))
  self : ∀ id, id = d.id ∨ id.isDeviceWildcard = true →
    d.Tells id (.device d) .objectList (some 1) (.objectId d.id)
  presents : ∀ k o, d.objects[k]? = some o → d.Presents k o
  missing : ∀ id, id ∉ d.objectList → id.isDeviceWildcard = false → ∀ requester p index,
    d.replyToReadProperty requester ⟨id, p, index⟩
      = .errorOf requester ReadProperty.service .object .unknownObject

variable {d : Device} {id : ObjectId} {o : Object} {k : Nat}

theorem tells_objectList {index : Option UInt32} {v : Value}
    (hid : id = d.id ∨ id.isDeviceWildcard = true)
    (h : (Value.list (d.objectList.map .objectId)).select .objectList index = .ok v) :
    d.Tells id (.device d) .objectList index v :=
  d.tells_of_read (if_pos hid) h

theorem tells_objectList_succ (hlength : d.objectList.length < 0x100000000)
    (hid : id = d.id ∨ id.isDeviceWildcard = true) {listed : ObjectId}
    (hk : d.objectList[k]? = some listed) :
    d.Tells id (.device d) .objectList (some (.ofNat (k + 1))) (.objectId listed) := by
  have hlt : k < d.objectList.length := (List.getElem?_eq_some_iff.1 hk).1
  refine tells_objectList hid (Value.select_list_succ (by omega) ?_)
  rw [List.getElem?_map, hk]
  rfl

/-- No two of the identifiers in use are the same, and the one that every device answers to is not
    among them, so the number of objects is a word. -/
theorem Indexed.length_objectList_lt (h : d.Indexed)
    (hwildcard : ∀ id ∈ d.objectList, id.isDeviceWildcard = false) :
    d.objectList.length < 0x100000000 := by
  have hnotMem : (⟨0x023FFFFF⟩ : ObjectId) ∉ d.objectList := by
    intro hmem
    exact absurd (hwildcard _ hmem) (by decide)
  have hnodup : d.objectList.Nodup := List.nodup_cons.2 ⟨h.id_notMem, h.ids.nodup⟩
  exact ObjectId.length_le_of_nodup (List.nodup_cons.2 ⟨hnotMem, hnodup⟩)

theorem Indexed.presents (h : d.Indexed)
    (hwildcard : ∀ id ∈ d.objectList, id.isDeviceWildcard = false) (hk : d.objects[k]? = some o) :
    d.Presents k o := by
  have hlength := h.length_objectList_lt hwildcard
  have ho : o ∈ d.objects := List.mem_of_getElem? hk
  have hlisted : d.objectList[k + 1]? = some o.id := by
    rw [objectList, List.getElem?_cons_succ, List.getElem?_map, hk]
    rfl
  have hfind := h.find?_of_mem ho (hwildcard _ (List.mem_of_getElem? hlisted))
  have howned : ∀ wanted, o.IsWanted wanted → ∀ range,
      DeviceRange.admits range d.instanceNumber = true →
      d.replyToWhoHas ⟨range, wanted⟩ = .iHave (d.iHave o) := by
    intro wanted hwanted range hrange
    have hadmits : (WhoHas.mk range wanted).admits d.instanceNumber = true := hrange
    rw [replyToWhoHas, if_pos hadmits, h.owned?_eq_some_iff.2 ⟨ho, hwanted⟩]
    rfl
  have hlt : k + 1 < d.objectList.length := (List.getElem?_eq_some_iff.1 hlisted).1
  exact {
    hasId := howned (.byId o.id) rfl
    hasName := howned (.byName o.name) rfl
    index_lt := by omega
    listed := fun id hid => tells_objectList_succ hlength hid hlisted
    identifier := d.tells_of_read hfind rfl
    name := d.tells_of_read hfind rfl
    type := d.tells_of_read hfind rfl }

theorem Indexed.replyToReadProperty_of_notMem (h : d.Indexed) (hid : id ∉ d.objectList)
    (hwildcard : id.isDeviceWildcard = false) (requester : Requester) (p : PropertyId)
    (index : Option UInt32) : d.replyToReadProperty requester ⟨id, p, index⟩
      = .errorOf requester ReadProperty.service .object .unknownObject := by
  rw [objectList, List.mem_cons, not_or] at hid
  obtain ⟨hself, howned⟩ := hid
  have hsearch : d.objects.find? (·.id == id) = none := by
    rw [List.find?_eq_none]
    intro o ho hsame
    exact howned (List.mem_map.2 ⟨o, ho, beq_iff_eq.1 hsame⟩)
  have hfind : d.find? id = none := by
    rw [h.find?_eq, if_neg (by simp [hself, hwildcard]), hsearch]
    rfl
  simp only [replyToReadProperty, hfind]

theorem Indexed.scanned (h : d.Indexed)
    (hwildcard : ∀ id ∈ d.objectList, id.isDeviceWildcard = false) : d.Scanned := by
  have hlength := h.length_objectList_lt hwildcard
  have hcount : d.objectList.length = d.objects.length + 1 := by
    rw [objectList, List.length_cons, List.length_map]
  exact {
    count_lt := hcount ▸ hlength
    count := by
      intro id hid
      refine tells_objectList hid ?_
      rw [Value.select_list_zero (by rwa [List.length_map]), List.length_map, hcount]
    self := fun id hid => tells_objectList_succ (k := 0) hlength hid rfl
    presents := fun k o hk => h.presents hwildcard hk
    missing := fun id hid hwild => h.replyToReadProperty_of_notMem hid hwild }

end Device

namespace Template

variable {t : Template} {d : Device}

theorem Describes.isDeviceWildcard_of_mem (h : t.Describes d) :
    ∀ id ∈ d.objectList, id.isDeviceWildcard = false := by
  intro id hid
  rcases List.mem_cons.1 hid with rfl | hid
  · exact h.device.isDeviceWildcard_id
  · obtain ⟨o, ho, rfl⟩ := List.mem_map.1 hid
    obtain ⟨record, -, hrecord⟩ := exists_of_mem_of_forall₂ h.objects.flip ho
    exact hrecord.follows.isDeviceWildcard_id

/-- A scanner that asks a device that is built who has its objects, which objects it has, and what
    each of them is gets answers that agree, and no answer about anything else. -/
theorem scanned_of_build (h : t.build = .ok d) : d.Scanned := by
  have hdescribes := describes_of_build h
  exact hdescribes.indexed.scanned hdescribes.isDeviceWildcard_of_mem

/-- The one input of a plant stands behind the device, also for who does not know which device it
    is, and is announced when someone asks for its name. -/
theorem scanned_of_build_input :
    let plant : Template := ⟨[⟨"device-identifier", .integer 1⟩, ⟨"device-name", .text "plant"⟩], [
      ⟨"analog-input", [⟨"object-identifier", .integer 3⟩, ⟨"object-name", .text "T1"⟩]⟩]⟩
    let id : ObjectId := .ofParts .analogInput 3
    ∃ d, plant.build = .ok d ∧
      d.Tells ⟨0x023FFFFF⟩ (.device d) .objectList (some 2) (.objectId id) ∧
      d.replyToWhoHas ⟨none, .byName "T1"⟩ = .iHave ⟨d.id, id, "T1"⟩ := by
  intro plant id
  have hfirst : plant.build.toOption.any (fun d => d.objects[0]?.any fun o =>
      o.id == id && o.name == "T1") = true := by
    decide +kernel
  obtain ⟨d, hbuild, hfirst⟩ := (Option.any_eq_true _ _).1 hfirst
  obtain ⟨o, ho, hsame⟩ := (Option.any_eq_true _ _).1 hfirst
  obtain ⟨hid, hname⟩ := Bool.and_eq_true_iff.1 hsame
  have h := Decode.eq_ok_of_toOption hbuild
  have hpresents := (scanned_of_build h).presents 0 o ho
  have hlisted := hpresents.listed ⟨0x023FFFFF⟩ (.inr (by decide))
  have hannounced := hpresents.hasName none rfl
  rw [beq_iff_eq.1 hid] at hlisted hannounced
  rw [beq_iff_eq.1 hname] at hannounced
  exact ⟨d, h, hlisted, hannounced⟩

end Template

end Bacnet
