import Bacnet.Proofs.Request
import Bacnet.Proofs.Service.Discovery
import Bacnet.Responder

set_option autoImplicit false

/-! # What devices say has a written form

A device is sendable when its names and all its values fit their tags. Then so does everything that
is read of it, and every reply to every indication has a written form (`Sendable.reply`). -/

namespace Bacnet

/-! ## Reading -/

theorem Value.Sendable.select {v w : Value} (h : v.Sendable) {p : PropertyId}
    {index : Option UInt32} (hselect : v.select p index = .ok w) : w.Sendable := by
  unfold Value.select at hselect
  cases index with
  | none => cases hselect; exact h
  | some index =>
      cases v with
      | list items =>
          simp only [Value.items?] at hselect
          split at hselect
          · cases hselect
            exact Value.sendable_of_fits rfl trivial
          · split at hselect
            · cases hselect
            · next item hitem =>
                cases hselect
                exact h.of_mem (List.mem_of_getElem? hitem)
      | _ => cases hselect

namespace Object

/-- The name and the values of an object fit their tags. -/
structure Sendable (o : Object) : Prop where
  name : (Octets.ofString o.name).length + 1 < 0x100000000
  value : ∀ p v, o.properties.get? p = some v → v.Sendable

variable {o : Object} (h : o.Sendable)

include h

theorem Sendable.whole? {p : PropertyId} {v : Value} (hv : o.whole? p = some v) : v.Sendable := by
  unfold Object.whole? at hv
  split at hv
  · cases hv; exact Value.sendable_of_fits rfl trivial
  split at hv
  · cases hv; exact Value.sendable_of_fits rfl h.name
  split at hv
  · cases hv; exact Value.sendable_of_fits rfl trivial
  split at hv
  · cases hv
    refine Value.sendable_list fun v hv => ?_
    obtain ⟨q, -, rfl⟩ := List.mem_map.1 hv
    exact Value.sendable_of_fits rfl trivial
  · exact h.value p v hv

theorem Sendable.read {p : PropertyId} {index : Option UInt32} {v : Value}
    (hv : o.read p index = .ok v) : v.Sendable := by
  unfold Object.read at hv
  split at hv
  · cases hv
  · next whole hwhole => exact (h.whole? hwhole).select hv

end Object

namespace Device

/-- A device that owns nothing and has no property but its name and what identifies it. -/
def bare : Device :=
  ⟨⟨.ofParts .device 1, "plant", Schema.device, .empty, by decide⟩, [], .empty, .empty⟩

/-- The names and the values of a device and of its objects fit their tags. -/
def Sendable (d : Device) : Prop := d.object.Sendable ∧ ∀ o ∈ d.objects, o.Sendable

theorem Sendable.find? {d : Device} (h : d.Sendable) {id : ObjectId} {t : Target}
    (ht : d.find? id = some t) : t.record.Sendable := by
  unfold Device.find? at ht
  split at ht
  · cases ht; exact h.1
  · obtain ⟨o, ho, rfl⟩ := Option.map_eq_some_iff.1 ht
    obtain ⟨slot, -, ho⟩ := Option.bind_eq_some_iff.1 ho
    exact h.2 o (List.mem_of_getElem? ho)

end Device

theorem Schema.sendable_emptyValue (s : Schema) (p : PropertyId) : (s.emptyValue p).Sendable := by
  unfold Schema.emptyValue
  cases ((s.spec? p).map (·.datatype)).or (Schema.datatype? p) with
  | none => exact Value.sendable_of_fits rfl trivial
  | some datatype =>
      cases datatype with
      | characterString =>
          have hempty : (Octets.ofString "").length + 1 < 0x100000000 := by decide
          exact Value.sendable_of_fits rfl hempty
      | bitString => exact Value.sendable_of_fits rfl ⟨by decide, by decide⟩
      | arrayOf element => exact Value.sendable_list fun v hv => absurd hv (List.not_mem_nil)
      | _ => exact Value.sendable_of_fits rfl trivial

namespace Target

variable {t : Target} (h : t.record.Sendable)

include h

theorem sendable_read {p : PropertyId} {index : Option UInt32} {v : Value}
    (hv : t.read p index = .ok v) : v.Sendable := by
  cases t with
  | object o => exact h.read hv
  | device d =>
      simp only [read, Device.read] at hv
      split at hv
      · refine Value.Sendable.select (Value.sendable_list fun v hv => ?_) hv
        obtain ⟨id, -, rfl⟩ := List.mem_map.1 hv
        exact Value.sendable_of_fits rfl trivial
      · exact Object.Sendable.read h hv

theorem sendable_readOrEmpty {p : PropertyId} {index : Option UInt32} {v : Value}
    (hv : t.readOrEmpty p index = .ok v) : v.Sendable := by
  unfold readOrEmpty at hv
  split at hv
  · cases hv; exact Schema.sendable_emptyValue t.schema _
  · exact sendable_read h hv

theorem sendable_element? {ref : PropertyReference} {element : AccessElement}
    (he : t.element? ref = some element) : element.Sendable := by
  unfold element? at he
  split at he
  · next value hvalue =>
      cases he
      intro v hv
      cases hv
      exact sendable_read h hvalue
  · cases he
  · cases he
    intro v hv
    cases hv

theorem sendable_elements (refs : List PropertyReference) :
    ∀ element ∈ t.elements refs, element.Sendable := by
  intro element he
  obtain ⟨ref, -, he⟩ := List.mem_flatMap.1 he
  obtain ⟨one, -, he⟩ := List.mem_filterMap.1 he
  exact sendable_element? h he

end Target

/-! ## Replies -/

theorem Device.mem_objects_of_owned? {d : Device} {wanted : Wanted} {o : Object}
    (h : d.owned? wanted = some o) : o ∈ d.objects := by
  cases wanted with
  | byId id => exact List.mem_of_find?_eq_some h
  | byName name =>
      obtain ⟨slot, -, ho⟩ := Option.bind_eq_some_iff.1 h
      exact List.mem_of_getElem? ho

namespace Reply

/-- What is said to one requester only is no request. -/
theorem exists_firstOctet_of_encode? {reply : Reply} {e : Encoding} (he : reply.encode? = some e)
    (hdiscovery : reply.isDiscovery = false) : ∃ t rest, t ≠ .confirmedRequest ∧
      t ≠ .unconfirmedRequest ∧ e.octets = PduType.firstOctet t 0 :: rest := by
  cases reply with
  | silence => cases he
  | iAm a => cases hdiscovery
  | iHave a => cases hdiscovery
  | readPropertyAck requester name a =>
      cases he
      rw [ReadPropertyAck.encode_eq]
      exact ⟨.complexAck, _, by decide, by decide, ComplexAckHeader.octets_encode_append ..⟩
  | readPropertyMultipleAck requester a =>
      cases he
      exact ⟨.complexAck, _, by decide, by decide, ComplexAckHeader.octets_encode_append ..⟩
  | error e =>
      cases he
      exact ⟨.error, _, by decide, by decide, e.octets_encode⟩
  | reject r =>
      cases he
      exact ⟨.reject, _, by decide, by decide, r.octets_encode⟩

/-- Whether a reply has a written form. -/
def Sendable : Reply → Prop
  | readPropertyAck _ _ a => a.value.Sendable
  | readPropertyMultipleAck _ a => a.Sendable
  | iHave a => (Octets.ofString a.objectName).length + 1 < 0x100000000
  | _ => True

theorem Sendable.fault_encode {reply : Reply} (h : reply.Sendable) {e : Encoding}
    (he : reply.encode? = some e) : e.fault = none := by
  cases reply with
  | silence => cases he
  | iAm a => cases he; exact a.fault_encode
  | iHave a => cases he; exact IHave.fault_encode h
  | readPropertyAck requester name a =>
      cases he
      rw [ReadPropertyAck.encode_eq, Encoding.fault_append, ComplexAckHeader.fault_encode,
        ReadPropertyAck.fault_encodeBody h]
      rfl
  | readPropertyMultipleAck requester a =>
      cases he
      rw [ReadPropertyMultipleAck.encode_eq, Encoding.fault_append, ComplexAckHeader.fault_encode,
        ReadPropertyMultipleAck.fault_encodeBody h]
      rfl
  | error e => cases he; exact e.fault_encode
  | reject r => cases he; exact r.fault_encode

end Reply

namespace Device

variable {d : Device} (h : d.Sendable)

include h

theorem Sendable.access (spec : AccessSpec) : (d.access spec).Sendable := by
  unfold Device.access
  cases hfind : d.find? spec.objectId with
  | some target => exact Target.sendable_elements (h.find? hfind) spec.references
  | none =>
      intro element he v hv
      obtain ⟨ref, -, rfl⟩ := List.mem_map.1 he
      cases hv

theorem Sendable.replyToReadProperty (requester : Requester) (q : ReadProperty) :
    (d.replyToReadProperty requester q).Sendable := by
  unfold Device.replyToReadProperty
  cases hfind : d.find? q.objectId with
  | none => trivial
  | some target =>
      simp only
      split
      · next value hvalue => exact Target.sendable_readOrEmpty (h.find? hfind) hvalue
      · trivial

theorem Sendable.replyToWhoHas (q : WhoHas) : (d.replyToWhoHas q).Sendable := by
  unfold Device.replyToWhoHas
  split
  · cases howned : d.owned? q.wanted with
    | none => trivial
    | some o => exact (h.2 o (mem_objects_of_owned? howned)).name
  · trivial

/-- Every reply of a sendable device has a written form. -/
theorem Sendable.reply (config : Config) (indication : Indication) :
    (d.reply config indication).Sendable := by
  obtain ⟨requester, request⟩ := indication
  cases request with
  | whoIs q =>
      show (d.replyToWhoIs q).Sendable
      unfold replyToWhoIs
      split <;> trivial
  | whoHas q => exact h.replyToWhoHas q
  | readProperty q =>
      cases requester with
      | none => trivial
      | some requester => exact h.replyToReadProperty requester q
  | readPropertyMultiple q =>
      cases requester with
      | none => trivial
      | some requester =>
          intro result hresult
          obtain ⟨spec, -, rfl⟩ := List.mem_map.1 hresult
          exact h.access spec
  | unsupported service =>
      cases requester with
      | none => trivial
      | some requester =>
          simp only [Device.reply]
          split <;> trivial

end Device

end Bacnet
