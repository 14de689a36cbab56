import Bacnet.Proofs.Covering
import Bacnet.Proofs.Question

set_option autoImplicit false

/-! # The shortest spelling of a question

The bodies of all questions are parameters in a row, or rows of them, so a body that is accepted has
at least as many octets as the question in it is written with (`QuestionForm.covers_decodeBody`). It
is used up and asks for something, and what is written of it is accepted as the same question. -/

namespace Bacnet

open Decode

/-! ## Bodies -/

theorem DeviceRange.covers_decodeOptional :
    decodeOptional.Covers fun range => (encodeOptional range).octets := by
  intro r range r' h
  unfold decodeOptional at h
  obtain ⟨low, r₁, hlow, h⟩ := bind_eq_ok.1 h
  have hcovers := Parameter.covers_decodeOptional 0 hlow
  cases low with
  | none =>
      cases h
      exact hcovers
  | some low =>
      obtain ⟨high, r₂, hhigh, h⟩ := bind_eq_ok.1 h
      cases h
      show r.Covers (encode ⟨low, high⟩).octets r'
      rw [encode, Encoding.octets_append (by simp)]
      exact hcovers.trans (Parameter.covers_decodeUnsigned 1 hhigh)

namespace WhoIs

theorem covers_decodeBody :
    decodeBody.Covers fun q => (DeviceRange.encodeOptional q.range).octets := by
  intro r q r' h
  unfold decodeBody at h
  obtain ⟨range, r₁, hrange, hend⟩ := bind_eq_ok.1 h
  obtain ⟨rfl, rfl, -⟩ := eq_of_expectEnd_pure hend
  exact DeviceRange.covers_decodeOptional hrange

end WhoIs

namespace WhoHas

variable {r r' : Reader} {q : WhoHas} {wanted : Wanted}

theorem covers_decodeWanted (h : decodeWanted r = .ok wanted r') :
    wanted.Fits ∧ r.Covers (encodeWanted wanted).octets r' := by
  unfold decodeWanted at h
  obtain ⟨t, r₁, hpeek, hparameter⟩ := bind_eq_ok.1 h
  obtain ⟨rfl, -⟩ := eq_of_peek hpeek
  split at hparameter
  · obtain ⟨id, hid, rfl⟩ := map_eq_ok.1 hparameter
    exact ⟨trivial, Parameter.covers_decodeObjectId 2 hid⟩
  · obtain ⟨name, hname, rfl⟩ := map_eq_ok.1 hparameter
    exact Parameter.covers_text hname
  · cases hparameter

theorem covers_decodeBody (h : decodeBody r = .ok q r') :
    q.wanted.Fits ∧ r.Covers q.encodeBody.octets r' := by
  unfold decodeBody at h
  obtain ⟨range, r₁, hrange, h⟩ := bind_eq_ok.1 h
  obtain ⟨wanted, r₂, hwanted, hend⟩ := bind_eq_ok.1 h
  obtain ⟨rfl, rfl, -⟩ := eq_of_expectEnd_pure hend
  obtain ⟨hfits, hcovers⟩ := covers_decodeWanted hwanted
  refine ⟨hfits, ?_⟩
  rw [encodeBody, Encoding.octets_append (DeviceRange.fault_encodeOptional _)]
  exact (DeviceRange.covers_decodeOptional hrange).trans hcovers

end WhoHas

namespace ReadProperty

theorem covers_decodeReference :
    decodeReference.Covers fun q => q.encodeReference.octets := by
  intro r q r' h
  unfold decodeReference at h
  obtain ⟨objectId, r₁, hobject, h⟩ := bind_eq_ok.1 h
  obtain ⟨property, r₂, hproperty, h⟩ := bind_eq_ok.1 h
  obtain ⟨index, r₃, hindex, h⟩ := bind_eq_ok.1 h
  cases h
  show r.Covers (encodeReference _).octets r'
  rw [octets_encodeReference]
  refine (Parameter.covers_decodeObjectId 0 hobject).trans ?_
  refine (Parameter.covers_decodeUnsigned 1 hproperty).trans ?_
  exact Parameter.covers_decodeOptional 2 hindex

theorem covers_decodeBody : decodeBody.Covers fun q => q.encodeReference.octets := by
  intro r q r' h
  unfold decodeBody at h
  obtain ⟨q', r₁, hreference, hend⟩ := bind_eq_ok.1 h
  obtain ⟨rfl, rfl, -⟩ := eq_of_expectEnd_pure hend
  exact covers_decodeReference hreference

end ReadProperty

theorem PropertyReference.covers_decode : decode.Covers fun ref => ref.encode.octets := by
  intro r ref r' h
  unfold decode at h
  obtain ⟨property, r₁, hproperty, h⟩ := bind_eq_ok.1 h
  obtain ⟨index, r₂, hindex, h⟩ := bind_eq_ok.1 h
  cases h
  show r.Covers (encode _).octets r'
  rw [octets_encode]
  exact (Parameter.covers_decodeUnsigned 0 hproperty).trans
    (Parameter.covers_decodeOptional 1 hindex)

namespace AccessSpec

variable {r r' : Reader} {spec : AccessSpec}

theorem references_ne_nil_of_decode (h : decode r = .ok spec r') : spec.references ≠ [] := by
  unfold decode at h
  obtain ⟨objectId, r₁, -, h⟩ := bind_eq_ok.1 h
  obtain ⟨⟨⟩, r₂, -, h⟩ := bind_eq_ok.1 h
  obtain ⟨references, r₃, -, h⟩ := bind_eq_ok.1 h
  obtain ⟨hnonempty, h⟩ := of_guard_eq_ok h
  cases h
  exact fun hnil => hnonempty (List.isEmpty_iff.2 hnil)

theorem covers_decode : decode.Covers fun spec => spec.encode.octets := by
  intro r spec r' h
  unfold decode at h
  obtain ⟨objectId, r₁, hobject, h⟩ := bind_eq_ok.1 h
  obtain ⟨⟨⟩, r₂, hopening, h⟩ := bind_eq_ok.1 h
  obtain ⟨references, r₃, hreferences, h⟩ := bind_eq_ok.1 h
  obtain ⟨-, h⟩ := of_guard_eq_ok h
  cases h
  obtain ⟨r₄, hturn, hclosing⟩ := exists_inTurn_of_manyUntilClosing hreferences
  show r.Covers (encode _).octets r'
  rw [octets_encode]
  refine (Parameter.covers_decodeObjectId 0 hobject).trans ?_
  refine (Tag.covers_expect (.opening 1) hopening).trans ?_
  exact (hturn.covers PropertyReference.covers_decode).trans (Tag.covers_decode hclosing)

end AccessSpec

namespace ReadPropertyMultiple

variable {r r' : Reader} {q : ReadPropertyMultiple}

/-- A question that was read asks for something, and for something of each of its objects. -/
theorem asks_of_decodeBody (h : decodeBody r = .ok q r') : q.Asks := by
  unfold decodeBody at h
  obtain ⟨specs, r₁, hspecs, h⟩ := bind_eq_ok.1 h
  obtain ⟨hnonempty, h⟩ := of_guard_eq_ok h
  cases h
  refine ⟨fun hnil => hnonempty (List.isEmpty_iff.2 hnil), fun spec hspec => ?_⟩
  obtain ⟨r₂, r₃, hread⟩ := (inTurn_of_manyUntilEnd hspecs).1.exists_of_mem spec hspec
  exact AccessSpec.references_ne_nil_of_decode hread

theorem covers_decodeBody : decodeBody.Covers fun q => q.encodeBody.octets := by
  intro r q r' h
  unfold decodeBody at h
  obtain ⟨specs, r₁, hspecs, h⟩ := bind_eq_ok.1 h
  obtain ⟨-, h⟩ := of_guard_eq_ok h
  cases h
  show r.Covers (encodeBody _).octets r'
  rw [octets_encodeBody]
  exact (inTurn_of_manyUntilEnd hspecs).1.covers AccessSpec.covers_decode

end ReadPropertyMultiple

/-! ## All questions -/

/-- A question with a body, by what is asked. -/
inductive QuestionForm : Type → Type
  | whoIs : QuestionForm WhoIs
  | whoHas : QuestionForm WhoHas
  | readProperty : QuestionForm ReadProperty
  | readPropertyMultiple : QuestionForm ReadPropertyMultiple

namespace QuestionForm

variable {α : Type}

/-- How the body of a question is read, from behind the header. -/
def decodeBody : QuestionForm α → Decode α
  | whoIs => WhoIs.decodeBody
  | whoHas => WhoHas.decodeBody
  | readProperty => ReadProperty.decodeBody
  | readPropertyMultiple => ReadPropertyMultiple.decodeBody

/-- A question as it is written; an invocation of an unconfirmed service has no number. -/
def encode (invokeId : UInt8) : QuestionForm α → α → Encoding
  | whoIs, q => q.encode
  | whoHas, q => q.encode
  | readProperty, q => q.encode invokeId
  | readPropertyMultiple, q => q.encode invokeId

/-- The header that a question is written with. -/
def header (invokeId : UInt8) : QuestionForm α → Encoding
  | whoIs => UnconfirmedHeader.encode WhoIs.service
  | whoHas => UnconfirmedHeader.encode WhoHas.service
  | readProperty => (ConfirmedHeader.unsegmented invokeId ReadProperty.service).encode
  | readPropertyMultiple =>
    (ConfirmedHeader.unsegmented invokeId ReadPropertyMultiple.service).encode

/-- What is written behind the header. -/
def encodeBody : QuestionForm α → α → Encoding
  | whoIs, q => DeviceRange.encodeOptional q.range
  | whoHas, q => q.encodeBody
  | readProperty, q => q.encodeReference
  | readPropertyMultiple, q => q.encodeBody

/-- Whether a question has a written form that is accepted: a tag can count its name, and none of
    its lists is empty. -/
def Asks : QuestionForm α → α → Prop
  | whoIs, _ => True
  | whoHas, q => q.wanted.Fits
  | readProperty, _ => True
  | readPropertyMultiple, q => q.Asks

section Laws

variable {a : α} {r r' : Reader}

theorem octets_encode (form : QuestionForm α) (a : α) (invokeId : UInt8) :
    (form.encode invokeId a).octets
      = (form.header invokeId).octets ++ (form.encodeBody a).octets := by
  cases form with
  | whoIs => exact a.octets_encode
  | whoHas => exact a.octets_encode
  | readProperty => exact a.octets_encode invokeId
  | readPropertyMultiple => exact a.octets_encode invokeId

theorem fault_encode (form : QuestionForm α) (h : form.Asks a) (invokeId : UInt8) :
    (form.encode invokeId a).fault = none := by
  cases form with
  | whoIs => exact a.fault_encode
  | whoHas => exact WhoHas.fault_encode h
  | readProperty => exact a.fault_encode invokeId
  | readPropertyMultiple => exact a.fault_encode invokeId

theorem reads_decodeBody (form : QuestionForm α) (h : form.Asks a) :
    form.decodeBody.Reads (form.encodeBody a).octets a [] := by
  cases form with
  | whoIs => exact a.reads_decodeBody
  | whoHas => exact WhoHas.reads_decodeBody h
  | readProperty => exact a.reads_decodeBody
  | readPropertyMultiple => exact ReadPropertyMultiple.reads_decodeBody h

theorem unread_eq_nil_of_decodeBody (form : QuestionForm α) (h : form.decodeBody r = .ok a r') :
    r'.unread = [] := by
  cases form with
  | whoIs => exact WhoIs.unread_eq_nil_of_decodeBody h
  | whoHas => exact WhoHas.unread_eq_nil_of_decodeBody h
  | readProperty => exact ReadProperty.unread_eq_nil_of_decodeBody h
  | readPropertyMultiple => exact ReadPropertyMultiple.unread_eq_nil_of_decodeBody h

/-- What was read can be written, and with no more octets than it was read from. -/
theorem covers_decodeBody (form : QuestionForm α) (h : form.decodeBody r = .ok a r') :
    form.Asks a ∧ r.Covers (form.encodeBody a).octets r' := by
  cases form with
  | whoIs => exact ⟨trivial, WhoIs.covers_decodeBody h⟩
  | whoHas => exact WhoHas.covers_decodeBody h
  | readProperty => exact ⟨trivial, ReadProperty.covers_decodeBody h⟩
  | readPropertyMultiple =>
      exact ⟨ReadPropertyMultiple.asks_of_decodeBody h, ReadPropertyMultiple.covers_decodeBody h⟩

end Laws

/-- A body that is accepted, wherever it starts, is used up, and no list of the question in it is
    empty. The question is written behind the header of its service with a body that is no longer
    than the one it came with, and that body is used up and accepted as the same question. -/
theorem canonical (form : QuestionForm α) {position : Nat} {input : Octets} {a : α} {r : Reader}
    (h : form.decodeBody ⟨position, input⟩ = .ok a r) :
    r = ⟨position + input.length, []⟩ ∧ form.Asks a ∧
    (form.encodeBody a).octets.length ≤ input.length ∧
    (∀ invokeId capacity,
      ((form.header invokeId).octets ++ (form.encodeBody a).octets).length ≤ capacity →
      (form.encode invokeId a).within capacity
        = .ok ((form.header invokeId).octets ++ (form.encodeBody a).octets)) ∧
    ∀ position', form.decodeBody ⟨position', (form.encodeBody a).octets⟩
      = .ok a ⟨position' + (form.encodeBody a).octets.length, []⟩ := by
  obtain ⟨hasks, hcovers⟩ := form.covers_decodeBody h
  obtain ⟨hused, hle⟩ := hcovers.of_unread_eq_nil (form.unread_eq_nil_of_decodeBody h)
  refine ⟨hused, hasks, hle, fun invokeId capacity hroom => ?_, fun position' => ?_⟩
  · rw [← form.octets_encode] at hroom ⊢
    exact Encoding.within_eq_ok_iff.2 ⟨form.fault_encode hasks invokeId, hroom, rfl⟩
  · have hread := form.reads_decodeBody hasks position'
    rwa [List.append_nil] at hread

/-- A question for one property with a tag number in an octet of its own, a length that takes more
    octets than it needs and a zero in front of an integer, and its shortest spelling. -/
theorem canonical_padded :
    let q : ReadPropertyMultiple := ⟨[⟨⟨5⟩, [⟨⟨85⟩, none⟩]⟩]⟩
    let padded : Octets := [0xFC, 0, 0, 0, 0, 5, 0x1E, 0x0D, 2, 0, 85, 0x1F]
    let body : Octets := [0x0C, 0, 0, 0, 5, 0x1E, 0x09, 85, 0x1F]
    readPropertyMultiple.decodeBody ⟨4, padded⟩ = .ok q ⟨16, []⟩ ∧ q.Asks ∧
    (readPropertyMultiple.encode 9 q).within 64 = .ok ([2, 5, 9, 14] ++ body) ∧
    readPropertyMultiple.decodeBody ⟨4, body⟩ = .ok q ⟨13, []⟩ := by
  intro q padded body
  have hread : readPropertyMultiple.decodeBody ⟨4, padded⟩ = .ok q ⟨16, []⟩ := rfl
  obtain ⟨-, hasks, -, hwritten, hback⟩ := readPropertyMultiple.canonical hread
  exact ⟨hread, hasks, hwritten 9 64 (by decide), hback 4⟩

end QuestionForm

end Bacnet
