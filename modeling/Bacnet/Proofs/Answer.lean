import Bacnet.Proofs.Device

set_option autoImplicit false

/-! # Answers received as they were given

An answer is written as a whole APDU, its header and its body. Whoever gets that APDU reads the
header and then the body with the reading for the service in the header, and has the answer with
nothing left over. Only lists in a value leave no trace: what stood between the brackets of a value
comes back in its normal form (`Value.normal`). -/

namespace Bacnet

namespace Reply

/-- How the APDU of a reply is received: behind the header with the number of the question and its
    service stands the reply, with values in normal form, and nothing else. -/
def IsReceived (reply : Reply) (apdu : Octets) : Prop :=
  match reply with
  | silence => False
  | iAm a => UnconfirmedHeader.decode.ReadsInTurn IAm.decodeBody apdu IAm.service a
  | iHave a => UnconfirmedHeader.decode.ReadsInTurn IHave.decodeBody apdu IHave.service a
  | readPropertyAck requester _ a =>
    ComplexAckHeader.decode.ReadsInTurn ReadPropertyAck.decodeBody apdu
      ⟨requester.invokeId, ReadProperty.service⟩ a.received
  | readPropertyMultipleAck requester a =>
    ComplexAckHeader.decode.ReadsInTurn ReadPropertyMultipleAck.decodeBody apdu
      ⟨requester.invokeId, ReadPropertyMultiple.service⟩ a.received
  | error e => ErrorPdu.decode.TakesAll 0 apdu e
  | reject r => RejectPdu.decode.TakesAll 0 apdu r

variable {reply : Reply}

/-- The written form of a reply is received as that reply. -/
theorem Sendable.isReceived (h : reply.Sendable) {e : Encoding} (he : reply.encode? = some e) :
    reply.IsReceived e.octets := by
  cases reply with
  | silence => cases he
  | iAm a =>
      cases he
      rw [a.octets_encode]
      exact (UnconfirmedHeader.reads_decode IAm.service _).inTurn (a.reads_decodeBody [])
  | iHave a =>
      cases he
      rw [a.octets_encode]
      exact (UnconfirmedHeader.reads_decode IHave.service _).inTurn (IHave.reads_decodeBody h [])
  | readPropertyAck requester name a =>
      cases he
      rw [a.octets_encode]
      exact (ComplexAckHeader.reads_decode _ _).inTurn (ReadPropertyAck.reads_decodeBody h [])
  | readPropertyMultipleAck requester a =>
      cases he
      rw [a.octets_encode]
      exact (ComplexAckHeader.reads_decode _ _).inTurn (ReadPropertyMultipleAck.reads_decodeBody h)
  | error e =>
      cases he
      exact (e.reads_decode []).takesAll
  | reject r =>
      cases he
      exact (r.reads_decode []).takesAll

/-- Every reply whose texts and bits fit their tags is written into each buffer that is large enough
    for it, and what was written is received as the reply. -/
theorem exists_encode_isReceived (h : reply.Sendable) (hspoken : reply ≠ silence) :
    ∃ e, reply.encode? = some e ∧
      (∀ capacity, e.size ≤ capacity → e.within capacity = .ok e.octets) ∧
      reply.IsReceived e.octets := by
  obtain ⟨e, he⟩ : ∃ e, reply.encode? = some e := by
    cases reply with
    | silence => exact absurd rfl hspoken
    | _ => exact ⟨_, rfl⟩
  refine ⟨e, he, fun capacity hfits => ?_, h.isReceived he⟩
  exact Encoding.within_eq_ok_iff.2 ⟨h.fault_encode he, hfits, rfl⟩

/-- An answer for an object of which nothing was asked, and for one with an indexed list of lists
    around a name that is not ASCII, and an error. Of the lists only the name is received. -/
theorem exists_encode_isReceived_nested :
    ComplexAckHeader.decode.ReadsInTurn ReadPropertyMultipleAck.decodeBody
      [0x30, 200, 14, 0x0C, 0, 0, 0, 1, 0x1E, 0x1F, 0x0C, 0, 0, 0, 2, 0x1E, 0x29, 87, 0x39, 0,
        0x4E, 0x73, 0, 0xC3, 0xA9, 0x4F, 0x29, 85, 0x5E, 0x94, 255, 255, 255, 255, 0x91, 2, 0x5F,
        0x1F]
      ⟨200, ReadPropertyMultiple.service⟩
      ⟨[⟨⟨1⟩, []⟩, ⟨⟨2⟩, [⟨⟨⟨87⟩, some 0⟩, .ok (.characterString "é")⟩,
        ⟨⟨⟨85⟩, none⟩, .error ⟨0xFFFFFFFF, 2⟩⟩]⟩]⟩ := by
  let a : ReadPropertyMultipleAck :=
    ⟨[⟨⟨1⟩, []⟩, ⟨⟨2⟩, [⟨⟨⟨87⟩, some 0⟩, .ok (.list [.list [], .list [.characterString "é"]])⟩,
      ⟨⟨⟨85⟩, none⟩, .error ⟨0xFFFFFFFF, 2⟩⟩]⟩]⟩
  have hname : Value.Fits (.characterString "é") := by
    show (Octets.ofString "é").length + 1 < 0x100000000
    decide +kernel
  have hsendable : Sendable (.readPropertyMultipleAck ⟨200, 1476⟩ a) := by
    intro result hresult element helement v hv x hx
    simp only [a, List.mem_cons, List.not_mem_nil, or_false] at hresult
    rcases hresult with rfl | rfl
    · cases helement
    simp only [List.mem_cons, List.not_mem_nil, or_false] at helement
    rcases helement with rfl | rfl
    · cases hv
      cases List.mem_singleton.1 hx
      exact hname
    · cases hv
  obtain ⟨e, he, -, hreceived⟩ := exists_encode_isReceived hsendable nofun
  cases he
  exact hreceived

end Reply

end Bacnet
