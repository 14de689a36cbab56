import Bacnet.Npdu
import Bacnet.Proofs.Writer
import Bacnet.Service.Discovery
import Bacnet.Service.ReadPropertyMultiple

set_option autoImplicit false

/-! # Room for what is written

The device fills one buffer with all that it sends, so a thing is written behind octets that stand
already and before an end that may come at any point of it. What is written is the same at every
place: either the thing as it stands in a buffer of its own, or, where the room ends before it does,
a beginning of that, with everything in front untouched. The answer that would be too large is
dropped because of this one failure, so no other may take its place. Of things in a row the writer
ends inside the first that does not fit (`put_append`). -/

namespace Bacnet

/-! ## What has a written form -/

/-- A thing that is written to a buffer. Integers, words and texts stand behind a tag that is
    made for their length; answers and questions stand behind the header of their APDU. -/
inductive WireItem where
  | octets (run : Octets)
  | tag (tag : Tag)
  | unsigned (behind : UInt32 → Tag) (n : UInt32)
  | signed (behind : UInt32 → Tag) (n : Int32)
  | word32 (behind : UInt32 → Tag) (word : UInt32)
  | word64 (behind : UInt32 → Tag) (word : UInt64)
  | text (behind : UInt32 → Tag) (text : String)
  | value (value : Value)
  | npdu (header : Npdu)
  | confirmedHeader (header : ConfirmedHeader)
  | unconfirmedHeader (service : UInt8)
  | complexAckHeader (header : ComplexAckHeader)
  | error (pdu : ErrorPdu)
  | reject (pdu : RejectPdu)
  | whoIs (question : WhoIs)
  | iAm (answer : IAm)
  | whoHas (question : WhoHas)
  | iHave (answer : IHave)
  | readProperty (question : ReadProperty) (invokeId : UInt8)
  | readPropertyAck (answer : ReadPropertyAck) (invokeId : UInt8)
  | readPropertyMultiple (question : ReadPropertyMultiple) (invokeId : UInt8)
  | readPropertyMultipleAck (answer : ReadPropertyMultipleAck) (invokeId : UInt8)

namespace WireItem

/-- The written form of a thing. -/
def encoding : WireItem → Encoding
  | octets run => .piece run
  | tag t => t.encode
  | unsigned behind n => Contents.encodeUnsigned behind n
  | signed behind n => Contents.encodeSigned behind n
  | word32 behind word => Contents.encodeWord32 behind word
  | word64 behind word => Contents.encodeWord64 behind word
  | text behind s => Contents.encodeText behind s
  | value v => v.encode
  | npdu header => header.encode
  | confirmedHeader header => header.encode
  | unconfirmedHeader service => UnconfirmedHeader.encode service
  | complexAckHeader header => header.encode
  | error pdu => pdu.encode
  | reject pdu => pdu.encode
  | whoIs question => question.encode
  | iAm answer => answer.encode
  | whoHas question => question.encode
  | iHave answer => answer.encode
  | readProperty question invokeId => question.encode invokeId
  | readPropertyAck answer invokeId => answer.encode invokeId
  | readPropertyMultiple question invokeId => question.encode invokeId
  | readPropertyMultipleAck answer invokeId => answer.encode invokeId

end WireItem

/-! ## Writing at any place -/

namespace Writer

theorem putPieces_append (front back : List Octets) (fault : Option EncodeError) :
    putPieces (front ++ back) fault = putPieces front none *> putPieces back fault := by
  funext w
  show _ = EStateM.bind (putPieces front none) (fun _ => putPieces back fault) w
  induction front generalizing w with
  | nil => rfl
  | cons p front ih =>
      rw [List.cons_append, EStateM.bind]
      by_cases hp : p.length ≤ w.remaining
      · rw [putPieces_cons hp, putPieces_cons hp, ih, EStateM.bind]
      · have hcut := Nat.not_le.1 hp
        rw [putPieces_cons_of_lt hcut, putPieces_cons_of_lt hcut]

/-- Two things in a row are written one after the other, and the second only if the first was. -/
theorem put_append (a b : Encoding) : put (a ++ b) = put a *> put b := by
  obtain ⟨front, fault⟩ := a
  cases fault with
  | none => exact putPieces_append front b.pieces b.fault
  | some e =>
      funext w
      obtain ⟨e', w', hput⟩ := putPieces_some front e w
      show putPieces front (some e) w = EStateM.bind (putPieces front (some e)) _ w
      rw [EStateM.bind, hput]

end Writer

namespace WireItem

/-- Whatever some buffer of its own took is written the same behind all other octets: whole if the
    room is enough, and otherwise the room is what the writing fails for, after a part in front. -/
theorem put_of_within {x : WireItem} {capacity : Nat} {octets : Octets}
    (h : x.encoding.within capacity = .ok octets) (w : Writer) :
    (octets.length ≤ w.remaining → Writer.put x.encoding w = .ok () (w.advance octets)) ∧
    (w.remaining < octets.length → ∃ front, front <+: octets ∧ front ≠ octets ∧
      front.length ≤ w.remaining ∧
      Writer.put x.encoding w = .error .bufferTooSmall (w.advance front)) := by
  obtain ⟨hfault, -, rfl⟩ := Encoding.within_eq_ok_iff.1 h
  refine ⟨fun hroom => ?_, fun hcut => ?_⟩
  · exact Writer.put_of_le hfault hroom
  · exact Writer.exists_put_of_lt hfault hcut

/-- An answer that carries an integer in a list in a list, behind an octet that stands already:
    with an octet to spare, and with two octets too few. -/
theorem put_of_within_nested_list :
    let x : WireItem := .readPropertyAck ⟨⟨⟨5⟩, ⟨85⟩, none⟩, .list [.null, .list [.unsigned 300]]⟩ 7
    let octets : Octets :=
      [0x30, 7, 0x0C, 0x0C, 0, 0, 0, 5, 0x19, 85, 0x3E, 0, 0x22, 1, 44, 0x3F]
    x.encoding.within 480 = .ok octets ∧
    Writer.put x.encoding ⟨[0xAA], List.replicate 17 0⟩ = .ok () ⟨0xAA :: octets, [0]⟩ ∧
    ∃ part, part <+: octets ∧ part ≠ octets ∧
      Writer.put x.encoding ⟨[0xAA], List.replicate 14 0⟩
        = .error .bufferTooSmall (.advance ⟨[0xAA], List.replicate 14 0⟩ part) := by
  intro x octets
  have hwithin : x.encoding.within 480 = .ok octets := by decide +kernel
  obtain ⟨hwhole, -⟩ := put_of_within hwithin ⟨[0xAA], List.replicate 17 0⟩
  obtain ⟨-, hcut⟩ := put_of_within hwithin ⟨[0xAA], List.replicate 14 0⟩
  obtain ⟨part, hprefix, hne, -, hput⟩ := hcut (by decide)
  exact ⟨hwithin, hwhole (by decide), part, hprefix, hne, hput⟩

/-- The two octets that are missing end the answer behind the tag of the integer. -/
example : Writer.put (WireItem.encoding
      (.readPropertyAck ⟨⟨⟨5⟩, ⟨85⟩, none⟩, .list [.null, .list [.unsigned 300]]⟩ 7))
    ⟨[0xAA], List.replicate 14 0⟩
      = .error .bufferTooSmall
        ⟨[0xAA, 0x30, 7, 0x0C, 0x0C, 0, 0, 0, 5, 0x19, 85, 0x3E, 0, 0x22], [0]⟩ := rfl

end WireItem

end Bacnet
