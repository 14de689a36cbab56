import Bacnet.Bvll
import Bacnet.Npdu
import Bacnet.Proofs.Forward
import Bacnet.Proofs.Stream
import Bacnet.Service.Discovery
import Bacnet.Service.ReadPropertyMultiple

set_option autoImplicit false

/-! # Readers keep their place

Every form is read by going forward (`Operation.forward`), so in a run of operations of every kind
the reader always stands in the input at its position, and never goes back, whichever of the
operations fail. What looks ahead does not move it, and neither does a look for a parameter that may
be missing and is (`Operation.trace_keepsPlace`). -/

namespace Bacnet

open Decode

/-! ## Tags and contents -/

namespace Tag

theorem forward_decodeLength (low : UInt8) : (decodeLength low).Forward := by
  unfold decodeLength
  refine .ite (.pure _) (.guard ?_)
  refine forward_octet.bind fun o => ?_
  split
  · exact forward_word16.bind fun _ => .pure _
  · exact forward_word32
  · exact .pure _

theorem forward_withInitial {β : Type} {next : UInt8 → UInt8 → Decode β}
    (h : ∀ initial number, (next initial number).Forward) : (withInitial next).Forward := by
  refine forward_octet.bind fun initial => ?_
  exact .ite (forward_octet.bind (h initial)) ((Forward.pure _).bind (h initial))

theorem forward_decode : decode.Forward := by
  refine forward_withInitial fun initial number => ?_
  have hlength := forward_decodeLength (initial &&& 0x07)
  refine .ite ?_ (.ite (.pure _) (.ite (.pure _) (hlength.bind fun _ => .pure _)))
  cases AppTag.ofNumber? number with
  | some tag => exact hlength.bind fun _ => .pure _
  | none => exact .throw _

theorem forward_expect (t : Tag) : (expect t).Forward :=
  forward_decode.bind fun _ => .ite (.throw _) (.pure _)

theorem forward_expectApplication (tag : AppTag) : (expectApplication tag).Forward := by
  refine forward_decode.bind fun t => ?_
  cases t with
  | application tag' length => exact .ite (.pure _) (.throw _)
  | _ => exact .throw _

theorem forward_expectContext (number : UInt8) : (expectContext number).Forward := by
  refine forward_decode.bind fun t => ?_
  cases t with
  | context number' length => exact .ite (.pure _) (.throw _)
  | _ => exact .throw _

end Tag

namespace Contents

theorem forward_decodeUnsigned (length : Nat) : (decodeUnsigned length).Forward := by
  unfold decodeUnsigned
  exact .guard ((forward_octets length).bind fun _ => .pure _)

theorem forward_decodeSigned (length : Nat) : (decodeSigned length).Forward := by
  unfold decodeSigned
  exact .guard ((forward_octets length).bind fun _ => .pure _)

theorem forward_decodeWord32 (length : Nat) : (decodeWord32 length).Forward := by
  unfold decodeWord32
  exact .guard forward_word32

theorem forward_decodeWord64 (length : Nat) : (decodeWord64 length).Forward := by
  unfold decodeWord64
  exact .guard forward_word64

theorem forward_decodeText (length : Nat) : (decodeText length).Forward := by
  refine (forward_octets length).bind fun contents => ?_
  split
  · exact .throw _
  · refine .guard ?_
    split
    · exact .pure _
    · exact .throw _

theorem forward_decodeAppUnsigned : decodeAppUnsigned.Forward :=
  (Tag.forward_expectApplication _).bind forward_decodeUnsigned

theorem forward_decodeAppEnumerated : decodeAppEnumerated.Forward :=
  (Tag.forward_expectApplication _).bind forward_decodeUnsigned

theorem forward_decodeAppObjectId : decodeAppObjectId.Forward :=
  (Tag.forward_expectApplication _).bind forward_decodeWord32

theorem forward_decodeAppText : decodeAppText.Forward :=
  (Tag.forward_expectApplication _).bind forward_decodeText

end Contents

namespace Value

theorem forward_decodeBitString (length : Nat) : (decodeBitString length).Forward := by
  refine (forward_octets length).bind fun contents => ?_
  split
  · exact .throw _
  · exact .guard (.pure _)

theorem forward_decodeContents (tag : AppTag) (length : UInt32) :
    (decodeContents tag length).Forward := by
  unfold decodeContents
  split
  · exact .pure _
  · exact .pure _
  · exact (Contents.forward_decodeUnsigned _).map _
  · exact (Contents.forward_decodeSigned _).map _
  · exact (Contents.forward_decodeWord32 _).map _
  · exact (Contents.forward_decodeWord64 _).map _
  · exact (Contents.forward_decodeText _).map _
  · exact (forward_decodeBitString _).map _
  · exact (Contents.forward_decodeUnsigned _).map _
  · exact (Contents.forward_decodeWord32 _).map _
  all_goals exact .throw _

theorem forward_decodeBehind (t : Tag) : (decodeBehind t).Forward := by
  cases t with
  | application tag length => exact forward_decodeContents tag length
  | _ => exact .throw _

theorem forward_decode : decode.Forward := Tag.forward_decode.bind forward_decodeBehind

theorem forward_decodeUntilClosing (number : UInt8) : (decodeUntilClosing number).Forward := by
  refine (Forward.many (Tag.forward_decode.bind fun t => ?_)).map _
  exact .ite (.pure _) ((forward_decodeBehind t).map _)

end Value

/-! ## Headers -/

namespace Npdu

theorem forward_decodeIf {α : Type} {reading : Decode α} (h : reading.Forward)
    (condition : Bool) : (decodeIf condition reading).Forward :=
  .ite (h.map _) (.pure _)

theorem forward_decodeAddress : NetworkAddress.decode.Forward := by
  refine forward_word16.bind fun network => forward_octet.bind fun length => .guard ?_
  exact (forward_octets _).bind fun _ => .pure _

theorem forward_decodeMessage : decodeMessage.Forward :=
  forward_octet.bind fun _ => (forward_decodeIf forward_word16 _).bind fun _ => .pure _

theorem forward_decode : decode.Forward := by
  refine forward_octet.bind fun first => .guard ?_
  refine forward_octet.bind fun control => ?_
  refine (forward_decodeIf forward_decodeAddress _).bind fun destination => ?_
  refine (forward_decodeIf forward_decodeAddress _).bind fun source => ?_
  refine (forward_decodeIf forward_octet _).bind fun hopCount => ?_
  exact (forward_decodeIf forward_decodeMessage _).bind fun _ => .pure _

end Npdu

theorem PduType.forward_decodeFlags (t : PduType) : t.decodeFlags.Forward :=
  forward_octet.bind fun _ => .guard (.pure _)

theorem ConfirmedHeader.forward_decodeSegment (flags : UInt8) :
    (decodeSegment flags).Forward := by
  refine .ite (.pure _) ?_
  exact forward_octet.bind fun _ => forward_octet.bind fun _ => .pure _

theorem ConfirmedHeader.forward_decode : decode.Forward := by
  refine (PduType.forward_decodeFlags _).bind fun flags => ?_
  refine forward_octet.bind fun sizes => forward_octet.bind fun invokeId => ?_
  refine (forward_decodeSegment flags).bind fun segment => ?_
  exact forward_octet.bind fun _ => .pure _

theorem UnconfirmedHeader.forward_decode : decode.Forward :=
  (PduType.forward_decodeFlags _).bind fun _ => forward_octet

theorem ComplexAckHeader.forward_decode : decode.Forward := by
  refine (PduType.forward_decodeFlags _).bind fun flags => .guard ?_
  exact forward_octet.bind fun _ => forward_octet.bind fun _ => .pure _

theorem ErrorPdu.forward_decode : decode.Forward := by
  refine (PduType.forward_decodeFlags _).bind fun flags => ?_
  refine forward_octet.bind fun invokeId => forward_octet.bind fun service => ?_
  refine Contents.forward_decodeAppEnumerated.bind fun errorClass => ?_
  exact Contents.forward_decodeAppEnumerated.bind fun _ => .pure _

theorem RejectPdu.forward_decode : decode.Forward := by
  refine (PduType.forward_decodeFlags _).bind fun flags => ?_
  exact forward_octet.bind fun _ => forward_octet.bind fun _ => .pure _

theorem BvllFrame.forward_decodeOrigin : decodeOrigin.Forward :=
  forward_word32.bind fun _ => forward_word16.bind fun _ => .pure _

theorem BvllFrame.forward_decodeWithin (length : Nat) : (decodeWithin length).Forward := by
  refine forward_octet.bind fun first => .guard ?_
  refine forward_octet.bind fun code => forward_word16.bind fun declared => .guard ?_
  split
  · exact .throw _
  · exact forward_decodeOrigin.bind fun _ => forward_rest.bind fun _ => .pure _
  · exact forward_rest.bind fun _ => .pure _

/-! ## Services -/

namespace Parameter

theorem forward_decodeUnsigned (number : UInt8) : (decodeUnsigned number).Forward :=
  (Tag.forward_expectContext number).bind Contents.forward_decodeUnsigned

theorem forward_decodeOptional (number : UInt8) : (decodeOptional number).Forward := by
  refine forward_atEnd.bind fun ended => .ite (.pure _) ?_
  refine (Forward.peek Tag.decode).bind fun t => ?_
  exact .ite ((forward_decodeUnsigned number).map _) (.pure _)

theorem forward_decodeObjectId (number : UInt8) : (decodeObjectId number).Forward := by
  refine (Tag.forward_expectContext number).bind fun length => ?_
  exact (Contents.forward_decodeWord32 length).bind fun _ => .pure _

end Parameter

theorem DeviceRange.forward_decodeOptional : decodeOptional.Forward := by
  refine (Parameter.forward_decodeOptional 0).bind fun low => ?_
  cases low with
  | none => exact .pure _
  | some low => exact (Parameter.forward_decodeUnsigned 1).bind fun _ => .pure _

theorem WhoIs.forward_decodeBody : decodeBody.Forward :=
  DeviceRange.forward_decodeOptional.bind fun _ => forward_expectEnd.bind fun _ => .pure _

theorem WhoHas.forward_decodeWanted : decodeWanted.Forward := by
  refine (Forward.peek Tag.decode).bind fun t => ?_
  split
  · exact (Parameter.forward_decodeObjectId 2).map _
  · exact ((Tag.forward_expectContext 3).bind Contents.forward_decodeText).map _
  · exact .throw _

theorem WhoHas.forward_decodeBody : decodeBody.Forward := by
  refine DeviceRange.forward_decodeOptional.bind fun range => ?_
  exact forward_decodeWanted.bind fun _ => forward_expectEnd.bind fun _ => .pure _

theorem IAm.forward_decodeBody : decodeBody.Forward := by
  refine Contents.forward_decodeAppObjectId.bind fun deviceId => ?_
  refine Contents.forward_decodeAppUnsigned.bind fun maxApdu => ?_
  refine Contents.forward_decodeAppEnumerated.bind fun segmentation => ?_
  exact Contents.forward_decodeAppUnsigned.bind fun _ => .pure _

theorem IHave.forward_decodeBody : decodeBody.Forward := by
  refine Contents.forward_decodeAppObjectId.bind fun deviceId => ?_
  refine Contents.forward_decodeAppObjectId.bind fun objectId => ?_
  exact Contents.forward_decodeAppText.bind fun _ => .pure _

theorem ReadProperty.forward_decodeReference : decodeReference.Forward := by
  refine (Parameter.forward_decodeObjectId 0).bind fun objectId => ?_
  refine (Parameter.forward_decodeUnsigned 1).bind fun property => ?_
  exact (Parameter.forward_decodeOptional 2).bind fun _ => .pure _

theorem ReadProperty.forward_decodeBody : decodeBody.Forward :=
  forward_decodeReference.bind fun _ => forward_expectEnd.bind fun _ => .pure _

theorem ReadPropertyAck.forward_decodeBody : decodeBody.Forward := by
  refine ReadProperty.forward_decodeReference.bind fun reference => ?_
  refine (Tag.forward_expect _).bind fun _ => ?_
  exact (Value.forward_decodeUntilClosing 3).bind fun _ => .pure _

section Rows

variable {α : Type} {item : Decode α}

theorem Decode.Forward.manyUntilClosing (h : item.Forward) (number : UInt8) :
    (manyUntilClosing number item).Forward := by
  refine Forward.bind (.many ?_) fun items => Tag.forward_decode.bind fun _ => .pure _
  exact (Forward.peek Tag.decode).bind fun t => .ite (.pure _) (h.map _)

theorem Decode.Forward.manyUntilEnd (h : item.Forward) : (manyUntilEnd item).Forward :=
  .many (forward_atEnd.bind fun _ => .ite (.pure _) (h.map _))

end Rows

theorem PropertyReference.forward_decode : decode.Forward := by
  refine (Parameter.forward_decodeUnsigned 0).bind fun property => ?_
  exact (Parameter.forward_decodeOptional 1).bind fun _ => .pure _

theorem AccessSpec.forward_decode : decode.Forward := by
  refine (Parameter.forward_decodeObjectId 0).bind fun objectId => ?_
  refine (Tag.forward_expect _).bind fun _ => ?_
  exact (PropertyReference.forward_decode.manyUntilClosing 1).bind fun _ => .guard (.pure _)

theorem ReadPropertyMultiple.forward_decodeBody : decodeBody.Forward :=
  AccessSpec.forward_decode.manyUntilEnd.bind fun _ => .guard (.pure _)

theorem AccessError.forward_decode : decode.Forward := by
  refine Contents.forward_decodeAppEnumerated.bind fun errorClass => ?_
  exact Contents.forward_decodeAppEnumerated.bind fun _ => .pure _

theorem AccessElement.forward_decodeResult : decodeResult.Forward := by
  refine Tag.forward_decode.bind fun t => ?_
  split
  · exact (Value.forward_decodeUntilClosing 4).map _
  · refine AccessError.forward_decode.bind fun e => ?_
    exact (Tag.forward_expect _).bind fun _ => .pure _
  · exact .throw _

theorem AccessElement.forward_decode : decode.Forward := by
  refine (Parameter.forward_decodeUnsigned 2).bind fun property => ?_
  refine (Parameter.forward_decodeOptional 3).bind fun index => ?_
  exact forward_decodeResult.bind fun _ => .pure _

theorem AccessResult.forward_decode : decode.Forward := by
  refine (Parameter.forward_decodeObjectId 0).bind fun objectId => ?_
  refine (Tag.forward_expect _).bind fun _ => ?_
  exact (AccessElement.forward_decode.manyUntilClosing 1).bind fun _ => .pure _

theorem ReadPropertyMultipleAck.forward_decodeBody : decodeBody.Forward :=
  AccessResult.forward_decode.manyUntilEnd.bind fun _ => .pure _

/-! ## All operations -/

/-- All that can be asked of a reader, by what is made of the octets: primitive readings, what looks
    at all that is left, and every form with its parts. Every operation can also look ahead. -/
inductive Operation : Type → Type 1
  | primitive {α : Type} (p : Primitive α) : Operation α
  | peek {α : Type} (operation : Operation α) : Operation α
  | rest : Operation Octets
  | atEnd : Operation Bool
  | expectEnd : Operation Unit
  | tag : Operation Tag
  | expectTag (t : Tag) : Operation Unit
  | applicationTag (expected : AppTag) : Operation Nat
  | contextTag (number : UInt8) : Operation Nat
  | unsignedContents (length : Nat) : Operation UInt32
  | signedContents (length : Nat) : Operation Int32
  | word32Contents (length : Nat) : Operation UInt32
  | word64Contents (length : Nat) : Operation UInt64
  | textContents (length : Nat) : Operation String
  | bitStringContents (length : Nat) : Operation BitString
  | unsigned : Operation UInt32
  | enumerated : Operation UInt32
  | objectId : Operation UInt32
  | text : Operation String
  | valueBehind (t : Tag) : Operation Value
  | value : Operation Value
  | valuesUntilClosing (number : UInt8) : Operation Value
  | frame (length : Nat) : Operation BvllFrame
  | npdu : Operation Npdu
  | confirmedHeader : Operation ConfirmedHeader
  | unconfirmedHeader : Operation UInt8
  | complexAckHeader : Operation ComplexAckHeader
  | error : Operation ErrorPdu
  | reject : Operation RejectPdu
  | unsignedParameter (number : UInt8) : Operation UInt32
  | optionalParameter (number : UInt8) : Operation (Option UInt32)
  | objectIdParameter (number : UInt8) : Operation ObjectId
  | range : Operation (Option DeviceRange)
  | whoIs : Operation WhoIs
  | whoHas : Operation WhoHas
  | iAm : Operation IAm
  | iHave : Operation IHave
  | readProperty : Operation ReadProperty
  | readPropertyAck : Operation ReadPropertyAck
  | readPropertyMultiple : Operation ReadPropertyMultiple
  | readPropertyMultipleAck : Operation ReadPropertyMultipleAck

namespace Operation

variable {α : Type}

/-- The reading that an operation is. The bodies of services stand behind their headers. -/
def decode {α : Type} : Operation α → Decode α
  | primitive p => p.decode
  | peek operation => Decode.peek operation.decode
  | rest => Decode.rest
  | atEnd => Decode.atEnd
  | expectEnd => Decode.expectEnd
  | tag => Tag.decode
  | expectTag t => Tag.expect t
  | applicationTag expected => Tag.expectApplication expected
  | contextTag number => Tag.expectContext number
  | unsignedContents length => Contents.decodeUnsigned length
  | signedContents length => Contents.decodeSigned length
  | word32Contents length => Contents.decodeWord32 length
  | word64Contents length => Contents.decodeWord64 length
  | textContents length => Contents.decodeText length
  | bitStringContents length => Value.decodeBitString length
  | unsigned => Contents.decodeAppUnsigned
  | enumerated => Contents.decodeAppEnumerated
  | objectId => Contents.decodeAppObjectId
  | text => Contents.decodeAppText
  | valueBehind t => Value.decodeBehind t
  | value => Value.decode
  | valuesUntilClosing number => Value.decodeUntilClosing number
  | frame length => BvllFrame.decodeWithin length
  | npdu => Npdu.decode
  | confirmedHeader => ConfirmedHeader.decode
  | unconfirmedHeader => UnconfirmedHeader.decode
  | complexAckHeader => ComplexAckHeader.decode
  | error => ErrorPdu.decode
  | reject => RejectPdu.decode
  | unsignedParameter number => Parameter.decodeUnsigned number
  | optionalParameter number => Parameter.decodeOptional number
  | objectIdParameter number => Parameter.decodeObjectId number
  | range => DeviceRange.decodeOptional
  | whoIs => WhoIs.decodeBody
  | whoHas => WhoHas.decodeBody
  | iAm => IAm.decodeBody
  | iHave => IHave.decodeBody
  | readProperty => ReadProperty.decodeBody
  | readPropertyAck => ReadPropertyAck.decodeBody
  | readPropertyMultiple => ReadPropertyMultiple.decodeBody
  | readPropertyMultipleAck => ReadPropertyMultipleAck.decodeBody

theorem forward (operation : Operation α) : operation.decode.Forward := by
  cases operation with
  | primitive p => exact p.forward
  | peek operation => exact .peek operation.decode
  | rest => exact forward_rest
  | atEnd => exact forward_atEnd
  | expectEnd => exact forward_expectEnd
  | tag => exact Tag.forward_decode
  | expectTag t => exact Tag.forward_expect t
  | applicationTag expected => exact Tag.forward_expectApplication expected
  | contextTag number => exact Tag.forward_expectContext number
  | unsignedContents length => exact Contents.forward_decodeUnsigned length
  | signedContents length => exact Contents.forward_decodeSigned length
  | word32Contents length => exact Contents.forward_decodeWord32 length
  | word64Contents length => exact Contents.forward_decodeWord64 length
  | textContents length => exact Contents.forward_decodeText length
  | bitStringContents length => exact Value.forward_decodeBitString length
  | unsigned => exact Contents.forward_decodeAppUnsigned
  | enumerated => exact Contents.forward_decodeAppEnumerated
  | objectId => exact Contents.forward_decodeAppObjectId
  | text => exact Contents.forward_decodeAppText
  | valueBehind t => exact Value.forward_decodeBehind t
  | value => exact Value.forward_decode
  | valuesUntilClosing number => exact Value.forward_decodeUntilClosing number
  | frame length => exact BvllFrame.forward_decodeWithin length
  | npdu => exact Npdu.forward_decode
  | confirmedHeader => exact ConfirmedHeader.forward_decode
  | unconfirmedHeader => exact UnconfirmedHeader.forward_decode
  | complexAckHeader => exact ComplexAckHeader.forward_decode
  | error => exact ErrorPdu.forward_decode
  | reject => exact RejectPdu.forward_decode
  | unsignedParameter number => exact Parameter.forward_decodeUnsigned number
  | optionalParameter number => exact Parameter.forward_decodeOptional number
  | objectIdParameter number => exact Parameter.forward_decodeObjectId number
  | range => exact DeviceRange.forward_decodeOptional
  | whoIs => exact WhoIs.forward_decodeBody
  | whoHas => exact WhoHas.forward_decodeBody
  | iAm => exact IAm.forward_decodeBody
  | iHave => exact IHave.forward_decodeBody
  | readProperty => exact ReadProperty.forward_decodeBody
  | readPropertyAck => exact ReadPropertyAck.forward_decodeBody
  | readPropertyMultiple => exact ReadPropertyMultiple.forward_decodeBody
  | readPropertyMultipleAck => exact ReadPropertyMultipleAck.forward_decodeBody

/-! ## Runs of operations -/

/-- The readers that a run of operations goes through, from the first one on; a run goes on behind
    what fails. -/
def trace : List (Sigma Operation) → Reader → List Reader
  | [], r => [r]
  | ⟨_, operation⟩ :: operations, r => r :: trace operations (operation.decode.after r)

/-- Every reader of a run is the first one, moved over octets. -/
theorem exists_consumes_of_mem_trace (operations : List (Sigma Operation)) {r r' : Reader}
    (h : r' ∈ trace operations r) : ∃ taken, r.Consumes taken r' := by
  induction operations generalizing r with
  | nil =>
      rw [List.mem_singleton.1 h]
      exact ⟨[], .nil r⟩
  | cons operation operations ih =>
      rcases List.mem_cons.1 h with rfl | h
      · exact ⟨[], .nil r'⟩
      · obtain ⟨front, hfront⟩ := operation.2.forward r
        obtain ⟨back, hback⟩ := ih h
        exact ⟨front ++ back, hfront.trans hback⟩

/-- And so it is of two readers of a run, the later one to the earlier one. -/
theorem pairwise_trace (operations : List (Sigma Operation)) (r : Reader) :
    (trace operations r).Pairwise fun r₁ r₂ => ∃ taken, r₁.Consumes taken r₂ := by
  induction operations generalizing r with
  | nil => exact List.pairwise_singleton ..
  | cons operation operations ih =>
      refine List.pairwise_cons.2 ⟨fun r' hr' => ?_, ih _⟩
      exact exists_consumes_of_mem_trace (operation :: operations) (List.mem_cons_of_mem r hr')

end Operation

/-- Whether a reader is left as it was by what takes nothing: a primitive reading that fails, every
    look ahead, and the look for a parameter that may be missing, if the input has ended, or another
    tag is next, or what is next is no tag. -/
structure Reader.Still (r : Reader) : Prop where
  failed : ∀ {α : Type} (p : Primitive α) (e : DecodeError) (r' : Reader),
    p.decode r = .error e r' → r' = r
  ahead : ∀ {α : Type} (operation : Operation α), operation.peek.decode.after r = r
  ended : ∀ number, r.unread = [] → Parameter.decodeOptional number r = .ok none r
  otherTag : ∀ number t r', Tag.decode r = .ok t r' → t.isContext number = false →
    Parameter.decodeOptional number r = .ok none r
  malformed : ∀ number e r', r.unread ≠ [] → Tag.decode r = .error e r' →
    Parameter.decodeOptional number r = .error e r

theorem Reader.still (r : Reader) : r.Still where
  failed p _ _ h := p.atomic h
  ahead operation := after_peek operation.decode r
  ended _ h := Parameter.decodeOptional_of_nil h
  otherTag number t r' htag hother := by
    rw [Parameter.decodeOptional_of_tag htag, hother]
    rfl
  malformed _ _ _ hunread htag := Parameter.decodeOptional_of_error hunread htag

namespace Operation

/-- In a run of operations in any order, whichever of them fail, the reader always stands in the
    input at its position, with nothing lost and nothing read twice, and never goes back; and at
    each place what takes nothing leaves it as it was. -/
theorem trace_keepsPlace (input : Octets) (operations : List (Sigma Operation)) :
    (∀ r ∈ trace operations (.ofOctets input), r.InStep input ∧ r.Still) ∧
    (trace operations (.ofOctets input)).Pairwise fun r r' => r.position ≤ r'.position := by
  constructor
  · intro r hr
    obtain ⟨taken, htaken⟩ := exists_consumes_of_mem_trace operations hr
    exact ⟨htaken.inStep, r.still⟩
  · refine (pairwise_trace operations _).imp ?_
    rintro r r' ⟨taken, htaken⟩
    exact htaken.position_le

/-- A word that is not there, the second limit of a range without the first, and half a value. -/
theorem trace_keepsPlace_lone_limit :
    let input : Octets := [0x19, 5, 0x44, 0x80]
    let operations : List (Sigma Operation) := [⟨_, .primitive .word64⟩, ⟨_, .range⟩,
      ⟨_, .unsignedParameter 1⟩, ⟨_, .value⟩]
    trace operations (.ofOctets input)
      = [⟨0, input⟩, ⟨0, input⟩, ⟨0, input⟩, ⟨2, [0x44, 0x80]⟩, ⟨3, [0x80]⟩] ∧
    (Reader.mk 3 [0x80]).InStep input ∧
    Parameter.decodeOptional 0 (.ofOctets input) = .ok none (.ofOctets input) ∧
    Parameter.decodeOptional 1 ⟨2, [0x44, 0x80]⟩ = .ok none ⟨2, [0x44, 0x80]⟩ := by
  intro input operations
  have htrace : trace operations (.ofOctets input)
      = [⟨0, input⟩, ⟨0, input⟩, ⟨0, input⟩, ⟨2, [0x44, 0x80]⟩, ⟨3, [0x80]⟩] := rfl
  obtain ⟨hplaces, -⟩ := trace_keepsPlace input operations
  rw [htrace] at hplaces
  refine ⟨htrace, (hplaces _ (by simp)).1, ?_, ?_⟩
  · exact (hplaces ⟨0, input⟩ (by simp)).2.otherTag 0 (.context 1 1) _ rfl rfl
  · exact (hplaces ⟨2, [0x44, 0x80]⟩ (by simp)).2.otherTag 1 (.application .real 4) _ rfl rfl

end Operation

end Bacnet
