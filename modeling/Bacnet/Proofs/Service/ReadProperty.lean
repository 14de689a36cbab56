import Bacnet.Proofs.Apdu
import Bacnet.Proofs.Parameter
import Bacnet.Proofs.Value
import Bacnet.Service.ReadProperty

set_option autoImplicit false

/-! # Read-Property read back

A question is read back as it was written. An answer is read back with the normal form of its
value, and with everything else as it was written. -/

namespace Bacnet

namespace ReadProperty

variable (q : ReadProperty)

@[simp] theorem fault_encodeReference : q.encodeReference.fault = none := by
  simp [encodeReference]

theorem octets_encodeReference : q.encodeReference.octets =
    (Parameter.encodeObjectId 0 q.objectId).octets ++
      ((Parameter.encodeUnsigned 1 q.property.code).octets ++
        (Parameter.encodeOptional 2 q.index).octets) := by
  simp [encodeReference]

@[simp] theorem fault_encode (invokeId : UInt8) : (q.encode invokeId).fault = none := by
  simp [encode]

theorem octets_encode (invokeId : UInt8) : (q.encode invokeId).octets =
    (ConfirmedHeader.unsegmented invokeId service).encode.octets ++ q.encodeReference.octets :=
  Encoding.octets_append (ConfirmedHeader.fault_encode _)

theorem reads_decodeReference {rest : Octets} (h : Parameter.Absent 2 rest) :
    decodeReference.Reads q.encodeReference.octets q rest := by
  unfold decodeReference
  rw [octets_encodeReference]
  refine (Parameter.reads_objectId 0 q.objectId _).bind ?_
  refine (Parameter.reads_unsigned 1 q.property.code _).bind ?_
  exact (Parameter.reads_optional h q.index).bind_pure _

/-- The body of a question is read back. -/
theorem reads_decodeBody : decodeBody.Reads q.encodeReference.octets q [] := by
  unfold decodeBody
  refine (q.reads_decodeReference (Parameter.absent_nil 2)).bind_last ?_
  exact Decode.reads_expectEnd.bind_last (.pure q [])

theorem unread_eq_nil_of_decodeBody {q : ReadProperty} {r r' : Reader}
    (h : decodeBody r = .ok q r') : r'.unread = [] := by
  unfold decodeBody at h
  obtain ⟨q', r₁, -, h⟩ := Decode.bind_eq_ok.1 h
  exact Decode.unread_eq_nil_of_expectEnd h

end ReadProperty

namespace ReadPropertyAck

variable {a : ReadPropertyAck}

/-- What is behind the header. -/
def encodeBody (a : ReadPropertyAck) : Encoding :=
  a.reference.encodeReference ++ .bracketed 3 a.value.encode

/-- What an answer is read back as. -/
def received (a : ReadPropertyAck) : ReadPropertyAck := { a with value := a.value.normal }

theorem encode_eq (a : ReadPropertyAck) (invokeId : UInt8) :
    a.encode invokeId
      = (ComplexAckHeader.mk invokeId ReadProperty.service).encode ++ a.encodeBody :=
  Encoding.append_assoc ..

theorem octets_encode (a : ReadPropertyAck) (invokeId : UInt8) : (a.encode invokeId).octets =
    (ComplexAckHeader.mk invokeId ReadProperty.service).encode.octets ++ a.encodeBody.octets := by
  rw [encode_eq, Encoding.octets_append (ComplexAckHeader.fault_encode _)]

theorem fault_encodeBody (h : a.value.Sendable) : a.encodeBody.fault = none := by
  simp [encodeBody, Value.fault_encode h]

/-- The body of an answer is read back, with its value in normal form. -/
theorem reads_decodeBody (h : a.value.Sendable) (rest : Octets) :
    decodeBody.Reads a.encodeBody.octets a.received rest := by
  unfold decodeBody encodeBody
  rw [Encoding.octets_append (by simp), Encoding.octets_bracketed (Value.fault_encode h)]
  refine (a.reference.reads_decodeReference ?_).bind ?_
  · exact Parameter.absent_of_begins ((Tag.begins_append (.opening 3) _).append rest) rfl
  refine (Tag.reads_expect (.opening 3) _).bind ?_
  exact (Value.reads_decodeUntilClosing h 3 rest).bind_pure _

end ReadPropertyAck

end Bacnet
