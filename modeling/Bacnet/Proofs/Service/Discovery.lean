import Bacnet.Proofs.Apdu
import Bacnet.Proofs.Parameter
import Bacnet.Service.Discovery

set_option autoImplicit false

/-! # Questions and announcements

An announcement is the header of an unconfirmed service and fields behind it. One of a device always
has a written form, and one of an object if its name fits a tag; then each is read back whole. A
question is read back in the same way, and its range is missing only if what it asks for comes
first; of a question that was read nothing is left. -/

namespace Bacnet

/-! ## Whole messages -/

namespace UnconfirmedHeader

variable {α : Type} {body : Decode α} {a : α}

/-- Reads an unconfirmed message of a service, and all of it. -/
def decodeWith (service : UInt8) (body : Decode α) : Decode α := do
  if (← decode) ≠ service then throw .unsupported
  let a ← body
  Decode.expectEnd
  return a

theorem reads_decodeWith {input : Octets} (h : body.Reads input a []) (service : UInt8) :
    (decodeWith service body).Reads ((encode service).octets ++ input) a [] := by
  unfold decodeWith
  refine (reads_decode service _).bind ?_
  rw [if_neg (by simp)]
  refine Decode.Reads.bind_last (by simpa using h) ?_
  exact Decode.reads_expectEnd.bind_last (.pure a [])

/-- No other type of message is taken for an unconfirmed one. -/
theorem eq_unconfirmedRequest_of_decodeWith {t : PduType} {flags service : UInt8} {rest : Octets}
    (h : (decodeWith service body).outcome (t.firstOctet flags :: rest) = .ok a) :
    t = .unconfirmedRequest := by
  obtain ⟨r, h⟩ := Decode.outcome_eq_ok_iff.1 h
  unfold decodeWith decode at h
  obtain ⟨service', r₁, hservice, -⟩ := Decode.bind_eq_ok.1 h
  obtain ⟨flags', r₂, hflags, -⟩ := Decode.bind_eq_ok.1 hservice
  exact PduType.eq_of_decodeFlags_firstOctet hflags

end UnconfirmedHeader

/-! ## Devices -/

namespace DeviceRange

theorem admits_iff {range : Option DeviceRange} {instanceNumber : UInt32} :
    admits range instanceNumber = true ↔
      ∀ r ∈ range, r.low ≤ instanceNumber ∧ instanceNumber ≤ r.high := by
  cases range with
  | none => simp [admits]
  | some r => simp [admits, contains]

@[simp] theorem fault_encodeOptional (range : Option DeviceRange) :
    (encodeOptional range).fault = none := by
  cases range <;> simp [encodeOptional, encode]

/-- A range that may be missing, in front of what is not its lower limit. -/
theorem reads_decodeOptional {rest : Octets} (h : Parameter.Absent 0 rest)
    (range : Option DeviceRange) :
    decodeOptional.Reads (encodeOptional range).octets range rest := by
  unfold decodeOptional
  cases range with
  | none =>
      show Decode.Reads _ Encoding.empty.octets none rest
      rw [Encoding.octets_empty]
      refine (Parameter.reads_optional_none h).bind_nil ?_
      exact .pure none rest
  | some range =>
      show Decode.Reads _ (encode range).octets (some range) rest
      rw [encode, Encoding.octets_append (Parameter.fault_encodeUnsigned 0 range.low)]
      refine (Parameter.reads_optional_some 0 range.low _).bind ?_
      exact (Parameter.reads_unsigned 1 range.high rest).bind_pure
        fun high => some (DeviceRange.mk range.low high)

end DeviceRange

namespace WhoIs

theorem octets_encode (q : WhoIs) : q.encode.octets =
    (UnconfirmedHeader.encode service).octets ++ (DeviceRange.encodeOptional q.range).octets :=
  Encoding.octets_append (UnconfirmedHeader.fault_encode service)

@[simp] theorem fault_encode (q : WhoIs) : q.encode.fault = none := by simp [encode]

/-- The body of a question for devices is read back. -/
theorem reads_decodeBody (q : WhoIs) :
    decodeBody.Reads (DeviceRange.encodeOptional q.range).octets q [] := by
  unfold decodeBody
  refine (DeviceRange.reads_decodeOptional (Parameter.absent_nil 0) q.range).bind_last ?_
  exact Decode.reads_expectEnd.bind_last (.pure q [])

theorem unread_eq_nil_of_decodeBody {q : WhoIs} {r r' : Reader}
    (h : decodeBody r = .ok q r') : r'.unread = [] := by
  unfold decodeBody at h
  obtain ⟨range, r₁, -, h⟩ := Decode.bind_eq_ok.1 h
  exact Decode.unread_eq_nil_of_expectEnd h

end WhoIs

namespace IAm

@[simp] theorem fault_encode (a : IAm) : a.encode.fault = none := by simp [encode]

/-- What is behind the header. -/
def encodeBody (a : IAm) : Encoding :=
  Contents.encodeWord32 (.application .objectId) a.deviceId.raw ++
    Contents.encodeUnsigned (.application .unsignedInt) a.maxApdu ++
    Contents.encodeUnsigned (.application .enumerated) a.segmentation ++
    Contents.encodeUnsigned (.application .unsignedInt) a.vendorId

theorem encode_eq (a : IAm) : a.encode = UnconfirmedHeader.encode service ++ a.encodeBody := by
  simp only [encode, encodeBody, Encoding.append_assoc]

theorem octets_encode (a : IAm) :
    a.encode.octets = (UnconfirmedHeader.encode service).octets ++ a.encodeBody.octets := by
  rw [encode_eq, Encoding.octets_append (UnconfirmedHeader.fault_encode service)]

/-- The announcement of a device is small: it has the header and four short fields. -/
theorem size_encode_le (a : IAm) : a.encode.size ≤ 26 := by
  have hid := Contents.length_encodeWord32_le .objectId a.deviceId.raw
  have hsize := Contents.length_encodeUnsigned_le .unsignedInt a.maxApdu
  have hsegmentation := Contents.length_encodeUnsigned_le .enumerated a.segmentation
  have hvendor := Contents.length_encodeUnsigned_le .unsignedInt a.vendorId
  rw [Encoding.size, octets_encode, encodeBody, UnconfirmedHeader.octets_encode,
    Encoding.octets_append (by simp), Encoding.octets_append (by simp),
    Encoding.octets_append (by simp)]
  simp only [List.length_append, List.length_cons, List.length_nil]
  omega

theorem reads_decodeBody (a : IAm) (rest : Octets) :
    decodeBody.Reads a.encodeBody.octets a rest := by
  unfold decodeBody encodeBody
  simp only [Encoding.append_assoc]
  rw [Encoding.octets_append (by simp), Encoding.octets_append (by simp),
    Encoding.octets_append (by simp)]
  refine (Contents.reads_appObjectId a.deviceId.raw _).bind ?_
  refine (Contents.reads_appUnsigned a.maxApdu _).bind ?_
  refine (Contents.reads_appEnumerated a.segmentation _).bind ?_
  exact (Contents.reads_appUnsigned a.vendorId rest).bind_pure _

/-- The announcement of a device is read back. -/
theorem outcome_decodeWith (a : IAm) :
    (UnconfirmedHeader.decodeWith service decodeBody).outcome a.encode.octets = .ok a := by
  rw [octets_encode]
  exact (UnconfirmedHeader.reads_decodeWith (a.reads_decodeBody []) service).outcome

end IAm

/-! ## Objects -/

/-- Whether a tag can count what a question asks for: any identifier, and a name that is not too
    long. -/
def Wanted.Fits : Wanted → Prop
  | byId _ => True
  | byName name => (Octets.ofString name).length + 1 < 0x100000000

namespace WhoHas

variable {wanted : Wanted} {q : WhoHas}

theorem fault_encodeWanted (h : wanted.Fits) : (encodeWanted wanted).fault = none := by
  cases wanted with
  | byId id => exact Parameter.fault_encodeObjectId 2 id
  | byName name => exact Contents.fault_encodeHeaded h (.context 3) Contents.utf8Charset

theorem fits_of_fault_encodeWanted (h : (encodeWanted wanted).fault = none) : wanted.Fits := by
  cases wanted with
  | byId id => trivial
  | byName name => exact Contents.length_lt_of_fault_encodeHeaded h

/-- What is asked for begins with a tag of its own, so it is not taken for a range. -/
theorem absent_encodeWanted (h : wanted.Fits) (rest : Octets) :
    Parameter.Absent 0 ((encodeWanted wanted).octets ++ rest) := by
  cases wanted with
  | byId id =>
      obtain ⟨length, hbegins⟩ := Parameter.begins_encodeObjectId 2 id
      exact Parameter.absent_of_begins (hbegins.append rest) rfl
  | byName name =>
      obtain ⟨length, hbegins⟩ := Parameter.begins_encodeText h 3
      exact Parameter.absent_of_begins (hbegins.append rest) rfl

theorem reads_decodeWanted (h : wanted.Fits) (rest : Octets) :
    decodeWanted.Reads (encodeWanted wanted).octets wanted rest := by
  unfold decodeWanted
  cases wanted with
  | byId id =>
      obtain ⟨length, hbegins⟩ := Parameter.begins_encodeObjectId 2 id
      refine (hbegins.append rest).reads_peek.bind_nil ?_
      exact (Parameter.reads_objectId 2 id rest).map Wanted.byId
  | byName name =>
      obtain ⟨length, hbegins⟩ := Parameter.begins_encodeText h 3
      refine (hbegins.append rest).reads_peek.bind_nil ?_
      exact (Parameter.reads_text h 3 rest).map Wanted.byName

/-- What is behind the header. -/
def encodeBody (q : WhoHas) : Encoding :=
  DeviceRange.encodeOptional q.range ++ encodeWanted q.wanted

theorem encode_eq (q : WhoHas) : q.encode = UnconfirmedHeader.encode service ++ q.encodeBody :=
  Encoding.append_assoc ..

theorem octets_encode (q : WhoHas) :
    q.encode.octets = (UnconfirmedHeader.encode service).octets ++ q.encodeBody.octets := by
  rw [encode_eq, Encoding.octets_append (UnconfirmedHeader.fault_encode service)]

theorem fault_encode (h : q.wanted.Fits) : q.encode.fault = none := by
  simp [encode_eq, encodeBody, fault_encodeWanted h]

/-- A question has a written form only if a tag can count what it asks for. -/
theorem fits_of_fault_encode (h : q.encode.fault = none) : q.wanted.Fits :=
  fits_of_fault_encodeWanted (by simpa [encode_eq, encodeBody] using h)

/-- The body of a question for an object is read back. -/
theorem reads_decodeBody (h : q.wanted.Fits) : decodeBody.Reads q.encodeBody.octets q [] := by
  unfold decodeBody encodeBody
  rw [Encoding.octets_append (DeviceRange.fault_encodeOptional q.range)]
  refine (DeviceRange.reads_decodeOptional (absent_encodeWanted h []) q.range).bind ?_
  refine (reads_decodeWanted h []).bind_last ?_
  exact Decode.reads_expectEnd.bind_last (.pure q [])

theorem unread_eq_nil_of_decodeBody {q : WhoHas} {r r' : Reader}
    (h : decodeBody r = .ok q r') : r'.unread = [] := by
  unfold decodeBody at h
  obtain ⟨range, r₁, -, h⟩ := Decode.bind_eq_ok.1 h
  obtain ⟨wanted, r₂, -, h⟩ := Decode.bind_eq_ok.1 h
  exact Decode.unread_eq_nil_of_expectEnd h

end WhoHas

namespace IHave

variable {a : IHave}

theorem fault_encode (h : (Octets.ofString a.objectName).length + 1 < 0x100000000) :
    a.encode.fault = none := by
  simp [encode, Contents.encodeText, Contents.fault_encodeHeaded h]

/-- An announcement has a written form only if a tag can count its name. -/
theorem length_lt_of_fault_encode (h : a.encode.fault = none) :
    (Octets.ofString a.objectName).length + 1 < 0x100000000 := by
  have hname : (Contents.encodeText (.application .characterString) a.objectName).fault = none := by
    simpa [encode] using h
  exact Contents.length_lt_of_fault_encodeHeaded hname

/-- What is behind the header. -/
def encodeBody (a : IHave) : Encoding :=
  Contents.encodeWord32 (.application .objectId) a.deviceId.raw ++
    Contents.encodeWord32 (.application .objectId) a.objectId.raw ++
    Contents.encodeText (.application .characterString) a.objectName

theorem encode_eq (a : IHave) : a.encode = UnconfirmedHeader.encode service ++ a.encodeBody := by
  simp only [encode, encodeBody, Encoding.append_assoc]

theorem octets_encode (a : IHave) :
    a.encode.octets = (UnconfirmedHeader.encode service).octets ++ a.encodeBody.octets := by
  rw [encode_eq, Encoding.octets_append (UnconfirmedHeader.fault_encode service)]

theorem reads_decodeBody (h : (Octets.ofString a.objectName).length + 1 < 0x100000000)
    (rest : Octets) : decodeBody.Reads a.encodeBody.octets a rest := by
  unfold decodeBody encodeBody
  simp only [Encoding.append_assoc]
  rw [Encoding.octets_append (by simp), Encoding.octets_append (by simp)]
  refine (Contents.reads_appObjectId a.deviceId.raw _).bind ?_
  refine (Contents.reads_appObjectId a.objectId.raw _).bind ?_
  exact (Contents.reads_appText h rest).bind_pure _

/-- The announcement of an object is read back. -/
theorem outcome_decodeWith (h : a.encode.fault = none) :
    (UnconfirmedHeader.decodeWith service decodeBody).outcome a.encode.octets = .ok a := by
  rw [octets_encode]
  exact (UnconfirmedHeader.reads_decodeWith (reads_decodeBody (length_lt_of_fault_encode h) [])
    service).outcome

end IHave

/-! ## Announcements among messages -/

/-- An APDU is read to its end as the announcement of a device or of an object. -/
def IsAnnouncement (apdu : Octets) : Prop :=
  (∃ a, (UnconfirmedHeader.decodeWith IAm.service IAm.decodeBody).outcome apdu = .ok a) ∨
    ∃ a, (UnconfirmedHeader.decodeWith IHave.service IHave.decodeBody).outcome apdu = .ok a

theorem not_isAnnouncement_firstOctet {t : PduType} (h : t ≠ .unconfirmedRequest) (flags : UInt8)
    (rest : Octets) : ¬ IsAnnouncement (t.firstOctet flags :: rest) := by
  rintro (⟨a, ha⟩ | ⟨a, ha⟩)
  · exact h (UnconfirmedHeader.eq_unconfirmedRequest_of_decodeWith ha)
  · exact h (UnconfirmedHeader.eq_unconfirmedRequest_of_decodeWith ha)

end Bacnet
