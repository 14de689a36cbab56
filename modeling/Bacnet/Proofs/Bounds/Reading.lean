import Bacnet.Proofs.Bounds.Partial
import Bacnet.Proofs.Reader
import Bacnet.Responder
import Mathlib.Data.Nat.Bitwise

set_option autoImplicit false

/-! # Reading within bounds

All that is read of a datagram goes through a few readings that split off the front of what is left
or copy it into an array, and each of them looks first how much is left. The address of a station is
copied into a part of six octets, after its length was looked at. So every reading that a responder
makes of a datagram is the image of one that has no bounds to keep (`Responder.readMessage_eq`,
`Indication.read?_eq`). The first octet of a signed integer is there because its length is looked at
(`Contents.readSigned_eq`). -/

namespace Bacnet

open Partial

/-- A reading with operations that have bounds. -/
abbrev Reading := Partial DecodeError Reader

namespace Reading

variable {α : Type}

/-! ## Primitive readings -/

/-- The next `n` octets, split off if there are as many. -/
def octets (n : Nat) : Reading Octets := fun r =>
  if r.remaining < n then .error (.error .unexpectedEnd) r
  else
    match Checked.upTo r.unread n, Checked.behind r.unread n with
    | .ok head, .ok tail => .ok head ⟨r.position + n, tail⟩
    | .error f, _ | _, .error f => .error (.fault f) r

/-- The next `n` octets, copied into an array of zeros. -/
def array (n : Nat) : Reading Octets := do
  Checked.copy (List.replicate n 0) (← octets n)

/-- The next octet. -/
def octet : Reading UInt8 := do
  Checked.item (← array 1) 0

/-- The next two octets as a word. -/
def word16 : Reading UInt16 := do return .ofNat (Octets.toNat (← array 2))

/-- The next four octets as a word. -/
def word32 : Reading UInt32 := do return .ofNat (Octets.toNat (← array 4))

/-- The outcome of a reading, with nothing consumed. -/
def peek (reading : Reading α) : Reading α := fun r =>
  match reading r with
  | .ok a _ => .ok a r
  | .error e _ => .error e r

/-- `many` with the octets that may still start an item and the items so far, latest first. -/
def many.go (step : Reading (Option α)) : (fuel : Octets) → List α → Reading (List α)
  | [], items => do
    match ← step with
    | none => return items.reverse
    | some _ => fail .unexpectedEnd
  | _ :: fuel, items => do
    match ← step with
    | none => return items.reverse
    | some item => many.go step fuel (item :: items)

/-- The items that `step` gives, up to where it gives none. -/
def many (step : Reading (Option α)) : Reading (List α) := fun r =>
  many.go step r.unread [] r

/-- What a reading makes of a whole input. -/
def outcome (reading : Reading α) (input : Octets) : Checked (Except DecodeError α) :=
  match reading (.ofOctets input) with
  | .ok a _ => .ok (.ok a)
  | .error (.error e) _ => .ok (.error e)
  | .error (.fault f) _ => .error f

@[simp] theorem octets_eq (n : Nat) : octets n = ofTotal (Decode.octets n) := by
  funext r
  obtain ⟨position, unread⟩ := r
  by_cases h : unread.length < n
  · have hshort : (unread.take n).length ≠ n := by
      rw [List.length_take]
      omega
    have htotal : Decode.octets n ⟨position, unread⟩ = .error .unexpectedEnd ⟨position, unread⟩ :=
      if_neg hshort
    rw [ofTotal, htotal]
    exact if_pos h
  · have hlong : n ≤ unread.length := Nat.not_lt.1 h
    have htotal : Decode.octets n ⟨position, unread⟩
        = .ok (unread.take n) ⟨position + n, unread.drop n⟩ :=
      if_pos (List.length_take_of_le hlong)
    rw [ofTotal, htotal]
    refine (if_neg h).trans ?_
    rw [Checked.upTo_of_le hlong, Checked.behind_of_le hlong]

@[simp] theorem array_eq (n : Nat) : array n = ofTotal (Decode.octets n) := by
  rw [array, octets_eq]
  refine (ofTotal_bind_congr fun r out r' h => ?_).trans (bind_pure _)
  have hlength : out.length = (List.replicate n (0 : UInt8)).length := by
    rw [List.length_replicate]
    exact Decode.length_of_octets h
  rw [Checked.copy_of_length_eq hlength]
  rfl

@[simp] theorem octet_eq : octet = ofTotal Decode.octet := by
  have htotal : Decode.octet = Decode.octets 1 >>= fun out => pure (out.headD 0) := by
    funext r
    obtain ⟨position, unread⟩ := r
    cases unread with
    | nil => rfl
    | cons o unread => rfl
  rw [octet, array_eq, htotal, ofTotal_bind]
  refine ofTotal_bind_congr fun r out r' h => ?_
  obtain ⟨o, rfl⟩ := List.length_eq_one_iff.1 (Decode.length_of_octets h)
  rfl

@[simp] theorem word16_eq : word16 = ofTotal Decode.word16 := by
  simp [word16, Decode.word16]

@[simp] theorem word32_eq : word32 = ofTotal Decode.word32 := by
  simp [word32, Decode.word32]

@[simp] theorem peek_eq (x : Decode α) : peek (ofTotal x) = ofTotal (Decode.peek x) := by
  funext r
  simp only [peek, ofTotal, Decode.peek]
  cases x r with
  | ok a r' => rfl
  | error e r' => rfl

theorem many_go_eq (step : Decode (Option α)) (fuel : Octets) (items : List α) :
    many.go (ofTotal step) fuel items = ofTotal (Decode.many.go step fuel items) := by
  induction fuel generalizing items with
  | nil =>
      rw [many.go, Decode.many.go, ofTotal_bind]
      refine bind_congr fun item? => ?_
      cases item? with
      | none => rfl
      | some item => rfl
  | cons o fuel ih =>
      rw [many.go, Decode.many.go, ofTotal_bind]
      refine bind_congr fun item? => ?_
      cases item? with
      | none => rfl
      | some item => exact ih (item :: items)

@[simp] theorem many_eq (step : Decode (Option α)) :
    many (ofTotal step) = ofTotal (Decode.many step) := by
  funext r
  exact congrFun (many_go_eq step r.unread []) r

theorem outcome_eq (x : Decode α) (input : Octets) :
    outcome (ofTotal x) input = .ok (x.outcome input) := by
  simp only [outcome, ofTotal, Decode.outcome]
  cases x (.ofOctets input) with
  | ok a r => rfl
  | error e r => rfl

end Reading

/-! ## Tags -/

namespace Tag

/-- The length that goes with the low bits of an initial octet. -/
def readLength (low : UInt8) : Reading UInt32 := do
  if low < extendedLength then return low.toUInt32
  if low ≠ extendedLength then fail .invalidLength
  match ← Reading.octet with
  | 254 => return (← Reading.word16).toUInt32
  | 255 => Reading.word32
  | short => return short.toUInt32

/-- Reads a tag. -/
def read : Reading Tag := do
  let initial ← Reading.octet
  let number ← if initial >>> 4 = extendedNumber then Reading.octet else pure (initial >>> 4)
  let low := initial &&& 0x07
  if initial &&& contextClass = 0 then
    match AppTag.ofNumber? number with
    | some tag => return application tag (← readLength low)
    | none => fail .invalidTag
  else if low = openingBits then return opening number
  else if low = closingBits then return closing number
  else return context number (← readLength low)

/-- The next tag, not consumed. -/
def readAhead : Reading Tag := Reading.peek read

/-- Reads a tag that has to be the given one. -/
def readExpected (expected : Tag) : Reading Unit := do
  if (← read) ≠ expected then fail .invalidTag

/-- Reads a context tag that has to have the given number, and gives its length. -/
def readContext (expected : UInt8) : Reading Nat := do
  match ← read with
  | context number length => if number = expected then return length.toNat else fail .invalidTag
  | _ => fail .invalidTag

@[simp] theorem readLength_eq (low : UInt8) : readLength low = ofTotal (decodeLength low) := by
  by_cases hshort : low < extendedLength
  · simp [readLength, decodeLength, hshort]
  by_cases hlong : low = extendedLength
  · simp only [readLength, decodeLength, hlong, ofTotal_bind, ofTotal_ite, Reading.octet_eq]
    refine bind_congr fun o => ?_
    split
    · simp
    · simp
    · simp
  · simp [readLength, decodeLength, hshort, hlong]

@[simp] theorem read_eq : read = ofTotal decode := by
  simp only [read, decode, Reading.octet_eq, readLength_eq, ofTotal_bind, ofTotal_ite, ofTotal_pure]
  refine bind_congr fun initial => ?_
  by_cases hnumber : initial >>> 4 = extendedNumber
  · simp only [if_pos hnumber]
    refine bind_congr fun number => ?_
    cases AppTag.ofNumber? number with
    | some tag => simp
    | none => simp
  · simp only [if_neg hnumber, pure_bind]
    cases AppTag.ofNumber? (initial >>> 4) with
    | some tag => simp
    | none => simp

@[simp] theorem readAhead_eq : readAhead = ofTotal peek := by
  simp [readAhead, peek]

@[simp] theorem readExpected_eq (expected : Tag) :
    readExpected expected = ofTotal (expect expected) := by
  simp [readExpected, expect]

@[simp] theorem readContext_eq (expected : UInt8) :
    readContext expected = ofTotal (expectContext expected) := by
  simp only [readContext, expectContext, read_eq, ofTotal_bind]
  refine bind_congr fun tag => ?_
  cases tag with
  | context number length => simp
  | _ => rfl

end Tag

/-! ## Contents and parameters -/

namespace Contents

/-- Reads an unsigned integer of a length. -/
def readUnsigned (length : Nat) : Reading UInt32 := do
  if length = 0 ∨ 4 < length then fail .invalidLength
  return .ofNat (Octets.toNat (← Reading.octets length))

/-- Reads a signed integer of a length: its octets are copied to the end of a word that is filled
    with its sign. -/
def readSigned (length : Nat) : Reading Int32 := do
  if length = 0 ∨ 4 < length then fail .invalidLength
  let octets ← Reading.octets length
  let sign ← Checked.item octets 0
  let fill : UInt8 := if sign &&& 0x80 ≠ 0 then 0xFF else 0
  let front ← Checked.difference 4 length
  let word ← Checked.overwrite (List.replicate 4 fill) front octets
  return (UInt32.ofNat (Octets.toNat word)).toInt32

/-- Reads a word of four octets. -/
def readWord32 (length : Nat) : Reading UInt32 := do
  if length ≠ 4 then fail .invalidLength
  Reading.word32

/-- Reads a text of a length. -/
def readText (length : Nat) : Reading String := do
  match ← Reading.octets length with
  | [] => fail .invalidLength
  | charset :: octets =>
    if charset ≠ utf8Charset then fail .unsupported
    match Octets.toString? octets with
    | some text => return text
    | none => fail .invalidValue

@[simp] theorem readUnsigned_eq (length : Nat) :
    readUnsigned length = ofTotal (decodeUnsigned length) := by
  simp [readUnsigned, decodeUnsigned]

/-- The first bit of an octet is set from the middle of the octets on. -/
theorem and_first_bit_eq_zero_iff (o : UInt8) : o &&& 0x80 = 0 ↔ o < 0x80 := by
  have hlt := o.toNat_lt
  have hbit : (o &&& 0x80).toNat = (o.toNat.testBit 7).toNat * 2 ^ 7 := by
    rw [UInt8.toNat_and, ← Nat.and_two_pow]
    rfl
  rw [← UInt8.toNat_inj, hbit, UInt8.lt_iff_toNat_lt, Nat.testBit_eq_decide_div_mod_eq]
  show _ = 0 ↔ o.toNat < 128
  by_cases h : o.toNat / 2 ^ 7 % 2 = 1
  · simp only [h, decide_true, Bool.toNat_true]
    omega
  · simp only [h, decide_false, Bool.toNat_false]
    omega

/-- Octets behind their sign, in a word, are the integer that they spell alone. -/
theorem toInt32_sign_append (o : UInt8) (octets : Octets) (h : octets.length ≤ 3) :
    (UInt32.ofNat (Octets.toNat (List.replicate (4 - (o :: octets).length)
      (if o &&& 0x80 ≠ 0 then 0xFF else 0) ++ o :: octets))).toInt32
      = signedOfOctets (o :: octets) := by
  have hlength : 4 - (o :: octets).length + (o :: octets).length = 4 := by
    rw [List.length_cons]
    omega
  rw [UInt32.toInt32_ofNat', ← Int32.ofInt_eq_ofNat, signedOfOctets, List.headD_cons]
  by_cases hsign : o < 0x80
  · have hbit : ¬(o &&& 0x80 ≠ 0) := not_not.2 ((and_first_bit_eq_zero_iff o).2 hsign)
    rw [if_neg hbit, Octets.toNat_zeros_append]
    exact (if_pos hsign).symm
  · have hbit : o &&& 0x80 ≠ 0 := mt (and_first_bit_eq_zero_iff o).1 hsign
    have hword := Octets.toNat_ones_append (4 - (o :: octets).length) (o :: octets)
    rw [hlength] at hword
    have hvalue :
        (Octets.toNat (List.replicate (4 - (o :: octets).length) 0xFF ++ o :: octets) : Int)
          = (Octets.toNat (o :: octets) - 256 ^ (o :: octets).length : Int) + 0x100000000 := by
      have hcast := congrArg (Nat.cast (R := Int)) hword
      push_cast at hcast
      omega
    rw [if_pos hbit, hvalue, Int32.ofInt_add]
    -- The word counts modulo its size.
    exact (Int32.add_zero _).trans (if_neg hsign).symm

theorem readSigned_eq (length : Nat) : readSigned length = ofTotal (decodeSigned length) := by
  simp only [readSigned, decodeSigned, Reading.octets_eq, ofTotal_bind, ofTotal_ite, ofTotal_throw]
  by_cases hlength : length = 0 ∨ 4 < length
  · simp only [if_pos hlength, fail_bind]
  simp only [if_neg hlength]
  refine ofTotal_bind_congr fun r octets r' h => ?_
  obtain rfl := Decode.length_of_octets h
  cases octets with
  | nil => exact absurd (Or.inl rfl) hlength
  | cons o octets =>
      have hle : (o :: octets).length ≤ 4 := Nat.not_lt.1 fun h => hlength (Or.inr h)
      have hfill (fill : UInt8) : List.replicate 4 fill
          = List.replicate (4 - (o :: octets).length) fill
            ++ List.replicate (o :: octets).length fill ++ [] := by
        rw [List.append_nil, List.replicate_append_replicate, Nat.sub_add_cancel hle]
      have hword (fill : UInt8) : Checked.overwrite (List.replicate 4 fill)
          (4 - (o :: octets).length) (o :: octets)
            = .ok (List.replicate (4 - (o :: octets).length) fill ++ o :: octets) := by
        have hcopy := Checked.overwrite_append (List.replicate (4 - (o :: octets).length) fill)
          (List.replicate (o :: octets).length fill) [] (o :: octets) List.length_replicate.symm
        rwa [← hfill, List.length_replicate, List.append_nil] at hcopy
      have hitem : Checked.item (o :: octets) 0 = .ok o := rfl
      simp only [hitem, Checked.difference_of_le hle, hword, liftM_ok, pure_bind, ofTotal_pure]
      rw [toInt32_sign_append o octets (Nat.le_of_succ_le_succ hle)]

@[simp] theorem readWord32_eq (length : Nat) :
    readWord32 length = ofTotal (decodeWord32 length) := by
  simp [readWord32, decodeWord32]

@[simp] theorem readText_eq (length : Nat) : readText length = ofTotal (decodeText length) := by
  simp only [readText, decodeText, Reading.octets_eq, ofTotal_bind]
  refine bind_congr fun octets => ?_
  cases octets with
  | nil => rfl
  | cons charset octets =>
      dsimp only
      cases Octets.toString? octets with
      | some text => simp
      | none => simp

end Contents

namespace Parameter

def readUnsigned (number : UInt8) : Reading UInt32 := do
  Contents.readUnsigned (← Tag.readContext number)

/-- Reads an unsigned parameter if its tag is next. -/
def readOptional (number : UInt8) : Reading (Option UInt32) := do
  if ← ofTotal Decode.atEnd then return none
  if (← Tag.readAhead).isContext number then some <$> readUnsigned number else return none

def readObjectId (number : UInt8) : Reading ObjectId := do
  return ⟨← Contents.readWord32 (← Tag.readContext number)⟩

@[simp] theorem readUnsigned_eq (number : UInt8) :
    readUnsigned number = ofTotal (decodeUnsigned number) := by
  simp [readUnsigned, decodeUnsigned]

@[simp] theorem readOptional_eq (number : UInt8) :
    readOptional number = ofTotal (decodeOptional number) := by
  simp [readOptional, decodeOptional]

@[simp] theorem readObjectId_eq (number : UInt8) :
    readObjectId number = ofTotal (decodeObjectId number) := by
  simp [readObjectId, decodeObjectId]

end Parameter

/-! ## Questions -/

/-- Reads the limits if the first of them is next. -/
def DeviceRange.readOptional : Reading (Option DeviceRange) := do
  match ← Parameter.readOptional 0 with
  | none => return none
  | some low => return some ⟨low, ← Parameter.readUnsigned 1⟩

@[simp] theorem DeviceRange.readOptional_eq : readOptional = ofTotal decodeOptional := by
  simp only [readOptional, decodeOptional, Parameter.readOptional_eq, ofTotal_bind]
  refine bind_congr fun low? => ?_
  cases low? with
  | none => rfl
  | some low => simp

def WhoIs.readBody : Reading WhoIs := do
  let range ← DeviceRange.readOptional
  ofTotal Decode.expectEnd
  return ⟨range⟩

@[simp] theorem WhoIs.readBody_eq : readBody = ofTotal decodeBody := by
  simp [readBody, decodeBody]

namespace WhoHas

/-- Reads the identifier or the name, whichever the next tag announces. -/
def readWanted : Reading Wanted := do
  match ← Tag.readAhead with
  | .context 2 _ => .byId <$> Parameter.readObjectId 2
  | .context 3 _ => .byName <$> (Tag.readContext 3 >>= Contents.readText)
  | _ => fail .invalidTag

def readBody : Reading WhoHas := do
  let range ← DeviceRange.readOptional
  let wanted ← readWanted
  ofTotal Decode.expectEnd
  return ⟨range, wanted⟩

@[simp] theorem readWanted_eq : readWanted = ofTotal decodeWanted := by
  simp only [readWanted, decodeWanted, Tag.readAhead_eq, ofTotal_bind]
  refine bind_congr fun tag => ?_
  split
  · simp
  · simp
  · simp

@[simp] theorem readBody_eq : readBody = ofTotal decodeBody := by
  simp [readBody, decodeBody]

end WhoHas

namespace ReadProperty

def readReference : Reading ReadProperty := do
  let objectId ← Parameter.readObjectId 0
  let property ← Parameter.readUnsigned 1
  let index ← Parameter.readOptional 2
  return ⟨objectId, ⟨property⟩, index⟩

def readBody : Reading ReadProperty := do
  let q ← readReference
  ofTotal Decode.expectEnd
  return q

@[simp] theorem readReference_eq : readReference = ofTotal decodeReference := by
  simp [readReference, decodeReference]

@[simp] theorem readBody_eq : readBody = ofTotal decodeBody := by
  simp [readBody, decodeBody]

end ReadProperty

def PropertyReference.read : Reading PropertyReference := do
  let property ← Parameter.readUnsigned 0
  let index ← Parameter.readOptional 1
  return ⟨⟨property⟩, index⟩

@[simp] theorem PropertyReference.read_eq : read = ofTotal decode := by
  simp [read, decode]

namespace Reading

variable {α : Type}

/-- Reads items up to the closing tag with a number, and the tag. -/
def manyUntilClosing (number : UInt8) (item : Reading α) : Reading (List α) := do
  let items ← many do
    if (← Tag.readAhead) = .closing number then return none
    some <$> item
  let _ ← Tag.read
  return items

/-- Reads items up to the end of the input. -/
def manyUntilEnd (item : Reading α) : Reading (List α) :=
  many do
    if ← ofTotal Decode.atEnd then return none
    some <$> item

@[simp] theorem manyUntilClosing_eq (number : UInt8) (item : Decode α) :
    manyUntilClosing number (ofTotal item) = ofTotal (Decode.manyUntilClosing number item) := by
  simp [manyUntilClosing, Decode.manyUntilClosing, ← many_eq]

@[simp] theorem manyUntilEnd_eq (item : Decode α) :
    manyUntilEnd (ofTotal item) = ofTotal (Decode.manyUntilEnd item) := by
  simp [manyUntilEnd, Decode.manyUntilEnd, ← many_eq]

end Reading

def AccessSpec.read : Reading AccessSpec := do
  let objectId ← Parameter.readObjectId 0
  Tag.readExpected (.opening 1)
  let references ← Reading.manyUntilClosing 1 PropertyReference.read
  if references.isEmpty then fail .invalidValue
  return ⟨objectId, references⟩

@[simp] theorem AccessSpec.read_eq : read = ofTotal decode := by
  simp [read, decode]

def ReadPropertyMultiple.readBody : Reading ReadPropertyMultiple := do
  let specs ← Reading.manyUntilEnd AccessSpec.read
  if specs.isEmpty then fail .unexpectedEnd
  return ⟨specs⟩

@[simp] theorem ReadPropertyMultiple.readBody_eq : readBody = ofTotal decodeBody := by
  simp [readBody, decodeBody]

/-! ## Requests -/

/-- Reads the first octet of an APDU that has to be of a type, and gives its flags. -/
def PduType.readFlags (t : PduType) : Reading UInt8 := do
  let octet ← Reading.octet
  if octet >>> 4 ≠ t.number then fail .invalidValue
  return octet &&& 0x0F

@[simp] theorem PduType.readFlags_eq (t : PduType) : t.readFlags = ofTotal t.decodeFlags := by
  simp [readFlags, decodeFlags]

namespace ConfirmedHeader

/-- Reads the sequence number and the window size of a segment. -/
def readSegment (flags : UInt8) : Reading (Option Segment) := do
  if flags &&& segmentedFlag = 0 then return none
  let sequenceNumber ← Reading.octet
  let windowSize ← Reading.octet
  return some ⟨sequenceNumber, windowSize, flags &&& moreFollowsFlag != 0⟩

def read : Reading ConfirmedHeader := do
  let flags ← PduType.confirmedRequest.readFlags
  let sizes ← Reading.octet
  let invokeId ← Reading.octet
  let segment ← readSegment flags
  let service ← Reading.octet
  return {
    segment
    segmentedResponseAccepted := flags &&& segmentedResponseFlag != 0
    maxSegments := (sizes >>> 4) &&& 0x07
    maxApdu := sizes &&& 0x0F
    invokeId
    service }

@[simp] theorem readSegment_eq (flags : UInt8) :
    readSegment flags = ofTotal (decodeSegment flags) := by
  simp [readSegment, decodeSegment]

@[simp] theorem read_eq : read = ofTotal decode := by
  simp [read, decode]

end ConfirmedHeader

def UnconfirmedHeader.read : Reading UInt8 := do
  let _ ← PduType.unconfirmedRequest.readFlags
  Reading.octet

@[simp] theorem UnconfirmedHeader.read_eq : read = ofTotal decode := by
  simp [read, decode]

namespace Request

/-- Reads the body of a confirmed request for a service. -/
def readConfirmed (service : UInt8) : Reading Request :=
  if service = ReadProperty.service then .readProperty <$> ReadProperty.readBody
  else if service = ReadPropertyMultiple.service then
    .readPropertyMultiple <$> ReadPropertyMultiple.readBody
  else pure (.unsupported service)

/-- Reads the body of an unconfirmed request for a service. -/
def readUnconfirmed (service : UInt8) : Reading Request :=
  if service = WhoHas.service then .whoHas <$> WhoHas.readBody
  else if service = WhoIs.service then .whoIs <$> WhoIs.readBody
  else pure (.unsupported service)

@[simp] theorem readConfirmed_eq (service : UInt8) :
    readConfirmed service = ofTotal (decodeConfirmed service) := by
  simp [readConfirmed, decodeConfirmed]

@[simp] theorem readUnconfirmed_eq (service : UInt8) :
    readUnconfirmed service = ofTotal (decodeUnconfirmed service) := by
  simp [readUnconfirmed, decodeUnconfirmed]

end Request

namespace Indication

/-- Reads a confirmed request in one segment. -/
def readConfirmed : Reading Indication := do
  let header ← ConfirmedHeader.read
  if header.isSegmented then fail .unsupported
  return ⟨some ⟨header.invokeId, header.maxApduOctets⟩, ← Request.readConfirmed header.service⟩

/-- Reads an unconfirmed request. -/
def readUnconfirmed : Reading Indication := do
  return ⟨none, ← Request.readUnconfirmed (← UnconfirmedHeader.read)⟩

@[simp] theorem readConfirmed_eq : readConfirmed = ofTotal decodeConfirmed := by
  simp [readConfirmed, decodeConfirmed]

@[simp] theorem readUnconfirmed_eq : readUnconfirmed = ofTotal decodeUnconfirmed := by
  simp [readUnconfirmed, decodeUnconfirmed]

/-- The request that the message behind a header makes, if it makes one. -/
def read? (header : Npdu) (apdu : Octets) : Checked (Option Indication) := do
  match MessageKind.of header apdu with
  | .pdu .confirmedRequest => return (← readConfirmed.outcome apdu).toOption
  | .pdu .unconfirmedRequest => return (← readUnconfirmed.outcome apdu).toOption
  | _ => return none

theorem read?_eq (header : Npdu) (apdu : Octets) :
    read? header apdu = .ok (ofApdu? header apdu) := by
  simp only [read?, ofApdu?, readConfirmed_eq, readUnconfirmed_eq, Reading.outcome_eq,
    Checked.ok_bind]
  cases MessageKind.of header apdu with
  | reserved number => rfl
  | unrecognized => rfl
  | pdu t =>
      cases t with
      | _ => rfl

end Indication

/-! ## Headers -/

namespace NetworkAddress

/-- The part of the six octets of an address that counts. -/
def macOf (kept : Octets) (length : Nat) : Checked Octets :=
  Checked.upTo kept (min length maxMacLength)

def read : Reading NetworkAddress := do
  let network ← Reading.word16
  let length ← Reading.octet
  let kept := List.replicate maxMacLength 0
  if maxMacLength < length.toNat then fail .invalidLength
  let part ← Checked.upTo kept length.toNat
  let octets ← Checked.copy part (← Reading.octets length.toNat)
  let mac ← macOf (octets ++ kept.drop length.toNat) length.toNat
  return ⟨network, mac⟩

@[simp] theorem read_eq : read = ofTotal decode := by
  simp only [read, decode, Reading.word16_eq, Reading.octet_eq, Reading.octets_eq, ofTotal_bind,
    ofTotal_ite, ofTotal_throw]
  refine bind_congr fun network => bind_congr fun length => ?_
  by_cases hlong : maxMacLength < length.toNat
  · simp only [if_pos hlong, fail_bind]
  simp only [if_neg hlong]
  have hlength : length.toNat ≤ maxMacLength := Nat.not_lt.1 hlong
  have hpart : Checked.upTo (List.replicate maxMacLength (0 : UInt8)) length.toNat
      = .ok (List.replicate length.toNat 0) := by
    rw [Checked.upTo_of_le (by rwa [List.length_replicate]), List.take_replicate,
      Nat.min_eq_left hlength]
  simp only [hpart, liftM_ok, pure_bind]
  refine ofTotal_bind_congr fun r mac r' h => ?_
  have hmac : mac.length = length.toNat := Decode.length_of_octets h
  have hcopy : Checked.copy (List.replicate length.toNat 0) mac = .ok mac :=
    Checked.copy_of_length_eq (by rw [hmac, List.length_replicate])
  have hkept : macOf (mac ++ (List.replicate maxMacLength 0).drop length.toNat) length.toNat
      = .ok mac := by
    rw [macOf, Nat.min_eq_left hlength, ← hmac, Checked.upTo_of_le (by simp), List.take_left]
  rw [hcopy, liftM_ok, pure_bind, hkept, liftM_ok, pure_bind, ofTotal_pure]

end NetworkAddress

namespace Npdu

/-- Runs a reading if a condition holds. -/
def readIf {α : Type} (condition : Bool) (reading : Reading α) : Reading (Option α) :=
  if condition then some <$> reading else pure none

/-- Reads the type of a network message, and the vendor of a proprietary one. -/
def readMessage : Reading NetworkMessage := do
  let messageType ← Reading.octet
  return ⟨messageType, ← readIf (isProprietary messageType) Reading.word16⟩

def read : Reading Npdu := do
  if (← Reading.octet) ≠ version then fail .invalidValue
  let control ← Reading.octet
  let destination ← readIf (control &&& destinationBit != 0) NetworkAddress.read
  let source ← readIf (control &&& sourceBit != 0) NetworkAddress.read
  let hopCount ← readIf destination.isSome Reading.octet
  let networkMessage ← readIf (control &&& networkMessageBit != 0) readMessage
  return ⟨control, destination, source, hopCount, networkMessage⟩

@[simp] theorem readIf_eq {α : Type} (condition : Bool) (x : Decode α) :
    readIf condition (ofTotal x) = ofTotal (decodeIf condition x) := by
  simp [readIf, decodeIf]

@[simp] theorem readMessage_eq : readMessage = ofTotal decodeMessage := by
  simp [readMessage, decodeMessage]

@[simp] theorem read_eq : read = ofTotal decode := by
  simp [read, decode]

end Npdu

namespace BvllFrame

/-- Reads the address and the port of an origin. -/
def readOrigin : Reading Endpoint := do
  let address ← Reading.word32
  let port ← Reading.word16
  return ⟨.ofWord address, port, 0⟩

/-- Reads a frame out of a datagram of a given length. -/
def readWithin (length : Nat) : Reading BvllFrame := do
  if (← Reading.octet) ≠ type then fail .invalidValue
  let code ← Reading.octet
  if (← Reading.word16).toNat ≠ length then fail .invalidLength
  match BvllFunction.ofCode? code with
  | none => fail .unsupported
  | some .forwardedNpdu =>
    let origin ← readOrigin
    return ⟨.forwardedNpdu, some origin, ← ofTotal Decode.rest⟩
  | some function => return ⟨function, none, ← ofTotal Decode.rest⟩

@[simp] theorem readOrigin_eq : readOrigin = ofTotal decodeOrigin := by
  simp [readOrigin, decodeOrigin]

@[simp] theorem readWithin_eq (length : Nat) :
    readWithin length = ofTotal (decodeWithin length) := by
  simp only [readWithin, decodeWithin, Reading.octet_eq, Reading.word16_eq, readOrigin_eq,
    ofTotal_bind, ofTotal_ite, ofTotal_throw]
  refine bind_congr fun first => ?_
  by_cases hfirst : first ≠ type
  · simp only [if_pos hfirst, fail_bind]
  simp only [if_neg hfirst]
  refine bind_congr fun code => bind_congr fun word => ?_
  by_cases hword : word.toNat ≠ length
  · simp only [if_pos hword, fail_bind]
  simp only [if_neg hword]
  cases BvllFunction.ofCode? code with
  | none => rfl
  | some function =>
      cases function with
      | forwardedNpdu => simp
      | _ => simp

end BvllFrame

/-- Reads the header of the network layer, and all behind it. -/
def Responder.readMessage : Reading (Npdu × Octets) := do
  let header ← Npdu.read
  return (header, ← ofTotal Decode.rest)

@[simp] theorem Responder.readMessage_eq : readMessage = ofTotal decodeMessage := by
  simp [readMessage, decodeMessage]

end Bacnet
