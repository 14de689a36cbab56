import Bacnet.Proofs.Bounds.Reading
import Bacnet.Proofs.Contents
import Bacnet.Proofs.Value
import Bacnet.Responder

set_option autoImplicit false

/-! # Writing within bounds

A writer as it is kept is a buffer and a position in it, and a piece is copied over the part of the
buffer behind the position. The position stays in the buffer because each piece is written whole or
not at all (`Writing.ofEncoding_raw`), so all that a responder writes comes down to the pieces of
its encoding. The written forms themselves take the octets of an integer out of a word, and cut
lengths to the widths that tags and frames have for them; none of that goes out of bounds, and a
frame has a length field for every message that is not too long (`BvllFrame.writeNpdu_eq`). -/

namespace Bacnet

open Partial

/-! ## Writers as they are kept -/

/-- A buffer under writing: all its octets, and how many of them are written. -/
structure RawWriter where
  buffer : Octets
  position : Nat
deriving DecidableEq, Repr

/-- The writer after octets are copied behind what is written, if there is room for all of them. -/
def RawWriter.put? (w : RawWriter) (octets : Octets) : Checked (Option RawWriter) := do
  let room ← Checked.difference w.buffer.length w.position
  if room < octets.length then return none
  let buffer ← Checked.overwrite w.buffer w.position octets
  return some ⟨buffer, w.position + octets.length⟩

namespace Writer

/-- A writer as it is kept. -/
def raw (w : Writer) : RawWriter := ⟨w.buffer, w.position⟩

theorem difference_raw (w : Writer) :
    Checked.difference w.raw.buffer.length w.raw.position = .ok w.remaining := by
  have hbuffer : w.raw.buffer.length = w.raw.position + w.remaining := List.length_append
  rw [hbuffer, Checked.difference_of_le (Nat.le_add_right ..), Nat.add_sub_cancel_left]

variable {w : Writer} {octets : Octets}

theorem put?_raw_of_le (h : octets.length ≤ w.remaining) :
    w.raw.put? octets = .ok (some (w.advance octets).raw) := by
  have hcopy : Checked.overwrite w.raw.buffer w.raw.position octets
      = .ok (w.advance octets).raw.buffer := by
    have hparts : w.raw.buffer
        = w.written ++ w.room.take octets.length ++ w.room.drop octets.length := by
      rw [List.append_assoc, List.take_append_drop]
      rfl
    rw [hparts]
    exact Checked.overwrite_append _ _ _ _ (List.length_take_of_le h).symm
  have hposition : w.raw.position + octets.length = (w.advance octets).raw.position :=
    List.length_append.symm
  rw [RawWriter.put?, difference_raw, Checked.ok_bind, if_neg (Nat.not_lt.2 h), hcopy, hposition]
  rfl

theorem put?_raw_of_lt (h : w.remaining < octets.length) : w.raw.put? octets = .ok none := by
  rw [RawWriter.put?, difference_raw, Checked.ok_bind, if_pos h]
  rfl

end Writer

/-- A writing with operations that have bounds. -/
abbrev Writing := Partial EncodeError RawWriter

namespace Writing

/-! ## Pieces -/

/-- Writes octets, whole or not at all. -/
def piece (octets : Octets) : Writing Unit := fun w =>
  match w.put? octets with
  | .ok (some w) => .ok () w
  | .ok none => .error (.error .bufferTooSmall) w
  | .error f => .error (.fault f) w

/-- Writes an octet. -/
def octet (o : UInt8) : Writing Unit := piece [o]

/-- Writes pieces in order, and ends in the failure behind them. -/
def pieces : List Octets → Option EncodeError → Writing Unit
  | [], none => pure ()
  | [], some e => fail e
  | p :: ps, fault => do
    piece p
    pieces ps fault

/-- Writes an encoding. -/
def ofEncoding (e : Encoding) : Writing Unit := pieces e.pieces e.fault

theorem pieces_raw (ps : List Octets) (fault : Option EncodeError) (w : Writer) :
    pieces ps fault w.raw = match Writer.putPieces ps fault w with
      | .ok () w' => .ok () w'.raw
      | .error e w' => .error (.error e) w'.raw := by
  induction ps generalizing w with
  | nil =>
      cases fault with
      | none => rfl
      | some e => rfl
  | cons p ps ih =>
      show EStateM.bind (piece p) (fun _ => pieces ps fault) w.raw = _
      rcases Nat.lt_or_ge w.remaining p.length with hcut | hroom
      · simp only [EStateM.bind, piece, Writer.put?_raw_of_lt hcut,
          Writer.putPieces_cons_of_lt hcut]
      · simp only [EStateM.bind, piece, Writer.put?_raw_of_le hroom, Writer.putPieces_cons hroom,
          ih]

/-- What is written of an encoding, the room that there is for it and the failure in which the
    writing ends are those of the writer that is kept so. -/
theorem ofEncoding_raw (e : Encoding) (w : Writer) :
    ofEncoding e w.raw = match Writer.put e w with
      | .ok () w' => .ok () w'.raw
      | .error e w' => .error (.error e) w'.raw := pieces_raw ..

/-- What a writing puts into the part of a buffer in front of a limit: the buffer in front of where
    it ends. -/
def into (writing : Writing Unit) (buffer : Octets) (limit : Nat) :
    Checked (Except EncodeError Octets) := do
  let part ← Checked.upTo buffer limit
  match writing ⟨part, 0⟩ with
  | .ok () w => return .ok (← Checked.upTo (w.buffer ++ buffer.drop limit) w.position)
  | .error (.error e) _ => return .error e
  | .error (.fault f) _ => throw f

theorem into_ofEncoding (e : Encoding) {capacity limit : Nat} (h : limit ≤ capacity) :
    into (ofEncoding e) (List.replicate capacity 0) limit = .ok (e.within limit) := by
  have hpart : Checked.upTo (List.replicate capacity (0 : UInt8)) limit
      = .ok (List.replicate limit 0) := by
    rw [Checked.upTo_of_le (by rwa [List.length_replicate]), List.take_replicate,
      Nat.min_eq_left h]
  have hrun : ofEncoding e ⟨List.replicate limit 0, 0⟩ = match (Writer.ofCapacity limit).put e with
      | .ok () w => .ok () w.raw
      | .error e w => .error (.error e) w.raw := ofEncoding_raw e (.ofCapacity limit)
  rw [into, hpart, Checked.ok_bind, hrun, Encoding.within]
  cases (Writer.ofCapacity limit).put e with
  | error e w => rfl
  | ok _ w =>
      have hwritten (rest : Octets) : Checked.upTo (w.raw.buffer ++ rest) w.raw.position
          = .ok w.written := by
        show Checked.upTo (w.written ++ w.room ++ rest) w.written.length = _
        rw [List.append_assoc, Checked.upTo_of_le (by simp), List.take_left]
      simp only [hwritten]
      rfl

/-! ## Encodings in parts -/

@[simp] theorem ofEncoding_empty : ofEncoding .empty = pure () := rfl

@[simp] theorem ofEncoding_fail (e : EncodeError) : ofEncoding (.fail e) = fail e := rfl

@[simp] theorem ofEncoding_piece (octets : Octets) : ofEncoding (.piece octets) = piece octets :=
  bind_pure _

@[simp] theorem ofEncoding_octet (o : UInt8) : ofEncoding (.octet o) = octet o := bind_pure _

theorem pieces_append (ps qs : List Octets) (fault : Option EncodeError) :
    pieces (ps ++ qs) fault = (do pieces ps none; pieces qs fault) := by
  induction ps with
  | nil => rfl
  | cons p ps ih => rw [List.cons_append, pieces, pieces, ih, bind_assoc]

theorem pieces_some_bind (ps : List Octets) (e : EncodeError) (x : Writing Unit) :
    (do pieces ps (some e); x) = pieces ps (some e) := by
  induction ps with
  | nil => rfl
  | cons p ps ih => rw [pieces, bind_assoc, ih]

@[simp] theorem ofEncoding_append (a b : Encoding) :
    ofEncoding (a ++ b) = (do ofEncoding a; ofEncoding b) := by
  obtain ⟨ps, fault⟩ := a
  cases fault with
  | none => exact pieces_append ps b.pieces b.fault
  | some e => exact (pieces_some_bind ps e _).symm

@[simp] theorem ofEncoding_ite (c : Prop) [Decidable c] (a b : Encoding) :
    ofEncoding (if c then a else b) = if c then ofEncoding a else ofEncoding b := by
  by_cases h : c
  · rw [if_pos h, if_pos h]
  · rw [if_neg h, if_neg h]

@[simp] theorem ofEncoding_elim {α : Type} (a? : Option α) (encode : α → Encoding) :
    ofEncoding (a?.elim .empty encode) = a?.elim (pure ()) fun a => ofEncoding (encode a) := by
  cases a? with
  | none => rfl
  | some a => rfl

@[simp] theorem ofEncoding_concat {α : Type} (as : List α) (encode : α → Encoding) :
    ofEncoding (.concat (as.map encode)) = as.forM fun a => ofEncoding (encode a) := by
  induction as with
  | nil => rfl
  | cons a as ih => simp [ih]

end Writing

/-! ## Tags -/

namespace Tag

/-- Writes the initial octet with the octet for a large number. -/
def writeInitial (number low : UInt8) : Writing Unit :=
  if number < extendedNumber then Writing.octet (number <<< 4 ||| low)
  else do
    Writing.octet (extendedNumber <<< 4 ||| low)
    Writing.octet number

/-- Writes a length of 5 or more, cut to as few octets as its size allows. -/
def writeLength (length : UInt32) : Writing Unit := do
  if length ≤ 253 then Writing.octet (← Checked.toUInt8 length.toNat)
  else if length ≤ 0xFFFF then
    Writing.octet 254
    Writing.piece (Octets.ofUInt16 (← Checked.toUInt16 length.toNat))
  else
    Writing.octet 255
    Writing.piece (Octets.ofUInt32 length)

/-- Writes a tag with a length. -/
def writeWithLength (number classBit : UInt8) (length : UInt32) : Writing Unit := do
  if length < 5 then writeInitial number (classBit ||| (← Checked.toUInt8 length.toNat))
  else
    writeInitial number (classBit ||| extendedLength)
    writeLength length

def write : Tag → Writing Unit
  | application tag length => writeWithLength tag.number 0 length
  | context number length => writeWithLength number contextClass length
  | opening number => writeInitial number (contextClass ||| openingBits)
  | closing number => writeInitial number (contextClass ||| closingBits)

@[simp] theorem writeInitial_eq (number low : UInt8) :
    writeInitial number low = .ofEncoding (encodeInitial number low) := by
  simp [writeInitial, encodeInitial]

@[simp] theorem writeLength_eq (length : UInt32) :
    writeLength length = .ofEncoding (encodeLength length) := by
  by_cases hoctet : length ≤ 253
  · have hle : length.toNat ≤ 253 := UInt32.le_iff_toNat_le.1 hoctet
    have hlt : length.toNat < 0x100 := Nat.lt_of_le_of_lt hle (by decide)
    simp [writeLength, encodeLength, hoctet, Checked.toUInt8_of_lt hlt]
  by_cases hword : length ≤ 0xFFFF
  · have hle : length.toNat ≤ 0xFFFF := UInt32.le_iff_toNat_le.1 hword
    have hlt : length.toNat < 0x10000 := Nat.lt_of_le_of_lt hle (by decide)
    simp [writeLength, encodeLength, hoctet, hword, Checked.toUInt16_of_lt hlt]
  · simp [writeLength, encodeLength, hoctet, hword]

@[simp] theorem writeWithLength_eq (number classBit : UInt8) (length : UInt32) :
    writeWithLength number classBit length
      = .ofEncoding (encodeWithLength number classBit length) := by
  by_cases hshort : length < 5
  · have hlt : length.toNat < 0x100 := Nat.lt_trans (UInt32.lt_iff_toNat_lt.1 hshort) (by decide)
    simp [writeWithLength, encodeWithLength, hshort, Checked.toUInt8_of_lt hlt]
  · simp [writeWithLength, encodeWithLength, hshort]

@[simp] theorem write_eq (t : Tag) : t.write = .ofEncoding t.encode := by
  cases t with
  | _ => simp [write, encode]

end Tag

/-- Writes a body between the opening and the closing tag with a number. -/
def Writing.bracketed (number : UInt8) (body : Writing Unit) : Writing Unit := do
  (Tag.opening number).write
  body
  (Tag.closing number).write

@[simp] theorem Writing.bracketed_eq (number : UInt8) (body : Encoding) :
    bracketed number (ofEncoding body) = ofEncoding (.bracketed number body) := by
  simp [bracketed, Encoding.bracketed]

/-! ## Contents and parameters -/

namespace Contents

/-- The octets of a word behind those that are left out so as to leave a number of them. -/
def lastOctets (width : Nat) (word : UInt32) : Checked Octets := do
  let skip ← Checked.difference 4 width
  Checked.behind (Octets.ofUInt32 word) skip

/-- Writes contents behind a tag that counts them. -/
def writeTagged (tag : UInt32 → Tag) (contents : Octets) : Writing Unit := do
  (tag (← Checked.toUInt32 contents.length)).write
  Writing.piece contents

/-- Writes an unsigned integer behind its tag. -/
def writeUnsigned (tag : UInt32 → Tag) (n : UInt32) : Writing Unit := do
  writeTagged tag (← lastOctets (unsignedWidth n) n)

def writeSigned (tag : UInt32 → Tag) (n : Int32) : Writing Unit := do
  writeTagged tag (← lastOctets (signedWidth n) n.toUInt32)

/-- Writes an octet and further octets behind a tag that counts both. -/
def writeHeaded (tag : UInt32 → Tag) (head : UInt8) (octets : Octets) : Writing Unit := do
  let length := octets.length + 1
  if length < 0x100000000 then
    (tag (← Checked.toUInt32 length)).write
    Writing.octet head
    Writing.piece octets
  else fail .valueOutOfRange

theorem lastOctets_eq {width : Nat} (h : width ≤ 4) (word : UInt32) :
    lastOctets width word = .ok (Octets.ofNat width word.toNat) := by
  have hparts : 4 - width + width = 4 := Nat.sub_add_cancel h
  have hskip : 4 - width ≤ (Octets.ofUInt32 word).length := by
    rw [Octets.length_ofUInt32]
    exact Nat.sub_le ..
  rw [lastOctets, Checked.difference_of_le h, Checked.ok_bind, Checked.behind_of_le hskip,
    Octets.ofUInt32, ← Octets.drop_ofNat (4 - width) width, hparts]

theorem writeTagged_eq (tag : UInt32 → Tag) {contents : Octets}
    (h : contents.length < 0x100000000) :
    writeTagged tag contents = .ofEncoding (tagged tag contents) := by
  simp [writeTagged, tagged, Checked.toUInt32_of_lt h]

@[simp] theorem writeUnsigned_eq (tag : UInt32 → Tag) (n : UInt32) :
    writeUnsigned tag n = .ofEncoding (encodeUnsigned tag n) := by
  obtain ⟨-, hwidth, -⟩ := unsignedWidth_bounds n
  rw [writeUnsigned, lastOctets_eq hwidth, liftM_ok, pure_bind]
  exact writeTagged_eq tag (length_ofUnsigned_lt n)

@[simp] theorem writeSigned_eq (tag : UInt32 → Tag) (n : Int32) :
    writeSigned tag n = .ofEncoding (encodeSigned tag n) := by
  obtain ⟨k, hk, hwidth, -, -⟩ := signedWidth_bounds n
  rw [writeSigned, lastOctets_eq (by omega), liftM_ok, pure_bind]
  exact writeTagged_eq tag (length_ofSigned_lt n)

@[simp] theorem writeHeaded_eq (tag : UInt32 → Tag) (head : UInt8) (octets : Octets) :
    writeHeaded tag head octets = .ofEncoding (encodeHeaded tag head octets) := by
  by_cases h : octets.length + 1 < 0x100000000
  · simp [writeHeaded, encodeHeaded, h, Checked.toUInt32_of_lt h]
  · simp [writeHeaded, encodeHeaded, h]

/-- Writes a word of four octets behind its tag. -/
def writeWord32 (tag : UInt32 → Tag) (word : UInt32) : Writing Unit :=
  writeTagged tag (Octets.ofUInt32 word)

/-- Writes a word of eight octets behind its tag. -/
def writeWord64 (tag : UInt32 → Tag) (word : UInt64) : Writing Unit :=
  writeTagged tag (Octets.ofUInt64 word)

def writeText (tag : UInt32 → Tag) (text : String) : Writing Unit :=
  writeHeaded tag utf8Charset (Octets.ofString text)

@[simp] theorem writeWord32_eq (tag : UInt32 → Tag) (word : UInt32) :
    writeWord32 tag word = .ofEncoding (encodeWord32 tag word) :=
  writeTagged_eq tag (by simp)

@[simp] theorem writeWord64_eq (tag : UInt32 → Tag) (word : UInt64) :
    writeWord64 tag word = .ofEncoding (encodeWord64 tag word) :=
  writeTagged_eq tag (by simp)

@[simp] theorem writeText_eq (tag : UInt32 → Tag) (text : String) :
    writeText tag text = .ofEncoding (encodeText tag text) := writeHeaded_eq ..

end Contents

namespace Parameter

def writeUnsigned (number : UInt8) (n : UInt32) : Writing Unit :=
  Contents.writeUnsigned (.context number) n

def writeOptional (number : UInt8) (n : Option UInt32) : Writing Unit :=
  n.elim (pure ()) (writeUnsigned number)

def writeObjectId (number : UInt8) (id : ObjectId) : Writing Unit :=
  Contents.writeWord32 (.context number) id.raw

@[simp] theorem writeUnsigned_eq (number : UInt8) (n : UInt32) :
    writeUnsigned number n = .ofEncoding (encodeUnsigned number n) := Contents.writeUnsigned_eq ..

@[simp] theorem writeOptional_eq (number : UInt8) (n : Option UInt32) :
    writeOptional number n = .ofEncoding (encodeOptional number n) := by
  cases n with
  | none => rfl
  | some n => exact writeUnsigned_eq number n

@[simp] theorem writeObjectId_eq (number : UInt8) (id : ObjectId) :
    writeObjectId number id = .ofEncoding (encodeObjectId number id) := Contents.writeWord32_eq ..

end Parameter

/-! ## Values -/

namespace Value

mutual

/-- Writes a value behind the application tag of its datatype. -/
def write : Value → Writing Unit
  | null => (Tag.application .null 0).write
  | boolean b => (Tag.application .boolean b.toUInt32).write
  | unsigned n => Contents.writeUnsigned (.application .unsignedInt) n
  | signed n => Contents.writeSigned (.application .signedInt) n
  | real bits => Contents.writeWord32 (.application .real) bits
  | double bits => Contents.writeWord64 (.application .double) bits
  | characterString text => Contents.writeText (.application .characterString) text
  | bitString bits =>
    if 7 < bits.unusedBits then fail .valueOutOfRange
    else Contents.writeHeaded (.application .bitString) bits.unusedBits bits.octets
  | enumerated code => Contents.writeUnsigned (.application .enumerated) code
  | objectId id => Contents.writeWord32 (.application .objectId) id.raw
  | list items => writeAll items

/-- Writes values back to back. -/
def writeAll : List Value → Writing Unit
  | [] => pure ()
  | item :: items => do
    write item
    writeAll items

end

mutual

theorem write_eq : ∀ v : Value, v.write = .ofEncoding v.encode
  | list items => by rw [write, encode, writeAll_eq items]
  | null | boolean _ | unsigned _ | signed _ | real _ | double _ | characterString _
  | bitString _ | enumerated _ | objectId _ => by simp [write, encode]

theorem writeAll_eq : ∀ vs : List Value, writeAll vs = .ofEncoding (encodeAll vs)
  | [] => rfl
  | v :: vs => by
      rw [writeAll, encodeAll, Writing.ofEncoding_append, write_eq v, writeAll_eq vs]

end

attribute [simp] write_eq

end Value

/-! ## Answers -/

def UnconfirmedHeader.write (service : UInt8) : Writing Unit := do
  Writing.octet (PduType.unconfirmedRequest.firstOctet 0)
  Writing.octet service

@[simp] theorem UnconfirmedHeader.write_eq (service : UInt8) :
    write service = .ofEncoding (encode service) := by
  simp [write, encode]

def ComplexAckHeader.write (h : ComplexAckHeader) : Writing Unit := do
  Writing.octet (PduType.complexAck.firstOctet 0)
  Writing.octet h.invokeId
  Writing.octet h.service

@[simp] theorem ComplexAckHeader.write_eq (h : ComplexAckHeader) :
    h.write = .ofEncoding h.encode := by
  simp [write, encode]

def ErrorPdu.write (e : ErrorPdu) : Writing Unit := do
  Writing.octet (PduType.error.firstOctet 0)
  Writing.octet e.invokeId
  Writing.octet e.service
  Contents.writeUnsigned (.application .enumerated) e.errorClass
  Contents.writeUnsigned (.application .enumerated) e.errorCode

@[simp] theorem ErrorPdu.write_eq (e : ErrorPdu) : e.write = .ofEncoding e.encode := by
  simp [write, encode]

def RejectPdu.write (p : RejectPdu) : Writing Unit :=
  Writing.piece [PduType.reject.firstOctet 0, p.invokeId, p.reason]

@[simp] theorem RejectPdu.write_eq (p : RejectPdu) : p.write = .ofEncoding p.encode := by
  simp [write, encode]

def IAm.write (a : IAm) : Writing Unit := do
  UnconfirmedHeader.write service
  Contents.writeWord32 (.application .objectId) a.deviceId.raw
  Contents.writeUnsigned (.application .unsignedInt) a.maxApdu
  Contents.writeUnsigned (.application .enumerated) a.segmentation
  Contents.writeUnsigned (.application .unsignedInt) a.vendorId

@[simp] theorem IAm.write_eq (a : IAm) : a.write = .ofEncoding a.encode := by
  simp [write, encode]

def IHave.write (a : IHave) : Writing Unit := do
  UnconfirmedHeader.write service
  Contents.writeWord32 (.application .objectId) a.deviceId.raw
  Contents.writeWord32 (.application .objectId) a.objectId.raw
  Contents.writeText (.application .characterString) a.objectName

@[simp] theorem IHave.write_eq (a : IHave) : a.write = .ofEncoding a.encode := by
  simp [write, encode]

def ReadProperty.writeReference (q : ReadProperty) : Writing Unit := do
  Parameter.writeObjectId 0 q.objectId
  Parameter.writeUnsigned 1 q.property.code
  Parameter.writeOptional 2 q.index

@[simp] theorem ReadProperty.writeReference_eq (q : ReadProperty) :
    q.writeReference = .ofEncoding q.encodeReference := by
  simp [writeReference, encodeReference]

def ReadPropertyAck.write (a : ReadPropertyAck) (invokeId : UInt8) : Writing Unit := do
  (ComplexAckHeader.mk invokeId ReadProperty.service).write
  a.reference.writeReference
  Writing.bracketed 3 a.value.write

@[simp] theorem ReadPropertyAck.write_eq (a : ReadPropertyAck) (invokeId : UInt8) :
    a.write invokeId = .ofEncoding (a.encode invokeId) := by
  simp [write, encode]

def AccessError.write (e : AccessError) : Writing Unit := do
  Contents.writeUnsigned (.application .enumerated) e.errorClass
  Contents.writeUnsigned (.application .enumerated) e.errorCode

@[simp] theorem AccessError.write_eq (e : AccessError) : e.write = .ofEncoding e.encode := by
  simp [write, encode]

namespace AccessElement

/-- Writes the value between one pair of brackets or the error between another. -/
def writeResult : Except AccessError Value → Writing Unit
  | .ok value => Writing.bracketed 4 value.write
  | .error e => Writing.bracketed 5 e.write

def write (element : AccessElement) : Writing Unit := do
  Parameter.writeUnsigned 2 element.reference.property.code
  Parameter.writeOptional 3 element.reference.index
  writeResult element.result

@[simp] theorem writeResult_eq (result : Except AccessError Value) :
    writeResult result = .ofEncoding (encodeResult result) := by
  cases result with
  | ok value => simp [writeResult, encodeResult]
  | error e => simp [writeResult, encodeResult]

@[simp] theorem write_eq (element : AccessElement) :
    element.write = .ofEncoding element.encode := by
  simp [write, encode]

end AccessElement

def AccessResult.write (result : AccessResult) : Writing Unit := do
  Parameter.writeObjectId 0 result.objectId
  Writing.bracketed 1 (result.elements.forM (·.write))

@[simp] theorem AccessResult.write_eq (result : AccessResult) :
    result.write = .ofEncoding result.encode := by
  simp [write, encode, ← Writing.ofEncoding_concat]

def ReadPropertyMultipleAck.write (a : ReadPropertyMultipleAck) (invokeId : UInt8) :
    Writing Unit := do
  (ComplexAckHeader.mk invokeId ReadPropertyMultiple.service).write
  a.results.forM (·.write)

@[simp] theorem ReadPropertyMultipleAck.write_eq (a : ReadPropertyMultipleAck) (invokeId : UInt8) :
    a.write invokeId = .ofEncoding (a.encode invokeId) := by
  simp [write, encode]

/-- Writes the whole APDU, if there is one. -/
def Reply.write? : Reply → Option (Writing Unit)
  | silence => none
  | iAm a => some a.write
  | iHave a => some a.write
  | readPropertyAck requester _ a => some (a.write requester.invokeId)
  | readPropertyMultipleAck requester a => some (a.write requester.invokeId)
  | error e => some e.write
  | reject r => some r.write

@[simp] theorem Reply.write?_eq (reply : Reply) :
    reply.write? = reply.encode?.map .ofEncoding := by
  cases reply with
  | _ => simp [write?, encode?]

/-! ## Headers -/

namespace NetworkAddress

/-- The six octets that are kept of an address. -/
def kept (a : NetworkAddress) : Octets :=
  a.mac ++ List.replicate (maxMacLength - a.mac.length) 0

/-- Writes an address: of the octets that are kept, those that its length counts. -/
def write (a : NetworkAddress) : Writing Unit := do
  let length := UInt8.ofNat a.mac.length
  if maxMacLength < a.mac.length then fail .invalidLength
  else
    Writing.piece (Octets.ofUInt16 a.network)
    Writing.octet length
    Writing.piece (← macOf a.kept length.toNat)

@[simp] theorem write_eq (a : NetworkAddress) : a.write = .ofEncoding a.encode := by
  by_cases hlong : maxMacLength < a.mac.length
  · simp [write, encode, hlong]
  have hlength : a.mac.length ≤ maxMacLength := Nat.not_lt.1 hlong
  have hcount : (UInt8.ofNat a.mac.length).toNat = a.mac.length :=
    UInt8.toNat_ofNat_of_lt' (Nat.lt_of_le_of_lt hlength (by decide))
  have hmac : macOf a.kept a.mac.length = .ok a.mac := by
    rw [macOf, Nat.min_eq_left hlength, kept, Checked.upTo_of_le (by simp), List.take_left]
  simp [write, encode, hlong, hcount, hmac]

end NetworkAddress

namespace Npdu

/-- Runs a writing if a condition holds. -/
def writeIf (condition : Bool) (writing : Writing Unit) : Writing Unit :=
  if condition then writing else pure ()

/-- Writes the type and the vendor of a network message. -/
def writeMessage (message : NetworkMessage) : Writing Unit := do
  Writing.octet message.messageType
  writeIf (isProprietary message.messageType)
    (Writing.piece (Octets.ofUInt16 (message.vendorId.getD 0)))

def write (h : Npdu) : Writing Unit := do
  Writing.piece [version, h.control]
  h.destination.elim (pure ()) (·.write)
  h.source.elim (pure ()) (·.write)
  writeIf h.destination.isSome (Writing.octet (h.hopCount.getD fullHopCount))
  writeIf h.isNetworkMessage (writeMessage (h.networkMessage.getD ⟨0, none⟩))

@[simp] theorem writeMessage_eq (message : NetworkMessage) :
    writeMessage message = .ofEncoding (encodeMessage message) := by
  simp [writeMessage, encodeMessage, writeIf]

@[simp] theorem write_eq (h : Npdu) : h.write = .ofEncoding h.encode := by
  simp [write, encode, writeIf]

end Npdu

/-- Writes a message that sets out, as a frame, its length cut to a word. -/
def BvllFrame.writeNpdu (broadcast : Bool) (npdu : Octets) : Writing Unit := do
  let length ← Checked.toUInt16 (headerLength + npdu.length)
  Writing.piece [type, (BvllFunction.ofBroadcast broadcast).code]
  Writing.piece (Octets.ofUInt16 length)
  Writing.piece npdu

theorem BvllFrame.writeNpdu_eq {npdu : Octets} (h : headerLength + npdu.length < 0x10000)
    (broadcast : Bool) : writeNpdu broadcast npdu = .ofEncoding (encodeNpdu broadcast npdu) := by
  simp [writeNpdu, encodeNpdu, h, Checked.toUInt16_of_lt h]

end Bacnet
