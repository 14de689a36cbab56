import Bacnet.Npdu
import Bacnet.Proofs.Reader
import Bacnet.Proofs.Writer

set_option autoImplicit false

/-! # NPDU headers read back

A header is well formed when its control bits announce exactly the fields it has and its MAC
addresses are not too long. Every header that is read is well formed (`wellFormed_of_decode`), and
every well-formed header is read back from its octets (`reads_decode`). Those are also the only
octets it is read from (`exact_decode`): bits that mean nothing are kept, and no field has a second
spelling. The header of an answer to a well-formed request is well formed and short. -/

namespace Bacnet

namespace NetworkAddress

variable {a : NetworkAddress}

theorem fault_encode (h : a.mac.length ≤ maxMacLength) : a.encode.fault = none := by
  rw [encode, if_neg (Nat.not_lt.2 h)]
  simp

theorem octets_encode (h : a.mac.length ≤ maxMacLength) :
    a.encode.octets = Octets.ofUInt16 a.network ++ UInt8.ofNat a.mac.length :: a.mac := by
  rw [encode, if_neg (Nat.not_lt.2 h)]
  simp

theorem reads_decode (h : a.mac.length ≤ maxMacLength) (rest : Octets) :
    decode.Reads a.encode.octets a rest := by
  have hlength : (UInt8.ofNat a.mac.length).toNat = a.mac.length :=
    UInt8.toNat_ofNat_of_lt' (Nat.lt_of_le_of_lt h (by decide))
  unfold decode
  rw [octets_encode h]
  refine (Decode.reads_word16 a.network _).bind ?_
  refine (Decode.reads_octet (.ofNat a.mac.length) _).bind ?_
  rw [hlength, if_neg (Nat.not_lt.2 h)]
  exact (Decode.reads_octets rfl rest).bind_pure _

theorem length_mac_of_decode {r r' : Reader} (h : decode r = .ok a r') :
    a.mac.length ≤ maxMacLength := by
  unfold decode at h
  obtain ⟨network, r₁, -, h⟩ := Decode.bind_eq_ok.1 h
  obtain ⟨length, r₂, -, h⟩ := Decode.bind_eq_ok.1 h
  obtain ⟨hle, h⟩ := Decode.of_guard_eq_ok h
  obtain ⟨mac, r₃, hmac, h⟩ := Decode.bind_eq_ok.1 h
  have hlength := Decode.length_of_octets hmac
  cases h
  show mac.length ≤ maxMacLength
  omega

theorem exact_decode : decode.Exact (·.encode.octets) := by
  intro r a r' h
  have hmac := length_mac_of_decode h
  unfold decode at h
  obtain ⟨network, r₁, hnetwork, h⟩ := Decode.bind_eq_ok.1 h
  obtain ⟨length, r₂, hlength, h⟩ := Decode.bind_eq_ok.1 h
  obtain ⟨-, h⟩ := Decode.of_guard_eq_ok h
  obtain ⟨mac, r₃, hoctets, h⟩ := Decode.bind_eq_ok.1 h
  have hcount : UInt8.ofNat mac.length = length := by
    rw [Decode.length_of_octets hoctets, UInt8.ofNat_toNat]
  have htail := (Decode.exact_octet.consumes hlength).trans
    ((Decode.exact_octets _).consumes hoctets)
  have hfields := (Decode.exact_word16.consumes hnetwork).trans htail
  cases h
  show r.Consumes (encode _).octets _
  rw [octets_encode hmac, hcount]
  exact hfields

end NetworkAddress

namespace Npdu

/-- The control bits of a header announce the fields that it has. -/
structure WellFormed (h : Npdu) : Prop where
  destination : h.destination.isSome = (h.control &&& destinationBit != 0)
  source : h.source.isSome = (h.control &&& sourceBit != 0)
  hopCount : h.hopCount.isSome = h.destination.isSome
  networkMessage : h.networkMessage.isSome = h.isNetworkMessage
  vendorId : ∀ m ∈ h.networkMessage, m.vendorId.isSome = isProprietary m.messageType
  destination_mac : ∀ a ∈ h.destination, a.mac.length ≤ NetworkAddress.maxMacLength
  source_mac : ∀ a ∈ h.source, a.mac.length ≤ NetworkAddress.maxMacLength

/-! ## Fields that are announced -/

section Announced

variable {α : Type} {condition : Bool} {field : Option α} {reading : Decode α} {rest : Octets}

theorem reads_decodeIf {written : α → Octets} (h : field.isSome = condition)
    (hread : ∀ a ∈ field, reading.Reads (written a) a rest) :
    (decodeIf condition reading).Reads (field.elim [] written) field rest := by
  subst h
  unfold decodeIf
  cases field with
  | none => exact .pure none rest
  | some a => exact (hread a rfl).map some

theorem isSome_of_decodeIf {r r' : Reader} (h : decodeIf condition reading r = .ok field r') :
    field.isSome = condition ∧ ∀ a ∈ field, ∃ r₁ r₂, reading r₁ = .ok a r₂ := by
  unfold decodeIf at h
  cases condition with
  | false => cases h; simp
  | true =>
      rw [if_pos rfl] at h
      obtain ⟨a, ha, rfl⟩ := Decode.map_eq_ok.1 h
      exact ⟨rfl, fun b hb => ⟨r, r', by cases hb; exact ha⟩⟩

theorem exact_decodeIf {written : α → Octets} (hread : reading.Exact written) :
    (decodeIf condition reading).Exact (·.elim [] written) := by
  intro r field r' h
  unfold decodeIf at h
  cases condition with
  | false =>
      cases h
      exact Reader.Consumes.nil r
  | true =>
      rw [if_pos rfl] at h
      obtain ⟨a, ha, rfl⟩ := Decode.map_eq_ok.1 h
      exact hread ha

end Announced

/-! ## Headers -/

theorem fault_encodeMessage (m : NetworkMessage) : (encodeMessage m).fault = none := by
  unfold encodeMessage
  split <;> simp

theorem octets_encodeMessage {m : NetworkMessage}
    (h : m.vendorId.isSome = isProprietary m.messageType) :
    (encodeMessage m).octets = m.messageType :: m.vendorId.elim [] Octets.ofUInt16 := by
  unfold encodeMessage
  rw [Encoding.octets_append (Encoding.fault_octet _), Encoding.octets_octet, ← h]
  cases m.vendorId <;> simp

theorem reads_decodeMessage {m : NetworkMessage}
    (h : m.vendorId.isSome = isProprietary m.messageType) (rest : Octets) :
    decodeMessage.Reads (encodeMessage m).octets m rest := by
  unfold decodeMessage
  rw [octets_encodeMessage h]
  refine (Decode.reads_octet m.messageType _).bind ?_
  exact (reads_decodeIf h fun vendor _ => Decode.reads_word16 vendor rest).bind_pure _

theorem isSome_vendorId_of_decodeMessage {m : NetworkMessage} {r r' : Reader}
    (h : decodeMessage r = .ok m r') : m.vendorId.isSome = isProprietary m.messageType := by
  unfold decodeMessage at h
  obtain ⟨messageType, r₁, -, h⟩ := Decode.bind_eq_ok.1 h
  obtain ⟨vendorId, r₂, hvendor, h⟩ := Decode.bind_eq_ok.1 h
  cases h
  exact (isSome_of_decodeIf hvendor).1

theorem exact_decodeMessage : decodeMessage.Exact (fun m => (encodeMessage m).octets) := by
  intro r m r' h
  have hannounced := isSome_vendorId_of_decodeMessage h
  unfold decodeMessage at h
  obtain ⟨messageType, r₁, htype, h⟩ := Decode.bind_eq_ok.1 h
  obtain ⟨vendorId, r₂, hvendor, h⟩ := Decode.bind_eq_ok.1 h
  have hfields := (Decode.exact_octet.consumes htype).trans
    ((exact_decodeIf Decode.exact_word16).consumes hvendor)
  cases h
  show r.Consumes (encodeMessage _).octets _
  rw [octets_encodeMessage hannounced]
  exact hfields

namespace WellFormed

variable {h : Npdu} (hwf : h.WellFormed)

include hwf

theorem fault_encodeAddresses :
    (h.destination.elim .empty (·.encode)).fault = none ∧
      (h.source.elim .empty (·.encode)).fault = none := by
  constructor
  · cases hd : h.destination with
    | none => rfl
    | some a => exact NetworkAddress.fault_encode (hwf.destination_mac a hd)
  · cases hs : h.source with
    | none => rfl
    | some a => exact NetworkAddress.fault_encode (hwf.source_mac a hs)

theorem fault_encode : h.encode.fault = none := by
  obtain ⟨hd, hs⟩ := hwf.fault_encodeAddresses
  unfold encode
  simp only [Encoding.fault_append, Encoding.fault_piece, hd, hs, Option.none_or]
  split <;> split <;> simp [fault_encodeMessage]

theorem octets_encode : h.encode.octets = version :: h.control ::
    (h.destination.elim [] (·.encode.octets) ++ (h.source.elim [] (·.encode.octets) ++
      (h.hopCount.elim [] ([·]) ++ h.networkMessage.elim [] fun m => (encodeMessage m).octets))) := by
  obtain ⟨hd, hs⟩ := hwf.fault_encodeAddresses
  have hmessage : (if h.isNetworkMessage then encodeMessage (h.networkMessage.getD ⟨0, none⟩)
      else .empty).octets = h.networkMessage.elim [] fun m => (encodeMessage m).octets := by
    rw [← hwf.networkMessage]
    cases h.networkMessage <;> simp
  have hhops : (if h.destination.isSome then Encoding.octet (h.hopCount.getD fullHopCount)
      else .empty).octets = h.hopCount.elim [] ([·]) := by
    rw [← hwf.hopCount]
    cases h.hopCount <;> simp
  have hhops' : (if h.destination.isSome then Encoding.octet (h.hopCount.getD fullHopCount)
      else .empty).fault = none := by
    split <;> simp
  have haddress : ∀ field : Option NetworkAddress, (field.elim Encoding.empty (·.encode)).octets
      = field.elim [] (·.encode.octets) := by
    intro field
    cases field <;> simp
  rw [encode, Encoding.octets_append, Encoding.octets_append, Encoding.octets_append,
    Encoding.octets_append, hmessage, hhops, haddress, haddress, Encoding.octets_piece]
  · simp
  all_goals simp [hd, hs, hhops']

/-- Every well-formed header is read back from its octets. -/
theorem reads_decode (rest : Octets) : decode.Reads h.encode.octets h rest := by
  unfold decode
  rw [hwf.octets_encode]
  refine (Decode.reads_octet version _).bind ?_
  rw [if_neg (by simp)]
  refine (Decode.reads_octet h.control _).bind ?_
  refine (reads_decodeIf hwf.destination fun a ha =>
    NetworkAddress.reads_decode (hwf.destination_mac a ha) _).bind ?_
  refine (reads_decodeIf hwf.source fun a ha =>
    NetworkAddress.reads_decode (hwf.source_mac a ha) _).bind ?_
  refine (reads_decodeIf hwf.hopCount fun n _ => Decode.reads_octet n _).bind ?_
  exact (reads_decodeIf hwf.networkMessage fun m hm =>
    reads_decodeMessage (hwf.vendorId m hm) rest).bind_pure _

end WellFormed

/-- Every header that is read is well formed. -/
theorem wellFormed_of_decode {h : Npdu} {r r' : Reader} (hdecode : decode r = .ok h r') :
    h.WellFormed := by
  unfold decode at hdecode
  obtain ⟨first, r₁, -, hdecode⟩ := Decode.bind_eq_ok.1 hdecode
  obtain ⟨-, hdecode⟩ := Decode.of_guard_eq_ok hdecode
  obtain ⟨control, r₂, -, hdecode⟩ := Decode.bind_eq_ok.1 hdecode
  obtain ⟨destination, r₃, hd, hdecode⟩ := Decode.bind_eq_ok.1 hdecode
  obtain ⟨source, r₄, hs, hdecode⟩ := Decode.bind_eq_ok.1 hdecode
  obtain ⟨hopCount, r₅, hh, hdecode⟩ := Decode.bind_eq_ok.1 hdecode
  obtain ⟨networkMessage, r₆, hm, hdecode⟩ := Decode.bind_eq_ok.1 hdecode
  have hmessage := isSome_of_decodeIf hm
  cases hdecode
  refine {
    destination := (isSome_of_decodeIf hd).1
    source := (isSome_of_decodeIf hs).1
    hopCount := (isSome_of_decodeIf hh).1
    networkMessage := hmessage.1
    vendorId := ?vendorId
    destination_mac := ?destination
    source_mac := ?source }
  case vendorId =>
    -- What a field that was read is like is what its own reading says of it.
    intro m hm
    obtain ⟨r₇, r₈, hm⟩ := hmessage.2 m hm
    exact isSome_vendorId_of_decodeMessage hm
  case destination =>
    intro a ha
    obtain ⟨r₇, r₈, ha⟩ := (isSome_of_decodeIf hd).2 a ha
    exact NetworkAddress.length_mac_of_decode ha
  case source =>
    intro a ha
    obtain ⟨r₇, r₈, ha⟩ := (isSome_of_decodeIf hs).2 a ha
    exact NetworkAddress.length_mac_of_decode ha

theorem head?_of_decode {h : Npdu} {r r' : Reader} (hdecode : decode r = .ok h r') :
    r.unread.head? = some version := by
  unfold decode at hdecode
  obtain ⟨first, r₁, hfirst, hdecode⟩ := Decode.bind_eq_ok.1 hdecode
  obtain ⟨hversion, -⟩ := Decode.of_guard_eq_ok hdecode
  rw [(Decode.exact_octet hfirst).1, not_not.1 hversion]
  rfl

/-- A header is read from its own octets only: each field from those it is written as. -/
theorem exact_decode : decode.Exact (·.encode.octets) := by
  intro r h r' hdecode
  have hwf := wellFormed_of_decode hdecode
  unfold decode at hdecode
  obtain ⟨first, r₁, hfirst, hdecode⟩ := Decode.bind_eq_ok.1 hdecode
  obtain ⟨hversion, hdecode⟩ := Decode.of_guard_eq_ok hdecode
  obtain ⟨control, r₂, hcontrol, hdecode⟩ := Decode.bind_eq_ok.1 hdecode
  obtain ⟨destination, r₃, hd, hdecode⟩ := Decode.bind_eq_ok.1 hdecode
  obtain ⟨source, r₄, hs, hdecode⟩ := Decode.bind_eq_ok.1 hdecode
  obtain ⟨hopCount, r₅, hh, hdecode⟩ := Decode.bind_eq_ok.1 hdecode
  obtain ⟨networkMessage, r₆, hm, hdecode⟩ := Decode.bind_eq_ok.1 hdecode
  have hfront : r.Consumes ([version] ++ [control]) r₂ := by
    rw [← not_not.1 hversion]
    exact (Decode.exact_octet.consumes hfirst).trans (Decode.exact_octet.consumes hcontrol)
  have haddresses := ((exact_decodeIf NetworkAddress.exact_decode).consumes hd).trans
    ((exact_decodeIf NetworkAddress.exact_decode).consumes hs)
  have hend := ((exact_decodeIf Decode.exact_octet).consumes hh).trans
    ((exact_decodeIf exact_decodeMessage).consumes hm)
  have hall := hfront.trans (haddresses.trans hend)
  cases hdecode
  show r.Consumes (encode _).octets _
  rw [hwf.octets_encode]
  simpa using hall

/-- Of a place in an input a header is read just if it is well formed and its octets stand there. -/
theorem decode_eq_ok_iff {h : Npdu} {r r' : Reader} :
    decode r = .ok h r' ↔ h.WellFormed ∧ r.Consumes h.encode.octets r' := by
  constructor
  · intro hdecode
    exact ⟨wellFormed_of_decode hdecode, exact_decode.consumes hdecode⟩
  · rintro ⟨hwf, hconsumes⟩
    exact (hwf.reads_decode r'.unread).eq_ok hconsumes

/-- Headers and their octets determine each other. A header that is read is written as the octets
    it was read from, bits without a meaning included; and a header whose control bits announce its
    fields is written, and read back from its octets in front of any others. -/
theorem encode_and_decode_inverse :
    (∀ (input : Octets) (h : Npdu) (r : Reader), decode (.ofOctets input) = .ok h r →
      r.position ≤ input.length ∧ r.unread = input.drop r.position ∧
      ∀ capacity, r.position ≤ capacity →
        h.encode.within capacity = .ok (input.take r.position)) ∧
    ∀ h : Npdu, h.WellFormed → ∃ octets : Octets,
      (∀ capacity, octets.length ≤ capacity → h.encode.within capacity = .ok octets) ∧
      ∀ suffix, decode (.ofOctets (octets ++ suffix)) = .ok h ⟨octets.length, suffix⟩ := by
  refine ⟨?_, ?_⟩
  · intro input h r hdecode
    obtain ⟨hwf, hconsumes⟩ := decode_eq_ok_iff.1 hdecode
    obtain ⟨htake, hdrop, hlength, hle⟩ := hconsumes.eq_take
    refine ⟨hle, hdrop, fun capacity hroom => ?_⟩
    have hsize : h.encode.size ≤ capacity := Nat.le_trans (Nat.le_of_eq hlength.symm) hroom
    exact Encoding.within_eq_ok_iff.2 ⟨hwf.fault_encode, hsize, htake⟩
  · intro h hwf
    refine ⟨h.encode.octets, ?_, ?_⟩
    · intro capacity hroom
      exact Encoding.within_eq_ok_iff.2 ⟨hwf.fault_encode, hroom, rfl⟩
    · intro suffix
      refine decode_eq_ok_iff.2 ⟨hwf, rfl, ?_⟩
      exact (Nat.zero_add _).symm

/-- A header with all of its parts and all bits that mean nothing, from a station with an empty
    MAC address, in front of an octet that is not its own. -/
theorem encode_and_decode_inverse_all_parts :
    let input : Octets := [1, 0xFB, 0, 5, 6, 1, 2, 3, 4, 5, 6, 0xFF, 0xFF, 0, 254, 0x80, 1, 4, 0x99]
    let h : Npdu :=
      ⟨0xFB, some ⟨5, [1, 2, 3, 4, 5, 6]⟩, some ⟨0xFFFF, []⟩, some 254, some ⟨0x80, some 260⟩⟩
    decode (.ofOctets input) = .ok h ⟨18, [0x99]⟩ ∧ h.encode.within 18 = .ok (input.take 18) ∧
    h.WellFormed ∧ ∃ octets : Octets, h.encode.within 64 = .ok octets ∧
      decode (.ofOctets (octets ++ [0x01])) = .ok h ⟨octets.length, [0x01]⟩ := by
  intro input h
  have hdecode : decode (.ofOctets input) = .ok h ⟨18, [0x99]⟩ := rfl
  have hwf := wellFormed_of_decode hdecode
  obtain ⟨hback, hforth⟩ := encode_and_decode_inverse
  obtain ⟨-, -, hwritten⟩ := hback input h ⟨18, [0x99]⟩ hdecode
  obtain ⟨octets, hroom, hread⟩ := hforth h hwf
  have hoctets : octets.length ≤ 64 := by
    have hsame := (hroom octets.length (Nat.le_refl _))
    obtain ⟨-, -, rfl⟩ := Encoding.within_eq_ok_iff.1 hsame
    decide
  exact ⟨hdecode, hwritten 18 (Nat.le_refl _), hwf, octets, hroom 64 hoctets, hread [0x01]⟩

/-! ## Headers that set out -/

theorem wellFormed_ofControl_zero : (ofControl 0).WellFormed where
  destination := by decide
  source := by decide
  hopCount := rfl
  networkMessage := by decide
  vendorId := by simp [ofControl]
  destination_mac := by simp [ofControl]
  source_mac := by simp [ofControl]

theorem wellFormed_toAddress {a : NetworkAddress} (h : a.mac.length ≤ NetworkAddress.maxMacLength) :
    (toAddress a).WellFormed where
  destination := show true = (destinationBit &&& destinationBit != 0) by decide
  source := show false = (destinationBit &&& sourceBit != 0) by decide
  hopCount := rfl
  networkMessage := show false = (destinationBit &&& networkMessageBit != 0) by decide
  vendorId := by simp [toAddress]
  destination_mac := by simpa [toAddress] using h
  source_mac := by simp [toAddress]

theorem wellFormed_globalBroadcast : globalBroadcast.WellFormed :=
  wellFormed_toAddress (Nat.zero_le _)

theorem wellFormed_replyTo {request : Npdu} (h : request.WellFormed) :
    request.replyTo.WellFormed := by
  unfold replyTo
  cases hs : request.source with
  | none => exact wellFormed_ofControl_zero
  | some a => exact wellFormed_toAddress (h.source_mac a hs)

theorem isNetworkMessage_toAddress (a : NetworkAddress) :
    (toAddress a).isNetworkMessage = false :=
  show (destinationBit &&& networkMessageBit != 0) = false by decide

theorem isNetworkMessage_replyTo (request : Npdu) : request.replyTo.isNetworkMessage = false := by
  unfold replyTo
  cases request.source with
  | none => decide
  | some a => exact isNetworkMessage_toAddress a

/-- A header that sets out is far from the room it is given. -/
theorem size_encode_toAddress_le {a : NetworkAddress}
    (h : a.mac.length ≤ NetworkAddress.maxMacLength) : (toAddress a).encode.size ≤ 12 := by
  have hmac : a.mac.length ≤ 6 := h
  rw [Encoding.size, (wellFormed_toAddress h).octets_encode]
  simp only [toAddress, Option.elim_some, Option.elim_none, NetworkAddress.octets_encode h,
    List.length_cons, List.length_append, Octets.length_ofUInt16, List.length_nil]
  omega

theorem size_encode_replyTo_le {request : Npdu} (h : request.WellFormed) :
    request.replyTo.encode.size ≤ 12 := by
  unfold replyTo
  cases hs : request.source with
  | none => decide
  | some a => exact size_encode_toAddress_le (h.source_mac a hs)

end Npdu

end Bacnet
