import Bacnet.Proofs.Bvll

set_option autoImplicit false

/-! # Frames in a buffer

A message that sets out is framed into a buffer that its sender has at hand. Two things can prevent
that, and the one that has nothing to do with the buffer is looked at first: the length of the frame
has to fit a word. The frame stands in the front of the buffer and is read back as the message. The
other way round a sender framed every datagram of a message that set out
(`encodeInto_of_ofDatagram`), and a datagram says how long it is, so no other length goes with its
first four octets. -/

namespace Bacnet.BvllFrame

variable {broadcast : Bool} {npdu buffer datagram other : Octets} {frame frame' : BvllFrame}

/-- Frames a message into a buffer: gives the length of the frame, or says why there is none, and
    the buffer as it is then. -/
def encodeInto (broadcast : Bool) (npdu buffer : Octets) : Except EncodeError Nat × Octets :=
  match Writer.put (encodeNpdu broadcast npdu) (.ofBuffer buffer) with
  | .ok () w => (.ok w.position, w.buffer)
  | .error e w => (.error e, w.buffer)

/-! ## How framing ends -/

theorem encodeInto_of_long (h : 0xFFFF < headerLength + npdu.length) :
    encodeInto broadcast npdu buffer = (.error .valueOutOfRange, buffer) := by
  have hlong : ¬ headerLength + npdu.length < 0x10000 := by omega
  simp only [encodeInto, encodeNpdu, if_neg hlong]
  rfl

theorem encodeInto_of_lt (h : headerLength + npdu.length ≤ 0xFFFF)
    (hcut : buffer.length < headerLength + npdu.length) :
    (encodeInto broadcast npdu buffer).1 = .error .bufferTooSmall := by
  have hlt : headerLength + npdu.length < 0x10000 := Nat.lt_succ_of_le h
  have hsize : (Writer.ofBuffer buffer).remaining < (encodeNpdu broadcast npdu).octets.length := by
    have hframe := size_encodeNpdu hlt broadcast
    rw [Encoding.size] at hframe
    rw [hframe]
    exact hcut
  obtain ⟨front, -, -, -, hput⟩ := Writer.exists_put_of_lt (fault_encodeNpdu hlt broadcast) hsize
  rw [encodeInto, hput]

/-- With enough room the frame stands in front of what is left of the buffer. -/
theorem encodeInto_of_le (h : headerLength + npdu.length ≤ 0xFFFF)
    (hroom : headerLength + npdu.length ≤ buffer.length) :
    encodeInto broadcast npdu buffer = (.ok (headerLength + npdu.length),
      octets ⟨.ofBroadcast broadcast, none, npdu⟩ ++ buffer.drop (headerLength + npdu.length)) := by
  have hlt : headerLength + npdu.length < 0x10000 := Nat.lt_succ_of_le h
  have hoctets := octets_encodeNpdu hlt broadcast
  have hlength : (octets ⟨.ofBroadcast broadcast, none, npdu⟩).length = headerLength + npdu.length :=
    length_octets _
  have hfits : (encodeNpdu broadcast npdu).octets.length ≤ (Writer.ofBuffer buffer).remaining := by
    rw [hoctets, hlength]
    exact hroom
  have hput := Writer.put_of_le (fault_encodeNpdu hlt broadcast) hfits
  rw [hoctets] at hput
  rw [encodeInto, hput, ← hlength]
  rfl

/-- Whether a message can be framed at all is looked at before the buffer. -/
theorem fst_encodeInto (broadcast : Bool) (npdu buffer : Octets) :
    (encodeInto broadcast npdu buffer).1 =
      if 0xFFFF < headerLength + npdu.length then .error .valueOutOfRange
      else if buffer.length < headerLength + npdu.length then .error .bufferTooSmall
      else .ok (headerLength + npdu.length) := by
  split_ifs with hlong hcut
  · rw [encodeInto_of_long hlong]
  · exact encodeInto_of_lt (Nat.not_lt.1 hlong) hcut
  · rw [encodeInto_of_le (Nat.not_lt.1 hlong) (Nat.not_lt.1 hcut)]

/-! ## Datagrams of messages that set out -/

/-- Only a forwarded message has an origin. -/
theorem WellFormed.eq_of_ofBroadcast (h : frame.WellFormed)
    (hfunction : frame.function = .ofBroadcast broadcast) :
    frame = ⟨.ofBroadcast broadcast, none, frame.npdu⟩ := by
  obtain ⟨function, origin, npdu⟩ := frame
  simp only at hfunction
  have hnone : origin.isSome = false := by
    have hsome := h.isSome_origin
    rw [hsome, beq_eq_false_iff_ne, hfunction]
    exact BvllFunction.ofBroadcast_ne_forwarded broadcast
  rw [Option.isSome_eq_false_iff, Option.isNone_iff_eq_none] at hnone
  rw [hfunction, hnone]

/-- The datagram of a message that set out is the frame that its sender made. -/
theorem encodeInto_of_ofDatagram (h : ofDatagram datagram = .ok frame)
    (hfunction : frame.function = .ofBroadcast broadcast)
    (hroom : datagram.length ≤ buffer.length) :
    encodeInto broadcast frame.npdu buffer
      = (.ok datagram.length, datagram ++ buffer.drop datagram.length) := by
  obtain ⟨hwf, rfl⟩ := ofDatagram_eq_ok_iff.1 h
  have hframe := hwf.eq_of_ofBroadcast hfunction
  have hlength : frame.octets.length = headerLength + frame.npdu.length := by
    rw [hframe]
    exact length_octets _
  have hword := hwf.length_lt
  rw [← length_octets] at hword
  rw [encodeInto_of_le (by omega) (by omega), ← hlength, ← hframe]

/-- The first four octets of a frame say how long its datagram is. -/
theorem length_eq_of_take_eq (h : ofDatagram datagram = .ok frame)
    (h' : ofDatagram other = .ok frame') (htake : other.take 4 = datagram.take 4) :
    other.length = datagram.length := by
  have hfield : ∀ input : Octets, (input.drop 2).take 2 = (input.take 4).drop 2 := by
    intro input
    rw [List.drop_take]
  rw [← toNat_length_field h, ← toNat_length_field h', hfield, hfield, htake]

/-! ## Both ways -/

/-- Framing fails for a message that is too long for any frame, with the buffer untouched, and
    otherwise for want of room; what else is framed stands in front of the rest of the buffer and
    is read back as the message and how it was sent. A datagram that is read as a message that set
    out is what framing that message gives, and behind the first four octets of a datagram that is
    read no other number of octets is accepted. -/
theorem framing_exact :
    (∀ (broadcast : Bool) (npdu buffer : Octets),
      ((encodeInto broadcast npdu buffer).1 = .error .valueOutOfRange ↔ 0xFFFF < 4 + npdu.length) ∧
      (0xFFFF < 4 + npdu.length → (encodeInto broadcast npdu buffer).2 = buffer) ∧
      ((encodeInto broadcast npdu buffer).1 = .error .bufferTooSmall ↔
        4 + npdu.length ≤ 0xFFFF ∧ buffer.length < 4 + npdu.length) ∧
      (4 + npdu.length ≤ 0xFFFF → 4 + npdu.length ≤ buffer.length → ∃ written : Octets,
        encodeInto broadcast npdu buffer
          = (.ok (4 + npdu.length), written ++ buffer.drop (4 + npdu.length)) ∧
        written.length = 4 + npdu.length ∧
        ofDatagram written = .ok
          ⟨if broadcast then .originalBroadcastNpdu else .originalUnicastNpdu, none, npdu⟩)) ∧
    ∀ (datagram : Octets) (frame : BvllFrame), ofDatagram datagram = .ok frame →
      (∀ (broadcast : Bool) (buffer : Octets), datagram.length ≤ buffer.length →
        frame.function = (if broadcast then .originalBroadcastNpdu else .originalUnicastNpdu) →
        encodeInto broadcast frame.npdu buffer
          = (.ok datagram.length, datagram ++ buffer.drop datagram.length)) ∧
      ∀ other : Octets, other.take 4 = datagram.take 4 → other.length ≠ datagram.length →
        ∀ frame', ofDatagram other ≠ .ok frame' := by
  refine ⟨fun broadcast npdu buffer => ⟨?_, ?_, ?_, ?_⟩, fun datagram frame h => ⟨?_, ?_⟩⟩
  · rw [fst_encodeInto, headerLength]
    split_ifs with hlong hcut <;> simp [hlong]
  · intro hlong
    rw [encodeInto_of_long hlong]
  · rw [fst_encodeInto, headerLength]
    split_ifs with hlong hcut <;> simp <;> omega
  · intro hword hroom
    have hframe : WellFormed ⟨.ofBroadcast broadcast, none, npdu⟩ :=
      wellFormed_of_ne_forwarded (BvllFunction.ofBroadcast_ne_forwarded broadcast)
        (Nat.lt_succ_of_le hword)
    exact ⟨_, encodeInto_of_le hword hroom, length_octets _, hframe.ofDatagram_octets⟩
  · intro broadcast buffer hroom hfunction
    exact encodeInto_of_ofDatagram h hfunction hroom
  · intro other htake hlength frame' h'
    exact hlength (length_eq_of_take_eq h h' htake)

/-- A message that is broadcast, in a buffer with an octet to spare, with an octet too few, and a
    message that is too long; and its datagram with an octet less and with an octet more. -/
theorem framing_exact_broadcast :
    let datagram : Octets := [0x81, 0x0B, 0, 8, 1, 0, 0x10, 8]
    let long : Octets := List.replicate 65532 0
    encodeInto true [1, 0, 0x10, 8] (List.replicate 9 0xEE) = (.ok 8, datagram ++ [0xEE]) ∧
    (encodeInto true [1, 0, 0x10, 8] (List.replicate 7 0xEE)).1 = .error .bufferTooSmall ∧
    (encodeInto true long [0xEE]).1 = .error .valueOutOfRange ∧
    (encodeInto true long [0xEE]).2 = [0xEE] ∧
    ofDatagram datagram = .ok ⟨.originalBroadcastNpdu, none, [1, 0, 0x10, 8]⟩ ∧
    (∀ frame', ofDatagram (datagram.eraseIdx 5) ≠ .ok frame') ∧
    ∀ o frame', ofDatagram (datagram ++ [o]) ≠ .ok frame' := by
  intro datagram long
  have hread : ofDatagram datagram = .ok ⟨.originalBroadcastNpdu, none, [1, 0, 0x10, 8]⟩ := rfl
  obtain ⟨hframing, hdatagram⟩ := framing_exact
  obtain ⟨hreproduced, hlength⟩ := hdatagram datagram _ hread
  obtain ⟨-, -, hcut, -⟩ := hframing true [1, 0, 0x10, 8] (List.replicate 7 0xEE)
  obtain ⟨hout, huntouched, -⟩ := hframing true long [0xEE]
  have hlong : 0xFFFF < 4 + long.length := by
    rw [List.length_replicate]
    decide
  refine ⟨?_, hcut.2 (by decide), hout.2 hlong, huntouched hlong, hread, ?_, ?_⟩
  · exact hreproduced true (List.replicate 9 0xEE) (by decide) rfl
  · exact hlength _ (by decide) (by decide)
  · intro o
    refine hlength _ rfl ?_
    rw [List.length_append]
    exact Nat.succ_ne_self _

end Bacnet.BvllFrame
