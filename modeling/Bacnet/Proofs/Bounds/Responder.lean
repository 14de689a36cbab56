import Bacnet.Proofs.Bounds.Replying
import Bacnet.Proofs.Bounds.Writing
import Bacnet.Proofs.Registration
import Bacnet.Proofs.Responder

set_option autoImplicit false

/-! # Answering within bounds

A reply goes into a buffer as far as its limit, which is no larger than the buffer, and with a
header in front it stays so short that its frame has a length field. Readings and writings keep
their own bounds, and a device that was made and then had any objects registered, whatever it took
and refused, keeps those of its slots. So with all operations partial that have bounds, the answer
to every datagram is the answer (`Responder.process_keeps_bounds`). -/

namespace Bacnet

/-! ## Frames -/

namespace Reply

/-- The APDU of a reply, written into a buffer for the largest as far as its limit. -/
def apduChecked (reply : Reply) : Checked (Except EncodeError (Option Octets)) := do
  let buffer := List.replicate maxApdu 0
  match reply.write? with
  | none => do
    let _ ← Checked.upTo buffer reply.limit
    return .ok none
  | some writing =>
    match ← writing.into buffer reply.limit with
    | .ok apdu => return .ok (some apdu)
    | .error .bufferTooSmall => return .ok none
    | .error e => return .error e

/-- The frame around an APDU. -/
def frameChecked (broadcast : Bool) (request : Npdu) (apdu : Octets) :
    Checked (Except EncodeError Octets) := do
  let header := if broadcast then Npdu.globalBroadcast else request.replyTo
  match ← header.write.into (List.replicate maxHeaderLength 0) maxHeaderLength with
  | .error e => return .error e
  | .ok octets =>
    let npdu := octets ++ apdu
    let length := BvllFrame.headerLength + npdu.length
    (BvllFrame.writeNpdu broadcast npdu).into (List.replicate length 0) length

/-- The datagram for a reply to a request with a header from an endpoint. -/
def outgoingChecked (reply : Reply) (config : Config) (request : Npdu) (source : Endpoint) :
    Checked (Except EncodeError (Option Outgoing)) := do
  match ← reply.apduChecked with
  | .error e => return .error e
  | .ok none => return .ok none
  | .ok (some apdu) =>
    let broadcast := reply.isBroadcast config
    match ← frameChecked broadcast request apdu with
    | .error e => return .error e
    | .ok frame =>
      let destination := if broadcast then source.withIp config.broadcast else source
      return .ok (some ⟨destination, broadcast, frame⟩)

@[simp] theorem apduChecked_eq (reply : Reply) : reply.apduChecked = .ok reply.apdu := by
  have hlimit := reply.limit_le
  have hbuffer : reply.limit ≤ (List.replicate maxApdu (0 : UInt8)).length := by
    rwa [List.length_replicate]
  unfold apduChecked Reply.apdu
  rw [write?_eq]
  cases reply.encode? with
  | none =>
      simp only [Option.map_none, Checked.upTo_of_le hbuffer]
      rfl
  | some e =>
      simp only [Option.map_some, Writing.into_ofEncoding e hlimit, Checked.ok_bind]
      cases e.within reply.limit with
      | ok apdu => rfl
      | error fault =>
          cases fault with
          | _ => rfl

theorem frameChecked_eq (broadcast : Bool) (request : Npdu) {apdu : Octets}
    (h : apdu.length ≤ maxApdu) :
    frameChecked broadcast request apdu = .ok (frame broadcast request apdu) := by
  unfold frameChecked frame
  simp only [Npdu.write_eq, Writing.into_ofEncoding _ (Nat.le_refl maxHeaderLength),
    Checked.ok_bind]
  cases hheader : (if broadcast then Npdu.globalBroadcast else request.replyTo).encode.within
      maxHeaderLength with
  | error e => rfl
  | ok octets =>
      -- The header does not exceed its room and the APDU not the largest one.
      obtain ⟨-, hsize, hoctets⟩ := Encoding.within_eq_ok_iff.1 hheader
      have hheaderLength : octets.length ≤ maxHeaderLength := by
        rw [← hoctets]
        exact hsize
      have hlength : BvllFrame.headerLength + (octets ++ apdu).length < 0x10000 := by
        rw [List.length_append, BvllFrame.headerLength]
        simp only [maxHeaderLength, maxApdu] at hheaderLength h
        omega
      simp only [BvllFrame.writeNpdu_eq hlength, Writing.into_ofEncoding _ (Nat.le_refl _)]
      rfl

@[simp] theorem outgoingChecked_eq (reply : Reply) (config : Config) (request : Npdu)
    (source : Endpoint) :
    reply.outgoingChecked config request source = .ok (reply.outgoing config request source) := by
  rw [outgoingChecked, outgoing, apduChecked_eq, Checked.ok_bind]
  cases happdu : reply.apdu with
  | error e => rfl
  | ok apdu? =>
      cases apdu? with
      | none => rfl
      | some apdu =>
          obtain ⟨e, -, -, hsize, rfl⟩ := exists_encode_of_apdu happdu
          have hlength : e.octets.length ≤ maxApdu := Nat.le_trans hsize reply.limit_le
          simp only [frameChecked_eq _ _ hlength, Checked.ok_bind]
          show _ = Except.ok (frame (reply.isBroadcast config) request e.octets >>= _)
          cases frame (reply.isBroadcast config) request e.octets with
          | error e => rfl
          | ok frame => rfl

end Reply

/-! ## Answers -/

namespace Responder

/-- The answer to a datagram, with all operations partial that have bounds. -/
def processChecked (r : Responder) (datagram : Octets) (source : Endpoint) :
    Checked (Option Outgoing) := do
  match ← (BvllFrame.readWithin datagram.length).outcome datagram with
  | .error _ => return none
  | .ok frame =>
    match ← readMessage.outcome frame.npdu with
    | .error _ => return none
    | .ok (header, apdu) =>
      let reply ← r.device.replyToApduChecked r.config header apdu
      match ← reply.outgoingChecked r.config header source with
      | .error _ => return none
      | .ok outgoing => return outgoing

theorem processChecked_eq {r : Responder} (h : r.device.Indexed) (datagram : Octets)
    (source : Endpoint) : r.processChecked datagram source = .ok (r.process datagram source) := by
  rw [processChecked, process, BvllFrame.ofDatagram, BvllFrame.readWithin_eq, Reading.outcome_eq,
    Checked.ok_bind]
  cases (BvllFrame.decodeWithin datagram.length).outcome datagram with
  | error e => rfl
  | ok frame =>
      simp only [readMessage_eq, Reading.outcome_eq, Checked.ok_bind]
      show _ = Except.ok ((decodeMessage.outcome frame.npdu).toOption >>= _)
      cases decodeMessage.outcome frame.npdu with
      | error e => rfl
      | ok message =>
          obtain ⟨header, apdu⟩ := message
          simp only [h.replyToApduChecked_eq, Reply.outgoingChecked_eq, Checked.ok_bind]
          show _ = Except.ok (((r.device.replyToApdu r.config header apdu).outgoing r.config header
            source).toOption.join)
          cases (r.device.replyToApdu r.config header apdu).outgoing r.config header source with
          | error e => rfl
          | ok outgoing => rfl

/-- Whatever arrives from wherever at a device that was made, had objects registered and then was
    offered any objects, its answer keeps all bounds. So does a signed integer of any length that is
    read. -/
theorem process_keeps_bounds {d : Device} (h : d.Reachable) (os : List Object) (config : Config)
    (datagram : Octets) (source : Endpoint) :
    processChecked ⟨d.attempts os, config⟩ datagram source
      = .ok (process ⟨d.attempts os, config⟩ datagram source) ∧
    ∀ length, (Contents.readSigned length).outcome datagram
      = .ok ((Contents.decodeSigned length).outcome datagram) := by
  have hindexed : (d.attempts os).Indexed :=
    Device.attempts_preserves Device.Indexed (fun _ _ _ hd hregister => hd.register hregister) os
      h.indexed
  refine ⟨processChecked_eq hindexed datagram source, fun length => ?_⟩
  rw [Contents.readSigned_eq, Reading.outcome_eq]

/-- The object that is offered twice is taken once, and found by its name. -/
theorem process_keeps_bounds_registered :
    let o : Object := ⟨.ofParts .analogValue 3, "T", .analogValue, .empty, by decide⟩
    let question : Octets := [0x81, 0x0A, 0, 11, 1, 0, 0x10, 7, 0x3A, 0, 0x54]
    ∃ d out, Device.ofInstance 36113 "bacpot" = .ok d ∧
      processChecked ⟨d.attempts [o, o], {}⟩ question ⟨.v4 10 0 0 1, 47808, 0⟩ = .ok (some out) ∧
      out.frame = [0x81, 0x0B, 0, 25, 1, 0x20, 0xFF, 0xFF, 0, 0xFF, 0x10, 1,
        0xC4, 2, 0, 0x8D, 0x11, 0xC4, 0, 0x80, 0, 3, 0x72, 0, 0x54] := by
  intro o question
  have hanswers : (Device.ofInstance 36113 "bacpot").toOption.any (fun d =>
      (process ⟨d.attempts [o, o], {}⟩ question ⟨.v4 10 0 0 1, 47808, 0⟩).any (·.frame ==
        [0x81, 0x0B, 0, 25, 1, 0x20, 0xFF, 0xFF, 0, 0xFF, 0x10, 1,
          0xC4, 2, 0, 0x8D, 0x11, 0xC4, 0, 0x80, 0, 3, 0x72, 0, 0x54])) = true := by
    decide +kernel
  obtain ⟨d, hmade, hanswer⟩ := (Option.any_eq_true _ _).1 hanswers
  obtain ⟨out, hout, hframe⟩ := (Option.any_eq_true _ _).1 hanswer
  have h := Decode.eq_ok_of_toOption hmade
  obtain ⟨hprocess, -⟩ :=
    process_keeps_bounds (.ofInstance h) [o, o] {} question ⟨.v4 10 0 0 1, 47808, 0⟩
  exact ⟨d, out, h, hout ▸ hprocess, beq_iff_eq.1 hframe⟩

end Responder

end Bacnet
