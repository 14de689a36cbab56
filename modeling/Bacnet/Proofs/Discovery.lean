import Bacnet.Proofs.Question
import Bacnet.Proofs.Registry
import Bacnet.Proofs.Responder

set_option autoImplicit false

/-! # Who is found

A device answers the question which devices there are exactly if the question means it, and the
question which device has an object exactly if besides it owns the object and the announcement is
not too large to be sent. What it then sends is the announcement of itself or of that object. The
device is no object of its own: nobody who asks for it by its identifier or its name gets an
announcement of it. -/

namespace Bacnet

/-! ## Questions that reach a device -/

namespace Device

variable {d : Device} {e : Encoding}

/-- Only the announcement of the device is said to a question for devices, if that means it. -/
theorem encode?_replyToWhoIs_eq_some_iff {q : WhoIs} :
    (d.replyToWhoIs q).encode? = some e ↔
      (∀ range ∈ q.range, range.low ≤ d.instanceNumber ∧ d.instanceNumber ≤ range.high) ∧
        d.iAm.encode = e := by
  rw [← DeviceRange.admits_iff, replyToWhoIs, WhoIs.admits]
  by_cases hadmits : DeviceRange.admits q.range d.instanceNumber = true <;>
    simp [hadmits, Reply.encode?]

/-- Only the announcement of the object that it names is said to a question for an object. -/
theorem Indexed.encode?_replyToWhoHas_eq_some_iff (hd : d.Indexed) {q : WhoHas} :
    (d.replyToWhoHas q).encode? = some e ↔
      (∀ range ∈ q.range, range.low ≤ d.instanceNumber ∧ d.instanceNumber ≤ range.high) ∧
        ∃ o ∈ d.objects, o.IsWanted q.wanted ∧ (d.iHave o).encode = e := by
  rw [← DeviceRange.admits_iff, replyToWhoHas, WhoHas.admits]
  by_cases hadmits : DeviceRange.admits q.range d.instanceNumber = true
  · rw [if_pos hadmits, and_iff_right hadmits]
    constructor
    · intro he
      cases howned : d.owned? q.wanted with
      | none => rw [howned] at he; cases he
      | some o =>
          rw [howned] at he
          obtain ⟨ho, hwanted⟩ := hd.owned?_eq_some_iff.1 howned
          exact ⟨o, ho, hwanted, Option.some.inj he⟩
    · rintro ⟨o, ho, hwanted, rfl⟩
      rw [hd.owned?_eq_some_iff.2 ⟨ho, hwanted⟩]
      rfl
  · rw [if_neg hadmits]
    exact iff_of_false nofun fun h => hadmits h.1

/-- Announcements are limited by what is sent at all, and not by a requester. -/
theorem limit_replyToWhoIs (q : WhoIs) : (d.replyToWhoIs q).limit = 1476 := by
  unfold replyToWhoIs
  split <;> rfl

theorem limit_replyToWhoHas (q : WhoHas) : (d.replyToWhoHas q).limit = 1476 := by
  unfold replyToWhoHas
  split
  · cases d.owned? q.wanted <;> rfl
  · rfl

section

variable (d : Device) (config : Config) {header : Npdu} (hheader : header.isNetworkMessage = false)

include hheader

theorem replyToApdu_whoIs (q : WhoIs) :
    d.replyToApdu config header q.encode.octets = d.replyToWhoIs q := by
  obtain ⟨-, -, htaken⟩ := Request.taken_of_reads hheader q.octets_encode (Request.reads_whoIs q)
  rw [replyToApdu, htaken]
  rfl

theorem replyToApdu_whoHas {q : WhoHas} (h : q.wanted.Fits) :
    d.replyToApdu config header q.encode.octets = d.replyToWhoHas q := by
  obtain ⟨-, -, htaken⟩ := Request.taken_of_reads hheader q.octets_encode (Request.reads_whoHas h)
  rw [replyToApdu, htaken]
  rfl

end

end Device

/-! ## Announcements that are sent -/

/-- What is read from the whole APDU in a frame. -/
def Outgoing.Says {α : Type} (out : Outgoing) (reading : Decode α) (a : α) : Prop :=
  ∃ header apdu, Responder.Carries out.frame header apdu ∧ reading.outcome apdu = .ok a

namespace Responder

variable {datagram apdu : Octets} {header : Npdu}

/-! ## Devices -/

/-- The question for devices is answered exactly if it means the device, with the announcement of
    the device. -/
theorem process_whoIs (d : Device) (config : Config) (source : Endpoint)
    (hheader : header.isNetworkMessage = false) {q : WhoIs}
    (h : Carries datagram header q.encode.octets) :
    ((∃ out, process ⟨d, config⟩ datagram source = some out) ↔
      ∀ range ∈ q.range, range.low ≤ d.instanceNumber ∧ d.instanceNumber ≤ range.high) ∧
    ∀ out, process ⟨d, config⟩ datagram source = some out →
      out.Says (UnconfirmedHeader.decodeWith IAm.service IAm.decodeBody) d.iAm := by
  have hreply := d.replyToApdu_whoIs config hheader q
  refine ⟨?_, fun out hout => ?_⟩
  · rw [Carries.exists_process_iff hreply h, Device.limit_replyToWhoIs]
    constructor
    · rintro ⟨e, he, -⟩
      exact (Device.encode?_replyToWhoIs_eq_some_iff.1 he).1
    · intro hmeant
      have hfits : d.iAm.encode.size ≤ 1476 := Nat.le_trans d.iAm.size_encode_le (by decide)
      exact ⟨_, Device.encode?_replyToWhoIs_eq_some_iff.2 ⟨hmeant, rfl⟩, _,
        Encoding.within_eq_ok_iff.2 ⟨d.iAm.fault_encode, hfits, rfl⟩⟩
  · obtain ⟨e, he, -, -, hcarries⟩ := Carries.exists_carries_of_process hreply h hout
    obtain ⟨-, rfl⟩ := Device.encode?_replyToWhoIs_eq_some_iff.1 he
    exact ⟨_, _, hcarries, d.iAm.outcome_decodeWith⟩

/-! ## Objects -/

/-- The question for an object is answered exactly if it means the device, which owns the object,
    and the announcement of the object is not too large; and then with that announcement. -/
theorem process_whoHas {d : Device} (hd : d.Indexed) (config : Config) (source : Endpoint)
    (hheader : header.isNetworkMessage = false) {q : WhoHas} (hfits : q.wanted.Fits)
    (h : Carries datagram header q.encode.octets) :
    ((∃ out, process ⟨d, config⟩ datagram source = some out) ↔
      (∀ range ∈ q.range, range.low ≤ d.instanceNumber ∧ d.instanceNumber ≤ range.high) ∧
      ∃ o ∈ d.objects, o.IsWanted q.wanted ∧
        ∃ answer, (d.iHave o).encode.within 1476 = .ok answer) ∧
    ∀ o ∈ d.objects, o.IsWanted q.wanted →
      ∀ out, process ⟨d, config⟩ datagram source = some out →
        out.Says (UnconfirmedHeader.decodeWith IHave.service IHave.decodeBody) (d.iHave o) := by
  have hreply := d.replyToApdu_whoHas config hheader hfits
  refine ⟨?_, fun o ho hwanted out hout => ?_⟩
  · rw [Carries.exists_process_iff hreply h, Device.limit_replyToWhoHas]
    constructor
    · rintro ⟨e, he, answer, hanswer⟩
      obtain ⟨hmeant, o, ho, hwanted, rfl⟩ := hd.encode?_replyToWhoHas_eq_some_iff.1 he
      exact ⟨hmeant, o, ho, hwanted, answer, hanswer⟩
    · rintro ⟨hmeant, o, ho, hwanted, answer, hanswer⟩
      exact ⟨_, hd.encode?_replyToWhoHas_eq_some_iff.2 ⟨hmeant, o, ho, hwanted, rfl⟩,
        answer, hanswer⟩
  · obtain ⟨e, he, hfault, -, hcarries⟩ := Carries.exists_carries_of_process hreply h hout
    obtain ⟨-, o', ho', hwanted', rfl⟩ := hd.encode?_replyToWhoHas_eq_some_iff.1 he
    -- No other owned object has the identifier or the name that is asked for.
    have howned := hd.owned?_eq_some_iff.2 ⟨ho', hwanted'⟩
    rw [hd.owned?_eq_some_iff.2 ⟨ho, hwanted⟩] at howned
    cases howned
    exact ⟨_, _, hcarries, IHave.outcome_decodeWith hfault⟩

/-! ## Both questions -/

/-- A device that was made, alone or from a template, and had objects registered, answers the
    question for devices exactly if it is meant, and the question for an object exactly if it is
    meant, owns the object and can say so in one APDU. Each time it says the right thing, and never
    that it has itself. -/
theorem process_discovery {d : Device} (hd : d.Reachable) (config : Config) (source : Endpoint)
    (hheader : header.isNetworkMessage = false) (h : Carries datagram header apdu)
    (capacity : Nat) :
    (∀ q : WhoIs, q.encode.within capacity = .ok apdu →
      ((∃ out, process ⟨d, config⟩ datagram source = some out) ↔
        ∀ range ∈ q.range, range.low ≤ d.instanceNumber ∧ d.instanceNumber ≤ range.high) ∧
      ∀ out, process ⟨d, config⟩ datagram source = some out →
        out.Says (UnconfirmedHeader.decodeWith IAm.service IAm.decodeBody)
          ⟨d.id, d.maxApdu, d.segmentation.code, d.vendorId⟩) ∧
    ∀ q : WhoHas, q.encode.within capacity = .ok apdu →
      ((∃ out, process ⟨d, config⟩ datagram source = some out) ↔
        (∀ range ∈ q.range, range.low ≤ d.instanceNumber ∧ d.instanceNumber ≤ range.high) ∧
        ∃ o ∈ d.objects, o.IsWanted q.wanted ∧
          ∃ answer, (IHave.mk d.id o.id o.name).encode.within 1476 = .ok answer) ∧
      (∀ o ∈ d.objects, o.IsWanted q.wanted →
        ∀ out, process ⟨d, config⟩ datagram source = some out →
          out.Says (UnconfirmedHeader.decodeWith IHave.service IHave.decodeBody)
            ⟨d.id, o.id, o.name⟩) ∧
      (q.wanted = .byId d.id ∨ q.wanted = .byName d.name →
        process ⟨d, config⟩ datagram source = none) := by
  refine ⟨fun q hq => ?_, fun q hq => ?_⟩
  · obtain ⟨-, -, rfl⟩ := Encoding.within_eq_ok_iff.1 hq
    exact process_whoIs d config source hheader h
  · obtain ⟨hfault, -, rfl⟩ := Encoding.within_eq_ok_iff.1 hq
    obtain ⟨hanswered, hsays⟩ := process_whoHas hd.indexed config source hheader
      (WhoHas.fits_of_fault_encode hfault) h
    refine ⟨hanswered, hsays, fun hself => Option.eq_none_iff_forall_ne_some.2 fun out hout => ?_⟩
    obtain ⟨-, o, ho, hwanted, -⟩ := hanswered.1 ⟨out, hout⟩
    exact hd.indexed.not_isWanted_self ho hself hwanted

/-- A device from a template has an object registered and is asked for it by its name. Asked for
    devices from 2 to 0 it is silent. -/
theorem process_discovery_registered : ∃ (d : Device) (o : Object) (out : Outgoing),
    d.Reachable ∧ o ∈ d.objects ∧ o.name = "T" ∧
    process ⟨d, {}⟩ [0x81, 0x0A, 0, 11, 1, 0, 0x10, 7, 0x3A, 0, 0x54]
      ⟨.v4 10 0 0 1, 47808, 0⟩ = some out ∧
    out.Says (UnconfirmedHeader.decodeWith IHave.service IHave.decodeBody) ⟨d.id, o.id, "T"⟩ ∧
    process ⟨d, {}⟩ [0x81, 0x0A, 0, 12, 1, 0, 0x10, 8, 9, 2, 0x19, 0]
      ⟨.v4 10 0 0 1, 47808, 0⟩ = none := by
  have hanswers : (do
      let d ← Template.minimal.build
      let o ← Object.ofId (.ofParts .analogValue 3) "T"
      d.register o : Except ConfigError Device).toOption.any (fun d =>
        (process ⟨d, {}⟩ [0x81, 0x0A, 0, 11, 1, 0, 0x10, 7, 0x3A, 0, 0x54]
          ⟨.v4 10 0 0 1, 47808, 0⟩).isSome) = true := by
    decide +kernel
  obtain ⟨d, hmade, hsome⟩ := (Option.any_eq_true _ _).1 hanswers
  obtain ⟨d₀, hbuild, hmade⟩ := except_bind_eq_ok.1 (Decode.eq_ok_of_toOption hmade)
  obtain ⟨o, -, hregister⟩ := except_bind_eq_ok.1 hmade
  have hd : d.Reachable := .register (.build hbuild) hregister
  obtain ⟨out, hout⟩ := Option.isSome_iff_exists.1 hsome
  have hname : Carries [0x81, 0x0A, 0, 11, 1, 0, 0x10, 7, 0x3A, 0, 0x54] (.ofControl 0)
      [0x10, 7, 0x3A, 0, 0x54] :=
    ⟨⟨.originalUnicastNpdu, none, _⟩, rfl, rfl⟩
  have hrange : Carries [0x81, 0x0A, 0, 12, 1, 0, 0x10, 8, 9, 2, 0x19, 0] (.ofControl 0)
      [0x10, 8, 9, 2, 0x19, 0] :=
    ⟨⟨.originalUnicastNpdu, none, _⟩, rfl, rfl⟩
  obtain ⟨-, hhas⟩ := process_discovery hd {} ⟨.v4 10 0 0 1, 47808, 0⟩ rfl hname 1476
  obtain ⟨his, -⟩ := process_discovery hd {} ⟨.v4 10 0 0 1, 47808, 0⟩ rfl hrange 1476
  obtain ⟨hanswered, hsays, -⟩ := hhas ⟨none, .byName "T"⟩ (by decide +kernel)
  obtain ⟨hmeant, -⟩ := his ⟨some ⟨2, 0⟩⟩ (by decide +kernel)
  obtain ⟨-, o, ho, hwanted, -⟩ := hanswered.1 ⟨out, hout⟩
  have hnamed : o.name = "T" := hwanted
  refine ⟨d, o, out, hd, ho, hnamed, hout, hnamed ▸ hsays o ho hwanted out hout, ?_⟩
  refine Option.eq_none_iff_forall_ne_some.2 fun out' hout' => ?_
  have hinverted := hmeant.1 ⟨out', hout'⟩ ⟨2, 0⟩ rfl
  exact absurd (UInt32.le_trans hinverted.1 hinverted.2) (by decide)

end Responder

end Bacnet
