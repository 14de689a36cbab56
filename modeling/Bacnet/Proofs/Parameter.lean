import Bacnet.Proofs.Contents
import Bacnet.Service.Parameter

set_option autoImplicit false

/-! # Parameters read back

A parameter is read back from its octets. One that may be missing is found missing only when what
comes next says so (`Absent`): the end of the input, or any tag but the parameter's own. -/

namespace Bacnet.Parameter

@[simp] theorem fault_encodeUnsigned (number : UInt8) (n : UInt32) :
    (encodeUnsigned number n).fault = none := Contents.fault_encodeUnsigned ..

@[simp] theorem fault_encodeOptional (number : UInt8) (n : Option UInt32) :
    (encodeOptional number n).fault = none := by
  cases n <;> simp [encodeOptional]

@[simp] theorem fault_encodeObjectId (number : UInt8) (id : ObjectId) :
    (encodeObjectId number id).fault = none := Contents.fault_encodeWord32 ..

theorem reads_unsigned (number : UInt8) (n : UInt32) (rest : Octets) :
    (decodeUnsigned number).Reads (encodeUnsigned number n).octets n rest :=
  Contents.reads_contextUnsigned number n rest

theorem reads_objectId (number : UInt8) (id : ObjectId) (rest : Octets) :
    (decodeObjectId number).Reads (encodeObjectId number id).octets id rest := by
  unfold decodeObjectId
  have h := (Contents.reads_contextWord32 number id.raw rest).bind_pure ObjectId.mk
  rwa [bind_assoc] at h

theorem octets_encodeText {text : String} (h : (Octets.ofString text).length + 1 < 0x100000000)
    (number : UInt8) : (encodeText number text).octets
      = (Contents.tagged (.context number)
          (Contents.utf8Charset :: Octets.ofString text)).octets :=
  Contents.octets_encodeHeaded h (.context number) Contents.utf8Charset

theorem reads_text {text : String} (h : (Octets.ofString text).length + 1 < 0x100000000)
    (number : UInt8) (rest : Octets) :
    (Tag.expectContext number >>= Contents.decodeText).Reads (encodeText number text).octets text
      rest := by
  rw [octets_encodeText h]
  exact Contents.reads_context number h (Contents.reads_text text rest)

/-! ## Parameters that may be missing -/

/-- What comes next is not the parameter with a number. -/
def Absent (number : UInt8) (next : Octets) : Prop :=
  next = [] ∨ ∃ t : Tag, t.Begins next ∧ t.isContext number = false

theorem absent_nil (number : UInt8) : Absent number [] := .inl rfl

theorem absent_of_begins {number : UInt8} {t : Tag} {next : Octets} (h : t.Begins next)
    (ht : t.isContext number = false) : Absent number next := .inr ⟨t, h, ht⟩

theorem begins_encodeUnsigned (number : UInt8) (n : UInt32) :
    ∃ length, (Tag.context number length).Begins (encodeUnsigned number n).octets :=
  ⟨_, _, Contents.octets_tagged ..⟩

theorem begins_encodeObjectId (number : UInt8) (id : ObjectId) :
    ∃ length, (Tag.context number length).Begins (encodeObjectId number id).octets :=
  ⟨_, _, Contents.octets_tagged ..⟩

theorem begins_encodeText {text : String} (h : (Octets.ofString text).length + 1 < 0x100000000)
    (number : UInt8) :
    ∃ length, (Tag.context number length).Begins (encodeText number text).octets := by
  rw [octets_encodeText h]
  exact ⟨_, _, Contents.octets_tagged ..⟩

theorem reads_optional_some (number : UInt8) (n : UInt32) (rest : Octets) :
    (decodeOptional number).Reads (encodeUnsigned number n).octets (some n) rest := by
  obtain ⟨length, hbegins⟩ := begins_encodeUnsigned number n
  unfold decodeOptional
  refine (Decode.reads_atEnd _).bind_nil ?_
  rw [(hbegins.append rest).isEmpty_eq_false, if_neg (by simp)]
  refine (hbegins.append rest).reads_peek.bind_nil ?_
  rw [if_pos (by simp [Tag.isContext])]
  exact (reads_unsigned number n rest).map some

theorem reads_optional_none {number : UInt8} {rest : Octets} (h : Absent number rest) :
    (decodeOptional number).Reads [] none rest := by
  unfold decodeOptional
  refine (Decode.reads_atEnd rest).bind_last ?_
  rcases h with rfl | ⟨t, hbegins, ht⟩
  · rw [List.isEmpty_nil, if_pos rfl]
    exact .pure none []
  · rw [hbegins.isEmpty_eq_false, if_neg (by simp)]
    refine hbegins.reads_peek.bind_last ?_
    rw [if_neg (by simp [ht])]
    exact .pure none _

/-- A parameter that may be missing, in front of what is not that parameter. -/
theorem reads_optional {number : UInt8} {rest : Octets} (h : Absent number rest)
    (n : Option UInt32) :
    (decodeOptional number).Reads (encodeOptional number n).octets n rest := by
  cases n with
  | none => simpa [encodeOptional] using reads_optional_none h
  | some n => exact reads_optional_some number n rest

end Bacnet.Parameter
