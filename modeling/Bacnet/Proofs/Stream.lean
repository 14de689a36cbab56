import Bacnet.Apdu
import Bacnet.Npdu
import Bacnet.Proofs.Delimited
import Bacnet.Proofs.Tag
import Bacnet.Service.Discovery
import Bacnet.Service.ReadProperty

set_option autoImplicit false

/-! # Forms that can be cut out of a stream

Tags, values, headers and the answers with a body of their own say where they end: a length, a
closing tag or the fields themselves do. Every check of such a form stands behind the octets it
needs, so an input that is too short is never taken for a wrong one (`WireForm.delimited_decode`).
A parameter that may be missing is the one place where a tag is looked at and left; what follows it
reads a tag in any case, and the two together read that tag once (`verdict_decodeOptional_bind`). -/

namespace Bacnet

open Decode

/-! ## Tags and contents -/

namespace Tag

theorem delimited_decodeLength (low : UInt8) : (decodeLength low).Delimited := by
  unfold decodeLength
  refine .ite (.pure _) (.guard ?_)
  refine delimited_octet.bind fun o => ?_
  split
  · exact delimited_word16.bind fun _ => .pure _
  · exact delimited_word32
  · exact .pure _

theorem starves_decode : decode.Starves [] := starves_octet.bind _

theorem delimited_withInitial {β : Type} {next : UInt8 → UInt8 → Decode β}
    (h : ∀ initial number, (next initial number).Delimited) : (withInitial next).Delimited := by
  refine delimited_octet.bind fun initial => ?_
  exact .ite (delimited_octet.bind (h initial)) ((Delimited.pure _).bind (h initial))

theorem delimited_decode : decode.Delimited := by
  unfold decode
  refine delimited_withInitial fun initial number => ?_
  have hlength := delimited_decodeLength (initial &&& 0x07)
  refine .ite ?_ (.ite (.pure _) (.ite (.pure _) (hlength.bind fun _ => .pure _)))
  cases AppTag.ofNumber? number with
  | some tag => exact hlength.bind fun _ => .pure _
  | none => exact .throw _

theorem delimited_expectApplication (tag : AppTag) : (expectApplication tag).Delimited := by
  unfold expectApplication
  refine delimited_decode.bind fun t => ?_
  cases t with
  | application tag' length => exact .ite (.pure _) (.throw _)
  | _ => exact .throw _

theorem delimited_expectContext (number : UInt8) : (expectContext number).Delimited := by
  unfold expectContext
  refine delimited_decode.bind fun t => ?_
  cases t with
  | context number' length => exact .ite (.pure _) (.throw _)
  | _ => exact .throw _

end Tag

namespace Contents

theorem delimited_decodeUnsigned (length : Nat) : (decodeUnsigned length).Delimited := by
  unfold decodeUnsigned
  refine .guard ?_
  exact (delimited_octets length).bind fun _ => .pure _

theorem delimited_decodeSigned (length : Nat) : (decodeSigned length).Delimited := by
  unfold decodeSigned
  refine .guard ?_
  exact (delimited_octets length).bind fun _ => .pure _

theorem delimited_decodeWord32 (length : Nat) : (decodeWord32 length).Delimited := by
  unfold decodeWord32
  refine .guard ?_
  exact delimited_word32

theorem delimited_decodeWord64 (length : Nat) : (decodeWord64 length).Delimited := by
  unfold decodeWord64
  refine .guard ?_
  exact delimited_word64

theorem delimited_decodeText (length : Nat) : (decodeText length).Delimited := by
  unfold decodeText
  refine (delimited_octets length).bind fun contents => ?_
  split
  · exact .throw _
  · refine .guard ?_
    split
    · exact .pure _
    · exact .throw _

theorem delimited_decodeAppUnsigned : decodeAppUnsigned.Delimited :=
  (Tag.delimited_expectApplication _).bind delimited_decodeUnsigned

theorem delimited_decodeAppEnumerated : decodeAppEnumerated.Delimited :=
  (Tag.delimited_expectApplication _).bind delimited_decodeUnsigned

theorem delimited_decodeAppObjectId : decodeAppObjectId.Delimited :=
  (Tag.delimited_expectApplication _).bind delimited_decodeWord32

theorem delimited_decodeAppText : decodeAppText.Delimited :=
  (Tag.delimited_expectApplication _).bind delimited_decodeText

end Contents

namespace Value

theorem delimited_decodeBitString (length : Nat) : (decodeBitString length).Delimited := by
  unfold decodeBitString
  refine (delimited_octets length).bind fun contents => ?_
  split
  · exact .throw _
  · exact .guard (.pure _)

theorem delimited_decodeContents (tag : AppTag) (length : UInt32) :
    (decodeContents tag length).Delimited := by
  unfold decodeContents
  cases tag with
  | null => exact .pure _
  | boolean => exact .pure _
  | unsignedInt => exact (Contents.delimited_decodeUnsigned _).map _
  | signedInt => exact (Contents.delimited_decodeSigned _).map _
  | real => exact (Contents.delimited_decodeWord32 _).map _
  | double => exact (Contents.delimited_decodeWord64 _).map _
  | octetString => exact .throw _
  | characterString => exact (Contents.delimited_decodeText _).map _
  | bitString => exact (delimited_decodeBitString _).map _
  | enumerated => exact (Contents.delimited_decodeUnsigned _).map _
  | date => exact .throw _
  | time => exact .throw _
  | objectId => exact (Contents.delimited_decodeWord32 _).map _

theorem delimited_decodeBehind (t : Tag) : (decodeBehind t).Delimited := by
  cases t with
  | application tag length => exact delimited_decodeContents tag length
  | _ => exact .throw _

theorem delimited_decode : decode.Delimited := Tag.delimited_decode.bind delimited_decodeBehind

theorem delimited_decodeUnlessClosing (number : UInt8) :
    (decodeUnlessClosing number).Delimited := by
  unfold decodeUnlessClosing
  refine Tag.delimited_decode.bind fun t => ?_
  exact .ite (.pure _) ((delimited_decodeBehind t).map _)

theorem advances_decodeUnlessClosing (number : UInt8) : (decodeUnlessClosing number).Advances :=
  fun _ _ _ h => (delimited_decodeUnlessClosing number).length_lt (Tag.starves_decode.bind _) h

theorem delimited_decodeUntilClosing (number : UInt8) : (decodeUntilClosing number).Delimited :=
  (Delimited.many (delimited_decodeUnlessClosing number)
    (advances_decodeUnlessClosing number)).map _

end Value

/-! ## Headers -/

namespace Npdu

theorem delimited_decodeIf {α : Type} {reading : Decode α} (h : reading.Delimited)
    (condition : Bool) : (decodeIf condition reading).Delimited :=
  .ite (h.map _) (.pure _)

theorem delimited_decodeAddress : NetworkAddress.decode.Delimited := by
  unfold NetworkAddress.decode
  refine delimited_word16.bind fun network => delimited_octet.bind fun length => .guard ?_
  exact (delimited_octets _).bind fun _ => .pure _

theorem delimited_decodeMessage : decodeMessage.Delimited :=
  delimited_octet.bind fun _ => (delimited_decodeIf delimited_word16 _).bind fun _ => .pure _

theorem delimited_decode : decode.Delimited := by
  unfold decode
  refine delimited_octet.bind fun first => .guard ?_
  refine delimited_octet.bind fun control => ?_
  refine (delimited_decodeIf delimited_decodeAddress _).bind fun destination => ?_
  refine (delimited_decodeIf delimited_decodeAddress _).bind fun source => ?_
  refine (delimited_decodeIf delimited_octet _).bind fun hopCount => ?_
  exact (delimited_decodeIf delimited_decodeMessage _).bind fun _ => .pure _

end Npdu

theorem PduType.delimited_decodeFlags (t : PduType) : t.decodeFlags.Delimited := by
  unfold PduType.decodeFlags
  exact delimited_octet.bind fun _ => .guard (.pure _)

theorem ConfirmedHeader.delimited_decodeSegment (flags : UInt8) :
    (decodeSegment flags).Delimited := by
  unfold decodeSegment
  refine .ite (.pure _) ?_
  exact delimited_octet.bind fun _ => delimited_octet.bind fun _ => .pure _

theorem ConfirmedHeader.delimited_decode : decode.Delimited := by
  unfold decode
  refine (PduType.delimited_decodeFlags _).bind fun flags => ?_
  refine delimited_octet.bind fun sizes => delimited_octet.bind fun invokeId => ?_
  refine (delimited_decodeSegment flags).bind fun segment => ?_
  exact delimited_octet.bind fun _ => .pure _

theorem ComplexAckHeader.delimited_decode : decode.Delimited := by
  unfold decode
  refine (PduType.delimited_decodeFlags _).bind fun flags => .guard ?_
  exact delimited_octet.bind fun _ => delimited_octet.bind fun _ => .pure _

theorem ErrorPdu.delimited_decode : decode.Delimited := by
  unfold decode
  refine (PduType.delimited_decodeFlags _).bind fun flags => ?_
  refine delimited_octet.bind fun invokeId => delimited_octet.bind fun service => ?_
  refine Contents.delimited_decodeAppEnumerated.bind fun errorClass => ?_
  exact Contents.delimited_decodeAppEnumerated.bind fun _ => .pure _

theorem RejectPdu.delimited_decode : decode.Delimited := by
  unfold decode
  refine (PduType.delimited_decodeFlags _).bind fun flags => ?_
  exact delimited_octet.bind fun _ => delimited_octet.bind fun _ => .pure _

/-! ## Answers -/

theorem IAm.delimited_decodeBody : decodeBody.Delimited := by
  unfold decodeBody
  refine Contents.delimited_decodeAppObjectId.bind fun deviceId => ?_
  refine Contents.delimited_decodeAppUnsigned.bind fun maxApdu => ?_
  refine Contents.delimited_decodeAppEnumerated.bind fun segmentation => ?_
  exact Contents.delimited_decodeAppUnsigned.bind fun _ => .pure _

theorem IHave.delimited_decodeBody : decodeBody.Delimited := by
  unfold decodeBody
  refine Contents.delimited_decodeAppObjectId.bind fun deviceId => ?_
  refine Contents.delimited_decodeAppObjectId.bind fun objectId => ?_
  exact Contents.delimited_decodeAppText.bind fun _ => .pure _

/-! ## Parameters -/

namespace Parameter

theorem delimited_decodeUnsigned (number : UInt8) : (decodeUnsigned number).Delimited :=
  (Tag.delimited_expectContext number).bind Contents.delimited_decodeUnsigned

theorem delimited_decodeObjectId (number : UInt8) : (decodeObjectId number).Delimited := by
  unfold decodeObjectId
  refine (Tag.delimited_expectContext number).bind fun length => ?_
  exact (Contents.delimited_decodeWord32 length).bind fun _ => .pure _

section Optional

variable {α : Type} {next : Option UInt32 → Decode α} {behind : Tag → Decode α} {number : UInt8}
  {r r' : Reader} {t : Tag}

theorem decodeOptional_of_nil (h : r.unread = []) : decodeOptional number r = .ok none r := by
  obtain ⟨position, unread⟩ := r
  subst h
  rfl

theorem decodeOptional_of_ne_nil (h : r.unread ≠ []) : decodeOptional number r = (do
    if (← Tag.peek).isContext number then some <$> decodeUnsigned number else return none) r := by
  obtain ⟨position, unread⟩ := r
  obtain ⟨o, tail, rfl⟩ := List.exists_cons_of_ne_nil h
  rfl

theorem decodeOptional_of_error (h : r.unread ≠ []) {e : DecodeError}
    (htag : Tag.decode r = .error e r') : decodeOptional number r = .error e r := by
  have hpeek : Tag.peek r = .error e r := by
    unfold Tag.peek Decode.peek
    rw [htag]
  rw [decodeOptional_of_ne_nil h, bind_apply, hpeek]

theorem decodeOptional_of_tag (htag : Tag.decode r = .ok t r') : decodeOptional number r
    = (if t.isContext number then some <$> decodeUnsigned number else return none) r := by
  have hne : r.unread ≠ [] := by
    intro hnil
    have hlt := Tag.delimited_decode.length_lt Tag.starves_decode htag
    rw [hnil] at hlt
    exact Nat.not_lt_zero _ hlt
  have hpeek : Tag.peek r = .ok t r := by
    unfold Tag.peek Decode.peek
    rw [htag]
  rw [decodeOptional_of_ne_nil hne, bind_apply, hpeek]

/-- A parameter that may be missing and what is read behind it, by the one tag that tells which of
    the two comes next. -/
def decodeByTag (number : UInt8) (next : Option UInt32 → Decode α) (behind : Tag → Decode α) :
    Decode α := do
  let t ← Tag.decode
  match t with
  | .context n length =>
    if n = number then next (some (← Contents.decodeUnsigned length.toNat)) else behind t
  | _ => behind t

/-- A tag that is looked at, left and read again is read once, if a tag is read in any case. -/
theorem verdict_decodeOptional_bind (hnone : next none = Tag.decode >>= behind) (r : Reader) :
    (decodeOptional number >>= next).verdict r = (decodeByTag number next behind).verdict r := by
  have habsent : ∀ {t r₁}, Tag.decode r = .ok t r₁ → t.isContext number = false →
      (decodeOptional number >>= next) r = behind t r₁ := by
    intro t r₁ htag ht
    rw [bind_apply, decodeOptional_of_tag htag, ht]
    show next none r = _
    rw [hnone, bind_apply, htag]
  unfold decodeByTag verdict
  rw [bind_apply Tag.decode]
  cases htag : Tag.decode r with
  | error e r₁ =>
      by_cases hnil : r.unread = []
      · rw [bind_apply, decodeOptional_of_nil hnil]
        simp only [hnone, bind_apply, htag]
      · rw [bind_apply, decodeOptional_of_error hnil htag]
  | ok t r₁ =>
      cases t with
      | context n length =>
          by_cases hn : n = number
          · subst hn
            -- The same tag is read again, and its contents are what is read behind it.
            have hexpect : Tag.expectContext n r = .ok length.toNat r₁ := by
              unfold Tag.expectContext
              rw [bind_apply, htag]
              exact congrFun (if_pos rfl) r₁
            have hpresent : decodeOptional n r
                = (some <$> Contents.decodeUnsigned length.toNat) r₁ := by
              rw [decodeOptional_of_tag htag, if_pos (by simp [Tag.isContext]), decodeUnsigned,
                map_eq_bind, map_eq_bind, bind_assoc, bind_apply, hexpect]
            rw [bind_apply, hpresent, map_eq_bind, bind_apply]
            simp only [↓reduceIte, bind_apply]
            cases Contents.decodeUnsigned length.toNat r₁ <;> rfl
          · have ht : (Tag.context n length).isContext number = false := by
              simpa [Tag.isContext] using hn
            rw [habsent htag ht]
            simp only [if_neg hn]
      | _ => rw [habsent htag rfl]

/-- A parameter that may be missing is delimited together with what reads a tag behind it. -/
theorem delimited_decodeOptional_bind (hsome : ∀ n, (next (some n)).Delimited)
    (hbehind : ∀ t, (behind t).Delimited) (hnone : next none = Tag.decode >>= behind) :
    (decodeOptional number >>= next).Delimited := by
  refine Delimited.of_verdict_eq ?_ (verdict_decodeOptional_bind hnone)
  unfold decodeByTag
  refine Tag.delimited_decode.bind fun t => ?_
  cases t with
  | context n length =>
      refine .ite ?_ (hbehind _)
      exact (Contents.delimited_decodeUnsigned _).bind fun m => hsome m
  | _ => exact hbehind _

end Optional

end Parameter

/-- The opening bracket of the value ends the reference, whether an index stood in it or not. -/
theorem ReadPropertyAck.delimited_decodeBody : decodeBody.Delimited := by
  have hbehind : ∀ (reference : ReadProperty) (t : Tag),
      ((if t ≠ .opening 3 then throw .invalidTag else pure () : Decode Unit) >>= fun _ => do
        return ReadPropertyAck.mk reference (← Value.decodeUntilClosing 3)).Delimited := by
    intro reference t
    refine (Delimited.ite (.throw _) (.pure _)).bind fun _ => ?_
    exact (Value.delimited_decodeUntilClosing 3).bind fun _ => .pure _
  unfold decodeBody ReadProperty.decodeReference
  simp only [Tag.expect, bind_assoc, pure_bind]
  refine (Parameter.delimited_decodeObjectId 0).bind fun objectId => ?_
  refine (Parameter.delimited_decodeUnsigned 1).bind fun property => ?_
  refine Parameter.delimited_decodeOptional_bind (fun index => ?_)
    (hbehind ⟨objectId, ⟨property⟩, none⟩) rfl
  exact Tag.delimited_decode.bind (hbehind _)

/-! ## All forms -/

/-- A form that ends where it says itself, by what is read of it. Values between brackets are read
    up to the closing tag with a number. -/
inductive WireForm : Type → Type
  | tag : WireForm Tag
  | npdu : WireForm Npdu
  | confirmedHeader : WireForm ConfirmedHeader
  | complexAckHeader : WireForm ComplexAckHeader
  | error : WireForm ErrorPdu
  | reject : WireForm RejectPdu
  | value : WireForm Value
  | valuesUntilClosing (number : UInt8) : WireForm Value
  | iAm : WireForm IAm
  | iHave : WireForm IHave
  | readPropertyAck : WireForm ReadPropertyAck

namespace WireForm

variable {α : Type}

/-- How a form is read; the answers are read from behind their headers. -/
def decode : WireForm α → Decode α
  | tag => Tag.decode
  | npdu => Npdu.decode
  | confirmedHeader => ConfirmedHeader.decode
  | complexAckHeader => ComplexAckHeader.decode
  | error => ErrorPdu.decode
  | reject => RejectPdu.decode
  | value => Value.decode
  | valuesUntilClosing number => Value.decodeUntilClosing number
  | iAm => IAm.decodeBody
  | iHave => IHave.decodeBody
  | readPropertyAck => ReadPropertyAck.decodeBody

theorem delimited_decode (form : WireForm α) : form.decode.Delimited := by
  cases form with
  | tag => exact Tag.delimited_decode
  | npdu => exact Npdu.delimited_decode
  | confirmedHeader => exact ConfirmedHeader.delimited_decode
  | complexAckHeader => exact ComplexAckHeader.delimited_decode
  | error => exact ErrorPdu.delimited_decode
  | reject => exact RejectPdu.delimited_decode
  | value => exact Value.delimited_decode
  | valuesUntilClosing number => exact Value.delimited_decodeUntilClosing number
  | iAm => exact IAm.delimited_decodeBody
  | iHave => exact IHave.delimited_decodeBody
  | readPropertyAck => exact ReadPropertyAck.delimited_decodeBody

/-- What a form takes of an input decides it. Every input that begins with those octets is read the
    same and left at the same place, and of each proper beginning of them the reading says that the
    input ended, and nothing else. -/
theorem extends_and_starves (form : WireForm α) {input : Octets} {a : α} {r : Reader}
    (h : form.decode (.ofOctets input) = .ok a r) :
    r.position ≤ input.length ∧ r.unread = input.drop r.position ∧
    (∀ input' : Octets, input.take r.position <+: input' →
      form.decode (.ofOctets input') = .ok a ⟨r.position, input'.drop r.position⟩) ∧
    ∀ cut : Octets, cut <+: input.take r.position → cut ≠ input.take r.position →
      ∃ r', form.decode (.ofOctets cut) = .error .unexpectedEnd r' := by
  obtain ⟨taken, hconsumes, hdelimits⟩ := form.delimited_decode h
  obtain ⟨htake, hdrop, hlength, hle⟩ := hconsumes.eq_take
  refine ⟨hle, hdrop, ?_, ?_⟩
  · rintro input' ⟨rest, rfl⟩
    have hread := hdelimits.reads rest 0
    rw [← htake, hlength, List.drop_left]
    rwa [Nat.zero_add] at hread
  · intro cut hcut hne
    rw [← htake] at hcut hne
    exact hdelimits.starves cut hcut hne 0

/-- An answer without an index, in front of an octet that is not its own: it is read the same in
    front of another context tag, and behind the first of the octets that are its brackets, where
    an index could still come, the input ends. -/
theorem extends_and_starves_answer :
    let answer : Octets := [0x0C, 0, 0, 0, 5, 0x19, 85, 0x3E, 0x91, 3, 0x3F]
    let a : ReadPropertyAck := ⟨⟨⟨5⟩, ⟨85⟩, none⟩, .enumerated 3⟩
    readPropertyAck.decode (.ofOctets (answer ++ [0xFF])) = .ok a ⟨11, [0xFF]⟩ ∧
    readPropertyAck.decode (.ofOctets (answer ++ [0x29, 1])) = .ok a ⟨11, [0x29, 1]⟩ ∧
    ∃ r, readPropertyAck.decode (.ofOctets (answer.take 7)) = .error .unexpectedEnd r := by
  intro answer a
  have hread : readPropertyAck.decode (.ofOctets (answer ++ [0xFF])) = .ok a ⟨11, [0xFF]⟩ := rfl
  obtain ⟨-, -, hextends, hstarves⟩ := readPropertyAck.extends_and_starves hread
  refine ⟨hread, hextends (answer ++ [0x29, 1]) (List.prefix_append answer _), ?_⟩
  exact hstarves (answer.take 7) (List.take_prefix 7 answer) (by decide)

end WireForm

end Bacnet
