import Bacnet.Proofs.Canonical

set_option autoImplicit false

/-! # Progress of a row

A row of items is a loop that nothing but its input bounds. `Iterates` is that loop without the
octets that bound `many`: how many items it takes from a place, and what it comes to. Where every
item takes some octets, the loop comes to an end at every place, after no more items than the
octets that are left allow, and the end is that of `many` (`exists_iterates_iff`).

The question for many properties is a row of rows. A reference takes two octets at least and two
more for an index, and an object seven around its references, so what is left at the start bounds
the question that is read (`ReadPropertyMultiple.decodeBody_progresses`). -/

namespace Bacnet

namespace Decode

variable {α : Type} {step : Decode (Option α)} {item : Decode α} {r r' : Reader}

/-- How a reading of a row may end. -/
abbrev Outcome (α : Type) : Type := EStateM.Result DecodeError Reader (List α)

/-- The end of a row with an item in front. -/
def Outcome.behind (a : α) : Outcome α → Outcome α
  | .ok items r => .ok (a :: items) r
  | .error e r => .error e r

/-- The loop with nothing to bound it: from a place it takes this many items and comes to this
    end. -/
inductive Iterates (step : Decode (Option α)) : Reader → Nat → Outcome α → Prop
  | stop {r r' : Reader} (last : step r = .ok none r') : Iterates step r 0 (.ok [] r')
  | fail {r r' : Reader} {e : DecodeError} (last : step r = .error e r') :
      Iterates step r 0 (.error e r')
  | more {r r₁ : Reader} {a : α} {n : Nat} {outcome : Outcome α}
      (head : step r = .ok (some a) r₁) (tail : Iterates step r₁ n outcome) :
      Iterates step r (n + 1) (outcome.behind a)

/-- The loop comes to one end only. -/
theorem Iterates.unique {n m : Nat} {outcome outcome' : Outcome α}
    (h : Iterates step r n outcome) (h' : Iterates step r m outcome') :
    m = n ∧ outcome' = outcome := by
  induction h generalizing m outcome' with
  | stop last =>
      cases h' with
      | stop last' =>
          cases last.symm.trans last'
          exact ⟨rfl, rfl⟩
      | fail last' => cases last.symm.trans last'
      | more head => cases last.symm.trans head
  | fail last =>
      cases h' with
      | stop last' => cases last.symm.trans last'
      | fail last' =>
          cases last.symm.trans last'
          exact ⟨rfl, rfl⟩
      | more head => cases last.symm.trans head
  | more head tail ih =>
      cases h' with
      | stop last => cases head.symm.trans last
      | fail last => cases head.symm.trans last
      | more head' tail' =>
          cases head.symm.trans head'
          obtain ⟨rfl, rfl⟩ := ih tail'
          exact ⟨rfl, rfl⟩

/-- Whether every item takes this many octets at least. -/
def Progresses (step : Decode (Option α)) (least : Nat) : Prop :=
  ∀ ⦃r a r'⦄, step r = .ok (some a) r' → ∃ taken, r.Consumes taken r' ∧ least ≤ taken.length

section Progresses

variable {least : Nat} (hstep : step.Progresses least)

include hstep

theorem Progresses.add_le {a : α} (h : step r = .ok (some a) r') :
    least + r'.unread.length ≤ r.unread.length := by
  obtain ⟨taken, ⟨hunread, -⟩, hleast⟩ := hstep h
  rw [hunread, List.length_append]
  exact Nat.add_le_add_right hleast _

theorem Progresses.advances (hpos : 0 < least) : step.Advances := by
  intro r a r' h
  have hle := hstep.add_le h
  omega

/-- Where there is an item, the loop comes to what it comes to behind that. -/
theorem Progresses.many_eq_behind (hpos : 0 < least) {a : α} (h : step r = .ok (some a) r') :
    many step r = Outcome.behind a (many step r') := by
  have hrow : many step r = ((a :: ·) <$> many step) r' := by
    conv_lhs => rw [many_eq (hstep.advances hpos), bind_apply, h]
  rw [hrow, map_eq_bind, bind_apply]
  cases many step r' <;> rfl

theorem Progresses.exists_iterates (hpos : 0 < least) (r : Reader) :
    ∃ n, least * n ≤ r.unread.length ∧ Iterates step r n (many step r) := by
  -- The induction is on what is left, which every item makes less.
  induction hleft : r.unread.length using Nat.strongRecOn generalizing r with
  | ind left ih =>
      subst hleft
      cases hnext : step r with
      | error e r₁ =>
          have hmany : many step r = .error e r₁ := many_go_of_error hnext
          exact ⟨0, Nat.zero_le _, hmany ▸ .fail hnext⟩
      | ok next r₁ =>
          cases next with
          | none =>
              have hmany : many step r = .ok [] r₁ := many_go_of_none hnext
              exact ⟨0, Nat.zero_le _, hmany ▸ .stop hnext⟩
          | some a =>
              have hle := hstep.add_le hnext
              obtain ⟨n, hn, htail⟩ := ih r₁.unread.length (by omega) r₁ rfl
              refine ⟨n + 1, ?_, hstep.many_eq_behind hpos hnext ▸ .more hnext htail⟩
              rw [Nat.mul_succ]
              omega

/-- From every place the loop comes to one end, which is that of `many`, and the octets that are
    left bound how many items it takes. -/
theorem Progresses.exists_iterates_iff (hpos : 0 < least) (r : Reader) :
    ∃ n, least * n ≤ r.unread.length ∧
      ∀ m outcome, Iterates step r m outcome ↔ m = n ∧ outcome = many step r := by
  obtain ⟨n, hn, hiterates⟩ := hstep.exists_iterates hpos r
  refine ⟨n, hn, fun m outcome => ⟨fun h => hiterates.unique h, ?_⟩⟩
  rintro ⟨rfl, rfl⟩
  exact hiterates

end Progresses

end Decode

open Decode

/-! ## How short a question can be -/

namespace Parameter

theorem two_le_length_encodeUnsigned (number : UInt8) (n : UInt32) :
    2 ≤ (encodeUnsigned number n).octets.length := by
  obtain ⟨hpos, -, -⟩ := Contents.unsignedWidth_bounds n
  rw [← Contents.length_ofUnsigned] at hpos
  rw [encodeUnsigned, Contents.encodeUnsigned, Contents.octets_tagged, List.length_append]
  exact Nat.add_le_add (Tag.one_le_length_encode _) hpos

theorem five_le_length_encodeObjectId (number : UInt8) (id : ObjectId) :
    5 ≤ (encodeObjectId number id).octets.length := by
  rw [encodeObjectId, Contents.encodeWord32, Contents.octets_tagged, List.length_append,
    Octets.length_ofUInt32]
  exact Nat.add_le_add_right (Tag.one_le_length_encode _) 4

end Parameter

/-- The octets that references take at least. -/
def PropertyReference.leastOctets (references : List PropertyReference) : Nat :=
  2 * references.length + 2 * references.countP (·.index.isSome)

namespace PropertyReference

theorem leastOctets_append (front back : List PropertyReference) :
    leastOctets (front ++ back) = leastOctets front + leastOctets back := by
  unfold leastOctets
  rw [List.length_append, List.countP_append]
  omega

theorem leastOctets_singleton_le (ref : PropertyReference) :
    leastOctets [ref] ≤ ref.encode.octets.length := by
  have hproperty := Parameter.two_le_length_encodeUnsigned 0 ref.property.code
  rw [octets_encode, List.length_append]
  obtain ⟨property, index⟩ := ref
  cases index with
  | none => exact Nat.le_trans hproperty (Nat.le_add_right ..)
  | some n => exact Nat.add_le_add hproperty (Parameter.two_le_length_encodeUnsigned 1 n)

theorem leastOctets_le (references : List PropertyReference) :
    leastOctets references ≤ (references.flatMap (·.encode.octets)).length := by
  induction references with
  | nil => exact Nat.le_refl 0
  | cons ref references ih =>
      rw [← List.singleton_append, leastOctets_append, List.flatMap_append, List.length_append,
        List.flatMap_singleton]
      exact Nat.add_le_add (leastOctets_singleton_le ref) ih

end PropertyReference

theorem AccessSpec.leastOctets_le (spec : AccessSpec) :
    7 + PropertyReference.leastOctets spec.references ≤ spec.encode.octets.length := by
  have hobject := Parameter.five_le_length_encodeObjectId 0 spec.objectId
  have hreferences := PropertyReference.leastOctets_le spec.references
  have hopening := Tag.one_le_length_encode (.opening 1)
  have hclosing := Tag.one_le_length_encode (.closing 1)
  rw [octets_encode]
  simp only [List.length_append]
  omega

namespace ReadPropertyMultiple

/-- All references of a question, of whichever object. -/
def references (q : ReadPropertyMultiple) : List PropertyReference :=
  q.specs.flatMap (·.references)

theorem leastOctets_le (q : ReadPropertyMultiple) :
    7 * q.specs.length + PropertyReference.leastOctets q.references
      ≤ q.encodeBody.octets.length := by
  rw [octets_encodeBody, references]
  induction q.specs with
  | nil => exact Nat.le_refl 0
  | cons spec specs ih =>
      have hspec := spec.leastOctets_le
      rw [List.flatMap_cons, PropertyReference.leastOctets_append, List.flatMap_cons,
        List.length_append, List.length_cons]
      omega

/-! ## The question as a row of rows -/

theorem exists_taken_of_unlessClosing {r r' : Reader} {ref : PropertyReference}
    (h : unlessClosing 1 PropertyReference.decode r = .ok (some ref) r') :
    ∃ taken, r.Consumes taken r' ∧ PropertyReference.leastOctets [ref] ≤ taken.length := by
  obtain ⟨taken, htaken, hle⟩ := PropertyReference.covers_decode (item_of_unlessClosing h)
  exact ⟨taken, htaken, Nat.le_trans ref.leastOctets_singleton_le hle⟩

theorem exists_taken_of_unlessEnd {r r' : Reader} {spec : AccessSpec}
    (h : unlessEnd AccessSpec.decode r = .ok (some spec) r') : ∃ taken, r.Consumes taken r' ∧
      7 + PropertyReference.leastOctets spec.references ≤ taken.length := by
  obtain ⟨taken, htaken, hle⟩ := AccessSpec.covers_decode (item_of_unlessEnd h)
  exact ⟨taken, htaken, Nat.le_trans spec.leastOctets_le hle⟩

theorem progresses_unlessClosing : (unlessClosing 1 PropertyReference.decode).Progresses 2 := by
  intro r ref r' h
  obtain ⟨taken, htaken, hle⟩ := exists_taken_of_unlessClosing h
  refine ⟨taken, htaken, ?_⟩
  rw [PropertyReference.leastOctets, List.length_singleton] at hle
  omega

/-- An object is asked for something, so it takes two octets more than it takes itself. -/
theorem progresses_unlessEnd : (unlessEnd AccessSpec.decode).Progresses 9 := by
  intro r spec r' h
  obtain ⟨taken, htaken, hle⟩ := exists_taken_of_unlessEnd h
  refine ⟨taken, htaken, ?_⟩
  have hasks := AccessSpec.references_ne_nil_of_decode (item_of_unlessEnd h)
  have hpos := List.length_pos_iff.2 hasks
  rw [PropertyReference.leastOctets] at hle
  omega

/-- Every item that either row takes is taken with octets, and with as many as it must have: two
    for a reference and two more for its index, and seven for an object around its references. So
    both rows come to one end from every place, which is the end that the reading comes to, and a
    question that is read is bounded by its input. -/
theorem decodeBody_progresses :
    (∀ r ref r', unlessClosing 1 PropertyReference.decode r = .ok (some ref) r' →
      ∃ taken, r.Consumes taken r' ∧ PropertyReference.leastOctets [ref] ≤ taken.length) ∧
    (∀ r spec r', unlessEnd AccessSpec.decode r = .ok (some spec) r' →
      ∃ taken, r.Consumes taken r' ∧
        7 + PropertyReference.leastOctets spec.references ≤ taken.length) ∧
    (∀ r : Reader, ∃ n, 2 * n ≤ r.unread.length ∧ ∀ m outcome,
      Iterates (unlessClosing 1 PropertyReference.decode) r m outcome ↔
        m = n ∧ outcome = many (unlessClosing 1 PropertyReference.decode) r) ∧
    (∀ r : Reader, ∃ n, 9 * n ≤ r.unread.length ∧ ∀ m outcome,
      Iterates (unlessEnd AccessSpec.decode) r m outcome ↔
        m = n ∧ outcome = manyUntilEnd AccessSpec.decode r) ∧
    ∀ r q r', decodeBody r = .ok q r' →
      7 * q.specs.length + 2 * q.references.length + 2 * q.references.countP (·.index.isSome)
        ≤ r.unread.length := by
  refine ⟨fun _ _ _ => exists_taken_of_unlessClosing, fun _ _ _ => exists_taken_of_unlessEnd,
    progresses_unlessClosing.exists_iterates_iff (by decide),
    progresses_unlessEnd.exists_iterates_iff (by decide), ?_⟩
  intro r q r' h
  obtain ⟨taken, ⟨hunread, -⟩, hcovers⟩ := covers_decodeBody h
  have hle : q.encodeBody.octets.length ≤ taken.length := hcovers
  have hleast := q.leastOctets_le
  rw [PropertyReference.leastOctets] at hleast
  rw [hunread, List.length_append]
  omega

/-- One element of one property, in no more octets than that must have. -/
theorem decodeBody_progresses_element :
    let q : ReadPropertyMultiple := ⟨[⟨⟨5⟩, [⟨⟨85⟩, some 1⟩]⟩]⟩
    let input : Octets := [0x0C, 0, 0, 0, 5, 0x1E, 0x09, 85, 0x19, 1, 0x1F]
    decodeBody (.ofOctets input) = .ok q ⟨11, []⟩ ∧
    7 * 1 + 2 * 1 + 2 * 1 ≤ input.length ∧
    (∃ taken, (Reader.mk 6 [0x09, 85, 0x19, 1, 0x1F]).Consumes taken ⟨10, [0x1F]⟩ ∧
      4 ≤ taken.length) ∧
    ∃ taken, (Reader.ofOctets input).Consumes taken ⟨11, []⟩ ∧ 11 ≤ taken.length := by
  intro q input
  obtain ⟨hreference, hspec, -, -, hbound⟩ := decodeBody_progresses
  exact ⟨rfl, hbound (.ofOctets input) q ⟨11, []⟩ rfl,
    hreference ⟨6, [0x09, 85, 0x19, 1, 0x1F]⟩ ⟨⟨85⟩, some 1⟩ ⟨10, [0x1F]⟩ rfl,
    hspec (.ofOctets input) ⟨⟨5⟩, [⟨⟨85⟩, some 1⟩]⟩ ⟨11, []⟩ rfl⟩

end ReadPropertyMultiple

end Bacnet
