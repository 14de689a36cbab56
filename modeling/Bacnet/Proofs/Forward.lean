import Bacnet.Proofs.Reader

set_option autoImplicit false

/-! # Readings go forward

A reader is what is left of an input and a count of what is gone, and every reading moves both. They
stay in step: whatever comes of a reading, it has taken some octets from the front of what was left
and counted them (`Forward`). A reading that fails half way has done so too, and whoever goes on
after the failure reads on from there, so this is said of failures as well as of successes. It holds
of the primitive readings, which take nothing when they fail (`Primitive.atomic`), and of all that
is put together from them. -/

namespace Bacnet

namespace Reader

/-- The reader stands in an input: what it has not read is what the input has behind its
    position. -/
structure InStep (input : Octets) (r : Reader) : Prop where
  unread : r.unread = input.drop r.position
  length : r.position + r.remaining = input.length

/-- A reader that was moved over some octets from the start of an input stands in it. -/
theorem Consumes.inStep {input taken : Octets} {r : Reader}
    (h : (ofOctets input).Consumes taken r) : r.InStep input := by
  obtain ⟨-, hdrop, -, hle⟩ := h.eq_take
  refine ⟨hdrop, ?_⟩
  rw [remaining, hdrop, List.length_drop, Nat.add_sub_cancel' hle]

theorem Consumes.position_le {taken : Octets} {r r' : Reader} (h : r.Consumes taken r') :
    r.position ≤ r'.position := by
  rw [h.2]
  exact Nat.le_add_right ..

end Reader

namespace Decode

variable {α β : Type} {reading : Decode α} {next : α → Decode β}

/-! ## Where a reading leaves the reader -/

/-- The reader after a reading, whatever came of it. -/
def after (reading : Decode α) (r : Reader) : Reader :=
  match reading r with
  | .ok _ r' | .error _ r' => r'

theorem after_of_ok {r r' : Reader} {a : α} (h : reading r = .ok a r') :
    reading.after r = r' := by
  rw [after, h]

theorem after_of_error {r r' : Reader} {e : DecodeError} (h : reading r = .error e r') :
    reading.after r = r' := by
  rw [after, h]

/-- Whether a reading moves the reader over octets that it counts, and does nothing else to it. -/
def Forward (reading : Decode α) : Prop :=
  ∀ r : Reader, ∃ taken, r.Consumes taken (reading.after r)

theorem forward_of_after_eq (h : ∀ r, reading.after r = r) : reading.Forward := by
  intro r
  rw [h r]
  exact ⟨[], .nil r⟩

/-! ## Combinations -/

theorem Forward.pure (a : α) : Forward (pure a) := forward_of_after_eq fun _ => rfl

theorem Forward.throw (e : DecodeError) : Forward (throw e : Decode α) :=
  forward_of_after_eq fun _ => rfl

/-- The second reading goes on where the first one succeeded, and is not reached where it failed. -/
theorem Forward.bind (h : reading.Forward) (h' : ∀ a, (next a).Forward) :
    (reading >>= next).Forward := by
  intro r
  obtain ⟨front, hfront⟩ := h r
  unfold after at hfront ⊢
  rw [bind_apply]
  cases hread : reading r with
  | error e r₁ =>
      rw [hread] at hfront
      exact ⟨front, hfront⟩
  | ok a r₁ =>
      rw [hread] at hfront
      obtain ⟨back, hback⟩ := h' a r₁
      exact ⟨front ++ back, hfront.trans hback⟩

theorem Forward.map (h : reading.Forward) (f : α → β) : (f <$> reading).Forward := by
  rw [map_eq_bind]
  exact h.bind fun a => .pure (f a)

theorem Forward.ite {c : Prop} [Decidable c] {reading reading' : Decode α}
    (h : reading.Forward) (h' : reading'.Forward) :
    (if c then reading else reading').Forward := by
  split
  · exact h
  · exact h'

theorem Forward.guard {c : Prop} [Decidable c] {e : DecodeError} {next : PUnit → Decode β}
    (h : (next ⟨⟩).Forward) : (if c then MonadExcept.throw e >>= next else next ⟨⟩).Forward :=
  .ite ((Forward.throw e).bind fun _ => h) h

/-- Looking ahead does not move the reader. -/
theorem after_peek (reading : Decode α) (r : Reader) : (peek reading).after r = r := by
  unfold after peek
  cases reading r <;> rfl

theorem Forward.peek (reading : Decode α) : (peek reading).Forward :=
  forward_of_after_eq (after_peek reading)

theorem Forward.many_go {step : Decode (Option α)} (h : step.Forward) (fuel : Octets)
    (items : List α) : (many.go step fuel items).Forward := by
  induction fuel generalizing items with
  | nil =>
      refine h.bind fun next => ?_
      cases next with
      | none => exact .pure _
      | some a => exact .throw _
  | cons o fuel ih =>
      refine h.bind fun next => ?_
      cases next with
      | none => exact .pure _
      | some a => exact ih (a :: items)

/-- A row goes forward with every item, also if one of them fails. -/
theorem Forward.many {step : Decode (Option α)} (h : step.Forward) : (many step).Forward := by
  intro r
  exact h.many_go r.unread [] r

/-! ## Primitive readings -/

/-- Whether a reading takes nothing when it fails. -/
def Atomic (reading : Decode α) : Prop := ∀ ⦃r e r'⦄, reading r = .error e r' → r' = r

theorem Atomic.forward (h : reading.Atomic) {written : α → Octets}
    (hexact : reading.Exact written) : reading.Forward := by
  intro r
  cases hread : reading r with
  | ok a r' =>
      rw [after_of_ok hread]
      exact ⟨written a, hexact.consumes hread⟩
  | error e r' =>
      rw [after_of_error hread, h hread]
      exact ⟨[], .nil r⟩

theorem Atomic.bind_pure (h : reading.Atomic) (f : α → β) :
    (reading >>= fun a => Pure.pure (f a)).Atomic := by
  intro r e r' hread
  rw [bind_apply] at hread
  split at hread
  · cases hread
  · next hfails =>
      cases hread
      exact h hfails

theorem atomic_octets (n : Nat) : (octets n).Atomic := by
  intro r e r' h
  unfold octets at h
  simp only at h
  split at h
  · cases h
  · cases h
    rfl

theorem atomic_octet : octet.Atomic := by
  intro r e r' h
  unfold octet at h
  split at h
  · cases h
    rfl
  · cases h

theorem forward_octets (n : Nat) : (octets n).Forward := (atomic_octets n).forward (exact_octets n)

theorem forward_octet : octet.Forward := atomic_octet.forward exact_octet

theorem forward_word16 : word16.Forward := (forward_octets 2).bind fun _ => .pure _

theorem forward_word32 : word32.Forward := (forward_octets 4).bind fun _ => .pure _

theorem forward_word64 : word64.Forward := (forward_octets 8).bind fun _ => .pure _

/-! ## What is left as a whole -/

theorem forward_rest : rest.Forward := by
  intro r
  refine ⟨r.unread, ?_, rfl⟩
  show r.unread = r.unread ++ r.unread.drop r.unread.length
  rw [List.drop_length, List.append_nil]

theorem forward_atEnd : atEnd.Forward := forward_of_after_eq fun _ => rfl

theorem forward_expectEnd : expectEnd.Forward := by
  refine forward_of_after_eq ?_
  rintro ⟨position, unread⟩
  cases unread <;> rfl

end Decode

/-- The readings of which all others are made: octets in a row, or a word of them. -/
inductive Primitive : Type → Type
  | octet : Primitive UInt8
  | word16 : Primitive UInt16
  | word32 : Primitive UInt32
  | word64 : Primitive UInt64
  | octets (n : Nat) : Primitive Octets

namespace Primitive

open Decode

variable {α : Type}

def decode : Primitive α → Decode α
  | octet => Decode.octet
  | word16 => Decode.word16
  | word32 => Decode.word32
  | word64 => Decode.word64
  | octets n => Decode.octets n

theorem atomic (p : Primitive α) : p.decode.Atomic := by
  cases p with
  | octet => exact atomic_octet
  | word16 => exact (atomic_octets 2).bind_pure _
  | word32 => exact (atomic_octets 4).bind_pure _
  | word64 => exact (atomic_octets 8).bind_pure _
  | octets n => exact atomic_octets n

theorem forward (p : Primitive α) : p.decode.Forward := by
  cases p with
  | octet => exact forward_octet
  | word16 => exact forward_word16
  | word32 => exact forward_word32
  | word64 => exact forward_word64
  | octets n => exact forward_octets n

end Primitive

end Bacnet
