import Bacnet.Octets.Writer
import Mathlib.Tactic.Common

set_option autoImplicit false

/-! # Encodings and the buffers they go to

What an encoding without a failure writes does not depend on the buffer: it is `octets` if they
fit, and the buffer is too small otherwise (`within_eq`). Whatever was written at all was such an
encoding (`within_eq_ok_iff`). Where the room ends inside an encoding, the writer stops between two
of its pieces (`exists_putPieces_of_lt`). -/

namespace Bacnet

namespace Encoding

/-! ## Encodings one behind another -/

@[simp] theorem fault_empty : empty.fault = none := by simp [empty]

@[simp] theorem octets_empty : empty.octets = [] := by simp [empty, Encoding.octets]

@[simp] theorem fault_piece (octets : Octets) : (piece octets).fault = none := by
  simp [piece]

@[simp] theorem octets_piece (octets : Octets) : (piece octets).octets = octets := by
  simp [piece, Encoding.octets]

@[simp] theorem fault_octet (o : UInt8) : (octet o).fault = none := by simp [octet]

@[simp] theorem octets_octet (o : UInt8) : (octet o).octets = [o] := by
  simp [octet]

@[simp] theorem fault_append (a b : Encoding) : (a ++ b).fault = a.fault.or b.fault := by
  show (append a b).fault = _
  unfold append
  cases h : a.fault with
  | none => simp
  | some e => simp [h]

@[simp] theorem octets_append {a b : Encoding} (h : a.fault = none) :
    (a ++ b).octets = a.octets ++ b.octets := by
  show (append a b).octets = _
  simp [append, h, Encoding.octets]

theorem append_assoc (a b c : Encoding) : a ++ b ++ c = a ++ (b ++ c) := by
  show append (append a b) c = append a (append b c)
  obtain ⟨as, fa⟩ := a
  obtain ⟨bs, fb⟩ := b
  cases fa <;> cases fb <;> simp [append]

@[simp] theorem append_empty (a : Encoding) : a ++ empty = a := by
  show append a empty = a
  obtain ⟨as, fa⟩ := a
  cases fa <;> simp [append, empty]

@[simp] theorem concat_nil : concat [] = empty := rfl

@[simp] theorem concat_cons (a : Encoding) (as : List Encoding) :
    concat (a :: as) = a ++ concat as := rfl

theorem concat_append (as bs : List Encoding) : concat (as ++ bs) = concat as ++ concat bs := by
  induction as with
  | nil => rfl
  | cons a as ih => rw [List.cons_append, concat_cons, concat_cons, ih, append_assoc]

section Map

variable {α : Type} {as : List α} {f : α → Encoding} (h : ∀ a ∈ as, (f a).fault = none)

include h

theorem fault_concat_map : (concat (as.map f)).fault = none := by
  induction as with
  | nil => rfl
  | cons a as ih =>
      rw [List.map_cons, concat_cons, fault_append, h a (List.mem_cons_self ..),
        ih fun b hb => h b (List.mem_cons_of_mem a hb)]
      rfl

theorem octets_concat_map : (concat (as.map f)).octets = as.flatMap fun a => (f a).octets := by
  induction as with
  | nil => rfl
  | cons a as ih =>
      rw [List.map_cons, concat_cons, octets_append (h a (List.mem_cons_self ..)),
        ih fun b hb => h b (List.mem_cons_of_mem a hb), List.flatMap_cons]

end Map

end Encoding

/-! ## Into a buffer -/

namespace Writer

/-- The writer after octets for which there was room. -/
def advance (w : Writer) (octets : Octets) : Writer :=
  ⟨w.written ++ octets, w.room.drop octets.length⟩

@[simp] theorem remaining_advance (w : Writer) (octets : Octets) :
    (w.advance octets).remaining = w.remaining - octets.length := List.length_drop

@[simp] theorem remaining_ofCapacity (capacity : Nat) :
    (ofCapacity capacity).remaining = capacity := List.length_replicate

@[simp] theorem advance_nil (w : Writer) : w.advance [] = w := by simp [advance]

theorem advance_append (w : Writer) (a b : Octets) :
    w.advance (a ++ b) = (w.advance a).advance b := by
  simp [advance, List.drop_drop]

theorem putPieces_cons {p : Octets} {w : Writer} (h : p.length ≤ w.remaining)
    (pieces : List Octets) (fault : Option EncodeError) :
    putPieces (p :: pieces) fault w = putPieces pieces fault (w.advance p) := if_pos h

theorem putPieces_cons_of_lt {p : Octets} {w : Writer} (h : w.remaining < p.length)
    (pieces : List Octets) (fault : Option EncodeError) :
    putPieces (p :: pieces) fault w = .error .bufferTooSmall w := if_neg (Nat.not_le.2 h)

/-- Pieces for which there is room are all written. -/
theorem putPieces_of_le {pieces : List Octets} {w : Writer}
    (h : pieces.flatten.length ≤ w.remaining) :
    putPieces pieces none w = .ok () (w.advance pieces.flatten) := by
  induction pieces generalizing w with
  | nil => rw [List.flatten_nil, advance_nil, putPieces]
  | cons p pieces ih =>
      rw [List.flatten_cons, List.length_append] at h
      have hrest : pieces.flatten.length ≤ (w.advance p).remaining := by
        rw [remaining_advance]
        omega
      rw [putPieces_cons (by omega), ih hrest, List.flatten_cons, advance_append]

/-- Of pieces for which there is no room, the writer takes those in front of the first that does
    not fit. -/
theorem exists_putPieces_of_lt {pieces : List Octets} {w : Writer}
    (h : w.remaining < pieces.flatten.length) :
    ∃ front, front <+: pieces.flatten ∧ front.length ≤ w.remaining ∧
      putPieces pieces none w = .error .bufferTooSmall (w.advance front) := by
  induction pieces generalizing w with
  | nil => exact absurd h (Nat.not_lt_zero _)
  | cons p pieces ih =>
      rw [List.flatten_cons, List.length_append] at h
      by_cases hp : p.length ≤ w.remaining
      · have hrest : (w.advance p).remaining < pieces.flatten.length := by
          rw [remaining_advance]
          omega
        obtain ⟨front, hprefix, hroom, hput⟩ := ih hrest
        refine ⟨p ++ front, ?_, ?_, ?_⟩
        · exact (List.prefix_append_right_inj p).2 hprefix
        · rw [remaining_advance] at hroom
          rw [List.length_append]
          omega
        · rw [putPieces_cons hp, hput, advance_append]
      · refine ⟨[], List.nil_prefix, Nat.zero_le _, ?_⟩
        rw [putPieces_cons_of_lt (Nat.not_le.1 hp), advance_nil]

theorem putPieces_some (pieces : List Octets) (e : EncodeError) (w : Writer) :
    ∃ e' w', putPieces pieces (some e) w = .error e' w' := by
  induction pieces generalizing w with
  | nil => exact ⟨e, w, rfl⟩
  | cons p pieces ih =>
      rcases Nat.lt_or_ge w.remaining p.length with hp | hp
      · exact ⟨_, _, putPieces_cons_of_lt hp pieces (some e)⟩
      · rw [putPieces_cons hp]
        exact ih _

/-- An encoding without a failure is written whole where there is room for it. -/
theorem put_of_le {e : Encoding} (he : e.fault = none) {w : Writer}
    (h : e.octets.length ≤ w.remaining) : put e w = .ok () (w.advance e.octets) := by
  rw [put, he]
  exact putPieces_of_le h

/-- Where there is no room for all of it, a part in front is written that is not all of it. -/
theorem exists_put_of_lt {e : Encoding} (he : e.fault = none) {w : Writer}
    (h : w.remaining < e.octets.length) :
    ∃ front, front <+: e.octets ∧ front ≠ e.octets ∧ front.length ≤ w.remaining ∧
      put e w = .error .bufferTooSmall (w.advance front) := by
  obtain ⟨front, hprefix, hroom, hput⟩ := exists_putPieces_of_lt h
  refine ⟨front, hprefix, ?_, hroom, ?_⟩
  · rintro rfl
    exact absurd hroom (Nat.not_le.2 h)
  · rw [put, he]
    exact hput

end Writer

namespace Encoding

/-- A buffer takes an encoding without a failure if it has the room, whole or not at all. -/
theorem within_eq {e : Encoding} (h : e.fault = none) (capacity : Nat) :
    e.within capacity = if e.size ≤ capacity then .ok e.octets else .error .bufferTooSmall := by
  rw [within]
  by_cases hsize : e.size ≤ capacity
  · have hroom : e.octets.length ≤ (Writer.ofCapacity capacity).remaining := by
      rw [Writer.remaining_ofCapacity]
      exact hsize
    rw [if_pos hsize, Writer.put_of_le h hroom]
    rfl
  · have hcut : (Writer.ofCapacity capacity).remaining < e.octets.length := by
      rw [Writer.remaining_ofCapacity]
      exact Nat.not_le.1 hsize
    obtain ⟨front, -, -, -, hput⟩ := Writer.exists_put_of_lt h hcut
    rw [if_neg hsize, hput]

/-- What a buffer was filled with is an encoding without a failure that fits. -/
theorem within_eq_ok_iff {e : Encoding} {capacity : Nat} {octets : Octets} :
    e.within capacity = .ok octets ↔
      e.fault = none ∧ e.size ≤ capacity ∧ e.octets = octets := by
  cases h : e.fault with
  | none =>
      rw [within_eq h]
      by_cases hsize : e.size ≤ capacity <;> simp [hsize]
  | some fault =>
      obtain ⟨e', w', hput⟩ := Writer.putPieces_some e.pieces fault (.ofCapacity capacity)
      rw [within, Writer.put, h, hput]
      simp

end Encoding

end Bacnet
