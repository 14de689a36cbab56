import Bacnet.Octets

set_option autoImplicit false

/-! # Operations that have bounds

Taking an element or a part of a run, copying over a part, taking one number from another and
cutting a number to a word stop the whole program when they are applied out of their bounds. Here
they are partial: out of its bounds an operation ends in a `Fault`, which is no failure that a
program goes on from. A `Partial` computation can also fail in the ordinary way, and one that
cannot end in a fault is the image of a computation without faults (`Partial.ofTotal`). So a program
made of partial operations keeps all bounds just if it is the image of one that has none to keep. -/

namespace Bacnet

/-- The bound that an operation was applied out of. -/
inductive Fault where
  /-- There is nothing at the place. -/
  | index
  /-- The part ends behind the whole. -/
  | range
  /-- What is copied is not as long as the part that it is copied over. -/
  | copy
  /-- More is taken away than there is. -/
  | difference
  /-- The number does not fit the word. -/
  | width
deriving DecidableEq, Repr

/-- What comes of operations that have bounds. -/
abbrev Checked := Except Fault

namespace Checked

variable {α : Type}

/-! ## Operations -/

/-- The element at a place. -/
def item (as : List α) (place : Nat) : Checked α :=
  match as[place]? with
  | some a => .ok a
  | none => .error .index

/-- The part in front of a place. -/
def upTo (as : List α) (place : Nat) : Checked (List α) :=
  if place ≤ as.length then .ok (as.take place) else .error .range

/-- The part from a place on. -/
def behind (as : List α) (place : Nat) : Checked (List α) :=
  if place ≤ as.length then .ok (as.drop place) else .error .range

/-- What a part is when something is copied over it. -/
def copy (part source : List α) : Checked (List α) :=
  if source.length = part.length then .ok source else .error .copy

/-- What is left of a number. -/
def difference (n taken : Nat) : Checked Nat :=
  if taken ≤ n then .ok (n - taken) else .error .difference

/-- The number as a word of eight bits. -/
def toUInt8 (n : Nat) : Checked UInt8 := if n < 0x100 then .ok (.ofNat n) else .error .width

/-- The number as a word of sixteen bits. -/
def toUInt16 (n : Nat) : Checked UInt16 := if n < 0x10000 then .ok (.ofNat n) else .error .width

/-- The number as a word of thirty-two bits. -/
def toUInt32 (n : Nat) : Checked UInt32 :=
  if n < 0x100000000 then .ok (.ofNat n) else .error .width

/-! ## In bounds -/

@[simp] theorem ok_bind {β : Type} (a : α) (f : α → Checked β) :
    (Except.ok a : Checked α) >>= f = f a := rfl

@[simp] theorem pure_eq (a : α) : (pure a : Checked α) = .ok a := rfl

theorem mapM_eq {β : Type} {f : α → Checked β} {g : α → β} {as : List α}
    (h : ∀ a ∈ as, f a = .ok (g a)) : as.mapM f = .ok (as.map g) := by
  induction as with
  | nil => rfl
  | cons a as ih =>
      rw [List.mapM_cons, h a (List.mem_cons_self ..),
        ih fun b hb => h b (List.mem_cons_of_mem a hb)]
      rfl

variable {as part source : List α} {place : Nat}

theorem item_of_getElem? {a : α} (h : as[place]? = some a) : item as place = .ok a := by
  rw [item, h]

theorem upTo_of_le (h : place ≤ as.length) : upTo as place = .ok (as.take place) := if_pos h

theorem behind_of_le (h : place ≤ as.length) : behind as place = .ok (as.drop place) := if_pos h

theorem copy_of_length_eq (h : source.length = part.length) : copy part source = .ok source :=
  if_pos h

theorem difference_of_le {n taken : Nat} (h : taken ≤ n) :
    difference n taken = .ok (n - taken) := if_pos h

theorem toUInt8_of_lt {n : Nat} (h : n < 0x100) : toUInt8 n = .ok (.ofNat n) := if_pos h

theorem toUInt16_of_lt {n : Nat} (h : n < 0x10000) : toUInt16 n = .ok (.ofNat n) := if_pos h

theorem toUInt32_of_lt {n : Nat} (h : n < 0x100000000) : toUInt32 n = .ok (.ofNat n) := if_pos h

/-! ## Overwriting -/

/-- The octets of a buffer when others are copied over it from a place on. -/
def overwrite (buffer : Octets) (place : Nat) (octets : Octets) : Checked Octets := do
  let free ← behind buffer place
  let part ← upTo free octets.length
  let copied ← copy part octets
  return buffer.take place ++ copied ++ free.drop octets.length

theorem overwrite_append (front middle back octets : Octets)
    (h : octets.length = middle.length) :
    overwrite (front ++ middle ++ back) front.length octets = .ok (front ++ octets ++ back) := by
  have hfree : behind (front ++ middle ++ back) front.length = .ok (middle ++ back) := by
    rw [List.append_assoc, behind_of_le (by simp), List.drop_left]
  have hpart : upTo (middle ++ back) octets.length = .ok middle := by
    rw [h, upTo_of_le (by simp), List.take_left]
  have hfront : (front ++ middle ++ back).take front.length = front := by
    rw [List.append_assoc, List.take_left]
  have hback : (middle ++ back).drop octets.length = back := by
    rw [h, List.drop_left]
  simp only [overwrite, hfree, hpart, copy_of_length_eq h, ok_bind, hfront, hback]
  rfl

end Checked

/-! ## Computations -/

/-- How a computation ends that does not end in a value. -/
inductive Halt (ε : Type) where
  | fault (f : Fault)
  | error (e : ε)
deriving DecidableEq, Repr

/-- A computation with operations that have bounds, which can also fail in the ordinary way. -/
abbrev Partial (ε σ : Type) := EStateM (Halt ε) σ

namespace Partial

variable {ε σ α β : Type}

/-- An operation that has bounds, as a computation. -/
def check (x : Checked α) : Partial ε σ α := fun s =>
  match x with
  | .ok a => .ok a s
  | .error f => .error (.fault f) s

instance : MonadLift Checked (Partial ε σ) := ⟨check⟩

/-- An ordinary failure. -/
def fail (e : ε) : Partial ε σ α := throw (.error e)

/-- A computation without bounds to keep, as one that could have them. -/
def ofTotal (x : EStateM ε σ α) : Partial ε σ α := fun s =>
  match x s with
  | .ok a s => .ok a s
  | .error e s => .error (.error e) s

@[simp] theorem liftM_ok (a : α) :
    (liftM (Except.ok a : Checked α) : Partial ε σ α) = pure a := rfl

@[simp] theorem ofTotal_pure (a : α) : (ofTotal (pure a) : Partial ε σ α) = pure a := rfl

@[simp] theorem ofTotal_throw (e : ε) : (ofTotal (throw e) : Partial ε σ α) = fail e := rfl

@[simp] theorem fail_bind (e : ε) (f : α → Partial ε σ β) : fail e >>= f = fail e := rfl

@[simp] theorem throw_bind (e : ε) (f : α → EStateM ε σ β) :
    (throw e : EStateM ε σ α) >>= f = throw e := rfl

@[simp] theorem ofTotal_bind (x : EStateM ε σ α) (f : α → EStateM ε σ β) :
    ofTotal (x >>= f) = ofTotal x >>= fun a => ofTotal (f a) := by
  funext s
  show ofTotal (EStateM.bind x f) s = EStateM.bind (ofTotal x) (fun a => ofTotal (f a)) s
  simp only [ofTotal, EStateM.bind]
  cases x s with
  | ok a s => rfl
  | error e s => rfl

@[simp] theorem ofTotal_map (g : α → β) (x : EStateM ε σ α) :
    ofTotal (g <$> x) = g <$> ofTotal x := by
  rw [map_eq_pure_bind, map_eq_pure_bind, ofTotal_bind]
  rfl

@[simp] theorem ofTotal_ite (c : Prop) [Decidable c] (x y : EStateM ε σ α) :
    ofTotal (if c then x else y) = if c then ofTotal x else ofTotal y := by
  by_cases h : c
  · rw [if_pos h, if_pos h]
  · rw [if_neg h, if_neg h]

/-- What goes on from a computation matters only for what the computation ends in. -/
theorem ofTotal_bind_congr {x : EStateM ε σ α} {f g : α → Partial ε σ β}
    (h : ∀ s a s', x s = .ok a s' → f a = g a) : ofTotal x >>= f = ofTotal x >>= g := by
  funext s
  show EStateM.bind (ofTotal x) f s = EStateM.bind (ofTotal x) g s
  simp only [EStateM.bind, ofTotal]
  cases hx : x s with
  | error e s' => rfl
  | ok a s' => simp only [h s a s' hx]

end Partial

end Bacnet
