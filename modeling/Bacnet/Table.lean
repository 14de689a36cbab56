set_option autoImplicit false

/-! # Tables: what is known under a key

A table is a list of keys and entries. Setting a key that is there replaces its entry in place, so a
key is there at most once and keeps the place it first had. The view of a table is `get?`. -/

namespace Bacnet

/-- Entries under keys. -/
structure Table (κ α : Type) where
  rows : List (κ × α)
deriving DecidableEq, Repr

namespace Table

variable {κ α : Type} [DecidableEq κ]

def empty : Table κ α := ⟨[]⟩

def size (t : Table κ α) : Nat := t.rows.length

/-- The keys, in the order in which they were first set. -/
def keys (t : Table κ α) : List κ := t.rows.map (·.1)

/-- The entry of the row with a key. -/
def getRow? : List (κ × α) → κ → Option α
  | [], _ => none
  | (k, a) :: rows, key => if k = key then some a else getRow? rows key

/-- The rows with the entry of a key set. -/
def setRow : List (κ × α) → κ → α → List (κ × α)
  | [], key, entry => [(key, entry)]
  | (k, a) :: rows, key, entry =>
    if k = key then (key, entry) :: rows else (k, a) :: setRow rows key entry

/-- The entry under a key. -/
def get? (t : Table κ α) (key : κ) : Option α := getRow? t.rows key

/-- Whether there is an entry under a key. -/
def contains (t : Table κ α) (key : κ) : Bool := (t.get? key).isSome

/-- The table with the entry of a key set. -/
def set (t : Table κ α) (key : κ) (entry : α) : Table κ α := ⟨setRow t.rows key entry⟩

/-- The table with the entry of a key set unless it has one. -/
def setDefault (t : Table κ α) (key : κ) (entry : α) : Table κ α :=
  if t.contains key then t else t.set key entry

/-! ## What the operations do to the view -/

@[simp] theorem get?_empty (key : κ) : (empty : Table κ α).get? key = none := rfl

theorem getRow?_setRow (rows : List (κ × α)) (key k : κ) (entry : α) :
    getRow? (setRow rows key entry) k = if key = k then some entry else getRow? rows k := by
  induction rows with
  | nil => rfl
  | cons row rows ih =>
    obtain ⟨k₀, a⟩ := row
    by_cases h : k₀ = key
    · by_cases hk : key = k <;> simp [setRow, getRow?, h, hk]
    · by_cases hk : k₀ = k
      · subst hk
        simp [setRow, getRow?, h, Ne.symm h]
      · simp [setRow, getRow?, h, hk, ih]

theorem get?_set (t : Table κ α) (key k : κ) (entry : α) :
    (t.set key entry).get? k = if key = k then some entry else t.get? k :=
  getRow?_setRow t.rows key k entry

theorem length_setRow (rows : List (κ × α)) (key : κ) (entry : α) :
    (setRow rows key entry).length =
      if (getRow? rows key).isSome then rows.length else rows.length + 1 := by
  induction rows with
  | nil => rfl
  | cons row rows ih =>
    obtain ⟨k, a⟩ := row
    by_cases h : k = key
    · simp [setRow, getRow?, h]
    · simp only [setRow, getRow?, if_neg h, List.length_cons, ih]
      split <;> rfl

theorem size_set (t : Table κ α) (key : κ) (entry : α) :
    (t.set key entry).size = if t.contains key then t.size else t.size + 1 :=
  length_setRow t.rows key entry

theorem get?_setDefault (t : Table κ α) (key k : κ) (entry : α) :
    (t.setDefault key entry).get? k = (t.get? k).or (if key = k then some entry else none) := by
  unfold setDefault contains
  by_cases h : (t.get? key).isSome
  · rw [if_pos h]
    by_cases hk : key = k
    · subst hk
      obtain ⟨a, ha⟩ := Option.isSome_iff_exists.1 h
      simp [ha]
    · simp [hk]
  · rw [if_neg h, get?_set]
    by_cases hk : key = k
    · subst hk
      have hn : t.get? key = none := by simpa using h
      simp [hn]
    · simp [hk]

end Table

end Bacnet
