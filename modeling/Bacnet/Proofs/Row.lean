import Bacnet.Proofs.Reader

set_option autoImplicit false

/-! # Rows of items

The one loop takes items up to a place where there is none. Whatever it made of an input it took in
turn (`InTurn`), each item from where the one in front of it ended (`exists_inTurn_of_many`). The
octets that bound the loop never run out while every item takes one of them (`Advances`): then the
loop is an item with the loop behind it (`many_eq`), and items that can be taken in turn are taken
(`InTurn.many_eq_ok`), or were taken before what follows them is refused
(`InTurn.many_eq_error`). -/

namespace Bacnet.Decode

variable {α : Type} {step : Decode (Option α)} {item : Decode α} {r r' : Reader}

/-- Items one after the other, each from where the one in front of it ended. -/
inductive InTurn (item : Decode α) : Reader → List α → Reader → Prop
  | nil (r : Reader) : InTurn item r [] r
  | cons {a : α} {items : List α} {r r₁ r' : Reader} (head : item r = .ok a r₁)
      (tail : InTurn item r₁ items r') : InTurn item r (a :: items) r'

/-- A step that gives an item leaves less than there was. -/
def Advances (step : Decode (Option α)) : Prop :=
  ∀ ⦃r a r'⦄, step r = .ok (some a) r' → r'.unread.length < r.unread.length

/-! ## What the loop has taken -/

theorem exists_inTurn_of_many_go (hitem : ∀ ⦃r a r'⦄, step r = .ok (some a) r' → item r = .ok a r')
    {fuel : Octets} {done items : List α} (h : many.go step fuel done r = .ok items r') :
    ∃ taken r₁, items = done.reverse ++ taken ∧ InTurn item r taken r₁ ∧ step r₁ = .ok none r' := by
  induction fuel generalizing done r with
  | nil =>
      obtain ⟨next, r₁, hnext, h⟩ := bind_eq_ok.1 h
      cases next with
      | none => cases h; exact ⟨[], r, (List.append_nil _).symm, .nil r, hnext⟩
      | some a => cases h
  | cons o fuel ih =>
      obtain ⟨next, r₁, hnext, h⟩ := bind_eq_ok.1 h
      cases next with
      | none => cases h; exact ⟨[], r, (List.append_nil _).symm, .nil r, hnext⟩
      | some a =>
          obtain ⟨taken, r₂, hitems, htaken, hend⟩ := ih h
          refine ⟨a :: taken, r₂, ?_, .cons (hitem hnext) htaken, hend⟩
          rw [hitems, List.reverse_cons, List.append_assoc, List.singleton_append]

/-- A row is made of items in turn, and ends where there is no further item. -/
theorem exists_inTurn_of_many (hitem : ∀ ⦃r a r'⦄, step r = .ok (some a) r' → item r = .ok a r')
    {items : List α} (h : many step r = .ok items r') :
    ∃ r₁, InTurn item r items r₁ ∧ step r₁ = .ok none r' := by
  obtain ⟨taken, r₁, hitems, htaken, hend⟩ := exists_inTurn_of_many_go hitem h
  rw [List.reverse_nil, List.nil_append] at hitems
  exact ⟨r₁, hitems ▸ htaken, hend⟩

/-! ## The loop as an item and the loop -/

section Step

variable {fuel : Octets} {done : List α}

theorem many_go_of_error {e : DecodeError} (h : step r = .error e r') :
    many.go step fuel done r = .error e r' := by
  cases fuel <;> rw [many.go, bind_apply, h]

theorem many_go_of_none (h : step r = .ok none r') :
    many.go step fuel done r = .ok done.reverse r' := by
  cases fuel <;> exact bind_eq_ok.2 ⟨none, r', h, rfl⟩

theorem many_go_of_some {a : α} (h : step r = .ok (some a) r') (o : UInt8) :
    many.go step (o :: fuel) done r = many.go step fuel (a :: done) r' := by
  rw [many.go, bind_apply, h]

end Step

/-- The items so far stand in front of what the loop still takes. -/
theorem many_go_eq_map (step : Decode (Option α)) (fuel : Octets) (done : List α) :
    many.go step fuel done = (done.reverse ++ ·) <$> many.go step fuel [] := by
  induction fuel generalizing done with
  | nil =>
      rw [many.go, many.go, map_bind]
      congr 1
      funext next
      cases next with
      | none => simp
      | some a => rfl
  | cons o fuel ih =>
      rw [many.go, many.go, map_bind]
      congr 1
      funext next
      cases next with
      | none => simp
      | some a => simp only [ih (a :: done), ih [a], Functor.map_map]; simp

/-- Octets that bound the loop do not count, if there are as many as are left. -/
theorem many_go_congr (hadvances : step.Advances) {fuel fuel' : Octets} {done : List α}
    (hfuel : r.unread.length ≤ fuel.length) (hfuel' : r.unread.length ≤ fuel'.length) :
    many.go step fuel done r = many.go step fuel' done r := by
  -- The induction is on what is left: an item makes it less, and each bound loses one octet.
  induction hleft : r.unread.length using Nat.strongRecOn generalizing r fuel fuel' done with
  | ind left ih =>
      subst hleft
      cases hstep : step r with
      | error e r₁ => rw [many_go_of_error hstep, many_go_of_error hstep]
      | ok next r₁ =>
          cases next with
          | none => rw [many_go_of_none hstep, many_go_of_none hstep]
          | some a =>
              have hlt := hadvances hstep
              have hpos : 0 < r.unread.length := Nat.zero_lt_of_lt hlt
              obtain ⟨o, fuel, rfl⟩ :=
                List.exists_cons_of_length_pos (Nat.lt_of_lt_of_le hpos hfuel)
              obtain ⟨o', fuel', rfl⟩ :=
                List.exists_cons_of_length_pos (Nat.lt_of_lt_of_le hpos hfuel')
              rw [List.length_cons] at hfuel hfuel'
              rw [many_go_of_some hstep, many_go_of_some hstep]
              exact ih _ hlt (by omega) (by omega) rfl

/-- A row is empty, or an item with a row behind it. -/
theorem many_eq (hadvances : step.Advances) :
    many step = step >>= fun
      | none => pure []
      | some a => (a :: ·) <$> many step := by
  funext r
  rw [bind_apply]
  cases hstep : step r with
  | error e r₁ => exact many_go_of_error hstep
  | ok next r₁ =>
      cases next with
      | none => exact many_go_of_none hstep
      | some a =>
          have hlt := hadvances hstep
          have hmore : many step r = many.go step (0 :: r.unread) [] r :=
            many_go_congr hadvances (Nat.le_refl _) (Nat.le_succ _)
          have hrest : many.go step r.unread [] r₁ = many step r₁ :=
            many_go_congr hadvances (Nat.le_of_lt hlt) (Nat.le_refl _)
          show many step r = ((a :: ·) <$> many step) r₁
          rw [hmore, many_go_of_some hstep, many_go_eq_map, map_eq_bind, map_eq_bind, bind_apply,
            bind_apply, hrest]
          rfl

/-! ## Rows that can be taken -/

section Taken

variable {items : List α} {r₁ : Reader} (hadvances : step.Advances)
  (hitem : ∀ ⦃r a r'⦄, item r = .ok a r' → step r = .ok (some a) r')

include hadvances hitem

/-- Items in turn up to a place where there is none are a row. -/
theorem InTurn.many_eq_ok (h : InTurn item r items r₁) (hend : step r₁ = .ok none r') :
    many step r = .ok items r' := by
  induction h with
  | nil r =>
      rw [many_eq hadvances]
      exact bind_eq_ok.2 ⟨none, r', hend, rfl⟩
  | cons head tail ih =>
      rw [many_eq hadvances]
      exact bind_eq_ok.2 ⟨some _, _, hitem head, map_eq_ok.2 ⟨_, ih hend, rfl⟩⟩

/-- Behind items in turn the row fails for what the next step fails for. -/
theorem InTurn.many_eq_error (h : InTurn item r items r₁) {e : DecodeError}
    (hend : step r₁ = .error e r') : many step r = .error e r' := by
  induction h with
  | nil r => rw [many_eq hadvances, bind_apply, hend]
  | @cons a items r r₁ r₂ head tail ih =>
      rw [many_eq hadvances, bind_apply, hitem head]
      exact map_eq_error (a :: ·) (ih hend)

end Taken

end Bacnet.Decode
