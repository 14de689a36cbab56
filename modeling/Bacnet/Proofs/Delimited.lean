import Bacnet.Proofs.Row

set_option autoImplicit false

/-! # Readings that know where they end

A form that says itself where it ends can be cut out of a stream: what it takes decides it
(`Delimited`). In front of any other octets it is taken the same, and of each shorter beginning of
it all that can be said is that the input ended, so whoever waits for more octets knows that more
can help. Readings in a row are delimited when each of them is, and a row of items when its step is.
Where a failure leaves the reader does not matter for this (`verdict`). -/

namespace Bacnet

namespace Decode

variable {α β : Type} {reading : Decode α} {next : α → Decode β} {a : α} {b : β}

/-! ## Octets that decide a reading -/

/-- Of this input the reading says that it ended. -/
def Starves (reading : Decode α) (input : Octets) : Prop :=
  ∀ position, ∃ r, reading ⟨position, input⟩ = .error .unexpectedEnd r

/-- Octets that decide a reading: it makes `a` of them whatever stands behind, and starves of each
    shorter beginning. -/
structure Delimits (reading : Decode α) (taken : Octets) (a : α) : Prop where
  reads : ∀ rest, reading.Reads taken a rest
  starves : ∀ cut, cut <+: taken → cut ≠ taken → reading.Starves cut

/-- What the reading takes always decides it. -/
def Delimited (reading : Decode α) : Prop :=
  ∀ ⦃r a r'⦄, reading r = .ok a r' → ∃ taken, r.Consumes taken r' ∧ reading.Delimits taken a

theorem Starves.bind {input : Octets} (h : reading.Starves input) (next : α → Decode β) :
    (reading >>= next).Starves input := by
  intro position
  obtain ⟨r, hr⟩ := h position
  exact ⟨r, by rw [bind_apply, hr]⟩

/-- A shorter beginning of two parts ends inside the first or inside the second. -/
theorem cut_append {cut front back : Octets} (h : cut <+: front ++ back)
    (hne : cut ≠ front ++ back) :
    (cut <+: front ∧ cut ≠ front) ∨ ∃ cut', cut = front ++ cut' ∧ cut' <+: back ∧ cut' ≠ back := by
  rcases Nat.lt_or_ge cut.length front.length with hlt | hge
  · left
    refine ⟨List.prefix_of_prefix_length_le h (List.prefix_append ..) (Nat.le_of_lt hlt), ?_⟩
    rintro rfl
    exact Nat.lt_irrefl _ hlt
  · right
    obtain ⟨cut', rfl⟩ := List.prefix_of_prefix_length_le (List.prefix_append ..) h hge
    refine ⟨cut', rfl, (List.prefix_append_right_inj front).1 h, ?_⟩
    rintro rfl
    exact hne rfl

theorem Delimits.pure (a : α) : Delimits (pure a) [] a where
  reads rest := .pure a rest
  starves _ hcut hne := absurd (List.prefix_nil.1 hcut) hne

theorem Delimits.bind {front back : Octets} (h : reading.Delimits front a)
    (h' : (next a).Delimits back b) : (reading >>= next).Delimits (front ++ back) b where
  reads rest := (h.reads _).bind (h'.reads rest)
  starves cut hcut hne := by
    rcases cut_append hcut hne with ⟨hfront, hne⟩ | ⟨cut', rfl, hback, hne⟩
    · exact (h.starves cut hfront hne).bind next
    · intro position
      obtain ⟨r, hr⟩ := h'.starves cut' hback hne (position + front.length)
      refine ⟨r, ?_⟩
      rw [bind_apply, h.reads cut' position]
      exact hr

theorem Delimits.bind_pure {taken : Octets} (h : reading.Delimits taken a) (f : α → β) :
    (reading >>= fun a => Pure.pure (f a)).Delimits taken (f a) := by
  rw [← List.append_nil taken]
  exact h.bind (.pure (f a))

theorem Delimits.map {taken : Octets} (h : reading.Delimits taken a) (f : α → β) :
    (f <$> reading).Delimits taken (f a) := by
  rw [map_eq_bind]
  exact h.bind_pure f

/-- What decides a reading that starves of nothing is something. -/
theorem Delimits.ne_nil {taken : Octets} (h : reading.Delimits taken a)
    (hstarves : reading.Starves []) : taken ≠ [] := by
  rintro rfl
  obtain ⟨r, hr⟩ := hstarves 0
  have hread := h.reads [] 0
  rw [List.append_nil, hr] at hread
  cases hread

/-! ## Combinations -/

theorem Delimited.pure (a : α) : Delimited (pure a) := by
  intro r a' r' h
  cases h
  exact ⟨[], .nil r, .pure a⟩

theorem Delimited.throw (e : DecodeError) : Delimited (throw e : Decode α) := by
  intro r a r' h
  cases h

theorem Delimited.bind (h : reading.Delimited) (h' : ∀ a, (next a).Delimited) :
    (reading >>= next).Delimited := by
  intro r b r' hread
  obtain ⟨a, r₁, ha, hb⟩ := bind_eq_ok.1 hread
  obtain ⟨front, hfront, hdelimits⟩ := h ha
  obtain ⟨back, hback, hdelimits'⟩ := h' a hb
  exact ⟨front ++ back, hfront.trans hback, hdelimits.bind hdelimits'⟩

theorem Delimited.map (h : reading.Delimited) (f : α → β) : (f <$> reading).Delimited := by
  rw [map_eq_bind]
  exact h.bind fun a => .pure (f a)

theorem Delimited.ite {c : Prop} [Decidable c] {reading reading' : Decode α}
    (h : reading.Delimited) (h' : reading'.Delimited) :
    (if c then reading else reading').Delimited := by
  split
  · exact h
  · exact h'

/-- A guard in front of a reading takes nothing. -/
theorem Delimited.guard {c : Prop} [Decidable c] {e : DecodeError} {next : PUnit → Decode β}
    (h : (next ⟨⟩).Delimited) : (if c then MonadExcept.throw e >>= next else next ⟨⟩).Delimited :=
  .ite ((Delimited.throw e).bind fun _ => h) h

theorem Delimited.length_lt (h : reading.Delimited) (hstarves : reading.Starves []) {r r' : Reader}
    (hread : reading r = .ok a r') : r'.unread.length < r.unread.length := by
  obtain ⟨taken, hconsumes, hdelimits⟩ := h hread
  have hpos := List.length_pos_iff.2 (hdelimits.ne_nil hstarves)
  rw [hconsumes.1, List.length_append]
  omega

/-- What comes of a reading, without the place where a failure leaves it. -/
def verdict (reading : Decode α) (r : Reader) : Except DecodeError (α × Reader) :=
  match reading r with
  | .ok a r' => .ok (a, r')
  | .error e _ => .error e

theorem verdict_eq_ok_iff {r r' : Reader} :
    reading.verdict r = .ok (a, r') ↔ reading r = .ok a r' := by
  unfold verdict
  cases reading r <;> simp

theorem verdict_eq_error_iff {r : Reader} {e : DecodeError} :
    reading.verdict r = .error e ↔ ∃ r', reading r = .error e r' := by
  unfold verdict
  cases reading r <;> simp

/-- Where a failure leaves a reading says nothing about what the reading takes. -/
theorem Delimited.of_verdict_eq {reading' : Decode α} (h : reading'.Delimited)
    (heq : ∀ r, reading.verdict r = reading'.verdict r) : reading.Delimited := by
  intro r a r' hread
  rw [← verdict_eq_ok_iff, heq, verdict_eq_ok_iff] at hread
  obtain ⟨taken, htaken, hdelimits⟩ := h hread
  refine ⟨taken, htaken, fun rest position => ?_, fun cut hcut hne position => ?_⟩
  · rw [← verdict_eq_ok_iff, heq, verdict_eq_ok_iff]
    exact hdelimits.reads rest position
  · rw [← verdict_eq_error_iff, heq, verdict_eq_error_iff]
    exact hdelimits.starves cut hcut hne position

/-- A row is delimited when its step is, the end of the row included. -/
theorem Delimited.many {step : Decode (Option α)} (h : step.Delimited) (hadvances : step.Advances) :
    (many step).Delimited := by
  intro r items r' hread
  induction items generalizing r with
  | nil =>
      rw [many_eq hadvances] at hread ⊢
      obtain ⟨next, r₁, hnext, hread⟩ := bind_eq_ok.1 hread
      obtain ⟨taken, htaken, hdelimits⟩ := h hnext
      cases next with
      | none =>
          cases hread
          refine ⟨taken, htaken, ?_⟩
          rw [← List.append_nil taken]
          exact hdelimits.bind (.pure [])
      | some a =>
          obtain ⟨items, -, hitems⟩ := map_eq_ok.1 hread
          cases hitems
  | cons a items ih =>
      rw [many_eq hadvances] at hread ⊢
      obtain ⟨next, r₁, hnext, hread⟩ := bind_eq_ok.1 hread
      obtain ⟨front, hfront, hdelimits⟩ := h hnext
      cases next with
      | none => cases hread
      | some a' =>
          obtain ⟨items', hrest, hitems⟩ := map_eq_ok.1 hread
          cases hitems
          obtain ⟨back, hback, hdelimits'⟩ := ih hrest
          exact ⟨front ++ back, hfront.trans hback, hdelimits.bind (hdelimits'.map _)⟩

/-! ## Primitive readings -/

theorem delimited_octets (n : Nat) : (octets n).Delimited := by
  intro r head r' h
  have hlength := length_of_octets h
  refine ⟨head, (exact_octets n).consumes h, fun rest => reads_octets hlength rest, ?_⟩
  intro cut hcut hne position
  have hshort : cut.length ≠ n := by
    intro hcount
    exact hne (hcut.eq_of_length (hcount.trans hlength.symm))
  have hle : cut.length ≤ n := hlength ▸ hcut.length_le
  refine ⟨⟨position, cut⟩, if_neg ?_⟩
  show (cut.take n).length ≠ n
  rw [List.length_take]
  omega

theorem starves_octet : octet.Starves [] := fun position => ⟨⟨position, []⟩, rfl⟩

theorem delimited_octet : octet.Delimited := by
  intro r o r' h
  refine ⟨[o], exact_octet.consumes h, fun rest => reads_octet o rest, ?_⟩
  intro cut hcut hne
  have hnil : cut = [] := by
    have hlength : cut.length ≠ 1 := fun hone => hne (hcut.eq_of_length hone)
    have hle : cut.length ≤ 1 := hcut.length_le
    exact List.eq_nil_of_length_eq_zero (by omega)
  rw [hnil]
  exact starves_octet

theorem delimited_word16 : word16.Delimited := (delimited_octets 2).bind fun _ => .pure _

theorem delimited_word32 : word32.Delimited := (delimited_octets 4).bind fun _ => .pure _

theorem delimited_word64 : word64.Delimited := (delimited_octets 8).bind fun _ => .pure _

end Decode

end Bacnet
