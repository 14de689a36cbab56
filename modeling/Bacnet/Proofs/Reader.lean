import Bacnet.Octets.Reader
import Bacnet.Proofs.Octets

set_option autoImplicit false

/-! # Readings and what they take

`reading.Reads input a rest` says that a reading, in front of `input ++ rest` and wherever the
reader stands, takes `input`, makes `a` of it and leaves `rest`. What stands behind is part of the
statement, because a parameter that may be missing is recognised by what comes next. Readings in a
row take inputs in a row (`Reads.bind`), so the law of a form follows from the laws of its parts.

`reading.Exact written` is the way back: whatever the reading made of some octets, it took the ones
that `written` spells it with. The octets that readings in a row took are put together as what
stands between two places of an input (`Reader.Consumes`). `reading.TakesAll position input a` says
that nothing is left. -/

namespace Bacnet

/-! ## Places in an input -/

namespace Reader

variable {r r₁ r₂ : Reader} {front back : Octets}

/-- Between two places of an input stand these octets. -/
def Consumes (r : Reader) (octets : Octets) (r' : Reader) : Prop :=
  r.unread = octets ++ r'.unread ∧ r'.position = r.position + octets.length

theorem Consumes.nil (r : Reader) : r.Consumes [] r := ⟨rfl, rfl⟩

theorem Consumes.trans (h : r.Consumes front r₁) (h' : r₁.Consumes back r₂) :
    r.Consumes (front ++ back) r₂ := by
  obtain ⟨hunread, hposition⟩ := h
  obtain ⟨hunread', hposition'⟩ := h'
  refine ⟨?_, ?_⟩
  · rw [hunread, hunread', List.append_assoc]
  · rw [hposition', hposition, List.length_append, Nat.add_assoc]

/-- What was consumed since the start of an input is a beginning of it. -/
theorem Consumes.eq_take {input octets : Octets} (h : (ofOctets input).Consumes octets r) :
    octets = input.take r.position ∧ r.unread = input.drop r.position ∧
      r.position = octets.length ∧ r.position ≤ input.length := by
  obtain ⟨hunread, hposition⟩ := h
  have hinput : input = octets ++ r.unread := hunread
  have hlength : r.position = octets.length := by rw [hposition, ofOctets, Nat.zero_add]
  refine ⟨?_, ?_, hlength, ?_⟩
  · rw [hinput, hlength, List.take_left]
  · rw [hlength]
    conv_rhs => rw [hinput, List.drop_left]
  · rw [hinput, hlength, List.length_append]
    exact Nat.le_add_right ..

end Reader

namespace Decode

variable {α β : Type}

/-- A reading takes `input` in front of `rest` and makes `a` of it. -/
def Reads (reading : Decode α) (input : Octets) (a : α) (rest : Octets) : Prop :=
  ∀ position, reading ⟨position, input ++ rest⟩ = .ok a ⟨position + input.length, rest⟩

/-! ## Combinations -/

theorem bind_apply (reading : Decode α) (next : α → Decode β) (r : Reader) :
    (reading >>= next) r = match reading r with
      | .ok a r' => next a r'
      | .error e r' => .error e r' := by
  show EStateM.bind reading next r = _
  rw [EStateM.bind]
  cases reading r <;> rfl

/-- A row of readings succeeds when each of them does. -/
theorem bind_eq_ok {reading : Decode α} {next : α → Decode β} {r r'' : Reader} {b : β} :
    (reading >>= next) r = .ok b r'' ↔ ∃ a r', reading r = .ok a r' ∧ next a r' = .ok b r'' := by
  rw [bind_apply]
  cases reading r <;> simp

theorem map_eq_bind (f : α → β) (reading : Decode α) :
    f <$> reading = reading >>= fun a => pure (f a) := map_eq_pure_bind f reading

theorem map_eq_ok {f : α → β} {reading : Decode α} {r r' : Reader} {b : β} :
    (f <$> reading) r = .ok b r' ↔ ∃ a, reading r = .ok a r' ∧ f a = b := by
  rw [map_eq_bind, bind_apply]
  cases reading r with
  | ok a r₁ =>
      constructor
      · intro h
        cases h
        exact ⟨a, rfl, rfl⟩
      · rintro ⟨_, h, rfl⟩
        cases h
        rfl
  | error e r₁ => simp

theorem map_eq_error (f : α → β) {reading : Decode α} {r r' : Reader} {e : DecodeError}
    (h : reading r = .error e r') : (f <$> reading) r = .error e r' := by
  rw [map_eq_bind, bind_apply, h]

/-- A reading that goes on is one whose guard does not hold. -/
theorem of_guard_eq_ok {c : Prop} [Decidable c] {e : DecodeError} {next : PUnit → Decode β}
    {r r' : Reader} {b : β}
    (h : (if c then throw e >>= next else next ⟨⟩) r = .ok b r') :
    ¬ c ∧ next ⟨⟩ r = .ok b r' := by
  split at h
  · cases h
  · next hc => exact ⟨hc, h⟩

theorem Reads.pure (a : α) (rest : Octets) : Reads (pure a) [] a rest := fun _ => rfl

theorem Reads.bind {reading : Decode α} {next : α → Decode β} {front back rest : Octets}
    {a : α} {b : β} (h : reading.Reads front a (back ++ rest))
    (h' : (next a).Reads back b rest) : (reading >>= next).Reads (front ++ back) b rest := by
  intro position
  rw [List.append_assoc, bind_apply, h position]
  show next a _ = _
  rw [h' _, List.length_append, Nat.add_assoc]

/-- A reading that takes nothing, and one behind it. -/
theorem Reads.bind_nil {reading : Decode α} {next : α → Decode β} {input rest : Octets}
    {a : α} {b : β} (h : reading.Reads [] a (input ++ rest))
    (h' : (next a).Reads input b rest) : (reading >>= next).Reads input b rest := by
  exact Reads.bind h h'

/-- A reading, and one that takes nothing behind it. -/
theorem Reads.bind_last {reading : Decode α} {next : α → Decode β} {input rest : Octets}
    {a : α} {b : β} (h : reading.Reads input a rest) (h' : (next a).Reads [] b rest) :
    (reading >>= next).Reads input b rest := by
  rw [← List.append_nil input]
  exact Reads.bind h h'

theorem Reads.bind_pure {reading : Decode α} {input rest : Octets} {a : α} (f : α → β)
    (h : reading.Reads input a rest) :
    (reading >>= fun a => Pure.pure (f a)).Reads input (f a) rest :=
  h.bind_last (Reads.pure (f a) rest)

theorem Reads.map {reading : Decode α} {input rest : Octets} {a : α} (f : α → β)
    (h : reading.Reads input a rest) : (f <$> reading).Reads input (f a) rest := by
  rw [map_eq_bind]
  exact h.bind_pure f

theorem Reads.peek {reading : Decode α} {input rest : Octets} {a : α}
    (h : reading.Reads input a rest) : (peek reading).Reads [] a (input ++ rest) := by
  intro position
  show (match reading ⟨position, input ++ rest⟩ with
    | .ok a _ => EStateM.Result.ok a _
    | .error e _ => .error e _) = _
  rw [h position]
  rfl

theorem Reads.outcome_append {reading : Decode α} {input rest : Octets} {a : α}
    (h : reading.Reads input a rest) : reading.outcome (input ++ rest) = .ok a := by
  have e : reading (.ofOctets (input ++ rest)) = .ok a ⟨0 + input.length, rest⟩ := h 0
  rw [outcome, e]

/-- What a reading makes of a whole input. -/
theorem Reads.outcome {reading : Decode α} {input : Octets} {a : α}
    (h : reading.Reads input a []) : reading.outcome input = .ok a := by
  simpa using h.outcome_append

theorem Reads.eq_ok {reading : Decode α} {input : Octets} {a : α} {r r' : Reader}
    (h : reading.Reads input a r'.unread) (hr : r.Consumes input r') : reading r = .ok a r' := by
  obtain ⟨position, unread⟩ := r
  obtain ⟨position', unread'⟩ := r'
  obtain ⟨hunread, hposition⟩ := hr
  simp only at hunread hposition
  rw [hunread, hposition]
  exact h position

theorem outcome_eq_ok_iff {reading : Decode α} {input : Octets} {a : α} :
    reading.outcome input = .ok a ↔ ∃ r, reading (.ofOctets input) = .ok a r := by
  unfold Decode.outcome
  cases reading (.ofOctets input) <;> simp

theorem eq_ok_of_toOption {ε : Type} {outcome : Except ε α} {a : α}
    (h : outcome.toOption = some a) : outcome = .ok a := by
  cases outcome with
  | ok b => cases h; rfl
  | error e => cases h

/-! ## Primitive readings -/

theorem reads_octets {n : Nat} {input : Octets} (h : input.length = n) (rest : Octets) :
    (octets n).Reads input input rest := by
  subst h
  intro position
  simp [octets, Reader.skip]

theorem length_of_octets {n : Nat} {head : Octets} {r r' : Reader}
    (h : octets n r = .ok head r') : head.length = n := by
  unfold octets at h
  simp only at h
  split at h
  · next hlength => cases h; exact hlength
  · cases h

theorem reads_octet (o : UInt8) (rest : Octets) : octet.Reads [o] o rest := fun _ => rfl

theorem reads_word16 (word : UInt16) (rest : Octets) :
    word16.Reads (Octets.ofUInt16 word) word rest := by
  have h := Reads.map (fun octets => UInt16.ofNat (Octets.toNat octets))
    (reads_octets (Octets.length_ofUInt16 word) rest)
  simpa [word16] using h

theorem reads_word32 (word : UInt32) (rest : Octets) :
    word32.Reads (Octets.ofUInt32 word) word rest := by
  have h := Reads.map (fun octets => UInt32.ofNat (Octets.toNat octets))
    (reads_octets (Octets.length_ofUInt32 word) rest)
  simpa [word32] using h

theorem reads_word64 (word : UInt64) (rest : Octets) :
    word64.Reads (Octets.ofUInt64 word) word rest := by
  have h := Reads.map (fun octets => UInt64.ofNat (Octets.toNat octets))
    (reads_octets (Octets.length_ofUInt64 word) rest)
  simpa [word64] using h

theorem reads_rest (input : Octets) : rest.Reads input input [] := by
  intro position
  simp [rest, Reader.skip, Reader.remaining]

theorem reads_atEnd (rest : Octets) : atEnd.Reads [] rest.isEmpty rest := fun _ => rfl

theorem reads_expectEnd : expectEnd.Reads [] () [] := fun _ => rfl

/-! ## What a reading has taken -/

/-- A reading that succeeds has taken the octets that spell its result. -/
def Exact (reading : Decode α) (written : α → Octets) : Prop :=
  ∀ ⦃r a r'⦄, reading r = .ok a r' →
    r.unread = written a ++ r'.unread ∧ r'.position = r.position + (written a).length

theorem Exact.consumes {reading : Decode α} {written : α → Octets} (hexact : reading.Exact written)
    {r r' : Reader} {a : α} (h : reading r = .ok a r') : r.Consumes (written a) r' := hexact h

theorem exact_octets (n : Nat) : (octets n).Exact id := by
  intro r head r' h
  have hlength := length_of_octets h
  unfold octets at h
  simp only at h
  split at h
  · cases h
    exact ⟨(List.take_append_drop n r.unread).symm, congrArg (r.position + ·) hlength.symm⟩
  · cases h

theorem exact_octet : octet.Exact ([·]) := by
  intro r o r' h
  unfold octet at h
  split at h
  · cases h
  · next tail hunread =>
      cases h
      simp [Reader.skip, hunread]

theorem exact_word16 : word16.Exact Octets.ofUInt16 := by
  intro r word r' h
  obtain ⟨head, r₁, hhead, h⟩ := bind_eq_ok.1 h
  cases h
  rw [Octets.ofUInt16_ofNat_toNat (length_of_octets hhead)]
  exact exact_octets 2 hhead

theorem exact_word32 : word32.Exact Octets.ofUInt32 := by
  intro r word r' h
  obtain ⟨head, r₁, hhead, h⟩ := bind_eq_ok.1 h
  cases h
  rw [Octets.ofUInt32_ofNat_toNat (length_of_octets hhead)]
  exact exact_octets 4 hhead

theorem eq_of_rest {r r' : Reader} {input : Octets} (h : rest r = .ok input r') :
    input = r.unread ∧ r'.unread = [] := by
  cases h
  exact ⟨rfl, List.drop_length⟩

theorem eq_of_expectEnd {r r' : Reader} (h : expectEnd r = .ok () r') :
    r' = r ∧ r.unread = [] := by
  unfold expectEnd at h
  split at h
  · next hunread => cases h; exact ⟨rfl, hunread⟩
  · cases h

/-- The check that nothing is left gives what was made before it. -/
theorem eq_of_expectEnd_pure {r r' : Reader} {a b : α}
    (h : (expectEnd >>= fun _ => Pure.pure a : Decode α) r = .ok b r') :
    b = a ∧ r' = r ∧ r.unread = [] := by
  obtain ⟨⟨⟩, r₁, hend, hpure⟩ := bind_eq_ok.1 h
  obtain ⟨rfl, hunread⟩ := eq_of_expectEnd hend
  cases hpure
  exact ⟨rfl, rfl, hunread⟩

/-- A reading that ends in the check that nothing is left leaves nothing. -/
theorem unread_eq_nil_of_expectEnd {r r' : Reader} {a b : α}
    (h : (expectEnd >>= fun _ => Pure.pure a : Decode α) r = .ok b r') : r'.unread = [] := by
  obtain ⟨-, rfl, hunread⟩ := eq_of_expectEnd_pure h
  exact hunread

theorem eq_of_atEnd {r r' : Reader} {b : Bool} (h : atEnd r = .ok b r') :
    r' = r ∧ b = r.unread.isEmpty := by
  cases h
  exact ⟨rfl, rfl⟩

/-- What was looked at is still there. -/
theorem eq_of_peek {reading : Decode α} {r r' : Reader} {a : α}
    (h : peek reading r = .ok a r') : r' = r ∧ ∃ r₁, reading r = .ok a r₁ := by
  unfold peek at h
  cases hread : reading r with
  | ok b r₁ =>
      rw [hread] at h
      cases h
      exact ⟨rfl, r₁, rfl⟩
  | error e r₁ =>
      rw [hread] at h
      cases h

/-- A reading that starts at `position` makes `a` of all octets that there are. -/
def TakesAll (reading : Decode α) (position : Nat) (input : Octets) (a : α) : Prop :=
  ∃ position', reading ⟨position, input⟩ = .ok a ⟨position', []⟩

theorem Reads.takesAll {reading : Decode α} {input : Octets} {a : α}
    (h : reading.Reads input a []) : reading.TakesAll 0 input a := by
  refine ⟨0 + input.length, ?_⟩
  have hread := h 0
  rwa [List.append_nil] at hread

theorem takesAll_of_unread {reading : Decode α} {position : Nat} {input : Octets} {a : α}
    {r : Reader} (h : reading ⟨position, input⟩ = .ok a r) (hunread : r.unread = []) :
    reading.TakesAll position input a := by
  obtain ⟨position', unread⟩ := r
  cases hunread
  exact ⟨position', h⟩

/-- Of an input a header is read first, and then a body that leaves nothing. -/
def ReadsInTurn (header : Decode α) (body : Decode β) (input : Octets) (a : α) (b : β) : Prop :=
  ∃ r, header (.ofOctets input) = .ok a r ∧ body r = .ok b ⟨input.length, []⟩

theorem Reads.inTurn {header : Decode α} {body : Decode β} {front back : Octets} {a : α} {b : β}
    (hheader : header.Reads front a back) (hbody : body.Reads back b []) :
    header.ReadsInTurn body (front ++ back) a b := by
  refine ⟨⟨0 + front.length, back⟩, hheader 0, ?_⟩
  have h := hbody (0 + front.length)
  rw [List.append_nil] at h
  rw [h, List.length_append, Nat.zero_add]

/-! ## Runs of items -/

theorem many_go_reads {step : Decode (Option β)} (Follows : Octets → Prop) (written : α → Octets)
    (read : α → β) {close rest : Octets} (hclose : step.Reads close none rest)
    (hfollows : Follows (close ++ rest)) :
    ∀ (items : List α), (∀ a ∈ items, ∀ tail, Follows tail →
        step.Reads (written a) (some (read a)) tail ∧ Follows (written a ++ tail)) →
      ∀ (fuel : Octets) (done : List β), items.length ≤ fuel.length →
        (many.go step fuel done).Reads (items.flatMap written ++ close)
          (done.reverse ++ items.map read) rest ∧
        Follows (items.flatMap written ++ close ++ rest) := by
  -- The induction is on the items: each takes one octet of fuel, and there are enough of those.
  intro items
  induction items with
  | nil =>
      intro _ fuel done _
      refine ⟨?_, hfollows⟩
      have h : (many.go step fuel done).Reads (close ++ []) done.reverse rest := by
        cases fuel with
        | nil => exact Reads.bind (by simpa using hclose) (Reads.pure _ _)
        | cons o fuel => exact Reads.bind (by simpa using hclose) (Reads.pure _ _)
      simpa using h
  | cons a items ih =>
      intro hitems fuel done hfuel
      cases fuel with
      | nil => simp at hfuel
      | cons o fuel =>
          have htail := ih (fun b hb => hitems b (List.mem_cons_of_mem a hb)) fuel (read a :: done)
            (by simpa using hfuel)
          have ha := hitems a (List.mem_cons_self ..) _ htail.2
          refine ⟨?_, by simpa using ha.2⟩
          have hdone : done.reverse ++ (a :: items).map read
              = (read a :: done).reverse ++ items.map read := by
            simp
          rw [List.flatMap_cons, List.append_assoc, many.go, hdone]
          have hstep : step.Reads (written a) (some (read a))
              (items.flatMap written ++ close ++ rest) := by simpa using ha.1
          exact hstep.bind htail.1

theorem length_le_length_flatMap {written : α → Octets} {items : List α}
    (hpos : ∀ a ∈ items, 1 ≤ (written a).length) :
    items.length ≤ (items.flatMap written).length := by
  induction items with
  | nil => simp
  | cons a items ih =>
      have h₁ := hpos a (List.mem_cons_self ..)
      have h₂ := ih fun b hb => hpos b (List.mem_cons_of_mem a hb)
      rw [List.length_cons, List.flatMap_cons, List.length_append]
      omega

/-- Items in a row, each of them at least an octet long, and what ends the row. `Follows` is what
    an item needs to know of the octets behind it; it has to hold of every item itself. -/
theorem Reads.many (Follows : Octets → Prop) (read : α → β) {step : Decode (Option β)}
    {written : α → Octets} {items : List α} {close rest : Octets}
    (hclose : step.Reads close none rest) (hfollows : Follows (close ++ rest))
    (hpos : ∀ a ∈ items, 1 ≤ (written a).length)
    (hitems : ∀ a ∈ items, ∀ tail, Follows tail →
      step.Reads (written a) (some (read a)) tail ∧ Follows (written a ++ tail)) :
    (many step).Reads (items.flatMap written ++ close) (items.map read) rest := by
  have hlength := length_le_length_flatMap hpos
  intro position
  have h := (many_go_reads Follows written read hclose hfollows items hitems
    (items.flatMap written ++ close ++ rest) [] (by
      rw [List.length_append, List.length_append]; omega)).1 position
  simpa [Decode.many] using h

end Decode

end Bacnet
