import Bacnet.Proofs.Stream

set_option autoImplicit false

/-! # Values between brackets

Behind an opening tag stand values in turn and the closing tag with the same number (`Bracketed`).
The loop takes these rows and no others (`many_decodeUnlessClosing_eq_ok_iff`). A value starts with
an application tag, so a tag of any other kind ends the values: the closing tag with the number as
it has to, and each other one as a failure.

One value is told from several by the tag behind it. A reading that takes the first value and that
tag on their own, and loops only from the second value on, is the same reading
(`decodeUntilClosing_eq_stages`). -/

namespace Bacnet.Value

open Decode

variable {number : UInt8} {r r' : Reader} {t : Tag} {v : Value}

/-! ## A value or the closing tag -/

/-- Values start with application tags only. -/
theorem exists_application_of_decodeBehind (h : decodeBehind t r = .ok v r') :
    ∃ tag length, t = .application tag length := by
  cases t with
  | application tag length => exact ⟨tag, length, rfl⟩
  | context n length => cases h
  | opening n => cases h
  | closing n => cases h

theorem decodeBehind_of_not_application (h : ∀ tag length, t ≠ .application tag length) :
    decodeBehind t = throw .unsupported := by
  cases t with
  | application tag length => exact absurd rfl (h tag length)
  | _ => rfl

theorem decodeUnlessClosing_of_tag (htag : Tag.decode r = .ok t r') :
    decodeUnlessClosing number r
      = (if t = .closing number then pure none else some <$> decodeBehind t) r' := by
  unfold decodeUnlessClosing
  rw [bind_apply, htag]

theorem decodeUnlessClosing_eq_none_iff :
    decodeUnlessClosing number r = .ok none r' ↔ Tag.decode r = .ok (.closing number) r' := by
  constructor
  · intro h
    obtain ⟨t, r₁, htag, h⟩ := bind_eq_ok.1 h
    by_cases hclosing : t = .closing number
    · rw [if_pos hclosing] at h
      cases h
      rw [htag, hclosing]
    · rw [if_neg hclosing] at h
      obtain ⟨v, -, hv⟩ := map_eq_ok.1 h
      cases hv
  · intro htag
    rw [decodeUnlessClosing_of_tag htag, if_pos rfl]
    rfl

theorem decodeUnlessClosing_eq_some_iff :
    decodeUnlessClosing number r = .ok (some v) r' ↔ decode r = .ok v r' := by
  constructor
  · intro h
    obtain ⟨t, r₁, htag, h⟩ := bind_eq_ok.1 h
    by_cases hclosing : t = .closing number
    · rw [if_pos hclosing] at h
      cases h
    · rw [if_neg hclosing] at h
      obtain ⟨v', hbehind, hv⟩ := map_eq_ok.1 h
      cases hv
      exact bind_eq_ok.2 ⟨t, r₁, htag, hbehind⟩
  · intro h
    obtain ⟨t, r₁, htag, hbehind⟩ := bind_eq_ok.1 h
    obtain ⟨tag, length, rfl⟩ := exists_application_of_decodeBehind hbehind
    rw [decodeUnlessClosing_of_tag htag, if_neg Tag.noConfusion]
    exact map_eq_ok.2 ⟨v, hbehind, rfl⟩

/-- A tag that starts no value and is not the closing tag is refused. -/
theorem decodeUnlessClosing_of_other (htag : Tag.decode r = .ok t r')
    (hvalue : ∀ tag length, t ≠ .application tag length) (hclosing : t ≠ .closing number) :
    decodeUnlessClosing number r = .error .unsupported r' := by
  rw [decodeUnlessClosing_of_tag htag, if_neg hclosing, decodeBehind_of_not_application hvalue]
  rfl

/-! ## Runs of values -/

/-- Values in turn, and behind them the closing tag with a number. -/
def Bracketed (number : UInt8) (r : Reader) (values : List Value) (r' : Reader) : Prop :=
  ∃ r₁, InTurn decode r values r₁ ∧ Tag.decode r₁ = .ok (.closing number) r'

/-- The loop takes values in turn and the closing tag, and whenever they are there. -/
theorem many_decodeUnlessClosing_eq_ok_iff {values : List Value} :
    many (decodeUnlessClosing number) r = .ok values r' ↔ Bracketed number r values r' := by
  constructor
  · intro h
    obtain ⟨r₁, hvalues, hend⟩ :=
      exists_inTurn_of_many (fun _ _ _ h => decodeUnlessClosing_eq_some_iff.1 h) h
    exact ⟨r₁, hvalues, decodeUnlessClosing_eq_none_iff.1 hend⟩
  · rintro ⟨r₁, hvalues, hclosing⟩
    exact hvalues.many_eq_ok (advances_decodeUnlessClosing number)
      (fun _ _ _ h => decodeUnlessClosing_eq_some_iff.2 h)
      (decodeUnlessClosing_eq_none_iff.2 hclosing)

/-- One value stands for itself, any other number of them for the list. -/
theorem ofRun_eq_iff {values : List Value} : ofRun values = v ↔
    values = [v] ∨ ((∀ x, values ≠ [x]) ∧ v = list values) := by
  rcases values with _ | ⟨x, _ | ⟨y, rest⟩⟩ <;> simp [ofRun, eq_comm]

/-- The stages of a reading that has no list to begin with: an empty run is seen at the first tag, a
    single value at the tag behind it, and only from the second value on there is a list. -/
theorem decodeUntilClosing_eq_stages (number : UInt8) : decodeUntilClosing number = do
    match ← decodeUnlessClosing number with
    | none => return list []
    | some first =>
      match ← decodeUnlessClosing number with
      | none => return first
      | some second => return list (first :: second :: (← many (decodeUnlessClosing number))) := by
  have hmany := many_eq (advances_decodeUnlessClosing number)
  unfold decodeUntilClosing
  conv_lhs => rw [hmany, map_bind]
  congr 1
  funext next
  cases next with
  | none => rfl
  | some first =>
      rw [Functor.map_map]
      conv_lhs => rw [hmany, map_bind]
      congr 1
      funext next
      cases next with
      | none => rfl
      | some second =>
          show _ <$> _ <$> _ = _
          rw [Functor.map_map, map_eq_bind]
          rfl

/-- Values between brackets are accepted exactly as values in turn up to the closing tag with the
    number. They and that tag are what is taken, and they are given as the one value that there is,
    or else as the list of all in order. A closing tag with another number, an opening tag or a
    context tag behind any of the values is refused. -/
theorem decodeUntilClosing_accepts (number : UInt8) (r : Reader) :
    (∀ v r', decodeUntilClosing number r = .ok v r' ↔ ∃ values, Bracketed number r values r' ∧
      (values = [v] ∨ ((∀ x, values ≠ [x]) ∧ v = list values))) ∧
    ∀ values r₁ t r₂, InTurn decode r values r₁ → Tag.decode r₁ = .ok t r₂ →
      (∀ tag length, t ≠ .application tag length) → t ≠ .closing number →
      decodeUntilClosing number r = .error .unsupported r₂ := by
  refine ⟨fun v r' => ?_, fun values r₁ t r₂ hvalues htag hvalue hclosing => ?_⟩
  · unfold decodeUntilClosing
    simp only [map_eq_ok, many_decodeUnlessClosing_eq_ok_iff, ofRun_eq_iff]
  · have hrefused : many (decodeUnlessClosing number) r = .error .unsupported r₂ :=
      hvalues.many_eq_error (advances_decodeUnlessClosing number)
        (fun _ _ _ h => decodeUnlessClosing_eq_some_iff.2 h)
        (decodeUnlessClosing_of_other htag hvalue hclosing)
    exact map_eq_error ofRun hrefused

/-- No value, one and two of them in front of the closing tag, and one in front of the closing tag
    with another number, of an opening tag and of a context tag. -/
theorem decodeUntilClosing_accepts_runs :
    decodeUntilClosing 3 (.ofOctets [0x3F, 0xFF]) = .ok (list []) ⟨1, [0xFF]⟩ ∧
    decodeUntilClosing 3 (.ofOctets [0x91, 5, 0x3F]) = .ok (enumerated 5) ⟨3, []⟩ ∧
    decodeUntilClosing 3 (.ofOctets [0x91, 5, 0x11, 0x3F])
      = .ok (list [enumerated 5, boolean true]) ⟨4, []⟩ ∧
    decodeUntilClosing 3 (.ofOctets [0x91, 5, 0x4F, 0x3F]) = .error .unsupported ⟨3, [0x3F]⟩ ∧
    decodeUntilClosing 3 (.ofOctets [0x91, 5, 0x3E, 0x3F]) = .error .unsupported ⟨3, [0x3F]⟩ ∧
    decodeUntilClosing 3 (.ofOctets [0x91, 5, 0x39, 0x3F]) = .error .unsupported ⟨3, [0x3F]⟩ := by
  have hvalue : ∀ tail, InTurn decode (.ofOctets (0x91 :: 5 :: tail)) [enumerated 5] ⟨2, tail⟩ :=
    fun tail => .cons rfl (.nil _)
  refine ⟨?_, ?_, ?_, ?_, ?_, ?_⟩
  · exact ((decodeUntilClosing_accepts 3 _).1 _ _).2
      ⟨[], ⟨_, .nil _, rfl⟩, .inr ⟨by simp, rfl⟩⟩
  · exact ((decodeUntilClosing_accepts 3 _).1 _ _).2 ⟨_, ⟨_, hvalue _, rfl⟩, .inl rfl⟩
  · exact ((decodeUntilClosing_accepts 3 _).1 _ _).2
      ⟨_, ⟨_, .cons rfl (.cons rfl (.nil _)), rfl⟩, .inr ⟨by simp, rfl⟩⟩
  · exact (decodeUntilClosing_accepts 3 _).2 _ _ (.closing 4) _ (hvalue _) rfl (by simp) (by decide)
  · exact (decodeUntilClosing_accepts 3 _).2 _ _ (.opening 3) _ (hvalue _) rfl (by simp) (by decide)
  · exact (decodeUntilClosing_accepts 3 _).2 _ _ (.context 3 1) _ (hvalue _) rfl (by simp)
      (by decide)

end Bacnet.Value
