import Bacnet.Proofs.Declared
import Bacnet.Proofs.Reading

set_option autoImplicit false

/-! # Objects that are set up by hand

An object can be made without a template, from an identifier and a name, by setting properties one
after the other and filling in defaults in between. Setting a property asks the schema whether
objects of the type have it and whether it can be configured, but does not look at the value. So a
property has what was last set for it, or else its default (`Object.After`), and the object is well
typed just if all that was set last is of the declared datatype (`Object.wellTyped_iff_of_setUp`).
What is well typed is always answered, with the declared tag in front of every atom, and nothing but
too little room stands against writing the answer (`Object.AnswersTyped`). -/

namespace Bacnet

/-! ## Values of a datatype -/

/-- The datatype of the atoms of a value: of an array, that of its elements. -/
def Datatype.atom : Datatype → Datatype
  | arrayOf element => element.atom
  | datatype => datatype

/-- All that is written of a value has the tag of the datatype. -/
theorem Datatype.tag?_of_mem_flat {datatype : Datatype} {v : Value}
    (h : datatype.admits v = true) : ∀ x ∈ v.flat, x.tag? = datatype.atom.tag? := by
  induction datatype generalizing v with
  | arrayOf element ih =>
      cases v with
      | list items =>
          intro x hx
          obtain ⟨item, hitem, hx⟩ := Value.mem_flatAll.1 hx
          exact ih (List.all_eq_true.1 h item hitem) x hx
      | _ => cases h
  | _ =>
      cases v with
      | list items => cases h
      | _ => simpa [admits, Value.flat, atom] using h

theorem Datatype.exists_tag?_atom (datatype : Datatype) :
    ∃ tag, datatype.atom.tag? = some tag := by
  induction datatype with
  | arrayOf element ih => exact ih
  | _ => exact ⟨_, rfl⟩

/-- Whether a value is one of the datatype that is declared for a property, with no octet too many
    in its bits. -/
structure PropertySpec.Suits (spec : PropertySpec) (v : Value) : Prop where
  admits : spec.datatype.admits v = true
  packed : v.Packed

theorem PropertySpec.suits_defaultValue {s : Schema} (hs : s ∈ Schema.all) {spec : PropertySpec}
    (hspec : spec ∈ s.specs) (hcomputed : spec.property.isComputed = false) :
    spec.Suits spec.defaultValue :=
  ⟨admits_defaultValue s hs spec hspec hcomputed, spec.packed_defaultValue⟩

/-! ## Parts of values -/

namespace Value

variable {v x : Value} {p : PropertyId} {index : Option UInt32}

/-- What an index asks for is the number of the elements, or has no atoms that the whole value does
    not have. -/
theorem flat_of_select (h : v.select p index = .ok x) :
    (∃ n, index = some 0 ∧ x = unsigned n) ∨ index ≠ some 0 ∧ x.flat ⊆ v.flat := by
  unfold select at h
  cases index with
  | none =>
      cases h
      exact .inr ⟨nofun, fun _ => id⟩
  | some i =>
      cases v with
      | list items =>
          simp only [items?] at h
          split_ifs at h with hi
          · cases h
            exact .inl ⟨_, by rw [hi], rfl⟩
          · refine .inr ⟨fun hzero => hi (Option.some_inj.1 hzero), fun atom hatom => ?_⟩
            split at h
            · cases h
            · next item hitem =>
                cases h
                exact mem_flatAll.2 ⟨_, List.mem_of_getElem? hitem, hatom⟩
      | _ => cases h

theorem Packed.select (hv : v.Packed) (h : v.select p index = .ok x) : x.Packed := by
  rcases flat_of_select h with ⟨n, -, rfl⟩ | ⟨-, hsubset⟩
  · simp [Packed, flat]
  · exact fun bits hbits => hv bits (hsubset hbits)

end Value

namespace Object

/-! ## Steps -/

/-- What can be done to an object that is set up by hand. -/
inductive SetupStep where
  | set (p : PropertyId) (value : Value)
  | fillDefaults

namespace SetupStep

def apply (o : Object) : SetupStep → Except ConfigError Object
  | set p value => o.withProperty p value
  | fillDefaults => .ok o.fillDefaults

/-- What a step sets for a property. -/
def value? (p : PropertyId) : SetupStep → Option Value
  | set q value => if q = p then some value else none
  | fillDefaults => none

def fills : SetupStep → Bool
  | set .. => false
  | fillDefaults => true

/-- What is set last for a property. -/
def last? (steps : List SetupStep) (p : PropertyId) : Option Value :=
  (steps.filterMap (value? p)).getLast?

theorem last?_concat (steps : List SetupStep) (step : SetupStep) (p : PropertyId) :
    last? (steps ++ [step]) p = (step.value? p).or (last? steps p) := by
  rw [last?, last?, List.filterMap_append, List.getLast?_append]
  cases hstep : step.value? p with
  | none => simp [hstep]
  | some value => simp [hstep]

/-- What is set last is set at all. -/
theorem set_mem_of_last? {steps : List SetupStep} {p : PropertyId} {v : Value}
    (h : last? steps p = some v) : set p v ∈ steps := by
  obtain ⟨step, hstep, hv⟩ := List.mem_filterMap.1 (List.mem_of_getLast? h)
  cases step with
  | set q w =>
      rw [value?] at hv
      split_ifs at hv with hq
      cases hv
      exact hq ▸ hstep
  | fillDefaults => cases hv

end SetupStep

open SetupStep

/-- The object with an identifier and a name after steps in order, all of which have to succeed. -/
def setUp (id : ObjectId) (name : String) (steps : List SetupStep) : Except ConfigError Object := do
  steps.foldlM apply (← ofId id name)

variable {o o' : Object} {p : PropertyId} {v : Value} {steps : List SetupStep} {spec : PropertySpec}

theorem withProperty_eq_ok (h : o.withProperty p v = .ok o') : p.isComputed = false ∧
    (∃ spec, o.schema.spec? p = some spec) ∧ o' = o.configure p v := by
  unfold withProperty at h
  split at h
  · cases h
  · next hcomputed =>
      split at h
      · cases h
      · next spec hspec =>
          cases h
          exact ⟨by simpa using hcomputed, ⟨spec, hspec⟩, rfl⟩

/-- An object after steps: what was set for a property can be configured, and every property has
    what was set last, or its default if defaults were filled in. -/
structure After (steps : List SetupStep) (o : Object) : Prop where
  configurable : ∀ p v, last? steps p = some v →
    p.isComputed = false ∧ ∃ spec, o.schema.spec? p = some spec
  get? : ∀ p, o.properties.get? p
    = (last? steps p).or (if steps.any fills then o.schema.default? p else none)

theorem after_of_ofId {id : ObjectId} {name : String} (h : ofId id name = .ok o) : After [] o := by
  unfold ofId at h
  split at h
  · cases h
  · cases h
    exact ⟨nofun, fun _ => rfl⟩

theorem After.set (h : After steps o) (hstep : o.withProperty p v = .ok o') :
    After (steps ++ [.set p v]) o' := by
  obtain ⟨hcomputed, hspec, rfl⟩ := withProperty_eq_ok hstep
  refine ⟨fun q w hw => ?_, fun q => ?_⟩
  · rw [last?_concat, value?] at hw
    by_cases hq : p = q
    · exact hq ▸ ⟨hcomputed, hspec⟩
    · rw [if_neg hq, Option.none_or] at hw
      exact h.configurable q w hw
  · rw [last?_concat, value?, List.any_append, configure, Table.get?_set, h.get?]
    by_cases hq : p = q
    · rw [if_pos hq, if_pos hq, Option.some_or, Option.some_or]
    · rw [if_neg hq, if_neg hq, Option.none_or]
      simp [fills]

theorem After.fillDefaults (h : After steps o) :
    After (steps ++ [.fillDefaults]) o.fillDefaults := by
  have hlast : ∀ q, last? (steps ++ [.fillDefaults]) q = last? steps q := fun q => by
    rw [last?_concat, value?, Option.none_or]
  refine ⟨fun q w hw => ?_, fun q => ?_⟩
  · rw [(sameIdentity_fillDefaults o).schema]
    exact h.configurable q w (hlast q ▸ hw)
  · rw [hlast, List.any_append, get?_fillDefaults, h.get?, (sameIdentity_fillDefaults o).schema,
      Option.or_assoc]
    cases steps.any fills <;> simp [fills]

/-- And so it is after all steps that were gone through. -/
theorem after_of_setUp {id : ObjectId} {name : String} (h : setUp id name steps = .ok o) :
    After steps o := by
  obtain ⟨o₀, hmade, h⟩ := except_bind_eq_ok.1 h
  refine foldlM_history After (after_of_ofId hmade) ?_ steps h
  intro front step o₁ o₂ hfront hstep
  cases step with
  | set p v => exact hfront.set hstep
  | fillDefaults =>
      cases hstep
      exact hfront.fillDefaults

/-! ## Well-typed objects -/

/-- Whether every value is one of the datatype that the schema declares for its property, which can
    be configured. -/
def WellTyped (o : Object) : Prop :=
  ∀ p v, o.properties.get? p = some v →
    ∃ spec ∈ o.schema.specs, spec.property = p ∧ p.isComputed = false ∧ spec.Suits v

theorem default?_eq_some (h : o.schema.default? p = some v) : p.isComputed = false ∧
    ∃ spec ∈ o.schema.specs, spec.property = p ∧ spec.required = true ∧ v = spec.defaultValue := by
  unfold Schema.default? at h
  split_ifs at h with hcomputed
  obtain ⟨spec, hspec, rfl⟩ := Option.map_eq_some_iff.1 h
  obtain ⟨hspec, hrequired⟩ := Option.filter_eq_some_iff.1 hspec
  obtain ⟨hmem, hp⟩ := (Schema.spec?_eq_some_iff o.schema_mem).1 hspec
  exact ⟨by simpa using hcomputed, spec, hmem, hp, hrequired, rfl⟩

/-- What has a value can be configured, and was set to it last or has it as its default. -/
theorem After.exists_spec (h : After steps o) (hv : o.properties.get? p = some v) :
    p.isComputed = false ∧ ∃ spec ∈ o.schema.specs, spec.property = p ∧
      (last? steps p = some v ∨
        last? steps p = none ∧ spec.required = true ∧ v = spec.defaultValue) := by
  rw [h.get?, Option.or_eq_some_iff] at hv
  rcases hv with hlast | ⟨hnone, hv⟩
  · obtain ⟨hcomputed, spec, hspec⟩ := h.configurable p v hlast
    obtain ⟨hmem, hp⟩ := (Schema.spec?_eq_some_iff o.schema_mem).1 hspec
    exact ⟨hcomputed, spec, hmem, hp, .inl hlast⟩
  · split_ifs at hv
    obtain ⟨hcomputed, spec, hmem, hp, hrequired, rfl⟩ := default?_eq_some hv
    exact ⟨hcomputed, spec, hmem, hp, .inr ⟨hnone, hrequired, rfl⟩⟩

theorem After.wellTyped_iff (h : After steps o) : o.WellTyped ↔
    ∀ spec ∈ o.schema.specs, ∀ v, last? steps spec.property = some v → spec.Suits v := by
  constructor
  · intro htyped spec hspec v hlast
    have hv : o.properties.get? spec.property = some v := by rw [h.get?, hlast, Option.some_or]
    obtain ⟨spec', hspec', hp, -, hsuits⟩ := htyped _ v hv
    -- A schema has no property twice.
    have hsame := (Schema.spec?_eq_some_iff o.schema_mem).2 ⟨hspec', hp⟩
    rw [(Schema.spec?_eq_some_iff o.schema_mem).2 ⟨hspec, rfl⟩] at hsame
    cases hsame
    exact hsuits
  · intro hlast p v hv
    obtain ⟨hcomputed, spec, hspec, rfl, hset | ⟨-, -, rfl⟩⟩ := h.exists_spec hv
    · exact ⟨spec, hspec, rfl, hcomputed, hlast spec hspec v hset⟩
    · exact ⟨spec, hspec, rfl, hcomputed,
        PropertySpec.suits_defaultValue o.schema_mem hspec hcomputed⟩

/-- What records configure is converted to the declared datatypes, so it never fails to be well
    typed. -/
theorem wellTyped_of_build {record : ObjectRecord} (h : record.build = .ok o) : o.WellTyped := by
  intro p v hv
  obtain ⟨spec, hspec, rfl, hcomputed, hadmits⟩ := configured_of_build h p v hv
  have hdeclared := hadmits.admits o.schema_mem hspec hcomputed
  exact ⟨spec, hspec, rfl, hcomputed, hdeclared, hadmits.packed⟩

/-! ## Answers -/

/-- How questions for a property that has a value are answered. The whole value can be read, and all
    that is read is acknowledged. But for the number of the elements it is written atom by atom with
    the declared tag in front of each, and if no text and no bits in it are too long for a tag, only
    a lack of room stands against writing the acknowledgement. -/
structure AnswersTyped (o : Object) (spec : PropertySpec) (v : Value) : Prop where
  read : o.read spec.property none = .ok v
  tells : ∀ d index x, Device.find? d o.id = some (.object o) →
    o.read spec.property index = .ok x → d.Tells o.id (.object o) spec.property index x
  tagged : ∀ index x, index ≠ some 0 → o.read spec.property index = .ok x → x.StringsShort →
    ∃ tag, spec.datatype.atom.tag? = some tag ∧ x.encode = .concat (x.flat.map Value.encode) ∧
      ∀ atom ∈ x.flat,
        ∃ length contents, atom.encode = (Tag.application tag length).encode ++ contents
  within : ∀ index x, o.read spec.property index = .ok x → x.StringsShort →
    ∀ invokeId capacity,
      let answer := (ReadPropertyAck.mk ⟨o.id, spec.property, index⟩ x).encode invokeId
      answer.within capacity
        = if answer.size ≤ capacity then .ok answer.octets else .error .bufferTooSmall

theorem answersTyped (hcomputed : spec.property.isComputed = false)
    (hv : o.properties.get? spec.property = some v) (h : spec.Suits v) :
    o.AnswersTyped spec v := by
  have hread : ∀ index, o.read spec.property index = v.select spec.property index := fun index => by
    rw [read, whole?_of_not_computed hcomputed, hv]
  refine ⟨hread none, fun d index x hfind hx => d.tells_of_read hfind hx, ?_, ?_⟩
  · intro index x hindex hx hshort
    rw [hread] at hx
    obtain ⟨tag, htag⟩ := spec.datatype.exists_tag?_atom
    have hsendable := Value.sendable_of_packed (h.packed.select hx) hshort
    rcases Value.flat_of_select hx with ⟨n, hzero, -⟩ | ⟨-, hsubset⟩
    · exact absurd hzero hindex
    · refine ⟨tag, htag, x.encode_eq_concat, fun atom hatom => ?_⟩
      have hdeclared := Datatype.tag?_of_mem_flat h.admits atom (hsubset hatom)
      exact Value.exists_encode_eq (hdeclared.trans htag) (hsendable atom hatom)
  · intro index x hx hshort invokeId capacity
    rw [hread] at hx
    have hsendable := Value.sendable_of_packed (h.packed.select hx) hshort
    refine Encoding.within_eq ?_ capacity
    rw [ReadPropertyAck.encode_eq, Encoding.fault_append, ComplexAckHeader.fault_encode,
      ReadPropertyAck.fault_encodeBody hsendable, Option.none_or]

/-- An object that is set up by hand has nothing but what was last set for its properties and their
    defaults, and is well typed just if what was last set is of the declared datatypes. What it has
    of a declared datatype is always answered and written with the declared tag. -/
theorem wellTyped_iff_of_setUp {id : ObjectId} {name : String}
    (h : setUp id name steps = .ok o) :
    (∀ p v, o.properties.get? p = some v → p.isComputed = false ∧
      ∃ spec ∈ o.schema.specs, spec.property = p ∧ (last? steps p = some v ∨
        last? steps p = none ∧ spec.required = true ∧ v = spec.defaultValue)) ∧
    (o.WellTyped ↔
      ∀ spec ∈ o.schema.specs, ∀ v, last? steps spec.property = some v → spec.Suits v) ∧
    ∀ spec ∈ o.schema.specs, ∀ v, o.properties.get? spec.property = some v → spec.Suits v →
      o.AnswersTyped spec v := by
  have hafter := after_of_setUp h
  refine ⟨fun p v hv => hafter.exists_spec hv, hafter.wellTyped_iff, fun spec _ v hv hsuits => ?_⟩
  exact answersTyped (hafter.exists_spec hv).1 hv hsuits

/-- The modes of an input, with defaults filled in between them and the present mode: all of the
    declared datatypes, so the second mode is acknowledged as a character string. -/
theorem wellTyped_iff_of_setUp_modes :
    let modes : Value := .list [.characterString "off", .characterString "auto"]
    ∃ o, setUp (.ofParts .multiStateInput 3) "mode"
        [.set .stateText modes, .fillDefaults, .set .presentValue (.unsigned 2)] = .ok o ∧
      o.WellTyped ∧ o.read .stateText (some 2) = .ok (.characterString "auto") ∧
      o.AnswersTyped (Schema.may .stateText (.arrayOf .characterString)) modes := by
  intro modes
  obtain ⟨-, hiff, hanswers⟩ := wellTyped_iff_of_setUp
    (show setUp (.ofParts .multiStateInput 3) "mode"
      [.set .stateText modes, .fillDefaults, .set .presentValue (.unsigned 2)] = .ok _ from rfl)
  have hmodes : (Schema.may .stateText (.arrayOf .characterString)).Suits modes :=
    ⟨rfl, Value.packed_list (by simp [Value.Packed, Value.flat])⟩
  have htwo : (Schema.must .presentValue .unsigned).Suits (.unsigned 2) :=
    ⟨rfl, by simp [Value.Packed, Value.flat]⟩
  have hspecs : ∀ spec ∈ Schema.multiStateInput.specs,
      (spec.property = .stateText → spec = Schema.may .stateText (.arrayOf .characterString)) ∧
      (spec.property = .presentValue → spec = Schema.must .presentValue .unsigned) := by
    decide
  refine ⟨_, rfl, hiff.2 fun spec hspec v hlast => ?_, rfl, hanswers _ (by decide) modes rfl hmodes⟩
  have hset := set_mem_of_last? hlast
  simp only [List.mem_cons, SetupStep.set.injEq, reduceCtorEq, List.not_mem_nil, or_false,
    false_or] at hset
  rcases hset with ⟨hp, rfl⟩ | ⟨hp, rfl⟩
  · rw [(hspecs spec hspec).1 hp]
    exact hmodes
  · rw [(hspecs spec hspec).2 hp]
    exact htwo

/-- Setting a property does not look at the value: a text can be set for the present value of an
    analog input, which is declared as a real. -/
theorem not_forall_wellTyped_of_setUp : ¬ ∀ (id : ObjectId) (name : String)
    (steps : List SetupStep) (o : Object), setUp id name steps = .ok o → o.WellTyped := by
  intro hall
  have htyped := hall (.ofParts .analogInput 1) "AI 01"
    [.set .presentValue (.characterString "hot")] _ rfl
  obtain ⟨spec, hspec, hp, -, hsuits⟩ := htyped .presentValue (.characterString "hot") rfl
  have hreal : ∀ spec ∈ Schema.analogInput.specs, spec.property = .presentValue →
      spec.datatype = .real := by
    decide
  have hadmits := hsuits.admits
  rw [hreal spec hspec hp] at hadmits
  cases hadmits

end Object

end Bacnet
