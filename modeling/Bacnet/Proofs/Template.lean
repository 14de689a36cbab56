import Bacnet.Proofs.Device
import Bacnet.Template

set_option autoImplicit false

/-! # What a template puts into a device

Building sets a property only to its default or to a setting read by its datatype, and only one that
the schema has and that is not computed. That is the invariant of every step (`Object.Configured`),
and so it holds of every device that is built. In particular all bits are packed, so a built device
is sendable if its strings are short (`sendable_of_build`). -/

namespace Bacnet

/-! ## Steps that may fail -/

section Steps

variable {α β ε : Type}

theorem except_bind_eq_ok {x : Except ε α} {f : α → Except ε β} {b : β} :
    (x >>= f) = .ok b ↔ ∃ a, x = .ok a ∧ f a = .ok b := by
  constructor
  · intro h
    cases x with
    | error e => cases h
    | ok a => exact ⟨a, rfl, h⟩
  · rintro ⟨a, rfl, h⟩
    exact h

theorem except_map_eq_ok {x : Except ε α} {f : α → β} {b : β} :
    f <$> x = .ok b ↔ ∃ a, x = .ok a ∧ f a = b := by
  constructor
  · intro h
    cases x with
    | error e => cases h
    | ok a => exact ⟨a, rfl, Except.ok.inj h⟩
  · rintro ⟨a, rfl, rfl⟩
    rfl

/-- What every step preserves holds after all of them. -/
theorem foldlM_preserves {step : β → α → Except ε β} (P : β → Prop)
    (hstep : ∀ b a b', P b → step b a = .ok b' → P b') (l : List α) {b b' : β} (hb : P b)
    (h : l.foldlM step b = .ok b') : P b' := by
  induction l generalizing b with
  | nil => cases h; exact hb
  | cons a l ih =>
      rw [List.foldlM_cons] at h
      obtain ⟨b₁, hfirst, h⟩ := except_bind_eq_ok.1 h
      exact ih (hstep b a b₁ hb hfirst) h

theorem exists_of_mem_mapM {f : α → Except ε β} {as : List α} {bs : List β}
    (h : as.mapM f = .ok bs) {b : β} (hb : b ∈ bs) : ∃ a ∈ as, f a = .ok b := by
  induction as generalizing bs with
  | nil => cases h; cases hb
  | cons a as ih =>
      rw [List.mapM_cons] at h
      obtain ⟨b₁, hfirst, h⟩ := except_bind_eq_ok.1 h
      obtain ⟨bs₁, hrest, h⟩ := except_bind_eq_ok.1 h
      cases h
      rcases List.mem_cons.1 hb with rfl | hb
      · exact ⟨a, List.mem_cons_self .., hfirst⟩
      · obtain ⟨a', ha', h'⟩ := ih hrest hb
        exact ⟨a', List.mem_cons_of_mem a ha', h'⟩

end Steps

/-! ## Objects -/

/-- A value that a property can be given: its default, or a setting read by its datatype. -/
def PropertySpec.Admits (spec : PropertySpec) (v : Value) : Prop :=
  v = spec.defaultValue ∨
    ∃ setting : Setting, setting.toValue spec.property spec.datatype = .ok v

namespace Object

/-- Every value is one that its property, which the schema has and which is not computed, can be
    given. -/
def Configured (o : Object) : Prop :=
  ∀ p v, o.properties.get? p = some v →
    ∃ spec ∈ o.schema.specs, spec.property = p ∧ p.isComputed = false ∧ spec.Admits v

variable {o : Object}

theorem configured_of_ofId {id : ObjectId} {name : String} (h : ofId id name = .ok o) :
    o.Configured := by
  unfold ofId at h
  split at h
  · cases h
  · cases h
    intro p v hv
    cases hv

theorem Configured.configure (h : o.Configured) {spec : PropertySpec}
    (hspec : spec ∈ o.schema.specs) (hcomputed : spec.property.isComputed = false) {v : Value}
    (hv : spec.Admits v) : (o.configure spec.property v).Configured := by
  intro p w hw
  simp only [Object.configure, Table.get?_set] at hw
  split at hw
  · next hp =>
      cases hw
      exact ⟨spec, hspec, hp, hp ▸ hcomputed, hv⟩
  · exact h p w hw

theorem Configured.fillDefault (h : o.Configured) {spec : PropertySpec}
    (hspec : spec ∈ o.schema.specs) : (o.fillDefault spec).Configured := by
  unfold Object.fillDefault
  by_cases hcomputed : spec.property.isComputed = true
  · rwa [if_pos hcomputed]
  rw [if_neg hcomputed]
  intro p v hv
  simp only [Table.get?_setDefault, Option.or_eq_some_iff] at hv
  rcases hv with hv | ⟨-, hv⟩
  · exact h p v hv
  · split at hv
    · next hp =>
        cases hv
        exact ⟨spec, hspec, hp, hp ▸ by simpa using hcomputed, .inl rfl⟩
    · cases hv

@[simp] theorem schema_fillDefault (o : Object) (spec : PropertySpec) :
    (o.fillDefault spec).schema = o.schema := by
  unfold Object.fillDefault
  split <;> rfl

theorem Configured.fillDefaults (h : o.Configured) : o.fillDefaults.Configured := by
  -- The object changes along the way but its schema does not, so the rest stays in the schema.
  have hall : ∀ (specs : List PropertySpec) (o : Object), o.Configured →
      (∀ spec ∈ specs, spec ∈ o.schema.specs) → (specs.foldl Object.fillDefault o).Configured := by
    intro specs
    induction specs with
    | nil => exact fun o ho _ => ho
    | cons spec specs ih =>
        intro o ho hspecs
        refine ih _ (ho.fillDefault (hspecs spec (List.mem_cons_self ..))) fun next hnext => ?_
        rw [schema_fillDefault]
        exact hspecs next (List.mem_cons_of_mem spec hnext)
  exact hall o.schema.required o h fun spec hspec => (List.mem_filter.1 hspec).1

theorem Configured.applyRecord (h : o.Configured) {record : Record} {o' : Object}
    (hrecord : o.applyRecord record = .ok o') : o'.Configured := by
  unfold Object.applyRecord at hrecord
  split at hrecord
  · cases hrecord
  · next p hkey =>
      split at hrecord
      · cases hrecord
      · next hcomputed =>
          split at hrecord
          · cases hrecord
          · next spec hspec =>
              split at hrecord
              · next value hvalue =>
                  cases hrecord
                  have hp : spec.property = p := by simpa using List.find?_some hspec
                  subst hp
                  exact h.configure (List.mem_of_find?_eq_some hspec) (by simpa using hcomputed)
                    (.inr ⟨_, hvalue⟩)
              · cases hrecord
  all_goals cases hrecord; exact h

theorem Configured.applyRecords (h : o.Configured) {records : List Record} {o' : Object}
    (hrecords : o.applyRecords records = .ok o') : o'.Configured := by
  obtain ⟨filled, hfilled, rfl⟩ := except_map_eq_ok.1 hrecords
  have hall := foldlM_preserves Object.Configured
    (fun _ _ _ ho happly => Configured.applyRecord ho happly) records h hfilled
  exact hall.fillDefaults

theorem configured_of_build {record : ObjectRecord} (h : record.build = .ok o) :
    o.Configured := by
  unfold ObjectRecord.build at h
  split at h
  · cases h
  · obtain ⟨identity, -, h⟩ := except_bind_eq_ok.1 h
    obtain ⟨⟨n, name⟩, -, h⟩ := except_bind_eq_ok.1 h
    obtain ⟨object, hobject, h⟩ := except_bind_eq_ok.1 h
    exact (configured_of_ofId hobject).applyRecords h

end Object

/-! ## Devices -/

namespace Device

/-- A device and its objects have only values that their properties can be given. -/
def Configured (d : Device) : Prop := d.object.Configured ∧ ∀ o ∈ d.objects, o.Configured

theorem configured_of_ofInstance {n : UInt32} {name : String} {d : Device}
    (h : ofInstance n name = .ok d) : d.Configured := by
  unfold ofInstance at h
  split at h
  · cases h
  · obtain ⟨object, hobject, h⟩ := except_bind_eq_ok.1 h
    cases h
    exact ⟨(Object.configured_of_ofId hobject).fillDefaults, fun o ho => nomatch ho⟩

theorem Configured.register {d d' : Device} (h : d.Configured) {o : Object} (ho : o.Configured)
    (hregister : d.register o = .ok d') : d'.Configured := by
  unfold Device.register at hregister
  split at hregister
  · cases hregister
  · split at hregister
    · cases hregister
    · cases hregister
      refine ⟨h.1, fun o' ho' => ?_⟩
      rcases List.mem_append.1 ho' with ho' | ho'
      · exact h.2 o' ho'
      · rwa [List.mem_singleton.1 ho']

theorem Configured.addRecord {d d' : Device} (h : d.Configured) {record : ObjectRecord}
    (hrecord : d.addRecord record = .ok d') : d'.Configured := by
  obtain ⟨o, ho, hregister⟩ := except_bind_eq_ok.1 hrecord
  exact h.register (Object.configured_of_build ho) hregister

end Device

namespace Template

variable {t : Template} {d : Device}

theorem configured_of_buildDevice (h : t.buildDevice = .ok d) : d.Configured := by
  unfold buildDevice at h
  obtain ⟨identity, -, h⟩ := except_bind_eq_ok.1 h
  obtain ⟨⟨n, name⟩, -, h⟩ := except_bind_eq_ok.1 h
  obtain ⟨device, hdevice, h⟩ := except_bind_eq_ok.1 h
  obtain ⟨object, hobject, h⟩ := except_bind_eq_ok.1 h
  cases h
  have hconfigured := Device.configured_of_ofInstance hdevice
  exact ⟨hconfigured.1.applyRecords hobject, hconfigured.2⟩

/-- A device that is built has only values that their properties can be given. -/
theorem configured_of_build (h : t.build = .ok d) : d.Configured := by
  obtain ⟨device, hdevice, h⟩ := except_bind_eq_ok.1 h
  exact foldlM_preserves Device.Configured
    (fun _ _ _ hd hadd => Device.Configured.addRecord hd hadd)
    t.objects (configured_of_buildDevice hdevice) h

end Template

/-! ## Packed bits -/

theorem BitString.unusedBits_ofBits (bits : List Bool) : (ofBits bits).unusedBits ≤ 7 := by
  have hlength : (pack bits).length = (bits.length + 7) / 8 := by simp [pack]
  rw [UInt8.le_iff_toNat_le]
  simp only [ofBits, hlength, UInt8.toNat_ofNat']
  show _ ≤ 7
  omega

namespace Value

/-- The bit strings in a value have no octet too many. -/
def Packed (v : Value) : Prop := ∀ bits, bitString bits ∈ v.flat → bits.unusedBits ≤ 7

theorem packed_ofBits (bits : List Bool) : (bitString (.ofBits bits)).Packed := by
  intro bits' hbits
  rw [flat, List.mem_singleton] at hbits
  cases hbits
  exact BitString.unusedBits_ofBits bits

theorem packed_list {items : List Value} (h : ∀ v ∈ items, v.Packed) :
    (list items).Packed := by
  intro bits hbits
  rw [flat, mem_flatAll] at hbits
  obtain ⟨v, hv, hbits⟩ := hbits
  exact h v hv bits hbits

end Value

namespace Setting

variable {p : PropertyId} {setting : Setting} {v : Value}

/-- What holds of the values of simple datatypes, and of a list if of all its items, holds of all
    that settings are read as. -/
theorem toValue_induction {motive : Datatype → Value → Prop}
    (hsimple : ∀ (setting : Setting) (datatype : Datatype) (v : Value),
      setting.toSimple? p datatype = some v → motive datatype v)
    (hlist : ∀ (element : Datatype) (items : List Value), (∀ v ∈ items, motive element v) →
      motive (.arrayOf element) (.list items))
    {datatype : Datatype} (h : setting.toValue p datatype = .ok v) : motive datatype v := by
  -- An array is read element by element as values of a smaller datatype, whatever the settings.
  induction datatype generalizing setting v with
  | arrayOf element ih =>
      cases setting with
      | list items =>
          rw [toValue] at h
          obtain ⟨vs, hvs, rfl⟩ := except_map_eq_ok.1 h
          refine hlist element vs fun w hw => ?_
          obtain ⟨item, -, hitem⟩ := exists_of_mem_mapM hvs hw
          exact ih hitem
      | _ =>
          simp only [toValue, toSimple?] at h
          cases h
  | _ =>
      simp only [toValue] at h
      split at h
      · next value hvalue =>
          cases h
          exact hsimple _ _ _ hvalue
      · cases h

/-- A setting that is read as no value of a datatype that is no array is what the error shows. -/
theorem toValue_simple {datatype : Datatype} (h : datatype.isArray = false) (setting : Setting) :
    setting.toValue p datatype =
      (setting.toSimple? p datatype).elim (.error (.notOfDatatype setting datatype)) .ok := by
  cases datatype with
  | arrayOf element => cases h
  | _ =>
      simp only [toValue]
      split
      · next value hvalue => rw [hvalue, Option.elim_some]
      · next hnone => rw [hnone, Option.elim_none]

theorem exists_ofBits_of_toBitString? {b : BitString} (h : setting.toBitString? = some b) :
    ∃ bits, BitString.ofBits bits = b := by
  unfold toBitString? at h
  split at h
  · obtain ⟨bits, -, h⟩ := Option.map_eq_some_iff.1 h
    exact ⟨bits, h⟩
  · obtain ⟨digits, -, h⟩ := Option.bind_eq_some_iff.1 h
    obtain ⟨bits, -, h⟩ := Option.map_eq_some_iff.1 h
    exact ⟨bits, h⟩

theorem packed_of_toSimple? {datatype : Datatype} (h : setting.toSimple? p datatype = some v) :
    v.Packed := by
  unfold toSimple? at h
  cases datatype with
  | bitString =>
      obtain ⟨b, hb, rfl⟩ := Option.map_eq_some_iff.1 h
      obtain ⟨bits, rfl⟩ := exists_ofBits_of_toBitString? hb
      exact Value.packed_ofBits bits
  | characterString =>
      cases setting with
      | text s => cases h; simp [Value.Packed, Value.flat]
      | _ => cases h
  | objectId =>
      cases setting with
      | text s =>
          obtain ⟨id, -, rfl⟩ := Option.map_eq_some_iff.1 h
          simp [Value.Packed, Value.flat]
      | _ => cases h
  | arrayOf element => cases h
  | _ =>
      obtain ⟨x, -, rfl⟩ := Option.map_eq_some_iff.1 h
      simp [Value.Packed, Value.flat]

theorem packed_of_toValue {datatype : Datatype} (h : setting.toValue p datatype = .ok v) :
    v.Packed :=
  toValue_induction (motive := fun _ v => v.Packed) (fun _ _ _ => packed_of_toSimple?)
    (fun _ _ => Value.packed_list) h

end Setting

namespace PropertySpec

theorem packed_emptyValue (datatype : Datatype) : datatype.emptyValue.Packed := by
  cases datatype with
  | bitString => exact Value.packed_ofBits []
  | arrayOf element => exact Value.packed_list fun v hv => nomatch hv
  | _ => simp [Value.Packed, Datatype.emptyValue, Value.flat]

theorem packed_defaultValue (spec : PropertySpec) : spec.defaultValue.Packed := by
  -- All defaults are scalars or packed here, so every branch of the table is.
  have hite : ∀ {c : Prop} [Decidable c] {v w : Value}, v.Packed → w.Packed →
      (if c then v else w).Packed := fun hv hw => by split <;> assumption
  have hunsigned : ∀ n, (Value.unsigned n).Packed := by simp [Value.Packed, Value.flat]
  have henumerated : ∀ code, (Value.enumerated code).Packed := by simp [Value.Packed, Value.flat]
  unfold defaultValue
  refine hite (Value.packed_ofBits _) (hite (henumerated _) ?_)
  refine hite (hunsigned _) (hite (hunsigned _) (hite (hunsigned _) (hite (hunsigned _) ?_)))
  refine hite (henumerated _) (hite (hunsigned _) (hite (hunsigned _) ?_))
  exact hite (Value.packed_ofBits _) (hite (Value.packed_ofBits _) (packed_emptyValue _))

theorem Admits.packed {spec : PropertySpec} {v : Value} (h : spec.Admits v) : v.Packed := by
  rcases h with rfl | ⟨setting, hsetting⟩
  · exact spec.packed_defaultValue
  · exact Setting.packed_of_toValue hsetting

end PropertySpec

/-! ## Short strings -/

namespace Value

/-- How many octets the text or the bits of an atom take. -/
def stringLength : Value → Nat
  | characterString text => (Octets.ofString text).length
  | bitString bits => bits.octets.length
  | _ => 0

/-- The texts and the bits in a value are short enough for their tags. -/
def StringsShort (v : Value) : Prop := ∀ x ∈ v.flat, x.stringLength < 0xFFFFFFFF

theorem sendable_of_packed {v : Value} (hpacked : v.Packed) (hshort : v.StringsShort) :
    v.Sendable := by
  intro x hx
  have hlength := hshort x hx
  cases x with
  | characterString text =>
      simp only [stringLength] at hlength
      show (Octets.ofString text).length + 1 < 0x100000000
      omega
  | bitString bits =>
      simp only [stringLength] at hlength
      exact ⟨hpacked bits hx, by omega⟩
  | _ => trivial

end Value

instance (v : Value) : Decidable v.StringsShort :=
  inferInstanceAs (Decidable (∀ x ∈ v.flat, x.stringLength < 0xFFFFFFFF))

/-- The name and the strings of an object are short enough for their tags. -/
def Object.StringsShort (o : Object) : Prop :=
  (Octets.ofString o.name).length < 0xFFFFFFFF ∧ ∀ row ∈ o.properties.rows, row.2.StringsShort

instance (o : Object) : Decidable o.StringsShort :=
  inferInstanceAs (Decidable (_ ∧ ∀ row ∈ o.properties.rows, row.2.StringsShort))

/-- The names and the strings of a device and of its objects are short enough for their tags. -/
def Device.StringsShort (d : Device) : Prop :=
  d.object.StringsShort ∧ ∀ o ∈ d.objects, o.StringsShort

instance (d : Device) : Decidable d.StringsShort :=
  inferInstanceAs (Decidable (d.object.StringsShort ∧ ∀ o ∈ d.objects, o.StringsShort))

theorem Table.mem_rows_of_get? {κ α : Type} [DecidableEq κ] {t : Table κ α} {key : κ} {entry : α}
    (h : t.get? key = some entry) : (key, entry) ∈ t.rows := by
  obtain ⟨rows⟩ := t
  simp only [Table.get?] at h
  induction rows with
  | nil => cases h
  | cons row rows ih =>
      rw [Table.getRow?] at h
      split at h
      · next hkey =>
          cases h
          cases hkey
          exact List.mem_cons_self ..
      · exact List.mem_cons_of_mem row (ih h)

theorem Object.Configured.sendable {o : Object} (h : o.Configured) (hshort : o.StringsShort) :
    o.Sendable where
  name := by
    have hname := hshort.1
    omega
  value p v hv := by
    obtain ⟨spec, -, -, -, hadmits⟩ := h p v hv
    exact Value.sendable_of_packed hadmits.packed (hshort.2 _ (Table.mem_rows_of_get? hv))

namespace Template

/-- A device that is built is sendable if its strings are short. -/
theorem sendable_of_build {t : Template} {d : Device} (h : t.build = .ok d)
    (hshort : d.StringsShort) : d.Sendable :=
  ⟨(configured_of_build h).1.sendable hshort.1, fun o ho =>
    ((configured_of_build h).2 o ho).sendable (hshort.2 o ho)⟩

/-- A template that says no more than it has to. -/
def minimal : Template :=
  ⟨[⟨"device-identifier", .integer 1⟩, ⟨"device-name", .text "plant"⟩], []⟩

theorem exists_build_minimal : ∃ d, minimal.build = .ok d ∧ d.StringsShort := by
  have h : minimal.build.toOption.any (fun d => decide d.StringsShort) = true := by
    decide +kernel
  cases hbuild : minimal.build with
  | error e => rw [hbuild] at h; cases h
  | ok d =>
      rw [hbuild] at h
      exact ⟨d, rfl, of_decide_eq_true h⟩

end Template

end Bacnet
