import Bacnet.Proofs.Declared

set_option autoImplicit false

/-! # Arrays element by element

A property of a target is read whole or by an index, and whatever the index, it is an index into the
value that is read whole (`Target.read_of_read_none`). So an array can be read as the number of its
elements and then one element after the other, and that makes the same value
(`Target.ServesArray`), whether it was configured, lists the properties of the target or lists the
objects of a device (`Target.HoldsArray`). -/

namespace Bacnet

/-! ## Elements of a value -/

namespace Value

variable {items : List Value} {p : PropertyId} {v : Value} {k : Nat}

theorem select_list_zero (h : items.length < 0x100000000) :
    (list items).select p (some 0) = .ok (.unsigned (.ofNat items.length)) := by
  have hmin : min items.length 0xFFFFFFFF = items.length := Nat.min_eq_left (by omega)
  show Except.ok (Value.unsigned (.ofNat (min items.length 0xFFFFFFFF))) = _
  rw [hmin]

theorem select_list_succ (hk : k + 1 < 0x100000000) (hv : items[k]? = some v) :
    (list items).select p (some (.ofNat (k + 1))) = .ok v := by
  have hindex : (UInt32.ofNat (k + 1)).toNat = k + 1 := UInt32.toNat_ofNat_of_lt' hk
  have hne : UInt32.ofNat (k + 1) ≠ 0 := by
    intro hzero
    rw [hzero] at hindex
    cases hindex
  simp only [select, items?, if_neg hne, hindex, Nat.add_sub_cancel, hv]

theorem select_list_of_lt {index : UInt32} (h : items.length < index.toNat) :
    (list items).select p (some index) = .error (.invalidIndex p index) := by
  have hne : index ≠ 0 := by
    rintro rfl
    exact absurd h (Nat.not_lt_zero _)
  have hnone : items[index.toNat - 1]? = none := List.getElem?_eq_none (by omega)
  simp only [select, items?, if_neg hne, hnone]

theorem select_of_isList_eq_false (h : v.isList = false) (index : UInt32) :
    v.select p (some index) = .error (.notAnArray p) := by
  cases v with
  | list items => cases h
  | _ => rfl

end Value

/-- Steps that give the elements of a list one after the other give the list. -/
theorem mapM_range'_eq_ok {ε α : Type} {f : Nat → Except ε α} {items : List α} (start : Nat)
    (h : ∀ k (hk : k < items.length), f (start + k) = .ok items[k]) :
    (List.range' start items.length).mapM f = .ok items := by
  induction items generalizing start with
  | nil => rfl
  | cons item items ih =>
      have hfirst : f start = .ok item := h 0 (Nat.zero_lt_succ _)
      have hrest : (List.range' (start + 1) items.length).mapM f = .ok items := by
        refine ih (start + 1) fun k hk => ?_
        rw [Nat.add_assoc, Nat.add_comm 1 k]
        exact h (k + 1) (Nat.succ_lt_succ hk)
      rw [List.length_cons, List.range'_succ, List.mapM_cons, hfirst]
      show (List.range' (start + 1) items.length).mapM f >>= _ = _
      rw [hrest]
      rfl

namespace Target

variable {t : Target} {p : PropertyId} {v : Value} {items : List Value}

/-! ## Whole values and their elements -/

theorem read_of_read_none (h : t.read p none = .ok v) (index : Option UInt32) :
    t.read p index = v.select p index := by
  have hrecord : ∀ o : Object, o.read p none = .ok v → o.read p index = v.select p index := by
    intro o ho
    rw [Object.read, Object.whole?_of_read ho]
  cases t with
  | object o => exact hrecord o h
  | device d =>
      have hread : d.read p none = .ok v := h
      show d.read p index = _
      rw [Device.read] at hread ⊢
      split_ifs at hread ⊢
      · cases hread
        rfl
      · exact hrecord d.object hread

/-- A property that cannot be read is one that is lacking, whatever the index. -/
theorem read_of_read_none_error {e : ReadError} (h : t.read p none = .error e) :
    e = .unknownProperty p ∧ ∀ index, t.read p index = .error e := by
  have hrecord : ∀ o : Object, o.read p none = .error e →
      e = .unknownProperty p ∧ ∀ index, o.read p index = .error e := by
    intro o ho
    obtain rfl := Object.error_eq_of_read ho
    refine ⟨rfl, fun index => ?_⟩
    unfold Object.read at ho ⊢
    split at ho
    · rfl
    · cases ho
  cases t with
  | object o => exact hrecord o h
  | device d =>
      have hread : d.read p none = .error e := h
      show _ ∧ ∀ index, d.read p index = .error e
      simp only [Device.read] at hread ⊢
      split_ifs at hread ⊢
      · cases hread
      · exact hrecord d.object hread

/-! ## Arrays -/

/-- What a client puts together that reads the number of elements and then each of them. -/
def reassemble (t : Target) (p : PropertyId) : Except ReadError Value := do
  match ← t.read p (some 0) with
  | .unsigned n => .list <$> (List.range' 1 n.toNat).mapM fun j => t.read p (some (.ofNat j))
  | _ => throw (.notAnArray p)

/-- Whether a property is read as an array with these elements: zero is the index of their number,
    the elements are numbered from one, and nothing is behind them. -/
structure ServesArray (t : Target) (p : PropertyId) (items : List Value) : Prop where
  count : t.read p (some 0) = .ok (.unsigned (.ofNat items.length))
  element : ∀ k (h : k < items.length), t.read p (some (.ofNat (k + 1))) = .ok items[k]
  behind : ∀ index : UInt32, items.length < index.toNat →
    t.read p (some index) = .error (.invalidIndex p index)
  reassembled : t.reassemble p = .ok (.list items)

/-- Whether a property of a target is an array: one that is configured, the properties of the
    target, or the objects of a device. A device never shows a list of objects from its table. -/
inductive HoldsArray : Target → PropertyId → List Value → Prop
  | stored {t : Target} {p : PropertyId} {items : List Value} (hidentity : p.isIdentity = false)
      (hlist : ∀ d, t = .device d → p ≠ .objectList)
      (h : t.record.properties.get? p = some (.list items)) : HoldsArray t p items
  | propertyList (t : Target) :
      HoldsArray t .propertyList (t.record.propertyList.map (.enumerated ·.code))
  | objectList (d : Device) : HoldsArray (.device d) .objectList (d.objectList.map .objectId)

theorem servesArray_of_read (h : t.read p none = .ok (.list items))
    (hlength : items.length < 0x100000000) : t.ServesArray p items := by
  have hread := read_of_read_none h
  have hcount : t.read p (some 0) = .ok (.unsigned (.ofNat items.length)) := by
    rw [hread, Value.select_list_zero hlength]
  have helement : ∀ k (hk : k < items.length),
      t.read p (some (.ofNat (k + 1))) = .ok items[k] := by
    intro k hk
    rw [hread]
    exact Value.select_list_succ (by omega) (List.getElem?_eq_getElem hk)
  refine ⟨hcount, helement, fun index hindex => ?_, ?_⟩
  · rw [hread, Value.select_list_of_lt hindex]
  · have hrow : (List.range' 1 items.length).mapM (fun j => t.read p (some (.ofNat j)))
        = .ok items := by
      refine mapM_range'_eq_ok 1 fun k hk => ?_
      rw [Nat.add_comm]
      exact helement k hk
    refine except_bind_eq_ok.2 ⟨_, hcount, ?_⟩
    dsimp only
    rw [UInt32.toNat_ofNat_of_lt' hlength]
    exact except_map_eq_ok.2 ⟨items, hrow, rfl⟩

/-- The arrays that can be read are those that are held. -/
theorem read_eq_list_iff : t.read p none = .ok (.list items) ↔ t.HoldsArray p items := by
  constructor
  · intro h
    have hrecord : ∀ o : Object, t.record = o → (∀ d, t = .device d → p ≠ .objectList) →
        o.read p none = .ok (.list items) → t.HoldsArray p items := by
      rintro o rfl hlist ho
      have hwhole := Object.whole?_of_read ho
      unfold Object.whole? at hwhole
      split_ifs at hwhole with hid hname htype hproperties
      · cases hwhole
      · cases hwhole
      · cases hwhole
      · cases hwhole
        exact hproperties ▸ .propertyList t
      · have hidentity : p.isIdentity = false := by
          simp [PropertyId.isIdentity, hid, hname, htype, hproperties]
        exact .stored hidentity hlist hwhole
    cases t with
    | object o =>
        refine hrecord o rfl ?_ h
        intro d hd
        cases hd
    | device d =>
        have hread : d.read p none = .ok (.list items) := h
        rw [Device.read] at hread
        split_ifs at hread with hlist
        · cases hread
          exact hlist ▸ .objectList d
        · exact hrecord d.object rfl (fun _ _ => hlist) hread
  · rintro (⟨hidentity, hlist, hstored⟩ | t | d)
    · have hrecord : t.record.read p none = .ok (.list items) := by
        simp only [PropertyId.isIdentity, Bool.or_eq_false_iff, beq_eq_false_iff_ne] at hidentity
        obtain ⟨⟨⟨hid, hname⟩, htype⟩, hproperties⟩ := hidentity
        rw [Object.read, Object.whole?, if_neg hid, if_neg hname, if_neg htype,
          if_neg hproperties, hstored]
        rfl
      cases t with
      | object o => exact hrecord
      | device d =>
          show d.read p none = _
          rw [Device.read, if_neg (hlist d rfl)]
          exact hrecord
    · cases t <;> rfl
    · rfl

/-- No schema has so many properties that their number would not be a word. -/
theorem length_propertyList_lt (t : Target) : t.record.propertyList.length < 0x100000000 := by
  have hspecs : ∀ s ∈ Schema.all, s.specs.length < 0x100000000 := by decide
  have hle : t.record.propertyList.length ≤ t.record.schema.specs.length := by
    rw [Object.propertyList, ← List.length_map (f := PropertySpec.property)]
    exact List.length_filter_le ..
  exact Nat.lt_of_le_of_lt hle (hspecs _ t.record.schema_mem)

/-- An array of fewer elements than there are words is served element by element, and those make up
    the whole of it again. What is no array is refused at every index, and what cannot be read is
    lacking at every index. The arrays are the configured ones, the properties of a target, which
    are always few enough, and the objects of a device. -/
theorem reads_elements (t : Target) (p : PropertyId) :
    (∀ items, t.read p none = .ok (.list items) → items.length < 0x100000000 →
      t.ServesArray p items) ∧
    (∀ v, t.read p none = .ok v → v.isList = false → ∀ index,
      t.read p (some index) = .error (.notAnArray p)) ∧
    (∀ e, t.read p none = .error e → e = .unknownProperty p ∧ ∀ index,
      t.read p (some index) = .error (.unknownProperty p)) ∧
    (∀ items, t.read p none = .ok (.list items) ↔ t.HoldsArray p items) ∧
    t.ServesArray .propertyList (t.record.propertyList.map (.enumerated ·.code)) := by
  refine ⟨fun items => servesArray_of_read, fun v hv hatom index => ?_, fun e he => ?_,
    fun items => read_eq_list_iff, ?_⟩
  · rw [read_of_read_none hv, Value.select_of_isList_eq_false hatom]
  · obtain ⟨rfl, hread⟩ := read_of_read_none_error he
    exact ⟨rfl, fun index => hread (some index)⟩
  · refine servesArray_of_read (read_eq_list_iff.2 (.propertyList t)) ?_
    rw [List.length_map]
    exact t.length_propertyList_lt

/-- An input with texts for its states, alone in a device: the texts, the two objects and the one
    property that the device shows are served by element, the name of the input is no array, and a
    location is lacking at every index. -/
theorem reads_elements_texts :
    let texts : List Value := [.characterString "on", .characterString "off"]
    let blank : Object := ⟨.ofParts .multiStateInput 3, "S1", .multiStateInput, .empty, rfl⟩
    let input := blank.configure .stateText (.list texts)
    let d : Device := ⟨⟨.ofParts .device 1, "plant", .device, .empty, rfl⟩, [input], .empty, .empty⟩
    (Target.object input).ServesArray .stateText texts ∧
    (Target.device d).ServesArray .objectList [.objectId d.id, .objectId input.id] ∧
    (Target.device d).ServesArray .propertyList [.enumerated PropertyId.objectList.code] ∧
    (Target.object input).read .objectName (some 0) = .error (.notAnArray .objectName) ∧
    (Target.device d).read .location (some 1) = .error (.unknownProperty .location) := by
  intro texts blank input d
  exact ⟨(reads_elements (.object input) .stateText).1 _ rfl (by decide),
    (reads_elements (.device d) .objectList).1 _ rfl (by decide),
    (reads_elements (.device d) .propertyList).2.2.2.2,
    (reads_elements (.object input) .objectName).2.1 _ rfl rfl 0,
    ((reads_elements (.device d) .location).2.2.1 _ rfl).2 1⟩

end Target

end Bacnet
