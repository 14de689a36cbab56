import Bacnet.Proofs.Registry

set_option autoImplicit false

/-! # Registering one object after another

Objects are offered to a device in turn, and it takes some and refuses others. What it has at any
time then does not depend on how it came to it: identifiers and names differ, and each directory
holds one entry for each owned object and nothing else (`FullyIndexed.attempts`), so that looking
something up is the same as searching for it. Both checks stand in front of the first change, so a
refused offer leaves nothing behind (`registerInPlace_eq`), and an offer that is taken adds the
object behind all others. -/

namespace Bacnet

/-- A directory has one more entry behind a new key. -/
theorem Table.Indexes.size_set {κ : Type} [DecidableEq κ] {t : Table κ Nat} {keys : List κ}
    {key : κ} (h : t.Indexes keys) (hnew : key ∉ keys) (slot : Nat) :
    (t.set key slot).size = t.size + 1 := by
  have habsent : ¬ t.contains key = true := by
    rw [h.contains_iff]
    exact hnew
  rw [Table.size_set, if_neg habsent]

namespace Device

variable {d d' d₀ : Device} {o : Object}

/-! ## Offers -/

/-- Registering as it goes on in place: the two checks, then one directory after the other, and the
    list of the owned objects last. What a failing step left behind would stay. -/
def registerInPlace (o : Object) : EStateM ConfigError Device Unit := do
  let d ← get
  if o.id = d.id ∨ d.slotById.contains o.id then throw (.duplicateIdentifier o.id)
  if o.name = d.name ∨ d.slotByName.contains o.name then throw (.duplicateName o.name)
  let slot := d.objects.length
  modify fun d => { d with slotById := d.slotById.set o.id slot }
  modify fun d => { d with slotByName := d.slotByName.set o.name slot }
  modify fun d => { d with objects := d.objects ++ [o] }

/-- Registering in place is all or nothing. -/
theorem registerInPlace_eq (d : Device) (o : Object) :
    registerInPlace o d = match d.register o with
      | .ok d' => .ok () d'
      | .error e => .error e d := by
  have hget : (get : EStateM ConfigError Device Device) d = .ok d d := rfl
  unfold registerInPlace register
  show EStateM.bind get _ d = _
  rw [EStateM.bind, hget]
  by_cases hid : o.id = d.id ∨ d.slotById.contains o.id
  · simp only [if_pos hid]
    rfl
  · by_cases hname : o.name = d.name ∨ d.slotByName.contains o.name
    · simp only [if_neg hid, if_pos hname]
      rfl
    · simp only [if_neg hid, if_neg hname]
      rfl

/-- The device after an offer of an object, with the object or as it was. -/
def attempt (d : Device) (o : Object) : Device :=
  match registerInPlace o d with
  | .ok _ d' => d'
  | .error _ d' => d'

/-- The device after offers of objects in turn. -/
def attempts (d : Device) (os : List Object) : Device := os.foldl attempt d

theorem attempt_of_ok (h : d.register o = .ok d') : d.attempt o = d' := by
  rw [attempt, registerInPlace_eq, h]

theorem attempt_of_error {e : ConfigError} (h : d.register o = .error e) : d.attempt o = d := by
  rw [attempt, registerInPlace_eq, h]

/-- What an offer that is taken or refused preserves holds after any offers. -/
theorem attempts_preserves (P : Device → Prop)
    (hregister : ∀ d o d', P d → d.register o = .ok d' → P d') (os : List Object) (hd : P d) :
    P (d.attempts os) := by
  induction os generalizing d with
  | nil => exact hd
  | cons o os ih =>
      have hstep : P (d.attempt o) := by
        cases h : d.register o with
        | ok d' =>
            rw [attempt_of_ok h]
            exact hregister d o d' hd h
        | error e =>
            rw [attempt_of_error h]
            exact hd
      exact ih hstep

/-! ## Directories without a spare entry -/

/-- The directories are exact and have no more entries than there are owned objects. -/
structure FullyIndexed (d : Device) : Prop where
  indexed : d.Indexed
  size_slotById : d.slotById.size = d.objects.length
  size_slotByName : d.slotByName.size = d.objects.length

theorem fullyIndexed_of_ofInstance {n : UInt32} {name : String} (h : ofInstance n name = .ok d) :
    d.FullyIndexed := by
  obtain ⟨object, rfl⟩ := exists_eq_of_ofInstance h
  exact ⟨indexed_mk_nil object, rfl, rfl⟩

theorem FullyIndexed.register (h : d.FullyIndexed) (hregister : d.register o = .ok d') :
    d'.FullyIndexed := by
  obtain ⟨hid, hname, rfl⟩ := h.indexed.eq_of_register hregister
  refine ⟨h.indexed.register hregister, ?_, ?_⟩
  · have hnew : o.id ∉ d.objects.map (·.id) := fun hmem => hid (List.mem_cons_of_mem _ hmem)
    rw [h.indexed.ids.size_set hnew, h.size_slotById, List.length_append]
    rfl
  · have hnew : o.name ∉ d.objects.map (·.name) := fun hmem => hname (List.mem_cons_of_mem _ hmem)
    rw [h.indexed.names.size_set hnew, h.size_slotByName, List.length_append]
    rfl

theorem FullyIndexed.attempts (h : d.FullyIndexed) (os : List Object) :
    (d.attempts os).FullyIndexed :=
  attempts_preserves FullyIndexed (fun _ _ _ hd hregister => hd.register hregister) os h

/-! ## What holds between offers -/

/-- No identifier and no name is there twice, each directory has one entry for each owned object,
    which leads from its key to its place, and a lookup is a search. -/
structure IsRegistry (d : Device) : Prop where
  nodup_objectList : d.objectList.Nodup
  nodup_nameList : d.nameList.Nodup
  size_slotById : d.slotById.size = d.objects.length
  size_slotByName : d.slotByName.size = d.objects.length
  slotById_iff : ∀ id slot, d.slotById.get? id = some slot ↔
    ∃ o, d.objects[slot]? = some o ∧ o.id = id
  slotByName_iff : ∀ name slot, d.slotByName.get? name = some slot ↔
    ∃ o, d.objects[slot]? = some o ∧ o.name = name
  findByName?_eq : ∀ name, d.findByName? name = d.objects.find? (·.name == name)
  find?_eq : ∀ id, id ≠ d.id → id.isDeviceWildcard = false →
    d.find? id = (d.objects.find? (·.id == id)).map .object

theorem FullyIndexed.isRegistry (h : d.FullyIndexed) : d.IsRegistry where
  nodup_objectList := List.nodup_cons.2 ⟨h.indexed.id_notMem, h.indexed.ids.nodup⟩
  nodup_nameList := List.nodup_cons.2 ⟨h.indexed.name_notMem, h.indexed.names.nodup⟩
  size_slotById := h.size_slotById
  size_slotByName := h.size_slotByName
  slotById_iff := fun _ _ => h.indexed.ids.get?_eq_some_iff
  slotByName_iff := fun _ _ => h.indexed.names.get?_eq_some_iff
  findByName?_eq := h.indexed.findByName?_eq_find?
  find?_eq := by
    intro id hid hwildcard
    rw [h.indexed.find?_eq, if_neg (by simp [hid, hwildcard])]

/-! ## What an offer does -/

/-- An object is refused just if its identifier or its name is taken, the identifier being looked
    at first, and then the device is as it was. An object that is taken stands behind all others,
    where both directories lead to, and all else is as it was. -/
structure Offers (d : Device) (o : Object) : Prop where
  duplicateIdentifier_iff :
    d.register o = .error (.duplicateIdentifier o.id) ↔ o.id ∈ d.objectList
  duplicateName_iff : d.register o = .error (.duplicateName o.name) ↔
    o.id ∉ d.objectList ∧ o.name ∈ d.nameList
  refused_iff : (∃ e, d.register o = .error e) ↔ o.id ∈ d.objectList ∨ o.name ∈ d.nameList
  refused : ∀ e, d.register o = .error e →
    (e = .duplicateIdentifier o.id ∨ e = .duplicateName o.name) ∧ d.attempt o = d
  taken : ∀ d', d.register o = .ok d' → d.attempt o = d' ∧ d'.object = d.object ∧
    d'.objects = d.objects ++ [o] ∧
    (∀ id, d'.slotById.get? id =
      if o.id = id then some d.objects.length else d.slotById.get? id) ∧
    ∀ name, d'.slotByName.get? name =
      if o.name = name then some d.objects.length else d.slotByName.get? name

theorem Indexed.offers (h : d.Indexed) (o : Object) : d.Offers o where
  duplicateIdentifier_iff := by
    rw [h.register_eq]
    split_ifs with hid
    · simp [hid]
    · simp [hid]
    · simp [hid]
  duplicateName_iff := by
    rw [h.register_eq]
    split_ifs with hid hname
    · simp [hid]
    · simp [hid, hname]
    · simp [hid, hname]
  refused_iff := by
    rw [h.register_eq]
    split_ifs with hid hname
    · simp [hid]
    · simp [hid, hname]
    · simp [hid, hname]
  refused := by
    intro e he
    refine ⟨?_, attempt_of_error he⟩
    rw [h.register_eq] at he
    split_ifs at he with hid hname
    · cases he
      exact .inl rfl
    · cases he
      exact .inr rfl
  taken := by
    intro d' hregister
    have hattempt := attempt_of_ok hregister
    obtain ⟨-, -, rfl⟩ := h.eq_of_register hregister
    refine ⟨hattempt, rfl, rfl, fun id => ?_, fun name => ?_⟩
    · exact Table.get?_set ..
    · exact Table.get?_set ..

/-- A device that was made and then was offered any objects, and took some and refused others, is
    a registry, and so is what comes of any further offer. -/
theorem attempts_isRegistry {n : UInt32} {name : String} (h : ofInstance n name = .ok d₀)
    (os : List Object) :
    (d₀.attempts os).IsRegistry ∧ ∀ o, (d₀.attempts os).Offers o := by
  have hfully := (fullyIndexed_of_ofInstance h).attempts os
  exact ⟨hfully.isRegistry, hfully.indexed.offers⟩

/-- The second offer has the name of the device and the third the identifier of the first. -/
theorem attempts_isRegistry_two_taken :
    let os : List Object := [
      ⟨.ofParts .binaryInput 12, "BI 01", .binaryInput, .empty, by decide⟩,
      ⟨.ofParts .analogInput 14, "bacpot", .analogInput, .empty, by decide⟩,
      ⟨.ofParts .binaryInput 12, "BI 02", .binaryInput, .empty, by decide⟩,
      ⟨.ofParts .analogInput 14, "AI 01", .analogInput, .empty, by decide⟩]
    ∃ d₀, ofInstance 36113 "bacpot" = .ok d₀ ∧
      (d₀.attempts os).nameList = ["bacpot", "BI 01", "AI 01"] ∧ (d₀.attempts os).IsRegistry ∧
      ∀ o, o.id = .ofParts .binaryInput 12 → o.name = "AI 01" →
        (d₀.attempts os).register o = .error (.duplicateIdentifier o.id) := by
  intro os
  have hlisted : (ofInstance 36113 "bacpot").toOption.any (fun d₀ =>
      (d₀.attempts os).nameList == ["bacpot", "BI 01", "AI 01"] &&
      (d₀.attempts os).objectList.contains (.ofParts .binaryInput 12)) = true := by
    decide +kernel
  obtain ⟨d₀, hmade, hlisted⟩ := (Option.any_eq_true _ _).1 hlisted
  obtain ⟨hnames, hid⟩ := Bool.and_eq_true_iff.1 hlisted
  have h := Decode.eq_ok_of_toOption hmade
  obtain ⟨hregistry, hoffers⟩ := attempts_isRegistry h os
  refine ⟨d₀, h, beq_iff_eq.1 hnames, hregistry, fun o ho _ => ?_⟩
  apply (hoffers o).duplicateIdentifier_iff.2
  rw [ho]
  exact List.contains_iff_mem.1 hid

end Device

end Bacnet
