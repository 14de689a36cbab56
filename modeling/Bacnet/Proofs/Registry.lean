import Bacnet.Proofs.Template
import Mathlib.Data.List.Nodup

set_option autoImplicit false

/-! # What the directories of a device lead to

Each of the two directories leads from a key to the place of the one object that has it, and to
nothing from any other key (`Table.Indexes`). A new device owns nothing and has empty directories,
and an object is registered behind all others with an identifier and a name that are new, so both
directories stay exact in every device that is built and registered to (`Reachable.indexed`). Then
a lookup in a directory finds what a search through all objects would find
(`Indexes.bind_getElem?`). So the owned object that a question is answered with is the one that the
question names, and it is missed only if no owned object is named (`Indexed.owned?_eq_some_iff`). -/

namespace Bacnet

/-! ## Directories -/

/-- Where keys differ, a search for a key finds the one entry that has it. -/
theorem find?_key_eq_some_iff {α κ : Type} [BEq κ] [LawfulBEq κ] {f : α → κ} {as : List α}
    (h : (as.map f).Nodup) {k : κ} {a : α} :
    as.find? (f · == k) = some a ↔ a ∈ as ∧ f a = k := by
  constructor
  · intro hfind
    exact ⟨List.mem_of_find?_eq_some hfind, by simpa using List.find?_some hfind⟩
  · rintro ⟨ha, hk⟩
    -- The search ends at some entry with the key, and no other entry has it.
    obtain ⟨a', hfind⟩ : ∃ a', as.find? (f · == k) = some a' := by
      rw [← Option.isSome_iff_exists, List.find?_isSome]
      exact ⟨a, ha, beq_iff_eq.2 hk⟩
    have hk' : f a' = k := by simpa using List.find?_some hfind
    have hsame := List.inj_on_of_nodup_map h (List.mem_of_find?_eq_some hfind) ha
      (hk'.trans hk.symm)
    rw [hfind, hsame]

namespace Table

variable {κ : Type} [DecidableEq κ] {t : Table κ Nat} {keys : List κ} {key : κ}

/-- A directory of keys: it leads from a key to each place where the key is, and nowhere else. -/
def Indexes (t : Table κ Nat) (keys : List κ) : Prop :=
  ∀ key slot, t.get? key = some slot ↔ keys[slot]? = some key

theorem indexes_empty : (empty : Table κ Nat).Indexes [] := by
  intro key slot
  simp

theorem Indexes.contains_iff (h : t.Indexes keys) : t.contains key = true ↔ key ∈ keys := by
  rw [contains, Option.isSome_iff_exists, List.mem_iff_getElem?]
  exact exists_congr fun slot => h key slot

/-- A directory has one place for a key, so a key is there only once. -/
theorem Indexes.nodup (h : t.Indexes keys) : keys.Nodup := by
  rw [List.nodup_iff_getElem?_ne_getElem?]
  intro i j hij hj heq
  have hlate : keys[j]? = some keys[j] := List.getElem?_eq_getElem hj
  have hearly : keys[i]? = some keys[j] := heq.trans hlate
  have hsame : some i = some j := ((h _ _).2 hearly).symm.trans ((h _ _).2 hlate)
  exact absurd (Option.some.inj hsame) (Nat.ne_of_lt hij)

/-- A new key goes behind all others, and no other key moves. -/
theorem Indexes.set (h : t.Indexes keys) (hnew : key ∉ keys) :
    (t.set key keys.length).Indexes (keys ++ [key]) := by
  intro k slot
  rw [get?_set, List.getElem?_append]
  by_cases hslot : slot < keys.length
  · rw [if_pos hslot]
    by_cases hk : key = k
    · subst hk
      rw [if_pos rfl]
      constructor
      · intro hlast
        exact absurd (Option.some.inj hlast) (Nat.ne_of_gt hslot)
      · intro hkey
        exact absurd (List.mem_of_getElem? hkey) hnew
    · rw [if_neg hk]
      exact h k slot
  · rw [if_neg hslot, List.getElem?_singleton]
    by_cases hk : key = k
    · subst hk
      rw [if_pos rfl]
      constructor
      · intro hlast
        rw [← Option.some.inj hlast, Nat.sub_self, if_pos rfl]
      · intro hkey
        split at hkey
        · rw [Option.some_inj]
          omega
        · cases hkey
    · have hbehind : keys[slot]? = none := List.getElem?_eq_none (Nat.not_lt.1 hslot)
      rw [if_neg hk, h k slot, hbehind]
      simp [hk]

section Entries

variable {α : Type} {f : α → κ} {as : List α} (h : t.Indexes (as.map f))

include h

/-- A directory leads from a key to the places of the entries that have it. -/
theorem Indexes.get?_eq_some_iff {k : κ} {slot : Nat} :
    t.get? k = some slot ↔ ∃ a, as[slot]? = some a ∧ f a = k := by
  rw [h k slot, List.getElem?_map, Option.map_eq_some_iff]

/-- What a directory leads to is what a search through all entries finds. -/
theorem Indexes.bind_getElem? (k : κ) : (t.get? k).bind (as[·]?) = as.find? (f · == k) := by
  ext a
  rw [find?_key_eq_some_iff h.nodup, Option.bind_eq_some_iff]
  constructor
  · rintro ⟨slot, hslot, ha⟩
    obtain ⟨a', ha', hk⟩ := h.get?_eq_some_iff.1 hslot
    cases Option.some.inj (ha.symm.trans ha')
    exact ⟨List.mem_of_getElem? ha, hk⟩
  · rintro ⟨ha, hk⟩
    obtain ⟨slot, hslot⟩ := List.mem_iff_getElem?.1 ha
    exact ⟨slot, h.get?_eq_some_iff.2 ⟨a, hslot, hk⟩, hslot⟩

end Entries

end Table

/-- Whether an object is the one that a question names. -/
def Object.IsWanted (o : Object) : Wanted → Prop
  | .byId id => o.id = id
  | .byName name => o.name = name

namespace Device

/-- The names of all objects: the device first, then what it owns. -/
def nameList (d : Device) : List String := d.name :: d.objects.map (·.name)

/-! ## Exact directories -/

/-- Both directories are exact, and the device shares neither its identifier nor its name with an
    object that it owns. -/
structure Indexed (d : Device) : Prop where
  ids : d.slotById.Indexes (d.objects.map (·.id))
  names : d.slotByName.Indexes (d.objects.map (·.name))
  id_notMem : d.id ∉ d.objects.map (·.id)
  name_notMem : d.name ∉ d.objects.map (·.name)

/-- A new device owns nothing, and its directories are empty. -/
theorem exists_eq_of_ofInstance {n : UInt32} {name : String} {d : Device}
    (h : ofInstance n name = .ok d) : ∃ object, d = ⟨object, [], .empty, .empty⟩ := by
  unfold ofInstance at h
  split at h
  · cases h
  · obtain ⟨object, -, h⟩ := except_bind_eq_ok.1 h
    cases h
    exact ⟨_, rfl⟩

theorem indexed_mk_nil (object : Object) : (Device.mk object [] .empty .empty).Indexed where
  ids := Table.indexes_empty
  names := Table.indexes_empty
  id_notMem := List.not_mem_nil
  name_notMem := List.not_mem_nil

theorem indexed_of_ofInstance {n : UInt32} {name : String} {d : Device}
    (h : ofInstance n name = .ok d) : d.Indexed := by
  obtain ⟨object, rfl⟩ := exists_eq_of_ofInstance h
  exact indexed_mk_nil object

/-- With exact directories, an object is refused just if the device or an object that it owns has
    its identifier or its name, and the identifier is looked at first. -/
theorem Indexed.register_eq {d : Device} (h : d.Indexed) (o : Object) :
    d.register o =
      if o.id ∈ d.objectList then .error (.duplicateIdentifier o.id)
      else if o.name ∈ d.nameList then .error (.duplicateName o.name)
      else .ok { d with
        objects := d.objects ++ [o]
        slotById := d.slotById.set o.id d.objects.length
        slotByName := d.slotByName.set o.name d.objects.length } := by
  have hid : (o.id = d.id ∨ d.slotById.contains o.id = true) ↔ o.id ∈ d.objectList := by
    rw [h.ids.contains_iff, objectList, List.mem_cons]
  have hname : (o.name = d.name ∨ d.slotByName.contains o.name = true) ↔ o.name ∈ d.nameList := by
    rw [h.names.contains_iff, nameList, List.mem_cons]
  unfold Device.register
  simp only [hid, hname]

/-- An object with a new identifier and a new name goes behind all others. -/
theorem Indexed.eq_of_register {d d' : Device} (h : d.Indexed) {o : Object}
    (hregister : d.register o = .ok d') :
    o.id ∉ d.objectList ∧ o.name ∉ d.nameList ∧
      d' = { d with
        objects := d.objects ++ [o]
        slotById := d.slotById.set o.id d.objects.length
        slotByName := d.slotByName.set o.name d.objects.length } := by
  rw [h.register_eq] at hregister
  split_ifs at hregister with hid hname
  cases hregister
  exact ⟨hid, hname, rfl⟩

/-- So the directories stay exact. -/
theorem Indexed.register {d d' : Device} (h : d.Indexed) {o : Object}
    (hregister : d.register o = .ok d') : d'.Indexed := by
  obtain ⟨hid, hname, rfl⟩ := h.eq_of_register hregister
  rw [objectList, List.mem_cons, not_or] at hid
  rw [nameList, List.mem_cons, not_or] at hname
  have hids := h.ids.set hid.2
  have hnames := h.names.set hname.2
  rw [List.length_map] at hids hnames
  refine { ids := ?_, names := ?_, id_notMem := ?_, name_notMem := ?_ }
  · rw [List.map_append]
    exact hids
  · rw [List.map_append]
    exact hnames
  · rw [List.map_append, List.mem_append, not_or]
    exact ⟨h.id_notMem, fun hlast => hid.1 (List.mem_singleton.1 hlast).symm⟩
  · rw [List.map_append, List.mem_append, not_or]
    exact ⟨h.name_notMem, fun hlast => hname.1 (List.mem_singleton.1 hlast).symm⟩

theorem Indexed.addRecord {d d' : Device} (h : d.Indexed) {record : ObjectRecord}
    (hrecord : d.addRecord record = .ok d') : d'.Indexed := by
  obtain ⟨o, -, hregister⟩ := except_bind_eq_ok.1 hrecord
  exact h.register hregister

end Device

namespace Template

variable {t : Template} {d : Device}

theorem indexed_of_buildDevice (h : t.buildDevice = .ok d) : d.Indexed := by
  unfold buildDevice at h
  obtain ⟨identity, -, h⟩ := except_bind_eq_ok.1 h
  obtain ⟨⟨n, name⟩, -, h⟩ := except_bind_eq_ok.1 h
  obtain ⟨device, hdevice, h⟩ := except_bind_eq_ok.1 h
  obtain ⟨object, -, h⟩ := except_bind_eq_ok.1 h
  cases h
  obtain ⟨-, rfl⟩ := Device.exists_eq_of_ofInstance hdevice
  exact Device.indexed_mk_nil object

/-- A device that is built has exact directories. -/
theorem indexed_of_build (h : t.build = .ok d) : d.Indexed := by
  obtain ⟨device, hdevice, h⟩ := except_bind_eq_ok.1 h
  exact foldlM_preserves Device.Indexed (fun _ _ _ hd hadd => Device.Indexed.addRecord hd hadd)
    t.objects (indexed_of_buildDevice hdevice) h

end Template

namespace Device

variable {d : Device} {wanted : Wanted} {o : Object}

/-! ## Devices in use -/

/-- A device that was made, alone or from a template, and then had objects registered. -/
inductive Reachable : Device → Prop where
  | ofInstance {n : UInt32} {name : String} {d : Device} :
      ofInstance n name = .ok d → Reachable d
  | build {t : Template} {d : Device} : t.build = .ok d → Reachable d
  | register {d d' : Device} {o : Object} : Reachable d → d.register o = .ok d' → Reachable d'

theorem Reachable.indexed (h : d.Reachable) : d.Indexed := by
  induction h with
  | ofInstance hmade => exact indexed_of_ofInstance hmade
  | build hbuild => exact Template.indexed_of_build hbuild
  | register _ hregister ih => exact ih.register hregister

/-! ## Owned objects -/

/-- Every name in the directory leads to an object with that name. -/
def NamesIndexed (d : Device) : Prop :=
  ∀ name slot, d.slotByName.get? name = some slot →
    ∃ o, d.objects[slot]? = some o ∧ o.name = name

theorem NamesIndexed.isWanted_of_owned? (h : d.NamesIndexed) (ho : d.owned? wanted = some o) :
    o.IsWanted wanted := by
  cases wanted with
  | byId id =>
      have hfind : d.objects.find? (·.id == id) = some o := ho
      exact eq_of_beq (by simpa using List.find?_some hfind)
  | byName name =>
      obtain ⟨slot, hslot, ho⟩ := Option.bind_eq_some_iff.1 ho
      obtain ⟨o', ho', hname⟩ := h name slot hslot
      cases Option.some.inj (ho.symm.trans ho')
      exact hname

theorem Indexed.namesIndexed (h : d.Indexed) : d.NamesIndexed :=
  fun _ _ hslot => h.names.get?_eq_some_iff.1 hslot

/-- The directory of names finds what a search through the owned objects would find. -/
theorem Indexed.findByName?_eq_find? (h : d.Indexed) (name : String) :
    d.findByName? name = d.objects.find? (·.name == name) := h.names.bind_getElem? name

/-- So does the directory of identifiers, behind the two identifiers of the device itself. -/
theorem Indexed.find?_eq (h : d.Indexed) (id : ObjectId) :
    d.find? id = if id = d.id ∨ id.isDeviceWildcard then some (.device d)
      else (d.objects.find? (·.id == id)).map .object := by
  rw [Device.find?, h.ids.bind_getElem?]

/-- The object that a question is answered with is the owned one that it names. -/
theorem Indexed.owned?_eq_some_iff (h : d.Indexed) :
    d.owned? wanted = some o ↔ o ∈ d.objects ∧ o.IsWanted wanted := by
  cases wanted with
  | byId id => exact find?_key_eq_some_iff h.ids.nodup
  | byName name =>
      rw [owned?, h.findByName?_eq_find?]
      exact find?_key_eq_some_iff h.names.nodup

/-- The device itself is not among the objects that it announces. -/
theorem Indexed.not_isWanted_self (h : d.Indexed) (ho : o ∈ d.objects)
    (hself : wanted = .byId d.id ∨ wanted = .byName d.name) : ¬ o.IsWanted wanted := by
  intro hwanted
  rcases hself with rfl | rfl
  · exact h.id_notMem (List.mem_map.2 ⟨o, ho, hwanted⟩)
  · exact h.name_notMem (List.mem_map.2 ⟨o, ho, hwanted⟩)

end Device

/-- In a device that is built every name leads to an object with that name. -/
theorem Template.namesIndexed_of_build {t : Template} {d : Device} (h : t.build = .ok d) :
    d.NamesIndexed :=
  (indexed_of_build h).namesIndexed

end Bacnet
