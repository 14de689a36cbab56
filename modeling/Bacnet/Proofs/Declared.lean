import Bacnet.Proofs.Template.Description
import Bacnet.Proofs.Value

set_option autoImplicit false

/-! # Answers have the declared datatype

The datatype of a property decides which application tag stands in front of its value, and of an
array in front of every element (`Datatype.admits`). A value comes out of a template by that
datatype, or is a default, or is computed, or stands for one that is missing, and in each case it is
of the datatype that is declared (`Target.Declares`). What a schema requires is never missing
(`Target.Typed.required`). -/

namespace Bacnet

/-! ## Tags -/

/-- The application tag in front of a value that is no list. -/
def Value.tag? : Value → Option AppTag
  | null => some .null
  | boolean _ => some .boolean
  | unsigned _ => some .unsignedInt
  | signed _ => some .signedInt
  | real _ => some .real
  | double _ => some .double
  | characterString _ => some .characterString
  | bitString _ => some .bitString
  | enumerated _ => some .enumerated
  | objectId _ => some .objectId
  | list _ => none

/-- What is written of a value that can be written starts with its tag. -/
theorem Value.exists_encode_eq {v : Value} {tag : AppTag} (htag : v.tag? = some tag)
    (h : v.Fits) :
    ∃ length contents, v.encode = (Tag.application tag length).encode ++ contents := by
  cases v with
  | list items => cases htag
  | null =>
      cases htag
      exact ⟨0, .empty, by rw [encode, Encoding.append_empty]⟩
  | boolean b =>
      cases htag
      exact ⟨b.toUInt32, .empty, by rw [encode, Encoding.append_empty]⟩
  | characterString text =>
      cases htag
      have hlength : (Octets.ofString text).length + 1 < 0x100000000 := h
      rw [encode, Contents.encodeText, Contents.encodeHeaded, if_pos hlength, Encoding.append_assoc]
      exact ⟨_, _, rfl⟩
  | bitString bits =>
      cases htag
      rw [encode, if_neg (UInt8.not_lt.2 h.1), Contents.encodeHeaded, if_pos h.2,
        Encoding.append_assoc]
      exact ⟨_, _, rfl⟩
  | _ =>
      cases htag
      exact ⟨_, _, rfl⟩

namespace Datatype

/-- The application tag of the values of a datatype that is no array. -/
def tag? : Datatype → Option AppTag
  | boolean => some .boolean
  | unsigned => some .unsignedInt
  | signed => some .signedInt
  | real => some .real
  | double => some .double
  | characterString => some .characterString
  | enumerated => some .enumerated
  | objectId => some .objectId
  | bitString => some .bitString
  | arrayOf _ => none

/-- Whether a value has the tag of a datatype, or is a list of values that have the tag of the
    elements. -/
def admits : Datatype → Value → Bool
  | arrayOf element, .list items => items.all element.admits
  | arrayOf _, _ => false
  | datatype, v => v.tag? == datatype.tag?

theorem admits_list {element : Datatype} {items : List Value}
    (h : ∀ item ∈ items, element.admits item = true) :
    (arrayOf element).admits (.list items) = true :=
  List.all_eq_true.2 h

theorem admits_emptyValue {datatype : Datatype} (h : datatype ≠ .objectId) :
    datatype.admits datatype.emptyValue = true := by
  cases datatype with
  | objectId => exact absurd rfl h
  | _ => rfl

end Datatype

/-! ## Values of a template -/

namespace Setting

variable {p : PropertyId} {setting : Setting} {datatype : Datatype} {v : Value}

theorem admits_of_toSimple? (h : setting.toSimple? p datatype = some v) :
    datatype.admits v = true := by
  unfold toSimple? at h
  cases datatype with
  | characterString =>
      cases setting with
      | text s => cases h; rfl
      | _ => cases h
  | objectId =>
      cases setting with
      | text s =>
          obtain ⟨id, -, rfl⟩ := Option.map_eq_some_iff.1 h
          rfl
      | _ => cases h
  | arrayOf element => cases h
  | _ =>
      obtain ⟨x, -, rfl⟩ := Option.map_eq_some_iff.1 h
      rfl

/-- A setting that is read by a datatype becomes a value of the datatype. -/
theorem admits_of_toValue (h : setting.toValue p datatype = .ok v) : datatype.admits v = true :=
  toValue_induction (motive := fun datatype v => datatype.admits v = true)
    (fun _ _ _ => admits_of_toSimple?) (fun _ _ => Datatype.admits_list) h

end Setting

theorem PropertySpec.admits_defaultValue : ∀ s ∈ Schema.all, ∀ spec ∈ s.specs,
    spec.property.isComputed = false → spec.datatype.admits spec.defaultValue = true := by
  decide +kernel

theorem PropertySpec.Admits.admits {s : Schema} (hs : s ∈ Schema.all) {spec : PropertySpec}
    (hspec : spec ∈ s.specs) (hcomputed : spec.property.isComputed = false) {v : Value}
    (h : spec.Admits v) : spec.datatype.admits v = true := by
  rcases h with rfl | ⟨setting, hsetting⟩
  · exact admits_defaultValue s hs spec hspec hcomputed
  · exact Setting.admits_of_toValue hsetting

/-! ## Declarations -/

namespace Schema

variable {s : Schema} {spec : PropertySpec}

/-- The datatype that is declared for a property: by the schema, or else by the first schema that
    has the property. -/
def declared? (s : Schema) (p : PropertyId) : Option Datatype :=
  ((s.spec? p).map (·.datatype)).or (datatype? p)

theorem declared?_of_mem (hs : s ∈ all) (hspec : spec ∈ s.specs) :
    s.declared? spec.property = some spec.datatype := by
  rw [declared?, (spec?_eq_some_iff hs).2 ⟨hspec, rfl⟩]
  rfl

/-- What identifies an object is declared alike in all schemas. -/
theorem identity_mem_specs : ∀ s ∈ all,
    must .objectIdentifier .objectId ∈ s.specs ∧
    must .objectName .characterString ∈ s.specs ∧
    must .objectType .enumerated ∈ s.specs ∧
    must .propertyList (.arrayOf .enumerated) ∈ s.specs := by
  decide

/-- Only devices list objects. -/
theorem isIdentity_of_isComputed : ∀ s ∈ all, s.objectType ≠ .device → ∀ spec ∈ s.specs,
    spec.property.isComputed = true → spec.property.isIdentity = true := by
  decide

end Schema

namespace Object

variable {o : Object} {p : PropertyId} {v : Value}

theorem whole?_of_read (h : o.read p none = .ok v) : o.whole? p = some v := by
  unfold read at h
  split at h
  · cases h
  · next w hw =>
      cases h
      exact hw

theorem error_eq_of_read {e : ReadError} (h : o.read p none = .error e) :
    e = .unknownProperty p := by
  unfold read at h
  split at h
  · cases h
    rfl
  · cases h

/-- What is read of an object is of the declared datatype. -/
theorem Configured.exists_declared (h : o.Configured) (hread : o.read p none = .ok v) :
    ∃ datatype, o.schema.declared? p = some datatype ∧ datatype.admits v = true := by
  obtain ⟨hid, hname, htype, hlist⟩ := Schema.identity_mem_specs o.schema o.schema_mem
  have hv := whole?_of_read hread
  unfold whole? at hv
  split_ifs at hv with hp hp hp hp
  · cases hv
    exact ⟨_, hp ▸ Schema.declared?_of_mem o.schema_mem hid, rfl⟩
  · cases hv
    exact ⟨_, hp ▸ Schema.declared?_of_mem o.schema_mem hname, rfl⟩
  · cases hv
    exact ⟨_, hp ▸ Schema.declared?_of_mem o.schema_mem htype, rfl⟩
  · cases hv
    refine ⟨_, hp ▸ Schema.declared?_of_mem o.schema_mem hlist,
      Datatype.admits_list fun w hw => ?_⟩
    obtain ⟨q, -, rfl⟩ := List.mem_map.1 hw
    rfl
  · obtain ⟨spec, hspec, rfl, hcomputed, hadmits⟩ := h p v hv
    exact ⟨_, Schema.declared?_of_mem o.schema_mem hspec,
      hadmits.admits o.schema_mem hspec hcomputed⟩

theorem exists_read_of_isIdentity (o : Object) (hp : p.isIdentity = true) :
    ∃ v, o.read p none = .ok v := by
  simp only [PropertyId.isIdentity, Bool.or_eq_true, beq_iff_eq] at hp
  rcases hp with ((rfl | rfl) | rfl) | rfl
  · exact ⟨_, rfl⟩
  · exact ⟨_, rfl⟩
  · exact ⟨_, rfl⟩
  · exact ⟨_, rfl⟩

/-- A required property is there, with its default if nothing else. -/
theorem Follows.exists_read {s : Schema} {records : List Record} (h : o.Follows s records)
    {spec : PropertySpec} (hspec : spec ∈ s.specs) (hcomputed : spec.property.isComputed = false)
    (hrequired : spec.required = true) : ∃ v, o.read spec.property none = .ok v := by
  have hread := h.outcome_read hspec hcomputed
  generalize o.read spec.property none = outcome at hread
  cases hread with
  | given _ _ => exact ⟨_, rfl⟩
  | default _ _ => exact ⟨_, rfl⟩
  | absent _ hoptional => exact nomatch hrequired.symm.trans hoptional

end Object

namespace Target

/-- Whether a value may be said to be that of a property: it is of the declared datatype. If none is
    declared, or the property is an identifier that the target lacks, it is the null value. -/
inductive Declares (target : Target) (p : PropertyId) : Value → Prop
  | typed {datatype : Datatype} {v : Value}
      (hdeclared : target.schema.declared? p = some datatype) (hv : datatype.admits v = true) :
      Declares target p v
  | undeclared (hnone : target.schema.declared? p = none) : Declares target p .null
  | absentId (hdeclared : target.schema.declared? p = some .objectId)
      (habsent : target.read p none = .error (.unknownProperty p)) : Declares target p .null

/-- What is read of a target is of the declared datatype, and what is required can be read. -/
structure Typed (target : Target) : Prop where
  declared : ∀ p v, target.read p none = .ok v →
    ∃ datatype, target.schema.declared? p = some datatype ∧ datatype.admits v = true
  absent : ∀ p e, target.read p none = .error e → e = .unknownProperty p
  required : ∀ spec ∈ target.schema.required, ∃ v, target.read spec.property none = .ok v

variable {target : Target}

/-- A question for a whole property has an answer of the declared datatype. -/
theorem Typed.exists_readOrEmpty (h : target.Typed) (p : PropertyId) :
    ∃ v, target.readOrEmpty p none = .ok v ∧ target.Declares p v := by
  cases hread : target.read p none with
  | ok v =>
      obtain ⟨datatype, hdeclared, hv⟩ := h.declared p v hread
      exact ⟨v, by rw [readOrEmpty, hread], .typed hdeclared hv⟩
  | error e =>
      cases h.absent p e hread
      refine ⟨target.schema.emptyValue p, by rw [readOrEmpty, hread], ?_⟩
      rw [Schema.emptyValue]
      cases hdeclared : target.schema.declared? p with
      | none =>
          rw [Schema.declared?] at hdeclared
          rw [hdeclared]
          exact .undeclared hdeclared
      | some datatype =>
          have hempty := hdeclared
          rw [Schema.declared?] at hempty
          rw [hempty, Option.elim_some]
          by_cases hid : datatype = .objectId
          · subst hid
            exact .absentId hdeclared hread
          · exact .typed hdeclared (Datatype.admits_emptyValue hid)

/-- The selector of what is required yields a value for each such property. -/
theorem Typed.exists_mem_elements (h : target.Typed) {refs : List PropertyReference}
    {index : Option UInt32} (href : ⟨.required, index⟩ ∈ refs) {spec : PropertySpec}
    (hspec : spec ∈ target.schema.required) (hlist : spec.property ≠ .propertyList) :
    ∃ v, ⟨⟨spec.property, none⟩, .ok v⟩ ∈ target.elements refs := by
  obtain ⟨hmem, hrequired⟩ := List.mem_filter.1 hspec
  obtain ⟨v, hv⟩ := h.required spec hspec
  have hselected : selects .required spec = true := by
    rw [selects, if_pos rfl, hrequired, Bool.and_true]
    exact bne_iff_ne.2 hlist
  have hexpanded : ⟨spec.property, none⟩ ∈ target.expand ⟨.required, index⟩ := by
    rw [expand, if_pos (by rfl)]
    exact List.mem_map.2 ⟨spec, List.mem_filter.2 ⟨hmem, hselected⟩, rfl⟩
  refine ⟨v, List.mem_flatMap.2 ⟨_, href, List.mem_filterMap.2 ⟨_, hexpanded, ?_⟩⟩⟩
  rw [element?, hv]

end Target

/-! ## Built devices -/

/-- What an identifier leads to is the device or an object that it owns. -/
theorem Device.mem_of_find? {d : Device} {id : ObjectId} {target : Target}
    (h : d.find? id = some target) : target = .device d ∨ ∃ o ∈ d.objects, target = .object o := by
  unfold find? at h
  split at h
  · cases h
    exact .inl rfl
  · obtain ⟨o, ho, rfl⟩ := Option.map_eq_some_iff.1 h
    obtain ⟨slot, -, ho⟩ := Option.bind_eq_some_iff.1 ho
    exact .inr ⟨o, List.mem_of_getElem? ho, rfl⟩

theorem ObjectRecord.Describes.typed {record : ObjectRecord} {o : Object}
    (h : record.Describes o) (hconfigured : o.Configured) : (Target.object o).Typed where
  declared _ _ := hconfigured.exists_declared
  absent _ _ := Object.error_eq_of_read
  required := by
    intro spec hspec
    obtain ⟨hmem, hrequired⟩ := List.mem_filter.1 hspec
    cases hcomputed : spec.property.isComputed with
    | true =>
        exact o.exists_read_of_isIdentity (Schema.isIdentity_of_isComputed _ h.hasSchema.mem
          h.hasSchema.ne_device spec hmem hcomputed)
    | false => exact h.follows.exists_read hmem hcomputed hrequired

theorem Template.Describes.typed {t : Template} {d : Device} (h : t.Describes d)
    (hconfigured : d.object.Configured) : (Target.device d).Typed where
  declared := by
    intro p v hv
    have hread : d.read p none = .ok v := hv
    rw [Device.read] at hread
    split_ifs at hread with hp
    · cases hread
      subst hp
      refine ⟨.arrayOf .objectId, ?_, Datatype.admits_list fun w hw => ?_⟩
      · rw [Target.schema, Target.record, h.device.schema]
        rfl
      · obtain ⟨id, -, rfl⟩ := List.mem_map.1 hw
        rfl
    · exact hconfigured.exists_declared hread
  absent := by
    intro p e he
    have hread : d.read p none = .error e := he
    rw [Device.read] at hread
    split_ifs at hread
    · cases hread
    · exact Object.error_eq_of_read hread
  required := by
    intro spec hspec
    obtain ⟨hmem, hrequired⟩ := List.mem_filter.1 hspec
    show ∃ v, d.read spec.property none = .ok v
    rw [Device.read]
    split_ifs with hp
    · exact ⟨_, rfl⟩
    · cases hcomputed : spec.property.isComputed with
      | true =>
          refine d.object.exists_read_of_isIdentity ?_
          rw [PropertyId.isComputed, Bool.or_eq_true, beq_iff_eq] at hcomputed
          exact hcomputed.resolve_right hp
      | false => exact h.device.exists_read (h.device.schema ▸ hmem) hcomputed hrequired

namespace Template

variable {t : Template} {d : Device} {id : ObjectId} {target : Target}

theorem typed_of_find? (h : t.build = .ok d) (hfind : d.find? id = some target) :
    target.Typed := by
  have hdescribes := describes_of_build h
  have hconfigured := configured_of_build h
  rcases Device.mem_of_find? hfind with rfl | ⟨o, ho, rfl⟩
  · exact hdescribes.typed hconfigured.1
  · obtain ⟨record, -, hrecord⟩ := exists_of_mem_of_forall₂ hdescribes.objects.flip ho
    exact hrecord.typed (hconfigured.2 o ho)

/-- A question for a whole property of a device that is built, or of an object that it owns, is
    always acknowledged with a value of the declared datatype. All required properties are there,
    and a question for all of them leaves out none but the list of properties. -/
theorem exists_readPropertyAck (h : t.build = .ok d) (hfind : d.find? id = some target) :
    (∀ requester p, ∃ v, d.replyToReadProperty requester ⟨id, p, none⟩
        = .readPropertyAck requester target.ownedName? ⟨⟨target.id, p, none⟩, v⟩ ∧
      target.Declares p v) ∧
    (∀ spec ∈ target.schema.required, ∃ v, target.read spec.property none = .ok v) ∧
    ∀ requester (q : ReadPropertyMultiple) refs index, ⟨id, refs⟩ ∈ q.specs →
      ⟨.required, index⟩ ∈ refs →
      ∃ a, d.replyToReadPropertyMultiple requester q = .readPropertyMultipleAck requester a ∧
        ∃ result ∈ a.results, result.objectId = target.id ∧
          ∀ spec ∈ target.schema.required, spec.property ≠ .propertyList →
            ∃ v, ⟨⟨spec.property, none⟩, .ok v⟩ ∈ result.elements := by
  have htyped := typed_of_find? h hfind
  refine ⟨fun requester p => ?_, htyped.required, fun requester q refs index hspec href => ?_⟩
  · obtain ⟨v, hv, hdeclares⟩ := htyped.exists_readOrEmpty p
    refine ⟨v, ?_, hdeclares⟩
    simp only [Device.replyToReadProperty, hfind, hv]
  · refine ⟨_, rfl, d.access ⟨id, refs⟩, List.mem_map_of_mem hspec, ?_, fun spec hspec hlist => ?_⟩
    · simp only [Device.access, hfind]
    · simp only [Device.access, hfind]
      exact htyped.exists_mem_elements href hspec hlist

/-- A device that has no texts of states answers with an array of none, also under the identifier
    that every device answers to, and tells its status among what is required. -/
theorem exists_readPropertyAck_wildcard :
    let id : ObjectId := ⟨0x023FFFFF⟩
    ∃ d, minimal.build = .ok d ∧ ∀ requester,
      (∃ v, d.replyToReadProperty requester ⟨id, .stateText, none⟩
          = .readPropertyAck requester none ⟨⟨d.id, .stateText, none⟩, v⟩ ∧
        (Datatype.arrayOf .characterString).admits v = true) ∧
      ∃ a, d.replyToReadPropertyMultiple requester ⟨[⟨id, [⟨.required, none⟩]⟩]⟩
          = .readPropertyMultipleAck requester a ∧
        ∃ result ∈ a.results, ∃ v, ⟨⟨.systemStatus, none⟩, .ok v⟩ ∈ result.elements := by
  intro id
  obtain ⟨d, hbuild, -⟩ := exists_build_minimal
  have hfind : d.find? id = some (.device d) := Device.find?_of_isDeviceWildcard (by decide)
  have hschema : (Target.device d).schema = .device := (describes_of_build hbuild).device.schema
  obtain ⟨hread, -, hmultiple⟩ := exists_readPropertyAck hbuild hfind
  refine ⟨d, hbuild, fun requester => ⟨?_, ?_⟩⟩
  · obtain ⟨v, hack, hdeclares⟩ := hread requester .stateText
    have hstateText : (Target.device d).schema.declared? .stateText
        = some (.arrayOf .characterString) := by
      rw [hschema]
      decide
    refine ⟨v, hack, ?_⟩
    cases hdeclares with
    | typed hdeclared hv =>
        cases hstateText.symm.trans hdeclared
        exact hv
    | undeclared hnone => exact nomatch hstateText.symm.trans hnone
    | absentId hdeclared => exact nomatch hstateText.symm.trans hdeclared
  · obtain ⟨a, hack, result, hresult, -, helements⟩ := hmultiple requester
      ⟨[⟨id, [⟨.required, none⟩]⟩]⟩ _ none (List.mem_singleton_self _) (List.mem_singleton_self _)
    have hstatus : Schema.must .systemStatus .enumerated ∈ (Target.device d).schema.required := by
      rw [hschema]
      decide
    exact ⟨a, hack, result, hresult, helements _ hstatus (by decide)⟩

end Template

end Bacnet
