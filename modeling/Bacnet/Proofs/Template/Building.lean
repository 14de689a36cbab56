import Bacnet.Proofs.Template.Properties

set_option autoImplicit false

/-! # What is built from a template

An object is built just from records that are right and say which object it is (`Schema.Accepts`),
and it is what they say (`Object.Follows`). The objects of a template are built and registered in
order, so the device owns one object for each record, and that one is what the record describes
(`Template.describes_of_build`). When no object can be built from a record, the error says what is
wrong with the record (`ObjectRecord.fault_of_build`). -/

namespace Bacnet

namespace Schema

variable {s : Schema} {t : ObjectType} {records : List Record} {e : ConfigError}

/-! ## Types that a device can hold -/

theorem ofType?_eq_some_iff : ofType? t = some s ↔ s ∈ all ∧ s.objectType = t :=
  find?_key_eq_some_iff (by decide)

theorem code_lt : ∀ s ∈ all, s.objectType.code.toNat < 0x400 := by decide

/-! ## Records about one object -/

/-- Records that describe an object with the schema: they say its identifier and its name, and each
    of them is right. -/
structure Accepts (s : Schema) (records : List Record) : Prop where
  identifier : ∃ r ∈ records, r.about? = some .identifier
  name : ∃ r ∈ records, r.about? = some .name
  takes : ∀ r ∈ records, s.Takes r

/-- What is wrong with records about one object, and the error that says so. -/
inductive Fault (s : Schema) (records : List Record) : ConfigError → Prop
  | record {r : Record} {e : ConfigError} (hr : r ∈ records) (h : s.RecordFault r e) :
      Fault s records e
  | noIdentifier (hnone : ∀ r ∈ records, r.about? ≠ some .identifier) :
      Fault s records (.missingIdentifier s.objectType)
  | noName {n : UInt32} (hn : Record.instanceNumber? s.objectType records = some n)
      (hnone : ∀ r ∈ records, r.about? ≠ some .name) :
      Fault s records (.missingName (.ofParts s.objectType n))

theorem Fault.not_accepts (h : s.Fault records e) : ¬ s.Accepts records := by
  intro haccepts
  cases h with
  | record hr hfault => exact hfault.not_takes (haccepts.takes _ hr)
  | noIdentifier hnone =>
      obtain ⟨r, hr, habout⟩ := haccepts.identifier
      exact hnone r hr habout
  | noName _ hnone =>
      obtain ⟨r, hr, habout⟩ := haccepts.name
      exact hnone r hr habout

/-- If the first pass fails, something is wrong with the records. -/
theorem fault_of_ofRecords (h : Identity.ofRecords s.objectType records = .error e) :
    s.Fault records e := by
  obtain ⟨r, hr, hfault⟩ := Identity.ofRecords_eq_error h
  exact .record hr hfault

/-- So it is if they do not say enough. -/
theorem fault_of_resolve {identity : Identity}
    (h : Identity.ofRecords s.objectType records = .ok identity)
    (hresolve : identity.resolve s.objectType = .error e) : s.Fault records e := by
  obtain ⟨htakes, hinstance, hname⟩ := Identity.ofRecords_eq_ok h
  rcases Identity.resolve_eq_error hresolve with ⟨hnone, rfl⟩ | ⟨n, hn, hnone, rfl⟩
  · refine .noIdentifier fun r hr habout => ?_
    exact instanceNumber?_ne_none htakes ⟨r, hr, habout⟩ (hinstance.symm.trans hnone)
  · refine .noName (hinstance.symm.trans hn) fun r hr habout => ?_
    exact name?_ne_none htakes ⟨r, hr, habout⟩ (hname.symm.trans hnone)

end Schema

namespace Object

variable {s : Schema} {records : List Record} {n : UInt32} {name : String} {o o' : Object}

/-! ## Objects of their records -/

/-- An object of which nothing is said but what it is. -/
structure Blank (o : Object) (s : Schema) (n : UInt32) (name : String) : Prop where
  id : o.id = .ofParts s.objectType n
  name : o.name = name
  schema : o.schema = s
  defaulted : o.Defaulted

theorem exists_ofId (hs : s ∈ Schema.all) (n : UInt32) (name : String) :
    ∃ o, ofId (.ofParts s.objectType n) name = .ok o ∧ o.Blank s n name := by
  have htype : Schema.ofType? (ObjectId.ofParts s.objectType n).objectType = some s := by
    rw [ObjectId.objectType_ofParts (Schema.code_lt s hs)]
    exact Schema.ofType?_eq_some_iff.2 ⟨hs, rfl⟩
  cases hmade : ofId (.ofParts s.objectType n) name with
  | error e =>
      unfold ofId at hmade
      split at hmade
      · next hnone => exact nomatch htype.symm.trans hnone
      · cases hmade
  | ok o =>
      have hdefaulted := defaulted_of_ofId hmade
      unfold ofId at hmade
      split at hmade
      · cases hmade
      · next s' hs' =>
          cases htype.symm.trans hs'
          cases hmade
          exact ⟨_, rfl, rfl, rfl, rfl, hdefaulted⟩

theorem Blank.fillDefaults (h : o.Blank s n name) : o.fillDefaults.Blank s n name := by
  have hsame := sameIdentity_fillDefaults o
  exact ⟨hsame.id.trans h.id, hsame.name.trans h.name, hsame.schema.trans h.schema,
    h.defaulted.fillDefaults⟩

/-- An object with a schema that is what records say. -/
structure Follows (o : Object) (s : Schema) (records : List Record) : Prop where
  schema : o.schema = s
  accepts : s.Accepts records
  id : Record.id? s.objectType records = some o.id
  name : Record.name? records = some o.name
  get? : ∀ p, o.properties.get? p = (s.given? records p).or (s.default? p)

/-- The two passes together see all records. -/
theorem Blank.follows (ho : o.Blank s n name) (hidentifies : s.Identifies records n name)
    (h : o.applyRecords records = .ok o') : o'.Follows s records := by
  obtain ⟨hsame, htakes, hget⟩ := applyRecords_eq_ok ho.defaulted h
  rw [ho.schema] at htakes hget
  refine ⟨hsame.schema.trans ho.schema, ⟨?_, ?_, fun r hr => ?_⟩, ?_, ?_, hget⟩
  · exact hidentifies.exists_identifier
  · exact hidentifies.exists_name
  · cases habout : r.isAboutIdentity with
    | true => exact hidentifies.takes r hr habout
    | false => exact htakes r hr habout
  · rw [Record.id?, hidentifies.instanceNumber, hsame.id, ho.id]
    rfl
  · rw [hidentifies.name, hsame.name, ho.name]

/-- If the second pass fails, something is wrong with the records. -/
theorem Blank.fault_of_applyRecords {e : ConfigError} (ho : o.Blank s n name)
    (h : o.applyRecords records = .error e) : s.Fault records e := by
  obtain ⟨r, hr, hfault⟩ := applyRecords_eq_error h
  rw [ho.schema] at hfault
  exact .record hr hfault

end Object

namespace ObjectRecord

variable {record : ObjectRecord} {s s' : Schema} {o : Object} {e : ConfigError}

/-- A record is about an object with a schema, which is not the one of devices. -/
structure HasSchema (record : ObjectRecord) (s : Schema) : Prop where
  named : ObjectType.ofText? record.objectType.toList = some s.objectType
  mem : s ∈ Schema.all
  ne_device : s.objectType ≠ .device

theorem HasSchema.unique (h : record.HasSchema s) (h' : record.HasSchema s') : s = s' := by
  have htype := Option.some.inj (h.named.symm.trans h'.named)
  have hs := Schema.ofType?_eq_some_iff.2 ⟨h.mem, rfl⟩
  have hs' := Schema.ofType?_eq_some_iff.2 ⟨h'.mem, htype.symm⟩
  exact Option.some.inj (hs.symm.trans hs')

theorem type?_eq_some_iff {t : ObjectType} :
    record.type? = some t ↔ ∃ s, record.HasSchema s ∧ s.objectType = t := by
  rw [type?, Option.filter_eq_some_iff, Bool.and_eq_true, Option.isSome_iff_exists, bne_iff_ne]
  constructor
  · rintro ⟨hnamed, ⟨s, hs⟩, hne⟩
    obtain ⟨hmem, rfl⟩ := Schema.ofType?_eq_some_iff.1 hs
    exact ⟨s, ⟨hnamed, hmem, hne⟩, rfl⟩
  · rintro ⟨s, hs, rfl⟩
    exact ⟨hs.named, ⟨s, Schema.ofType?_eq_some_iff.2 ⟨hs.mem, rfl⟩⟩, hs.ne_device⟩

/-- The object that a record describes. -/
structure Describes (record : ObjectRecord) (o : Object) : Prop where
  hasSchema : record.HasSchema o.schema
  follows : o.Follows o.schema record.properties

theorem describes_of_build (h : record.build = .ok o) : record.Describes o := by
  unfold build at h
  split at h
  · cases h
  · next t htype =>
      obtain ⟨s, hs, rfl⟩ := type?_eq_some_iff.1 htype
      obtain ⟨identity, hidentity, h⟩ := except_bind_eq_ok.1 h
      obtain ⟨⟨n, name⟩, hresolve, h⟩ := except_bind_eq_ok.1 h
      obtain ⟨object, hobject, happly⟩ := except_bind_eq_ok.1 h
      obtain ⟨blank, hblank, hnew⟩ := Object.exists_ofId hs.mem n name
      cases hobject.symm.trans hblank
      have hfollows := hnew.follows (Identity.identifies_of_resolve hidentity hresolve) happly
      have hschema := hfollows.schema
      subst hschema
      exact ⟨hs, hfollows⟩

/-- What is wrong with the record of an object, and the error that says so. -/
inductive Fault (record : ObjectRecord) : ConfigError → Prop
  | unknownObjectType (hnone : ∀ s, ¬ record.HasSchema s) :
      Fault record (.unknownObjectType record.objectType)
  | records {s : Schema} {e : ConfigError} (hs : record.HasSchema s)
      (h : s.Fault record.properties e) : Fault record e

theorem fault_of_build (h : record.build = .error e) : record.Fault e := by
  unfold build at h
  split at h
  · next hnone =>
      cases h
      refine .unknownObjectType fun s hs => ?_
      exact nomatch hnone.symm.trans (type?_eq_some_iff.2 ⟨s, hs, rfl⟩)
  · next t htype =>
      obtain ⟨s, hs, rfl⟩ := type?_eq_some_iff.1 htype
      refine .records hs ?_
      rcases except_bind_eq_error.1 h with h | ⟨identity, hidentity, h⟩
      · exact Schema.fault_of_ofRecords h
      rcases except_bind_eq_error.1 h with hresolve | ⟨⟨n, name⟩, hresolve, h⟩
      · exact Schema.fault_of_resolve hidentity hresolve
      obtain ⟨blank, hblank, hnew⟩ := Object.exists_ofId hs.mem n name
      rcases except_bind_eq_error.1 h with hobject | ⟨object, hobject, happly⟩
      · exact nomatch hobject.symm.trans hblank
      cases hobject.symm.trans hblank
      exact hnew.fault_of_applyRecords happly

end ObjectRecord

/-! ## Devices of their records -/

/-- A device that owns nothing can be made with every number that it can be configured with. -/
theorem Device.exists_ofInstance {n : UInt32} (hn : n < ObjectId.wildcardInstance)
    (name : String) : ∃ d, ofInstance n name = .ok d ∧ d.objects = [] ∧
      d.object.Blank .device n name := by
  obtain ⟨object, hobject, hblank⟩ := Object.exists_ofId (s := .device) (by decide) n name
  refine ⟨⟨object.fillDefaults, [], .empty, .empty⟩, ?_, rfl, hblank.fillDefaults⟩
  rw [ofInstance, if_neg (UInt32.not_le.2 hn)]
  show (Object.ofId (.ofParts Schema.device.objectType n) name >>= _) = _
  rw [hobject]
  rfl

namespace Template

variable {t : Template} {d : Device} {e : ConfigError}

/-- The device that a template describes, with one object for each record, in order. -/
structure Describes (t : Template) (d : Device) : Prop where
  device : d.object.Follows .device t.device
  objects : List.Forall₂ ObjectRecord.Describes t.objects d.objects
  indexed : d.Indexed

theorem describes_of_buildDevice (h : t.buildDevice = .ok d) :
    (Template.mk t.device []).Describes d := by
  have hindexed := indexed_of_buildDevice h
  unfold buildDevice at h
  obtain ⟨identity, hidentity, h⟩ := except_bind_eq_ok.1 h
  obtain ⟨⟨n, name⟩, hresolve, h⟩ := except_bind_eq_ok.1 h
  obtain ⟨device, hdevice, h⟩ := except_bind_eq_ok.1 h
  obtain ⟨object, happly, h⟩ := except_bind_eq_ok.1 h
  cases h
  have hidentifies : Schema.device.Identifies t.device n name :=
    Identity.identifies_of_resolve hidentity hresolve
  obtain ⟨blank, hblank, hnone, hnew⟩ :=
    Device.exists_ofInstance hidentifies.lt_wildcardInstance name
  cases hdevice.symm.trans hblank
  refine ⟨hnew.follows hidentifies happly, ?_, hindexed⟩
  show List.Forall₂ _ [] device.objects
  rw [hnone]
  exact .nil

theorem Describes.addRecord {front : List ObjectRecord} {record : ObjectRecord} {d' : Device}
    (h : (Template.mk t.device front).Describes d) (hrecord : d.addRecord record = .ok d') :
    (Template.mk t.device (front ++ [record])).Describes d' := by
  have hindexed := h.indexed.addRecord hrecord
  obtain ⟨o, ho, hregister⟩ := except_bind_eq_ok.1 hrecord
  obtain ⟨-, -, rfl⟩ := h.indexed.eq_of_register hregister
  have hdescribes := ObjectRecord.describes_of_build ho
  exact ⟨h.device, List.rel_append h.objects (.cons hdescribes .nil), hindexed⟩

theorem describes_of_foldlM {front : List ObjectRecord} {d₀ : Device}
    (hdevice : t.buildDevice = .ok d₀) (h : front.foldlM Device.addRecord d₀ = .ok d) :
    (Template.mk t.device front).Describes d :=
  foldlM_history (fun front d => (Template.mk t.device front).Describes d)
    (describes_of_buildDevice hdevice) (fun _ _ _ _ hfront hrecord => hfront.addRecord hrecord)
    front h

/-- A device that is built is the one that its template describes. -/
theorem describes_of_build (h : t.build = .ok d) : t.Describes d := by
  obtain ⟨d₀, hdevice, h⟩ := except_bind_eq_ok.1 h
  exact describes_of_foldlM hdevice h

end Template

end Bacnet
