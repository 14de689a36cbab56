import Bacnet.Proofs.Template.Typing

set_option autoImplicit false

/-! # Templates that say the same

Two templates may spell their keys and the names of types in different ways and write numbers, truth
values and bits in different forms. If record by record they say the same (`Template.Agrees`), the
same device is built from both or none from either (`Template.Agrees.build_eq_ok_iff`): no step of
building sees more of a record than what it says. -/

namespace Bacnet

/-! ## Steps that end in the same or both fail -/

section Steps

variable {α β ε : Type}

theorem Concur.toOption_eq {P : α → Prop} {x x' : Except ε α} (h : Concur P x x') :
    x'.toOption = x.toOption := by
  cases h <;> rfl

theorem toOption_eq_some_iff {x : Except ε α} {a : α} : x.toOption = some a ↔ x = .ok a := by
  cases x with
  | error e => exact ⟨nofun, nofun⟩
  | ok b => exact ⟨fun h => by cases h; rfl, fun h => by cases h; rfl⟩

theorem toOption_bind_eq {x x' : Except ε α} {f f' : α → Except ε β}
    (hx : x'.toOption = x.toOption) (hf : ∀ a, x = .ok a → (f' a).toOption = (f a).toOption) :
    (x' >>= f').toOption = (x >>= f).toOption := by
  cases x with
  | error e =>
      cases x' with
      | error e' => rfl
      | ok a => cases hx
  | ok a =>
      cases x' with
      | error e' => cases hx
      | ok a' =>
          cases hx
          exact hf a rfl

theorem toOption_map_eq {x x' : Except ε α} {f : α → β} (hx : x'.toOption = x.toOption) :
    (f <$> x').toOption = (f <$> x).toOption := by
  rw [map_eq_pure_bind, map_eq_pure_bind]
  exact toOption_bind_eq hx fun _ _ => rfl

/-- Steps that go alike one by one go alike all together, as long as something holds between them
    that every step keeps. -/
theorem toOption_foldlM_eq {R : α → α → Prop} {P : β → Prop} {step : β → α → Except ε β}
    (hstep : ∀ b a a', P b → R a a' → (step b a').toOption = (step b a).toOption)
    (hkept : ∀ b a b', P b → step b a = .ok b' → P b') {as as' : List α}
    (h : List.Forall₂ R as as') {b : β} (hb : P b) :
    (as'.foldlM step b).toOption = (as.foldlM step b).toOption := by
  induction h generalizing b with
  | nil => rfl
  | cons hfirst _ ih =>
      rw [List.foldlM_cons, List.foldlM_cons]
      exact toOption_bind_eq (hstep b _ _ hb hfirst) fun b' hb' => ih (hkept b _ b' hb hb')

end Steps

/-! ## Records -/

/-- Records that say the same about an object with a schema. -/
inductive Schema.Agrees (s : Schema) (r r' : Record) : Prop
  | setting (habout : r'.about? = r.about?) (hsetting : r'.setting = r.setting)
  | identifier {n : Int} (habout : r.about? = some .identifier)
      (habout' : r'.about? = some .identifier) (h : r.setting.Says (.number n))
      (h' : r'.setting.Says (.number n))
  | property {p : PropertyId} {spec : PropertySpec} {sense : Sense}
      (habout : r.about? = some (.property p)) (habout' : r'.about? = some (.property p))
      (hspec : s.spec? p = some spec) (hsuits : sense.Suits spec.datatype)
      (h : r.setting.Says sense) (h' : r'.setting.Says sense)

namespace Schema

variable {s : Schema} {r r' : Record} {records records' : List Record} {o : Object}

theorem Agrees.toOption_add_eq (h : s.Agrees r r') (objectType : ObjectType)
    (identity : Identity) :
    (identity.add objectType r').toOption = (identity.add objectType r).toOption := by
  cases h with
  | setting habout hsetting =>
      rw [Record.about?, Record.about?] at habout
      unfold Identity.add
      rw [habout, hsetting]
      split
      · split <;> rfl
      · split
        · split <;> rfl
        · rfl
      · split
        · split <;> rfl
        · rfl
      · rfl
      · rfl
  | identifier habout habout' h h' => exact (Record.concur_add h h' habout habout').toOption_eq
  | property habout habout' _ _ _ _ =>
      rw [Record.about?] at habout habout'
      rw [Identity.add, Identity.add, habout, habout']

theorem Agrees.toOption_applyRecord_eq (ho : o.schema = s) (h : s.Agrees r r') :
    (o.applyRecord r').toOption = (o.applyRecord r).toOption := by
  subst ho
  cases h with
  | setting habout hsetting =>
      rw [Record.about?, Record.about?] at habout
      unfold Object.applyRecord
      rw [habout, hsetting]
      split
      · rfl
      · split
        · rfl
        · split
          · rfl
          · split <;> rfl
      all_goals rfl
  | identifier habout habout' _ _ =>
      rw [Record.about?] at habout habout'
      rw [Object.applyRecord, Object.applyRecord, habout, habout']
  | property habout habout' hspec hsuits h h' =>
      exact (Record.concur_applyRecord h h' habout habout' hspec hsuits).toOption_eq

theorem toOption_ofRecords_eq (h : List.Forall₂ s.Agrees records records')
    (objectType : ObjectType) : (Identity.ofRecords objectType records').toOption
      = (Identity.ofRecords objectType records).toOption := by
  refine toOption_foldlM_eq (P := fun _ => True) ?_ (fun _ _ _ _ _ => trivial) h trivial
  intro identity r r' _ hr
  exact hr.toOption_add_eq objectType identity

theorem toOption_applyRecords_eq (h : List.Forall₂ s.Agrees records records')
    (ho : o.schema = s) :
    (o.applyRecords records').toOption = (o.applyRecords records).toOption := by
  refine toOption_map_eq (toOption_foldlM_eq (P := fun o => o.schema = s) ?_ ?_ h ho)
  · intro o r r' ho hr
    exact hr.toOption_applyRecord_eq ho
  · intro o r o' ho hr
    exact (Object.applyRecord_eq_ok hr).2.1.schema.trans ho

end Schema

/-! ## Objects and devices -/

/-- Records of objects of one type whose properties are said alike. -/
structure ObjectRecord.Agrees (record record' : ObjectRecord) : Prop where
  type : record'.type? = record.type?
  properties : ∀ s, record.HasSchema s → List.Forall₂ s.Agrees record.properties record'.properties

theorem ObjectRecord.Agrees.toOption_build_eq {record record' : ObjectRecord}
    (h : record.Agrees record') : record'.build.toOption = record.build.toOption := by
  rw [build, build, h.type]
  split
  · rfl
  · next t htype =>
      obtain ⟨s, hs, rfl⟩ := type?_eq_some_iff.1 htype
      have hrecords := h.properties s hs
      refine toOption_bind_eq (Schema.toOption_ofRecords_eq hrecords _) fun identity _ => ?_
      refine toOption_bind_eq rfl fun ⟨n, name⟩ _ => toOption_bind_eq rfl fun o ho => ?_
      obtain ⟨blank, hblank, hnew⟩ := Object.exists_ofId hs.mem n name
      cases ho.symm.trans hblank
      exact Schema.toOption_applyRecords_eq hrecords hnew.schema

namespace Template

/-- Templates that say the same. -/
structure Agrees (t t' : Template) : Prop where
  device : List.Forall₂ Schema.device.Agrees t.device t'.device
  objects : List.Forall₂ ObjectRecord.Agrees t.objects t'.objects

namespace Agrees

variable {t t' : Template} (h : t.Agrees t')

include h

theorem toOption_buildDevice_eq : t'.buildDevice.toOption = t.buildDevice.toOption := by
  refine toOption_bind_eq (Schema.toOption_ofRecords_eq h.device _) fun identity hidentity => ?_
  refine toOption_bind_eq rfl fun ⟨n, name⟩ hresolve => toOption_bind_eq rfl fun d hd => ?_
  have hidentifies : Schema.device.Identifies t.device n name :=
    Identity.identifies_of_resolve hidentity hresolve
  obtain ⟨blank, hblank, -, hnew⟩ := Device.exists_ofInstance hidentifies.lt_wildcardInstance name
  cases hd.symm.trans hblank
  refine toOption_bind_eq (Schema.toOption_applyRecords_eq h.device hnew.schema) fun _ _ => rfl

theorem toOption_build_eq : t'.build.toOption = t.build.toOption := by
  refine toOption_bind_eq h.toOption_buildDevice_eq fun device _ => ?_
  refine toOption_foldlM_eq (P := fun _ => True) ?_ (fun _ _ _ _ _ => trivial) h.objects trivial
  intro d record record' _ hrecord
  exact toOption_bind_eq hrecord.toOption_build_eq fun _ _ => rfl

/-- Templates that say the same build the same device, or none. -/
theorem build_eq_ok_iff {d : Device} : t'.build = .ok d ↔ t.build = .ok d := by
  rw [← toOption_eq_some_iff, ← toOption_eq_some_iff, h.toOption_build_eq]

end Agrees

end Template

end Bacnet
