import Bacnet.Reply.Reading
import Mathlib.Data.List.Forall2

set_option autoImplicit false

/-! # One question and many agree

The reply to a question for many properties is put together from what each reference contributes
alone (`access_eq`), and that is what the reply to the question for this one property says: its
error as an element, its value as an element, or nothing when the value only stands for a property
that the object lacks (`AgreesWith`). -/

namespace Bacnet

/-! ## Properties that are lacking -/

theorem Value.select_ne_unknownProperty (v : Value) (p q : PropertyId) (index : Option UInt32) :
    v.select p index ≠ .error (.unknownProperty q) := by
  unfold select
  intro h
  split at h
  · cases h
  · split at h
    · cases h
    · split at h
      · cases h
      · split at h <;> cases h

/-- A reading fails for a lacking property only if it is for that property. -/
theorem Target.eq_of_read_eq_unknownProperty {t : Target} {p q : PropertyId}
    {index : Option UInt32} (h : t.read p index = .error (.unknownProperty q)) : q = p := by
  have hrecord : ∀ o : Object, o.read p index = .error (.unknownProperty q) → q = p := by
    intro o ho
    unfold Object.read at ho
    split at ho
    · cases ho; rfl
    · exact absurd ho (Value.select_ne_unknownProperty _ _ _ _)
  cases t with
  | object o => exact hrecord o h
  | device d =>
      simp only [read, Device.read] at h
      split at h
      · exact absurd h (Value.select_ne_unknownProperty _ _ _ _)
      · exact hrecord d.object h

namespace Device

variable (d : Device)

/-! ## Contributions -/

/-- What a reference contributes to the result for an object. -/
def contribution (id : ObjectId) (ref : PropertyReference) : List AccessElement :=
  (d.access ⟨id, [ref]⟩).elements

theorem contribution_of_find?_eq_some {id : ObjectId} {t : Target} (h : d.find? id = some t) :
    d.contribution id = fun ref => (t.expand ref).filterMap t.element? := by
  funext ref
  simp [contribution, access, h, Target.elements]

theorem contribution_of_find?_eq_none {id : ObjectId} (h : d.find? id = none) :
    d.contribution id = fun ref => [⟨ref, .error unknownObject⟩] := by
  funext ref
  simp [contribution, access, h]

/-- A result names the object that was found, and lists what each reference contributes. -/
theorem access_eq (spec : AccessSpec) : d.access spec =
    ⟨(d.find? spec.objectId).elim spec.objectId Target.id,
      spec.references.flatMap (d.contribution spec.objectId)⟩ := by
  cases h : d.find? spec.objectId with
  | some t =>
      rw [contribution_of_find?_eq_some d h]
      simp only [access, h, Option.elim_some, Target.elements]
  | none =>
      rw [contribution_of_find?_eq_none d h, ← List.map_eq_flatMap]
      simp only [access, h, Option.elim_none]

/-- What a reference to a property that is no selector contributes is what comes of reading it. -/
theorem contribution_of_isSelector_eq_false {id : ObjectId} {t : Target}
    (h : d.find? id = some t) {ref : PropertyReference} (href : ref.property.isSelector = false) :
    d.contribution id ref = (t.element? ref).toList := by
  rw [contribution_of_find?_eq_some d h]
  simp only [Target.expand, href, Bool.false_eq_true, ↓reduceIte]
  cases ht : t.element? ref <;> simp [ht]

/-! ## Acknowledged values -/

/-- Whoever asks for a property under an identifier is told a value of it, by a target. -/
def Tells (id : ObjectId) (target : Target) (p : PropertyId) (index : Option UInt32) (v : Value) :
    Prop :=
  ∀ requester, d.replyToReadProperty requester ⟨id, p, index⟩
    = .readPropertyAck requester target.ownedName? ⟨⟨target.id, p, index⟩, v⟩

theorem tells_of_read {id : ObjectId} {target : Target} (hfind : d.find? id = some target)
    {p : PropertyId} {index : Option UInt32} {v : Value} (h : target.read p index = .ok v) :
    d.Tells id target p index v := by
  intro requester
  simp only [replyToReadProperty, hfind, Target.readOrEmpty, h]

/-! ## Agreement -/

/-- What a reference to an object contributes is what the reply to the question for the property
    says. A selector is a reference to one property only where no object is found. -/
def AgreesWith (id : ObjectId) (ref : PropertyReference) : Reply → Prop
  | .error e => ref.property.isSelector = false ∨ d.find? id = none →
      d.contribution id ref = [⟨ref, .error ⟨e.errorClass, e.errorCode⟩⟩]
  | .readPropertyAck _ _ a => ∃ t, d.find? id = some t ∧
      a.reference = ⟨t.id, ref.property, ref.index⟩ ∧ (ref.property.isSelector = false →
        t.read ref.property ref.index = .ok a.value ∧
            d.contribution id ref = [⟨ref, .ok a.value⟩] ∨
          t.read ref.property ref.index = .error (.unknownProperty ref.property) ∧
            a.value = t.schema.emptyValue ref.property ∧ d.contribution id ref = [])
  | _ => False

theorem agreesWith_replyToReadProperty (requester : Requester) (id : ObjectId)
    (ref : PropertyReference) :
    d.AgreesWith id ref (d.replyToReadProperty requester ⟨id, ref.property, ref.index⟩) := by
  unfold replyToReadProperty
  cases h : d.find? id with
  | none =>
      intro _
      rw [contribution_of_find?_eq_none d h]
      rfl
  | some t =>
      cases hread : t.read ref.property ref.index with
      | ok value =>
          simp only [Target.readOrEmpty, hread]
          refine ⟨t, h, rfl, fun href => .inl ⟨hread, ?_⟩⟩
          rw [contribution_of_isSelector_eq_false d h href, Target.element?, hread]
          rfl
      | error e =>
          simp only [Target.readOrEmpty, hread]
          -- The only failure that one reply hides in an empty value and the other leaves out.
          cases e with
          | unknownProperty q =>
              obtain rfl := Target.eq_of_read_eq_unknownProperty hread
              refine ⟨t, h, rfl, fun href => .inr ⟨hread, rfl, ?_⟩⟩
              rw [contribution_of_isSelector_eq_false d h href, Target.element?, hread]
              rfl
          | notAnArray q =>
              intro href
              rw [contribution_of_isSelector_eq_false d h (href.resolve_right (by simp [h])),
                Target.element?, hread]
              rfl
          | invalidIndex q index =>
              intro href
              rw [contribution_of_isSelector_eq_false d h (href.resolve_right (by simp [h])),
                Target.element?, hread]
              rfl

/-- A question for many properties is acknowledged with a result for each of its objects in order,
    which lists in order what the references contribute; and each contribution agrees with the
    reply to the question for the one property. -/
theorem replyToReadPropertyMultiple_agrees (requester : Requester) (q : ReadPropertyMultiple) :
    (∃ results, d.replyToReadPropertyMultiple requester q
        = .readPropertyMultipleAck requester ⟨results⟩ ∧
      List.Forall₂ (fun spec result =>
        result.objectId = (d.find? spec.objectId).elim spec.objectId Target.id ∧
        result.elements = spec.references.flatMap (d.contribution spec.objectId))
        q.specs results) ∧
    ∀ (id : ObjectId) (ref : PropertyReference), d.AgreesWith id ref
      (d.replyToReadProperty requester ⟨id, ref.property, ref.index⟩) := by
  refine ⟨⟨q.specs.map d.access, rfl, ?_⟩, d.agreesWith_replyToReadProperty requester⟩
  rw [List.forall₂_map_right_iff, List.forall₂_same]
  intro spec _
  rw [access_eq]
  exact ⟨rfl, rfl⟩

end Device

end Bacnet
