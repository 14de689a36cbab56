import Bacnet.Proofs.Registration
import Bacnet.Reply.Discovery
import Bacnet.Reply.Reading

set_option autoImplicit false

/-! # What listed identifiers lead to

A device lists its own identifier and those of the objects it owns, and announces each object under
the identifier that is listed. A question for a property that is addressed to a listed identifier
reaches what is listed (`Indexed.find?_of_mem`), with one exception: the identifier that every
device answers to leads to the device, also if an object was registered with it
(`find?_of_isDeviceWildcard`). No device is made with that identifier, but registering does not
refuse it. For all other identifiers the answer is made of nothing but the object that is listed
(`replyToReadProperty_of_find?`). -/

namespace Bacnet

/-! ## Identifiers made of parts -/

namespace ObjectId

theorem toNat_and_wildcardInstance (n : UInt32) :
    (n &&& wildcardInstance).toNat = n.toNat % 0x400000 := by
  rw [UInt32.toNat_and]
  exact Nat.and_two_pow_sub_one_eq_mod n.toNat 22

theorem instanceNumber_ofParts (t : ObjectType) (n : UInt32) :
    (ofParts t n).instanceNumber = n &&& wildcardInstance := by
  -- The type stands above the instance number, so it is masked away.
  have htype : (t.code.toUInt32 &&& 0x3FF) <<< 22 &&& wildcardInstance = 0 := by
    apply UInt32.toNat_inj.1
    rw [toNat_and_wildcardInstance, UInt32.toNat_shiftLeft]
    show (_ <<< 22 % 2 ^ 32) % 0x400000 = 0
    rw [Nat.shiftLeft_eq]
    omega
  have hmask : n &&& wildcardInstance &&& wildcardInstance = n &&& wildcardInstance := by
    rw [UInt32.and_assoc, UInt32.and_self]
  calc (ofParts t n).instanceNumber
      = ((t.code.toUInt32 &&& 0x3FF) <<< 22 &&& wildcardInstance)
          ||| (n &&& wildcardInstance &&& wildcardInstance) :=
        UInt32.toBitVec_inj.1 BitVec.and_or_distrib_right
    _ = n &&& wildcardInstance := by rw [htype, hmask, UInt32.zero_or]

/-- The type of an identifier is the one that it was made of, if that fits its ten bits. -/
theorem objectType_ofParts {t : ObjectType} (ht : t.code.toNat < 0x400) (n : UInt32) :
    (ofParts t n).objectType = t := by
  have hcode : (t.code.toUInt32 &&& 0x3FF).toNat = t.code.toNat := by
    rw [UInt32.toNat_and, UInt16.toNat_toUInt32]
    exact (Nat.and_two_pow_sub_one_eq_mod _ 10).trans (Nat.mod_eq_of_lt ht)
  have hinstance := toNat_and_wildcardInstance n
  -- The instance number is shifted out, and nothing of the type was cut off on the way up.
  have hraw : ((ofParts t n).raw >>> 22).toNat = t.code.toNat := by
    rw [UInt32.toNat_shiftRight, ofParts, UInt32.toNat_or, UInt32.toNat_shiftLeft, hcode, hinstance]
    show (t.code.toNat <<< 22 % 2 ^ 32 ||| n.toNat % 0x400000) >>> 22 = _
    rw [Nat.shiftRight_or_distrib, Nat.shiftLeft_eq, Nat.shiftRight_eq_div_pow,
      Nat.shiftRight_eq_div_pow, Nat.mod_eq_of_lt (by omega), Nat.mul_div_cancel _ (by decide),
      Nat.div_eq_of_lt (Nat.mod_lt _ (by decide)), Nat.or_zero]
  have htype : ((ofParts t n).raw >>> 22).toUInt16 = t.code := by
    apply UInt16.toNat_inj.1
    rw [UInt32.toNat_toUInt16, hraw]
    exact Nat.mod_eq_of_lt t.code.toNat_lt
  rw [objectType, htype]

theorem isDeviceWildcard_ofParts_of_lt {t : ObjectType} {n : UInt32} (h : n < wildcardInstance) :
    (ofParts t n).isDeviceWildcard = false := by
  have hcut : (n &&& wildcardInstance).toNat ≤ n.toNat := by
    rw [toNat_and_wildcardInstance]
    exact Nat.mod_le ..
  have hne : n &&& wildcardInstance ≠ wildcardInstance := by
    intro heq
    rw [heq] at hcut
    exact Nat.not_lt.2 hcut (UInt32.lt_iff_toNat_lt.1 h)
  rw [isDeviceWildcard, instanceNumber_ofParts, beq_eq_false_iff_ne.2 hne, Bool.and_false]

end ObjectId

namespace Object

theorem id_fillDefault (o : Object) (spec : PropertySpec) : (o.fillDefault spec).id = o.id := by
  unfold fillDefault
  split <;> rfl

theorem id_foldl_fillDefault (specs : List PropertySpec) (o : Object) :
    (specs.foldl fillDefault o).id = o.id := by
  induction specs generalizing o with
  | nil => rfl
  | cons spec specs ih => rw [List.foldl_cons, ih, id_fillDefault]

theorem id_of_ofId {id : ObjectId} {name : String} {o : Object} (h : ofId id name = .ok o) :
    o.id = id := by
  unfold ofId at h
  split at h
  · cases h
  · cases h
    rfl

/-- The answer to a question for a property of an object, made of nothing but the object. -/
def answer (o : Object) (requester : Requester) (p : PropertyId) (index : Option UInt32) : Reply :=
  match o.read p index with
  | .ok value => .readPropertyAck requester (some o.name) ⟨⟨o.id, p, index⟩, value⟩
  | .error (.unknownProperty q) =>
    .readPropertyAck requester (some o.name) ⟨⟨o.id, p, index⟩, o.schema.emptyValue q⟩
  | .error e => .errorOf requester ReadProperty.service e.errorClass e.errorCode

end Object

namespace Device

variable {d d₀ : Device} {id : ObjectId} {o : Object} {n : UInt32} {name : String}

/-! ## The identifier of a device -/

theorem id_of_ofInstance (h : ofInstance n name = .ok d) :
    d.id = .ofParts .device n ∧ n < ObjectId.wildcardInstance := by
  unfold ofInstance at h
  split at h
  · cases h
  · next hinstance =>
      obtain ⟨object, hobject, h⟩ := except_bind_eq_ok.1 h
      cases h
      refine ⟨?_, UInt32.not_le.1 hinstance⟩
      exact (Object.id_foldl_fillDefault _ _).trans (Object.id_of_ofId hobject)

/-- No device is made with the identifier that every device answers to. -/
theorem isDeviceWildcard_id_of_ofInstance (h : ofInstance n name = .ok d) :
    d.id.isDeviceWildcard = false := by
  obtain ⟨hid, hinstance⟩ := id_of_ofInstance h
  rw [hid]
  exact ObjectId.isDeviceWildcard_ofParts_of_lt hinstance

theorem object_attempts (d : Device) (os : List Object) : (d.attempts os).object = d.object := by
  refine attempts_preserves (fun d' => d'.object = d.object) ?_ os rfl
  intro d₁ o d₂ hd hregister
  unfold register at hregister
  split_ifs at hregister
  cases hregister
  exact hd

/-! ## Listed identifiers -/

theorem find?_of_isDeviceWildcard (h : id.isDeviceWildcard = true) :
    d.find? id = some (.device d) := if_pos (.inr h)

theorem find?_id (d : Device) : d.find? d.id = some (.device d) := if_pos (.inl rfl)

theorem Indexed.find?_of_mem (hd : d.Indexed) (ho : o ∈ d.objects)
    (hwildcard : o.id.isDeviceWildcard = false) : d.find? o.id = some (.object o) := by
  have hother : o.id ≠ d.id := fun hid => hd.id_notMem (List.mem_map.2 ⟨o, ho, hid⟩)
  have hsearch : d.objects.find? (·.id == o.id) = some o :=
    (find?_key_eq_some_iff hd.ids.nodup).2 ⟨ho, rfl⟩
  rw [hd.find?_eq, if_neg (by simp [hother, hwildcard]), hsearch]
  rfl

/-- What is said of a property of the object that an identifier leads to. -/
theorem replyToReadProperty_of_find? (h : d.find? id = some (.object o)) (hid : o.id = id)
    (requester : Requester) (p : PropertyId) (index : Option UInt32) :
    d.replyToReadProperty requester ⟨id, p, index⟩ = o.answer requester p index := by
  subst hid
  have hread : (Target.object o).read p index = o.read p index := rfl
  simp only [replyToReadProperty, h, Target.readOrEmpty, hread, Object.answer]
  cases o.read p index with
  | ok value => rfl
  | error e =>
      cases e with
      | unknownProperty q => rfl
      | notAnArray q => rfl
      | invalidIndex q i => rfl

/-- A listed identifier leads to what has it exactly if it is not the one that every device answers
    to; and then whoever asks for a property of an owned object under the identifier that is listed
    and announced is answered by that object and by no other. -/
theorem find?_listed_iff (h : ofInstance n name = .ok d₀) (os : List Object) :
    (∀ id ∈ (d₀.attempts os).objectList,
      (∃ t, (d₀.attempts os).find? id = some t ∧ t.id = id) ↔ id.isDeviceWildcard = false) ∧
    ∀ o ∈ (d₀.attempts os).objects, o.id.isDeviceWildcard = false →
      (d₀.attempts os).find? o.id = some (.object o) ∧
      (d₀.attempts os).owned? (.byId o.id) = some o ∧
      ∀ requester p index,
        (d₀.attempts os).replyToReadProperty requester ⟨o.id, p, index⟩
          = o.answer requester p index := by
  have hd := ((fullyIndexed_of_ofInstance h).attempts os).indexed
  have hself : (d₀.attempts os).id.isDeviceWildcard = false := by
    rw [Device.id, object_attempts]
    exact isDeviceWildcard_id_of_ofInstance h
  refine ⟨fun id hid => ⟨?_, ?_⟩, ?_⟩
  · rintro ⟨t, hfind, ht⟩
    by_contra hwildcard
    rw [Bool.not_eq_false] at hwildcard
    -- The device is found, and its own identifier is another one.
    rw [find?_of_isDeviceWildcard hwildcard] at hfind
    cases hfind
    rw [← ht] at hwildcard
    exact absurd (hself.symm.trans hwildcard) Bool.false_ne_true
  · intro hwildcard
    rcases List.mem_cons.1 hid with rfl | hid
    · exact ⟨_, find?_id _, rfl⟩
    · obtain ⟨o, ho, rfl⟩ := List.mem_map.1 hid
      exact ⟨_, hd.find?_of_mem ho hwildcard, rfl⟩
  · intro o ho hwildcard
    have hfind := hd.find?_of_mem ho hwildcard
    refine ⟨hfind, hd.owned?_eq_some_iff.2 ⟨ho, rfl⟩, ?_⟩
    intro requester p index
    exact replyToReadProperty_of_find? hfind rfl requester p index

/-- Whoever asks an input for its name, under the identifier that is listed, is told its name. -/
theorem find?_listed_iff_name :
    let o : Object := ⟨.ofParts .binaryInput 12, "BI 01", .binaryInput, .empty, by decide⟩
    ∃ d₀, ofInstance 36113 "bacpot" = .ok d₀ ∧ o.id ∈ (d₀.attempts [o]).objectList ∧
      ∀ requester, (d₀.attempts [o]).replyToReadProperty requester ⟨o.id, .objectName, none⟩
        = .readPropertyAck requester (some "BI 01")
            ⟨⟨o.id, .objectName, none⟩, .characterString "BI 01"⟩ := by
  intro o
  have hmade : (ofInstance 36113 "bacpot").toOption.any (fun d₀ =>
      (d₀.register o).toOption.isSome) = true := by
    decide +kernel
  obtain ⟨d₀, hmade, htaken⟩ := (Option.any_eq_true _ _).1 hmade
  obtain ⟨d, htaken⟩ := Option.isSome_iff_exists.1 htaken
  have h := Decode.eq_ok_of_toOption hmade
  have hregister := Decode.eq_ok_of_toOption htaken
  have ho : o ∈ (d₀.attempts [o]).objects := by
    show o ∈ (d₀.attempt o).objects
    obtain ⟨-, -, rfl⟩ := (indexed_of_ofInstance h).eq_of_register hregister
    rw [attempt_of_ok hregister]
    exact List.mem_append_right _ (List.mem_singleton_self o)
  have hid : o.id ∈ (d₀.attempts [o]).objectList :=
    List.mem_cons_of_mem _ (List.mem_map_of_mem ho)
  obtain ⟨-, -, hanswer⟩ := (find?_listed_iff h [o]).2 o ho (by decide)
  exact ⟨d₀, h, hid, fun requester => hanswer requester .objectName none⟩

/-- What is registered with the identifier that every device answers to is listed and not found. -/
theorem not_forall_find?_listed : ¬ ∀ (n : UInt32) (name : String) (d₀ : Device)
    (os : List Object), ofInstance n name = .ok d₀ →
    ∀ id ∈ (d₀.attempts os).objectList, ∃ t, (d₀.attempts os).find? id = some t ∧ t.id = id := by
  intro hall
  let twin : Object := ⟨⟨0x023FFFFF⟩, "twin", .device, .empty, by decide⟩
  have hlisted : (ofInstance 36113 "bacpot").toOption.any (fun d₀ =>
      (d₀.attempts [twin]).objectList.contains twin.id &&
      !((d₀.attempts [twin]).find? twin.id).any (·.id == twin.id)) = true := by
    decide +kernel
  obtain ⟨d₀, hmade, hlisted⟩ := (Option.any_eq_true _ _).1 hlisted
  obtain ⟨hid, hlost⟩ := Bool.and_eq_true_iff.1 hlisted
  obtain ⟨t, hfind, ht⟩ := hall 36113 "bacpot" d₀ [twin] (Decode.eq_ok_of_toOption hmade) twin.id
    (List.contains_iff_mem.1 hid)
  rw [hfind, Option.any_some, ht, beq_self_eq_true] at hlost
  exact absurd hlost (by decide)

end Device

end Bacnet
