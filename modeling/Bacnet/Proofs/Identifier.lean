import Bacnet.Proofs.Resolution
import Bacnet.Proofs.Template.Building
import Bacnet.Proofs.Text

set_option autoImplicit false

/-! # Printed identifiers

Summaries show an identifier as its type and its instance number with a colon between them, and a
template may say the instance number of an object in the same way. What is shown is what is read: a
type that a device can hold is shown by its name, which is spelled in the one way already and has no
colon in it, and the number in decimals. So the text of an identifier stands for its instance number
among the records of an object of its type, and for nothing among those of another type
(`ObjectId.label_readsBack`). -/

namespace Bacnet

/-! ## Parts -/

namespace ObjectId

/-- No bit of an identifier is outside of its parts. -/
theorem ofParts_parts (id : ObjectId) : ofParts id.objectType id.instanceNumber = id := by
  obtain ⟨raw⟩ := id
  have hraw := raw.toNat_lt
  have htype : ((raw >>> 22).toUInt16.toUInt32 &&& 0x3FF).toNat = raw.toNat / 0x400000 := by
    rw [UInt32.toNat_and, UInt16.toNat_toUInt32, UInt32.toNat_toUInt16, UInt32.toNat_shiftRight]
    show (raw.toNat >>> 22 % 2 ^ 16) &&& (2 ^ 10 - 1) = _
    rw [Nat.and_two_pow_sub_one_eq_mod, Nat.shiftRight_eq_div_pow]
    omega
  have hinstance : (raw &&& wildcardInstance &&& wildcardInstance).toNat
      = raw.toNat % 0x400000 := by
    rw [toNat_and_wildcardInstance, toNat_and_wildcardInstance, Nat.mod_mod]
  -- The type is shifted up without loss, and the instance number has its place below.
  have hup : (raw.toNat / 0x400000) <<< 22 % 2 ^ 32 = (raw.toNat / 0x400000) <<< 22 := by
    rw [Nat.shiftLeft_eq]
    omega
  rw [ofParts, objectType, instanceNumber, mk.injEq]
  apply UInt32.toNat_inj.1
  rw [UInt32.toNat_or, UInt32.toNat_shiftLeft, htype, hinstance]
  show (raw.toNat / 0x400000) <<< 22 % 2 ^ 32 ||| raw.toNat % 0x400000 = raw.toNat
  rw [hup, ← Nat.shiftLeft_add_eq_or_of_lt (show raw.toNat % 0x400000 < 2 ^ 22 by omega),
    Nat.shiftLeft_eq]
  omega

theorem instanceNumber_ofParts_of_lt {t : ObjectType} {n : UInt32} (h : n < wildcardInstance) :
    (ofParts t n).instanceNumber = n := by
  rw [instanceNumber_ofParts]
  apply UInt32.toNat_inj.1
  rw [toNat_and_wildcardInstance]
  have hn : n.toNat < 0x3FFFFF := UInt32.lt_iff_toNat_lt.1 h
  omega

end ObjectId

/-! ## Names of types -/

namespace ObjectType

theorem normalizeKey_name : ∀ entry ∈ standard, normalizeKey entry.2 = entry.2 := by
  decide +kernel

theorem colon_notMem_name : ∀ entry ∈ standard, ':' ∉ entry.2.toList := by decide +kernel

theorem label_of_mem {t : ObjectType} {name : String} (h : (t, name) ∈ standard) :
    t.label = name := by
  rw [label, name?_of_mem _ h, Option.getD_some]

/-- The name of a type spells it. -/
theorem ofText?_name {t : ObjectType} {name : String} (h : (t, name) ∈ standard) :
    ofText? name.toList = some t := by
  rw [ofText?, String.ofList_toList, normalizeKey_name _ h, ofName?_name _ h]

end ObjectType

/-- Every type that a device can hold has a name. -/
theorem Schema.exists_name : ∀ s ∈ all, ∃ entry ∈ ObjectType.standard, entry.1 = s.objectType := by
  decide

/-! ## Texts of identifiers -/

namespace ObjectId

theorem uint32OfText?_trimmed_toString (n : UInt32) :
    uint32OfText? (trimmed (toString n.toNat).toList) = some n := by
  have hn := n.toNat_lt
  have hdigits : (toString n.toNat).toList = decimal n.toNat := by
    rw [decimal_natCast]
    exact Nat.toList_repr
  rw [hdigits, (bare_decimal _).trimmed_eq, uint32OfText?_decimal, if_pos (by omega),
    Int.toNat_natCast, UInt32.ofNat_toNat]

variable {t : ObjectType} {s : Schema} {n : UInt32}

/-- An identifier is shown as the name of its type, a colon and its instance number. -/
theorem splitOnce_label (hs : Schema.ofType? t = some s) (hn : n < wildcardInstance) :
    ∃ name, ObjectType.ofText? name = some t ∧
      splitOnce ':' (ofParts t n).label.toList = some (name, (toString n.toNat).toList) := by
  obtain ⟨hmem, rfl⟩ := Schema.ofType?_eq_some_iff.1 hs
  obtain ⟨⟨t, name⟩, hname, rfl⟩ := Schema.exists_name s hmem
  refine ⟨name.toList, ObjectType.ofText?_name hname, splitOnce_eq_some_iff.2 ⟨?_, ?_⟩⟩
  · rw [label, objectType_ofParts (Schema.code_lt s hmem), instanceNumber_ofParts_of_lt hn,
      ObjectType.label_of_mem hname, String.toList_append, String.toList_append, List.append_assoc]
    rfl
  · exact ObjectType.colon_notMem_name _ hname

theorem toOwnInstance?_label (hs : Schema.ofType? t = some s) (hn : n < wildcardInstance)
    (t' : ObjectType) : (Setting.text (ofParts t n).label).toOwnInstance? t'
      = if t' = t then some n else none := by
  obtain ⟨name, hname, hcut⟩ := splitOnce_label hs hn
  simp only [Setting.toOwnInstance?, Setting.toInstance?, hcut, hname,
    uint32OfText?_trimmed_toString, Option.some_inj, eq_comm (a := t)]
  split <;> simp [hn]

/-- An identifier with a type that a device can hold, and an instance number below the one that
    every device answers to, has these parts. Its text stands for its instance number where objects
    of its type are configured and for nothing where objects of another type are, so a record that
    identifies an object with it sets the number, or else is refused. And every identifier, of any
    type, is made of its parts. -/
theorem label_readsBack (hs : Schema.ofType? t = some s) (hn : n < wildcardInstance) :
    (ofParts t n).objectType = t ∧ (ofParts t n).instanceNumber = n ∧
    (∀ t', (Setting.text (ofParts t n).label).toOwnInstance? t'
      = if t' = t then some n else none) ∧
    (∀ t' identity key, Key.ofText? key = some .identifier →
      Identity.add t' identity ⟨key, .text (ofParts t n).label⟩ =
        if t' = t then .ok { identity with instanceNumber := some n }
        else .error (.invalidValue key .notAnInstance)) ∧
    ∀ id : ObjectId, ofParts id.objectType id.instanceNumber = id := by
  refine ⟨?_, instanceNumber_ofParts_of_lt hn, toOwnInstance?_label hs hn, ?_, ofParts_parts⟩
  · obtain ⟨hmem, rfl⟩ := Schema.ofType?_eq_some_iff.1 hs
    exact objectType_ofParts (Schema.code_lt s hmem) n
  · intro t' identity key hkey
    simp only [Identity.add, hkey, toOwnInstance?_label hs hn]
    by_cases h : t' = t
    · rw [if_pos h, if_pos h]
    · rw [if_neg h, if_neg h]

/-- The largest of the instance numbers, with the longest of the names. -/
theorem label_readsBack_largest :
    let id := ofParts .multiStateOutput 4194302
    id.label = "multi-state-output:4194302" ∧
    Identity.add .multiStateOutput .unsaid ⟨"Object Identifier", .text id.label⟩
      = .ok ⟨some 4194302, none⟩ ∧
    Identity.add .multiStateInput .unsaid ⟨"Object Identifier", .text id.label⟩
      = .error (.invalidValue "Object Identifier" .notAnInstance) := by
  intro id
  have hkey : Key.ofText? "Object Identifier" = some .identifier := by decide +kernel
  obtain ⟨-, -, -, hadd, -⟩ :=
    label_readsBack (t := .multiStateOutput) (s := .multiStateOutput) (n := 4194302)
      (by decide) (by decide)
  refine ⟨by decide +kernel, ?_, ?_⟩
  · exact hadd .multiStateOutput .unsaid _ hkey
  · exact hadd .multiStateInput .unsaid _ hkey

end ObjectId

end Bacnet
