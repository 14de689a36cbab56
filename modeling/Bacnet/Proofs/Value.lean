import Bacnet.Proofs.Contents
import Bacnet.Value.Codec

set_option autoImplicit false

/-! # Values read back

A list leaves no trace of its own on the wire: what is written is the row of its atoms, the values
in it that are no lists (`flat`). Between brackets a value is therefore read back as its normal
form: the atom itself if there is just one, and else the list of all of them
(`reads_decodeUntilClosing`). -/

namespace Bacnet.Value

/-! ## Atoms -/

mutual

/-- The values in a value that are no lists, in order. -/
def flat : Value → List Value
  | list items => flatAll items
  | null => [null]
  | boolean b => [boolean b]
  | unsigned n => [unsigned n]
  | signed n => [signed n]
  | real bits => [real bits]
  | double bits => [double bits]
  | characterString text => [characterString text]
  | bitString bits => [bitString bits]
  | enumerated code => [enumerated code]
  | objectId id => [objectId id]

/-- The values in values that are no lists, in order. -/
def flatAll : List Value → List Value
  | [] => []
  | item :: items => flat item ++ flatAll items

end

/-- What a value between brackets is read back as. -/
def normal (v : Value) : Value := ofRun v.flat

theorem flat_of_isList_eq_false {v : Value} (h : v.isList = false) : v.flat = [v] := by
  cases v with
  | list items => simp [isList] at h
  | _ => rfl

mutual

theorem isList_of_mem_flat : ∀ (v : Value), ∀ x ∈ v.flat, x.isList = false
  | list items => isList_of_mem_flatAll items
  | null | boolean _ | unsigned _ | signed _ | real _ | double _ | characterString _
  | bitString _ | enumerated _ | objectId _ => by simp [flat, isList]

theorem isList_of_mem_flatAll : ∀ (vs : List Value), ∀ x ∈ flatAll vs, x.isList = false
  | [] => by simp [flatAll]
  | v :: vs => by
      intro x hx
      rw [flatAll, List.mem_append] at hx
      rcases hx with hx | hx
      · exact isList_of_mem_flat v x hx
      · exact isList_of_mem_flatAll vs x hx

end

theorem mem_flatAll {vs : List Value} {x : Value} : x ∈ flatAll vs ↔ ∃ v ∈ vs, x ∈ v.flat := by
  induction vs with
  | nil => simp [flatAll]
  | cons v vs ih => simp [flatAll, ih]

mutual

/-- What is written of a value is what is written of its atoms. -/
theorem encode_eq_concat : ∀ (v : Value), v.encode = .concat (v.flat.map encode)
  | list items => by rw [encode, flat, encodeAll_eq_concat items]
  | null | boolean _ | unsigned _ | signed _ | real _ | double _ | characterString _
  | bitString _ | enumerated _ | objectId _ => by simp [flat]

theorem encodeAll_eq_concat : ∀ (vs : List Value),
    encodeAll vs = .concat ((flatAll vs).map encode)
  | [] => rfl
  | v :: vs => by
      rw [encodeAll, flatAll, List.map_append, Encoding.concat_append, encode_eq_concat v,
        encodeAll_eq_concat vs]

end

/-! ## What fits a tag -/

/-- Whether the lengths of an atom fit its tag, and its unused bits an octet. -/
def Fits : Value → Prop
  | characterString text => (Octets.ofString text).length + 1 < 0x100000000
  | bitString bits => bits.unusedBits ≤ 7 ∧ bits.octets.length + 1 < 0x100000000
  | _ => True

/-- Whether a value has a written form. -/
def Sendable (v : Value) : Prop := ∀ x ∈ v.flat, x.Fits

theorem sendable_of_fits {v : Value} (hatom : v.isList = false) (h : v.Fits) : v.Sendable := by
  intro x hx
  rw [flat_of_isList_eq_false hatom, List.mem_singleton] at hx
  rwa [hx]

theorem sendable_list {items : List Value} (h : ∀ v ∈ items, v.Sendable) :
    (list items).Sendable := by
  intro x hx
  rw [flat, mem_flatAll] at hx
  obtain ⟨v, hv, hx⟩ := hx
  exact h v hv x hx

theorem Sendable.of_mem {items : List Value} (h : (list items).Sendable) {v : Value}
    (hv : v ∈ items) : v.Sendable := by
  intro x hx
  exact h x (by rw [flat, mem_flatAll]; exact ⟨v, hv, hx⟩)

theorem fault_encode_atom {v : Value} (hatom : v.isList = false) (h : v.Fits) :
    v.encode.fault = none := by
  cases v with
  | list items => simp [isList] at hatom
  | characterString text => exact Contents.fault_encodeHeaded h ..
  | bitString bits =>
      rw [encode, if_neg (UInt8.not_lt.2 h.1)]
      exact Contents.fault_encodeHeaded h.2 ..
  | _ => simp [encode]

/-- Contents behind their tag, for a reading that only depends on the number of octets. -/
theorem exists_tag_of_tagged {tag : AppTag} {contents : Octets} {v : Value}
    (hlength : contents.length < 0x100000000)
    (h : ∀ length : UInt32, length.toNat = contents.length →
      ∀ rest, (decodeContents tag length).Reads contents v rest) :
    ∃ t length input, (Contents.tagged (.application tag) contents).octets
        = (Tag.application t length).encode.octets ++ input ∧
      ∀ rest, (decodeContents t length).Reads input v rest :=
  ⟨tag, .ofNat contents.length, contents, Contents.octets_tagged .., fun rest =>
    h _ (UInt32.toNat_ofNat_of_lt' hlength) rest⟩

/-- An atom is written as an application tag and contents that are read back behind it. -/
theorem exists_tag_of_atom {v : Value} (hatom : v.isList = false) (h : v.Fits) :
    ∃ t length input, v.encode.octets = (Tag.application t length).encode.octets ++ input ∧
      ∀ rest, (decodeContents t length).Reads input v rest := by
  cases v with
  | null =>
      exact ⟨.null, 0, [], by rw [encode, List.append_nil], fun rest => .pure _ rest⟩
  | boolean b =>
      refine ⟨.boolean, b.toUInt32, [], by rw [encode, List.append_nil], fun rest => ?_⟩
      rw [decodeContents, show (b.toUInt32 != 0) = b by cases b <;> rfl]
      exact .pure _ rest
  | unsigned n =>
      refine exists_tag_of_tagged (Contents.length_ofUnsigned_lt n) fun length hl rest => ?_
      rw [decodeContents, hl, Contents.length_ofUnsigned]
      exact (Contents.reads_unsigned n rest).map unsigned
  | signed n =>
      refine exists_tag_of_tagged (Contents.length_ofSigned_lt n) fun length hl rest => ?_
      rw [decodeContents, hl, Contents.length_ofSigned]
      exact (Contents.reads_signed n rest).map signed
  | real bits =>
      refine exists_tag_of_tagged (by simp) fun length hl rest => ?_
      rw [decodeContents, hl, Octets.length_ofUInt32]
      exact (Contents.reads_word32 bits rest).map real
  | double bits =>
      refine exists_tag_of_tagged (by simp) fun length hl rest => ?_
      rw [decodeContents, hl, Octets.length_ofUInt64]
      exact (Contents.reads_word64 bits rest).map double
  | characterString text =>
      rw [encode, Contents.encodeText, Contents.octets_encodeHeaded h]
      refine exists_tag_of_tagged h fun length hl rest => ?_
      rw [decodeContents, hl]
      exact (Contents.reads_text text rest).map characterString
  | bitString bits =>
      have hunused : ¬ 7 < bits.unusedBits := UInt8.not_lt.2 h.1
      rw [encode, if_neg hunused, Contents.octets_encodeHeaded h.2]
      refine exists_tag_of_tagged h.2 fun length hl rest => ?_
      rw [decodeContents, hl]
      have hbits : (decodeBitString (bits.octets.length + 1)).Reads
          (bits.unusedBits :: bits.octets) bits rest := by
        unfold decodeBitString
        refine (Decode.reads_octets (List.length_cons ..) rest).bind_last ?_
        simp only [if_neg hunused]
        exact .pure bits rest
      exact hbits.map bitString
  | enumerated code =>
      refine exists_tag_of_tagged (Contents.length_ofUnsigned_lt code) fun length hl rest => ?_
      rw [decodeContents, hl, Contents.length_ofUnsigned]
      exact (Contents.reads_unsigned code rest).map enumerated
  | objectId id =>
      refine exists_tag_of_tagged (by simp) fun length hl rest => ?_
      rw [decodeContents, hl, Octets.length_ofUInt32]
      exact (Contents.reads_word32 id.raw rest).map fun raw => objectId ⟨raw⟩
  | list items => simp [isList] at hatom

/-! ## Values -/

theorem fault_encode {v : Value} (h : v.Sendable) : v.encode.fault = none := by
  rw [encode_eq_concat]
  exact Encoding.fault_concat_map fun x hx => fault_encode_atom (isList_of_mem_flat v x hx) (h x hx)

theorem octets_encode {v : Value} (h : v.Sendable) :
    v.encode.octets = v.flat.flatMap fun x => x.encode.octets := by
  rw [encode_eq_concat, Encoding.octets_concat_map]
  exact fun x hx => fault_encode_atom (isList_of_mem_flat v x hx) (h x hx)

/-- Between brackets a value is read back as its normal form. -/
theorem reads_decodeUntilClosing {v : Value} (h : v.Sendable) (number : UInt8) (rest : Octets) :
    (decodeUntilClosing number).Reads (v.encode.octets ++ (Tag.closing number).encode.octets)
      v.normal rest := by
  have hclose : (decodeUnlessClosing number).Reads (Tag.closing number).encode.octets none rest := by
    unfold decodeUnlessClosing
    refine (Tag.reads_decode _ rest).bind_last ?_
    rw [if_pos rfl]
    exact .pure none rest
  have hmany : (Decode.many (decodeUnlessClosing number)).Reads
      (v.flat.flatMap (fun x => x.encode.octets) ++ (Tag.closing number).encode.octets)
      (v.flat.map id) rest := by
    refine Decode.Reads.many (fun _ => True) id hclose trivial ?_ ?_
    · intro x hx
      obtain ⟨t, length, input, hoctets, -⟩ :=
        exists_tag_of_atom (isList_of_mem_flat v x hx) (h x hx)
      exact Tag.Begins.one_le_length ⟨input, hoctets⟩
    · intro x hx tail _
      obtain ⟨t, length, input, hoctets, hread⟩ :=
        exists_tag_of_atom (isList_of_mem_flat v x hx) (h x hx)
      refine ⟨?_, trivial⟩
      rw [hoctets]
      -- An atom begins with an application tag, so it is never taken for the end of the row.
      unfold decodeUnlessClosing
      refine (Tag.reads_decode _ _).bind ?_
      rw [if_neg (by simp)]
      exact (hread tail).map some
  rw [List.map_id] at hmany
  rw [octets_encode h]
  exact hmany.map ofRun

/-- An atom is read back as itself, whatever stands behind it. -/
theorem reads_decode {v : Value} (hatom : v.isList = false) (h : v.Fits) (rest : Octets) :
    decode.Reads v.encode.octets v rest := by
  obtain ⟨t, length, input, hoctets, hread⟩ := exists_tag_of_atom hatom h
  unfold decode
  rw [hoctets]
  exact (Tag.reads_decode _ _).bind (hread rest)

theorem normal_of_flat_eq {v x : Value} (h : v.flat = [x]) : v.normal = x := by
  rw [normal, h, ofRun]

theorem normal_of_flat_ne {v : Value} (h : ∀ x, v.flat ≠ [x]) : v.normal = list v.flat := by
  unfold normal ofRun
  split
  · next x hx => exact absurd hx (h x)
  · rfl

/-- A value that fits its tags has a written form. Between brackets that is read back as the one
    atom of the value, or as the list of all its atoms if there are none or several; and an atom
    is read back on its own. Nothing behind is touched in either case. -/
theorem reads_encode {v : Value} (h : v.Sendable) :
    (∀ capacity, v.encode.octets.length ≤ capacity →
      v.encode.within capacity = .ok v.encode.octets) ∧
    (∃ w, (∀ x, v.flat = [x] → w = x) ∧ ((∀ x, v.flat ≠ [x]) → w = list v.flat) ∧
      ∀ (number : UInt8) (rest : Octets), (decodeUntilClosing number).Reads
        (v.encode.octets ++ (Tag.closing number).encode.octets) w rest) ∧
    (v.isList = false → ∀ rest, decode.Reads v.encode.octets v rest) := by
  refine ⟨?_, ⟨v.normal, ?_, ?_, ?_⟩, ?_⟩
  · intro capacity hcapacity
    exact Encoding.within_eq_ok_iff.2 ⟨fault_encode h, hcapacity, rfl⟩
  · intro x hx
    exact normal_of_flat_eq hx
  · intro hne
    exact normal_of_flat_ne hne
  · intro number rest
    exact reads_decodeUntilClosing h number rest
  · intro hatom rest
    have hmem : v ∈ v.flat := by
      rw [flat_of_isList_eq_false hatom]
      exact List.mem_singleton_self v
    exact reads_decode hatom (h v hmem) rest

/-- A list with lists in it, a NaN with a payload, a text that is not ASCII and bits that do not
    fill an octet: it is read back flat, and the NaN alone as itself. -/
theorem reads_encode_nested :
    (decodeUntilClosing 3).Reads ((list [list [], real 0x7FC00001, list [characterString "é",
        bitString ⟨3, [0xA0]⟩, list []]]).encode.octets ++ (Tag.closing 3).encode.octets)
      (list [real 0x7FC00001, characterString "é", bitString ⟨3, [0xA0]⟩]) [0x3F] ∧
    decode.Reads (real 0x7FC00001).encode.octets (real 0x7FC00001) [0x3F] := by
  have hreal : (real 0x7FC00001).Sendable := sendable_of_fits rfl trivial
  have htext : (Octets.ofString "é").length + 1 < 0x100000000 := by decide +kernel
  have hempty : (list []).Sendable := sendable_list fun v hv => nomatch hv
  have hinner : (list [characterString "é", bitString ⟨3, [0xA0]⟩, list []]).Sendable := by
    refine sendable_list fun v hv => ?_
    simp only [List.mem_cons, List.not_mem_nil, or_false] at hv
    rcases hv with rfl | rfl | rfl
    · exact sendable_of_fits rfl htext
    · exact sendable_of_fits rfl ⟨by decide, by decide⟩
    · exact hempty
  have hnested : (list [list [], real 0x7FC00001, list [characterString "é",
      bitString ⟨3, [0xA0]⟩, list []]]).Sendable := by
    refine sendable_list fun v hv => ?_
    simp only [List.mem_cons, List.not_mem_nil, or_false] at hv
    rcases hv with rfl | rfl | rfl
    · exact hempty
    · exact hreal
    · exact hinner
  obtain ⟨-, ⟨w, -, hlist, hread⟩, -⟩ := reads_encode hnested
  have hw := hlist fun x hx => nomatch hx
  exact ⟨hw ▸ hread 3 [0x3F], (reads_encode hreal).2.2 rfl [0x3F]⟩

end Bacnet.Value
