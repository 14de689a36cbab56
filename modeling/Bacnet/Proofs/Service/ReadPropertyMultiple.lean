import Bacnet.Proofs.Row
import Bacnet.Proofs.Service.ReadProperty
import Bacnet.Service.ReadPropertyMultiple

set_option autoImplicit false

/-! # Read-Property-Multiple read back

Both bodies are rows of objects with rows of items between brackets, so the laws of the two rows
(`reads_manyUntilClosing`, `reads_manyUntilEnd`) carry them. A question that asks for something of
each of its objects is read back as it was written, and an answer with its values in normal form. -/

namespace Bacnet

/-! ## Rows -/

namespace Decode

variable {α β : Type} {item : Decode β} {written : α → Octets} {read : α → β} {items : List α}

/-- One step of the row up to a closing tag. -/
def unlessClosing (number : UInt8) (item : Decode β) : Decode (Option β) := do
  if (← Tag.peek) = .closing number then return none
  some <$> item

/-- One step of the row up to the end of the input. -/
def unlessEnd (item : Decode β) : Decode (Option β) := do
  if ← atEnd then return none
  some <$> item

section Step

variable {number : UInt8} {b : β} {r r' : Reader}

theorem item_of_unlessClosing (h : unlessClosing number item r = .ok (some b) r') :
    item r = .ok b r' := by
  obtain ⟨t, r₁, hpeek, hbehind⟩ := bind_eq_ok.1 h
  obtain ⟨rfl, -⟩ := eq_of_peek hpeek
  by_cases hclosing : t = .closing number
  · rw [if_pos hclosing] at hbehind
    cases hbehind
  · rw [if_neg hclosing] at hbehind
    obtain ⟨b', hb, hsome⟩ := map_eq_ok.1 hbehind
    cases hsome
    exact hb

/-- The closing tag is looked at and not taken. -/
theorem exists_closing_of_unlessClosing (h : unlessClosing number item r = .ok none r') :
    r' = r ∧ ∃ r₁, Tag.decode r = .ok (.closing number) r₁ := by
  obtain ⟨t, r₁, hpeek, hbehind⟩ := bind_eq_ok.1 h
  obtain ⟨rfl, r₂, hlooked⟩ := eq_of_peek hpeek
  by_cases hclosing : t = .closing number
  · rw [if_pos hclosing] at hbehind
    cases hbehind
    exact ⟨rfl, r₂, hclosing ▸ hlooked⟩
  · rw [if_neg hclosing] at hbehind
    obtain ⟨b, -, hnone⟩ := map_eq_ok.1 hbehind
    cases hnone

theorem item_of_unlessEnd (h : unlessEnd item r = .ok (some b) r') : item r = .ok b r' := by
  obtain ⟨ended, r₁, hend, hbehind⟩ := bind_eq_ok.1 h
  obtain ⟨rfl, -⟩ := eq_of_atEnd hend
  cases ended with
  | true => cases hbehind
  | false =>
      obtain ⟨b', hb, hsome⟩ := map_eq_ok.1 hbehind
      cases hsome
      exact hb

theorem unread_eq_nil_of_unlessEnd (h : unlessEnd item r = .ok none r') :
    r' = r ∧ r.unread = [] := by
  obtain ⟨ended, r₁, hended, hbehind⟩ := bind_eq_ok.1 h
  obtain ⟨rfl, hempty⟩ := eq_of_atEnd hended
  cases ended with
  | true =>
      cases hbehind
      exact ⟨rfl, List.isEmpty_iff.1 hempty.symm⟩
  | false =>
      obtain ⟨b, -, hnone⟩ := map_eq_ok.1 hbehind
      cases hnone

end Step

/-- Items up to a closing tag, none of which begins with that tag. -/
theorem reads_manyUntilClosing (Follows : Octets → Prop) {number : UInt8} {rest : Octets}
    (hfollows : Follows ((Tag.closing number).encode.octets ++ rest))
    (hbegins : ∀ a ∈ items, ∃ t : Tag, t.Begins (written a) ∧ t ≠ .closing number)
    (hitems : ∀ a ∈ items, ∀ tail, Follows tail →
      item.Reads (written a) (read a) tail ∧ Follows (written a ++ tail)) :
    (manyUntilClosing number item).Reads
      (items.flatMap written ++ (Tag.closing number).encode.octets) (items.map read) rest := by
  have hclose : (unlessClosing number item).Reads [] none
      ((Tag.closing number).encode.octets ++ rest) := by
    refine (Tag.begins_append _ rest).reads_peek.bind_last ?_
    rw [if_pos rfl]
    exact .pure none _
  have hmany := Reads.many Follows read hclose hfollows
    (fun a ha => (hbegins a ha).elim fun _ h => h.1.one_le_length) fun a ha tail htail => by
      obtain ⟨t, ht, hne⟩ := hbegins a ha
      refine ⟨(ht.append tail).reads_peek.bind_nil ?_, (hitems a ha tail htail).2⟩
      rw [if_neg hne]
      exact (hitems a ha tail htail).1.map some
  rw [List.append_nil] at hmany
  exact hmany.bind ((Tag.reads_decode _ rest).bind_pure fun _ => items.map read)

/-- Items up to the end of the input, each of which begins with a tag. -/
theorem reads_manyUntilEnd (hbegins : ∀ a ∈ items, ∃ t : Tag, t.Begins (written a))
    (hitems : ∀ a ∈ items, ∀ tail, item.Reads (written a) (read a) tail) :
    (manyUntilEnd item).Reads (items.flatMap written) (items.map read) [] := by
  have hclose : (unlessEnd item).Reads [] none [] := by
    refine (reads_atEnd []).bind_last ?_
    rw [List.isEmpty_nil, if_pos rfl]
    exact .pure none _
  have hmany := Reads.many (fun _ => True) read hclose trivial
    (fun a ha => (hbegins a ha).elim fun _ h => h.one_le_length) fun a ha tail _ => by
      obtain ⟨t, ht⟩ := hbegins a ha
      refine ⟨(reads_atEnd _).bind_nil ?_, trivial⟩
      rw [(ht.append tail).isEmpty_eq_false, if_neg (by simp)]
      exact (hitems a ha tail).map some
  rwa [List.append_nil] at hmany

/-- Items up to a closing tag are items in turn with that tag behind them. -/
theorem exists_inTurn_of_manyUntilClosing {number : UInt8} {items : List β} {r r' : Reader}
    (h : manyUntilClosing number item r = .ok items r') :
    ∃ r₁, InTurn item r items r₁ ∧ Tag.decode r₁ = .ok (.closing number) r' := by
  obtain ⟨items', r₁, hmany, hclose⟩ := bind_eq_ok.1 h
  obtain ⟨t, r₂, htag, hitems⟩ := bind_eq_ok.1 hclose
  cases hitems
  obtain ⟨r₃, hturn, hend⟩ := exists_inTurn_of_many (fun _ _ _ => item_of_unlessClosing) hmany
  obtain ⟨rfl, r₄, hlooked⟩ := exists_closing_of_unlessClosing hend
  -- The tag that was looked at is the one that is taken.
  rw [hlooked] at htag
  cases htag
  exact ⟨_, hturn, hlooked⟩

/-- Items up to the end of the input are items in turn, and leave nothing. -/
theorem inTurn_of_manyUntilEnd {items : List β} {r r' : Reader}
    (h : manyUntilEnd item r = .ok items r') : InTurn item r items r' ∧ r'.unread = [] := by
  obtain ⟨r₁, hturn, hend⟩ := exists_inTurn_of_many (fun _ _ _ => item_of_unlessEnd) h
  obtain ⟨rfl, hempty⟩ := unread_eq_nil_of_unlessEnd hend
  exact ⟨hturn, hempty⟩

end Decode

/-! ## The question -/

namespace PropertyReference

variable (ref : PropertyReference)

@[simp] theorem fault_encode : ref.encode.fault = none := by
  simp [encode]

theorem octets_encode : ref.encode.octets = (Parameter.encodeUnsigned 0 ref.property.code).octets ++
    (Parameter.encodeOptional 1 ref.index).octets := by
  simp [encode]

theorem begins_encode : ∃ length, (Tag.context 0 length).Begins ref.encode.octets := by
  obtain ⟨length, h⟩ := Parameter.begins_encodeUnsigned 0 ref.property.code
  rw [octets_encode]
  exact ⟨length, h.append _⟩

theorem reads_decode {rest : Octets} (h : Parameter.Absent 1 rest) :
    decode.Reads ref.encode.octets ref rest := by
  unfold decode
  rw [octets_encode]
  refine (Parameter.reads_unsigned 0 ref.property.code _).bind ?_
  exact (Parameter.reads_optional h ref.index).bind_pure _

end PropertyReference

namespace AccessSpec

variable {spec : AccessSpec}

theorem fault_encode_references (refs : List PropertyReference) :
    (Encoding.concat (refs.map (·.encode))).fault = none :=
  Encoding.fault_concat_map fun ref _ => ref.fault_encode

@[simp] theorem fault_encode (spec : AccessSpec) : spec.encode.fault = none := by
  simp [encode, fault_encode_references]

theorem octets_encode (spec : AccessSpec) : spec.encode.octets =
    (Parameter.encodeObjectId 0 spec.objectId).octets ++ ((Tag.opening 1).encode.octets ++
      (spec.references.flatMap (·.encode.octets) ++ (Tag.closing 1).encode.octets)) := by
  rw [encode, Encoding.octets_append (by simp),
    Encoding.octets_bracketed (fault_encode_references _), Encoding.octets_concat_map]
  exact fun ref _ => ref.fault_encode

theorem begins_encode (spec : AccessSpec) : ∃ t : Tag, t.Begins spec.encode.octets := by
  obtain ⟨length, h⟩ := Parameter.begins_encodeObjectId 0 spec.objectId
  rw [octets_encode]
  exact ⟨_, h.append _⟩

/-- An object of which something is asked is read back. -/
theorem reads_decode (h : spec.references ≠ []) (rest : Octets) :
    decode.Reads spec.encode.octets spec rest := by
  unfold decode
  rw [octets_encode]
  refine (Parameter.reads_objectId 0 spec.objectId _).bind ?_
  refine (Tag.reads_expect (.opening 1) _).bind ?_
  have hrow : (Decode.manyUntilClosing 1 PropertyReference.decode).Reads
      (spec.references.flatMap (·.encode.octets) ++ (Tag.closing 1).encode.octets)
      (spec.references.map id) rest := by
    -- A reference without an index is recognised by what follows it: the closing tag or the
    -- property of the next reference, neither of which is an index.
    refine Decode.reads_manyUntilClosing (Parameter.Absent 1) ?_ ?_ ?_
    · exact Parameter.absent_of_begins (Tag.begins_append (.closing 1) rest) rfl
    · intro ref _
      obtain ⟨length, hbegins⟩ := ref.begins_encode
      exact ⟨_, hbegins, by simp⟩
    · intro ref _ tail htail
      obtain ⟨length, hbegins⟩ := ref.begins_encode
      refine ⟨ref.reads_decode htail, ?_⟩
      exact Parameter.absent_of_begins (hbegins.append tail) rfl
  rw [List.map_id] at hrow
  refine hrow.bind_last ?_
  rw [if_neg (by simpa using h)]
  exact .pure spec rest

end AccessSpec

namespace ReadPropertyMultiple

variable {q : ReadPropertyMultiple}

/-- What is behind the header. -/
def encodeBody (q : ReadPropertyMultiple) : Encoding := .concat (q.specs.map (·.encode))

/-- Whether a question asks for something, and for something of each of its objects. -/
def Asks (q : ReadPropertyMultiple) : Prop := q.specs ≠ [] ∧ ∀ spec ∈ q.specs, spec.references ≠ []

@[simp] theorem fault_encodeBody (q : ReadPropertyMultiple) : q.encodeBody.fault = none :=
  Encoding.fault_concat_map fun spec _ => spec.fault_encode

theorem octets_encodeBody (q : ReadPropertyMultiple) :
    q.encodeBody.octets = q.specs.flatMap (·.encode.octets) :=
  Encoding.octets_concat_map fun spec _ => spec.fault_encode

@[simp] theorem fault_encode (q : ReadPropertyMultiple) (invokeId : UInt8) :
    (q.encode invokeId).fault = none := by
  have hbody : (Encoding.concat (q.specs.map (·.encode))).fault = none := q.fault_encodeBody
  simp [encode, hbody]

theorem octets_encode (q : ReadPropertyMultiple) (invokeId : UInt8) : (q.encode invokeId).octets =
    (ConfirmedHeader.unsegmented invokeId service).encode.octets ++ q.encodeBody.octets :=
  Encoding.octets_append (ConfirmedHeader.fault_encode _)

/-- The body of a question is read back. -/
theorem reads_decodeBody (h : q.Asks) : decodeBody.Reads q.encodeBody.octets q [] := by
  unfold decodeBody
  rw [octets_encodeBody]
  have hrow : (Decode.manyUntilEnd AccessSpec.decode).Reads
      (q.specs.flatMap (·.encode.octets)) (q.specs.map id) [] :=
    Decode.reads_manyUntilEnd (fun spec _ => spec.begins_encode)
      fun spec hspec tail => AccessSpec.reads_decode (h.2 spec hspec) tail
  rw [List.map_id] at hrow
  refine hrow.bind_last ?_
  rw [if_neg (by simpa using h.1)]
  exact .pure q []

theorem unread_eq_nil_of_decodeBody {r r' : Reader} (h : decodeBody r = .ok q r') :
    r'.unread = [] := by
  unfold decodeBody at h
  obtain ⟨specs, r₁, hspecs, h⟩ := Decode.bind_eq_ok.1 h
  obtain ⟨-, h⟩ := Decode.of_guard_eq_ok h
  cases h
  exact (Decode.inTurn_of_manyUntilEnd hspecs).2

end ReadPropertyMultiple

/-! ## The answer -/

namespace AccessError

@[simp] theorem fault_encode (e : AccessError) : e.encode.fault = none := by
  simp [encode]

theorem reads_decode (e : AccessError) (rest : Octets) : decode.Reads e.encode.octets e rest := by
  unfold decode encode
  rw [Encoding.octets_append (by simp)]
  refine (Contents.reads_appEnumerated e.errorClass _).bind ?_
  exact (Contents.reads_appEnumerated e.errorCode rest).bind_pure _

end AccessError

namespace AccessElement

variable {element : AccessElement}

/-- Whether an element has a written form. -/
def Sendable (element : AccessElement) : Prop := ∀ v, element.result = .ok v → v.Sendable

/-- What an element is read back as. -/
def received (element : AccessElement) : AccessElement :=
  { element with result := Value.normal <$> element.result }

theorem fault_encodeResult (h : element.Sendable) : (encodeResult element.result).fault = none := by
  unfold encodeResult
  split
  · next v hv => simp [Value.fault_encode (h v hv)]
  · simp

theorem fault_encode (h : element.Sendable) : element.encode.fault = none := by
  simp [encode, fault_encodeResult h]

theorem octets_encode (element : AccessElement) : element.encode.octets =
    (Parameter.encodeUnsigned 2 element.reference.property.code).octets ++
      ((Parameter.encodeOptional 3 element.reference.index).octets ++
        (encodeResult element.result).octets) := by
  simp [encode]

theorem begins_encode (element : AccessElement) :
    ∃ length, (Tag.context 2 length).Begins element.encode.octets := by
  obtain ⟨length, h⟩ := Parameter.begins_encodeUnsigned 2 element.reference.property.code
  rw [octets_encode]
  exact ⟨length, h.append _⟩

theorem begins_encodeResult (h : element.Sendable) :
    ∃ number, (Tag.opening number).Begins (encodeResult element.result).octets := by
  unfold encodeResult
  split
  · next v hv =>
      rw [Encoding.octets_bracketed (Value.fault_encode (h v hv))]
      exact ⟨4, Tag.begins_append ..⟩
  · rw [Encoding.octets_bracketed (by simp)]
    exact ⟨5, Tag.begins_append ..⟩

theorem reads_decodeResult (h : element.Sendable) (rest : Octets) :
    decodeResult.Reads (encodeResult element.result).octets (Value.normal <$> element.result)
      rest := by
  unfold decodeResult encodeResult
  cases hresult : element.result with
  | ok v =>
      simp only
      rw [Encoding.octets_bracketed (Value.fault_encode (h v hresult))]
      refine (Tag.reads_decode (.opening 4) _).bind ?_
      exact (Value.reads_decodeUntilClosing (h v hresult) 4 rest).map Except.ok
  | error e =>
      simp only
      rw [Encoding.octets_bracketed (by simp)]
      refine (Tag.reads_decode (.opening 5) _).bind ?_
      refine (e.reads_decode _).bind ?_
      exact (Tag.reads_expect (.closing 5) rest).bind_pure fun _ => Except.error e

/-- An element is read back, with its value in normal form. -/
theorem reads_decode (h : element.Sendable) (rest : Octets) :
    decode.Reads element.encode.octets element.received rest := by
  obtain ⟨number, hbegins⟩ := begins_encodeResult h
  unfold decode
  rw [octets_encode]
  refine (Parameter.reads_unsigned 2 element.reference.property.code _).bind ?_
  refine (Parameter.reads_optional ?_ element.reference.index).bind ?_
  · exact Parameter.absent_of_begins (hbegins.append rest) rfl
  exact (reads_decodeResult h rest).bind_pure _

end AccessElement

namespace AccessResult

variable {result : AccessResult}

/-- Whether a result has a written form. -/
def Sendable (result : AccessResult) : Prop := ∀ element ∈ result.elements, element.Sendable

/-- What a result is read back as. -/
def received (result : AccessResult) : AccessResult :=
  { result with elements := result.elements.map AccessElement.received }

theorem fault_encode_elements (h : result.Sendable) :
    (Encoding.concat (result.elements.map (·.encode))).fault = none :=
  Encoding.fault_concat_map fun element helement => AccessElement.fault_encode (h element helement)

theorem fault_encode (h : result.Sendable) : result.encode.fault = none := by
  simp [encode, fault_encode_elements h]

theorem octets_encode (h : result.Sendable) : result.encode.octets =
    (Parameter.encodeObjectId 0 result.objectId).octets ++ ((Tag.opening 1).encode.octets ++
      (result.elements.flatMap (·.encode.octets) ++ (Tag.closing 1).encode.octets)) := by
  rw [encode, Encoding.octets_append (by simp),
    Encoding.octets_bracketed (fault_encode_elements h), Encoding.octets_concat_map]
  exact fun element helement => AccessElement.fault_encode (h element helement)

theorem begins_encode (h : result.Sendable) : ∃ t : Tag, t.Begins result.encode.octets := by
  obtain ⟨length, hbegins⟩ := Parameter.begins_encodeObjectId 0 result.objectId
  rw [octets_encode h]
  exact ⟨_, hbegins.append _⟩

/-- A result is read back, with its values in normal form. -/
theorem reads_decode (h : result.Sendable) (rest : Octets) :
    decode.Reads result.encode.octets result.received rest := by
  unfold decode
  rw [octets_encode h]
  refine (Parameter.reads_objectId 0 result.objectId _).bind ?_
  refine (Tag.reads_expect (.opening 1) _).bind ?_
  have hrow : (Decode.manyUntilClosing 1 AccessElement.decode).Reads
      (result.elements.flatMap (·.encode.octets) ++ (Tag.closing 1).encode.octets)
      (result.elements.map AccessElement.received) rest := by
    refine Decode.reads_manyUntilClosing (fun _ => True) trivial ?_ ?_
    · intro element _
      obtain ⟨length, hbegins⟩ := element.begins_encode
      exact ⟨_, hbegins, by simp⟩
    · intro element helement tail _
      exact ⟨AccessElement.reads_decode (h element helement) tail, trivial⟩
  exact hrow.bind_pure _

end AccessResult

namespace ReadPropertyMultipleAck

variable {a : ReadPropertyMultipleAck}

/-- Whether an answer has a written form. -/
def Sendable (a : ReadPropertyMultipleAck) : Prop := ∀ result ∈ a.results, result.Sendable

/-- What is behind the header. -/
def encodeBody (a : ReadPropertyMultipleAck) : Encoding := .concat (a.results.map (·.encode))

/-- What an answer is read back as. -/
def received (a : ReadPropertyMultipleAck) : ReadPropertyMultipleAck :=
  ⟨a.results.map AccessResult.received⟩

theorem encode_eq (a : ReadPropertyMultipleAck) (invokeId : UInt8) : a.encode invokeId
    = (ComplexAckHeader.mk invokeId ReadPropertyMultiple.service).encode ++ a.encodeBody := rfl

theorem octets_encode (a : ReadPropertyMultipleAck) (invokeId : UInt8) :
    (a.encode invokeId).octets = (ComplexAckHeader.mk invokeId
      ReadPropertyMultiple.service).encode.octets ++ a.encodeBody.octets := by
  rw [encode_eq, Encoding.octets_append (ComplexAckHeader.fault_encode _)]

theorem fault_encodeBody (h : a.Sendable) : a.encodeBody.fault = none :=
  Encoding.fault_concat_map fun result hresult => AccessResult.fault_encode (h result hresult)

/-- The body of an answer is read back, with its values in normal form. -/
theorem reads_decodeBody (h : a.Sendable) : decodeBody.Reads a.encodeBody.octets a.received [] := by
  unfold decodeBody encodeBody
  rw [Encoding.octets_concat_map fun result hresult =>
    AccessResult.fault_encode (h result hresult)]
  have hrow : (Decode.manyUntilEnd AccessResult.decode).Reads
      (a.results.flatMap (·.encode.octets)) (a.results.map AccessResult.received) [] :=
    Decode.reads_manyUntilEnd (fun result hresult => AccessResult.begins_encode (h result hresult))
      fun result hresult tail => AccessResult.reads_decode (h result hresult) tail
  exact hrow.bind_pure _

end ReadPropertyMultipleAck

end Bacnet
