import GrpcDiscovery.Proofs.Descriptor.Encoding
import GrpcDiscovery.Proofs.Descriptor.Runs

namespace GrpcDiscovery.Descriptor

/-!
# Reading records back

Reading what was written takes one step for each record. When every part of a
descriptor is read as a change, and changes of parts with different numbers may
change places, the order in which the parts were written does not matter. When
some parts fail, and all that do fail alike, so does the descriptor.
-/

variable {σ α : Type}

/-! ## One record -/

/-- The payload of a written record is read back. -/
theorem readPayload_bytes
    {record : Record}
    (fits : record.Fits)
    (rest : Bytes) :
    ∃ tail,
      record.bytes ++ rest = Wire.writeTag record.tag ++ tail ∧
        Wire.readPayload record.tag tail = .ok record.payload rest := by
  cases record with
  | varint number value =>
      refine ⟨Wire.writeVarint value ++ rest, ?_, ?_⟩
      · rw [Record.bytes, Record.tag, List.append_assoc]
      · simp only [Record.tag, Wire.readPayload, Wire.readScalarPayload, bind,
          EStateM.bind, Wire.readVarint_writeVarint]
        rfl
  | lengthDelimited number content =>
      refine ⟨Wire.writeLengthDelimited content ++ rest, ?_, ?_⟩
      · rw [Record.bytes, Record.tag, List.append_assoc]
      · simp only [Record.tag, Wire.readPayload, Wire.readScalarPayload, bind,
          EStateM.bind, Wire.readLengthDelimited_writeLengthDelimited fits]
        rfl

/-- What a record does to a descriptor, or why it cannot be read. -/
def Layout.outcome
    (layout : Layout σ)
    (record : Record) :
    Except DecodeFailure (σ → σ) :=
  (layout record.tag).change record.payload

/-- Reading starts with the first record and goes on after it. -/
theorem readRecords_cons
    {layout : Layout σ}
    {descriptor : σ}
    {record : Record}
    (fits : record.Fits)
    (rest : Bytes) :
    readRecords layout descriptor (record.bytes ++ rest) =
      match layout.outcome record with
      | .ok change =>
          readRecords layout (change descriptor) rest
      | .error failure =>
          .error failure := by
  obtain ⟨tail, shape, payloadRead⟩ := readPayload_bytes fits rest
  rw [shape, readRecords_of_read (Wire.readTag_writeTag record.tag tail) payloadRead,
    Layout.outcome]
  cases (layout record.tag).change record.payload <;> rfl

/-! ## One part -/

/-- A part of a descriptor with the change that it stands for. -/
structure PartChange (σ : Type) where
  part : Part
  change : σ → σ

namespace PartChange

/-- A text to be set. -/
def text
    (number : UInt32)
    (set : String → σ → σ)
    (value : String) :
    PartChange σ :=
  ⟨.text number value, set value⟩

/-- A number to be set. -/
def int32
    (number : UInt32)
    (set : Int32 → σ → σ)
    (value : Int32) :
    PartChange σ :=
  ⟨.int32 number value, set value⟩

/-- A truth value to be set. -/
def flag
    (number : UInt32)
    (set : Bool → σ → σ)
    (value : Bool) :
    PartChange σ :=
  ⟨.flag number value, set value⟩

/-- An embedded descriptor to be added. -/
def embedded
    (number : UInt32)
    (encodings : α → Bytes → Prop)
    (add : α → σ → σ)
    (value : α) :
    PartChange σ :=
  ⟨.embedded number (encodings value), add value⟩

/-- Whether a layout makes the change, however the part was written. -/
def IsReadBy
    (layout : Layout σ)
    (entry : PartChange σ) :
    Prop :=
  ∀ record, entry.part.WrittenAs record → layout.outcome record = .ok entry.change

variable {layout : Layout σ} {number : UInt32}

theorem text_isReadBy
    {set : String → σ → σ}
    (component : layout ⟨number, .lengthDelimited⟩ = .text set)
    (value : String) :
    (text number set value).IsReadBy layout := by
  intro record written
  cases written
  simp only [Layout.outcome, Record.tag, Record.payload, component, Component.change,
    Wire.textOf_encode, text]

theorem int32_isReadBy
    {set : Int32 → σ → σ}
    (component : layout ⟨number, .varint⟩ = .int32 set)
    (value : Int32) :
    (int32 number set value).IsReadBy layout := by
  intro record written
  cases written
  simp only [Layout.outcome, Record.tag, Record.payload, component, Component.change,
    Wire.int32Of_ofInt32, int32]

theorem flag_isReadBy
    {set : Bool → σ → σ}
    (component : layout ⟨number, .varint⟩ = .flag set)
    (value : Bool) :
    (flag number set value).IsReadBy layout := by
  intro record written
  cases written
  simp only [Layout.outcome, Record.tag, Record.payload, component, Component.change,
    Wire.boolOf_ofBool, flag]

/-- An embedded descriptor is added when its encodings are read as that descriptor. -/
theorem embedded_isReadBy
    {label : String}
    {read : Bytes → Except DecodeFailure α}
    {add : α → σ → σ}
    {encodings : α → Bytes → Prop}
    {value : α}
    (component :
      layout ⟨number, .lengthDelimited⟩ = collected label read add)
    (inside : ∀ content, encodings value content → read content = .ok value) :
    (embedded number encodings add value).IsReadBy layout := by
  intro record written
  cases written with
  | embedded _ encoded =>
      simp only [Layout.outcome, Record.tag, Record.payload, component, collected,
        Component.change, inside _ encoded, Except.map, embedded]

theorem IsReadBy.exists_change
    {entry : PartChange σ}
    (isRead : entry.IsReadBy layout) :
    ∃ change, IsReadBy layout ⟨entry.part, change⟩ :=
  ⟨entry.change, isRead⟩

end PartChange

/-- Whether a layout fails to read a part, however it was written. -/
def Part.FailsAs
    (layout : Layout σ)
    (part : Part)
    (failure : DecodeFailure) :
    Prop :=
  ∀ record, part.WrittenAs record → layout.outcome record = .error failure

/-- A failure inside an embedded descriptor is one of the part, with its label. -/
theorem Part.embedded_failsAs
    {layout : Layout σ}
    {number : UInt32}
    {label : String}
    {read : Bytes → Except DecodeFailure α}
    {add : α → σ → σ}
    {encodings : Bytes → Prop}
    {failure : DecodeFailure}
    (component :
      layout ⟨number, .lengthDelimited⟩ = collected label read add)
    (inside : ∀ content, encodings content → read content = .error failure) :
    FailsAs layout (.embedded number encodings) (failure.within label) := by
  intro record written
  cases written with
  | embedded _ encoded =>
      simp only [Layout.outcome, Record.tag, Record.payload, component, collected,
        Component.change, inside _ encoded, Except.map]

/-! ## All parts -/

/-- Whether changes of parts with different numbers may change places. -/
def Commute (changes : List (PartChange σ)) : Prop :=
  ∀ first ∈ changes, ∀ second ∈ changes,
    first.part.number ≠ second.part.number →
    ∀ descriptor,
      first.change (second.change descriptor) =
        second.change (first.change descriptor)

/-- The descriptor after changes one after the other. -/
def applyAll
    (changes : List (PartChange σ))
    (descriptor : σ) :
    σ :=
  changes.foldl (fun current entry => entry.change current) descriptor

/-- A change that commutes with those before it may come first. -/
theorem applyAll_middle
    {before after : List (PartChange σ)}
    {entry : PartChange σ}
    (commute :
      ∀ earlier ∈ before, ∀ descriptor,
        entry.change (earlier.change descriptor) =
          earlier.change (entry.change descriptor))
    (descriptor : σ) :
    applyAll (before ++ entry :: after) descriptor =
      applyAll (before ++ after) (entry.change descriptor) := by
  induction before generalizing descriptor with
  | nil =>
      rfl
  | cons earlier before inductionHypothesis =>
      have headCommutes := commute earlier List.mem_cons_self descriptor
      have tailCommutes :
          ∀ other ∈ before, ∀ descriptor,
            entry.change (other.change descriptor) =
              other.change (entry.change descriptor) :=
        fun other member => commute other (List.mem_cons_of_mem _ member)
      have tail := inductionHypothesis tailCommutes (earlier.change descriptor)
      simp only [applyAll, List.cons_append, List.foldl_cons] at tail ⊢
      rw [tail, headCommutes]

/-- The first part that was written is the first of its number. -/
theorem exists_first_of_interleaves
    {part : Part}
    {order : List Part}
    {changes : List (PartChange σ)}
    (interleaves :
      Interleaves (part :: order) (changes.map PartChange.part)) :
    ∃ before entry after,
      changes = before ++ entry :: after ∧
        entry.part = part ∧
        (∀ earlier ∈ before, earlier.part.number ≠ part.number) ∧
        Interleaves order ((before ++ after).map PartChange.part) := by
  have heads := interleaves part.number
  rw [List.filter_cons_of_pos (by simp), List.filter_map] at heads
  obtain ⟨entry, tail, found, samePart, sameTail⟩ := List.map_eq_cons_iff.mp heads.symm
  obtain ⟨before, after, shape, earlierDiffers, entryNumber, tailShape⟩ :=
    List.filter_eq_cons_iff.mp found
  have differs : ∀ earlier ∈ before, earlier.part.number ≠ part.number := by
    intro earlier member same
    exact earlierDiffers earlier member (by simp [same])
  refine ⟨before, entry, after, shape, samePart, differs, ?_⟩
  have differsParts :
      ∀ earlier ∈ before.map PartChange.part, earlier.number ≠ part.number := by
    simpa only [List.forall_mem_map] using differs
  rw [shape, List.map_append, List.map_cons, samePart] at interleaves
  rw [List.map_append]
  exact (interleaves_cons_iff differsParts).mp interleaves

theorem changes_eq_nil_of_interleaves
    {changes : List (PartChange σ)}
    (interleaves : Interleaves [] (changes.map PartChange.part)) :
    changes = [] := by
  cases changes with
  | nil =>
      rfl
  | cons entry rest =>
      have same := interleaves entry.part.number
      rw [List.map_cons, List.filter_cons_of_pos (by simp)] at same
      cases same

/--
Records of parts make the changes of these parts, in whatever order parts with
different numbers were written.
-/
theorem readRecords_of_interleaves
    {layout : Layout σ}
    {order : List Part}
    {records : List Record}
    {changes : List (PartChange σ)}
    (interleaves : Interleaves order (changes.map PartChange.part))
    (written : List.Forall₂ Part.WrittenAs order records)
    (fits : ∀ record ∈ records, record.Fits)
    (reads : ∀ entry ∈ changes, entry.IsReadBy layout)
    (commute : Commute changes)
    (descriptor : σ) :
    readRecords layout descriptor (records.flatMap Record.bytes) =
      .ok (applyAll changes descriptor) := by
  -- The first record is moved to where its part stands in the list of changes.
  induction written generalizing changes descriptor with
  | nil =>
      rw [changes_eq_nil_of_interleaves interleaves, List.flatMap_nil, readRecords]
      rfl
  | @cons part record order records partWritten rest inductionHypothesis =>
      obtain ⟨before, entry, after, rfl, rfl, differs, restInterleaves⟩ :=
        exists_first_of_interleaves interleaves
      have entryMember : entry ∈ before ++ entry :: after := by
        simp
      have remains : ∀ other ∈ before ++ after, other ∈ before ++ entry :: after := by
        intro other member
        rcases List.mem_append.mp member with inBefore | inAfter
        · exact List.mem_append_left _ inBefore
        · exact List.mem_append_right _ (List.mem_cons_of_mem _ inAfter)
      have entryCommutes :
          ∀ earlier ∈ before, ∀ descriptor,
            entry.change (earlier.change descriptor) =
              earlier.change (entry.change descriptor) :=
        fun earlier member =>
          commute entry entryMember earlier (List.mem_append_left _ member)
            (differs earlier member).symm
      have tail :=
        inductionHypothesis restInterleaves
          (fun other member => fits other (List.mem_cons_of_mem _ member))
          (fun other member => reads other (remains other member))
          (fun first firstMember second secondMember =>
            commute first (remains first firstMember) second
              (remains second secondMember))
          (entry.change descriptor)
      rw [List.flatMap_cons, readRecords_cons (fits record List.mem_cons_self),
        reads entry entryMember record partWritten, applyAll_middle entryCommutes]
      exact tail

/-- An encoding of parts is read as their changes. -/
theorem readRecords_of_isEncoding
    {layout : Layout σ}
    {parts : List Part}
    {bytes : Bytes}
    {changes : List (PartChange σ)}
    (encoding : IsEncoding parts bytes)
    (sameParts : changes.map PartChange.part = parts)
    (reads : ∀ entry ∈ changes, entry.IsReadBy layout)
    (commute : Commute changes)
    (descriptor : σ) :
    readRecords layout descriptor bytes = .ok (applyAll changes descriptor) := by
  obtain ⟨order, records, interleaves, written, fits, rfl⟩ := encoding
  subst sameParts
  exact readRecords_of_interleaves interleaves written fits reads commute descriptor

/-! ## Failures -/

theorem mem_iff_of_interleaves
    {order parts : List Part}
    (interleaves : Interleaves order parts)
    (part : Part) :
    part ∈ order ↔ part ∈ parts := by
  have same : part ∈ order.filter (fun other => other.number == part.number) ↔
      part ∈ parts.filter (fun other => other.number == part.number) := by
    rw [interleaves part.number]
  simpa [List.mem_filter] using same

/--
When parts are read or else fail all alike, and one does fail, then the first
record of a failing part ends the reading.
-/
theorem readRecords_of_failure
    {layout : Layout σ}
    {parts : List Part}
    {bytes : Bytes}
    {failure : DecodeFailure}
    (encoding : IsEncoding parts bytes)
    (reads :
      ∀ part ∈ parts,
        (∃ change, PartChange.IsReadBy layout ⟨part, change⟩) ∨
          part.FailsAs layout failure)
    (fails : ∃ part ∈ parts, part.FailsAs layout failure)
    (descriptor : σ) :
    readRecords layout descriptor bytes = .error failure := by
  obtain ⟨order, records, interleaves, written, fits, rfl⟩ := encoding
  simp only [← mem_iff_of_interleaves interleaves] at reads fails
  clear interleaves
  induction written generalizing descriptor with
  | nil =>
      obtain ⟨part, member, _⟩ := fails
      cases member
  | @cons part record order records partWritten rest inductionHypothesis =>
      rw [List.flatMap_cons, readRecords_cons (fits record List.mem_cons_self)]
      rcases reads part List.mem_cons_self with ⟨change, readAs⟩ | failsAs
      · have failsLater : ∃ other ∈ order, other.FailsAs layout failure := by
          obtain ⟨other, member, otherFails⟩ := fails
          rcases List.mem_cons.mp member with isHead | later
          · subst isHead
            have impossible :=
              (readAs record partWritten).symm.trans (otherFails record partWritten)
            cases impossible
          · exact ⟨other, later, otherFails⟩
        rw [readAs record partWritten]
        exact
          inductionHypothesis
            (change descriptor)
            (fun other member => fits other (List.mem_cons_of_mem _ member))
            (fun other member => reads other (List.mem_cons_of_mem _ member))
            failsLater
      · rw [failsAs record partWritten]

end GrpcDiscovery.Descriptor
