import GrpcDiscovery.Proofs.Descriptor.Records
import GrpcDiscovery.ReflectionError

namespace GrpcDiscovery.Descriptor

/-!
# Decoding undoes encoding

For each kind of descriptor, its parts are listed with the change that each
makes to the descriptor under construction. The layout reads every part as this
change, the changes commute, and all of them together build the descriptor.

Messages are read with a number of levels to spare. A message that is no deeper
is read back, and one that is deeper fails at the level below the last.
-/

/-! ## Lists of parts -/

variable {σ α : Type}

/-! Changes of lists of items, of one item and others, and of two groups. -/

theorem applyAll_map
    {entry : α → PartChange σ}
    (changeAll : List α → σ → σ)
    (nothing : ∀ descriptor, changeAll [] descriptor = descriptor)
    (first :
      ∀ item rest descriptor,
        changeAll rest ((entry item).change descriptor) =
          changeAll (item :: rest) descriptor)
    (items : List α)
    (descriptor : σ) :
    applyAll (items.map entry) descriptor = changeAll items descriptor := by
  induction items generalizing descriptor with
  | nil =>
      exact (nothing descriptor).symm
  | cons item rest inductionHypothesis =>
      calc
        applyAll ((item :: rest).map entry) descriptor =
            applyAll (rest.map entry) ((entry item).change descriptor) :=
          rfl
        _ = changeAll rest ((entry item).change descriptor) :=
          inductionHypothesis ((entry item).change descriptor)
        _ = changeAll (item :: rest) descriptor :=
          first item rest descriptor

theorem applyAll_cons
    (entry : PartChange σ)
    (rest : List (PartChange σ))
    (descriptor : σ) :
    applyAll (entry :: rest) descriptor = applyAll rest (entry.change descriptor) :=
  rfl

theorem applyAll_append
    (first second : List (PartChange σ))
    (descriptor : σ) :
    applyAll (first ++ second) descriptor =
      applyAll second (applyAll first descriptor) :=
  List.foldl_append

/-! ## Enums -/

/-- What the parts of a value of an enum change. -/
def enumValueChanges (value : String × Int32) : List (PartChange (String × Int32)) :=
  [.text 1 (fun name current => (name, current.2)) value.1,
    .int32 2 (fun number current => (current.1, number)) value.2]

theorem decodeEnumValue_of_isEncoding
    {value : String × Int32}
    {bytes : Bytes}
    (encoding : IsEncoding (enumValueParts value) bytes) :
    decodeEnumValue bytes = .ok value := by
  have reads : ∀ entry ∈ enumValueChanges value, entry.IsReadBy enumValueLayout := by
    simp only [enumValueChanges, List.forall_mem_cons]
    exact ⟨PartChange.text_isReadBy rfl value.1, PartChange.int32_isReadBy rfl value.2,
      by simp⟩
  have commute : Commute (enumValueChanges value) := by
    intro first firstMember second secondMember differs descriptor
    simp only [enumValueChanges, List.mem_cons, List.not_mem_nil, or_false]
      at firstMember secondMember
    rcases firstMember with rfl | rfl <;> rcases secondMember with rfl | rfl <;> rfl
  exact readRecords_of_isEncoding encoding rfl reads commute ("", 0)

/-- What the parts of an enum change. -/
def enumChanges (enum : EnumDescriptor) : List (PartChange EnumDescriptor) :=
  .text 1 (fun name current => { current with name := name }) enum.name ::
    enum.values.map
      (.embedded 2 (fun value => IsEncoding (enumValueParts value)) fun value current =>
        { current with values := current.values ++ [value] })

theorem decodeEnum_of_isEncoding
    {enum : EnumDescriptor}
    {bytes : Bytes}
    (encoding : IsEncoding enum.parts bytes) :
    decodeEnum bytes = .ok enum := by
  have sameParts : (enumChanges enum).map PartChange.part = enum.parts := by
    simp [enumChanges, EnumDescriptor.parts, PartChange.text, PartChange.embedded]
  have reads : ∀ entry ∈ enumChanges enum, entry.IsReadBy enumLayout := by
    simp only [enumChanges, List.forall_mem_cons, List.forall_mem_map]
    exact ⟨PartChange.text_isReadBy rfl enum.name, fun value _ =>
      PartChange.embedded_isReadBy rfl fun _ => decodeEnumValue_of_isEncoding⟩
  have commute : Commute (enumChanges enum) := by
    intro first firstMember second secondMember differs descriptor
    simp only [enumChanges, List.mem_cons, List.mem_map] at firstMember secondMember
    rcases firstMember with rfl | ⟨_, _, rfl⟩ <;>
      rcases secondMember with rfl | ⟨_, _, rfl⟩ <;>
      first
        | rfl
        | exact absurd rfl differs
  have built : applyAll (enumChanges enum) {} = enum := by
    rw [enumChanges, applyAll_cons,
      applyAll_map
        (fun values current => { current with values := current.values ++ values })
        (by simp)
        (by simp [PartChange.embedded])]
    rfl
  rw [decodeEnum, readRecords_of_isEncoding encoding sameParts reads commute, built]

/-! ## Fields -/

/-- What the parts of a field change. -/
def fieldChanges (field : FieldDescriptor) : List (PartChange FieldParts) :=
  [.text 1 (fun name parts => { parts with name := name }) field.name,
    .int32 3 (fun number parts => { parts with number := number }) field.number,
    .int32 4 (fun code parts => { parts with label := .ofCode code }) field.label.code,
    .int32 5 (fun code parts => { parts with type := .ofCode code }) field.type.code] ++
    field.typeName.toList.map
      (.text 6 fun typeName parts => { parts with typeName := some typeName }) ++
    field.oneofIndex.toList.map
      (.int32 9 fun index parts => { parts with oneofIndex := some index }) ++
    [.text 10 (fun jsonName parts => { parts with jsonName := some jsonName })
      field.jsonName]

/-- A field with a coded type is read back. -/
theorem decodeField_of_isEncoding
    {field : FieldDescriptor}
    {bytes : Bytes}
    (coded : ∃ code, field.type = .ofCode code)
    (encoding : IsEncoding field.parts bytes) :
    decodeField bytes = .ok field := by
  have sameParts : (fieldChanges field).map PartChange.part = field.parts := by
    simp [fieldChanges, FieldDescriptor.parts, PartChange.text, PartChange.int32,
      Function.comp_def]
  have reads : ∀ entry ∈ fieldChanges field, entry.IsReadBy fieldLayout := by
    simp only [fieldChanges, List.forall_mem_append, List.forall_mem_cons,
      List.forall_mem_map]
    refine ⟨⟨⟨⟨?_, ?_, ?_, ?_, by simp⟩, ?_⟩, ?_⟩, ?_, by simp⟩
    · exact PartChange.text_isReadBy rfl field.name
    · exact PartChange.int32_isReadBy rfl field.number
    · exact PartChange.int32_isReadBy rfl field.label.code
    · exact PartChange.int32_isReadBy rfl field.type.code
    · exact fun typeName _ => PartChange.text_isReadBy rfl typeName
    · exact fun index _ => PartChange.int32_isReadBy rfl index
    · exact PartChange.text_isReadBy rfl field.jsonName
  have commute : Commute (fieldChanges field) := by
    intro first firstMember second secondMember differs descriptor
    simp only [fieldChanges, List.mem_append, List.mem_cons, List.mem_map,
      List.not_mem_nil, or_false, or_assoc] at firstMember secondMember
    rcases firstMember with
      rfl | rfl | rfl | rfl | ⟨_, _, rfl⟩ | ⟨_, _, rfl⟩ | rfl <;>
      rcases secondMember with
        rfl | rfl | rfl | rfl | ⟨_, _, rfl⟩ | ⟨_, _, rfl⟩ | rfl <;>
      first
        | rfl
        | exact absurd rfl differs
  have built : (applyAll (fieldChanges field) {}).field = field := by
    obtain ⟨name, jsonName, number, type, label, typeName, oneofIndex⟩ := field
    have sameLabel := Label.ofCode_code label
    have sameType := FieldType.ofCode_code coded
    cases typeName <;> cases oneofIndex <;>
      simp_all [fieldChanges, applyAll, PartChange.text, PartChange.int32, FieldParts.field]
  rw [decodeField, readRecords_of_isEncoding encoding sameParts reads commute, Except.map,
    built]

/-! ## Services -/

/-- What the parts of a method change. -/
def methodChanges (method : MethodDescriptor) : List (PartChange MethodDescriptor) :=
  [.text 1 (fun name current => { current with name := name }) method.name,
    .text 2 (fun inputType current => { current with inputType := inputType })
      method.inputType,
    .text 3 (fun outputType current => { current with outputType := outputType })
      method.outputType,
    .flag 5 (fun streaming current => { current with clientStreaming := streaming })
      method.clientStreaming,
    .flag 6 (fun streaming current => { current with serverStreaming := streaming })
      method.serverStreaming]

theorem decodeMethod_of_isEncoding
    {method : MethodDescriptor}
    {bytes : Bytes}
    (encoding : IsEncoding method.parts bytes) :
    decodeMethod bytes = .ok method := by
  have reads : ∀ entry ∈ methodChanges method, entry.IsReadBy methodLayout := by
    simp only [methodChanges, List.forall_mem_cons]
    refine ⟨?_, ?_, ?_, ?_, ?_, by simp⟩
    · exact PartChange.text_isReadBy rfl method.name
    · exact PartChange.text_isReadBy rfl method.inputType
    · exact PartChange.text_isReadBy rfl method.outputType
    · exact PartChange.flag_isReadBy rfl method.clientStreaming
    · exact PartChange.flag_isReadBy rfl method.serverStreaming
  have commute : Commute (methodChanges method) := by
    intro first firstMember second secondMember differs descriptor
    simp only [methodChanges, List.mem_cons, List.not_mem_nil, or_false]
      at firstMember secondMember
    rcases firstMember with rfl | rfl | rfl | rfl | rfl <;>
      rcases secondMember with rfl | rfl | rfl | rfl | rfl <;>
      rfl
  exact readRecords_of_isEncoding encoding rfl reads commute {}

/-- What the parts of a service change. -/
def serviceChanges (service : ServiceDescriptor) : List (PartChange ServiceDescriptor) :=
  .text 1 (fun name current => { current with name := name }) service.name ::
    service.methods.map
      (.embedded 2 (fun method => IsEncoding method.parts) fun method current =>
        { current with methods := current.methods ++ [method] })

theorem decodeService_of_isEncoding
    {service : ServiceDescriptor}
    {bytes : Bytes}
    (encoding : IsEncoding service.parts bytes) :
    decodeService bytes = .ok service := by
  have sameParts : (serviceChanges service).map PartChange.part = service.parts := by
    simp [serviceChanges, ServiceDescriptor.parts, PartChange.text, PartChange.embedded]
  have reads : ∀ entry ∈ serviceChanges service, entry.IsReadBy serviceLayout := by
    simp only [serviceChanges, List.forall_mem_cons, List.forall_mem_map]
    exact ⟨PartChange.text_isReadBy rfl service.name, fun method _ =>
      PartChange.embedded_isReadBy rfl fun _ => decodeMethod_of_isEncoding⟩
  have commute : Commute (serviceChanges service) := by
    intro first firstMember second secondMember differs descriptor
    simp only [serviceChanges, List.mem_cons, List.mem_map] at firstMember secondMember
    rcases firstMember with rfl | ⟨_, _, rfl⟩ <;>
      rcases secondMember with rfl | ⟨_, _, rfl⟩ <;>
      first
        | rfl
        | exact absurd rfl differs
  have built : applyAll (serviceChanges service) {} = service := by
    rw [serviceChanges, applyAll_cons,
      applyAll_map
        (fun methods current => { current with methods := current.methods ++ methods })
        (by simp)
        (by simp [PartChange.embedded])]
    rfl
  rw [decodeService, readRecords_of_isEncoding encoding sameParts reads commute, built]

/-! ## Messages -/

/-- What the parts of a message change. -/
def messageChanges (message : MessageDescriptor) : List (PartChange MessageDescriptor) :=
  [.text 1 (fun name current => { current with name := name }) message.name] ++
    message.fields.map
      (.embedded 2 (fun field => IsEncoding field.parts) fun field current =>
        { current with fields := current.fields ++ [field] }) ++
    message.nestedTypes.map
      (.embedded 3 (fun inner => IsEncoding inner.parts) fun inner current =>
        { current with nestedTypes := current.nestedTypes ++ [inner] }) ++
    message.enumTypes.map
      (.embedded 4 (fun enum => IsEncoding enum.parts) fun enum current =>
        { current with enumTypes := current.enumTypes ++ [enum] })

/-- The changes of a message are those of its parts. -/
theorem part_messageChanges (message : MessageDescriptor) :
    (messageChanges message).map PartChange.part = message.parts := by
  obtain ⟨name, fields, nestedTypes, enumTypes⟩ := message
  simp [messageChanges, MessageDescriptor.parts, MessageDescriptor.embeddedParts_eq_map,
    PartChange.text, PartChange.embedded, Function.comp_def]

/-- All changes of a message build it. -/
theorem applyAll_messageChanges (message : MessageDescriptor) :
    applyAll (messageChanges message) {} = message := by
  rw [messageChanges, applyAll_append, applyAll_append, applyAll_append,
    applyAll_map
      (fun enums current => { current with enumTypes := current.enumTypes ++ enums })
      (by rintro ⟨⟩; simp)
      (by simp [PartChange.embedded]),
    applyAll_map
      (fun inner current => { current with nestedTypes := current.nestedTypes ++ inner })
      (by rintro ⟨⟩; simp)
      (by simp [PartChange.embedded]),
    applyAll_map
      (fun fields current => { current with fields := current.fields ++ fields })
      (by rintro ⟨⟩; simp)
      (by simp [PartChange.embedded])]
  obtain ⟨name, fields, nestedTypes, enumTypes⟩ := message
  rfl

/-- The changes of a message may be made in any order. -/
theorem commute_messageChanges (message : MessageDescriptor) :
    Commute (messageChanges message) := by
  intro first firstMember second secondMember differs descriptor
  simp only [messageChanges, List.mem_append, List.mem_cons, List.mem_map,
    List.not_mem_nil, or_false, or_assoc] at firstMember secondMember
  rcases firstMember with rfl | ⟨_, _, rfl⟩ | ⟨_, _, rfl⟩ | ⟨_, _, rfl⟩ <;>
    rcases secondMember with rfl | ⟨_, _, rfl⟩ | ⟨_, _, rfl⟩ | ⟨_, _, rfl⟩ <;>
    first
      | rfl
      | exact absurd rfl differs

/-- The parts of a message are read, those that are messages apart. -/
theorem messageChanges_isReadBy_or_nested
    {message : MessageDescriptor}
    (coded : ∀ field ∈ message.fields, ∃ code, field.type = .ofCode code)
    (nested : Bytes → Except DecodeFailure MessageDescriptor) :
    ∀ entry ∈ messageChanges message,
      entry.IsReadBy (messageLayout nested) ∨
        ∃ inner ∈ message.nestedTypes,
          entry =
            .embedded 3 (fun inner => IsEncoding inner.parts)
              (fun inner current =>
                { current with nestedTypes := current.nestedTypes ++ [inner] })
              inner := by
  simp only [messageChanges, List.forall_mem_append, List.forall_mem_cons,
    List.forall_mem_map]
  refine ⟨⟨⟨⟨?_, by simp⟩, ?_⟩, ?_⟩, ?_⟩
  · exact .inl (PartChange.text_isReadBy rfl message.name)
  · intro field member
    exact .inl (PartChange.embedded_isReadBy rfl fun _ =>
      decodeField_of_isEncoding (coded field member))
  · exact fun inner member => .inr ⟨inner, member, rfl⟩
  · intro enum member
    exact .inl (PartChange.embedded_isReadBy rfl fun _ => decodeEnum_of_isEncoding)

/-- A message no deeper than the levels to spare is read back. -/
theorem decodeMessage_of_isEncoding
    {levels : Nat}
    {message : MessageDescriptor}
    {bytes : Bytes}
    (coded : message.HasCodedTypes)
    (fits : message.depth ≤ levels)
    (encoding : IsEncoding message.parts bytes) :
    decodeMessage levels bytes = .ok message := by
  induction levels generalizing message bytes with
  | zero =>
      obtain ⟨name, fields, nestedTypes, enumTypes⟩ := message
      exact absurd fits (Nat.not_succ_le_zero _)
  | succ levels inductionHypothesis =>
      obtain ⟨codedFields, codedInner⟩ := coded
      have fitsInner := MessageDescriptor.depth_le_succ_iff.mp fits
      have reads :
          ∀ entry ∈ messageChanges message,
            entry.IsReadBy (messageLayout (decodeMessage levels)) := by
        intro entry member
        rcases messageChanges_isReadBy_or_nested codedFields (decodeMessage levels)
            entry member with isRead | ⟨inner, innerMember, rfl⟩
        · exact isRead
        · exact PartChange.embedded_isReadBy rfl fun _ =>
            inductionHypothesis (codedInner inner innerMember)
              (fitsInner inner innerMember)
      rw [decodeMessage,
        readRecords_of_isEncoding encoding (part_messageChanges message) reads
          (commute_messageChanges message),
        applyAll_messageChanges]

/-- The failure to read a message when messages nest in it beyond so many levels. -/
def tooDeep (levels : Nat) : DecodeFailure :=
  ⟨List.replicate levels "nested_type", .recursionLimitExceeded Wire.nestingLimit⟩

theorem tooDeep_succ (levels : Nat) :
    tooDeep (levels + 1) = (tooDeep levels).within "nested_type" :=
  rfl

/-- A message deeper than the levels to spare fails at the level below the last. -/
theorem decodeMessage_of_lt_depth
    {levels : Nat}
    {message : MessageDescriptor}
    {bytes : Bytes}
    (coded : message.HasCodedTypes)
    (deep : levels < message.depth)
    (encoding : IsEncoding message.parts bytes) :
    decodeMessage levels bytes = .error (tooDeep levels) := by
  induction levels generalizing message bytes with
  | zero =>
      rfl
  | succ levels inductionHypothesis =>
      obtain ⟨codedFields, codedInner⟩ := coded
      have failsAs :
          ∀ inner ∈ message.nestedTypes, levels < inner.depth →
            Part.FailsAs (messageLayout (decodeMessage levels))
              (.embedded 3 (IsEncoding inner.parts))
              ((tooDeep levels).within "nested_type") :=
        fun inner member innerDeep =>
          Part.embedded_failsAs rfl fun _ =>
            inductionHypothesis (codedInner inner member) innerDeep
      obtain ⟨deepest, deepestMember, deepestDeep⟩ :=
        MessageDescriptor.succ_lt_depth_iff.mp deep
      rw [decodeMessage, tooDeep_succ]
      apply readRecords_of_failure encoding
      · rw [← part_messageChanges message, List.forall_mem_map]
        intro entry member
        rcases messageChanges_isReadBy_or_nested codedFields (decodeMessage levels)
            entry member with isRead | ⟨inner, innerMember, rfl⟩
        · exact .inl isRead.exists_change
        · rcases Nat.lt_or_ge levels inner.depth with innerDeep | innerFits
          · exact .inr (failsAs inner innerMember innerDeep)
          · exact .inl
              (PartChange.embedded_isReadBy rfl fun _ =>
                decodeMessage_of_isEncoding (codedInner inner innerMember)
                  innerFits).exists_change
      · exact ⟨_, MessageDescriptor.embedded_mem_parts deepestMember,
          failsAs deepest deepestMember deepestDeep⟩

/-! ## Files -/

/-- What the parts of a file change. -/
def fileChanges (file : FileDescriptor) : List (PartChange FileDescriptor) :=
  [.text 1 (fun name current => { current with name := name }) file.name,
    .text 2 (fun package current => { current with package := package }) file.package] ++
    file.languageLevel.toList.map
      (.text 12 fun level current => { current with languageLevel := some level }) ++
    file.dependencies.map
      (.text 3 fun path current =>
        { current with dependencies := current.dependencies ++ [path] }) ++
    file.messageTypes.map
      (.embedded 4 (fun message => IsEncoding message.parts) fun message current =>
        { current with messageTypes := current.messageTypes ++ [message] }) ++
    file.enumTypes.map
      (.embedded 5 (fun enum => IsEncoding enum.parts) fun enum current =>
        { current with enumTypes := current.enumTypes ++ [enum] }) ++
    file.services.map
      (.embedded 6 (fun service => IsEncoding service.parts) fun service current =>
        { current with services := current.services ++ [service] })

theorem part_fileChanges (file : FileDescriptor) :
    (fileChanges file).map PartChange.part = file.parts := by
  simp [fileChanges, FileDescriptor.parts, MessageDescriptor.embeddedParts_eq_map,
    PartChange.text, PartChange.embedded, Function.comp_def]

theorem applyAll_fileChanges (file : FileDescriptor) :
    applyAll (fileChanges file) {} = file := by
  obtain ⟨name, package, dependencies, messageTypes, enumTypes, services,
    languageLevel⟩ := file
  rw [fileChanges, applyAll_append, applyAll_append, applyAll_append, applyAll_append,
    applyAll_append,
    applyAll_map
      (fun services current => { current with services := current.services ++ services })
      (by simp)
      (by simp [PartChange.embedded]),
    applyAll_map
      (fun enums current => { current with enumTypes := current.enumTypes ++ enums })
      (by simp)
      (by simp [PartChange.embedded]),
    applyAll_map
      (fun messages current =>
        { current with messageTypes := current.messageTypes ++ messages })
      (by simp)
      (by simp [PartChange.embedded]),
    applyAll_map
      (fun paths current => { current with dependencies := current.dependencies ++ paths })
      (by simp)
      (by simp [PartChange.text])]
  cases languageLevel <;> rfl

theorem commute_fileChanges (file : FileDescriptor) :
    Commute (fileChanges file) := by
  intro first firstMember second secondMember differs descriptor
  simp only [fileChanges, List.mem_append, List.mem_cons, List.mem_map,
    List.not_mem_nil, or_false, or_assoc] at firstMember secondMember
  rcases firstMember with
    rfl | rfl | ⟨_, _, rfl⟩ | ⟨_, _, rfl⟩ | ⟨_, _, rfl⟩ | ⟨_, _, rfl⟩ | ⟨_, _, rfl⟩ <;>
    rcases secondMember with
      rfl | rfl | ⟨_, _, rfl⟩ | ⟨_, _, rfl⟩ | ⟨_, _, rfl⟩ | ⟨_, _, rfl⟩ | ⟨_, _, rfl⟩ <;>
    first
      | rfl
      | exact absurd rfl differs

theorem fileChanges_isReadBy_or_message (file : FileDescriptor) :
    ∀ entry ∈ fileChanges file,
      entry.IsReadBy fileLayout ∨
        ∃ message ∈ file.messageTypes,
          entry =
            .embedded 4 (fun message => IsEncoding message.parts)
              (fun message current =>
                { current with messageTypes := current.messageTypes ++ [message] })
              message := by
  simp only [fileChanges, List.forall_mem_append, List.forall_mem_cons,
    List.forall_mem_map]
  refine ⟨⟨⟨⟨⟨⟨?_, ?_, by simp⟩, ?_⟩, ?_⟩, ?_⟩, ?_⟩, ?_⟩
  · exact .inl (PartChange.text_isReadBy rfl file.name)
  · exact .inl (PartChange.text_isReadBy rfl file.package)
  · exact fun level _ => .inl (PartChange.text_isReadBy rfl level)
  · exact fun path _ => .inl (PartChange.text_isReadBy rfl path)
  · exact fun message member => .inr ⟨message, member, rfl⟩
  · intro enum member
    exact .inl (PartChange.embedded_isReadBy rfl fun _ => decodeEnum_of_isEncoding)
  · intro service member
    exact .inl (PartChange.embedded_isReadBy rfl fun _ => decodeService_of_isEncoding)

/-- A file without messages that are too deep is read back. -/
theorem decodeFile_of_depth_le
    {file : FileDescriptor}
    {bytes : Bytes}
    (coded : file.HasCodedTypes)
    (fits : file.depth ≤ Wire.nestingLimit)
    (encoding : file.IsEncoding bytes) :
    FileDescriptor.decode bytes = .ok file := by
  have fitsMessages := MessageDescriptor.listDepth_le_iff.mp fits
  have reads : ∀ entry ∈ fileChanges file, entry.IsReadBy fileLayout := by
    intro entry member
    rcases fileChanges_isReadBy_or_message file entry member with
      isRead | ⟨message, messageMember, rfl⟩
    · exact isRead
    · exact PartChange.embedded_isReadBy rfl fun _ =>
        decodeMessage_of_isEncoding (coded message messageMember)
          (fitsMessages message messageMember)
  rw [FileDescriptor.decode,
    readRecords_of_isEncoding encoding (part_fileChanges file) reads
      (commute_fileChanges file),
    applyAll_fileChanges]

/-- A file with a message that is too deep fails at such a message. -/
theorem decodeFile_of_lt_depth
    {file : FileDescriptor}
    {bytes : Bytes}
    (coded : file.HasCodedTypes)
    (deep : Wire.nestingLimit < file.depth)
    (encoding : file.IsEncoding bytes) :
    FileDescriptor.decode bytes =
      .error ((tooDeep Wire.nestingLimit).within "message_type") := by
  have failsAs :
      ∀ message ∈ file.messageTypes, Wire.nestingLimit < message.depth →
        Part.FailsAs fileLayout
          (.embedded 4 (IsEncoding message.parts))
          ((tooDeep Wire.nestingLimit).within "message_type") :=
    fun message member messageDeep =>
      Part.embedded_failsAs rfl fun _ =>
        decodeMessage_of_lt_depth (coded message member) messageDeep
  obtain ⟨deepest, deepestMember, deepestDeep⟩ :=
    MessageDescriptor.lt_listDepth_iff.mp deep
  apply readRecords_of_failure encoding
  · rw [← part_fileChanges file, List.forall_mem_map]
    intro entry member
    rcases fileChanges_isReadBy_or_message file entry member with
      isRead | ⟨message, messageMember, rfl⟩
    · exact .inl isRead.exists_change
    · rcases Nat.lt_or_ge Wire.nestingLimit message.depth with messageDeep | messageFits
      · exact .inr (failsAs message messageMember messageDeep)
      · exact .inl
          (PartChange.embedded_isReadBy rfl fun _ =>
            decodeMessage_of_isEncoding (coded message messageMember)
              messageFits).exists_change
  · exact ⟨_, FileDescriptor.embedded_mem_parts deepestMember,
      failsAs deepest deepestMember deepestDeep⟩

/-- The wording of a failure at a message that is too deep. -/
theorem message_tooDeep
    (label : String)
    (rest : List String) :
    (ReflectionError.malformedDescriptor
        (.file ⟨label :: rest, .recursionLimitExceeded Wire.nestingLimit⟩)).message =
      "Malformed descriptor: FileDescriptorProto: " ++
        "Nesting deeper than 100 levels" ++
        (" (in " ++ String.intercalate " > " (label :: rest) ++ ")") := by
  have opening :
      "Malformed descriptor: " ++ "FileDescriptorProto: " =
        "Malformed descriptor: FileDescriptorProto: " := by
    decide
  have cause :
      (WireError.recursionLimitExceeded Wire.nestingLimit).message =
        "Nesting deeper than 100 levels" := by
    decide
  have located :
      (DecodeFailure.mk (label :: rest)
          (.recursionLimitExceeded Wire.nestingLimit)).message =
        (WireError.recursionLimitExceeded Wire.nestingLimit).message ++ " (in " ++
          String.intercalate " > " (label :: rest) ++ ")" :=
    rfl
  have worded (failure : DecodeFailure) :
      (ReflectionError.malformedDescriptor (.file failure)).message =
        "Malformed descriptor: " ++ ("FileDescriptorProto: " ++ failure.message) :=
    rfl
  rw [worded, located, cause, ← opening]
  simp only [String.append_assoc]

end GrpcDiscovery.Descriptor

namespace GrpcDiscovery

open Descriptor

/--
Decoding undoes every encoding of a file in which at most a hundred messages
nest. Beyond that it fails, and says that the nesting is too deep.
-/
theorem FileDescriptor.decode_of_isEncoding
    {file : FileDescriptor}
    {bytes : Bytes}
    (coded : file.HasCodedTypes)
    (encoding : file.IsEncoding bytes) :
    (file.depth ≤ 100 →
        FileDescriptor.decode bytes = .ok file) ∧
      (100 < file.depth →
        ∃ failure location,
          FileDescriptor.decode bytes = .error failure ∧
            failure.cause = .recursionLimitExceeded 100 ∧
            (ReflectionError.malformedDescriptor (.file failure)).message =
              "Malformed descriptor: FileDescriptorProto: " ++
                "Nesting deeper than 100 levels" ++ location) := by
  constructor
  · exact fun fits => decodeFile_of_depth_le coded fits encoding
  · intro deep
    have failed := decodeFile_of_lt_depth coded deep encoding
    exact ⟨_, _, failed, rfl, message_tooDeep _ _⟩

/-! ## A file out of order, and a chain that is too long -/

/-- A field whose number, type and alternative are negative. -/
def negativeField : FieldDescriptor where
  name := "f"
  jsonName := "g"
  number := -1
  type := .unknown (-7)
  label := .repeated
  typeName := none
  oneofIndex := some (-2)

/-- A file with one message, which has this field. -/
def negativeFile : FileDescriptor where
  name := "a"
  messageTypes := [{ name := "M", fields := [negativeField] }]

/-- An encoding of the field. -/
def negativeFieldBytes : Bytes :=
  [.lengthDelimited 1 (Utf8.encode "f"), .varint 3 (Wire.ofInt32 (-1)),
    .varint 4 (Wire.ofInt32 3), .varint 5 (Wire.ofInt32 (-7)),
    .varint 9 (Wire.ofInt32 (-2)),
    .lengthDelimited 10 (Utf8.encode "g")].flatMap Record.bytes

/-- An encoding of the message, with the field before the name. -/
def negativeMessageBytes : Bytes :=
  [.lengthDelimited 2 negativeFieldBytes,
    .lengthDelimited 1 (Utf8.encode "M")].flatMap Record.bytes

/-- An encoding of the file, with the message first. -/
def negativeFileBytes : Bytes :=
  [.lengthDelimited 4 negativeMessageBytes, .lengthDelimited 1 (Utf8.encode "a"),
    .lengthDelimited 2 (Utf8.encode "")].flatMap Record.bytes

theorem isEncoding_negativeField :
    Descriptor.IsEncoding negativeField.parts negativeFieldBytes := by
  apply isEncoding_of_writtenAs
  · exact
      .cons (.text 1 "f") <| .cons (.int32 3 (-1)) <| .cons (.int32 4 3) <|
        .cons (.int32 5 (-7)) <| .cons (.int32 9 (-2)) <| .cons (.text 10 "g") .nil
  · decide

theorem isEncoding_negativeMessage :
    Descriptor.IsEncoding
      [.text 1 "M", .embedded 2 (Descriptor.IsEncoding negativeField.parts)]
      negativeMessageBytes :=
  @IsEncoding.insert [.text 1 "M"] []
    (.embedded 2 (Descriptor.IsEncoding negativeField.parts))
    (.lengthDelimited 2 negativeFieldBytes) _
    (by simp [Part.number])
    (.embedded 2 isEncoding_negativeField)
    (by decide)
    (isEncoding_of_writtenAs (.cons (.text 1 "M") .nil) (by decide))

theorem isEncoding_negativeFile :
    negativeFile.IsEncoding negativeFileBytes :=
  @IsEncoding.insert [.text 1 "a", .text 2 ""] [] (.embedded 4 _)
    (.lengthDelimited 4 negativeMessageBytes) _
    (by simp [Part.number])
    (.embedded 4 isEncoding_negativeMessage)
    (by decide +kernel)
    (isEncoding_of_writtenAs (.cons (.text 1 "a") (.cons (.text 2 "") .nil)) (by decide))

/-- Messages without names, one inside the other, so many around the innermost. -/
def nestedChain : Nat → MessageDescriptor
  | 0 =>
      {}
  | around + 1 =>
      { nestedTypes := [nestedChain around] }

/-- An encoding of a chain of messages. -/
def nestedChainBytes : Nat → Bytes
  | 0 =>
      [.lengthDelimited 1 (Utf8.encode "")].flatMap Record.bytes
  | around + 1 =>
      [.lengthDelimited 1 (Utf8.encode ""),
        .lengthDelimited 3 (nestedChainBytes around)].flatMap Record.bytes

theorem depth_nestedChain (around : Nat) :
    (nestedChain around).depth = around + 1 := by
  induction around with
  | zero =>
      rfl
  | succ around inductionHypothesis =>
      simp [nestedChain, MessageDescriptor.depth, MessageDescriptor.listDepth,
        inductionHypothesis]

theorem hasCodedTypes_nestedChain (around : Nat) :
    (nestedChain around).HasCodedTypes := by
  induction around with
  | zero =>
      exact ⟨by simp [nestedChain], by simp [nestedChain]⟩
  | succ around inductionHypothesis =>
      refine ⟨by simp [nestedChain], ?_⟩
      simpa [nestedChain] using inductionHypothesis

/-- A chain takes at most forty bytes for each message. -/
theorem length_nestedChainBytes_le (around : Nat) :
    (nestedChainBytes around).length ≤ 40 * (around + 1) := by
  have name := Record.length_lengthDelimited_le 1 (Utf8.encode "")
  have noName : (Utf8.encode "").length = 0 := rfl
  induction around with
  | zero =>
      simp only [nestedChainBytes, List.flatMap_cons, List.flatMap_nil, List.length_append,
        List.length_nil]
      omega
  | succ around inductionHypothesis =>
      have inner := Record.length_lengthDelimited_le 3 (nestedChainBytes around)
      simp only [nestedChainBytes, List.flatMap_cons, List.flatMap_nil, List.length_append,
        List.length_nil]
      omega

theorem isEncoding_nestedChain
    {around : Nat}
    (short : 40 * (around + 1) < 2 ^ 64) :
    Descriptor.IsEncoding (nestedChain around).parts (nestedChainBytes around) := by
  induction around with
  | zero =>
      exact isEncoding_of_writtenAs (.cons (.text 1 "") .nil) (by decide)
  | succ around inductionHypothesis =>
      have inner := inductionHypothesis (by omega)
      have length := length_nestedChainBytes_le around
      apply isEncoding_of_writtenAs
      · exact .cons (.text 1 "") (.cons (.embedded 3 inner) .nil)
      · simp only [List.forall_mem_cons]
        exact ⟨by decide, Nat.lt_of_le_of_lt length (by omega), by simp⟩

/-- A file with a chain of a hundred and one messages. -/
def tooDeepFile : FileDescriptor where
  messageTypes := [nestedChain 100]

/-- An encoding of this file. -/
def tooDeepFileBytes : Bytes :=
  [.lengthDelimited 1 (Utf8.encode ""), .lengthDelimited 2 (Utf8.encode ""),
    .lengthDelimited 4 (nestedChainBytes 100)].flatMap Record.bytes

theorem isEncoding_tooDeepFile :
    tooDeepFile.IsEncoding tooDeepFileBytes := by
  have message := isEncoding_nestedChain (show 40 * (100 + 1) < 2 ^ 64 by decide)
  have length := length_nestedChainBytes_le 100
  apply isEncoding_of_writtenAs
  · exact .cons (.text 1 "") (.cons (.text 2 "") (.cons (.embedded 4 message) .nil))
  · simp only [List.forall_mem_cons]
    exact ⟨by decide, by decide, Nat.lt_of_le_of_lt length (by decide), by simp⟩

/-- The first file is read back, and the second fails at the innermost message. -/
theorem FileDescriptor.decode_of_isEncoding_negative_and_tooDeep :
    negativeFile.HasCodedTypes ∧ negativeFile.IsEncoding negativeFileBytes ∧
      negativeFile.depth ≤ 100 ∧
      FileDescriptor.decode negativeFileBytes = .ok negativeFile ∧
      tooDeepFile.HasCodedTypes ∧ tooDeepFile.IsEncoding tooDeepFileBytes ∧
      100 < tooDeepFile.depth ∧
      ∃ failure, FileDescriptor.decode tooDeepFileBytes = .error failure := by
  have codedNegative : negativeFile.HasCodedTypes := by
    intro message member
    obtain rfl := List.mem_singleton.mp member
    refine ⟨?_, by simp⟩
    intro field fieldMember
    obtain rfl := List.mem_singleton.mp fieldMember
    exact ⟨-7, rfl⟩
  have shallow : negativeFile.depth ≤ 100 := by
    decide
  have codedDeep : tooDeepFile.HasCodedTypes := by
    intro message member
    obtain rfl := List.mem_singleton.mp member
    exact hasCodedTypes_nestedChain 100
  have deep : 100 < tooDeepFile.depth := by
    simp [tooDeepFile, FileDescriptor.depth, MessageDescriptor.listDepth,
      depth_nestedChain]
  obtain ⟨failure, _, failed, _, _⟩ :=
    (FileDescriptor.decode_of_isEncoding codedDeep isEncoding_tooDeepFile).2 deep
  exact
    ⟨codedNegative, isEncoding_negativeFile, shallow,
      (FileDescriptor.decode_of_isEncoding codedNegative isEncoding_negativeFile).1 shallow,
      codedDeep, isEncoding_tooDeepFile, deep, failure, failed⟩

end GrpcDiscovery
