import GrpcDiscovery.Proofs.Descriptor.Kinds

namespace GrpcDiscovery.Descriptor

/-!
# Descriptors one behind the other

What is read from two encodings, one behind the other, is the merge of what is read
from each: repeated components are appended, and a singular component is the later
one wherever a later record sets it. Which records these are is told by their tags.

The merge is stated for what records build up. It holds before the later encoding's
first record, and each of its records keeps it. Only the JSON name of a field takes a
word more, for a field without one of its own is given the usual name in the end.
-/

/-! ## What the merge of two descriptors is -/

/-- The merge of two values of an enum, given the tags of the later one. -/
def mergeEnumValues
    (tags : List Tag)
    (earlier later : String × Int32) :
    String × Int32 where
  fst := if ⟨1, .lengthDelimited⟩ ∈ tags then later.1 else earlier.1
  snd := if ⟨2, .varint⟩ ∈ tags then later.2 else earlier.2

/-- The merge of two enums, given the tags of the later one. -/
def mergeEnums
    (tags : List Tag)
    (earlier later : EnumDescriptor) :
    EnumDescriptor where
  name := if ⟨1, .lengthDelimited⟩ ∈ tags then later.name else earlier.name
  values := earlier.values ++ later.values

/--
The merge of two fields, given the tags of both. The JSON name is the last that a
record sets; where none does, it is the usual name for the merged name.
-/
def mergeFields
    (earlierTags laterTags : List Tag)
    (earlier later : FieldDescriptor) :
    FieldDescriptor where
  name := if ⟨1, .lengthDelimited⟩ ∈ laterTags then later.name else earlier.name
  jsonName :=
    if ⟨10, .lengthDelimited⟩ ∈ laterTags then
      later.jsonName
    else if ⟨10, .lengthDelimited⟩ ∈ earlierTags then
      earlier.jsonName
    else
      jsonNameOf
        (if ⟨1, .lengthDelimited⟩ ∈ laterTags then later.name else earlier.name)
  number := if ⟨3, .varint⟩ ∈ laterTags then later.number else earlier.number
  type := if ⟨5, .varint⟩ ∈ laterTags then later.type else earlier.type
  label := if ⟨4, .varint⟩ ∈ laterTags then later.label else earlier.label
  typeName := if ⟨6, .lengthDelimited⟩ ∈ laterTags then later.typeName else earlier.typeName
  oneofIndex := if ⟨9, .varint⟩ ∈ laterTags then later.oneofIndex else earlier.oneofIndex

/-- The merge of two messages, given the tags of the later one. -/
def mergeMessages
    (tags : List Tag)
    (earlier later : MessageDescriptor) :
    MessageDescriptor where
  name := if ⟨1, .lengthDelimited⟩ ∈ tags then later.name else earlier.name
  fields := earlier.fields ++ later.fields
  nestedTypes := earlier.nestedTypes ++ later.nestedTypes
  enumTypes := earlier.enumTypes ++ later.enumTypes

/-- The merge of two methods, given the tags of the later one. -/
def mergeMethods
    (tags : List Tag)
    (earlier later : MethodDescriptor) :
    MethodDescriptor where
  name := if ⟨1, .lengthDelimited⟩ ∈ tags then later.name else earlier.name
  inputType := if ⟨2, .lengthDelimited⟩ ∈ tags then later.inputType else earlier.inputType
  outputType := if ⟨3, .lengthDelimited⟩ ∈ tags then later.outputType else earlier.outputType
  clientStreaming :=
    if ⟨4, .varint⟩ ∈ tags ∨ ⟨5, .varint⟩ ∈ tags then
      later.clientStreaming
    else
      earlier.clientStreaming
  serverStreaming :=
    if ⟨6, .varint⟩ ∈ tags then later.serverStreaming else earlier.serverStreaming

/-- The merge of two services, given the tags of the later one. -/
def mergeServices
    (tags : List Tag)
    (earlier later : ServiceDescriptor) :
    ServiceDescriptor where
  name := if ⟨1, .lengthDelimited⟩ ∈ tags then later.name else earlier.name
  methods := earlier.methods ++ later.methods

/-- The merge of two files, given the tags of the later one. -/
def mergeFiles
    (tags : List Tag)
    (earlier later : FileDescriptor) :
    FileDescriptor where
  name := if ⟨1, .lengthDelimited⟩ ∈ tags then later.name else earlier.name
  package := if ⟨2, .lengthDelimited⟩ ∈ tags then later.package else earlier.package
  dependencies := earlier.dependencies ++ later.dependencies
  messageTypes := earlier.messageTypes ++ later.messageTypes
  enumTypes := earlier.enumTypes ++ later.enumTypes
  services := earlier.services ++ later.services
  languageLevel :=
    if ⟨12, .lengthDelimited⟩ ∈ tags then later.languageLevel else earlier.languageLevel

/-- The merge of two descriptors of a kind, given the tags of both. -/
def Kind.merge :
    (kind : Kind) →
    (earlierTags laterTags : List Tag) →
    kind.Value →
    kind.Value →
    kind.Value
  | .file, _, tags =>
      mergeFiles tags
  | .message _, _, tags =>
      mergeMessages tags
  | .field, earlierTags, laterTags =>
      mergeFields earlierTags laterTags
  | .enum, _, tags =>
      mergeEnums tags
  | .enumValue, _, tags =>
      mergeEnumValues tags
  | .service, _, tags =>
      mergeServices tags
  | .method, _, tags =>
      mergeMethods tags

/-! ## Reading on from what was read before -/

variable {σ : Type} {layout : Layout σ} {initial : σ} {merge : List Tag → σ → σ → σ}

/--
Whether a layout's records build up a merge: it is the earlier descriptor as long as
there is no later record, and a change to it is a change to the later descriptor.
-/
structure Layout.MergesBy
    (layout : Layout σ)
    (initial : σ)
    (merge : List Tag → σ → σ → σ) :
    Prop where
  nothing (earlier : σ) :
    merge [] earlier initial = earlier
  record
    {tag : Tag}
    {change : σ → σ}
    (makes : (layout tag).Makes change)
    (tags : List Tag)
    (earlier later : σ) :
    change (merge tags earlier later) = merge (tags ++ [tag]) earlier (change later)
  has (tag : Tag) :
    (layout tag).Has tag.wireType

/-- Further records change a merge as they change its later descriptor. -/
theorem Layout.MergesBy.apply
    (mergesBy : layout.MergesBy initial merge)
    (earlier : σ)
    (records : List Wire.Record)
    (tags : List Tag)
    (later : σ) :
    layout.apply (merge tags earlier later) records =
      (layout.apply later records).map
        (merge (tags ++ records.map Wire.Record.tag) earlier) := by
  induction records generalizing tags later with
  | nil =>
      rw [List.map_nil, List.append_nil]
      rfl
  | cons record records inductionHypothesis =>
      rw [Layout.apply, Layout.apply]
      cases effect : layout.effect record with
      | error failure =>
          rfl
      | ok change =>
          have makes := (mergesBy.has record.tag).makes effect
          simp only [mergesBy.record makes, inductionHypothesis]
          rw [List.append_assoc, List.map_cons, List.singleton_append]

/-- Reading on is reading anew, and then merging. -/
theorem Layout.MergesBy.readRecords
    (mergesBy : layout.MergesBy initial merge)
    (earlier : σ)
    (bytes : Bytes) :
    Descriptor.readRecords layout earlier bytes =
      (Descriptor.readRecords layout initial bytes).map
        (merge (Wire.tagsOf bytes) earlier) := by
  obtain ⟨run, rest, isRun, noRecord, shape⟩ := Wire.exists_isRun_recordsOf bytes
  have applied := mergesBy.apply earlier (Wire.recordsOf bytes) [] initial
  rw [mergesBy.nothing, List.nil_append, ← Wire.tagsOf] at applied
  rw [shape, readRecords_of_isRun isRun, readRecords_of_isRun isRun, ← shape, applied]
  cases layout.apply initial (Wire.recordsOf bytes) with
  | error failure =>
      rfl
  | ok later =>
      by_cases atEnd : rest = []
      · subst atEnd
        simp only [Except.map, readRecords_nil]
      · obtain ⟨failure, fails⟩ :=
          exists_failure_of_beginsWithoutRecord layout noRecord atEnd
        simp only [Except.map, fails]

/-! ## What the records of each kind build up -/

/-- The merge of what was read of two fields, given the tags of the later one. -/
def mergeFieldParts
    (tags : List Tag)
    (earlier later : FieldParts) :
    FieldParts where
  name := if ⟨1, .lengthDelimited⟩ ∈ tags then later.name else earlier.name
  jsonName := if ⟨10, .lengthDelimited⟩ ∈ tags then later.jsonName else earlier.jsonName
  number := if ⟨3, .varint⟩ ∈ tags then later.number else earlier.number
  type := if ⟨5, .varint⟩ ∈ tags then later.type else earlier.type
  label := if ⟨4, .varint⟩ ∈ tags then later.label else earlier.label
  typeName := if ⟨6, .lengthDelimited⟩ ∈ tags then later.typeName else earlier.typeName
  oneofIndex := if ⟨9, .varint⟩ ∈ tags then later.oneofIndex else earlier.oneofIndex

namespace Kind

/-- The merge of what was read of two descriptors of a kind. -/
def mergeParts :
    (kind : Kind) →
    List Tag →
    kind.Parts →
    kind.Parts →
    kind.Parts
  | .file =>
      mergeFiles
  | .message _ =>
      mergeMessages
  | .field =>
      mergeFieldParts
  | .enum =>
      mergeEnums
  | .enumValue =>
      mergeEnumValues
  | .service =>
      mergeServices
  | .method =>
      mergeMethods

theorem mergeParts_nil
    (kind : Kind)
    (earlier : kind.Parts) :
    kind.mergeParts [] earlier kind.initial = earlier := by
  cases kind
  all_goals
    cases earlier
    simp only [mergeParts, initial, mergeFiles, mergeMessages, mergeFieldParts, mergeEnums,
      mergeEnumValues, mergeServices, mergeMethods, List.not_mem_nil, List.append_nil,
      if_false, or_false]

private theorem mem_append_singleton_iff
    {tag wanted : Tag}
    {tags : List Tag} :
    wanted ∈ tags ++ [tag] ↔ wanted ∈ tags ∨ tag = wanted := by
  rw [List.mem_append, List.mem_singleton, @eq_comm _ tag]

/-- A tag that is not interpreted makes no component the later one. -/
theorem mergeParts_append_of_not_interpreted
    {kind : Kind}
    {tag : Tag}
    (notInterpreted : tag ∉ kind.interpreted)
    (tags : List Tag) :
    kind.mergeParts (tags ++ [tag]) = kind.mergeParts tags := by
  funext earlier later
  cases kind
  all_goals
    simp only [interpreted, List.mem_cons, List.not_mem_nil, or_false, not_or]
      at notInterpreted
    simp only [mergeParts, mergeFiles, mergeMessages, mergeFieldParts, mergeEnums,
      mergeEnumValues, mergeServices, mergeMethods, mem_append_singleton_iff,
      notInterpreted, or_false]

/-- A later record changes the merge as it changes the later descriptor. -/
theorem change_mergeParts
    {kind : Kind}
    {tag : Tag}
    {change : kind.Parts → kind.Parts}
    (makes : (kind.layout tag).Makes change)
    (tags : List Tag)
    (earlier later : kind.Parts) :
    change (kind.mergeParts tags earlier later) =
      kind.mergeParts (tags ++ [tag]) earlier (change later) := by
  by_cases isInterpreted : tag ∈ kind.interpreted
  · -- The record sets the one component that its tag then makes the later one, or it
    -- appends to a list of which it does not matter where it was divided.
    cases kind
    all_goals
      simp only [interpreted, List.mem_cons, List.not_mem_nil, or_false] at isInterpreted
      rcases isInterpreted with rfl | rfl | rfl | rfl | rfl | rfl | rfl
    all_goals
      first
      | obtain ⟨value, rfl⟩ := makes
      | obtain ⟨value, rfl⟩ := exists_add_of_makes makes
    all_goals
      simp [mergeParts, mergeFiles, mergeMessages, mergeFieldParts, mergeEnums,
        mergeEnumValues, mergeServices, mergeMethods]
  · rw [layout_eq_unrecognized isInterpreted] at makes
    cases makes
    rw [mergeParts_append_of_not_interpreted isInterpreted]
    rfl

theorem mergesBy (kind : Kind) :
    kind.layout.MergesBy kind.initial kind.mergeParts where
  nothing :=
    kind.mergeParts_nil
  record :=
    change_mergeParts
  has :=
    kind.layout_has

end Kind

/-! ## The JSON name of a field -/

/-- A field has a JSON name of its own when a record with its tag was read. -/
theorem isSome_jsonName_of_apply
    {parts reached : FieldParts}
    {records : List Wire.Record}
    (applied : fieldLayout.apply parts records = .ok reached) :
    reached.jsonName.isSome ↔
      parts.jsonName.isSome ∨ ⟨10, .lengthDelimited⟩ ∈ records.map Wire.Record.tag := by
  induction records generalizing parts with
  | nil =>
      cases applied
      simp
  | cons record records inductionHypothesis =>
      rw [Layout.apply] at applied
      split at applied
      · cases applied
      · rename_i change effect
        have step :
            (change parts).jsonName.isSome ↔
              parts.jsonName.isSome ∨ record.tag = ⟨10, .lengthDelimited⟩ := by
          have makes := (Kind.field.layout_has record.tag).makes effect
          simp only [Kind.layout, fieldLayout] at makes
          split at makes
          all_goals
            obtain ⟨value, rfl⟩ := makes
            simp_all
        rw [inductionHypothesis applied, step, List.map_cons, List.mem_cons, or_assoc,
          @eq_comm _ record.tag]

theorem isSome_jsonName_of_read
    {bytes : Bytes}
    {parts : FieldParts}
    (read : Kind.field.read bytes = .ok parts) :
    parts.jsonName.isSome ↔ ⟨10, .lengthDelimited⟩ ∈ Wire.tagsOf bytes := by
  obtain ⟨_, applied⟩ := isRun_of_readRecords read
  rw [isSome_jsonName_of_apply applied, Wire.tagsOf]
  simp [Kind.initial]

/-- Fields merge as their parts do, the missing JSON names included. -/
theorem field_mergeFieldParts
    {earlierTags laterTags : List Tag}
    {earlier later : FieldParts}
    (earlierNamed : earlier.jsonName.isSome ↔ ⟨10, .lengthDelimited⟩ ∈ earlierTags)
    (laterNamed : later.jsonName.isSome ↔ ⟨10, .lengthDelimited⟩ ∈ laterTags) :
    (mergeFieldParts laterTags earlier later).field =
      mergeFields earlierTags laterTags earlier.field later.field := by
  simp only [mergeFieldParts, mergeFields, FieldParts.field, ← earlierNamed, ← laterNamed,
    FieldDescriptor.mk.injEq, true_and, and_true]
  cases later.jsonName <;> cases earlier.jsonName <;> rfl

namespace Kind

/-- What is finished of a merge is the merge of what is finished. -/
theorem finish_mergeParts
    {kind : Kind}
    {first second : Bytes}
    {earlier later : kind.Parts}
    (firstRead : kind.read first = .ok earlier)
    (secondRead : kind.read second = .ok later) :
    kind.finish (kind.mergeParts (Wire.tagsOf second) earlier later) =
      kind.merge (Wire.tagsOf first) (Wire.tagsOf second) (kind.finish earlier)
        (kind.finish later) := by
  cases kind with
  | field =>
      exact field_mergeFieldParts (isSome_jsonName_of_read firstRead)
        (isSome_jsonName_of_read secondRead)
  | _ =>
      rfl

/--
Behind an encoding that decodes on its own, another one decodes as it does on its own,
and the descriptor is the merge of both; it fails as it fails on its own.
-/
theorem decode_append
    {kind : Kind}
    {first : Bytes}
    {earlier : kind.Value}
    (decoded : kind.decode first = .ok earlier)
    (second : Bytes) :
    kind.decode (first ++ second) =
      (kind.decode second).map
        (kind.merge (Wire.tagsOf first) (Wire.tagsOf second) earlier) := by
  obtain ⟨parts, firstRead, rfl⟩ := exists_read_of_decode decoded
  have reading :
      kind.read (first ++ second) =
        (kind.read second).map (kind.mergeParts (Wire.tagsOf second) parts) := by
    rw [read, readRecords_append firstRead, kind.mergesBy.readRecords]
    rfl
  rw [decode_eq_of_decode decoded, decode_eq_of_decode decoded, reading]
  cases secondRead : kind.read second with
  | error failure =>
      rfl
  | ok later =>
      simp only [Except.map, finish_mergeParts firstRead secondRead]

/-- A field `a_b` with the number 3, and a later name without a JSON name for it. -/
theorem decode_append_renamedField :
    decodeField [0x0a, 3, 0x61, 0x5f, 0x62, 0x18, 3] =
      .ok ⟨"a_b", "aB", 3, .unknown 0, .optional, none, none⟩ ∧
    decodeField ([0x0a, 3, 0x61, 0x5f, 0x62, 0x18, 3] ++ [0x0a, 3, 0x63, 0x5f, 0x64]) =
      .ok ⟨"c_d", "cD", 3, .unknown 0, .optional, none, none⟩ := by
  have first :
      Kind.field.decode [0x0a, 3, 0x61, 0x5f, 0x62, 0x18, 3] =
        .ok ⟨"a_b", "aB", 3, .unknown 0, .optional, none, none⟩ := by
    decide +kernel
  have second :
      Kind.field.decode [0x0a, 3, 0x63, 0x5f, 0x64] =
        .ok ⟨"c_d", "cD", 0, .unknown 0, .optional, none, none⟩ := by
    decide +kernel
  have firstTags :
      Wire.tagsOf [0x0a, 3, 0x61, 0x5f, 0x62, 0x18, 3] =
        [⟨1, .lengthDelimited⟩, ⟨3, .varint⟩] := by
    decide +kernel
  have secondTags :
      Wire.tagsOf [0x0a, 3, 0x63, 0x5f, 0x64] = [⟨1, .lengthDelimited⟩] := by
    decide +kernel
  have merged := decode_append first [0x0a, 3, 0x63, 0x5f, 0x64]
  rw [second, firstTags, secondTags] at merged
  refine ⟨first, merged.trans ?_⟩
  decide +kernel

end Kind

end GrpcDiscovery.Descriptor
