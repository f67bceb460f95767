import GrpcDiscovery.Proofs.Descriptor.Unrecognized

namespace GrpcDiscovery

namespace Descriptor

/-!
# Where descriptors fail

A failure to decode comes with the path of components that enclose it. The path is a
word of a grammar that follows the kinds of descriptors and what they embed: it starts
at the outermost component, and messages nest in it only as deep as they may. A failure
inside an embedded descriptor passes through the descriptors around it, and each of them
puts its name for the embedded one in front.
-/

/-! ## The failures of a layout -/

/-- The failures that reading records by a layout can end in. -/
inductive Layout.Raises
    {σ : Type}
    (layout : Layout σ) :
    DecodeFailure → Prop where
  | here (cause : WireError) :
      Raises layout (.here cause)
  | payload
      {tag : Tag}
      {label : String}
      {read : Bytes → Except DecodeFailure (σ → σ)}
      (component : layout tag = .embedded label read)
      (cause : WireError) :
      Raises layout ((DecodeFailure.here cause).within label)
  | inside
      {tag : Tag}
      {label : String}
      {read : Bytes → Except DecodeFailure (σ → σ)}
      {content : Bytes}
      {failure : DecodeFailure}
      (component : layout tag = .embedded label read)
      (failed : read content = .error failure) :
      Raises layout (failure.within label)

/-- A conversion does not change why there is nothing to convert. -/
private theorem eq_error_of_map
    {α β : Type}
    {result : Except DecodeFailure α}
    {convert : α → β}
    {failure : DecodeFailure}
    (failed : result.map convert = .error failure) :
    result = .error failure := by
  cases result with
  | ok value =>
      cases failed
  | error cause =>
      cases failed
      rfl

section Layout

variable {σ : Type} {layout : Layout σ} {tag : Tag}

theorem raises_locate (cause : WireError) :
    layout.Raises ((layout tag).locate cause) := by
  cases component : layout tag with
  | embedded label read =>
      exact .payload component cause
  | _ =>
      exact .here cause

theorem raises_of_change
    {payload : Wire.Payload}
    {failure : DecodeFailure}
    (failed : (layout tag).change payload = .error failure) :
    layout.Raises failure := by
  cases component : layout tag with
  | text set =>
      rw [component] at failed
      cases payload with
      | lengthDelimited content =>
          simp only [Component.change] at failed
          split at failed
          · cases failed
          · cases failed
            exact .here _
      | _ =>
          cases failed
  | embedded label read =>
      rw [component] at failed
      cases payload with
      | lengthDelimited content =>
          simp only [Component.change] at failed
          split at failed
          · cases failed
          · rename_i contentFailed
            cases failed
            exact .inside component contentFailed
      | _ =>
          cases failed
  | _ =>
      rw [component] at failed
      cases payload <;> cases failed

/-- Whatever ends the reading of records was raised by one of them. -/
theorem raises_of_readRecords
    {descriptor : σ}
    {bytes : Bytes}
    {failure : DecodeFailure}
    (failed : readRecords layout descriptor bytes = .error failure) :
    layout.Raises failure := by
  fun_induction readRecords layout descriptor bytes with
  | case1 =>
      cases failed
  | case2 =>
      cases failed
      exact .here _
  | case3 =>
      cases failed
      exact raises_locate _
  | case4 _ _ _ _ _ _ _ _ _ _ _ _ changeFailed =>
      cases failed
      exact raises_of_change changeFailed
  | case5 =>
      rename_i inductionHypothesis
      exact inductionHypothesis failed

end Layout

namespace Kind

variable {kind inner : Kind} {number : UInt32}

/-! ## The names of embedded descriptors -/

/-- What a descriptor calls the descriptors of a kind that it embeds. -/
def label : (outer inner : Kind) → String
  | .file, .message _ =>
      "message_type"
  | _, .message _ =>
      "nested_type"
  | _, .field =>
      "field"
  | _, .enum =>
      "enum_type"
  | _, .enumValue =>
      "value"
  | _, .service =>
      "service"
  | _, .method =>
      "method"
  | _, .file =>
      "file"

theorem Embeds.layout_eq_collected (embeds : kind.Embeds number inner) :
    ∃ add, kind.layout ⟨number, .lengthDelimited⟩ =
      collected (kind.label inner) inner.decode add := by
  cases embeds <;> exact ⟨_, rfl⟩

/-- Every embedded component of a kind that can be read is a descriptor of a kind that it embeds. -/
theorem exists_embeds_of_layout
    {tag : Tag}
    {name : String}
    {read : Bytes → Except DecodeFailure (kind.Parts → kind.Parts)}
    (readable : kind ≠ .message 0)
    (component : kind.layout tag = .embedded name read) :
    ∃ inner add, kind.Embeds tag.number inner ∧ name = kind.label inner ∧
      read = fun content => (inner.decode content).map add := by
  cases kind with
  | file =>
      simp only [layout, fileLayout] at component
      split at component <;> cases component
      · exact ⟨_, _, .fileMessage, rfl, rfl⟩
      · exact ⟨_, _, .fileEnum, rfl, rfl⟩
      · exact ⟨_, _, .fileService, rfl, rfl⟩
  | message levels =>
      cases levels with
      | zero =>
          exact absurd rfl readable
      | succ levels =>
          simp only [layout, messageLayout] at component
          split at component <;> cases component
          · exact ⟨_, _, .messageField, rfl, rfl⟩
          · exact ⟨_, _, .nestedMessage, rfl, rfl⟩
          · exact ⟨_, _, .messageEnum, rfl, rfl⟩
  | enum =>
      simp only [layout, enumLayout] at component
      split at component <;> cases component
      exact ⟨_, _, .enumValue, rfl, rfl⟩
  | service =>
      simp only [layout, serviceLayout] at component
      split at component <;> cases component
      exact ⟨_, _, .serviceMethod, rfl, rfl⟩
  | field =>
      simp only [layout, fieldLayout] at component
      split at component <;> cases component
  | enumValue =>
      simp only [layout, enumValueLayout] at component
      split at component <;> cases component
  | method =>
      simp only [layout, methodLayout] at component
      split at component <;> cases component

/-! ## Paths through kinds -/

/-- The paths of names from a kind of descriptor to one embedded in it at any depth. -/
inductive IsPath : Kind → List String → Prop where
  | here
      {kind : Kind} :
      IsPath kind []
  | inside
      {kind inner : Kind}
      {number : UInt32}
      {path : List String} :
      kind.Embeds number inner →
      IsPath inner path →
      IsPath kind (kind.label inner :: path)

/-- How many kinds can be embedded one in the other, from a kind inwards. -/
def height : Kind → Nat
  | .file =>
      Wire.nestingLimit + 2
  | .message levels =>
      levels + 1
  | .enum =>
      1
  | .service =>
      1
  | _ =>
      0

theorem Embeds.height_lt (embeds : kind.Embeds number inner) :
    inner.height < kind.height := by
  cases embeds <;> simp only [height, Wire.nestingLimit] <;> omega

theorem IsPath.length_le
    {path : List String}
    (isPath : kind.IsPath path) :
    path.length ≤ kind.height := by
  induction isPath with
  | here =>
      exact Nat.zero_le _
  | inside embeds _ inductionHypothesis =>
      exact Nat.lt_of_le_of_lt inductionHypothesis embeds.height_lt

/-- A failure of a kind lies where those of the kinds that it embeds can lie, or further out. -/
theorem isPath_of_raises
    {failure : DecodeFailure}
    (readable : kind ≠ .message 0)
    (ofEmbedded : ∀ number inner, kind.Embeds number inner → ∀ content failure,
      inner.decode content = .error failure → inner.IsPath failure.path)
    (raises : kind.layout.Raises failure) :
    kind.IsPath failure.path := by
  cases raises with
  | here =>
      exact .here
  | payload component =>
      obtain ⟨inner, _, embeds, rfl, _⟩ := exists_embeds_of_layout readable component
      exact .inside embeds .here
  | @inside _ _ _ content _ component failed =>
      obtain ⟨inner, _, embeds, rfl, rfl⟩ := exists_embeds_of_layout readable component
      exact .inside embeds (ofEmbedded _ inner embeds content _ (eq_error_of_map failed))

/-- Every failure to decode lies on a path through the kinds. -/
theorem isPath_of_decode_error
    {kind : Kind}
    {bytes : Bytes}
    {failure : DecodeFailure}
    (failed : kind.decode bytes = .error failure) :
    kind.IsPath failure.path := by
  by_cases unreadable : kind = .message 0
  · subst unreadable
    cases failed
    exact .here
  · rw [decode_eq_read unreadable] at failed
    refine isPath_of_raises unreadable (fun number inner embeds content failure innerFailed => ?_)
      (raises_of_readRecords (eq_error_of_map failed))
    have := embeds.height_lt
    exact isPath_of_decode_error innerFailed
termination_by kind.height

/-! ## The grammar of paths -/

/-- The paths to a failure inside an enum, from where the enum is declared. -/
inductive IsEnumPath : List String → Prop where
  | enum :
      IsEnumPath ["enum_type"]
  | value :
      IsEnumPath ["enum_type", "value"]

/-- What may follow the messages on a path. -/
inductive IsMessageEnd : List String → Prop where
  | nothing :
      IsMessageEnd []
  | field :
      IsMessageEnd ["field"]
  | enum
      {path : List String} :
      IsEnumPath path →
      IsMessageEnd path

/--
The paths to a failure inside a file.

With a hundred nested messages on it, a path ends.
-/
inductive IsFilePath : List String → Prop where
  | here :
      IsFilePath []
  | message
      {nested : Nat}
      {ending : List String} :
      nested ≤ 100 →
      IsMessageEnd ending →
      (nested = 100 → ending = []) →
      IsFilePath ("message_type" :: (List.replicate nested "nested_type" ++ ending))
  | enum
      {path : List String} :
      IsEnumPath path →
      IsFilePath path
  | service :
      IsFilePath ["service"]
  | method :
      IsFilePath ["service", "method"]

section Grammar

variable {path : List String}

/-- There is nothing on a path inside a kind that embeds none. -/
theorem IsPath.eq_nil
    (isPath : kind.IsPath path)
    (embedsNothing : ∀ number inner, ¬ kind.Embeds number inner) :
    path = [] := by
  cases isPath with
  | here =>
      rfl
  | inside embeds =>
      exact absurd embeds (embedsNothing _ _)

theorem isEnumPath_of_isPath (isPath : Kind.enum.IsPath path) :
    IsEnumPath ("enum_type" :: path) := by
  cases isPath with
  | here =>
      exact .enum
  | inside embeds isPath =>
      cases embeds
      rw [isPath.eq_nil nofun]
      exact .value

/-- A path inside a message goes through nested messages first, as deep as they may nest. -/
theorem exists_ending_of_isPath
    {levels : Nat}
    (isPath : (Kind.message levels).IsPath path) :
    ∃ nested ending, nested ≤ levels ∧ IsMessageEnd ending ∧ (nested = levels → ending = []) ∧
      path = List.replicate nested "nested_type" ++ ending := by
  induction levels generalizing path with
  | zero =>
      exact ⟨0, [], Nat.le_refl 0, .nothing, fun _ => rfl, isPath.eq_nil nofun⟩
  | succ levels inductionHypothesis =>
      cases isPath with
      | here =>
          exact ⟨0, [], Nat.zero_le _, .nothing, fun _ => rfl, rfl⟩
      | inside embeds isPath =>
          cases embeds with
          | messageField =>
              rw [isPath.eq_nil nofun]
              exact ⟨0, _, Nat.zero_le _, .field, nofun, rfl⟩
          | nestedMessage =>
              obtain ⟨nested, ending, le, isEnd, atLimit, rfl⟩ := inductionHypothesis isPath
              exact ⟨nested + 1, ending, Nat.succ_le_succ le, isEnd,
                fun full => atLimit (Nat.succ.inj full), rfl⟩
          | messageEnum =>
              exact ⟨0, _, Nat.zero_le _, .enum (isEnumPath_of_isPath isPath), nofun, rfl⟩

theorem isFilePath_of_isPath (isPath : Kind.file.IsPath path) :
    IsFilePath path := by
  cases isPath with
  | here =>
      exact .here
  | inside embeds isPath =>
      cases embeds with
      | fileMessage =>
          obtain ⟨nested, ending, le, isEnd, atLimit, rfl⟩ := exists_ending_of_isPath isPath
          exact .message le isEnd atLimit
      | fileEnum =>
          exact .enum (isEnumPath_of_isPath isPath)
      | fileService =>
          cases isPath with
          | here =>
              exact .service
          | inside embeds isPath =>
              cases embeds
              rw [isPath.eq_nil nofun]
              exact .method

end Grammar

/-! ## Failures inside embedded descriptors -/

/-- A failure inside an embedded descriptor is one of the descriptor around it, further in. -/
theorem decode_eq_error_of_embedded
    {before record content : Bytes}
    {descriptor : kind.Value}
    {failure : DecodeFailure}
    (embeds : kind.Embeds number inner)
    (decoded : kind.decode before = .ok descriptor)
    (isRecord : Wire.IsRecord ⟨number, .lengthDelimited content⟩ record)
    (failed : inner.decode content = .error failure)
    (after : Bytes) :
    kind.decode (before ++ record ++ after) = .error (failure.within (kind.label inner)) := by
  obtain ⟨parts, reading, _⟩ := exists_read_of_decode decoded
  obtain ⟨add, component⟩ := embeds.layout_eq_collected
  have effect :
      kind.layout.effect ⟨number, .lengthDelimited content⟩ =
        .error (failure.within (kind.label inner)) := by
    simp only [Layout.effect, Wire.Record.tag, Wire.Payload.wireType, component, collected,
      Component.change, failed, Except.map]
  have reads : kind.read (before ++ record ++ after) =
      .error (failure.within (kind.label inner)) := by
    rw [read, List.append_assoc, readRecords_append reading, readRecords_of_isRecord isRecord,
      effect]
  rw [decode_eq_of_decode decoded, reads]
  rfl

end Kind

end Descriptor

namespace FileDescriptor

/--
The path of a failure to decode a file is a word of the grammar of paths, with at most a
hundred and two components. Inside any descriptor, a failure of an embedded one behind
records that decode ends the decoding: the cause stays, and the name of the embedded
descriptor is put in front of the path.
-/
theorem decode_failure_path :
    (∀ bytes failure, FileDescriptor.decode bytes = .error failure →
      Descriptor.Kind.IsFilePath failure.path ∧ failure.path.length ≤ 102) ∧
    (∀ (kind inner : Descriptor.Kind) (number : UInt32) (before record content after : Bytes)
        (descriptor : kind.Value) (path : List String) (cause : WireError),
      kind.Embeds number inner →
      kind.decode before = .ok descriptor →
      Wire.IsRecord ⟨number, .lengthDelimited content⟩ record →
      inner.decode content = .error ⟨path, cause⟩ →
      kind.decode (before ++ record ++ after) = .error ⟨kind.label inner :: path, cause⟩) := by
  constructor
  · intro bytes failure failed
    have isPath : Descriptor.Kind.file.IsPath failure.path :=
      Descriptor.Kind.isPath_of_decode_error failed
    exact ⟨Descriptor.Kind.isFilePath_of_isPath isPath, isPath.length_le⟩
  · intro kind inner number before record content after descriptor path cause embeds decoded
      isRecord failed
    exact Descriptor.Kind.decode_eq_error_of_embedded embeds decoded isRecord failed after

/-- A file with a message in which a field breaks off behind the length of its name. -/
def cutFieldBytes : Bytes :=
  [0x22, 4, 0x12, 2, 0x0a, 5]

/-- The field fails inside its message, and the message inside its file. -/
theorem decode_failure_path_cutField :
    Descriptor.decodeField [0x0a, 5] = .error ⟨[], .truncatedMessage 5 0⟩ ∧
      FileDescriptor.decode cutFieldBytes =
        .error ⟨["message_type", "field"], .truncatedMessage 5 0⟩ ∧
      Descriptor.Kind.IsFilePath ["message_type", "field"] := by
  have inField : Descriptor.decodeField [0x0a, 5] = .error ⟨[], .truncatedMessage 5 0⟩ := by
    decide +kernel
  have field : Wire.IsRecord ⟨2, .lengthDelimited [0x0a, 5]⟩ [0x12, 2, 0x0a, 5] :=
    Wire.isRecord_of_read rfl rfl
  have message :
      Wire.IsRecord ⟨4, .lengthDelimited [0x12, 2, 0x0a, 5]⟩ [0x22, 4, 0x12, 2, 0x0a, 5] :=
    Wire.isRecord_of_read rfl rfl
  have emptyMessage : Descriptor.decodeMessage Wire.nestingLimit [] = .ok {} :=
    Descriptor.readRecords_nil _
  have inMessage :=
    decode_failure_path.2 (.message Wire.nestingLimit) .field 2 [] _ _ [] {} _ _
      .messageField emptyMessage field inField
  have emptyFile : FileDescriptor.decode [] = .ok {} :=
    Descriptor.readRecords_nil _
  have inFile :=
    decode_failure_path.2 .file _ 4 [] _ _ [] {} _ _ .fileMessage emptyFile message inMessage
  exact ⟨inField, inFile, (decode_failure_path.1 _ _ inFile).1⟩

end FileDescriptor

end GrpcDiscovery
