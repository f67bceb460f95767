import GrpcDiscovery.Proofs.Index.Names
import GrpcDiscovery.Schema.WellKnown

namespace GrpcDiscovery

/-!
# References between indexed types

The fields of indexed messages refer to other types by name, with a dot in front. Every
look-up of a name takes one dot off, and more than one look-up takes part on the way from
a field to the type that it refers to. So a reference with several dots in front is read
differently from place to place: as a well-known type here and as an unknown message
there, or as one enum by the index and as another by the cache.

Compilers write one dot. The conditions here say which references to leave out for what
is said of the schemas that are built.
-/

namespace TypeName

/-- The name of a reference, without its dot. -/
theorem normalize_dot (name : String) : normalize ("." ++ name) = name := by
  have shape : ("." ++ name).toList = '.' :: name.toList := by
    rw [String.toList_append]
    rfl
  rw [normalize, shape]
  exact String.ofList_toList

/-- A name from which a second dot can be taken starts with two of them. -/
theorem eq_two_dots_of_normalize_ne
    {name : String}
    (further : normalize (normalize name) ≠ normalize name) :
    name = ".." ++ normalize (normalize name) := by
  have many : ¬ HasOneDotAtMost name := fun reference =>
    further (normalize_normalize reference)
  rw [HasOneDotAtMost, not_not] at many
  obtain ⟨rest, shape⟩ := many
  have dotted : name = "." ++ ("." ++ String.ofList rest) := by
    apply String.toList_injective
    simp [← shape]
  rw [dotted, normalize_dot, normalize_dot, ← String.append_assoc]
  rfl

/-- A name that has dots in front after one was taken had that one as well. -/
theorem dot_prefix_of_normalize
    {name : String}
    {dots : List Char}
    (dotted : '.' :: dots <+: (normalize name).toList) :
    '.' :: '.' :: dots <+: name.toList := by
  rw [normalize] at dotted
  split at dotted
  · rename_i rest shape
    rw [String.toList_ofList] at dotted
    rw [shape]
    exact List.cons_prefix_cons.mpr ⟨rfl, dotted⟩
  · rename_i noDot
    obtain ⟨rest, shape⟩ := dotted
    exact absurd shape.symm (noDot (dots ++ rest))

end TypeName

/-- A name of a well-known type without a dot is one with it, apart from names after two dots. -/
theorem WellKnownType.ofName?_normalize
    {name : String}
    (shown : ∀ type ∈ all, name ≠ ".." ++ type.fullName)
    (ordinary : ofName? name = none) :
    ofName? (TypeName.normalize name) = none := by
  by_cases same : TypeName.normalize (TypeName.normalize name) = TypeName.normalize name
  · rw [ofName?, same]
    exact ordinary
  · have dotted := TypeName.eq_two_dots_of_normalize_ne same
    rw [ofName?, List.find?_eq_none]
    intro type member named
    rw [beq_iff_eq] at named
    apply shown type member
    rw [named]
    exact dotted

namespace TypeIndex

/-- What the references in the fields of indexed messages may be, by the kind of the field. -/
def HasReferences
    (index : TypeIndex)
    (Allowed : JsonKind → String → Prop) :
    Prop :=
  ∀ (name : String) (descriptor : MessageDescriptor), index.message? name = some descriptor →
    ∀ field ∈ descriptor.fields, ∀ typeName, field.typeName = some typeName →
      Allowed field.type.jsonKind typeName

/-- It is enough to look through all entries of an index. -/
theorem hasReferences_iff
    (index : TypeIndex)
    (Allowed : JsonKind → String → Prop) :
    index.HasReferences Allowed ↔
      ∀ entry ∈ index.messages.toList, ∀ field ∈ entry.2.fields,
        ∀ typeName ∈ field.typeName.toList, Allowed field.type.jsonKind typeName := by
  constructor
  · intro allowed entry listed field member typeName refers
    have found := Std.TreeMap.mem_toList_iff_getElem?_eq_some.mp listed
    refine allowed ("." ++ entry.1) entry.2 ?_ field member typeName
      (Option.mem_toList.mp refers)
    rw [message?, TypeName.normalize_dot]
    exact found
  · intro allowed name descriptor found field member typeName refers
    have listed := Std.TreeMap.mem_toList_iff_getElem?_eq_some.mpr found
    exact allowed (TypeName.normalize name, descriptor) listed field member typeName
      (Option.mem_toList.mpr refers)

instance
    (index : TypeIndex)
    (Allowed : JsonKind → String → Prop)
    [∀ kind typeName, Decidable (Allowed kind typeName)] :
    Decidable (index.HasReferences Allowed) :=
  decidable_of_iff _ (index.hasReferences_iff Allowed).symm

/-- References to enums start with one dot at most. -/
def HasPlainEnumReferences (index : TypeIndex) : Prop :=
  index.HasReferences fun kind typeName =>
    kind = .enumString → TypeName.HasOneDotAtMost typeName

/-- No reference to a message gives the name of a well-known type after two dots. -/
def HidesNoWellKnown (index : TypeIndex) : Prop :=
  index.HasReferences fun kind typeName =>
    kind = .object → ∀ type ∈ WellKnownType.all, typeName ≠ ".." ++ type.fullName

/-- No reference to an enum starts with three dots. -/
def HasTwoDotsAtMost (index : TypeIndex) : Prop :=
  index.HasReferences fun kind typeName =>
    kind = .enumString → ¬ ['.', '.', '.'] <+: typeName.toList

instance (index : TypeIndex) : Decidable index.HasPlainEnumReferences :=
  inferInstanceAs (Decidable (index.HasReferences _))

instance (index : TypeIndex) : Decidable index.HidesNoWellKnown :=
  inferInstanceAs (Decidable (index.HasReferences _))

instance (index : TypeIndex) : Decidable index.HasTwoDotsAtMost :=
  inferInstanceAs (Decidable (index.HasReferences _))

variable {index : TypeIndex}

/-- Where all names are plain, the references to enums are. -/
theorem HasPlainNames.hasPlainEnumReferences
    (plain : index.HasPlainNames) :
    index.HasPlainEnumReferences :=
  fun _ _ found _ member _ refers _ => plain.reference found member refers

/-- A reference that is not to a well-known type is not to one without its dot either. -/
theorem HidesNoWellKnown.ordinary
    (hidesNone : index.HidesNoWellKnown)
    {name : String}
    {descriptor : MessageDescriptor}
    (found : index.message? name = some descriptor)
    {field : FieldDescriptor}
    (member : field ∈ descriptor.fields)
    (object : field.type.jsonKind = .object)
    {typeName : String}
    (refers : field.typeName = some typeName)
    (ordinary : WellKnownType.ofName? typeName = none) :
    WellKnownType.ofName? (TypeName.normalize typeName) = none :=
  WellKnownType.ofName?_normalize
    (hidesNone name descriptor found field member typeName refers object) ordinary

end TypeIndex

/-- A field of a type that it refers to by a name. -/
def FieldDescriptor.referring
    (name : String)
    (type : FieldType)
    (typeName : String) :
    FieldDescriptor where
  name := name
  jsonName := name
  number := 1
  type := type
  label := .optional
  typeName := some typeName
  oneofIndex := none

namespace TypeIndex

/-- A message whose field refers to it. -/
def ofCycle : TypeIndex :=
  empty.define <| .message "M"
    { name := "M"
      fields :=
        [.referring "below" .message ".M",
          .referring "time" .message ".google.protobuf.Timestamp",
          .referring "kind" .enum ".E"] }

theorem hidesNoWellKnown_ofCycle : ofCycle.HidesNoWellKnown := by
  decide +kernel

theorem indexed_ofCycle : ofCycle.message? (TypeName.normalize "M") ≠ none := by
  decide +kernel

/-- A message whose field refers to a well-known type after two dots. -/
def ofHidden : TypeIndex :=
  empty.define <| .message "M"
    { name := "M"
      fields := [.referring "time" .message "..google.protobuf.Timestamp"] }

/-- An enum that a message refers to, and before it a message that the first one refers to. -/
def ofEnumReferences (first second : String) : TypeIndex :=
  empty.defineEach
    [.enum "E" { name := "E", values := [("A", 0)] },
      .message "N" { name := "N", fields := [.referring "kind" .enum first] },
      .message "M"
        { name := "M"
          fields := [.referring "below" .message ".N", .referring "kind" .enum second] }]

theorem indexed_ofHidden : ofHidden.message? (TypeName.normalize "M") ≠ none := by
  decide +kernel

/-- The message of these indices is no well-known type. -/
theorem ordinary_name : WellKnownType.ofName? (TypeName.normalize "M") = none := by
  decide +kernel

end TypeIndex

end GrpcDiscovery
