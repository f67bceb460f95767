import GrpcDiscovery.Proofs.Index.Register
import Mathlib.Data.List.TakeWhile

namespace GrpcDiscovery

/-!
# Names of definitions

Where simple names have no dots, the full name of a definition ends in its simple
name, so that two definitions under one full name have the same simple name. And
where references start with one dot at most, the names they are looked up by have
no dot in front. Both hold of every entry of an index into which only files of
this kind were registered.
-/

namespace TypeName

/-- A name that starts with one dot at most. -/
def HasOneDotAtMost (name : String) : Prop :=
  ¬ ['.', '.'] <+: name.toList

instance (name : String) : Decidable (HasOneDotAtMost name) :=
  inferInstanceAs (Decidable (¬ ['.', '.'] <+: name.toList))

theorem normalize_eq_self
    {name : String}
    (plain : ¬ ['.'] <+: name.toList) :
    normalize name = name := by
  rw [normalize]
  split
  · rename_i rest shape
    rw [shape] at plain
    exact absurd ⟨rest, rfl⟩ plain
  · rfl

/-- A name that starts with one dot at most is normal without it. -/
theorem normalize_normalize
    {name : String}
    (reference : HasOneDotAtMost name) :
    normalize (normalize name) = normalize name := by
  apply normalize_eq_self
  rintro ⟨rest, starts⟩
  rw [HasOneDotAtMost] at reference
  rw [normalize] at starts
  split at starts
  · rename_i tail shape
    rw [String.toList_ofList] at starts
    rw [shape, ← starts] at reference
    exact reference ⟨rest, rfl⟩
  · rename_i noDot
    exact noDot rest starts.symm

/-- What stands behind the last dot of a full name is its simple name. -/
theorem takeWhile_reverse_qualify
    {scope name : String}
    (plain : '.' ∉ name.toList) :
    (qualify scope name).toList.reverse.takeWhile (· != '.') = name.toList.reverse := by
  have noDot : ∀ letter ∈ name.toList.reverse, (letter != '.') = true := by
    intro letter member
    rw [bne_iff_ne]
    rintro rfl
    exact plain (List.mem_reverse.mp member)
  rw [qualify]
  split
  · exact List.takeWhile_eq_self_iff.mpr noDot
  · have shape :
        (scope ++ "." ++ name).toList.reverse =
          name.toList.reverse ++ '.' :: scope.toList.reverse := by
      simp
    rw [shape, List.takeWhile_append_of_pos noDot, List.takeWhile_cons_of_neg (by simp),
      List.append_nil]

/-- Simple names without dots are the same if the full names are. -/
theorem eq_of_qualify_eq
    {scope otherScope name otherName : String}
    (plain : '.' ∉ name.toList)
    (otherPlain : '.' ∉ otherName.toList)
    (same : qualify scope name = qualify otherScope otherName) :
    name = otherName := by
  have reversed : name.toList.reverse = otherName.toList.reverse := by
    rw [← takeWhile_reverse_qualify plain, same, takeWhile_reverse_qualify otherPlain]
  exact String.toList_injective (List.reverse_inj.mp reversed)

end TypeName

namespace Definition

/-- The full name of a definition is its simple name inside some scope. -/
def IsQualified : Definition → Prop
  | .message fullName descriptor =>
      ∃ scope, fullName = TypeName.qualify scope descriptor.name
  | .enum fullName descriptor =>
      ∃ scope, fullName = TypeName.qualify scope descriptor.name
  | .service fullName descriptor =>
      ∃ scope, fullName = TypeName.qualify scope descriptor.name

/--
The names in a definition are of the form that compilers give them.

The simple name of a message or an enum has no dots, and a reference to a type
starts with one dot at most.
-/
def HasPlainNames : Definition → Prop
  | .message _ descriptor =>
      '.' ∉ descriptor.name.toList ∧
        ∀ field ∈ descriptor.fields, ∀ typeName ∈ field.typeName,
          TypeName.HasOneDotAtMost typeName
  | .enum _ descriptor =>
      '.' ∉ descriptor.name.toList
  | .service _ descriptor =>
      ∀ method ∈ descriptor.methods,
        TypeName.HasOneDotAtMost method.inputType ∧
          TypeName.HasOneDotAtMost method.outputType

instance (definition : Definition) : Decidable definition.HasPlainNames :=
  match definition with
  | .message _ _ =>
      inferInstanceAs (Decidable (_ ∧ _))
  | .enum _ _ =>
      inferInstanceAs (Decidable (¬ _))
  | .service _ _ =>
      inferInstanceAs (Decidable (∀ method ∈ _, _ ∧ _))

end Definition

/-- The names in every definition of a file are plain. -/
def FileDescriptor.HasPlainNames (file : FileDescriptor) : Prop :=
  ∀ definition ∈ file.definitions, definition.HasPlainNames

instance (file : FileDescriptor) : Decidable file.HasPlainNames :=
  inferInstanceAs (Decidable (∀ definition ∈ file.definitions, definition.HasPlainNames))

mutual

theorem MessageDescriptor.isQualified_of_mem_definitions
    (scope : String)
    (message : MessageDescriptor) :
    ∀ definition ∈ message.definitions scope, definition.IsQualified := by
  intro definition member
  rcases message with ⟨name, fields, nestedTypes, enumTypes⟩
  rw [MessageDescriptor.definitions, List.mem_append, List.mem_append] at member
  rcases member with (nested | enum) | itself
  · exact MessageDescriptor.isQualified_of_mem_listDefinitions _ nestedTypes definition nested
  · obtain ⟨descriptor, _, rfl⟩ := List.mem_map.mp enum
    exact ⟨_, rfl⟩
  · obtain rfl := List.mem_singleton.mp itself
    exact ⟨scope, rfl⟩

theorem MessageDescriptor.isQualified_of_mem_listDefinitions
    (scope : String)
    (messages : List MessageDescriptor) :
    ∀ definition ∈ MessageDescriptor.listDefinitions scope messages,
      definition.IsQualified := by
  intro definition member
  cases messages with
  | nil =>
      simp [MessageDescriptor.listDefinitions] at member
  | cons message rest =>
      rw [MessageDescriptor.listDefinitions, List.mem_append] at member
      rcases member with first | later
      · exact MessageDescriptor.isQualified_of_mem_definitions scope message definition first
      · exact MessageDescriptor.isQualified_of_mem_listDefinitions scope rest definition later

end

/-- The definitions of a file are qualified. -/
theorem FileDescriptor.isQualified_of_mem_definitions
    {file : FileDescriptor}
    {definition : Definition}
    (member : definition ∈ file.definitions) :
    definition.IsQualified := by
  rw [definitions, List.mem_append, List.mem_append] at member
  rcases member with (message | enum) | service
  · exact MessageDescriptor.isQualified_of_mem_listDefinitions _ _ definition message
  · obtain ⟨descriptor, _, rfl⟩ := List.mem_map.mp enum
    exact ⟨file.package, rfl⟩
  · obtain ⟨descriptor, _, rfl⟩ := List.mem_map.mp service
    exact ⟨file.package, rfl⟩

namespace TypeIndex

/-- Every definition that an index holds is qualified, and the names in it are plain. -/
def HasPlainNames (index : TypeIndex) : Prop :=
  ∀ definition, index.Holds definition →
    definition.IsQualified ∧ definition.HasPlainNames

theorem hasPlainNames_empty : empty.HasPlainNames := by
  intro definition held
  cases definition <;> simp [Holds, empty] at held

theorem HasPlainNames.register
    {index : TypeIndex}
    {file : FileDescriptor}
    (plain : index.HasPlainNames)
    (plainFile : file.HasPlainNames) :
    (index.register file).1.HasPlainNames := by
  intro definition held
  rcases holds_of_register held with added | before
  · exact ⟨file.isQualified_of_mem_definitions added, plainFile definition added⟩
  · exact plain definition before

theorem HasPlainNames.registerEach
    {index : TypeIndex}
    {files : List FileDescriptor}
    (plain : index.HasPlainNames)
    (plainFiles : ∀ file ∈ files, file.HasPlainNames) :
    (index.registerEach files).HasPlainNames := by
  induction files generalizing index with
  | nil =>
      exact plain
  | cons file rest inductionHypothesis =>
      rw [List.forall_mem_cons] at plainFiles
      exact inductionHypothesis (plain.register plainFiles.1) plainFiles.2

/-- An enum has the same simple name in every index with plain names. -/
theorem HasPlainNames.enum_name_eq
    {index other : TypeIndex}
    (plain : index.HasPlainNames)
    (otherPlain : other.HasPlainNames)
    {name : String}
    {descriptor otherDescriptor : EnumDescriptor}
    (found : index.enums[name]? = some descriptor)
    (otherFound : other.enums[name]? = some otherDescriptor) :
    descriptor.name = otherDescriptor.name := by
  obtain ⟨⟨scope, same⟩, simple⟩ := plain (.enum name descriptor) found
  obtain ⟨⟨otherScope, otherSame⟩, otherSimple⟩ :=
    otherPlain (.enum name otherDescriptor) otherFound
  exact TypeName.eq_of_qualify_eq simple otherSimple (same.symm.trans otherSame)

/-- A message has the same simple name in every index with plain names. -/
theorem HasPlainNames.message_name_eq
    {index other : TypeIndex}
    (plain : index.HasPlainNames)
    (otherPlain : other.HasPlainNames)
    {name : String}
    {descriptor otherDescriptor : MessageDescriptor}
    (found : index.messages[name]? = some descriptor)
    (otherFound : other.messages[name]? = some otherDescriptor) :
    descriptor.name = otherDescriptor.name := by
  obtain ⟨⟨scope, same⟩, simple, _⟩ := plain (.message name descriptor) found
  obtain ⟨⟨otherScope, otherSame⟩, otherSimple, _⟩ :=
    otherPlain (.message name otherDescriptor) otherFound
  exact TypeName.eq_of_qualify_eq simple otherSimple (same.symm.trans otherSame)

/-- The references in an indexed message start with one dot at most. -/
theorem HasPlainNames.reference
    {index : TypeIndex}
    (plain : index.HasPlainNames)
    {name : String}
    {descriptor : MessageDescriptor}
    (found : index.message? name = some descriptor)
    {field : FieldDescriptor}
    (member : field ∈ descriptor.fields)
    {typeName : String}
    (refers : field.typeName = some typeName) :
    TypeName.HasOneDotAtMost typeName := by
  obtain ⟨_, _, references⟩ := plain (.message _ descriptor) found
  exact references field member typeName refers

/-- What a method of an indexed service takes is a name with one dot at most in front. -/
theorem HasPlainNames.inputType
    {index : TypeIndex}
    (plain : index.HasPlainNames)
    {name : String}
    {descriptor : ServiceDescriptor}
    (found : index.service? name = some descriptor)
    {method : MethodDescriptor}
    (member : method ∈ descriptor.methods) :
    TypeName.HasOneDotAtMost method.inputType := by
  obtain ⟨_, references⟩ := plain (.service _ descriptor) found
  exact (references method member).1

end TypeIndex

end GrpcDiscovery
