import GrpcDiscovery.Proofs.Index.Register
import Mathlib.Data.Option.Basic

namespace GrpcDiscovery

/-!
# Look-ups in an index

Messages, enums and services are looked up alike, by a kind and a full name, and
entering a definition changes what is found under its own kind and name only.

One index lies over another in a third if the third finds what the upper one does
and, where that finds nothing, what the lower one does. It is what becomes of the
lower index while the upper one is built from nothing by the same registrations.
-/

namespace MessageDescriptor

mutual

/-- Messages can be compared, with the messages inside them. -/
def decEq : (first second : MessageDescriptor) → Decidable (first = second)
  | ⟨name, fields, nestedTypes, enumTypes⟩, ⟨otherName, otherFields, otherNested, otherEnums⟩ =>
      match listDecEq nestedTypes otherNested with
      | .isTrue same =>
          decidable_of_iff (name = otherName ∧ fields = otherFields ∧ enumTypes = otherEnums)
            (by simp [same])
      | .isFalse different =>
          .isFalse fun same => different (MessageDescriptor.mk.inj same).2.2.1

/-- Lists of messages can be compared one message after the other. -/
def listDecEq : (first second : List MessageDescriptor) → Decidable (first = second)
  | [], [] =>
      .isTrue rfl
  | [], _ :: _ =>
      .isFalse nofun
  | _ :: _, [] =>
      .isFalse nofun
  | message :: rest, other :: others =>
      match decEq message other, listDecEq rest others with
      | .isTrue same, .isTrue sameRest =>
          .isTrue (by rw [same, sameRest])
      | .isFalse different, _ =>
          .isFalse fun same => different (List.cons.inj same).1
      | _, .isFalse different =>
          .isFalse fun same => different (List.cons.inj same).2

end

instance : DecidableEq MessageDescriptor :=
  decEq

end MessageDescriptor

deriving instance DecidableEq for Definition

/-- The kinds of definitions. -/
inductive DefinitionKind where
  | message
  | enum
  | service
deriving DecidableEq, Repr

namespace Definition

/-- The kind of a definition. -/
def kind : Definition → DefinitionKind
  | .message _ _ =>
      .message
  | .enum _ _ =>
      .enum
  | .service _ _ =>
      .service

/-- The full name of a definition. -/
def fullName : Definition → String
  | .message fullName _ =>
      fullName
  | .enum fullName _ =>
      fullName
  | .service fullName _ =>
      fullName

end Definition

namespace TypeIndex

/-- The definition of a kind and a full name. -/
def lookup
    (index : TypeIndex)
    (kind : DefinitionKind)
    (name : String) :
    Option Definition :=
  match kind with
  | .message =>
      (index.messages[name]?).map (.message name)
  | .enum =>
      (index.enums[name]?).map (.enum name)
  | .service =>
      (index.services[name]?).map (.service name)

/-- Entering a definition changes the look-up of its kind and name. -/
theorem lookup_define
    (index : TypeIndex)
    (definition : Definition)
    (kind : DefinitionKind)
    (name : String) :
    (index.define definition).lookup kind name =
      if kind = definition.kind ∧ name = definition.fullName then
        some definition
      else
        index.lookup kind name := by
  cases definition <;> cases kind <;>
    simp only [define, lookup, Definition.kind, Definition.fullName, true_and, reduceCtorEq,
      false_and, if_false, Std.TreeMap.getElem?_insert]
  all_goals
    split
    · rename_i same
      obtain rfl := Std.LawfulEqOrd.eq_of_compare same
      rw [if_pos rfl, Option.map_some]
    · rename_i different
      rw [if_neg]
      rintro rfl
      exact different Std.ReflCmp.compare_self

theorem holds_iff_lookup
    (index : TypeIndex)
    (definition : Definition) :
    index.Holds definition ↔
      index.lookup definition.kind definition.fullName = some definition := by
  cases definition <;> simp [Holds, lookup, Definition.kind, Definition.fullName]

/-- What is found has the kind and the name that it is found under. -/
theorem kind_and_fullName_of_lookup
    {index : TypeIndex}
    {kind : DefinitionKind}
    {name : String}
    {definition : Definition}
    (found : index.lookup kind name = some definition) :
    definition.kind = kind ∧ definition.fullName = name := by
  cases kind <;>
    obtain ⟨descriptor, _, rfl⟩ := Option.map_eq_some_iff.mp found <;>
    exact ⟨rfl, rfl⟩

theorem holds_of_lookup
    {index : TypeIndex}
    {kind : DefinitionKind}
    {name : String}
    {definition : Definition}
    (found : index.lookup kind name = some definition) :
    index.Holds definition := by
  obtain ⟨rfl, rfl⟩ := kind_and_fullName_of_lookup found
  exact (holds_iff_lookup index definition).mpr found

theorem files_define
    (index : TypeIndex)
    (definition : Definition) :
    (index.define definition).files = index.files := by
  cases definition <;> rfl

theorem hasFile_define
    (index : TypeIndex)
    (definition : Definition)
    (path : String) :
    (index.define definition).hasFile path = index.hasFile path := by
  rw [hasFile, files_define, hasFile]

/-- Entering definitions leaves the files alone. -/
theorem files_defineEach
    (index : TypeIndex)
    (definitions : List Definition) :
    (index.defineEach definitions).files = index.files := by
  induction definitions generalizing index with
  | nil =>
      rfl
  | cons definition rest inductionHypothesis =>
      exact (inductionHypothesis (index.define definition)).trans (index.files_define definition)

/-- A file that is registered joins the files by its path. -/
theorem hasFile_register_iff
    (index : TypeIndex)
    (file : FileDescriptor)
    (path : String) :
    (index.register file).1.hasFile path = true ↔
      path = file.name ∨ index.hasFile path = true := by
  rw [register_fst, hasFile, files_defineEach, Std.TreeMap.contains_insert, hasFile,
    Bool.or_eq_true, beq_iff_eq, Std.LawfulEqOrd.compare_eq_iff_eq, eq_comm]

theorem lookup_register
    (index : TypeIndex)
    (file : FileDescriptor)
    (kind : DefinitionKind)
    (name : String) :
    (index.register file).1.lookup kind name =
      (index.defineEach file.definitions).lookup kind name := by
  rw [register_fst]
  cases kind <;> rfl

/-- A file is registered: its path is, and every definition of it is in the index as it is. -/
structure Contains
    (index : TypeIndex)
    (file : FileDescriptor) :
    Prop where
  path : index.hasFile file.name = true
  definitions : ∀ definition ∈ file.definitions, index.Holds definition

instance (index : TypeIndex) (definition : Definition) : Decidable (index.Holds definition) :=
  decidable_of_iff _ (holds_iff_lookup index definition).symm

instance (index : TypeIndex) (file : FileDescriptor) : Decidable (index.Contains file) :=
  decidable_of_iff (index.hasFile file.name = true ∧
    ∀ definition ∈ file.definitions, index.Holds definition)
    ⟨fun contained => ⟨contained.1, contained.2⟩, fun contained =>
      ⟨contained.path, contained.definitions⟩⟩

/-! ## One index over another -/

/-- What an index finds is what the upper one finds or else what the lower one does. -/
structure IsOver (index upper lower : TypeIndex) : Prop where
  definitions : ∀ (kind : DefinitionKind) (name : String),
    index.lookup kind name = (upper.lookup kind name).or (lower.lookup kind name)
  files : ∀ path : String,
    index.hasFile path = true ↔ upper.hasFile path = true ∨ lower.hasFile path = true

/-- An index lies as the empty one over itself. -/
theorem isOver_empty (index : TypeIndex) : index.IsOver empty index where
  definitions kind name := by
    cases kind <;> simp [lookup, empty]
  files path := by
    simp [hasFile, empty]

variable {index upper lower : TypeIndex}

/-- Whatever the upper index holds is found. -/
theorem IsOver.holds
    (isOver : index.IsOver upper lower)
    {definition : Definition}
    (held : upper.Holds definition) :
    index.Holds definition := by
  rw [holds_iff_lookup] at held ⊢
  rw [isOver.definitions, held, Option.some_or]

/-! A message, an enum and a service are found in the upper index or else in the lower one. -/

theorem IsOver.message?_eq
    (isOver : index.IsOver upper lower)
    (name : String) :
    index.message? name = (upper.message? name).or (lower.message? name) := by
  have found := isOver.definitions .message (TypeName.normalize name)
  rw [lookup, lookup, lookup, ← Option.map_or] at found
  exact Option.map_injective (fun _ _ same => (Definition.message.inj same).2) found

theorem IsOver.enum?_eq
    (isOver : index.IsOver upper lower)
    (name : String) :
    index.enum? name = (upper.enum? name).or (lower.enum? name) := by
  have found := isOver.definitions .enum (TypeName.normalize name)
  rw [lookup, lookup, lookup, ← Option.map_or] at found
  exact Option.map_injective (fun _ _ same => (Definition.enum.inj same).2) found

theorem IsOver.service?_eq
    (isOver : index.IsOver upper lower)
    (name : String) :
    index.service? name = (upper.service? name).or (lower.service? name) := by
  have found := isOver.definitions .service (TypeName.normalize name)
  rw [lookup, lookup, lookup, ← Option.map_or] at found
  exact Option.map_injective (fun _ _ same => (Definition.service.inj same).2) found

/-- A definition of the lower index is found, unless the upper one has another of its name. -/
theorem IsOver.holds_of_lower
    (isOver : index.IsOver upper lower)
    {definition : Definition}
    (held : lower.Holds definition)
    (alone : ∀ other, upper.Holds other → other.kind = definition.kind →
      other.fullName = definition.fullName → other = definition) :
    index.Holds definition := by
  rw [holds_iff_lookup] at held ⊢
  rw [isOver.definitions, held]
  cases found : upper.lookup definition.kind definition.fullName with
  | none =>
      rfl
  | some other =>
      obtain ⟨sameKind, sameName⟩ := kind_and_fullName_of_lookup found
      rw [alone other (holds_of_lookup found) sameKind sameName]
      rfl

/-- Entering a definition in both leaves one index over the lower one. -/
theorem IsOver.define
    (isOver : index.IsOver upper lower)
    (definition : Definition) :
    (index.define definition).IsOver (upper.define definition) lower where
  definitions kind name := by
    rw [lookup_define, lookup_define]
    split
    · rfl
    · exact isOver.definitions kind name
  files path := by
    rw [hasFile_define, hasFile_define]
    exact isOver.files path

/-- Entering what is found already in the upper index changes nothing. -/
theorem IsOver.define_upper
    (isOver : index.IsOver upper lower)
    {definition : Definition}
    (held : index.Holds definition) :
    index.IsOver (upper.define definition) lower where
  definitions kind name := by
    rw [lookup_define]
    split
    · rename_i same
      obtain ⟨rfl, rfl⟩ := same
      rw [(holds_iff_lookup index definition).mp held, Option.some_or]
    · exact isOver.definitions kind name
  files path := by
    rw [isOver.files, hasFile_define]

theorem IsOver.defineEach
    (isOver : index.IsOver upper lower)
    (definitions : List Definition) :
    (index.defineEach definitions).IsOver (upper.defineEach definitions) lower := by
  induction definitions generalizing index upper with
  | nil =>
      exact isOver
  | cons definition rest inductionHypothesis =>
      exact inductionHypothesis (isOver.define definition)

theorem IsOver.defineEach_upper
    (isOver : index.IsOver upper lower)
    {definitions : List Definition}
    (held : ∀ definition ∈ definitions, index.Holds definition) :
    index.IsOver (upper.defineEach definitions) lower := by
  induction definitions generalizing upper with
  | nil =>
      exact isOver
  | cons definition rest inductionHypothesis =>
      rw [List.forall_mem_cons] at held
      exact inductionHypothesis (isOver.define_upper held.1) held.2

/-- Registering a file in both leaves one index over the lower one. -/
theorem IsOver.register
    (isOver : index.IsOver upper lower)
    (file : FileDescriptor) :
    (index.register file).1.IsOver (upper.register file).1 lower where
  definitions kind name := by
    rw [lookup_register, lookup_register]
    exact (isOver.defineEach file.definitions).definitions kind name
  files path := by
    rw [hasFile_register_iff, hasFile_register_iff, isOver.files, or_assoc]

/-- Registering a file in the upper index changes nothing if it is registered already. -/
theorem IsOver.register_upper
    (isOver : index.IsOver upper lower)
    {file : FileDescriptor}
    (contained : index.Contains file) :
    index.IsOver (upper.register file).1 lower where
  definitions kind name := by
    rw [lookup_register]
    exact (isOver.defineEach_upper contained.definitions).definitions kind name
  files path := by
    rw [hasFile_register_iff, or_assoc, ← isOver.files]
    constructor
    · exact .inr
    · rintro (rfl | present)
      · exact contained.path
      · exact present

theorem IsOver.registerEach
    (isOver : index.IsOver upper lower)
    (files : List FileDescriptor) :
    (index.registerEach files).IsOver (upper.registerEach files) lower := by
  induction files generalizing index upper with
  | nil =>
      exact isOver
  | cons file rest inductionHypothesis =>
      exact inductionHypothesis (isOver.register file)

theorem IsOver.registerEach_upper
    (isOver : index.IsOver upper lower)
    {files : List FileDescriptor}
    (contained : ∀ file ∈ files, index.Contains file) :
    index.IsOver (upper.registerEach files) lower := by
  induction files generalizing upper with
  | nil =>
      exact isOver
  | cons file rest inductionHypothesis =>
      rw [List.forall_mem_cons] at contained
      exact inductionHypothesis (isOver.register_upper contained.1) contained.2

end TypeIndex

end GrpcDiscovery
