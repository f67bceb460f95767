import GrpcDiscovery.Proofs.Index.References
import GrpcDiscovery.Proofs.Schema.Earlier
import GrpcDiscovery.Schema.Resolver
import Mathlib.Data.List.Forall2

namespace GrpcDiscovery

/-!
# What is built of a message

Building a message follows the index level by level. Only where a reference leads to an
enum does the cache come into it. So what is built of a message is described by the
index and the levels, for whatever is known of enums, and this holds from every cache
with an invariant that gives this knowledge and is kept while enums are looked up.
-/

namespace TypeIndex

/-- What a reference to an enum leads to, given the schema of that enum if there is one. -/
def leadingToEnum (schema : Option EnumSchema) : NestedSchema :=
  (schema.map NestedSchema.enum).getD .unresolved

/-- What a field refers to, for what is known of enums and of the messages below. -/
def IsReference
    (OfEnum : String → Option EnumSchema → Prop)
    (Below : String → Option MessageSchema → Prop)
    (field : FieldDescriptor)
    (nested : Option NestedSchema) :
    Prop :=
  match field.type.jsonKind, field.typeName with
  | .object, none =>
      nested = some .unresolved
  | .enumString, none =>
      nested = some .unresolved
  | .enumString, some typeName =>
      ∃ schema, OfEnum typeName schema ∧ nested = some (leadingToEnum schema)
  | .object, some typeName =>
      match WellKnownType.ofName? typeName with
      | some type =>
          nested = some (.message (.ofWellKnown type))
      | none =>
          ∃ schema, Below (TypeName.normalize typeName) schema ∧
            nested = some (leadingTo schema)
  | _, _ =>
      nested = none

/-- The schema of an indexed message, for what is known of enums and of the messages below. -/
structure IsMessage
    (OfEnum : String → Option EnumSchema → Prop)
    (Below : String → Option MessageSchema → Prop)
    (name : String)
    (descriptor : MessageDescriptor)
    (schema : MessageSchema) :
    Prop where
  simpleName : schema.name = descriptor.name
  fullName : schema.fullName = name
  wellKnown : schema.wellKnown = none
  fields : List.Forall₂
    (fun field built => built.descriptor = field ∧ IsReference OfEnum Below field built.nested)
    descriptor.fields schema.fields

/-- What is built under a name, for what is known of enums and of the messages below. -/
def IsBuiltFrom
    (index : TypeIndex)
    (OfEnum : String → Option EnumSchema → Prop)
    (Below : String → Option MessageSchema → Prop)
    (name : String)
    (schema : Option MessageSchema) :
    Prop :=
  match WellKnownType.ofName? name with
  | some type =>
      schema = some (.ofWellKnown type)
  | none =>
      match index.message? name with
      | none =>
          schema = none
      | some descriptor =>
          ∃ message, schema = some message ∧
            IsMessage OfEnum Below name descriptor message

/-- What is built of a message with so many levels of messages, its own among them. -/
def IsBuilt
    (index : TypeIndex)
    (OfEnum : String → Option EnumSchema → Prop) :
    (levels : Nat) →
    (name : String) →
    Option MessageSchema →
    Prop
  | 0, _, schema =>
      schema = none
  | levels + 1, name, schema =>
      index.IsBuiltFrom OfEnum (index.IsBuilt OfEnum levels) name schema

/-- What is found of an enum is what the index has. -/
def FindsEnum
    (index : TypeIndex)
    (typeName : String)
    (schema : Option EnumSchema) :
    Prop :=
  schema = index.enumSchema? typeName

variable {index : TypeIndex}

/-- Where enums and the messages below are known exactly, so is what a field refers to. -/
theorem IsReference.eq_reference?
    {Below : String → Option MessageSchema → Prop}
    {below : String → Option MessageSchema}
    (exactBelow : ∀ name schema, Below name schema → schema = below name)
    {field : FieldDescriptor}
    {nested : Option NestedSchema}
    (reference : IsReference index.FindsEnum Below field nested) :
    nested = index.reference? below field := by
  unfold IsReference at reference
  rw [reference?]
  cases kind : field.type.jsonKind <;> cases refers : field.typeName <;>
    simp only [kind, refers] at reference ⊢
  case object.none | enumString.none =>
    exact reference
  case enumString.some typeName =>
    obtain ⟨schema, rfl, leads⟩ := reference
    exact leads
  case object.some typeName =>
    cases wellKnown : WellKnownType.ofName? typeName with
    | some type =>
        simp only [wellKnown] at reference ⊢
        exact reference
    | none =>
        simp only [wellKnown] at reference ⊢
        obtain ⟨schema, built, leads⟩ := reference
        rw [leads, exactBelow _ _ built]
        rfl
  all_goals exact reference

/-- Where enums are known exactly, so is what is built; by induction on the levels. -/
theorem IsBuilt.eq_messageSchema?
    {levels : Nat}
    {name : String}
    {schema : Option MessageSchema}
    (built : index.IsBuilt index.FindsEnum levels name schema) :
    schema = index.messageSchema? levels name := by
  induction levels generalizing name schema with
  | zero =>
      exact built
  | succ levels inductionHypothesis =>
      rw [IsBuilt] at built
      unfold IsBuiltFrom at built
      rw [messageSchema?]
      cases wellKnown : WellKnownType.ofName? name with
      | some type =>
          simp only [wellKnown] at built
          rw [built, schemaFrom?_of_wellKnown _ _ wellKnown]
      | none =>
          rw [schemaFrom?_of_ordinary _ _ wellKnown]
          cases indexed : index.message? name with
          | none =>
              simp only [wellKnown, indexed] at built
              exact built
          | some descriptor =>
              simp only [wellKnown, indexed] at built
              obtain ⟨⟨_, _, fields, _⟩, rfl, rfl, rfl, rfl, references⟩ := built
              have same : descriptor.fields.map
                  (fun field => FieldSchema.mk field
                    (index.reference? (index.messageSchema? levels) field)) = fields := by
                rw [← List.forall₂_eq_eq_eq, List.forall₂_map_left_iff]
                refine references.imp ?_
                rintro _ ⟨field, nested⟩ ⟨rfl, reference⟩
                rw [← reference.eq_reference? fun _ _ below => inductionHypothesis below]
              rw [Option.map_some, schemaOf, same]

variable {OfEnum OfEnumToo : String → Option EnumSchema → Prop}
variable {Below BelowToo : String → Option MessageSchema → Prop}

/-- What is built under a name that is not well-known is built from an indexed message. -/
theorem IsBuilt.exists_isMessage
    {levels : Nat}
    {name : String}
    {schema : MessageSchema}
    (built : index.IsBuilt OfEnum levels name (some schema))
    (ordinary : WellKnownType.ofName? name = none) :
    ∃ below descriptor, levels = below + 1 ∧ index.message? name = some descriptor ∧
      IsMessage OfEnum (index.IsBuilt OfEnum below) name descriptor schema := by
  cases levels with
  | zero =>
      cases built
  | succ below =>
      rw [IsBuilt] at built
      unfold IsBuiltFrom at built
      cases indexed : index.message? name with
      | none =>
          simp only [ordinary, indexed] at built
          cases built
      | some descriptor =>
          simp only [ordinary, indexed] at built
          obtain ⟨message, same, isMessage⟩ := built
          obtain rfl := Option.some.inj same
          exact ⟨below, descriptor, rfl, rfl, isMessage⟩

/-! Under a name that is not well-known there is a message of that name, which is not either. -/

theorem IsBuilt.wellKnown_eq_none
    {levels : Nat}
    {name : String}
    {schema : MessageSchema}
    (built : index.IsBuilt OfEnum levels name (some schema))
    (ordinary : WellKnownType.ofName? name = none) :
    schema.wellKnown = none := by
  obtain ⟨_, _, _, _, isMessage⟩ := built.exists_isMessage ordinary
  exact isMessage.wellKnown

theorem IsBuilt.fullName_eq
    {levels : Nat}
    {name : String}
    {schema : MessageSchema}
    (built : index.IsBuilt OfEnum levels name (some schema))
    (ordinary : WellKnownType.ofName? name = none) :
    schema.fullName = name := by
  obtain ⟨_, _, _, _, isMessage⟩ := built.exists_isMessage ordinary
  exact isMessage.fullName

/-- A message that is indexed is built. -/
theorem IsBuilt.exists_of_indexed
    {levels : Nat}
    {name : String}
    {schema : Option MessageSchema}
    (built : index.IsBuilt OfEnum (levels + 1) name schema)
    (indexed : index.message? name ≠ none) :
    ∃ message, schema = some message := by
  obtain ⟨descriptor, found⟩ := Option.ne_none_iff_exists'.mp indexed
  rw [IsBuilt] at built
  unfold IsBuiltFrom at built
  cases wellKnown : WellKnownType.ofName? name with
  | some type =>
      simp only [wellKnown] at built
      exact ⟨_, built⟩
  | none =>
      simp only [wellKnown, found] at built
      obtain ⟨message, same, _⟩ := built
      exact ⟨message, same⟩

/-- What a field refers to without a look at the messages below. -/
inductive IsShallow : Option NestedSchema → Prop where
  | nothing :
      IsShallow none
  | unresolved :
      IsShallow (some .unresolved)
  | wellKnown
      (type : WellKnownType) :
      IsShallow (some (.message (.ofWellKnown type)))

/-- One field refers to related things if references to enums and to messages lead to such. -/
theorem IsReference.related
    {Related : Option NestedSchema → Option NestedSchema → Prop}
    {field : FieldDescriptor}
    {nested other : Option NestedSchema}
    (reference : IsReference OfEnum Below field nested)
    (otherReference : IsReference OfEnumToo BelowToo field other)
    (shallow : ∀ nested, IsShallow nested → Related nested nested)
    (enum : ∀ typeName schema otherSchema, field.type.jsonKind = .enumString →
      field.typeName = some typeName → OfEnum typeName schema →
        OfEnumToo typeName otherSchema →
          Related (some (leadingToEnum schema)) (some (leadingToEnum otherSchema)))
    (message : ∀ typeName schema otherSchema, field.type.jsonKind = .object →
      field.typeName = some typeName → WellKnownType.ofName? typeName = none →
        Below (TypeName.normalize typeName) schema →
          BelowToo (TypeName.normalize typeName) otherSchema →
            Related (some (leadingTo schema)) (some (leadingTo otherSchema))) :
    Related nested other := by
  unfold IsReference at reference otherReference
  cases kind : field.type.jsonKind <;> cases refers : field.typeName <;>
    simp only [kind, refers] at reference otherReference
  case object.none | enumString.none =>
    rw [reference, otherReference]
    exact shallow _ .unresolved
  case enumString.some typeName =>
    obtain ⟨schema, found, rfl⟩ := reference
    obtain ⟨otherSchema, otherFound, rfl⟩ := otherReference
    exact enum typeName schema otherSchema kind refers found otherFound
  case object.some typeName =>
    cases wellKnown : WellKnownType.ofName? typeName with
    | some type =>
        simp only [wellKnown] at reference otherReference
        rw [reference, otherReference]
        exact shallow _ (.wellKnown type)
    | none =>
        simp only [wellKnown] at reference otherReference
        obtain ⟨schema, built, rfl⟩ := reference
        obtain ⟨otherSchema, otherBuilt, rfl⟩ := otherReference
        exact message typeName schema otherSchema kind refers wellKnown built otherBuilt
  all_goals
    rw [reference, otherReference]
    exact shallow _ .nothing

/-- What is built of one name twice: nothing, a well-known type, or messages with related fields. -/
inductive BuiltAlike
    (Related : FieldSchema → FieldSchema → Prop)
    (name : String) :
    Option MessageSchema →
    Option MessageSchema →
    Prop where
  | missing :
      BuiltAlike Related name none none
  | wellKnown
      {type : WellKnownType}
      (isType : WellKnownType.ofName? name = some type) :
      BuiltAlike Related name (some (.ofWellKnown type)) (some (.ofWellKnown type))
  | message
      {simpleName : String}
      {fields others : List FieldSchema}
      (related : List.Forall₂ Related fields others) :
      BuiltAlike Related name
        (some ⟨simpleName, name, fields, none⟩) (some ⟨simpleName, name, others, none⟩)

/-- Two lists that are each related to a third are related if their elements are. -/
theorem forall₂_of_common
    {α β γ : Type}
    {First : α → β → Prop}
    {Second : α → γ → Prop}
    {Related : β → γ → Prop}
    {common : List α}
    {first : List β}
    {second : List γ}
    (toFirst : List.Forall₂ First common first)
    (toSecond : List.Forall₂ Second common second)
    (related : ∀ element ∈ common, ∀ left right, First element left →
      Second element right → Related left right) :
    List.Forall₂ Related first second := by
  induction toFirst generalizing second with
  | nil =>
      cases toSecond
      exact .nil
  | cons head _ inductionHypothesis =>
      cases toSecond with
      | cons otherHead otherTail =>
          rw [List.forall_mem_cons] at related
          exact .cons (related.1 _ _ head otherHead) (inductionHypothesis otherTail related.2)

/-- A message is built alike twice if what each field refers to is related. -/
theorem IsBuiltFrom.alike
    {Related : FieldSchema → FieldSchema → Prop}
    {name : String}
    {schema other : Option MessageSchema}
    (built : index.IsBuiltFrom OfEnum Below name schema)
    (otherBuilt : index.IsBuiltFrom OfEnumToo BelowToo name other)
    (related : ∀ descriptor, index.message? name = some descriptor →
      ∀ field ∈ descriptor.fields, ∀ nested otherNested,
        IsReference OfEnum Below field nested →
          IsReference OfEnumToo BelowToo field otherNested →
            Related ⟨field, nested⟩ ⟨field, otherNested⟩) :
    BuiltAlike Related name schema other := by
  unfold IsBuiltFrom at built otherBuilt
  cases wellKnown : WellKnownType.ofName? name with
  | some type =>
      simp only [wellKnown] at built otherBuilt
      rw [built, otherBuilt]
      exact .wellKnown wellKnown
  | none =>
      cases indexed : index.message? name with
      | none =>
          simp only [wellKnown, indexed] at built otherBuilt
          rw [built, otherBuilt]
          exact .missing
      | some descriptor =>
          simp only [wellKnown, indexed] at built otherBuilt
          obtain ⟨⟨_, _, fields, _⟩, rfl, rfl, rfl, rfl, references⟩ := built
          obtain ⟨⟨_, _, others, _⟩, rfl, rfl, rfl, rfl, otherReferences⟩ := otherBuilt
          refine .message (forall₂_of_common references otherReferences ?_)
          rintro field member ⟨_, nested⟩ ⟨_, otherNested⟩ ⟨rfl, reference⟩
            ⟨rfl, otherReference⟩
          exact related descriptor indexed _ member nested otherNested reference otherReference

end TypeIndex

namespace Resolver

open TypeIndex

section Ensures

variable {α β : Type} {Invariant : SchemaCache → Prop}

/-- From any cache with an invariant, an action has a value of some kind and keeps the invariant. -/
def Ensures
    (Invariant : SchemaCache → Prop)
    (Holds : α → Prop)
    (action : Cached α) :
    Prop :=
  ∀ cache : SchemaCache, Invariant cache →
    Holds (action.run cache).1 ∧ Invariant (action.run cache).2

theorem ensures_pure
    {Holds : α → Prop}
    {value : α}
    (holds : Holds value) :
    Ensures Invariant Holds (pure value) :=
  fun _ kept => ⟨holds, kept⟩

theorem Ensures.bind
    {Holds : α → Prop}
    {HoldsNext : β → Prop}
    {action : Cached α}
    {next : α → Cached β}
    (first : Ensures Invariant Holds action)
    (further : ∀ value, Holds value → Ensures Invariant HoldsNext (next value)) :
    Ensures Invariant HoldsNext (action >>= next) := by
  intro cache kept
  obtain ⟨holds, keptMiddle⟩ := first cache kept
  rw [StateT.run_bind]
  exact further _ holds _ keptMiddle

end Ensures

variable {resolver : Resolver} {Invariant : SchemaCache → Prop}
variable {OfEnum : String → Option EnumSchema → Prop}

/-- What is built of the messages below, where none is built if the levels are used up. -/
def EnsuresBelow
    (Invariant : SchemaCache → Prop)
    (Below : String → Option MessageSchema → Prop) :
    Option (String → Cached (Option MessageSchema)) →
    Prop
  | none =>
      ∀ name, Below name none
  | some build =>
      ∀ name, Ensures Invariant (Below name) (build name)

theorem resolveReference_ensures
    {Below : String → Option MessageSchema → Prop}
    {deeper : Option (String → Cached (Option MessageSchema))}
    {field : FieldDescriptor}
    (enums : ∀ typeName, field.typeName = some typeName → field.type.jsonKind = .enumString →
      Ensures Invariant (OfEnum typeName) (resolver.resolveEnum typeName))
    (below : EnsuresBelow Invariant Below deeper) :
    Ensures Invariant (IsReference OfEnum Below field)
      (resolver.resolveReference deeper field) := by
  rw [resolveReference]
  unfold IsReference
  cases kind : field.type.jsonKind with
  | enumString =>
      cases refers : field.typeName with
      | none =>
          exact ensures_pure rfl
      | some typeName =>
          refine (enums typeName refers kind).bind ?_
          intro schema found
          cases schema <;> exact ensures_pure ⟨_, found, rfl⟩
  | object =>
      cases refers : field.typeName with
      | none =>
          exact ensures_pure rfl
      | some typeName =>
          cases wellKnown : WellKnownType.ofName? typeName with
          | some type =>
              simp only [wellKnown]
              exact ensures_pure rfl
          | none =>
              simp only [wellKnown]
              cases deeper with
              | none =>
                  exact ensures_pure ⟨none, below (TypeName.normalize typeName), rfl⟩
              | some build =>
                  refine (below (TypeName.normalize typeName)).bind ?_
                  intro schema built
                  cases schema <;> exact ensures_pure ⟨_, built, rfl⟩
  | _ =>
      cases field.typeName <;> exact ensures_pure rfl

theorem resolveFields_ensures
    {Below : String → Option MessageSchema → Prop}
    {deeper : Option (String → Cached (Option MessageSchema))}
    {fields : List FieldDescriptor}
    (enums : ∀ field ∈ fields, ∀ typeName, field.typeName = some typeName →
      field.type.jsonKind = .enumString →
        Ensures Invariant (OfEnum typeName) (resolver.resolveEnum typeName))
    (below : EnsuresBelow Invariant Below deeper) :
    Ensures Invariant
      (List.Forall₂
        (fun field built =>
          built.descriptor = field ∧ IsReference OfEnum Below field built.nested)
        fields)
      (resolver.resolveFields deeper fields) := by
  induction fields with
  | nil =>
      exact ensures_pure .nil
  | cons field rest inductionHypothesis =>
      rw [List.forall_mem_cons] at enums
      refine (resolveReference_ensures enums.1 below).bind ?_
      intro nested reference
      refine (inductionHypothesis enums.2).bind ?_
      intro others references
      exact ensures_pure (.cons ⟨rfl, reference⟩ references)

theorem buildMessage_ensures_of_below
    (Below : String → Option MessageSchema → Prop)
    (enums : resolver.index.HasReferences fun kind typeName => kind = .enumString →
      Ensures Invariant (OfEnum typeName) (resolver.resolveEnum typeName))
    (levels : Nat)
    (below : EnsuresBelow Invariant Below
      (match levels with
        | 0 =>
            none
        | levels + 1 =>
            some (resolver.buildMessage levels)))
    (name : String) :
    Ensures Invariant (resolver.index.IsBuiltFrom OfEnum Below name)
      (resolver.buildMessage levels name) := by
  rw [buildMessage.eq_def]
  unfold IsBuiltFrom
  cases wellKnown : WellKnownType.ofName? name with
  | some type =>
      simp only [wellKnown]
      exact ensures_pure rfl
  | none =>
      cases indexed : resolver.index.message? name with
      | none =>
          simp only [wellKnown, indexed]
          exact ensures_pure rfl
      | some descriptor =>
          simp only [wellKnown, indexed]
          refine (resolveFields_ensures (enums name descriptor indexed) below).bind ?_
          intro fields references
          exact ensures_pure ⟨_, rfl, rfl, rfl, rfl, references⟩

/-- Building a message follows the index, by induction on the levels below it. -/
theorem buildMessage_ensures
    (enums : resolver.index.HasReferences fun kind typeName => kind = .enumString →
      Ensures Invariant (OfEnum typeName) (resolver.resolveEnum typeName))
    (levels : Nat)
    (name : String) :
    Ensures Invariant (resolver.index.IsBuilt OfEnum (levels + 1) name)
      (resolver.buildMessage levels name) := by
  induction levels generalizing name with
  | zero =>
      exact buildMessage_ensures_of_below (resolver.index.IsBuilt OfEnum 0) enums 0
        (fun _ => rfl) name
  | succ levels inductionHypothesis =>
      exact buildMessage_ensures_of_below (resolver.index.IsBuilt OfEnum (levels + 1)) enums
        (levels + 1) inductionHypothesis name

/-- The schema of a message that is built when nothing is cached. -/
def rebuilt
    (resolver : Resolver)
    (name : String) :
    Option MessageSchema :=
  ((resolver.rebuildMessage name).run SchemaCache.empty).1

/-- Rebuilding a message follows the index, with a depth of nothing as one of one. -/
theorem isBuilt_rebuildMessage
    (Invariant : SchemaCache → Prop)
    (enums : resolver.index.HasReferences fun kind typeName => kind = .enumString →
      Ensures Invariant (OfEnum typeName) (resolver.resolveEnum typeName))
    (name : String)
    {cache : SchemaCache}
    (kept : Invariant cache) :
    resolver.index.IsBuilt OfEnum (resolver.maxDepth - 1 + 1) (TypeName.normalize name)
      ((resolver.rebuildMessage name).run cache).1 := by
  have built := (buildMessage_ensures enums (resolver.maxDepth - 1)
    (TypeName.normalize name) cache kept).1
  convert built using 1
  rw [rebuildMessage]
  cases wellKnown : WellKnownType.ofName? (TypeName.normalize name) with
  | some type =>
      rw [buildMessage.eq_def]
      simp only [wellKnown]
  | none =>
      rw [StateT.run_bind]
      generalize (resolver.buildMessage (resolver.maxDepth - 1)
        (TypeName.normalize name)).run cache = ran
      obtain ⟨schema, later⟩ := ran
      cases schema <;> rfl

end Resolver

end GrpcDiscovery
