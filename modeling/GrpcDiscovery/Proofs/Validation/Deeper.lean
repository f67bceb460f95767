import GrpcDiscovery.Proofs.Schema.Built
import GrpcDiscovery.Validation

namespace GrpcDiscovery

/-!
# Checks against deeper schemas

At the end of a schema a message may be any object. A deeper schema knows the message
there, and asks for an object as well, in the same words, before it looks at the members.
So a check against it finds what the other check finds, in the same order, and more only
inside of objects that the other takes as they are.
-/

namespace Validation

/-- Two expectations of the same kinds of values, of which the second finds more inside them. -/
structure Expectation.IsWeakerThan
    (expectation stricter : Expectation) :
    Prop where
  mismatch : ∀ value, expectation.mismatch? value = stricter.mismatch? value
  inside : ∀ path value,
    (insideFaults path expectation value).Sublist (insideFaults path stricter value)

theorem Expectation.IsWeakerThan.refl (expectation : Expectation) :
    expectation.IsWeakerThan expectation where
  mismatch _ := rfl
  inside _ _ := .refl _

/-- Any object will do for one that expects no more than an object. -/
theorem Expectation.valueOf_object_isWeakerThan (schema : MessageSchema) :
    (Expectation.valueOf .object).IsWeakerThan (.message schema) where
  mismatch _ := rfl
  inside path value := by
    cases value <;> simp only [insideFaults, List.Sublist.refl, List.nil_sublist]

/-- One field of two schemas, of which the second expects more. -/
structure IsWeakerField (field stricter : FieldSchema) : Prop where
  descriptor : field.descriptor = stricter.descriptor
  expectation : (Expectation.ofField field).IsWeakerThan (.ofField stricter)

/-- What is looked for is found at the same place in lists of related elements. -/
theorem find?_of_forall₂
    {α β : Type}
    {Related : α → β → Prop}
    {elements : List α}
    {others : List β}
    (related : List.Forall₂ Related elements others)
    {isFound : α → Bool}
    {isOtherFound : β → Bool}
    (same : ∀ element other, Related element other → isFound element = isOtherFound other) :
    Option.Rel Related (elements.find? isFound) (others.find? isOtherFound) := by
  induction related with
  | nil =>
      exact .none
  | @cons element other _ _ first _ inductionHypothesis =>
      rw [List.find?_cons, List.find?_cons, same element other first]
      cases isOtherFound other with
      | true =>
          exact .some first
      | false =>
          exact inductionHypothesis

/-- A key names the same field, or none. -/
theorem field?_of_forall₂
    {schema stricter : MessageSchema}
    (weaker : List.Forall₂ IsWeakerField schema.fields stricter.fields)
    (key : String) :
    Option.Rel IsWeakerField (schema.field? key) (stricter.field? key) := by
  have named := find?_of_forall₂ weaker
    (fun field other (related : IsWeakerField field other) =>
      congrArg (fun descriptor => descriptor.name == key) related.descriptor)
  have jsonNamed := find?_of_forall₂ weaker
    (fun field other (related : IsWeakerField field other) =>
      congrArg (fun descriptor => descriptor.jsonName == key) related.descriptor)
  rw [MessageSchema.field?, MessageSchema.field?]
  generalize schema.fields.find? (fun field => field.descriptor.name == key) = found at named ⊢
  generalize stricter.fields.find? (fun field => field.descriptor.name == key) = other at named ⊢
  cases named with
  | some related =>
      exact .some related
  | none =>
      exact jsonNamed

/-- The items of an array have more faults for an expectation that finds more in each. -/
theorem itemFaults_sublist
    {expectation stricter : Expectation}
    (weaker : expectation.IsWeakerThan stricter)
    (path : String)
    (index : Nat)
    (items : List Json) :
    (itemFaults path expectation index items).Sublist
      (itemFaults path stricter index items) := by
  induction items generalizing index with
  | nil =>
      rw [itemFaults, itemFaults]
  | cons item rest inductionHypothesis =>
      rw [itemFaults, itemFaults, weaker.mismatch]
      apply List.Sublist.append ?_ (inductionHypothesis (index + 1))
      cases stricter.mismatch? item with
      | some expected =>
          exact .refl _
      | none =>
          exact weaker.inside path item

/-- The members of an object have more faults for fields that each expect more. -/
theorem memberFaults_sublist
    {schema stricter : MessageSchema}
    (weaker : List.Forall₂ IsWeakerField schema.fields stricter.fields)
    (scope : String)
    (members : List (String × Json)) :
    (memberFaults scope schema members).Sublist (memberFaults scope stricter members) := by
  induction members with
  | nil =>
      rw [memberFaults, memberFaults]
  | cons member rest inductionHypothesis =>
      obtain ⟨key, value⟩ := member
      rw [memberFaults, memberFaults]
      apply List.Sublist.append ?_ inductionHypothesis
      have found := field?_of_forall₂ weaker key
      generalize schema.field? key = field at found
      generalize stricter.field? key = other at found
      cases found with
      | none =>
          exact .refl _
      | @some field other related =>
          have sameLabel : field.isRepeated = other.isRepeated := by
            rw [FieldSchema.isRepeated, FieldSchema.isRepeated, related.descriptor]
          dsimp only
          rw [sameLabel, related.expectation.mismatch]
          by_cases null : value.isNull
          · simp only [null, if_true, List.Sublist.refl]
          by_cases repeated : other.isRepeated
          · simp only [null, repeated, if_true]
            cases value with
            | array items =>
                exact itemFaults_sublist related.expectation _ 0 items
            | _ =>
                exact .refl _
          · simp only [null, repeated]
            cases (Expectation.ofField other).mismatch? value with
            | some expected =>
                exact .refl _
            | none =>
                exact related.expectation.inside _ value

/-- Both expect an object, whose members are checked field by field. -/
theorem Expectation.message_isWeakerThan
    {schema stricter : MessageSchema}
    (weaker : List.Forall₂ IsWeakerField schema.fields stricter.fields) :
    (Expectation.message schema).IsWeakerThan (.message stricter) where
  mismatch _ := rfl
  inside path value := by
    cases value with
    | object members =>
        exact memberFaults_sublist weaker (path ++ ".") members
    | _ =>
        exact .refl _

/-! What a field expects depends on whether it leads to a message. -/

theorem Expectation.ofField_of_isMessage
    {field : FieldDescriptor}
    (object : field.type.jsonKind = .object)
    {schema : MessageSchema}
    (ordinary : schema.wellKnown = none) :
    Expectation.ofField ⟨field, some (TypeIndex.leadingTo (some schema))⟩ = .message schema := by
  simp only [Expectation.ofField, TypeIndex.leadingTo, Option.map_some, Option.getD_some,
    object, ordinary]

theorem Expectation.ofField_of_missing
    {field : FieldDescriptor}
    (object : field.type.jsonKind = .object) :
    Expectation.ofField ⟨field, some (TypeIndex.leadingTo none)⟩ = .valueOf .object := by
  simp only [Expectation.ofField, TypeIndex.leadingTo, Option.map_none, Option.getD_none, object]

theorem Expectation.ofField_of_enum
    {field : FieldDescriptor}
    (enum : field.type.jsonKind = .enumString)
    (nested : Option NestedSchema) :
    Expectation.ofField ⟨field, nested⟩ = .valueOf .enumString := by
  simp only [Expectation.ofField, enum]

end Validation

namespace TypeIndex

open Validation

variable {index : TypeIndex} {OfEnum OfEnumToo : String → Option EnumSchema → Prop}

/-- What is built with more levels is stricter, if the messages below are. -/
theorem builtAlike_of_below
    (hidesNone : index.HidesNoWellKnown)
    {levels otherLevels : Nat}
    (enough : levels ≤ otherLevels)
    (below : ∀ name schema other, WellKnownType.ofName? name = none →
      index.IsBuilt OfEnum levels name (some schema) →
        index.IsBuilt OfEnumToo otherLevels name (some other) →
          List.Forall₂ IsWeakerField schema.fields other.fields)
    {name : String}
    {schema other : Option MessageSchema}
    (built : index.IsBuilt OfEnum (levels + 1) name schema)
    (otherBuilt : index.IsBuilt OfEnumToo (otherLevels + 1) name other) :
    BuiltAlike IsWeakerField name schema other := by
  apply IsBuiltFrom.alike built otherBuilt
  intro descriptor indexed field member nested otherNested reference otherReference
  suffices weaker : (Expectation.ofField ⟨field, nested⟩).IsWeakerThan
      (.ofField ⟨field, otherNested⟩) from ⟨rfl, weaker⟩
  apply IsReference.related reference otherReference
  case shallow =>
    intro nested _
    exact .refl _
  case enum =>
    intro typeName schema other kind _ _ _
    rw [Expectation.ofField_of_enum kind, Expectation.ofField_of_enum kind]
    exact .refl _
  case message =>
    intro typeName schema other kind refers ordinary built otherBuilt
    have ordinaryBelow := hidesNone.ordinary indexed member kind refers ordinary
    cases schema with
    | none =>
        rw [Expectation.ofField_of_missing kind]
        cases other with
        | none =>
            rw [Expectation.ofField_of_missing kind]
            exact .refl _
        | some other =>
            rw [Expectation.ofField_of_isMessage kind
              (otherBuilt.wellKnown_eq_none ordinaryBelow)]
            exact Expectation.valueOf_object_isWeakerThan other
    | some schema =>
        -- The message is indexed, and the other schema has levels left for it as well.
        obtain ⟨less, _, rfl, indexedBelow, _⟩ := built.exists_isMessage ordinaryBelow
        obtain ⟨otherLess, rfl⟩ : ∃ otherLess, otherLevels = otherLess + 1 :=
          ⟨otherLevels - 1, by omega⟩
        obtain ⟨other, rfl⟩ := otherBuilt.exists_of_indexed (by simp [indexedBelow])
        rw [Expectation.ofField_of_isMessage kind (built.wellKnown_eq_none ordinaryBelow),
          Expectation.ofField_of_isMessage kind
            (otherBuilt.wellKnown_eq_none ordinaryBelow)]
        exact Expectation.message_isWeakerThan
          (below _ schema other ordinaryBelow built otherBuilt)

/-- What is built with more levels is stricter, by induction on the lesser levels. -/
theorem builtAlike_isWeakerField
    (hidesNone : index.HidesNoWellKnown)
    {levels otherLevels : Nat}
    (enough : levels ≤ otherLevels)
    {name : String}
    {schema other : Option MessageSchema}
    (built : index.IsBuilt OfEnum (levels + 1) name schema)
    (otherBuilt : index.IsBuilt OfEnumToo (otherLevels + 1) name other) :
    BuiltAlike IsWeakerField name schema other := by
  induction levels generalizing otherLevels name schema other with
  | zero =>
      apply builtAlike_of_below hidesNone enough ?_ built otherBuilt
      intro _ _ _ _ absent
      cases absent
  | succ levels inductionHypothesis =>
      apply builtAlike_of_below hidesNone enough ?_ built otherBuilt
      intro name schema other ordinary built otherBuilt
      obtain ⟨otherLess, _, rfl, _⟩ := otherBuilt.exists_isMessage ordinary
      have alike := inductionHypothesis (Nat.le_of_succ_le_succ enough) built otherBuilt
      cases alike with
      | wellKnown isType =>
          rw [ordinary] at isType
          cases isType
      | message related =>
          exact related

/-- A check against weaker fields finds some of the faults, in the same order. -/
theorem BuiltAlike.validate_sublist
    {name : String}
    {schema stricter : MessageSchema}
    (alike : BuiltAlike IsWeakerField name (some schema) (some stricter))
    (request : Json) :
    (schema.validate request).faults.Sublist (stricter.validate request).faults := by
  cases request with
  | object members =>
      cases alike with
      | wellKnown _ =>
          exact .refl _
      | message related =>
          exact memberFaults_sublist related "" members
  | _ =>
      exact .refl _

/--
Of an indexed message, a deeper schema finds every fault that another finds.

The faults are found in the same order and told in the same words, whatever was cached
when the schemas were built, and so what the deeper one accepts is accepted by the other.
-/
def DeeperFindsMore (index : TypeIndex) : Prop :=
  ∀ maxDepth deeperDepth : Nat, maxDepth ≤ deeperDepth →
    ∀ name, index.message? (TypeName.normalize name) ≠ none →
      ∀ cache otherCache : SchemaCache, ∃ schema deeper,
        (((Resolver.mk index maxDepth).rebuildMessage name).run cache).1 = some schema ∧
          (((Resolver.mk index deeperDepth).rebuildMessage name).run otherCache).1 =
            some deeper ∧
          ∀ request,
            (schema.validate request).messages.Sublist (deeper.validate request).messages ∧
              ((deeper.validate request).isValid = true →
                (schema.validate request).isValid = true)

/--
A deeper schema finds more, if no reference to a message hides a well-known type behind
two dots.
-/
theorem deeperFindsMore
    (hidesNone : index.HidesNoWellKnown) :
    index.DeeperFindsMore := by
  intro maxDepth deeperDepth enough name indexed cache otherCache
  have built (maxDepth : Nat) (cache : SchemaCache) :
      index.IsBuilt (fun _ _ => True) (maxDepth - 1 + 1) (TypeName.normalize name)
        (((Resolver.mk index maxDepth).rebuildMessage name).run cache).1 :=
    Resolver.isBuilt_rebuildMessage (fun _ => True)
      (fun _ _ _ _ _ _ _ _ _ _ => ⟨trivial, trivial⟩) name trivial
  obtain ⟨schema, isSchema⟩ := (built maxDepth cache).exists_of_indexed indexed
  obtain ⟨deeper, isDeeper⟩ := (built deeperDepth otherCache).exists_of_indexed indexed
  have alike := builtAlike_isWeakerField hidesNone (Nat.sub_le_sub_right enough 1)
    (built maxDepth cache) (built deeperDepth otherCache)
  rw [isSchema, isDeeper] at alike
  refine ⟨schema, deeper, isSchema, isDeeper, fun request => ?_⟩
  have found := alike.validate_sublist request
  refine ⟨found.map Fault.message, ?_⟩
  rw [Validation.isValid, Validation.isValid, List.isEmpty_iff, List.isEmpty_iff]
  intro accepted
  rw [accepted] at found
  exact List.eq_nil_of_sublist_nil found

/-- A message that refers to itself, with two levels of it and with three. -/
theorem deeperFindsMore_cycle :
    ofCycle.HidesNoWellKnown ∧
    2 ≤ 3 ∧
    ofCycle.message? (TypeName.normalize "M") ≠ none ∧
    ∃ schema deeper,
      (((Resolver.mk ofCycle 2).rebuildMessage "M").run .empty).1 = some schema ∧
        (((Resolver.mk ofCycle 3).rebuildMessage "M").run .empty).1 =
          some deeper ∧
        ∀ request,
          (schema.validate request).messages.Sublist (deeper.validate request).messages ∧
            ((deeper.validate request).isValid = true →
              (schema.validate request).isValid = true) := by
  exact ⟨hidesNoWellKnown_ofCycle, by decide, indexed_ofCycle,
    deeperFindsMore hidesNoWellKnown_ofCycle 2 3 (by decide) "M" indexed_ofCycle
      .empty .empty⟩

/-- A request with a text where the deeper schema knows a point in time. -/
def timeRequest : Json :=
  .object [("time", .string "")]

/-- A well-known type that is hidden is found by the deeper schema, which then accepts more. -/
theorem not_forall_deeperFindsMore :
    ¬ ∀ index : TypeIndex, index.DeeperFindsMore := by
  intro always
  obtain ⟨schema, deeper, built, deeperBuilt, more⟩ :=
    always ofHidden 1 2 (by decide) "M" indexed_ofHidden .empty .empty
  have rejected :
      ((((Resolver.mk ofHidden 1).rebuildMessage "M").run .empty).1.map
        fun schema => (schema.validate timeRequest).isValid) = some false := by
    decide +kernel
  have accepted :
      ((((Resolver.mk ofHidden 2).rebuildMessage "M").run .empty).1.map
        fun schema => (schema.validate timeRequest).isValid) = some true := by
    decide +kernel
  rw [built, Option.map_some] at rejected
  rw [deeperBuilt, Option.map_some] at accepted
  have alsoAccepted := (more timeRequest).2 (Option.some.inj accepted)
  rw [alsoAccepted] at rejected
  cases rejected

end TypeIndex

end GrpcDiscovery
