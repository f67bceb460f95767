import GrpcDiscovery.Proofs.Schema.Built
import GrpcDiscovery.Proofs.Template.Accepted

namespace GrpcDiscovery

/-!
# Depths of schemas and of templates

A schema ends where the levels of its resolver are used up, and a template where its own
depth is. A message at the end of either is an empty object, so it makes no difference
which of the two ends first: templates of one message are the same if the lesser of the
two depths is.

Of an enum a template shows the first value only. So it is enough that what a cache holds
of enums has the values of the index, under names that have no dot in front.
-/

/-- The values of the enum that an index has under exactly this name. -/
def TypeIndex.enumValues?
    (index : TypeIndex)
    (name : String) :
    Option (List EnumValue) :=
  (index.enums[name]?).map fun descriptor => (EnumSchema.ofDescriptor name descriptor).values

/-- Enums that are cached under a name without a dot in front have the values of the index. -/
def SchemaCache.HasValuesOf
    (cache : SchemaCache)
    (index : TypeIndex) :
    Prop :=
  ∀ (name : String) (schema : EnumSchema), cache.enums[name]? = some schema →
    ¬ ['.'] <+: name.toList → index.enumValues? name = some schema.values

theorem SchemaCache.hasValuesOf_empty (index : TypeIndex) : empty.HasValuesOf index := by
  intro name schema found
  simp [empty] at found

/-- Keeping an enum with the values of the index leaves a cache with them. -/
theorem SchemaCache.HasValuesOf.insertEnum
    {cache : SchemaCache}
    {index : TypeIndex}
    (hasValues : cache.HasValuesOf index)
    {name : String}
    {descriptor : EnumDescriptor}
    (indexed : index.enum? name = some descriptor) :
    (cache.insertEnum (.ofDescriptor name descriptor)).HasValuesOf index := by
  intro other schema found noDot
  rw [SchemaCache.insertEnum, Std.TreeMap.getElem?_insert] at found
  split at found
  · rename_i same
    obtain rfl : name = other := Std.LawfulEqOrd.eq_of_compare same
    obtain rfl := Option.some.inj found
    rw [TypeIndex.enum?, TypeName.normalize_eq_self noDot] at indexed
    rw [TypeIndex.enumValues?, indexed, Option.map_some]
  · exact hasValues other schema found noDot

/-- What is found of an enum are the values that the index has under its plain name. -/
def TypeIndex.FindsValues
    (index : TypeIndex)
    (typeName : String)
    (schema : Option EnumSchema) :
    Prop :=
  schema.map EnumSchema.values =
    index.enumValues? (TypeName.normalize (TypeName.normalize typeName))

namespace Resolver

variable {resolver : Resolver}

/-- A reference with two dots at most finds the values of the index. -/
theorem resolveEnum_findsValues
    {typeName : String}
    (twoDots : ¬ ['.', '.', '.'] <+: typeName.toList) :
    Ensures (SchemaCache.HasValuesOf · resolver.index) (resolver.index.FindsValues typeName)
      (resolver.resolveEnum typeName) := by
  have plain : ¬ ['.'] <+: (TypeName.normalize (TypeName.normalize typeName)).toList :=
    fun dotted => twoDots
      (TypeName.dot_prefix_of_normalize (TypeName.dot_prefix_of_normalize dotted))
  intro cache hasValues
  rw [resolveEnum]
  simp only [StateT.run_bind, StateT.run_get, pure_bind]
  cases cached : cache.enum? (TypeName.normalize typeName) with
  | some schema =>
      exact ⟨(hasValues _ schema cached plain).symm, hasValues⟩
  | none =>
      cases indexed : resolver.index.enum? (TypeName.normalize typeName) with
      | none =>
          refine ⟨?_, hasValues⟩
          rw [TypeIndex.enum?] at indexed
          simp only [TypeIndex.FindsValues, TypeIndex.enumValues?, indexed]
          rfl
      | some descriptor =>
          refine ⟨?_, hasValues.insertEnum indexed⟩
          rw [TypeIndex.enum?] at indexed
          simp only [TypeIndex.FindsValues, TypeIndex.enumValues?, indexed]
          rfl

/-- With such references, what is rebuilt has the values of the index for enums. -/
theorem rebuilt_findsValues
    (resolver : Resolver)
    (twoDots : resolver.index.HasTwoDotsAtMost)
    (name : String) :
    resolver.index.IsBuilt resolver.index.FindsValues (resolver.maxDepth - 1 + 1)
      (TypeName.normalize name) (resolver.rebuilt name) :=
  isBuilt_rebuildMessage (SchemaCache.HasValuesOf · resolver.index)
    (fun _ _ found _ member typeName refers enum =>
      resolveEnum_findsValues (twoDots _ _ found _ member typeName refers enum))
    name (SchemaCache.hasValuesOf_empty resolver.index)

end Resolver

namespace Template

open TypeIndex

variable {index : TypeIndex} {OfEnum : String → Option EnumSchema → Prop}

/-- The depth is for messages that are laid out by their fields. -/
theorem placeholder_of_isShallow
    {nested : Option NestedSchema}
    (shallow : IsShallow nested)
    (field : FieldDescriptor)
    (depth otherDepth : Nat) :
    placeholder depth ⟨field, nested⟩ = placeholder otherDepth ⟨field, nested⟩ := by
  cases kind : field.type.jsonKind <;> cases shallow <;> simp only [placeholder, kind]
  case object.unresolved =>
    simp only [ofReference]
  case object.wellKnown type =>
    simp only [ofReference, MessageSchema.ofWellKnown, MessageSchema.ofWellKnownFields]

/-- The placeholder of an enum depends on its values only. -/
theorem enumPlaceholder_leadingToEnum
    {schema other : Option EnumSchema}
    (same : schema.map EnumSchema.values = other.map EnumSchema.values) :
    enumPlaceholder (some (leadingToEnum schema)) =
      enumPlaceholder (some (leadingToEnum other)) := by
  cases schema with
  | none =>
      obtain rfl := Option.map_eq_none_iff.mp same.symm
      rfl
  | some schema =>
      obtain ⟨other, rfl, sameValues⟩ := Option.map_eq_some_iff.mp same.symm
      simp only [leadingToEnum, Option.map_some, Option.getD_some, enumPlaceholder,
        EnumSchema.defaultValueName, sameValues]

/-- A message is an empty object at the end of its schema, and at the end of the template. -/
theorem ofReference_leadingTo_of_min_eq_zero
    {levels depth : Nat}
    (atEnd : min levels depth = 0)
    {name : String}
    (ordinary : WellKnownType.ofName? name = none)
    {schema : Option MessageSchema}
    (built : index.IsBuilt OfEnum levels name schema)
    (fieldName : String) :
    ofReference depth fieldName (leadingTo schema) = .object [] := by
  cases schema with
  | none =>
      rfl
  | some schema =>
      obtain ⟨below, _, rfl, _⟩ := built.exists_isMessage ordinary
      obtain rfl : depth = 0 := by omega
      simp only [leadingTo, Option.map_some, Option.getD_some, ofReference,
        built.wellKnown_eq_none ordinary]

/-- Before that, a message is laid out by its fields. -/
theorem ofReference_leadingTo_succ
    {levels depth : Nat}
    {name : String}
    (ordinary : WellKnownType.ofName? name = none)
    {schema : Option MessageSchema}
    (built : index.IsBuilt OfEnum levels name schema)
    (fieldName : String) :
    ofReference (depth + 1) fieldName (leadingTo schema) =
      (schema.map (·.template depth)).getD (.object []) := by
  cases schema with
  | none =>
      rfl
  | some schema =>
      simp only [leadingTo, Option.map_some, Option.getD_some, ofReference,
        built.wellKnown_eq_none ordinary, MessageSchema.template]

/-- Messages that are built alike have the same template if their fields have. -/
theorem template_of_builtAlike
    {depth otherDepth : Nat}
    {name : String}
    (ordinary : WellKnownType.ofName? name = none)
    {schema other : Option MessageSchema}
    (alike : BuiltAlike (fun field other => ofField depth field = ofField otherDepth other)
      name schema other) :
    schema.map (·.template depth) = other.map (·.template otherDepth) := by
  cases alike with
  | missing =>
      rfl
  | wellKnown isType =>
      rw [ordinary] at isType
      cases isType
  | @message simpleName fields others related =>
      have same : ofFields depth fields = ofFields otherDepth others := by
        induction related with
        | nil =>
            rw [ofFields, ofFields]
        | cons first _ inductionHypothesis =>
            rw [ofFields, ofFields, first, inductionHypothesis]
      simp only [Option.map_some, MessageSchema.template, ofMessage, same]

/-- Templates of one message are the same if the messages below are laid out alike. -/
theorem template_of_isBuilt_of_below
    (hidesNone : index.HidesNoWellKnown)
    {levels otherLevels depth otherDepth : Nat}
    (below : ∀ name fieldName schema other, WellKnownType.ofName? name = none →
      index.IsBuilt index.FindsValues levels name schema →
        index.IsBuilt index.FindsValues otherLevels name other →
          ofReference depth fieldName (leadingTo schema) =
            ofReference otherDepth fieldName (leadingTo other))
    {name : String}
    (ordinary : WellKnownType.ofName? name = none)
    {schema other : Option MessageSchema}
    (built : index.IsBuilt index.FindsValues (levels + 1) name schema)
    (otherBuilt : index.IsBuilt index.FindsValues (otherLevels + 1) name other) :
    schema.map (·.template depth) = other.map (·.template otherDepth) := by
  apply template_of_builtAlike ordinary
  apply IsBuiltFrom.alike built otherBuilt
  intro descriptor indexed field member nested otherNested reference otherReference
  suffices placeholders :
      placeholder depth ⟨field, nested⟩ = placeholder otherDepth ⟨field, otherNested⟩ by
    rw [ofField_eq, ofField_eq, placeholders]
    rfl
  apply IsReference.related reference otherReference
  case shallow =>
    intro nested shallow
    exact placeholder_of_isShallow shallow field depth otherDepth
  case enum =>
    intro typeName schema other kind _ found otherFound
    simp only [placeholder, kind]
    exact enumPlaceholder_leadingToEnum (found.trans otherFound.symm)
  case message =>
    intro typeName schema other kind refers ordinary built otherBuilt
    simp only [placeholder, kind]
    exact below _ _ schema other (hidesNone.ordinary indexed member kind refers ordinary)
      built otherBuilt

/--
Templates of one message are the same if the lesser of the levels below it and the depth
of the template is, by induction on the levels.
-/
theorem template_of_isBuilt
    (hidesNone : index.HidesNoWellKnown)
    {levels otherLevels depth otherDepth : Nat}
    (same : min levels depth = min otherLevels otherDepth)
    {name : String}
    (ordinary : WellKnownType.ofName? name = none)
    {schema other : Option MessageSchema}
    (built : index.IsBuilt index.FindsValues (levels + 1) name schema)
    (otherBuilt : index.IsBuilt index.FindsValues (otherLevels + 1) name other) :
    schema.map (·.template depth) = other.map (·.template otherDepth) := by
  induction levels generalizing otherLevels depth otherDepth name schema other with
  | zero =>
      apply template_of_isBuilt_of_below hidesNone ?_ ordinary built otherBuilt
      intro name fieldName schema other ordinary built otherBuilt
      rw [ofReference_leadingTo_of_min_eq_zero (Nat.zero_min depth) ordinary built,
        ofReference_leadingTo_of_min_eq_zero (same.symm.trans (Nat.zero_min depth)) ordinary
          otherBuilt]
  | succ levels inductionHypothesis =>
      apply template_of_isBuilt_of_below hidesNone ?_ ordinary built otherBuilt
      intro name fieldName schema other ordinary built otherBuilt
      by_cases atEnd : min (levels + 1) depth = 0
      · rw [ofReference_leadingTo_of_min_eq_zero atEnd ordinary built,
          ofReference_leadingTo_of_min_eq_zero (same.symm.trans atEnd) ordinary otherBuilt]
      · -- Both templates go one message further down, and both schemas do.
        obtain ⟨depth, rfl⟩ : ∃ less, depth = less + 1 := ⟨depth - 1, by omega⟩
        obtain ⟨otherDepth, rfl⟩ : ∃ less, otherDepth = less + 1 := ⟨otherDepth - 1, by omega⟩
        obtain ⟨otherLevels, rfl⟩ : ∃ less, otherLevels = less + 1 :=
          ⟨otherLevels - 1, by omega⟩
        have sameBelow : min levels depth = min otherLevels otherDepth := by omega
        rw [ofReference_leadingTo_succ ordinary built,
          ofReference_leadingTo_succ ordinary otherBuilt,
          inductionHypothesis sameBelow ordinary built otherBuilt]

end Template

/--
The depth of a resolver and that of a template go together.

A resolver comes to one message at least, and a template to one more than its depth. The
template of an indexed message depends on the lesser of these two only.
-/
def TypeIndex.DepthsGoTogether (index : TypeIndex) : Prop :=
  ∀ maxDepth otherMaxDepth depth otherDepth : Nat,
    min (max maxDepth 1) (depth + 1) = min (max otherMaxDepth 1) (otherDepth + 1) →
      ∀ name, WellKnownType.ofName? (TypeName.normalize name) = none →
        index.message? (TypeName.normalize name) ≠ none →
          ∃ schema other,
            (Resolver.mk index maxDepth).rebuilt name = some schema ∧
              (Resolver.mk index otherMaxDepth).rebuilt name = some other ∧
                schema.template depth = other.template otherDepth

/--
The depths go together, if no reference to a message hides a well-known type behind two
dots and none to an enum starts with three.
-/
theorem TypeIndex.depthsGoTogether
    {index : TypeIndex}
    (hidesNone : index.HidesNoWellKnown)
    (twoDots : index.HasTwoDotsAtMost) :
    index.DepthsGoTogether := by
  intro maxDepth otherMaxDepth depth otherDepth same name ordinary indexed
  have built := Resolver.rebuilt_findsValues ⟨index, maxDepth⟩ twoDots name
  have otherBuilt := Resolver.rebuilt_findsValues ⟨index, otherMaxDepth⟩ twoDots name
  obtain ⟨schema, isSchema⟩ := built.exists_of_indexed indexed
  obtain ⟨other, isOther⟩ := otherBuilt.exists_of_indexed indexed
  have sameBelow : min (maxDepth - 1) depth = min (otherMaxDepth - 1) otherDepth := by omega
  have templates := Template.template_of_isBuilt hidesNone sameBelow ordinary
    built otherBuilt
  rw [isSchema, isOther] at templates
  exact ⟨schema, other, isSchema, isOther, Option.some.inj templates⟩

/-- A message that refers to itself, where once the schema ends first and once the template. -/
theorem TypeIndex.depthsGoTogether_cycle :
    TypeIndex.ofCycle.HidesNoWellKnown ∧
    TypeIndex.ofCycle.HasTwoDotsAtMost ∧
    ∃ schema other,
      (Resolver.mk TypeIndex.ofCycle 3).rebuilt "M" = some schema ∧
        (Resolver.mk TypeIndex.ofCycle 7).rebuilt "M" = some other ∧
          schema.template 9 = other.template 2 := by
  have twoDots : TypeIndex.ofCycle.HasTwoDotsAtMost := by decide +kernel
  have lesser : min (max 3 1) (9 + 1) = min (max 7 1) (2 + 1) := rfl
  exact ⟨hidesNoWellKnown_ofCycle, twoDots,
    depthsGoTogether hidesNoWellKnown_ofCycle twoDots 3 7 9 2 lesser "M" ordinary_name
      indexed_ofCycle⟩

/-- Where depths go together, the texts of the templates are the same. -/
theorem TypeIndex.DepthsGoTogether.texts
    {index : TypeIndex}
    (goTogether : index.DepthsGoTogether)
    {maxDepth otherMaxDepth depth : Nat}
    (same : min (max maxDepth 1) (depth + 1) = min (max otherMaxDepth 1) (depth + 1))
    {name : String}
    (ordinary : WellKnownType.ofName? (TypeName.normalize name) = none)
    (indexed : index.message? (TypeName.normalize name) ≠ none) :
    ((Resolver.mk index maxDepth).rebuilt name).map (·.templateText depth) =
      ((Resolver.mk index otherMaxDepth).rebuilt name).map (·.templateText depth) := by
  obtain ⟨schema, other, built, otherBuilt, templates⟩ :=
    goTogether maxDepth otherMaxDepth depth depth same name ordinary indexed
  rw [built, otherBuilt, Option.map_some, Option.map_some, MessageSchema.templateText,
    MessageSchema.templateText, Option.getD_some, templates]

/-- Neither condition can be left out. -/
theorem TypeIndex.not_forall_depthsGoTogether :
    ¬ (∀ index : TypeIndex, index.HasTwoDotsAtMost → index.DepthsGoTogether) ∧
    ¬ (∀ index : TypeIndex, index.HidesNoWellKnown → index.DepthsGoTogether) := by
  have lesser : min (max 1 1) (0 + 1) = min (max 2 1) (0 + 1) := rfl
  constructor
  · intro always
    have texts := (always ofHidden (by decide +kernel)).texts lesser ordinary_name
      indexed_ofHidden
    exact absurd texts (by decide +kernel)
  · intro always
    have texts := (always (ofEnumReferences "..E" "...E") (by decide +kernel)).texts lesser
      ordinary_name (by decide +kernel)
    exact absurd texts (by decide +kernel)

end GrpcDiscovery
