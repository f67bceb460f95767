import GrpcDiscovery.Proofs.Schema.Built

namespace GrpcDiscovery

/-!
# Resolution with a coherent cache

A cache is coherent with an index if every cached enum is the one that the index
has under its name, and every cached message is indexed. Nothing is asked of what
a cached message looks like, for building a message does not read it. From a
coherent cache the schema of a message comes out as from an empty one, and the
cache that is left is coherent again.
-/

/-- What a cache holds is indexed, and its enums are as the index has them. -/
structure SchemaCache.Coherent
    (cache : SchemaCache)
    (index : TypeIndex) :
    Prop where
  messages : ∀ name : String,
    cache.messages[name]? ≠ none → index.message? name ≠ none
  enums : ∀ (name : String) (schema : EnumSchema),
    cache.enums[name]? = some schema →
      ∃ descriptor, index.enums[name]? = some descriptor ∧
        schema = .ofDescriptor name descriptor

namespace SchemaCache

theorem coherent_empty (index : TypeIndex) : empty.Coherent index where
  messages name present := by
    simp [empty] at present
  enums name schema found := by
    simp [empty] at found

/-- A cache stays coherent while the index is extended, if all names are plain. -/
theorem Coherent.of_extends
    {cache : SchemaCache}
    {index later : TypeIndex}
    (coherent : cache.Coherent index)
    (extension : later.Extends index)
    (plain : index.HasPlainNames)
    (plainLater : later.HasPlainNames) :
    cache.Coherent later where
  messages name present := by
    obtain ⟨descriptor, found⟩ := Option.ne_none_iff_exists'.mp (coherent.messages name present)
    obtain ⟨other, foundLater, _⟩ := extension.messages _ descriptor found
    exact Option.ne_none_iff_exists'.mpr ⟨other, foundLater⟩
  enums name schema found := by
    obtain ⟨descriptor, indexed, rfl⟩ := coherent.enums name schema found
    obtain ⟨other, indexedLater, sameValues⟩ := extension.enums name descriptor indexed
    have sameName := plainLater.enum_name_eq plain indexedLater indexed
    exact ⟨other, indexedLater, by
      rw [EnumSchema.ofDescriptor, EnumSchema.ofDescriptor, sameValues, sameName]⟩

/-- Keeping an enum as the index has it leaves a cache coherent. -/
theorem Coherent.insertEnum
    {cache : SchemaCache}
    {index : TypeIndex}
    (coherent : cache.Coherent index)
    {name : String}
    {descriptor : EnumDescriptor}
    (indexed : index.enums[name]? = some descriptor) :
    (cache.insertEnum (.ofDescriptor name descriptor)).Coherent index where
  messages := coherent.messages
  enums other schema found := by
    rw [SchemaCache.insertEnum, Std.TreeMap.getElem?_insert] at found
    split at found
    · rename_i same
      obtain rfl : name = other := Std.LawfulEqOrd.eq_of_compare same
      exact ⟨descriptor, indexed, (Option.some.inj found).symm⟩
    · exact coherent.enums other schema found

/-- Keeping a message that is indexed leaves a cache coherent. -/
theorem Coherent.insertMessage
    {cache : SchemaCache}
    {index : TypeIndex}
    (coherent : cache.Coherent index)
    {schema : MessageSchema}
    (indexed : index.message? schema.fullName ≠ none) :
    (cache.insertMessage schema).Coherent index where
  messages name present := by
    rw [SchemaCache.insertMessage, Std.TreeMap.getElem?_insert] at present
    split at present
    · rename_i same
      obtain rfl : schema.fullName = name := Std.LawfulEqOrd.eq_of_compare same
      exact indexed
    · exact coherent.messages name present
  enums := coherent.enums

end SchemaCache

namespace Resolver

variable {α : Type}

/--
An action has a value on every cache that is coherent with an index, leaves the
cache coherent, and does not touch the messages in it.
-/
def Yields
    (index : TypeIndex)
    (action : Cached α)
    (value : α) :
    Prop :=
  ∀ cache : SchemaCache, cache.Coherent index →
    ∃ later : SchemaCache, action.run cache = (value, later) ∧
      later.Coherent index ∧ later.messages = cache.messages

/-- With the messages in a cache as they are, an action that yields a value ensures it. -/
theorem Yields.ensures
    {index : TypeIndex}
    {action : Cached α}
    {value : α}
    (yields : Yields index action value)
    (messages : Std.TreeMap String MessageSchema) :
    Ensures (fun cache => cache.Coherent index ∧ cache.messages = messages)
      (fun result => result = value) action := by
  rintro cache ⟨coherent, rfl⟩
  obtain ⟨later, ran, coherentLater, sameMessages⟩ := yields cache coherent
  rw [ran]
  exact ⟨rfl, coherentLater, sameMessages⟩

variable {resolver : Resolver}

/-! Looking an enum up by a reference takes it from the cache, or else from the index. -/

section

variable {name : String} (reference : TypeName.HasOneDotAtMost name) {cache : SchemaCache}

include reference

theorem resolveEnum_run_of_cached
    {schema : EnumSchema}
    (cached : cache.enums[TypeName.normalize name]? = some schema) :
    (resolver.resolveEnum name).run cache = (some schema, cache) := by
  simp [resolveEnum, SchemaCache.enum?, TypeName.normalize_normalize reference, cached]
  rfl

theorem resolveEnum_run_of_missing
    (absent : cache.enums[TypeName.normalize name]? = none)
    (missing : resolver.index.enums[TypeName.normalize name]? = none) :
    (resolver.resolveEnum name).run cache = (none, cache) := by
  simp [resolveEnum, SchemaCache.enum?, TypeIndex.enum?, TypeName.normalize_normalize reference,
    absent, missing]
  rfl

theorem resolveEnum_run_of_indexed
    (absent : cache.enums[TypeName.normalize name]? = none)
    {descriptor : EnumDescriptor}
    (indexed : resolver.index.enums[TypeName.normalize name]? = some descriptor) :
    (resolver.resolveEnum name).run cache =
      (some (.ofDescriptor (TypeName.normalize name) descriptor),
        cache.insertEnum (.ofDescriptor (TypeName.normalize name) descriptor)) := by
  simp [resolveEnum, SchemaCache.enum?, TypeIndex.enum?, TypeName.normalize_normalize reference,
    absent, indexed]
  rfl

/-- Resolving an enum by a reference gives the enum as the index has it. -/
theorem resolveEnum_yields :
    Yields resolver.index (resolver.resolveEnum name) (resolver.index.enumSchema? name) := by
  intro cache coherent
  rw [TypeIndex.enumSchema?]
  cases cached : cache.enums[TypeName.normalize name]? with
  | some schema =>
      obtain ⟨descriptor, indexed, rfl⟩ := coherent.enums _ schema cached
      rw [indexed]
      exact ⟨cache, resolveEnum_run_of_cached reference cached, coherent, rfl⟩
  | none =>
      cases indexed : resolver.index.enums[TypeName.normalize name]? with
      | none =>
          exact ⟨cache, resolveEnum_run_of_missing reference cached indexed, coherent, rfl⟩
      | some descriptor =>
          exact ⟨_, resolveEnum_run_of_indexed reference cached indexed,
            coherent.insertEnum indexed, rfl⟩

end

/-- Where references to enums are plain, they find the enums of the index. -/
theorem resolveEnum_findsEnum
    (plain : resolver.index.HasPlainEnumReferences)
    (messages : Std.TreeMap String MessageSchema) :
    resolver.index.HasReferences fun kind typeName => kind = .enumString →
      Ensures (fun cache => cache.Coherent resolver.index ∧ cache.messages = messages)
        (resolver.index.FindsEnum typeName) (resolver.resolveEnum typeName) :=
  fun _ _ found _ member typeName refers enum =>
    (resolveEnum_yields (plain _ _ found _ member typeName refers enum)).ensures messages

/-- Building a message gives the schema of the index. -/
theorem buildMessage_yields
    (plain : resolver.index.HasPlainEnumReferences)
    (levels : Nat)
    (name : String) :
    Yields resolver.index (resolver.buildMessage levels name)
      (resolver.index.messageSchema? (levels + 1) name) := by
  intro cache coherent
  obtain ⟨built, coherentLater, sameMessages⟩ :=
    buildMessage_ensures (resolveEnum_findsEnum plain cache.messages) levels name cache
      ⟨coherent, rfl⟩
  exact ⟨_, Prod.ext built.eq_messageSchema? rfl, coherentLater, sameMessages⟩

/-- The schema of a message by the index alone, where a depth of nothing counts as one. -/
def schema?
    (resolver : Resolver)
    (name : String) :
    Option MessageSchema :=
  resolver.index.messageSchema? (max resolver.maxDepth 1) (TypeName.normalize name)

theorem schema?_eq_schemaFrom?
    (resolver : Resolver)
    (name : String) :
    resolver.schema? name =
      resolver.index.schemaFrom? (resolver.index.messageSchema? (resolver.maxDepth - 1))
        (TypeName.normalize name) := by
  have depth : max resolver.maxDepth 1 = resolver.maxDepth - 1 + 1 := by omega
  rw [schema?, depth, TypeIndex.messageSchema?]

/-- A well-known type has the same schema everywhere. -/
theorem schema?_of_wellKnown
    {name : String}
    {type : WellKnownType}
    (wellKnown : WellKnownType.ofName? (TypeName.normalize name) = some type) :
    resolver.schema? name = some (.ofWellKnown type) := by
  rw [schema?_eq_schemaFrom?, TypeIndex.schemaFrom?_of_wellKnown _ _ wellKnown]

/-- A message that is indexed has a schema, under the name that it was asked for by. -/
theorem schema?_of_ordinary
    {name : String}
    (ordinary : WellKnownType.ofName? (TypeName.normalize name) = none) :
    resolver.schema? name =
      (resolver.index.message? (TypeName.normalize name)).map
        (resolver.index.schemaOf (resolver.index.messageSchema? (resolver.maxDepth - 1))
          (TypeName.normalize name)) := by
  rw [schema?_eq_schemaFrom?, TypeIndex.schemaFrom?_of_ordinary _ _ ordinary]

/-- There is no schema only where there is no such message. -/
theorem schema?_eq_none_iff
    (resolver : Resolver)
    (name : String) :
    resolver.schema? name = none ↔
      WellKnownType.ofName? (TypeName.normalize name) = none ∧
        resolver.index.message? (TypeName.normalize name) = none := by
  cases wellKnown : WellKnownType.ofName? (TypeName.normalize name) with
  | some type =>
      simp [schema?_of_wellKnown wellKnown]
  | none =>
      simp [schema?_of_ordinary wellKnown]

theorem rebuildMessage_of_wellKnown
    {name : String}
    {type : WellKnownType}
    (wellKnown : WellKnownType.ofName? (TypeName.normalize name) = some type) :
    resolver.rebuildMessage name = pure (some (.ofWellKnown type)) := by
  rw [rebuildMessage]
  simp only [wellKnown]

/-- Building at full depth gives the schema of the index. -/
theorem buildMessage_yields_schema?
    (plain : resolver.index.HasPlainEnumReferences)
    (name : String) :
    Yields resolver.index
      (resolver.buildMessage (resolver.maxDepth - 1) (TypeName.normalize name))
      (resolver.schema? name) := by
  rw [schema?_eq_schemaFrom?]
  exact buildMessage_yields plain (resolver.maxDepth - 1) (TypeName.normalize name)

/--
What rebuilding a message does to a cache.

There is no value only where there is no such message. The cache stays coherent,
and it changes under the name of the message only, where the value then stands;
for a well-known type it does not change at all.
-/
structure Rebuilds
    (resolver : Resolver)
    (name : String)
    (value : Option MessageSchema)
    (cache later : SchemaCache) :
    Prop where
  run : (resolver.rebuildMessage name).run cache = (value, later)
  coherent : later.Coherent resolver.index
  elsewhere : ∀ key, key ≠ TypeName.normalize name →
    later.messages[key]? = cache.messages[key]?
  kept : WellKnownType.ofName? (TypeName.normalize name) = none →
    later.messages[TypeName.normalize name]? = value
  untouched : WellKnownType.ofName? (TypeName.normalize name) ≠ none → later = cache
  missing : value = none ↔
    WellKnownType.ofName? (TypeName.normalize name) = none ∧
      resolver.index.message? (TypeName.normalize name) = none

/-- Rebuilding a message on a coherent cache gives the schema of the index. -/
theorem exists_rebuilds_of_enumReferences
    (plain : resolver.index.HasPlainEnumReferences)
    (name : String)
    {cache : SchemaCache}
    (coherent : cache.Coherent resolver.index) :
    ∃ later, resolver.Rebuilds name (resolver.schema? name) cache later := by
  have missing := resolver.schema?_eq_none_iff name
  cases wellKnown : WellKnownType.ofName? (TypeName.normalize name) with
  | some type =>
      rw [schema?_of_wellKnown wellKnown] at missing ⊢
      refine ⟨cache, ?_, coherent, fun _ _ => rfl, ?_, fun _ => rfl, missing⟩
      · rw [rebuildMessage_of_wellKnown wellKnown]
        rfl
      · intro ordinary
        rw [wellKnown] at ordinary
        exact absurd ordinary (Option.some_ne_none type)
  | none =>
      obtain ⟨middle, ran, coherentMiddle, sameMessages⟩ :=
        buildMessage_yields_schema? plain name cache coherent
      have run (value : Option MessageSchema)
          (built : resolver.schema? name = value) :
          (resolver.rebuildMessage name).run cache =
            (value, value.elim middle middle.insertMessage) := by
        rw [rebuildMessage]
        simp only [wellKnown]
        rw [StateT.run_bind, ran, built]
        cases value <;> rfl
      cases indexed : resolver.index.message? (TypeName.normalize name) with
      | none =>
          have built := missing.mpr ⟨wellKnown, indexed⟩
          rw [built] at missing ⊢
          refine ⟨middle, run none built, coherentMiddle, ?_, ?_, absurd wellKnown, missing⟩
          · intro key _
            rw [sameMessages]
          · intro _
            rw [sameMessages]
            by_contra present
            exact coherent.messages _ present indexed
      | some descriptor =>
          have built := @schema?_of_ordinary resolver name wellKnown
          rw [indexed, Option.map_some] at built
          have indexedSchema : resolver.index.message? (TypeName.normalize name) ≠ none := by
            rw [indexed]
            exact Option.some_ne_none descriptor
          rw [built] at missing ⊢
          refine ⟨_, run _ built, coherentMiddle.insertMessage indexedSchema, ?_, ?_,
            absurd wellKnown, missing⟩
          · intro key other
            rw [Option.elim_some, SchemaCache.insertMessage, Std.TreeMap.getElem?_insert,
              sameMessages, if_neg]
            intro same
            exact other (Std.LawfulEqOrd.eq_of_compare same).symm
          · intro _
            exact Std.TreeMap.getElem?_insert_self

/-- Where all names are plain, the references to enums are. -/
theorem exists_rebuilds
    (plain : resolver.index.HasPlainNames)
    (name : String)
    {cache : SchemaCache}
    (coherent : cache.Coherent resolver.index) :
    ∃ later, resolver.Rebuilds name (resolver.schema? name) cache later :=
  exists_rebuilds_of_enumReferences plain.hasPlainEnumReferences name coherent

/-- The schema that is built when nothing is cached. -/
def fresh
    (resolver : Resolver)
    (name : String) :
    Option MessageSchema :=
  ((resolver.resolveMessage name).run .empty).1

theorem resolveMessage_run_of_not_cached
    {name : String}
    (ordinary : WellKnownType.ofName? (TypeName.normalize name) = none)
    {cache : SchemaCache}
    (absent : cache.message? (TypeName.normalize name) = none) :
    (resolver.resolveMessage name).run cache =
      (resolver.rebuildMessage (TypeName.normalize name)).run cache := by
  rw [resolveMessage]
  simp only [ordinary, StateT.run_bind, StateT.run_get, pure_bind, absent]

theorem resolveMessage_run_of_cached
    {name : String}
    (ordinary : WellKnownType.ofName? (TypeName.normalize name) = none)
    {cache : SchemaCache}
    {schema : MessageSchema}
    (cached : cache.message? (TypeName.normalize name) = some schema) :
    (resolver.resolveMessage name).run cache = (some schema, cache) := by
  rw [resolveMessage]
  simp only [ordinary, StateT.run_bind, StateT.run_get, pure_bind, cached]
  rfl

/-- A well-known type is looked up without a cache. -/
theorem resolveMessage_of_wellKnown
    {name : String}
    {type : WellKnownType}
    (wellKnown : WellKnownType.ofName? (TypeName.normalize name) = some type) :
    resolver.resolveMessage name = pure (some (.ofWellKnown type)) := by
  rw [resolveMessage]
  simp only [wellKnown]

/-- What is built when nothing is cached is the schema of the index under the normal name. -/
theorem fresh_of_ordinary
    (plain : resolver.index.HasPlainNames)
    {name : String}
    (ordinary : WellKnownType.ofName? (TypeName.normalize name) = none) :
    resolver.fresh name = resolver.schema? (TypeName.normalize name) := by
  have absent : SchemaCache.empty.message? (TypeName.normalize name) = none := by
    simp [SchemaCache.message?, SchemaCache.empty]
  obtain ⟨later, rebuilt⟩ :=
    exists_rebuilds plain (TypeName.normalize name) (SchemaCache.coherent_empty _)
  rw [fresh, resolveMessage_run_of_not_cached ordinary absent, rebuilt.run]

theorem fresh_of_wellKnown
    {name : String}
    {type : WellKnownType}
    (wellKnown : WellKnownType.ofName? (TypeName.normalize name) = some type) :
    resolver.fresh name = some (.ofWellKnown type) := by
  rw [fresh, resolveMessage_of_wellKnown wellKnown]
  rfl

/-- What is built when nothing is cached is the schema of the index. -/
theorem fresh_eq_schema?
    (plain : resolver.index.HasPlainNames)
    {name : String}
    (normal : TypeName.normalize (TypeName.normalize name) = TypeName.normalize name) :
    resolver.fresh name = resolver.schema? name := by
  cases wellKnown : WellKnownType.ofName? (TypeName.normalize name) with
  | some type =>
      rw [schema?_of_wellKnown wellKnown, fresh_of_wellKnown wellKnown]
  | none =>
      rw [fresh_of_ordinary plain wellKnown, schema?, normal, schema?]

/-- A message that is not cached is looked up as from an empty cache, and so is a well-known type. -/
theorem resolveMessage_eq_fresh
    (plain : resolver.index.HasPlainNames)
    {cache : SchemaCache}
    {name : String}
    (coherent : cache.Coherent resolver.index)
    (absent : WellKnownType.ofName? (TypeName.normalize name) ≠ none ∨
      cache.message? (TypeName.normalize name) = none) :
    ((resolver.resolveMessage name).run cache).1 = resolver.fresh name := by
  cases wellKnown : WellKnownType.ofName? (TypeName.normalize name) with
  | some type =>
      rw [resolveMessage_of_wellKnown wellKnown, fresh_of_wellKnown wellKnown]
      rfl
  | none =>
      obtain ⟨later, rebuilt⟩ := exists_rebuilds plain (TypeName.normalize name) coherent
      rw [resolveMessage_run_of_not_cached wellKnown
        (absent.resolve_left (not_not.mpr wellKnown)), rebuilt.run,
        fresh_of_ordinary plain wellKnown]

/-- Rebuilding a message on a coherent cache gives the schema of an empty one. -/
theorem exists_rebuilds_fresh
    (plain : resolver.index.HasPlainNames)
    {name : String}
    (normal : TypeName.normalize name = name)
    {cache : SchemaCache}
    (coherent : cache.Coherent resolver.index) :
    ∃ later, resolver.Rebuilds name (resolver.fresh name) cache later := by
  rw [fresh_eq_schema? plain (congrArg TypeName.normalize normal)]
  exact exists_rebuilds plain name coherent

/-- Looking a message up leaves a coherent cache coherent. -/
theorem resolveMessage_coherent
    (plain : resolver.index.HasPlainNames)
    {cache : SchemaCache}
    (coherent : cache.Coherent resolver.index)
    (name : String) :
    ((resolver.resolveMessage name).run cache).2.Coherent resolver.index := by
  cases wellKnown : WellKnownType.ofName? (TypeName.normalize name) with
  | some type =>
      rw [resolveMessage]
      simp only [wellKnown]
      exact coherent
  | none =>
      cases cached : cache.message? (TypeName.normalize name) with
      | some schema =>
          rw [resolveMessage]
          simp only [wellKnown, StateT.run_bind, StateT.run_get, pure_bind, cached]
          exact coherent
      | none =>
          obtain ⟨later, rebuilt⟩ := exists_rebuilds plain (TypeName.normalize name) coherent
          rw [resolveMessage_run_of_not_cached wellKnown cached, rebuilt.run]
          exact rebuilt.coherent

end Resolver

end GrpcDiscovery
