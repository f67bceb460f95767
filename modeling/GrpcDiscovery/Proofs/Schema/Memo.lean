import GrpcDiscovery.Proofs.Schema.Coherent
import Mathlib.Data.Set.Insert

namespace GrpcDiscovery

/-!
# What a resolver remembers

A resolver keeps the schema of a message under the name that it was asked for by, and an
enum whenever it looks one up, be it for itself or for a message that is being built. The
messages built on the way to another one are not kept, for they may be cut off. So after
any queries the cache is known exactly: it holds the full schemas of the messages that were
asked for and the enums that were looked up, and no answer depends on it.
-/

/-- A field of a message refers to the enum of a name. -/
def MessageDescriptor.RefersToEnum
    (descriptor : MessageDescriptor)
    (key : String) :
    Prop :=
  ∃ field ∈ descriptor.fields, field.type.jsonKind = .enumString ∧
    ∃ typeName, field.typeName = some typeName ∧ TypeName.normalize typeName = key

namespace TypeIndex

/-- With so many levels, building the message of a name builds a message: itself or one below. -/
inductive Builds (index : TypeIndex) : Nat → String → MessageDescriptor → Prop where
  | itself
      {levels : Nat}
      {name : String}
      {descriptor : MessageDescriptor}
      (ordinary : WellKnownType.ofName? name = none)
      (indexed : index.message? name = some descriptor) :
      Builds index (levels + 1) name descriptor
  | further
      {levels : Nat}
      {name : String}
      {outer inner : MessageDescriptor}
      {field : FieldDescriptor}
      {typeName : String}
      (ordinary : WellKnownType.ofName? name = none)
      (indexed : index.message? name = some outer)
      (member : field ∈ outer.fields)
      (object : field.type.jsonKind = .object)
      (refers : field.typeName = some typeName)
      (unknown : WellKnownType.ofName? typeName = none)
      (within : Builds index levels (TypeName.normalize typeName) inner) :
      Builds index (levels + 1) name inner

/-- The names of the enums that a message refers to, itself or in what is built below it. -/
def enumsWithin
    (index : TypeIndex)
    (levels : Nat)
    (name : String) :
    Set String :=
  {key | ∃ descriptor, index.Builds levels name descriptor ∧ descriptor.RefersToEnum key}

/-- The names of the enums that a field refers to, given those of the messages below. -/
def enumsOfField
    (below : String → Set String)
    (field : FieldDescriptor) :
    Set String :=
  {key | ∃ typeName, field.typeName = some typeName ∧
    (field.type.jsonKind = .enumString ∧ TypeName.normalize typeName = key ∨
      field.type.jsonKind = .object ∧ WellKnownType.ofName? typeName = none ∧
        key ∈ below (TypeName.normalize typeName))}

/-- No message is built without a level for it. -/
theorem enumsWithin_zero
    (index : TypeIndex)
    (name : String) :
    index.enumsWithin 0 name = ∅ := by
  refine Set.eq_empty_iff_forall_notMem.mpr ?_
  rintro key ⟨descriptor, built, _⟩
  cases built

/-- A name that is well-known or not indexed is not built. -/
theorem enumsWithin_of_missing
    {index : TypeIndex}
    {name : String}
    (missing : WellKnownType.ofName? name ≠ none ∨ index.message? name = none)
    (levels : Nat) :
    index.enumsWithin levels name = ∅ := by
  refine Set.eq_empty_iff_forall_notMem.mpr ?_
  rintro key ⟨descriptor, built, _⟩
  cases built with
  | itself ordinary indexed | further ordinary indexed =>
      rcases missing with wellKnown | missing
      · exact wellKnown ordinary
      · rw [indexed] at missing
        cases missing

/-- The enums of an indexed message are those of its fields. -/
theorem enumsWithin_succ
    {index : TypeIndex}
    {name : String}
    {descriptor : MessageDescriptor}
    (ordinary : WellKnownType.ofName? name = none)
    (indexed : index.message? name = some descriptor)
    (levels : Nat) :
    index.enumsWithin (levels + 1) name =
      {key | ∃ field ∈ descriptor.fields,
        key ∈ enumsOfField (index.enumsWithin levels) field} := by
  ext key
  constructor
  · rintro ⟨inner, built, refersToEnum⟩
    cases built with
    | itself _ found =>
        obtain rfl := Option.some.inj (indexed.symm.trans found)
        obtain ⟨field, member, enum, typeName, refers, named⟩ := refersToEnum
        exact ⟨field, member, typeName, refers, .inl ⟨enum, named⟩⟩
    | further _ found member object refers unknown within =>
        obtain rfl := Option.some.inj (indexed.symm.trans found)
        exact ⟨_, member, _, refers, .inr ⟨object, unknown, inner, within, refersToEnum⟩⟩
  · rintro ⟨field, member, typeName, refers, ⟨enum, named⟩ | ⟨object, unknown, inner, built⟩⟩
    · exact ⟨descriptor, .itself ordinary indexed, field, member, enum, typeName, refers, named⟩
    · exact ⟨inner, .further ordinary indexed member object refers unknown built.1, built.2⟩

end TypeIndex

/-- A cache holds the enums of some names, as far as the index has them, and no others. -/
def SchemaCache.HoldsEnums
    (cache : SchemaCache)
    (index : TypeIndex)
    (held : Set String) :
    Prop :=
  ∀ (key : String) (schema : EnumSchema), cache.enums[key]? = some schema ↔
    key ∈ held ∧ ∃ descriptor, index.enums[key]? = some descriptor ∧
      schema = .ofDescriptor key descriptor

namespace Resolver

section Gathers

variable {α β : Type} {index : TypeIndex}

/-- An action adds the enums of some names to those that a cache holds. -/
def Gathers
    (index : TypeIndex)
    (added : Set String)
    (action : Cached α) :
    Prop :=
  ∀ (cache : SchemaCache) (held : Set String), cache.HoldsEnums index held →
    (action.run cache).2.HoldsEnums index (held ∪ added)

theorem gathers_pure (value : α) : Gathers index ∅ (pure value : Cached α) := by
  intro cache held holds
  rw [Set.union_empty]
  exact holds

theorem Gathers.bind
    {added further : Set String}
    {action : Cached α}
    {next : α → Cached β}
    (first : Gathers index added action)
    (gathersNext : ∀ value, Gathers index further (next value)) :
    Gathers index (added ∪ further) (action >>= next) := by
  intro cache held holds
  rw [StateT.run_bind, ← Set.union_assoc]
  exact gathersNext _ _ _ (first cache held holds)

/-- What is done with the value of an action may add nothing. -/
theorem Gathers.bind_pure
    {added : Set String}
    {action : Cached α}
    {next : α → Cached β}
    (first : Gathers index added action)
    (gathersNext : ∀ value, Gathers index ∅ (next value)) :
    Gathers index added (action >>= next) := by
  rw [← Set.union_empty added]
  exact first.bind gathersNext

end Gathers

variable {resolver : Resolver}

/-- Looking an enum up adds it, if it is indexed. -/
theorem resolveEnum_gathers
    {name : String}
    (reference : TypeName.HasOneDotAtMost name) :
    Gathers resolver.index {TypeName.normalize name} (resolver.resolveEnum name) := by
  intro cache held holds
  cases cached : cache.enums[TypeName.normalize name]? with
  | some schema =>
      have known := ((holds _ schema).mp cached).1
      rw [resolveEnum_run_of_cached reference cached,
        Set.union_eq_self_of_subset_right (Set.singleton_subset_iff.mpr known)]
      exact holds
  | none =>
      cases indexed : resolver.index.enums[TypeName.normalize name]? with
      | none =>
          rw [resolveEnum_run_of_missing reference cached indexed]
          intro key schema
          rw [holds key schema]
          refine and_congr_left ?_
          rintro ⟨descriptor, found, _⟩
          refine (or_iff_left ?_).symm
          rintro rfl
          rw [indexed] at found
          cases found
      | some descriptor =>
          rw [resolveEnum_run_of_indexed reference cached indexed]
          intro key schema
          rw [SchemaCache.insertEnum, Std.TreeMap.getElem?_insert]
          split
          · rename_i same
            obtain rfl : TypeName.normalize name = key := Std.LawfulEqOrd.eq_of_compare same
            simp [indexed, EnumSchema.ofDescriptor, eq_comm]
          · rename_i different
            rw [holds key schema]
            refine and_congr_left fun _ => (or_iff_left ?_).symm
            rintro rfl
            exact different Std.ReflCmp.compare_self

/-- What building the messages below adds, which is nothing where none is built. -/
def GathersBelow
    (index : TypeIndex)
    (below : String → Set String) :
    Option (String → Cached (Option MessageSchema)) →
    Prop
  | none =>
      ∀ name, below name = ∅
  | some build =>
      ∀ name, Gathers index (below name) (build name)

theorem resolveReference_gathers
    {below : String → Set String}
    {deeper : Option (String → Cached (Option MessageSchema))}
    (gathersBelow : GathersBelow resolver.index below deeper)
    {field : FieldDescriptor}
    (reference : ∀ typeName, field.typeName = some typeName →
      field.type.jsonKind = .enumString → TypeName.HasOneDotAtMost typeName) :
    Gathers resolver.index (TypeIndex.enumsOfField below field)
      (resolver.resolveReference deeper field) := by
  rw [resolveReference]
  cases kind : field.type.jsonKind <;> cases refers : field.typeName
  case enumString.some typeName =>
    have names : TypeIndex.enumsOfField below field = {TypeName.normalize typeName} := by
      ext key
      simp [TypeIndex.enumsOfField, kind, refers, eq_comm]
    rw [names]
    refine (resolveEnum_gathers (reference typeName refers kind)).bind_pure ?_
    rintro (_ | schema) <;> exact gathers_pure _
  case object.some typeName =>
    cases wellKnown : WellKnownType.ofName? typeName with
    | some type =>
        have names : TypeIndex.enumsOfField below field = ∅ := by
          ext key
          simp [TypeIndex.enumsOfField, kind, refers, wellKnown]
        rw [names]
        simp only [wellKnown]
        exact gathers_pure _
    | none =>
        have names : TypeIndex.enumsOfField below field = below (TypeName.normalize typeName) := by
          ext key
          simp [TypeIndex.enumsOfField, kind, refers, wellKnown]
        rw [names]
        simp only [wellKnown]
        cases deeper with
        | none =>
            rw [gathersBelow]
            exact gathers_pure _
        | some build =>
            refine (gathersBelow (TypeName.normalize typeName)).bind_pure ?_
            rintro (_ | schema) <;> exact gathers_pure _
  all_goals
    have names : TypeIndex.enumsOfField below field = ∅ := by
      ext key
      simp [TypeIndex.enumsOfField, kind, refers]
    rw [names]
    exact gathers_pure _

/-- Following the references of fields adds the enums of each. -/
theorem resolveFields_gathers
    {below : String → Set String}
    {deeper : Option (String → Cached (Option MessageSchema))}
    (gathersBelow : GathersBelow resolver.index below deeper)
    {fields : List FieldDescriptor}
    (references : ∀ field ∈ fields, ∀ typeName, field.typeName = some typeName →
      field.type.jsonKind = .enumString → TypeName.HasOneDotAtMost typeName) :
    Gathers resolver.index {key | ∃ field ∈ fields, key ∈ TypeIndex.enumsOfField below field}
      (resolver.resolveFields deeper fields) := by
  induction fields with
  | nil =>
      have names : {key | ∃ field ∈ ([] : List FieldDescriptor),
          key ∈ TypeIndex.enumsOfField below field} = ∅ := by
        simp
      rw [names]
      exact gathers_pure _
  | cons field rest inductionHypothesis =>
      rw [List.forall_mem_cons] at references
      have names : {key | ∃ other ∈ field :: rest, key ∈ TypeIndex.enumsOfField below other} =
          TypeIndex.enumsOfField below field ∪
            {key | ∃ other ∈ rest, key ∈ TypeIndex.enumsOfField below other} := by
        ext key
        simp
      rw [names, resolveFields]
      refine (resolveReference_gathers gathersBelow references.1).bind fun nested => ?_
      exact (inductionHypothesis references.2).bind_pure fun others => gathers_pure _

theorem buildMessage_gathers_of_below
    (plain : resolver.index.HasPlainEnumReferences)
    (levels : Nat)
    (gathersBelow : GathersBelow resolver.index (resolver.index.enumsWithin levels)
      (match levels with
        | 0 =>
            none
        | levels + 1 =>
            some (resolver.buildMessage levels)))
    (name : String) :
    Gathers resolver.index (resolver.index.enumsWithin (levels + 1) name)
      (resolver.buildMessage levels name) := by
  rw [buildMessage.eq_def]
  cases wellKnown : WellKnownType.ofName? name with
  | some type =>
      rw [TypeIndex.enumsWithin_of_missing (.inl (by simp [wellKnown]))]
      simp only [wellKnown]
      exact gathers_pure _
  | none =>
      cases indexed : resolver.index.message? name with
      | none =>
          rw [TypeIndex.enumsWithin_of_missing (.inr indexed)]
          simp only [wellKnown, indexed]
          exact gathers_pure _
      | some descriptor =>
          rw [TypeIndex.enumsWithin_succ wellKnown indexed]
          simp only [wellKnown, indexed]
          refine (resolveFields_gathers gathersBelow ?_).bind_pure fun fields => gathers_pure _
          exact fun field member typeName refers enum =>
            plain name descriptor indexed field member typeName refers enum

/-- Building a message adds the enums within it, by induction on the levels below it. -/
theorem buildMessage_gathers
    (plain : resolver.index.HasPlainEnumReferences)
    (levels : Nat)
    (name : String) :
    Gathers resolver.index (resolver.index.enumsWithin (levels + 1) name)
      (resolver.buildMessage levels name) := by
  induction levels generalizing name with
  | zero =>
      exact buildMessage_gathers_of_below plain 0 resolver.index.enumsWithin_zero name
  | succ levels inductionHypothesis =>
      exact buildMessage_gathers_of_below plain (levels + 1) inductionHypothesis name

/-! ## What the cache holds after queries -/

/--
A cache holds the full schemas of some messages and the enums of some names, among them
those within the messages.

Well-known types and names that are not indexed may be among the messages. They stand for
what was asked for and is not held.
-/
structure Remembers
    (resolver : Resolver)
    (heldMessages heldEnums : Set String)
    (cache : SchemaCache) :
    Prop where
  normal : ∀ key ∈ heldMessages, TypeName.normalize key = key
  messages : ∀ (key : String) (schema : MessageSchema),
    cache.messages[key]? = some schema ↔
      key ∈ heldMessages ∧ WellKnownType.ofName? key = none ∧ resolver.schema? key = some schema
  enums : cache.HoldsEnums resolver.index heldEnums
  within : ∀ key ∈ heldMessages,
    resolver.index.enumsWithin (max resolver.maxDepth 1) key ⊆ heldEnums

theorem remembers_empty (resolver : Resolver) : resolver.Remembers ∅ ∅ .empty where
  normal key member := by
    cases member
  messages key schema := by
    simp [SchemaCache.empty]
  enums key schema := by
    simp [SchemaCache.empty]
  within key member := by
    cases member

/-- What is remembered is coherent with the index. -/
theorem Remembers.coherent
    {messages enums : Set String}
    {cache : SchemaCache}
    (remembers : resolver.Remembers messages enums cache) :
    cache.Coherent resolver.index where
  messages key present missing := by
    obtain ⟨schema, cached⟩ := Option.ne_none_iff_exists'.mp present
    obtain ⟨member, ordinary, built⟩ := (remembers.messages key schema).mp cached
    have normal := remembers.normal key member
    have absent := (resolver.schema?_eq_none_iff key).mpr (by
      rw [normal]
      exact ⟨ordinary, missing⟩)
    rw [built] at absent
    cases absent
  enums key schema cached :=
    ((remembers.enums key schema).mp cached).2

section Learns

variable {α β : Type}

/-- Whatever is remembered, an action has a value and adds messages and enums to be remembered. -/
def Learns
    (resolver : Resolver)
    (messages enums : Set String)
    (action : Cached α)
    (value : α) :
    Prop :=
  ∀ (cache : SchemaCache) (heldMessages heldEnums : Set String),
    resolver.Remembers heldMessages heldEnums cache →
      (action.run cache).1 = value ∧
        resolver.Remembers (heldMessages ∪ messages) (heldEnums ∪ enums) (action.run cache).2

theorem learns_pure (value : α) : resolver.Learns ∅ ∅ (pure value) value := by
  intro cache heldMessages heldEnums remembers
  rw [Set.union_empty, Set.union_empty]
  exact ⟨rfl, remembers⟩

theorem Learns.bind
    {messages enums furtherMessages furtherEnums : Set String}
    {action : Cached α}
    {value : α}
    {next : α → Cached β}
    {result : β}
    (first : resolver.Learns messages enums action value)
    (learnsNext : resolver.Learns furtherMessages furtherEnums (next value) result) :
    resolver.Learns (messages ∪ furtherMessages) (enums ∪ furtherEnums)
      (action >>= next) result := by
  intro cache heldMessages heldEnums remembers
  obtain ⟨rfl, remembersMiddle⟩ := first cache heldMessages heldEnums remembers
  rw [StateT.run_bind, ← Set.union_assoc, ← Set.union_assoc]
  exact learnsNext _ _ _ remembersMiddle

theorem Learns.of_eq
    {messages enums messages' enums' : Set String}
    {action : Cached α}
    {value : α}
    (learns : resolver.Learns messages enums action value)
    (sameMessages : messages = messages')
    (sameEnums : enums = enums') :
    resolver.Learns messages' enums' action value := by
  subst sameMessages sameEnums
  exact learns

theorem Learns.map
    {messages enums : Set String}
    {action : Cached α}
    {value : α}
    (learns : resolver.Learns messages enums action value)
    (change : α → β) :
    resolver.Learns messages enums (change <$> action) (change value) := by
  intro cache heldMessages heldEnums remembers
  obtain ⟨rfl, remembersLater⟩ := learns cache heldMessages heldEnums remembers
  rw [StateT.run_map]
  exact ⟨rfl, remembersLater⟩

end Learns

/-- Looking an enum up gives it as the index has it, and adds its name. -/
theorem resolveEnum_learns
    {name : String}
    (plain : TypeName.HasOneDotAtMost name) :
    resolver.Learns ∅ {TypeName.normalize name} (resolver.resolveEnum name)
      (resolver.index.enumSchema? name) := by
  intro cache heldMessages heldEnums remembers
  obtain ⟨later, ran, _, sameMessages⟩ :=
    resolveEnum_yields plain cache remembers.coherent
  have enums := resolveEnum_gathers plain cache heldEnums remembers.enums
  rw [ran] at enums ⊢
  rw [Set.union_empty]
  exact ⟨rfl, remembers.normal, by rw [sameMessages]; exact remembers.messages, enums,
    fun key member => (remembers.within key member).trans Set.subset_union_left⟩

/-- Rebuilding a message adds the enums within it. -/
theorem rebuildMessage_gathers
    (plain : resolver.index.HasPlainEnumReferences)
    (name : String) :
    Gathers resolver.index
      (resolver.index.enumsWithin (max resolver.maxDepth 1) (TypeName.normalize name))
      (resolver.rebuildMessage name) := by
  have depth : max resolver.maxDepth 1 = resolver.maxDepth - 1 + 1 := by omega
  rw [rebuildMessage]
  cases wellKnown : WellKnownType.ofName? (TypeName.normalize name) with
  | some type =>
      rw [TypeIndex.enumsWithin_of_missing (.inl (by simp [wellKnown]))]
      exact gathers_pure _
  | none =>
      rw [depth]
      refine (buildMessage_gathers plain _ _).bind_pure ?_
      rintro (_ | schema)
      · exact gathers_pure _
      · intro cache held holds
        rw [Set.union_empty]
        exact holds

/-- Rebuilding a message gives its schema by the index, and adds its name and the enums in it. -/
theorem rebuildMessage_learns
    (references : resolver.index.HasPlainEnumReferences)
    {name : String}
    (plain : TypeName.HasOneDotAtMost name) :
    resolver.Learns {TypeName.normalize name}
      (resolver.index.enumsWithin (max resolver.maxDepth 1) (TypeName.normalize name))
      (resolver.rebuildMessage name) (resolver.schema? name) := by
  have normal := TypeName.normalize_normalize plain
  intro cache heldMessages heldEnums remembers
  obtain ⟨later, rebuilt⟩ :=
    exists_rebuilds_of_enumReferences references name remembers.coherent
  have enums := rebuildMessage_gathers references name cache heldEnums remembers.enums
  rw [rebuilt.run] at enums ⊢
  refine ⟨rfl, ?_, ?_, enums, ?_⟩
  · rintro key (held | rfl)
    · exact remembers.normal key held
    · exact normal
  · intro key schema
    by_cases same : key = TypeName.normalize name
    · subst same
      cases wellKnown : WellKnownType.ofName? (TypeName.normalize name) with
      | none =>
          rw [rebuilt.kept wellKnown, schema?, schema?, normal]
          simp
      | some type =>
          rw [rebuilt.untouched (by simp [wellKnown]), remembers.messages, wellKnown]
          simp
    · rw [rebuilt.elsewhere key same, remembers.messages]
      simp [same]
  · rintro key (held | rfl)
    · exact (remembers.within key held).trans Set.subset_union_left
    · exact Set.subset_union_right

theorem rebuildMessage_normalize
    {name : String}
    (plain : TypeName.HasOneDotAtMost name) :
    resolver.rebuildMessage (TypeName.normalize name) = resolver.rebuildMessage name := by
  rw [rebuildMessage, rebuildMessage, TypeName.normalize_normalize plain]

/-- Looking a message up is no different from rebuilding it, for one that is cached was built. -/
theorem resolveMessage_learns
    (references : resolver.index.HasPlainEnumReferences)
    {name : String}
    (plain : TypeName.HasOneDotAtMost name) :
    resolver.Learns {TypeName.normalize name}
      (resolver.index.enumsWithin (max resolver.maxDepth 1) (TypeName.normalize name))
      (resolver.resolveMessage name) (resolver.schema? name) := by
  have rebuilt := rebuildMessage_learns references plain
  cases wellKnown : WellKnownType.ofName? (TypeName.normalize name) with
  | some type =>
      rw [resolveMessage_of_wellKnown wellKnown, ← rebuildMessage_of_wellKnown wellKnown]
      exact rebuilt
  | none =>
      intro cache heldMessages heldEnums remembers
      cases cached : cache.message? (TypeName.normalize name) with
      | none =>
          rw [resolveMessage_run_of_not_cached wellKnown cached, rebuildMessage_normalize plain]
          exact rebuilt cache heldMessages heldEnums remembers
      | some schema =>
          have normal := TypeName.normalize_normalize plain
          rw [SchemaCache.message?, normal] at cached
          obtain ⟨held, _, built⟩ := (remembers.messages _ schema).mp cached
          rw [schema?, normal] at built
          rw [resolveMessage_run_of_cached wellKnown (by rw [SchemaCache.message?, normal, cached]),
            Set.union_eq_self_of_subset_right (Set.singleton_subset_iff.mpr held),
            Set.union_eq_self_of_subset_right (remembers.within _ held)]
          exact ⟨built.symm, remembers⟩

/-! ## Queries -/

/-- What a resolver can be asked for. -/
inductive Query where
  /-- A message of a name, or else an enum. -/
  | eitherType (name : String)
  | message (name : String)
  /-- A message as the index has it now. -/
  | currentMessage (name : String)
  | enum (name : String)

/-- The name of a query. -/
def Query.name : Query → String
  | .eitherType name =>
      name
  | .message name =>
      name
  | .currentMessage name =>
      name
  | .enum name =>
      name

/-- The full name of the message that a query asks for, if it asks for a message. -/
def Query.messageName? : Query → Option String
  | .enum _ =>
      none
  | query =>
      some (TypeName.normalize query.name)

/-- The full name of the enum that a query asks for, if it does not end with a message. -/
def enumName?
    (resolver : Resolver) :
    Query →
    Option String
  | .enum name =>
      some (TypeName.normalize name)
  | .eitherType name =>
      match resolver.schema? name with
      | some _ =>
          none
      | none =>
          some (TypeName.normalize name)
  | _ =>
      none

/-- The answer to a query. -/
def answer
    (resolver : Resolver) :
    Query →
    Cached (Option ResolvedSchema)
  | .eitherType name =>
      resolver.resolve name
  | .message name =>
      Option.map ResolvedSchema.message <$> resolver.resolveMessage name
  | .currentMessage name =>
      Option.map ResolvedSchema.message <$> resolver.rebuildMessage name
  | .enum name =>
      Option.map ResolvedSchema.enum <$> resolver.resolveEnum name

/-- The answer to a query when nothing is cached. -/
def freshAnswer
    (resolver : Resolver)
    (query : Query) :
    Option ResolvedSchema :=
  ((resolver.answer query).run .empty).1

/-- The answer to a query by the index alone. -/
def answerByIndex
    (resolver : Resolver) :
    Query →
    Option ResolvedSchema
  | .eitherType name =>
      match resolver.schema? name with
      | some schema =>
          some (.message schema)
      | none =>
          (resolver.index.enumSchema? name).map .enum
  | .message name =>
      (resolver.schema? name).map .message
  | .currentMessage name =>
      (resolver.schema? name).map .message
  | .enum name =>
      (resolver.index.enumSchema? name).map .enum

/-- The names of the enums that a query looks up: the one it asks for, or those in a message. -/
def enumsFor
    (resolver : Resolver)
    (query : Query) :
    Set String :=
  {key | resolver.enumName? query = some key ∨
    ∃ name, query.messageName? = some name ∧
      key ∈ resolver.index.enumsWithin (max resolver.maxDepth 1) name}

theorem resolve_learns
    (references : resolver.index.HasPlainEnumReferences)
    {name : String}
    (plain : TypeName.HasOneDotAtMost name) :
    resolver.Learns {TypeName.normalize name} (resolver.enumsFor (.eitherType name))
      (resolver.resolve name) (resolver.answerByIndex (.eitherType name)) := by
  have message := resolveMessage_learns references plain
  have enum := @resolveEnum_learns resolver name plain
  rw [resolve, answerByIndex]
  cases built : resolver.schema? name with
  | some schema =>
      rw [built] at message
      have names : resolver.enumsFor (.eitherType name) =
          resolver.index.enumsWithin (max resolver.maxDepth 1) (TypeName.normalize name) := by
        ext key
        simp [enumsFor, enumName?, Query.messageName?, Query.name, built]
      rw [names]
      refine (message.bind ?_).of_eq (Set.union_empty _) (Set.union_empty _)
      exact learns_pure _
  | none =>
      rw [built] at message
      have names : resolver.index.enumsWithin (max resolver.maxDepth 1) (TypeName.normalize name) ∪
          {TypeName.normalize name} = resolver.enumsFor (.eitherType name) := by
        ext key
        simp [enumsFor, enumName?, Query.messageName?, Query.name, built, eq_comm]
      refine (message.bind ?_).of_eq (Set.union_empty _) names
      refine (enum.bind ?_).of_eq (Set.union_empty _) (Set.union_empty _)
      cases resolver.index.enumSchema? name with
      | some schema => exact learns_pure _
      | none => exact learns_pure _

/-- One query is answered by the index, and adds what it asks for. -/
theorem answer_learns
    (references : resolver.index.HasPlainEnumReferences)
    {query : Query}
    (plain : TypeName.HasOneDotAtMost query.name) :
    resolver.Learns {key | query.messageName? = some key} (resolver.enumsFor query)
      (resolver.answer query) (resolver.answerByIndex query) := by
  have asked (name : String) : {key | some name = some key} = {name} := by
    ext key
    simp [eq_comm]
  cases query with
  | eitherType name =>
      exact (resolve_learns references plain).of_eq (asked _).symm rfl
  | message name =>
      refine ((resolveMessage_learns references plain).map _).of_eq (asked _).symm ?_
      ext key
      simp [enumsFor, enumName?, Query.messageName?, Query.name]
  | currentMessage name =>
      refine ((rebuildMessage_learns references plain).map _).of_eq (asked _).symm ?_
      ext key
      simp [enumsFor, enumName?, Query.messageName?, Query.name]
  | enum name =>
      refine ((resolveEnum_learns plain).map _).of_eq ?_ ?_
      · simp [Query.messageName?]
      · ext key
        simp [enumsFor, enumName?, Query.messageName?, Query.name, eq_comm]

/-- Queries one after another are each answered by the index, and add what they ask for. -/
theorem mapM_answer_learns
    (references : resolver.index.HasPlainEnumReferences)
    {queries : List Query}
    (plain : ∀ query ∈ queries, TypeName.HasOneDotAtMost query.name) :
    resolver.Learns {key | ∃ query ∈ queries, query.messageName? = some key}
      {key | ∃ query ∈ queries, key ∈ resolver.enumsFor query}
      (queries.mapM resolver.answer) (queries.map resolver.answerByIndex) := by
  induction queries with
  | nil =>
      exact (learns_pure _).of_eq (by simp) (by simp)
  | cons query rest inductionHypothesis =>
      rw [List.forall_mem_cons] at plain
      have first := answer_learns references plain.1
      have further := (inductionHypothesis plain.2).map (resolver.answerByIndex query :: ·)
      rw [List.mapM_cons, List.map_cons]
      refine (first.bind further).of_eq ?_ ?_
      · ext key
        simp
      · ext key
        simp

/-- With nothing cached a query is answered by the index. -/
theorem freshAnswer_eq_answerByIndex
    (references : resolver.index.HasPlainEnumReferences)
    {query : Query}
    (plain : TypeName.HasOneDotAtMost query.name) :
    resolver.freshAnswer query = resolver.answerByIndex query :=
  (answer_learns references plain .empty ∅ ∅ resolver.remembers_empty).1

/-- A query is answered with a message exactly where its message has a schema. -/
theorem answerByIndex_eq_message_iff
    {query : Query}
    {key : String}
    (plain : TypeName.HasOneDotAtMost query.name)
    (asked : query.messageName? = some key)
    (schema : MessageSchema) :
    resolver.answerByIndex query = some (.message schema) ↔
      resolver.schema? key = some schema := by
  have same (name : String) (plain : TypeName.HasOneDotAtMost name) :
      resolver.schema? (TypeName.normalize name) = resolver.schema? name := by
    rw [schema?, TypeName.normalize_normalize plain, schema?]
  cases query with
  | enum name =>
      cases asked
  | eitherType name =>
      obtain rfl := Option.some.inj asked
      rw [Query.name, same name plain, answerByIndex]
      cases resolver.schema? name with
      | some built => simp
      | none => simp
  | message name =>
      obtain rfl := Option.some.inj asked
      rw [Query.name, same name plain, answerByIndex]
      simp
  | currentMessage name =>
      obtain rfl := Option.some.inj asked
      rw [Query.name, same name plain, answerByIndex]
      simp

/--
Nothing that was cached shows in an answer, and what is cached is known.

Queries on an empty cache are each answered as if they came first. Afterwards the cache holds
the messages that they were answered with, except for well-known types, each under its full
name and built with the full depth; and the indexed enums that were asked for directly or
that some message built on the way refers to.
-/
theorem mapM_answer_from_empty
    {resolver : Resolver}
    (references : resolver.index.HasPlainEnumReferences)
    {queries : List Query}
    (plain : ∀ query ∈ queries, TypeName.HasOneDotAtMost query.name) :
    ∃ cache, (queries.mapM resolver.answer).run .empty =
        (queries.map resolver.freshAnswer, cache) ∧
      (∀ key schema, cache.messages[key]? = some schema ↔
        WellKnownType.ofName? key = none ∧
          ∃ query ∈ queries, query.messageName? = some key ∧
            resolver.freshAnswer query = some (.message schema)) ∧
      (∀ key schema, cache.messages[key]? = some schema →
        schema.wellKnown = none ∧ schema.fullName = key ∧
          resolver.index.messageSchema? (max resolver.maxDepth 1) key = some schema) ∧
      ∀ key schema, cache.enums[key]? = some schema ↔
        (∃ descriptor, resolver.index.enums[key]? = some descriptor ∧
          schema = .ofDescriptor key descriptor) ∧
        ∃ query ∈ queries, resolver.enumName? query = some key ∨
          ∃ name descriptor, query.messageName? = some name ∧
            resolver.index.Builds (max resolver.maxDepth 1) name descriptor ∧
            descriptor.RefersToEnum key := by
  have fresh : queries.map resolver.freshAnswer = queries.map resolver.answerByIndex :=
    List.map_congr_left fun query member =>
      freshAnswer_eq_answerByIndex references (plain query member)
  obtain ⟨answers, remembers⟩ :=
    mapM_answer_learns references plain .empty ∅ ∅ resolver.remembers_empty
  rw [Set.empty_union, Set.empty_union] at remembers
  refine ⟨_, Prod.ext (answers.trans fresh.symm) rfl, ?_, ?_, ?_⟩
  · intro key schema
    rw [remembers.messages]
    constructor
    · rintro ⟨⟨query, member, asked⟩, ordinary, built⟩
      refine ⟨ordinary, query, member, asked, ?_⟩
      rw [freshAnswer_eq_answerByIndex references (plain query member),
        answerByIndex_eq_message_iff (plain query member) asked, built]
    · rintro ⟨ordinary, query, member, asked, answered⟩
      rw [freshAnswer_eq_answerByIndex references (plain query member),
        answerByIndex_eq_message_iff (plain query member) asked] at answered
      exact ⟨⟨query, member, asked⟩, ordinary, answered⟩
  · intro key schema cached
    obtain ⟨member, ordinary, built⟩ := (remembers.messages key schema).mp cached
    have normal := remembers.normal key member
    have whole : resolver.index.messageSchema? (max resolver.maxDepth 1) key = some schema := by
      rw [schema?, normal] at built
      exact built
    rw [← normal] at ordinary
    rw [schema?_of_ordinary ordinary, Option.map_eq_some_iff] at built
    obtain ⟨descriptor, _, rfl⟩ := built
    exact ⟨rfl, normal, whole⟩
  · intro key schema
    rw [remembers.enums key schema, and_comm]
    refine and_congr_right fun _ => exists_congr fun query => and_congr_right fun _ => ?_
    simp [enumsFor, TypeIndex.enumsWithin]

/-- A message, what it consists of, and itself again. One enum is in both of them. -/
def Query.overlapping : List Query :=
  [.message ".M", .eitherType "E", .currentMessage "N", .message "M"]

/-- The message within another one is kept with the enum in it, as the two were asked for. -/
theorem mapM_answer_overlapping :
    ∃ cache, (Query.overlapping.mapM (answer ⟨.ofEnumReferences ".E" ".E", 2⟩)).run .empty =
        (Query.overlapping.map (freshAnswer ⟨.ofEnumReferences ".E" ".E", 2⟩), cache) ∧
      (∃ schema, cache.messages["N"]? = some schema ∧ schema.wellKnown = none) ∧
      cache.enums["E"]? = some ⟨"E", "E", [⟨"A", 0⟩]⟩ := by
  obtain ⟨cache, answers, messages, kept, enums⟩ :=
    @mapM_answer_from_empty ⟨.ofEnumReferences ".E" ".E", 2⟩ (by decide +kernel)
      Query.overlapping (by decide +kernel)
  obtain ⟨schema, answered⟩ : ∃ schema,
      freshAnswer ⟨.ofEnumReferences ".E" ".E", 2⟩ (.currentMessage "N") =
        some (.message schema) :=
    ⟨_, rfl⟩
  have cached : cache.messages["N"]? = some schema :=
    (messages "N" schema).mpr
      ⟨by decide +kernel, .currentMessage "N", by simp [Query.overlapping], by decide +kernel,
        answered⟩
  refine ⟨cache, answers, ⟨schema, cached, (kept "N" schema cached).1⟩, ?_⟩
  exact (enums "E" _).mpr
    ⟨⟨{ name := "E", values := [("A", 0)] }, by decide +kernel, rfl⟩,
      .eitherType "E", by simp [Query.overlapping], .inl (by decide +kernel)⟩

end Resolver

end GrpcDiscovery
