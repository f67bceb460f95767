import GrpcDiscovery.Proofs.Schema.Memo

namespace GrpcDiscovery

/-!
# Full names of resolved messages

A name loses a leading dot wherever it is looked up. On the way from a question to the
schema of a message two dots are taken before the schema gets its name, and the index
takes a third one off when it looks the message up; the cache takes one off a name that
it is asked for, but none off a name that it stores. For names with one dot at most, which
are the names that descriptors write, all of this comes to the same full name, and with
two dots the resolver still finds it.
-/

/-- A schema has the name and the fields of a message. -/
structure MessageSchema.IsOf
    (schema : MessageSchema)
    (descriptor : MessageDescriptor) :
    Prop where
  name : schema.name = descriptor.name
  fields : schema.fields.map FieldSchema.descriptor = descriptor.fields

/-- A schema is that of an indexed message and has the full name by which the index finds it. -/
structure MessageSchema.IsIndexedAs
    (schema : MessageSchema)
    (index : TypeIndex)
    (key : String) :
    Prop where
  fullName : schema.fullName = key
  ordinary : schema.wellKnown = none
  indexed : ∃ descriptor, index.message? key = some descriptor ∧ schema.IsOf descriptor

/-- A message that is built has the fields of the indexed one. -/
theorem TypeIndex.IsMessage.isOf
    {OfEnum : String → Option EnumSchema → Prop}
    {Below : String → Option MessageSchema → Prop}
    {name : String}
    {descriptor : MessageDescriptor}
    {schema : MessageSchema}
    (isMessage : TypeIndex.IsMessage OfEnum Below name descriptor schema) :
    schema.IsOf descriptor where
  name := isMessage.simpleName
  fields := by
    have same : List.Forall₂ (fun field built => built.descriptor = field)
        descriptor.fields schema.fields :=
      isMessage.fields.imp fun _ _ built => built.1
    rw [← List.forall₂_eq_eq_eq, List.forall₂_map_left_iff]
    exact same.flip

namespace Resolver

variable {resolver : Resolver}

/-- Looking an enum up leaves the messages in a cache alone, whatever the name. -/
theorem resolveEnum_messages
    (name : String)
    (cache : SchemaCache) :
    ((resolver.resolveEnum name).run cache).2.messages = cache.messages := by
  rw [resolveEnum]
  simp only [StateT.run_bind, StateT.run_get, pure_bind]
  cases cache.enum? (TypeName.normalize name) with
  | some cached =>
      rfl
  | none =>
      cases resolver.index.enum? (TypeName.normalize name) <;> rfl

/-- Building a message follows the index and leaves the messages in a cache alone. -/
theorem buildMessage_messages
    (levels : Nat)
    (name : String)
    (cache : SchemaCache) :
    resolver.index.IsBuilt (fun _ _ => True) (levels + 1) name
        ((resolver.buildMessage levels name).run cache).1 ∧
      ((resolver.buildMessage levels name).run cache).2.messages = cache.messages := by
  have ensured : Ensures (fun later => later.messages = cache.messages)
      (resolver.index.IsBuilt (fun _ _ => True) (levels + 1) name)
      (resolver.buildMessage levels name) := by
    refine buildMessage_ensures ?_ levels name
    intro _ _ _ _ _ typeName _ _ later same
    exact ⟨trivial, (resolveEnum_messages typeName later).trans same⟩
  exact ensured cache rfl

/--
What a call for a message answers, and what it leaves of the messages in a cache: they
stay as they are, or else the answer joins them under its full name.
-/
inductive Answers
    (resolver : Resolver)
    (key : String)
    (cache later : SchemaCache) :
    Option MessageSchema →
    Prop where
  | missing
      (same : later.messages = cache.messages) :
      Answers resolver key cache later none
  | wellKnown
      {type : WellKnownType}
      (same : later.messages = cache.messages) :
      Answers resolver key cache later (some (.ofWellKnown type))
  | cached
      {schema : MessageSchema}
      (same : later.messages = cache.messages)
      (cached : cache.messages[key]? = some schema) :
      Answers resolver key cache later (some schema)
  | built
      {schema : MessageSchema}
      (isIndexed : schema.IsIndexedAs resolver.index key)
      (kept : later.messages = cache.messages.insert key schema) :
      Answers resolver key cache later (some schema)

/-- Rebuilding takes one dot off a name. -/
theorem rebuildMessage_answers
    (name : String)
    (cache : SchemaCache) :
    resolver.Answers (TypeName.normalize name) cache
      ((resolver.rebuildMessage name).run cache).2
      ((resolver.rebuildMessage name).run cache).1 := by
  rw [rebuildMessage]
  cases wellKnown : WellKnownType.ofName? (TypeName.normalize name) with
  | some type =>
      exact .wellKnown rfl
  | none =>
      obtain ⟨built, same⟩ :=
        @buildMessage_messages resolver (resolver.maxDepth - 1) (TypeName.normalize name) cache
      simp only [StateT.run_bind]
      generalize (resolver.buildMessage (resolver.maxDepth - 1)
        (TypeName.normalize name)).run cache = ran at built same
      obtain ⟨schema, middle⟩ := ran
      cases schema with
      | none =>
          exact .missing same
      | some schema =>
          obtain ⟨_, descriptor, _, indexed, isMessage⟩ := built.exists_isMessage wellKnown
          refine .built
            ⟨isMessage.fullName, isMessage.wellKnown, descriptor, indexed, isMessage.isOf⟩ ?_
          change middle.messages.insert schema.fullName schema = _
          rw [isMessage.fullName]
          exact congrArg (·.insert (TypeName.normalize name) schema) same

/-- Resolving takes two dots off a name: one itself, and one when it rebuilds or looks up. -/
theorem resolveMessage_answers
    (name : String)
    (cache : SchemaCache) :
    resolver.Answers (TypeName.normalize (TypeName.normalize name)) cache
      ((resolver.resolveMessage name).run cache).2
      ((resolver.resolveMessage name).run cache).1 := by
  cases wellKnown : WellKnownType.ofName? (TypeName.normalize name) with
  | some type =>
      rw [resolveMessage_of_wellKnown wellKnown]
      exact .wellKnown rfl
  | none =>
      cases cached : cache.message? (TypeName.normalize name) with
      | some schema =>
          rw [resolveMessage_run_of_cached wellKnown cached]
          exact .cached rfl cached
      | none =>
          rw [resolveMessage_run_of_not_cached wellKnown cached]
          exact rebuildMessage_answers (TypeName.normalize name) cache

end Resolver

/-! ## Caches that are filled by resolvers -/

/-- A cache that holds what resolvers of an index, each with a depth of its own, put there. -/
inductive SchemaCache.IsFilledFrom (index : TypeIndex) : SchemaCache → Prop where
  | empty :
      IsFilledFrom index .empty
  | call
      {cache : SchemaCache}
      (filled : IsFilledFrom index cache)
      (maxDepth : Nat)
      (query : Resolver.Query) :
      IsFilledFrom index (((Resolver.mk index maxDepth).answer query).run cache).2

/-- Every message in a cache is indexed, under the full name that it has. -/
def SchemaCache.IsNamedBy
    (cache : SchemaCache)
    (index : TypeIndex) :
    Prop :=
  ∀ (key : String) (schema : MessageSchema),
    cache.messages[key]? = some schema → schema.IsIndexedAs index key

namespace Resolver

variable {resolver : Resolver} {key : String} {cache later : SchemaCache}

/-- A call leaves every message under its full name. -/
theorem Answers.isNamedBy
    {answer : Option MessageSchema}
    (answers : resolver.Answers key cache later answer)
    (named : cache.IsNamedBy resolver.index) :
    later.IsNamedBy resolver.index := by
  intro other schema found
  cases answers with
  | missing same | wellKnown same | cached same =>
      rw [same] at found
      exact named other schema found
  | built isIndexed kept =>
      rw [kept, Std.TreeMap.getElem?_insert] at found
      split at found
      · rename_i same
        obtain rfl := Std.LawfulEqOrd.eq_of_compare same
        obtain rfl := Option.some.inj found
        exact isIndexed
      · exact named other schema found

/-- A message that is answered is indexed and stands in the cache afterwards. -/
theorem Answers.kept
    {schema : MessageSchema}
    (answers : resolver.Answers key cache later (some schema))
    (named : cache.IsNamedBy resolver.index)
    (ordinary : schema.wellKnown = none) :
    schema.IsIndexedAs resolver.index key ∧ later.messages[key]? = some schema := by
  cases answers with
  | wellKnown same =>
      cases ordinary
  | cached same cached =>
      rw [same]
      exact ⟨named key schema cached, cached⟩
  | built isIndexed kept =>
      rw [kept]
      exact ⟨isIndexed, Std.TreeMap.getElem?_insert_self⟩

/-- Whatever is asked, every message stays under its full name. -/
theorem answer_isNamedBy
    (query : Query)
    (named : cache.IsNamedBy resolver.index) :
    ((resolver.answer query).run cache).2.IsNamedBy resolver.index := by
  have resolved (name : String) :=
    (@resolveMessage_answers resolver name cache).isNamedBy named
  have ofEnum (name : String) {middle : SchemaCache} (namedMiddle : middle.IsNamedBy resolver.index) :
      ((resolver.resolveEnum name).run middle).2.IsNamedBy resolver.index := by
    rw [SchemaCache.IsNamedBy, resolveEnum_messages]
    exact namedMiddle
  cases query with
  | message name =>
      exact resolved name
  | currentMessage name =>
      exact (rebuildMessage_answers name cache).isNamedBy named
  | enum name =>
      exact ofEnum name named
  | eitherType name =>
      rw [answer, resolve, StateT.run_bind]
      have namedMiddle := resolved name
      generalize (resolver.resolveMessage name).run cache = ran at namedMiddle
      obtain ⟨schema, middle⟩ := ran
      cases schema with
      | some schema =>
          exact namedMiddle
      | none =>
          have namedLater := ofEnum name namedMiddle
          change ((resolver.resolveEnum name >>= _).run middle).2.IsNamedBy _
          rw [StateT.run_bind]
          generalize (resolver.resolveEnum name).run middle = ranEnum at namedLater
          obtain ⟨enum, later⟩ := ranEnum
          cases enum <;> exact namedLater

end Resolver

theorem SchemaCache.IsFilledFrom.isNamedBy
    {index : TypeIndex}
    {cache : SchemaCache}
    (filled : SchemaCache.IsFilledFrom index cache) :
    cache.IsNamedBy index := by
  induction filled with
  | empty =>
      intro key schema found
      simp [SchemaCache.empty] at found
  | call filled maxDepth query inductionHypothesis =>
      exact Resolver.answer_isNamedBy query inductionHypothesis

/-! ## The full name of an answer -/

namespace Resolver

/--
A message that is resolved by a name with two dots at most has the name without them for
its full name. By this full name the index finds what the schema was built from, and right
afterwards the cache finds the schema. By the name itself the index finds the same message
if there is one dot at most.
-/
theorem resolveMessage_fullName
    {index : TypeIndex}
    {cache later : SchemaCache}
    (filled : SchemaCache.IsFilledFrom index cache)
    {maxDepth : Nat}
    {name : String}
    (fewDots : ¬ ['.', '.', '.'] <+: name.toList)
    {schema : MessageSchema}
    (resolved :
      ((Resolver.mk index maxDepth).resolveMessage name).run cache = (some schema, later))
    (ordinary : schema.wellKnown = none) :
    schema.fullName = TypeName.normalize (TypeName.normalize name) ∧
      ¬ ['.'] <+: schema.fullName.toList ∧
      (∃ descriptor, schema.IsOf descriptor ∧
        index.message? schema.fullName = some descriptor ∧
        (TypeName.HasOneDotAtMost name → index.message? name = some descriptor)) ∧
      later.message? schema.fullName = some schema := by
  have answers := @resolveMessage_answers (Resolver.mk index maxDepth) name cache
  rw [resolved] at answers
  obtain ⟨⟨fullName, _, descriptor, indexed, isOf⟩, kept⟩ :=
    answers.kept filled.isNamedBy ordinary
  rw [← fullName] at indexed kept
  have dotless : ¬ ['.'] <+: schema.fullName.toList := by
    rw [fullName]
    intro dotted
    exact fewDots (TypeName.dot_prefix_of_normalize (TypeName.dot_prefix_of_normalize dotted))
  refine ⟨fullName, dotless, ⟨descriptor, isOf, indexed, ?_⟩, ?_⟩
  · intro reference
    have normal := TypeName.normalize_normalize reference
    rw [fullName, TypeIndex.message?, normal, normal] at indexed
    exact indexed
  · rw [SchemaCache.message?, TypeName.normalize_eq_self dotless]
    exact kept

/-- The index of one message without fields. -/
def indexOfM : TypeIndex :=
  TypeIndex.empty.define (.message "M" { name := "M" })

/-- What resolving a name of the message comes to, once the message was built to a lesser depth. -/
def resolvedM (name : String) : Option MessageSchema × SchemaCache :=
  ((Resolver.mk indexOfM 3).resolveMessage name).run
    (((Resolver.mk indexOfM 1).answer (.currentMessage "M")).run .empty).2

theorem filled_currentM :
    SchemaCache.IsFilledFrom indexOfM
      (((Resolver.mk indexOfM 1).answer (.currentMessage "M")).run .empty).2 :=
  .call .empty 1 (.currentMessage "M")

/-- By a reference the message is taken from the cache, and found under its name again. -/
theorem resolveMessage_fullName_reference :
    ∃ schema later, resolvedM ".M" = (some schema, later) ∧ schema.wellKnown = none ∧
      schema.fullName = "M" ∧
      (∃ descriptor, indexOfM.message? ".M" = some descriptor ∧ schema.IsOf descriptor) ∧
      later.message? "M" = some schema := by
  obtain ⟨schema, later, resolved, ordinary⟩ :
      ∃ schema later, resolvedM ".M" = (some schema, later) ∧ schema.wellKnown = none :=
    ⟨_, _, rfl, rfl⟩
  obtain ⟨fullName, _, ⟨descriptor, isOf, _, found⟩, kept⟩ :=
    resolveMessage_fullName filled_currentM (by decide) resolved ordinary
  have named : schema.fullName = "M" := fullName.trans (by decide +kernel)
  rw [named] at kept
  exact ⟨schema, later, resolved, ordinary, named, ⟨descriptor, found (by decide), isOf⟩, kept⟩

/-- After three dots the full name keeps a dot, though no message is indexed with one. -/
theorem not_forall_resolveMessage_fullName :
    ¬ ∀ (index : TypeIndex) (cache later : SchemaCache) (maxDepth : Nat) (name : String)
        (schema : MessageSchema),
      (∀ key : String, index.messages[key]? ≠ none → ¬ ['.'] <+: key.toList) →
      SchemaCache.IsFilledFrom index cache →
      ((Resolver.mk index maxDepth).resolveMessage name).run cache = (some schema, later) →
      schema.wellKnown = none →
      ¬ ['.'] <+: schema.fullName.toList ∧
        (∃ descriptor, index.message? name = some descriptor ∧ schema.IsOf descriptor) ∧
        later.message? schema.fullName = some schema := by
  intro always
  have plainKeys (key : String) (present : indexOfM.messages[key]? ≠ none) :
      ¬ ['.'] <+: key.toList := by
    rw [indexOfM, TypeIndex.define, Std.TreeMap.getElem?_insert] at present
    split at present
    · rename_i same
      obtain rfl := Std.LawfulEqOrd.eq_of_compare same
      decide
    · simp [TypeIndex.empty] at present
  obtain ⟨schema, later, resolved, ordinary, dotted⟩ :
      ∃ schema later, resolvedM "...M" = (some schema, later) ∧ schema.wellKnown = none ∧
        schema.fullName = ".M" :=
    ⟨_, _, rfl, rfl, rfl⟩
  obtain ⟨dotless, _, _⟩ :=
    always indexOfM _ later 3 "...M" schema plainKeys filled_currentM resolved ordinary
  rw [dotted] at dotless
  exact dotless (by decide)

end Resolver

end GrpcDiscovery
