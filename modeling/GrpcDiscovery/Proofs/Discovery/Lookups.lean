import GrpcDiscovery.Proofs.Discovery.Fresh
import GrpcDiscovery.Proofs.Schema.Earlier

namespace GrpcDiscovery

/-!
# Looked-up schemas

A schema stays in the cache until a message or an enum is redefined. A type that is
new to the index redefines nothing, and so a cached schema may have left unresolved
what could be resolved by now. But it is no more wrong than that: it is the schema
that the index gave at some moment of the run, since when the index was extended only.
-/

/-- The fields of a message of which it is not resolved what they refer to. -/
def MessageSchema.unresolvedFields (schema : MessageSchema) : List String :=
  (schema.fields.filter fun field =>
    match field.nested with
    | some .unresolved =>
        true
    | _ =>
        false).map FieldSchema.name

/-- What is built from an earlier index is the schema of a later one, as far as it has the types. -/
theorem Resolver.fresh_restrictTo
    {index later : TypeIndex}
    (extension : later.Extends index)
    (plain : index.HasPlainNames)
    (plainLater : later.HasPlainNames)
    {maxDepth : Nat}
    {name : String}
    (found : (Resolver.mk index maxDepth).fresh name ≠ none) :
    (Resolver.mk index maxDepth).fresh name =
      ((Resolver.mk later maxDepth).fresh name).map (·.restrictTo index) := by
  cases wellKnown : WellKnownType.ofName? (TypeName.normalize name) with
  | some type =>
      rw [fresh_of_wellKnown wellKnown, fresh_of_wellKnown wellKnown, Option.map_some,
        MessageSchema.restrictTo_ofWellKnown]
  | none =>
      rw [@fresh_of_ordinary ⟨index, maxDepth⟩ plain name wellKnown] at found ⊢
      rw [@fresh_of_ordinary ⟨later, maxDepth⟩ plainLater name wellKnown]
      refine TypeIndex.messageSchema?_restrictTo extension plain plainLater _ ?_
      by_contra unknown
      rw [not_or, not_not, not_not] at unknown
      exact found (TypeIndex.messageSchema?_eq_none unknown.1 unknown.2 _)

/--
Every cached message has the schema that some index gave which was passed.

Since then the index was extended only.
-/
structure DiscoveryState.IsCachedFrom
    (state : DiscoveryState)
    (passed : TypeIndex → Prop)
    (maxDepth : Nat) :
    Prop where
  sound : state.IsSound
  messages : ∀ (key : String) (schema : MessageSchema),
    state.cache.messages[key]? = some schema →
      ∃ known, passed known ∧ known.HasPlainNames ∧ state.index.Extends known ∧
        known.messageSchema? (max maxDepth 1) key = some schema

theorem DiscoveryState.IsCachedFrom.mono
    {state : DiscoveryState}
    {passed others : TypeIndex → Prop}
    {maxDepth : Nat}
    (cached : state.IsCachedFrom passed maxDepth)
    (more : ∀ index, passed index → others index) :
    state.IsCachedFrom others maxDepth where
  sound := cached.sound
  messages := by
    intro key schema found
    obtain ⟨known, isPassed, further⟩ := cached.messages key schema found
    exact ⟨known, more known isPassed, further⟩

/-- With nothing cached, nothing has to be passed. -/
theorem DiscoveryState.isCachedFrom_of_empty
    {state : DiscoveryState}
    (plain : state.index.HasPlainNames)
    (emptied : state.cache = .empty)
    (passed : TypeIndex → Prop)
    (maxDepth : Nat) :
    state.IsCachedFrom passed maxDepth where
  sound := by
    refine ⟨plain, ?_⟩
    rw [emptied]
    exact SchemaCache.coherent_empty _
  messages := by
    intro key schema found
    rw [emptied] at found
    simp [SchemaCache.empty] at found

namespace Discovery

/-- What is cached survives plain files: they redefine something, or they extend the index. -/
theorem survivesFiles_isCachedFrom
    (passed : TypeIndex → Prop)
    (maxDepth : Nat) :
    SurvivesFiles IsPlainFile (DiscoveryState.IsCachedFrom · passed maxDepth) where
  history state history cached := ⟨⟨cached.sound.plain, cached.sound.coherent⟩, cached.messages⟩
  files := by
    intro state files plain cached
    have soundLater := survivesFiles_isSound.files state files plain cached.sound
    obtain ⟨plainLater, emptied | ⟨same, extension⟩⟩ :=
      registerFiles_of_plain plain cached.sound.plain
    · exact DiscoveryState.isCachedFrom_of_empty plainLater emptied passed maxDepth
    · refine ⟨soundLater, ?_⟩
      intro key schema found
      rw [same] at found
      obtain ⟨known, isPassed, plainKnown, extended, given⟩ := cached.messages key schema found
      exact ⟨known, isPassed, plainKnown, extension.trans extended, given⟩

/-- Rebuilt messages are cached from the index, which does not change. -/
theorem survivesRebuilds_isCachedFrom
    {passed : TypeIndex → Prop}
    {index : TypeIndex}
    (isPassed : passed index)
    (maxDepth : Nat) :
    SurvivesRebuilds maxDepth fun state =>
      state.index = index ∧ state.IsCachedFrom passed maxDepth := by
  rintro state name ⟨rfl, cached⟩
  obtain ⟨later, rebuilt⟩ :=
    @Resolver.exists_rebuilds ⟨state.index, maxDepth⟩ cached.sound.plain name _
      cached.sound.coherent
  rw [resolving, rebuilt.run]
  refine ⟨rfl, ⟨cached.sound.plain, rebuilt.coherent⟩, ?_⟩
  intro key schema found
  change later.messages[key]? = some schema at found
  cases wellKnown : WellKnownType.ofName? (TypeName.normalize name) with
  | some type =>
      rw [rebuilt.untouched (wellKnown ▸ Option.some_ne_none type)] at found
      exact cached.messages key schema found
  | none =>
      by_cases same : key = TypeName.normalize name
      · rw [same, rebuilt.kept wellKnown] at found
        rw [same]
        exact ⟨state.index, isPassed, cached.sound.plain, .refl state.index, found⟩
      · rw [rebuilt.elsewhere key same] at found
        exact cached.messages key schema found

/--
An attempt leaves schemas in the cache that come from an index passed before, or
from the index that it leaves itself.
-/
theorem exists_isCachedFrom_attempt
    (channel : ReflectionChannel)
    (passed : TypeIndex → Prop)
    (maxDepth : Nat)
    (state : DiscoveryState) :
    let later := stateAfter (attempt channel maxDepth state)
    ∃ exchanges,
      later.history = state.history ++ exchanges ∧
      ((∀ exchange ∈ exchanges, exchange.BringsPlainFiles) →
        state.IsCachedFrom passed maxDepth →
        later.IsCachedFrom (fun index => passed index ∨ index = later.index) maxDepth) := by
  have survives := survivesFiles_isCachedFrom passed maxDepth
  rcases attempt_cases channel maxDepth state with
    ⟨failure, later, failed, led⟩ | ⟨names, middle, described, led⟩
  · obtain ⟨exchanges, grown, fetched⟩ := led _ _ survives
    rw [failed]
    exact ⟨exchanges, grown, fun plain cached => (fetched plain cached).mono fun _ => .inl⟩
  · obtain ⟨exchanges, grown, fetched⟩ := led _ _ survives
    have rebuilding := @survivesRebuilds_isCachedFrom
      (fun index => passed index ∨ index = middle.index) middle.index (.inr rfl) maxDepth
    obtain ⟨others, grownFurther, cachedLater⟩ := rebuilding.describeServices names middle
    rw [described]
    refine ⟨exchanges ++ others, by rw [grownFurther, grown, List.append_assoc], ?_⟩
    intro plain cached
    rw [List.forall_mem_append] at plain
    obtain ⟨same, cachedLast⟩ :=
      cachedLater plain.2 ⟨rfl, (fetched plain.1 cached).mono fun _ => .inl⟩
    rw [same]
    exact cachedLast

/-- Looking a message up keeps what rebuilding it keeps. -/
theorem SurvivesRebuilds.resolveMessage
    {maxDepth : Nat}
    {Invariant : DiscoveryState → Prop}
    (survives : SurvivesRebuilds maxDepth Invariant)
    (name : String)
    {state : DiscoveryState}
    (holds : Invariant state) :
    Invariant (stateAfter
      (resolving maxDepth (fun resolver => resolver.resolveMessage name) state)) := by
  rw [resolving]
  cases wellKnown : WellKnownType.ofName? (TypeName.normalize name) with
  | some type =>
      rw [Resolver.resolveMessage_of_wellKnown wellKnown]
      exact holds
  | none =>
      cases cached : state.cache.message? (TypeName.normalize name) with
      | some schema =>
          rw [Resolver.resolveMessage_run_of_cached wellKnown cached]
          exact holds
      | none =>
          rw [Resolver.resolveMessage_run_of_not_cached wellKnown cached]
          exact survives state (TypeName.normalize name) holds

end Discovery

namespace ReflectionClient

/-- Every file that a call brought can be read, and the names in it are plain. -/
def Call.BringsPlainFiles (_ : Call) (exchanges : List Exchange) : Prop :=
  ∀ exchange ∈ exchanges, exchange.BringsPlainFiles

instance (call : Call) (exchanges : List Exchange) :
    Decidable (call.BringsPlainFiles exchanges) :=
  inferInstanceAs (Decidable (∀ exchange ∈ exchanges, exchange.BringsPlainFiles))

/--
The indexes that a run of allowed calls passed on its way to a client.

Besides those between the calls, it is the ones between the two attempts of a
discovery, for the schemas of an attempt that fails later on stay in the cache.
-/
inductive PassedBy
    (config : ReflectionConfig)
    (allowed : Call → List Exchange → Prop) :
    TypeIndex →
    ReflectionClient →
    Prop where
  | now
      {client : ReflectionClient}
      (reached : ReachedBy config allowed client) :
      PassedBy config allowed client.index client
  | between
      {client : ReflectionClient}
      (reached : ReachedBy config allowed client)
      {server : ReflectionServer}
      {serverUrl : String}
      {timeout : Option Nat}
      {history : List Exchange}
      (permitted : allowed (.discover server serverUrl timeout history)
        (client.perform (.discover server serverUrl timeout history)).2) :
      PassedBy config allowed
        (Discovery.stateAfter
          (Discovery.attempt (client.channel server serverUrl timeout .v1)
            client.config.maxDepth (client.known history))).index
        (client.perform (.discover server serverUrl timeout history)).1
  | before
      {known : TypeIndex}
      {client : ReflectionClient}
      (passed : PassedBy config allowed known client)
      (call : Call)
      (permitted : allowed call (client.perform call).2) :
      PassedBy config allowed known (client.perform call).1

/-- A discovery caches schemas from the indexes that its attempts leave. -/
theorem exists_isCachedFrom_tried
    (client : ReflectionClient)
    (server : ReflectionServer)
    (serverUrl : String)
    (timeout : Option Nat)
    (history : List Exchange)
    (passed : TypeIndex → Prop) :
    let first := Discovery.stateAfter
      (Discovery.attempt (client.channel server serverUrl timeout .v1)
        client.config.maxDepth (client.known history))
    let last := (client.tried server serverUrl timeout history).2
    ∃ exchanges,
      last.history = history ++ exchanges ∧
      ((∀ exchange ∈ exchanges, exchange.BringsPlainFiles) →
        (client.known history).IsCachedFrom passed client.config.maxDepth →
        last.IsCachedFrom
          (fun index => passed index ∨ index = first.index ∨ index = last.index)
          client.config.maxDepth) := by
  obtain ⟨exchanges, grown, cachedFirst⟩ :=
    Discovery.exists_isCachedFrom_attempt (client.channel server serverUrl timeout .v1)
      passed client.config.maxDepth (client.known history)
  rw [tried_snd]
  cases ran : Discovery.attempt (client.channel server serverUrl timeout .v1)
      client.config.maxDepth (client.known history) with
  | ok services state =>
      rw [ran] at grown cachedFirst
      refine ⟨exchanges, grown, fun plain cached => ?_⟩
      exact (cachedFirst plain cached).mono fun index => Or.imp_right .inl
  | error failure state =>
      rw [ran] at grown cachedFirst
      obtain ⟨others, grownFurther, cachedSecond⟩ :=
        Discovery.exists_isCachedFrom_attempt (client.channel server serverUrl timeout .v1alpha)
          (fun index => passed index ∨ index = state.index) client.config.maxDepth state
      change state.history = history ++ exchanges at grown
      rw [grown, List.append_assoc] at grownFurther
      refine ⟨exchanges ++ others, grownFurther, fun plain cached => ?_⟩
      rw [List.forall_mem_append] at plain
      exact (cachedSecond plain.2 (cachedFirst plain.1 cached)).mono fun index => or_assoc.mp

theorem isCachedFrom_known
    {client : ReflectionClient}
    {history : List Exchange}
    {passed : TypeIndex → Prop}
    {maxDepth : Nat}
    (cached : (client.known history).IsCachedFrom passed maxDepth)
    (other : List Exchange) :
    (client.known other).IsCachedFrom passed maxDepth :=
  ⟨isSound_known cached.sound other, cached.messages⟩

/-- All along a run with plain files, what is cached comes from indexes that were passed. -/
theorem ReachedBy.isCachedFrom
    {config : ReflectionConfig}
    {client : ReflectionClient}
    (reached : ReachedBy config Call.BringsPlainFiles client) :
    (client.known []).IsCachedFrom
      (fun index => PassedBy config Call.BringsPlainFiles index client) config.maxDepth := by
  induction reached with
  | new created =>
      rw [eq_of_new created]
      exact DiscoveryState.isCachedFrom_of_empty TypeIndex.hasPlainNames_empty rfl _ _
  | @call client reached call permitted inductionHypothesis =>
      obtain rfl := reached.config_eq
      have reachedLater := ReachedBy.call reached call permitted
      have before {index : TypeIndex}
          (passed : PassedBy client.config Call.BringsPlainFiles index client) :
          PassedBy client.config Call.BringsPlainFiles index (client.perform call).1 :=
        .before passed call permitted
      cases call with
      | discover server serverUrl timeout history =>
          obtain ⟨exchanges, grown, cachedLater⟩ :=
            exists_isCachedFrom_tried client server serverUrl timeout history
              (fun index => PassedBy client.config Call.BringsPlainFiles index client)
          have plain := permitted
          rw [perform_discover_snd grown] at plain
          have now := PassedBy.now reachedLater
          rw [perform_discover_index] at now
          have cachedTried :=
            (cachedLater plain (isCachedFrom_known inductionHypothesis history)).mono
              fun index passed => passed.elim before fun same => same.elim
                (fun first => first ▸ PassedBy.between reached permitted)
                (fun last => last ▸ now)
          generalize (fun index => PassedBy client.config Call.BringsPlainFiles index
            (client.perform (.discover server serverUrl timeout history)).1) = passed
            at cachedTried ⊢
          rw [perform, discover_eq]
          generalize client.tried server serverUrl timeout history = outcome at cachedTried ⊢
          exact ⟨⟨cachedTried.sound.plain, cachedTried.sound.coherent⟩, cachedTried.messages⟩
      | resolveMessage name =>
          have survives := @Discovery.survivesRebuilds_isCachedFrom
            (fun index => PassedBy client.config Call.BringsPlainFiles index client)
            client.index (.now reached) client.config.maxDepth
          exact (survives.resolveMessage name ⟨rfl, inductionHypothesis⟩).2.mono
            fun index => before
      | forget =>
          exact DiscoveryState.isCachedFrom_of_empty TypeIndex.hasPlainNames_empty rfl _ _

/--
Looking a message up gives what an empty cache would give from an index that the run
passed, and that was extended only since. From the index as it stands the same schema
comes out, but for the references to types that were not indexed then. If the message
is not cached, nothing is missing.
-/
theorem resolveMessage_isEarlier
    {config : ReflectionConfig}
    {client : ReflectionClient}
    (reached : ReachedBy config Call.BringsPlainFiles client)
    (name : String) :
    (∃ known, PassedBy config Call.BringsPlainFiles known client ∧
      client.index.Extends known ∧
      (client.resolveMessage name).1 = (Resolver.mk known config.maxDepth).fresh name ∧
      (client.resolveMessage name).1 =
        ((Resolver.mk client.index config.maxDepth).fresh name).map (·.restrictTo known)) ∧
    (client.cachedMessage? (TypeName.normalize name) = none →
      (client.resolveMessage name).1 = (Resolver.mk client.index config.maxDepth).fresh name) := by
  have cached := reached.isCachedFrom
  obtain rfl := reached.config_eq
  have plain := cached.sound.plain
  have upToDate (absent : WellKnownType.ofName? (TypeName.normalize name) ≠ none ∨
      client.cache.message? (TypeName.normalize name) = none) :
      (client.resolveMessage name).1 =
        (Resolver.mk client.index client.config.maxDepth).fresh name :=
    @Resolver.resolveMessage_eq_fresh ⟨client.index, client.config.maxDepth⟩ plain _ name
      cached.sound.coherent absent
  refine ⟨?_, fun absent => upToDate (.inr absent)⟩
  by_cases absent : WellKnownType.ofName? (TypeName.normalize name) ≠ none ∨
      client.cache.message? (TypeName.normalize name) = none
  · refine ⟨client.index, .now reached, .refl client.index, upToDate absent, ?_⟩
    rw [upToDate absent]
    by_cases found : (Resolver.mk client.index client.config.maxDepth).fresh name = none
    · rw [found, Option.map_none]
    · exact Resolver.fresh_restrictTo (.refl client.index) plain plain found
  · rw [not_or, not_not] at absent
    obtain ⟨schema, kept⟩ := Option.ne_none_iff_exists'.mp absent.2
    obtain ⟨known, passed, plainKnown, extended, given⟩ := cached.messages _ schema kept
    have looked : (client.resolveMessage name).1 = some schema :=
      congrArg Prod.fst (Resolver.resolveMessage_run_of_cached absent.1 kept)
    have built : (Resolver.mk known client.config.maxDepth).fresh name = some schema := by
      rw [@Resolver.fresh_of_ordinary ⟨known, client.config.maxDepth⟩ plainKnown name absent.1]
      exact given
    refine ⟨known, passed, extended, looked.trans built.symm, ?_⟩
    rw [looked, ← built]
    exact Resolver.fresh_restrictTo extended plainKnown plain
      (built ▸ Option.some_ne_none schema)

/-- A file whose method takes a message with a field of a type that the file lacks. -/
def sentFileM : String :=
  "Ig4KAU0SCQoBbigLMgIuTjIMCgFTEgcKAUMSAi5N"

/-- A file whose method takes a message of that type. -/
def sentFileN : String :=
  "IgMKAU4yDAoBUxIHCgFDEgIuTg=="

/-- A client that discovered a server with the first of these files. -/
def clientOfM : ReflectionClient × List Exchange :=
  perform { config := {} } (.discover (serverOf sentFileM) "http://a" none [])

/-- The client after it discovered another server with the second file as well. -/
def clientOfN : ReflectionClient × List Exchange :=
  perform clientOfM.1 (.discover (serverOf sentFileN) "http://a" none [])

/-- Both servers bring plain files, and the message is looked up as it was described at first. -/
theorem looked_clientOfN :
    Call.BringsPlainFiles (.discover (serverOf sentFileM) "http://a" none []) clientOfM.2 ∧
    Call.BringsPlainFiles (.discover (serverOf sentFileN) "http://a" none []) clientOfN.2 ∧
    (clientOfN.1.resolveMessage "M").1.map MessageSchema.unresolvedFields = some ["n"] ∧
    ((Resolver.mk clientOfN.1.index defaultMaxDepth).fresh "M").map
      MessageSchema.unresolvedFields = some [] := by
  decide +kernel

theorem reachedBy_clientOfN : ReachedBy {} Call.BringsPlainFiles clientOfN.1 := by
  obtain ⟨plainM, plainN, _⟩ := looked_clientOfN
  have created : ReflectionClient.new {} = .ok { config := {} } := by
    rw [ReflectionClient.new, UserAgent.check, if_pos (by decide)]
  exact .call (.call (.new created) _ plainM) _ plainN

/-- The first file came before the second, and the schema of the message is from between them. -/
theorem resolveMessage_isEarlier_newType :
    ReachedBy {} Call.BringsPlainFiles clientOfN.1 ∧
    (clientOfN.1.resolveMessage "M").1.map MessageSchema.unresolvedFields = some ["n"] ∧
    ∃ known, PassedBy {} Call.BringsPlainFiles known clientOfN.1 ∧
      clientOfN.1.index.Extends known ∧
      (clientOfN.1.resolveMessage "M").1 =
        ((Resolver.mk clientOfN.1.index defaultMaxDepth).fresh "M").map (·.restrictTo known) := by
  obtain ⟨known, passed, extended, _, restricted⟩ :=
    (resolveMessage_isEarlier reachedBy_clientOfN "M").1
  exact ⟨reachedBy_clientOfN, looked_clientOfN.2.2.1, known, passed, extended, restricted⟩

/-- Not everything is looked up as an empty cache would give it. -/
theorem not_forall_resolveMessage_eq_fresh :
    ¬ ∀ (config : ReflectionConfig) (client : ReflectionClient),
      ReachedBy config Call.BringsPlainFiles client →
      ∀ name, TypeName.HasOneDotAtMost name →
        (client.resolveMessage name).1 =
          (Resolver.mk client.index config.maxDepth).fresh name := by
  intro always
  have same := always {} _ reachedBy_clientOfN "M" (by decide)
  obtain ⟨_, _, looked, built⟩ := looked_clientOfN
  rw [same] at looked
  exact absurd (looked.symm.trans built) (by decide)

end ReflectionClient

end GrpcDiscovery
