import GrpcDiscovery.Proofs.Discovery.Runs
import GrpcDiscovery.Reflection.Script

namespace GrpcDiscovery

/-!
# Described methods are up to date

Methods are described after everything was fetched, from an index that does not
change any more. The schema of what a method takes is rebuilt from this index,
and so it is the one that an empty cache would give, provided that the cache is
coherent. It then stays in the cache, for later rebuilds of the same message give
the same again and those of others leave it alone.
-/

/-- What a method takes is described as the index has it, and is cached like this. -/
structure MethodInfo.IsUpToDate
    (method : MethodInfo)
    (resolver : Resolver)
    (cache : SchemaCache) :
    Prop where
  normal : TypeName.normalize method.inputType = method.inputType
  schema : method.inputSchema = resolver.fresh method.inputType
  missing : method.inputSchema = none ↔
    WellKnownType.ofName? method.inputType = none ∧
      resolver.index.message? method.inputType = none
  cached : WellKnownType.ofName? method.inputType = none →
    cache.message? method.inputType = method.inputSchema

namespace Resolver

/-- Every message that is cached as it is built anew is still cached like this later. -/
def Keeps
    (resolver : Resolver)
    (cache later : SchemaCache) :
    Prop :=
  ∀ name : String, TypeName.normalize name = name →
    WellKnownType.ofName? name = none →
      cache.message? name = resolver.fresh name →
        later.message? name = resolver.fresh name

/-- Rebuilding a message keeps what is cached as it is built anew. -/
theorem Rebuilds.keeps
    {resolver : Resolver}
    {name : String}
    {cache later : SchemaCache}
    (rebuilt : resolver.Rebuilds name (resolver.fresh name) cache later)
    (normal : TypeName.normalize name = name) :
    resolver.Keeps cache later := by
  intro key normalKey ordinary upToDate
  rw [SchemaCache.message?, normalKey] at upToDate ⊢
  by_cases same : key = name
  · subst same
    have kept := rebuilt.kept
    rw [normal] at kept
    exact kept ordinary
  · rw [rebuilt.elsewhere key (by rw [normal]; exact same)]
    exact upToDate

end Resolver

/-- A method is up to date once what it takes has been rebuilt. -/
theorem Resolver.Rebuilds.isUpToDate
    {resolver : Resolver}
    {method : MethodInfo}
    {cache later : SchemaCache}
    (rebuilt : resolver.Rebuilds method.inputType (resolver.fresh method.inputType)
      cache later)
    (normal : TypeName.normalize method.inputType = method.inputType) :
    MethodInfo.IsUpToDate
      { method with inputSchema := resolver.fresh method.inputType } resolver later := by
  have kept := rebuilt.kept
  have missing := rebuilt.missing
  rw [normal] at kept missing
  refine ⟨normal, rfl, missing, ?_⟩
  intro ordinary
  rw [SchemaCache.message?, normal]
  exact kept ordinary

/-- A method that is up to date stays so while what is cached anew is kept. -/
theorem MethodInfo.IsUpToDate.of_keeps
    {method : MethodInfo}
    {resolver : Resolver}
    {cache later : SchemaCache}
    (upToDate : method.IsUpToDate resolver cache)
    (keeps : resolver.Keeps cache later) :
    method.IsUpToDate resolver later where
  normal := upToDate.normal
  schema := upToDate.schema
  missing := upToDate.missing
  cached ordinary := by
    rw [upToDate.schema]
    refine keeps method.inputType upToDate.normal ordinary ?_
    rw [← upToDate.schema]
    exact upToDate.cached ordinary

namespace Discovery

/--
Describing methods leads from a sound state to a sound state with the same index,
in which all of the methods are up to date.
-/
structure Describes
    (maxDepth : Nat)
    (state later : DiscoveryState)
    (methods : List MethodInfo) :
    Prop where
  index : later.index = state.index
  sound : later.IsSound
  keeps : (Resolver.mk state.index maxDepth).Keeps state.cache later.cache
  upToDate : ∀ method ∈ methods,
    method.IsUpToDate ⟨state.index, maxDepth⟩ later.cache

theorem describes_nil
    (maxDepth : Nat)
    {state : DiscoveryState}
    (sound : state.IsSound) :
    Describes maxDepth state state [] where
  index := rfl
  sound := sound
  keeps _ _ _ upToDate := upToDate
  upToDate method member := by
    simp at member

/-- Methods that are described after others leave the others up to date. -/
theorem Describes.append
    {maxDepth : Nat}
    {state middle later : DiscoveryState}
    {methods others : List MethodInfo}
    (earlier : Describes maxDepth state middle methods)
    (further : Describes maxDepth middle later others) :
    Describes maxDepth state later (methods ++ others) := by
  obtain ⟨sameIndex, sound, keeps, upToDate⟩ := further
  rw [earlier.index] at sameIndex keeps upToDate
  refine ⟨sameIndex, sound, ?_, ?_⟩
  · intro name normal ordinary cached
    exact keeps name normal ordinary (earlier.keeps name normal ordinary cached)
  · intro method member
    rcases List.mem_append.mp member with first | second
    · exact (earlier.upToDate method first).of_keeps keeps
    · exact upToDate method second

/-- One method is described by rebuilding what it takes. -/
theorem exists_describes_method
    (maxDepth : Nat)
    {method : MethodInfo}
    (normal : TypeName.normalize method.inputType = method.inputType)
    {state : DiscoveryState}
    (sound : state.IsSound) :
    ∃ schema later,
      resolving maxDepth (fun resolver => resolver.rebuildMessage method.inputType) state =
        .ok schema later ∧
      Describes maxDepth state later [{ method with inputSchema := schema }] := by
  obtain ⟨cache, rebuilt⟩ :=
    @Resolver.exists_rebuilds_fresh ⟨state.index, maxDepth⟩ sound.plain _ normal _
      sound.coherent
  refine ⟨(Resolver.mk state.index maxDepth).fresh method.inputType,
    { state with cache := cache }, ?_, rfl, ⟨sound.plain, rebuilt.coherent⟩,
    rebuilt.keeps normal, ?_⟩
  · rw [resolving, rebuilt.run]
  · intro other member
    obtain rfl := List.mem_singleton.mp member
    exact rebuilt.isUpToDate normal

/-- Describing the methods of a service works, method by method. -/
theorem exists_describes_methods
    (maxDepth : Nat)
    (serviceName : String)
    {methods : List MethodDescriptor}
    (references : ∀ method ∈ methods, TypeName.HasOneDotAtMost method.inputType)
    {state : DiscoveryState}
    (sound : state.IsSound) :
    ∃ described later,
      describeMethods maxDepth serviceName methods state = .ok described later ∧
      Describes maxDepth state later described := by
  induction methods generalizing state with
  | nil =>
      exact ⟨[], state, rfl, describes_nil maxDepth sound⟩
  | cons method rest inductionHypothesis =>
      rw [List.forall_mem_cons] at references
      obtain ⟨schema, middle, resolved, first⟩ :=
        @exists_describes_method maxDepth (.ofDescriptor serviceName method)
          (TypeName.normalize_normalize references.1) _ sound
      obtain ⟨others, later, ran, further⟩ :=
        inductionHypothesis references.2 first.sound
      refine ⟨_ :: others, later, ?_, first.append further⟩
      rw [describeMethods, bind_of_ok resolved, bind_of_ok ran]
      rfl

/-- A service that is described has been defined, and its methods are up to date. -/
theorem describes_of_describeService
    {maxDepth : Nat}
    {name : String}
    {state later : DiscoveryState}
    {service : ServiceInfo}
    (sound : state.IsSound)
    (ran : describeService maxDepth name state = .ok service later) :
    Describes maxDepth state later service.methods := by
  have started : (get : Discovery DiscoveryState) state = .ok state state := rfl
  rw [describeService, bind_of_ok started] at ran
  cases found : state.index.service? name with
  | none =>
      rw [found] at ran
      cases ran
  | some descriptor =>
      obtain ⟨methods, last, described, describes⟩ :=
        exists_describes_methods maxDepth (TypeName.normalize name)
          (fun method member => sound.plain.inputType found member) sound
      rw [found] at ran
      simp only [bind_of_ok described] at ran
      cases ran
      exact describes

/-- The methods of all services that are described are up to date. -/
theorem describes_of_describeServices
    {maxDepth : Nat}
    {names : List String}
    {state later : DiscoveryState}
    {services : List ServiceInfo}
    (sound : state.IsSound)
    (ran : describeServices maxDepth names state = .ok services later) :
    Describes maxDepth state later (services.flatMap ServiceInfo.methods) := by
  induction names generalizing state services with
  | nil =>
      cases ran
      exact describes_nil maxDepth sound
  | cons name rest inductionHypothesis =>
      obtain ⟨service, middle, first, ranRest⟩ := exists_of_bind_ok ran
      obtain ⟨others, last, further, finished⟩ := exists_of_bind_ok ranRest
      cases finished
      have describes := describes_of_describeService sound first
      exact describes.append (inductionHypothesis describes.sound further)

/-- An attempt that works fetches everything first and describes the services then. -/
theorem exists_describeServices_of_attempt
    {channel : ReflectionChannel}
    {maxDepth : Nat}
    {state later : DiscoveryState}
    {services : List ServiceInfo}
    (ran : attempt channel maxDepth state = .ok services later) :
    ∃ names middle, state.LeadsTo IsPlainFile DiscoveryState.IsSound middle ∧
      describeServices maxDepth names middle = .ok services later := by
  rcases attempt_cases channel maxDepth state with
    ⟨failure, last, failed, _⟩ | ⟨names, middle, described, led⟩
  · rw [failed] at ran
    cases ran
  · exact ⟨names, middle, led _ _ survivesFiles_isSound, described.symm.trans ran⟩

end Discovery

namespace ReflectionClient

/-- Where trying versions worked, the attempt by one of them did. -/
theorem exists_attempt_of_tryVersions
    {attempt : ReflectionVersion → Discovery (List ServiceInfo)}
    (maintains : ∀ version, Discovery.Maintains IsPlainFile
      DiscoveryState.IsSound (attempt version))
    {version : ReflectionVersion}
    {others : List ReflectionVersion}
    {state : DiscoveryState}
    {result : ReflectionVersion × List ServiceInfo}
    (succeeded : (tryVersions attempt version others state).1 = .ok result) :
    ∃ middle, state.LeadsTo IsPlainFile DiscoveryState.IsSound middle ∧
      attempt result.1 middle =
        .ok result.2 (tryVersions attempt version others state).2 := by
  fun_induction tryVersions attempt version others state with
  | case1 others version state services later ran =>
      cases succeeded
      exact ⟨state, .refl state, ran⟩
  | case2 version state failure later ran =>
      cases succeeded
  | case3 version state failure later ran next rest other last retried inductionHypothesis =>
      cases succeeded
  | case4 version state failure later ran next rest found last retried inductionHypothesis =>
      have led := maintains version state
      rw [ran] at led
      rw [retried] at inductionHypothesis
      obtain ⟨middle, further, attempted⟩ := inductionHypothesis succeeded
      exact ⟨middle, led.trans further, attempted⟩

theorem exists_attempt_of_tried
    {client : ReflectionClient}
    {server : ReflectionServer}
    {serverUrl : String}
    {timeout : Option Nat}
    {history : List Exchange}
    {result : ReflectionVersion × List ServiceInfo}
    (succeeded : (client.tried server serverUrl timeout history).1 = .ok result) :
    ∃ channel middle, (client.known history).LeadsTo IsPlainFile DiscoveryState.IsSound middle ∧
      Discovery.attempt channel client.config.maxDepth middle =
        .ok result.2 (client.tried server serverUrl timeout history).2 := by
  obtain ⟨middle, led, attempted⟩ :=
    exists_attempt_of_tryVersions (fun _ => Discovery.maintains_attempt
      Discovery.survivesFiles_isSound (Discovery.survivesRebuilds_isSound _) _) succeeded
  exact ⟨_, middle, led, attempted⟩

/--
Whenever a discovery works, what each method takes is described as an empty cache
would give it from the index as it then stands, and is cached like this.
-/
theorem discover_isUpToDate
    {config : ReflectionConfig}
    {client later : ReflectionClient}
    (reached : ReachedBy config
      (fun _ exchanges => ∀ exchange ∈ exchanges, exchange.BringsPlainFiles) client)
    {server : ReflectionServer}
    {serverUrl : String}
    {timeout : Option Nat}
    {history total : List Exchange}
    {result : DiscoveryResult}
    (discovered : client.discover server serverUrl timeout history = (result, later, total))
    (plain : ∀ exchange ∈ total.drop history.length, exchange.BringsPlainFiles)
    {version : ReflectionVersion}
    {services : List ServiceInfo}
    (succeeded : result.outcome = .ok (version, services)) :
    ∀ service ∈ services, ∀ method ∈ service.methods,
      method.inputSchema =
        (Resolver.mk later.index config.maxDepth).fresh method.inputType ∧
      (method.inputSchema = none ↔
        WellKnownType.ofName? method.inputType = none ∧
          later.index.message? method.inputType = none) ∧
      (WellKnownType.ofName? method.inputType = none →
        later.cachedMessage? method.inputType = method.inputSchema) := by
  rw [discover_eq, Prod.mk.injEq, Prod.mk.injEq] at discovered
  obtain ⟨rfl, rfl, rfl⟩ := discovered
  intro service member method inside
  have sound : (client.known history).IsSound :=
    isSound_known (reached.isSound fun _ _ permitted => permitted) history
  obtain ⟨channel, middle, failedFirst, attempted⟩ := exists_attempt_of_tried succeeded
  obtain ⟨names, fetched, led, described⟩ :=
    Discovery.exists_describeServices_of_attempt attempted
  -- What was exchanged up to the descriptions is a part of what was exchanged at all.
  obtain ⟨exchanges, grown, soundFetched⟩ := failedFirst.trans led
  obtain ⟨others, grownFurther, _⟩ :=
    (Discovery.maintains_describeServices _ names).leadsTo described
  rw [grown, List.append_assoc] at grownFurther
  rw [grownFurther, known, List.drop_left, List.forall_mem_append] at plain
  have describes := Discovery.describes_of_describeServices
    (soundFetched plain.1 sound) described
  have upToDate := describes.upToDate method (List.mem_flatMap.mpr ⟨service, member, inside⟩)
  rw [← describes.index, reached.config_eq] at upToDate
  exact ⟨upToDate.schema, upToDate.missing, upToDate.cached⟩

/-- A file whose method takes a message with a field of an enum with the value `A`. -/
def sentFileA : String :=
  "Ig4KAU0SCQoBZSgOMgIuRSoICgFFEgMKAUEyDAoBUxIHCgFDEgIuTQ=="

/-- The same file with the value `B` instead. -/
def sentFileB : String :=
  "Ig4KAU0SCQoBZSgOMgIuRSoICgFFEgMKAUIyDAoBUxIHCgFDEgIuTQ=="

/-- A server that lists the service of such a file and then gives the file. -/
def serverOf (sent : String) : ReflectionServer :=
  .ofScript [
    { query := some ⟨"listServices", none⟩
      reply := .response 200 (Utf8.encode
        "\x7b\"listServicesResponse\":\x7b\"service\":[\x7b\"name\":\"S\"\x7d]\x7d\x7d") },
    { reply := .response 200 (Utf8.encode
        ("\x7b\"fileDescriptorResponse\":\x7b\"fileDescriptorProto\":[\"" ++ sent ++
          "\"]\x7d\x7d")) }]

/-- A client that discovered the server with the value `A`, with the exchanges. -/
def clientOfA : ReflectionClient × List Exchange :=
  perform { config := {} } (.discover (serverOf sentFileA) "http://a" none [])

/-- What discovering the server with the value `B` then gives. -/
def resultOfB : DiscoveryResult × ReflectionClient × List Exchange :=
  clientOfA.1.discover (serverOf sentFileB) "http://a" none []

/-- Both servers bring plain files, and one method is described in the end. -/
theorem described_resultOfB :
    (∀ exchange ∈ clientOfA.2, exchange.BringsPlainFiles) ∧
    (∀ exchange ∈ resultOfB.2.2, exchange.BringsPlainFiles) ∧
    (resultOfB.1.services.map fun service => service.methods.length) = [1] := by
  decide +kernel

/-- After the value `A` was replaced by `B` the method is described as the index then has it. -/
theorem discover_isUpToDate_changedEnum :
    ∃ client result later total version services,
      ReachedBy {}
        (fun _ exchanges => ∀ exchange ∈ exchanges, exchange.BringsPlainFiles) client ∧
      client.discover (serverOf sentFileB) "http://a" none [] = (result, later, total) ∧
      result.outcome = .ok (version, services) ∧
      (services.map fun service => service.methods.length) = [1] ∧
      ∀ service ∈ services, ∀ method ∈ service.methods,
        method.inputSchema =
          (Resolver.mk later.index defaultMaxDepth).fresh method.inputType := by
  obtain ⟨plainA, plainB, described⟩ := described_resultOfB
  have created : ReflectionClient.new {} = .ok { config := {} } := by
    rw [ReflectionClient.new, UserAgent.check, if_pos (by decide)]
  have reached : ReachedBy {}
      (fun _ exchanges => ∀ exchange ∈ exchanges, exchange.BringsPlainFiles) clientOfA.1 :=
    .call (.new created) (.discover (serverOf sentFileA) "http://a" none []) plainA
  cases discovered : resultOfB with
  | mk result rest =>
      obtain ⟨later, total⟩ := rest
      rw [discovered, DiscoveryResult.services] at described
      rw [discovered] at plainB
      cases succeeded : result.outcome with
      | error failure =>
          rw [succeeded] at described
          cases described
      | ok found =>
          rw [succeeded] at described
          have upToDate := discover_isUpToDate reached discovered plainB succeeded
          exact ⟨_, result, later, total, found.1, found.2, reached, discovered, succeeded,
            described, fun service member method inside =>
              (upToDate service member method inside).1⟩

end ReflectionClient

end GrpcDiscovery
