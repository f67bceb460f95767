import GrpcDiscovery.Proofs.Discovery.Runs
import GrpcDiscovery.Proofs.Reflection.Targets
import GrpcDiscovery.Reflection.Script
import Mathlib.Data.List.Forall2

namespace GrpcDiscovery

/-!
# The requests of a discovery

An attempt by one version puts one query for the services, and then visits the
services that are listed, one after the other: a visit puts one query for the files
that define the service and further ones for their imports. The first failure ends
the attempt, and what an attempt reports can be read off the replies and the index
that it leaves behind.

A discovery is an attempt by the first version and, if that one fails, another by
the second. Its first request is for the services, if requests can be addressed to the
server; if they cannot, it makes none.
-/

namespace Discovery

/-- The failure of an action, if it failed. -/
def failure? {α : Type} : EStateM.Result ReflectionError DiscoveryState α → Option ReflectionError
  | .ok _ _ =>
      none
  | .error failure _ =>
      some failure

/-- Why bytes cannot be read as a file, if they cannot. -/
def fault? (bytes : Bytes) : Option ReflectionError :=
  match FileDescriptor.decode bytes with
  | .ok _ =>
      none
  | .error failure =>
      some (.malformedDescriptor (.file failure))

/-- The first fault among files. -/
def firstFault? (files : List Bytes) : Option ReflectionError :=
  files.findSome? fault?

/-- Registering files fails with the first fault among them. -/
theorem failure?_registerEach
    (files : List Bytes)
    (state : DiscoveryState) :
    failure? (registerEach files state) = firstFault? files := by
  induction files generalizing state with
  | nil =>
      rfl
  | cons bytes rest inductionHypothesis =>
      rw [firstFault?, List.findSome?_cons, fault?, registerEach]
      cases decoded : FileDescriptor.decode bytes with
      | error failure =>
          rfl
      | ok file =>
          have tail := inductionHypothesis { state with index := (state.index.register file).1 }
          simp only
          rw [← firstFault?, ← tail]
          cases registerEach rest { state with index := (state.index.register file).1 } <;> rfl

theorem failure?_registerFiles
    (files : List Bytes)
    (state : DiscoveryState) :
    failure? (registerFiles files state) = firstFault? files := by
  rw [← failure?_registerEach files state, registerFiles]
  cases registerEach files state <;> rfl

end Discovery

/-- A visit to a service: the query for its files, and those for imports after it. -/
structure ServiceVisit where
  definition : Exchange
  imports : List Exchange

namespace ServiceVisit

/-- The exchanges of a visit, in order. -/
def exchanges (visit : ServiceVisit) : List Exchange :=
  visit.definition :: visit.imports

/-- A visit puts one query for a symbol, and queries for files by their paths after it. -/
structure IsTo
    (visit : ServiceVisit)
    (channel : ReflectionChannel)
    (url : Url)
    (name : String) :
    Prop where
  definition :
    visit.definition.request = ⟨url, .fileContainingSymbol name, channel.userAgent⟩
  imports : ∀ exchange ∈ visit.imports,
    ∃ path, exchange.request = ⟨url, .fileByFilename path, channel.userAgent⟩

/--
Why a visit failed, if it did.

It fails where the query for the symbol does, or else with the first fault among
the files that came. A query for an import that fails is no failure of the visit.
-/
def failure?
    (visit : ServiceVisit)
    (channel : ReflectionChannel)
    (url : Url) :
    Option ReflectionError :=
  match (visit.definition.reply.answer url channel.timeout).bind ReflectionAnswer.files with
  | .error failure =>
      some failure
  | .ok files =>
      Discovery.firstFault?
        (files ++ visit.imports.flatMap fun exchange => exchange.reply.files)

end ServiceVisit

namespace Discovery

variable {channel : ReflectionChannel} {url : Url}

/-- A query that can be sent adds one exchange, and gives what is picked from the answer. -/
theorem exists_exchange_of_ask
    {α : Type}
    (target : channel.target = .ok url)
    {query : ReflectionQuery}
    {pick : ReflectionAnswer → Except ReflectionError α}
    {history later : List Exchange}
    {outcome : Except ReflectionError α}
    (asked : channel.ask query pick history = (outcome, later)) :
    ∃ exchange : Exchange, exchange.request = ⟨url, query, channel.userAgent⟩ ∧
      (exchange.reply.answer url channel.timeout).bind pick = outcome ∧
      later = history ++ [exchange] := by
  simp only [ReflectionChannel.ask, target, Prod.mk.injEq] at asked
  exact ⟨⟨_, _⟩, rfl, asked.1, asked.2.symm⟩

/-- The files that an answer carries are those of the reply. -/
theorem files_eq_of_answer
    {reply : ReflectionReply}
    {timeout : Nat}
    {files : List Bytes}
    (answered : (reply.answer url timeout).bind ReflectionAnswer.files = .ok files) :
    reply.files = files := by
  cases reply with
  | response status body =>
      rw [ReflectionReply.answer] at answered
      rw [ReflectionReply.files, answered]
  | _ =>
      simp [ReflectionReply.answer, Except.bind] at answered

theorem files_eq_nil_of_answer
    {reply : ReflectionReply}
    {timeout : Nat}
    {failure : ReflectionError}
    (answered : (reply.answer url timeout).bind ReflectionAnswer.files = .error failure) :
    reply.files = [] := by
  cases reply with
  | response status body =>
      rw [ReflectionReply.answer] at answered
      rw [ReflectionReply.files, answered]
  | _ =>
      rfl

theorem firstFault?_append
    (files others : List Bytes) :
    firstFault? (files ++ others) = (firstFault? files).or (firstFault? others) :=
  List.findSome?_append

/-- Exchanges that fetching imports adds, by which it fails or not. -/
structure FetchesBy
    (channel : ReflectionChannel)
    (url : Url)
    (state : DiscoveryState)
    (result : EStateM.Result ReflectionError DiscoveryState Unit)
    (exchanges : List Exchange) :
    Prop where
  requests : ∀ exchange ∈ exchanges,
    ∃ path, exchange.request = ⟨url, .fileByFilename path, channel.userAgent⟩
  history : (stateAfter result).history = state.history ++ exchanges
  failure : failure? result =
    firstFault? (exchanges.flatMap fun exchange => exchange.reply.files)

/-- Fetching imports puts queries for files by their paths, up to the first fault in a file. -/
theorem exists_fetchesBy
    (target : channel.target = .ok url)
    (requested queue : List String)
    (state : DiscoveryState) :
    ∃ exchanges,
      FetchesBy channel url state (fetchImports channel requested queue state) exchanges := by
  fun_induction fetchImports channel requested queue state with
  | case1 requested state =>
      exact ⟨[], by simp, (List.append_nil _).symm, rfl⟩
  | case2 requested state path rest known inductionHypothesis =>
      exact inductionHypothesis
  | case3 requested state path rest unknown failure history asked inductionHypothesis =>
      obtain ⟨exchange, request, answered, rfl⟩ := exists_exchange_of_ask target asked
      obtain ⟨exchanges, requests, grown, failed⟩ := inductionHypothesis
      refine ⟨exchange :: exchanges, List.forall_mem_cons.mpr ⟨⟨path, request⟩, requests⟩,
        ?_, ?_⟩
      · rw [grown, List.append_assoc, List.singleton_append]
      · rw [failed, List.flatMap_cons, files_eq_nil_of_answer answered, List.nil_append]
  | case4 requested state path rest unknown files history asked failure later registered =>
      obtain ⟨exchange, request, answered, rfl⟩ := exists_exchange_of_ask target asked
      have grown := registerFiles_history files
        { state with history := state.history ++ [exchange] }
      have failed := failure?_registerFiles files
        { state with history := state.history ++ [exchange] }
      rw [registered] at grown failed
      refine ⟨[exchange], List.forall_mem_singleton.mpr ⟨path, request⟩, grown, ?_⟩
      rw [List.flatMap_singleton, files_eq_of_answer answered]
      exact failed
  | case5 requested state path rest unknown files history asked imports later registered _
      inductionHypothesis =>
      obtain ⟨exchange, request, answered, rfl⟩ := exists_exchange_of_ask target asked
      have grown := registerFiles_history files
        { state with history := state.history ++ [exchange] }
      have failed := failure?_registerFiles files
        { state with history := state.history ++ [exchange] }
      rw [registered] at grown failed
      obtain ⟨exchanges, requests, grownFurther, failedLater⟩ := inductionHypothesis
      refine ⟨exchange :: exchanges, List.forall_mem_cons.mpr ⟨⟨path, request⟩, requests⟩,
        ?_, ?_⟩
      · change later.history = state.history ++ [exchange] at grown
        rw [grownFurther, grown, List.append_assoc, List.singleton_append]
      · rw [failedLater, List.flatMap_cons, files_eq_of_answer answered, firstFault?_append,
          ← failed, failure?, Option.none_or]

/-- Fetching a service is a visit to it, which fails as the fetching does. -/
theorem exists_visit_of_fetchService
    (target : channel.target = .ok url)
    (name : String)
    (state : DiscoveryState) :
    ∃ visit : ServiceVisit, visit.IsTo channel url name ∧
      (stateAfter (fetchService channel name state)).history =
        state.history ++ visit.exchanges ∧
      failure? (fetchService channel name state) = visit.failure? channel url := by
  cases asked : channel.filesDefining name state.history with
  | mk outcome history =>
      obtain ⟨exchange, request, answered, rfl⟩ := exists_exchange_of_ask target asked
      cases outcome with
      | error failure =>
          rw [fetchService_of_error asked]
          refine ⟨⟨exchange, []⟩, ⟨request, by simp⟩, rfl, ?_⟩
          rw [ServiceVisit.failure?, answered]
          rfl
      | ok files =>
          have grown := registerFiles_history files
            { state with history := state.history ++ [exchange] }
          have failed := failure?_registerFiles files
            { state with history := state.history ++ [exchange] }
          rw [fetchService_of_ok asked]
          cases registered : registerFiles files
              { state with history := state.history ++ [exchange] } with
          | error failure later =>
              rw [registered] at grown failed
              refine ⟨⟨exchange, []⟩, ⟨request, by simp⟩, grown, ?_⟩
              change some failure = firstFault? files at failed
              simp only [failure?, ServiceVisit.failure?, answered, List.flatMap_nil,
                List.append_nil, failed]
          | ok missing later =>
              rw [registered] at grown failed
              obtain ⟨exchanges, requests, grownFurther, failedLater⟩ :=
                exists_fetchesBy target missing missing later
              refine ⟨⟨exchange, exchanges⟩, ⟨request, requests⟩, ?_, ?_⟩
              · change later.history = state.history ++ [exchange] at grown
                rw [grownFurther, grown, List.append_assoc]
                rfl
              · simp only [failedLater, ServiceVisit.failure?, answered]
                rw [firstFault?_append, ← failed, failure?, Option.none_or]

/--
Visits to services in the order of their names, up to the first that fails.

The outcome is the failure of the last visit, if it failed.
-/
inductive VisitsInOrder
    (channel : ReflectionChannel)
    (url : Url) :
    (names : List String) →
    (visits : List ServiceVisit) →
    (outcome : Option ReflectionError) →
    Prop where
  | done :
      VisitsInOrder channel url [] [] none
  | failed
      {name : String}
      {rest : List String}
      {visit : ServiceVisit}
      {failure : ReflectionError}
      (isTo : visit.IsTo channel url name)
      (failed : visit.failure? channel url = some failure) :
      VisitsInOrder channel url (name :: rest) [visit] (some failure)
  | next
      {name : String}
      {rest : List String}
      {visit : ServiceVisit}
      {visits : List ServiceVisit}
      {outcome : Option ReflectionError}
      (isTo : visit.IsTo channel url name)
      (worked : visit.failure? channel url = none)
      (others : VisitsInOrder channel url rest visits outcome) :
      VisitsInOrder channel url (name :: rest) (visit :: visits) outcome

/-- Fetching services visits them in order, up to the first that fails. -/
theorem exists_visits_of_fetchServices
    (target : channel.target = .ok url)
    (names : List String)
    (state : DiscoveryState) :
    ∃ visits, VisitsInOrder channel url names visits
        (failure? (fetchServices channel names state)) ∧
      (stateAfter (fetchServices channel names state)).history =
        state.history ++ visits.flatMap ServiceVisit.exchanges := by
  induction names generalizing state with
  | nil =>
      exact ⟨[], .done, (List.append_nil _).symm⟩
  | cons name rest inductionHypothesis =>
      obtain ⟨visit, isTo, grown, failed⟩ := exists_visit_of_fetchService target name state
      rw [fetchServices]
      cases ran : fetchService channel name state with
      | error failure later =>
          rw [ran] at grown failed
          rw [bind_of_error ran]
          exact ⟨[visit], .failed isTo failed.symm, by simpa using grown⟩
      | ok _ middle =>
          rw [ran] at grown failed
          rw [bind_of_ok ran]
          obtain ⟨visits, inOrder, grownFurther⟩ := inductionHypothesis middle
          refine ⟨visit :: visits, .next isTo failed.symm inOrder, ?_⟩
          change middle.history = state.history ++ visit.exchanges at grown
          rw [grownFurther, grown, List.flatMap_cons, List.append_assoc]

end Discovery

/-! ## What is reported -/

/-- A method without the schema of what it takes. -/
def MethodInfo.withoutSchema (method : MethodInfo) : MethodInfo :=
  { method with inputSchema := none }

/-- A service is reported by its indexed descriptor, with all of its methods in order. -/
structure ServiceInfo.Reports
    (service : ServiceInfo)
    (index : TypeIndex)
    (name : String)
    (descriptor : ServiceDescriptor) :
    Prop where
  indexed : index.service? name = some descriptor
  simpleName : service.name = descriptor.name
  fullName : service.fullName = TypeName.normalize name
  methods : service.methods.map MethodInfo.withoutSchema =
    descriptor.methods.map (MethodInfo.ofDescriptor (TypeName.normalize name))

namespace Discovery

/-- Describing methods always works, and changes nothing but the cache. -/
theorem exists_describeMethods
    (maxDepth : Nat)
    (serviceName : String)
    (methods : List MethodDescriptor)
    (state : DiscoveryState) :
    ∃ described cache,
      describeMethods maxDepth serviceName methods state =
        .ok described { state with cache := cache } ∧
      described.map MethodInfo.withoutSchema =
        methods.map (MethodInfo.ofDescriptor serviceName) := by
  induction methods generalizing state with
  | nil =>
      exact ⟨[], state.cache, rfl, rfl⟩
  | cons method rest inductionHypothesis =>
      obtain ⟨schema, middle, resolved⟩ : ∃ schema cache,
          resolving maxDepth (fun resolver => resolver.rebuildMessage
            (MethodInfo.ofDescriptor serviceName method).inputType) state =
            .ok schema { state with cache := cache } :=
        ⟨_, _, rfl⟩
      obtain ⟨others, last, described, same⟩ :=
        inductionHypothesis { state with cache := middle }
      refine ⟨{ MethodInfo.ofDescriptor serviceName method with inputSchema := schema } :: others,
        last, ?_, ?_⟩
      · rw [describeMethods, bind_of_ok resolved, bind_of_ok described]
        rfl
      · rw [List.map_cons, List.map_cons, same]
        rfl

/-- A service is described if a file defined it, and changes nothing but the cache. -/
theorem describeService_cases
    (maxDepth : Nat)
    (name : String)
    (state : DiscoveryState) :
    (state.index.service? name = none ∧
      describeService maxDepth name state =
        .error (.unexpectedResponse (.undefinedService name)) state) ∨
    ∃ service cache descriptor,
      describeService maxDepth name state = .ok service { state with cache := cache } ∧
      service.Reports state.index name descriptor := by
  have started : (get : Discovery DiscoveryState) state = .ok state state := rfl
  rw [describeService, bind_of_ok started]
  cases found : state.index.service? name with
  | none =>
      exact .inl ⟨rfl, rfl⟩
  | some descriptor =>
      obtain ⟨methods, cache, described, same⟩ :=
        exists_describeMethods maxDepth (TypeName.normalize name) descriptor.methods state
      refine .inr ⟨⟨descriptor.name, TypeName.normalize name, methods⟩, cache, descriptor,
        ?_, found, rfl, rfl, same⟩
      simp only
      rw [bind_of_ok described]
      rfl

/-- Services are described in order, up to the first that no file defined. -/
theorem describeServices_cases
    (maxDepth : Nat)
    (names : List String)
    (state : DiscoveryState) :
    (∃ name cache,
      names.find? (fun name => (state.index.service? name).isNone) = some name ∧
      describeServices maxDepth names state =
        .error (.unexpectedResponse (.undefinedService name))
          { state with cache := cache }) ∨
    ∃ services cache,
      describeServices maxDepth names state = .ok services { state with cache := cache } ∧
      List.Forall₂ (fun name (service : ServiceInfo) =>
        ∃ descriptor, service.Reports state.index name descriptor) names services := by
  induction names generalizing state with
  | nil =>
      exact .inr ⟨[], state.cache, rfl, .nil⟩
  | cons name rest inductionHypothesis =>
      rw [describeServices]
      rcases describeService_cases maxDepth name state with
        ⟨undefined, failed⟩ | ⟨service, middle, descriptor, described, reports⟩
      · refine .inl ⟨name, state.cache, ?_, bind_of_error failed _⟩
        rw [List.find?_cons, undefined]
        rfl
      · rw [bind_of_ok described]
        rcases inductionHypothesis { state with cache := middle } with
          ⟨other, last, undefined, failed⟩ | ⟨services, last, describedRest, reportRest⟩
        · refine .inl ⟨other, last, ?_, bind_of_error failed _⟩
          rw [List.find?_cons, reports.indexed]
          exact undefined
        · refine .inr ⟨service :: services, last, ?_, .cons ⟨descriptor, reports⟩ reportRest⟩
          rw [bind_of_ok describedRest]
          rfl

/-! ## Attempts and discoveries -/

/-- An exchange asks for the services that there are, and an answer is what it gives. -/
structure IsListing
    (channel : ReflectionChannel)
    (url : Url)
    (listing : Exchange)
    (answer : Except ReflectionError (List String)) :
    Prop where
  target : channel.target = .ok url
  request : listing.request = ⟨url, .listServices, channel.userAgent⟩
  answer : (listing.reply.answer url channel.timeout).bind ReflectionAnswer.listedServices =
    answer

/--
How an attempt goes that leaves an index behind: its exchanges, and what comes of it.

The first exchange asks for the services. Visits to those that are to be described
follow, and if all of them work the services are reported in the order in which they
were listed.
-/
inductive IsAttempt
    (channel : ReflectionChannel)
    (index : TypeIndex) :
    List Exchange →
    Except ReflectionError (List ServiceInfo) →
    Prop where
  /-- The services are not listed. -/
  | unlisted
      {url : Url}
      {listing : Exchange}
      {failure : ReflectionError}
      (unlisted : IsListing channel url listing (.error failure)) :
      IsAttempt channel index [listing] (.error failure)
  /-- A visit fails, which is the last one then. -/
  | interrupted
      {url : Url}
      {listing : Exchange}
      {listed : List String}
      {visits : List ServiceVisit}
      {failure : ReflectionError}
      (isListing : IsListing channel url listing (.ok listed))
      (inOrder : VisitsInOrder channel url (describedNames listed) visits (some failure)) :
      IsAttempt channel index (listing :: visits.flatMap ServiceVisit.exchanges)
        (.error failure)
  /-- All visits work, but a service that was listed is defined by no file. -/
  | undefined
      {url : Url}
      {listing : Exchange}
      {listed : List String}
      {visits : List ServiceVisit}
      {name : String}
      (isListing : IsListing channel url listing (.ok listed))
      (inOrder : VisitsInOrder channel url (describedNames listed) visits none)
      (first : (describedNames listed).find?
        (fun name => (index.service? name).isNone) = some name) :
      IsAttempt channel index (listing :: visits.flatMap ServiceVisit.exchanges)
        (.error (.unexpectedResponse (.undefinedService name)))
  /-- All visits work, and every service that was listed is reported. -/
  | completed
      {url : Url}
      {listing : Exchange}
      {listed : List String}
      {visits : List ServiceVisit}
      {services : List ServiceInfo}
      (isListing : IsListing channel url listing (.ok listed))
      (inOrder : VisitsInOrder channel url (describedNames listed) visits none)
      (reports : List.Forall₂ (fun name (service : ServiceInfo) =>
        ∃ descriptor, service.Reports index name descriptor)
        (describedNames listed) services) :
      IsAttempt channel index (listing :: visits.flatMap ServiceVisit.exchanges)
        (.ok services)

/-- What came of an action. -/
def outcome
    {α : Type} :
    EStateM.Result ReflectionError DiscoveryState α →
    Except ReflectionError α
  | .ok value _ =>
      .ok value
  | .error failure _ =>
      .error failure

/-- Every attempt whose requests can be sent goes in one of these ways. -/
theorem exists_isAttempt
    (target : channel.target = .ok url)
    (maxDepth : Nat)
    (state : DiscoveryState) :
    ∃ exchanges,
      IsAttempt channel (stateAfter (attempt channel maxDepth state)).index exchanges
        (outcome (attempt channel maxDepth state)) ∧
      (stateAfter (attempt channel maxDepth state)).history = state.history ++ exchanges := by
  cases asked : channel.listServices state.history with
  | mk answer history =>
      obtain ⟨listing, request, answered, rfl⟩ := exists_exchange_of_ask target asked
      have isListing : IsListing channel url listing answer := ⟨target, request, answered⟩
      cases answer with
      | error failure =>
          rw [attempt_of_error asked]
          exact ⟨[listing], .unlisted isListing, rfl⟩
      | ok listed =>
          obtain ⟨visits, inOrder, grown⟩ :=
            exists_visits_of_fetchServices target (describedNames listed)
              { state with history := state.history ++ [listing] }
          have total : state.history ++ [listing] ++
              visits.flatMap ServiceVisit.exchanges =
                state.history ++ listing :: visits.flatMap ServiceVisit.exchanges := by
            rw [List.append_assoc, List.singleton_append]
          rw [total] at grown
          rw [attempt_of_ok asked]
          cases fetched : fetchServices channel (describedNames listed)
              { state with history := state.history ++ [listing] } with
          | error failure later =>
              rw [fetched] at inOrder grown
              exact ⟨_, .interrupted isListing inOrder, grown⟩
          | ok _ middle =>
              rw [fetched] at inOrder grown
              simp only
              rcases describeServices_cases maxDepth (describedNames listed) middle with
                ⟨name, cache, first, ended⟩ | ⟨services, cache, ended, reports⟩
              · rw [ended]
                exact ⟨_, .undefined isListing inOrder first, grown⟩
              · rw [ended]
                exact ⟨_, .completed isListing inOrder reports, grown⟩

theorem IsAttempt.ne_nil
    {index : TypeIndex}
    {exchanges : List Exchange}
    {outcome : Except ReflectionError (List ServiceInfo)}
    (isAttempt : IsAttempt channel index exchanges outcome) :
    exchanges ≠ [] := by
  cases isAttempt <;> simp

end Discovery

namespace ReflectionClient

/--
How a discovery goes that leaves an index behind: its exchanges, and what comes of it.

The second version is tried only where the first failed. Where both fail, the first
refusal by the server itself is reported, or else the last failure.
-/
inductive IsDiscovery
    (channel : ReflectionVersion → ReflectionChannel)
    (index : TypeIndex) :
    List Exchange →
    Except ReflectionError (ReflectionVersion × List ServiceInfo) →
    Prop where
  | first
      {exchanges : List Exchange}
      {services : List ServiceInfo}
      (attempt : Discovery.IsAttempt (channel .v1) index exchanges (.ok services)) :
      IsDiscovery channel index exchanges (.ok (.v1, services))
  | second
      {between : TypeIndex}
      {exchanges others : List Exchange}
      {failure : ReflectionError}
      {services : List ServiceInfo}
      (attempt : Discovery.IsAttempt (channel .v1) between exchanges (.error failure))
      (retry : Discovery.IsAttempt (channel .v1alpha) index others (.ok services)) :
      IsDiscovery channel index (exchanges ++ others) (.ok (.v1alpha, services))
  | neither
      {between : TypeIndex}
      {exchanges others : List Exchange}
      {failure later : ReflectionError}
      (attempt : Discovery.IsAttempt (channel .v1) between exchanges (.error failure))
      (retry : Discovery.IsAttempt (channel .v1alpha) index others (.error later)) :
      IsDiscovery channel index (exchanges ++ others)
        (.error (([failure, later].find? ReflectionError.isApplication).getD later))

theorem reported_eq
    (earlier later : ReflectionError) :
    reported earlier later =
      ([earlier, later].find? ReflectionError.isApplication).getD later := by
  cases first : earlier.isApplication <;> cases second : later.isApplication <;>
    simp [reported, first, second]

theorem IsDiscovery.ne_nil
    {channel : ReflectionVersion → ReflectionChannel}
    {index : TypeIndex}
    {exchanges : List Exchange}
    {outcome : Except ReflectionError (ReflectionVersion × List ServiceInfo)}
    (isDiscovery : IsDiscovery channel index exchanges outcome) :
    exchanges ≠ [] := by
  cases isDiscovery with
  | first attempt =>
      exact attempt.ne_nil
  | second attempt _ | neither attempt _ =>
      exact List.append_ne_nil_of_left_ne_nil attempt.ne_nil _

section Discover

variable
  (client : ReflectionClient)
  (server : ReflectionServer)
  (serverUrl : String)
  (timeout : Option Nat)
  (history : List Exchange)

/--
A discovery goes in one of these ways, by exchanges that it adds to those of before, and
without a success it reports no services.
-/
structure DiscoversInOrder : Prop where
  exchanges :
    ∃ exchanges,
      (client.discover server serverUrl timeout history).2.2 = history ++ exchanges ∧
      IsDiscovery (client.channel server serverUrl timeout)
        (client.discover server serverUrl timeout history).2.1.index exchanges
        (client.discover server serverUrl timeout history).1.outcome
  services :
    (client.discover server serverUrl timeout history).1.outcome.isOk = true ∨
      (client.discover server serverUrl timeout history).1.services = []

variable {serverUrl}

/-- Trying both versions goes in one of these ways if the requests of both can be sent. -/
theorem exists_isDiscovery_tried
    (hasTarget :
      ∀ version, ∃ url, (client.channel server serverUrl timeout version).target = .ok url) :
    ∃ exchanges,
      (client.tried server serverUrl timeout history).2.history = history ++ exchanges ∧
      IsDiscovery (client.channel server serverUrl timeout)
        (client.tried server serverUrl timeout history).2.index exchanges
        (client.tried server serverUrl timeout history).1 := by
  obtain ⟨url, target⟩ := hasTarget .v1
  obtain ⟨urlOfSecond, targetOfSecond⟩ := hasTarget .v1alpha
  rw [tried_eq]
  obtain ⟨exchanges, attempt, grown⟩ :=
    Discovery.exists_isAttempt target client.config.maxDepth (client.known history)
  cases ran : Discovery.attempt (client.channel server serverUrl timeout .v1)
      client.config.maxDepth (client.known history) with
  | ok services state =>
      rw [ran] at attempt grown
      exact ⟨exchanges, grown, .first attempt⟩
  | error failure state =>
      rw [ran] at attempt grown
      obtain ⟨others, retry, grownFurther⟩ :=
        Discovery.exists_isAttempt targetOfSecond client.config.maxDepth state
      have total : (Discovery.stateAfter
          (Discovery.attempt (client.channel server serverUrl timeout .v1alpha)
            client.config.maxDepth state)).history = history ++ (exchanges ++ others) := by
        change state.history = history ++ exchanges at grown
        rw [grownFurther, grown, List.append_assoc]
      simp only
      cases ranAgain : Discovery.attempt (client.channel server serverUrl timeout .v1alpha)
          client.config.maxDepth state with
      | ok services last =>
          rw [ranAgain] at retry total
          exact ⟨exchanges ++ others, total, .second attempt retry⟩
      | error later last =>
          rw [ranAgain] at retry total
          simp only [reported_eq]
          exact ⟨exchanges ++ others, total, .neither attempt retry⟩

/-- A discovery at a server to which no request can be addressed exchanges nothing. -/
theorem discover_history_of_no_target
    (isServer : IsWebServer serverUrl)
    (cannotBeAsked : ∀ version, ¬ CanBeAsked serverUrl version) :
    (client.discover server serverUrl timeout history).2.2 = history := by
  have noTarget (version : ReflectionVersion) :
      ∃ failure, (client.channel server serverUrl timeout version).target = .error failure := by
    cases target : (client.channel server serverUrl timeout version).target with
    | error failure =>
        exact ⟨failure, rfl⟩
    | ok url =>
        have isTarget :=
          (exists_target_iff (client.channel server serverUrl timeout version) isServer).mp
            ⟨url, target⟩
        exact absurd isTarget (cannotBeAsked version)
  obtain ⟨failure, target⟩ := noTarget .v1
  obtain ⟨failureOfSecond, targetOfSecond⟩ := noTarget .v1alpha
  rw [discover_eq, tried_eq, Discovery.attempt_of_no_target target]
  simp only
  rw [Discovery.attempt_of_no_target targetOfSecond]
  rfl

theorem not_discoversInOrder
    (isServer : IsWebServer serverUrl)
    (cannotBeAsked : ∀ version, ¬ CanBeAsked serverUrl version) :
    ¬ client.DiscoversInOrder server serverUrl timeout history := by
  rintro ⟨⟨exchanges, grown, isDiscovery⟩, -⟩
  rw [discover_history_of_no_target client server timeout history isServer cannotBeAsked] at grown
  exact isDiscovery.ne_nil (List.self_eq_append_right.mp grown)

end Discover

end ReflectionClient

end GrpcDiscovery
