import GrpcDiscovery.Proofs.Discovery.Latest

namespace GrpcDiscovery

/-!
# Falling back on the second version

When the first version fails, what it brought up to there stays in the index, and the
attempt by the second version goes on from that. It reports the services that it is told
of itself. But a file that is left is not asked for again, and a definition that is left
resolves references in the files that come then.

So what was left shows, unless the second version works by itself, would send the same
files again, and leaves no reference unresolved that could be resolved by it.
-/

/-- Two servers answer the requests of a version alike, and by nothing but the request. -/
def ReflectionServer.AnswersAlike
    (server other : ReflectionServer)
    (version : ReflectionVersion) :
    Prop :=
  ∀ (history otherHistory : List Exchange) (request : ReflectionRequest),
    request.isOfVersion version = true →
      server.reply history request = other.reply otherHistory request

theorem ReflectionRequest.isOfVersion_iff
    (request : ReflectionRequest)
    (version : ReflectionVersion) :
    request.isOfVersion version = true ↔
      version.endpointPath.toList <:+ request.urlText.toList := by
  rw [isOfVersion, String.endsWith_eq_endsWith_toSlice, String.Slice.endsWith_string_iff,
    String.copy_toSlice]

/-- No request goes to both versions. -/
theorem ReflectionRequest.isOfVersion_v1_eq_false
    {request : ReflectionRequest}
    (second : request.isOfVersion .v1alpha = true) :
    request.isOfVersion .v1 = false := by
  rw [isOfVersion_iff] at second
  rw [← Bool.not_eq_true, isOfVersion_iff]
  intro first
  rcases List.suffix_or_suffix_of_suffix first second with shorter | longer
  · exact absurd shorter (by decide)
  · exact absurd longer (by decide)

/-- The server that gives some replies to requests of the first version, and else others. -/
def ReflectionServer.ofVersions (first second : FixedReplies) : ReflectionServer where
  replies := first.all ++ second.all
  reply := fun _ request =>
    (if request.isOfVersion .v1 then first else second).reply request.query
  reply_mem := by
    intro history request
    split
    · exact List.mem_append_left _ (first.reply_mem request.query)
    · exact List.mem_append_right _ (second.reply_mem request.query)

/-- What is replied by the first version makes no difference to the second. -/
theorem ReflectionServer.answersAlike_ofVersions (first otherFirst second : FixedReplies) :
    (ofVersions first second).AnswersAlike (ofVersions otherFirst second) .v1alpha := by
  intro history otherHistory request isSecond
  simp only [ofVersions, ReflectionRequest.isOfVersion_v1_eq_false isSecond, Bool.false_eq_true,
    if_false]

namespace ReflectionClient

variable (client : ReflectionClient) (server : ReflectionServer) (serverUrl : String)
variable (timeout : Option Nat) (history : List Exchange)

/-- The attempt by the second version alone, where nothing is known before. -/
def attemptAlone : EStateM.Result ReflectionError DiscoveryState (List ServiceInfo) :=
  Discovery.attempt (client.channel server serverUrl timeout .v1alpha) client.config.maxDepth {}

/--
What the first version leaves in the index makes no difference to the second: alone that
one works as well, the files that it does not ask for are there as they would come, and
nothing that is left resolves a reference that it would leave unresolved.
-/
structure LeavesNoTrace : Prop where
  works : Discovery.failure? (client.attemptAlone server serverUrl timeout) = none
  plain : ∀ exchange ∈ (client.tried server serverUrl timeout history).2.history.drop
    history.length, exchange.BringsPlainNames
  plainAlone : ∀ exchange ∈
    (Discovery.stateAfter (client.attemptAlone server serverUrl timeout)).history,
      exchange.BringsPlainNames
  upToDate : (client.knownBefore server serverUrl timeout history .v1alpha).index.IsUpToDateWith
    server (Discovery.stateAfter (client.attemptAlone server serverUrl timeout)).history
  addsNothing : (client.knownBefore server serverUrl timeout history .v1alpha).index.AddsNothingTo
    (Discovery.stateAfter (client.attemptAlone server serverUrl timeout)).index

instance : Decidable (client.LeavesNoTrace server serverUrl timeout history) :=
  decidable_of_iff
    (Discovery.failure? (client.attemptAlone server serverUrl timeout) = none ∧
      (∀ exchange ∈ (client.tried server serverUrl timeout history).2.history.drop
        history.length, exchange.BringsPlainNames) ∧
      (∀ exchange ∈
        (Discovery.stateAfter (client.attemptAlone server serverUrl timeout)).history,
          exchange.BringsPlainNames) ∧
      (client.knownBefore server serverUrl timeout history .v1alpha).index.IsUpToDateWith
        server (Discovery.stateAfter (client.attemptAlone server serverUrl timeout)).history ∧
      (client.knownBefore server serverUrl timeout history .v1alpha).index.AddsNothingTo
        (Discovery.stateAfter (client.attemptAlone server serverUrl timeout)).index)
    ⟨fun ⟨works, plain, plainAlone, upToDate, addsNothing⟩ =>
        ⟨works, plain, plainAlone, upToDate, addsNothing⟩,
      fun noTrace => ⟨noTrace.works, noTrace.plain, noTrace.plainAlone, noTrace.upToDate,
        noTrace.addsNothing⟩⟩

variable {client server serverUrl timeout history}

theorem isSound_nothing : ({} : DiscoveryState).IsSound :=
  ⟨TypeIndex.hasPlainNames_empty, SchemaCache.coherent_empty _⟩

/-- Where the first version leaves no trace, the second reports what it would alone. -/
theorem LeavesNoTrace.exists_attemptAlone
    (noTrace : client.LeavesNoTrace server serverUrl timeout history)
    (blank : (client.known history).IsBlank)
    {url : Url}
    {reply : ReflectionQuery → ReflectionReply}
    (answers : (client.channel server serverUrl timeout .v1alpha).AnswersBy url reply)
    {services : List ServiceInfo}
    (succeeded : (client.tried server serverUrl timeout history).1 = .ok (.v1alpha, services)) :
    ∃ last, client.attemptAlone server serverUrl timeout = .ok services last := by
  obtain ⟨works, plain, plainAlone, upToDate, addsNothing⟩ := noTrace
  have ran := attempt_of_succeeded succeeded
  cases alone : client.attemptAlone server serverUrl timeout with
  | error failure last =>
      rw [alone] at works
      cases works
  | ok aloneServices last =>
      rw [alone] at plainAlone upToDate addsNothing
      rw [attemptAlone] at alone
      obtain ⟨earlier, grownBefore, sound⟩ :=
        client.exists_isSound_knownBefore_of_isBlank server serverUrl timeout history .v1alpha
      obtain ⟨exchanges, others, grown, aloneGrown, equal⟩ :=
        Discovery.exists_services_eq_of_attempts answers answers ran alone
      obtain ⟨recorded, grownAlso, informs⟩ :=
        Discovery.exists_informs_attempt answers answers
          (@TypeIndex.IsUpToDateWith.areCurrent _
            (client.channel server serverUrl timeout .v1alpha) _ upToDate url reply answers)
          client.config.maxDepth {}
      rw [alone] at grownAlso informs
      have known : last.history = recorded := grownAlso
      have informsLater := informs (fun exchange member => known ▸ member) _
        (DiscoveryState.informs_of_empty _ rfl _)
      rw [ran] at informsLater
      rw [grownBefore, List.append_assoc] at grown
      rw [grown, List.drop_left, List.forall_mem_append] at plain
      have same := equal plain.2 (sound plain.1 blank) ?_ isSound_nothing _ informsLater.isOver
        addsNothing
      · rw [same]
        exact ⟨last, rfl⟩
      · intro exchange member
        apply plainAlone
        change exchange ∈ last.history
        rw [aloneGrown]
        exact member

/-- Servers that answer the second version alike are reported alike by it alone. -/
theorem services_eq_of_attemptAlone
    {other : ReflectionServer}
    {otherServerUrl : String}
    {otherTimeout : Option Nat}
    {url otherUrl : Url}
    {reply : ReflectionQuery → ReflectionReply}
    (answers : (client.channel server serverUrl timeout .v1alpha).AnswersBy url reply)
    (otherAnswers : (client.channel other otherServerUrl otherTimeout .v1alpha).AnswersBy
      otherUrl reply)
    {services otherServices : List ServiceInfo}
    {last otherLast : DiscoveryState}
    (alone : client.attemptAlone server serverUrl timeout = .ok services last)
    (otherAlone : client.attemptAlone other otherServerUrl otherTimeout =
      .ok otherServices otherLast)
    (plain : ∀ exchange ∈ last.history, exchange.BringsPlainNames)
    (otherPlain : ∀ exchange ∈ otherLast.history, exchange.BringsPlainNames) :
    services = otherServices := by
  rw [attemptAlone] at alone otherAlone
  obtain ⟨exchanges, others, grown, otherGrown, equal⟩ :=
    Discovery.exists_services_eq_of_attempts answers otherAnswers alone otherAlone
  have current : Discovery.AreCurrent .empty reply
      (client.channel other otherServerUrl otherTimeout .v1alpha) otherUrl otherLast.history := by
    intro exchange _ path _ known
    simp [TypeIndex.hasFile, TypeIndex.empty] at known
  obtain ⟨recorded, grownAlso, informs⟩ :=
    Discovery.exists_informs_attempt answers otherAnswers current client.config.maxDepth {}
  rw [otherAlone] at grownAlso informs
  have known : otherLast.history = recorded := grownAlso
  have informsLater := informs (fun exchange member => known ▸ member) {}
    (DiscoveryState.informs_of_empty {} rfl _)
  rw [alone] at informsLater
  have nothing : TypeIndex.empty.AddsNothingTo otherLast.index := by
    intro name _
    simp [TypeIndex.message?, TypeIndex.enum?, TypeIndex.empty]
  rw [grown] at plain
  rw [otherGrown] at otherPlain
  exact equal plain isSound_nothing otherPlain isSound_nothing .empty informsLater.isOver
    nothing

/--
A new client that falls back on the second version at two servers, which answer this
version alike, reports services of the same full names.

All is the same about these services if what the first version left behind at either
server makes no difference to the second.
-/
theorem discover_fallback_alike
    {config : ReflectionConfig}
    {client : ReflectionClient}
    (created : new config = .ok client)
    {server other : ReflectionServer}
    {serverUrl otherServerUrl : String}
    {timeout otherTimeout : Option Nat}
    {history otherHistory : List Exchange}
    {url otherUrl : Url}
    {reply : ReflectionQuery → ReflectionReply}
    (answers : (client.channel server serverUrl timeout .v1alpha).AnswersBy url reply)
    (otherAnswers : (client.channel other otherServerUrl otherTimeout .v1alpha).AnswersBy
      otherUrl reply)
    {services otherServices : List ServiceInfo}
    (succeeded : (client.discover server serverUrl timeout history).1.outcome =
      .ok (.v1alpha, services))
    (otherSucceeded : (client.discover other otherServerUrl otherTimeout otherHistory).1.outcome =
      .ok (.v1alpha, otherServices)) :
    services.map ServiceInfo.fullName = otherServices.map ServiceInfo.fullName ∧
    (client.LeavesNoTrace server serverUrl timeout history →
      client.LeavesNoTrace other otherServerUrl otherTimeout otherHistory →
      services = otherServices) := by
  rw [discover_eq] at succeeded otherSucceeded
  have ran := attempt_of_succeeded succeeded
  have otherRan := attempt_of_succeeded otherSucceeded
  refine ⟨Discovery.fullNames_eq_of_attempts answers otherAnswers ran otherRan, ?_⟩
  intro noTrace otherNoTrace
  have blank (history : List Exchange) : (client.known history).IsBlank := by
    rw [eq_of_new created]
    exact ⟨TypeIndex.hasPlainNames_empty, rfl⟩
  obtain ⟨last, alone⟩ := noTrace.exists_attemptAlone (blank history) answers succeeded
  obtain ⟨otherLast, otherAlone⟩ :=
    otherNoTrace.exists_attemptAlone (blank otherHistory) otherAnswers otherSucceeded
  have plain := noTrace.plainAlone
  have otherPlain := otherNoTrace.plainAlone
  rw [alone] at plain
  rw [otherAlone] at otherPlain
  exact services_eq_of_attemptAlone answers otherAnswers alone otherAlone plain otherPlain

/-- Servers that answer the second version alike do so by one function of the query. -/
theorem exists_answersBy_of_alike
    (client : ReflectionClient)
    {server other : ReflectionServer}
    (alike : server.AnswersAlike other .v1alpha)
    {serverUrl : String}
    (timeout : Option Nat)
    {url : Url}
    (target : (client.channel server serverUrl timeout .v1alpha).target = .ok url)
    (isSecond : ReflectionRequest.isOfVersion ⟨url, .listServices, client.config.userAgent⟩
      .v1alpha = true) :
    ∃ reply, (client.channel server serverUrl timeout .v1alpha).AnswersBy url reply ∧
      (client.channel other serverUrl timeout .v1alpha).AnswersBy url reply := by
  refine ⟨fun query => other.reply [] ⟨url, query, client.config.userAgent⟩, ⟨target, ?_⟩,
    target, ?_⟩
  · exact fun history query => alike history [] ⟨url, query, client.config.userAgent⟩ isSecond
  · intro history query
    exact (alike [] history ⟨url, query, client.config.userAgent⟩ isSecond).symm.trans
      (alike [] [] ⟨url, query, client.config.userAgent⟩ isSecond)

/-- A server that has the second version only. -/
def secondOnly (sent : String) : ReflectionServer :=
  .ofVersions {} (repliesOf [sent] [sentFileE])

/-- A server whose first version fails after it brought what the second would send again. -/
def repeatingServer : ReflectionServer :=
  .ofVersions (repliesOf [sentFileOld] [sentFileE, sentTruncated])
    (repliesOf [sentFileNew] [sentFileE])

/-- Whether there was a first version before makes no difference then. -/
theorem leavesNoTrace_repeatingServer :
    LeavesNoTrace { config := {} } (secondOnly sentFileNew) "http://a" none [] ∧
    LeavesNoTrace { config := {} } repeatingServer "http://a" none [] ∧
    taken MessageSchema.fieldNames
      (discover { config := {} } (secondOnly sentFileNew) "http://a" none []).1 =
        some (.v1alpha, [some ["e", "f"]]) ∧
    taken MessageSchema.fieldNames
      (discover { config := {} } repeatingServer "http://a" none []).1 =
        some (.v1alpha, [some ["e", "f"]]) := by
  decide +kernel

/-- The second version has an address, and requests to it are of this version. -/
theorem isOfVersion_target :
    (channel { config := {} } (secondOnly sentFileNew) "http://a" none .v1alpha).target.toOption.any
      (fun url => ReflectionRequest.isOfVersion
        ⟨url, .listServices, ReflectionConfig.userAgent {}⟩ .v1alpha) = true := by
  decide +kernel

/-- What was sent before by the first version shows in nothing that is reported by the second. -/
theorem discover_fallback_alike_sentAgain :
    ∃ services otherServices,
      (discover { config := {} } (secondOnly sentFileNew) "http://a" none []).1.outcome =
        .ok (.v1alpha, services) ∧
      (discover { config := {} } repeatingServer "http://a" none []).1.outcome =
        .ok (.v1alpha, otherServices) ∧
      ((services.flatMap ServiceInfo.methods).map fun method =>
        method.inputSchema.map MessageSchema.fieldNames) = [some ["e", "f"]] ∧
      services = otherServices := by
  obtain ⟨noTrace, otherNoTrace, measured, otherMeasured⟩ := leavesNoTrace_repeatingServer
  obtain ⟨services, succeeded, fields⟩ := exists_succeeded_of_taken measured
  obtain ⟨otherServices, otherSucceeded, _⟩ := exists_succeeded_of_taken otherMeasured
  have isSecond := isOfVersion_target
  cases target : (channel { config := {} } (secondOnly sentFileNew) "http://a" none
      .v1alpha).target with
  | error failure =>
      rw [target] at isSecond
      cases isSecond
  | ok url =>
      rw [target] at isSecond
      obtain ⟨reply, answers, otherAnswers⟩ := exists_answersBy_of_alike { config := {} }
        (ReflectionServer.answersAlike_ofVersions {}
          (repliesOf [sentFileOld] [sentFileE, sentTruncated]) _) none
        target isSecond
      have same := (discover_fallback_alike new_default answers otherAnswers succeeded
        otherSucceeded).2 noTrace otherNoTrace
      exact ⟨services, otherServices, succeeded, otherSucceeded, fields, same⟩

/-- A server whose first version fails after it brought a message to which the second refers. -/
def resolvingServer : ReflectionServer :=
  .ofVersions (repliesOf [sentFileN, sentTruncated] []) (repliesOf [sentFileM] [sentFileE])

/-- The reference is resolved by what the first version brought. -/
theorem taken_resolvingServer :
    taken MessageSchema.unresolvedFields
      (discover { config := {} } (secondOnly sentFileM) "http://a" none []).1 =
        some (.v1alpha, [some ["n"]]) ∧
    taken MessageSchema.unresolvedFields
      (discover { config := {} } resolvingServer "http://a" none []).1 =
        some (.v1alpha, [some []]) := by
  decide +kernel

/-- What the first version brought before it failed can show in what is reported by the second. -/
theorem not_forall_discover_fallback_alike :
    ¬ ∀ (config : ReflectionConfig) (client : ReflectionClient), new config = .ok client →
      ∀ server other : ReflectionServer, server.AnswersAlike other .v1alpha →
      ∀ (serverUrl : String) (timeout : Option Nat) (history : List Exchange)
        (services otherServices : List ServiceInfo),
        (client.discover server serverUrl timeout history).1.outcome =
          .ok (.v1alpha, services) →
        (client.discover other serverUrl timeout history).1.outcome =
          .ok (.v1alpha, otherServices) →
        services = otherServices := by
  intro always
  obtain ⟨measured, otherMeasured⟩ := taken_resolvingServer
  obtain ⟨services, succeeded, unresolved⟩ := exists_succeeded_of_taken measured
  obtain ⟨otherServices, otherSucceeded, otherUnresolved⟩ :=
    exists_succeeded_of_taken otherMeasured
  have same := always {} _ new_default _ _
    (ReflectionServer.answersAlike_ofVersions {} (repliesOf [sentFileN, sentTruncated] [])
      (repliesOf [sentFileM] [sentFileE]))
    _ _ _ _ _ succeeded otherSucceeded
  rw [same, otherUnresolved] at unresolved
  exact absurd unresolved (by decide)

end ReflectionClient

end GrpcDiscovery
