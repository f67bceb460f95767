import GrpcDiscovery.Proofs.Discovery.Lookups
import GrpcDiscovery.Proofs.Discovery.Versions

namespace GrpcDiscovery

/-!
# Discovering a server again

A client that asks a server whose replies are fixed is told of the same services as a
new client would be. But it asks for no file that it has by its path, and it resolves
references by everything that it has seen. So what it reports is the same only if the
files that it has are still those of the server, and nothing that it saw elsewhere
resolves a reference that the server's own files leave open.
-/

/-- What a server replies does not depend on what it was asked before. -/
def ReflectionServer.IsFixed (server : ReflectionServer) : Prop :=
  ∀ (history other : List Exchange) (request : ReflectionRequest),
    server.reply history request = server.reply other request

/-- Replies that depend on the kind of query only. -/
structure FixedReplies where
  listing : ReflectionReply := .response 404 []
  definition : ReflectionReply := .response 404 []
  imported : ReflectionReply := .response 404 []

/-- The reply to a query. -/
def FixedReplies.reply (replies : FixedReplies) : ReflectionQuery → ReflectionReply
  | .listServices =>
      replies.listing
  | .fileContainingSymbol _ =>
      replies.definition
  | .fileByFilename _ =>
      replies.imported

/-- All replies that there are. -/
def FixedReplies.all (replies : FixedReplies) : List ReflectionReply :=
  [replies.listing, replies.definition, replies.imported]

theorem FixedReplies.reply_mem
    (replies : FixedReplies)
    (query : ReflectionQuery) :
    replies.reply query ∈ replies.all := by
  cases query <;> simp [reply, all]

/-- The server that gives such replies, whatever the version. -/
def ReflectionServer.ofReplies (replies : FixedReplies) : ReflectionServer where
  replies := replies.all
  reply := fun _ request => replies.reply request.query
  reply_mem := fun _ request => replies.reply_mem request.query

theorem ReflectionServer.isFixed_ofReplies (replies : FixedReplies) : (ofReplies replies).IsFixed :=
  fun _ _ _ => rfl

/-- A server with fixed replies answers by a function of the query. -/
theorem ReflectionServer.IsFixed.answersBy
    {channel : ReflectionChannel}
    (fixed : channel.server.IsFixed)
    {url : Url}
    (target : channel.target = .ok url) :
    channel.AnswersBy url
      (channel.server.repliesLike ⟨url, .listServices, channel.userAgent⟩) :=
  ⟨target, fun history query => fixed history [] ⟨url, query, channel.userAgent⟩⟩

namespace ReflectionClient

section Fixed

variable {client fresh : ReflectionClient} (same : fresh.config = client.config)
variable {server : ReflectionServer} (fixed : server.IsFixed)
variable {serverUrl : String} (timeout freshTimeout : Option Nat)

include same fixed

/-- A server with fixed replies answers two clients of one configuration alike. -/
theorem exists_answersBy
    {version : ReflectionVersion}
    {url : Url}
    (target : (client.channel server serverUrl timeout version).target = .ok url) :
    ∃ reply, (client.channel server serverUrl timeout version).AnswersBy url reply ∧
      (fresh.channel server serverUrl freshTimeout version).AnswersBy url reply := by
  obtain ⟨config, index, cache⟩ := fresh
  obtain rfl : config = client.config := same
  exact ⟨_, @ReflectionServer.IsFixed.answersBy
      (client.channel server serverUrl timeout version) fixed url target,
    @ReflectionServer.IsFixed.answersBy
      (client.channel server serverUrl freshTimeout version) fixed url target⟩

/-- An attempt leaves a client informed about a new one, if it was so before. -/
theorem exists_informs_attempt
    {lower : TypeIndex}
    {record : List Exchange}
    (upToDate : lower.IsUpToDateWith server record)
    (version : ReflectionVersion)
    (blank : DiscoveryState) :
    let after := Discovery.attempt (client.channel server serverUrl timeout version)
      client.config.maxDepth
    let freshAfter := Discovery.attempt (fresh.channel server serverUrl freshTimeout version)
      client.config.maxDepth
    ∃ exchanges,
      (Discovery.stateAfter (freshAfter blank)).history = blank.history ++ exchanges ∧
      (exchanges ⊆ record → ∀ state : DiscoveryState,
        state.Informs blank lower (record.flatMap Exchange.definitions) →
        (Discovery.stateAfter (after state)).Informs (Discovery.stateAfter (freshAfter blank))
          lower (record.flatMap Exchange.definitions)) := by
  intro after freshAfter
  cases target : (client.channel server serverUrl timeout version).target with
  | error failure =>
      have unchanged (state : DiscoveryState) : Discovery.stateAfter (after state) = state :=
        congrArg Discovery.stateAfter (Discovery.attempt_of_no_target target _ state)
      have freshUnchanged : Discovery.stateAfter (freshAfter blank) = blank :=
        congrArg Discovery.stateAfter (@Discovery.attempt_of_no_target
          (fresh.channel server serverUrl freshTimeout version) failure target _ blank)
      rw [freshUnchanged]
      refine ⟨[], (List.append_nil blank.history).symm, fun _ state informs => ?_⟩
      rw [unchanged]
      exact informs
  | ok url =>
      obtain ⟨reply, answers, freshAnswers⟩ :=
        exists_answersBy same fixed timeout freshTimeout target
      exact Discovery.exists_informs_attempt answers freshAnswers
        (@TypeIndex.IsUpToDateWith.areCurrent lower
          (fresh.channel server serverUrl freshTimeout version) record upToDate url reply
          freshAnswers) client.config.maxDepth blank

/-- Before either attempt a client is informed about a new one, over its index from before. -/
theorem exists_informs_knownBefore
    {record : List Exchange}
    (upToDate : client.index.IsUpToDateWith server record)
    (empty : fresh.index = .empty)
    (history freshHistory : List Exchange)
    (version : ReflectionVersion) :
    ∃ exchanges,
      (fresh.knownBefore server serverUrl freshTimeout freshHistory version).history =
        freshHistory ++ exchanges ∧
      (exchanges ⊆ record →
        (client.knownBefore server serverUrl timeout history version).Informs
          (fresh.knownBefore server serverUrl freshTimeout freshHistory version)
          client.index (record.flatMap Exchange.definitions)) := by
  have start := @DiscoveryState.informs_of_empty (client.known history)
    (fresh.known freshHistory) empty (record.flatMap Exchange.definitions)
  cases version with
  | v1 =>
      exact ⟨[], (List.append_nil freshHistory).symm, fun _ => start⟩
  | v1alpha =>
      obtain ⟨exchanges, grown, informs⟩ := exists_informs_attempt same fixed timeout freshTimeout
        upToDate .v1 (fresh.known freshHistory)
      rw [knownBefore, knownBefore, same]
      exact ⟨exchanges, grown, fun recorded => informs recorded _ start⟩

/-- After the last attempt as well, if the record tells all that the new one exchanged. -/
theorem informs_attempt_knownBefore
    {record : List Exchange}
    (upToDate : client.index.IsUpToDateWith server record)
    (empty : fresh.index = .empty)
    {history freshHistory : List Exchange}
    {version : ReflectionVersion}
    {services freshServices : List ServiceInfo}
    {later freshLater : DiscoveryState}
    (ran : Discovery.attempt (client.channel server serverUrl timeout version)
      client.config.maxDepth (client.knownBefore server serverUrl timeout history version) =
        .ok services later)
    (freshRan : Discovery.attempt (fresh.channel server serverUrl freshTimeout version)
      client.config.maxDepth
      (fresh.knownBefore server serverUrl freshTimeout freshHistory version) =
        .ok freshServices freshLater)
    (recorded : freshLater.history = freshHistory ++ record) :
    later.Informs freshLater client.index (record.flatMap Exchange.definitions) := by
  obtain ⟨exchanges, grown, informs⟩ := exists_informs_knownBefore same fixed timeout freshTimeout
    upToDate empty history freshHistory version
  obtain ⟨others, grownFurther, informsLater⟩ := exists_informs_attempt same fixed timeout
    freshTimeout upToDate version
    (fresh.knownBefore server serverUrl freshTimeout freshHistory version)
  rw [freshRan] at grownFurther informsLater
  obtain rfl : record = exchanges ++ others := by
    apply List.append_cancel_left (recorded.symm.trans grownFurther |>.trans _)
    rw [grown, List.append_assoc]
  have ended := informsLater (List.subset_append_right exchanges others) _
    (informs (List.subset_append_left exchanges others))
  rw [ran] at ended
  exact ended

end Fixed

/--
A client and a new one that both discover a server with fixed replies, by the same
version, report services of the same full names.

All is the same about these services if the files that come can be read and have plain
names, the index of the client is up to date with what the server tells the new one,
and it resolves no reference that the server's own files leave unresolved.
-/
theorem discover_isLatest
    {config : ReflectionConfig}
    {allowed : Call → List Exchange → Prop}
    {client fresh : ReflectionClient}
    (reached : ReachedBy config allowed client)
    (created : new config = .ok fresh)
    {server : ReflectionServer}
    (fixed : server.IsFixed)
    {serverUrl : String}
    {timeout freshTimeout : Option Nat}
    {history total freshHistory freshTotal : List Exchange}
    {result freshResult : DiscoveryResult}
    {later freshLater : ReflectionClient}
    (discovered : client.discover server serverUrl timeout history = (result, later, total))
    (discoveredFresh : fresh.discover server serverUrl freshTimeout freshHistory =
      (freshResult, freshLater, freshTotal))
    {version : ReflectionVersion}
    {services freshServices : List ServiceInfo}
    (succeeded : result.outcome = .ok (version, services))
    (succeededFresh : freshResult.outcome = .ok (version, freshServices)) :
    services.map ServiceInfo.fullName = freshServices.map ServiceInfo.fullName ∧
    ((∀ call exchanges, allowed call exchanges →
        ∀ exchange ∈ exchanges, exchange.BringsPlainFiles) →
      (∀ exchange ∈ total.drop history.length, exchange.BringsPlainFiles) →
      (∀ exchange ∈ freshTotal.drop freshHistory.length, exchange.BringsPlainNames) →
      client.index.IsUpToDateWith server (freshTotal.drop freshHistory.length) →
      client.index.AddsNothingTo freshLater.index →
      services = freshServices) := by
  rw [discover_eq, Prod.mk.injEq, Prod.mk.injEq] at discovered discoveredFresh
  obtain ⟨rfl, rfl, rfl⟩ := discovered
  obtain ⟨rfl, rfl, rfl⟩ := discoveredFresh
  have same : fresh.config = client.config := by
    rw [eq_of_new created, reached.config_eq]
  have ran := attempt_of_succeeded succeeded
  have freshRan := attempt_of_succeeded succeededFresh
  rw [same] at freshRan
  obtain ⟨url, target⟩ := Discovery.exists_target_of_attempt ran
  obtain ⟨reply, answers, freshAnswers⟩ :=
    exists_answersBy same fixed timeout freshTimeout target
  refine ⟨Discovery.fullNames_eq_of_attempts answers freshAnswers ran freshRan, ?_⟩
  intro plainCalls plain plainFresh upToDate adds
  obtain ⟨exchanges, others, grown, freshGrown, equal⟩ :=
    Discovery.exists_services_eq_of_attempts answers freshAnswers ran freshRan
  -- What was exchanged is what came before the attempts that worked, and what came in them.
  obtain ⟨earlier, grownBefore, sound⟩ :=
    client.exists_isSound_knownBefore server serverUrl timeout history version
  obtain ⟨freshEarlier, freshGrownBefore, freshSound⟩ :=
    fresh.exists_isSound_knownBefore_of_isBlank server serverUrl freshTimeout freshHistory version
  rw [grownBefore, List.append_assoc] at grown
  rw [freshGrownBefore, List.append_assoc] at freshGrown
  rw [grown, List.drop_left, List.forall_mem_append] at plain
  rw [freshGrown, List.drop_left] at plainFresh upToDate
  rw [List.forall_mem_append] at plainFresh
  have blank : fresh = { config := config } := eq_of_new created
  have informs := informs_attempt_knownBefore same fixed timeout freshTimeout upToDate
    (by rw [blank]) ran freshRan freshGrown
  have knowsNothing : (fresh.known freshHistory).IsBlank := by
    rw [blank]
    exact ⟨TypeIndex.hasPlainNames_empty, rfl⟩
  exact equal (fun exchange member => (plain.2 exchange member).bringsPlainNames)
    (sound plain.1 (reached.isSound plainCalls)) plainFresh.2
    (freshSound plainFresh.1 knowsNothing) client.index informs.isOver adds

/-- A file that imports an enum `E` for the one field of its message. -/
def sentFileOld : String :=
  "CgFhGgFiIg4KAU0SCQoBZSgOMgIuRTIMCgFTEgcKAUMSAi5N"

/-- The same file after a second field was added. -/
def sentFileNew : String :=
  "CgFhGgFiIhUKAU0SCQoBZSgOMgIuRRIFCgFmKAkyDAoBUxIHCgFDEgIuTQ=="

/-- The file that these import. -/
def sentFileE : String :=
  "CgFiKggKAUUSAwoBQQ=="

/-- A reply that lists a service. -/
def listingReply : ReflectionReply :=
  .response 200 (Utf8.encode
    "\x7b\"listServicesResponse\":\x7b\"service\":[\x7b\"name\":\"S\"\x7d]\x7d\x7d")

/-- A reply that brings files, each by its Base64 text. -/
def filesReply (sent : List String) : ReflectionReply :=
  .response 200 (Utf8.encode
    ("\x7b\"fileDescriptorResponse\":\x7b\"fileDescriptorProto\":[\"" ++
      String.intercalate "\",\"" sent ++ "\"]\x7d\x7d"))

/-- Replies that list a service, and bring files for that and for imports. -/
def repliesOf (sent imported : List String) : FixedReplies where
  listing := listingReply
  definition := filesReply sent
  imported := filesReply imported

/-- A server before the field was added. -/
def serverOfOld : ReflectionServer :=
  .ofReplies (repliesOf [sentFileOld] [sentFileE])

/-- The server after the field was added. -/
def serverOfNew : ReflectionServer :=
  .ofReplies (repliesOf [sentFileNew] [sentFileE])

/-- A client that discovered the server before the field was added. -/
def clientOfOld : ReflectionClient × List Exchange :=
  perform { config := {} } (.discover serverOfOld "http://a" none [])

/-- What it reports of the server after that. -/
def resultOfNew : DiscoveryResult × ReflectionClient × List Exchange :=
  clientOfOld.1.discover serverOfNew "http://a" none []

/-- What a new client reports of it. -/
def freshResultOfNew : DiscoveryResult × ReflectionClient × List Exchange :=
  discover { config := {} } serverOfNew "http://a" none []

/-- The version that was used, with a measure of what the methods take. -/
def taken
    {α : Type}
    (measure : MessageSchema → α)
    (result : DiscoveryResult) :
    Option (ReflectionVersion × List (Option α)) :=
  result.outcome.toOption.map fun (version, services) =>
    (version, (services.flatMap ServiceInfo.methods).map fun method =>
      method.inputSchema.map measure)

theorem exists_succeeded_of_taken
    {α : Type}
    {measure : MessageSchema → α}
    {result : DiscoveryResult}
    {version : ReflectionVersion}
    {measured : List (Option α)}
    (measures : taken measure result = some (version, measured)) :
    ∃ services, result.outcome = .ok (version, services) ∧
      ((services.flatMap ServiceInfo.methods).map fun method =>
        method.inputSchema.map measure) = measured := by
  cases outcome : result.outcome with
  | error failure =>
      rw [taken, outcome] at measures
      cases measures
  | ok found =>
      rw [taken, outcome] at measures
      cases measures
      exact ⟨found.2, rfl, rfl⟩

/-- The client skips the imported file, which is up to date, and both report the added field. -/
theorem upToDate_clientOfOld :
    Call.BringsPlainFiles (.discover serverOfOld "http://a" none []) clientOfOld.2 ∧
    (∀ exchange ∈ resultOfNew.2.2, exchange.BringsPlainFiles) ∧
    (∀ exchange ∈ freshResultOfNew.2.2, exchange.BringsPlainNames) ∧
    clientOfOld.1.index.IsUpToDateWith serverOfNew freshResultOfNew.2.2 ∧
    clientOfOld.1.index.AddsNothingTo freshResultOfNew.2.1.index ∧
    (resultOfNew.2.2.map Exchange.request).map ReflectionRequest.query =
      [.listServices, .fileContainingSymbol "S"] ∧
    (freshResultOfNew.2.2.map Exchange.request).map ReflectionRequest.query =
      [.listServices, .fileContainingSymbol "S", .fileByFilename "b"] ∧
    taken MessageSchema.fieldNames resultOfNew.1 =
      some (.v1, [some ["e", "f"]]) ∧
    taken MessageSchema.fieldNames freshResultOfNew.1 =
      some (.v1, [some ["e", "f"]]) := by
  decide +kernel

theorem new_default : new {} = .ok { config := {} } := by
  rw [new, UserAgent.check, if_pos (by decide)]

/-- The added field is reported as to a new client, though the imported file is skipped. -/
theorem discover_isLatest_addedField :
    ∃ services freshServices,
      resultOfNew.1.outcome = .ok (.v1, services) ∧
      freshResultOfNew.1.outcome = .ok (.v1, freshServices) ∧
      ((services.flatMap ServiceInfo.methods).map fun method =>
        method.inputSchema.map MessageSchema.fieldNames) = [some ["e", "f"]] ∧
      services = freshServices := by
  obtain ⟨plainOld, plain, plainFresh, upToDate, adds, _, _, measured, freshMeasured⟩ :=
    upToDate_clientOfOld
  obtain ⟨services, succeeded, fields⟩ := exists_succeeded_of_taken measured
  obtain ⟨freshServices, succeededFresh, _⟩ := exists_succeeded_of_taken freshMeasured
  have reached : ReachedBy {} Call.BringsPlainFiles clientOfOld.1 :=
    .call (.new new_default) _ plainOld
  have fixed := ReflectionServer.isFixed_ofReplies (repliesOf [sentFileNew] [sentFileE])
  cases discovered : resultOfNew with
  | mk result rest =>
      cases discoveredFresh : freshResultOfNew with
      | mk freshResult freshRest =>
          rw [discovered] at plain succeeded
          rw [discoveredFresh] at plainFresh upToDate adds succeededFresh
          have same := (discover_isLatest reached new_default fixed discovered discoveredFresh
            succeeded succeededFresh).2 (fun _ _ permitted => permitted) plain plainFresh
            upToDate adds
          exact ⟨services, freshServices, succeeded, succeededFresh, fields, same⟩

/-- A call that is a discovery. -/
def Call.IsDiscovery : Call → Prop
  | .discover _ _ _ _ =>
      True
  | _ =>
      False

/--
A client and a new one always report the same of a server with fixed replies, where a
condition holds of the client's index, the server, and what the new one exchanged and indexed.
-/
def AlwaysLatest
    (Condition : TypeIndex → ReflectionServer → List Exchange → TypeIndex → Prop) :
    Prop :=
  ∀ (config : ReflectionConfig) (client fresh : ReflectionClient),
    ReachedBy config (fun call _ => call.IsDiscovery) client → new config = .ok fresh →
    ∀ (server : ReflectionServer), server.IsFixed →
    ∀ (serverUrl : String) (timeout : Option Nat) (history : List Exchange)
      (version : ReflectionVersion) (services freshServices : List ServiceInfo),
      (client.discover server serverUrl timeout history).1.outcome =
        .ok (version, services) →
      (fresh.discover server serverUrl timeout history).1.outcome =
        .ok (version, freshServices) →
      Condition client.index server
        ((fresh.discover server serverUrl timeout history).2.2.drop history.length)
        (fresh.discover server serverUrl timeout history).2.1.index →
      services = freshServices

/-- A server of which something else is reported by a new client refutes that. -/
theorem not_alwaysLatest_of_taken
    {client : ReflectionClient}
    (reached : ReachedBy {} (fun call _ => call.IsDiscovery) client)
    {replies : FixedReplies}
    {α : Type}
    {measure : MessageSchema → α}
    {version : ReflectionVersion}
    {measured freshMeasured : List (Option α)}
    (measures : taken measure
      (client.discover (.ofReplies replies) "http://a" none []).1 = some (version, measured))
    (freshMeasures : taken measure
      (discover { config := {} } (.ofReplies replies) "http://a" none []).1 =
        some (version, freshMeasured))
    (different : freshMeasured ≠ measured)
    {Condition : TypeIndex → ReflectionServer → List Exchange → TypeIndex → Prop}
    (condition : Condition client.index (.ofReplies replies)
      (discover { config := {} } (.ofReplies replies) "http://a" none []).2.2
      (discover { config := {} } (.ofReplies replies) "http://a" none []).2.1.index) :
    ¬ AlwaysLatest Condition := by
  intro always
  obtain ⟨services, succeeded, found⟩ := exists_succeeded_of_taken measures
  obtain ⟨freshServices, succeededFresh, freshFound⟩ := exists_succeeded_of_taken freshMeasures
  have same := always {} client _ reached new_default _
    (ReflectionServer.isFixed_ofReplies replies) "http://a" none [] version services
    freshServices succeeded succeededFresh condition
  rw [same] at found
  exact different (freshFound.symm.trans found)

/-- The replies of a server that has a message `N`. -/
def repliesOfN : FixedReplies :=
  repliesOf [sentFileN] []

/-- The replies of a server that refers to such a message, but has none. -/
def repliesOfM : FixedReplies :=
  repliesOf [sentFileM] []

/-- A client that discovered the server with the message. -/
def clientOfOther : ReflectionClient × List Exchange :=
  perform { config := {} } (.discover (.ofReplies repliesOfN) "http://a" none [])

/-- The reference is resolved by what the client saw elsewhere, and by nothing for a new client. -/
theorem taken_clientOfOther :
    taken MessageSchema.unresolvedFields
      (clientOfOther.1.discover (.ofReplies repliesOfM) "http://a" none []).1 =
        some (.v1, [some []]) ∧
    taken MessageSchema.unresolvedFields
      (discover { config := {} } (.ofReplies repliesOfM) "http://a" none []).1 =
        some (.v1, [some ["n"]]) ∧
    clientOfOther.1.index.IsUpToDateWith (.ofReplies repliesOfM)
      (discover { config := {} } (.ofReplies repliesOfM) "http://a" none []).2.2 := by
  decide +kernel

/-- The file that is imported, after the value of the enum was replaced. -/
def sentFileEChanged : String :=
  "CgFiKggKAUUSAwoBQg=="

/-- The replies of the server after the imported file changed. -/
def repliesOfChanged : FixedReplies :=
  repliesOf [sentFileOld] [sentFileEChanged]

/-- The values of the enums to which the fields of a message refer. -/
def enumValues (schema : MessageSchema) : List String :=
  schema.fields.flatMap fun field =>
    match field.nested with
    | some (.enum enum) =>
        enum.values.map EnumValue.name
    | _ =>
        []

/-- The client does not ask for the file that changed, and reports the value from before. -/
theorem taken_repliesOfChanged :
    taken enumValues (clientOfOld.1.discover (.ofReplies repliesOfChanged) "http://a" none []).1 =
      some (.v1, [some ["A"]]) ∧
    taken enumValues
      (discover { config := {} } (.ofReplies repliesOfChanged) "http://a" none []).1 =
        some (.v1, [some ["B"]]) ∧
    clientOfOld.1.index.AddsNothingTo
      (discover { config := {} } (.ofReplies repliesOfChanged) "http://a" none []).2.1.index := by
  decide +kernel

/-- Bytes that end in the middle of a name, and so are no file. -/
def sentTruncated : String :=
  "CgU="

/-- The replies of the server when it sends both files at once, after the value was replaced. -/
def repliesOfBoth : FixedReplies :=
  repliesOf [sentFileOld, sentFileEChanged] []

/--
A client that discovered the server before that, and once more when the new value came
with bytes that are no file.
-/
def clientOfInterrupted : ReflectionClient × List Exchange :=
  perform clientOfOld.1
    (.discover (.ofReplies (repliesOf [sentFileEChanged, sentTruncated] [])) "http://a" none [])

/-- Its index has the new value then, but its cache the one from before. -/
theorem taken_clientOfInterrupted :
    taken enumValues
      (clientOfInterrupted.1.discover (.ofReplies repliesOfBoth) "http://a" none []).1 =
        some (.v1, [some ["A"]]) ∧
    taken enumValues
      (discover { config := {} } (.ofReplies repliesOfBoth) "http://a" none []).1 =
        some (.v1, [some ["B"]]) ∧
    clientOfInterrupted.1.index.IsUpToDateWith (.ofReplies repliesOfBoth)
      (discover { config := {} } (.ofReplies repliesOfBoth) "http://a" none []).2.2 ∧
    clientOfInterrupted.1.index.AddsNothingTo
      (discover { config := {} } (.ofReplies repliesOfBoth) "http://a" none []).2.1.index := by
  decide +kernel

/--
What a client saw before can show in what it reports of a server. Neither that its index
is up to date nor that it resolves nothing more is enough to rule that out, and both are
not if a file that came before was no file.
-/
theorem not_alwaysLatest :
    ¬ AlwaysLatest (fun _ _ _ _ => True) ∧
    ¬ AlwaysLatest (fun index server record _ => index.IsUpToDateWith server record) ∧
    ¬ AlwaysLatest (fun index _ _ freshIndex => index.AddsNothingTo freshIndex) ∧
    ¬ AlwaysLatest (fun index server record freshIndex =>
      index.IsUpToDateWith server record ∧ index.AddsNothingTo freshIndex) := by
  have reachedOther : ReachedBy {} (fun call _ => call.IsDiscovery) clientOfOther.1 :=
    .call (.new new_default) (.discover (.ofReplies repliesOfN) "http://a" none []) trivial
  have reachedOld : ReachedBy {} (fun call _ => call.IsDiscovery) clientOfOld.1 :=
    .call (.new new_default) (.discover serverOfOld "http://a" none []) trivial
  obtain ⟨resolved, unresolved, upToDate⟩ := taken_clientOfOther
  obtain ⟨before, now, adds⟩ := taken_repliesOfChanged
  obtain ⟨kept, replaced, current, nothing⟩ := taken_clientOfInterrupted
  refine ⟨?_, ?_, ?_, ?_⟩
  · exact not_alwaysLatest_of_taken reachedOther resolved unresolved (by decide) trivial
  · exact not_alwaysLatest_of_taken reachedOther resolved unresolved (by decide) upToDate
  · exact not_alwaysLatest_of_taken reachedOld before now (by decide) adds
  · exact not_alwaysLatest_of_taken (.call reachedOld
      (.discover (.ofReplies (repliesOf [sentFileEChanged, sentTruncated] [])) "http://a" none [])
      trivial) kept replaced (by decide) ⟨current, nothing⟩

end ReflectionClient

end GrpcDiscovery
