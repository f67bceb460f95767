import GrpcDiscovery.Proofs.Discovery.Described

namespace GrpcDiscovery

/-!
# What an attempt starts from

The attempt by the first version starts from what a client knows, and the one by the
second from what the first left behind. Where a discovery works, it reports what the
attempt by the version that it names made of that.

An index that is known before an attempt is no hindrance to it if it is up to date: the
files that are not asked for because the index has them would come as they are there.
-/

/-- What a server replies at first to queries that are put as a request was. -/
def ReflectionServer.repliesLike
    (server : ReflectionServer)
    (request : ReflectionRequest)
    (query : ReflectionQuery) :
    ReflectionReply :=
  server.reply [] { request with query := query }

/--
An index is up to date with a server, as far as a record of exchanges tells: every file
that was asked for by its path, though the index has it, is in the index as it came.
-/
def TypeIndex.IsUpToDateWith
    (index : TypeIndex)
    (server : ReflectionServer)
    (record : List Exchange) :
    Prop :=
  ∀ exchange ∈ record, ∀ path, exchange.request.query = .fileByFilename path →
    index.hasFile path = true →
    ∀ bytes ∈ exchange.reply.files,
      index.HasCurrent (server.repliesLike exchange.request)
        (record.flatMap Exchange.definitions) bytes

/-- The path of the file that a query asks for, if it asks for one by its path. -/
def ReflectionQuery.path? : ReflectionQuery → Option String
  | .fileByFilename path =>
      some path
  | _ =>
      none

theorem ReflectionQuery.path?_eq_some_iff
    (query : ReflectionQuery)
    (path : String) :
    query.path? = some path ↔ query = .fileByFilename path := by
  cases query <;> simp [path?]

instance (index : TypeIndex) (server : ReflectionServer) (record : List Exchange) :
    Decidable (index.IsUpToDateWith server record) :=
  decidable_of_iff
    (∀ exchange ∈ record, exchange.request.query.path?.any index.hasFile = true →
      ∀ bytes ∈ exchange.reply.files,
        index.HasCurrent (server.repliesLike exchange.request)
          (record.flatMap Exchange.definitions) bytes)
    (by simp only [TypeIndex.IsUpToDateWith, Option.any_eq_true, ReflectionQuery.path?_eq_some_iff,
      forall_exists_index, and_imp])

/-- Being up to date is all that is asked of an index that is known before. -/
theorem TypeIndex.IsUpToDateWith.areCurrent
    {index : TypeIndex}
    {channel : ReflectionChannel}
    {record : List Exchange}
    (upToDate : index.IsUpToDateWith channel.server record)
    {url : Url}
    {reply : ReflectionQuery → ReflectionReply}
    (answers : channel.AnswersBy url reply) :
    Discovery.AreCurrent index reply channel url record := by
  intro exchange recorded path request known bytes member
  have replies : channel.server.repliesLike exchange.request = reply := by
    funext query
    rw [ReflectionServer.repliesLike, request]
    exact answers.replies [] query
  have asked := congrArg ReflectionRequest.query request
  rw [← replies]
  exact upToDate exchange recorded path asked known bytes member

namespace ReflectionClient

variable (client : ReflectionClient) (server : ReflectionServer) (serverUrl : String)
variable (timeout : Option Nat) (history : List Exchange)

/-- What is known before the attempt by a version, where there is one. -/
def knownBefore : ReflectionVersion → DiscoveryState
  | .v1 =>
      client.known history
  | .v1alpha =>
      Discovery.stateAfter
        (Discovery.attempt (client.channel server serverUrl timeout .v1)
          client.config.maxDepth (client.known history))

variable {client server serverUrl timeout history}

/-- A discovery that works reports what the attempt by its version found. -/
theorem attempt_of_succeeded
    {version : ReflectionVersion}
    {services : List ServiceInfo}
    (succeeded : (client.tried server serverUrl timeout history).1 = .ok (version, services)) :
    Discovery.attempt (client.channel server serverUrl timeout version) client.config.maxDepth
        (client.knownBefore server serverUrl timeout history version) =
      .ok services (client.tried server serverUrl timeout history).2 := by
  rw [tried_eq] at succeeded ⊢
  cases ran : Discovery.attempt (client.channel server serverUrl timeout .v1)
      client.config.maxDepth (client.known history) with
  | ok found state =>
      rw [ran] at succeeded
      cases succeeded
      exact ran
  | error failure state =>
      rw [ran] at succeeded
      simp only at succeeded ⊢
      cases retried : Discovery.attempt (client.channel server serverUrl timeout .v1alpha)
          client.config.maxDepth state with
      | ok found last =>
          rw [retried] at succeeded
          cases succeeded
          rw [knownBefore, ran]
          exact retried
      | error later last =>
          rw [retried] at succeeded
          cases succeeded

variable (client server serverUrl timeout history)

/-- Plain files leave what is known sound before either attempt. -/
theorem exists_isSound_knownBefore (version : ReflectionVersion) :
    ∃ exchanges,
      (client.knownBefore server serverUrl timeout history version).history =
        history ++ exchanges ∧
      ((∀ exchange ∈ exchanges, exchange.BringsPlainFiles) → (client.known []).IsSound →
        (client.knownBefore server serverUrl timeout history version).IsSound) := by
  cases version with
  | v1 =>
      exact ⟨[], (List.append_nil history).symm, fun _ sound => isSound_known sound history⟩
  | v1alpha =>
      obtain ⟨exchanges, grown, soundLater⟩ :=
        Discovery.maintains_attempt Discovery.survivesFiles_isSound
          (Discovery.survivesRebuilds_isSound client.config.maxDepth)
          (client.channel server serverUrl timeout .v1) (client.known history)
      exact ⟨exchanges, grown, fun plain sound =>
        soundLater plain (isSound_known sound history)⟩

/-- For a client that has nothing cached, it is enough that names are plain. -/
theorem exists_isSound_knownBefore_of_isBlank (version : ReflectionVersion) :
    ∃ exchanges,
      (client.knownBefore server serverUrl timeout history version).history =
        history ++ exchanges ∧
      ((∀ exchange ∈ exchanges, exchange.BringsPlainNames) → (client.known history).IsBlank →
        (client.knownBefore server serverUrl timeout history version).IsSound) := by
  cases version with
  | v1 =>
      exact ⟨[], (List.append_nil history).symm, fun _ blank => blank.isSound⟩
  | v1alpha =>
      exact Discovery.exists_isSound_attempt (client.channel server serverUrl timeout .v1)
        client.config.maxDepth (client.known history)

end ReflectionClient

end GrpcDiscovery
