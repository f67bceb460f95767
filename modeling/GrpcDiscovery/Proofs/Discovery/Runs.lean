import GrpcDiscovery.Proofs.Discovery.Sound

namespace GrpcDiscovery

/-!
# Runs of a client

A run begins with a new client and goes on call by call: discoveries at any
server, look-ups of any name, and forgetting. A call is judged by the exchanges it
carried out, and only discoveries carry out any. If all files that these brought
can be read and have plain names, then the cache is coherent with the index all
along the run.
-/

namespace ReflectionClient

/-- What a caller can do with a client. -/
inductive Call where
  | discover
      (server : ReflectionServer)
      (serverUrl : String)
      (timeout : Option Nat)
      (history : List Exchange)
  | resolveMessage (name : String)
  | forget

/-- The client after a call, with the exchanges that the call carried out. -/
def perform
    (client : ReflectionClient) :
    Call →
    ReflectionClient × List Exchange
  | .discover server serverUrl timeout history =>
      let (_, later, total) := client.discover server serverUrl timeout history
      (later, total.drop history.length)
  | .resolveMessage name =>
      ((client.resolveMessage name).2, [])
  | .forget =>
      (client.forget, [])

/-- The clients that runs of allowed calls lead to. -/
inductive ReachedBy
    (config : ReflectionConfig)
    (allowed : Call → List Exchange → Prop) :
    ReflectionClient →
    Prop where
  | new
      {client : ReflectionClient}
      (created : new config = .ok client) :
      ReachedBy config allowed client
  | call
      {client : ReflectionClient}
      (reached : ReachedBy config allowed client)
      (call : Call)
      (permitted : allowed call (client.perform call).2) :
      ReachedBy config allowed (client.perform call).1

/-- What a client knows before it asks a server with some history. -/
def known
    (client : ReflectionClient)
    (history : List Exchange) :
    DiscoveryState :=
  ⟨client.index, client.cache, history⟩

/-- The outcome of a discovery, with what is known after it. -/
def tried
    (client : ReflectionClient)
    (server : ReflectionServer)
    (serverUrl : String)
    (timeout : Option Nat)
    (history : List Exchange) :
    Outcome :=
  tryVersions
    (fun version =>
      Discovery.attempt
        (client.channel server serverUrl timeout version)
        client.config.maxDepth)
    .v1
    [.v1alpha]
    (client.known history)

/-- Trying both versions is trying the first and, where it fails, the second. -/
theorem tried_eq
    (client : ReflectionClient)
    (server : ReflectionServer)
    (serverUrl : String)
    (timeout : Option Nat)
    (history : List Exchange) :
    client.tried server serverUrl timeout history =
      match Discovery.attempt (client.channel server serverUrl timeout .v1)
          client.config.maxDepth (client.known history) with
      | .ok services state =>
          (.ok (.v1, services), state)
      | .error failure state =>
          match Discovery.attempt (client.channel server serverUrl timeout .v1alpha)
              client.config.maxDepth state with
          | .ok services last =>
              (.ok (.v1alpha, services), last)
          | .error later last =>
              (.error (reported failure later), last) := by
  rw [tried, tryVersions]
  cases Discovery.attempt (client.channel server serverUrl timeout .v1)
      client.config.maxDepth (client.known history) with
  | ok services state =>
      rfl
  | error failure state =>
      simp only [tryVersions]
      cases Discovery.attempt (client.channel server serverUrl timeout .v1alpha)
        client.config.maxDepth state <;> rfl

/-- What is known after trying both versions is what the last attempt leaves. -/
theorem tried_snd
    (client : ReflectionClient)
    (server : ReflectionServer)
    (serverUrl : String)
    (timeout : Option Nat)
    (history : List Exchange) :
    (client.tried server serverUrl timeout history).2 =
      match Discovery.attempt (client.channel server serverUrl timeout .v1)
          client.config.maxDepth (client.known history) with
      | .ok _ state =>
          state
      | .error _ state =>
          Discovery.stateAfter
            (Discovery.attempt (client.channel server serverUrl timeout .v1alpha)
              client.config.maxDepth state) := by
  rw [tried_eq]
  cases Discovery.attempt (client.channel server serverUrl timeout .v1)
      client.config.maxDepth (client.known history) with
  | ok services state =>
      rfl
  | error failure state =>
      simp only
      cases Discovery.attempt (client.channel server serverUrl timeout .v1alpha)
        client.config.maxDepth state <;> rfl

/-- A discovery tries the versions and keeps what is known then. -/
theorem discover_eq
    (client : ReflectionClient)
    (server : ReflectionServer)
    (serverUrl : String)
    (timeout : Option Nat)
    (history : List Exchange) :
    client.discover server serverUrl timeout history =
      (⟨serverUrl, (client.tried server serverUrl timeout history).1⟩,
        { client with
          index := (client.tried server serverUrl timeout history).2.index
          cache := (client.tried server serverUrl timeout history).2.cache },
        (client.tried server serverUrl timeout history).2.history) := by
  rw [discover, tried, known]

/-- Trying the versions keeps what is known sound. -/
theorem leadsTo_tried
    (client : ReflectionClient)
    (server : ReflectionServer)
    (serverUrl : String)
    (timeout : Option Nat)
    (history : List Exchange) :
    (client.known history).LeadsTo IsPlainFile DiscoveryState.IsSound
      (client.tried server serverUrl timeout history).2 :=
  leadsTo_tryVersions (fun _ => Discovery.maintains_attempt Discovery.survivesFiles_isSound
    (Discovery.survivesRebuilds_isSound _) _) _ _ _

/-- The exchanges of a discovery are those that were added to the history. -/
theorem perform_discover_snd
    {client : ReflectionClient}
    {server : ReflectionServer}
    {serverUrl : String}
    {timeout : Option Nat}
    {history exchanges : List Exchange}
    (grown : (client.tried server serverUrl timeout history).2.history =
      history ++ exchanges) :
    (client.perform (.discover server serverUrl timeout history)).2 = exchanges := by
  rw [perform, discover_eq]
  change List.drop history.length (client.tried server serverUrl timeout history).2.history = _
  rw [grown, List.drop_left]

/-- A discovery leaves the index to which trying the versions led. -/
theorem perform_discover_index
    (client : ReflectionClient)
    (server : ReflectionServer)
    (serverUrl : String)
    (timeout : Option Nat)
    (history : List Exchange) :
    (client.perform (.discover server serverUrl timeout history)).1.index =
      (client.tried server serverUrl timeout history).2.index := by
  rw [perform, discover_eq]

theorem isSound_known
    {client : ReflectionClient}
    {history : List Exchange}
    (sound : (client.known history).IsSound)
    (other : List Exchange) :
    (client.known other).IsSound :=
  ⟨sound.plain, sound.coherent⟩

/-- A call that brings plain files only leaves what is known sound. -/
theorem isSound_perform
    {client : ReflectionClient}
    {call : Call}
    (plain : ∀ exchange ∈ (client.perform call).2, exchange.BringsPlainFiles)
    (sound : (client.known []).IsSound) :
    ((client.perform call).1.known []).IsSound := by
  cases call with
  | discover server serverUrl timeout history =>
      obtain ⟨exchanges, grown, soundLater⟩ :=
        client.leadsTo_tried server serverUrl timeout history
      rw [perform_discover_snd grown] at plain
      have soundTried := soundLater plain (isSound_known sound history)
      rw [perform, discover_eq]
      generalize client.tried server serverUrl timeout history = outcome at soundTried ⊢
      exact ⟨soundTried.plain, soundTried.coherent⟩
  | resolveMessage name =>
      exact ⟨sound.plain,
        @Resolver.resolveMessage_coherent ⟨client.index, client.config.maxDepth⟩
          sound.plain _ sound.coherent name⟩
  | forget =>
      exact ⟨TypeIndex.hasPlainNames_empty, SchemaCache.coherent_empty _⟩

theorem eq_of_new
    {config : ReflectionConfig}
    {client : ReflectionClient}
    (created : new config = .ok client) :
    client = { config := config } := by
  rw [new] at created
  split at created
  · exact (Except.ok.inj created).symm
  · cases created

/-- All along a run with plain files what is known is sound. -/
theorem ReachedBy.isSound
    {config : ReflectionConfig}
    {allowed : Call → List Exchange → Prop}
    (plain : ∀ call exchanges, allowed call exchanges →
      ∀ exchange ∈ exchanges, exchange.BringsPlainFiles)
    {client : ReflectionClient}
    (reached : ReachedBy config allowed client) :
    (client.known []).IsSound := by
  induction reached with
  | new created =>
      rw [eq_of_new created]
      exact ⟨TypeIndex.hasPlainNames_empty, SchemaCache.coherent_empty _⟩
  | call reached call permitted inductionHypothesis =>
      exact isSound_perform (plain call _ permitted) inductionHypothesis

theorem ReachedBy.config_eq
    {config : ReflectionConfig}
    {allowed : Call → List Exchange → Prop}
    {client : ReflectionClient}
    (reached : ReachedBy config allowed client) :
    client.config = config := by
  induction reached with
  | new created =>
      rw [eq_of_new created]
  | call reached call permitted inductionHypothesis =>
      rw [← inductionHypothesis]
      cases call <;> rfl

end ReflectionClient

end GrpcDiscovery
