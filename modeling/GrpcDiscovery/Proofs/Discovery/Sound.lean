import GrpcDiscovery.Discovery.Client
import GrpcDiscovery.Proofs.Discovery.Register
import GrpcDiscovery.Proofs.Schema.Coherent

namespace GrpcDiscovery

/-!
# Discovery keeps the cache coherent

While files are registered the cache falls behind the index, and a file that
cannot be read would leave it there. If all files that come can be read, and the
names in them are plain, every step of a discovery leaves a coherent cache behind,
whether the step fails or not.

What comes is told by the exchanges: the files that reach a client are those of
the replies to its queries for files, and no others.
-/

/-- Bytes can be read as a file, and the names in it are plain. -/
def IsPlainFile (bytes : Bytes) : Prop :=
  ∃ file, FileDescriptor.decode bytes = .ok file ∧ file.HasPlainNames

instance (bytes : Bytes) : Decidable (IsPlainFile bytes) :=
  match decoded : FileDescriptor.decode bytes with
  | .ok file =>
      decidable_of_iff file.HasPlainNames (by simp [IsPlainFile, decoded])
  | .error _ =>
      .isFalse (by simp [IsPlainFile, decoded])

/-- Every file that a query for files brought can be read, and the names in it are plain. -/
def Exchange.BringsPlainFiles (exchange : Exchange) : Prop :=
  exchange.request.query ≠ .listServices →
    ∀ bytes ∈ exchange.reply.files, IsPlainFile bytes

instance (exchange : Exchange) : Decidable exchange.BringsPlainFiles :=
  inferInstanceAs (Decidable (_ → ∀ bytes ∈ exchange.reply.files, IsPlainFile bytes))

/-- Every file that a query for files brought is one of those that are allowed. -/
def Exchange.Brings
    (Allowed : Bytes → Prop)
    (exchange : Exchange) :
    Prop :=
  exchange.request.query ≠ .listServices →
    ∀ bytes ∈ exchange.reply.files, Allowed bytes

namespace DiscoveryState

/-- All indexed names are plain, and the cache is coherent with the index. -/
structure IsSound (state : DiscoveryState) : Prop where
  plain : state.index.HasPlainNames
  coherent : state.cache.Coherent state.index

/-- Exchanges lead from a state to another; if they bring allowed files, an invariant holds on. -/
def LeadsTo
    (Allowed : Bytes → Prop)
    (Invariant : DiscoveryState → Prop)
    (state later : DiscoveryState) :
    Prop :=
  ∃ exchanges,
    later.history = state.history ++ exchanges ∧
    ((∀ exchange ∈ exchanges, exchange.Brings Allowed) → Invariant state → Invariant later)

variable {Allowed : Bytes → Prop} {Invariant : DiscoveryState → Prop}

theorem LeadsTo.refl (state : DiscoveryState) : state.LeadsTo Allowed Invariant state :=
  ⟨[], (List.append_nil _).symm, fun _ holds => holds⟩

theorem LeadsTo.trans
    {first second third : DiscoveryState}
    (earlier : first.LeadsTo Allowed Invariant second)
    (later : second.LeadsTo Allowed Invariant third) :
    first.LeadsTo Allowed Invariant third := by
  obtain ⟨exchanges, grown, holdsSecond⟩ := earlier
  obtain ⟨others, grownFurther, holdsThird⟩ := later
  refine ⟨exchanges ++ others, by rw [grownFurther, grown, List.append_assoc], ?_⟩
  intro allowed holds
  rw [List.forall_mem_append] at allowed
  exact holdsThird allowed.2 (holdsSecond allowed.1 holds)

end DiscoveryState

/-- A query adds at most one exchange, and what it gives is taken from that reply. -/
theorem ReflectionChannel.ask_history
    {α : Type}
    (channel : ReflectionChannel)
    (query : ReflectionQuery)
    (pick : ReflectionAnswer → Except ReflectionError α)
    (history : List Exchange) :
    ∃ exchanges, (channel.ask query pick history).2 = history ++ exchanges := by
  rw [ask]
  cases channel.target with
  | error failure =>
      exact ⟨[], (List.append_nil history).symm⟩
  | ok url =>
      exact ⟨[_], rfl⟩

/-- Files that a query brought are those of the reply, which is kept on record. -/
theorem ReflectionChannel.ask_files
    {channel : ReflectionChannel}
    {query : ReflectionQuery}
    {history later : List Exchange}
    {files : List Bytes}
    (asked : channel.ask query ReflectionAnswer.files history = (.ok files, later)) :
    ∃ exchange, later = history ++ [exchange] ∧ exchange.request.query = query ∧
      exchange.reply.files = files := by
  rw [ask] at asked
  cases target : channel.target with
  | error failure =>
      rw [target] at asked
      cases asked
  | ok url =>
      simp only [target, Prod.mk.injEq] at asked
      refine ⟨_, asked.2.symm, rfl, ?_⟩
      have answered := asked.1
      cases reply : channel.server.reply history ⟨url, query, channel.userAgent⟩ with
      | response status body =>
          rw [reply, ReflectionReply.answer] at answered
          rw [ReflectionReply.files, answered]
      | _ =>
          simp [reply, ReflectionReply.answer, Except.bind] at answered

namespace Discovery

/-- An invariant does not depend on the history, and registering allowed files keeps it. -/
structure SurvivesFiles
    (Allowed : Bytes → Prop)
    (Invariant : DiscoveryState → Prop) :
    Prop where
  history : ∀ (state : DiscoveryState) (history : List Exchange),
    Invariant state → Invariant { state with history := history }
  files : ∀ (state : DiscoveryState) (files : List Bytes),
    (∀ bytes ∈ files, Allowed bytes) → Invariant state →
      Invariant (stateAfter (registerFiles files state))

/-- Rebuilding a message keeps an invariant. -/
def SurvivesRebuilds
    (maxDepth : Nat)
    (Invariant : DiscoveryState → Prop) :
    Prop :=
  ∀ (state : DiscoveryState) (name : String), Invariant state →
    Invariant (stateAfter
      (resolving maxDepth (fun resolver => resolver.rebuildMessage name) state))

/--
Registering plain files leaves plain names in the index.

The cache is emptied then, or else it is the same as before and the index is extended.
-/
theorem registerFiles_of_plain
    {files : List Bytes}
    (plain : ∀ bytes ∈ files, IsPlainFile bytes)
    {state : DiscoveryState}
    (plainNames : state.index.HasPlainNames) :
    (stateAfter (registerFiles files state)).index.HasPlainNames ∧
      ((stateAfter (registerFiles files state)).cache = .empty ∨
        (stateAfter (registerFiles files state)).cache = state.cache ∧
          (stateAfter (registerFiles files state)).index.Extends state.index) := by
  have allReadable : AllReadable files := by
    intro bytes member
    obtain ⟨file, decoded, _⟩ := plain bytes member
    exact ⟨file, decoded⟩
  obtain ⟨missing, cache, registered, emptied, kept⟩ :=
    registerFiles_of_allReadable allReadable state
  rw [registered]
  constructor
  · apply plainNames.registerEach
    intro file readable
    obtain ⟨bytes, member, decoded⟩ := exists_decode_of_mem_readable readable
    obtain ⟨other, decodedAlso, plainFile⟩ := plain bytes member
    obtain rfl := Except.ok.inj (decoded.symm.trans decodedAlso)
    exact plainFile
  · by_cases redefined : state.index.RedefinedByFiles (readable files)
    · exact .inl (emptied redefined)
    · exact .inr ⟨kept redefined, TypeIndex.extends_registerEach redefined⟩

/-- Being sound survives plain files: the cache is emptied, or still coherent. -/
theorem survivesFiles_isSound : SurvivesFiles IsPlainFile DiscoveryState.IsSound where
  history _ _ sound := ⟨sound.plain, sound.coherent⟩
  files := by
    intro state files plain sound
    obtain ⟨plainLater, emptied | ⟨same, extension⟩⟩ :=
      registerFiles_of_plain plain sound.plain
    · refine ⟨plainLater, ?_⟩
      rw [emptied]
      exact SchemaCache.coherent_empty _
    · refine ⟨plainLater, ?_⟩
      rw [same]
      exact sound.coherent.of_extends extension sound.plain plainLater

/-- Being sound survives rebuilding a message. -/
theorem survivesRebuilds_isSound (maxDepth : Nat) :
    SurvivesRebuilds maxDepth DiscoveryState.IsSound := by
  intro state name sound
  obtain ⟨later, rebuilt⟩ :=
    @Resolver.exists_rebuilds ⟨state.index, maxDepth⟩ sound.plain name _ sound.coherent
  rw [resolving, rebuilt.run]
  exact ⟨sound.plain, rebuilt.coherent⟩

/-! ## Fetching -/

section Fetching

variable {Allowed : Bytes → Prop} {Invariant : DiscoveryState → Prop}
variable (survives : SurvivesFiles Allowed Invariant)

include survives

/-- Asking for files and registering them leads from one state to another. -/
theorem SurvivesFiles.leadsTo_registerFiles
    {channel : ReflectionChannel}
    {query : ReflectionQuery}
    {state : DiscoveryState}
    {files : List Bytes}
    {history : List Exchange}
    (asked : channel.ask query ReflectionAnswer.files state.history = (.ok files, history))
    (forFiles : query ≠ .listServices) :
    state.LeadsTo Allowed Invariant
      (stateAfter (registerFiles files { state with history := history })) := by
  obtain ⟨exchange, rfl, rfl, rfl⟩ := ReflectionChannel.ask_files asked
  refine ⟨[exchange], registerFiles_history _ _, ?_⟩
  intro plain holds
  exact survives.files _ _ (plain exchange List.mem_cons_self forFiles)
    (survives.history state _ holds)

/-- A query leads from one state to another, whatever comes of it. -/
theorem SurvivesFiles.leadsTo_ask
    {channel : ReflectionChannel}
    {query : ReflectionQuery}
    {pick : ReflectionAnswer → Except ReflectionError α}
    {state : DiscoveryState}
    {outcome : Except ReflectionError α}
    {history : List Exchange}
    (asked : channel.ask query pick state.history = (outcome, history)) :
    state.LeadsTo Allowed Invariant { state with history := history } := by
  obtain ⟨exchanges, grown⟩ := channel.ask_history query pick state.history
  obtain rfl : history = state.history ++ exchanges :=
    (congrArg Prod.snd asked).symm.trans grown
  exact ⟨exchanges, rfl, fun _ holds => survives.history state _ holds⟩

/-- Fetching imports leads from one state to another, file by file. -/
theorem SurvivesFiles.leadsTo_fetchImports
    (channel : ReflectionChannel)
    (requested queue : List String)
    (state : DiscoveryState) :
    state.LeadsTo Allowed Invariant (stateAfter (fetchImports channel requested queue state)) := by
  fun_induction fetchImports channel requested queue state with
  | case1 requested state =>
      exact .refl state
  | case2 requested state path rest known inductionHypothesis =>
      exact inductionHypothesis
  | case3 requested state path rest unknown failure history asked inductionHypothesis =>
      exact (survives.leadsTo_ask asked).trans inductionHypothesis
  | case4 requested state path rest unknown files history asked failure later registered =>
      have received := survives.leadsTo_registerFiles asked nofun
      rw [registered] at received
      exact received
  | case5 requested state path rest unknown files history asked imports later registered _
      inductionHypothesis =>
      have received := survives.leadsTo_registerFiles asked nofun
      rw [registered] at received
      exact received.trans inductionHypothesis

end Fetching

/-! ## Whole discoveries -/

/-- An action leads from every state to the one that it leaves. -/
def Maintains
    (Allowed : Bytes → Prop)
    (Invariant : DiscoveryState → Prop)
    (action : Discovery α) :
    Prop :=
  ∀ state : DiscoveryState, state.LeadsTo Allowed Invariant (stateAfter (action state))

variable {Allowed : Bytes → Prop} {Invariant : DiscoveryState → Prop}

/-! Composing actions, and taking apart what came of two of them. -/

theorem maintains_pure (value : α) : Maintains Allowed Invariant (pure value : Discovery α) :=
  fun state => .refl state

theorem bind_of_ok
    {β : Type}
    {action : Discovery α}
    {state middle : DiscoveryState}
    {value : α}
    (ran : action state = .ok value middle)
    (next : α → Discovery β) :
    (action >>= next) state = next value middle := by
  change EStateM.bind action next state = next value middle
  simp only [EStateM.bind, ran]

theorem bind_of_error
    {β : Type}
    {action : Discovery α}
    {state middle : DiscoveryState}
    {failure : ReflectionError}
    (ran : action state = .error failure middle)
    (next : α → Discovery β) :
    (action >>= next) state = .error failure middle := by
  change EStateM.bind action next state = .error failure middle
  simp only [EStateM.bind, ran]

theorem exists_of_bind_ok
    {β : Type}
    {action : Discovery α}
    {next : α → Discovery β}
    {state later : DiscoveryState}
    {result : β}
    (ran : (action >>= next) state = .ok result later) :
    ∃ value middle, action state = .ok value middle ∧ next value middle = .ok result later := by
  cases first : action state with
  | ok value middle =>
      rw [bind_of_ok first] at ran
      exact ⟨value, middle, rfl, ran⟩
  | error failure middle =>
      rw [bind_of_error first] at ran
      cases ran

theorem Maintains.bind
    {β : Type}
    {action : Discovery α}
    {next : α → Discovery β}
    (maintains : Maintains Allowed Invariant action)
    (maintainsNext : ∀ value, Maintains Allowed Invariant (next value)) :
    Maintains Allowed Invariant (action >>= next) := by
  intro state
  have first := maintains state
  cases ran : action state with
  | ok value middle =>
      rw [ran] at first
      rw [bind_of_ok ran]
      exact first.trans (maintainsNext value middle)
  | error failure middle =>
      rw [ran] at first
      rw [bind_of_error ran]
      exact first

theorem Maintains.leadsTo
    {action : Discovery α}
    (maintains : Maintains Allowed Invariant action)
    {state later : DiscoveryState}
    {value : α}
    (ran : action state = .ok value later) :
    state.LeadsTo Allowed Invariant later := by
  have led := maintains state
  rw [ran] at led
  exact led

theorem SurvivesFiles.listServices
    (survives : SurvivesFiles Allowed Invariant)
    (channel : ReflectionChannel) :
    Maintains Allowed Invariant (exchanging channel.listServices) := by
  intro state
  rw [exchanging]
  split
  · rename_i value history asked
    exact survives.leadsTo_ask asked
  · rename_i failure history asked
    exact survives.leadsTo_ask asked

/-! What fetching a service comes to, by what the query for its files gives. -/

theorem fetchService_of_error
    {channel : ReflectionChannel}
    {name : String}
    {state : DiscoveryState}
    {failure : ReflectionError}
    {history : List Exchange}
    (asked : channel.filesDefining name state.history = (.error failure, history)) :
    fetchService channel name state = .error failure { state with history := history } := by
  have ran : exchanging (channel.filesDefining name) state =
      .error failure { state with history := history } := by
    rw [exchanging, asked]
  rw [fetchService, bind_of_error ran]

theorem fetchService_of_ok
    {channel : ReflectionChannel}
    {name : String}
    {state : DiscoveryState}
    {files : List Bytes}
    {history : List Exchange}
    (asked : channel.filesDefining name state.history = (.ok files, history)) :
    fetchService channel name state =
      match registerFiles files { state with history := history } with
      | .error failure later =>
          .error failure later
      | .ok missing later =>
          fetchImports channel missing missing later := by
  have ran : exchanging (channel.filesDefining name) state =
      .ok files { state with history := history } := by
    rw [exchanging, asked]
  rw [fetchService, bind_of_ok ran]
  cases registered : registerFiles files { state with history := history } with
  | error failure later =>
      exact bind_of_error registered _
  | ok missing later =>
      exact bind_of_ok registered _

/-- Fetching the files of a service maintains what survives their registration. -/
theorem SurvivesFiles.fetchService
    (survives : SurvivesFiles Allowed Invariant)
    (channel : ReflectionChannel)
    (name : String) :
    Maintains Allowed Invariant (fetchService channel name) := by
  intro state
  cases asked : channel.filesDefining name state.history with
  | mk outcome history =>
      cases outcome with
      | error failure =>
          rw [fetchService_of_error asked]
          exact survives.leadsTo_ask asked
      | ok files =>
          have received := survives.leadsTo_registerFiles asked nofun
          rw [fetchService_of_ok asked]
          cases registered : registerFiles files { state with history := history } with
          | error failure later =>
              rw [registered] at received
              exact received
          | ok missing later =>
              rw [registered] at received
              exact received.trans (survives.leadsTo_fetchImports channel missing missing later)

theorem SurvivesFiles.fetchServices
    (survives : SurvivesFiles Allowed Invariant)
    (channel : ReflectionChannel)
    (names : List String) :
    Maintains Allowed Invariant (fetchServices channel names) := by
  induction names with
  | nil =>
      exact maintains_pure ()
  | cons name rest inductionHypothesis =>
      exact (survives.fetchService channel name).bind fun _ => inductionHypothesis

theorem SurvivesRebuilds.rebuildMessage
    {maxDepth : Nat}
    (survives : SurvivesRebuilds maxDepth Invariant)
    (name : String) :
    Maintains Allowed Invariant (resolving maxDepth fun resolver => resolver.rebuildMessage name) :=
  fun state => ⟨[], (List.append_nil _).symm, fun _ holds => survives state name holds⟩

theorem SurvivesRebuilds.describeMethods
    {maxDepth : Nat}
    (survives : SurvivesRebuilds maxDepth Invariant)
    (serviceName : String)
    (methods : List MethodDescriptor) :
    Maintains Allowed Invariant (describeMethods maxDepth serviceName methods) := by
  induction methods with
  | nil =>
      exact maintains_pure []
  | cons method rest inductionHypothesis =>
      refine (survives.rebuildMessage _).bind ?_
      intro inputSchema
      exact inductionHypothesis.bind fun _ => maintains_pure _

/-- Describing a service maintains what is known, whether the service is defined or not. -/
theorem SurvivesRebuilds.describeService
    {maxDepth : Nat}
    (survives : SurvivesRebuilds maxDepth Invariant)
    (name : String) :
    Maintains Allowed Invariant (describeService maxDepth name) := by
  refine Maintains.bind (fun state => .refl state) ?_
  intro state
  cases state.index.service? name with
  | none =>
      exact fun later => .refl later
  | some descriptor =>
      exact (survives.describeMethods _ _).bind fun _ => maintains_pure _

theorem SurvivesRebuilds.describeServices
    {maxDepth : Nat}
    (survives : SurvivesRebuilds maxDepth Invariant)
    (names : List String) :
    Maintains Allowed Invariant (describeServices maxDepth names) := by
  induction names with
  | nil =>
      exact maintains_pure []
  | cons name rest inductionHypothesis =>
      refine (survives.describeService name).bind ?_
      intro service
      exact inductionHypothesis.bind fun _ => maintains_pure _

/-! What an attempt comes to, by what the query for the services gives. -/

theorem attempt_of_error
    {channel : ReflectionChannel}
    {maxDepth : Nat}
    {state : DiscoveryState}
    {failure : ReflectionError}
    {history : List Exchange}
    (asked : channel.listServices state.history = (.error failure, history)) :
    attempt channel maxDepth state = .error failure { state with history := history } := by
  have ran : exchanging channel.listServices state =
      .error failure { state with history := history } := by
    rw [exchanging, asked]
  rw [attempt, bind_of_error ran]

/-- An attempt that cannot send anything changes nothing. -/
theorem attempt_of_no_target
    {channel : ReflectionChannel}
    {failure : ReflectionError}
    (target : channel.target = .error failure)
    (maxDepth : Nat)
    (state : DiscoveryState) :
    attempt channel maxDepth state = .error failure state := by
  have asked : channel.listServices state.history = (.error failure, state.history) := by
    simp only [ReflectionChannel.listServices, ReflectionChannel.ask, target]
  exact attempt_of_error asked

theorem exists_target_of_attempt
    {channel : ReflectionChannel}
    {maxDepth : Nat}
    {state later : DiscoveryState}
    {services : List ServiceInfo}
    (ran : attempt channel maxDepth state = .ok services later) :
    ∃ url, channel.target = .ok url := by
  cases target : channel.target with
  | error failure =>
      rw [attempt_of_no_target target] at ran
      cases ran
  | ok url =>
      exact ⟨url, rfl⟩

theorem attempt_of_ok
    {channel : ReflectionChannel}
    {maxDepth : Nat}
    {state : DiscoveryState}
    {listed : List String}
    {history : List Exchange}
    (asked : channel.listServices state.history = (.ok listed, history)) :
    attempt channel maxDepth state =
      match fetchServices channel (describedNames listed) { state with history := history } with
      | .error failure later =>
          .error failure later
      | .ok _ later =>
          describeServices maxDepth (describedNames listed) later := by
  have ran : exchanging channel.listServices state =
      .ok listed { state with history := history } := by
    rw [exchanging, asked]
  rw [attempt, bind_of_ok ran]
  cases fetched : fetchServices channel (describedNames listed)
      { state with history := history } with
  | error failure later =>
      exact bind_of_error fetched _
  | ok _ later =>
      exact bind_of_ok fetched _

/--
An attempt fetches everything first and, if that works, describes services then.

Whatever survives the registration of files holds on up to there.
-/
theorem attempt_cases
    (channel : ReflectionChannel)
    (maxDepth : Nat)
    (state : DiscoveryState) :
    (∃ failure later, attempt channel maxDepth state = .error failure later ∧
      ∀ Allowed Invariant, SurvivesFiles Allowed Invariant →
        state.LeadsTo Allowed Invariant later) ∨
    ∃ names middle,
      attempt channel maxDepth state = describeServices maxDepth names middle ∧
      ∀ Allowed Invariant, SurvivesFiles Allowed Invariant →
        state.LeadsTo Allowed Invariant middle := by
  cases asked : channel.listServices state.history with
  | mk answer history =>
      cases answer with
      | error failure =>
          exact .inl ⟨failure, _, attempt_of_error asked,
            fun Allowed Invariant survives => survives.leadsTo_ask asked⟩
      | ok listed =>
          rw [attempt_of_ok asked]
          have fetching Allowed Invariant (survives : SurvivesFiles Allowed Invariant) :
              state.LeadsTo Allowed Invariant (stateAfter (fetchServices channel (describedNames listed)
                { state with history := history })) :=
            (survives.leadsTo_ask asked).trans (survives.fetchServices channel _ _)
          cases fetched : fetchServices channel (describedNames listed)
              { state with history := history } with
          | error failure later =>
              rw [fetched] at fetching
              exact .inl ⟨failure, later, rfl, fetching⟩
          | ok _ middle =>
              rw [fetched] at fetching
              exact .inr ⟨describedNames listed, middle, rfl, fetching⟩

/-- Describing services keeps what is known sound. -/
theorem maintains_describeServices
    (maxDepth : Nat)
    (names : List String) :
    Maintains IsPlainFile DiscoveryState.IsSound (describeServices maxDepth names) :=
  (survivesRebuilds_isSound maxDepth).describeServices names

/-- An attempt at discovery maintains what survives both fetching and describing. -/
theorem maintains_attempt
    {maxDepth : Nat}
    (survives : SurvivesFiles Allowed Invariant)
    (survivesAlso : SurvivesRebuilds maxDepth Invariant)
    (channel : ReflectionChannel) :
    Maintains Allowed Invariant (attempt channel maxDepth) := by
  refine (survives.listServices channel).bind ?_
  intro listed
  refine (survives.fetchServices channel _).bind ?_
  intro _
  exact survivesAlso.describeServices _

end Discovery

/-- Trying versions in turn leads from one state to another if each attempt does. -/
theorem ReflectionClient.leadsTo_tryVersions
    {Allowed : Bytes → Prop}
    {Invariant : DiscoveryState → Prop}
    {attempt : ReflectionVersion → Discovery (List ServiceInfo)}
    (maintains : ∀ version, Discovery.Maintains Allowed Invariant (attempt version))
    (version : ReflectionVersion)
    (others : List ReflectionVersion)
    (state : DiscoveryState) :
    state.LeadsTo Allowed Invariant (tryVersions attempt version others state).2 := by
  fun_induction tryVersions attempt version others state with
  | case1 others version state services later ran =>
      have attempted := maintains version state
      rw [ran] at attempted
      exact attempted
  | case2 version state failure later ran =>
      have attempted := maintains version state
      rw [ran] at attempted
      exact attempted
  | case3 version state failure later ran next rest other last retried inductionHypothesis =>
      have attempted := maintains version state
      rw [ran] at attempted
      rw [retried] at inductionHypothesis
      exact attempted.trans inductionHypothesis
  | case4 version state failure later ran next rest result last retried inductionHypothesis =>
      have attempted := maintains version state
      rw [ran] at attempted
      rw [retried] at inductionHypothesis
      exact attempted.trans inductionHypothesis

end GrpcDiscovery
