import GrpcDiscovery.Proofs.Discovery.Informed

namespace GrpcDiscovery

/-!
# Two clients in step

A client that knows an index goes through a discovery in step with a blank one. Where
their queues agree in the paths that are still open, a path that is not open changes
neither what the one finds out nor what the other does, and an open path does the same
to both. So they fetch the files of all services alike, and after an attempt the one
client is informed about the other.
-/

namespace Discovery

variable {lower : TypeIndex} {brought : List Definition} {reply : ReflectionQuery → ReflectionReply}

variable {channel blankChannel : ReflectionChannel} {url blankUrl : Url}

/-! ## Fetching imports -/

variable (answers : channel.AnswersBy url reply)
variable (blankAnswers : blankChannel.AnswersBy blankUrl reply)

include answers

/-- The informed client passes over a path that is not open: nothing changes but the history. -/
theorem exists_fetchImports_of_closed
    {path : String}
    (closed : ¬ lower.isOpen reply path = true)
    {state : DiscoveryState}
    (has : ∀ path, lower.hasFile path = true → state.index.hasFile path = true)
    (requested rest : List String) :
    ∃ history, fetchImports channel requested (path :: rest) state =
      fetchImports channel requested rest { state with history := history } := by
  by_cases known : state.index.hasFile path = true
  · exact ⟨state.history, fetchImports_of_known known requested rest⟩
  · have noFiles := TypeIndex.files_eq_nil_of_closed closed (known ∘ has path)
    have asked := answers.ask (.fileByFilename path) ReflectionAnswer.files state.history
    cases answered : ((reply (.fileByFilename path)).answer url channel.timeout).bind
        ReflectionAnswer.files with
    | error failure =>
        rw [answered] at asked
        exact ⟨_, fetchImports_of_error known asked requested rest⟩
    | ok files =>
        obtain rfl : [] = files := noFiles.symm.trans (files_eq_of_answer answered)
        rw [answered] at asked
        have passed := fetchImports_of_ok known asked requested rest
        simp only [registerFiles_nil, unrequested, List.nil_append, List.append_nil] at passed
        exact ⟨_, passed⟩

theorem exists_fetchImports_of_all_closed
    {paths : List String}
    (closed : ∀ path ∈ paths, ¬ lower.isOpen reply path = true)
    {state : DiscoveryState}
    (has : ∀ path, lower.hasFile path = true → state.index.hasFile path = true)
    (requested rest : List String) :
    ∃ history, fetchImports channel requested (paths ++ rest) state =
      fetchImports channel requested rest { state with history := history } := by
  induction paths generalizing state with
  | nil =>
      exact ⟨state.history, rfl⟩
  | cons path others inductionHypothesis =>
      rw [List.forall_mem_cons] at closed
      obtain ⟨history, passed⟩ :=
        exists_fetchImports_of_closed answers closed.1 has requested (others ++ rest)
      obtain ⟨later, passedFurther⟩ :=
        @inductionHypothesis closed.2 { state with history := history } has
      exact ⟨later, passed.trans passedFurther⟩

/-- With no open path in the queue the informed client is done. -/
theorem exists_fetchImports_of_none_open
    {queue : List String}
    (noneOpen : queue.filter (lower.isOpen reply) = [])
    {state : DiscoveryState}
    (has : ∀ path, lower.hasFile path = true → state.index.hasFile path = true)
    (requested : List String) :
    ∃ history, fetchImports channel requested queue state =
      .ok () { state with history := history } := by
  obtain ⟨history, passed⟩ := exists_fetchImports_of_all_closed answers
    (List.filter_eq_nil_iff.mp noneOpen) has requested []
  rw [List.append_nil, fetchImports] at passed
  exact ⟨history, passed⟩

/-- The informed client comes to the first open path of its queue. -/
theorem exists_fetchImports_of_first_open
    {queue rest : List String}
    {path : String}
    (firstOpen : queue.filter (lower.isOpen reply) = path :: rest)
    {state : DiscoveryState}
    (has : ∀ path, lower.hasFile path = true → state.index.hasFile path = true)
    (requested : List String) :
    ∃ others history, others.filter (lower.isOpen reply) = rest ∧
      fetchImports channel requested queue state =
        fetchImports channel requested (path :: others) { state with history := history } := by
  obtain ⟨earlier, others, rfl, closed, _, same⟩ := List.filter_eq_cons_iff.mp firstOpen
  obtain ⟨history, passed⟩ :=
    exists_fetchImports_of_all_closed answers closed has requested (path :: others)
  exact ⟨others, history, same, passed⟩

/-- For the paths that a record asks for and that an index has, the files that come are in it. -/
def AreCurrent
    (lower : TypeIndex)
    (reply : ReflectionQuery → ReflectionReply)
    (channel : ReflectionChannel)
    (url : Url)
    (record : List Exchange) :
    Prop :=
  ∀ exchange ∈ record, ∀ path,
    exchange.request = ⟨url, .fileByFilename path, channel.userAgent⟩ →
    lower.hasFile path = true →
    ∀ bytes ∈ exchange.reply.files,
      lower.HasCurrent reply (record.flatMap Exchange.definitions) bytes

omit answers

/-- Whatever comes for a path that is not open is in the index. -/
theorem AreCurrent.of_closed
    {record : List Exchange}
    (current : AreCurrent lower reply channel url record)
    {path : String}
    (closed : ¬ lower.isOpen reply path = true)
    (recorded : channel.exchange url reply (.fileByFilename path) ∈ record) :
    ∀ bytes ∈ (reply (.fileByFilename path)).files,
      lower.HasCurrent reply (record.flatMap Exchange.definitions) bytes := by
  by_cases known : lower.hasFile path = true
  · exact current _ recorded path rfl known
  · rw [TypeIndex.files_eq_nil_of_closed closed known]
    exact List.forall_mem_nil _

theorem AreCurrent.allReadable_of_closed
    {record : List Exchange}
    (current : AreCurrent lower reply channel url record)
    {path : String}
    (closed : ¬ lower.isOpen reply path = true)
    (recorded : channel.exchange url reply (.fileByFilename path) ∈ record) :
    AllReadable (reply (.fileByFilename path)).files := by
  intro bytes member
  obtain ⟨file, decoded, _⟩ := current.of_closed closed recorded bytes member
  exact ⟨file, decoded⟩

/-- Nothing that files in the index import is open and missing. -/
theorem filter_isMissing_of_current
    {files : List Bytes}
    (current : ∀ bytes ∈ files, lower.HasCurrent reply brought bytes)
    (index : TypeIndex) :
    ((files.flatMap importsOf).filter (isMissing index)).filter (lower.isOpen reply) = [] := by
  rw [List.filter_eq_nil_iff]
  intro path member
  obtain ⟨imported, missing⟩ := List.mem_filter.mp member
  obtain ⟨bytes, inside, imports⟩ := List.mem_flatMap.mp imported
  obtain ⟨file, decoded, isCurrent⟩ := current bytes inside
  simp only [importsOf, decoded] at imports
  rcases isCurrent.imports path imports with bundled | closed
  · simp [isMissing, bundled] at missing
  · exact closed

/-- The files of an exchange on record are brought. -/
theorem definitions_subset_of_mem
    {record : List Exchange}
    {query : ReflectionQuery}
    (recorded : channel.exchange url reply query ∈ record) :
    (readable (reply query).files).flatMap FileDescriptor.definitions ⊆
      record.flatMap Exchange.definitions :=
  fun _ member => List.mem_flatMap.mpr ⟨_, recorded, member⟩

/-- The open paths among the imports that are missing are the same for both clients. -/
theorem filter_isMissing
    (reply : ReflectionQuery → ReflectionReply)
    {state blank : DiscoveryState}
    (informs : state.Informs blank lower brought)
    (imports : List String) :
    (imports.filter (isMissing state.index)).filter (lower.isOpen reply) =
      (imports.filter (isMissing blank.index)).filter (lower.isOpen reply) := by
  rw [List.filter_filter, List.filter_filter]
  refine List.filter_congr fun path _ => ?_
  by_cases isOpen : lower.isOpen reply path = true
  · have lacks := ((TypeIndex.isOpen_iff lower reply path).mp isOpen).1
    have same : state.index.hasFile path = blank.index.hasFile path := by
      rw [Bool.eq_iff_iff, informs.isOver.files, or_iff_left lacks]
    rw [isMissing, isMissing, same]
  · rw [Bool.not_eq_true] at isOpen
    rw [isOpen, Bool.false_and, Bool.false_and]

/-- Files that the blank client fails to register fail for the informed one. -/
theorem exists_registerFiles_error
    {state blank blankLater : DiscoveryState}
    (informs : state.Informs blank lower brought)
    {files : List Bytes}
    (isBrought : (readable files).flatMap FileDescriptor.definitions ⊆ brought)
    {failure : ReflectionError}
    (registered : registerFiles files blank = .error failure blankLater) :
    ∃ later, registerFiles files state = .error failure later ∧
      later.Informs blankLater lower brought := by
  have failed := failure?_registerFiles files state
  have informsLater := informs_registerFiles informs isBrought
  rw [← failure?_registerFiles files blank, registered] at failed
  rw [registered] at informsLater
  cases registeredAlso : registerFiles files state with
  | error other later =>
      rw [registeredAlso] at failed informsLater
      obtain rfl := Option.some.inj failed
      exact ⟨later, rfl, informsLater⟩
  | ok missing later =>
      rw [registeredAlso] at failed
      cases failed

/-- Files that the blank client registers are registered, and the same open imports are missing. -/
theorem exists_registerFiles_ok
    (reply : ReflectionQuery → ReflectionReply)
    {state blank blankLater : DiscoveryState}
    (informs : state.Informs blank lower brought)
    {files : List Bytes}
    (isBrought : (readable files).flatMap FileDescriptor.definitions ⊆ brought)
    {blankMissing : List String}
    (registered : registerFiles files blank = .ok blankMissing blankLater) :
    ∃ missing later, registerFiles files state = .ok missing later ∧
      later.Informs blankLater lower brought ∧
      missing.filter (lower.isOpen reply) = blankMissing.filter (lower.isOpen reply) := by
  have failed := failure?_registerFiles files state
  have informsLater := informs_registerFiles informs isBrought
  rw [← failure?_registerFiles files blank, registered] at failed
  rw [registered] at informsLater
  cases registeredAlso : registerFiles files state with
  | error other later =>
      rw [registeredAlso] at failed
      cases failed
  | ok missing later =>
      rw [registeredAlso] at informsLater
      refine ⟨missing, later, rfl, informsLater, ?_⟩
      rw [missing_of_registerFiles registeredAlso, missing_of_registerFiles registered]
      exact filter_isMissing reply informsLater _

/-- Two clients stand at the same point of their queues, as far as paths are open. -/
structure InStep
    (lower : TypeIndex)
    (reply : ReflectionQuery → ReflectionReply)
    (brought : List Definition)
    (requested queue : List String)
    (state : DiscoveryState)
    (blankRequested blankQueue : List String)
    (blank : DiscoveryState) :
    Prop where
  informs : state.Informs blank lower brought
  queue : queue.filter (lower.isOpen reply) = blankQueue.filter (lower.isOpen reply)
  requested : ∀ path, lower.isOpen reply path = true →
    (path ∈ requested ↔ path ∈ blankRequested)

theorem InStep.has
    {requested queue blankRequested blankQueue : List String}
    {state blank : DiscoveryState}
    (inStep : InStep lower reply brought requested queue state
      blankRequested blankQueue blank)
    (path : String)
    (known : lower.hasFile path = true) :
    state.index.hasFile path = true :=
  (inStep.informs.isOver.files path).mpr (.inr known)

/-- What joins the queues leaves the clients in step. -/
theorem InStep.join
    {requested queue missing blankRequested blankQueue blankMissing : List String}
    {state blank : DiscoveryState}
    (inStep : InStep lower reply brought requested queue state
      blankRequested blankQueue blank)
    {later blankLater : DiscoveryState}
    (informs : later.Informs blankLater lower brought)
    (same : missing.filter (lower.isOpen reply) = blankMissing.filter (lower.isOpen reply)) :
    InStep lower reply brought
      (unrequested requested missing ++ requested) (queue ++ unrequested requested missing) later
      (unrequested blankRequested blankMissing ++ blankRequested)
      (blankQueue ++ unrequested blankRequested blankMissing) blankLater where
  informs := informs
  queue := by
    rw [List.filter_append, List.filter_append, inStep.queue,
      filter_unrequested (lower.isOpen reply) inStep.requested,
      filter_unrequested (lower.isOpen reply) (fun _ _ => Iff.rfl), same]
  requested := by
    intro path isOpen
    have sameMember : path ∈ missing ↔ path ∈ blankMissing := by
      have member := congrArg (path ∈ ·) same
      simpa [List.mem_filter, isOpen] using member
    rw [List.mem_append, List.mem_append, mem_unrequested_iff, mem_unrequested_iff,
      sameMember, inStep.requested path isOpen]

/-- What joins the queue of the blank client only leaves the clients in step if none is open. -/
theorem InStep.join_blank
    {requested queue blankRequested blankQueue blankMissing : List String}
    {state blank : DiscoveryState}
    (inStep : InStep lower reply brought requested queue state
      blankRequested blankQueue blank)
    {blankLater : DiscoveryState}
    (informs : state.Informs blankLater lower brought)
    (noneOpen : blankMissing.filter (lower.isOpen reply) = []) :
    InStep lower reply brought requested queue state
      (unrequested blankRequested blankMissing ++ blankRequested)
      (blankQueue ++ unrequested blankRequested blankMissing) blankLater := by
  have joined := @InStep.join lower brought reply requested queue [] blankRequested blankQueue
    blankMissing state blank inStep state blankLater informs noneOpen.symm
  simp only [unrequested, List.nil_append, List.append_nil] at joined
  exact joined

/-- A change of histories leaves the clients in step. -/
theorem InStep.of_history
    {requested queue blankRequested blankQueue : List String}
    {state blank : DiscoveryState}
    (inStep : InStep lower reply brought requested queue state
      blankRequested blankQueue blank)
    (history blankHistory : List Exchange) :
    InStep lower reply brought requested queue { state with history := history }
      blankRequested blankQueue { blank with history := blankHistory } :=
  ⟨⟨inStep.informs.isOver, inStep.informs.brought⟩, inStep.queue, inStep.requested⟩

/-- A path that is not open makes no difference to the queue of the blank client. -/
theorem InStep.skip
    {requested queue blankRequested rest : List String}
    {path : String}
    {state blank : DiscoveryState}
    (inStep : InStep lower reply brought requested queue state
      blankRequested (path :: rest) blank)
    (closed : ¬ lower.isOpen reply path = true) :
    InStep lower reply brought requested queue state blankRequested rest blank :=
  ⟨inStep.informs, inStep.queue.trans (List.filter_cons_of_neg closed), inStep.requested⟩

/-- Where files come for the blank client by a path that is not open, the informed one has them. -/
theorem InStep.register_closed
    {record : List Exchange}
    (current : AreCurrent lower reply blankChannel blankUrl record)
    {requested queue blankRequested rest : List String}
    {path : String}
    {state blank : DiscoveryState}
    (inStep : InStep lower reply (record.flatMap Exchange.definitions) requested queue state
      blankRequested (path :: rest) blank)
    (closed : ¬ lower.isOpen reply path = true)
    (recorded : blankChannel.exchange blankUrl reply (.fileByFilename path) ∈ record)
    {history : List Exchange}
    {imports : List String}
    {blankLater : DiscoveryState}
    (registered : registerFiles (reply (.fileByFilename path)).files
      { blank with history := history } = .ok imports blankLater) :
    InStep lower reply (record.flatMap Exchange.definitions) requested queue state
      (unrequested blankRequested imports ++ blankRequested)
      (rest ++ unrequested blankRequested imports) blankLater := by
  have contained := current.of_closed closed recorded
  have informs := informs_registerFiles_blank
    (inStep.of_history state.history history).informs (definitions_subset_of_mem recorded)
    contained
  rw [registered] at informs
  have noneOpen : imports.filter (lower.isOpen reply) = [] := by
    rw [missing_of_registerFiles registered]
    exact filter_isMissing_of_current contained blankLater.index
  exact (inStep.skip closed).join_blank informs noneOpen

include answers

/-- Where the blank client comes to an open path, so does the informed one. -/
theorem InStep.exists_advance
    {requested queue blankRequested rest : List String}
    {path : String}
    {state blank : DiscoveryState}
    (inStep : InStep lower reply brought requested queue state
      blankRequested (path :: rest) blank)
    (isOpen : lower.isOpen reply path = true) :
    ∃ others history,
      fetchImports channel requested queue state =
        fetchImports channel requested (path :: others) { state with history := history } ∧
      InStep lower reply brought requested others { state with history := history }
        blankRequested rest blank := by
  obtain ⟨others, history, same, passed⟩ := exists_fetchImports_of_first_open answers
    (inStep.queue.trans (List.filter_cons_of_pos isOpen)) inStep.has requested
  exact ⟨others, history, passed,
    ⟨inStep.informs.isOver, inStep.informs.brought⟩, same, inStep.requested⟩

/-- Where files come for the blank client by an open path, they come for the informed one. -/
theorem InStep.exists_registers
    {requested queue blankRequested rest : List String}
    {path : String}
    {state blank : DiscoveryState}
    (inStep : InStep lower reply brought requested queue state
      blankRequested (path :: rest) blank)
    (isOpen : lower.isOpen reply path = true)
    (unknown : ¬ blank.index.hasFile path = true)
    {files : List Bytes}
    {timeout : Nat}
    (came : ((reply (.fileByFilename path)).answer blankUrl timeout).bind
      ReflectionAnswer.files = .ok files)
    (blankHistory : List Exchange) :
    ∃ others later,
      fetchImports channel requested queue state =
        (match registerFiles files later with
        | .error failure last =>
            .error failure last
        | .ok imports last =>
            fetchImports channel (unrequested requested imports ++ requested)
              (others ++ unrequested requested imports) last) ∧
      InStep lower reply brought requested others later
        blankRequested rest { blank with history := blankHistory } := by
  obtain ⟨others, history, advanced, later⟩ := inStep.exists_advance answers isOpen
  have lacks := ((TypeIndex.isOpen_iff lower reply path).mp isOpen).1
  have unknownAlso : ¬ state.index.hasFile path = true := by
    rw [inStep.informs.isOver.files, not_or]
    exact ⟨unknown, lacks⟩
  have asked := answers.ask (.fileByFilename path) ReflectionAnswer.files history
  rw [ReflectionReply.answer_eq_ok came url channel.timeout] at asked
  have registers := @fetchImports_of_ok channel path { state with history := history } files _
    unknownAlso asked requested others
  exact ⟨others, _, advanced.trans registers, later.of_history _ blankHistory⟩

include blankAnswers

/--
Clients that are in step fetch imports alike, by induction on what the blank one does.

A path that is not open keeps the informed client where it is, for what comes for the
blank one is in the index already.
-/
theorem exists_endAlike_fetchImports
    {record : List Exchange}
    (current : AreCurrent lower reply blankChannel blankUrl record)
    (blankRequested blankQueue : List String)
    (blank : DiscoveryState) :
    ∃ exchanges,
      (stateAfter (fetchImports blankChannel blankRequested blankQueue blank)).history =
        blank.history ++ exchanges ∧
      (exchanges ⊆ record → ∀ requested queue state,
        InStep lower reply (record.flatMap Exchange.definitions) requested queue state
          blankRequested blankQueue blank →
        EndAlike lower (record.flatMap Exchange.definitions)
          (fetchImports channel requested queue state)
          (fetchImports blankChannel blankRequested blankQueue blank)) := by
  fun_induction fetchImports blankChannel blankRequested blankQueue blank with
  | case1 blankRequested blank =>
      refine ⟨[], (List.append_nil _).symm, ?_⟩
      intro _ requested queue state inStep
      obtain ⟨history, done⟩ :=
        exists_fetchImports_of_none_open answers inStep.queue inStep.has requested
      rw [done]
      exact .ok ⟨inStep.informs.isOver, inStep.informs.brought⟩
  | case2 blankRequested blank path rest known inductionHypothesis =>
      obtain ⟨exchanges, grown, alike⟩ := inductionHypothesis
      refine ⟨exchanges, grown, ?_⟩
      intro recorded requested queue state inStep
      by_cases isOpen : lower.isOpen reply path = true
      · obtain ⟨others, history, advanced, later⟩ := inStep.exists_advance answers isOpen
        have knownAlso := (later.informs.isOver.files path).mpr (.inl known)
        rw [advanced, fetchImports_of_known knownAlso]
        exact alike recorded requested others _ later
      · exact alike recorded requested queue state (inStep.skip isOpen)
  | case3 blankRequested blank path rest unknown failure history asked inductionHypothesis =>
      obtain ⟨exchanges, grown, alike⟩ := inductionHypothesis
      obtain ⟨refused, rfl⟩ := blankAnswers.of_ask asked
      have closed : ¬ lower.isOpen reply path = true := by
        rw [TypeIndex.isOpen_iff, not_and, not_not]
        exact fun _ => files_eq_nil_of_answer refused
      refine ⟨_ :: exchanges, by rw [grown, List.append_assoc, List.singleton_append], ?_⟩
      intro recorded requested queue state inStep
      exact alike (List.cons_subset.mp recorded).2 requested queue state
        ((inStep.skip closed).of_history state.history _)
  | case4 blankRequested blank path rest unknown files history asked failure blankLater registered =>
      obtain ⟨came, rfl⟩ := blankAnswers.of_ask asked
      obtain rfl := files_eq_of_answer came
      have grown := registerFiles_history (reply (.fileByFilename path)).files
        { blank with history := blank.history ++
          [blankChannel.exchange blankUrl reply (.fileByFilename path)] }
      rw [registered] at grown
      refine ⟨_, grown, ?_⟩
      intro recorded requested queue state inStep
      have isBrought := definitions_subset_of_mem (recorded List.mem_cons_self)
      by_cases isOpen : lower.isOpen reply path = true
      · obtain ⟨others, later, registers, laterInStep⟩ :=
          inStep.exists_registers answers isOpen unknown came
            (blank.history ++ [blankChannel.exchange blankUrl reply (.fileByFilename path)])
        obtain ⟨last, failed, informs⟩ :=
          exists_registerFiles_error laterInStep.informs isBrought registered
        rw [registers, failed]
        exact .error informs
      · have readable := current.allReadable_of_closed isOpen (recorded List.mem_cons_self)
        obtain ⟨missing, cache, registeredAlso, _⟩ := registerFiles_of_allReadable readable _
        rw [registered] at registeredAlso
        cases registeredAlso
  | case5 blankRequested blank path rest unknown files history asked imports blankLater registered _
      inductionHypothesis =>
      obtain ⟨exchanges, grownFurther, alike⟩ := inductionHypothesis
      obtain ⟨came, rfl⟩ := blankAnswers.of_ask asked
      obtain rfl := files_eq_of_answer came
      have grown := registerFiles_history (reply (.fileByFilename path)).files
        { blank with history := blank.history ++
          [blankChannel.exchange blankUrl reply (.fileByFilename path)] }
      rw [registered] at grown
      change blankLater.history = _ at grown
      refine ⟨_ :: exchanges, by
        rw [grownFurther, grown, List.append_assoc, List.singleton_append], ?_⟩
      intro recorded requested queue state inStep
      obtain ⟨isRecorded, recordedFurther⟩ := List.cons_subset.mp recorded
      have isBrought := definitions_subset_of_mem isRecorded
      by_cases isOpen : lower.isOpen reply path = true
      · obtain ⟨others, later, registers, laterInStep⟩ :=
          inStep.exists_registers answers isOpen unknown came
            (blank.history ++ [blankChannel.exchange blankUrl reply (.fileByFilename path)])
        obtain ⟨missing, last, succeeded, informs, same⟩ :=
          exists_registerFiles_ok reply laterInStep.informs isBrought registered
        rw [registers, succeeded]
        exact alike recordedFurther _ _ last (laterInStep.join informs same)
      · exact alike recordedFurther requested queue state
          (inStep.register_closed current isOpen isRecorded registered)

/-! ## Fetching services -/

omit answers blankAnswers

/--
Two actions go alike if, where the one client is informed about the blank one before,
it is so after them.

All that the blank client exchanges has to be on record for that.
-/
def GoAlike
    (lower : TypeIndex)
    (record : List Exchange)
    (action blankAction : Discovery Unit) :
    Prop :=
  ∀ blank : DiscoveryState, ∃ exchanges,
    (stateAfter (blankAction blank)).history = blank.history ++ exchanges ∧
    (exchanges ⊆ record → ∀ state : DiscoveryState,
      state.Informs blank lower (record.flatMap Exchange.definitions) →
      EndAlike lower (record.flatMap Exchange.definitions) (action state) (blankAction blank))

/-- Actions that go alike do so one after the other. -/
theorem GoAlike.bind
    {record : List Exchange}
    {action blankAction : Discovery Unit}
    (first : GoAlike lower record action blankAction)
    {next blankNext : Unit → Discovery Unit}
    (second : GoAlike lower record (next ()) (blankNext ())) :
    GoAlike lower record (action >>= next) (blankAction >>= blankNext) := by
  intro blank
  obtain ⟨exchanges, grown, alike⟩ := first blank
  cases blankRan : blankAction blank with
  | error failure blankLater =>
      rw [blankRan] at grown alike
      rw [bind_of_error blankRan]
      refine ⟨exchanges, grown, fun recorded state informs => ?_⟩
      obtain ⟨other, later, ran, informsLater⟩ := (alike recorded state informs).exists_error
      rw [bind_of_error ran]
      exact .error informsLater
  | ok _ blankMiddle =>
      rw [blankRan] at grown alike
      rw [bind_of_ok blankRan]
      obtain ⟨others, grownFurther, alikeFurther⟩ := second blankMiddle
      change blankMiddle.history = blank.history ++ exchanges at grown
      rw [grown, List.append_assoc] at grownFurther
      refine ⟨exchanges ++ others, grownFurther, fun recorded state informs => ?_⟩
      rw [List.append_subset] at recorded
      obtain ⟨middle, ran, informsMiddle⟩ := (alike recorded.1 state informs).exists_ok
      rw [bind_of_ok ran]
      exact alikeFurther recorded.2 middle informsMiddle

include answers blankAnswers

/-- Clients fetch the files of a service alike. -/
theorem goAlike_fetchService
    {record : List Exchange}
    (current : AreCurrent lower reply blankChannel blankUrl record)
    (name : String) :
    GoAlike lower record (fetchService channel name) (fetchService blankChannel name) := by
  intro blank
  have askedBlank :=
    blankAnswers.ask (.fileContainingSymbol name) ReflectionAnswer.files blank.history
  have asked (state : DiscoveryState) :=
    answers.ask (.fileContainingSymbol name) ReflectionAnswer.files state.history
  cases answered : ((reply (.fileContainingSymbol name)).answer blankUrl
      blankChannel.timeout).bind ReflectionAnswer.files with
  | error failure =>
      obtain ⟨other, answeredAlso⟩ :=
        ReflectionReply.answer_eq_error answered url channel.timeout
      rw [answered] at askedBlank
      rw [fetchService_of_error askedBlank]
      refine ⟨[_], rfl, fun _ state informs => ?_⟩
      have askedAlso := asked state
      rw [answeredAlso] at askedAlso
      rw [fetchService_of_error askedAlso]
      exact .error ⟨informs.isOver, informs.brought⟩
  | ok files =>
      obtain rfl := files_eq_of_answer answered
      rw [answered] at askedBlank
      rw [fetchService_of_ok askedBlank]
      have grown := registerFiles_history (reply (.fileContainingSymbol name)).files
        { blank with history := blank.history ++
          [blankChannel.exchange blankUrl reply (.fileContainingSymbol name)] }
      have askedAlso (state : DiscoveryState) :
          channel.filesDefining name state.history =
            (.ok (reply (.fileContainingSymbol name)).files,
              state.history ++ [channel.exchange url reply (.fileContainingSymbol name)]) := by
        rw [← ReflectionReply.answer_eq_ok answered url channel.timeout]
        exact asked state
      cases registered : registerFiles (reply (.fileContainingSymbol name)).files
          { blank with history := blank.history ++
            [blankChannel.exchange blankUrl reply (.fileContainingSymbol name)] } with
      | error failure blankLater =>
          rw [registered] at grown
          refine ⟨_, grown, fun recorded state informs => ?_⟩
          have isBrought := definitions_subset_of_mem (recorded List.mem_cons_self)
          obtain ⟨last, failed, informsLater⟩ := exists_registerFiles_error
            (informs.of_history (state.history ++
              [channel.exchange url reply (.fileContainingSymbol name)]) _) isBrought registered
          rw [fetchService_of_ok (askedAlso state), failed]
          exact .error informsLater
      | ok blankMissing blankLater =>
          rw [registered] at grown
          change blankLater.history = _ at grown
          obtain ⟨exchanges, grownFurther, alike⟩ :=
            exists_endAlike_fetchImports answers blankAnswers current blankMissing blankMissing
              blankLater
          refine ⟨_ :: exchanges, by
            rw [grownFurther, grown, List.append_assoc, List.singleton_append], ?_⟩
          intro recorded state informs
          obtain ⟨isRecorded, recordedFurther⟩ := List.cons_subset.mp recorded
          obtain ⟨missing, last, succeeded, informsLater, same⟩ := exists_registerFiles_ok reply
            (informs.of_history (state.history ++
              [channel.exchange url reply (.fileContainingSymbol name)]) _)
            (definitions_subset_of_mem isRecorded) registered
          rw [fetchService_of_ok (askedAlso state), succeeded]
          refine alike recordedFurther missing missing last ⟨informsLater, same, ?_⟩
          intro path isOpen
          have member := congrArg (path ∈ ·) same
          simpa [List.mem_filter, isOpen] using member

theorem goAlike_fetchServices
    {record : List Exchange}
    (current : AreCurrent lower reply blankChannel blankUrl record)
    (names : List String) :
    GoAlike lower record (fetchServices channel names) (fetchServices blankChannel names) := by
  induction names with
  | nil =>
      intro blank
      exact ⟨[], (List.append_nil _).symm, fun _ _ informs => .ok informs⟩
  | cons name rest inductionHypothesis =>
      exact (goAlike_fetchService answers blankAnswers current name).bind inductionHypothesis

/-! ## Attempts -/

omit answers blankAnswers

/-- Describing services changes nothing but the cache. -/
theorem exists_stateAfter_describeServices
    (maxDepth : Nat)
    (names : List String)
    (state : DiscoveryState) :
    ∃ cache, stateAfter (describeServices maxDepth names state) =
      { state with cache := cache } := by
  rcases describeServices_cases maxDepth names state with
    ⟨_, cache, _, ended⟩ | ⟨_, cache, ended, _⟩
  · exact ⟨cache, congrArg stateAfter ended⟩
  · exact ⟨cache, congrArg stateAfter ended⟩

/-- Apart from the cache, an attempt leaves what fetching the services leaves. -/
theorem exists_stateAfter_attempt
    {maxDepth : Nat}
    {state : DiscoveryState}
    {listed : List String}
    {history : List Exchange}
    (asked : channel.listServices state.history = (.ok listed, history)) :
    ∃ cache, stateAfter (attempt channel maxDepth state) =
      { stateAfter (fetchServices channel (describedNames listed)
          { state with history := history }) with cache := cache } := by
  rw [attempt_of_ok asked]
  cases fetched : fetchServices channel (describedNames listed)
      { state with history := history } with
  | error failure later =>
      exact ⟨later.cache, rfl⟩
  | ok _ later =>
      exact exists_stateAfter_describeServices maxDepth (describedNames listed) later

include answers blankAnswers

/-- After an attempt the one client is informed about the blank one, if it was before. -/
theorem exists_informs_attempt
    {record : List Exchange}
    (current : AreCurrent lower reply blankChannel blankUrl record)
    (maxDepth : Nat)
    (blank : DiscoveryState) :
    ∃ exchanges,
      (stateAfter (attempt blankChannel maxDepth blank)).history =
        blank.history ++ exchanges ∧
      (exchanges ⊆ record → ∀ state : DiscoveryState,
        state.Informs blank lower (record.flatMap Exchange.definitions) →
        (stateAfter (attempt channel maxDepth state)).Informs
          (stateAfter (attempt blankChannel maxDepth blank)) lower
          (record.flatMap Exchange.definitions)) := by
  have askedBlank := blankAnswers.ask .listServices ReflectionAnswer.listedServices blank.history
  have asked (state : DiscoveryState) :=
    answers.ask .listServices ReflectionAnswer.listedServices state.history
  cases answered : ((reply .listServices).answer blankUrl blankChannel.timeout).bind
      ReflectionAnswer.listedServices with
  | error failure =>
      obtain ⟨other, answeredAlso⟩ :=
        ReflectionReply.answer_eq_error answered url channel.timeout
      rw [answered] at askedBlank
      rw [attempt_of_error askedBlank]
      refine ⟨[_], rfl, fun _ state informs => ?_⟩
      have askedAlso := asked state
      rw [answeredAlso] at askedAlso
      rw [attempt_of_error askedAlso]
      exact informs.of_history _ _
  | ok listed =>
      rw [answered] at askedBlank
      obtain ⟨blankCache, blankLeft⟩ := @exists_stateAfter_attempt _ maxDepth _ _ _ askedBlank
      obtain ⟨exchanges, grown, alike⟩ :=
        goAlike_fetchServices answers blankAnswers current (describedNames listed)
          { blank with history := blank.history ++
            [blankChannel.exchange blankUrl reply .listServices] }
      rw [List.append_assoc, List.singleton_append] at grown
      rw [blankLeft]
      refine ⟨_, grown, fun recorded state informs => ?_⟩
      have askedAlso := asked state
      rw [ReflectionReply.answer_eq_ok answered url channel.timeout] at askedAlso
      obtain ⟨cache, left⟩ := @exists_stateAfter_attempt _ maxDepth _ _ _ askedAlso
      have fetched := (alike (List.cons_subset.mp recorded).2 _
        (informs.of_history (state.history ++ [channel.exchange url reply .listServices])
          (blank.history ++ [blankChannel.exchange blankUrl reply .listServices]))).informs
      rw [left]
      exact ⟨fetched.isOver, fetched.brought⟩

end Discovery

end GrpcDiscovery
