import GrpcDiscovery.Proofs.Discovery.Requests
import GrpcDiscovery.Proofs.Index.Lookup

namespace GrpcDiscovery

/-!
# Discovery by an informed client

Two clients put their queries to servers that answer them alike. One of them knows
an index already, and the other is blank. The informed client does not ask for files
that its index has, nor for what only these import, and so it falls short of the
requests of the blank one. Apart from that they do the same in the same order.

If the files that the informed client leaves out are the ones in its index, it ends
with the index of the blank client over the one that it knew. What carries this is
that their queues agree in the paths that are still open: those that the index lacks
and for which files come.
-/

/-- Requests can be sent through a channel, and the reply to a query is a function of it. -/
structure ReflectionChannel.AnswersBy
    (channel : ReflectionChannel)
    (url : Url)
    (reply : ReflectionQuery → ReflectionReply) :
    Prop where
  target : channel.target = .ok url
  replies : ∀ (history : List Exchange) (query : ReflectionQuery),
    channel.server.reply history ⟨url, query, channel.userAgent⟩ = reply query

/-- What is recorded of a query whose reply is a function of it. -/
def ReflectionChannel.exchange
    (channel : ReflectionChannel)
    (url : Url)
    (reply : ReflectionQuery → ReflectionReply)
    (query : ReflectionQuery) :
    Exchange :=
  ⟨⟨url, query, channel.userAgent⟩, reply query⟩

theorem ReflectionChannel.AnswersBy.ask
    {channel : ReflectionChannel}
    {url : Url}
    {reply : ReflectionQuery → ReflectionReply}
    (answers : channel.AnswersBy url reply)
    {α : Type}
    (query : ReflectionQuery)
    (pick : ReflectionAnswer → Except ReflectionError α)
    (history : List Exchange) :
    channel.ask query pick history =
      (((reply query).answer url channel.timeout).bind pick,
        history ++ [channel.exchange url reply query]) := by
  rw [ReflectionChannel.ask]
  simp only [answers.target, answers.replies, exchange]

theorem ReflectionChannel.AnswersBy.of_ask
    {channel : ReflectionChannel}
    {url : Url}
    {reply : ReflectionQuery → ReflectionReply}
    (answers : channel.AnswersBy url reply)
    {α : Type}
    {query : ReflectionQuery}
    {pick : ReflectionAnswer → Except ReflectionError α}
    {history later : List Exchange}
    {outcome : Except ReflectionError α}
    (asked : channel.ask query pick history = (outcome, later)) :
    ((reply query).answer url channel.timeout).bind pick = outcome ∧
      later = history ++ [channel.exchange url reply query] := by
  rw [answers.ask, Prod.mk.injEq] at asked
  exact ⟨asked.1, asked.2.symm⟩

/-- Whether an answer gives anything, and what, depends on neither address nor time limit. -/
theorem ReflectionReply.toOption_answer
    {α : Type}
    (reply : ReflectionReply)
    (pick : ReflectionAnswer → Except ReflectionError α)
    (url otherUrl : Url)
    (timeout otherTimeout : Nat) :
    ((reply.answer url timeout).bind pick).toOption =
      ((reply.answer otherUrl otherTimeout).bind pick).toOption := by
  cases reply <;> rfl

theorem ReflectionReply.answer_eq_ok
    {α : Type}
    {reply : ReflectionReply}
    {pick : ReflectionAnswer → Except ReflectionError α}
    {url : Url}
    {timeout : Nat}
    {value : α}
    (answered : (reply.answer url timeout).bind pick = .ok value)
    (otherUrl : Url)
    (otherTimeout : Nat) :
    (reply.answer otherUrl otherTimeout).bind pick = .ok value := by
  have same := reply.toOption_answer pick otherUrl url otherTimeout timeout
  rw [answered] at same
  cases answer : (reply.answer otherUrl otherTimeout).bind pick with
  | ok other =>
      rw [answer] at same
      rw [Option.some.inj same]
  | error failure =>
      rw [answer] at same
      cases same

theorem ReflectionReply.answer_eq_error
    {α : Type}
    {reply : ReflectionReply}
    {pick : ReflectionAnswer → Except ReflectionError α}
    {url : Url}
    {timeout : Nat}
    {failure : ReflectionError}
    (answered : (reply.answer url timeout).bind pick = .error failure)
    (otherUrl : Url)
    (otherTimeout : Nat) :
    ∃ other, (reply.answer otherUrl otherTimeout).bind pick = .error other := by
  cases answer : (reply.answer otherUrl otherTimeout).bind pick with
  | ok value =>
      rw [ReflectionReply.answer_eq_ok answer url timeout] at answered
      cases answered
  | error other =>
      exact ⟨other, rfl⟩

namespace Discovery

variable {channel : ReflectionChannel}

/-! What fetching imports comes to, by the path that is first in the queue. -/

theorem fetchImports_of_known
    {path : String}
    {state : DiscoveryState}
    (known : state.index.hasFile path = true)
    (requested rest : List String) :
    fetchImports channel requested (path :: rest) state =
      fetchImports channel requested rest state := by
  rw [fetchImports, if_pos known]

theorem fetchImports_of_error
    {path : String}
    {state : DiscoveryState}
    {failure : ReflectionError}
    {history : List Exchange}
    (unknown : ¬ state.index.hasFile path = true)
    (asked : channel.filesNamed path state.history = (.error failure, history))
    (requested rest : List String) :
    fetchImports channel requested (path :: rest) state =
      fetchImports channel requested rest { state with history := history } := by
  rw [fetchImports, if_neg unknown]
  split
  · rename_i askedAlso
    rw [asked] at askedAlso
    cases askedAlso
    rfl
  · rename_i askedAlso
    rw [asked] at askedAlso
    cases askedAlso

theorem fetchImports_of_ok
    {path : String}
    {state : DiscoveryState}
    {files : List Bytes}
    {history : List Exchange}
    (unknown : ¬ state.index.hasFile path = true)
    (asked : channel.filesNamed path state.history = (.ok files, history))
    (requested rest : List String) :
    fetchImports channel requested (path :: rest) state =
      match registerFiles files { state with history := history } with
      | .error failure later =>
          .error failure later
      | .ok imports later =>
          fetchImports channel (unrequested requested imports ++ requested)
            (rest ++ unrequested requested imports) later := by
  rw [fetchImports, if_neg unknown]
  split
  · rename_i askedAlso
    rw [asked] at askedAlso
    cases askedAlso
  · rename_i askedAlso
    rw [asked] at askedAlso
    cases askedAlso
    split
    · rename_i registered
      simp only [registered]
    · rename_i registered
      simp only [registered]

/-! ## Names that join the queue -/

theorem mem_unrequested_iff
    {name : String}
    {requested names : List String} :
    name ∈ unrequested requested names ↔ name ∈ names ∧ name ∉ requested := by
  induction names generalizing requested with
  | nil =>
      simp [unrequested]
  | cons first rest inductionHypothesis =>
      rw [unrequested]
      split
      · rename_i asked
        rw [inductionHypothesis, List.mem_cons]
        constructor
        · rintro ⟨member, fresh⟩
          exact ⟨.inr member, fresh⟩
        · rintro ⟨rfl | member, fresh⟩
          · exact absurd asked fresh
          · exact ⟨member, fresh⟩
      · rename_i fresh
        rw [List.mem_cons, inductionHypothesis, List.mem_cons, List.mem_cons, not_or]
        constructor
        · rintro (rfl | ⟨member, _, freshAlso⟩)
          · exact ⟨.inl rfl, fresh⟩
          · exact ⟨.inr member, freshAlso⟩
        · rintro ⟨rfl | member, freshAlso⟩
          · exact .inl rfl
          · by_cases same : name = first
            · exact .inl same
            · exact .inr ⟨member, same, freshAlso⟩

/-- Of the names that join, those of some kind depend on the requested names of this kind only. -/
theorem filter_unrequested
    (isKind : String → Bool)
    {requested others : List String}
    (agree : ∀ name, isKind name = true → (name ∈ requested ↔ name ∈ others))
    (names : List String) :
    (unrequested requested names).filter isKind =
      unrequested others (names.filter isKind) := by
  induction names generalizing requested others with
  | nil =>
      rfl
  | cons name rest inductionHypothesis =>
      rw [unrequested]
      by_cases kind : isKind name = true
      · rw [List.filter_cons_of_pos kind, unrequested]
        by_cases asked : name ∈ requested
        · rw [if_pos asked, if_pos ((agree name kind).mp asked)]
          exact inductionHypothesis agree
        · rw [if_neg asked, if_neg (asked ∘ (agree name kind).mpr), List.filter_cons_of_pos kind]
          congr 1
          apply inductionHypothesis
          intro other kindOther
          rw [List.mem_cons, List.mem_cons, agree other kindOther]
      · rw [List.filter_cons_of_neg kind]
        by_cases asked : name ∈ requested
        · rw [if_pos asked]
          exact inductionHypothesis agree
        · rw [if_neg asked, List.filter_cons_of_neg kind]
          apply inductionHypothesis
          intro other kindOther
          have different : other ≠ name := by
            rintro rfl
            exact kind kindOther
          rw [List.mem_cons, or_iff_right different, agree other kindOther]

/-! ## What is registered -/

/-- Whatever comes of registering files, the readable ones are in the index then. -/
theorem registerFiles_index
    (files : List Bytes)
    (state : DiscoveryState) :
    (stateAfter (registerFiles files state)).index =
      state.index.registerEach (readable files) := by
  by_cases allReadable : AllReadable files
  · obtain ⟨missing, cache, registered, _⟩ := registerFiles_of_allReadable allReadable state
    rw [registered]
    rfl
  · obtain ⟨failure, registered⟩ := registerFiles_of_not_allReadable allReadable state
    rw [registered]
    rfl

theorem registerFiles_nil (state : DiscoveryState) : registerFiles [] state = .ok [] state :=
  rfl

/-- What is missing are the imports of the files that the index lacks then. -/
theorem missing_of_registerFiles
    {files : List Bytes}
    {state later : DiscoveryState}
    {missing : List String}
    (registered : registerFiles files state = .ok missing later) :
    missing = (files.flatMap importsOf).filter (isMissing later.index) := by
  rw [registerFiles] at registered
  cases each : registerEach files state with
  | error failure next =>
      rw [each] at registered
      cases registered
  | ok result next =>
      obtain ⟨imports, replaced⟩ := result
      rw [each] at registered
      cases registered
      rw [imports_of_registerEach each]

end Discovery

/-- The definitions in the files that a reply brought. -/
def Exchange.definitions (exchange : Exchange) : List Definition :=
  (Discovery.readable exchange.reply.files).flatMap FileDescriptor.definitions

/--
A path is open for a client that knows an index: the file is not there, and the
reply to a query for it brings files.
-/
def TypeIndex.isOpen
    (lower : TypeIndex)
    (reply : ReflectionQuery → ReflectionReply)
    (path : String) :
    Bool :=
  !lower.hasFile path && !(reply (.fileByFilename path)).files.isEmpty

theorem TypeIndex.isOpen_iff
    (lower : TypeIndex)
    (reply : ReflectionQuery → ReflectionReply)
    (path : String) :
    lower.isOpen reply path = true ↔
      ¬ lower.hasFile path = true ∧ (reply (.fileByFilename path)).files ≠ [] := by
  simp [isOpen]

/-- For a path that is not open, though the index lacks the file, nothing comes. -/
theorem TypeIndex.files_eq_nil_of_closed
    {lower : TypeIndex}
    {reply : ReflectionQuery → ReflectionReply}
    {path : String}
    (closed : ¬ lower.isOpen reply path = true)
    (unknown : ¬ lower.hasFile path = true) :
    (reply (.fileByFilename path)).files = [] := by
  rw [isOpen_iff, not_and, not_not] at closed
  exact closed unknown

/--
A file is in an index as it is.

No other file that was brought may define the same names in another way, and what the
file imports must not be open.
-/
structure TypeIndex.IsCurrent
    (lower : TypeIndex)
    (reply : ReflectionQuery → ReflectionReply)
    (brought : List Definition)
    (file : FileDescriptor) :
    Prop where
  contains : lower.Contains file
  alone : ∀ definition ∈ file.definitions, ∀ other ∈ brought,
    other.kind = definition.kind → other.fullName = definition.fullName → other = definition
  imports : ∀ path ∈ file.dependencies,
    Discovery.isBundled path = true ∨ ¬ lower.isOpen reply path = true

instance (lower : TypeIndex) (reply : ReflectionQuery → ReflectionReply)
    (brought : List Definition) (file : FileDescriptor) :
    Decidable (lower.IsCurrent reply brought file) :=
  decidable_of_iff (lower.Contains file ∧
    (∀ definition ∈ file.definitions, ∀ other ∈ brought,
      other.kind = definition.kind → other.fullName = definition.fullName → other = definition) ∧
    ∀ path ∈ file.dependencies,
      Discovery.isBundled path = true ∨ ¬ lower.isOpen reply path = true)
    ⟨fun current => ⟨current.1, current.2.1, current.2.2⟩, fun current =>
      ⟨current.contains, current.alone, current.imports⟩⟩

/-- Bytes can be read as a file that an index has as it is. -/
def TypeIndex.HasCurrent
    (index : TypeIndex)
    (reply : ReflectionQuery → ReflectionReply)
    (brought : List Definition)
    (bytes : Bytes) :
    Prop :=
  ∃ file, FileDescriptor.decode bytes = .ok file ∧ index.IsCurrent reply brought file

instance (index : TypeIndex) (reply : ReflectionQuery → ReflectionReply)
    (brought : List Definition) (bytes : Bytes) :
    Decidable (index.HasCurrent reply brought bytes) :=
  match decoded : FileDescriptor.decode bytes with
  | .ok file =>
      decidable_of_iff (index.IsCurrent reply brought file)
        (by simp [TypeIndex.HasCurrent, decoded])
  | .error _ =>
      .isFalse (by simp [TypeIndex.HasCurrent, decoded])

/-- What an informed client knows: what the blank one does, over the index from before. -/
structure DiscoveryState.Informs
    (state blank : DiscoveryState)
    (lower : TypeIndex)
    (brought : List Definition) :
    Prop where
  isOver : state.index.IsOver blank.index lower
  brought : ∀ definition, blank.index.Holds definition → definition ∈ brought

/-- A client is informed about one that knows no definition yet, over its own index. -/
theorem DiscoveryState.informs_of_empty
    (state : DiscoveryState)
    {blank : DiscoveryState}
    (empty : blank.index = .empty)
    (brought : List Definition) :
    state.Informs blank state.index brought where
  isOver := by
    rw [empty]
    exact state.index.isOver_empty
  brought := by
    intro definition held
    rw [empty] at held
    cases definition <;> simp [TypeIndex.Holds, TypeIndex.empty] at held

theorem DiscoveryState.Informs.of_history
    {state blank : DiscoveryState}
    {lower : TypeIndex}
    {brought : List Definition}
    (informs : state.Informs blank lower brought)
    (history blankHistory : List Exchange) :
    { state with history := history : DiscoveryState }.Informs
      { blank with history := blankHistory } lower brought :=
  ⟨informs.isOver, informs.brought⟩

namespace Discovery

variable {lower : TypeIndex} {brought : List Definition} {reply : ReflectionQuery → ReflectionReply}

/-- Both clients register the same files. -/
theorem informs_registerFiles
    {state blank : DiscoveryState}
    (informs : state.Informs blank lower brought)
    {files : List Bytes}
    (isBrought : (readable files).flatMap FileDescriptor.definitions ⊆ brought) :
    (stateAfter (registerFiles files state)).Informs (stateAfter (registerFiles files blank))
      lower brought where
  isOver := by
    rw [registerFiles_index, registerFiles_index]
    exact informs.isOver.registerEach (readable files)
  brought := by
    intro definition held
    rw [registerFiles_index] at held
    exact (TypeIndex.holds_of_registerEach held).elim (fun member => isBrought member)
      (informs.brought definition)

/-- The blank client registers files that the informed one has already. -/
theorem informs_registerFiles_blank
    {state blank : DiscoveryState}
    (informs : state.Informs blank lower brought)
    {files : List Bytes}
    (isBrought : (readable files).flatMap FileDescriptor.definitions ⊆ brought)
    (current : ∀ bytes ∈ files, lower.HasCurrent reply brought bytes) :
    state.Informs (stateAfter (registerFiles files blank)) lower brought where
  isOver := by
    rw [registerFiles_index]
    refine informs.isOver.registerEach_upper fun file member => ?_
    obtain ⟨bytes, inside, decoded⟩ := exists_decode_of_mem_readable member
    obtain ⟨other, decodedAlso, isCurrent⟩ := current bytes inside
    obtain rfl := Except.ok.inj (decoded.symm.trans decodedAlso)
    refine ⟨(informs.isOver.files file.name).mpr (.inr isCurrent.contains.path), ?_⟩
    intro definition defined
    refine informs.isOver.holds_of_lower (isCurrent.contains.definitions definition defined) ?_
    intro other held
    exact isCurrent.alone definition defined other (informs.brought other held)
  brought := by
    intro definition held
    rw [registerFiles_index] at held
    exact (TypeIndex.holds_of_registerEach held).elim (fun member => isBrought member)
      (informs.brought definition)

/-- Two outcomes of the same kind, after which the one client is informed about the other. -/
inductive EndAlike
    (lower : TypeIndex)
    (brought : List Definition) :
    EStateM.Result ReflectionError DiscoveryState Unit →
    EStateM.Result ReflectionError DiscoveryState Unit →
    Prop where
  | ok
      {later blankLater : DiscoveryState}
      (informs : later.Informs blankLater lower brought) :
      EndAlike lower brought (.ok () later) (.ok () blankLater)
  | error
      {later blankLater : DiscoveryState}
      {failure blankFailure : ReflectionError}
      (informs : later.Informs blankLater lower brought) :
      EndAlike lower brought (.error failure later) (.error blankFailure blankLater)

theorem EndAlike.informs
    {result blankResult : EStateM.Result ReflectionError DiscoveryState Unit}
    (alike : EndAlike lower brought result blankResult) :
    (stateAfter result).Informs (stateAfter blankResult) lower brought := by
  cases alike with
  | ok informs =>
      exact informs
  | error informs =>
      exact informs

theorem EndAlike.exists_ok
    {result : EStateM.Result ReflectionError DiscoveryState Unit}
    {blankLater : DiscoveryState}
    (alike : EndAlike lower brought result (.ok () blankLater)) :
    ∃ later, result = .ok () later ∧ later.Informs blankLater lower brought := by
  cases alike with
  | ok informs =>
      exact ⟨_, rfl, informs⟩

theorem EndAlike.exists_error
    {result : EStateM.Result ReflectionError DiscoveryState Unit}
    {blankFailure : ReflectionError}
    {blankLater : DiscoveryState}
    (alike : EndAlike lower brought result (.error blankFailure blankLater)) :
    ∃ failure later, result = .error failure later ∧ later.Informs blankLater lower brought := by
  cases alike with
  | error informs =>
      exact ⟨_, _, rfl, informs⟩

end Discovery

end GrpcDiscovery
