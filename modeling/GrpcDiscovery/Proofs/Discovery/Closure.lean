import GrpcDiscovery.Proofs.Discovery.Latest
import Mathlib.Data.List.Dedup
import Mathlib.Data.List.Perm.Subperm

namespace GrpcDiscovery

/-!
# Imports are fetched until there are none left

Fetching imports works through a queue of paths that grows while it runs. A path joins
the queue the first time that a file which came imports it, and a path in the queue is
asked for unless its file is there by then. So there are no more requests than paths in
the queue at first and names that are imported by what comes, whatever a server sends
for a path, and however the files import one another.

When the queue has run dry, every path that was in it, and every import of a file that
was registered, is bundled or indexed, or it was asked for and did not come.
-/

/-- The files that an exchange brought: those of the reply, up to the first that cannot be read. -/
def Exchange.brought (exchange : Exchange) : List FileDescriptor :=
  Discovery.readable exchange.reply.files

/-- The paths that the files which exchanges brought import. -/
def Exchange.imports (exchanges : List Exchange) : List String :=
  (exchanges.flatMap Exchange.brought).flatMap FileDescriptor.dependencies

/-- Files stay registered while others are registered. -/
theorem TypeIndex.hasFile_registerEach
    {index : TypeIndex}
    {path : String}
    (known : index.hasFile path = true)
    (files : List FileDescriptor) :
    (index.registerEach files).hasFile path = true := by
  induction files generalizing index with
  | nil =>
      exact known
  | cons file rest inductionHypothesis =>
      apply inductionHypothesis
      rw [hasFile_register_iff]
      exact .inr known

namespace Discovery

/--
Exchanges ask for files by paths that are missing, each time in the index that the files
before have left, and so lead from one index to another.
-/
inductive AsksForMissing : TypeIndex → List Exchange → TypeIndex → Prop where
  | done
      {index : TypeIndex} :
      AsksForMissing index [] index
  | next
      {index later : TypeIndex}
      {path : String}
      {exchange : Exchange}
      {others : List Exchange}
      (query : exchange.request.query = .fileByFilename path)
      (missing : isMissing index path = true)
      (further : AsksForMissing (index.registerEach exchange.brought) others later) :
      AsksForMissing index (exchange :: others) later

theorem AsksForMissing.hasFile
    {index later : TypeIndex}
    {exchanges : List Exchange}
    (asks : AsksForMissing index exchanges later)
    {path : String}
    (known : index.hasFile path = true) :
    later.hasFile path = true := by
  induction asks with
  | done =>
      exact known
  | next _ _ _ inductionHypothesis =>
      apply inductionHypothesis
      exact TypeIndex.hasFile_registerEach known _

/-- A path is settled: its file is bundled or indexed, or it was asked for. -/
def IsSettled
    (index : TypeIndex)
    (exchanges : List Exchange)
    (path : String) :
    Prop :=
  isBundled path = true ∨ index.hasFile path = true ∨
    ∃ exchange ∈ exchanges, exchange.request.query = .fileByFilename path

theorem IsSettled.cons
    {index : TypeIndex}
    {exchanges : List Exchange}
    {path : String}
    (settled : IsSettled index exchanges path)
    (exchange : Exchange) :
    IsSettled index (exchange :: exchanges) path := by
  rcases settled with bundled | known | ⟨other, member, query⟩
  · exact .inl bundled
  · exact .inr (.inl known)
  · exact .inr (.inr ⟨other, List.mem_cons_of_mem exchange member, query⟩)

/-- A path that is not missing is bundled or indexed. -/
theorem isMissing_eq_false_iff
    (index : TypeIndex)
    (path : String) :
    isMissing index path = false ↔ isBundled path = true ∨ index.hasFile path = true := by
  cases bundled : isBundled path <;> simp [isMissing, bundled]

theorem isMissing_of_unknown
    {index : TypeIndex}
    {path : String}
    (ordinary : isBundled path = false)
    (unknown : ¬ index.hasFile path = true) :
    isMissing index path = true := by
  rw [Bool.not_eq_true] at unknown
  rw [isMissing, ordinary, unknown]
  rfl

/-- Files that were registered without a failure can all be read. -/
theorem allReadable_of_registerFiles
    {files : List Bytes}
    {state later : DiscoveryState}
    {imports : List String}
    (registered : registerFiles files state = .ok imports later) :
    AllReadable files := by
  by_contra unreadable
  obtain ⟨failure, failed⟩ := registerFiles_of_not_allReadable unreadable state
  rw [failed] at registered
  cases registered

/-- Files that can all be read import what each of them does. -/
theorem flatMap_dependencies_readable
    {files : List Bytes}
    (allReadable : AllReadable files) :
    (readable files).flatMap FileDescriptor.dependencies = files.flatMap importsOf := by
  induction files with
  | nil =>
      rfl
  | cons bytes rest inductionHypothesis =>
      rw [AllReadable, List.forall_mem_cons] at allReadable
      obtain ⟨⟨file, decoded⟩, readableRest⟩ := allReadable
      simp only [readable, decoded, List.flatMap_cons, importsOf, inductionHypothesis readableRest]

/-- What registering files leaves missing is missing in the index that it leaves. -/
theorem isMissing_of_mem_missing
    {files : List Bytes}
    {state later : DiscoveryState}
    {missing : List String}
    (registered : registerFiles files state = .ok missing later)
    {path : String}
    (member : path ∈ missing) :
    isMissing later.index path = true := by
  rw [missing_of_registerFiles registered] at member
  exact (List.mem_filter.mp member).2

/-- It is not bundled, then. -/
theorem isBundled_of_mem_missing
    {files : List Bytes}
    {state later : DiscoveryState}
    {missing : List String}
    (registered : registerFiles files state = .ok missing later)
    {path : String}
    (member : path ∈ missing) :
    isBundled path = false := by
  have lacks := isMissing_of_mem_missing registered member
  rw [isMissing, Bool.and_eq_true] at lacks
  exact (Bool.not_eq_true' _).mp lacks.1

variable {channel : ReflectionChannel}

/-- A query for a file is not sent for want of an address, or it adds one exchange. -/
theorem filesNamed_cases
    {path : String}
    {history later : List Exchange}
    {outcome : Except ReflectionError (List Bytes)}
    (asked : channel.filesNamed path history = (outcome, later)) :
    (∃ failure, channel.target = .error failure ∧ outcome = .error failure ∧ later = history) ∨
    ∃ exchange, channel.target.isOk = true ∧ later = history ++ [exchange] ∧
      exchange.request.query = .fileByFilename path ∧
      exchange.reply ∈ channel.server.replies ∧
      exchange.reply.files = outcome.toOption.getD [] := by
  cases target : channel.target with
  | error failure =>
      rw [ReflectionChannel.filesNamed, ReflectionChannel.ask, target] at asked
      cases asked
      exact .inl ⟨failure, rfl, rfl, rfl⟩
  | ok url =>
      simp only [ReflectionChannel.filesNamed, ReflectionChannel.ask, target,
        Prod.mk.injEq] at asked
      obtain ⟨answered, grown⟩ := asked
      refine .inr ⟨_, rfl, grown.symm, rfl, channel.server.reply_mem _ _, ?_⟩
      cases outcome with
      | error failure =>
          exact files_eq_nil_of_answer answered
      | ok files =>
          exact files_eq_of_answer answered

/--
How fetching imports goes: by exchanges that ask for missing paths only, of which there
are no more than paths in the queue and imported names that were not asked for before.

If it works, what was in the queue is settled, and so is all that was imported, apart
from what had been asked for before.
-/
structure FetchesMissing
    (channel : ReflectionChannel)
    (requested queue : List String)
    (state : DiscoveryState)
    (result : EStateM.Result ReflectionError DiscoveryState Unit)
    (exchanges : List Exchange) :
    Prop where
  history : (stateAfter result).history = state.history ++ exchanges
  asks : AsksForMissing state.index exchanges (stateAfter result).index
  replies : ∀ exchange ∈ exchanges, exchange.reply ∈ channel.server.replies
  few : ∀ names, Exchange.imports exchanges ⊆ names →
    exchanges.length ≤ queue.length + remaining names requested
  queued : channel.target.isOk = true → failure? result = none →
    ∀ path ∈ queue, IsSettled (stateAfter result).index exchanges path
  imported : channel.target.isOk = true → failure? result = none →
    ∀ path ∈ Exchange.imports exchanges,
      IsSettled (stateAfter result).index exchanges path ∨ path ∈ requested

namespace FetchesMissing

variable {requested rest : List String} {path : String} {state : DiscoveryState}
variable {result : EStateM.Result ReflectionError DiscoveryState Unit}
variable {exchanges : List Exchange}

/-- With nothing in the queue there is nothing to do. -/
theorem nothing
    (channel : ReflectionChannel)
    (requested : List String)
    (state : DiscoveryState) :
    FetchesMissing channel requested [] state (.ok () state) [] where
  history := (List.append_nil state.history).symm
  asks := .done
  replies exchange member := by
    cases member
  few names _ := Nat.zero_le _
  queued _ _ path member := by
    cases member
  imported _ _ path member := by
    cases member

/-- A path whose file is there is passed over. -/
theorem skip
    (known : state.index.hasFile path = true)
    (fetches : FetchesMissing channel requested rest state result exchanges) :
    FetchesMissing channel requested (path :: rest) state result exchanges where
  history := fetches.history
  asks := fetches.asks
  replies := fetches.replies
  few names within := by
    have few := fetches.few names within
    rw [List.length_cons]
    omega
  queued reached worked other member := by
    rcases List.mem_cons.mp member with rfl | inRest
    · exact .inr (.inl (fetches.asks.hasFile known))
    · exact fetches.queued reached worked other inRest
  imported := fetches.imported

/-- A path is passed over as well if no request can be sent. -/
theorem skip_unsent
    {failure : ReflectionError}
    (unsent : channel.target = .error failure)
    (fetches : FetchesMissing channel requested rest state result exchanges) :
    FetchesMissing channel requested (path :: rest) state result exchanges where
  history := fetches.history
  asks := fetches.asks
  replies := fetches.replies
  few names within := by
    have few := fetches.few names within
    rw [List.length_cons]
    omega
  queued reached := by
    rw [unsent] at reached
    cases reached
  imported := fetches.imported

variable {exchange : Exchange} (query : exchange.request.query = .fileByFilename path)
variable (missing : isMissing state.index path = true)
variable (replied : exchange.reply ∈ channel.server.replies)

include query missing replied

/-- A path for which nothing comes has been asked for. -/
theorem nextUnanswered
    (nothingBrought : exchange.reply.files = [])
    (fetches : FetchesMissing channel requested rest
      { state with history := state.history ++ [exchange] } result exchanges) :
    FetchesMissing channel requested (path :: rest) state result (exchange :: exchanges) where
  history := by
    rw [fetches.history, List.append_assoc, List.singleton_append]
  asks := by
    refine .next query missing ?_
    rw [Exchange.brought, nothingBrought]
    exact fetches.asks
  replies := List.forall_mem_cons.mpr ⟨replied, fetches.replies⟩
  few names within := by
    have few := fetches.few names (by
      rw [Exchange.imports, List.flatMap_cons, Exchange.brought, nothingBrought] at within
      exact within)
    simp only [List.length_cons]
    omega
  queued reached worked other member := by
    rcases List.mem_cons.mp member with rfl | inRest
    · exact .inr (.inr ⟨exchange, List.mem_cons_self, query⟩)
    · exact (fetches.queued reached worked other inRest).cons exchange
  imported reached worked other member := by
    rw [Exchange.imports, List.flatMap_cons, Exchange.brought, nothingBrought] at member
    exact (fetches.imported reached worked other member).imp_left (·.cons exchange)

/-- A path for which something comes that cannot be read is the last one. -/
theorem lastUnreadable
    {files : List Bytes}
    (brought : exchange.reply.files = files)
    {failure : ReflectionError}
    {later : DiscoveryState}
    (registered : registerFiles files { state with history := state.history ++ [exchange] } =
      .error failure later) :
    FetchesMissing channel requested (path :: rest) state (.error failure later)
      [exchange] where
  history := by
    have grown := registerFiles_history files
      { state with history := state.history ++ [exchange] }
    rw [registered] at grown
    exact grown
  asks := by
    refine .next query missing ?_
    have indexed := registerFiles_index files
      { state with history := state.history ++ [exchange] }
    rw [registered] at indexed
    change later.index = state.index.registerEach (readable files) at indexed
    rw [Exchange.brought, brought, stateAfter, indexed]
    exact .done
  replies := List.forall_mem_singleton.mpr replied
  few names _ := by
    simp only [List.length_cons, List.length_nil]
    omega
  queued _ worked := by
    cases worked
  imported _ worked := by
    cases worked

/-- After a path for which files come, those of their imports join the queue that are new. -/
theorem nextRegistered
    {files : List Bytes}
    (brought : exchange.reply.files = files)
    (reached : channel.target.isOk = true)
    {imports : List String}
    {middle : DiscoveryState}
    (registered : registerFiles files { state with history := state.history ++ [exchange] } =
      .ok imports middle)
    (fetches : FetchesMissing channel (unrequested requested imports ++ requested)
      (rest ++ unrequested requested imports) middle result exchanges) :
    FetchesMissing channel requested (path :: rest) state result (exchange :: exchanges) := by
  have grown := registerFiles_history files
    { state with history := state.history ++ [exchange] }
  have indexed := registerFiles_index files
    { state with history := state.history ++ [exchange] }
  rw [registered] at grown indexed
  change middle.history = state.history ++ [exchange] at grown
  change middle.index = state.index.registerEach (readable files) at indexed
  have allImports := missing_of_registerFiles registered
  have importsOfThese : exchange.brought.flatMap FileDescriptor.dependencies =
      files.flatMap importsOf := by
    rw [Exchange.brought, brought]
    exact flatMap_dependencies_readable (allReadable_of_registerFiles registered)
  refine ⟨?_, ?_, List.forall_mem_cons.mpr ⟨replied, fetches.replies⟩, ?_, ?_, ?_⟩
  · rw [fetches.history, grown, List.append_assoc, List.singleton_append]
  · refine .next query missing ?_
    rw [Exchange.brought, brought, ← indexed]
    exact fetches.asks
  · intro names within
    rw [Exchange.imports, List.flatMap_cons, List.flatMap_append, List.append_subset] at within
    have few := fetches.few names within.2
    have fewer := @remaining_unrequested_le names requested imports (by
      intro name member
      rw [allImports] at member
      apply within.1
      rw [importsOfThese]
      exact List.mem_of_mem_filter member)
    simp only [List.length_cons, List.length_append] at few ⊢
    omega
  · intro _ worked other member
    rcases List.mem_cons.mp member with rfl | inRest
    · exact .inr (.inr ⟨exchange, List.mem_cons_self, query⟩)
    · have settled := fetches.queued reached worked other (List.mem_append_left _ inRest)
      exact settled.cons exchange
  · intro _ worked other member
    rw [Exchange.imports, List.flatMap_cons, List.flatMap_append, List.mem_append] at member
    have settledNew (fresh : other ∈ unrequested requested imports) :
        IsSettled (stateAfter result).index (exchange :: exchanges) other := by
      have settled := fetches.queued reached worked other (List.mem_append_right _ fresh)
      exact settled.cons exchange
    rcases member with here | later
    · cases known : isMissing middle.index other with
      | false =>
          rcases (isMissing_eq_false_iff _ _).mp known with bundled | indexedNow
          · exact .inl (.inl bundled)
          · exact .inl (.inr (.inl (fetches.asks.hasFile indexedNow)))
      | true =>
          have joins : other ∈ imports := by
            rw [allImports, ← importsOfThese]
            exact List.mem_filter.mpr ⟨here, known⟩
          by_cases asked : other ∈ requested
          · exact .inr asked
          · exact .inl (settledNew (mem_unrequested_iff.mpr ⟨joins, asked⟩))
    · rcases fetches.imported reached worked other later with settled | asked
      · exact .inl (settled.cons exchange)
      · rcases List.mem_append.mp asked with fresh | before
        · exact .inl (settledNew fresh)
        · exact .inr before

end FetchesMissing

/-- Fetching imports goes like this, whatever the server sends. -/
theorem exists_fetchesMissing
    (channel : ReflectionChannel)
    (requested queue : List String)
    (state : DiscoveryState)
    (ordinary : ∀ path ∈ queue, isBundled path = false) :
    ∃ exchanges, FetchesMissing channel requested queue state
      (fetchImports channel requested queue state) exchanges := by
  fun_induction fetchImports channel requested queue state with
  | case1 requested state =>
      exact ⟨[], .nothing channel requested state⟩
  | case2 requested state path rest known inductionHypothesis =>
      rw [List.forall_mem_cons] at ordinary
      obtain ⟨exchanges, fetches⟩ := inductionHypothesis ordinary.2
      exact ⟨exchanges, fetches.skip known⟩
  | case3 requested state path rest unknown failure history asked inductionHypothesis =>
      rw [List.forall_mem_cons] at ordinary
      obtain ⟨exchanges, fetches⟩ := inductionHypothesis ordinary.2
      have missing := isMissing_of_unknown ordinary.1 unknown
      rcases filesNamed_cases asked with
        ⟨_, unsent, _, rfl⟩ | ⟨exchange, _, rfl, query, replied, brought⟩
      · exact ⟨exchanges, fetches.skip_unsent unsent⟩
      · exact ⟨exchange :: exchanges, .nextUnanswered query missing replied brought fetches⟩
  | case4 requested state path rest unknown files history asked failure later registered =>
      rw [List.forall_mem_cons] at ordinary
      have missing := isMissing_of_unknown ordinary.1 unknown
      rcases filesNamed_cases asked with
        ⟨_, _, failed, _⟩ | ⟨exchange, reached, rfl, query, replied, brought⟩
      · cases failed
      · exact ⟨[exchange], .lastUnreadable query missing replied brought registered⟩
  | case5 requested state path rest unknown files history asked imports later registered _
      inductionHypothesis =>
      rw [List.forall_mem_cons] at ordinary
      have missing := isMissing_of_unknown ordinary.1 unknown
      obtain ⟨exchanges, fetches⟩ := inductionHypothesis (by
        rw [List.forall_mem_append]
        refine ⟨ordinary.2, ?_⟩
        intro name fresh
        exact isBundled_of_mem_missing registered (mem_unrequested_iff.mp fresh).1)
      rcases filesNamed_cases asked with
        ⟨_, _, failed, _⟩ | ⟨exchange, reached, rfl, query, replied, brought⟩
      · cases failed
      · exact ⟨exchange :: exchanges,
          .nextRegistered query missing replied brought reached registered fetches⟩

/-- What replies of a server import is among the names that the server can bring up. -/
theorem imports_subset_importNames
    {server : ReflectionServer}
    {exchanges : List Exchange}
    (replies : ∀ exchange ∈ exchanges, exchange.reply ∈ server.replies) :
    Exchange.imports exchanges ⊆ server.importNames := by
  intro path member
  obtain ⟨file, brought, imports⟩ := List.mem_flatMap.mp member
  obtain ⟨exchange, inside, readIn⟩ := List.mem_flatMap.mp brought
  obtain ⟨bytes, sent, decoded⟩ := exists_decode_of_mem_readable readIn
  refine List.mem_flatMap.mpr ⟨exchange.reply, replies exchange inside, ?_⟩
  refine List.mem_flatMap.mpr ⟨bytes, sent, ?_⟩
  rw [importsOf, decoded]
  exact imports

/--
Fetching what registering files left missing comes to an end after few requests, each of
which is for a path that is missing at that moment. If requests can be sent to the address
of the server at all, and fetching works, nothing is left over: what was missing, and what
the files import that came, is bundled, indexed, or was asked for.
-/
theorem fetchImports_settles
    (channel : ReflectionChannel)
    {files : List Bytes}
    {before after : DiscoveryState}
    {missing : List String}
    (registered : registerFiles files before = .ok missing after)
    (state : DiscoveryState) :
    let result := fetchImports channel missing missing state
    ∃ exchanges,
      (stateAfter result).history = state.history ++ exchanges ∧
      exchanges.length ≤ missing.length + (Exchange.imports exchanges).dedup.length ∧
      (Exchange.imports exchanges).dedup.length ≤ channel.server.importNames.dedup.length ∧
      AsksForMissing state.index exchanges (stateAfter result).index ∧
      ∀ later, channel.target.isOk = true → result = .ok () later →
        ∀ path ∈ missing ++ Exchange.imports exchanges,
          IsSettled later.index exchanges path := by
  intro result
  obtain ⟨exchanges, fetches⟩ := exists_fetchesMissing channel missing missing state
    fun path member => isBundled_of_mem_missing registered member
  refine ⟨exchanges, fetches.history, ?_, ?_, fetches.asks, ?_⟩
  · have few := fetches.few _ (List.subset_dedup _)
    have within : remaining (Exchange.imports exchanges).dedup missing ≤
        (Exchange.imports exchanges).dedup.length := List.length_filter_le _ _
    omega
  · have within : (Exchange.imports exchanges).dedup ⊆ channel.server.importNames.dedup := by
      intro path member
      rw [List.mem_dedup] at member ⊢
      exact imports_subset_importNames fetches.replies member
    exact ((List.nodup_dedup _).subperm within).length_le
  · intro later reached worked path member
    have queued := fetches.queued reached
    have imported := fetches.imported reached
    have ran : fetchImports channel missing missing state = .ok () later := worked
    rw [ran] at queued imported
    rcases List.mem_append.mp member with first | inFile
    · exact queued rfl path first
    · exact (imported rfl path inFile).elim id (queued rfl path)

/-- A file `a` that imports `b`, `c` and a bundled file. -/
def sentFileA : String :=
  "CgFhGgFiGgFjGhFnb29nbGUvcHJvdG9idWYveA=="

/-- A file `b` that imports `a` in turn, itself, and `d`. -/
def sentFileB : String :=
  "CgFiGgFhGgFiGgFk"

/-- A channel to a server that sends the file `b` for every path. -/
def channelOfB : ReflectionChannel :=
  ReflectionClient.channel { config := {} }
    (.ofReplies (ReflectionClient.repliesOf [sentFileA] [sentFileB])) "http://a" none .v1

/-- The file `a` as it was sent. -/
def filesA : List Bytes :=
  (ReflectionClient.filesReply [sentFileA]).files

/-- The queue grows by `d`, and each of its paths is asked for once. -/
theorem queries_channelOfB :
    (outcome (registerFiles filesA {})).toOption = some ["b", "c"] ∧
    channelOfB.target.isOk = true ∧
    (failure? (fetchImports channelOfB ["b", "c"] ["b", "c"]
      (stateAfter (registerFiles filesA {})))).isNone = true ∧
    (stateAfter (fetchImports channelOfB ["b", "c"] ["b", "c"]
      (stateAfter (registerFiles filesA {})))).history.map (fun exchange => exchange.request.query) =
        [.fileByFilename "b", .fileByFilename "c", .fileByFilename "d"] := by
  decide +kernel

/-- Files that import one another, and come for other paths than their own, are settled as well. -/
theorem fetchImports_settles_cyclicImports :
    ∃ after later exchanges,
      registerFiles filesA {} = .ok ["b", "c"] after ∧
      fetchImports channelOfB ["b", "c"] ["b", "c"] after = .ok () later ∧
      later.history = exchanges ∧
      exchanges.map (fun exchange => exchange.request.query) =
        [.fileByFilename "b", .fileByFilename "c", .fileByFilename "d"] ∧
      exchanges.length ≤ 2 + (Exchange.imports exchanges).dedup.length ∧
      ∀ path ∈ ["b", "c"] ++ Exchange.imports exchanges, IsSettled later.index exchanges path := by
  obtain ⟨lacks, reached, worked, queries⟩ := queries_channelOfB
  cases registered : registerFiles filesA {} with
  | error failure after =>
      rw [registered] at lacks
      cases lacks
  | ok missing after =>
      rw [registered] at lacks worked queries
      obtain rfl : missing = ["b", "c"] := Option.some.inj lacks
      obtain ⟨exchanges, history, few, _, _, settled⟩ :=
        fetchImports_settles channelOfB registered after
      have begun := registerFiles_history filesA {}
      rw [registered] at begun
      change after.history = [] at begun
      rw [begun, List.nil_append] at history
      change (failure? (fetchImports channelOfB ["b", "c"] ["b", "c"] after)).isNone = true
        at worked
      change List.map _
        (stateAfter (fetchImports channelOfB ["b", "c"] ["b", "c"] after)).history = _ at queries
      cases ran : fetchImports channelOfB ["b", "c"] ["b", "c"] after with
      | error failure later =>
          rw [ran] at worked
          cases worked
      | ok done later =>
          rw [ran] at history queries
          rw [history] at queries
          exact ⟨after, later, exchanges, rfl, ran, history, queries, few,
            settled later reached ran⟩

end Discovery

end GrpcDiscovery
