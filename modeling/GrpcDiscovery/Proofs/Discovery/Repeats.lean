import GrpcDiscovery.Proofs.Discovery.Closure

namespace GrpcDiscovery

/-!
# Imports that are asked for again

Registering files leaves a path missing as often as the files import it, and this is the
queue that fetching imports begins with. Only the paths that join the queue later are
checked against those that were in it before. So a path that the files import twice is
asked for again, unless its file came when it was asked for first; and this is the only way
in which one can be.
-/

/-- The paths of the files that exchanges asked for, in order. -/
def Exchange.paths (exchanges : List Exchange) : List String :=
  exchanges.filterMap fun exchange => exchange.request.query.path?

theorem Exchange.paths_cons
    {exchange : Exchange}
    {path : String}
    (query : exchange.request.query = .fileByFilename path)
    (others : List Exchange) :
    paths (exchange :: others) = path :: paths others := by
  rw [paths, List.filterMap_cons, query]
  rfl

namespace Discovery

/-! ## What joins the queue -/

/-- How often a path may join the queue: once, if it was not asked for before. -/
def allowance
    (requested : List String)
    (path : String) :
    Nat :=
  if path ∈ requested then 0 else 1

theorem nodup_unrequested (requested names : List String) :
    (unrequested requested names).Nodup := by
  induction names generalizing requested with
  | nil =>
      exact List.nodup_nil
  | cons name rest inductionHypothesis =>
      rw [unrequested]
      split
      · exact inductionHypothesis requested
      · refine List.nodup_cons.mpr ⟨?_, inductionHypothesis _⟩
        intro again
        exact (mem_unrequested_iff.mp again).2 List.mem_cons_self

/-- What joins the queue uses up what was allowed. -/
theorem count_unrequested_add_allowance_le
    (requested names : List String)
    (path : String) :
    (unrequested requested names).count path +
        allowance (unrequested requested names ++ requested) path ≤
      allowance requested path := by
  have once := List.nodup_iff_count_le_one.mp (nodup_unrequested requested names) path
  by_cases joins : path ∈ unrequested requested names
  · have fresh := (mem_unrequested_iff.mp joins).2
    simp only [allowance, List.mem_append, joins, fresh, true_or, if_true, if_false]
    omega
  · rw [List.count_eq_zero_of_not_mem joins]
    simp [allowance, joins]

/-! ## What is asked for -/

variable {channel : ReflectionChannel} {url : Url}

/-- No path is asked for more often than it is in the queue, and was not asked for before. -/
structure AsksWithin
    (requested queue : List String)
    (state : DiscoveryState)
    (result : EStateM.Result ReflectionError DiscoveryState Unit)
    (exchanges : List Exchange) :
    Prop where
  history : (stateAfter result).history = state.history ++ exchanges
  count : ∀ path, (Exchange.paths exchanges).count path ≤
    queue.count path + allowance requested path

theorem exists_asksWithin
    (target : channel.target = .ok url)
    (requested queue : List String)
    (state : DiscoveryState) :
    ∃ exchanges, AsksWithin requested queue state
      (fetchImports channel requested queue state) exchanges := by
  fun_induction fetchImports channel requested queue state with
  | case1 requested state =>
      exact ⟨[], (List.append_nil _).symm, fun path => Nat.zero_le _⟩
  | case2 requested state path rest known inductionHypothesis =>
      obtain ⟨exchanges, history, count⟩ := inductionHypothesis
      refine ⟨exchanges, history, fun other => ?_⟩
      have within := count other
      rw [List.count_cons]
      omega
  | case3 requested state path rest unknown failure history asked inductionHypothesis =>
      obtain ⟨exchange, request, _, rfl⟩ := exists_exchange_of_ask target asked
      obtain ⟨exchanges, grown, count⟩ := inductionHypothesis
      refine ⟨exchange :: exchanges, ?_, fun other => ?_⟩
      · rw [grown, List.append_assoc, List.singleton_append]
      · have within := count other
        rw [Exchange.paths_cons (congrArg _ request), List.count_cons, List.count_cons]
        omega
  | case4 requested state path rest unknown files history asked failure later registered =>
      obtain ⟨exchange, request, _, rfl⟩ := exists_exchange_of_ask target asked
      have grown := registerFiles_history files { state with history := state.history ++ [exchange] }
      rw [registered] at grown
      refine ⟨[exchange], grown, fun other => ?_⟩
      rw [Exchange.paths_cons (congrArg _ request), List.count_cons, List.count_cons]
      simp [Exchange.paths]
      omega
  | case5 requested state path rest unknown files history asked imports later registered _
      inductionHypothesis =>
      obtain ⟨exchange, request, _, rfl⟩ := exists_exchange_of_ask target asked
      have grown := registerFiles_history files { state with history := state.history ++ [exchange] }
      rw [registered] at grown
      change later.history = state.history ++ [exchange] at grown
      obtain ⟨exchanges, grownFurther, count⟩ := inductionHypothesis
      refine ⟨exchange :: exchanges, ?_, fun other => ?_⟩
      · rw [grownFurther, grown, List.append_assoc, List.singleton_append]
      · have within := count other
        have joins := count_unrequested_add_allowance_le requested imports other
        rw [List.count_append] at within
        rw [Exchange.paths_cons (congrArg _ request), List.count_cons, List.count_cons]
        omega

/-- A server that brings no file is asked for every path in the queue, as often as it is there. -/
theorem exists_paths_eq_queue
    (reached : channel.target.isOk = true)
    (nothing : ∀ reply ∈ channel.server.replies, reply.files = [])
    (requested queue : List String)
    (state : DiscoveryState)
    (unknown : ∀ path ∈ queue, ¬ state.index.hasFile path = true) :
    ∃ exchanges,
      (stateAfter (fetchImports channel requested queue state)).history =
        state.history ++ exchanges ∧
      Exchange.paths exchanges = queue := by
  induction queue generalizing state with
  | nil =>
      rw [fetchImports]
      exact ⟨[], (List.append_nil _).symm, rfl⟩
  | cons path rest inductionHypothesis =>
      rw [List.forall_mem_cons] at unknown
      cases asked : channel.filesNamed path state.history with
      | mk outcome history =>
          rcases filesNamed_cases asked with
            ⟨failure, unsent, _, _⟩ | ⟨exchange, _, rfl, query, replied, brought⟩
          · rw [unsent] at reached
            cases reached
          · obtain ⟨exchanges, grown, paths⟩ := inductionHypothesis
              { state with history := state.history ++ [exchange] } unknown.2
            rw [nothing exchange.reply replied] at brought
            have same : fetchImports channel requested (path :: rest) state =
                fetchImports channel requested rest
                  { state with history := state.history ++ [exchange] } := by
              cases outcome with
              | error failure =>
                  exact fetchImports_of_error unknown.1 asked requested rest
              | ok files =>
                  obtain rfl : [] = files := brought
                  rw [fetchImports_of_ok unknown.1 asked, registerFiles_nil]
                  simp [unrequested]
            refine ⟨exchange :: exchanges, ?_, ?_⟩
            · rw [same, grown, List.append_assoc, List.singleton_append]
            · rw [Exchange.paths_cons query, paths]

/-- A path that registering files leaves missing is not indexed. -/
theorem hasFile_of_mem_missing
    {files : List Bytes}
    {before after : DiscoveryState}
    {missing : List String}
    (registered : registerFiles files before = .ok missing after)
    {path : String}
    (member : path ∈ missing) :
    ¬ after.index.hasFile path = true := by
  have lacks := isMissing_of_mem_missing registered member
  intro known
  rw [(isMissing_eq_false_iff after.index path).mpr (.inr known)] at lacks
  cases lacks

/--
Fetching what registering files left missing asks for no path more often than it is missing,
and for no path that joined the queue more than once.

So no path is asked for twice, whatever the server sends, exactly if no path is missing
twice, which is to say that no two of the imports of the files are the same missing one.
-/
theorem fetchImports_asksOnce_iff
    {channel : ReflectionChannel}
    {url : Url}
    (target : channel.target = .ok url)
    {files : List Bytes}
    {before after : DiscoveryState}
    {missing : List String}
    (registered : registerFiles files before = .ok missing after) :
    (∀ server exchanges,
      (stateAfter (fetchImports { channel with server := server } missing missing after)).history =
        after.history ++ exchanges →
      ∀ path, (Exchange.paths exchanges).count path ≤ max 1 (missing.count path)) ∧
    ((∀ server exchanges,
      (stateAfter (fetchImports { channel with server := server } missing missing after)).history =
        after.history ++ exchanges →
      (Exchange.paths exchanges).Nodup) ↔ missing.Nodup) := by
  have bounded (server : ReflectionServer) (exchanges : List Exchange)
      (history :
        (stateAfter (fetchImports { channel with server := server } missing missing after)).history =
          after.history ++ exchanges)
      (path : String) :
      (Exchange.paths exchanges).count path ≤ max 1 (missing.count path) := by
    obtain ⟨others, asks⟩ :=
      @exists_asksWithin { channel with server := server } url target missing missing after
    obtain rfl := List.append_cancel_left (history.symm.trans asks.history)
    have within := asks.count path
    by_cases member : path ∈ missing
    · rw [allowance, if_pos member] at within
      omega
    · rw [List.count_eq_zero_of_not_mem member, allowance, if_neg member] at within
      omega
  refine ⟨bounded, ?_, ?_⟩
  · intro once
    have reached : ({ channel with server := .absent } : ReflectionChannel).target.isOk = true :=
      congrArg Except.isOk target
    have nothing : ∀ reply ∈ ReflectionServer.absent.replies, reply.files = [] :=
      List.forall_mem_singleton.mpr rfl
    obtain ⟨exchanges, history, paths⟩ := exists_paths_eq_queue reached nothing missing missing
      after fun path member => hasFile_of_mem_missing registered member
    rw [← paths]
    exact once .absent exchanges history
  · intro unique server exchanges history
    refine List.nodup_iff_count_le_one.mpr fun path => ?_
    have within := bounded server exchanges history path
    have single := List.nodup_iff_count_le_one.mp unique path
    omega

/-- Two files, `a` and `c`, that both import `b`. -/
def filesAC : List Bytes :=
  (ReflectionClient.filesReply ["CgFhGgFi", "CgFjGgFi"]).files

/-- A channel to a server that has nothing. -/
def channelOfNothing : ReflectionChannel :=
  ReflectionClient.channel { config := {} } (.ofReplies {}) "http://a" none .v1

theorem missing_filesAC :
    (outcome (registerFiles filesA {})).toOption = some ["b", "c"] ∧
    (outcome (registerFiles filesAC {})).toOption = some ["b", "b"] ∧
    channelOfNothing.target.isOk = true := by
  decide +kernel

/-- The server that has nothing sends no files. -/
theorem nothing_channelOfNothing : ∀ reply ∈ channelOfNothing.server.replies, reply.files = [] := by
  decide +kernel

/-- The imports of one file are asked for once each, whatever comes for the first of them. -/
theorem fetchImports_asksOnce_distinct :
    ∃ after, registerFiles filesA {} = .ok ["b", "c"] after ∧
      ∀ server exchanges,
        (stateAfter (fetchImports { channelOfNothing with server := server } ["b", "c"] ["b", "c"]
          after)).history = after.history ++ exchanges →
        (Exchange.paths exchanges).Nodup := by
  obtain ⟨lacks, _, reached⟩ := missing_filesAC
  cases registered : registerFiles filesA {} with
  | error failure after =>
      rw [registered] at lacks
      cases lacks
  | ok missing after =>
      rw [registered] at lacks
      obtain rfl : missing = ["b", "c"] := Option.some.inj lacks
      cases target : channelOfNothing.target with
      | error failure =>
          rw [target] at reached
          cases reached
      | ok url =>
          exact ⟨after, rfl, (fetchImports_asksOnce_iff target registered).2.mpr (by decide)⟩

/-- A path that two files import can be asked for twice. -/
theorem not_forall_fetchImports_asksOnce :
    ¬ ∀ channel files before after missing exchanges,
      registerFiles files before = .ok missing after →
      (stateAfter (fetchImports channel missing missing after)).history =
        after.history ++ exchanges →
      (Exchange.paths exchanges).Nodup := by
  intro always
  obtain ⟨_, lacks, reached⟩ := missing_filesAC
  cases registered : registerFiles filesAC {} with
  | error failure after =>
      rw [registered] at lacks
      cases lacks
  | ok missing after =>
      rw [registered] at lacks
      obtain rfl : missing = ["b", "b"] := Option.some.inj lacks
      obtain ⟨exchanges, history, paths⟩ := exists_paths_eq_queue reached nothing_channelOfNothing
        ["b", "b"] ["b", "b"] after fun path member => hasFile_of_mem_missing registered member
      have once := always channelOfNothing filesAC {} after _ exchanges registered history
      rw [paths] at once
      exact absurd once (by decide)

end Discovery

end GrpcDiscovery
