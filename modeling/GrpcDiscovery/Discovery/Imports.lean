import GrpcDiscovery.Discovery.Register

namespace GrpcDiscovery

/-!
# Fetching imports

Missing imports are asked for by path, one after the other, and what the files
that come import in turn joins the queue, unless it was asked for before. A file
that does not come is left out; a file that is no descriptor ends the matter.

The queue runs dry because a server has finitely many replies: the names in them
that were not asked for yet get fewer with every name that joins the queue.
-/

/-- The files that a reply can bring. -/
def ReflectionReply.files : ReflectionReply → List Bytes
  | .response status body =>
      match (answerOfResponse status (Utf8.decodeLossy body)).bind ReflectionAnswer.files with
      | .ok files =>
          files
      | .error _ =>
          []
  | _ =>
      []

/-- The paths that the files of a server can import. -/
def ReflectionServer.importNames (server : ReflectionServer) : List String :=
  server.replies.flatMap fun reply =>
    reply.files.flatMap Discovery.importsOf

/-- Files that were fetched are those of one of the server's replies. -/
theorem ReflectionChannel.files_of_filesNamed
    {channel : ReflectionChannel}
    {path : String}
    {history later : List Exchange}
    {files : List Bytes}
    (fetched :
      channel.filesNamed path history = (.ok files, later)) :
    ∃ reply ∈ channel.server.replies, reply.files = files := by
  simp only [filesNamed, ask] at fetched
  cases target : channel.target with
  | error failure =>
      simp [target] at fetched
  | ok url =>
      refine ⟨_, channel.server.reply_mem history
        ⟨url, .fileByFilename path, channel.userAgent⟩, ?_⟩
      simp only [target, Prod.mk.injEq] at fetched
      have answered := fetched.1
      cases reply : channel.server.reply history
          ⟨url, .fileByFilename path, channel.userAgent⟩ with
      | response status body =>
          rw [reply, ReflectionReply.answer] at answered
          simp [ReflectionReply.files, answered]
      | refused =>
          simp [reply, ReflectionReply.answer, Except.bind] at answered
      | dropped =>
          simp [reply, ReflectionReply.answer, Except.bind] at answered
      | truncated =>
          simp [reply, ReflectionReply.answer, Except.bind] at answered
      | overdue =>
          simp [reply, ReflectionReply.answer, Except.bind] at answered

namespace Discovery

/-- The names that were not asked for, each once, in order. -/
def unrequested
    (requested : List String) :
    List String →
    List String
  | [] =>
      []
  | name :: rest =>
      if name ∈ requested then
        unrequested requested rest
      else
        name :: unrequested (name :: requested) rest

/-- How many names were not asked for. -/
def remaining
    (names requested : List String) :
    Nat :=
  (names.filter fun name => name ∉ requested).length

/-- Asking for a name leaves fewer. -/
theorem remaining_cons_lt
    {names requested : List String}
    {name : String}
    (member : name ∈ names)
    (fresh : name ∉ requested) :
    remaining names (name :: requested) < remaining names requested := by
  have narrowed :
      names.filter (fun other => other ∉ name :: requested) =
        (names.filter fun other => other ∉ requested).filter
          fun other => other ≠ name := by
    rw [List.filter_filter]
    congr 1
    funext other
    simp [List.mem_cons, not_or]
  unfold remaining
  rw [narrowed, List.length_filter_lt_length_iff_exists]
  exact ⟨name, by simp [member, fresh], by simp⟩

/-- What joins the queue was not asked for before. -/
theorem remaining_unrequested_le
    {names requested added : List String}
    (known : ∀ name ∈ added, name ∈ names) :
    (unrequested requested added).length +
        remaining names (unrequested requested added ++ requested) ≤
      remaining names requested := by
  induction added generalizing requested with
  | nil =>
      simp [unrequested]
  | cons name rest inductionHypothesis =>
      have knownRest : ∀ other ∈ rest, other ∈ names :=
        fun other member => known other (List.mem_cons_of_mem _ member)
      simp only [unrequested]
      split
      · exact inductionHypothesis knownRest
      · rename_i fresh
        have fewer := remaining_cons_lt (known name List.mem_cons_self) fresh
        have tail := @inductionHypothesis (name :: requested) knownRest
        have reordered :
            remaining names
                (unrequested (name :: requested) rest ++ name :: requested) =
              remaining names
                (name :: unrequested (name :: requested) rest ++ requested) := by
          refine congrArg List.length (List.filter_congr fun other _ => ?_)
          simp only [List.mem_append, List.mem_cons, List.cons_append, or_left_comm]
        simp only [List.length_cons]
        omega

/-- Fetch the queued imports, and what they import in turn. -/
def fetchImports
    (channel : ReflectionChannel)
    (requested queue : List String)
    (state : DiscoveryState) :
    EStateM.Result ReflectionError DiscoveryState Unit :=
  match queue with
  | [] =>
      .ok () state
  | path :: rest =>
      if state.index.hasFile path then
        fetchImports channel requested rest state
      else
        match fetched : channel.filesNamed path state.history with
        | (.error _, history) =>
            fetchImports channel requested rest { state with history := history }
        | (.ok files, history) =>
            match registered : registerFiles files { state with history := history } with
            | .error failure state =>
                .error failure state
            | .ok imports state =>
                have : (unrequested requested imports).length +
                    remaining channel.server.importNames
                      (unrequested requested imports ++ requested) ≤
                      remaining channel.server.importNames requested := by
                  apply remaining_unrequested_le
                  intro name member
                  obtain ⟨reply, listed, same⟩ :=
                    ReflectionChannel.files_of_filesNamed fetched
                  have imported := mem_imports_of_registerFiles registered member
                  rw [← same] at imported
                  exact List.mem_flatMap.mpr ⟨reply, listed, imported⟩
                fetchImports channel
                  (unrequested requested imports ++ requested)
                  (rest ++ unrequested requested imports)
                  state
termination_by queue.length + remaining channel.server.importNames requested
decreasing_by
  all_goals simp only [List.length_cons, List.length_append]
  all_goals omega

end Discovery

end GrpcDiscovery
