import GrpcDiscovery.Proofs.Discovery.Latest
import GrpcDiscovery.Proofs.Lists

namespace GrpcDiscovery

/-!
# Imports that cannot be read

What a server sends for an import may be no file for two reasons: its text may be no
base64, or the bytes behind the text no descriptor. The bytes are looked at when files are
registered, and a fault in them ends the attempt at once. The texts are looked at before
that, by the query itself, and a query for an import may fail. So a single text that is no
base64 hides whatever came with it, and the attempt goes on as if nothing had come.
-/

/-- The texts in which a reply carries files, if it is an answer that carries any. -/
def ReflectionReply.texts? : ReflectionReply → Option (List String)
  | .response status body =>
      match answerOfResponse status (Utf8.decodeLossy body) with
      | .ok answer =>
          answer.descriptors
      | .error _ =>
          none
  | _ =>
      none

namespace Discovery

/-- The file that a text carries, if it carries one. -/
def carriedFile? (text : String) : Option FileDescriptor :=
  (Base64.decode? text).bind fun bytes => (FileDescriptor.decode bytes).toOption

/-! ## The texts of a reply -/

/-- Texts that are base64 give bytes, one after the other, of which each is a file if it is. -/
theorem allReadable_of_mapM_decode?
    {texts : List String}
    {files : List Bytes}
    (decoded : texts.mapM Base64.decode? = some files) :
    AllReadable files ↔ ∀ text ∈ texts, carriedFile? text ≠ none := by
  have each := (mapM_eq_some_iff fun _ _ => Iff.rfl).mp decoded
  clear decoded
  induction each with
  | nil =>
      simp [AllReadable]
  | @cons text bytes rest tail first others inductionHypothesis =>
      have carried : carriedFile? text = (FileDescriptor.decode bytes).toOption := by
        rw [carriedFile?, first, Option.bind_some]
      have joined : AllReadable (bytes :: tail) ↔
          (∃ file, FileDescriptor.decode bytes = .ok file) ∧ AllReadable tail :=
        List.forall_mem_cons
      have tailReadable : AllReadable tail ↔ ∀ text ∈ rest, carriedFile? text ≠ none :=
        inductionHypothesis
      rw [joined, List.forall_mem_cons, tailReadable, carried]
      cases FileDescriptor.decode bytes <;> simp [Except.toOption]

/-- The files of a reply are those behind its texts, or none if a text is no base64. -/
theorem files_eq_of_texts
    {reply : ReflectionReply}
    {texts : List String}
    (carries : reply.texts? = some texts) :
    reply.files = (texts.mapM Base64.decode?).getD [] := by
  cases reply with
  | response status body =>
      rw [ReflectionReply.texts?] at carries
      rw [ReflectionReply.files]
      cases answered : ReflectionReply.answerOfResponse status (Utf8.decodeLossy body) with
      | error failure =>
          simp [answered] at carries
      | ok answer =>
          simp only [answered] at carries
          simp only [Except.bind, ReflectionAnswer.files, carries]
          cases texts.mapM Base64.decode? <;> rfl
  | _ =>
      cases carries

/-- Where a text carries no file, a reply has a fault exactly if all of them are base64. -/
theorem firstFault?_files_iff
    {reply : ReflectionReply}
    {texts : List String}
    (carries : reply.texts? = some texts)
    (unreadable : ∃ text ∈ texts, carriedFile? text = none) :
    (∃ failure, firstFault? reply.files = some failure) ↔
      ∀ text ∈ texts, Base64.decode? text ≠ none := by
  rw [files_eq_of_texts carries, ← Option.ne_none_iff_exists', ne_eq, firstFault?_eq_none_iff]
  cases decoded : texts.mapM Base64.decode? with
  | none =>
      obtain ⟨text, member, undecoded⟩ := (mapM_eq_none_iff texts).mp decoded
      refine iff_of_false ?_ fun all => all text member undecoded
      simp [AllReadable]
  | some files =>
      obtain ⟨text, member, missing⟩ := unreadable
      refine iff_of_true ?_ ?_
      · rw [Option.getD_some, allReadable_of_mapM_decode? decoded]
        exact fun all => all text member missing
      · intro other inside undecoded
        rw [(mapM_eq_none_iff texts).mpr ⟨other, inside, undecoded⟩] at decoded
        cases decoded

/-- A fault in a file is a malformed descriptor. -/
theorem exists_malformed_of_firstFault?
    {files : List Bytes}
    {failure : ReflectionError}
    (faulty : firstFault? files = some failure) :
    ∃ fault, failure = .malformedDescriptor fault := by
  obtain ⟨bytes, _, blamed⟩ := List.exists_of_findSome?_eq_some faulty
  rw [fault?] at blamed
  cases decoded : FileDescriptor.decode bytes with
  | ok file =>
      rw [decoded] at blamed
      cases blamed
  | error cause =>
      rw [decoded] at blamed
      cases blamed
      exact ⟨.file cause, rfl⟩

/-! ## Exchanges up to the first fault -/

/--
Exchanges that stop where one for an import brings a file that cannot be read, together
with the failure in which they end, if they end in one.
-/
inductive StopsAtFault : List Exchange → Option ReflectionError → Prop where
  /-- What comes after the exchanges is not about descriptors. -/
  | done
      {failed : Option ReflectionError}
      (sound : ∀ fault, failed ≠ some (.malformedDescriptor fault)) :
      StopsAtFault [] failed
  /-- A query for something else may end it in any way. -/
  | other
      {exchange : Exchange}
      (other : ∀ path, exchange.request.query ≠ .fileByFilename path)
      (failed : Option ReflectionError) :
      StopsAtFault [exchange] failed
  | fault
      {exchange : Exchange}
      {failure : ReflectionError}
      (faulty : firstFault? exchange.reply.files = some failure) :
      StopsAtFault [exchange] (some failure)
  | next
      {exchange : Exchange}
      {others : List Exchange}
      {failed : Option ReflectionError}
      (harmless : (∃ path, exchange.request.query = .fileByFilename path) →
        firstFault? exchange.reply.files = none)
      (further : StopsAtFault others failed) :
      StopsAtFault (exchange :: others) failed

theorem StopsAtFault.append
    {exchanges others : List Exchange}
    {worked failed : Option ReflectionError}
    (stops : StopsAtFault exchanges worked)
    (without : worked = none)
    (further : StopsAtFault others failed) :
    StopsAtFault (exchanges ++ others) failed := by
  induction stops with
  | done sound =>
      exact further
  | other other failed =>
      refine .next ?_ further
      rintro ⟨path, query⟩
      exact absurd query (other path)
  | fault faulty =>
      cases without
  | next harmless _ inductionHypothesis =>
      exact .next harmless (inductionHypothesis without)

theorem eq_nil_of_split_singleton
    {only exchange : Exchange}
    {before after : List Exchange}
    (split : [only] = before ++ exchange :: after) :
    before = [] ∧ only = exchange ∧ after = [] := by
  cases before with
  | nil =>
      obtain ⟨rfl, rfl⟩ := List.cons.inj split
      exact ⟨rfl, rfl, rfl⟩
  | cons first before =>
      simp at split

/-- An exchange for an import is the last one, and blamed, exactly if it brings a fault. -/
theorem StopsAtFault.isLast_iff
    {exchanges : List Exchange}
    {failed : Option ReflectionError}
    (stops : StopsAtFault exchanges failed)
    {before after : List Exchange}
    {exchange : Exchange}
    (split : exchanges = before ++ exchange :: after)
    {path : String}
    (query : exchange.request.query = .fileByFilename path) :
    (after = [] ∧ ∃ fault, failed = some (.malformedDescriptor fault)) ↔
      ∃ failure, firstFault? exchange.reply.files = some failure := by
  induction stops generalizing before with
  | done sound =>
      simp at split
  | other other failed =>
      obtain ⟨_, rfl, _⟩ := eq_nil_of_split_singleton split
      exact absurd query (other path)
  | fault faulty =>
      obtain ⟨_, rfl, rfl⟩ := eq_nil_of_split_singleton split
      obtain ⟨fault, rfl⟩ := exists_malformed_of_firstFault? faulty
      exact iff_of_true ⟨rfl, fault, rfl⟩ ⟨_, faulty⟩
  | next harmless further inductionHypothesis =>
      cases before with
      | nil =>
          obtain ⟨rfl, rfl⟩ := List.cons.inj split
          rw [harmless ⟨path, query⟩]
          refine iff_of_false ?_ (by simp)
          rintro ⟨rfl, fault, rfl⟩
          cases further with
          | done sound =>
              exact sound fault rfl
      | cons first before =>
          exact inductionHypothesis (List.cons.inj split).2

/-! ## Runs -/

/-- A result was reached from a state by exchanges that stop at the first fault. -/
def RunsToFault
    {α : Type}
    (state : DiscoveryState)
    (result : EStateM.Result ReflectionError DiscoveryState α) :
    Prop :=
  ∃ exchanges, (stateAfter result).history = state.history ++ exchanges ∧
    StopsAtFault exchanges (failure? result)

theorem runsToFault_pure
    {α : Type}
    (value : α)
    (state : DiscoveryState) :
    RunsToFault state ((pure value : Discovery α) state) :=
  ⟨[], (List.append_nil _).symm, .done fun _ failed => by cases failed⟩

/-- What is done after an action that worked begins where that one ended. -/
theorem RunsToFault.bind
    {α β : Type}
    {action : Discovery α}
    {next : α → Discovery β}
    {state : DiscoveryState}
    (runs : RunsToFault state (action state))
    (runsFurther : ∀ value middle, RunsToFault middle (next value middle)) :
    RunsToFault state ((action >>= next) state) := by
  obtain ⟨exchanges, grown, stops⟩ := runs
  cases ran : action state with
  | error failure later =>
      rw [ran] at grown stops
      rw [bind_of_error ran]
      exact ⟨exchanges, grown, stops⟩
  | ok value middle =>
      rw [ran] at grown stops
      rw [bind_of_ok ran]
      obtain ⟨others, grownFurther, further⟩ := runsFurther value middle
      refine ⟨exchanges ++ others, ?_, stops.append rfl further⟩
      change middle.history = state.history ++ exchanges at grown
      rw [grownFurther, grown, List.append_assoc]

/-- An exchange in front of the others must be harmless, if it is for an import. -/
theorem RunsToFault.cons
    {α : Type}
    {state middle : DiscoveryState}
    {result : EStateM.Result ReflectionError DiscoveryState α}
    {exchange : Exchange}
    (runs : RunsToFault middle result)
    (grown : middle.history = state.history ++ [exchange])
    (harmless : (∃ path, exchange.request.query = .fileByFilename path) →
      firstFault? exchange.reply.files = none) :
    RunsToFault state result := by
  obtain ⟨exchanges, grownFurther, stops⟩ := runs
  refine ⟨exchange :: exchanges, ?_, .next harmless stops⟩
  rw [grownFurther, grown, List.append_assoc, List.singleton_append]

variable {channel : ReflectionChannel} {url : Url}

/-- Fetching imports stops at the first fault in what is brought for one. -/
theorem runsToFault_fetchImports
    (target : channel.target = .ok url)
    (requested queue : List String)
    (state : DiscoveryState) :
    RunsToFault state (fetchImports channel requested queue state) := by
  fun_induction fetchImports channel requested queue state with
  | case1 requested state =>
      exact ⟨[], (List.append_nil _).symm, .done (by simp [failure?])⟩
  | case2 requested state path rest known inductionHypothesis =>
      exact inductionHypothesis
  | case3 requested state path rest unknown failure history asked inductionHypothesis =>
      obtain ⟨exchange, _, answered, rfl⟩ := exists_exchange_of_ask target asked
      refine inductionHypothesis.cons rfl fun _ => ?_
      rw [files_eq_nil_of_answer answered]
      rfl
  | case4 requested state path rest unknown files history asked failure later registered =>
      obtain ⟨exchange, _, answered, rfl⟩ := exists_exchange_of_ask target asked
      have grown := registerFiles_history files { state with history := state.history ++ [exchange] }
      have failed := failure?_registerFiles files
        { state with history := state.history ++ [exchange] }
      rw [registered] at grown failed
      rw [← files_eq_of_answer answered] at failed
      exact ⟨[exchange], grown, .fault failed.symm⟩
  | case5 requested state path rest unknown files history asked imports later registered _
      inductionHypothesis =>
      obtain ⟨exchange, _, answered, rfl⟩ := exists_exchange_of_ask target asked
      have grown := registerFiles_history files { state with history := state.history ++ [exchange] }
      have worked := failure?_registerFiles files
        { state with history := state.history ++ [exchange] }
      rw [registered] at grown worked
      rw [← files_eq_of_answer answered] at worked
      exact inductionHypothesis.cons grown fun _ => worked.symm

/-- So does fetching a service, for its own files are asked for by another query. -/
theorem runsToFault_fetchService
    (target : channel.target = .ok url)
    (name : String)
    (state : DiscoveryState) :
    RunsToFault state (fetchService channel name state) := by
  cases asked : channel.filesDefining name state.history with
  | mk outcome history =>
      obtain ⟨exchange, request, _, rfl⟩ := exists_exchange_of_ask target asked
      have noImport (path : String) : exchange.request.query ≠ .fileByFilename path := by
        simp [request]
      cases outcome with
      | error failure =>
          rw [fetchService_of_error asked]
          exact ⟨[exchange], rfl, .other noImport _⟩
      | ok files =>
          have grown := registerFiles_history files
            { state with history := state.history ++ [exchange] }
          rw [fetchService_of_ok asked]
          cases registered : registerFiles files
              { state with history := state.history ++ [exchange] } with
          | error failure later =>
              rw [registered] at grown
              exact ⟨[exchange], grown, .other noImport _⟩
          | ok missing later =>
              rw [registered] at grown
              refine (runsToFault_fetchImports target missing missing later).cons grown ?_
              rintro ⟨path, query⟩
              exact absurd query (noImport path)

theorem runsToFault_fetchServices
    (target : channel.target = .ok url)
    (names : List String)
    (state : DiscoveryState) :
    RunsToFault state (fetchServices channel names state) := by
  induction names generalizing state with
  | nil =>
      exact runsToFault_pure () state
  | cons name rest inductionHypothesis =>
      exact (runsToFault_fetchService target name state).bind fun _ => inductionHypothesis

/-- Services are described without exchanges, and no descriptor is malformed then. -/
theorem runsToFault_describeServices
    (maxDepth : Nat)
    (names : List String)
    (state : DiscoveryState) :
    RunsToFault state (describeServices maxDepth names state) := by
  rcases describeServices_cases maxDepth names state with
    ⟨name, cache, _, ended⟩ | ⟨services, cache, ended, _⟩
  · rw [ended]
    exact ⟨[], (List.append_nil _).symm, .done (by simp [failure?])⟩
  · rw [ended]
    exact ⟨[], (List.append_nil _).symm, .done (by simp [failure?])⟩

/-- An attempt to an address stops at the first fault in what is brought for an import. -/
theorem runsToFault_attempt
    (target : channel.target = .ok url)
    (maxDepth : Nat)
    (state : DiscoveryState) :
    RunsToFault state (attempt channel maxDepth state) := by
  cases asked : channel.listServices state.history with
  | mk outcome history =>
      obtain ⟨listing, request, _, rfl⟩ := exists_exchange_of_ask target asked
      have noImport (path : String) : listing.request.query ≠ .fileByFilename path := by
        simp [request]
      cases outcome with
      | error failure =>
          rw [attempt_of_error asked]
          exact ⟨[listing], rfl, .other noImport _⟩
      | ok listed =>
          have ran : exchanging channel.listServices state =
              .ok listed { state with history := state.history ++ [listing] } := by
            rw [exchanging, asked]
          rw [attempt, bind_of_ok ran]
          refine ((runsToFault_fetchServices target (describedNames listed) _).bind fun _ =>
            runsToFault_describeServices maxDepth (describedNames listed)).cons rfl ?_
          rintro ⟨path, query⟩
          exact absurd query (noImport path)

theorem failure?_eq_some_iff
    {α : Type}
    (result : EStateM.Result ReflectionError DiscoveryState α)
    (failure : ReflectionError) :
    failure? result = some failure ↔ outcome result = .error failure := by
  cases result <;> simp [failure?, outcome]

/--
An import that comes with a text that carries no file ends the attempt at once, with a
malformed descriptor, exactly if all texts that came are base64.

Otherwise it does not, though the one text is as malformed as the other.
-/
theorem attempt_ends_at_import_iff
    (channel : ReflectionChannel)
    (maxDepth : Nat)
    (state : DiscoveryState) :
    ∃ exchanges,
      (stateAfter (attempt channel maxDepth state)).history = state.history ++ exchanges ∧
      ∀ before exchange after path texts,
        exchanges = before ++ exchange :: after →
        exchange.request.query = .fileByFilename path →
        exchange.reply.texts? = some texts →
        (∃ text ∈ texts, carriedFile? text = none) →
          ((after = [] ∧ ∃ fault,
            outcome (attempt channel maxDepth state) = .error (.malformedDescriptor fault)) ↔
            ∀ text ∈ texts, Base64.decode? text ≠ none) := by
  cases target : channel.target with
  | error failure =>
      rw [attempt_of_no_target target]
      refine ⟨[], (List.append_nil _).symm, ?_⟩
      intro before exchange after path texts split
      simp at split
  | ok url =>
      obtain ⟨exchanges, grown, stops⟩ := runsToFault_attempt target maxDepth state
      refine ⟨exchanges, grown, ?_⟩
      intro before exchange after path texts split query carries unreadable
      have last := stops.isLast_iff split query
      simp only [failure?_eq_some_iff] at last
      rw [last, firstFault?_files_iff carries unreadable]

/-- Bytes that are no descriptor. -/
def sentNoFile : String :=
  ReflectionClient.sentTruncated

/-- A text that is no base64. -/
def sentNoBase64 : String :=
  "%"

/-- A channel to a server whose service imports a file, for which it sends texts. -/
def channelOfTexts (texts : List String) : ReflectionChannel :=
  ReflectionClient.channel { config := {} }
    (.ofReplies (ReflectionClient.repliesOf [ReflectionClient.sentFileOld] texts))
    "http://a" none .v1

/-- The exchanges of a first attempt over such a channel. -/
def exchangedFor (texts : List String) : List Exchange :=
  (stateAfter (attempt (channelOfTexts texts) defaultMaxDepth {})).history

theorem eq_of_history_exchangedFor
    {texts : List String}
    {exchanges : List Exchange}
    (history : (stateAfter (attempt (channelOfTexts texts) defaultMaxDepth {})).history =
      ({} : DiscoveryState).history ++ exchanges) :
    exchanges = exchangedFor texts := by
  rw [exchangedFor, history]
  exact (List.nil_append exchanges).symm

/-- What an exchange asked for, and the texts that came. -/
def carried (exchange : Exchange) : ReflectionQuery × Option (List String) :=
  (exchange.request.query, exchange.reply.texts?)

/-- The import is asked for last, whatever comes, and a text that is no base64 does no harm. -/
theorem carried_exchangedFor :
    ((exchangedFor [sentNoFile]).drop 2).map carried =
      [(.fileByFilename "b", some [sentNoFile])] ∧
    ((exchangedFor [sentNoFile, sentNoBase64]).drop 2).map carried =
      [(.fileByFilename "b", some [sentNoFile, sentNoBase64])] ∧
    carriedFile? sentNoFile = none ∧ Base64.decode? sentNoFile ≠ none ∧
    Base64.decode? sentNoBase64 = none ∧
    (outcome (attempt (channelOfTexts [sentNoFile, sentNoBase64]) defaultMaxDepth {})).isOk =
      true := by
  decide +kernel

/-- What was exchanged ends with an exchange of which this is known. -/
theorem exists_last_of_carried
    {exchanges : List Exchange}
    {count : Nat}
    {query : ReflectionQuery}
    {texts : Option (List String)}
    (last : (exchanges.drop count).map carried = [(query, texts)]) :
    ∃ before exchange, exchanges = before ++ [exchange] ∧
      exchange.request.query = query ∧ exchange.reply.texts? = texts := by
  obtain ⟨exchange, dropped, same⟩ := List.map_eq_singleton_iff.mp last
  obtain ⟨sameQuery, sameTexts⟩ := Prod.mk.inj same
  refine ⟨exchanges.take count, exchange, ?_, sameQuery, sameTexts⟩
  rw [← dropped, List.take_append_drop]

/-- Bytes that are no descriptor end the attempt, and with a text that is no base64 they do not. -/
theorem attempt_ends_at_import_noFile :
    (∃ fault, outcome (attempt (channelOfTexts [sentNoFile]) defaultMaxDepth {}) =
      .error (.malformedDescriptor fault)) ∧
    ¬ ∃ fault, outcome (attempt (channelOfTexts [sentNoFile, sentNoBase64]) defaultMaxDepth {}) =
      .error (.malformedDescriptor fault) := by
  obtain ⟨last, lastOfBoth, noFile, base64, noBase64, _⟩ := carried_exchangedFor
  constructor
  · obtain ⟨exchanges, history, ends⟩ :=
      attempt_ends_at_import_iff (channelOfTexts [sentNoFile]) defaultMaxDepth {}
    obtain ⟨before, exchange, split, query, carries⟩ := exists_last_of_carried last
    have same := (eq_of_history_exchangedFor history).trans split
    exact ((ends before exchange [] "b" _ same query carries
      ⟨sentNoFile, List.mem_cons_self, noFile⟩).mpr (List.forall_mem_singleton.mpr base64)).2
  · obtain ⟨exchanges, history, ends⟩ :=
      attempt_ends_at_import_iff (channelOfTexts [sentNoFile, sentNoBase64]) defaultMaxDepth {}
    obtain ⟨before, exchange, split, query, carries⟩ := exists_last_of_carried lastOfBoth
    have same := (eq_of_history_exchangedFor history).trans split
    intro failed
    exact (ends before exchange [] "b" _ same query carries
      ⟨sentNoFile, List.mem_cons_self, noFile⟩).mp ⟨rfl, failed⟩ sentNoBase64 (by simp) noBase64

/-- An attempt fails with a malformed descriptor if an import came with texts of no file. -/
def FailsAtUnreadableImports
    (channel : ReflectionChannel)
    (maxDepth : Nat)
    (state : DiscoveryState) :
    Prop :=
  ∃ exchanges,
    (stateAfter (attempt channel maxDepth state)).history = state.history ++ exchanges ∧
    ∀ exchange ∈ exchanges, ∀ path texts,
      exchange.request.query = .fileByFilename path →
      exchange.reply.texts? = some texts →
      (∃ text ∈ texts, carriedFile? text = none) →
        ∃ fault, outcome (attempt channel maxDepth state) = .error (.malformedDescriptor fault)

/-- An attempt can work though an import came with texts of which none carries a file. -/
theorem not_forall_failsAtUnreadableImports :
    ¬ ∀ channel maxDepth state, FailsAtUnreadableImports channel maxDepth state := by
  intro always
  obtain ⟨_, last, noFile, _, _, worked⟩ := carried_exchangedFor
  obtain ⟨exchanges, history, fails⟩ :=
    always (channelOfTexts [sentNoFile, sentNoBase64]) defaultMaxDepth {}
  obtain ⟨before, exchange, split, query, carries⟩ := exists_last_of_carried last
  have member : exchange ∈ exchanges := by
    rw [eq_of_history_exchangedFor history, split]
    exact List.mem_append_right before List.mem_cons_self
  obtain ⟨fault, failed⟩ := fails exchange member "b" _ query carries
    ⟨sentNoFile, List.mem_cons_self, noFile⟩
  rw [failed] at worked
  cases worked

end Discovery

end GrpcDiscovery
