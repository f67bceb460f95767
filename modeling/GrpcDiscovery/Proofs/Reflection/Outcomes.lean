import GrpcDiscovery.Proofs.Json.Grammar
import GrpcDiscovery.Proofs.Reflection.Form
import GrpcDiscovery.Proofs.Text.Base64
import GrpcDiscovery.Reflection.Channel

namespace GrpcDiscovery

/-!
# Outcomes of calls

A call comes to one outcome, which is found in a fixed order: whether the exchange
completes, whether the status is one of success, whether the body is an answer, whether the
answer refuses, whether it has what was wanted, and whether each text of that can be read.
The first of these that fails gives the error, and nothing is given in part.
-/

/-- What is wanted of an answer: texts in one of its parts, each of which stands for a value. -/
structure Wanted (α : Type) where
  part : ReflectionAnswer → Option (List String)
  /-- What is wrong with an answer without the part. -/
  missing : ResponseFault
  Stands : String → α → Prop

namespace Wanted

/-- The names of services, each as it is. -/
def services : Wanted String where
  part := ReflectionAnswer.services
  missing := .missingServices
  Stands := Eq

/-- Files, each in Base64. -/
def files : Wanted Bytes where
  part := ReflectionAnswer.descriptors
  missing := .missingDescriptors
  Stands := Base64.IsEncoding

end Wanted

/-- A body spells JSON that has the form of an answer. -/
def ReflectionAnswer.IsIn
    (answer : ReflectionAnswer)
    (body : String) :
    Prop :=
  ∃ written : Json.Written, written.IsIn body ∧ AnswerJson.IsAnswer written answer

/--
What a response says that is no success: the message in its body, or the whole body where
that is no JSON with a message.
-/
inductive SaysOnFailure (body : String) : String → Prop where
  | message
      {written : Json.Written}
      {message : String}
      (isIn : written.IsIn body)
      (isFailure : AnswerJson.IsFailure written (some message)) :
      SaysOnFailure body message
  | body
      (noMessage : ∀ (written : Json.Written) (message : String), written.IsIn body →
        ¬ AnswerJson.IsFailure written (some message)) :
      SaysOnFailure body body

namespace ReflectionChannel

section Stages

variable (channel : ReflectionChannel) (history : List Exchange) (query : ReflectionQuery)

/-- What comes of a query that is sent to an address. -/
def replyAt (url : Url) : ReflectionReply :=
  channel.server.reply history ⟨url, query, channel.userAgent⟩

/-- The exchange completes: a response comes, with a status and the text of its body. -/
inductive Completes : Nat → String → Prop where
  | intro
      {url : Url}
      {status : Nat}
      {body : Bytes}
      (target : channel.target = .ok url)
      (reply : channel.replyAt history query url = .response status body) :
      Completes status (Utf8.decodeLossy body)

/-- The response is one of success. -/
inductive Succeeds : String → Prop where
  | intro
      {status : Nat}
      {body : String}
      (completes : channel.Completes history query status body)
      (success : 200 ≤ status ∧ status ≤ 299) :
      Succeeds body

/-- Its body is an answer. -/
inductive Answers : ReflectionAnswer → Prop where
  | intro
      {body : String}
      {answer : ReflectionAnswer}
      (succeeds : channel.Succeeds history query body)
      (isIn : answer.IsIn body) :
      Answers answer

/-- The answer refuses nothing, and has the part that is wanted. -/
inductive Provides
    {α : Type}
    (wanted : Wanted α) :
    List String →
    Prop where
  | intro
      {answer : ReflectionAnswer}
      {texts : List String}
      (answers : channel.Answers history query answer)
      (unrefused : answer.refusal = none)
      (part : wanted.part answer = some texts) :
      Provides wanted texts

/-- What a call comes to: an error at the first stage that fails, or all that was wanted. -/
inductive IsOutcome
    {α : Type}
    (wanted : Wanted α) :
    Except ReflectionError (List α) →
    Prop where
  /-- No request can be sent to the address. -/
  | unbuildable
      {fault : RequestFault}
      (target : channel.target = .error (.request fault)) :
      IsOutcome wanted (.error (.request fault))
  /-- No response comes. -/
  | unsent
      {url : Url}
      (target : channel.target = .ok url)
      (reply : channel.replyAt history query url = .refused ∨
        channel.replyAt history query url = .dropped) :
      IsOutcome wanted (.error (.request (.unsent url.text)))
  /-- The response breaks off. -/
  | unreadable
      {url : Url}
      (target : channel.target = .ok url)
      (reply : channel.replyAt history query url = .truncated) :
      IsOutcome wanted (.error (.request .unreadableBody))
  /-- The response does not come in time. -/
  | overdue
      {url : Url}
      (target : channel.target = .ok url)
      (reply : channel.replyAt history query url = .overdue) :
      IsOutcome wanted (.error (.timeout channel.timeout))
  | failed
      {status : Nat}
      {body words : String}
      (completes : channel.Completes history query status body)
      (failed : ¬ (200 ≤ status ∧ status ≤ 299))
      (isSaid : SaysOnFailure body words) :
      IsOutcome wanted (.error (.httpStatus status words))
  | noAnswer
      {body : String}
      (succeeds : channel.Succeeds history query body)
      (noAnswer : ∀ answer : ReflectionAnswer, ¬ answer.IsIn body) :
      IsOutcome wanted (.error (.unexpectedResponse .invalidBody))
  | refused
      {answer : ReflectionAnswer}
      {code : Int32}
      {message : String}
      (answers : channel.Answers history query answer)
      (refusal : answer.refusal = some (code, message)) :
      IsOutcome wanted (.error (.application code message))
  | missing
      {answer : ReflectionAnswer}
      (answers : channel.Answers history query answer)
      (unrefused : answer.refusal = none)
      (missing : wanted.part answer = none) :
      IsOutcome wanted (.error (.unexpectedResponse wanted.missing))
  /-- One of the texts stands for nothing. -/
  | malformed
      {texts : List String}
      {text : String}
      (provides : channel.Provides history query wanted texts)
      (member : text ∈ texts)
      (malformed : ∀ value, ¬ wanted.Stands text value) :
      IsOutcome wanted (.error (.malformedDescriptor .notBase64))
  | given
      {texts : List String}
      {values : List α}
      (provides : channel.Provides history query wanted texts)
      (each : List.Forall₂ wanted.Stands texts values) :
      IsOutcome wanted (.ok values)

end Stages

end ReflectionChannel

/-! ## Judging responses -/

/-- Every text stands for a value, or one of them for none. -/
theorem Wanted.exists_each_or
    {α : Type}
    (wanted : Wanted α)
    (texts : List String) :
    (∃ values, List.Forall₂ wanted.Stands texts values) ∨
      ∃ text ∈ texts, ∀ value, ¬ wanted.Stands text value := by
  induction texts with
  | nil =>
      exact .inl ⟨[], .nil⟩
  | cons text rest inductionHypothesis =>
      by_cases stands : ∃ value, wanted.Stands text value
      · obtain ⟨value, first⟩ := stands
        rcases inductionHypothesis with ⟨values, each⟩ | ⟨other, member, malformed⟩
        · exact .inl ⟨value :: values, .cons first each⟩
        · exact .inr ⟨other, List.mem_cons_of_mem text member, malformed⟩
      · exact .inr ⟨text, List.mem_cons_self, not_exists.mp stands⟩

theorem ReflectionAnswer.parse?_eq_some_iff
    {body : String}
    {answer : ReflectionAnswer} :
    parse? body = some answer ↔ answer.IsIn body := by
  rw [parse?, Option.bind_eq_some_iff]
  simp only [Json.Written.parse?_eq_some_iff, AnswerJson.answer?_eq_some_iff, IsIn]

/-- Under a key that is not asked for, even a number without a value does no harm. -/
example :
    ReflectionAnswer.parse? "\x7b\"validHost\":1e999,\"listServicesResponse\":\x7b\x7d\x7d" =
      some ⟨some [], none, none⟩ := by
  decide +kernel

theorem ReflectionAnswer.parse?_eq_none_iff {body : String} :
    parse? body = none ↔ ∀ answer : ReflectionAnswer, ¬ answer.IsIn body := by
  simp only [Option.eq_none_iff_forall_ne_some, ne_eq, parse?_eq_some_iff]

namespace ReflectionReply

theorem isSuccess_iff (status : Nat) :
    isSuccess status = true ↔ 200 ≤ status ∧ status ≤ 299 := by
  simp only [isSuccess, Bool.and_eq_true, decide_eq_true_eq]
  omega

theorem failureText_eq_iff
    {body said : String} :
    failureText body = said ↔ SaysOnFailure body said := by
  have hasMessage (message : String) :
      (Json.Written.parse? body).bind AnswerJson.errorMessage? = some message ↔
        ∃ written : Json.Written, written.IsIn body ∧
          AnswerJson.IsFailure written (some message) := by
    rw [Option.bind_eq_some_iff]
    simp only [Json.Written.parse?_eq_some_iff, AnswerJson.errorMessage?_eq_some_iff]
  rw [failureText]
  cases found : (Json.Written.parse? body).bind AnswerJson.errorMessage? with
  | some message =>
      obtain ⟨written, parsed, isFailure⟩ := (hasMessage message).mp found
      constructor
      · rintro rfl
        exact .message parsed isFailure
      · intro isSaid
        cases isSaid with
        | message otherParsed otherFailure =>
            have other := (hasMessage said).mpr ⟨_, otherParsed, otherFailure⟩
            rw [found] at other
            exact Option.some.inj other
        | body noMessage =>
            exact absurd isFailure (noMessage written message parsed)
  | none =>
      constructor
      · rintro rfl
        refine .body fun written message parsed isFailure => ?_
        rw [(hasMessage message).mpr ⟨written, parsed, isFailure⟩] at found
        cases found
      · intro isSaid
        cases isSaid with
        | message parsed isFailure =>
            rw [(hasMessage said).mpr ⟨_, parsed, isFailure⟩] at found
            cases found
        | body =>
            rfl

/-- A status other than success decides by itself. -/
theorem answerOfResponse_of_failed
    {status : Nat}
    {body said : String}
    (failed : ¬ (200 ≤ status ∧ status ≤ 299))
    (isSaid : SaysOnFailure body said) :
    answerOfResponse status body = .error (.httpStatus status said) := by
  rw [answerOfResponse, if_pos (mt (isSuccess_iff status).mp failed),
    failureText_eq_iff.mpr isSaid]

theorem answerOfResponse_of_unparsed
    {status : Nat}
    {body : String}
    (success : 200 ≤ status ∧ status ≤ 299)
    (unparsed : ReflectionAnswer.parse? body = none) :
    answerOfResponse status body = .error (.unexpectedResponse .invalidBody) := by
  rw [answerOfResponse, if_neg (not_not.mpr ((isSuccess_iff status).mpr success))]
  simp only [unparsed]

theorem answerOfResponse_of_refusal
    {status : Nat}
    {body : String}
    {answer : ReflectionAnswer}
    {code : Int32}
    {message : String}
    (success : 200 ≤ status ∧ status ≤ 299)
    (parsed : ReflectionAnswer.parse? body = some answer)
    (refusal : answer.refusal = some (code, message)) :
    answerOfResponse status body = .error (.application code message) := by
  rw [answerOfResponse, if_neg (not_not.mpr ((isSuccess_iff status).mpr success))]
  simp only [parsed, refusal]

theorem answerOfResponse_of_unrefused
    {status : Nat}
    {body : String}
    {answer : ReflectionAnswer}
    (success : 200 ≤ status ∧ status ≤ 299)
    (parsed : ReflectionAnswer.parse? body = some answer)
    (unrefused : answer.refusal = none) :
    answerOfResponse status body = .ok answer := by
  rw [answerOfResponse, if_neg (not_not.mpr ((isSuccess_iff status).mpr success))]
  simp only [parsed, unrefused]

end ReflectionReply

/-! ## Picking from answers -/

/-- What is wanted of an answer is picked from it. -/
structure Wanted.IsPickedBy
    {α : Type}
    (wanted : Wanted α)
    (pick : ReflectionAnswer → Except ReflectionError (List α)) :
    Prop where
  missing {answer : ReflectionAnswer} :
    wanted.part answer = none →
      pick answer = .error (.unexpectedResponse wanted.missing)
  given {answer : ReflectionAnswer} {texts : List String} {values : List α} :
    wanted.part answer = some texts →
      List.Forall₂ wanted.Stands texts values →
        pick answer = .ok values
  malformed {answer : ReflectionAnswer} {texts : List String} {text : String} :
    wanted.part answer = some texts →
      text ∈ texts →
        (∀ value, ¬ wanted.Stands text value) →
          pick answer = .error (.malformedDescriptor .notBase64)

theorem Wanted.isPickedBy_listedServices :
    services.IsPickedBy ReflectionAnswer.listedServices where
  missing := by
    intro answer missing
    change answer.services = none at missing
    rw [ReflectionAnswer.listedServices, missing]
    rfl
  given := by
    intro answer texts values part each
    change answer.services = some texts at part
    change List.Forall₂ Eq texts values at each
    rw [List.forall₂_eq_eq_eq] at each
    rw [ReflectionAnswer.listedServices, part, each]
  malformed := by
    intro answer texts text _ _ malformed
    exact absurd rfl (malformed text)

theorem Wanted.isPickedBy_files : files.IsPickedBy ReflectionAnswer.files where
  missing := by
    intro answer missing
    change answer.descriptors = none at missing
    rw [ReflectionAnswer.files, missing]
    rfl
  given := by
    intro answer texts values part each
    change answer.descriptors = some texts at part
    rw [ReflectionAnswer.files, part]
    simp only [(mapM_eq_some_iff fun _ _ => Base64.decode?_eq_some_iff).mpr each]
  malformed := by
    intro answer texts text part member malformed
    change answer.descriptors = some texts at part
    rw [ReflectionAnswer.files, part]
    have unread := (mapM_eq_none_iff texts).mpr
      ⟨text, member, Base64.decode?_eq_none_iff.mpr malformed⟩
    simp only [unread]

namespace ReflectionChannel

section Calls

variable {channel : ReflectionChannel} {history : List Exchange} {query : ReflectionQuery}
variable {α : Type} {wanted : Wanted α} {pick : ReflectionAnswer → Except ReflectionError (List α)}

theorem ask_of_target
    {url : Url}
    (target : channel.target = .ok url) :
    (channel.ask query pick history).1 =
      ((channel.replyAt history query url).answer url channel.timeout).bind pick := by
  simp only [ask, target, replyAt]

theorem ask_of_completes
    {status : Nat}
    {body : String}
    (completes : channel.Completes history query status body) :
    (channel.ask query pick history).1 =
      (ReflectionReply.answerOfResponse status body).bind pick := by
  cases completes with
  | intro target reply =>
      rw [ask_of_target target, reply]
      rfl

theorem ask_of_noAnswer
    {body : String}
    (succeeds : channel.Succeeds history query body)
    (noAnswer : ∀ answer : ReflectionAnswer, ¬ answer.IsIn body) :
    (channel.ask query pick history).1 = .error (.unexpectedResponse .invalidBody) := by
  have unparsed := ReflectionAnswer.parse?_eq_none_iff.mpr noAnswer
  cases succeeds with
  | intro completes success =>
      rw [ask_of_completes completes,
        ReflectionReply.answerOfResponse_of_unparsed success unparsed]
      rfl

/-- An answer that refuses is not looked at further. -/
theorem ask_of_refusal
    {answer : ReflectionAnswer}
    {code : Int32}
    {message : String}
    (answers : channel.Answers history query answer)
    (refusal : answer.refusal = some (code, message)) :
    (channel.ask query pick history).1 = .error (.application code message) := by
  cases answers with
  | intro succeeds isIn =>
      have parsed := ReflectionAnswer.parse?_eq_some_iff.mpr isIn
      cases succeeds with
      | intro completes success =>
          rw [ask_of_completes completes,
            ReflectionReply.answerOfResponse_of_refusal success parsed refusal]
          rfl

/-- What is picked of an answer that does not refuse decides. -/
theorem ask_of_unrefused
    {answer : ReflectionAnswer}
    (answers : channel.Answers history query answer)
    (unrefused : answer.refusal = none) :
    (channel.ask query pick history).1 = pick answer := by
  cases answers with
  | intro succeeds isIn =>
      have parsed := ReflectionAnswer.parse?_eq_some_iff.mpr isIn
      cases succeeds with
      | intro completes success =>
          rw [ask_of_completes completes,
            ReflectionReply.answerOfResponse_of_unrefused success parsed unrefused]
          rfl

/-- A call gives the outcome to which it comes. -/
theorem ask_eq_of_isOutcome
    (isPicked : wanted.IsPickedBy pick)
    {outcome : Except ReflectionError (List α)}
    (isOutcome : channel.IsOutcome history query wanted outcome) :
    (channel.ask query pick history).1 = outcome := by
  cases isOutcome with
  | unbuildable target =>
      simp only [ask, target]
  | unsent target reply =>
      rw [ask_of_target target]
      rcases reply with refused | dropped
      · rw [refused]
        rfl
      · rw [dropped]
        rfl
  | unreadable target reply =>
      rw [ask_of_target target, reply]
      rfl
  | overdue target reply =>
      rw [ask_of_target target, reply]
      rfl
  | failed completes failed isSaid =>
      rw [ask_of_completes completes, ReflectionReply.answerOfResponse_of_failed failed isSaid]
      rfl
  | noAnswer succeeds noAnswer =>
      exact ask_of_noAnswer succeeds noAnswer
  | refused answers refusal =>
      exact ask_of_refusal answers refusal
  | missing answers unrefused missing =>
      rw [ask_of_unrefused answers unrefused]
      exact isPicked.missing missing
  | malformed provides member malformed =>
      cases provides with
      | intro answers unrefused part =>
          rw [ask_of_unrefused answers unrefused]
          exact isPicked.malformed part member malformed
  | given provides each =>
      cases provides with
      | intro answers unrefused part =>
          rw [ask_of_unrefused answers unrefused]
          exact isPicked.given part each

/-- Where the server is given by a URL, requests have a target or cannot be built. -/
theorem exists_target_or
    (valid : (Url.parse channel.serverUrl).isOk = true) :
    (∃ url, channel.target = .ok url) ∨
      ∃ fault, channel.target = .error (.request fault) := by
  obtain ⟨base, parsed⟩ : ∃ base, Url.parse channel.serverUrl = .ok base := by
    cases parsed : Url.parse channel.serverUrl with
    | ok base =>
        exact ⟨base, rfl⟩
    | error cause =>
        rw [parsed] at valid
        cases valid
  simp only [target, endpoint, parsed]
  generalize withoutTrailingSlashes channel.serverUrl ++ channel.version.endpointPath = address
  cases Url.ofEndpoint address with
  | ok url =>
      exact .inl ⟨url, rfl⟩
  | error fault =>
      exact .inr ⟨fault, rfl⟩

/-- An answer comes to an outcome. -/
theorem exists_isOutcome_of_answers
    (wanted : Wanted α)
    {answer : ReflectionAnswer}
    (answers : channel.Answers history query answer) :
    ∃ outcome, channel.IsOutcome history query wanted outcome := by
  cases refusal : answer.refusal with
  | some refused =>
      exact ⟨_, .refused answers refusal⟩
  | none =>
      cases part : wanted.part answer with
      | none =>
          exact ⟨_, .missing answers refusal part⟩
      | some texts =>
          have provides : channel.Provides history query wanted texts := .intro answers refusal part
          rcases wanted.exists_each_or texts with ⟨values, each⟩ | ⟨text, member, malformed⟩
          · exact ⟨_, .given provides each⟩
          · exact ⟨_, .malformed provides member malformed⟩

/-- A response comes to an outcome. -/
theorem exists_isOutcome_of_completes
    (wanted : Wanted α)
    {status : Nat}
    {body : String}
    (completes : channel.Completes history query status body) :
    ∃ outcome, channel.IsOutcome history query wanted outcome := by
  by_cases success : 200 ≤ status ∧ status ≤ 299
  · have succeeds : channel.Succeeds history query body := .intro completes success
    by_cases hasAnswer : ∃ answer : ReflectionAnswer, answer.IsIn body
    · obtain ⟨answer, isIn⟩ := hasAnswer
      exact exists_isOutcome_of_answers wanted (.intro succeeds isIn)
    · exact ⟨_, .noAnswer succeeds (not_exists.mp hasAnswer)⟩
  · exact ⟨_, .failed completes success (ReflectionReply.failureText_eq_iff.mp rfl)⟩

/-- Every call comes to an outcome. -/
theorem exists_isOutcome
    (valid : (Url.parse channel.serverUrl).isOk = true)
    (history : List Exchange)
    (query : ReflectionQuery)
    (wanted : Wanted α) :
    ∃ outcome, channel.IsOutcome history query wanted outcome := by
  rcases exists_target_or valid with ⟨url, target⟩ | ⟨fault, target⟩
  · cases reply : channel.replyAt history query url with
    | response status body =>
        exact exists_isOutcome_of_completes wanted (.intro target reply)
    | refused =>
        exact ⟨_, .unsent target (.inl reply)⟩
    | dropped =>
        exact ⟨_, .unsent target (.inr reply)⟩
    | truncated =>
        exact ⟨_, .unreadable target reply⟩
    | overdue =>
        exact ⟨_, .overdue target reply⟩
  · exact ⟨_, .unbuildable target⟩

/-- A call gives the one outcome to which it comes. -/
theorem ask_eq_iff_isOutcome
    (valid : (Url.parse channel.serverUrl).isOk = true)
    (isPicked : wanted.IsPickedBy pick)
    (outcome : Except ReflectionError (List α)) :
    (channel.ask query pick history).1 = outcome ↔
      channel.IsOutcome history query wanted outcome := by
  constructor
  · rintro rfl
    obtain ⟨outcome, isOutcome⟩ := exists_isOutcome valid history query wanted
    rwa [ask_eq_of_isOutcome isPicked isOutcome]
  · exact ask_eq_of_isOutcome isPicked

/-- Nothing succeeds where no response comes from the address of the channel. -/
theorem not_succeeds_of_no_response
    {url : Url}
    (target : channel.target = .ok url)
    (noResponse : ∀ status bytes, channel.replyAt history query url ≠ .response status bytes)
    (body : String) :
    ¬ channel.Succeeds history query body := by
  rintro ⟨⟨otherTarget, reply⟩, _⟩
  rw [target] at otherTarget
  cases otherTarget
  exact noResponse _ _ reply

theorem Answers.exists_succeeds
    {answer : ReflectionAnswer}
    (answers : channel.Answers history query answer) :
    ∃ body, channel.Succeeds history query body := by
  cases answers with
  | intro succeeds isIn =>
      exact ⟨_, succeeds⟩

/-- Failures of the transport are those without a response of success. -/
theorem IsOutcome.isTransport_iff
    {failure : ReflectionError}
    (isOutcome : channel.IsOutcome history query wanted (.error failure)) :
    failure.isTransport = true ↔ ¬ ∃ body, channel.Succeeds history query body := by
  cases isOutcome with
  | unbuildable target =>
      refine iff_of_true rfl ?_
      rintro ⟨body, ⟨⟨otherTarget, reply⟩, success⟩⟩
      rw [target] at otherTarget
      cases otherTarget
  | unsent target reply =>
      refine iff_of_true rfl (not_exists.mpr (not_succeeds_of_no_response target ?_))
      intro status bytes response
      rw [response] at reply
      rcases reply with refused | dropped
      · cases refused
      · cases dropped
  | unreadable target reply =>
      refine iff_of_true rfl (not_exists.mpr (not_succeeds_of_no_response target ?_))
      rw [reply]
      exact fun status bytes => ReflectionReply.noConfusion
  | overdue target reply =>
      refine iff_of_true rfl (not_exists.mpr (not_succeeds_of_no_response target ?_))
      rw [reply]
      exact fun status bytes => ReflectionReply.noConfusion
  | failed completes failed isSaid =>
      refine iff_of_true rfl ?_
      rintro ⟨body, ⟨⟨otherTarget, otherReply⟩, success⟩⟩
      cases completes with
      | intro target reply =>
          rw [target] at otherTarget
          cases otherTarget
          rw [reply] at otherReply
          cases otherReply
          exact failed success
  | noAnswer succeeds noAnswer =>
      exact iff_of_false Bool.false_ne_true (not_not.mpr ⟨_, succeeds⟩)
  | refused answers refusal =>
      exact iff_of_false Bool.false_ne_true (not_not.mpr answers.exists_succeeds)
  | missing answers unrefused missing =>
      exact iff_of_false Bool.false_ne_true (not_not.mpr answers.exists_succeeds)
  | malformed provides member malformed =>
      cases provides with
      | intro answers unrefused part =>
          exact iff_of_false Bool.false_ne_true (not_not.mpr answers.exists_succeeds)

end Calls

/--
Each call through a channel to a server with a valid URL gives the one outcome to which it
comes, and its failures are failures of the transport where no response of success comes.
-/
theorem calls_eq_iff_isOutcome
    (channel : ReflectionChannel)
    (valid : (Url.parse channel.serverUrl).isOk = true)
    (history : List Exchange) :
    (∀ outcome, (channel.listServices history).1 = outcome ↔
      channel.IsOutcome history .listServices .services outcome) ∧
    (∀ symbol outcome, (channel.filesDefining symbol history).1 = outcome ↔
      channel.IsOutcome history (.fileContainingSymbol symbol) .files outcome) ∧
    (∀ path outcome, (channel.filesNamed path history).1 = outcome ↔
      channel.IsOutcome history (.fileByFilename path) .files outcome) ∧
    (∀ (α : Type) (query : ReflectionQuery) (wanted : Wanted α) (failure : ReflectionError),
      channel.IsOutcome history query wanted (.error failure) →
        (failure.isTransport = true ↔ ¬ ∃ body, channel.Succeeds history query body)) := by
  refine ⟨?_, ?_, ?_, fun α query wanted failure isOutcome => isOutcome.isTransport_iff⟩
  · exact ask_eq_iff_isOutcome valid Wanted.isPickedBy_listedServices
  · exact fun symbol => ask_eq_iff_isOutcome valid Wanted.isPickedBy_files
  · exact fun path => ask_eq_iff_isOutcome valid Wanted.isPickedBy_files

/-- A channel to a server that sends the same text in every response of success. -/
def ofBody (body : String) : ReflectionChannel where
  server := {
    replies := [.response 200 (Utf8.encode body)]
    reply := fun _ _ => .response 200 (Utf8.encode body)
    reply_mem := fun _ _ => List.mem_singleton_self _ }
  serverUrl := "http://a"
  version := .v1
  userAgent := ""
  timeout := 1000

/-- An answer that refuses and lists no services beside that. -/
def refusingListing : String :=
  "\x7b\"listServicesResponse\":\x7b\x7d,\"errorResponse\":\x7b\"errorCode\":5\x7d\x7d"

/-- An answer with two texts, the second of which is no encoding. -/
def halfReadable : String :=
  "\x7b\"fileDescriptorResponse\":\x7b\"fileDescriptorProto\":[\"QQ==\",\"QQ=\"]\x7d\x7d"

/--
The call that is refused beside what was wanted comes to the refusal, and the one that gets
two files of which one cannot be read to no file at all.
-/
theorem calls_eq_iff_isOutcome_combined :
    (ofBody refusingListing).IsOutcome [] .listServices .services (.error (.application 5 "")) ∧
    (ofBody halfReadable).IsOutcome [] (.fileByFilename "a") .files
      (.error (.malformedDescriptor .notBase64)) ∧
    ∃ body, (ofBody halfReadable).Succeeds [] (.fileByFilename "a") body := by
  obtain ⟨listing, _, _, _⟩ :=
    calls_eq_iff_isOutcome (ofBody refusingListing) (by decide +kernel) []
  obtain ⟨_, _, named, transport⟩ :=
    calls_eq_iff_isOutcome (ofBody halfReadable) (by decide +kernel) []
  have malformed := (named "a" (.error (.malformedDescriptor .notBase64))).mp (by decide +kernel)
  refine ⟨(listing _).mp (by decide +kernel), malformed, ?_⟩
  by_contra none
  have isTransport := (transport Bytes _ _ _ malformed).mpr none
  exact absurd isTransport Bool.false_ne_true

end ReflectionChannel

end GrpcDiscovery
