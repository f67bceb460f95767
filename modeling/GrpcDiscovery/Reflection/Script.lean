import GrpcDiscovery.Reflection.Server

namespace GrpcDiscovery

/-!
# Scripted servers

A script is a list of rules. The first rule whose conditions hold of a request
gives the reply, and a rule may be limited to a number of uses. A request that no
rule takes is answered by a response that nothing was found.
-/

/-- What a rule asks of the query. -/
structure QueryCondition where
  key : String
  argument : Option String
deriving DecidableEq, Repr

/-- A rule: its conditions and its reply. -/
structure ScriptRule where
  version : Option ReflectionVersion := none
  query : Option QueryCondition := none
  /-- How often the rule may be used. -/
  times : Option Nat := none
  reply : ReflectionReply
deriving DecidableEq, Repr

namespace ScriptRule

/-- Whether a condition on the query holds of a request. -/
def admitsQuery
    (condition : QueryCondition)
    (request : ReflectionRequest) :
    Bool :=
  condition.key == request.query.key &&
    match condition.argument with
    | some argument =>
        argument == request.query.argument
    | none =>
        true

/-- Whether the conditions of a rule that was used so often hold of a request. -/
def admits
    (rule : ScriptRule)
    (uses : Nat)
    (request : ReflectionRequest) :
    Bool :=
  rule.version.all request.isOfVersion &&
    rule.query.all (fun condition => admitsQuery condition request) &&
    rule.times.all (fun limit => uses < limit)

end ScriptRule

namespace Script

/-- The reply to a request that no rule takes. -/
def notFound : ReflectionReply :=
  .response 404 []

/-- A response, which has no body where its status says so. -/
def response
    (status : Nat)
    (body : Bytes) :
    ReflectionReply :=
  .response status (if status = 204 ∨ status = 304 then [] else body)

/-- Take a request: the reply of the first rule that admits it, and the rules with their uses. -/
def step
    (request : ReflectionRequest) :
    List (ScriptRule × Nat) →
    ReflectionReply × List (ScriptRule × Nat)
  | [] =>
      (notFound, [])
  | (rule, uses) :: rest =>
      if rule.admits uses request then
        (rule.reply, (rule, uses + 1) :: rest)
      else
        let (reply, rest) := step request rest
        (reply, (rule, uses) :: rest)

/-- The rules with the number of uses that requests made of each. -/
def after
    (rules : List ScriptRule)
    (requests : List ReflectionRequest) :
    List (ScriptRule × Nat) :=
  requests.foldl
    (fun state request => (step request state).2)
    (rules.map fun rule => (rule, 0))

/-- A step replies as a rule does, or that nothing was found. -/
theorem step_reply
    (request : ReflectionRequest)
    (state : List (ScriptRule × Nat)) :
    (step request state).1 = notFound ∨
      ∃ entry ∈ state, (step request state).1 = entry.1.reply := by
  induction state with
  | nil =>
      exact .inl rfl
  | cons entry rest inductionHypothesis =>
      obtain ⟨rule, uses⟩ := entry
      simp only [step]
      split
      · exact .inr ⟨(rule, uses), List.mem_cons_self, rfl⟩
      · rcases inductionHypothesis with found | ⟨entry, member, same⟩
        · exact .inl found
        · exact .inr ⟨entry, List.mem_cons_of_mem _ member, same⟩

/-- A step changes the uses of rules only. -/
theorem step_rules
    (request : ReflectionRequest)
    (state : List (ScriptRule × Nat)) :
    (step request state).2.map Prod.fst = state.map Prod.fst := by
  induction state with
  | nil =>
      rfl
  | cons entry rest inductionHypothesis =>
      obtain ⟨rule, uses⟩ := entry
      simp only [step]
      split
      · rfl
      · simp [inductionHypothesis]

/-- Whatever was asked, the rules are those of the script. -/
theorem after_rules
    (rules : List ScriptRule)
    (requests : List ReflectionRequest) :
    (after rules requests).map Prod.fst = rules := by
  have general
      (state : List (ScriptRule × Nat)) :
      (requests.foldl (fun state request => (step request state).2) state).map Prod.fst =
        state.map Prod.fst := by
    induction requests generalizing state with
    | nil =>
        rfl
    | cons request rest inductionHypothesis =>
        rw [List.foldl_cons, inductionHypothesis, step_rules]
  rw [after, general]
  simp [Function.comp_def]

end Script

/-- The server that follows a script. -/
def ReflectionServer.ofScript (rules : List ScriptRule) : ReflectionServer where
  replies := Script.notFound :: rules.map ScriptRule.reply
  reply := fun history request =>
    let taken := history.filter fun exchange => exchange.reply.hasArrived
    (Script.step request (Script.after rules (taken.map Exchange.request))).1
  reply_mem := by
    intro history request
    rcases Script.step_reply request
        (Script.after rules
          ((history.filter fun exchange => exchange.reply.hasArrived).map Exchange.request)) with
      found | ⟨entry, member, same⟩
    · simp [found]
    · have listed : entry.1 ∈ rules := by
        rw [← Script.after_rules rules
          ((history.filter fun exchange => exchange.reply.hasArrived).map Exchange.request)]
        exact List.mem_map_of_mem member
      rw [same]
      exact List.mem_cons_of_mem _ (List.mem_map_of_mem listed)

end GrpcDiscovery
