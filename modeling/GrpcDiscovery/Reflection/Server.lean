import GrpcDiscovery.Reflection.Request

namespace GrpcDiscovery

/-!
# Servers

A server is known by its replies alone. What it replies may depend on everything
that was asked of it before, but it has finitely many replies to choose from, so
that the names it can bring up are finitely many too.

Requests that no server is there to take are refused.
-/

/-- A server, as the function from what went before and a request to a reply. -/
structure ReflectionServer where
  replies : List ReflectionReply
  reply : List Exchange → ReflectionRequest → ReflectionReply
  reply_mem :
    ∀ history request,
      reply history request ∈ replies

namespace ReflectionServer

/-- The server that is not there. -/
def absent : ReflectionServer where
  replies := [.refused]
  reply := fun _ _ => .refused
  reply_mem := by simp

/-- The server that can be reached by some requests only. -/
def reachedBy
    (server : ReflectionServer)
    (reaches : ReflectionRequest → Bool) :
    ReflectionServer where
  replies := .refused :: server.replies
  reply := fun history request =>
    if reaches request then
      server.reply history request
    else
      .refused
  reply_mem := by
    intro history request
    split
    · exact List.mem_cons_of_mem _ (server.reply_mem history request)
    · exact List.mem_cons_self

end ReflectionServer

end GrpcDiscovery
