import HomeAgents.CommandLine.Household
import HomeAgents.Reply.Decode

/-!
# Replays

A household works in one go, but replies of a server are there only after they were asked for. So
its work is replayed: with the replies known so far it runs up to the first request that none of
them answers; that request is sent, its reply is added, and the work runs again.
-/

namespace HomeAgents.CommandLine

/-- The replies known and not used yet, the first request without one, and the time. -/
structure Known where
  replies : List (Option Http.Reply)
  wanted : Option Http.Request
  now : Time.Local

namespace Known

/-- Answers a request from what is known. The work is given up at the first request that is not. -/
def send : Http.Transport Known := fun request k =>
  match k.replies with
  | reply :: rest => .pure reply { k with replies := rest }
  | [] => ⟨none, true, [], { k with wanted := k.wanted.or (some request) }⟩

def outside : Outside Known :=
  ⟨fun k => { time := k.now }, send⟩

end Known

/-- The paths that the tool calls of a text name. -/
def pathsOf (text : String) : List String :=
  (Reply.parse text).blocks.filterMap fun
    | .toolCall c => (Sorted.find? "path" c.args).bind Json.asString?
    | _ => none

/-- The paths that tool calls in the reply of a server name. -/
def pathsIn (reply : Option Http.Reply) : List String :=
  match reply.map fun r => Json.read r.body with
  | some (.ok json) => ((Client.firstChoice? json).map pathsOf).getD []
  | _ => []

/-- The household with replies that are known, of which none is used yet. -/
def Household.knowing (h : Household Known) (replies : List (Option Http.Reply))
    (now : Time.Local) : Household Known :=
  { h with world := { h.world with outside := ⟨replies, none, now⟩ } }

end HomeAgents.CommandLine
