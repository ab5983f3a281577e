import HomeAgents.Dispatch.Result

/-!
# Records of events

An event as a JSON object: its type, and what it tells under fixed names.
-/

namespace HomeAgents.Event

def label : Event → String
  | routed .. => "routed"
  | turnStart .. => "turn_start"
  | modelReply .. => "model_reply"
  | actionStart .. => "action_start"
  | actionEnd .. => "action_end"
  | parseError .. => "parse_error"
  | delegation .. => "delegation"
  | turnComplete .. => "turn_complete"
  | error .. => "error"
  | cancelled .. => "cancelled"

def details : Event → List (String × Json)
  | routed agent hinted => [("agent", .string agent), ("hinted", .bool hinted)]
  | turnStart agent depth => [("agent", .string agent), ("depth", .ofNat depth)]
  | modelReply agent turn text =>
    [("agent", .string agent), ("turn", .ofNat turn), ("text", .string text)]
  | actionStart agent kind name arguments =>
    [("agent", .string agent), ("kind", .string kind.label), ("name", .string name),
      ("arguments", .object arguments)]
  | actionEnd agent kind name output isError =>
    [("agent", .string agent), ("kind", .string kind.label), ("name", .string name),
      ("output", .string output), ("is_error", .bool isError)]
  | parseError agent message => [("agent", .string agent), ("error", .string message)]
  | delegation source target depth =>
    [("from", .string source), ("to", .string target), ("depth", .ofNat depth)]
  | turnComplete agent reason => [("agent", .string agent), ("reason", .string reason.label)]
  | error agent message => [("agent", .string agent), ("error", .string message)]
  | cancelled agent => [("agent", .string agent)]

def toJson (e : Event) : Json :=
  .ofMembers (("type", .string e.label) :: e.details)

end HomeAgents.Event
