import HomeAgents.Json.Tree
import HomeAgents.Time.Civil
import HomeAgents.Tool.Basic

/-!
# The clock tool

Tells the date, the time and the day of the week, in local time unless universal time is asked for.
-/

namespace HomeAgents.House

open Json

/-- The arguments of the clock tool. Nothing stands for an argument that is not given. -/
structure NowArgs where
  timezone : Option (Option String) := none

def nowArguments : List (Argument NowArgs) :=
  [.of "timezone" [] false (·.timezone.isSome) (Json.toOption Json.toText) fun v a =>
    { a with timezone := some v }]

def clockText (t : Time.Local) : String :=
  t.civil.dateText ++ " " ++ t.civil.clockText ++ ":" ++ Time.padded 2 t.civil.second

/-- The time in universal time, or in local time with the zone that was asked for instead. -/
def nowText (now : Time.Local) (timezone : Option String) : String :=
  let told (t : Time.Local) (clock zone : String) : String :=
    clock ++ "\nWeekday: " ++ t.weekday ++ "\nTimezone: " ++ zone
  let toldHere := told now (clockText now ++ " " ++ now.offsetText)
  match timezone with
  | none => toldHere "Local"
  | some zone =>
    if zone.toList.map Char.toLower = "utc".toList then
      told now.moment (clockText now.moment) "UTC"
    else toldHere ("Local (requested: " ++ zone ++ ")")

/-- An optional argument as a schema describes it. -/
def propertySchema (kind description : String) : Json :=
  .ofMembers [("type", .string kind), ("description", .string description)]

def argumentsSchema (properties : List (String × Json)) (required : List String) : Json :=
  .ofMembers [("type", .string "object"), ("properties", .ofMembers properties),
    ("required", .array (required.map .string))]

/-- The clock tool, on a world with a clock. -/
def now {σ : Type} (clock : σ → Time.Local) : Tool σ where
  name := "now"
  definition :=
    { name := "now"
      description :=
        "Get the current date, time and weekday. Use before resolving relative dates like " ++
        "\"tomorrow\" or \"next Friday\"."
      parameters := argumentsSchema
        [("timezone",
          propertySchema "string" "Optional timezone, \"UTC\" or omitted for local time")] [] }
  execute args _ world :=
    match takeArguments nowArguments {} args with
    | .error m => .pure (.failure ("Invalid arguments: " ++ m.message)) world
    | .ok a => .pure (.success (nowText (clock world) (a.timezone.getD none))) world
  humanize _ result := "checked the time (" ++ Text.firstLine result.output ++ ")"

end HomeAgents.House
