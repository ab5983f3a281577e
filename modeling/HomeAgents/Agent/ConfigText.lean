import HomeAgents.Agent.Config
import HomeAgents.Json.Record

/-!
# Configurations as JSON text

A configuration is written with its fields in the order of their declaration and without the
options it leaves open. Reading fills fields that are not given with those of a configuration
without a name.
-/

namespace HomeAgents.AgentConfig

open Json

/-- What has been read of a configuration, and which fields were given. -/
structure Draft where
  config : AgentConfig := .new ""
  given : List String := []

def draftField {α : Type} (name : String) (value : Reader α) (set : α → AgentConfig → AgentConfig) :
    Json.Field Draft :=
  .of name false (·.given.contains name) value fun v d =>
    ⟨set v d.config, name :: d.given⟩

def draftRecord (limit : Nat) : Record Draft where
  title := "struct AgentConfig"
  fields := [
    draftField "name" readText fun v c => { c with name := v },
    draftField "display_name" (readOption readText) fun v c => { c with displayName := v },
    draftField "description" (readOption readText) fun v c => { c with description := v },
    draftField "system_prompt" readText fun v c => { c with systemPrompt := v },
    draftField "temperature" readSingle fun v c => { c with temperature := v },
    draftField "tools" (readList limit "a set" readText) fun v c =>
      { c with tools := Ordered.distinct v },
    draftField "services" (readList limit "a set" readText) fun v c =>
      { c with services := Ordered.distinct v },
    draftField "commands" (readMap limit readText) fun v c =>
      { c with commands := Ordered.ofList v },
    draftField "max_turns" readSize fun v c => { c with maxTurns := v },
    draftField "can_nest" readBool fun v c => { c with canNest := v },
    draftField "history_window" readSize fun v c => { c with historyWindow := v },
    draftField "prompt_style" (readVariant PromptStyle.variants) fun v c =>
      { c with promptStyle := v },
    draftField "keywords" (readList limit "a sequence" readText) fun v c =>
      { c with keywords := v },
    draftField "model" (readOption readText) fun v c => { c with model := v },
    draftField "max_tokens" (readOption readSmall) fun v c => { c with maxTokens := v },
    draftField "built_in" readBool fun v c => { c with builtIn := v }]

def ofText (text : String) : Except Fault AgentConfig :=
  (readWhole (fun limit => (draftRecord limit).read limit {}) text.toList).map (·.config)

def listText (xs : List String) : String :=
  arrayText (xs.map stringText)

/-- The text of a table of texts, in its order. -/
def tableText (entries : Ordered String) : String :=
  objectText (entries.map fun e => (e.1, stringText e.2))

def temperatureText (t : Binary.Value) : String :=
  realText Binary.single singleLayout t

def boolText (b : Bool) : String :=
  if b then "true" else "false"

def optionMember {α : Type} (name : String) (write : α → String) (value : Option α) :
    List (String × String) :=
  (value.map fun v => (name, write v)).toList

def textMembers (c : AgentConfig) : List (String × String) :=
  [("name", stringText c.name)] ++
  optionMember "display_name" stringText c.displayName ++
  optionMember "description" stringText c.description ++
  [("system_prompt", stringText c.systemPrompt),
    ("temperature", temperatureText c.temperature),
    ("tools", listText c.tools),
    ("services", listText c.services),
    ("commands", tableText c.commands),
    ("max_turns", toString c.maxTurns),
    ("can_nest", boolText c.canNest),
    ("history_window", toString c.historyWindow),
    ("prompt_style", stringText c.promptStyle.label),
    ("keywords", listText c.keywords)] ++
  optionMember "model" stringText c.model ++
  optionMember "max_tokens" (fun n : Nat => toString n) c.maxTokens ++
  [("built_in", boolText c.builtIn)]

def toText (c : AgentConfig) : String :=
  objectText c.textMembers

end HomeAgents.AgentConfig
