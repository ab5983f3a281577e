import HomeAgents.Agent.ConfigText
import HomeAgents.Text.Blank
import HomeAgents.Yaml.Decode

/-!
# Overrides of configurations

An override sets some fields of a configuration and leaves the others. Files hold overrides in
YAML, where every name has to be that of a field.
-/

namespace HomeAgents

/-- The fields that an override sets. -/
structure AgentOverride where
  displayName : Option String := none
  description : Option String := none
  systemPrompt : Option String := none
  temperature : Option Binary.Value := none
  tools : Option (List String) := none
  services : Option (List String) := none
  commands : Option (Ordered String) := none
  maxTurns : Option Nat := none
  canNest : Option Bool := none
  historyWindow : Option Nat := none
  promptStyle : Option PromptStyle := none
  keywords : Option (List String) := none
  model : Option String := none
  maxTokens : Option Nat := none
deriving DecidableEq, Repr, Inhabited

namespace AgentOverride

open Yaml

/-- The configuration with the fields that are set. -/
def applyTo (o : AgentOverride) (c : AgentConfig) : AgentConfig :=
  { c with
    displayName := o.displayName <|> c.displayName
    description := o.description <|> c.description
    systemPrompt := o.systemPrompt.getD c.systemPrompt
    temperature := o.temperature.getD c.temperature
    tools := o.tools.getD c.tools
    services := o.services.getD c.services
    commands := o.commands.getD c.commands
    maxTurns := o.maxTurns.getD c.maxTurns
    canNest := o.canNest.getD c.canNest
    historyWindow := o.historyWindow.getD c.historyWindow
    promptStyle := o.promptStyle.getD c.promptStyle
    keywords := o.keywords.getD c.keywords
    model := o.model <|> c.model
    maxTokens := o.maxTokens <|> c.maxTokens }

/-- The configuration of a name with several overrides, the later ones over the earlier. -/
def applyAll (name : String) (layers : List AgentOverride) (c : AgentConfig) : AgentConfig :=
  { layers.foldl (fun c o => o.applyTo c) c with name }

def optionField {α : Type} (name : String) (value : Taker α)
    (set : Option α → AgentOverride → AgentOverride) : Take.Field AgentOverride :=
  .of name (Take.option value) set

/-- The fields of an override in a file. -/
def fields : List (Take.Field AgentOverride) :=
  [optionField "display_name" Take.text fun v o => { o with displayName := v },
    optionField "description" Take.text fun v o => { o with description := v },
    optionField "system_prompt" Take.text fun v o => { o with systemPrompt := v },
    optionField "temperature" Take.single fun v o => { o with temperature := v },
    optionField "tools" (Take.list Take.text) fun v o =>
      { o with tools := v.map Ordered.distinct },
    optionField "services" (Take.list Take.text) fun v o =>
      { o with services := v.map Ordered.distinct },
    optionField "commands" (Take.table Take.text) fun v o =>
      { o with commands := v.map Ordered.ofList },
    optionField "max_turns" (Take.natural (Nat.pow 2 64)) fun v o => { o with maxTurns := v },
    optionField "can_nest" Take.bool fun v o => { o with canNest := v },
    optionField "history_window" (Take.natural (Nat.pow 2 64)) fun v o =>
      { o with historyWindow := v },
    optionField "prompt_style" (Take.choice PromptStyle.variants) fun v o =>
      { o with promptStyle := v },
    optionField "keywords" (Take.list Take.text) fun v o => { o with keywords := v },
    optionField "model" Take.text fun v o => { o with model := v },
    optionField "max_tokens" (Take.natural (Nat.pow 2 32)) fun v o => { o with maxTokens := v }]

/-- The override that the text of a file holds; a blank file sets nothing. -/
def ofText (text : String) : Except Yaml.Fault AgentOverride :=
  if Text.isBlankText text then .ok {} else Yaml.recordOfText true fields {} text

open AgentConfig Json in
def toText (o : AgentOverride) : String :=
  objectText
    (optionMember "display_name" stringText o.displayName ++
      optionMember "description" stringText o.description ++
      optionMember "system_prompt" stringText o.systemPrompt ++
      optionMember "temperature" temperatureText o.temperature ++
      optionMember "tools" listText o.tools ++
      optionMember "services" listText o.services ++
      optionMember "commands" tableText o.commands ++
      optionMember "max_turns" (fun n : Nat => toString n) o.maxTurns ++
      optionMember "can_nest" boolText o.canNest ++
      optionMember "history_window" (fun n : Nat => toString n) o.historyWindow ++
      optionMember "prompt_style" (fun s : PromptStyle => stringText s.label) o.promptStyle ++
      optionMember "keywords" listText o.keywords ++
      optionMember "model" stringText o.model ++
      optionMember "max_tokens" (fun n : Nat => toString n) o.maxTokens)

end AgentOverride

end HomeAgents
