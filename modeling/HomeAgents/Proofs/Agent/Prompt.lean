import HomeAgents.Agent.Prompt
import HomeAgents.Proofs.Collection.Ordered

/-!
# The commands a prompt lists

The prompt lists the command table grouped by service, and a command is later looked up in the table
itself. In a valid configuration the two agree: what is listed under a service is exactly what goes
to it, in the order of the table.
-/

namespace HomeAgents.AgentConfig

variable {σ : Type} {c : AgentConfig} {commands : Ordered String} {action service : String}

theorem serviceFor_eq_some :
    c.serviceFor action = some service ↔
      Ordered.find? action c.commands = some service ∧ service ∈ c.services := by
  simp [serviceFor, allowsService, Option.filter_eq_some_iff]

/-- In a valid configuration the table goes to services that the agent declares. -/
theorem serviceFor_of_valid (hc : c.basicProblem? = none)
    (h : Ordered.find? action c.commands = some service) :
    c.serviceFor action = some service := by
  have hlater {p : Prop} [Decidable p] {x : ConfigProblem} {y : Option ConfigProblem}
      (hxy : (if p then some x else y) = none) : y = none := by
    split at hxy
    · cases hxy
    · exact hxy
  have hnone : List.find? (fun e => !c.allowsService e.2) c.commands = none :=
    Option.map_eq_none_iff.mp (hlater (hlater (hlater (hlater (hlater hc)))))
  obtain ⟨front, back, hcommands, _⟩ := List.lookup_eq_some_iff.mp h
  have hmem : (action, service) ∈ c.commands := by simp [hcommands]
  refine serviceFor_eq_some.mpr ⟨h, ?_⟩
  simpa [allowsService] using List.find?_eq_none.mp hnone _ hmem

/-- The services of a table, each where its first action stands. -/
def servicesOf (commands : Ordered String) : List String :=
  (commands.map Prod.snd).eraseDups

/-- The actions of a service in the order of the table. -/
def actionsOf (commands : Ordered String) (service : String) : List String :=
  (commands.filter (·.2 = service)).map Prod.fst

theorem mem_servicesOf :
    service ∈ servicesOf commands ↔ ∃ action, (action, service) ∈ commands := by
  simp [servicesOf]

theorem nodup_servicesOf (commands : Ordered String) : (servicesOf commands).Nodup :=
  nodup_eraseDups _

theorem mem_actionsOf : action ∈ actionsOf commands service ↔ (action, service) ∈ commands := by
  simp [actionsOf]

theorem servicesOf_append_singleton (commands : Ordered String) (e : String × String) :
    servicesOf (commands ++ [e]) =
      if e.2 ∈ servicesOf commands then servicesOf commands else servicesOf commands ++ [e.2] := by
  simp only [servicesOf, List.map_append, List.map_singleton, eraseDups_append_singleton,
    List.mem_eraseDups]

theorem actionsOf_append_singleton (commands : Ordered String) (e : String × String)
    (service : String) :
    actionsOf (commands ++ [e]) service =
      if service = e.2 then actionsOf commands service ++ [e.1]
      else actionsOf commands service := by
  rw [actionsOf, List.filter_append, List.filter_singleton]
  by_cases h : service = e.2
  · simp [actionsOf, h]
  · simp [actionsOf, h, Ne.symm h]

theorem actionsOf_eq_nil (h : service ∉ servicesOf commands) : actionsOf commands service = [] := by
  refine List.eq_nil_iff_forall_not_mem.mpr fun action haction => ?_
  exact h (mem_servicesOf.mpr ⟨action, mem_actionsOf.mp haction⟩)

/-- Adding the entries of a table to their groups one by one gathers the actions of each service. -/
theorem groupedCommands_eq (commands : Ordered String) :
    groupedCommands commands = (servicesOf commands).map fun s => (s, actionsOf commands s) := by
  induction commands using List.reverseRecOn with
  | nil => rfl
  | append_singleton commands e ih =>
    have hstep : groupedCommands (commands ++ [e]) =
        addToGroup (groupedCommands commands) e.1 e.2 := by
      rw [groupedCommands, List.foldl_append]
      rfl
    rw [hstep, ih, addToGroup, Ordered.find?_table, servicesOf_append_singleton]
    by_cases h : e.2 ∈ servicesOf commands
    · rw [if_pos h, if_pos h, Ordered.insert_table (nodup_servicesOf commands) h]
      refine List.map_congr_left fun s hs => ?_
      rw [actionsOf_append_singleton]
      by_cases heq : s = e.2
      · rw [if_pos heq, if_pos heq, heq]
        rfl
      · rw [if_neg heq, if_neg heq]
    · have hnew : e.2 ∉ ((servicesOf commands).map fun s => (s, actionsOf commands s)).map
          Prod.fst := by
        simpa using h
      rw [if_neg h, if_neg h, Ordered.insert_of_not_mem hnew, List.map_append]
      refine congrArg₂ _ (List.map_congr_left fun s hs => ?_) ?_
      · rw [actionsOf_append_singleton, if_neg (ne_of_mem_of_not_mem hs h)]
      · rw [List.map_singleton, actionsOf_append_singleton, if_pos rfl, actionsOf_eq_nil h]
        rfl

/-- A pair is listed exactly if it is an entry of the table. -/
theorem listed_iff :
    service ∈ servicesOf commands ∧ action ∈ actionsOf commands service ↔
      (action, service) ∈ commands := by
  rw [mem_actionsOf, and_iff_right_iff_imp]
  intro h
  exact mem_servicesOf.mpr ⟨action, h⟩

/-- No action of a table stands twice in its listing. -/
theorem nodup_listed (h : (commands.map Prod.fst).Nodup) :
    ((groupedCommands commands).flatMap Prod.snd).Nodup := by
  rw [groupedCommands_eq, List.flatMap_map, List.nodup_flatMap]
  refine ⟨fun s _ => (List.filter_sublist.map Prod.fst).nodup h, ?_⟩
  refine (nodup_servicesOf commands).imp fun {s s'} hne action hs hs' => ?_
  have hentry := (Ordered.find?_eq_some_iff h).mpr (mem_actionsOf.mp hs)
  rw [(Ordered.find?_eq_some_iff h).mpr (mem_actionsOf.mp hs')] at hentry
  exact hne (Option.some.inj hentry).symm

theorem commandPart_eq (c : AgentConfig) :
    c.commandPart = if c.commands = [] then none
      else some (commandSection (groupedCommands c.commands)) := by
  cases h : c.commands <;> simp [commandPart, h]

theorem commandSection_not_blank (groups : Ordered (List String)) :
    Text.isBlankText (commandSection groups) = false := by
  rw [commandSection, List.cons_append, String.intercalate_cons_of_ne_nil (by simp),
    Text.isBlankText, String.toList_append, String.toList_append, List.all_append, List.all_append]
  rfl

theorem toolUsage_not_blank : Text.isBlankText toolUsage = false := by
  decide +kernel

/-- The parts of a prompt: the template unless it is blank, the use of tools if there are tools, and
the commands if there are commands. -/
theorem promptParts_eq (c : AgentConfig) (tools : ToolRegistry σ) :
    c.promptParts tools =
      (if Text.isBlankText (c.templatePart tools) then [] else [c.templatePart tools]) ++
        (if c.tools = [] then [] else [toolUsage]) ++
        (if c.commands = [] then [] else [commandSection (groupedCommands c.commands)]) := by
  rw [promptParts, List.filter_append, List.filter_append, commandPart_eq]
  congr 1
  · congr 1
    · cases h : Text.isBlankText (c.templatePart tools) <;> simp [h]
    · by_cases h : c.tools = []
      · simp [h]
      · simp [h, toolUsage_not_blank]
  · by_cases h : c.commands = []
    · simp [h]
    · simp [h, commandSection_not_blank]

/-- The line on which a service stands with its actions. -/
theorem groupLine_mk (service : String) (actions : List String) :
    groupLine (service, actions) = "- " ++ service ++ ": " ++ ", ".intercalate actions := rfl

/-- The prompt of a valid configuration lists exactly the commands that go to a service, each once
and on the one line of its service. Services come in the order of their first action and the actions
of a service in that of the table. There is no such section for an empty table, and the use of tools
is explained exactly if there is a tool. -/
theorem systemPromptText_lists (c : AgentConfig) (tools : ToolRegistry σ)
    (hvalid : c.basicProblem? = none) (hcommands : (c.commands.map Prod.fst).Nodup) :
    let services := (c.commands.map Prod.snd).eraseDups
    let actions (service : String) := (c.commands.filter (·.2 = service)).map Prod.fst
    c.systemPromptText tools = "\n\n".intercalate
      ((if Text.isBlankText (c.templatePart tools) then [] else [c.templatePart tools]) ++
        (if c.tools = [] then [] else ["\n".intercalate
          ["To use a tool, reply with a block like this and wait for the result:",
            "```tool_call",
            "\x7b\"tool\": \"<name>\", \"args\": \x7b\x7d\x7d",
            "```"]]) ++
        (if c.commands = [] then [] else ["\n".intercalate
          (["To make something happen, include a command block in your reply:",
              "```command",
              "\x7b\"action\": \"<action>\", \"params\": \x7b\x7d\x7d",
              "```",
              "Available actions:"] ++
            services.map fun service =>
              "- " ++ service ++ ": " ++ ", ".intercalate (actions service))])) ∧
    (∀ service action, service ∈ services ∧ action ∈ actions service ↔
      c.serviceFor action = some service) ∧
    services.Nodup ∧
    (services.flatMap actions).Nodup := by
  intro services actions
  have hgroups : groupedCommands c.commands = services.map fun service =>
      (service, actions service) := groupedCommands_eq c.commands
  have hlines : (groupedCommands c.commands).map groupLine = services.map fun service =>
      "- " ++ service ++ ": " ++ ", ".intercalate (actions service) := by
    rw [hgroups, List.map_map]
    exact List.map_congr_left fun service _ => groupLine_mk service (actions service)
  have husage : toolUsage = "\n".intercalate
      ["To use a tool, reply with a block like this and wait for the result:", "```tool_call",
        "\x7b\"tool\": \"<name>\", \"args\": \x7b\x7d\x7d", "```"] := by
    decide +kernel
  refine ⟨?_, fun service action => ?_, nodup_servicesOf c.commands, ?_⟩
  · rw [systemPromptText, promptParts_eq, commandSection, hlines, husage]
  · refine listed_iff.trans ?_
    rw [← Ordered.find?_eq_some_iff hcommands]
    constructor
    · exact serviceFor_of_valid hvalid
    · intro h
      exact (serviceFor_eq_some.mp h).1
  · have hnodup := nodup_listed hcommands
    rwa [hgroups, List.flatMap_map] at hnodup

/-- A table in which the actions of one service do not stand together. -/
def stewardConfig : AgentConfig :=
  { AgentConfig.new "steward" with
    systemPrompt := "You run the house."
    tools := ["now"]
    services := ["music", "lights"]
    commands := [("dim", "lights"), ("play", "music"), ("glow", "lights")] }

/-- They are gathered on the line of their service. -/
theorem systemPromptText_lists_steward :
    stewardConfig.systemPromptText ([] : ToolRegistry Unit) =
      "You run the house.\n\n" ++
      "To use a tool, reply with a block like this and wait for the result:\n" ++
      "```tool_call\n\x7b\"tool\": \"<name>\", \"args\": \x7b\x7d\x7d\n```\n\n" ++
      "To make something happen, include a command block in your reply:\n" ++
      "```command\n\x7b\"action\": \"<action>\", \"params\": \x7b\x7d\x7d\n```\n" ++
      "Available actions:\n- lights: dim, glow\n- music: play" ∧
    stewardConfig.serviceFor "glow" = some "lights" ∧
    stewardConfig.serviceFor "sing" = none := by
  obtain ⟨htext, hlisted, -⟩ := systemPromptText_lists stewardConfig ([] : ToolRegistry Unit)
    (by decide +kernel) (by decide)
  refine ⟨htext.trans (by decide +kernel), (hlisted "lights" "glow").mp (by decide), ?_⟩
  refine Option.eq_none_iff_forall_ne_some.mpr fun service h => ?_
  have hmem : "sing" ∈ stewardConfig.commands.map Prod.fst :=
    (List.filter_sublist.map Prod.fst).subset ((hlisted service "sing").mpr h).2
  exact absurd hmem (by decide)

end HomeAgents.AgentConfig
