import HomeAgents.Agent.ConfigText
import HomeAgents.Proofs.Collection.Ordered
import HomeAgents.Proofs.Json.Values

/-!
# Configurations are read back

The text of a configuration is read back as that configuration. Its members may be taken away and
come in any order: what is not given is as in a configuration without a name, and everything else is
as it was.
-/

namespace HomeAgents.AgentConfig

open Json

variable {c : AgentConfig} {kept kept' : String → Bool} {given : List String} {room limit : Nat}

/-- A configuration with some of its fields, the others as in one without a name. -/
def keeping (c : AgentConfig) (kept : String → Bool) : AgentConfig where
  name := if kept "name" then c.name else (new "").name
  displayName := if kept "display_name" then c.displayName else (new "").displayName
  description := if kept "description" then c.description else (new "").description
  systemPrompt := if kept "system_prompt" then c.systemPrompt else (new "").systemPrompt
  temperature := if kept "temperature" then c.temperature else (new "").temperature
  tools := if kept "tools" then c.tools else (new "").tools
  services := if kept "services" then c.services else (new "").services
  commands := if kept "commands" then c.commands else (new "").commands
  maxTurns := if kept "max_turns" then c.maxTurns else (new "").maxTurns
  canNest := if kept "can_nest" then c.canNest else (new "").canNest
  historyWindow := if kept "history_window" then c.historyWindow else (new "").historyWindow
  promptStyle := if kept "prompt_style" then c.promptStyle else (new "").promptStyle
  keywords := if kept "keywords" then c.keywords else (new "").keywords
  model := if kept "model" then c.model else (new "").model
  maxTokens := if kept "max_tokens" then c.maxTokens else (new "").maxTokens
  builtIn := if kept "built_in" then c.builtIn else (new "").builtIn

theorem keeping_all (c : AgentConfig) : c.keeping (fun _ => true) = c := rfl

/-- What every configuration in a program holds: no tool, no service and no action twice, and
numbers of 64 and 32 bits. -/
structure Storable (c : AgentConfig) : Prop where
  tools : c.tools.Nodup
  services : c.services.Nodup
  commands : (c.commands.map Prod.fst).Nodup
  maxTurns : c.maxTurns < 2 ^ 64
  historyWindow : c.historyWindow < 2 ^ 64
  maxTokens : ∀ n, c.maxTokens = some n → n < 2 ^ 32

/-! ### The members of the text -/

theorem forall_mem_optionMember {α : Type} {name : String} {write : α → String} {value : Option α}
    {P : String × String → Prop} :
    (∀ m ∈ optionMember name write value, P m) ↔ ∀ v, value = some v → P (name, write v) := by
  cases value <;> simp [optionMember]

theorem names_optionMember {α : Type} (name : String) (write : α → String) (value : Option α) :
    ((optionMember name write value).map Prod.fst).Sublist [name] := by
  cases value with
  | none => exact List.nil_sublist _
  | some v => exact List.Sublist.refl _

/-- The names of the fields in the order of the text. -/
def fieldNames : List String :=
  ["name"] ++ ["display_name"] ++ ["description"] ++
    ["system_prompt", "temperature", "tools", "services", "commands", "max_turns", "can_nest",
      "history_window", "prompt_style", "keywords"] ++
    ["model"] ++ ["max_tokens"] ++ ["built_in"]

theorem names_textMembers (c : AgentConfig) : (c.textMembers.map Prod.fst).Sublist fieldNames := by
  simp only [textMembers, fieldNames, List.map_append]
  have hdisplay := names_optionMember "display_name" stringText c.displayName
  have hdescription := names_optionMember "description" stringText c.description
  have hmodel := names_optionMember "model" stringText c.model
  have htokens := names_optionMember "max_tokens" (fun n : Nat => toString n) c.maxTokens
  exact ((((((List.Sublist.refl _).append hdisplay).append hdescription).append
    (List.Sublist.refl _)).append hmodel).append htokens).append (List.Sublist.refl _)

/-- Fields that have no member are those that are left open, so it does not matter whether they are
kept. -/
theorem keeping_congr (h : ∀ m ∈ c.textMembers, kept m.1 = kept' m.1) :
    c.keeping kept = c.keeping kept' := by
  have hopen {α : Type} {name : String} {value : Option α}
      (hname : ∀ v, value = some v → kept name = kept' name) :
      (if kept name then value else none) = if kept' name then value else none := by
    cases value with
    | none => rw [ite_self, ite_self]
    | some v => rw [hname v rfl]
  simp only [textMembers, List.forall_mem_append, List.forall_mem_cons, forall_mem_optionMember]
    at h
  obtain ⟨⟨⟨⟨⟨⟨⟨hname, -⟩, hdisplay⟩, hdescription⟩, hprompt, htemperature, htools, hservices,
    hcommands, hturns, hnest, hwindow, hstyle, hkeywords, -⟩, hmodel⟩, htokens⟩, hbuiltIn, -⟩ := h
  simp only [keeping, hname, hprompt, htemperature, htools, hservices, hcommands, hturns, hnest,
    hwindow, hstyle, hkeywords, hbuiltIn]
  rw [show (new "").displayName = none from rfl, show (new "").description = none from rfl,
    show (new "").model = none from rfl, show (new "").maxTokens = none from rfl, hopen hdisplay,
    hopen hdescription, hopen hmodel, hopen htokens]

/-! ### Reading the members -/

/-- What has been read of a configuration once some fields have been given. -/
def draftOf (c : AgentConfig) (given : List String) : Draft :=
  ⟨c.keeping given.contains, given⟩

theorem draftRecord_optional (limit : Nat) :
    ∀ f ∈ (draftRecord limit).fields, f.required = false := by
  simp [draftRecord, draftField, Field.of]

theorem takes_draftField {α : Type} {name text : String} {value : Reader α}
    {store : α → AgentConfig → AgentConfig} {v : α}
    (hfind : (draftRecord limit).fields.find? (fun f => f.name = name) =
      some (draftField name value store))
    (hread : Yields (value room) text.toList v)
    (hstore : ∀ given, store v (c.keeping given.contains) = c.keeping (name :: given).contains) :
    (draftRecord limit).Takes room (draftOf c) (name, text) := by
  refine ⟨_, fun d => ⟨store v d.config, name :: d.given⟩, hfind,
    fun rest hrest => Field.of_read (hread rest hrest), fun given hnew => ⟨?_, ?_⟩⟩
  · have hfree : given.contains name = false := by simpa using hnew
    exact hfree
  · rw [draftOf, draftOf, ← hstore]

theorem takes_textMembers (hc : c.Storable)
    (htemperature : readWhole (fun _ => readSingle) (temperatureText c.temperature).toList =
      .ok c.temperature) :
    ∀ m ∈ c.textMembers, m.2.toList.length < limit →
      (draftRecord limit).Takes (room + 1) (draftOf c) m := by
  have hlist (xs : List String) (h : (listText xs).toList.length < limit) : xs.length < limit := by
    have hcount := length_le_arrayText (xs.map stringText)
    rw [List.length_map] at hcount
    exact hcount.trans_lt h
  have htable (h : (tableText c.commands).toList.length < limit) : c.commands.length < limit := by
    have hcount := length_le_objectText (c.commands.map fun e => (e.1, stringText e.2))
    rw [List.length_map] at hcount
    exact hcount.trans_lt h
  have hsingle : Yields (readSingle (room + 1)) (temperatureText c.temperature).toList
      c.temperature := yields_of_readWhole (solid_realText _ _ _) htemperature
  have hstyle : PromptStyle.variants.lookup c.promptStyle.label = some c.promptStyle := by
    cases c.promptStyle <;> rfl
  -- one case for each field, in the order of the text
  simp only [textMembers, List.forall_mem_append, List.forall_mem_cons, forall_mem_optionMember]
  refine ⟨⟨⟨⟨⟨⟨⟨fun _ => ?_, nofun⟩, fun v hv _ => ?_⟩, fun v hv _ => ?_⟩, ?_⟩, fun v hv _ => ?_⟩,
    fun v hv _ => ?_⟩, fun _ => ?_, nofun⟩
  · exact takes_draftField rfl (yields_readText c.name) (fun given => by simp [keeping])
  · exact takes_draftField rfl (yields_optionText v) (fun given => by simp [keeping, hv])
  · exact takes_draftField rfl (yields_optionText v) (fun given => by simp [keeping, hv])
  · refine ⟨fun _ => ?_, fun _ => ?_, fun hshort => ?_, fun hshort => ?_, fun hshort => ?_,
      fun _ => ?_, fun _ => ?_, fun _ => ?_, fun _ => ?_, fun hshort => ?_, nofun⟩
    · exact takes_draftField rfl (yields_readText c.systemPrompt) (fun given => by simp [keeping])
    · exact takes_draftField rfl hsingle (fun given => by simp [keeping])
    · exact takes_draftField rfl (yields_readList c.tools (hlist _ hshort))
        (fun given => by simp [keeping, Ordered.distinct_eq_self hc.tools])
    · exact takes_draftField rfl (yields_readList c.services (hlist _ hshort))
        (fun given => by simp [keeping, Ordered.distinct_eq_self hc.services])
    · exact takes_draftField rfl (yields_readMap c.commands (htable hshort))
        (fun given => by simp [keeping, Ordered.ofList_eq_self hc.commands])
    · exact takes_draftField rfl (yields_natural (by decide) hc.maxTurns)
        (fun given => by simp [keeping])
    · exact takes_draftField rfl (yields_readBool c.canNest) (fun given => by simp [keeping])
    · exact takes_draftField rfl (yields_natural (by decide) hc.historyWindow)
        (fun given => by simp [keeping])
    · exact takes_draftField rfl (yields_readVariant hstyle) (fun given => by simp [keeping])
    · exact takes_draftField rfl (yields_readList c.keywords (hlist _ hshort))
        (fun given => by simp [keeping])
  · exact takes_draftField rfl (yields_optionText v) (fun given => by simp [keeping, hv])
  · exact takes_draftField rfl (yields_optionNatural (by decide) (hc.maxTokens v hv))
      (fun given => by simp [keeping, hv])
  · exact takes_draftField rfl (yields_readBool c.builtIn) (fun given => by simp [keeping])

theorem draftOf_nil (c : AgentConfig) : draftOf c [] = {} := rfl

/-- Some members of the text, in any order, are read as the configuration with their fields. -/
theorem ofText_objectText (hc : c.Storable)
    (htemperature : readWhole (fun _ => readSingle) (temperatureText c.temperature).toList =
      .ok c.temperature)
    {members : List (String × String)}
    (hperm : members.Perm (c.textMembers.filter fun m => kept m.1)) :
    ofText (objectText members) = .ok (c.keeping kept) := by
  have hmem (m : String × String) : m ∈ members ↔ m ∈ c.textMembers ∧ kept m.1 = true :=
    hperm.mem_iff.trans List.mem_filter
  have hnames : (members.map Prod.fst).Nodup := by
    have hfields : fieldNames.Nodup := by decide
    have hall := (names_textMembers c).nodup hfields
    have hsome := (List.filter_sublist (p := fun m => kept m.1)).map Prod.fst |>.nodup hall
    exact (hperm.map Prod.fst).nodup_iff.mpr hsome
  let limit := (objectText members).toList.length + 1
  have htakes : ∀ m ∈ members, (draftRecord limit).Takes 126 (draftOf c) m := fun m hm =>
    takes_textMembers hc htemperature m ((hmem m).mp hm).1
      (Nat.lt_succ_of_lt (length_lt_objectText hm))
  have hread : (draftRecord limit).read limit (draftOf c []) maxDepth (objectText members).toList =
      .ok (draftOf c (members.map Prod.fst).reverse, []) :=
    read_objectText (draftRecord_optional limit) htakes hnames
      (Nat.lt_succ_of_le (length_le_objectText members))
  have hkept : c.keeping (members.map Prod.fst).reverse.contains = c.keeping kept := by
    refine keeping_congr fun m hm => ?_
    rw [Bool.eq_iff_iff, List.contains_iff_mem, List.mem_reverse, List.mem_map]
    constructor
    · rintro ⟨m', hm', hname⟩
      exact hname ▸ ((hmem m').mp hm').2
    · intro hm'
      exact ⟨m, (hmem m).mpr ⟨hm, hm'⟩, rfl⟩
  rw [draftOf_nil] at hread
  rw [ofText, readWhole, hread]
  exact congrArg Except.ok hkept

/-- The text of a configuration is read back as it was, if the temperature is read back by itself.
Without some of its members, and with the others in any order, it is read as the configuration in
which exactly the fields that are missing are as in a new one without a name. -/
theorem ofText_toText (c : AgentConfig) (hc : c.Storable)
    (htemperature : readWhole (fun _ => readSingle) (temperatureText c.temperature).toList =
      .ok c.temperature) :
    ofText c.toText = .ok c ∧
    ∀ (kept : String → Bool) (members : List (String × String)),
      members.Perm (c.textMembers.filter fun m => kept m.1) →
        ofText (objectText members) = .ok (c.keeping kept) := by
  constructor
  · have hall : c.textMembers.Perm (c.textMembers.filter fun _ => true) := by
      rw [List.filter_true]
    have hread : ofText c.toText = .ok (c.keeping fun _ => true) :=
      ofText_objectText hc htemperature hall
    rwa [keeping_all] at hread
  · intro kept members hperm
    exact ofText_objectText hc htemperature hperm

/-- A configuration with most of its fields set. -/
def archiveConfig : AgentConfig :=
  { AgentConfig.new "archive" with
    displayName := some "The \"archive\""
    tools := ["read_file", "now"]
    services := ["shelf"]
    commands := [("fetch", "shelf"), ("bring", "shelf")]
    promptStyle := .toolListing
    maxTokens := some 512
    builtIn := true }

theorem ofText_toText_archive :
    ofText archiveConfig.toText = .ok archiveConfig ∧
      ofText (objectText (archiveConfig.textMembers.filter fun m =>
        m.1 = "built_in" || m.1 = "tools").reverse) =
          .ok { AgentConfig.new "" with tools := ["read_file", "now"], builtIn := true } := by
  have hstorable : archiveConfig.Storable :=
    { tools := by decide
      services := by decide
      commands := by decide
      maxTurns := by decide
      historyWindow := by decide
      maxTokens := fun n hn => Option.some.inj hn ▸ by decide }
  have htemperature : readWhole (fun _ => readSingle)
      (temperatureText archiveConfig.temperature).toList = .ok archiveConfig.temperature := by
    decide +kernel
  obtain ⟨hall, hsome⟩ := ofText_toText archiveConfig hstorable htemperature
  refine ⟨hall, ?_⟩
  exact hsome (fun name => name = "built_in" || name = "tools") _ (List.reverse_perm _)

end HomeAgents.AgentConfig
