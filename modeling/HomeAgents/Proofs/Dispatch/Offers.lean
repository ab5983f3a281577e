import HomeAgents.Proofs.Dispatch.Budget

/-!
# What a prompt offers

The system prompt of an agent lists the actions of its command table, and in a valid configuration
every service of the table is one that the agent declares. So a command for a listed action is never
denied: unless the work is cancelled, its service is called once for it, if it is there. The one
exception is the action that asks for a hand-over. It goes to no service, whatever the table says.
-/

namespace HomeAgents

variable {σ : Type}

namespace AgentConfig

/-- An action is in the group of a service. -/
def Grouped (groups : Ordered (List String)) (action service : String) : Prop :=
  ∃ actions, Ordered.find? service groups = some actions ∧ action ∈ actions

/-- Every entry of a command table is in the group of its service. -/
theorem grouped_of_mem {commands : Ordered String} {action service : String}
    (h : (action, service) ∈ commands) : Grouped (groupedCommands commands) action service := by
  refine ⟨actionsOf commands service, ?_, mem_actionsOf.mpr h⟩
  rw [groupedCommands_eq, Ordered.find?_table, if_pos (mem_servicesOf.mpr ⟨action, h⟩)]

/-- A prompt offers an action in the line of a service. -/
def Offers (prompt action service : String) : Prop :=
  ∃ actions before after, action ∈ actions ∧
    prompt = before ++ ("- " ++ service ++ ": " ++ ", ".intercalate actions) ++ after

/-- Every text put together with others stands somewhere in the whole. -/
theorem exists_intercalate_eq (sep : String) {x : String} {xs : List String} (h : x ∈ xs) :
    ∃ before after, sep.intercalate xs = before ++ x ++ after := by
  obtain ⟨front, back, rfl⟩ := List.append_of_mem h
  have hrest : ∃ after, sep.intercalate (x :: back) = x ++ after := by
    cases back with
    | nil => exact ⟨"", by simp⟩
    | cons y back => exact ⟨_, by rw [String.intercalate_cons_cons, String.append_assoc]⟩
  obtain ⟨after, hafter⟩ := hrest
  by_cases hf : front = []
  · exact ⟨"", after, by simp [hf, hafter]⟩
  · refine ⟨sep.intercalate front ++ sep, after, ?_⟩
    rw [String.intercalate_append_of_ne_nil hf (by simp), hafter]
    simp only [String.append_assoc]

theorem Offers.intercalate {part action service : String} {parts : List String} (sep : String)
    (h : Offers part action service) (hp : part ∈ parts) :
    Offers (sep.intercalate parts) action service := by
  obtain ⟨actions, before, after, hmem, rfl⟩ := h
  obtain ⟨before', after', heq⟩ := exists_intercalate_eq sep hp
  refine ⟨actions, before' ++ before, after ++ after', hmem, ?_⟩
  simp only [heq, String.append_assoc]

/-- The system prompt offers every entry of the command table. -/
theorem offers_of_mem (c : AgentConfig) (tools : ToolRegistry σ) {action service : String}
    (h : (action, service) ∈ c.commands) : Offers (c.systemPromptText tools) action service := by
  obtain ⟨actions, hfind, hmem⟩ := grouped_of_mem h
  obtain ⟨front, back, hgroups, _⟩ := List.lookup_eq_some_iff.mp hfind
  have hline : Offers (groupLine (service, actions)) action service :=
    ⟨actions, "", "", hmem, by simp [groupLine_mk]⟩
  have hsection : Offers (commandSection (groupedCommands c.commands)) action service := by
    refine hline.intercalate "\n" ?_
    rw [hgroups]
    simp
  refine hsection.intercalate "\n\n" ?_
  rw [promptParts_eq, if_neg (List.ne_nil_of_mem h)]
  exact List.mem_append_right _ (List.mem_singleton_self _)

end AgentConfig

/-- What was cancelled before a stretch is cancelled after it. -/
theorem Extends.cancelled_of {env : Environment σ} {s s' : RunState σ} {l : Ledger}
    (h : Extends env s l s') (hs : s.cancelled = true) : s'.cancelled = true := by
  rw [h.cancelled, hs, Bool.true_or]

namespace Dispatch

variable {env : Environment σ} {agent : Agent} {message : String} {s s' : RunState σ}

theorem runBlock_stopped (env : Environment σ) (agent : Agent) (message : String) (p : Progress)
    (s : RunState σ) (b : Block) : (runBlock env agent message p s b).1.stopped = p.stopped := by
  cases b with
  | toolCall c => rfl
  | malformed e => rfl
  | command c =>
    by_cases hc : c.action = Builtin.delegateAction
    · simp only [runBlock, hc, ↓reduceIte, requestHandover]
      by_cases hn : agent.config.canNest = true
      · cases hh : p.handover <;> simp only [hn, ↓reduceIte]
      · simp only [hn, Bool.false_eq_true, ↓reduceIte]
    · simp only [runBlock, hc, ↓reduceIte]

/-- The rest of a reply is left out only once the work is cancelled. -/
theorem Carries.cancelled_of_stopped {bs : List Block} {p p' : Progress} {ds : List (Deed σ)}
    (h : Carries env agent message bs p s ds p' s') (hp : p.stopped = false)
    (hs : p'.stopped = true) : s'.cancelled = true := by
  induction h with
  | done =>
    rw [hp] at hs
    cases hs
  | skip tail ih => exact ih hp hs
  | stop hb hc => exact hc
  | @deed b rest p p₁ p' s s₁ s' ds hb hc run tail ih =>
    refine ih ?_ hs
    have hstopped := runBlock_stopped env agent message p s b
    rwa [run, hp] at hstopped

theorem Takes.cancelled_of_stopped {left turn : Nat} {messages : List Message} {text : String}
    {handover : Option Handover} {ts : List (Turn σ)} {out : Except AgentError Hop}
    (h : Takes env agent message left turn messages text handover s ts out s') :
    ∀ t ∈ ts, t.progress.stopped = true → s'.cancelled = true := by
  induction h with
  | failed call => intro t ht; cases ht
  | stopped taken hs =>
    intro t ht hstopped
    exact taken.blocks.cancelled_of_stopped rfl hs
  | ended taken hn | usedUp taken hn =>
    intro t ht hs
    rw [List.mem_singleton.mp ht, hn] at hs
    cases hs
  | again taken hn hc rest ih =>
    intro t ht hs
    rcases List.mem_cons.mp ht with rfl | ht
    · rw [hn] at hs
      cases hs
    · exact ih t ht hs

section Visits

variable {d : Dispatcher σ} {pad : Scratchpad} {hint : Option String} {vs : List (Visit σ)}
  {report : Dispatcher.Report σ}

theorem Tours.cancelled_of_stopped {depth : Nat} {chain : Chain}
    {out : Except AgentError Ending} (h : Tours d pad depth chain s vs out s') :
    ∀ v ∈ vs, ∀ t ∈ v.turns, t.progress.stopped = true → s'.cancelled = true := by
  have hvisit {v : Visit σ} {sequel : Sequel} (made : v.Made d pad sequel) :
      ∀ t ∈ v.turns, t.progress.stopped = true → v.passed.cancelled = true := by
    intro t ht hs
    obtain ⟨_, _, hpassed⟩ := made.follows.extends_aside
    exact hpassed.cancelled_of (made.turns.cancelled_of_stopped t ht hs)
  induction h with
  | last made =>
    intro v hv
    rw [List.mem_singleton.mp hv]
    exact hvisit made
  | more made rest ih =>
    intro v hv t ht hs
    rcases List.mem_cons.mp hv with rfl | hv
    · exact rest.extends_join.cancelled_of (hvisit made t ht hs)
    · exact ih v hv t ht hs

/-- In a dispatch that is not cancelled every reply is carried out to its end. -/
theorem Course.complete_of_uncancelled (h : Course d pad message hint s vs report)
    (hc : report.state.cancelled = false) :
    ∀ v ∈ vs, ∀ t ∈ v.turns, t.progress.stopped = false := by
  intro v hv t ht
  cases hs : t.progress.stopped with
  | false => rfl
  | true =>
    have hcancelled : report.state.cancelled = true := by
      cases h with
      | unrouted hr => cases hv
      | failed hr tours => exact tours.cancelled_of_stopped v hv t ht hs
      | @answered agent vs ending s' hr tours =>
        obtain ⟨_, _, hfinish⟩ := ending.finish_extends d.env s'
        exact (hfinish.then_blank (Extends.log ..)).cancelled_of
          (tours.cancelled_of_stopped v hv t ht hs)
    rw [hc] at hcancelled
    cases hcancelled

/-- A command that the agent's table sends to a service which is there is one call of it. -/
theorem Deed.Done.calls_of_service {x : Deed σ} (h : x.Done env agent message)
    {action service : String} {params : Members} {backend : Service σ}
    (hx : x.block = .command ⟨action, params⟩) (hd : action ≠ Builtin.delegateAction)
    (hs : agent.config.serviceFor action = some service)
    (hb : env.services.get? service = some backend) :
    x.ledger.calls = [.serviceCall agent.name service action params] := by
  have he : x.block.errand? = some ⟨.command, action, params⟩ := by
    rw [hx, Block.errand?, if_neg hd]
  obtain ⟨_, _, calls, _, _, hset, hl⟩ := h.settles he
  rw [hl, Ledger.calls_settled hset.isCall_of_mem]
  cases hset with
  | commandDenied hn =>
    rw [hs] at hn
    cases hn
  | unregistered hn hr =>
    rw [hs] at hn
    obtain rfl := Option.some.inj hn
    rw [hb] at hr
    cases hr
  | serviceCall hn hr ha =>
    rw [hs] at hn
    obtain rfl := Option.some.inj hn
    rfl

/-- A command that stands behind `before` in the reply of a turn is carried out in its place, and
its service is called once for it, with its action and its parameters. -/
def CalledOnce (agent : Agent) (service : String) (t : Turn σ) (before : List Block)
    (command : Command) : Prop :=
  ∃ front x back, t.deeds = front ++ x :: back ∧
    front.map Deed.block = before.filter (fun b => !b.isMalformed) ∧
    x.block = .command command ∧
    x.ledger.calls = [.serviceCall agent.name service command.action command.params]

/-- In a turn that is carried out to its end, a command of the table is one call. -/
theorem Turn.Taken.calledOnce {t : Turn σ} {handover : Option Handover}
    (h : t.Taken env agent message handover) (hs : t.progress.stopped = false)
    {action service : String} {params : Members} {before after : List Block} {backend : Service σ}
    (hblocks : (Reply.parse t.reply).blocks = before ++ .command ⟨action, params⟩ :: after)
    (hd : action ≠ Builtin.delegateAction) (hf : agent.config.serviceFor action = some service)
    (hb : env.services.get? service = some backend) :
    CalledOnce agent service t before ⟨action, params⟩ := by
  have hdeeds := h.blocks.blocks_eq hs
  rw [hblocks, List.filter_append, List.filter_cons_of_pos (by rfl)] at hdeeds
  obtain ⟨front, rest, hsplit, hfront, hrest⟩ := List.map_eq_append_iff.mp hdeeds
  obtain ⟨x, back, rfl, hx, _⟩ := List.map_eq_cons_iff.mp hrest
  have hdone := h.blocks.done_of_mem x (by simp [hsplit])
  exact ⟨front, x, back, hsplit, hfront, hx, hdone.calls_of_service hx hd hf hb⟩

/-- What the prompt of a valid agent offers is carried out. Apart from the action that asks for a
hand-over, every entry of its command table is in its prompt, and in a dispatch that is not
cancelled every command for it calls its service once, if the service is there. -/
theorem handle_offers (d : Dispatcher σ) (pad : Scratchpad) (message : String)
    (hint : Option String) (world : σ) (cancelled : Bool) (telemetry : Option Telemetry) :
    let report := d.handle pad message hint (.start world cancelled telemetry)
    ∃ vs : List (Visit σ),
      Course d pad message hint (.start world cancelled telemetry) vs report ∧
      report.state.journal.filterMap Entry.reply? = allReplies vs ∧
      report.state.world = replay d.env report.state.journal world ∧
      report.state.journal.filter Entry.isCall =
        (allDeeds vs).flatMap (fun x => x.ledger.calls) ∧
      ∀ v ∈ vs, v.agent.config.basicProblem? = none → ∀ action service,
        Ordered.find? action v.agent.config.commands = some service →
        action ≠ Builtin.delegateAction →
        (∀ tools : ToolRegistry σ,
          AgentConfig.Offers (v.agent.config.systemPromptText tools) action service) ∧
        ∀ backend, d.env.services.get? service = some backend → report.state.cancelled = false →
          ∀ t ∈ v.turns, ∀ params before after,
            (Reply.parse t.reply).blocks = before ++ .command ⟨action, params⟩ :: after →
            CalledOnce v.agent service t before ⟨action, params⟩ := by
  intro report
  obtain ⟨vs, course⟩ := handle_course d pad message hint (.start world cancelled telemetry)
  refine ⟨vs, course, ?_, course.world_eq_replay, ?_, ?_⟩
  · rw [← Ledger.replies_state]
    exact course.replies
  · rw [← Ledger.calls_state]
    exact course.calls
  · intro v hv hvalid action service hfind hd
    obtain ⟨front, back, hcommands, _⟩ := List.lookup_eq_some_iff.mp hfind
    have hmem : (action, service) ∈ v.agent.config.commands := by simp [hcommands]
    refine ⟨fun tools => AgentConfig.offers_of_mem _ tools hmem, ?_⟩
    intro backend hb hc t ht params before after hblocks
    obtain ⟨_, made⟩ := course.made_of_mem v hv
    obtain ⟨_, taken⟩ := made.turns.taken_of_mem t ht
    exact taken.calledOnce (course.complete_of_uncancelled hc v hv t ht) hblocks hd
      (AgentConfig.serviceFor_of_valid hvalid hfind) hb

/-- The configuration of an agent that sends one action to the lights. -/
def keeperConfig (action : String) : AgentConfig :=
  { AgentConfig.new "keeper" with services := ["lights"], commands := [(action, "lights")] }

/-- The prompt of that agent. -/
def keeperPrompt (action : String) : String :=
  (keeperConfig action).systemPromptText ([] : ToolRegistry Unit)

/-- A dispatcher with that agent and the lights, whose model always asks for the action. -/
def keeper (action : String) : Dispatcher Unit where
  env :=
    { model := fun _ => ⟨"", "", fun _ _ world =>
        .pure ⟨.ok (Command.toFenced ⟨action, []⟩), none⟩ world⟩
      tools := []
      services := [("lights", Service.dryRun "lights" [])]
      now := fun _ => 0 }
  router := ⟨[("keeper", ⟨keeperConfig action, keeperPrompt action, 0⟩)], "keeper",
    Routing.bestAgent⟩
  maxDepth := 3

/-- Whether some blocks are one command for an action, without parameters. -/
def asksOnly (action : String) : List Block → Bool
  | [.command ⟨asked, []⟩] => asked = action
  | _ => false

theorem eq_of_asksOnly {action : String} {blocks : List Block}
    (h : asksOnly action blocks = true) : blocks = [.command ⟨action, []⟩] := by
  unfold asksOnly at h
  split at h
  next asked => rw [of_decide_eq_true h]
  next => cases h

/-- An agent that is asked to dim the lights calls them. -/
theorem handle_offers_dim :
    ∃ vs : List (Visit Unit),
      Course (keeper "dim") .empty "go" none (.start () false none) vs
        ((keeper "dim").handle .empty "go" none (.start () false none)) ∧
      ∃ v ∈ vs, ∃ t ∈ v.turns, AgentConfig.Offers (keeperPrompt "dim") "dim" "lights" ∧
        CalledOnce v.agent "lights" t [] ⟨"dim", []⟩ := by
  obtain ⟨vs, course, hreplies, _, _, hoffers⟩ :=
    handle_offers (keeper "dim") .empty "go" none () false none
  have hrun : ((keeper "dim").handle .empty "go" none
      (.start () false none)).state.journal.filterMap Entry.reply? =
        [Command.toFenced ⟨"dim", []⟩] := by decide +kernel
  obtain ⟨t, ht, hreply⟩ : ∃ t ∈ allTurns vs, t.reply = Command.toFenced ⟨"dim", []⟩ := by
    rw [hrun, allReplies] at hreplies
    exact List.mem_map.mp (hreplies ▸ List.mem_singleton_self _)
  obtain ⟨v, hv, htv⟩ := List.mem_flatMap.mp ht
  have hrouter : ∀ e ∈ (keeper "dim").router.agents, e.2.config = keeperConfig "dim" := by
    intro e he
    obtain rfl := List.mem_singleton.mp he
    rfl
  have hconfig : v.agent.config = keeperConfig "dim" :=
    course.agent_of_mem (P := fun a => a.config = keeperConfig "dim") hrouter v hv
  have hvalid : v.agent.config.basicProblem? = none := by
    rw [hconfig]
    decide +kernel
  have hfind : Ordered.find? "dim" v.agent.config.commands = some "lights" := by
    rw [hconfig]
    rfl
  have hblocks : (Reply.parse t.reply).blocks = [] ++ .command ⟨"dim", []⟩ :: [] := by
    rw [hreply]
    exact eq_of_asksOnly (by decide +kernel)
  obtain ⟨hprompt, hcalled⟩ := hoffers v hv hvalid "dim" "lights" hfind (by decide)
  refine ⟨vs, course, v, hv, t, htv, ?_, ?_⟩
  · have hshown := hprompt []
    rwa [hconfig] at hshown
  · exact hcalled (Service.dryRun "lights" []) rfl (by decide +kernel) t htv [] [] [] hblocks

/-- If the table has the action that asks for a hand-over, the prompt offers it as well. But a
command for it calls nothing. -/
theorem delegate_offered_uncalled :
    let report := (keeper Builtin.delegateAction).handle .empty "go" none (.start () false none)
    (keeperConfig Builtin.delegateAction).basicProblem? = none ∧
      Ordered.find? Builtin.delegateAction (keeperConfig Builtin.delegateAction).commands =
        some "lights" ∧
      AgentConfig.Offers (keeperPrompt Builtin.delegateAction) Builtin.delegateAction "lights" ∧
      ((keeper Builtin.delegateAction).env.services.get? "lights").isSome = true ∧
      report.state.cancelled = false ∧
      report.state.journal.filterMap Entry.reply? =
        [Command.toFenced ⟨Builtin.delegateAction, []⟩] ∧
      (Reply.parse (Command.toFenced ⟨Builtin.delegateAction, []⟩)).blocks =
        [.command ⟨Builtin.delegateAction, []⟩] ∧
      report.state.journal.filter Entry.isCall = [] := by
  refine ⟨by decide +kernel, rfl, ?_, rfl, by decide +kernel, by decide +kernel,
    eq_of_asksOnly (by decide +kernel), ?_⟩
  · exact AgentConfig.offers_of_mem _ _ (List.mem_singleton_self _)
  · exact List.isEmpty_iff.mp (by decide +kernel)

end Visits

end Dispatch

end HomeAgents
