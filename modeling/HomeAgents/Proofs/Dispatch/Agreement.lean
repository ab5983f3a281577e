import HomeAgents.Proofs.Dispatch.Budget

/-!
# What agents do not declare

An agent reaches its tools and services by the names that it declares, and the summaries it is told
of its turns ask only those tools. So a dispatch takes the same course with any other backends, if
the visited agents find the same ones under their names: every model call is sent the same messages,
every call is made in the same order, and the report is the same.

The relations of a course hold every state on the way. Each of them is shown to be followed in an
environment that is alike for the agent at work, one function of the dispatch at a time.
-/

namespace HomeAgents

variable {σ : Type}

/-- The dispatcher with other tools and services. -/
def Dispatcher.withBackends (d : Dispatcher σ) (tools : ToolRegistry σ)
    (services : ServiceRegistry σ) : Dispatcher σ :=
  { d with env := { d.env with tools, services } }

/-- Environments in which an agent finds the same model, the same local time, the same interruptions
and the same backends under the names that it declares. -/
structure Alike (env env' : Environment σ) (agent : Agent) : Prop where
  model : env'.model = env.model
  now : env'.now = env.now
  offset : env'.offset = env.offset
  interrupts : env'.interrupts = env.interrupts
  tools : ∀ tool ∈ agent.config.tools, env'.tools.get? tool = env.tools.get? tool
  services : ∀ service ∈ agent.config.services,
    env'.services.get? service = env.services.get? service

/-- A tool that has given an output is one that the agent declares. -/
def Action.Earned (agent : Agent) (a : Action) : Prop :=
  a.kind = .tool → a.outcome.isOk = true → a.name ∈ agent.config.tools

variable {env env' : Environment σ} {agent : Agent} {s s' : RunState σ} {message : String}

namespace RunState

theorem record_eq (hnow : env'.now = env.now) (a : Action) (s : RunState σ) :
    s.record env' a = s.record env a := by
  rw [record, record, hnow]

theorem look_eq (hinterrupts : env'.interrupts = env.interrupts) (s : RunState σ) :
    s.look env' = s.look env := by
  rw [look, look, interrupted, interrupted, hinterrupts]

end RunState

theorem Agent.complete_eq (h : Alike env env' agent) (messages : List Message) (s : RunState σ) :
    agent.complete env' messages s = agent.complete env messages s := by
  have hcall : agent.call env' messages s = agent.call env messages s := by
    simp only [Agent.call, h.model, RunState.look_eq h.interrupts]
  have hid : agent.modelId env' = agent.modelId env := by
    rw [Agent.modelId, Agent.modelId, h.model]
  have htrace (startedAt : Int) (outcome : Except AgentError String) (s : RunState σ) :
      agent.saveTrace env' messages startedAt outcome s =
        agent.saveTrace env messages startedAt outcome s := by
    rw [Agent.saveTrace.eq_def, Agent.saveTrace.eq_def, h.model, h.now, hid]
  simp only [Agent.complete, hcall, hid, htrace, h.now]

/-- The summary of an action asks at most the tool that it ran. -/
theorem Action.summary_eq (h : Alike env env' agent) {a : Action} (ha : a.Earned agent) :
    a.summary env'.tools = a.summary env.tools := by
  cases ho : a.outcome with
  | failed e => rw [summary, summary, ho]
  | completed output =>
    cases hk : a.kind with
    | command | delegation => simp only [summary, ho, hk]
    | tool =>
      have hdeclared : a.name ∈ agent.config.tools := ha hk (by rw [ho]; rfl)
      have htool := h.tools a.name hdeclared
      simp only [summary, ho, hk, ToolRegistry.humanize?, htool]

namespace Dispatch

section Blocks

theorem runTool_eq (h : Alike env env' agent) (call : ToolCall) (s : RunState σ) :
    runTool env' agent call s = runTool env agent call s := by
  by_cases hd : agent.config.allowsTool call.tool = true
  · have htool := h.tools call.tool (AgentConfig.allowsTool_iff.mp hd)
    have hinvoke (s : RunState σ) :
        invokeTool env' agent call s = invokeTool env agent call s := by
      simp only [invokeTool, noteToolRun, ToolRegistry.invoke, htool,
        RunState.look_eq h.interrupts]
    simp only [runTool, hd, ↓reduceIte, hinvoke, elapsed, h.now, RunState.record_eq h.now]
  · simp only [runTool, hd, Bool.false_eq_true, ↓reduceIte, elapsed, h.now,
      RunState.record_eq h.now]

theorem runCommand_eq (h : Alike env env' agent) (command : Command) (s : RunState σ) :
    runCommand env' agent command s = runCommand env agent command s := by
  cases hd : agent.config.serviceFor command.action with
  | none => simp only [runCommand, hd, elapsed, h.now, RunState.record_eq h.now]
  | some service =>
    have hservice := h.services service (AgentConfig.serviceFor_eq_some.mp hd).2
    have hcall (s : RunState σ) :
        callService env' agent service command s = callService env agent service command s := by
      simp only [callService, hservice]
    simp only [runCommand, hd, hcall, elapsed, h.now, RunState.record_eq h.now]

theorem runBlock_eq (h : Alike env env' agent) (p : Progress) (s : RunState σ) (b : Block) :
    runBlock env' agent message p s b = runBlock env agent message p s b := by
  cases b with
  | malformed e => rfl
  | toolCall call => simp only [runBlock, runTool_eq h]
  | command command =>
    by_cases hc : command.action = Builtin.delegateAction
    · simp only [runBlock, hc, ↓reduceIte, requestHandover, RunState.record_eq h.now]
    · simp only [runBlock, hc, ↓reduceIte, runCommand_eq h]

theorem Carries.runBlocks_eq {bs : List Block} {p p' : Progress} {ds : List (Deed σ)}
    (h : Carries env agent message bs p s ds p' s') (halike : Alike env env' agent) :
    runBlocks env' agent message bs p s = (p', s') := by
  induction h with
  | done => rfl
  | skip tail ih => exact ih
  | @stop b rest p s hb hs =>
    cases b with
    | malformed e => cases hb
    | command c | toolCall c =>
      simp only [runBlocks, RunState.look_eq halike.interrupts, hs, ↓reduceIte]
  | @deed b rest p p₁ p' s s₁ s' ds hb hs run tail ih =>
    have hfirst : runBlock env' agent message p s b = (p₁, s₁) := by rw [runBlock_eq halike, run]
    have hopen : s.cancelled = false := RunState.not_cancelled_of_look hs
    have hlook : s.look env' = s := by
      rw [RunState.look_eq halike.interrupts, RunState.look_eq_self_of_cancelled hs]
    cases b with
    | malformed e => cases hb
    | command c | toolCall c =>
      simp only [runBlocks, hlook, hopen, Bool.false_eq_true, ↓reduceIte, hfirst]
      exact ih

end Blocks

section Summaries

theorem earned_of_settles {e : Errand} {service : Option String} {outcome : Outcome}
    {calls : List Entry} {cancels : Bool} (ms : Nat)
    (h : Settles env agent s e service outcome calls cancels) :
    (e.action agent service outcome ms).Earned agent := by
  intro hk ho
  cases h with
  | toolRun hd => exact hd
  | toolDenied | toolUnknown | toolRefused => cases ho
  | commandDenied | unregistered | serviceCall => cases hk

theorem Deed.Done.earned {x : Deed σ} (h : x.Done env agent message) :
    ∀ a ∈ x.ledger.actions, a.Earned agent := by
  intro a ha
  cases he : x.block.errand? with
  | some e =>
    obtain ⟨_, _, _, _, ms, hset, hl⟩ := h.settles he
    rw [hl] at ha
    obtain rfl := List.mem_singleton.mp ha
    exact earned_of_settles ms hset
  | none =>
    obtain ⟨c, _, _, hl⟩ := h.handover he
    rw [hl] at ha
    split at ha
    · cases ha
    · obtain rfl := List.mem_singleton.mp ha
      intro hk
      cases hk

theorem actions_join (ls : List Ledger) :
    (Ledger.join ls).actions = ls.flatMap Ledger.actions := by
  induction ls with
  | nil => rfl
  | cons l ls ih => rw [Ledger.join_cons, Ledger.actions_append, ih, List.flatMap_cons]

/-- The actions of a turn are those of its deeds. -/
theorem Turn.Taken.actions_eq {t : Turn σ} {handover : Option Handover}
    (h : t.Taken env agent message handover) :
    t.closed.actions.drop (t.opened agent).actions.length =
      t.deeds.flatMap fun x => x.ledger.actions := by
  have hledger := (h.blocks.extends_join.trans h.blocks.extends_parting).ledger
  have hactions : t.closed.actions = (t.opened agent).actions ++
      (Ledger.join (t.deeds.map Deed.ledger)).actions := by
    have hall := congrArg Ledger.actions hledger
    rwa [Ledger.actions_append, Ledger.actions_append, Ledger.told, List.append_nil] at hall
  rw [hactions, List.drop_left, actions_join, List.flatMap_map]

theorem Turn.Taken.next_eq {t : Turn σ} {handover : Option Handover}
    (h : t.Taken env agent message handover) (halike : Alike env env' agent) :
    t.next env' agent = t.next env agent := by
  have hsummaries : (t.closed.actions.drop (t.opened agent).actions.length).map
      (Action.summary env'.tools) =
      (t.closed.actions.drop (t.opened agent).actions.length).map (Action.summary env.tools) := by
    refine List.map_congr_left fun a ha => ?_
    rw [h.actions_eq] at ha
    obtain ⟨x, hx, hax⟩ := List.mem_flatMap.mp ha
    exact Action.summary_eq halike ((h.blocks.done_of_mem x hx).earned a hax)
  rw [Turn.next, Turn.next, Action.resultsMessage, Action.resultsMessage, hsummaries]

end Summaries

section Turns

theorem Turn.Taken.runTurns_eq {t : Turn σ} {asked : Option Handover}
    (h : t.Taken env agent message asked) (halike : Alike env env' agent) (left : Nat)
    (text : String) :
    runTurns env' agent message left t.number t.sent text asked t.asked =
      if t.progress.stopped then
        (.ok (t.hop text .cancelled none),
          t.closed.log .info "Cancelled before all actions ran"
            [("agent", agent.name), ("turn", toString t.number)])
      else if t.progress.toolCalls = 0 then
        (.ok (t.hop text .textResponse t.progress.handover), t.closed)
      else
        match left with
        | 0 => (.ok (t.hop text .maxTurns none), logMaxTurns agent t.progress.handover t.closed)
        | left + 1 =>
          runTurns env' agent message left (t.number + 1) (t.next env' agent) (t.prose text)
            t.progress.handover t.closed := by
  have hcall : agent.complete env' t.sent t.asked = (.ok t.reply, t.answered) := by
    rw [agent.complete_eq halike, h.call]
  have hblocks := h.blocks.runBlocks_eq halike
  simp only [Turn.opened] at hblocks
  rw [runTurns.eq_def, hcall]
  simp only [hblocks]
  rfl

theorem Takes.runTurns_eq {left turn : Nat} {messages : List Message} {text : String}
    {asked : Option Handover} {ts : List (Turn σ)} {out : Except AgentError Hop}
    (h : Takes env agent message left turn messages text asked s ts out s')
    (halike : Alike env env' agent) :
    runTurns env' agent message left turn messages text asked s = (out, s') := by
  induction h with
  | failed call =>
    rw [runTurns.eq_def, agent.complete_eq halike, call]
  | stopped taken hs => rw [taken.runTurns_eq halike, if_pos hs]
  | ended taken hs hc => rw [taken.runTurns_eq halike, if_neg (by simp [hs]), if_pos hc]
  | usedUp taken hs hc => rw [taken.runTurns_eq halike, if_neg (by simp [hs]), if_neg hc]
  | again taken hs hc rest ih =>
    rw [taken.runTurns_eq halike, if_neg (by simp [hs]), if_neg hc, taken.next_eq halike]
    exact ih

end Turns

section Hops

variable {d d' : Dispatcher σ} {pad : Scratchpad}

/-- How it goes on after a hop that asks for a hand-over, from the state that is looked at. -/
theorem runHops_asked {room depth : Nat} {chain : Chain} {hop : Hop} {asked : Handover}
    {s₁ s₂ : RunState σ} (hr : hop.stopReason = .textResponse) (hh : hop.handover = some asked)
    (hrun : runHop d.env chain.agent chain.message pad
      (s.emit (.turnStart chain.agent.name depth)) = (.ok hop, s₁))
    (hlook : (hopDone chain.agent hop s₁).look d.env = s₂) :
    runHops d pad room depth chain s =
      if s₂.cancelled then (.ok (chain.ending hop .cancelled), s₂)
      else if min d.maxDepth chain.agent.config.maxTurns < depth + 1 then
        (.ok (chain.ending hop .nestingLimitExceeded),
          refuseHandover d.env chain.agent asked (depth + 1)
            (min d.maxDepth chain.agent.config.maxTurns) s₂)
      else
        match d.router.get? asked.target, room with
        | some next, room + 1 =>
          runHops d pad room (depth + 1) (chain.handOver hop asked next)
            (followHandover d.env chain.agent next asked (depth + 1) s₂)
        | _, _ =>
          (.ok (chain.ending hop .textResponse), failHandover d.env chain.agent asked s₂) := by
  subst hlook
  obtain ⟨text, rawText, turns, reason, handover⟩ := hop
  obtain rfl : reason = .textResponse := hr
  obtain rfl : handover = some asked := hh
  rw [runHops.eq_def]
  simp only [hrun]
  rfl

/-- A hop that asks for none ends the dispatch. -/
theorem runHops_ended {room depth : Nat} {chain : Chain} {hop : Hop} {s₁ : RunState σ}
    (hr : hop.stopReason ≠ .textResponse ∨ hop.handover = none)
    (hrun : runHop d.env chain.agent chain.message pad
      (s.emit (.turnStart chain.agent.name depth)) = (.ok hop, s₁)) :
    runHops d pad room depth chain s =
      (.ok (chain.ending hop hop.stopReason), hopDone chain.agent hop s₁) := by
  rw [runHops.eq_def]
  simp only [hrun]
  split
  next asked htext hasked =>
    rcases hr with hr | hr
    · exact absurd htext hr
    · rw [hr] at hasked
      cases hasked
  next => rfl

/-- What follows on a hop is what `runHops` makes of it with any backends: of the environment only
the clock and the interruptions are asked. -/
theorem Follows.runHops_eq {room depth : Nat} {chain : Chain} {out : Except AgentError Hop}
    {s₁ : RunState σ} {sequel : Sequel} (h : Follows d depth chain s₁ out sequel s')
    (hnow : d'.env.now = d.env.now) (hinterrupts : d'.env.interrupts = d.env.interrupts)
    (hrouter : d'.router = d.router) (hmax : d'.maxDepth = d.maxDepth)
    (hroom : depth + room = d.maxDepth)
    (hrun : runHop d'.env chain.agent chain.message pad
      (s.emit (.turnStart chain.agent.name depth)) = (out, s₁)) :
    match sequel with
    | .over ending => runHops d' pad room depth chain s = (ending, s')
    | .onward next => ∃ less, room = less + 1 ∧
        runHops d' pad room depth chain s = runHops d' pad less (depth + 1) next s' := by
  have hrecord (a : Action) (s : RunState σ) : s.record d'.env a = s.record d.env a :=
    RunState.record_eq hnow a s
  have hlook (s : RunState σ) : s.look d'.env = s.look d.env := RunState.look_eq hinterrupts s
  cases h with
  | failed =>
    rw [runHops.eq_def]
    simp only [hrun]
  | ended hr => exact runHops_ended hr hrun
  | cancelled hr hh hs =>
    dsimp only
    rw [runHops_asked hr hh hrun (hlook _), if_pos hs]
  | refused hr hh hs hl =>
    dsimp only
    rw [runHops_asked hr hh hrun (hlook _), if_neg (by simp [hs]), hmax, if_pos hl,
      RunState.look_eq_self_of_cancelled hs]
    simp only [refuseHandover, hrecord]
  | unknown hr hh hs hl hg =>
    dsimp only
    rw [runHops_asked hr hh hrun (hlook _), if_neg (by simp [hs]), hmax, if_neg (by omega), hrouter,
      hg, RunState.look_eq_self_of_cancelled hs]
    simp only [failHandover, hrecord]
  | followed hr hh hs hl hg =>
    obtain ⟨less, rfl⟩ : ∃ less, room = less + 1 := ⟨room - 1, by omega⟩
    refine ⟨less, rfl, ?_⟩
    rw [runHops_asked hr hh hrun (hlook _), if_neg (by simp [hs]), hmax, if_neg (by omega), hrouter,
      hg, RunState.look_eq_self_of_cancelled hs]
    simp only [followHandover, hrecord]

theorem Visit.Made.runHop_eq {v : Visit σ} {sequel : Sequel} (h : v.Made d pad sequel)
    (halike : Alike d.env d'.env v.agent) :
    runHop d'.env v.chain.agent v.chain.message pad
      (v.entered.emit (.turnStart v.chain.agent.name v.depth)) = (v.outcome, v.left) := by
  have hturns := h.turns.runTurns_eq halike
  rw [Visit.first, Environment.localTime, ← halike.now, ← halike.offset] at hturns
  exact hturns

theorem Tours.runHops_eq {room depth : Nat} {chain : Chain} {vs : List (Visit σ)}
    {out : Except AgentError Ending} (h : Tours d pad depth chain s vs out s')
    (halike : ∀ v ∈ vs, Alike d.env d'.env v.agent) (hrouter : d'.router = d.router)
    (hmax : d'.maxDepth = d.maxDepth) (hroom : depth + room = d.maxDepth) :
    runHops d' pad room depth chain s = (out, s') := by
  induction h generalizing room with
  | @last v out made =>
    have hv := halike v List.mem_cons_self
    exact made.follows.runHops_eq hv.now hv.interrupts hrouter hmax hroom (made.runHop_eq hv)
  | @more v next vs out s' made rest ih =>
    obtain ⟨hv, hrest⟩ := List.forall_mem_cons.mp halike
    obtain ⟨less, rfl, hstep⟩ :=
      made.follows.runHops_eq hv.now hv.interrupts hrouter hmax hroom (made.runHop_eq hv)
    rw [hstep]
    exact ih hrest (by omega)

end Hops

section Dispatches

variable {d d' : Dispatcher σ} {pad : Scratchpad} {hint : Option String} {vs : List (Visit σ)}
  {report : Dispatcher.Report σ}

/-- A dispatcher takes the course of another one if the visited agents find the same. -/
theorem Course.handle_eq (h : Course d pad message hint s vs report)
    (halike : ∀ v ∈ vs, Alike d.env d'.env v.agent) (hrouter : d'.router = d.router)
    (hmax : d'.maxDepth = d.maxDepth) : d'.handle pad message hint s = report := by
  cases h with
  | unrouted hr => simp only [Dispatcher.handle, hrouter, hr, routed]
  | failed hr tours =>
    have hrun := tours.runHops_eq halike hrouter hmax (Nat.zero_add d.maxDepth)
    simp only [Chain.first, routed] at hrun
    simp only [Dispatcher.handle, hrouter, hmax, hr, hrun]
  | answered hr tours =>
    have hrun := tours.runHops_eq halike hrouter hmax (Nat.zero_add d.maxDepth)
    simp only [Chain.first, routed] at hrun
    simp only [Dispatcher.handle, hrouter, hmax, hr, hrun]
    rfl

end Dispatches

/-- Backends that no visited agent declares have no influence on a dispatch. Whatever stands under
other names, the report is the same: the result or failure, the scratchpad, the world, and the whole
journal with the messages of every model call, the runs of tools, the calls of services and the
events. -/
theorem handle_indifferent (d : Dispatcher σ) (tools : ToolRegistry σ)
    (services : ServiceRegistry σ) (pad : Scratchpad) (message : String) (hint : Option String)
    (s : RunState σ) {vs : List (Visit σ)}
    (course : Course d pad message hint s vs (d.handle pad message hint s))
    (htools : ∀ v ∈ vs, ∀ tool ∈ v.agent.config.tools, tools.get? tool = d.env.tools.get? tool)
    (hservices : ∀ v ∈ vs, ∀ service ∈ v.agent.config.services,
      services.get? service = d.env.services.get? service) :
    (d.withBackends tools services).handle pad message hint s = d.handle pad message hint s := by
  refine course.handle_eq (fun v hv => ?_) rfl rfl
  constructor
  · rfl
  · rfl
  · rfl
  · rfl
  · exact htools v hv
  · exact hservices v hv

/-- A tool that answers with its own name. -/
def parrot (name : String) : Tool Unit where
  name := name
  definition := ⟨name, "", .null⟩
  execute := fun _ _ world => .pure (.success name) world
  humanize := Tool.plainSummary name

/-- The configuration of an agent with one tool. -/
def scoutConfig : AgentConfig :=
  { AgentConfig.new "scout" with tools := ["look"] }

/-- A dispatcher with that agent and two tools, whose model always asks for both of them and for an
action of a service that the agent does not have. -/
def scout : Dispatcher Unit where
  env :=
    { model := fun _ => ⟨"", "", fun _ _ world =>
        .pure ⟨.ok (ToolCall.toFenced ⟨"look", []⟩ ++ ToolCall.toFenced ⟨"shell", []⟩ ++
          Command.toFenced ⟨"unlock", []⟩), none⟩ world⟩
      tools := [("look", parrot "look"), ("shell", parrot "shell")]
      services := []
      now := fun _ => 0 }
  router := ⟨[("scout", ⟨scoutConfig, "", 0⟩)], "scout", Routing.bestAgent⟩
  maxDepth := 3

/-- Without the tool that it does not declare, and with a service of any kind, nothing changes. -/
theorem handle_indifferent_scout :
    ∃ vs : List (Visit Unit),
      Course scout .empty "go" none (.start () false none) vs
        (scout.handle .empty "go" none (.start () false none)) ∧
      (∀ v ∈ vs, v.agent.config = scoutConfig) ∧
      (scout.withBackends [("look", parrot "look")] [("locks", Service.dryRun "locks" [])]).handle
          .empty "go" none (.start () false none) =
        scout.handle .empty "go" none (.start () false none) := by
  obtain ⟨vs, course⟩ := handle_course scout .empty "go" none (.start () false none)
  have hrouter : ∀ e ∈ scout.router.agents, e.2.config = scoutConfig := by
    intro e he
    obtain rfl := List.mem_singleton.mp he
    rfl
  have hvisited : ∀ v ∈ vs, v.agent.config = scoutConfig :=
    course.agent_of_mem (P := fun a => a.config = scoutConfig) hrouter
  refine ⟨vs, course, hvisited, handle_indifferent scout _ _ _ _ _ _ course ?_ ?_⟩
  · intro v hv tool htool
    rw [hvisited v hv] at htool
    obtain rfl := List.mem_singleton.mp htool
    rfl
  · intro v hv service hservice
    rw [hvisited v hv] at hservice
    cases hservice

end Dispatch

end HomeAgents
