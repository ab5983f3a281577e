import HomeAgents.Proofs.Agent.Prompt
import HomeAgents.Proofs.Dispatch.Stretch

/-!
# Errands

What a block asks to be done is an errand: a run of a tool or an action of a service. An errand is
settled in one of seven ways, and whichever it is, one action is recorded, and a backend is called
once or not at all. Hand-overs are no errands.
-/

namespace HomeAgents

open Dispatch

variable {σ : Type} {env : Environment σ} {agent : Agent} {s s' : RunState σ}

/-- A run of a tool or an action of a service, with its arguments. -/
structure Errand where
  kind : ActionKind
  name : String
  arguments : Members
deriving Repr

/-- The errand a block asks for. -/
def Block.errand? : Block → Option Errand
  | .toolCall c => some ⟨.tool, c.tool, c.args⟩
  | .command c =>
    if c.action = Builtin.delegateAction then none else some ⟨.command, c.action, c.params⟩
  | .malformed _ => none

/-- The errands of a reply, in order. -/
def Reply.errands (r : Reply) : List Errand :=
  r.blocks.filterMap Block.errand?

/-- The errand an action was recorded for. -/
def Action.errand? (a : Action) : Option Errand :=
  if a.kind = .delegation then none else some ⟨a.kind, a.name, a.arguments⟩

/-- What a result of a tool comes to. -/
def ToolResult.outcome (tool : String) (r : ToolResult) : Outcome :=
  if r.isError then .failed (.tool tool (tool ++ ": " ++ r.output)) else .completed r.output

/-- What a reply of a service comes to. -/
def Service.outcome (service : String) : Except ServiceError Json → Outcome
  | .ok response => .completed response.text
  | .error e => .failed (.service service e.message)

/-- The state in which the start of an agent's call of a tool has been told. -/
def Agent.beginTool (agent : Agent) (tool : String) (args : Members) (s : RunState σ) :
    RunState σ :=
  s.emit (.actionStart agent.name .tool tool args)

/-- How an agent's errand is settled from a state on: the service it goes to, its outcome, the calls
that are made for it, and whether the work is cancelled meanwhile. A tool that is there is refused
if the work has been cancelled since its block was taken up. -/
inductive Settles (env : Environment σ) (agent : Agent) (s : RunState σ) :
    Errand → Option String → Outcome → List Entry → Bool → Prop
  | toolDenied {tool : String} {args : Members} (hd : tool ∉ agent.config.tools) :
      Settles env agent s ⟨.tool, tool, args⟩ none
        (.failed (.capabilityDenied agent.name .tool tool)) [] false
  | toolUnknown {tool : String} {args : Members} (hd : tool ∈ agent.config.tools)
      (hr : env.tools.get? tool = none) :
      Settles env agent s ⟨.tool, tool, args⟩ none
        (.failed (.tool tool ("unknown tool: " ++ tool))) [] false
  | toolRefused {tool : String} {args : Members} {t : Tool σ}
      (hd : tool ∈ agent.config.tools) (hr : env.tools.get? tool = some t)
      (hi : (agent.beginTool tool args s).interrupted env = true) :
      Settles env agent s ⟨.tool, tool, args⟩ none (.failed .cancelled) [] true
  | toolRun {tool : String} {args : Members} {t : Tool σ} {answer : Answer σ ToolResult}
      (hd : tool ∈ agent.config.tools) (hr : env.tools.get? tool = some t)
      (hi : (agent.beginTool tool args s).interrupted env = false)
      (ha : t.execute (.object args) ⟨agent.name, false⟩ s.world = answer) :
      Settles env agent s ⟨.tool, tool, args⟩ none (answer.value.outcome tool)
        [.toolRun agent.name tool args] answer.cancels
  | commandDenied {action : String} {params : Members}
      (hd : agent.config.serviceFor action = none) :
      Settles env agent s ⟨.command, action, params⟩ none
        (.failed (.capabilityDenied agent.name .command action)) [] false
  | unregistered {action service : String} {params : Members}
      (hd : agent.config.serviceFor action = some service)
      (hr : env.services.get? service = none) :
      Settles env agent s ⟨.command, action, params⟩ (some service)
        (.failed (.service service "not registered")) [] false
  | serviceCall {action service : String} {params : Members} {b : Service σ}
      {answer : Answer σ (Except ServiceError Json)}
      (hd : agent.config.serviceFor action = some service)
      (hr : env.services.get? service = some b) (ha : b.call action params s.world = answer) :
      Settles env agent s ⟨.command, action, params⟩ (some service)
        (Service.outcome service answer.value)
        [.serviceCall agent.name service action params] answer.cancels

/-- What a settled errand adds: its action between start and end, and its calls in between. -/
def settled (a : Action) (calls : List Entry) (cancels : Bool) : Ledger :=
  ⟨.event (.actionStart a.agent a.kind a.name a.arguments) ::
    (calls ++ Entry.mark cancels ++ [Entry.ended a]), [a], []⟩

/-- The agent's action for an errand. -/
def Errand.action (e : Errand) (agent : Agent) (service : Option String) (outcome : Outcome)
    (durationMs : Nat) : Action :=
  ⟨agent.name, e.kind, e.name, service, e.arguments, outcome, durationMs⟩

/-- An errand is no hand-over. -/
theorem Settles.kind_ne {e : Errand} {service : Option String} {outcome : Outcome}
    {calls : List Entry} {cancels : Bool}
    (h : Settles env agent s e service outcome calls cancels) : e.kind ≠ .delegation := by
  cases h <;> simp

/-- An errand comes to one outcome. -/
theorem Settles.outcome_unique {x : Errand} {service service' : Option String}
    {outcome outcome' : Outcome} {calls calls' : List Entry} {cancels cancels' : Bool}
    (h : Settles env agent s x service outcome calls cancels)
    (h' : Settles env agent s x service' outcome' calls' cancels') : outcome = outcome' := by
  cases h <;> cases h' <;> simp_all

theorem Errand.errand?_action {e : Errand} (h : e.kind ≠ .delegation) (agent : Agent)
    (service : Option String) (outcome : Outcome) (ms : Nat) :
    (e.action agent service outcome ms).errand? = some e := by
  simp [Action.errand?, Errand.action, h]

/-- An errand is settled without a call or with one. -/
theorem Settles.isCall_of_mem {e : Errand} {service : Option String} {outcome : Outcome}
    {calls : List Entry} {cancels : Bool}
    (h : Settles env agent s e service outcome calls cancels) :
    ∀ x ∈ calls, x.isCall = true := by
  intro x hx
  cases h with
  | toolRun hd hr ha => obtain rfl := List.mem_singleton.mp hx; rfl
  | serviceCall hd hr ha => obtain rfl := List.mem_singleton.mp hx; rfl
  | toolDenied | toolUnknown | toolRefused | commandDenied | unregistered => cases hx

theorem AgentConfig.allowsTool_iff {c : AgentConfig} {tool : String} :
    c.allowsTool tool = true ↔ tool ∈ c.tools := by
  simp [AgentConfig.allowsTool]

namespace Dispatch

/-- What happens between the start and the end of an action is wrapped by them. -/
theorem extends_settled {a : Action} {calls : List Entry} {cancels : Bool}
    (hk : (Entry.ended a).isEffect = false)
    (h : Extends env (s.emit (.actionStart a.agent a.kind a.name a.arguments))
      (.told (calls ++ Entry.mark cancels)) s') :
    Extends env s (settled a calls cancels) (s'.record env a) := by
  have hstart : Extends env s (.told [.event (.actionStart a.agent a.kind a.name a.arguments)])
      (s.emit (.actionStart a.agent a.kind a.name a.arguments)) := Extends.emit rfl fun _ => rfl
  have hend : Extends env s' ⟨[Entry.ended a], [a], []⟩ (s'.record env a) :=
    Extends.record fun _ => hk
  have hall := (hstart.trans h).trans hend
  have hl : Ledger.told [.event (.actionStart a.agent a.kind a.name a.arguments)] ++
      Ledger.told (calls ++ Entry.mark cancels) ++ ⟨[Entry.ended a], [a], []⟩ =
      settled a calls cancels := by
    simp only [settled, Ledger.told]
    ext1 <;> rfl
  rwa [hl] at hall

theorem extends_logToolFailure (s : RunState σ) (agent : Agent) (tool : String)
    (result : Except ToolError String) :
    Extends env s .blank (logToolFailure agent tool result s) := by
  cases result with
  | ok output => exact Extends.refl s
  | error e =>
    cases e with
    | cancelled => exact Extends.refl s
    | unknown name => exact Extends.log ..
    | failed tool reason => exact Extends.log ..

variable (env agent)

theorem invokeTool_unknown (c : ToolCall) (ht : env.tools.get? c.tool = none) :
    invokeTool env agent c s =
      (.failed (.tool c.tool ("unknown tool: " ++ c.tool)),
        logToolFailure agent c.tool (.error (.unknown c.tool)) s) := by
  have hn : noteToolRun env agent c s = s := by simp [noteToolRun, ht]
  have ha : env.tools.invoke c.tool (.object c.args) ⟨agent.name, s.cancelled⟩ s.world =
      .pure (.error (.unknown c.tool)) s.world := by
    simp [ToolRegistry.invoke, ht]
  simp only [invokeTool, ht, Option.isSome_none, Bool.false_eq_true, ↓reduceIte, ha, hn,
    RunState.absorb_pure]
  rfl

/-- A tool that is there does not run once the work is seen to be cancelled. -/
theorem invokeTool_refused (c : ToolCall) {t : Tool σ} (ht : env.tools.get? c.tool = some t)
    (hi : s.interrupted env = true) :
    invokeTool env agent c s = (.failed .cancelled, s.look env) := by
  have hlook : (s.look env).cancelled = true := by
    rw [RunState.cancelled_look, hi, Bool.or_true]
  have hn : noteToolRun env agent c (s.look env) = s.look env := by
    simp [noteToolRun, hlook]
  have ha : env.tools.invoke c.tool (.object c.args) ⟨agent.name, (s.look env).cancelled⟩
      (s.look env).world = .pure (.error .cancelled) (s.look env).world := by
    simp [ToolRegistry.invoke, ht, hlook]
  simp only [invokeTool, ht, Option.isSome_some, ↓reduceIte, ha, hn, RunState.absorb_pure]
  rfl

/-- Otherwise it runs once, and what it gives back decides the outcome. -/
theorem invokeTool_run (c : ToolCall) {t : Tool σ} (ht : env.tools.get? c.tool = some t)
    (hs : s.cancelled = false) (hi : s.interrupted env = false) :
    let answer := t.execute (.object c.args) ⟨agent.name, false⟩ s.world
    ∃ result : Except ToolError String,
      invokeTool env agent c s =
        (answer.value.outcome c.tool, logToolFailure agent c.tool result
          ((s.note (.toolRun agent.name c.tool c.args)).absorb (answer.map fun _ => result))) := by
  intro answer
  have hn : noteToolRun env agent c s = s.note (.toolRun agent.name c.tool c.args) := by
    simp [noteToolRun, ht, hs]
  have ha : env.tools.invoke c.tool (.object c.args) ⟨agent.name, s.cancelled⟩ s.world =
      answer.map fun r =>
        if r.isError then .error (.failed c.tool r.output) else .ok r.output := by
    simp [ToolRegistry.invoke, ht, hs, answer]
  have ho : toolOutcome c.tool
      (if answer.value.isError then .error (.failed c.tool answer.value.output)
        else .ok answer.value.output) = answer.value.outcome c.tool := by
    by_cases he : answer.value.isError = true
    · simp [he, toolOutcome, ToolResult.outcome, ToolError.message]
    · simp [he, toolOutcome, ToolResult.outcome]
  refine ⟨if answer.value.isError then .error (.failed c.tool answer.value.output)
    else .ok answer.value.output, ?_⟩
  simp only [invokeTool, ht, Option.isSome_some, ↓reduceIte, RunState.look_eq_self hi, ha, hn,
    Answer.map, ho]

/-- A declared tool that is there is run, unless the work has been cancelled meanwhile. -/
theorem invokeTool_settles (c : ToolCall) (hs : s.cancelled = false)
    (hd : c.tool ∈ agent.config.tools) :
    let begun := agent.beginTool c.tool c.args s
    ∃ calls cancels,
      Settles env agent s ⟨.tool, c.tool, c.args⟩ none (invokeTool env agent c begun).1 calls
        cancels ∧
      Extends env begun (.told (calls ++ Entry.mark cancels)) (invokeTool env agent c begun).2 := by
  intro begun
  have hbegun : begun.cancelled = false := hs
  cases ht : env.tools.get? c.tool with
  | none =>
    have hlog : Extends env begun .blank
        (logToolFailure agent c.tool (.error (.unknown c.tool)) begun) :=
      extends_logToolFailure ..
    rw [invokeTool_unknown env agent c ht]
    exact ⟨[], false, .toolUnknown hd ht, hlog⟩
  | some t =>
    cases hi : begun.interrupted env with
    | true =>
      have hlook := Extends.look env begun
      rw [hi] at hlook
      rw [invokeTool_refused env agent c ht hi]
      exact ⟨[], true, .toolRefused hd ht hi, hlook⟩
    | false =>
      obtain ⟨result, hrun⟩ := invokeTool_run env agent c ht hbegun hi
      have hw : (Entry.toolRun agent.name c.tool c.args).act env begun.world =
          (t.execute (.object c.args) ⟨agent.name, false⟩ begun.world).world := by
        simp [Entry.act, Entry.answer, Answer.map, ht]
      have hc : (Entry.toolRun agent.name c.tool c.args).cancels env begun.world =
          (t.execute (.object c.args) ⟨agent.name, false⟩ begun.world).cancels := by
        simp [Entry.cancels, Entry.answer, Answer.map, ht]
      rw [hrun]
      exact ⟨_, _, .toolRun hd ht hi rfl,
        (Extends.call hbegun rfl rfl hw hc).then_blank (extends_logToolFailure ..)⟩

theorem runTool_settles (c : ToolCall) (hs : s.cancelled = false) :
    ∃ service outcome calls cancels ms,
      Settles env agent s ⟨.tool, c.tool, c.args⟩ service outcome calls cancels ∧
      Extends env s
        (settled (Errand.action ⟨.tool, c.tool, c.args⟩ agent service outcome ms) calls cancels)
        (runTool env agent c s) := by
  by_cases hd : c.tool ∈ agent.config.tools
  · have ha : agent.config.allowsTool c.tool = true := AgentConfig.allowsTool_iff.mpr hd
    obtain ⟨calls, cancels, hset, hext⟩ := invokeTool_settles env agent c hs hd
    simp only [runTool, ha, ↓reduceIte]
    exact ⟨none, _, calls, cancels, _, hset, extends_settled rfl hext⟩
  · have ha : agent.config.allowsTool c.tool = false := by
      rw [← Bool.not_eq_true, AgentConfig.allowsTool_iff]
      exact hd
    simp only [runTool, ha, Bool.false_eq_true, ↓reduceIte]
    exact ⟨none, _, [], false, _, .toolDenied hd, extends_settled rfl (Extends.log ..)⟩

/-- A service of the agent's table is called exactly if it is there. -/
theorem callService_settles {service : String} (c : Command) (hs : s.cancelled = false)
    (hd : agent.config.serviceFor c.action = some service) :
    let s₀ := s.emit (.actionStart agent.name .command c.action c.params)
    ∃ calls cancels,
      Settles env agent s ⟨.command, c.action, c.params⟩ (some service)
        (callService env agent service c s₀).1 calls cancels ∧
      Extends env s₀ (.told (calls ++ Entry.mark cancels))
        (callService env agent service c s₀).2 := by
  intro s₀
  have hs₀ : s₀.cancelled = false := hs
  cases hb : env.services.get? service with
  | none =>
    simp only [callService, hb]
    exact ⟨[], false, .unregistered hd hb, Extends.refl s₀⟩
  | some b =>
    have hw : (Entry.serviceCall agent.name service c.action c.params).act env s₀.world =
        (b.call c.action c.params s₀.world).world := by
      simp [Entry.act, Entry.answer, Answer.map, hb]
    have hc : (Entry.serviceCall agent.name service c.action c.params).cancels env s₀.world =
        (b.call c.action c.params s₀.world).cancels := by
      simp [Entry.cancels, Entry.answer, Answer.map, hb]
    have hcall := Extends.call hs₀ rfl rfl hw hc
    have hset : Settles env agent s ⟨.command, c.action, c.params⟩ (some service)
        (Service.outcome service (b.call c.action c.params s₀.world).value) _ _ :=
      .serviceCall hd hb rfl
    cases hv : (b.call c.action c.params s₀.world).value with
    | ok response =>
      simp only [callService, hb, hv]
      rw [hv] at hset
      exact ⟨_, _, hset, hcall⟩
    | error e =>
      simp only [callService, hb, hv]
      rw [hv] at hset
      exact ⟨_, _, hset, hcall.then_blank (Extends.log ..)⟩

theorem runCommand_settles (c : Command) (hs : s.cancelled = false) :
    ∃ service outcome calls cancels ms,
      Settles env agent s ⟨.command, c.action, c.params⟩ service outcome calls cancels ∧
      Extends env s
        (settled (Errand.action ⟨.command, c.action, c.params⟩ agent service outcome ms) calls
          cancels)
        (runCommand env agent c s) := by
  cases hd : agent.config.serviceFor c.action with
  | none =>
    simp only [runCommand, hd]
    exact ⟨none, _, [], false, _, .commandDenied hd, extends_settled rfl (Extends.log ..)⟩
  | some service =>
    obtain ⟨calls, cancels, hset, hext⟩ := callService_settles env agent c hs hd
    simp only [runCommand, hd]
    exact ⟨some service, _, calls, cancels, _, hset, extends_settled rfl hext⟩

/-- What denying a hand-over adds. -/
def deniedHandover (agent : Agent) (c : Command) : Ledger :=
  let a := handoverAction agent (handoverTarget c) c.params
    (.failed (.capabilityDenied agent.name .delegation (handoverTarget c)))
  ⟨[Entry.ended a], [a], []⟩

/-- Asking for a hand-over adds nothing unless it is denied. -/
theorem requestHandover_extends (message : String) (c : Command) (p : Progress)
    (hs : s.cancelled = false) :
    Extends env s (if agent.config.canNest then .blank else deniedHandover agent c)
      (requestHandover env agent message c p s).2 := by
  by_cases hn : agent.config.canNest = true
  · simp only [requestHandover, hn, ↓reduceIte]
    cases p.handover with
    | none => exact Extends.refl s
    | some h => exact Extends.log ..
  · simp only [requestHandover, hn, Bool.false_eq_true, ↓reduceIte]
    exact (Extends.log ..).trans (Extends.record_open _ hs)

/-- A block that asks for an errand settles it. -/
theorem runBlock_settles {b : Block} {e : Errand} (message : String) (p : Progress)
    (hb : b.errand? = some e) (hs : s.cancelled = false) :
    ∃ service outcome calls cancels ms,
      Settles env agent s e service outcome calls cancels ∧
      Extends env s (settled (e.action agent service outcome ms) calls cancels)
        (runBlock env agent message p s b).2 := by
  cases b with
  | toolCall c =>
    obtain rfl := Option.some.inj hb
    exact runTool_settles env agent c hs
  | command c =>
    by_cases hc : c.action = Builtin.delegateAction
    · simp [Block.errand?, hc] at hb
    · simp only [Block.errand?, hc, ↓reduceIte, Option.some.injEq] at hb
      subst hb
      simp only [runBlock, hc, ↓reduceIte]
      exact runCommand_settles env agent c hs
  | malformed e => cases hb

end Dispatch

end HomeAgents
