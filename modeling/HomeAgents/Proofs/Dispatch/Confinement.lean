import HomeAgents.Proofs.Dispatch.Account

/-!
# Confinement

An agent reaches only what its own configuration grants. Nothing is assumed of the configurations,
the registries or the router: whatever a model replies, a tool runs only for a call in a reply of an
agent that declares it, a service is called only for a command that the agent's table binds to it
and that the agent may use, and only an agent that may hand over is followed by another one.
-/

namespace HomeAgents.Dispatch

variable {σ : Type} {env : Environment σ} {agent : Agent}

/-- A call that an agent's configuration grants and that a block of its reply asks for. -/
inductive Granted (agent : Agent) : Block → Entry → Prop
  | tool {tool : String} {args : Members} (declared : tool ∈ agent.config.tools) :
      Granted agent (.toolCall ⟨tool, args⟩) (.toolRun agent.name tool args)
  | service {service action : String} {params : Members} (plain : action ≠ Builtin.delegateAction)
      (bound : Ordered.find? action agent.config.commands = some service)
      (usable : service ∈ agent.config.services) :
      Granted agent (.command ⟨action, params⟩) (.serviceCall agent.name service action params)

/-- The calls made to settle an errand are granted to the agent that settles it. -/
theorem granted_of_settles {s : RunState σ} {b : Block} {e : Errand} {service : Option String}
    {outcome : Outcome} {calls : List Entry} {cancels : Bool} (hb : b.errand? = some e)
    (h : Settles env agent s e service outcome calls cancels) :
    ∀ c ∈ calls, Granted agent b c := by
  intro c hc
  cases h with
  | toolDenied | toolUnknown | toolRefused | commandDenied | unregistered => cases hc
  | toolRun hd hr hi ha =>
    obtain rfl := List.mem_singleton.mp hc
    -- Only a tool call asks for a run of a tool.
    cases b with
    | malformed e => cases hb
    | toolCall call =>
      cases hb
      exact .tool hd
    | command command =>
      simp only [Block.errand?] at hb
      split at hb <;> cases hb
  | serviceCall hd hr ha =>
    obtain rfl := List.mem_singleton.mp hc
    obtain ⟨hbound, husable⟩ := AgentConfig.serviceFor_eq_some.mp hd
    -- Only a command asks for an action of a service, and not if it is a hand-over.
    cases b with
    | malformed e => cases hb
    | toolCall call => cases hb
    | command command =>
      by_cases hp : command.action = Builtin.delegateAction
      · simp [Block.errand?, hp] at hb
      · simp only [Block.errand?, hp, ↓reduceIte, Option.some.injEq, Errand.mk.injEq,
          true_and] at hb
        obtain ⟨rfl, rfl⟩ := hb
        exact .service hp hbound husable

/-- Carrying out a block makes only calls that are granted for this block. -/
theorem Deed.Done.granted {message : String} {x : Deed σ} (h : x.Done env agent message) :
    ∀ c ∈ x.ledger.calls, Granted agent x.block c := by
  intro c hc
  cases he : x.block.errand? with
  | none =>
    rw [(h.aside he).calls] at hc
    cases hc
  | some e =>
    obtain ⟨_, _, _, _, _, hset, hl⟩ := h.settles he
    rw [hl, Ledger.calls_settled hset.isCall_of_mem] at hc
    exact granted_of_settles he hset c hc

/-- Every call of a dispatch was made while one of its blocks was carried out. -/
theorem Course.deed_of_call {d : Dispatcher σ} {pad : Scratchpad} {message : String}
    {hint : Option String} {world : σ} {cancelled : Bool} {telemetry : Option Telemetry}
    {vs : List (Visit σ)} {report : Dispatcher.Report σ}
    (h : Course d pad message hint (.start world cancelled telemetry) vs report) {e : Entry}
    (he : e ∈ report.state.journal) (hc : e.isCall = true) :
    ∃ v ∈ vs, ∃ t ∈ v.turns, ∃ x ∈ t.deeds, e ∈ x.ledger.calls := by
  have hmem : e ∈ report.state.ledger.calls := by
    rw [Ledger.calls_state]
    exact List.mem_filter.mpr ⟨he, hc⟩
  rw [h.calls] at hmem
  obtain ⟨x, hx, hcall⟩ := List.mem_flatMap.mp hmem
  obtain ⟨t, ht, hxt⟩ := List.mem_flatMap.mp hx
  obtain ⟨v, hv, htv⟩ := List.mem_flatMap.mp ht
  exact ⟨v, hv, t, htv, x, hxt, hcall⟩

/-- In every dispatch the backends act only through the calls of the journal, every call is granted
by the configuration of the agent whose reply asks for it, and every agent but the last may hand
over. -/
theorem handle_confined (d : Dispatcher σ) (pad : Scratchpad) (message : String)
    (hint : Option String) (world : σ) (cancelled : Bool) (telemetry : Option Telemetry) :
    let report := d.handle pad message hint (.start world cancelled telemetry)
    ∃ vs : List (Visit σ),
      Course d pad message hint (.start world cancelled telemetry) vs report ∧
      report.state.world = replay d.env report.state.journal world ∧
      (∀ e ∈ report.state.journal, e.isCall = true →
        ∃ v ∈ vs, ∃ t ∈ v.turns, ∃ x ∈ t.deeds,
          x.block ∈ (Reply.parse t.reply).blocks ∧ e ∈ x.ledger.calls ∧
            Granted v.agent x.block e) ∧
      ∀ v ∈ vs.dropLast, v.agent.config.canNest = true := by
  intro report
  obtain ⟨vs, course⟩ := handle_course d pad message hint (.start world cancelled telemetry)
  refine ⟨vs, course, course.world_eq_replay, ?_, course.canNest⟩
  intro e he hc
  obtain ⟨v, hv, t, ht, x, hx, hcall⟩ := course.deed_of_call he hc
  obtain ⟨hdone, hblock⟩ := course.done_of_mem hv ht hx
  exact ⟨v, hv, t, ht, x, hx, hblock, hcall, hdone.granted e hcall⟩

end HomeAgents.Dispatch
