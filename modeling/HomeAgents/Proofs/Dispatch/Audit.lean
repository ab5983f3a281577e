import HomeAgents.Proofs.Dispatch.Failure
import HomeAgents.Proofs.Dispatch.Memory
import HomeAgents.Proofs.Telemetry.Writes

/-!
# The audit of a dispatch

A telemetry that dispatches write into tells all that happened: a trace for every model call that an
agent asked for, whether or not it came to a reply, and a row for every action. It makes no
difference whether a dispatch gave a result, failed or was cancelled.
-/

namespace HomeAgents

open Dispatch

variable {σ : Type} {env : Environment σ} {agent : Agent} {s s' s'' : RunState σ}
  {is is' : List Invocation}

/-- The attempt of an agent at a model call: who asks, and what is sent. -/
def Entry.attempt? : Entry → Option (String × List Message)
  | .attempt agent messages => some (agent, messages)
  | _ => none

/-- The attempts of a dispatch, in order. -/
def RunState.attempts (s : RunState σ) : List (String × List Message) :=
  s.journal.filterMap Entry.attempt?

namespace RunState

theorem attempts_note (s : RunState σ) (e : Entry) :
    (s.note e).attempts = s.attempts ++ e.attempt?.toList := by
  cases he : e.attempt? <;> simp [attempts, note, he]

theorem attempts_absorb {α : Type} (s : RunState σ) (a : Answer σ α) :
    (s.absorb a).attempts = s.attempts := by
  have hlogs : (a.logs.map Entry.log).filterMap Entry.attempt? = [] := by
    refine List.filterMap_eq_nil_iff.mpr fun e he => ?_
    obtain ⟨line, _, rfl⟩ := List.mem_map.mp he
    rfl
  have hmark : (if a.cancels && !s.cancelled then [Entry.cancelled] else []).filterMap
      Entry.attempt? = [] := by
    split <;> rfl
  simp only [attempts, absorb, List.filterMap_append, hlogs, hmark, List.append_nil]

theorem attempts_look (env : Environment σ) (s : RunState σ) :
    (s.look env).attempts = s.attempts := by
  rw [look]
  split
  · simp [attempts, Entry.attempt?]
  · rfl

theorem actions_look (env : Environment σ) (s : RunState σ) :
    (s.look env).actions = s.actions := by
  rw [look]
  split <;> rfl

theorem telemetry_look (env : Environment σ) (s : RunState σ) :
    (s.look env).telemetry = s.telemetry := by
  rw [look]
  split <;> rfl

end RunState

/-- Between two states these model calls were asked for, and whatever telemetry there is tells of
them and of every action that was recorded. -/
structure Audits (s : RunState σ) (is : List Invocation) (s' : RunState σ) : Prop where
  attempts : s'.attempts = s.attempts ++ is.map fun i => (i.agent.name, i.messages)
  written : ∃ actions, s'.actions = s.actions ++ actions ∧
    ∀ t, s.telemetry = some t → ∃ t', s'.telemetry = some t' ∧ t.Writes is actions t'

namespace Audits

/-- Where no attempt is noted, no action recorded and nothing written, there is nothing to tell. -/
theorem of_same (hattempts : s'.attempts = s.attempts) (hactions : s'.actions = s.actions)
    (htelemetry : s'.telemetry = s.telemetry) : Audits s [] s' where
  attempts := by rw [hattempts, List.map_nil, List.append_nil]
  written := by
    refine ⟨[], by rw [hactions, List.append_nil], fun t ht => ?_⟩
    exact ⟨t, htelemetry.trans ht, .refl t⟩

theorem refl (s : RunState σ) : Audits s [] s := of_same rfl rfl rfl

theorem trans (h : Audits s is s') (h' : Audits s' is' s'') : Audits s (is ++ is') s'' where
  attempts := by rw [h'.attempts, h.attempts, List.map_append, List.append_assoc]
  written := by
    obtain ⟨actions, ha, hw⟩ := h.written
    obtain ⟨actions', ha', hw'⟩ := h'.written
    refine ⟨actions ++ actions', by rw [ha', ha, List.append_assoc], fun t ht => ?_⟩
    obtain ⟨t', ht', hfirst⟩ := hw t ht
    obtain ⟨t'', ht'', hsecond⟩ := hw' t' ht'
    exact ⟨t'', ht'', hfirst.trans hsecond⟩

/-- What is followed by nothing to tell. -/
theorem then_silent (h : Audits s is s') (h' : Audits s' [] s'') : Audits s is s'' := by
  simpa only [List.append_nil] using h.trans h'

theorem note {e : Entry} (he : e.attempt? = none) : Audits s [] (s.note e) := by
  refine of_same ?_ rfl rfl
  rw [RunState.attempts_note, he]
  exact List.append_nil _

theorem log (s : RunState σ) (level : LogLevel) (message : String)
    (fields : List (String × String)) : Audits s [] (s.log level message fields) := note rfl

theorem emit (s : RunState σ) (e : Event) : Audits s [] (s.emit e) := note rfl

theorem absorb {α : Type} (s : RunState σ) (a : Answer σ α) : Audits s [] (s.absorb a) :=
  of_same (s.attempts_absorb a) rfl rfl

theorem look (env : Environment σ) (s : RunState σ) : Audits s [] (s.look env) :=
  of_same (s.attempts_look env) (s.actions_look env) (s.telemetry_look env)

theorem noteError (s : RunState σ) (e : BlockError) :
    Audits s [] { s with parseErrors := s.parseErrors ++ [e] } := of_same rfl rfl rfl

theorem record (env : Environment σ) (a : Action) (s : RunState σ) :
    Audits s [] (s.record env a) where
  attempts := (emit s (.actionEnd a.agent a.kind a.name a.outcome.text (!a.outcome.isOk))).attempts
  written := by
    refine ⟨[a], rfl, fun t ht => ?_⟩
    exact ⟨t.recordAction (env.now s.world) a, congrArg (Option.map _) ht, .recordAction ..⟩

end Audits

/-! ### Model calls -/

namespace Agent

/-- The model call of an agent in an environment. -/
def invocation (a : Agent) (env : Environment σ) (messages : List Message)
    (outcome : Except AgentError String) : Invocation :=
  ⟨a, (env.model a.name).provider, (env.model a.name).defaultModel, messages, outcome⟩

theorem call_audits (env : Environment σ) (a : Agent) (messages : List Message) (s : RunState σ) :
    (a.call env messages s).2.attempts = s.attempts ++ [(a.name, messages)] ∧
      (a.call env messages s).2.actions = s.actions ∧
      (a.call env messages s).2.telemetry = s.telemetry := by
  have hnote : ((a.attempted messages s).look env).attempts = s.attempts ++ [(a.name, messages)] :=
    (RunState.attempts_look ..).trans (s.attempts_note _)
  have hactions : ((a.attempted messages s).look env).actions = s.actions :=
    RunState.actions_look ..
  have htelemetry : ((a.attempted messages s).look env).telemetry = s.telemetry :=
    RunState.telemetry_look ..
  rw [call, ← attempted]
  split
  · exact ⟨hnote, hactions, htelemetry⟩
  · refine ⟨?_, hactions, htelemetry⟩
    rw [RunState.attempts_absorb, RunState.attempts_note, hnote]
    exact List.append_nil _

/-- Whatever comes of a model call, one trace tells of it. -/
theorem saveTrace_writes (env : Environment σ) (a : Agent) (messages : List Message)
    (startedAt : Int) (outcome : Except AgentError String) {t : Telemetry}
    (ht : s.telemetry = some t) :
    ∃ t', (a.saveTrace env messages startedAt outcome s).telemetry = some t' ∧
      t.Writes [a.invocation env messages outcome] [] t' := by
  simp only [saveTrace, ht]
  refine ⟨_, rfl, .save rfl ⟨rfl, rfl, rfl, rfl, ⟨rfl, ?_⟩, ?_⟩⟩
  · exact Message.read_listText messages
  · cases outcome with
    | ok text => exact ⟨rfl, rfl⟩
    | error e => exact ⟨rfl, rfl⟩

theorem saveTrace_same (env : Environment σ) (a : Agent) (messages : List Message)
    (startedAt : Int) (outcome : Except AgentError String) (s : RunState σ) :
    (a.saveTrace env messages startedAt outcome s).attempts = s.attempts ∧
      (a.saveTrace env messages startedAt outcome s).actions = s.actions := by
  cases ht : s.telemetry with
  | none =>
    rw [saveTrace.eq_def, ht]
    exact ⟨rfl, rfl⟩
  | some t =>
    rw [saveTrace.eq_def, ht]
    refine ⟨?_, rfl⟩
    exact (s.attempts_note _).trans (List.append_nil _)

/-- What is logged of a model call and its trace come after the call. -/
theorem complete_eq_saveTrace (env : Environment σ) (a : Agent) (messages : List Message)
    (s : RunState σ) :
    ∃ level text fields, a.complete env messages s =
      ((a.call env messages s).1, a.saveTrace env messages (env.now s.world)
        (a.call env messages s).1 ((a.call env messages s).2.log level text fields)) := by
  rcases ho : a.call env messages s with ⟨outcome, s₁⟩
  simp only [complete, ho]
  cases outcome with
  | ok text => exact ⟨_, _, _, rfl⟩
  | error e => exact ⟨_, _, _, rfl⟩

theorem complete_audits (env : Environment σ) (a : Agent) (messages : List Message)
    (s : RunState σ) :
    Audits s [a.invocation env messages (a.complete env messages s).1]
      (a.complete env messages s).2 := by
  obtain ⟨hattempts, hactions, htelemetry⟩ := a.call_audits env messages s
  obtain ⟨level, text, fields, hcomplete⟩ := complete_eq_saveTrace env a messages s
  obtain ⟨hkept, hsame⟩ := a.saveTrace_same env messages (env.now s.world)
    (a.call env messages s).1 ((a.call env messages s).2.log level text fields)
  rw [hcomplete]
  constructor
  · rw [hkept, RunState.log, RunState.attempts_note, hattempts]
    exact List.append_nil _
  · refine ⟨[], ?_, fun t ht => ?_⟩
    · rw [hsame, List.append_nil]
      exact hactions
    · exact a.saveTrace_writes env messages _ _ (htelemetry.trans ht)

end Agent

/-! ### Blocks, turns and visits -/

namespace Dispatch

theorem logToolFailure_audits (agent : Agent) (tool : String) (result : Except ToolError String)
    (s : RunState σ) : Audits s [] (logToolFailure agent tool result s) := by
  cases result with
  | ok output => exact .refl s
  | error e =>
    cases e with
    | cancelled => exact .refl s
    | unknown name | failed tool reason => exact .log ..

theorem invokeTool_audits (env : Environment σ) (agent : Agent) (c : ToolCall) (s : RunState σ) :
    Audits s [] (invokeTool env agent c s).2 := by
  have hnoted (s : RunState σ) : Audits s [] (noteToolRun env agent c s) := by
    rw [noteToolRun]
    split
    · exact .note rfl
    · exact .refl s
  have hlooked : Audits s [] (if (env.tools.get? c.tool).isSome then s.look env else s) := by
    split
    · exact .look ..
    · exact .refl s
  exact ((hlooked.then_silent (hnoted _)).then_silent (.absorb ..)).then_silent
    (logToolFailure_audits ..)

theorem runTool_audits (env : Environment σ) (agent : Agent) (c : ToolCall) (s : RunState σ) :
    Audits s [] (runTool env agent c s) := by
  have hstart := Audits.emit s (.actionStart agent.name .tool c.tool c.args)
  cases ha : agent.config.allowsTool c.tool with
  | true =>
    simp only [runTool, ha, ↓reduceIte]
    exact (hstart.then_silent (invokeTool_audits ..)).then_silent (.record ..)
  | false =>
    simp only [runTool, ha, Bool.false_eq_true, ↓reduceIte]
    exact (hstart.then_silent (.log ..)).then_silent (.record ..)

theorem callService_audits (env : Environment σ) (agent : Agent) (service : String) (c : Command)
    (s : RunState σ) : Audits s [] (callService env agent service c s).2 := by
  rw [callService]
  split
  · exact .refl s
  · next backend hb =>
    have hcalled : Audits s [] ((s.note (.serviceCall agent.name service c.action c.params)).absorb
        (backend.call c.action c.params s.world)) :=
      (Audits.note rfl).then_silent (.absorb ..)
    dsimp only
    split
    · exact hcalled
    · exact hcalled.then_silent (.log ..)

theorem runCommand_audits (env : Environment σ) (agent : Agent) (c : Command) (s : RunState σ) :
    Audits s [] (runCommand env agent c s) := by
  have hstart := Audits.emit s (.actionStart agent.name .command c.action c.params)
  simp only [runCommand]
  cases agent.config.serviceFor c.action with
  | some service => exact (hstart.then_silent (callService_audits ..)).then_silent (.record ..)
  | none => exact (hstart.then_silent (.log ..)).then_silent (.record ..)

theorem requestHandover_audits (env : Environment σ) (agent : Agent) (message : String)
    (c : Command) (p : Progress) (s : RunState σ) :
    Audits s [] (requestHandover env agent message c p s).2 := by
  cases hn : agent.config.canNest with
  | true =>
    simp only [requestHandover, hn, ↓reduceIte]
    cases p.handover with
    | none => exact .refl s
    | some h => exact .log ..
  | false =>
    simp only [requestHandover, hn, Bool.false_eq_true, ↓reduceIte]
    exact (Audits.log ..).then_silent (.record ..)

theorem runBlock_audits (env : Environment σ) (agent : Agent) (message : String) (p : Progress)
    (s : RunState σ) (b : Block) : Audits s [] (runBlock env agent message p s b).2 := by
  cases b with
  | toolCall c => exact runTool_audits ..
  | malformed e => exact .refl s
  | command c =>
    rw [runBlock]
    split
    · exact requestHandover_audits ..
    · exact runCommand_audits ..

theorem Carries.audits {message : String} {bs : List Block} {p p' : Progress}
    {ds : List (Deed σ)} (h : Carries env agent message bs p s ds p' s') : Audits s [] s' := by
  induction h with
  | done => exact .refl _
  | stop hb hs => exact .look ..
  | skip tail ih => exact ih
  | @deed b rest p p₁ p' s s₁ s' ds hb hs run tail ih =>
    have hblock := runBlock_audits env agent message p s b
    rw [run] at hblock
    exact hblock.then_silent ih

theorem noteErrors_audits (agent : Agent) (errors : List BlockError) (s : RunState σ) :
    Audits s [] (noteErrors agent errors s) := by
  induction errors generalizing s with
  | nil => exact .refl s
  | cons e errors ih =>
    have htold : Audits s [] ((s.log .warn "Skipping malformed block"
        [("agent", agent.name), ("error", e.message), ("raw", e.raw)]).emit
          (.parseError agent.name e.message)) := (Audits.log ..).then_silent (.emit ..)
    exact (htold.then_silent (.noteError _ e)).then_silent (ih _)

/-- The model call of a turn. -/
def Turn.invocation (t : Turn σ) (env : Environment σ) (agent : Agent) : Invocation :=
  agent.invocation env t.sent (.ok t.reply)

theorem Turn.Taken.audits {t : Turn σ} {message : String} {handover : Option Handover}
    (h : t.Taken env agent message handover) :
    Audits t.asked [t.invocation env agent] t.closed := by
  have hcall := agent.complete_audits env t.sent t.asked
  rw [h.call] at hcall
  have hopened : Audits t.answered [] (t.opened agent) :=
    (Audits.emit ..).then_silent (noteErrors_audits ..)
  exact (hcall.then_silent hopened).then_silent h.blocks.audits

/-- The model call that a hop ended with in failure, if it did. -/
def unansweredCall (env : Environment σ) (agent : Agent) (messages : List Message) :
    Except AgentError Hop → List Invocation
  | .ok _ => []
  | .error e => [agent.invocation env messages (.error e)]

theorem logMaxTurns_audits (agent : Agent) (handover : Option Handover) (s : RunState σ) :
    Audits s [] (logMaxTurns agent handover s) := by
  cases handover with
  | none => exact .log ..
  | some h => exact (Audits.log ..).then_silent (.log ..)

/-- The model calls of a hop are those of its turns, and one more if it fails. -/
theorem Takes.audits {message : String} {left turn : Nat} {messages : List Message} {text : String}
    {handover : Option Handover} {ts : List (Turn σ)} {out : Except AgentError Hop}
    (h : Takes env agent message left turn messages text handover s ts out s') :
    Audits s (ts.map (fun t => t.invocation env agent) ++
      unansweredCall env agent ((ts.getLast?.map fun t => t.next env agent).getD messages) out)
      s' := by
  induction h with
  | @failed _ _ messages _ _ s s' e call =>
    have hcall := agent.complete_audits env messages s
    rwa [call] at hcall
  | stopped taken hs => exact taken.audits.then_silent (.log ..)
  | ended taken hs hc => exact taken.audits
  | usedUp taken hs hc => exact taken.audits.then_silent (logMaxTurns_audits ..)
  | @again left _ _ t ts out s' taken hs hc rest ih =>
    have hall := taken.audits.trans ih
    -- what is left unanswered is asked after this turn if no other follows
    rw [List.getLast?_cons]
    cases hlast : ts.getLast? <;> rwa [hlast] at hall

section Visits

variable {d : Dispatcher σ} {pad : Scratchpad} {v : Visit σ}

/-- The model calls of a visit. -/
def Visit.invocations (v : Visit σ) (env : Environment σ) (pad : Scratchpad) : List Invocation :=
  v.turns.map (fun t => t.invocation env v.agent) ++
    unansweredCall env v.agent (v.pending env pad) v.outcome

theorem Follows.audits {depth : Nat} {chain : Chain} {out : Except AgentError Hop} {sequel : Sequel}
    (h : Follows d depth chain s out sequel s') : Audits s [] s' := by
  cases h with
  | failed | ended hr => exact .emit ..
  | cancelled hr hh hs => exact (Audits.emit ..).then_silent (.look ..)
  | refused hr hh hs hl | unknown hr hh hs hl hg =>
    exact ((Audits.emit ..).then_silent (.log ..)).then_silent (.record ..)
  | followed hr hh hs hl hg =>
    exact (((Audits.emit ..).then_silent (.log ..)).then_silent (.emit ..)).then_silent (.record ..)

theorem Visit.Made.audits {sequel : Sequel} (h : v.Made d pad sequel) :
    Audits v.entered (v.invocations d.env pad) v.passed := by
  have hopen : Audits v.entered [] v.opened := .emit ..
  exact (hopen.trans h.turns.audits).then_silent h.follows.audits

/-- Every model call of a visit is one that its agent made. -/
theorem Visit.Made.completed {sequel : Sequel} (h : v.Made d pad sequel) :
    ∀ i ∈ v.invocations d.env pad, i = v.agent.invocation d.env i.messages i.outcome ∧
      ∃ asked answered, v.agent.complete d.env i.messages asked = (i.outcome, answered) := by
  intro i hi
  rcases List.mem_append.mp hi with hi | hi
  · obtain ⟨t, ht, rfl⟩ := List.mem_map.mp hi
    obtain ⟨_, taken⟩ := h.turns.taken_of_mem t ht
    exact ⟨rfl, t.asked, t.answered, taken.call⟩
  · cases ho : v.outcome with
    | ok hop =>
      rw [ho] at hi
      cases hi
    | error e =>
      rw [ho] at hi
      obtain rfl := List.mem_singleton.mp hi
      exact ⟨rfl, v.asking, v.left, (h.deserted ho).call⟩

theorem Visit.replies_invocations (v : Visit σ) (env : Environment σ) (pad : Scratchpad) :
    (v.invocations env pad).filterMap (fun i => i.outcome.toOption) = v.turns.map Turn.reply := by
  have hturns : (v.turns.map fun t => t.invocation env v.agent).filterMap
      (fun i => i.outcome.toOption) = v.turns.map Turn.reply := by
    rw [List.filterMap_map]
    exact congrFun List.filterMap_eq_map _
  have hlast : (unansweredCall env v.agent (v.pending env pad) v.outcome).filterMap
      (fun i => i.outcome.toOption) = [] := by
    cases v.outcome <;> rfl
  rw [invocations, List.filterMap_append, hturns, hlast, List.append_nil]

theorem Visit.error_of_mem {i : Invocation} {e : AgentError} (hi : i ∈ v.invocations env pad)
    (he : i.outcome = .error e) : v.outcome = .error e := by
  rcases List.mem_append.mp hi with hi | hi
  · obtain ⟨t, _, rfl⟩ := List.mem_map.mp hi
    cases he
  · cases ho : v.outcome with
    | ok hop =>
      rw [ho] at hi
      cases hi
    | error e' =>
      rw [ho] at hi
      obtain rfl := List.mem_singleton.mp hi
      exact congrArg _ (Except.error.inj he)

section Tours

variable {depth : Nat} {chain : Chain} {vs : List (Visit σ)} {out : Except AgentError Ending}

theorem Tours.audits (h : Tours d pad depth chain s vs out s') :
    Audits s (vs.flatMap fun v => v.invocations d.env pad) s' := by
  induction h with
  | last made =>
    rw [List.flatMap_singleton]
    exact made.audits
  | more made rest ih =>
    rw [List.flatMap_cons]
    exact made.audits.trans ih

/-- Only the last visit can fail. -/
theorem Tours.error_of_mem (h : Tours d pad depth chain s vs out s') (hv : v ∈ vs) {e : AgentError}
    (he : v.outcome = .error e) : out = .error e := by
  induction h with
  | last made =>
    obtain rfl := List.mem_singleton.mp hv
    exact (made.error_iff e).mpr he
  | more made rest ih =>
    rcases List.mem_cons.mp hv with rfl | hv
    · have hfollows := made.follows
      rw [he] at hfollows
      cases hfollows.of_error
    · exact ih hv

end Tours

end Visits

section Courses

variable {d : Dispatcher σ} {pad : Scratchpad} {message : String} {hint : Option String}
  {vs : List (Visit σ)} {report : Dispatcher.Report σ}

theorem routed_audits (d : Dispatcher σ) (message : String) (hint : Option String)
    (s : RunState σ) : Audits s [] (routed d message hint s) := by
  refine .of_same ?_ rfl rfl
  have hlogs : ((d.router.select message hint).2.map Entry.log).filterMap Entry.attempt? = [] := by
    refine List.filterMap_eq_nil_iff.mpr fun e he => ?_
    obtain ⟨line, _, rfl⟩ := List.mem_map.mp he
    rfl
  simp only [RunState.attempts, routed, List.filterMap_append, hlogs, List.append_nil]

theorem Ending.finish_audits (e : Ending) (s : RunState σ) : Audits s [] (e.finish s) := by
  rw [Ending.finish]
  split
  · exact .emit ..
  · exact .refl s

theorem Course.audits (h : Course d pad message hint s vs report) :
    Audits s (vs.flatMap fun v => v.invocations d.env pad) report.state := by
  have hrouted := routed_audits d message hint s
  cases h with
  | unrouted hr => exact hrouted
  | failed hr tours => exact (hrouted.then_silent (.emit ..)).trans tours.audits
  | answered hr tours =>
    exact (((hrouted.then_silent (.emit ..)).trans tours.audits).then_silent
      (Ending.finish_audits ..)).then_silent (.log ..)

theorem Course.error_of_mem {v : Visit σ} {e : AgentError}
    (h : Course d pad message hint s vs report) (hv : v ∈ vs) (he : v.outcome = .error e) :
    report.outcome = .error e := by
  cases h with
  | unrouted hr => cases hv
  | failed hr tours => exact congrArg _ (Except.error.inj (tours.error_of_mem hv he))
  | answered hr tours => cases tours.error_of_mem hv he

/-- The model calls of a dispatch, each made by an agent of its router: they are its attempts, in
order, their replies are told, and it fails with one that fails. All actions are told and listed in
the result, if there is one. -/
structure Asked (d : Dispatcher σ) (report : Dispatcher.Report σ) (is : List Invocation) :
    Prop where
  attempts : report.state.attempts = is.map fun i => (i.agent.name, i.messages)
  completed : ∀ i ∈ is, (∃ e ∈ d.router.agents, e.2 = i.agent) ∧
    i = i.agent.invocation d.env i.messages i.outcome ∧
    ∃ asked answered, i.agent.complete d.env i.messages asked = (i.outcome, answered)
  replies : report.state.events.filterMap Event.reply? = is.filterMap fun i => i.outcome.toOption
  failed : ∀ i ∈ is, ∀ e, i.outcome = .error e → report.outcome = .error e
  ends : report.state.events.filter Event.isEnd = report.state.actions.map Event.ended
  result : ∀ result, report.outcome = .ok result → result.actions = report.state.actions

theorem Course.asked {world : σ} {cancelled : Bool} {telemetry : Option Telemetry}
    (h : Course d pad message hint (.start world cancelled telemetry) vs report) :
    Asked d report (vs.flatMap fun v => v.invocations d.env pad) where
  attempts := h.audits.attempts
  completed := by
    intro i hi
    obtain ⟨v, hv, hiv⟩ := List.mem_flatMap.mp hi
    obtain ⟨_, made⟩ := h.made_of_mem v hv
    obtain ⟨hinvocation, hcall⟩ := made.completed i hiv
    have hagent : i.agent = v.agent := congrArg Invocation.agent hinvocation
    have hrouter : ∃ e ∈ d.router.agents, e.2 = v.agent :=
      h.agent_of_mem (P := fun a => ∃ e ∈ d.router.agents, e.2 = a) (fun e he => ⟨e, he, rfl⟩) v hv
    rw [hagent]
    exact ⟨hrouter, hinvocation, hcall⟩
  replies := by
    rw [h.replies_told, allReplies, allTurns, List.map_flatMap, List.filterMap_flatMap]
    exact List.flatMap_congr fun v _ => (v.replies_invocations d.env pad).symm
  failed := by
    intro i hi e he
    obtain ⟨v, hv, hiv⟩ := List.mem_flatMap.mp hi
    exact h.error_of_mem hv (v.error_of_mem hiv he)
  ends := h.ends_eq
  result := fun result ho => (h.told result ho).1

end Courses

/-! ### Many dispatches -/

/-- What comes of a request that writes into a telemetry. -/
def Request.reportInto (q : Request σ) (pad : Scratchpad) (t : Telemetry) : Dispatcher.Report σ :=
  Request.report { q with telemetry := some t } pad

/-- What comes of some requests, each on a scratchpad of its own, that all write into one telemetry,
one after the other. -/
def dispatchAll (t : Telemetry) :
    List (Request σ × Scratchpad) → List (Dispatcher.Report σ) × Telemetry
  | [] => ([], t)
  | (q, pad) :: qs =>
    let report := q.reportInto pad t
    let later := dispatchAll (report.state.telemetry.getD t) qs
    (report :: later.1, later.2)

theorem Request.reportInto_writes (q : Request σ) (pad : Scratchpad) (t : Telemetry) :
    ∃ is t', Asked q.dispatcher (q.reportInto pad t) is ∧
      (q.reportInto pad t).state.telemetry = some t' ∧
      t.Writes is (q.reportInto pad t).state.actions t' := by
  obtain ⟨vs, course⟩ := handle_course q.dispatcher pad q.message q.hint
    (.start q.world q.cancelled (some t))
  obtain ⟨actions, hactions, hwritten⟩ := course.audits.written
  obtain ⟨t', ht', hwrites⟩ := hwritten t rfl
  have hall : (q.reportInto pad t).state.actions = actions :=
    hactions.trans (List.nil_append _)
  rw [hall]
  exact ⟨_, t', course.asked, ht', hwrites⟩

theorem dispatchAll_writes (t : Telemetry) (qs : List (Request σ × Scratchpad)) :
    ∃ calls : List (Dispatcher.Report σ × List Invocation),
      calls.map Prod.fst = (dispatchAll t qs).1 ∧
      List.Forall₂ (fun q c => Asked q.1.dispatcher c.1 c.2) qs calls ∧
      t.Writes (calls.flatMap Prod.snd) ((dispatchAll t qs).1.flatMap fun r => r.state.actions)
        (dispatchAll t qs).2 := by
  induction qs generalizing t with
  | nil => exact ⟨[], rfl, .nil, .refl t⟩
  | cons q qs ih =>
    obtain ⟨q, pad⟩ := q
    obtain ⟨is, t', hasked, ht', hwrites⟩ := q.reportInto_writes pad t
    -- the next dispatch writes into the telemetry as this one leaves it
    obtain ⟨calls, hreports, hcalls, hrest⟩ := ih t'
    have hstep : dispatchAll t ((q, pad) :: qs) =
        (q.reportInto pad t :: (dispatchAll t' qs).1, (dispatchAll t' qs).2) := by
      simp only [dispatchAll, ht', Option.getD_some]
    rw [hstep]
    refine ⟨(q.reportInto pad t, is) :: calls, ?_, .cons hasked hcalls, ?_⟩
    · rw [List.map_cons, hreports]
    · rw [List.flatMap_cons, List.flatMap_cons]
      exact hwrites.trans hrest

/-- However many dispatches write into a telemetry and however they end, it tells of all their model
calls and all their actions. There is one trace for each call, in the order of the calls, and a name
is counted as often as actions of that name succeeded and failed, in a session that is new neither
more nor less. -/
theorem dispatches_audited (t : Telemetry) (qs : List (Request σ × Scratchpad)) :
    let reports := (dispatchAll t qs).1
    let after := (dispatchAll t qs).2
    ∃ calls : List (Dispatcher.Report σ × List Invocation),
      calls.map Prod.fst = reports ∧
      List.Forall₂ (fun q c => Asked q.1.dispatcher c.1 c.2) qs calls ∧
      (∃ rows, after.traces = t.traces ++ rows ∧
        List.Forall₂ (Invocation.TracedAs t.session) (calls.flatMap Prod.snd) rows) ∧
      (∃ rows, after.actions = t.actions ++ rows ∧
        List.Forall₂ (Action.RecordedAs t.session) (reports.flatMap fun r => r.state.actions)
          rows) ∧
      ∀ name,
        let counts := Action.counts (reports.flatMap fun r => r.state.actions) name
        after.actionCounts name =
          ((t.actionCounts name).1 + counts.1, (t.actionCounts name).2 + counts.2) ∧
        ((∀ r ∈ t.actions, r.session ≠ t.session) → after.actionCounts name = counts) := by
  intro reports after
  obtain ⟨calls, hreports, hcalls, hwrites⟩ := dispatchAll_writes t qs
  refine ⟨calls, hreports, hcalls, hwrites.traces, hwrites.actions, fun name => ?_⟩
  exact ⟨hwrites.actionCounts name, fun hfresh => hwrites.actionCounts_of_fresh hfresh name⟩

end Dispatch

end HomeAgents
