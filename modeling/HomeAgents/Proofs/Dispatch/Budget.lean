import HomeAgents.Proofs.Dispatch.Account
import HomeAgents.Reply.Fence
import Mathlib.Algebra.Order.BigOperators.Group.List
import Mathlib.Algebra.Order.Group.Nat
import Mathlib.Algebra.Order.Ring.Nat

/-!
# Budgets

A dispatch ends after a bounded number of model calls, whatever the model replies. An agent attempts
at most as many replies in a hop as its configuration allows turns, and hands over only as deep as
the dispatcher and its own turns allow. All of it is read off the steps of a dispatch: the visits,
the attempts and the calls of the model that its journal tells of.
-/

namespace HomeAgents

variable {σ : Type}

/-- A step that counts for the budget of a dispatch: an agent is visited, it attempts to get a
reply, or the model is called for it. -/
inductive Step where
  | visit (agent : String) (depth : Nat)
  | attempt (agent : String)
  | call (agent : String)
deriving DecidableEq, Repr

namespace Step

def isAttempt : Step → Bool
  | attempt _ => true
  | _ => false

def isCall : Step → Bool
  | call _ => true
  | _ => false

/-- The agent and the depth of a visit. -/
def visit? : Step → Option (String × Nat)
  | visit agent depth => some (agent, depth)
  | _ => none

/-- The number of attempts among some steps. -/
def attempts (steps : List Step) : Nat :=
  steps.countP isAttempt

/-- The number of model calls among some steps. -/
def calls (steps : List Step) : Nat :=
  steps.countP isCall

/-- The visits among some steps, in order. -/
def visits (steps : List Step) : List (String × Nat) :=
  steps.filterMap visit?

/-- An attempt for which the model is called. -/
def asked (agent : String) : List Step :=
  [attempt agent, call agent]

theorem attempts_append (steps steps' : List Step) :
    attempts (steps ++ steps') = attempts steps + attempts steps' :=
  List.countP_append

theorem calls_append (steps steps' : List Step) :
    calls (steps ++ steps') = calls steps + calls steps' :=
  List.countP_append

theorem visits_append (steps steps' : List Step) :
    visits (steps ++ steps') = visits steps ++ visits steps' :=
  List.filterMap_append

theorem attempts_asked (agent : String) (n : Nat) :
    attempts (List.replicate n (asked agent)).flatten = n := by
  rw [attempts, List.countP_flatten, List.map_replicate, List.sum_replicate_nat]
  exact Nat.mul_one n

theorem calls_asked (agent : String) (n : Nat) :
    calls (List.replicate n (asked agent)).flatten = n := by
  rw [calls, List.countP_flatten, List.map_replicate, List.sum_replicate_nat]
  exact Nat.mul_one n

theorem visits_asked (agent : String) (n : Nat) :
    visits (List.replicate n (asked agent)).flatten = [] := by
  refine List.filterMap_eq_nil_iff.mpr fun step hstep => ?_
  obtain ⟨steps, hsteps, hmem⟩ := List.mem_flatten.mp hstep
  rw [List.eq_of_mem_replicate hsteps, asked] at hmem
  rcases List.mem_cons.mp hmem with rfl | hmem
  · rfl
  · rw [List.mem_singleton.mp hmem]
    rfl

end Step

/-- The step an entry tells of. -/
def Entry.step? : Entry → Option Step
  | event (.turnStart agent depth) => some (.visit agent depth)
  | attempt agent _ => some (.attempt agent)
  | modelCall agent _ _ => some (.call agent)
  | _ => none

/-- The steps of a ledger, in order. -/
def Ledger.steps (l : Ledger) : List Step :=
  l.entries.filterMap Entry.step?

/-- The steps so far, in order. -/
def RunState.steps (s : RunState σ) : List Step :=
  s.journal.filterMap Entry.step?

namespace Ledger

@[simp] theorem steps_append (l l' : Ledger) : (l ++ l').steps = l.steps ++ l'.steps :=
  List.filterMap_append

theorem steps_join (ls : List Ledger) : (join ls).steps = ls.flatMap steps := by
  induction ls with
  | nil => rfl
  | cons l ls ih => rw [join_cons, steps_append, ih, List.flatMap_cons]

theorem steps_state (s : RunState σ) : s.ledger.steps = s.steps :=
  s.filterMap_ledger fun _ => rfl

/-- Noticing a cancellation is no step. -/
theorem steps_mark (c : Bool) : (told (Entry.mark c)).steps = [] :=
  Entry.filterMap_mark rfl c

/-- Settling an errand is no step. -/
theorem steps_settled {a : Action} {calls : List Entry} {cancels : Bool}
    (h : ∀ x ∈ calls, x.isCall = true) : (settled a calls cancels).steps = [] := by
  refine List.filterMap_eq_nil_iff.mpr fun x hx => ?_
  rcases List.mem_cons.mp hx with rfl | hx
  · rfl
  · rcases List.mem_append.mp hx with hx | hx
    · rcases List.mem_append.mp hx with hx | hx
      · have hcall := h x hx
        cases x <;> first | rfl | cases hcall
      · cases cancels with
        | false => cases hx
        | true => rw [List.mem_singleton.mp hx]; rfl
    · rw [List.mem_singleton.mp hx]
      rfl

end Ledger

namespace RunState

variable {s : RunState σ}

theorem steps_note (s : RunState σ) (e : Entry) :
    (s.note e).steps = s.steps ++ e.step?.toList := by
  rw [steps, note, List.filterMap_append, steps]
  cases h : e.step? <;> simp [h]

@[simp] theorem steps_emit (s : RunState σ) (e : Event) :
    (s.emit e).steps = s.steps ++ (Entry.event e).step?.toList :=
  s.steps_note _

@[simp] theorem steps_log (s : RunState σ) (level : LogLevel) (message : String)
    (fields : List (String × String)) : (s.log level message fields).steps = s.steps := by
  rw [log, steps_note]
  exact List.append_nil _

@[simp] theorem steps_record (env : Environment σ) (a : Action) (s : RunState σ) :
    (s.record env a).steps = s.steps := by
  have hemit : (s.emit (.actionEnd a.agent a.kind a.name a.outcome.text (!a.outcome.isOk))).steps =
      s.steps := by
    rw [steps_emit]
    exact List.append_nil _
  exact hemit

@[simp] theorem steps_look (env : Environment σ) (s : RunState σ) :
    (s.look env).steps = s.steps := by
  rw [look]
  split
  · exact s.steps_note .cancelled |>.trans (List.append_nil _)
  · rfl

end RunState

theorem Extends.steps {env : Environment σ} {s s' : RunState σ} {l : Ledger}
    (h : Extends env s l s') : s'.steps = s.steps ++ l.steps := by
  rw [← Ledger.steps_state, h.ledger, Ledger.steps_append, Ledger.steps_state]

/-- Asking for a reply is an attempt, and a call of the model unless the work is cancelled. -/
theorem Agent.steps_asking (a : Agent) (env : Environment σ) (messages : List Message)
    (s : RunState σ) : (Ledger.told (a.asking env messages s)).steps =
      if ((a.attempted messages s).look env).cancelled then [.attempt a.name]
      else Step.asked a.name := by
  have hattempt (es : List Entry) : (Ledger.told (.attempt a.name messages :: es)).steps =
      .attempt a.name :: (Ledger.told es).steps := rfl
  have hcall (es : List Entry) : (Ledger.told (.modelCall a.name messages a.params :: es)).steps =
      .call a.name :: (Ledger.told es).steps := rfl
  rw [asking, reaching, hattempt]
  split
  · rw [Ledger.steps_mark]
  · rw [hcall, Ledger.steps_mark]
    rfl

theorem Router.mem_of_get? {r : Router} {name : String} {agent : Agent}
    (h : r.get? name = some agent) : (name, agent) ∈ r.agents := by
  obtain ⟨before, after, hagents, _⟩ := List.lookup_eq_some_iff.mp h
  rw [hagents]
  exact List.mem_append_right before List.mem_cons_self

theorem Router.get?_of_select {r : Router} {message : String} {hint : Option String}
    {agent : Agent} (h : (r.select message hint).1 = .ok agent) :
    ∃ name, r.get? name = some agent := by
  have hnamed : ∀ name, (r.select message (some name)).1 = .ok agent →
      ∃ name, r.get? name = some agent := by
    intro name hname
    cases hg : r.get? name with
    | some found =>
      simp only [Router.select, hg, Except.ok.injEq] at hname
      exact ⟨name, by rw [hg, hname]⟩
    | none => simp [Router.select, hg] at hname
  cases hint with
  | some name => exact hnamed name h
  | none => exact hnamed (r.choice message) h

namespace Agent

/-- The agent is one that `build` has accepted, whatever its patience was set to since. -/
def Accepted (a : Agent) : Prop :=
  ∃ (τ : Type) (config : AgentConfig) (tools : ToolRegistry τ) (built : Agent),
    build config tools = .ok built ∧ a = { built with timeoutMs := a.timeoutMs }

/-- An accepted agent may take a turn. -/
theorem Accepted.maxTurns_pos {a : Agent} (h : a.Accepted) : 0 < a.config.maxTurns := by
  obtain ⟨τ, config, tools, built, hbuild, ha⟩ := h
  have hturns : 0 < config.maxTurns := by
    rcases Nat.eq_zero_or_pos config.maxTurns with hzero | hpos
    · obtain ⟨p, hp⟩ : ∃ p, config.basicProblem? = some p := by
        rw [AgentConfig.basicProblem?]
        split <;> exact ⟨_, rfl⟩
      rw [build, hp] at hbuild
      cases hbuild
    · exact hpos
  have hconfig : built.config = config := by
    rw [build] at hbuild
    split at hbuild
    · cases hbuild
    · rw [← Except.ok.inj hbuild]
  rw [ha, hconfig]
  exact hturns

end Agent

namespace Dispatch

section Turns

variable {env : Environment σ} {agent : Agent} {message : String} {s s' : RunState σ}

theorem Deed.Done.steps {x : Deed σ} (h : x.Done env agent message) : x.ledger.steps = [] := by
  cases he : x.block.errand? with
  | none =>
    obtain ⟨c, _, _, hl⟩ := h.handover he
    rw [hl]
    split <;> rfl
  | some e =>
    obtain ⟨_, _, _, _, _, hset, hl⟩ := h.settles he
    rw [hl, Ledger.steps_settled hset.isCall_of_mem]

/-- A turn with a reply is one attempt and one call of the model. -/
theorem Turn.Taken.steps {t : Turn σ} {handover : Option Handover}
    (h : t.Taken env agent message handover) :
    (t.ledger env agent).steps = Step.asked agent.name := by
  have hdeeds : (Ledger.join (t.deeds.map Deed.ledger)).steps = [] := by
    rw [Ledger.steps_join, List.flatMap_map]
    exact List.flatMap_eq_nil_iff.mpr fun x hx => (h.blocks.done_of_mem x hx).steps
  have hreply : (Ledger.told [.event (.modelReply agent.name t.number t.reply)]).steps = [] := rfl
  have herrors : (⟨(Reply.parse t.reply).errors.map fun e =>
      .event (.parseError agent.name e.message), [], (Reply.parse t.reply).errors⟩ :
        Ledger).steps = [] := by
    refine List.filterMap_eq_nil_iff.mpr fun e he => ?_
    obtain ⟨_, _, rfl⟩ := List.mem_map.mp he
    rfl
  have hparting : (t.parting agent).steps = [] := Ledger.steps_mark _
  rw [Turn.ledger, Turn.heading, Ledger.steps_append, Ledger.steps_append, Ledger.steps_append,
    Ledger.steps_append, hdeeds, hreply, herrors, hparting, agent.steps_asking, h.look_open]
  rfl

/-- The attempts that a hop makes without getting a reply. -/
def unanswered : Except AgentError Hop → Nat
  | .ok _ => 0
  | .error _ => 1

variable {left turn : Nat} {messages : List Message} {text : String} {handover : Option Handover}
  {ts : List (Turn σ)} {out : Except AgentError Hop}

/-- A hop that may go on for `left` more turns makes an attempt, and at most one for each of these
turns besides. -/
theorem Takes.attempts_le
    (h : Takes env agent message left turn messages text handover s ts out s') :
    1 ≤ ts.length + unanswered out ∧ ts.length + unanswered out ≤ left + 1 := by
  induction h with
  | failed call =>
    exact ⟨Nat.le_refl 1, Nat.le_add_left 1 _⟩
  | stopped taken hs | ended taken hs | usedUp taken hs =>
    exact ⟨Nat.le_refl 1, Nat.le_add_left 1 _⟩
  | again taken hs hc rest ih =>
    rw [List.length_cons]
    omega

/-- The turns a hop counts are those in which it got a reply. -/
theorem Takes.turns_eq
    (h : Takes env agent message left turn messages text handover s ts out s') {hop : Hop}
    (ho : out = .ok hop) : hop.turns + 1 = turn + ts.length := by
  induction h with
  | failed call => cases ho
  | stopped taken hs | ended taken hs | usedUp taken hs =>
    obtain rfl := Except.ok.inj ho
    rfl
  | again taken hs hc rest ih =>
    rw [ih ho, List.length_cons]
    omega

/-- These are the steps of the attempt that ends a hop without a reply, if there is one. -/
structure Missed (out : Except AgentError Hop) (steps : List Step) : Prop where
  attempts : Step.attempts steps = unanswered out
  calls : Step.calls steps ≤ unanswered out
  visits : Step.visits steps = []

theorem Missed.none (hop : Hop) : Missed (.ok hop) [] := ⟨rfl, Nat.le_refl 0, rfl⟩

/-- The steps of a hop are its turns, and a last attempt if that one got no reply. -/
theorem Takes.steps
    (h : Takes env agent message left turn messages text handover s ts out s') :
    ∃ missed, Missed out missed ∧ s'.steps =
      s.steps ++ (List.replicate ts.length (Step.asked agent.name)).flatten ++ missed := by
  induction h with
  | @failed _ _ messages _ _ s s' e call =>
    have hext := agent.complete_extends env messages s
    rw [call] at hext
    refine ⟨(Ledger.told (agent.asking env messages s)).steps, ?_, ?_⟩
    · rw [agent.steps_asking]
      split
      · exact ⟨rfl, Nat.zero_le 1, rfl⟩
      · exact ⟨rfl, Nat.le_refl 1, rfl⟩
    · rw [List.length_nil, List.replicate_zero, List.flatten_nil, List.append_nil]
      exact hext.steps
  | stopped taken hs =>
    refine ⟨[], .none _, ?_⟩
    rw [RunState.steps_log, taken.extends_ledger.steps, taken.steps]
    simp
  | ended taken hs hc =>
    refine ⟨[], .none _, ?_⟩
    rw [taken.extends_ledger.steps, taken.steps]
    simp
  | @usedUp text handover t taken hs hc =>
    have hclosed : Extends env t.asked (t.ledger env agent)
        (logMaxTurns agent t.progress.handover t.closed) :=
      taken.extends_ledger.then_blank (logMaxTurns_extends ..)
    refine ⟨[], .none _, ?_⟩
    rw [hclosed.steps, taken.steps]
    simp
  | again taken hs hc rest ih =>
    obtain ⟨missed, hmissed, hsteps⟩ := ih
    refine ⟨missed, hmissed, ?_⟩
    rw [hsteps, taken.extends_ledger.steps, taken.steps, List.length_cons, List.replicate_succ,
      List.flatten_cons]
    simp only [List.append_assoc]

end Turns

section Visits

variable {d : Dispatcher σ} {pad : Scratchpad} {s s' : RunState σ}

/-- What follows on a hop is no step. -/
theorem Follows.steps {depth : Nat} {chain : Chain} {out : Except AgentError Hop}
    {sequel : Sequel} (h : Follows d depth chain s out sequel s') : s'.steps = s.steps := by
  cases h with
  | failed => simp [Entry.step?]
  | ended hr => simp [hopDone, Entry.step?]
  | cancelled hr hh hs => simp [hopDone, Entry.step?]
  | refused hr hh hs hl => simp [hopDone, refuseHandover, Entry.step?]
  | unknown hr hh hs hl hg => simp [hopDone, failHandover, Entry.step?]
  | followed hr hh hs hl hg => simp [hopDone, followHandover, Entry.step?]

/-- The attempts an agent makes on a visit. -/
def Visit.attempts (v : Visit σ) : Nat :=
  Step.attempts v.ledger.steps

/-- The steps of a visit: it begins, and every attempt is a turn or the one that ends the hop
without a reply. -/
theorem Visit.Made.steps {v : Visit σ} {sequel : Sequel} (h : v.Made d pad sequel) :
    ∃ missed, Missed v.outcome missed ∧ v.ledger.steps = .visit v.agent.name v.depth ::
      ((List.replicate v.turns.length (Step.asked v.agent.name)).flatten ++ missed) := by
  obtain ⟨missed, hmissed, hturns⟩ := h.turns.steps
  refine ⟨missed, hmissed, ?_⟩
  have hopened : v.opened.steps = v.entered.steps ++ [.visit v.agent.name v.depth] :=
    RunState.steps_emit ..
  have hpassed : v.passed.steps = v.entered.steps ++ v.ledger.steps := h.extends_ledger.steps
  rw [h.follows.steps, hturns, hopened, List.append_assoc, List.append_assoc] at hpassed
  exact (List.append_cancel_left hpassed).symm

theorem Visit.Made.visits {v : Visit σ} {sequel : Sequel} (h : v.Made d pad sequel) :
    Step.visits v.ledger.steps = [(v.agent.name, v.depth)] := by
  obtain ⟨missed, hmissed, hsteps⟩ := h.steps
  have hrest : Step.visits ((List.replicate v.turns.length (Step.asked v.agent.name)).flatten ++
      missed) = [] := by
    rw [Step.visits_append, Step.visits_asked, hmissed.visits]
    rfl
  rw [hsteps]
  exact congrArg _ hrest

theorem Visit.Made.attempts_eq {v : Visit σ} {sequel : Sequel} (h : v.Made d pad sequel) :
    v.attempts = v.turns.length + unanswered v.outcome := by
  obtain ⟨missed, hmissed, hsteps⟩ := h.steps
  have hrest : v.attempts = Step.attempts
      ((List.replicate v.turns.length (Step.asked v.agent.name)).flatten ++ missed) := by
    rw [Visit.attempts, hsteps]
    exact List.countP_cons_of_neg (by simp [Step.isAttempt])
  rw [hrest, Step.attempts_append, Step.attempts_asked, hmissed.attempts]

/-- The model is called for every turn of a visit, and perhaps for an attempt without a reply. -/
theorem Visit.Made.calls_bounds {v : Visit σ} {sequel : Sequel} (h : v.Made d pad sequel) :
    v.turns.length ≤ Step.calls v.ledger.steps ∧ Step.calls v.ledger.steps ≤ v.attempts := by
  obtain ⟨missed, hmissed, hsteps⟩ := h.steps
  have hrest : Step.calls v.ledger.steps = Step.calls
      ((List.replicate v.turns.length (Step.asked v.agent.name)).flatten ++ missed) := by
    rw [hsteps]
    exact List.countP_cons_of_neg (by simp [Step.isCall])
  have hcalls := hmissed.calls
  rw [hrest, Step.calls_append, Step.calls_asked, h.attempts_eq]
  omega

/-- On a visit with an outcome the model is called once for each turn the hop counts. -/
theorem Visit.Made.calls_eq_turns {v : Visit σ} {sequel : Sequel} (h : v.Made d pad sequel)
    {hop : Hop} (ho : v.outcome = .ok hop) : Step.calls v.ledger.steps = hop.turns := by
  have hturns := h.turns.turns_eq ho
  have hcalls := h.calls_bounds
  rw [h.attempts_eq, ho, unanswered] at hcalls
  omega

/-- An agent that may take a turn at all attempts one reply or more on a visit, and no more than it
may take turns. -/
theorem Visit.Made.attempts_le {v : Visit σ} {sequel : Sequel} (h : v.Made d pad sequel)
    (hpos : 0 < v.agent.config.maxTurns) :
    1 ≤ v.attempts ∧ v.attempts ≤ v.agent.config.maxTurns := by
  have hbounds := h.turns.attempts_le
  rw [h.attempts_eq]
  omega

/-- A visit after which another agent takes over had an outcome. -/
theorem Visit.Made.outcome_of_onward {v : Visit σ} {next : Chain}
    (h : v.Made d pad (.onward next)) :
    ∃ hop asked agent, v.outcome = .ok hop ∧
      v.depth + 1 ≤ min d.maxDepth v.agent.config.maxTurns ∧
      d.router.get? asked.target = some agent ∧ next = v.chain.handOver hop asked agent := by
  obtain ⟨hop, asked, agent, ho, _, _, _, hl, hg, hnext, _⟩ := h.follows.of_onward
  exact ⟨hop, asked, agent, ho, hl, hg, hnext⟩

/-- A result ends the chain with the hop that has just been made. -/
theorem Follows.of_result {depth : Nat} {chain : Chain} {out : Except AgentError Hop}
    {ending : Ending} (h : Follows d depth chain s out (.over (.ok ending)) s') :
    ∃ hop, out = .ok hop ∧ ending.chain = chain ∧ ending.turns = chain.turns + hop.turns := by
  cases h with
  | ended | cancelled | refused | unknown => exact ⟨_, rfl, rfl, rfl⟩

section Tours

variable {depth : Nat} {chain : Chain} {vs : List (Visit σ)} {out : Except AgentError Ending}

theorem Tours.steps (h : Tours d pad depth chain s vs out s') :
    s'.steps = s.steps ++ vs.flatMap fun v => v.ledger.steps := by
  rw [h.extends_join.steps, Ledger.steps_join, List.flatMap_map]

/-- The depths of the visits count up from that of the first one. -/
theorem Tours.depth_eq (h : Tours d pad depth chain s vs out s') (i : Nat) (hi : i < vs.length) :
    vs[i].depth = depth + i := by
  induction h generalizing i with
  | last made =>
    obtain rfl : i = 0 := by simpa using hi
    rfl
  | @more v chain vs out s' made rest ih =>
    cases i with
    | zero => rfl
    | succ i =>
      have hdepth := ih i (by simpa using hi)
      rw [List.getElem_cons_succ, hdepth]
      omega

/-- Each agent but the last is as deep as the dispatcher and its own turns allow a hand-over. -/
theorem Tours.depth_lt (h : Tours d pad depth chain s vs out s') :
    ∀ v ∈ vs.dropLast, v.depth + 1 ≤ min d.maxDepth v.agent.config.maxTurns := by
  induction h with
  | last made =>
    intro v hv
    cases hv
  | @more w next vs out s' made rest ih =>
    intro v hv
    rw [← List.singleton_append] at hv
    rcases mem_dropLast_append hv with hv | hv
    · obtain ⟨_, _, _, _, hl, _⟩ := made.outcome_of_onward
      rw [List.mem_singleton.mp hv]
      exact hl
    · exact ih v hv

/-- The visits from some depth on fit into the depths that are left. -/
theorem Tours.length_le (h : Tours d pad depth chain s vs out s') (hdepth : depth ≤ d.maxDepth) :
    depth + vs.length ≤ d.maxDepth + 1 := by
  induction h with
  | last made => exact Nat.add_le_add_right hdepth 1
  | more made rest ih =>
    obtain ⟨_, _, _, _, hl, _⟩ := made.outcome_of_onward
    have hrest := ih (Nat.le_trans hl (Nat.min_le_left ..))
    rw [List.length_cons]
    omega

/-- What holds of all agents of the router, and of the first one, holds of all that are visited. -/
theorem Tours.agent_of_mem {P : Agent → Prop} (hrouter : ∀ e ∈ d.router.agents, P e.2)
    (h : Tours d pad depth chain s vs out s') (hfirst : P chain.agent) :
    ∀ v ∈ vs, P v.agent := by
  induction h with
  | last made =>
    intro v hv
    rw [List.mem_singleton.mp hv]
    exact hfirst
  | @more v next vs out s' made rest ih =>
    obtain ⟨hop, asked, agent, _, _, hg, rfl⟩ := made.outcome_of_onward
    intro w hw
    rcases List.mem_cons.mp hw with rfl | hw
    · exact hfirst
    · exact ih (hrouter _ (Router.mem_of_get? hg)) w hw

/-- The turns of an ending are the model calls of the visits that lead to it. -/
theorem Tours.turns_eq {ending : Ending} (h : Tours d pad depth chain s vs out s')
    (ho : out = .ok ending) :
    ending.turns = chain.turns + Step.calls (vs.flatMap fun v => v.ledger.steps) := by
  induction h with
  | last made =>
    subst ho
    obtain ⟨hop, ho, _, hturns⟩ := made.follows.of_result
    rw [hturns, List.flatMap_singleton, made.calls_eq_turns ho]
  | @more v next vs out s' made rest ih =>
    obtain ⟨hop, asked, agent, hhop, _, _, rfl⟩ := made.outcome_of_onward
    rw [ih ho, List.flatMap_cons, Step.calls_append, made.calls_eq_turns hhop]
    exact Nat.add_assoc ..

/-- The chain of an ending has the names of the visited agents. -/
theorem Tours.names_eq {ending : Ending} (h : Tours d pad depth chain s vs out s')
    (ho : out = .ok ending) (earlier : List String)
    (hnames : chain.names = earlier ++ [chain.agent.name]) :
    ending.chain.names = earlier ++ vs.map fun v => v.agent.name := by
  induction h generalizing earlier with
  | last made =>
    subst ho
    obtain ⟨hop, _, hchain, _⟩ := made.follows.of_result
    rw [hchain, hnames]
    rfl
  | @more v next vs out s' made rest ih =>
    obtain ⟨hop, asked, agent, _, _, _, rfl⟩ := made.outcome_of_onward
    have hnext : (v.chain.handOver hop asked agent).names =
        (earlier ++ [v.agent.name]) ++ [agent.name] := by
      rw [Chain.handOver, hnames]
      rfl
    rw [ih ho _ hnext, List.append_assoc]
    rfl

end Tours

section Courses

variable {message : String} {hint : Option String} {vs : List (Visit σ)}
  {report : Dispatcher.Report σ}

theorem Course.steps (h : Course d pad message hint s vs report) :
    report.state.steps = s.steps ++ vs.flatMap fun v => v.ledger.steps := by
  have hrouted : ∀ agent, ((routed d message hint s).emit (.routed agent hint.isSome)).steps =
      s.steps := by
    intro agent
    rw [RunState.steps_emit, (routed_extends d message hint s).steps]
    simp [Entry.step?, Ledger.steps, Ledger.blank]
  cases h with
  | unrouted hr =>
    rw [(routed_extends d message hint s).steps]
    rfl
  | failed hr tours => rw [tours.steps, hrouted]
  | @answered agent vs ending s' hr tours =>
    have hfinish : (ending.finish s').steps = s'.steps := by
      rw [Ending.finish]
      split <;> simp [Entry.step?]
    rw [logResult, RunState.steps_log, hfinish, tours.steps, hrouted]

theorem Course.length_le (h : Course d pad message hint s vs report) :
    vs.length ≤ d.maxDepth + 1 := by
  cases h with
  | unrouted hr => exact Nat.zero_le _
  | failed hr tours | answered hr tours =>
    have hlength := tours.length_le (Nat.zero_le d.maxDepth)
    omega

theorem Course.depth_eq (h : Course d pad message hint s vs report) (i : Nat)
    (hi : i < vs.length) : vs[i].depth = i := by
  cases h with
  | unrouted hr => cases hi
  | failed hr tours | answered hr tours => rw [tours.depth_eq i hi, Nat.zero_add]

theorem Course.depth_lt (h : Course d pad message hint s vs report) :
    ∀ v ∈ vs.dropLast, v.depth + 1 ≤ min d.maxDepth v.agent.config.maxTurns := by
  cases h with
  | unrouted hr =>
    intro v hv
    cases hv
  | failed hr tours | answered hr tours => exact tours.depth_lt

/-- Every agent that a dispatch visits is one of the router's. -/
theorem Course.agent_of_mem {P : Agent → Prop} (hrouter : ∀ e ∈ d.router.agents, P e.2)
    (h : Course d pad message hint s vs report) : ∀ v ∈ vs, P v.agent := by
  cases h with
  | unrouted hr =>
    intro v hv
    cases hv
  | failed hr tours | answered hr tours =>
    obtain ⟨name, hg⟩ := Router.get?_of_select hr
    exact tours.agent_of_mem hrouter (hrouter _ (Router.mem_of_get? hg))

/-- The visits of a dispatch follow each other with the depth counting up. -/
theorem Course.visits_eq (h : Course d pad message hint s vs report) :
    Step.visits (vs.flatMap fun v => v.ledger.steps) =
      vs.mapIdx fun i v => (v.agent.name, i) := by
  have hvisits : Step.visits (vs.flatMap fun v => v.ledger.steps) =
      vs.map fun v => (v.agent.name, v.depth) := by
    rw [Step.visits, List.filterMap_flatMap, List.map_eq_flatMap]
    refine List.flatMap_congr fun v hv => ?_
    obtain ⟨_, made⟩ := h.made_of_mem v hv
    exact made.visits
  rw [hvisits]
  refine List.ext_getElem (by simp) fun i hi hi' => ?_
  rw [List.getElem_map, List.getElem_mapIdx, h.depth_eq i (by simpa using hi)]

/-- A result counts the model calls of the dispatch and names the agents it visited. -/
theorem Course.result_eq (h : Course d pad message hint s vs report) {result : AgentResult}
    (ho : report.outcome = .ok result) :
    result.turns = Step.calls (vs.flatMap fun v => v.ledger.steps) ∧
      result.delegationChain = vs.map fun v => v.agent.name := by
  cases h with
  | unrouted hr => cases ho
  | failed hr tours => cases ho
  | @answered agent vs ending s' hr tours =>
    obtain rfl := Except.ok.inj ho
    constructor
    · have hturns := tours.turns_eq rfl
      rwa [Chain.first, Nat.zero_add] at hturns
    · exact tours.names_eq rfl [] rfl

/-- The model is called no more often than the visited agents may take turns together. -/
theorem Course.calls_le (h : Course d pad message hint s vs report)
    (hpos : ∀ v ∈ vs, 0 < v.agent.config.maxTurns) :
    Step.calls (vs.flatMap fun v => v.ledger.steps) ≤
      (vs.map fun v => v.agent.config.maxTurns).sum := by
  rw [Step.calls, List.countP_flatMap]
  refine List.sum_le_sum fun v hv => ?_
  obtain ⟨_, made⟩ := h.made_of_mem v hv
  exact Nat.le_trans made.calls_bounds.2 (made.attempts_le (hpos v hv)).2

end Courses

end Visits

/-- Whatever the model, the tools and the services do, a dispatch among accepted agents is over
after a bounded number of hops and attempts. Its steps are those of its visits, in their order; on
each visit the agent attempts at least one reply and no more than its turns allow, and it hands over
only if it may and only as deep as the dispatcher and its turns allow. A result counts the model
calls, which the turns of the agents in its chain bound. -/
theorem handle_bounded (d : Dispatcher σ) (pad : Scratchpad) (message : String)
    (hint : Option String) (world : σ) (cancelled : Bool) (telemetry : Option Telemetry)
    (haccepted : ∀ e ∈ d.router.agents, e.2.Accepted) :
    let report := d.handle pad message hint (.start world cancelled telemetry)
    ∃ vs : List (Visit σ),
      Course d pad message hint (.start world cancelled telemetry) vs report ∧
      report.state.steps = vs.flatMap (fun v => v.ledger.steps) ∧
      Step.visits report.state.steps = vs.mapIdx (fun i v => (v.agent.name, i)) ∧
      (∀ v ∈ vs, 1 ≤ v.attempts ∧ v.attempts ≤ v.agent.config.maxTurns) ∧
      vs.length ≤ d.maxDepth + 1 ∧
      (∀ (i : Nat) (hi : i + 1 < vs.length), vs[i].agent.config.canNest = true ∧
        i + 1 ≤ min d.maxDepth vs[i].agent.config.maxTurns) ∧
      ∀ result, report.outcome = .ok result →
        result.delegationChain = vs.map (fun v => v.agent.name) ∧
        result.turns = Step.calls report.state.steps ∧
        result.turns ≤ (vs.map fun v => v.agent.config.maxTurns).sum := by
  intro report
  obtain ⟨vs, course⟩ := handle_course d pad message hint (.start world cancelled telemetry)
  have hsteps : report.state.steps = vs.flatMap fun v => v.ledger.steps := course.steps
  have hpos : ∀ v ∈ vs, 0 < v.agent.config.maxTurns :=
    course.agent_of_mem (P := fun a => 0 < a.config.maxTurns)
      fun e he => (haccepted e he).maxTurns_pos
  refine ⟨vs, course, hsteps, ?_, ?_, course.length_le, ?_, ?_⟩
  · rw [hsteps]
    exact course.visits_eq
  · intro v hv
    obtain ⟨_, made⟩ := course.made_of_mem v hv
    exact made.attempts_le (hpos v hv)
  · intro i hi
    have hmem : vs[i] ∈ vs.dropLast := by
      rw [← List.getElem_dropLast (by rw [List.length_dropLast]; omega)]
      exact List.getElem_mem _
    have hdepth := course.depth_lt _ hmem
    rw [course.depth_eq i (by omega)] at hdepth
    exact ⟨course.canNest _ hmem, hdepth⟩
  · intro result ho
    obtain ⟨hturns, hchain⟩ := course.result_eq ho
    refine ⟨hchain, ?_, ?_⟩
    · rw [hturns, hsteps]
    · rw [hturns]
      exact course.calls_le hpos

/-- The configuration of an agent that may hand over. -/
def relayConfig : AgentConfig :=
  { AgentConfig.new "relay" with canNest := true, maxTurns := 2 }

/-- A dispatcher with one agent, whose model always asks it to hand over to itself. -/
def relay : Dispatcher Unit where
  env :=
    { model := fun _ => ⟨"", "", fun _ _ world =>
        .pure ⟨.ok (Command.toFenced ⟨"delegate", [("agent", .string "relay")]⟩), none⟩ world⟩
      tools := []
      services := []
      now := fun _ => 0 }
  router := ⟨[("relay", ⟨relayConfig, relayConfig.systemPromptText ([] : ToolRegistry Unit), 0⟩)],
    "relay", Routing.bestAgent⟩
  maxDepth := 5

theorem relay_accepted : ∀ e ∈ relay.router.agents, e.2.Accepted := by
  intro e he
  obtain rfl := List.mem_singleton.mp he
  have hvalid : relayConfig.basicProblem? = none := by decide +kernel
  refine ⟨Unit, relayConfig, [],
    ⟨relayConfig, relayConfig.systemPromptText ([] : ToolRegistry Unit), Agent.defaultTimeoutMs⟩,
    ?_, rfl⟩
  rw [Agent.build, hvalid]
  rfl

/-- Even an agent that always hands over to itself comes to an end. -/
theorem handle_bounded_relay :
    (∀ e ∈ relay.router.agents, e.2.Accepted) ∧
      ∃ vs : List (Visit Unit),
        Course relay .empty "go" none (.start () false none) vs
          (relay.handle .empty "go" none (.start () false none)) ∧
        vs.length ≤ 6 ∧ ∀ v ∈ vs, 1 ≤ v.attempts ∧ v.attempts ≤ v.agent.config.maxTurns := by
  obtain ⟨vs, course, _, _, hattempts, hlength, _⟩ :=
    handle_bounded relay .empty "go" none () false none relay_accepted
  exact ⟨relay_accepted, vs, course, hlength, hattempts⟩

end Dispatch

end HomeAgents
