import HomeAgents.Dispatch.Basic
import HomeAgents.Proofs.Dispatch.Stretch

/-!
# The course of a dispatch

A dispatch visits agents one after the other. On a visit an agent takes turns, and in a turn it
carries out blocks. The relations here say what each of these may consist of, with every state on
the way; the functions that run a dispatch are shown to follow them. A proof about all dispatches is
an induction on their course.
-/

namespace HomeAgents

/-- A block that cannot be carried out. -/
def Block.isMalformed : Block → Bool
  | .malformed _ => true
  | _ => false

/-- Whoever passes malformed blocks over finds the same without them. -/
theorem Block.filterMap_formed {β : Type} {f : Block → Option β}
    (h : ∀ e, f (.malformed e) = none) (bs : List Block) :
    (bs.filter fun b => !b.isMalformed).filterMap f = bs.filterMap f := by
  rw [List.filterMap_filter]
  congr 1
  funext b
  cases b with
  | malformed e => exact (h e).symm
  | command | toolCall => rfl

namespace Dispatch

variable {σ : Type}

/-- A block that was carried out, with the states before and after it. -/
structure Deed (σ : Type) where
  block : Block
  before : RunState σ
  after : RunState σ

/-- The blocks of a reply are carried out in order; the rest is left out once the work is seen to be
cancelled. -/
inductive Carries (env : Environment σ) (agent : Agent) (message : String) :
    List Block → Progress → RunState σ → List (Deed σ) → Progress → RunState σ → Prop
  | done {p : Progress} {s : RunState σ} : Carries env agent message [] p s [] p s
  | skip {e : BlockError} {rest : List Block} {p p' : Progress} {s s' : RunState σ}
      {ds : List (Deed σ)} (tail : Carries env agent message rest p s ds p' s') :
      Carries env agent message (.malformed e :: rest) p s ds p' s'
  | stop {b : Block} {rest : List Block} {p : Progress} {s : RunState σ}
      (hb : b.isMalformed = false) (hs : (s.look env).cancelled = true) :
      Carries env agent message (b :: rest) p s [] { p with stopped := true } (s.look env)
  | deed {b : Block} {rest : List Block} {p p₁ p' : Progress} {s s₁ s' : RunState σ}
      {ds : List (Deed σ)} (hb : b.isMalformed = false) (hs : (s.look env).cancelled = false)
      (run : runBlock env agent message p s b = (p₁, s₁))
      (tail : Carries env agent message rest p₁ s₁ ds p' s') :
      Carries env agent message (b :: rest) p s (⟨b, s, s₁⟩ :: ds) p' s'

theorem runBlocks_carries (env : Environment σ) (agent : Agent) (message : String)
    (blocks : List Block) (p : Progress) (s : RunState σ) :
    ∃ ds, Carries env agent message blocks p s ds (runBlocks env agent message blocks p s).1
      (runBlocks env agent message blocks p s).2 := by
  induction blocks generalizing p s with
  | nil => exact ⟨[], .done⟩
  | cons b rest ih =>
    cases hb : b.isMalformed with
    | true =>
      cases b with
      | malformed e =>
        obtain ⟨ds, h⟩ := ih p s
        exact ⟨ds, .skip h⟩
      | command c => cases hb
      | toolCall c => cases hb
    | false =>
      have hrun : runBlocks env agent message (b :: rest) p s =
          if (s.look env).cancelled then ({ p with stopped := true }, s.look env)
          else runBlocks env agent message rest (runBlock env agent message p (s.look env) b).1
            (runBlock env agent message p (s.look env) b).2 := by
        cases b with
        | malformed e => cases hb
        | command c => rfl
        | toolCall c => rfl
      cases hs : (s.look env).cancelled with
      | true =>
        rw [hrun, if_pos hs]
        exact ⟨[], .stop hb hs⟩
      | false =>
        have hlook := RunState.look_eq_self_of_cancelled hs
        rw [hrun, if_neg (by simp [hs]), hlook]
        obtain ⟨ds, h⟩ := ih (runBlock env agent message p s b).1
          (runBlock env agent message p s b).2
        exact ⟨_, .deed hb hs rfl h⟩

/-- A turn in which the model replied: what it was sent, the states before and after the call, the
reply, and what was carried out of it. -/
structure Turn (σ : Type) where
  number : Nat
  sent : List Message
  asked : RunState σ
  reply : String
  answered : RunState σ
  deeds : List (Deed σ)
  progress : Progress
  closed : RunState σ

namespace Turn

/-- The state in which the blocks of the reply begin. -/
def opened (t : Turn σ) (agent : Agent) : RunState σ :=
  noteErrors agent (Reply.parse t.reply).errors
    (t.answered.emit (.modelReply agent.name t.number t.reply))

/-- The last prose that was not empty. -/
def prose (t : Turn σ) (text : String) : String :=
  if (Reply.parse t.reply).text.isEmpty then text else (Reply.parse t.reply).text

/-- The hop that ends with this turn. -/
def hop (t : Turn σ) (text : String) (reason : StopReason) (handover : Option Handover) : Hop :=
  ⟨t.prose text, t.reply, t.number, reason, handover⟩

/-- What the next turn is sent. -/
def next (t : Turn σ) (env : Environment σ) (agent : Agent) : List Message :=
  t.sent ++ [.assistant t.reply,
    .user (Action.resultsMessage env.tools
      (t.closed.actions.drop (t.opened agent).actions.length))]

/-- The turn is one that an agent takes, given the hand-over asked for before it. -/
structure Taken (env : Environment σ) (agent : Agent) (message : String)
    (handover : Option Handover) (t : Turn σ) : Prop where
  call : agent.complete env t.sent t.asked = (.ok t.reply, t.answered)
  blocks : Carries env agent message (Reply.parse t.reply).blocks ⟨0, handover, false⟩
    (t.opened agent) t.deeds t.progress t.closed

end Turn

/-- The turns an agent takes, as `runTurns` takes them: a list of turns, what the hop comes to and
the state after it. -/
inductive Takes (env : Environment σ) (agent : Agent) (message : String) :
    Nat → Nat → List Message → String → Option Handover → RunState σ →
      List (Turn σ) → Except AgentError Hop → RunState σ → Prop
  | failed {left turn : Nat} {messages : List Message} {text : String}
      {handover : Option Handover} {s s' : RunState σ} {e : AgentError}
      (call : agent.complete env messages s = (.error e, s')) :
      Takes env agent message left turn messages text handover s [] (.error e) s'
  | stopped {left : Nat} {text : String} {handover : Option Handover} {t : Turn σ}
      (taken : t.Taken env agent message handover) (hs : t.progress.stopped = true) :
      Takes env agent message left t.number t.sent text handover t.asked [t]
        (.ok (t.hop text .cancelled none))
        (t.closed.log .info "Cancelled before all actions ran"
          [("agent", agent.name), ("turn", toString t.number)])
  | ended {left : Nat} {text : String} {handover : Option Handover} {t : Turn σ}
      (taken : t.Taken env agent message handover) (hs : t.progress.stopped = false)
      (hc : t.progress.toolCalls = 0) :
      Takes env agent message left t.number t.sent text handover t.asked [t]
        (.ok (t.hop text .textResponse t.progress.handover)) t.closed
  | usedUp {text : String} {handover : Option Handover} {t : Turn σ}
      (taken : t.Taken env agent message handover) (hs : t.progress.stopped = false)
      (hc : t.progress.toolCalls ≠ 0) :
      Takes env agent message 0 t.number t.sent text handover t.asked [t]
        (.ok (t.hop text .maxTurns none)) (logMaxTurns agent t.progress.handover t.closed)
  | again {left : Nat} {text : String} {handover : Option Handover} {t : Turn σ}
      {ts : List (Turn σ)} {out : Except AgentError Hop} {s' : RunState σ}
      (taken : t.Taken env agent message handover) (hs : t.progress.stopped = false)
      (hc : t.progress.toolCalls ≠ 0)
      (rest : Takes env agent message left (t.number + 1) (t.next env agent) (t.prose text)
        t.progress.handover t.closed ts out s') :
      Takes env agent message (left + 1) t.number t.sent text handover t.asked (t :: ts) out s'

theorem runTurns_takes (env : Environment σ) (agent : Agent) (message : String) (left turn : Nat)
    (messages : List Message) (text : String) (handover : Option Handover) (s : RunState σ) :
    ∃ ts, Takes env agent message left turn messages text handover s ts
      (runTurns env agent message left turn messages text handover s).1
      (runTurns env agent message left turn messages text handover s).2 := by
  induction left using Nat.strongRecOn generalizing turn messages text handover s with
  | ind left ih =>
    rcases hcall : agent.complete env messages s with ⟨e | reply, s₁⟩
    · rw [runTurns.eq_def, hcall]
      exact ⟨[], .failed hcall⟩
    · obtain ⟨ds, hds⟩ := runBlocks_carries env agent message (Reply.parse reply).blocks
        ⟨0, handover, false⟩ (noteErrors agent (Reply.parse reply).errors
          (s₁.emit (.modelReply agent.name turn reply)))
      rcases hrun : runBlocks env agent message (Reply.parse reply).blocks ⟨0, handover, false⟩
        (noteErrors agent (Reply.parse reply).errors
          (s₁.emit (.modelReply agent.name turn reply))) with ⟨p, s₂⟩
      rw [hrun] at hds
      let t : Turn σ := ⟨turn, messages, s, reply, s₁, ds, p, s₂⟩
      have taken : t.Taken env agent message handover := ⟨hcall, hds⟩
      rw [runTurns.eq_def, hcall]
      simp only [hrun]
      cases hs : p.stopped with
      | true =>
        rw [if_pos rfl]
        exact ⟨[t], .stopped taken hs⟩
      | false =>
        rw [if_neg Bool.false_ne_true]
        by_cases hc : p.toolCalls = 0
        · rw [if_pos hc]
          exact ⟨[t], .ended taken hs hc⟩
        · rw [if_neg hc]
          -- Only a turn with tool calls is followed by another one, if one is left.
          cases left with
          | zero => exact ⟨[t], .usedUp taken hs hc⟩
          | succ left =>
            obtain ⟨ts, hts⟩ := ih left (Nat.lt_succ_self left) (turn + 1) (t.next env agent)
              (t.prose text) p.handover s₂
            exact ⟨t :: ts, .again taken hs hc hts⟩

/-- The chain after a hand-over. -/
def Chain.handOver (chain : Chain) (hop : Hop) (h : Handover) (next : Agent) : Chain :=
  ⟨next, h.message, chain.turns + hop.turns, chain.names ++ [next.name]⟩

/-- The ending of a dispatch after a hop. -/
def Chain.ending (chain : Chain) (hop : Hop) (reason : StopReason) : Ending :=
  ⟨hop, chain, chain.turns + hop.turns, reason⟩

/-- The state when an agent's hop is told to be complete. -/
def hopDone (agent : Agent) (hop : Hop) (s : RunState σ) : RunState σ :=
  s.emit (.turnComplete agent.name hop.stopReason)

/-- How it goes on after a hop: the dispatch is over, or another agent takes over. -/
inductive Sequel where
  | over (out : Except AgentError Ending)
  | onward (chain : Chain)

/-- What follows on a hop at some depth of a chain, and the state after it. -/
inductive Follows (d : Dispatcher σ) (depth : Nat) (chain : Chain) (s : RunState σ) :
    Except AgentError Hop → Sequel → RunState σ → Prop
  | failed {e : AgentError} :
      Follows d depth chain s (.error e) (.over (.error e))
        (s.emit (.error chain.agent.name e.message))
  | ended {hop : Hop} (hr : hop.stopReason ≠ .textResponse ∨ hop.handover = none) :
      Follows d depth chain s (.ok hop) (.over (.ok (chain.ending hop hop.stopReason)))
        (hopDone chain.agent hop s)
  | cancelled {hop : Hop} {h : Handover} (hr : hop.stopReason = .textResponse)
      (hh : hop.handover = some h)
      (hs : ((hopDone chain.agent hop s).look d.env).cancelled = true) :
      Follows d depth chain s (.ok hop) (.over (.ok (chain.ending hop .cancelled)))
        ((hopDone chain.agent hop s).look d.env)
  | refused {hop : Hop} {h : Handover} (hr : hop.stopReason = .textResponse)
      (hh : hop.handover = some h)
      (hs : ((hopDone chain.agent hop s).look d.env).cancelled = false)
      (hl : min d.maxDepth chain.agent.config.maxTurns < depth + 1) :
      Follows d depth chain s (.ok hop) (.over (.ok (chain.ending hop .nestingLimitExceeded)))
        (refuseHandover d.env chain.agent h (depth + 1)
          (min d.maxDepth chain.agent.config.maxTurns) (hopDone chain.agent hop s))
  | unknown {hop : Hop} {h : Handover} (hr : hop.stopReason = .textResponse)
      (hh : hop.handover = some h)
      (hs : ((hopDone chain.agent hop s).look d.env).cancelled = false)
      (hl : depth + 1 ≤ min d.maxDepth chain.agent.config.maxTurns)
      (hg : d.router.get? h.target = none) :
      Follows d depth chain s (.ok hop) (.over (.ok (chain.ending hop .textResponse)))
        (failHandover d.env chain.agent h (hopDone chain.agent hop s))
  | followed {hop : Hop} {h : Handover} {next : Agent} (hr : hop.stopReason = .textResponse)
      (hh : hop.handover = some h)
      (hs : ((hopDone chain.agent hop s).look d.env).cancelled = false)
      (hl : depth + 1 ≤ min d.maxDepth chain.agent.config.maxTurns)
      (hg : d.router.get? h.target = some next) :
      Follows d depth chain s (.ok hop) (.onward (chain.handOver hop h next))
        (followHandover d.env chain.agent next h (depth + 1) (hopDone chain.agent hop s))

/-- A visit of the agent at work: how deep it is in the chain, the state before it, its turns, what
its hop comes to, the state after the hop, and the state in which it is decided how to go on. -/
structure Visit (σ : Type) where
  depth : Nat
  chain : Chain
  entered : RunState σ
  turns : List (Turn σ)
  outcome : Except AgentError Hop
  left : RunState σ
  passed : RunState σ

namespace Visit

/-- The agent that is visited. -/
def agent (v : Visit σ) : Agent :=
  v.chain.agent

/-- The state in which the first turn begins. -/
def opened (v : Visit σ) : RunState σ :=
  v.entered.emit (.turnStart v.agent.name v.depth)

/-- The messages of the first turn. -/
def first (v : Visit σ) (env : Environment σ) (pad : Scratchpad) : List Message :=
  v.agent.prepare v.chain.message pad.history (some pad.context) (env.localTime v.opened.world)

/-- The visit is one that a dispatcher makes, and this follows on it. -/
structure Made (d : Dispatcher σ) (pad : Scratchpad) (sequel : Sequel) (v : Visit σ) : Prop where
  turns : Takes d.env v.agent v.chain.message (v.agent.config.maxTurns - 1) 1 (v.first d.env pad) ""
    none v.opened v.turns v.outcome v.left
  follows : Follows d v.depth v.chain v.left v.outcome sequel v.passed

end Visit

/-- The visits of a dispatch from some depth on, as `runHops` makes them: a list of visits, the
ending and the state after it. -/
inductive Tours (d : Dispatcher σ) (pad : Scratchpad) :
    Nat → Chain → RunState σ → List (Visit σ) → Except AgentError Ending → RunState σ → Prop
  | last {v : Visit σ} {out : Except AgentError Ending} (made : v.Made d pad (.over out)) :
      Tours d pad v.depth v.chain v.entered [v] out v.passed
  | more {v : Visit σ} {chain : Chain} {vs : List (Visit σ)} {out : Except AgentError Ending}
      {s' : RunState σ} (made : v.Made d pad (.onward chain))
      (rest : Tours d pad (v.depth + 1) chain v.passed vs out s') :
      Tours d pad v.depth v.chain v.entered (v :: vs) out s'

/-- After a hop, `runHops` is over or goes on as what follows says. -/
theorem runHops_follows {d : Dispatcher σ} {pad : Scratchpad} {room depth : Nat} {chain : Chain}
    {s s₁ : RunState σ} {out : Except AgentError Hop} (hroom : depth + room = d.maxDepth)
    (hrun : runHop d.env chain.agent chain.message pad
      (s.emit (.turnStart chain.agent.name depth)) = (out, s₁)) :
    (∃ ending s₂, Follows d depth chain s₁ out (.over ending) s₂ ∧
      runHops d pad room depth chain s = (ending, s₂)) ∨
    ∃ less chain' s₂, room = less + 1 ∧ Follows d depth chain s₁ out (.onward chain') s₂ ∧
      runHops d pad room depth chain s = runHops d pad less (depth + 1) chain' s₂ := by
  rw [runHops.eq_def]
  simp only [hrun]
  cases out with
  | error e => exact .inl ⟨_, _, .failed, rfl⟩
  | ok hop =>
    dsimp only
    split
    next h hr hh =>
      by_cases hlook : ((hopDone chain.agent hop s₁).look d.env).cancelled = true
      · rw [← hopDone, if_pos hlook]
        exact .inl ⟨_, _, .cancelled hr hh hlook, rfl⟩
      · rw [← hopDone, if_neg hlook]
        rw [Bool.not_eq_true] at hlook
        rw [RunState.look_eq_self_of_cancelled hlook]
        by_cases hl : min d.maxDepth chain.agent.config.maxTurns < depth + 1
        · rw [if_pos hl]
          exact .inl ⟨_, _, .refused hr hh hlook hl, rfl⟩
        · rw [if_neg hl]
          have hl := Nat.le_of_not_lt hl
          cases hg : d.router.get? h.target with
          | none => exact .inl ⟨_, _, .unknown hr hh hlook hl hg, rfl⟩
          | some next =>
            -- Without room the depth would be the greatest one already, and the limit refuses.
            cases room with
            | zero => omega
            | succ room => exact .inr ⟨room, _, _, rfl, .followed hr hh hlook hl hg, rfl⟩
    next hx =>
      refine .inl ⟨_, _, .ended ?_, rfl⟩
      by_cases hr : hop.stopReason = .textResponse
      · right
        cases hh : hop.handover with
        | none => rfl
        | some h => exact absurd hh (hx h hr)
      · exact .inl hr

theorem runHops_tours (d : Dispatcher σ) (pad : Scratchpad) (room depth : Nat) (chain : Chain)
    (s : RunState σ) (hroom : depth + room = d.maxDepth) :
    ∃ vs, Tours d pad depth chain s vs (runHops d pad room depth chain s).1
      (runHops d pad room depth chain s).2 := by
  induction room using Nat.strongRecOn generalizing depth chain s with
  | ind room ih =>
    rcases hrun : runHop d.env chain.agent chain.message pad
      (s.emit (.turnStart chain.agent.name depth)) with ⟨out, s₁⟩
    obtain ⟨ts, hts⟩ := runTurns_takes d.env chain.agent chain.message
      (chain.agent.config.maxTurns - 1) 1
      (chain.agent.prepare chain.message pad.history (some pad.context)
        (d.env.localTime (s.emit (.turnStart chain.agent.name depth)).world)) "" none
      (s.emit (.turnStart chain.agent.name depth))
    rw [← runHop, hrun] at hts
    rcases runHops_follows hroom hrun with
      ⟨out', s₂, follows, h⟩ | ⟨less, chain', s₂, hless, follows, h⟩
    · let v : Visit σ := ⟨depth, chain, s, ts, out, s₁, s₂⟩
      have made : v.Made d pad (.over out') := ⟨hts, follows⟩
      rw [h]
      exact ⟨[v], .last made⟩
    · let v : Visit σ := ⟨depth, chain, s, ts, out, s₁, s₂⟩
      have made : v.Made d pad (.onward chain') := ⟨hts, follows⟩
      obtain ⟨vs, hvs⟩ := ih less (by omega) (depth + 1) chain' s₂ (by omega)
      rw [h]
      exact ⟨v :: vs, .more made hvs⟩

/-- The state when a message has been routed. -/
def routed (d : Dispatcher σ) (message : String) (hint : Option String) (s : RunState σ) :
    RunState σ :=
  { s with journal := s.journal ++ (d.router.select message hint).2.map .log }

/-- The chain with which a dispatch begins. -/
def Chain.first (agent : Agent) (message : String) : Chain :=
  ⟨agent, message, 0, [agent.name]⟩

/-- The state after an ending; a cancelled one is told. -/
def Ending.finish (e : Ending) (s : RunState σ) : RunState σ :=
  if e.reason = .cancelled then s.emit (.cancelled e.chain.agent.name) else s

/-- The course of a whole dispatch, as `Dispatcher.handle` runs it: the visits it makes and the
report it gives. -/
inductive Course (d : Dispatcher σ) (pad : Scratchpad) (message : String) (hint : Option String)
    (s : RunState σ) : List (Visit σ) → Dispatcher.Report σ → Prop
  | unrouted {e : AgentError} (hr : (d.router.select message hint).1 = .error e) :
      Course d pad message hint s [] ⟨.error e, pad, routed d message hint s⟩
  | failed {agent : Agent} {vs : List (Visit σ)} {e : AgentError} {s' : RunState σ}
      (hr : (d.router.select message hint).1 = .ok agent)
      (tours : Tours d pad 0 (.first agent message)
        ((routed d message hint s).emit (.routed agent.name hint.isSome)) vs (.error e) s') :
      Course d pad message hint s vs ⟨.error e, pad, s'⟩
  | answered {agent : Agent} {vs : List (Visit σ)} {ending : Ending} {s' : RunState σ}
      (hr : (d.router.select message hint).1 = .ok agent)
      (tours : Tours d pad 0 (.first agent message)
        ((routed d message hint s).emit (.routed agent.name hint.isSome)) vs (.ok ending) s') :
      Course d pad message hint s vs
        ⟨.ok (ending.result (ending.finish s')),
          remember pad message (ending.result (ending.finish s')),
          logResult (ending.result (ending.finish s')) (ending.finish s')⟩

/-- Every dispatch has a course. -/
theorem handle_course (d : Dispatcher σ) (pad : Scratchpad) (message : String)
    (hint : Option String) (s : RunState σ) :
    ∃ vs, Course d pad message hint s vs (d.handle pad message hint s) := by
  cases hr : (d.router.select message hint).1 with
  | error e =>
    simp only [Dispatcher.handle, hr]
    exact ⟨[], .unrouted hr⟩
  | ok agent =>
    obtain ⟨vs, hvs⟩ := runHops_tours d pad d.maxDepth 0 (.first agent message)
      ((routed d message hint s).emit (.routed agent.name hint.isSome)) (Nat.zero_add _)
    simp only [Dispatcher.handle, hr]
    rcases hrun : runHops d pad d.maxDepth 0 (.first agent message)
      ((routed d message hint s).emit (.routed agent.name hint.isSome)) with ⟨e | ending, s'⟩
    · rw [hrun] at hvs
      simp only [Chain.first, routed] at hrun
      rw [hrun]
      exact ⟨vs, .failed hr hvs⟩
    · rw [hrun] at hvs
      simp only [Chain.first, routed] at hrun
      rw [hrun]
      exact ⟨vs, .answered hr hvs⟩

end Dispatch

end HomeAgents
