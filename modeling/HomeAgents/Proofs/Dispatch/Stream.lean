import HomeAgents.Proofs.Dispatch.Budget
import HomeAgents.Proofs.Dispatch.Execution
import HomeAgents.Proofs.Dispatch.Offers

/-!
# The stream of events

Whoever listens to a dispatch hears a stream of a fixed form: the routing, then a segment for each
hop, in it a segment for each turn, and in this one for each block. The form is given here as a
grammar over the events alone, and every dispatch is shown to tell a stream of this form. What the
result counts and lists can be read off the stream.
-/

namespace HomeAgents

namespace Event

/-- An event of a block. -/
def isAction : Event → Bool
  | actionStart .. => true
  | actionEnd .. => true
  | _ => false

/-- An event of a turn. -/
def isInner : Event → Bool
  | modelReply .. => true
  | parseError .. => true
  | e => e.isAction

/-- The end of an action. -/
def isEnd : Event → Bool
  | actionEnd .. => true
  | _ => false

/-- The text of a reply. -/
def reply? : Event → Option String
  | modelReply _ _ text => some text
  | _ => none

/-- The message of a malformed block. -/
def parseError? : Event → Option String
  | parseError _ message => some message
  | _ => none

/-- The agent that the message reaches. -/
def reached? : Event → Option String
  | routed agent _ => some agent
  | delegation _ target _ => some target
  | _ => none

/-- The event that tells how an action ended. -/
def ended (a : Action) : Event :=
  .actionEnd a.agent a.kind a.name a.outcome.text (!a.outcome.isOk)

end Event

/-- The event an entry tells. -/
def Entry.event? : Entry → Option Event
  | .event e => some e
  | _ => none

namespace Ledger

/-- The events told, in order. -/
def events (l : Ledger) : List Event :=
  l.entries.filterMap Entry.event?

@[simp] theorem events_append (l l' : Ledger) : (l ++ l').events = l.events ++ l'.events :=
  List.filterMap_append

theorem events_state {σ : Type} (s : RunState σ) : s.ledger.events = s.events :=
  s.filterMap_ledger fun _ => rfl

theorem filter_isEnd_events (l : Ledger) :
    l.events.filter Event.isEnd = (l.entries.filter Entry.isEnd).filterMap Entry.event? := by
  rw [events, List.filter_filterMap, List.filterMap_filter]
  congr 1
  funext e
  cases e with
  | event e => cases e <;> rfl
  | attempt | modelCall | toolRun | serviceCall | cancelled | log => rfl

theorem filterMap_reply_events (l : Ledger) : l.events.filterMap Event.reply? = l.replies := by
  rw [events, replies, List.filterMap_filterMap]
  congr 1
  funext e
  cases e with
  | event e => cases e <;> rfl
  | attempt | modelCall | toolRun | serviceCall | cancelled | log => rfl

/-- Of a settled errand its start and its end are told, with nothing in between. -/
theorem events_settled {a : Action} {calls : List Entry} {cancels : Bool}
    (h : ∀ x ∈ calls, x.isCall = true) :
    (settled a calls cancels).events =
      [.actionStart a.agent a.kind a.name a.arguments, .ended a] := by
  have hcalls : calls.filterMap Entry.event? = [] := by
    refine List.filterMap_eq_nil_iff.mpr fun x hx => ?_
    have hcall := h x hx
    cases x <;> first | rfl | cases hcall
  rw [Ledger.events, settled, List.filterMap_cons, List.filterMap_append, List.filterMap_append,
    hcalls, Entry.filterMap_mark rfl]
  rfl

end Ledger

theorem Extends.events {σ : Type} {env : Environment σ} {s s' : RunState σ} {l : Ledger}
    (h : Extends env s l s') : s'.events = s.events ++ l.events := by
  rw [← Ledger.events_state, ← Ledger.events_state, h.ledger, Ledger.events_append]

theorem RunState.events_emit {σ : Type} (s : RunState σ) (e : Event) :
    (s.emit e).events = s.events ++ [e] := by
  simp [events, emit, note]

theorem RunState.events_log {σ : Type} (s : RunState σ) (level : LogLevel) (message : String)
    (fields : List (String × String)) : (s.log level message fields).events = s.events := by
  simp [events, log, note]

theorem RunState.events_look {σ : Type} (env : Environment σ) (s : RunState σ) :
    (s.look env).events = s.events := by
  rw [(Extends.look env s).events, Ledger.events, Ledger.entries_told,
    Entry.filterMap_mark rfl, List.append_nil]

theorem Agent.events_asking {σ : Type} (a : Agent) (env : Environment σ) (messages : List Message)
    (s : RunState σ) : (Ledger.told (a.asking env messages s)).events = [] := by
  have hattempt (es : List Entry) : (Ledger.told (.attempt a.name messages :: es)).events =
      (Ledger.told es).events := rfl
  have hcall (es : List Entry) :
      (Ledger.told (.modelCall a.name messages a.params :: es)).events =
        (Ledger.told es).events := rfl
  rw [asking, reaching, hattempt]
  split
  · exact Entry.filterMap_mark rfl _
  · rw [hcall]
    exact Entry.filterMap_mark rfl _

namespace Dispatch

variable {σ : Type} {env : Environment σ} {agent : Agent} {message : String} {s s' : RunState σ}

/-- What is told of the blocks of a reply. A malformed block and a hand-over that is only remembered
are passed over in silence; where the work is cancelled the rest is left out, and the reply is not
carried out as a whole. -/
inductive TellsBlocks (agent : Agent) : List Block → Bool → List Event → Prop
  | done : TellsBlocks agent [] true []
  | cut {b : Block} {rest : List Block} (hb : b.isMalformed = false) :
      TellsBlocks agent (b :: rest) false []
  | malformed {e : BlockError} {rest : List Block} {whole : Bool} {es : List Event}
      (tail : TellsBlocks agent rest whole es) :
      TellsBlocks agent (.malformed e :: rest) whole es
  | errand {b : Block} {e : Errand} {rest : List Block} {whole : Bool} {es : List Event}
      {output : String} {failed : Bool} (hb : b.errand? = some e)
      (tail : TellsBlocks agent rest whole es) :
      TellsBlocks agent (b :: rest) whole
        (.actionStart agent.name e.kind e.name e.arguments ::
          .actionEnd agent.name e.kind e.name output failed :: es)
  | remembered {c : Command} {rest : List Block} {whole : Bool} {es : List Event}
      (hc : c.action = Builtin.delegateAction) (hn : agent.config.canNest = true)
      (tail : TellsBlocks agent rest whole es) : TellsBlocks agent (.command c :: rest) whole es
  | denied {c : Command} {rest : List Block} {whole : Bool} {es : List Event}
      (hc : c.action = Builtin.delegateAction) (hn : agent.config.canNest = false)
      (tail : TellsBlocks agent rest whole es) :
      TellsBlocks agent (.command c :: rest) whole
        (.actionEnd agent.name .delegation (handoverTarget c)
          (AgentError.capabilityDenied agent.name .delegation (handoverTarget c)).message true ::
          es)

/-- What is told of a reply before its blocks. -/
def replyEvents (agent : Agent) (number : Nat) (reply : String) : List Event :=
  .modelReply agent.name number reply ::
    (Reply.parse reply).errors.map fun e => .parseError agent.name e.message

/-- What is told of the turns of a hop from some number on, and what the hop comes to. Only in the
last turn blocks may be left out, and the hop counts as cancelled then. -/
inductive TellsTurns (agent : Agent) : Nat → Except AgentError StopReason → List Event → Prop
  | failed {number : Nat} {e : AgentError} : TellsTurns agent number (.error e) []
  | last {number : Nat} {reply : String} {whole : Bool} {reason : StopReason} {es : List Event}
      (blocks : TellsBlocks agent (Reply.parse reply).blocks whole es)
      (hcut : reason = .cancelled ↔ whole = false) (hlimit : reason ≠ .nestingLimitExceeded) :
      TellsTurns agent number (.ok reason) (replyEvents agent number reply ++ es)
  | again {number : Nat} {reply : String} {out : Except AgentError StopReason}
      {es es' : List Event} (blocks : TellsBlocks agent (Reply.parse reply).blocks true es)
      (rest : TellsTurns agent (number + 1) out es') :
      TellsTurns agent number out (replyEvents agent number reply ++ es ++ es')

/-- What is told of a hop: its start, the events of its turns and what follows on them. -/
def hopEvents (agent : Agent) (depth : Nat) (turns closing : List Event) : List Event :=
  .turnStart agent.name depth :: turns ++ closing

/-- What is told of the hops from some depth on, by which agents they are made, and what the
dispatch comes to. -/
inductive TellsHops (router : Router) :
    Nat → List Agent → Except AgentError StopReason → List Event → Prop
  | failed {depth : Nat} {agent : Agent} {e : AgentError} {es : List Event}
      (turns : TellsTurns agent 1 (.error e) es) :
      TellsHops router depth [agent] (.error e)
        (hopEvents agent depth es [.error agent.name e.message])
  | ended {depth : Nat} {agent : Agent} {reason : StopReason} {es : List Event}
      (turns : TellsTurns agent 1 (.ok reason) es) (hr : reason ≠ .cancelled) :
      TellsHops router depth [agent] (.ok reason)
        (hopEvents agent depth es [.turnComplete agent.name reason])
  | cancelled {depth : Nat} {agent : Agent} {reason : StopReason} {es : List Event}
      (turns : TellsTurns agent 1 (.ok reason) es)
      (hr : reason = .cancelled ∨ reason = .textResponse) :
      TellsHops router depth [agent] (.ok .cancelled)
        (hopEvents agent depth es [.turnComplete agent.name reason, .cancelled agent.name])
  | refused {depth limit : Nat} {agent : Agent} {target : String} {es : List Event}
      (turns : TellsTurns agent 1 (.ok .textResponse) es) (hlimit : limit < depth + 1) :
      TellsHops router depth [agent] (.ok .nestingLimitExceeded)
        (hopEvents agent depth es [.turnComplete agent.name .textResponse,
          .actionEnd agent.name .delegation target
            (AgentError.nestingLimitExceeded (depth + 1) limit).message true])
  | unknown {depth : Nat} {agent : Agent} {target : String} {es : List Event}
      (turns : TellsTurns agent 1 (.ok .textResponse) es) (htarget : router.get? target = none) :
      TellsHops router depth [agent] (.ok .textResponse)
        (hopEvents agent depth es [.turnComplete agent.name .textResponse,
          .actionEnd agent.name .delegation target (AgentError.unknownAgent target).message true])
  | followed {depth : Nat} {agent next : Agent} {agents : List Agent} {target : String}
      {out : Except AgentError StopReason} {es es' : List Event}
      (turns : TellsTurns agent 1 (.ok .textResponse) es)
      (htarget : router.get? target = some next)
      (rest : TellsHops router (depth + 1) (next :: agents) out es') :
      TellsHops router depth (agent :: next :: agents) out
        (hopEvents agent depth es [.turnComplete agent.name .textResponse,
          .delegation agent.name next.name (depth + 1),
          .actionEnd agent.name .delegation target ("delegated to " ++ next.name) false] ++ es')

section Grammar

variable {number depth : Nat} {bs : List Block} {whole : Bool} {es : List Event}
  {out : Except AgentError StopReason} {router : Router} {agents : List Agent}

theorem TellsBlocks.isAction_of_mem (h : TellsBlocks agent bs whole es) :
    ∀ e ∈ es, e.isAction = true := by
  induction h with
  | done | cut => intro e he; cases he
  | malformed tail ih | remembered hc hn tail ih => exact ih
  | errand hb tail ih =>
    simp only [List.forall_mem_cons]
    exact ⟨rfl, rfl, ih⟩
  | denied hc hn tail ih =>
    simp only [List.forall_mem_cons]
    exact ⟨rfl, ih⟩

/-- What sees nothing in the events of blocks finds nothing in what is told of them. -/
theorem TellsBlocks.filterMap_eq_nil {β : Type} {f : Event → Option β}
    (hf : ∀ e : Event, e.isAction = true → f e = none) (h : TellsBlocks agent bs whole es) :
    es.filterMap f = [] :=
  List.filterMap_eq_nil_iff.mpr fun e he => hf e (h.isAction_of_mem e he)

theorem isInner_of_mem_replyEvents {reply : String} :
    ∀ e ∈ replyEvents agent number reply, e.isInner = true := by
  simp [replyEvents, Event.isInner]

theorem TellsTurns.isInner_of_mem (h : TellsTurns agent number out es) :
    ∀ e ∈ es, e.isInner = true := by
  have hblocks : ∀ {bs whole es}, TellsBlocks agent bs whole es → ∀ e ∈ es, e.isInner = true := by
    intro bs whole es h e he
    have haction := h.isAction_of_mem e he
    cases e <;> first | rfl | cases haction
  induction h with
  | failed => intro e he; cases he
  | last blocks hcut hlimit =>
    simp only [List.forall_mem_append]
    exact ⟨isInner_of_mem_replyEvents, hblocks blocks⟩
  | again blocks rest ih =>
    simp only [List.forall_mem_append]
    exact ⟨⟨isInner_of_mem_replyEvents, hblocks blocks⟩, ih⟩

theorem TellsTurns.filterMap_eq_nil {β : Type} {f : Event → Option β}
    (hf : ∀ e : Event, e.isInner = true → f e = none) (h : TellsTurns agent number out es) :
    es.filterMap f = [] :=
  List.filterMap_eq_nil_iff.mpr fun e he => hf e (h.isInner_of_mem e he)

/-- The messages of the malformed blocks of some replies. -/
def errorMessages (replies : List String) : List String :=
  replies.flatMap fun reply => (Reply.parse reply).errors.map BlockError.message

theorem errorMessages_append (replies replies' : List String) :
    errorMessages (replies ++ replies') = errorMessages replies ++ errorMessages replies' :=
  List.flatMap_append

/-- The malformed blocks that are told are those of the replies that are told. -/
def Accounted (es : List Event) : Prop :=
  es.filterMap Event.parseError? = errorMessages (es.filterMap Event.reply?)

theorem Accounted.append {es' : List Event} (h : Accounted es) (h' : Accounted es') :
    Accounted (es ++ es') := by
  rw [Accounted, List.filterMap_append, List.filterMap_append, errorMessages_append, h, h']

/-- Events that tell neither replies nor malformed blocks. -/
theorem Accounted.of_silent (herror : es.filterMap Event.parseError? = [])
    (hreply : es.filterMap Event.reply? = []) : Accounted es := by
  rw [Accounted, herror, hreply]
  rfl

theorem accounted_replyEvents (agent : Agent) (number : Nat) (reply : String) :
    Accounted (replyEvents agent number reply) := by
  have hreplies : (replyEvents agent number reply).filterMap Event.reply? = [reply] := by
    rw [replyEvents, List.filterMap_cons, List.filterMap_map]
    exact congrArg _ (List.filterMap_eq_nil_iff.mpr fun _ _ => rfl)
  have herrors : (replyEvents agent number reply).filterMap Event.parseError? =
      (Reply.parse reply).errors.map BlockError.message := by
    rw [replyEvents, List.filterMap_cons_none rfl, List.filterMap_map]
    exact congrFun List.filterMap_eq_map _
  rw [Accounted, hreplies, herrors, errorMessages, List.flatMap_singleton]

theorem TellsBlocks.accounted (h : TellsBlocks agent bs whole es) : Accounted es := by
  refine .of_silent (h.filterMap_eq_nil fun e he => ?_) (h.filterMap_eq_nil fun e he => ?_)
  · cases e <;> first | rfl | cases he
  · cases e <;> first | rfl | cases he

theorem TellsTurns.accounted (h : TellsTurns agent number out es) : Accounted es := by
  induction h with
  | failed => rfl
  | last blocks hcut hlimit => exact (accounted_replyEvents ..).append blocks.accounted
  | again blocks rest ih => exact ((accounted_replyEvents ..).append blocks.accounted).append ih

section Hops

variable {closing : List Event}

/-- A hop is accounted for if what is told after its turns is. -/
theorem TellsTurns.accounted_hop (h : TellsTurns agent number out es)
    (hclosing : Accounted closing) : Accounted (hopEvents agent depth es closing) := by
  have hstart : Accounted [.turnStart agent.name depth] := rfl
  exact (hstart.append h.accounted).append hclosing

/-- No agent is reached in the turns of a hop. -/
theorem TellsTurns.reached_hop (h : TellsTurns agent number out es) :
    (hopEvents agent depth es closing).filterMap Event.reached? =
      closing.filterMap Event.reached? := by
  have hturns : es.filterMap Event.reached? = [] := by
    refine h.filterMap_eq_nil fun e he => ?_
    cases e <;> first | rfl | cases he
  rw [hopEvents, List.cons_append, List.filterMap_cons_none rfl, List.filterMap_append, hturns,
    List.nil_append]

/-- An event that neither opens a hop nor belongs to its turns is told after them. -/
theorem TellsTurns.mem_hop {e : Event} (h : TellsTurns agent number out es)
    (he : e.isInner = false) (hstart : e ≠ .turnStart agent.name depth) :
    e ∈ hopEvents agent depth es closing ↔ e ∈ closing := by
  have hturns : e ∉ es := fun hmem => by simp [h.isInner_of_mem e hmem] at he
  simp [hopEvents, hstart, hturns]

theorem TellsTurns.cancelled_mem_hop {name : String} (h : TellsTurns agent number out es) :
    .cancelled name ∈ hopEvents agent depth es closing ↔ .cancelled name ∈ closing :=
  h.mem_hop rfl (by simp)

theorem TellsTurns.error_mem_hop {name text : String} (h : TellsTurns agent number out es) :
    .error name text ∈ hopEvents agent depth es closing ↔ .error name text ∈ closing :=
  h.mem_hop rfl (by simp)

end Hops

theorem TellsHops.accounted (h : TellsHops router depth agents out es) : Accounted es := by
  induction h with
  | failed turns | ended turns hr | cancelled turns hr | refused turns hlimit
  | unknown turns htarget =>
    exact turns.accounted_hop (.of_silent rfl rfl)
  | followed turns htarget rest ih => exact (turns.accounted_hop (.of_silent rfl rfl)).append ih

/-- The agents that are reached by a hand-over are those of the hops after the first. -/
theorem TellsHops.reached (h : TellsHops router depth agents out es) :
    es.filterMap Event.reached? = agents.tail.map Agent.name := by
  induction h with
  | failed turns | ended turns hr | cancelled turns hr | refused turns hlimit
  | unknown turns htarget =>
    rw [turns.reached_hop]
    rfl
  | followed turns htarget rest ih =>
    rw [List.filterMap_append, turns.reached_hop, ih]
    rfl

/-- A cancellation is told exactly if it is what the dispatch comes to. -/
theorem TellsHops.cancelled_iff (h : TellsHops router depth agents out es) :
    (∃ name, Event.cancelled name ∈ es) ↔ out = .ok .cancelled := by
  induction h with
  | failed turns => simp [turns.cancelled_mem_hop]
  | ended turns hr => simp [turns.cancelled_mem_hop, hr]
  | cancelled turns hr => simp [turns.cancelled_mem_hop]
  | refused turns hlimit | unknown turns htarget => simp [turns.cancelled_mem_hop]
  | followed turns htarget rest ih =>
    rw [← ih]
    simp [turns.cancelled_mem_hop]

/-- An error that is told is the last event, and the dispatch fails with it. -/
theorem TellsHops.last_of_error (h : TellsHops router depth agents out es) {name text : String}
    (he : .error name text ∈ es) :
    es.getLast? = some (.error name text) ∧ ∃ e, out = .error e ∧ e.message = text := by
  induction h with
  | failed turns =>
    rw [turns.error_mem_hop, List.mem_singleton] at he
    obtain ⟨rfl, rfl⟩ := Event.error.inj he
    exact ⟨List.getLast?_concat, _, rfl, rfl⟩
  | ended turns hr | cancelled turns hr | refused turns hlimit
  | unknown turns htarget =>
    simp [turns.error_mem_hop] at he
  | followed turns htarget rest ih =>
    rcases List.mem_append.mp he with he | he
    · simp [turns.error_mem_hop] at he
    · obtain ⟨hlast, hout⟩ := ih he
      rw [List.getLast?_append, hlast]
      exact ⟨rfl, hout⟩

end Grammar

section Runs

/-- A block that is carried out tells its errand or a hand-over that is denied; one that is
remembered tells nothing. -/
theorem Deed.Done.tells {x : Deed σ} {rest : List Block} {whole : Bool} {es : List Event}
    (h : x.Done env agent message) (tail : TellsBlocks agent rest whole es) :
    TellsBlocks agent (x.block :: rest) whole (x.ledger.events ++ es) := by
  cases he : x.block.errand? with
  | some e =>
    obtain ⟨service, outcome, calls, cancels, ms, hset, hledger⟩ := h.settles he
    rw [hledger, Ledger.events_settled hset.isCall_of_mem]
    exact .errand he tail
  | none =>
    obtain ⟨c, hc, haction, hledger⟩ := h.handover he
    rw [hc, hledger]
    cases hn : agent.config.canNest with
    | true => exact .remembered haction hn tail
    | false => exact .denied haction hn tail

/-- What is told of some blocks follows the blocks, not the deeds: it is the form of a whole reply
unless the carrying out was stopped. -/
theorem Carries.tells {bs : List Block} {p p' : Progress} {ds : List (Deed σ)}
    (h : Carries env agent message bs p s ds p' s') (hp : p.stopped = false) :
    ∃ es, TellsBlocks agent bs (!p'.stopped) es ∧ s'.events = s.events ++ es := by
  induction h with
  | done =>
    rw [hp]
    exact ⟨[], .done, (List.append_nil _).symm⟩
  | skip tail ih =>
    obtain ⟨es, hes, hevents⟩ := ih hp
    exact ⟨es, .malformed hes, hevents⟩
  | stop hb hs =>
    rw [RunState.events_look]
    exact ⟨[], .cut hb, (List.append_nil _).symm⟩
  | @deed b rest p p₁ p' s s₁ s' ds hb hs run tail ih =>
    have hdone := Deed.Done.of_look hs hb run
    have hstopped := runBlock_stopped env agent message p s b
    rw [run, hp] at hstopped
    obtain ⟨es, hes, hevents⟩ := ih hstopped
    refine ⟨_, hdone.tells hes, ?_⟩
    rw [hevents, hdone.extends_ledger.events, List.append_assoc]

theorem Turn.events_heading (t : Turn σ) (env : Environment σ) (agent : Agent) :
    (t.heading env agent).events = replyEvents agent t.number t.reply := by
  have herrors (errors : List BlockError) : (errors.map fun e =>
      Entry.event (.parseError agent.name e.message)).filterMap Entry.event? =
        errors.map fun e => .parseError agent.name e.message := by
    rw [List.filterMap_map]
    exact congrFun List.filterMap_eq_map _
  rw [Turn.heading, Ledger.events_append, Ledger.events_append, agent.events_asking]
  exact congrArg _ (herrors _)

/-- A turn tells its reply before its blocks. -/
theorem Turn.Taken.tells {t : Turn σ} {handover : Option Handover}
    (h : t.Taken env agent message handover) :
    ∃ es, TellsBlocks agent (Reply.parse t.reply).blocks (!t.progress.stopped) es ∧
      t.closed.events = t.asked.events ++ (replyEvents agent t.number t.reply ++ es) := by
  obtain ⟨es, hes, hevents⟩ := h.blocks.tells rfl
  refine ⟨es, hes, ?_⟩
  rw [hevents, h.extends_heading.events, t.events_heading, List.append_assoc]

theorem events_logMaxTurns (agent : Agent) (handover : Option Handover) (s : RunState σ) :
    (logMaxTurns agent handover s).events = s.events := by
  cases handover <;> simp [logMaxTurns, RunState.events_log]

theorem Takes.tells {left turn : Nat} {messages : List Message} {text : String}
    {handover : Option Handover} {ts : List (Turn σ)} {out : Except AgentError Hop}
    (h : Takes env agent message left turn messages text handover s ts out s') :
    ∃ es, TellsTurns agent turn (out.map Hop.stopReason) es ∧ s'.events = s.events ++ es := by
  induction h with
  | @failed _ _ messages _ _ s s' e call =>
    have hcall := (agent.complete_extends env messages s).events
    rw [call, agent.events_asking] at hcall
    exact ⟨[], .failed, hcall⟩
  | stopped taken hs =>
    obtain ⟨es, hes, hevents⟩ := taken.tells
    rw [hs] at hes
    refine ⟨_, .last hes (iff_of_true rfl rfl) (by simp [Turn.hop]), ?_⟩
    rw [← hevents]
    exact RunState.events_log ..
  | ended taken hs hc =>
    obtain ⟨es, hes, hevents⟩ := taken.tells
    rw [hs] at hes
    exact ⟨_, .last hes (by simp [Turn.hop]) (by simp [Turn.hop]), hevents⟩
  | usedUp taken hs hc =>
    obtain ⟨es, hes, hevents⟩ := taken.tells
    rw [hs] at hes
    refine ⟨_, .last hes (by simp [Turn.hop]) (by simp [Turn.hop]), ?_⟩
    rw [← hevents]
    exact events_logMaxTurns ..
  | again taken hs hc rest ih =>
    obtain ⟨es, hes, hevents⟩ := taken.tells
    obtain ⟨es', hes', hevents'⟩ := ih
    rw [hs] at hes
    refine ⟨_, .again hes hes', ?_⟩
    rw [hevents', hevents, List.append_assoc]

variable {d : Dispatcher σ} {pad : Scratchpad} {depth : Nat} {chain : Chain}

/-- The state in which a dispatch is over; a cancellation is told before. -/
def finished (out : Except AgentError Ending) (s : RunState σ) : RunState σ :=
  match out with
  | .ok ending => ending.finish s
  | .error _ => s

theorem events_finished_cancelled (hop : Hop) {reason : StopReason} (hr : reason = .cancelled)
    (hs : s'.events = (hopDone chain.agent hop s).events) :
    (finished (.ok (chain.ending hop reason)) s').events = s.events ++
      [.turnComplete chain.agent.name hop.stopReason, .cancelled chain.agent.name] := by
  have hreason : (chain.ending hop reason).reason = .cancelled := hr
  rw [finished, Ending.finish, if_pos hreason, RunState.events_emit, hs, hopDone,
    RunState.events_emit, List.append_assoc]
  rfl

theorem finished_eq (hop : Hop) {reason : StopReason} (hr : reason ≠ .cancelled) :
    finished (.ok (chain.ending hop reason)) s = s := by
  have hreason : (chain.ending hop reason).reason ≠ .cancelled := hr
  rw [finished, Ending.finish, if_neg hreason]

theorem events_hopDone (agent : Agent) (hop : Hop) (s : RunState σ) :
    (hopDone agent hop s).events = s.events ++ [.turnComplete agent.name hop.stopReason] :=
  RunState.events_emit ..

/-- What is told when a hand-over is not followed. -/
theorem events_handed {h : Handover} {e : AgentError} {hop : Hop}
    (hext : Extends env (hopDone agent hop s) (handed agent h (.failed e)) s') :
    s'.events = s.events ++ [.turnComplete agent.name hop.stopReason,
      .actionEnd agent.name .delegation h.target e.message true] := by
  rw [hext.events, events_hopDone, List.append_assoc]
  rfl

/-- What follows on the last hop closes the stream. -/
theorem Follows.tells {out : Except AgentError Hop} {out' : Except AgentError Ending}
    {es : List Event} (h : Follows d depth chain s out (.over out') s')
    (turns : TellsTurns chain.agent 1 (out.map Hop.stopReason) es) :
    ∃ closing, TellsHops d.router depth [chain.agent] (out'.map Ending.reason)
        (hopEvents chain.agent depth es closing) ∧
      (finished out' s').events = s.events ++ closing := by
  cases h with
  | failed => exact ⟨_, .failed turns, RunState.events_emit ..⟩
  | @ended hop hr =>
    -- A hop that was cut short is told as complete first, and as cancelled then.
    by_cases hcancelled : hop.stopReason = .cancelled
    · refine ⟨_, ?_, events_finished_cancelled hop hcancelled rfl⟩
      have hout : (Except.ok (chain.ending hop hop.stopReason)).map Ending.reason =
          (.ok .cancelled : Except AgentError StopReason) := congrArg Except.ok hcancelled
      rw [hout]
      exact .cancelled turns (.inl hcancelled)
    · refine ⟨_, .ended turns hcancelled, ?_⟩
      rw [finished_eq hop hcancelled]
      exact RunState.events_emit ..
  | @cancelled hop h hr hh hs =>
    exact ⟨_, .cancelled turns (.inr hr),
      events_finished_cancelled hop rfl (RunState.events_look ..)⟩
  | @refused hop h hr hh hs hl =>
    have hext : Extends d.env (hopDone chain.agent hop s) _ _ :=
      refuseHandover_extends chain.agent h (depth + 1) (min d.maxDepth chain.agent.config.maxTurns)
        (RunState.not_cancelled_of_look hs)
    have hevents := events_handed hext
    rw [Except.map, hr] at turns
    rw [hr] at hevents
    rw [finished_eq hop (by simp)]
    exact ⟨_, .refused turns hl, hevents⟩
  | @unknown hop h hr hh hs hl hg =>
    have hext : Extends d.env (hopDone chain.agent hop s) _ _ :=
      failHandover_extends chain.agent h (RunState.not_cancelled_of_look hs)
    have hevents := events_handed hext
    rw [Except.map, hr] at turns
    rw [hr] at hevents
    rw [finished_eq hop (by simp)]
    exact ⟨_, .unknown turns hg, hevents⟩

/-- A hand-over that is followed is told between two hops. -/
theorem Follows.tells_onward {out : Except AgentError Hop} {next : Chain} {es es' : List Event}
    {agents : List Agent} {result : Except AgentError StopReason}
    (h : Follows d depth chain s out (.onward next) s')
    (turns : TellsTurns chain.agent 1 (out.map Hop.stopReason) es)
    (rest : TellsHops d.router (depth + 1) (next.agent :: agents) result es') :
    ∃ closing, TellsHops d.router depth (chain.agent :: next.agent :: agents) result
        (hopEvents chain.agent depth es closing ++ es') ∧
      s'.events = s.events ++ closing := by
  cases h with
  | @followed hop h next hr hh hs hl hg =>
    have hext : Extends d.env (hopDone chain.agent hop s) _ _ :=
      followHandover_extends chain.agent next h (depth + 1) (RunState.not_cancelled_of_look hs)
    have hevents := hext.events
    rw [Except.map, hr] at turns
    rw [events_hopDone, hr, List.append_assoc] at hevents
    exact ⟨_, .followed turns hg rest, hevents⟩

theorem Visit.Made.tells {v : Visit σ} {sequel : Sequel} (h : v.Made d pad sequel) :
    ∃ es, TellsTurns v.agent 1 (v.outcome.map Hop.stopReason) es ∧
      v.left.events = v.entered.events ++ (.turnStart v.agent.name v.depth :: es) := by
  obtain ⟨es, hes, hevents⟩ := h.turns.tells
  refine ⟨es, hes, ?_⟩
  rw [hevents, Visit.opened, RunState.events_emit, List.append_assoc]
  rfl

theorem Tours.agents_eq {vs : List (Visit σ)} {out : Except AgentError Ending}
    (h : Tours d pad depth chain s vs out s') :
    ∃ agents, vs.map Visit.agent = chain.agent :: agents := by
  cases h with
  | last made => exact ⟨_, rfl⟩
  | more made rest => exact ⟨_, rfl⟩

theorem Tours.tells {vs : List (Visit σ)} {out : Except AgentError Ending}
    (h : Tours d pad depth chain s vs out s') :
    ∃ es, TellsHops d.router depth (vs.map Visit.agent) (out.map Ending.reason) es ∧
      (finished out s').events = s.events ++ es := by
  induction h with
  | @last v out made =>
    obtain ⟨es, hes, hleft⟩ := made.tells
    obtain ⟨closing, hclosing, hevents⟩ := made.follows.tells hes
    refine ⟨_, hclosing, ?_⟩
    rw [hevents, hleft, List.append_assoc]
    rfl
  | @more v next vs out s' made rest ih =>
    obtain ⟨es, hes, hleft⟩ := made.tells
    obtain ⟨es', hrest, hevents'⟩ := ih
    obtain ⟨agents, hagents⟩ := rest.agents_eq
    rw [hagents] at hrest
    obtain ⟨closing, hclosing, hevents⟩ := made.follows.tells_onward hes hrest
    refine ⟨hopEvents v.agent v.depth es closing ++ es', ?_, ?_⟩
    · rw [List.map_cons, hagents]
      exact hclosing
    · rw [hevents', hevents, hleft, List.append_assoc, List.append_assoc, hopEvents,
        List.append_assoc]

/-- The turns of an ending are those of the visits that lead to it. -/
theorem Tours.turns_eq_length {vs : List (Visit σ)} {out : Except AgentError Ending}
    {ending : Ending} (h : Tours d pad depth chain s vs out s') (ho : out = .ok ending) :
    ending.turns = chain.turns + (allTurns vs).length := by
  induction h with
  | last made =>
    subst ho
    obtain ⟨hop, ho, _, hturns⟩ := made.follows.of_result
    have hlength := made.turns.turns_eq ho
    rw [hturns, allTurns, List.flatMap_singleton]
    omega
  | @more v next vs out s' made rest ih =>
    obtain ⟨hop, asked, agent, hhop, _, _, rfl⟩ := made.outcome_of_onward
    have hlength := made.turns.turns_eq hhop
    have hnext : (v.chain.handOver hop asked agent).turns = v.chain.turns + hop.turns := rfl
    have hall : (allTurns (v :: vs)).length = v.turns.length + (allTurns vs).length :=
      List.length_append
    rw [ih ho, hnext, hall]
    omega

section Courses

variable {hint : Option String} {vs : List (Visit σ)} {report : Dispatcher.Report σ}

/-- If no agent is found nothing is told. -/
theorem Course.tells_unrouted {e : AgentError} (h : Course d pad message hint s vs report)
    (hr : (d.router.select message hint).1 = .error e) :
    report.outcome = .error e ∧ report.state.events = s.events := by
  cases h with
  | unrouted hr' =>
    obtain rfl := Except.error.inj (hr.symm.trans hr')
    exact ⟨rfl, (routed_extends d message hint s).events.trans (List.append_nil _)⟩
  | failed hr' tours | answered hr' tours => cases hr.symm.trans hr'

/-- Otherwise the routing is told, and the hops of the visited agents after it. -/
theorem Course.tells {agent : Agent} (h : Course d pad message hint s vs report)
    (hr : (d.router.select message hint).1 = .ok agent) :
    ∃ agents es, vs.map Visit.agent = agent :: agents ∧
      TellsHops d.router 0 (agent :: agents) (report.outcome.map AgentResult.stopReason) es ∧
      report.state.events = s.events ++ .routed agent.name hint.isSome :: es := by
  have hrouted := (routed_emit_extends d message hint agent s).events
  cases h with
  | unrouted hr' => cases hr.symm.trans hr'
  | @failed agent' vs e s' hr' tours =>
    obtain rfl := Except.ok.inj (hr.symm.trans hr')
    obtain ⟨agents, hagents⟩ := tours.agents_eq
    obtain ⟨es, hes, hevents⟩ := tours.tells
    rw [hagents] at hes
    refine ⟨agents, es, hagents, hes, ?_⟩
    exact hevents.trans (by rw [hrouted, List.append_assoc]; rfl)
  | @answered agent' vs ending s' hr' tours =>
    obtain rfl := Except.ok.inj (hr.symm.trans hr')
    obtain ⟨agents, hagents⟩ := tours.agents_eq
    obtain ⟨es, hes, hevents⟩ := tours.tells
    rw [hagents] at hes
    refine ⟨agents, es, hagents, hes, ?_⟩
    rw [logResult, RunState.events_log]
    exact hevents.trans (by rw [hrouted, List.append_assoc]; rfl)

theorem Course.turns_eq_length {result : AgentResult}
    (h : Course d pad message hint s vs report) (ho : report.outcome = .ok result) :
    result.turns = (allTurns vs).length := by
  cases h with
  | unrouted hr | failed hr tours => cases ho
  | answered hr tours =>
    obtain rfl := Except.ok.inj ho
    exact (tours.turns_eq_length rfl).trans (Nat.zero_add _)

section Start

variable {world : σ} {cancelled : Bool} {telemetry : Option Telemetry} {result : AgentResult}

/-- Whether or not there is a result, every recorded action is told. -/
theorem Course.ends_eq
    (h : Course d pad message hint (.start world cancelled telemetry) vs report) :
    report.state.events.filter Event.isEnd = report.state.actions.map Event.ended := by
  rw [← Ledger.events_state, Ledger.filter_isEnd_events, h.extends_ledger.ends, List.filterMap_map]
  exact congrFun List.filterMap_eq_map _

theorem Course.ends_told
    (h : Course d pad message hint (.start world cancelled telemetry) vs report)
    (ho : report.outcome = .ok result) :
    report.state.events.filter Event.isEnd = result.actions.map Event.ended := by
  rw [h.ends_eq, (h.told result ho).1]

theorem Course.replies_told
    (h : Course d pad message hint (.start world cancelled telemetry) vs report) :
    report.state.events.filterMap Event.reply? = allReplies vs := by
  rw [← Ledger.events_state, Ledger.filterMap_reply_events, h.replies]

/-- A result comes only of a dispatch that is routed. -/
theorem Course.exists_routed (h : Course d pad message hint s vs report)
    (ho : report.outcome = .ok result) : ∃ agent, (d.router.select message hint).1 = .ok agent := by
  cases h with
  | unrouted hr => cases ho
  | failed hr tours | answered hr tours => exact ⟨_, hr⟩

theorem Course.accounted
    (h : Course d pad message hint (.start world cancelled telemetry) vs report) :
    Accounted report.state.events := by
  cases hr : (d.router.select message hint).1 with
  | error e =>
    have hnone : report.state.events = [] := (h.tells_unrouted hr).2
    rw [hnone]
    rfl
  | ok agent =>
    obtain ⟨agents, es, _, hes, hevents⟩ := h.tells hr
    have hrouted : Accounted [.routed agent.name hint.isSome] := rfl
    rw [hevents]
    exact hrouted.append hes.accounted

/-- So is every malformed block. -/
theorem Course.errors_eq
    (h : Course d pad message hint (.start world cancelled telemetry) vs report) :
    report.state.events.filterMap Event.parseError? =
      report.state.parseErrors.map BlockError.message := by
  have herrors :
      report.state.parseErrors = (allReplies vs).flatMap fun r => (Reply.parse r).errors :=
    h.errors
  rw [h.accounted, h.replies_told, herrors, List.map_flatMap]
  rfl

theorem Course.errors_told
    (h : Course d pad message hint (.start world cancelled telemetry) vs report)
    (ho : report.outcome = .ok result) :
    report.state.events.filterMap Event.parseError? =
      result.parseErrors.map BlockError.message := by
  rw [h.errors_eq, (h.told result ho).2]

theorem Course.chain_told
    (h : Course d pad message hint (.start world cancelled telemetry) vs report)
    (ho : report.outcome = .ok result) :
    report.state.events.filterMap Event.reached? = result.delegationChain := by
  obtain ⟨agent, hr⟩ := h.exists_routed ho
  obtain ⟨agents, es, hagents, hes, hevents⟩ := h.tells hr
  have hchain : result.delegationChain = (vs.map Visit.agent).map Agent.name := by
    rw [(h.result_eq ho).2, List.map_map]
    rfl
  have hes' := hes.reached
  rw [hevents, hchain, hagents]
  exact congrArg _ hes'

end Start

end Courses

end Runs

/-- A dispatch that finds no agent tells nothing. Any other one tells a stream of events of the form
given above, which says how it ended; what its result lists and counts is what the stream tells. -/
theorem handle_tells (d : Dispatcher σ) (pad : Scratchpad) (message : String)
    (hint : Option String) (world : σ) (cancelled : Bool) (telemetry : Option Telemetry) :
    let report := d.handle pad message hint (.start world cancelled telemetry)
    let events := report.state.events
    (∀ e, (d.router.select message hint).1 = .error e →
      report.outcome = .error e ∧ events = []) ∧
    (∀ agent, (d.router.select message hint).1 = .ok agent → ∃ agents es,
      events = .routed agent.name hint.isSome :: es ∧
      TellsHops d.router 0 (agent :: agents) (report.outcome.map AgentResult.stopReason) es ∧
      ((∃ name, Event.cancelled name ∈ es) ↔
        ∃ result, report.outcome = .ok result ∧ result.stopReason = .cancelled) ∧
      ∀ name text, .error name text ∈ es → es.getLast? = some (.error name text)) ∧
    ∀ result, report.outcome = .ok result →
      events.filter Event.isEnd = result.actions.map Event.ended ∧
      events.filterMap Event.parseError? = result.parseErrors.map BlockError.message ∧
      (events.filterMap Event.reply?).length = result.turns ∧
      events.filterMap Event.reached? = result.delegationChain := by
  intro report events
  obtain ⟨vs, course⟩ := handle_course d pad message hint (.start world cancelled telemetry)
  refine ⟨fun e hr => course.tells_unrouted hr, ?_, ?_⟩
  · intro agent hr
    obtain ⟨agents, es, _, hes, hevents⟩ := course.tells hr
    refine ⟨agents, es, hevents, hes, ?_, fun name text he => (hes.last_of_error he).1⟩
    rw [hes.cancelled_iff]
    cases report.outcome <;> simp [Except.map]
  · intro result ho
    refine ⟨course.ends_told ho, course.errors_told ho, ?_, course.chain_told ho⟩
    rw [course.turns_eq_length ho, ← List.length_map Turn.reply]
    exact congrArg List.length course.replies_told

end Dispatch

end HomeAgents
