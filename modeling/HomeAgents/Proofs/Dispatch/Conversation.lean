import HomeAgents.Proofs.Dispatch.Agreement

/-!
# What the model is sent

Every visit is a conversation of its own. It begins with the prompt of the agent, the last entries
of the history and the message of the visit; each further call repeats what the one before was sent
and adds its reply and the results of its actions. Of an earlier visit a later one sees only the
message of the hand-over that led to it.
-/

namespace HomeAgents

variable {σ : Type}

/-- A call of the model: the agent it is made for and the messages it is sent. -/
def Entry.question? : Entry → Option (String × List Message)
  | modelCall agent messages _ => some (agent, messages)
  | _ => none

/-- The calls of the model in a ledger, in order. -/
def Ledger.questions (l : Ledger) : List (String × List Message) :=
  l.entries.filterMap Entry.question?

namespace Ledger

@[simp] theorem questions_append (l l' : Ledger) :
    (l ++ l').questions = l.questions ++ l'.questions :=
  List.filterMap_append

theorem questions_join (ls : List Ledger) : (join ls).questions = ls.flatMap questions := by
  induction ls with
  | nil => rfl
  | cons l ls ih => rw [join_cons, questions_append, ih, List.flatMap_cons]

theorem questions_state (s : RunState σ) :
    s.ledger.questions = s.journal.filterMap Entry.question? :=
  s.filterMap_ledger fun _ => rfl

/-- Entries of which none counts for the budget hold no call of the model. -/
theorem questions_of_no_calls {l : Ledger} (h : Step.calls l.steps = 0) : l.questions = [] := by
  refine List.filterMap_eq_nil_iff.mpr fun e he => ?_
  cases e with
  | modelCall agent messages params =>
    have hmem : Step.call agent ∈ l.steps := List.mem_filterMap.mpr ⟨_, he, rfl⟩
    exact absurd rfl (List.countP_eq_zero.mp h _ hmem)
  | event | attempt | toolRun | serviceCall | cancelled | log => rfl

theorem questions_mark (c : Bool) : (told (Entry.mark c)).questions = [] :=
  Entry.filterMap_mark rfl c

end Ledger

/-- A call of the model is made for every request of a reply unless the work is seen to be
cancelled. -/
theorem Agent.questions_asking (a : Agent) (env : Environment σ) (messages : List Message)
    (s : RunState σ) : (Ledger.told (a.asking env messages s)).questions =
      if ((a.attempted messages s).look env).cancelled then [] else [(a.name, messages)] := by
  have hattempt (es : List Entry) : (Ledger.told (.attempt a.name messages :: es)).questions =
      (Ledger.told es).questions := rfl
  have hcall (es : List Entry) :
      (Ledger.told (.modelCall a.name messages a.params :: es)).questions =
        (a.name, messages) :: (Ledger.told es).questions := rfl
  rw [asking, reaching, hattempt]
  split
  · rw [Ledger.questions_mark]
  · rw [hcall, Ledger.questions_mark]

/-- The command with which a block asks for a hand-over. -/
def Block.delegation? : Block → Option Command
  | .command c => if c.action = Builtin.delegateAction then some c else none
  | _ => none

namespace Dispatch

section Turns

variable {env : Environment σ} {agent : Agent} {message : String} {s s' : RunState σ}

/-- The actions recorded during a turn. -/
def Turn.recorded (t : Turn σ) : List Action :=
  t.closed.actions.drop t.asked.actions.length

/-- The commands of a turn that ask for a hand-over, as far as they were carried out. -/
def Turn.delegations (t : Turn σ) : List Command :=
  t.deeds.filterMap fun x => x.block.delegation?

section Taken

variable {t : Turn σ} {handover : Option Handover}

/-- A turn makes one call of the model. -/
theorem Turn.Taken.questions (h : t.Taken env agent message handover) :
    (t.ledger env agent).questions = [(agent.name, t.sent)] := by
  have hdeeds : (Ledger.join (t.deeds.map Deed.ledger)).questions = [] := by
    rw [Ledger.questions_join, List.flatMap_map]
    refine List.flatMap_eq_nil_iff.mpr fun x hx => Ledger.questions_of_no_calls ?_
    rw [(h.blocks.done_of_mem x hx).steps]
    rfl
  have hreply : (Ledger.told [.event (.modelReply agent.name t.number t.reply)]).questions = [] :=
    rfl
  have herrors : (⟨(Reply.parse t.reply).errors.map fun e =>
      .event (.parseError agent.name e.message), [], (Reply.parse t.reply).errors⟩ :
        Ledger).questions = [] := by
    refine List.filterMap_eq_nil_iff.mpr fun e he => ?_
    obtain ⟨_, _, rfl⟩ := List.mem_map.mp he
    rfl
  have hparting : (t.parting agent).questions = [] := Ledger.questions_mark _
  rw [Turn.ledger, Turn.heading, Ledger.questions_append, Ledger.questions_append,
    Ledger.questions_append, Ledger.questions_append, hdeeds, hreply, herrors, hparting,
    agent.questions_asking, h.look_open]
  rfl

/-- The call and the reply of a turn record no action. -/
theorem Turn.Taken.actions_opened (h : t.Taken env agent message handover) :
    (t.opened agent).actions = t.asked.actions := by
  have hledger := congrArg Ledger.actions h.extends_heading.ledger
  exact hledger.trans (List.append_nil _)

theorem Turn.Taken.next_recorded (h : t.Taken env agent message handover) :
    t.next env agent = t.sent ++
      [.assistant t.reply, .user (Action.resultsMessage env.tools t.recorded)] := by
  rw [Turn.next, h.actions_opened, Turn.recorded]

/-- What is recorded during a turn is what its deeds record, in their order, behind all that was
recorded before. -/
theorem Turn.Taken.recorded_eq (h : t.Taken env agent message handover) :
    t.closed.actions = t.asked.actions ++ t.recorded ∧
      t.recorded = t.deeds.flatMap fun x => x.ledger.actions := by
  have hdeeds := h.actions_eq
  rw [h.actions_opened] at hdeeds
  have hall : t.closed.actions = t.asked.actions ++ (t.ledger env agent).actions :=
    congrArg Ledger.actions h.extends_ledger.ledger
  refine ⟨?_, hdeeds⟩
  rw [Turn.recorded, hall, List.drop_left]

end Taken

/-- What the calls of some turns are sent, from the first messages on. A last call may have got no
reply. -/
inductive Chained (env : Environment σ) (agent : Agent) :
    List Message → List (Turn σ) → List (List Message) → Prop
  | silent {messages : List Message} : Chained env agent messages [] []
  | unanswered {messages : List Message} : Chained env agent messages [] [messages]
  | answered {t : Turn σ} {ts : List (Turn σ)} {asked : List (List Message)}
      (rest : Chained env agent (t.next env agent) ts asked) :
      Chained env agent t.sent (t :: ts) (t.sent :: asked)

namespace Chained

variable {messages : List Message} {ts : List (Turn σ)} {asked : List (List Message)}

theorem first (h : Chained env agent messages ts asked) {sent : List Message}
    (hs : asked[0]? = some sent) : sent = messages := by
  cases h with
  | silent => cases hs
  | unanswered | answered => exact (Option.some.inj hs).symm

theorem length (h : Chained env agent messages ts asked) :
    ts.length ≤ asked.length ∧ asked.length ≤ ts.length + 1 := by
  induction h with
  | silent => exact ⟨Nat.le_refl 0, Nat.zero_le 1⟩
  | unanswered => exact ⟨Nat.zero_le 1, Nat.le_refl 1⟩
  | answered rest ih => exact ⟨Nat.succ_le_succ ih.1, Nat.succ_le_succ ih.2⟩

theorem sent (h : Chained env agent messages ts asked) {k : Nat} {t : Turn σ}
    (ht : ts[k]? = some t) : asked[k]? = some t.sent := by
  induction h generalizing k with
  | silent | unanswered => cases ht
  | answered rest ih =>
    cases k with
    | zero => rw [← Option.some.inj ht]; rfl
    | succ k => exact ih ht

theorem next (h : Chained env agent messages ts asked) {k : Nat} {t : Turn σ}
    {sent : List Message} (ht : ts[k]? = some t) (hs : asked[k + 1]? = some sent) :
    sent = t.next env agent := by
  induction h generalizing k with
  | silent | unanswered => cases ht
  | answered rest ih =>
    cases k with
    | zero =>
      rw [← Option.some.inj ht]
      exact rest.first hs
    | succ k => exact ih ht hs

end Chained

variable {left turn : Nat} {messages : List Message} {text : String} {handover : Option Handover}
  {ts : List (Turn σ)} {out : Except AgentError Hop}

/-- The calls of the model on a hop are those of its turns, and perhaps one without a reply. -/
theorem Takes.chained
    (h : Takes env agent message left turn messages text handover s ts out s') :
    ∃ l asked, Extends env s l s' ∧ l.questions = asked.map (fun sent => (agent.name, sent)) ∧
      Chained env agent messages ts asked := by
  induction h with
  | @failed _ _ messages _ _ s s' e call =>
    have hext := agent.complete_extends env messages s
    rw [call] at hext
    have hasking := agent.questions_asking env messages s
    cases hs : ((agent.attempted messages s).look env).cancelled with
    | true =>
      rw [hs] at hasking
      exact ⟨_, [], hext, hasking, .silent⟩
    | false =>
      rw [hs] at hasking
      exact ⟨_, [messages], hext, hasking, .unanswered⟩
  | @stopped _ _ _ t taken hs =>
    exact ⟨_, [t.sent], taken.extends_ledger.then_blank (Extends.log ..), taken.questions,
      .answered .silent⟩
  | @ended _ _ _ t taken hs hc =>
    exact ⟨_, [t.sent], taken.extends_ledger, taken.questions, .answered .silent⟩
  | @usedUp _ _ t taken hs hc =>
    exact ⟨_, [t.sent], taken.extends_ledger.then_blank (logMaxTurns_extends ..), taken.questions,
      .answered .silent⟩
  | @again _ _ _ t _ _ _ taken hs hc rest ih =>
    obtain ⟨l, asked, hext, hquestions, hchained⟩ := ih
    refine ⟨_, t.sent :: asked, taken.extends_ledger.trans hext, ?_, .answered hchained⟩
    rw [Ledger.questions_append, taken.questions, hquestions]
    rfl

theorem runBlock_handover (env : Environment σ) (message : String) (p : Progress) (s : RunState σ)
    (b : Block) (hn : agent.config.canNest = true) :
    (runBlock env agent message p s b).1.handover =
      p.handover.or (b.delegation?.map fun c => handoverOf c message) := by
  cases b with
  | toolCall c | malformed e => exact Option.or_none.symm
  | command c =>
    by_cases hc : c.action = Builtin.delegateAction
    · simp only [runBlock, hc, ↓reduceIte, requestHandover, hn, Block.delegation?]
      cases hh : p.handover with
      | none => rfl
      | some asked => exact hh
    · simp [runBlock, hc, Block.delegation?]

/-- The hand-over that is remembered is the one that was asked for first. -/
theorem Carries.handover_eq {bs : List Block} {p p' : Progress} {ds : List (Deed σ)}
    (h : Carries env agent message bs p s ds p' s') (hn : agent.config.canNest = true) :
    p'.handover = p.handover.or
      ((ds.filterMap fun x => x.block.delegation?).head?.map fun c => handoverOf c message) := by
  induction h with
  | done | stop => exact Option.or_none.symm
  | skip tail ih => exact ih
  | @deed b rest p p₁ p' s s₁ s' ds hb hs run tail ih =>
    have hfirst := runBlock_handover env message p s b hn
    rw [run] at hfirst
    rw [ih, hfirst]
    cases p.handover <;> cases hd : b.delegation? <;> simp [hd]

theorem Takes.handover_eq {hop : Hop}
    (h : Takes env agent message left turn messages text handover s ts out s')
    (hn : agent.config.canNest = true) (ho : out = .ok hop) (hr : hop.stopReason = .textResponse) :
    hop.handover = handover.or
      ((ts.flatMap Turn.delegations).head?.map fun c => handoverOf c message) := by
  induction h with
  | failed call => cases ho
  | stopped taken hs | usedUp taken hs =>
    obtain rfl := Except.ok.inj ho
    cases hr
  | ended taken hs hc =>
    obtain rfl := Except.ok.inj ho
    rw [List.flatMap_singleton]
    exact taken.blocks.handover_eq hn
  | @again _ _ handover t ts _ _ taken hs hc rest ih =>
    rw [ih ho, taken.blocks.handover_eq hn, List.flatMap_cons, List.head?_append, Turn.delegations]
    cases handover <;> cases (t.deeds.filterMap fun x => x.block.delegation?).head? <;> rfl

end Turns

section Visits

variable {d : Dispatcher σ} {pad : Scratchpad} {s s' : RunState σ}

/-- What follows on a hop makes no call of the model. -/
theorem Follows.extends_unasked {depth : Nat} {chain : Chain} {out : Except AgentError Hop}
    {sequel : Sequel} (h : Follows d depth chain s out sequel s') :
    ∃ l, Extends d.env s l s' ∧ l.questions = [] := by
  obtain ⟨l, _, hext⟩ := h.extends_aside
  have hsteps := hext.steps
  rw [h.steps, List.self_eq_append_right] at hsteps
  refine ⟨l, hext, Ledger.questions_of_no_calls ?_⟩
  rw [hsteps]
  rfl

/-- The calls of the model on a visit. -/
theorem Visit.Made.chained {v : Visit σ} {sequel : Sequel} (h : v.Made d pad sequel) :
    ∃ asked, v.ledger.questions = asked.map (fun sent => (v.agent.name, sent)) ∧
      Chained d.env v.agent (v.first d.env pad) v.turns asked := by
  obtain ⟨l, asked, hturns, hquestions, hchained⟩ := h.turns.chained
  obtain ⟨l', hpassed, hunasked⟩ := h.follows.extends_unasked
  have hledger : v.ledger = _ := (((v.extends_opened d.env).trans hturns).trans hpassed).since
  refine ⟨asked, ?_, hchained⟩
  rw [hledger, Ledger.questions_append, Ledger.questions_append, hquestions, hunasked,
    List.append_nil]
  rfl

/-- The message of the next visit is that of the first hand-over that was asked for. -/
theorem Visit.Made.message_of_onward {v : Visit σ} {next : Chain}
    (h : v.Made d pad (.onward next)) :
    ∃ c, (v.turns.flatMap Turn.delegations).head? = some c ∧
      next.message = (handoverOf c v.chain.message).message := by
  obtain ⟨hop, asked, agent, ho, hr, hh, _, _, _, hnext, _⟩ := h.follows.of_onward
  have heq := h.turns.handover_eq h.canNest ho hr
  rw [hh] at heq
  obtain ⟨c, hc, hasked⟩ := Option.map_eq_some_iff.mp heq.symm
  refine ⟨c, hc, ?_⟩
  rw [hnext, hasked]
  rfl

/-- The last `k` entries of a history stand at its end. -/
theorem windowHistory_spec (history : List Message) (k : Nat) :
    ∃ older, history = older ++ windowHistory history k ∧
      (windowHistory history k).length = min k history.length := by
  refine ⟨history.take (history.length - k), (List.take_append_drop ..).symm, ?_⟩
  rw [windowHistory, List.length_drop]
  omega

/-- The calls of the model on a visit are sent these messages. The first one gets the system prompt
with what is known of the situation, the last entries of the history and the message of the visit.
Each further one gets what the one before got, its reply, and the results of the actions recorded
since. -/
structure Conversation (env : Environment σ) (pad : Scratchpad) (v : Visit σ)
    (asked : List (List Message)) : Prop where
  length : v.turns.length ≤ asked.length ∧ asked.length ≤ v.turns.length + 1
  first : ∀ messages, asked[0]? = some messages → ∃ older window,
    pad.history = older ++ window ∧
    window.length = min v.agent.config.historyWindow pad.history.length ∧
    messages = .system (v.agent.systemPrompt ++ "\n\n" ++
      pad.context.section_ (env.localTime v.opened.world)) :: (window ++ [.user v.chain.message])
  sent : ∀ (k : Nat) t, v.turns[k]? = some t → asked[k]? = some t.sent
  next : ∀ (k : Nat) t messages, v.turns[k]? = some t → asked[k + 1]? = some messages →
    messages = t.sent ++
      [.assistant t.reply, .user (Action.resultsMessage env.tools t.recorded)]
  recorded : ∀ t ∈ v.turns, t.closed.actions = t.asked.actions ++ t.recorded ∧
    t.recorded = t.deeds.flatMap fun x => x.ledger.actions

theorem Visit.Made.conversation {v : Visit σ} {sequel : Sequel} (h : v.Made d pad sequel) :
    ∃ asked, v.ledger.questions = asked.map (fun sent => (v.agent.name, sent)) ∧
      Conversation d.env pad v asked := by
  obtain ⟨asked, hquestions, hchained⟩ := h.chained
  refine ⟨asked, hquestions, hchained.length, ?_, fun k t ht => hchained.sent ht, ?_, ?_⟩
  · intro messages hm
    obtain ⟨older, hhistory, hwindow⟩ :=
      windowHistory_spec pad.history v.agent.config.historyWindow
    exact ⟨older, _, hhistory, hwindow, hchained.first hm⟩
  · intro k t messages ht hm
    obtain ⟨_, taken⟩ := h.turns.taken_of_mem t (List.mem_of_getElem? ht)
    rw [hchained.next ht hm, taken.next_recorded]
  · intro t ht
    obtain ⟨_, taken⟩ := h.turns.taken_of_mem t ht
    exact taken.recorded_eq

section Tours

variable {depth : Nat} {chain : Chain} {vs : List (Visit σ)} {out : Except AgentError Ending}

theorem Tours.chain_of_head (h : Tours d pad depth chain s vs out s') {v : Visit σ}
    (hv : vs[0]? = some v) : v.chain = chain := by
  cases h with
  | last made | more made rest => rw [← Option.some.inj hv]

/-- A visit after another one has the message of the first hand-over asked for on that one. -/
theorem Tours.message_of_next (h : Tours d pad depth chain s vs out s') {i : Nat}
    {v w : Visit σ} (hv : vs[i]? = some v) (hw : vs[i + 1]? = some w) :
    ∃ c, (v.turns.flatMap Turn.delegations).head? = some c ∧
      w.chain.message = (handoverOf c v.chain.message).message := by
  induction h generalizing i with
  | last made => cases hw
  | more made rest ih =>
    cases i with
    | zero =>
      obtain rfl := Option.some.inj hv
      rw [rest.chain_of_head hw]
      exact made.message_of_onward
    | succ i => exact ih hv hw

end Tours

section Courses

variable {message : String} {hint : Option String} {vs : List (Visit σ)}
  {report : Dispatcher.Report σ}

theorem Course.message_of_head (h : Course d pad message hint s vs report) {v : Visit σ}
    (hv : vs[0]? = some v) : v.chain.message = message := by
  cases h with
  | unrouted hr => cases hv
  | failed hr tours | answered hr tours => rw [tours.chain_of_head hv, Chain.first]

theorem Course.message_of_next (h : Course d pad message hint s vs report) {i : Nat}
    {v w : Visit σ} (hv : vs[i]? = some v) (hw : vs[i + 1]? = some w) :
    ∃ c, (v.turns.flatMap Turn.delegations).head? = some c ∧
      w.chain.message = (handoverOf c v.chain.message).message := by
  cases h with
  | unrouted hr => cases hv
  | failed hr tours | answered hr tours => exact tours.message_of_next hv hw

/-- The calls of the model in a dispatch are those of its visits. -/
theorem Course.questions {world : σ} {cancelled : Bool} {telemetry : Option Telemetry}
    (h : Course d pad message hint (.start world cancelled telemetry) vs report) :
    report.state.journal.filterMap Entry.question? = vs.flatMap fun v => v.ledger.questions := by
  obtain ⟨before, after, _, _, hext⟩ := h.extends_join
  have hsteps := hext.steps
  rw [h.steps, Ledger.steps_append, Ledger.steps_append, Ledger.steps_join, List.flatMap_map]
    at hsteps
  have hnone : before.steps = [] ∧ after.steps = [] := by
    have hlength := congrArg List.length hsteps
    simp only [List.length_append] at hlength
    exact ⟨List.eq_nil_of_length_eq_zero (by omega), List.eq_nil_of_length_eq_zero (by omega)⟩
  have hbefore : before.questions = [] :=
    Ledger.questions_of_no_calls (by rw [hnone.1]; rfl)
  have hafter : after.questions = [] :=
    Ledger.questions_of_no_calls (by rw [hnone.2]; rfl)
  rw [← Ledger.questions_state, hext.ledger, RunState.ledger_start, Ledger.blank_append,
    Ledger.questions_append, Ledger.questions_append, hbefore, hafter, Ledger.questions_join,
    List.flatMap_map, List.nil_append, List.append_nil]

end Courses

end Visits

/-- What the model is sent in a dispatch: the conversations of its visits, one after the other. The
first visit has the message of the user, and each later one the message of the first hand-over that
was asked for on the visit before; nothing else of an earlier visit is sent. -/
theorem handle_converses (d : Dispatcher σ) (pad : Scratchpad) (message : String)
    (hint : Option String) (world : σ) (cancelled : Bool) (telemetry : Option Telemetry) :
    let report := d.handle pad message hint (.start world cancelled telemetry)
    ∃ vs : List (Visit σ),
      Course d pad message hint (.start world cancelled telemetry) vs report ∧
      report.state.journal.filterMap Entry.reply? = allReplies vs ∧
      report.state.journal.filterMap Entry.question? =
        vs.flatMap (fun v => v.ledger.questions) ∧
      (∀ v ∈ vs, ∃ asked,
        v.ledger.questions = asked.map (fun sent => (v.agent.name, sent)) ∧
          Conversation d.env pad v asked) ∧
      (∀ v, vs[0]? = some v → v.chain.message = message) ∧
      ∀ (i : Nat) v w, vs[i]? = some v → vs[i + 1]? = some w →
        ∃ c, (v.turns.flatMap Turn.delegations).head? = some c ∧
          w.chain.message = (handoverOf c v.chain.message).message := by
  intro report
  obtain ⟨vs, course⟩ := handle_course d pad message hint (.start world cancelled telemetry)
  refine ⟨vs, course, ?_, course.questions, ?_, fun v hv => course.message_of_head hv,
    fun i v w hv hw => course.message_of_next hv hw⟩
  · rw [← Ledger.replies_state]
    exact course.replies
  · intro v hv
    obtain ⟨_, made⟩ := course.made_of_mem v hv
    exact made.conversation

end Dispatch

end HomeAgents
