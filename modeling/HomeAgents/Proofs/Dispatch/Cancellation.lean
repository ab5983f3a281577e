import HomeAgents.Proofs.Dispatch.Account

/-!
# Cancellation

Once the work is cancelled a dispatch has no further effect: no model is called, no tool runs, no
service is called and no hand-over is followed or recorded. It does not matter at which hop and turn
and during which call the cancellation comes, or whether it comes before the dispatch begins.
-/

namespace HomeAgents.Dispatch

variable {σ : Type} {env : Environment σ} {agent : Agent} {s s' : RunState σ}

/-- An agent whose work is cancelled takes no turn. -/
theorem Takes.of_cancelled {message : String} {left turn : Nat} {messages : List Message}
    {text : String} {handover : Option Handover} {ts : List (Turn σ)}
    {out : Except AgentError Hop}
    (h : Takes env agent message left turn messages text handover s ts out s')
    (hs : s.cancelled = true) : ts = [] ∧ out = .error agent.cancelledError := by
  cases h with
  | failed call =>
    have hcall := agent.complete_of_cancelled env messages hs
    rw [call] at hcall
    obtain rfl := Except.error.inj hcall
    exact ⟨rfl, rfl⟩
  | stopped taken | ended taken | usedUp taken | again taken =>
    rw [taken.not_cancelled] at hs
    cases hs

section Visits

variable {d : Dispatcher σ} {pad : Scratchpad}

/-- A visit whose work is cancelled fails and is the last one. -/
theorem Visit.Made.of_cancelled {v : Visit σ} {sequel : Sequel} (h : v.Made d pad sequel)
    (hs : v.entered.cancelled = true) : sequel = .over (.error v.agent.cancelledError) := by
  obtain ⟨_, ho⟩ := h.turns.of_cancelled hs
  have hf := h.follows
  rw [ho] at hf
  exact hf.of_error

theorem Tours.of_cancelled {depth : Nat} {chain : Chain} {vs : List (Visit σ)}
    {out : Except AgentError Ending} (h : Tours d pad depth chain s vs out s')
    (hs : s.cancelled = true) : out = .error chain.agent.cancelledError := by
  cases h with
  | last made => exact Sequel.over.inj (made.of_cancelled hs)
  | more made rest => cases made.of_cancelled hs

variable {message : String} {hint : Option String} {vs : List (Visit σ)}
  {report : Dispatcher.Report σ}

theorem Course.of_cancelled (h : Course d pad message hint s vs report) (hs : s.cancelled = true)
    (hr : (d.router.select message hint).1 = .ok agent) :
    report.outcome = .error agent.cancelledError := by
  cases h with
  | unrouted hn =>
    rw [hr] at hn
    cases hn
  | failed hn tours =>
    obtain rfl := Except.ok.inj (hr.symm.trans hn)
    exact congrArg _ (Except.error.inj (tours.of_cancelled hs))
  | answered hn tours =>
    have ho := tours.of_cancelled hs
    cases ho

/-- Among everything that is journalled in a dispatch, no effect comes after a cancellation. -/
theorem Course.quiet {world : σ} {cancelled : Bool} {telemetry : Option Telemetry}
    (h : Course d pad message hint (.start world cancelled telemetry) vs report) :
    Quiet d.env cancelled world report.state.journal :=
  h.extends_ledger.quiet.of_filter

end Visits

/-- The journal tells what becomes of the world, whether the work is cancelled and which actions are
recorded; no effect comes after the call during which the work is cancelled, and none at all if it
was cancelled before. Then the agent to which the message is routed fails without a call. -/
theorem handle_quiet (d : Dispatcher σ) (pad : Scratchpad) (message : String)
    (hint : Option String) (world : σ) (cancelled : Bool) (telemetry : Option Telemetry) :
    let report := d.handle pad message hint (.start world cancelled telemetry)
    report.state.world = replay d.env report.state.journal world ∧
      report.state.cancelled = (cancelled || cancelsIn d.env report.state.journal world) ∧
      report.state.actions.map Entry.ended = report.state.journal.filter Entry.isEnd ∧
      (∀ before call after, report.state.journal = before ++ call :: after →
        call.cancels d.env (replay d.env before world) = true →
          ∀ e ∈ after, e.isEffect = false) ∧
      (cancelled = true →
        (∀ e ∈ report.state.journal, e.isEffect = false) ∧
          ∀ agent, (d.router.select message hint).1 = .ok agent →
            report.outcome = .error (.modelUnavailable agent.name "cancelled")) := by
  intro report
  obtain ⟨vs, course⟩ := handle_course d pad message hint (.start world cancelled telemetry)
  have hext := course.extends_ledger
  have hquiet : Quiet d.env cancelled world report.state.journal := course.quiet
  refine ⟨course.world_eq_replay, ?_, ?_, ?_, ?_⟩
  · rw [← cancelsIn_filter]
    exact hext.cancelled
  · rw [← RunState.filter_ledger (fun _ => rfl)]
    exact hext.ends.symm
  · intro before call after hj hc
    rw [hj] at hquiet
    have hafter := hquiet.of_append.2
    rw [hc, Bool.or_true] at hafter
    exact hafter.no_effect
  · intro hstart
    rw [hstart] at hquiet
    refine ⟨hquiet.no_effect, fun agent hr => ?_⟩
    exact course.of_cancelled hstart hr

end HomeAgents.Dispatch
