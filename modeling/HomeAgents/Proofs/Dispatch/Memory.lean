import HomeAgents.Proofs.Dispatch.Course

/-!
# Memory

A session remembers whole exchanges or nothing. However many turns and hops a dispatch takes and
wherever it fails, its scratchpad stays as it was, unless it ends well: then the message of the user
and the final text are appended, and nothing else changes.
-/

namespace HomeAgents.Dispatch

variable {σ : Type}

/-- One message to a dispatcher, with the world and the telemetry it meets. -/
structure Request (σ : Type) where
  dispatcher : Dispatcher σ
  message : String
  hint : Option String
  world : σ
  cancelled : Bool
  telemetry : Option Telemetry

/-- What comes of a request on a scratchpad. -/
def Request.report (q : Request σ) (pad : Scratchpad) : Dispatcher.Report σ :=
  q.dispatcher.handle pad q.message q.hint (.start q.world q.cancelled q.telemetry)

/-- The scratchpad after some requests, one after the other. -/
def padAfter (pad : Scratchpad) (qs : List (Request σ)) : Scratchpad :=
  qs.foldl (fun pad q => (q.report pad).pad) pad

/-- What is remembered of a message that a dispatch came to this with. -/
def exchange (message : String) : Except AgentError AgentResult → List Message
  | .error _ => []
  | .ok result =>
    if result.stopReason = .cancelled then [] else [.user message, .assistant result.text]

/-- What is remembered of some requests, in order. -/
def exchanges : Scratchpad → List (Request σ) → List Message
  | _, [] => []
  | pad, q :: qs =>
    exchange q.message (q.report pad).outcome ++ exchanges (q.report pad).pad qs

theorem remember_eq (pad : Scratchpad) (message : String) (result : AgentResult) :
    remember pad message result = ⟨pad.history ++ exchange message (.ok result), pad.context⟩ := by
  by_cases hr : result.stopReason = .cancelled
  · simp only [remember, exchange, hr, ↓reduceIte, List.append_nil]
  · simp only [remember, exchange, hr, ↓reduceIte, Scratchpad.appendTurn]

/-- Whatever course a dispatch takes, it appends its exchange and changes nothing else. -/
theorem Course.pad_eq {d : Dispatcher σ} {pad : Scratchpad} {message : String}
    {hint : Option String} {s : RunState σ} {vs : List (Visit σ)} {report : Dispatcher.Report σ}
    (h : Course d pad message hint s vs report) :
    report.pad = ⟨pad.history ++ exchange message report.outcome, pad.context⟩ := by
  cases h with
  | unrouted hr | failed hr tours =>
    rw [exchange, List.append_nil]
  | answered hr tours => exact remember_eq ..

theorem Request.pad_report (q : Request σ) (pad : Scratchpad) :
    (q.report pad).pad =
      ⟨pad.history ++ exchange q.message (q.report pad).outcome, pad.context⟩ := by
  obtain ⟨_, course⟩ := handle_course q.dispatcher pad q.message q.hint
    (.start q.world q.cancelled q.telemetry)
  exact course.pad_eq

theorem padAfter_append (pad : Scratchpad) (qs qs' : List (Request σ)) :
    padAfter pad (qs ++ qs') = padAfter (padAfter pad qs) qs' :=
  List.foldl_append

/-- A session remembers the exchanges of its requests after what it knew before. -/
theorem padAfter_eq (pad : Scratchpad) (qs : List (Request σ)) :
    padAfter pad qs = ⟨pad.history ++ exchanges pad qs, pad.context⟩ := by
  induction qs generalizing pad with
  | nil =>
    rw [exchanges, List.append_nil]
    rfl
  | cons q qs ih =>
    have hstep : padAfter pad (q :: qs) = padAfter (q.report pad).pad qs := rfl
    have hhistory : (q.report pad).pad.history =
        pad.history ++ exchange q.message (q.report pad).outcome := by
      rw [q.pad_report pad]
    have hcontext : (q.report pad).pad.context = pad.context := by
      rw [q.pad_report pad]
    rw [hstep, ih, hhistory, hcontext, exchanges, List.append_assoc]

/-- Over any requests, each of them leaves the scratchpad exactly as it was if it fails or is
cancelled, and otherwise appends the user's message and the text of its result. -/
theorem requests_remembered (pad : Scratchpad) (qs : List (Request σ)) :
    padAfter pad qs = ⟨pad.history ++ exchanges pad qs, pad.context⟩ ∧
      ∀ earlier q later, qs = earlier ++ q :: later →
        let before := padAfter pad earlier
        let after := padAfter pad (earlier ++ [q])
        match (q.report before).outcome with
        | .error _ => after = before
        | .ok result =>
          if result.stopReason = .cancelled then after = before
          else
            after.history = before.history ++ [.user q.message, .assistant result.text] ∧
              after.context = before.context := by
  refine ⟨padAfter_eq pad qs, ?_⟩
  intro earlier q later _ before after
  have hstep : after = (q.report before).pad := padAfter_append pad earlier [q]
  rw [q.pad_report before] at hstep
  cases ho : (q.report before).outcome with
  | error e =>
    rw [ho, exchange, List.append_nil] at hstep
    exact hstep
  | ok result =>
    rw [ho] at hstep
    by_cases hr : result.stopReason = .cancelled
    · rw [exchange, if_pos hr, List.append_nil] at hstep
      simp only [hr, ↓reduceIte]
      exact hstep
    · rw [exchange, if_neg hr] at hstep
      simp only [hr, ↓reduceIte]
      constructor
      · rw [hstep]
      · rw [hstep]

end HomeAgents.Dispatch
