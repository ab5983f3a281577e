import HomeAgents.Proofs.Dispatch.Memory
import HomeAgents.Proofs.Dispatch.Reason

/-!
# Prose

The text of a result is the last prose of its last agent that was not empty. A reply that is only
blocks does not replace what the same agent said before. What the agents before it said is not
kept: an agent that takes over begins without prose.
-/

namespace HomeAgents

namespace Dispatch

variable {σ : Type} {env : Environment σ} {agent : Agent} {message : String} {s s' : RunState σ}

/-- The prose of some turns as far as it is not empty, in order. -/
def proses (ts : List (Turn σ)) : List String :=
  (ts.map fun t => (Reply.parse t.reply).text).filter fun text => !text.isEmpty

theorem mem_proses {ts : List (Turn σ)} {text : String} :
    text ∈ proses ts ↔ (∃ t ∈ ts, (Reply.parse t.reply).text = text) ∧ text ≠ "" := by
  simp [proses]

theorem proses_eq_nil {ts : List (Turn σ)} :
    proses ts = [] ↔ ∀ t ∈ ts, (Reply.parse t.reply).text = "" := by
  simp [proses]

/-- A turn replaces the prose so far exactly if it has some of its own. -/
theorem proses_cons_last (t : Turn σ) (ts : List (Turn σ)) (text : String) :
    (proses (t :: ts)).getLast?.getD text = (proses ts).getLast?.getD (t.prose text) := by
  by_cases hprose : (Reply.parse t.reply).text.isEmpty = true
  · have hsame : proses (t :: ts) = proses ts := List.filter_cons_of_neg (by simp [hprose])
    rw [hsame, Turn.prose, if_pos hprose]
  · have hmore : proses (t :: ts) = (Reply.parse t.reply).text :: proses ts :=
      List.filter_cons_of_pos (by simp [hprose])
    rw [hmore, Turn.prose, if_neg hprose, List.getLast?_cons]
    rfl

/-- The last prose is empty only where there is none. -/
theorem proses_last_eq_empty {ts : List (Turn σ)} :
    (proses ts).getLast?.getD "" = "" ↔ ∀ t ∈ ts, (Reply.parse t.reply).text = "" := by
  rw [← proses_eq_nil]
  cases hlast : (proses ts).getLast? with
  | none => exact iff_of_true rfl (List.getLast?_eq_none_iff.mp hlast)
  | some text =>
    have hne := (mem_proses.mp (List.mem_of_getLast? hlast)).2
    refine iff_of_false hne fun hnil => ?_
    rw [hnil] at hlast
    cases hlast

/-- The text of a hop is the last prose of its turns, or what it began with. -/
theorem Takes.text_eq {left turn : Nat} {messages : List Message} {text : String}
    {handover : Option Handover} {ts : List (Turn σ)} {out : Except AgentError Hop} {hop : Hop}
    (h : Takes env agent message left turn messages text handover s ts out s')
    (ho : out = .ok hop) : hop.text = (proses ts).getLast?.getD text := by
  have hnone (text : String) : (proses ([] : List (Turn σ))).getLast?.getD text = text := rfl
  induction h with
  | failed call => cases ho
  | stopped taken hs | ended taken hs hc | usedUp taken hs hc =>
    obtain rfl := Except.ok.inj ho
    rw [proses_cons_last, hnone, Turn.hop]
  | again taken hs hc rest ih => rw [ih ho, proses_cons_last]

section Visits

variable {d : Dispatcher σ} {pad : Scratchpad}

theorem Follows.hop_eq {depth : Nat} {chain : Chain} {hop : Hop} {ending : Ending}
    (h : Follows d depth chain s (.ok hop) (.over (.ok ending)) s') : ending.hop = hop := by
  cases h <;> rfl

/-- A hop begins without prose, whatever was said before it. -/
theorem Visit.Made.text_eq {v : Visit σ} {ending : Ending}
    (h : v.Made d pad (.over (.ok ending))) :
    ending.hop.text = (proses v.turns).getLast?.getD "" := by
  have hfollows := h.follows
  obtain ⟨hop, ho, _⟩ := hfollows.of_result
  have htext := h.turns.text_eq ho
  rw [ho] at hfollows
  rw [hfollows.hop_eq, htext]

end Visits

/-- A dispatch that is remembered appends the last prose of its last agent, which is empty exactly
if no reply of this agent had any. If nothing was handed over, these are all the replies there
were. -/
theorem handle_prose (d : Dispatcher σ) (pad : Scratchpad) (message : String)
    (hint : Option String) (world : σ) (cancelled : Bool) (telemetry : Option Telemetry) :
    let report := d.handle pad message hint (.start world cancelled telemetry)
    ∃ vs : List (Visit σ),
      Course d pad message hint (.start world cancelled telemetry) vs report ∧
      report.state.journal.filterMap Entry.reply? = allReplies vs ∧
      ∀ result, report.outcome = .ok result → ∃ v,
        vs.getLast? = some v ∧ v.agent.name = result.agentName ∧
        vs.length = result.delegationChain.length ∧
        (result.stopReason ≠ .cancelled → report.pad.history =
          pad.history ++ [.user message, .assistant result.text]) ∧
        result.text = (proses v.turns).getLast?.getD "" ∧
        (result.text = "" ↔ ∀ t ∈ v.turns, (Reply.parse t.reply).text = "") ∧
        (vs.length = 1 →
          (result.text = "" ↔ ∀ reply ∈ allReplies vs, (Reply.parse reply).text = "")) := by
  intro report
  obtain ⟨vs, course⟩ := handle_course d pad message hint (.start world cancelled telemetry)
  refine ⟨vs, course, ?_, ?_⟩
  · rw [← Ledger.replies_state]
    exact course.replies
  · intro result ho
    obtain ⟨v, ending, hlast, hdepth, hmade, hresult⟩ := course.exists_last ho
    have htext : result.text = (proses v.turns).getLast?.getD "" := by
      rw [hresult]
      exact hmade.text_eq
    have hempty : result.text = "" ↔ ∀ t ∈ v.turns, (Reply.parse t.reply).text = "" := by
      rw [htext]
      exact proses_last_eq_empty
    refine ⟨v, hlast, ?_, ?_, ?_, htext, hempty, ?_⟩
    · obtain ⟨_, _, _, hchain, _⟩ := hmade.halts
      rw [hresult, Ending.result, hchain]
      rfl
    · rw [(course.result_eq ho).2, List.length_map]
    · intro hr
      rw [course.pad_eq, ho, exchange, if_neg hr]
    · intro hone
      obtain ⟨w, rfl⟩ := List.length_eq_one_iff.mp hone
      obtain rfl := Option.some.inj hlast
      rw [hempty]
      simp [allReplies, allTurns]

/-- An agent that may hand over. -/
def askerConfig (name : String) : AgentConfig :=
  { AgentConfig.new name with canNest := true }

/-- A command that asks to hand over to an agent. -/
def askFor (target : String) : Command :=
  ⟨Builtin.delegateAction, [("agent", .string target)]⟩

/-- A dispatcher with two agents that hand over to each other. The first reply has prose before its
command, every later one is only a command. -/
def askers : Dispatcher Nat where
  env :=
    { model := fun _ => ⟨"", "", fun _ _ count =>
        .pure ⟨.ok (if count = 0 then "Let me ask.\n" ++ (askFor "pong").toFenced
          else (askFor "ping").toFenced), none⟩ (count + 1)⟩
      tools := []
      services := []
      now := fun _ => 0 }
  router := ⟨[("ping", ⟨askerConfig "ping", "", 0⟩), ("pong", ⟨askerConfig "pong", "", 0⟩)], "ping",
    Routing.bestAgent⟩
  maxDepth := 1

/-- Prose is lost with a hand-over: the second agent would hand back, which is too deep, and an
empty text is remembered though the first agent had said something. -/
theorem askers_silent :
    let report := askers.handle .empty "go" none (.start 0 false none)
    ((report.state.journal.filterMap Entry.reply?).map fun reply => (Reply.parse reply).text) =
        ["Let me ask.", ""] ∧
      report.outcome.toOption.map AgentResult.stopReason = some .nestingLimitExceeded ∧
      report.outcome.toOption.map AgentResult.text = some "" ∧
      report.pad.history = [.user "go", .assistant ""] := by
  decide +kernel

end Dispatch

end HomeAgents
