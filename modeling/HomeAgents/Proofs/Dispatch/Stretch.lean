import HomeAgents.Dispatch.Hop
import HomeAgents.Proofs.Dispatch.Ledger

/-!
# Stretches of a dispatch

Every operation on the state of a dispatch is a stretch with a ledger of its own: it leaves the
world that its entries lead to, it is cancelled exactly if they cancel it, and it has no effect once
the work is known to be cancelled. Stretches can be put one after the other.
-/

namespace HomeAgents

open Dispatch

variable {σ α : Type} {env : Environment σ} {s s' s'' : RunState σ} {l l' : Ledger}

namespace RunState

/-- Everything a state has to show. -/
def ledger (s : RunState σ) : Ledger :=
  ⟨s.journal.filter fun e => !e.isLog, s.actions, s.parseErrors⟩

theorem ledger_start (world : σ) (cancelled : Bool) (telemetry : Option Telemetry) :
    (start world cancelled telemetry).ledger = .blank := rfl

/-- Whoever passes logged lines over finds the same in the ledger as in the journal. -/
theorem filter_ledger {p : Entry → Bool} (h : ∀ line, p (.log line) = false) (s : RunState σ) :
    s.ledger.entries.filter p = s.journal.filter p := by
  rw [ledger, List.filter_filter]
  congr 1
  funext e
  cases e with
  | log line => simp [h]
  | event | attempt | modelCall | toolRun | serviceCall | cancelled => simp [Entry.isLog]

theorem filterMap_ledger {β : Type} {f : Entry → Option β} (h : ∀ line, f (.log line) = none)
    (s : RunState σ) : s.ledger.entries.filterMap f = s.journal.filterMap f := by
  rw [ledger, List.filterMap_filter]
  congr 1
  funext e
  cases e with
  | log line => simp [h]
  | event | attempt | modelCall | toolRun | serviceCall | cancelled => simp [Entry.isLog]

theorem ledger_note {e : Entry} (h : e.isLog = false) :
    (s.note e).ledger = s.ledger ++ .told [e] := by
  ext1
  · simp [ledger, note, h]
  · exact (List.append_nil _).symm
  · exact (List.append_nil _).symm

theorem ledger_log (level : LogLevel) (message : String) (fields : List (String × String)) :
    (s.log level message fields).ledger = s.ledger := by
  ext1
  · simp [ledger, log, note, Entry.isLog]
  · rfl
  · rfl

theorem ledger_absorb (a : Answer σ α) (h : s.cancelled = false) :
    (s.absorb a).ledger = s.ledger ++ .told (Entry.mark a.cancels) := by
  have hlogs : (a.logs.map Entry.log).filter (fun e => !e.isLog) = [] := by
    simp [Entry.isLog]
  have hmark : (if a.cancels && !s.cancelled then [Entry.cancelled] else []) =
      Entry.mark a.cancels := by
    simp [h, Entry.mark]
  have hkept : (Entry.mark a.cancels).filter (fun e => !e.isLog) = Entry.mark a.cancels := by
    cases a.cancels <;> rfl
  ext1
  · simp only [ledger, absorb, List.filter_append, hlogs, hmark, hkept, List.append_nil]
    rfl
  · exact (List.append_nil _).symm
  · exact (List.append_nil _).symm

theorem cancelled_look (env : Environment σ) (s : RunState σ) :
    (s.look env).cancelled = (s.cancelled || s.interrupted env) := by
  rw [look]
  cases h : s.interrupted env <;> simp

theorem world_look (env : Environment σ) (s : RunState σ) : (s.look env).world = s.world := by
  rw [look]
  split <;> rfl

/-- Nothing changes as long as nothing is noticed. -/
theorem look_eq_self (h : s.interrupted env = false) : s.look env = s := by
  rw [look, h]
  rfl

theorem not_cancelled_of_look (h : (s.look env).cancelled = false) : s.cancelled = false := by
  rw [cancelled_look, Bool.or_eq_false_iff] at h
  exact h.1

/-- Nothing changes at a look after which the work can go on. -/
theorem look_eq_self_of_cancelled (h : (s.look env).cancelled = false) : s.look env = s := by
  rw [cancelled_look, Bool.or_eq_false_iff] at h
  exact look_eq_self h.2

theorem ledger_look (env : Environment σ) (s : RunState σ) :
    (s.look env).ledger = s.ledger ++ .told (Entry.mark (s.interrupted env)) := by
  rw [look]
  cases h : s.interrupted env with
  | false => exact (Ledger.append_blank _).symm
  | true =>
    ext1
    · simp [ledger, Entry.mark, Entry.isLog]
    · exact (List.append_nil _).symm
    · exact (List.append_nil _).symm

theorem absorb_pure (s : RunState σ) (value : α) : s.absorb (.pure value s.world) = s := by
  simp [absorb, Answer.pure]

theorem ledger_record (a : Action) :
    (s.record env a).ledger = s.ledger ++ ⟨[Entry.ended a], [a], []⟩ := by
  ext1
  · simp [ledger, record, emit, note, Entry.isLog, Entry.ended]
  · rfl
  · exact (List.append_nil _).symm

end RunState

/-- The stretch from `s` to `s'` adds `l`. -/
structure Extends (env : Environment σ) (s : RunState σ) (l : Ledger) (s' : RunState σ) : Prop where
  ledger : s'.ledger = s.ledger ++ l
  world : s'.world = replay env l.entries s.world
  cancelled : s'.cancelled = (s.cancelled || cancelsIn env l.entries s.world)
  quiet : Quiet env s.cancelled s.world l.entries
  ends : l.entries.filter Entry.isEnd = l.actions.map Entry.ended

namespace Extends

theorem refl (s : RunState σ) : Extends env s .blank s where
  ledger := (Ledger.append_blank _).symm
  world := rfl
  cancelled := (Bool.or_false _).symm
  quiet := trivial
  ends := rfl

theorem trans (h : Extends env s l s') (h' : Extends env s' l' s'') :
    Extends env s (l ++ l') s'' where
  ledger := by rw [h'.ledger, h.ledger, Ledger.append_assoc]
  world := by rw [h'.world, h.world, Ledger.entries_append, replay_append]
  cancelled := by
    rw [h'.cancelled, h.cancelled, h.world, Ledger.entries_append, cancelsIn_append, Bool.or_assoc]
  quiet := by
    have hq := h'.quiet
    rw [h.cancelled, h.world] at hq
    exact h.quiet.append hq
  ends := by
    rw [Ledger.entries_append, List.filter_append, h.ends, h'.ends, Ledger.actions_append,
      List.map_append]

theorem then_blank (h : Extends env s l s') (h' : Extends env s' .blank s'') :
    Extends env s l s'' := by
  simpa only [Ledger.append_blank] using h.trans h'

/-- A stretch whose ledger is known is the only thing its end has more than its beginning. -/
theorem since (h : Extends env s l s') : s'.ledger.since s.ledger = l := by
  rw [h.ledger, Ledger.since_append]

theorem log (s : RunState σ) (level : LogLevel) (message : String)
    (fields : List (String × String)) : Extends env s .blank (s.log level message fields) where
  ledger := by rw [RunState.ledger_log, Ledger.append_blank]
  world := rfl
  cancelled := (Bool.or_false _).symm
  quiet := trivial
  ends := rfl

/-- Telling an event changes nothing else; a hand-over may be told only if nothing is cancelled. -/
theorem emit {e : Event} (he : (Entry.event e).isEnd = false)
    (h : s.cancelled = true → (Entry.event e).isEffect = false) :
    Extends env s (.told [.event e]) (s.emit e) where
  ledger := RunState.ledger_note rfl
  world := rfl
  cancelled := (Bool.or_false _).symm
  quiet := ⟨h, trivial⟩
  ends := by simp [Ledger.told, he]

theorem record {a : Action} (h : s.cancelled = true → (Entry.ended a).isEffect = false) :
    Extends env s ⟨[Entry.ended a], [a], []⟩ (s.record env a) where
  ledger := RunState.ledger_record a
  world := rfl
  cancelled := (Bool.or_false _).symm
  quiet := ⟨h, trivial⟩
  ends := rfl

/-- As long as nothing is cancelled, a hand-over may be told and recorded as well. -/
theorem emit_open {e : Event} (he : (Entry.event e).isEnd = false) (hs : s.cancelled = false) :
    Extends env s (.told [.event e]) (s.emit e) := by
  apply Extends.emit he
  intro h
  rw [hs] at h
  cases h

theorem record_open (a : Action) (hs : s.cancelled = false) :
    Extends env s ⟨[Entry.ended a], [a], []⟩ (s.record env a) := by
  apply Extends.record
  intro h
  rw [hs] at h
  cases h

/-- A look adds at most the mark of a cancellation. -/
theorem look (env : Environment σ) (s : RunState σ) :
    Extends env s (.told (Entry.mark (s.interrupted env))) (s.look env) where
  ledger := s.ledger_look env
  world := by rw [s.world_look env, Ledger.entries_told, replay_mark]
  cancelled := by rw [s.cancelled_look env, Ledger.entries_told, cancelsIn_mark]
  quiet := Quiet.of_no_effect (fun _ hx => Entry.isEffect_of_mem_mark hx) ..
  ends := Entry.filter_isEnd_mark _

theorem noteError (s : RunState σ) (e : BlockError) :
    Extends env s ⟨[], [], [e]⟩ { s with parseErrors := s.parseErrors ++ [e] } where
  ledger := by
    ext1
    · exact (List.append_nil _).symm
    · exact (List.append_nil _).symm
    · rfl
  world := rfl
  cancelled := (Bool.or_false _).symm
  quiet := trivial
  ends := rfl

/-- An answer of a backend, journalled as its call. -/
theorem call {e : Entry} {answer : Answer σ α} (hs : s.cancelled = false) (hl : e.isLog = false)
    (he : e.isEnd = false) (hw : e.act env s.world = answer.world)
    (hc : e.cancels env s.world = answer.cancels) :
    Extends env s (.told (e :: Entry.mark answer.cancels)) ((s.note e).absorb answer) where
  ledger := by
    have hn : (s.note e).cancelled = false := hs
    rw [RunState.ledger_absorb answer hn, RunState.ledger_note hl, Ledger.append_assoc]
    rfl
  world := by
    change answer.world = replay env (Entry.mark answer.cancels) (e.act env s.world)
    rw [replay_mark, hw]
  cancelled := by
    change (s.cancelled || answer.cancels) = (s.cancelled || cancelsIn env (e :: _) s.world)
    rw [cancelsIn, cancelsIn_mark, hc, Bool.or_self]
  quiet := by
    refine ⟨fun h => ?_, Quiet.of_no_effect (fun x hx => Entry.isEffect_of_mem_mark hx) ..⟩
    rw [hs] at h
    cases h
  ends := by
    rw [Ledger.entries_told, List.filter_cons_of_neg (by simp [he]), Entry.filter_isEnd_mark]
    rfl

end Extends

end HomeAgents
