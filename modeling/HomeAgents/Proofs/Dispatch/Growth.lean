import HomeAgents.Proofs.Dispatch.Course
import HomeAgents.Proofs.Dispatch.Errand

/-!
# What the parts of a course add

Every part of the course of a dispatch is a stretch: a deed, a turn, a visit, and the whole. The
ledger of a turn is that of its call and its reply followed by the ledgers of its deeds, and by the
mark of a cancellation if that is why the rest is left out. What is added between turns and between
visits is an aside, which has nothing to do with replies, errands and their calls.
-/

namespace HomeAgents

open Dispatch

variable {σ : Type} {env : Environment σ} {agent : Agent} {s s' : RunState σ}

namespace Ledger

/-- The runs of tools and the calls of services, in order. -/
def calls (l : Ledger) : List Entry :=
  l.entries.filter Entry.isCall

/-- The replies of the model, in order. -/
def replies (l : Ledger) : List String :=
  l.entries.filterMap Entry.reply?

/-- The actions that were recorded for errands, in order. -/
def errands (l : Ledger) : List Action :=
  l.actions.filter fun a => a.kind ≠ .delegation

@[simp] theorem calls_append (l l' : Ledger) : (l ++ l').calls = l.calls ++ l'.calls :=
  List.filter_append ..

@[simp] theorem replies_append (l l' : Ledger) : (l ++ l').replies = l.replies ++ l'.replies :=
  List.filterMap_append

@[simp] theorem errands_append (l l' : Ledger) : (l ++ l').errands = l.errands ++ l'.errands :=
  List.filter_append ..

theorem calls_state (s : RunState σ) : s.ledger.calls = s.journal.filter Entry.isCall :=
  s.filter_ledger fun _ => rfl

theorem replies_state (s : RunState σ) : s.ledger.replies = s.journal.filterMap Entry.reply? :=
  s.filterMap_ledger fun _ => rfl

/-- A ledger that has nothing to do with replies and errands. -/
structure Aside (l : Ledger) : Prop where
  calls : l.calls = []
  replies : l.replies = []
  errors : l.errors = []
  errands : l.errands = []

theorem Aside.blank : Aside .blank := ⟨rfl, rfl, rfl, rfl⟩

theorem Aside.append {l l' : Ledger} (h : Aside l) (h' : Aside l') : Aside (l ++ l') where
  calls := by rw [calls_append, h.calls, h'.calls]; rfl
  replies := by rw [replies_append, h.replies, h'.replies]; rfl
  errors := by rw [errors_append, h.errors, h'.errors]; rfl
  errands := by rw [errands_append, h.errands, h'.errands]; rfl

/-- A way to read a ledger that sees nothing in an aside. -/
structure Reading (β : Type) where
  read : Ledger → List β
  append : ∀ l l', read (l ++ l') = read l ++ read l'
  aside : ∀ l : Ledger, l.Aside → read l = []

namespace Reading

def calls : Reading Entry := ⟨Ledger.calls, calls_append, fun _ h => h.calls⟩

def replies : Reading String := ⟨Ledger.replies, replies_append, fun _ h => h.replies⟩

def errors : Reading BlockError := ⟨Ledger.errors, errors_append, fun _ h => h.errors⟩

def errands : Reading Action := ⟨Ledger.errands, errands_append, fun _ h => h.errands⟩

theorem read_join {β : Type} (r : Reading β) (ls : List Ledger) :
    r.read (join ls) = ls.flatMap r.read := by
  induction ls with
  | nil => exact r.aside _ .blank
  | cons l ls ih => rw [join_cons, r.append, ih, List.flatMap_cons]

end Reading

/-- An event that is no reply is an aside. -/
theorem Aside.event {e : Event} (h : (Entry.event e).reply? = none) :
    Aside (.told [.event e]) where
  calls := rfl
  replies := by simp [Ledger.replies, h]
  errors := rfl
  errands := rfl

/-- So is the record of a hand-over. -/
theorem Aside.handover {a : Action} (h : a.kind = .delegation) :
    Aside ⟨[Entry.ended a], [a], []⟩ where
  calls := rfl
  replies := rfl
  errors := rfl
  errands := by simp [Ledger.errands, h]

/-- So is the mark of a cancellation. -/
theorem Aside.mark (c : Bool) : Aside (.told (Entry.mark c)) := by
  cases c <;> exact ⟨rfl, rfl, rfl, rfl⟩

theorem calls_settled {a : Action} {calls : List Entry} {cancels : Bool}
    (h : ∀ x ∈ calls, x.isCall = true) : (settled a calls cancels).calls = calls := by
  have hm : (Entry.mark cancels).filter Entry.isCall = [] := by cases cancels <;> rfl
  have he : [Entry.ended a].filter Entry.isCall = [] := rfl
  change List.filter Entry.isCall (calls ++ Entry.mark cancels ++ [Entry.ended a]) = calls
  rw [List.filter_append, List.filter_append, hm, he, List.append_nil, List.append_nil]
  exact List.filter_eq_self.mpr h

theorem replies_settled {a : Action} {calls : List Entry} {cancels : Bool}
    (h : ∀ x ∈ calls, x.isCall = true) : (settled a calls cancels).replies = [] := by
  have hm : (Entry.mark cancels).filterMap Entry.reply? = [] := by cases cancels <;> rfl
  have he : [Entry.ended a].filterMap Entry.reply? = [] := rfl
  have hc : calls.filterMap Entry.reply? = [] := by
    refine List.filterMap_eq_nil_iff.mpr fun x hx => ?_
    have := h x hx
    cases x <;> first | rfl | cases this
  change List.filterMap Entry.reply? (calls ++ Entry.mark cancels ++ [Entry.ended a]) = []
  rw [List.filterMap_append, List.filterMap_append, hm, he, hc]
  rfl

theorem errands_settled {a : Action} {calls : List Entry} {cancels : Bool}
    (h : a.kind ≠ .delegation) : (settled a calls cancels).errands = [a] := by
  simp [Ledger.errands, settled, h]

end Ledger

namespace Agent

/-- The state in which an attempt to reach the model has been told. -/
def attempted (a : Agent) (messages : List Message) (s : RunState σ) : RunState σ :=
  s.note (.attempt a.name messages)

/-- What the call of the model adds behind an attempt; work that is seen to be cancelled does not
call it. -/
def reaching (a : Agent) (env : Environment σ) (messages : List Message) (s : RunState σ) :
    List Entry :=
  if ((a.attempted messages s).look env).cancelled then
    Entry.mark ((a.attempted messages s).interrupted env)
  else
    .modelCall a.name messages a.params ::
      Entry.mark ((env.model a.name).complete messages a.params s.world).cancels

/-- What asking the model for a reply adds. -/
def asking (a : Agent) (env : Environment σ) (messages : List Message) (s : RunState σ) :
    List Entry :=
  .attempt a.name messages :: a.reaching env messages s

theorem asking_aside (a : Agent) (env : Environment σ) (messages : List Message)
    (s : RunState σ) : Ledger.Aside (.told (a.asking env messages s)) := by
  have hattempt : Ledger.Aside (.told [.attempt a.name messages]) := ⟨rfl, rfl, rfl, rfl⟩
  have hcall : Ledger.Aside (.told [.modelCall a.name messages a.params]) := ⟨rfl, rfl, rfl, rfl⟩
  have hreaching : Ledger.Aside (.told (a.reaching env messages s)) := by
    rw [reaching]
    split
    · exact .mark _
    · exact hcall.append (.mark _)
  exact hattempt.append hreaching

theorem saveTrace_extends (env : Environment σ) (a : Agent) (messages : List Message)
    (startedAt : Int) (outcome : Except AgentError String) (s : RunState σ) :
    Extends env s .blank (a.saveTrace env messages startedAt outcome s) := by
  cases ht : s.telemetry with
  | none =>
    simp only [saveTrace, ht]
    exact Extends.refl s
  | some t =>
    simp only [saveTrace, ht]
    constructor
    · rw [Ledger.append_blank]
      exact RunState.ledger_log ..
    · rfl
    · exact (Bool.or_false _).symm
    · trivial
    · rfl

theorem call_extends (env : Environment σ) (a : Agent) (messages : List Message) (s : RunState σ) :
    Extends env s (.told (a.asking env messages s)) (a.call env messages s).2 := by
  have hattempt : Extends env s (.told [.attempt a.name messages]) (a.attempted messages s) :=
    ⟨RunState.ledger_note rfl, rfl, (Bool.or_false _).symm, ⟨fun _ => rfl, trivial⟩, rfl⟩
  cases hs : ((a.attempted messages s).look env).cancelled with
  | true =>
    have hlook := hattempt.trans (Extends.look env (a.attempted messages s))
    rw [call, ← attempted, if_pos hs, asking, reaching, if_pos hs]
    exact hlook
  | false =>
    have hopen : (a.attempted messages s).cancelled = false := RunState.not_cancelled_of_look hs
    let answer := (env.model a.name).complete messages a.params s.world
    have hcall : Extends env (a.attempted messages s)
        (.told (.modelCall a.name messages a.params :: Entry.mark answer.cancels))
        (((a.attempted messages s).note (.modelCall a.name messages a.params)).absorb answer) :=
      Extends.call hopen rfl rfl rfl rfl
    rw [call, ← attempted, if_neg (by simp [hs]), asking, reaching, if_neg (by simp [hs]),
      RunState.look_eq_self_of_cancelled hs]
    exact hattempt.trans hcall

theorem complete_extends (env : Environment σ) (a : Agent) (messages : List Message)
    (s : RunState σ) :
    Extends env s (.told (a.asking env messages s)) (a.complete env messages s).2 := by
  have hcall := call_extends env a messages s
  rcases ho : a.call env messages s with ⟨outcome, s₁⟩
  rw [ho] at hcall
  simp only [complete, ho]
  cases outcome with
  | ok text => exact (hcall.then_blank (Extends.log ..)).then_blank (saveTrace_extends ..)
  | error e => exact (hcall.then_blank (Extends.log ..)).then_blank (saveTrace_extends ..)

/-- Work that is seen to be cancelled gets no reply. -/
theorem complete_of_look (env : Environment σ) (a : Agent) (messages : List Message)
    (hs : ((a.attempted messages s).look env).cancelled = true) :
    (a.complete env messages s).1 = .error a.cancelledError := by
  rw [complete, call, ← attempted, if_pos hs]

theorem complete_of_cancelled (env : Environment σ) (a : Agent) (messages : List Message)
    (hs : s.cancelled = true) :
    (a.complete env messages s).1 = .error a.cancelledError := by
  refine a.complete_of_look env messages ?_
  rw [RunState.cancelled_look]
  exact Bool.or_eq_true_iff.mpr (.inl hs)

end Agent

namespace Dispatch

theorem noteErrors_extends (env : Environment σ) (agent : Agent) (errors : List BlockError)
    (s : RunState σ) :
    Extends env s
      ⟨errors.map fun e => .event (.parseError agent.name e.message), [], errors⟩
      (noteErrors agent errors s) := by
  induction errors generalizing s with
  | nil => exact Extends.refl s
  | cons e errors ih =>
    have htold : Extends env s (.told [.event (.parseError agent.name e.message)])
        ((s.log .warn "Skipping malformed block"
          [("agent", agent.name), ("error", e.message), ("raw", e.raw)]).emit
            (.parseError agent.name e.message)) :=
      (Extends.log s ..).trans (Extends.emit rfl fun _ => rfl)
    exact (htold.trans (Extends.noteError _ e)).trans (ih _)

/-- Any block that is carried out before a cancellation is a stretch. -/
theorem runBlock_extends (env : Environment σ) (agent : Agent) (message : String) (p : Progress)
    (b : Block) (hs : s.cancelled = false) :
    ∃ l, Extends env s l (runBlock env agent message p s b).2 := by
  cases hb : b.errand? with
  | some e =>
    obtain ⟨_, _, _, _, _, _, hext⟩ := runBlock_settles env agent message p hb hs
    exact ⟨_, hext⟩
  | none =>
    cases b with
    | toolCall c => cases hb
    | malformed e => exact ⟨_, Extends.refl s⟩
    | command c =>
      by_cases hc : c.action = Builtin.delegateAction
      · simp only [runBlock, hc, ↓reduceIte]
        exact ⟨_, requestHandover_extends env agent message c p hs⟩
      · simp [Block.errand?, hc] at hb

/-- What a deed adds. -/
def Deed.ledger (x : Deed σ) : Ledger :=
  x.after.ledger.since x.before.ledger

/-- The deed is one that an agent does before the work is cancelled. -/
structure Deed.Done (env : Environment σ) (agent : Agent) (message : String) (x : Deed σ) :
    Prop where
  cancelled : x.before.cancelled = false
  formed : x.block.isMalformed = false
  run : ∃ p, (runBlock env agent message p x.before x.block).2 = x.after

namespace Deed.Done

variable {message : String} {x : Deed σ}

/-- A block is carried out only if the look before it finds the work not cancelled. -/
theorem of_look {b : Block} {p p' : Progress} (hs : (s.look env).cancelled = false)
    (hb : b.isMalformed = false) (run : runBlock env agent message p s b = (p', s')) :
    Deed.Done env agent message ⟨b, s, s'⟩ :=
  ⟨RunState.not_cancelled_of_look hs, hb, p, congrArg Prod.snd run⟩

theorem extends_ledger (h : x.Done env agent message) : Extends env x.before x.ledger x.after := by
  obtain ⟨p, hrun⟩ := h.run
  obtain ⟨l, hl⟩ := runBlock_extends env agent message p x.block h.cancelled
  rw [hrun] at hl
  rwa [Deed.ledger, hl.since]

/-- A deed that is an errand settles it and adds nothing else. -/
theorem settles (h : x.Done env agent message) {e : Errand} (he : x.block.errand? = some e) :
    ∃ service outcome calls cancels ms,
      Settles env agent x.before e service outcome calls cancels ∧
      x.ledger = settled (e.action agent service outcome ms) calls cancels := by
  obtain ⟨p, hrun⟩ := h.run
  obtain ⟨service, outcome, calls, cancels, ms, hset, hext⟩ :=
    runBlock_settles env agent message p he h.cancelled
  rw [hrun] at hext
  exact ⟨service, outcome, calls, cancels, ms, hset, hext.since⟩

/-- Any other deed asks for a hand-over, and adds something only if it is denied. -/
theorem handover (h : x.Done env agent message) (he : x.block.errand? = none) :
    ∃ c, x.block = .command c ∧ c.action = Builtin.delegateAction ∧
      x.ledger = if agent.config.canNest then .blank else deniedHandover agent c := by
  obtain ⟨p, hrun⟩ := h.run
  have hf := h.formed
  cases hb : x.block with
  | toolCall c => rw [hb] at he; cases he
  | malformed e => rw [hb] at hf; cases hf
  | command c =>
    rw [hb] at he hrun
    by_cases hc : c.action = Builtin.delegateAction
    · have hext := requestHandover_extends env agent message c p h.cancelled
      simp only [runBlock, hc, ↓reduceIte] at hrun
      rw [hrun] at hext
      exact ⟨c, rfl, hc, hext.since⟩
    · simp [Block.errand?, hc] at he

theorem aside (h : x.Done env agent message) (he : x.block.errand? = none) :
    x.ledger.Aside := by
  obtain ⟨c, _, _, hl⟩ := h.handover he
  rw [hl]
  split
  · exact .blank
  · exact .handover rfl

theorem replies (h : x.Done env agent message) : x.ledger.replies = [] := by
  cases he : x.block.errand? with
  | none => exact (h.aside he).replies
  | some e =>
    obtain ⟨_, _, _, _, _, hset, hl⟩ := h.settles he
    rw [hl, Ledger.replies_settled hset.isCall_of_mem]

theorem errors (h : x.Done env agent message) : x.ledger.errors = [] := by
  cases he : x.block.errand? with
  | none => exact (h.aside he).errors
  | some e =>
    obtain ⟨_, _, _, _, _, _, hl⟩ := h.settles he
    rw [hl]
    rfl

end Deed.Done

section Carrying

variable {message : String} {bs : List Block} {p p' : Progress} {ds : List (Deed σ)}

theorem Carries.done_of_mem (h : Carries env agent message bs p s ds p' s') :
    ∀ x ∈ ds, x.Done env agent message := by
  induction h with
  | done => intro x hx; cases hx
  | skip tail ih => exact ih
  | stop hb hs => intro x hx; cases hx
  | deed hb hs run tail ih =>
    intro x hx
    rcases List.mem_cons.mp hx with rfl | hx
    · exact .of_look hs hb run
    · exact ih x hx

/-- The state after the last one of some deeds that begin in a state. -/
def lastAfter (ds : List (Deed σ)) (s : RunState σ) : RunState σ :=
  (ds.getLast?.map Deed.after).getD s

theorem lastAfter_cons (x : Deed σ) (ds : List (Deed σ)) (s : RunState σ) :
    lastAfter (x :: ds) s = lastAfter ds x.after := by
  rw [lastAfter, lastAfter, List.getLast?_cons]
  cases ds.getLast? <;> rfl

theorem Carries.extends_join (h : Carries env agent message bs p s ds p' s') :
    Extends env s (.join (ds.map Deed.ledger)) (lastAfter ds s) := by
  induction h with
  | done => exact Extends.refl _
  | skip tail ih => exact ih
  | stop hb hs => exact Extends.refl _
  | @deed b rest p p₁ p' s s₁ s' ds hb hs run tail ih =>
    have hdone := Deed.Done.of_look hs hb run
    rw [lastAfter_cons]
    exact hdone.extends_ledger.trans ih

/-- Blocks end with the last deed, or with a look that finds the work cancelled. -/
theorem Carries.last_or_look (h : Carries env agent message bs p s ds p' s') :
    s' = lastAfter ds s ∨ s' = (lastAfter ds s).look env := by
  induction h with
  | done => exact .inl rfl
  | skip tail ih => exact ih
  | stop hb hs => exact .inr rfl
  | deed hb hs run tail ih =>
    rw [lastAfter_cons]
    exact ih

/-- After the last deed at most a cancellation is noticed. -/
theorem Carries.extends_parting (h : Carries env agent message bs p s ds p' s') :
    Extends env (lastAfter ds s)
      (.told (Entry.mark (s'.cancelled && !(lastAfter ds s).cancelled))) s' := by
  rcases h.last_or_look with rfl | rfl
  · rw [Bool.and_not_self]
    exact Extends.refl _
  · have hlook := Extends.look env (lastAfter ds s)
    rw [RunState.cancelled_look]
    cases hs : (lastAfter ds s).cancelled with
    | false => simpa using hlook
    | true => simpa [RunState.interrupted, hs] using hlook

/-- The blocks carried out are the first of those that can be carried out. -/
theorem Carries.blocks_isPrefix (h : Carries env agent message bs p s ds p' s') :
    ds.map Deed.block <+: bs.filter fun b => !b.isMalformed := by
  induction h with
  | done => exact List.prefix_rfl
  | skip tail ih => exact ih
  | stop hb hs => exact List.nil_prefix
  | deed hb hs run tail ih =>
    rw [List.filter_cons_of_pos (by simp [hb])]
    exact List.cons_prefix_cons.mpr ⟨rfl, ih⟩

/-- Unless the work is cancelled all of them are carried out. -/
theorem Carries.blocks_eq (h : Carries env agent message bs p s ds p' s')
    (hs : p'.stopped = false) : ds.map Deed.block = bs.filter fun b => !b.isMalformed := by
  induction h with
  | done => rfl
  | skip tail ih => exact ih hs
  | stop hb hc => cases hs
  | deed hb hc run tail ih =>
    rw [List.filter_cons_of_pos (by simp [hb])]
    exact congrArg _ (ih hs)

end Carrying

namespace Turn

/-- What the call and the reply of a turn add. -/
def heading (t : Turn σ) (env : Environment σ) (agent : Agent) : Ledger :=
  let errors := (Reply.parse t.reply).errors
  .told (agent.asking env t.sent t.asked) ++
    .told [.event (.modelReply agent.name t.number t.reply)] ++
    ⟨errors.map fun e => .event (.parseError agent.name e.message), [], errors⟩

/-- What is added after the last deed of a turn: the mark of a cancellation, if one is noticed only
then. -/
def parting (t : Turn σ) (agent : Agent) : Ledger :=
  .told (Entry.mark (t.closed.cancelled && !(lastAfter t.deeds (t.opened agent)).cancelled))

/-- What a turn adds. -/
def ledger (t : Turn σ) (env : Environment σ) (agent : Agent) : Ledger :=
  t.heading env agent ++ .join (t.deeds.map Deed.ledger) ++ t.parting agent

theorem Taken.extends_heading {t : Turn σ} {message : String} {handover : Option Handover}
    (h : t.Taken env agent message handover) :
    Extends env t.asked (t.heading env agent) (t.opened agent) := by
  have hcall : Extends env t.asked (.told (agent.asking env t.sent t.asked)) t.answered := by
    have hc := agent.complete_extends env t.sent t.asked
    rwa [h.call] at hc
  have hreply : Extends env t.answered (.told [.event (.modelReply agent.name t.number t.reply)])
      (t.answered.emit (.modelReply agent.name t.number t.reply)) := Extends.emit rfl fun _ => rfl
  have herrors := noteErrors_extends env agent (Reply.parse t.reply).errors
    (t.answered.emit (.modelReply agent.name t.number t.reply))
  exact (hcall.trans hreply).trans herrors

theorem Taken.extends_ledger {t : Turn σ} {message : String} {handover : Option Handover}
    (h : t.Taken env agent message handover) :
    Extends env t.asked (t.ledger env agent) t.closed :=
  (h.extends_heading.trans h.blocks.extends_join).trans h.blocks.extends_parting

theorem calls_heading (t : Turn σ) : (t.heading env agent).calls = [] := by
  have hasking := (agent.asking_aside env t.sent t.asked).calls
  simp only [heading, Ledger.calls_append, hasking, List.nil_append]
  simp [Ledger.calls, Ledger.told, Entry.isCall]

theorem replies_heading (t : Turn σ) : (t.heading env agent).replies = [t.reply] := by
  have hasking := (agent.asking_aside env t.sent t.asked).replies
  simp only [heading, Ledger.replies_append, hasking, List.nil_append]
  simp [Ledger.replies, Ledger.told, Entry.reply?]

/-- What is read of a turn, unless it is of its call or its reply, is read of its deeds. -/
theorem read_ledger {β : Type} (r : Ledger.Reading β) (env : Environment σ) (agent : Agent)
    (t : Turn σ) :
    r.read (t.ledger env agent) =
      r.read (t.heading env agent) ++ t.deeds.flatMap fun x => r.read x.ledger := by
  rw [ledger, r.append, r.append, r.aside (t.parting agent) (.mark _), List.append_nil, r.read_join,
    List.flatMap_map]

/-- All calls of a turn are those of its deeds. -/
theorem calls_ledger (t : Turn σ) :
    (t.ledger env agent).calls = t.deeds.flatMap fun x => x.ledger.calls := by
  have h := t.read_ledger .calls env agent
  rwa [show Ledger.Reading.calls.read (t.heading env agent) = [] from t.calls_heading,
    List.nil_append] at h

/-- All actions of a turn that are recorded for errands are those of its deeds. -/
theorem errands_ledger (t : Turn σ) :
    (t.ledger env agent).errands = t.deeds.flatMap fun x => x.ledger.errands :=
  t.read_ledger .errands env agent

section Taken

variable {t : Turn σ} {message : String} {handover : Option Handover}

/-- A reply comes only if the work was not seen to be cancelled when it was asked for. -/
theorem Taken.look_open (h : t.Taken env agent message handover) :
    ((agent.attempted t.sent t.asked).look env).cancelled = false := by
  cases ha : ((agent.attempted t.sent t.asked).look env).cancelled with
  | false => rfl
  | true =>
    have hcall := agent.complete_of_look env t.sent ha
    rw [h.call] at hcall
    cases hcall

theorem Taken.not_cancelled (h : t.Taken env agent message handover) :
    t.asked.cancelled = false := by
  have hattempted := RunState.not_cancelled_of_look h.look_open
  exact hattempted

theorem Taken.replies (h : t.Taken env agent message handover) :
    (t.ledger env agent).replies = [t.reply] := by
  have hdeeds : (t.deeds.flatMap fun x => x.ledger.replies) = [] := by
    refine List.flatMap_eq_nil_iff.mpr fun x hx => ?_
    exact (h.blocks.done_of_mem x hx).replies
  have hread := t.read_ledger .replies env agent
  change (t.ledger env agent).replies = (t.heading env agent).replies ++ _ at hread
  rw [hread, replies_heading]
  exact congrArg _ hdeeds

theorem Taken.errors (h : t.Taken env agent message handover) :
    (t.ledger env agent).errors = (Reply.parse t.reply).errors := by
  have hdeeds : (t.deeds.flatMap fun x => x.ledger.errors) = [] := by
    refine List.flatMap_eq_nil_iff.mpr fun x hx => ?_
    exact (h.blocks.done_of_mem x hx).errors
  have hread := t.read_ledger .errors env agent
  change (t.ledger env agent).errors = (Reply.parse t.reply).errors ++ _ at hread
  rw [hread]
  exact (congrArg _ hdeeds).trans (List.append_nil _)

end Taken

end Turn

end Dispatch

end HomeAgents
