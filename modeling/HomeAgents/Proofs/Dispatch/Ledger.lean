import HomeAgents.Dispatch.State

/-!
# What a stretch of a dispatch adds

A dispatch only ever adds to its journal, to its actions and to its block errors. A ledger is what
a stretch of it adds, the logged lines left out. The journal tells everything the backends do: what
becomes of the world during a stretch, and whether the work is cancelled, is what comes out when the
calls among its entries are made again.
-/

namespace HomeAgents

variable {σ α : Type}

namespace Entry

/-- A logged line. -/
def isLog : Entry → Bool
  | log _ => true
  | _ => false

/-- A run of a tool or a call of a service. -/
def isCall : Entry → Bool
  | toolRun .. => true
  | serviceCall .. => true
  | _ => false

/-- The end of an action. -/
def isEnd : Entry → Bool
  | event (.actionEnd ..) => true
  | _ => false

/-- The text of a reply of the model. -/
def reply? : Entry → Option String
  | event (.modelReply _ _ text) => some text
  | _ => none

/-- What must not happen once the work is cancelled: a call of a backend, and a hand-over that is
followed or recorded. -/
def isEffect : Entry → Bool
  | modelCall .. => true
  | toolRun .. => true
  | serviceCall .. => true
  | event (.delegation ..) => true
  | event (.actionEnd _ .delegation ..) => true
  | _ => false

/-- What the backend answers that an entry calls in a world, apart from the value. -/
def answer (env : Environment σ) (world : σ) : Entry → Answer σ Unit
  | modelCall agent messages params =>
    ((env.model agent).complete messages params world).map fun _ => ()
  | toolRun agent tool args =>
    match env.tools.get? tool with
    | some t => (t.execute (.object args) ⟨agent, false⟩ world).map fun _ => ()
    | none => .pure () world
  | serviceCall _ service action params =>
    match env.services.get? service with
    | some s => (s.call action params world).map fun _ => ()
    | none => .pure () world
  | _ => .pure () world

/-- The world after an entry. -/
def act (env : Environment σ) (world : σ) (e : Entry) : σ :=
  (e.answer env world).world

/-- The work is cancelled while the call of an entry is awaited, or the entry tells that it is. -/
def cancels (env : Environment σ) (world : σ) : Entry → Bool
  | cancelled => true
  | e => (e.answer env world).cancels

/-- The mark of a cancellation, if there was one. -/
def mark (cancels : Bool) : List Entry :=
  if cancels then [.cancelled] else []

/-- The entry that tells how an action ended. -/
def ended (a : Action) : Entry :=
  .event (.actionEnd a.agent a.kind a.name a.outcome.text (!a.outcome.isOk))

/-- A reading that passes cancellations over finds nothing in a mark. -/
theorem filterMap_mark {f : Entry → Option α} (hf : f cancelled = none) (c : Bool) :
    (mark c).filterMap f = [] := by
  cases c with
  | false => rfl
  | true => exact List.filterMap_cons_none hf

theorem filter_isEnd_mark (c : Bool) : (mark c).filter isEnd = [] := by
  cases c <;> rfl

theorem isEffect_of_mem_mark {c : Bool} {e : Entry} (h : e ∈ mark c) : e.isEffect = false := by
  cases c with
  | false => simp [mark] at h
  | true => simp only [mark, ↓reduceIte, List.mem_singleton] at h; subst h; rfl

end Entry

/-- The world after some entries. -/
def replay (env : Environment σ) (es : List Entry) (world : σ) : σ :=
  es.foldl (fun w e => e.act env w) world

theorem replay_append (env : Environment σ) (es es' : List Entry) (world : σ) :
    replay env (es ++ es') world = replay env es' (replay env es world) :=
  List.foldl_append

theorem replay_mark (env : Environment σ) (c : Bool) (world : σ) :
    replay env (Entry.mark c) world = world := by
  cases c <;> rfl

/-- What is logged changes nothing. -/
theorem replay_filter (env : Environment σ) (es : List Entry) (world : σ) :
    replay env (es.filter fun e => !e.isLog) world = replay env es world := by
  induction es generalizing world with
  | nil => rfl
  | cons e es ih =>
    cases e with
    | log line => exact ih world
    | event | attempt | modelCall | toolRun | serviceCall | cancelled => exact ih _

/-- Whether the work is cancelled during some entries. -/
def cancelsIn (env : Environment σ) : List Entry → σ → Bool
  | [], _ => false
  | e :: es, world => e.cancels env world || cancelsIn env es (e.act env world)

theorem cancelsIn_append (env : Environment σ) (es es' : List Entry) (world : σ) :
    cancelsIn env (es ++ es') world =
      (cancelsIn env es world || cancelsIn env es' (replay env es world)) := by
  induction es generalizing world with
  | nil => rfl
  | cons e es ih =>
    rw [List.cons_append, cancelsIn, cancelsIn, ih, Bool.or_assoc]
    rfl

theorem cancelsIn_mark (env : Environment σ) (c : Bool) (world : σ) :
    cancelsIn env (Entry.mark c) world = c := by
  cases c <;> rfl

theorem cancelsIn_filter (env : Environment σ) (es : List Entry) (world : σ) :
    cancelsIn env (es.filter fun e => !e.isLog) world = cancelsIn env es world := by
  induction es generalizing world with
  | nil => rfl
  | cons e es ih =>
    cases e with
    | log line => exact ih world
    | cancelled => rfl
    | event | attempt | modelCall | toolRun | serviceCall => exact congrArg _ (ih _)

/-- Among these entries no effect comes after a cancellation; `c` says that the work was cancelled
before them. -/
def Quiet (env : Environment σ) : Bool → σ → List Entry → Prop
  | _, _, [] => True
  | c, world, e :: es =>
    (c = true → e.isEffect = false) ∧ Quiet env (c || e.cancels env world) (e.act env world) es

namespace Quiet

variable {env : Environment σ} {c : Bool} {world : σ} {es es' : List Entry}

theorem append (h : Quiet env c world es)
    (h' : Quiet env (c || cancelsIn env es world) (replay env es world) es') :
    Quiet env c world (es ++ es') := by
  induction es generalizing c world with
  | nil => simpa [cancelsIn, replay] using h'
  | cons e es ih =>
    refine ⟨h.1, ih h.2 ?_⟩
    rw [cancelsIn, ← Bool.or_assoc] at h'
    exact h'

theorem of_append (h : Quiet env c world (es ++ es')) :
    Quiet env (c || cancelsIn env es world) (replay env es world) es' := by
  induction es generalizing c world with
  | nil => simpa [cancelsIn, replay] using h
  | cons e es ih =>
    rw [cancelsIn, ← Bool.or_assoc]
    exact ih h.2

/-- Entries of which none is an effect are quiet whatever was before. -/
theorem of_no_effect (h : ∀ e ∈ es, e.isEffect = false) (c : Bool) (world : σ) :
    Quiet env c world es := by
  induction es generalizing c world with
  | nil => trivial
  | cons e es ih =>
    exact ⟨fun _ => h e List.mem_cons_self, ih (fun x hx => h x (List.mem_cons_of_mem e hx)) ..⟩

/-- Once the work is cancelled there is no effect. -/
theorem no_effect (h : Quiet env true world es) : ∀ e ∈ es, e.isEffect = false := by
  induction es generalizing world with
  | nil => intro e he; cases he
  | cons x es ih =>
    intro e he
    rcases List.mem_cons.mp he with rfl | he
    · exact h.1 rfl
    · exact ih h.2 e he

/-- Logged lines may come at any time. -/
theorem of_filter (h : Quiet env c world (es.filter fun e => !e.isLog)) :
    Quiet env c world es := by
  induction es generalizing c world with
  | nil => trivial
  | cons e es ih =>
    cases e with
    | log line =>
      refine ⟨fun _ => rfl, ih ?_⟩
      rw [show (c || (Entry.log line).cancels env world) = c from Bool.or_false c]
      exact h
    | event | attempt | modelCall | toolRun | serviceCall | cancelled => exact ⟨h.1, ih h.2⟩

end Quiet

/-- What a stretch of a dispatch adds: its entries without the logged lines, the actions it records
and the malformed blocks it notes. -/
@[ext] structure Ledger where
  entries : List Entry
  actions : List Action
  errors : List BlockError

namespace Ledger

/-- Nothing at all. -/
def blank : Ledger := ⟨[], [], []⟩

/-- Entries alone. -/
def told (es : List Entry) : Ledger := ⟨es, [], []⟩

instance : Append Ledger where
  append l l' := ⟨l.entries ++ l'.entries, l.actions ++ l'.actions, l.errors ++ l'.errors⟩

/-- Several ledgers, one after the other. -/
def join (ls : List Ledger) : Ledger :=
  ⟨ls.flatMap (·.entries), ls.flatMap (·.actions), ls.flatMap (·.errors)⟩

/-- What a ledger has more than an earlier one. -/
def since (l earlier : Ledger) : Ledger :=
  ⟨l.entries.drop earlier.entries.length, l.actions.drop earlier.actions.length,
    l.errors.drop earlier.errors.length⟩

@[simp] theorem entries_append (l l' : Ledger) : (l ++ l').entries = l.entries ++ l'.entries := rfl

@[simp] theorem actions_append (l l' : Ledger) : (l ++ l').actions = l.actions ++ l'.actions := rfl

@[simp] theorem errors_append (l l' : Ledger) : (l ++ l').errors = l.errors ++ l'.errors := rfl

@[simp] theorem entries_told (es : List Entry) : (told es).entries = es := rfl

@[simp] theorem append_blank (l : Ledger) : l ++ blank = l := by
  ext1 <;> exact List.append_nil _

@[simp] theorem blank_append (l : Ledger) : blank ++ l = l := rfl

theorem append_assoc (a b c : Ledger) : a ++ b ++ c = a ++ (b ++ c) := by
  ext1 <;> exact List.append_assoc ..

@[simp] theorem join_nil : join [] = blank := rfl

@[simp] theorem join_cons (l : Ledger) (ls : List Ledger) : join (l :: ls) = l ++ join ls := rfl

@[simp] theorem join_singleton (l : Ledger) : join [l] = l := by
  rw [join_cons, join_nil, append_blank]

/-- What was added is what a ledger has more. -/
@[simp] theorem since_append (earlier l : Ledger) : (earlier ++ l).since earlier = l := by
  ext1 <;> exact List.drop_left

end Ledger

end HomeAgents
