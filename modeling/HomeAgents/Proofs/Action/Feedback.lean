import HomeAgents.Action.Summary
import HomeAgents.Proofs.Text.Excerpt
import HomeAgents.Rehearsal.Double
import Mathlib.Data.List.Infix

/-!
# What the model learns of its actions

The message about the actions of a turn has every short result whole and in order. The output of a
tool is left out if it occurs in the summary of the call. A summary of name and arguments may have
it by chance, and then different outputs are told alike.
-/

namespace HomeAgents

namespace Text

variable {needle cs : List Char} {text piece : String}

theorem occursIn_iff : occursIn needle cs = true ↔ needle <:+: cs := by
  induction cs with
  | nil => rw [occursIn, List.isEmpty_iff, List.infix_nil]
  | cons c cs ih =>
    rw [occursIn, Bool.or_eq_true, List.isPrefixOf_iff_prefix, ih, List.infix_cons_iff]

theorem contains_iff_toList : contains text piece = true ↔ piece.toList <:+: text.toList :=
  occursIn_iff

theorem contains_iff :
    contains text piece = true ↔ ∃ before after, text = before ++ piece ++ after := by
  rw [contains_iff_toList]
  constructor
  · rintro ⟨before, after, h⟩
    refine ⟨String.ofList before, String.ofList after, String.toList_inj.mp ?_⟩
    rw [String.toList_append, String.toList_append, String.toList_ofList, String.toList_ofList, h]
  · rintro ⟨before, after, rfl⟩
    exact ⟨before.toList, after.toList, by rw [String.toList_append, String.toList_append]⟩

/-- Every text behind the first one stands behind a separator. -/
theorem intercalate_cons (sep first : String) (parts : List String) :
    sep.intercalate (first :: parts) = first ++ String.join (parts.map (sep ++ ·)) := by
  induction parts generalizing first with
  | nil => simp
  | cons part parts ih =>
    rw [String.intercalate_cons_cons, ih, List.map_cons, String.join_cons]
    simp only [String.append_assoc]

end Text

namespace Action

open Rehearsal (Stage)

variable {σ : Type} {tools : ToolRegistry σ} {tool : Tool σ} {args : Members} {a a' : Action}
  {output output' result s text : String} {results : List String} {max : Nat}

/-! ### Results in order -/

/-- The texts stand in a text one behind the other, each at a place of its own. -/
inductive InTurn : List String → String → Prop
  | nil (s : String) : InTurn [] s
  | cons {text rest : String} {texts : List String} (gap : String) (h : InTurn texts rest) :
      InTurn (text :: texts) (gap ++ (text ++ rest))

theorem InTurn.behind (front : String) (h : InTurn results s) : InTurn results (front ++ s) := by
  cases h with
  | nil => exact .nil _
  | cons gap h =>
    rw [← String.append_assoc]
    exact .cons (front ++ gap) h

/-- The trimmed text, if it has at most `max` characters. -/
def whole? (text : String) (max : Nat) : Option String :=
  if (Text.trim text).length ≤ max then some (Text.trim text) else none

/-- What came of an action, if it has at most 1500 characters for a tool, and 300 for a command or a
failure. A hand-over brings no result. -/
def shortResult? (a : Action) : Option String :=
  match a.outcome, a.kind with
  | .failed e, _ => whole? e.message 300
  | .completed output, .tool => whole? output 1500
  | .completed output, .command => whole? output 300
  | .completed _, .delegation => none

theorem whole?_eq_some : whole? text max = some result ↔
    (Text.trim text).length ≤ max ∧ Text.trim text = result := by
  rw [whole?, Option.ite_none_right_eq_some, Option.some.injEq]

theorem condense_of_whole (h : whole? text max = some result) :
    Text.condense text max = result := by
  obtain ⟨hshort, hresult⟩ := whole?_eq_some.mp h
  rw [Text.condense_of_le hshort, hresult]

/-- The summary of an action has its short result in it. -/
theorem summary_tells (tools : ToolRegistry σ) (h : shortResult? a = some result) :
    ∃ before after, summary tools a = before ++ (result ++ after) := by
  unfold shortResult? at h
  unfold summary
  split at h
  next e houtcome =>
    rw [houtcome]
    exact ⟨"`" ++ a.name ++ "` failed: ", "", by simp [condense_of_whole h]⟩
  next output houtcome hkind =>
    simp only [houtcome, hkind]
    split
    next told _ =>
      split
      next htold =>
        obtain ⟨before, after, heq⟩ := Text.contains_iff.mp htold
        rw [(whole?_eq_some.mp h).2, String.append_assoc] at heq
        exact ⟨before, after, heq⟩
      next => exact ⟨told ++ "\n", "", by simp [condense_of_whole h]⟩
    next => exact ⟨a.name ++ "\n", "", by simp [condense_of_whole h]⟩
  next output houtcome hkind =>
    simp only [houtcome, hkind]
    exact ⟨"ran `" ++ a.name ++ "` on " ++ a.service.getD "?" ++ ": ", "", by
      simp [condense_of_whole h]⟩
  next => cases h

theorem resultsMessage_eq (tools : ToolRegistry σ) (actions : List Action) :
    resultsMessage tools actions =
      resultsHeader ++ String.join (actions.map fun a => "\n\n" ++ summary tools a) := by
  rw [resultsMessage, Text.intercalate_cons, List.map_map]
  rfl

/-- Behind its header the message has the short results of the actions whole and in order, without
overlaps, whatever the tools tell of themselves. -/
theorem resultsMessage_tells (tools : ToolRegistry σ) (actions : List Action) :
    ∃ rest, resultsMessage tools actions = resultsHeader ++ rest ∧
      InTurn (actions.filterMap shortResult?) rest := by
  refine ⟨_, resultsMessage_eq tools actions, ?_⟩
  induction actions with
  | nil => exact .nil _
  | cons a actions ih =>
    rw [List.map_cons, String.join_cons]
    cases hresult : shortResult? a with
    | none =>
      rw [List.filterMap_cons_none hresult]
      exact ih.behind _
    | some result =>
      obtain ⟨before, after, hsummary⟩ := summary_tells tools hresult
      rw [List.filterMap_cons_some hresult, hsummary]
      have hturn : InTurn (result :: actions.filterMap shortResult?) _ :=
        .cons ("\n\n" ++ before) (ih.behind after)
      simpa only [String.append_assoc] using hturn

/-! ### Results apart -/

/-- A call of a tool as it is told without its output: the name and the first arguments. -/
def callText (name : String) (args : Members) : String :=
  name ++ "(" ++ Tool.argumentsText (.object args) ++ ")"

/-- A completed call of a tool that has no summary of its own. -/
structure PlainCall (tools : ToolRegistry σ) (tool : Tool σ) (args : Members) (output : String)
    (a : Action) : Prop where
  kind : a.kind = .tool
  registered : tools.get? a.name = some tool
  plain : tool.humanize = Tool.plainSummary tool.name
  arguments : a.arguments = args
  outcome : a.outcome = .completed output

/-- The output of a call is told unless it occurs in what is told of the call anyway. -/
theorem PlainCall.summary_eq (h : PlainCall tools tool args output a) :
    summary tools a =
      if Text.contains (callText tool.name args) (Text.trim output) then callText tool.name args
      else callText tool.name args ++ "\n" ++ Text.condense output 1500 := by
  have htold : tools.humanize? a.name (.object a.arguments) (.success output) =
      some (callText tool.name args) := by
    rw [ToolRegistry.humanize?, h.registered, Option.map_some, h.plain, h.arguments]
    rfl
  simp only [summary, h.outcome, h.kind, htold]

/-- Two completed calls of one tool, without a summary of its own, with the same arguments and with
short outputs that are not the same. -/
structure Rivals (tools : ToolRegistry σ) (tool : Tool σ) (args : Members) (output output' : String)
    (a a' : Action) : Prop where
  first : PlainCall tools tool args output a
  second : PlainCall tools tool args output' a'
  short : (Text.trim output).length ≤ 1500
  short' : (Text.trim output').length ≤ 1500
  differ : Text.trim output ≠ Text.trim output'

/-- The model can tell two outputs apart exactly if not both of them occur in the name and the
arguments of the call. -/
theorem summary_ne_iff (h : Rivals tools tool args output output' a a') :
    summary tools a ≠ summary tools a' ↔
      ¬ ((Text.trim output).toList <:+: (callText tool.name args).toList ∧
        (Text.trim output').toList <:+: (callText tool.name args).toList) := by
  have hlonger (told : String) :
      callText tool.name args ≠ callText tool.name args ++ "\n" ++ told := by
    intro heq
    have hlength := congrArg String.length heq
    have hnewline : "\n".length = 1 := rfl
    rw [String.length_append, String.length_append, hnewline] at hlength
    omega
  rw [h.first.summary_eq, h.second.summary_eq, Text.condense_of_le h.short,
    Text.condense_of_le h.short', ← Text.contains_iff_toList, ← Text.contains_iff_toList]
  by_cases hfirst : Text.contains (callText tool.name args) (Text.trim output) = true
  · by_cases hsecond : Text.contains (callText tool.name args) (Text.trim output') = true
    · simp [hfirst, hsecond]
    · rw [if_pos hfirst, if_neg hsecond]
      exact ⟨fun _ hboth => hsecond hboth.2, fun _ => hlonger _⟩
  · rw [if_neg hfirst]
    refine ⟨fun _ hboth => hfirst hboth.1, fun _ => ?_⟩
    by_cases hsecond : Text.contains (callText tool.name args) (Text.trim output') = true
    · rw [if_pos hsecond]
      exact (hlonger _).symm
    · rw [if_neg hsecond]
      exact fun heq => h.differ ((String.append_right_inj _).mp heq)

/-- A tool that tells which of two rooms is warmer. -/
def warmer : Tool Stage :=
  Rehearsal.tool "warmer" ⟨"warmer", "Tells the warmer of two rooms", .object []⟩ (.fixed "hall")

/-- The hall and the attic. -/
def rooms : Members :=
  [("a", .string "hall"), ("b", .string "attic")]

/-- The answer of the tool for the two rooms. -/
def comparison (answer : String) : Action :=
  ⟨"house", .tool, "warmer", none, rooms, .completed answer, 1⟩

theorem plainCall_comparison (answer : String) :
    PlainCall (.ofList [warmer]) warmer rooms answer (comparison answer) :=
  ⟨rfl, rfl, rfl, rfl, rfl⟩

/-- An answer with a word that is not in the call is told. -/
theorem summary_ne_comparison :
    Rivals (.ofList [warmer]) warmer rooms "hall" "the attic" (comparison "hall")
        (comparison "the attic") ∧
      summary (.ofList [warmer]) (comparison "hall") ≠
        summary (.ofList [warmer]) (comparison "the attic") := by
  have hrivals : Rivals (.ofList [warmer]) warmer rooms "hall" "the attic" (comparison "hall")
      (comparison "the attic") :=
    ⟨plainCall_comparison _, plainCall_comparison _, by decide +kernel, by decide +kernel,
      by decide +kernel⟩
  exact ⟨hrivals, (summary_ne_iff hrivals).mpr (by decide +kernel)⟩

/-- Either room is an argument of the call, so both answers are left out and the call is told in the
same way whichever room is warmer. -/
theorem summary_alike :
    ¬ (∀ (tools : ToolRegistry Stage) tool args output output' a a',
        Rivals tools tool args output output' a a' → summary tools a ≠ summary tools a') ∧
      summary (.ofList [warmer]) (comparison "hall") = "warmer(a=hall, b=attic)" ∧
      summary (.ofList [warmer]) (comparison "attic") = "warmer(a=hall, b=attic)" := by
  have hhall : summary (.ofList [warmer]) (comparison "hall") = "warmer(a=hall, b=attic)" := by
    decide +kernel
  have hattic : summary (.ofList [warmer]) (comparison "attic") = "warmer(a=hall, b=attic)" := by
    decide +kernel
  refine ⟨fun hall => ?_, hhall, hattic⟩
  have hrivals : Rivals (.ofList [warmer]) warmer rooms "hall" "attic" (comparison "hall")
      (comparison "attic") :=
    ⟨plainCall_comparison _, plainCall_comparison _, by decide +kernel, by decide +kernel,
      by decide +kernel⟩
  exact hall _ _ _ _ _ _ _ hrivals (hhall.trans hattic.symm)

end Action

end HomeAgents
