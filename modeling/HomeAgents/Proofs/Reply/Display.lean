import HomeAgents.Proofs.Reply.Injection

/-!
# The display text of a reply

Taking the blocks out of a reply brings the prose in front of a block and the prose behind it
together. No piece of prose has an opener in it, but an opener can come about at such a seam: then
the display text has a block, and if it is read as a reply again it is taken apart once more. That
is the only way: the display text is read as itself, without any block, exactly if no seam completes
an opener.
-/

namespace HomeAgents.Reply

open Text

/-- A text ends with the beginning of an opener, and the text behind it begins with the rest. -/
def Joins (front behind : List Char) : Prop :=
  ∃ kind begun rest, begun ≠ [] ∧ rest ≠ [] ∧ Opener kind (begun ++ rest) ∧ begun <:+ front ∧
    rest <+: behind

/-- At some seam an opener comes about. Blanks at the end of the whole prose do not count, since
they are trimmed. -/
def Rejoins : List Span → List Char → Prop
  | [], _ => False
  | s :: spans, tail =>
    Joins s.prose ((spans.flatMap Span.prose ++ tail).rdropWhile isBlank) ∨ Rejoins spans tail

section Seams

variable {kind : BlockKind} {cs cs' tail rest : List Char} {spans : List Span}

theorem plain_append : Plain (cs ++ cs') ↔ Plain cs ∧ Plain cs' ∧ ¬ Joins cs cs' := by
  constructor
  · intro h
    refine ⟨h.of_part List.infix_append_left, h.of_part List.infix_append_right, ?_⟩
    rintro ⟨kind, begun, rest, hbegun, hrest, hopener, hfront, hbehind⟩
    refine h kind _ hopener (List.infix_append_iff_ne_nil.mpr (.inr (.inr ?_)))
    exact ⟨begun, rest, hbegun, hrest, rfl, hfront, hbehind⟩
  · rintro ⟨hcs, hcs', hjoins⟩ kind opener hopener hmem
    rcases List.infix_append_iff_ne_nil.mp hmem with
      h | h | ⟨begun, rest, hbegun, hrest, rfl, hfront, hbehind⟩
    · exact hcs kind opener hopener h
    · exact hcs' kind opener hopener h
    · exact hjoins ⟨kind, begun, rest, hbegun, hrest, hopener, hfront, hbehind⟩

theorem plain_nil : Plain [] := by
  rw [plain_iff]
  rfl

theorem not_joins_nil : ¬ Joins cs [] := by
  rintro ⟨_, _, rest, _, hrest, _, _, hbehind⟩
  exact hrest (List.prefix_nil.mp hbehind)

/-- Blanks hold no backtick, so they begin no opener. -/
theorem plain_blank_append (h : ∀ c ∈ cs, isBlank c = true) : Plain (cs ++ cs') ↔ Plain cs' := by
  have htick : '\x60' ∉ cs := fun hmem => absurd (h _ hmem) (by decide)
  have hcs : Plain cs := by
    intro kind opener hopener hmem
    obtain ⟨c, label, rfl, _⟩ := hopener.behind_fence
    exact htick (hmem.subset (List.mem_cons_self ..))
  have hjoins : ¬ Joins cs cs' := by
    rintro ⟨kind, begun, rest, hbegun, _, hopener, hfront, _⟩
    obtain ⟨c, label, hsplit, _⟩ := hopener.behind_fence
    cases begun with
    | nil => exact hbegun rfl
    | cons d begun =>
      obtain rfl : d = '\x60' := (List.cons.inj hsplit).1
      exact htick (hfront.subset List.mem_cons_self)
  rw [plain_append]
  exact ⟨fun hplain => hplain.2.1, fun hplain => ⟨hcs, hplain, hjoins⟩⟩

theorem plain_trimChars : Plain (trimChars cs) ↔ Plain (cs.rdropWhile isBlank) := by
  obtain ⟨lead, hsplit, hblank⟩ := rdropWhile_isBlank cs
  rw [hsplit, plain_blank_append hblank]

/-- The pieces of prose brought together are plain exactly if no seam completes an opener. -/
theorem plain_prose_iff (hprose : ∀ s ∈ spans, Plain s.prose) (htail : Plain tail) :
    Plain ((spans.flatMap Span.prose ++ tail).rdropWhile isBlank) ↔ ¬ Rejoins spans tail := by
  induction spans with
  | nil =>
    have hplain : Plain (tail.rdropWhile isBlank) :=
      htail.of_part (List.rdropWhile_prefix _ _).isInfix
    exact ⟨fun _ h => h, fun _ => hplain⟩
  | cons s spans ih =>
    obtain ⟨hs, hspans⟩ := List.forall_mem_cons.mp hprose
    have ih := ih hspans
    rw [List.flatMap_cons, List.append_assoc, rdropWhile_append, Rejoins, not_or]
    by_cases hblank : (spans.flatMap Span.prose ++ tail).rdropWhile isBlank = []
    · -- nothing is left behind this seam
      have hplain : Plain (s.prose.rdropWhile isBlank) :=
        hs.of_part (List.rdropWhile_prefix _ _).isInfix
      rw [hblank] at ih ⊢
      rw [if_pos rfl]
      exact ⟨fun _ => ⟨not_joins_nil, ih.mp plain_nil⟩, fun _ => hplain⟩
    · rw [if_neg hblank, plain_append, ih]
      exact ⟨fun h => ⟨h.2.2, h.2.1⟩, fun h => ⟨hs, h.2, h.1⟩⟩

/-- Prose in which no opener starts is plain, whatever stands behind it. -/
theorem Free.plain (h : Free Opens cs rest) : Plain cs := by
  rintro kind opener hopener ⟨before, after, hsplit⟩
  rw [List.append_assoc] at hsplit
  refine h before (opener ++ after) hsplit.symm hopener.append_ne_nil ?_
  rw [List.append_assoc]
  exact hopener.opens

theorem Cuts.plain (h : Cuts cs spans tail) : (∀ s ∈ spans, Plain s.prose) ∧ Plain tail := by
  induction h with
  | prose hprose => exact ⟨fun s hs => absurd hs List.not_mem_nil, hprose.plain⟩
  | unclosed hopener hprose hbody =>
    exact ⟨List.forall_mem_singleton.mpr hprose.plain, plain_nil⟩
  | closed hopener hprose hbody hrest ih =>
    exact ⟨List.forall_mem_cons.mpr ⟨hprose.plain, ih.1⟩, ih.2⟩

end Seams

section Text

variable {reply : String} {spans : List Span} {tail : List Char}

/-- A reply without blocks is plain, and is read as its trimmed text. -/
theorem blocks_eq_nil_iff : (parse reply).blocks = [] ↔ Plain reply.toList := by
  obtain ⟨spans, hcuts, -⟩ := segment_cuts reply.toList
  constructor
  · intro hblocks
    have hspans : spans = [] := by
      rw [hcuts.parse_eq] at hblocks
      simpa using hblocks
    subst hspans
    generalize (segment reply.toList).tail = tail at hcuts
    generalize reply.toList = cs at hcuts
    cases hcuts with
    | prose hprose => exact hprose.plain
  · intro hplain
    have hprose := Cuts.prose hplain.free_opens_nil
    rw [hprose.parse_eq]
    rfl

theorem toList_text (h : Cuts reply.toList spans tail) :
    (parse reply).text.toList = trimChars (spans.flatMap Span.prose ++ tail) := by
  rw [h.parse_eq, String.toList_ofList]

/-- A display text is trimmed, so it is read as itself if it has no block. -/
theorem parse_text_of_plain (h : Plain (parse reply).text.toList) :
    parse (parse reply).text = ⟨(parse reply).text, []⟩ := by
  obtain ⟨spans, hcuts, -⟩ := segment_cuts reply.toList
  have htext := toList_text hcuts
  have hprose := Cuts.prose h.free_opens_nil
  have htrim : trimChars (parse reply).text.toList = (parse reply).text.toList := by
    rw [htext, trimChars_trimChars]
  rw [hprose.parse_eq, List.flatMap_nil, List.nil_append, htrim, String.ofList_toList]
  rfl

/-- The display text of a reply is read as itself and has no block, exactly if taking the blocks out
of the reply completes no opener at any seam. -/
theorem parse_text_iff (reply : String) :
    ∃ spans tail, Cuts reply.toList spans tail ∧
      (parse (parse reply).text = ⟨(parse reply).text, []⟩ ↔ ¬ Rejoins spans tail) := by
  obtain ⟨spans, hcuts, -⟩ := segment_cuts reply.toList
  obtain ⟨hprose, htail⟩ := hcuts.plain
  refine ⟨spans, _, hcuts, ?_⟩
  rw [← plain_prose_iff hprose htail, ← plain_trimChars, ← toList_text hcuts]
  constructor
  · intro hparse
    rw [← blocks_eq_nil_iff, hparse]
  · exact parse_text_of_plain

/-- A reply with a command between two backticks and one backtick. -/
def seamed : String :=
  "x\x60\x60\x60\x60\x60command\n\x7b\"action\":\"hi\"\x7d\n\x60\x60\x60\x60command\n" ++
    "\x7b\"action\":\"unlock\"\x7d\n\x60\x60\x60"

/-- What is left of it for display has a command of its own. -/
theorem parse_text_seamed :
    ¬ (∀ reply : String, parse (parse reply).text = ⟨(parse reply).text, []⟩) ∧
      (parse seamed).commands.map Command.action = ["hi"] ∧
      (parse (parse seamed).text).commands.map Command.action = ["unlock"] := by
  have hhidden : (parse (parse seamed).text).commands.map Command.action = ["unlock"] := by
    decide +kernel
  refine ⟨fun hall => ?_, by decide +kernel, hhidden⟩
  rw [hall seamed] at hhidden
  cases hhidden

end Text

end HomeAgents.Reply
