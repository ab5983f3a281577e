import HomeAgents.Proofs.Reply.Ask

/-!
# Replies are read as they are written

A reply written as prose and blocks in turn is read as the same blocks and the same prose, if the
prose has no opener in it and the JSON texts have no fence in them. The last character of a piece of
prose may be a backtick: the opener behind it still begins at its own first backtick.
-/

namespace HomeAgents.Reply

open Json Text

/-- A piece of prose and the request behind it. -/
structure Part where
  prose : String
  ask : Ask

/-- The reply that consists of parts and the prose behind the last. -/
def compose (parts : List Part) (last : String) : String :=
  parts.foldr (fun p text => p.prose ++ p.ask.toFenced ++ text) last

/-- The prose of such a reply. -/
def proseOf (parts : List Part) (last : String) : String :=
  parts.foldr (fun p text => p.prose ++ text) last

/-- A text with no opener in it. -/
def Plain (cs : List Char) : Prop :=
  ∀ kind opener, Opener kind opener → ¬ opener <:+: cs

/-- A request with no fence in its JSON text. -/
def Ask.Unfenced (a : Ask) : Prop :=
  ¬ fence <:+: a.toJson.chars

/-- A part as it is cut out of a reply. -/
def Part.span (p : Part) : Span :=
  ⟨p.prose.toList, p.ask.kind, lineOpener p.ask.kind, p.ask.toJson.chars ++ ['\n'], true⟩

section Words

variable {word cs rest : List Char} {d : Char}

/-- A word that a text begins with ends before a character that it does not have. -/
theorem isPrefix_of_not_mem (hd : d ∉ word) (h : word <+: cs ++ d :: rest) : word <+: cs := by
  obtain ⟨tail, htail⟩ := h
  rcases List.append_eq_append_iff.mp htail with ⟨behind, hcs, -⟩ | ⟨behind, hword, hrest⟩
  · exact ⟨behind, hcs.symm⟩
  · cases behind with
    | nil => exact ⟨[], by rw [hword, List.append_nil, List.append_nil]⟩
    | cons e behind =>
      obtain rfl : d = e := (List.cons.inj hrest).1
      exact absurd (hword ▸ List.mem_append_right cs List.mem_cons_self) hd

/-- A fence that starts in a line does not reach behind it. -/
theorem free_closes_line (h : ¬ fence <:+: cs) (rest : List Char) :
    Free Closes (cs ++ ['\n']) rest := by
  intro before after hsplit hne hclose
  obtain ⟨middle, e, rfl⟩ : ∃ middle e, after = middle ++ [e] :=
    ⟨_, _, (List.dropLast_concat_getLast hne).symm⟩
  obtain ⟨hcs, hlast⟩ := List.append_inj' (hsplit.trans (List.append_assoc ..).symm) rfl
  obtain rfl : '\n' = e := List.singleton_inj.mp hlast
  have hfence : fence <+: middle := by
    rw [Closes, List.append_assoc, List.singleton_append] at hclose
    exact isPrefix_of_not_mem (by decide) hclose
  exact h (hcs ▸ hfence.isInfix.trans (List.suffix_append before middle).isInfix)

end Words

section Openers

variable {kind kind' : BlockKind} {opener opener' cs after rest : List Char}

/-- Behind its label an opener has blanks and line breaks only. -/
theorem Opener.behind_label (h : Opener kind opener) :
    ∃ blanks, opener = fence ++ (kind.label.toList ++ blanks) ∧
      ∀ c ∈ blanks, c ∈ [' ', '\t', '\r', '\n'] := by
  obtain @⟨blanks, linebreak, hblanks, hbreak⟩ := h
  have hline : linebreak ⊆ [' ', '\t', '\r', '\n'] := by
    rcases hbreak with rfl | rfl <;> simp
  refine ⟨blanks ++ linebreak, by simp, fun c hc => ?_⟩
  rcases List.mem_append.mp hc with hc | hc
  · rcases hblanks c hc with rfl | rfl <;> decide
  · exact hline hc

/-- Behind its fence an opener has something, and no more backticks. -/
theorem Opener.behind_fence (h : Opener kind opener) :
    ∃ c label, opener = fence ++ c :: label ∧ '\x60' ∉ c :: label := by
  obtain ⟨blanks, rfl, hblanks⟩ := h.behind_label
  have hlabel : ∃ c label, kind.label.toList = c :: label ∧ '\x60' ∉ c :: label := by
    cases kind with
    | command => exact ⟨'c', "ommand".toList, by decide, by decide⟩
    | toolCall => exact ⟨'t', "ool_call".toList, by decide, by decide⟩
  obtain ⟨c, label, hlabel, hticks⟩ := hlabel
  have hblank : '\x60' ∉ blanks := fun hmem => absurd (hblanks _ hmem) (by decide)
  refine ⟨c, label ++ blanks, by rw [hlabel]; rfl, ?_⟩
  rw [← List.cons_append, List.mem_append]
  exact not_or.mpr ⟨hticks, hblank⟩

/-- An opener does not start before another one and end inside it. -/
theorem Opener.isPrefix_of_straddle (h : Opener kind opener) (h' : Opener kind' opener')
    (hne : after ≠ []) (hstart : opener <+: after ++ (opener' ++ rest)) : opener <+: after := by
  obtain ⟨c, label, rfl, hticks⟩ := h.behind_fence
  obtain ⟨c', label', rfl, -⟩ := h'.behind_fence
  obtain ⟨tail, htail⟩ := hstart
  rcases List.append_eq_append_iff.mp htail with ⟨behind, hafter, -⟩ | ⟨behind, hopener, hrest⟩
  · exact ⟨behind, hafter.symm⟩
  · cases behind with
    | nil => exact ⟨[], by rw [hopener, List.append_nil, List.append_nil]⟩
    | cons d behind =>
      obtain rfl : '\x60' = d := (List.cons.inj hrest).1
      -- the later opener would have a backtick where this one has its label
      match after, hne, hopener with
      | [_], _, hopener =>
        simp only [fence, List.cons_append, List.nil_append, List.cons.injEq] at hopener hrest
        obtain ⟨-, -, rfl⟩ := hopener
        obtain rfl : '\x60' = c := (List.cons.inj (List.cons.inj hrest.2).2).1
        exact absurd List.mem_cons_self hticks
      | [_, _], _, hopener =>
        simp only [fence, List.cons_append, List.nil_append, List.cons.injEq] at hopener hrest
        obtain ⟨-, -, -, rfl⟩ := hopener
        obtain rfl : '\x60' = c := (List.cons.inj hrest.2).1
        exact absurd List.mem_cons_self hticks
      | _ :: _ :: _ :: after, _, hopener =>
        simp only [fence, List.cons_append, List.nil_append, List.cons.injEq] at hopener
        rw [hopener.2.2.2] at hticks
        exact absurd (List.mem_append_right after List.mem_cons_self) hticks

/-- In a plain text no opener starts, even if an opener stands behind it. -/
theorem Plain.free_opens (hcs : Plain cs) (h : Opener kind opener) :
    Free Opens cs (opener ++ rest) := by
  rintro before after hsplit hne ⟨kind', opener', h', hstart⟩
  have hafter : opener' <+: after := h'.isPrefix_of_straddle h hne hstart
  refine hcs kind' opener' h' ?_
  rw [hsplit]
  exact hafter.isInfix.trans (List.suffix_append before after).isInfix

theorem Plain.free_opens_nil (hcs : Plain cs) : Free Opens cs [] := by
  rintro before after hsplit hne ⟨kind', opener', h', hstart⟩
  rw [List.append_nil] at hstart
  refine hcs kind' opener' h' ?_
  rw [hsplit]
  exact hstart.isInfix.trans (List.suffix_append before after).isInfix

/-- A text is plain if the search for an opener finds none. -/
theorem plain_iff : Plain cs ↔ findOpener cs = none := by
  constructor
  · intro hcs
    cases hfind : findOpener cs with
    | none => rfl
    | some found =>
      obtain ⟨prose, kind, rest⟩ := found
      obtain ⟨opener, hopener, hsplit, -⟩ := findOpener_eq_some hfind
      exact absurd ⟨prose, rest, by rw [hsplit, List.append_assoc]⟩ (hcs kind opener hopener)
  · rintro hfind kind opener hopener ⟨before, rest, hsplit⟩
    rw [List.append_assoc] at hsplit
    have hnone := findOpener_eq_none hfind before (opener ++ rest) hsplit.symm hopener.append_ne_nil
    rw [List.append_nil] at hnone
    exact hnone hopener.opens

instance (cs : List Char) : Decidable (Plain cs) :=
  decidable_of_iff _ plain_iff.symm

end Openers

section Composition

variable {parts : List Part} {last : String}

theorem toList_compose_cons (p : Part) (parts : List Part) (last : String) :
    (compose (p :: parts) last).toList = p.prose.toList ++ (lineOpener p.ask.kind ++
      (p.ask.toJson.chars ++ ['\n'] ++ (fence ++ (compose parts last).toList))) := by
  change (p.prose ++ p.ask.toFenced ++ compose parts last).toList = _
  rw [String.toList_append, String.toList_append, p.ask.toList_toFenced]
  simp only [List.append_assoc]

/-- A composed reply is cut into its parts. -/
theorem cuts_compose (hparts : ∀ p ∈ parts, Plain p.prose.toList ∧ p.ask.Unfenced)
    (hlast : Plain last.toList) :
    Cuts (compose parts last).toList (parts.map Part.span) last.toList := by
  induction parts with
  | nil => exact .prose hlast.free_opens_nil
  | cons p parts ih =>
    obtain ⟨⟨hprose, hask⟩, hrest⟩ := List.forall_mem_cons.mp hparts
    rw [toList_compose_cons, List.map_cons]
    exact .closed (opener_lineOpener _) (hprose.free_opens (opener_lineOpener _))
      (free_closes_line hask _) (ih hrest)

theorem toList_proseOf (parts : List Part) (last : String) :
    (proseOf parts last).toList = (parts.map Part.span).flatMap Span.prose ++ last.toList := by
  induction parts with
  | nil => rfl
  | cons p parts ih =>
    change (p.prose ++ proseOf parts last).toList = _
    rw [String.toList_append, ih, List.map_cons, List.flatMap_cons, List.append_assoc]
    rfl

/-- A readable request is what its part is decoded to, wherever the part stands. -/
theorem toBlock_span {p : Part} (h : p.ask.Readable) (index : Nat) :
    p.span.passage.toBlock index = p.ask.toBlock :=
  decode_chars h index

/-- A reply composed of plain prose and readable requests is read as those requests, in order, and
as the prose without the blanks at both ends. -/
theorem parse_compose (hprose : ∀ p ∈ parts, Plain p.prose.toList) (hlast : Plain last.toList)
    (hreadable : ∀ p ∈ parts, p.ask.Readable) (hunfenced : ∀ p ∈ parts, p.ask.Unfenced) :
    parse (compose parts last) =
      ⟨trim (proseOf parts last), parts.map fun p => p.ask.toBlock⟩ := by
  have hcuts := cuts_compose (fun p hp => ⟨hprose p hp, hunfenced p hp⟩) hlast
  have hblocks : ((parts.map Part.span).map Span.passage).mapIdx Passage.toBlock =
      parts.map fun p => p.ask.toBlock := by
    refine List.ext_getElem? fun i => ?_
    rw [List.getElem?_mapIdx, List.getElem?_map, List.getElem?_map, List.getElem?_map]
    cases hp : parts[i]? with
    | none => rfl
    | some p => exact congrArg some (toBlock_span (hreadable p (List.mem_of_getElem? hp)) i)
  rw [hcuts.parse_eq, hblocks, trim, toList_proseOf]

/-- A command behind a stray backtick, then a tool call with quotes and backticks in its texts. -/
def twoParts : List Part :=
  [⟨"On it: \x60", .command ⟨"light_on", [("level", .number (.int (-3)))]⟩⟩,
    ⟨"\n", .toolCall ⟨"say \"hi\"", [("texts", .array [.string "\x60\x60", .null])]⟩⟩]

theorem parse_compose_twoParts :
    parse (compose twoParts " Done.\n") =
      ⟨"On it: \x60\n Done.", [.command ⟨"light_on", [("level", .number (.int (-3)))]⟩,
        .toolCall ⟨"say \"hi\"", [("texts", .array [.string "\x60\x60", .null])]⟩]⟩ := by
  have hprose : ∀ p ∈ twoParts, Plain p.prose.toList := by decide
  have hlast : Plain " Done.\n".toList := by decide
  have hreadable : ∀ p ∈ twoParts, p.ask.Readable := by
    refine List.forall_mem_cons.mpr ⟨readable_command.mpr ?_,
      List.forall_mem_singleton.mpr (readable_toolCall.mpr ?_)⟩
    all_goals
      simp [Proper, ProperMembers, ProperItems, Sorted.Increasing, Number.Whole, depth, memberDepth,
        itemDepth, maxDepth]
  have hunfenced : ∀ p ∈ twoParts, p.ask.Unfenced := by
    refine List.forall_mem_cons.mpr ⟨?_, List.forall_mem_singleton.mpr ?_⟩
    · rw [Ask.Unfenced, Ask.toJson, command_toJson]
      decide +kernel
    · rw [Ask.Unfenced, Ask.toJson, toolCall_toJson]
      decide +kernel
  rw [parse_compose hprose hlast hreadable hunfenced]
  have htext : trim (proseOf twoParts " Done.\n") = "On it: \x60\n Done." := by decide
  rw [htext]
  rfl

end Composition

end HomeAgents.Reply
