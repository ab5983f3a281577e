import HomeAgents.Reply.Decode
import Mathlib.Data.List.TakeWhile

/-!
# The grammar of replies

A reply is prose and blocks in turn. A block is an opener, a body and a fence, where no opener
starts inside the prose before it and the body ends at the first fence; only the last block may lack
its fence, and then it takes the rest. Every text can be read so in exactly one way, and this is the
way in which replies are taken apart.
-/

namespace HomeAgents.Reply

open Text

/-- The text that opens a block of a kind: a fence, the label, spaces and tabs, a line break. -/
inductive Opener : BlockKind → List Char → Prop
  | mk {kind : BlockKind} {blanks linebreak : List Char}
      (hblanks : ∀ c ∈ blanks, c = ' ' ∨ c = '\t')
      (hbreak : linebreak = ['\n'] ∨ linebreak = ['\r', '\n']) :
      Opener kind (fence ++ kind.label.toList ++ blanks ++ linebreak)

/-- A text that begins with an opener. -/
def Opens (cs : List Char) : Prop :=
  ∃ kind opener, Opener kind opener ∧ opener <+: cs

/-- A text that begins with a fence. -/
def Closes (cs : List Char) : Prop :=
  fence <+: cs

/-- In a text that goes on with `rest`, nothing that `P` describes starts inside `cs`. -/
def Free (P : List Char → Prop) (cs rest : List Char) : Prop :=
  ∀ before after, cs = before ++ after → after ≠ [] → ¬ P (after ++ rest)

/-- A block as it is written in a reply, with the prose before it. -/
structure Span where
  prose : List Char
  kind : BlockKind
  opener : List Char
  body : List Char
  closed : Bool
deriving DecidableEq, Repr

/-- The text of a block with the prose before it. -/
def Span.chars (s : Span) : List Char :=
  s.prose ++ (s.opener ++ (s.body ++ if s.closed then fence else []))

/-- What a block is once its opener has been read. -/
def Span.passage (s : Span) : Passage :=
  ⟨s.prose, s.kind, s.body, s.closed⟩

/-- The grammar of replies: a text, its blocks with the prose before each, and the prose behind the
last one. -/
inductive Cuts : List Char → List Span → List Char → Prop
  | prose {cs : List Char} (hprose : Free Opens cs []) : Cuts cs [] cs
  | unclosed {prose opener body : List Char} {kind : BlockKind} (hopener : Opener kind opener)
      (hprose : Free Opens prose (opener ++ body)) (hbody : Free Closes body []) :
      Cuts (prose ++ (opener ++ body)) [⟨prose, kind, opener, body, false⟩] []
  | closed {prose opener body rest tail : List Char} {kind : BlockKind} {spans : List Span}
      (hopener : Opener kind opener)
      (hprose : Free Opens prose (opener ++ (body ++ (fence ++ rest))))
      (hbody : Free Closes body (fence ++ rest)) (hrest : Cuts rest spans tail) :
      Cuts (prose ++ (opener ++ (body ++ (fence ++ rest))))
        (⟨prose, kind, opener, body, true⟩ :: spans) tail

section Searching

variable {P : List Char → Prop} {cs cs' rest rest' : List Char}

theorem Free.nil (P : List Char → Prop) (rest : List Char) : Free P [] rest := by
  intro before after h hne
  exact absurd (List.append_eq_nil_iff.mp h.symm).2 hne

theorem Free.cons {c : Char} (hhead : ¬ P (c :: cs ++ rest)) (htail : Free P cs rest) :
    Free P (c :: cs) rest := by
  intro before after h hne
  cases before with
  | nil =>
    rw [List.nil_append] at h
    rwa [← h]
  | cons b before =>
    rw [List.cons_append] at h
    exact htail before after (List.cons.inj h).2 hne

theorem Free.head {c : Char} (h : Free P (c :: cs) rest) : ¬ P (c :: cs ++ rest) :=
  h [] (c :: cs) rfl (List.cons_ne_nil c cs)

theorem Free.tail {c : Char} (h : Free P (c :: cs) rest) : Free P cs rest := by
  intro before after hcs hne
  exact h (c :: before) after (congrArg _ hcs) hne

/-- The first place where something starts is the only first one. -/
theorem Free.unique (h : Free P cs rest) (h' : Free P cs' rest') (hrest : P rest)
    (hrest' : P rest') (heq : cs ++ rest = cs' ++ rest') : cs = cs' ∧ rest = rest' := by
  induction cs generalizing cs' with
  | nil =>
    cases cs' with
    | nil => exact ⟨rfl, heq⟩
    | cons c' cs' =>
      rw [List.nil_append] at heq
      exact absurd (heq ▸ hrest) h'.head
  | cons c cs ih =>
    cases cs' with
    | nil =>
      rw [List.nil_append] at heq
      exact absurd (heq ▸ hrest') h.head
    | cons c' cs' =>
      rw [List.cons_append, List.cons_append] at heq
      obtain ⟨rfl, htail⟩ := List.cons.inj heq
      obtain ⟨hcs, hrests⟩ := ih h.tail h'.tail htail
      exact ⟨congrArg _ hcs, hrests⟩

/-- Where nothing starts there is no place to cut. -/
theorem Free.not_append (h : Free P cs []) (hrest : P rest) (hne : rest ≠ []) :
    cs ≠ cs' ++ rest := by
  intro heq
  have hnone := h cs' rest heq hne
  rw [List.append_nil] at hnone
  exact hnone hrest

end Searching

section Openers

variable {kind kind' : BlockKind} {opener opener' cs rest rest' : List Char}

theorem behind?_eq_some {ws : List Char} : behind? ws cs = some rest ↔ cs = ws ++ rest := by
  induction ws generalizing cs with
  | nil => simp only [behind?, Option.some.injEq, List.nil_append]
  | cons w ws ih =>
    cases cs with
    | nil => simp only [behind?, List.cons_append, reduceCtorEq]
    | cons c cs =>
      simp only [behind?, List.cons_append, List.cons.injEq]
      by_cases h : c = w
      · rw [if_pos h, ih]
        exact (and_iff_right h).symm
      · rw [if_neg h]
        exact iff_of_false (fun hnone => by cases hnone) fun hcs => h hcs.1

theorem behindBreak?_eq_some :
    behindBreak? cs = some rest ↔
      ∃ linebreak, (linebreak = ['\n'] ∨ linebreak = ['\r', '\n']) ∧ cs = linebreak ++ rest := by
  unfold behindBreak?
  split <;> simp_all

theorem isLabelBlank_iff {c : Char} : isLabelBlank c = true ↔ c = ' ' ∨ c = '\t' := by
  simp only [isLabelBlank, Bool.or_eq_true, decide_eq_true_eq]

theorem dropWhile_isLabelBlank {blanks linebreak : List Char}
    (hblanks : ∀ c ∈ blanks, c = ' ' ∨ c = '\t')
    (hbreak : linebreak = ['\n'] ∨ linebreak = ['\r', '\n']) :
    (blanks ++ (linebreak ++ rest)).dropWhile isLabelBlank = linebreak ++ rest := by
  rw [List.dropWhile_append_of_pos fun c hc => isLabelBlank_iff.mpr (hblanks c hc)]
  rcases hbreak with rfl | rfl <;> rfl

/-- An opener of a kind is read exactly where one stands. -/
theorem behindOpener?_eq_some :
    behindOpener? kind cs = some rest ↔ ∃ opener, Opener kind opener ∧ cs = opener ++ rest := by
  constructor
  · intro h
    unfold behindOpener? at h
    split at h
    case h_1 after hafter =>
      obtain ⟨linebreak, hbreak, hrest⟩ := behindBreak?_eq_some.mp h
      have hblanks : ∀ c ∈ after.takeWhile isLabelBlank, c = ' ' ∨ c = '\t' :=
        fun c hc => isLabelBlank_iff.mp (List.mem_takeWhile_imp hc)
      refine ⟨_, .mk hblanks hbreak, ?_⟩
      rw [List.append_assoc, List.append_assoc _ _ (linebreak ++ rest), ← hrest,
        List.takeWhile_append_dropWhile]
      exact behind?_eq_some.mp hafter
    case h_2 => cases h
  · rintro ⟨_, ⟨hblanks, hbreak⟩, rfl⟩
    rw [List.append_assoc, List.append_assoc, behindOpener?, behind?_eq_some.mpr rfl]
    dsimp only
    rw [dropWhile_isLabelBlank hblanks hbreak]
    exact behindBreak?_eq_some.mpr ⟨_, hbreak, rfl⟩

/-- The labels of two kinds differ in their first character. -/
theorem Opener.kind_eq (h : Opener kind opener) (h' : Opener kind' opener')
    (heq : opener ++ rest = opener' ++ rest') : kind = kind' := by
  obtain ⟨_, _⟩ := h
  obtain ⟨_, _⟩ := h'
  cases kind <;> cases kind' <;> first | rfl | simp [fence, BlockKind.label] at heq

/-- The opener a text begins with, if any, is the only one. -/
theorem Opener.unique (h : Opener kind opener) (h' : Opener kind' opener')
    (heq : opener ++ rest = opener' ++ rest') :
    kind = kind' ∧ opener = opener' ∧ rest = rest' := by
  obtain rfl := h.kind_eq h' heq
  have hread : behindOpener? kind (opener ++ rest) = some rest :=
    behindOpener?_eq_some.mpr ⟨opener, h, rfl⟩
  have hread' : behindOpener? kind (opener ++ rest) = some rest' :=
    behindOpener?_eq_some.mpr ⟨opener', h', heq⟩
  obtain rfl : rest = rest' := Option.some.inj (hread.symm.trans hread')
  exact ⟨rfl, List.append_cancel_right heq, rfl⟩

theorem opener?_eq_some :
    opener? cs = some (kind, rest) ↔ ∃ opener, Opener kind opener ∧ cs = opener ++ rest := by
  constructor
  · intro h
    unfold opener? at h
    split at h
    case h_1 rest₁ hcommand =>
      cases h
      exact behindOpener?_eq_some.mp hcommand
    case h_2 =>
      split at h
      case h_1 rest₁ htool =>
        cases h
        exact behindOpener?_eq_some.mp htool
      case h_2 => cases h
  · rintro ⟨opener, hopener, hcs⟩
    have hread := behindOpener?_eq_some.mpr ⟨opener, hopener, hcs⟩
    unfold opener?
    cases kind with
    | command => rw [hread]
    | toolCall =>
      cases hcommand : behindOpener? .command cs with
      | none => dsimp only; rw [hread]
      | some rest₁ =>
        obtain ⟨opener₁, hopener₁, hcs₁⟩ := behindOpener?_eq_some.mp hcommand
        cases hopener.kind_eq hopener₁ (hcs.symm.trans hcs₁)

theorem not_opens_of_opener? (h : opener? cs = none) : ¬ Opens cs := by
  rintro ⟨kind, opener, hopener, rest, hcs⟩
  have hread := opener?_eq_some.mpr ⟨opener, hopener, hcs.symm⟩
  rw [h] at hread
  cases hread

theorem not_closes_of_behind? (h : behind? fence cs = none) : ¬ Closes cs := by
  rintro ⟨rest, hcs⟩
  have hread := behind?_eq_some.mpr hcs.symm
  rw [h] at hread
  cases hread

end Openers

section Finding

variable {kind : BlockKind} {cs prose body rest : List Char}

theorem findOpener_eq_some (h : findOpener cs = some (prose, kind, rest)) :
    ∃ opener, Opener kind opener ∧ cs = prose ++ (opener ++ rest) ∧
      Free Opens prose (opener ++ rest) := by
  induction cs generalizing prose with
  | nil => cases h
  | cons c cs ih =>
    simp only [findOpener] at h
    split at h
    case h_1 hread =>
      cases h
      obtain ⟨opener, hopener, hcs⟩ := opener?_eq_some.mp hread
      exact ⟨opener, hopener, hcs, .nil Opens _⟩
    case h_2 hread =>
      split at h
      case h_1 hfind =>
        cases h
        obtain ⟨opener, hopener, hcs, hprose⟩ := ih hfind
        refine ⟨opener, hopener, congrArg _ hcs, .cons ?_ hprose⟩
        rw [List.cons_append, ← hcs]
        exact not_opens_of_opener? hread
      case h_2 => cases h

theorem findOpener_eq_none (h : findOpener cs = none) : Free Opens cs [] := by
  induction cs with
  | nil => exact .nil Opens []
  | cons c cs ih =>
    simp only [findOpener] at h
    split at h
    case h_1 => cases h
    case h_2 hread =>
      split at h
      case h_1 => cases h
      case h_2 hfind =>
        refine .cons ?_ (ih hfind)
        rw [List.append_nil]
        exact not_opens_of_opener? hread

theorem findFence_eq_some (h : findFence cs = some (body, rest)) :
    cs = body ++ (fence ++ rest) ∧ Free Closes body (fence ++ rest) := by
  induction cs generalizing body with
  | nil => cases h
  | cons c cs ih =>
    simp only [findFence] at h
    split at h
    case h_1 hread =>
      cases h
      have hcs : c :: cs = fence ++ rest := behind?_eq_some.mp hread
      exact ⟨hcs, .nil Closes _⟩
    case h_2 hread =>
      split at h
      case h_1 hfind =>
        cases h
        obtain ⟨hcs, hbody⟩ := ih hfind
        refine ⟨congrArg _ hcs, .cons ?_ hbody⟩
        rw [List.cons_append, ← hcs]
        exact not_closes_of_behind? hread
      case h_2 => cases h

theorem findFence_eq_none (h : findFence cs = none) : Free Closes cs [] := by
  induction cs with
  | nil => exact .nil Closes []
  | cons c cs ih =>
    simp only [findFence] at h
    split at h
    case h_1 => cases h
    case h_2 hread =>
      split at h
      case h_1 => cases h
      case h_2 hfind =>
        refine .cons ?_ (ih hfind)
        rw [List.append_nil]
        exact not_closes_of_behind? hread

end Finding

section Cutting

variable {cs prose prose' opener opener' rest rest' tail tail' : List Char}
  {kind kind' : BlockKind} {spans spans' : List Span}

theorem Opener.opens (h : Opener kind opener) : Opens (opener ++ rest) :=
  ⟨kind, opener, h, rest, rfl⟩

theorem Opener.append_ne_nil (h : Opener kind opener) : opener ++ rest ≠ [] := by
  obtain ⟨_, _⟩ := h
  nofun

theorem closes_fence (rest : List Char) : Closes (fence ++ rest) :=
  ⟨rest, rfl⟩

/-- The first opener of a text is the only first one. -/
theorem Opener.first_unique (h : Opener kind opener) (h' : Opener kind' opener')
    (hprose : Free Opens prose (opener ++ rest)) (hprose' : Free Opens prose' (opener' ++ rest'))
    (heq : prose ++ (opener ++ rest) = prose' ++ (opener' ++ rest')) :
    prose = prose' ∧ kind = kind' ∧ opener = opener' ∧ rest = rest' := by
  obtain ⟨hproses, hrests⟩ := hprose.unique hprose' h.opens h'.opens heq
  exact ⟨hproses, h.unique h' hrests⟩

/-- The blocks with the prose before them, and the prose behind the last, are the whole text. -/
theorem Cuts.chars_eq (h : Cuts cs spans tail) : cs = spans.flatMap Span.chars ++ tail := by
  induction h with
  | prose hprose => rfl
  | unclosed hopener hprose hbody => simp [Span.chars]
  | closed hopener hprose hbody hrest ih =>
    rw [List.flatMap_cons, List.append_assoc, ← ih]
    simp [Span.chars]

/-- A text can be cut in one way only. -/
theorem Cuts.unique (h : Cuts cs spans tail) (h' : Cuts cs spans' tail') :
    spans = spans' ∧ tail = tail' := by
  -- the first openers agree, then the first fences behind them, then what is left
  induction h generalizing spans' tail' with
  | prose hprose =>
    cases h' with
    | prose _ => exact ⟨rfl, rfl⟩
    | unclosed hopener' _ _ =>
      exact absurd rfl (hprose.not_append hopener'.opens hopener'.append_ne_nil)
    | closed hopener' _ _ _ =>
      exact absurd rfl (hprose.not_append hopener'.opens hopener'.append_ne_nil)
  | @unclosed prose opener body kind hopener hprose hbody =>
    generalize hcs : prose ++ (opener ++ body) = cs at h'
    cases h' with
    | prose hprose' =>
      exact absurd hcs.symm (hprose'.not_append hopener.opens hopener.append_ne_nil)
    | unclosed hopener' hprose' _ =>
      obtain ⟨rfl, rfl, rfl, rfl⟩ := hopener.first_unique hopener' hprose hprose' hcs
      exact ⟨rfl, rfl⟩
    | closed hopener' hprose' hbody' _ =>
      obtain ⟨rfl, rfl, rfl, hbodies⟩ := hopener.first_unique hopener' hprose hprose' hcs
      exact absurd hbodies (hbody.not_append (closes_fence _) nofun)
  | @closed prose opener body rest tail kind spans hopener hprose hbody hrest ih =>
    generalize hcs : prose ++ (opener ++ (body ++ (fence ++ rest))) = cs at h'
    cases h' with
    | prose hprose' =>
      exact absurd hcs.symm (hprose'.not_append hopener.opens hopener.append_ne_nil)
    | unclosed hopener' hprose' hbody' =>
      obtain ⟨rfl, rfl, rfl, hbodies⟩ := hopener.first_unique hopener' hprose hprose' hcs
      exact absurd hbodies.symm (hbody'.not_append (closes_fence _) nofun)
    | closed hopener' hprose' hbody' hrest' =>
      obtain ⟨rfl, rfl, rfl, hbodies⟩ := hopener.first_unique hopener' hprose hprose' hcs
      obtain ⟨rfl, hrests⟩ := hbody.unique hbody' (closes_fence _) (closes_fence _) hbodies
      obtain rfl := List.append_cancel_left hrests
      obtain ⟨rfl, rfl⟩ := ih hrest'
      exact ⟨rfl, rfl⟩

theorem segment_of_plain (h : findOpener cs = none) : segment cs = ⟨[], cs⟩ := by
  rw [segment]
  split <;> simp_all

theorem segment_of_unclosed (hopen : findOpener cs = some (prose, kind, rest))
    (hclose : findFence rest = none) : segment cs = ⟨[⟨prose, kind, rest, false⟩], []⟩ := by
  rw [segment]
  split <;> simp_all
  split <;> simp_all

theorem segment_of_closed {body : List Char} (hopen : findOpener cs = some (prose, kind, rest))
    (hclose : findFence rest = some (body, rest')) :
    segment cs = ⟨⟨prose, kind, body, true⟩ :: (segment rest').passages, (segment rest').tail⟩ := by
  rw [segment]
  split <;> simp_all
  split <;> simp_all

/-- Cutting a reply at its fences follows the grammar. -/
theorem segment_cuts (cs : List Char) :
    ∃ spans, Cuts cs spans (segment cs).tail ∧
      (segment cs).passages = spans.map Span.passage := by
  induction cs using segment.induct with
  | case1 cs hopen =>
    rw [segment_of_plain hopen]
    exact ⟨[], .prose (findOpener_eq_none hopen), rfl⟩
  | case2 cs prose kind rest hopen hclose =>
    rw [segment_of_unclosed hopen hclose]
    obtain ⟨opener, hopener, rfl, hprose⟩ := findOpener_eq_some hopen
    exact ⟨_, .unclosed hopener hprose (findFence_eq_none hclose), rfl⟩
  | case3 cs prose kind rest hopen body rest' hclose ih =>
    rw [segment_of_closed hopen hclose]
    obtain ⟨opener, hopener, rfl, hprose⟩ := findOpener_eq_some hopen
    obtain ⟨rfl, hbody⟩ := findFence_eq_some hclose
    obtain ⟨spans, hcuts, hpassages⟩ := ih
    exact ⟨_, .closed hopener hprose hbody hcuts, congrArg _ hpassages⟩

/-- A reply is taken apart as the grammar says. -/
theorem Cuts.segment_eq (h : Cuts cs spans tail) :
    segment cs = ⟨spans.map Span.passage, tail⟩ := by
  obtain ⟨spans', hcuts, hpassages⟩ := segment_cuts cs
  obtain ⟨rfl, htail⟩ := h.unique hcuts
  rw [htail, ← hpassages]

end Cutting

section Blocks

variable {index : Nat} {kind : BlockKind} {body : List Char} {e : BlockError}

/-- The error of a body says which block it is, of which kind, and keeps the body. -/
theorem decode_eq_malformed (h : decode index kind body = .malformed e) :
    e.index = index ∧ e.kind = kind ∧ e.raw = String.ofList body := by
  simp only [decode] at h
  split at h
  · cases h
    exact ⟨rfl, rfl, rfl⟩
  · split at h
    · cases kind <;> cases h
    · cases h
      exact ⟨rfl, rfl, rfl⟩

theorem Passage.toBlock_eq_malformed {p : Passage} (h : p.toBlock index = .malformed e) :
    e.index = index ∧ e.kind = p.kind ∧ e.raw = String.ofList p.body := by
  unfold Passage.toBlock at h
  split at h
  · exact decode_eq_malformed h
  · cases h
    exact ⟨rfl, rfl, rfl⟩

/-- The prose and the blocks of a reply that is cut as the grammar says. -/
theorem Cuts.parse_eq {reply : String} {spans : List Span} {tail : List Char}
    (h : Cuts reply.toList spans tail) :
    parse reply = ⟨String.ofList (trimChars (spans.flatMap Span.prose ++ tail)),
      (spans.map Span.passage).mapIdx Passage.toBlock⟩ := by
  have hprose : (spans.map Span.passage).flatMap Passage.prose = spans.flatMap Span.prose := by
    rw [List.flatMap_map]
    rfl
  rw [parse, h.segment_eq, Segments.prose, hprose]

end Blocks

/-- A reply can be read as the grammar says, in one way only. Its text is the prose without blanks
at both ends, and its blocks are those of the grammar in order: a closed one is what its body holds,
an unclosed one is malformed, and an error says which block it is, of which kind, and keeps the
body. -/
theorem parse_grammar (reply : String) :
    ∃ spans tail, Cuts reply.toList spans tail ∧
      (∀ spans' tail', Cuts reply.toList spans' tail' → spans' = spans ∧ tail' = tail) ∧
      reply.toList = spans.flatMap Span.chars ++ tail ∧
      (parse reply).text = String.ofList (trimChars (spans.flatMap Span.prose ++ tail)) ∧
      (parse reply).blocks.length = spans.length ∧
      ∀ i (hi : i < spans.length), ∃ block, (parse reply).blocks[i]? = some block ∧
        (spans[i].closed = true → block = decode i spans[i].kind spans[i].body) ∧
        (spans[i].closed = false →
          block = .malformed
            ⟨i, spans[i].kind, "unterminated fence", String.ofList spans[i].body⟩) ∧
        ∀ e, block = .malformed e →
          e.index = i ∧ e.kind = spans[i].kind ∧ e.raw = String.ofList spans[i].body := by
  obtain ⟨spans, hcuts, -⟩ := segment_cuts reply.toList
  refine ⟨spans, _, hcuts, fun spans' tail' h => h.unique hcuts, hcuts.chars_eq, ?_, ?_, ?_⟩
  · rw [hcuts.parse_eq]
  · rw [hcuts.parse_eq, List.length_mapIdx, List.length_map]
  · intro i hi
    refine ⟨spans[i].passage.toBlock i, ?_, ?_, ?_, ?_⟩
    · rw [hcuts.parse_eq, List.getElem?_mapIdx, List.getElem?_map, List.getElem?_eq_getElem hi]
      rfl
    · exact fun hclosed => if_pos hclosed
    · exact fun hopen => if_neg (Bool.eq_false_iff.mp hopen)
    · exact fun e he => Passage.toBlock_eq_malformed he

end HomeAgents.Reply
