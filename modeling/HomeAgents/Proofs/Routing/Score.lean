import HomeAgents.Routing.Keyword
import Mathlib.Algebra.Order.BigOperators.Group.List
import Mathlib.Algebra.Order.Group.Nat
import Mathlib.Data.Set.Card

/-!
# What scores count

A text is made of words, the longest runs of word characters, with gaps around and between them. The
words of a text are the only ones it is made of, so gaps never matter. A keyword hits a message at
every position at which its words stand among those of the message. A message that is put together
at a gap keeps the hits of its parts, and only a keyword of several words can hit across the gap.
-/

namespace HomeAgents.Routing

/-! ### Words and gaps -/

/-- No character of the text belongs to a word. -/
def IsGap (cs : List Char) : Prop :=
  ∀ c ∈ cs, isWordChar c = false

/-- The text is one word. -/
def IsWord (cs : List Char) : Prop :=
  cs ≠ [] ∧ ∀ c ∈ cs, isWordChar c = true

/-- A text is made of words, in order. A word ends at the end of the text or at a gap. -/
inductive Spells : List (List Char) → List Char → Prop
  | gap {cs : List Char} (hg : IsGap cs) : Spells [] cs
  | word {gap w rest : List Char} {ws : List (List Char)} (hg : IsGap gap) (hw : IsWord w)
      (hend : ∀ c ∈ rest.head?, isWordChar c = false) (tail : Spells ws rest) :
      Spells (w :: ws) (gap ++ (w ++ rest))

variable {c : Char} {gap cs cs' : List Char} {ws ws' : List (List Char)}

theorem IsGap.nil : IsGap [] :=
  fun _ hc => absurd hc List.not_mem_nil

theorem IsGap.append (h : IsGap gap) (h' : IsGap cs) : IsGap (gap ++ cs) :=
  fun c hc => (List.mem_append.mp hc).elim (h c) (h' c)

theorem IsGap.singleton (hc : isWordChar c = false) : IsGap [c] := by
  intro d hd
  rwa [List.mem_singleton.mp hd]

/-- A gap in front adds no word. -/
theorem Spells.gap_append (hg : IsGap gap) (h : Spells ws cs) : Spells ws (gap ++ cs) := by
  cases h with
  | gap hg' => exact .gap (hg.append hg')
  | word hg' hw hend tail =>
    rw [← List.append_assoc]
    exact .word (hg.append hg') hw hend tail

/-- Texts on both sides of a character that belongs to no word keep their words. -/
theorem Spells.append (h : Spells ws cs) (hc : isWordChar c = false) (h' : Spells ws' cs') :
    Spells (ws ++ ws') (cs ++ c :: cs') := by
  have hjoint : Spells ws' (c :: cs') := h'.gap_append (.singleton hc)
  induction h with
  | gap hg => exact hjoint.gap_append hg
  | @word gap w rest ws hg hw hend tail ih =>
    rw [List.append_assoc, List.append_assoc]
    refine .word hg hw (fun d hd => ?_) ih
    cases rest with
    | nil => rwa [← Option.some.inj hd]
    | cons e rest => exact hend d hd

/-- A character of a word begins a new word, or it belongs to the first one. -/
theorem Spells.cons_word (hc : isWordChar c = true) (h : Spells ws cs) :
    ∃ ws, Spells ws (c :: cs) := by
  have hone : IsWord [c] := by
    refine ⟨List.cons_ne_nil c [], fun d hd => ?_⟩
    rwa [List.mem_singleton.mp hd]
  cases h with
  | gap hg =>
    exact ⟨[[c]], .word .nil hone (fun d hd => hg d (List.mem_of_mem_head? hd)) (.gap hg)⟩
  | @word gap w rest ws hg hw hend tail =>
    cases gap with
    | nil =>
      refine ⟨(c :: w) :: ws,
        .word (w := c :: w) .nil ⟨List.cons_ne_nil c w, fun d hd => ?_⟩ hend tail⟩
      rcases List.mem_cons.mp hd with rfl | hd
      · exact hc
      · exact hw.2 d hd
    | cons e gap =>
      have hfirst : ∀ d ∈ (e :: gap ++ (w ++ rest)).head?, isWordChar d = false := by
        intro d hd
        rw [← Option.some.inj hd]
        exact hg e List.mem_cons_self
      exact ⟨[c] :: w :: ws, .word .nil hone hfirst (.word hg hw hend tail)⟩

theorem exists_spells (cs : List Char) : ∃ ws, Spells ws cs := by
  induction cs with
  | nil => exact ⟨[], .gap .nil⟩
  | cons c cs ih =>
    obtain ⟨ws, h⟩ := ih
    cases hc : isWordChar c with
    | true => exact h.cons_word hc
    | false => exact ⟨ws, h.gap_append (.singleton hc)⟩

/-! ### The words that are collected -/

theorem wordsFrom_done (done : List (List Char)) (current cs : List Char) :
    wordsFrom done current cs = done.reverse ++ wordsFrom [] current cs := by
  induction cs generalizing done current with
  | nil =>
    rw [wordsFrom, wordsFrom]
    split <;> simp
  | cons c cs ih =>
    rw [wordsFrom, wordsFrom]
    split
    next => exact ih done (c :: current)
    next =>
      split
      next => exact ih done []
      next =>
        rw [ih (current.reverse :: done), ih [current.reverse], List.reverse_cons,
          List.append_assoc]
        rfl

theorem wordsFrom_skip (hc : isWordChar c = false) (cs : List Char) :
    wordsFrom [] [] (c :: cs) = wordsFrom [] [] cs := by
  rw [wordsFrom, if_neg (by simp [hc]), if_pos List.isEmpty_nil]

theorem wordsFrom_gap (hg : IsGap gap) (cs : List Char) :
    wordsFrom [] [] (gap ++ cs) = wordsFrom [] [] cs := by
  induction gap with
  | nil => rfl
  | cons c gap ih =>
    rw [List.cons_append, wordsFrom_skip (hg c List.mem_cons_self)]
    exact ih fun d hd => hg d (List.mem_cons_of_mem c hd)

theorem wordsFrom_word {w : List Char} (hw : ∀ c ∈ w, isWordChar c = true)
    (current cs : List Char) :
    wordsFrom [] current (w ++ cs) = wordsFrom [] (w.reverse ++ current) cs := by
  induction w generalizing current with
  | nil => rfl
  | cons c w ih =>
    rw [List.cons_append, wordsFrom, if_pos (hw c List.mem_cons_self),
      ih (fun d hd => hw d (List.mem_cons_of_mem c hd)), List.reverse_cons, List.append_assoc]
    rfl

/-- An open word is closed at the end of the text or at a gap. -/
theorem wordsFrom_closed {current : List Char} (hne : current ≠ [])
    (hend : ∀ c ∈ cs.head?, isWordChar c = false) :
    wordsFrom [] current cs = current.reverse :: wordsFrom [] [] cs := by
  have hopen : ¬ current.isEmpty = true := by simpa using hne
  cases cs with
  | nil =>
    rw [wordsFrom, if_neg hopen]
    rfl
  | cons c cs =>
    have hc := hend c rfl
    rw [wordsFrom, if_neg (by simp [hc]), if_neg hopen, wordsFrom_done, wordsFrom_skip hc]
    rfl

/-- The words that are collected from a text are those it is made of. -/
theorem Spells.wordsFrom_eq (h : Spells ws cs) : wordsFrom [] [] cs = ws := by
  induction h with
  | @gap cs hg =>
    have hnone := wordsFrom_gap hg []
    rwa [List.append_nil] at hnone
  | @word gap w rest ws hg hw hend tail ih =>
    rw [wordsFrom_gap hg, wordsFrom_word hw.2, List.append_nil,
      wordsFrom_closed (by simpa using hw.1) hend, ih, List.reverse_reverse]

theorem spells_wordsFrom (cs : List Char) : Spells (wordsFrom [] [] cs) cs := by
  obtain ⟨ws, h⟩ := exists_spells cs
  rwa [h.wordsFrom_eq]

/-- Words in lower case. -/
def lowered (ws : List (List Char)) : List String :=
  ws.map fun w => Unicode.toLower (String.ofList w)

theorem Spells.words_eq {text : String} (h : Spells ws text.toList) : words text = lowered ws := by
  rw [words, h.wordsFrom_eq, lowered]

/-- A message that is put together at a gap has the words of its parts. -/
theorem words_append (hc : isWordChar c = false) (m₁ m₂ : String) :
    words (m₁ ++ String.singleton c ++ m₂) = words m₁ ++ words m₂ := by
  have hboth := (spells_wordsFrom m₁.toList).append hc (spells_wordsFrom m₂.toList)
  have htext : (m₁ ++ String.singleton c ++ m₂).toList = m₁.toList ++ c :: m₂.toList := by
    simp
  rw [← htext] at hboth
  rw [hboth.words_eq, lowered, List.map_append]
  rfl

/-! ### Positions of a phrase -/

/-- The words of a phrase stand among other words from a position on. -/
def StandsAt (phrase ws : List String) (i : Nat) : Prop :=
  ∀ (j : Nat) (hj : j < phrase.length), ws[i + j]? = some phrase[j]

section Phrases

variable {phrase : List String}

theorem standsAt_zero {ws : List String} : StandsAt phrase ws 0 ↔ phrase <+: ws := by
  rw [List.prefix_iff_getElem?]
  simp only [StandsAt, Nat.zero_add]

theorem standsAt_succ {w : String} {ws : List String} {i : Nat} :
    StandsAt phrase (w :: ws) (i + 1) ↔ StandsAt phrase ws i := by
  simp only [StandsAt, Nat.succ_add, List.getElem?_cons_succ]

/-- Where a phrase that is not empty stands there is a word. -/
theorem StandsAt.lt {ws : List String} {i : Nat} (h : StandsAt phrase ws i) (hp : phrase ≠ []) :
    i < ws.length := by
  have hfirst := h 0 (List.length_pos_iff.mpr hp)
  exact (List.getElem?_eq_some_iff.mp hfirst).1

theorem finite_standsAt (hp : phrase ≠ []) (ws : List String) :
    {i | StandsAt phrase ws i}.Finite :=
  (Set.finite_lt_nat ws.length).subset fun _ hi => hi.lt hp

/-- Each place that is counted is a position at which the phrase stands. -/
theorem occurrences_eq_ncard (hp : phrase ≠ []) (ws : List String) :
    occurrences phrase ws = {i | StandsAt phrase ws i}.ncard := by
  induction ws with
  | nil =>
    have hnone : {i | StandsAt phrase [] i} = ∅ :=
      Set.eq_empty_of_forall_notMem fun i hi => Nat.not_lt_zero i (StandsAt.lt hi hp)
    rw [hnone, Set.ncard_empty, occurrences]
  | cons w ws ih =>
    -- the positions behind the first word are those among the other words, moved by one
    have hlater : (Nat.succ '' {i | StandsAt phrase ws i}).ncard = occurrences phrase ws := by
      rw [ih, Set.ncard_image_of_injective _ Nat.succ_injective]
    have hmem : ∀ i, StandsAt phrase (w :: ws) i ↔
        i = 0 ∧ phrase <+: w :: ws ∨ i ∈ Nat.succ '' {i | StandsAt phrase ws i} := by
      intro i
      cases i with
      | zero => simp [standsAt_zero]
      | succ i => simp [standsAt_succ]
    rw [occurrences]
    by_cases hfirst : phrase <+: w :: ws
    · have hset : {i | StandsAt phrase (w :: ws) i} =
          insert 0 (Nat.succ '' {i | StandsAt phrase ws i}) := by
        ext i
        simp [hmem, hfirst]
      rw [if_pos (List.isPrefixOf_iff_prefix.mpr hfirst), hset,
        Set.ncard_insert_of_notMem (by simp) ((finite_standsAt hp ws).image _), hlater,
        Nat.add_comm]
    · have hset : {i | StandsAt phrase (w :: ws) i} = Nat.succ '' {i | StandsAt phrase ws i} := by
        ext i
        simp [hmem, hfirst]
      rw [if_neg (by simpa [List.isPrefixOf_iff_prefix] using hfirst), hset, hlater, Nat.zero_add]

/-- A phrase stands in a longer list of words wherever it stands in one of its parts. -/
theorem occurrences_append_le (phrase ws ws' : List String) :
    occurrences phrase ws + occurrences phrase ws' ≤ occurrences phrase (ws ++ ws') := by
  induction ws with
  | nil => rw [occurrences, Nat.zero_add, List.nil_append]
  | cons w ws ih =>
    have hfirst : (if phrase.isPrefixOf (w :: ws) then 1 else 0) ≤
        if phrase.isPrefixOf (w :: ws ++ ws') then 1 else 0 := by
      by_cases h : phrase <+: w :: ws
      · have hlong : phrase <+: w :: ws ++ ws' := h.trans (List.prefix_append ..)
        rw [if_pos (List.isPrefixOf_iff_prefix.mpr hlong)]
        split <;> omega
      · rw [if_neg (by simpa [List.isPrefixOf_iff_prefix] using h)]
        exact Nat.zero_le _
    rw [List.cons_append] at hfirst ⊢
    rw [occurrences, occurrences]
    omega

/-- A phrase of one word stands nowhere else. -/
theorem occurrences_append_eq (hp : phrase.length ≤ 1) (ws ws' : List String) :
    occurrences phrase (ws ++ ws') = occurrences phrase ws + occurrences phrase ws' := by
  induction ws with
  | nil => rw [occurrences, Nat.zero_add, List.nil_append]
  | cons w ws ih =>
    have hfirst : phrase.isPrefixOf (w :: (ws ++ ws')) = phrase.isPrefixOf (w :: ws) := by
      match phrase, hp with
      | [], _ => rfl
      | [p], _ => simp [List.isPrefixOf]
    rw [List.cons_append, occurrences, occurrences, hfirst, ih, Nat.add_assoc]

end Phrases

/-! ### Hits and scores -/

/-- A keyword hits at the positions at which its words stand; without words it hits nothing. -/
theorem hits_eq_ncard (ws : List String) (keyword : String) :
    hits ws keyword = {i | words keyword ≠ [] ∧ StandsAt (words keyword) ws i}.ncard := by
  by_cases hp : words keyword = []
  · simp [hits, hp]
  · have hset : {i | words keyword ≠ [] ∧ StandsAt (words keyword) ws i} =
        {i | StandsAt (words keyword) ws i} := by
      ext i
      simp [hp]
    rw [hset, ← occurrences_eq_ncard hp, hits, if_neg (by simpa using hp)]

theorem hits_append_le (ws ws' : List String) (keyword : String) :
    hits ws keyword + hits ws' keyword ≤ hits (ws ++ ws') keyword := by
  simp only [hits]
  split
  next => exact Nat.le_refl 0
  next => exact occurrences_append_le ..

theorem hits_append_eq {keyword : String} (hk : (words keyword).length ≤ 1)
    (ws ws' : List String) : hits (ws ++ ws') keyword = hits ws keyword + hits ws' keyword := by
  simp only [hits]
  split
  next => rfl
  next => exact occurrences_append_eq hk ..

/-- The score is the number of hits of all keywords. -/
theorem score_eq_sum (message : String) (a : AgentConfig) :
    score message a = (a.keywords.map (hits (words message))).sum := by
  rw [score, List.sum_eq_foldl, List.foldl_map]

/-- What a score counts. The hits of a keyword are the positions at which its words stand among
those of the message, and a text has just one way of being made of words. Put together at a gap,
messages score at least what they score alone, and exactly that if no keyword has several words. -/
theorem score_counts (a : AgentConfig) :
    (∀ text : List Char, ∃! ws, Spells ws text) ∧
    (∀ (message keyword : String) (ws ks : List (List Char)),
      Spells ws message.toList → Spells ks keyword.toList →
      hits (words message) keyword =
        {i | ks ≠ [] ∧ StandsAt (lowered ks) (lowered ws) i}.ncard) ∧
    (∀ message, score message a = (a.keywords.map (hits (words message))).sum) ∧
    ∀ (m₁ m₂ : String) (c : Char),
      Unicode.isAlphanumeric c = false → c ≠ '_' → c ≠ '\'' →
      score m₁ a + score m₂ a ≤ score (m₁ ++ String.singleton c ++ m₂) a ∧
      ((∀ keyword ∈ a.keywords, (words keyword).length ≤ 1) →
        score (m₁ ++ String.singleton c ++ m₂) a = score m₁ a + score m₂ a) := by
  refine ⟨fun text => ?_, ?_, fun message => score_eq_sum message a, ?_⟩
  · exact ⟨wordsFrom [] [] text, spells_wordsFrom text, fun ws h => h.wordsFrom_eq.symm⟩
  · intro message keyword ws ks hws hks
    have hnil : lowered ks ≠ [] ↔ ks ≠ [] := by simp [lowered]
    rw [hits_eq_ncard, hws.words_eq, hks.words_eq]
    simp only [hnil]
  · intro m₁ m₂ c halnum hline hmark
    have hc : isWordChar c = false := by simp [isWordChar, halnum, hline, hmark]
    simp only [score_eq_sum, words_append hc, ← List.sum_map_add]
    constructor
    · exact List.sum_le_sum fun keyword _ => hits_append_le ..
    · intro hk
      exact congrArg List.sum
        (List.map_congr_left fun keyword hmem => hits_append_eq (hk keyword hmem) ..)

/-- The configuration of an agent with a keyword of one word and one without a word. -/
def nightConfig : AgentConfig :=
  { AgentConfig.new "night" with keywords := ["night", "?!"] }

/-- A keyword of two words hits twice, whatever stands between and around its words, and the keyword
of one word hits in both parts of the message. -/
theorem score_counts_night :
    let message := "Good night, BMO! good   night"
    let ws := wordsFrom [] [] message.toList
    let ks := wordsFrom [] [] "good night".toList
    (Spells ws message.toList ∧ Spells ks "good night".toList ∧
      {i | ks ≠ [] ∧ StandsAt (lowered ks) (lowered ws) i}.ncard = 2) ∧
    (Unicode.isAlphanumeric '!' = false ∧
      (∀ keyword ∈ nightConfig.keywords, (words keyword).length ≤ 1) ∧
      score "Good night, BMO" nightConfig + score " good   night" nightConfig = 2 ∧
      score ("Good night, BMO" ++ String.singleton '!' ++ " good   night") nightConfig = 2) := by
  intro message ws ks
  obtain ⟨_, hhits, _, happend⟩ := score_counts nightConfig
  have hws : Spells ws message.toList := spells_wordsFrom _
  have hks : Spells ks "good night".toList := spells_wordsFrom _
  have htwo : hits (words message) "good night" = 2 := by decide +kernel
  have hmark : Unicode.isAlphanumeric '!' = false := by decide +kernel
  have hsingle : ∀ keyword ∈ nightConfig.keywords, (words keyword).length ≤ 1 := by decide +kernel
  have hparts : score "Good night, BMO" nightConfig + score " good   night" nightConfig = 2 := by
    decide +kernel
  have hwhole :=
    (happend "Good night, BMO" " good   night" '!' hmark (by decide) (by decide)).2 hsingle
  exact ⟨⟨hws, hks, (hhits message "good night" ws ks hws hks).symm.trans htwo⟩, hmark, hsingle,
    hparts, hwhole.trans hparts⟩

end HomeAgents.Routing
