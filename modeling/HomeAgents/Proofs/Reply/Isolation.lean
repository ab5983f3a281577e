import HomeAgents.Proofs.Reply.Display

/-!
# What the body of a block decides

What is in a body decides about its own block only. Another body may be put in its place, as long as
the fence behind it stays the first one: then every other block is read as before, in its old place,
and so is the prose. A body leaves its fence the first one exactly if it has no fence in it and does
not end with a backtick.
-/

namespace HomeAgents.Reply

open Text

/-- A text that can be the body of a closed block. A backtick at its end would begin the fence
early. -/
structure Fits (body : List Char) : Prop where
  unfenced : ¬ fence <:+: body
  ending : body.getLast? ≠ some '\x60'

/-- A block with another body. -/
def Span.withBody (s : Span) (body : List Char) : Span :=
  { s with body := body }

/-- A reply in which one block has another body. -/
def rebodied (spans : List Span) (tail : List Char) (i : Nat) (body : String) : String :=
  String.ofList ((spans.modify i (·.withBody body.toList)).flatMap Span.chars ++ tail)

/-- Two replies read alike but for the block at one place, which is a given one in the second. -/
structure AlikeBut (i : Nat) (block : Block) (first second : HomeAgents.Reply) : Prop where
  text : second.text = first.text
  count : second.blocks.length = first.blocks.length
  others : ∀ j, j ≠ i → second.blocks[j]? = first.blocks[j]?
  own : second.blocks[i]? = some block

variable {cs tail body rest : List Char} {spans : List Span} {span : Span} {i : Nat}

/-- The fence behind a body is the first one exactly if the body fits. -/
theorem free_closes_iff : Free Closes body (fence ++ rest) ↔ Fits body := by
  constructor
  · intro h
    constructor
    · rintro ⟨before, after, rfl⟩
      refine h before (fence ++ after) (List.append_assoc ..) nofun ?_
      rw [List.append_assoc]
      exact closes_fence _
    · intro hlast
      obtain ⟨before, rfl⟩ := List.getLast?_eq_some_iff.mp hlast
      exact h before ['\x60'] rfl nofun ⟨'\x60' :: rest, rfl⟩
  · rintro ⟨hfence, hlast⟩ before after rfl hne hclose
    match after, hne, hclose with
    | [a], _, hclose =>
      -- the backtick would be the last one of the body
      obtain rfl : '\x60' = a := (List.cons_prefix_cons.mp hclose).1
      exact hlast List.getLast?_concat
    | [a, b], _, hclose =>
      obtain rfl : '\x60' = b := (List.cons_prefix_cons.mp (List.cons_prefix_cons.mp hclose).2).1
      exact hlast (by rw [List.getLast?_append]; rfl)
    | a :: b :: c :: after, _, hclose =>
      have hstart : fence <+: a :: b :: c :: after :=
        List.prefix_of_prefix_length_le hclose (List.prefix_append ..) (by simp [fence])
      exact hfence (hstart.isInfix.trans (List.suffix_append before _).isInfix)

/-- A reply in which a closed block has another body is cut as before. -/
theorem Cuts.withBody (h : Cuts cs spans tail) (hspan : spans[i]? = some span)
    (hclosed : span.closed = true) (hbody : Fits body) :
    Cuts ((spans.modify i (·.withBody body)).flatMap Span.chars ++ tail)
      (spans.modify i (·.withBody body)) tail := by
  induction h generalizing i with
  | prose => cases hspan
  | unclosed =>
    cases i with
    | zero =>
      cases hspan
      cases hclosed
    | succ i => cases hspan
  | @closed prose opener old rest tail kind spans hopener hprose hold hrest ih =>
    -- neither the prose nor a body that fits depends on what stands behind the next mark
    have hfirst (behind : List Char) : Free Opens prose (opener ++ behind) :=
      hprose.plain.free_opens hopener
    cases i with
    | zero =>
      have hcuts := Cuts.closed hopener (hfirst _) (free_closes_iff.mpr hbody) hrest
      simpa [Span.withBody, Span.chars, ← hrest.chars_eq] using hcuts
    | succ i =>
      have hkept : Fits old := free_closes_iff.mp hold
      have hcuts := Cuts.closed hopener (hfirst _) (free_closes_iff.mpr hkept) (ih hspan)
      simpa [Span.chars] using hcuts

theorem flatMap_prose_modify (spans : List Span) (i : Nat) (body : List Char) :
    (spans.modify i (·.withBody body)).flatMap Span.prose = spans.flatMap Span.prose := by
  induction spans generalizing i with
  | nil => cases i <;> rfl
  | cons s spans ih =>
    cases i with
    | zero => rfl
    | succ i => rw [List.modify_succ_cons, List.flatMap_cons, ih, List.flatMap_cons]

/-- Every reply is cut into its blocks in one way. Whatever fitting text is put in place of the body
of a closed block, the text and the number of the blocks stay, and so does every other block, with
the place that its error tells. The block itself is what its new body holds. -/
theorem parse_isolates (reply : String) :
    (∃ spans tail, Cuts reply.toList spans tail) ∧
      ∀ spans tail, Cuts reply.toList spans tail → ∀ (i : Nat) (span : Span) (body : String),
        spans[i]? = some span → span.closed = true → Fits body.toList →
        AlikeBut i (decode i span.kind body.toList) (parse reply)
          (parse (rebodied spans tail i body)) := by
  obtain ⟨cut, hcut, -⟩ := segment_cuts reply.toList
  refine ⟨⟨cut, _, hcut⟩, ?_⟩
  intro spans tail hcuts i span body hspan hclosed hbody
  have hother := hcuts.withBody hspan hclosed hbody
  rw [← String.toList_ofList (l := _ ++ tail)] at hother
  rw [rebodied, hother.parse_eq, hcuts.parse_eq]
  have hblock (j : Nat) :
      (((spans.modify i (·.withBody body.toList)).map Span.passage).mapIdx Passage.toBlock)[j]? =
        spans[j]?.map fun s =>
          (if i = j then s.withBody body.toList else s).passage.toBlock j := by
    rw [List.getElem?_mapIdx, List.getElem?_map, List.getElem?_modify]
    cases spans[j]? <;> rfl
  refine ⟨?_, by simp, fun j hj => ?_, ?_⟩
  · rw [flatMap_prose_modify]
  · rw [hblock, List.getElem?_mapIdx, List.getElem?_map]
    cases spans[j]? with
    | none => rfl
    | some s => rw [Option.map_some, if_neg (Ne.symm hj)]; rfl
  · have hkept : (span.withBody body.toList).passage.closed = true := hclosed
    rw [hblock, hspan, Option.map_some, if_pos rfl, Passage.toBlock, if_pos hkept]
    rfl

/-- Two blocks: an empty one, and one that is no JSON text. -/
def halting : List Span :=
  [⟨"Wait".toList, .command, lineOpener .command, [], true⟩,
    ⟨" or ".toList, .toolCall, lineOpener .toolCall, "stop".toList, true⟩]

/-- The empty body gives way to one that looks like the end of an opener. -/
theorem parse_isolates_halting :
    Cuts (rebodied halting ['!'] 0 "").toList halting ['!'] ∧
      Fits "\x60\x60 \x60tool_call\nhere".toList ∧
      AlikeBut 0 (decode 0 .command "\x60\x60 \x60tool_call\nhere".toList)
        (parse (rebodied halting ['!'] 0 ""))
        (parse (rebodied halting ['!'] 0 "\x60\x60 \x60tool_call\nhere")) := by
  have hcuts : Cuts (rebodied halting ['!'] 0 "").toList halting ['!'] := by
    have hfirst : Plain "Wait".toList := by decide
    have hsecond : Plain " or ".toList := by decide
    have hlast : Plain ['!'] := by decide
    have hempty : Fits [] := ⟨by decide, by decide⟩
    have hstop : Fits "stop".toList := ⟨by decide, by decide⟩
    have hrest := Cuts.closed (opener_lineOpener .toolCall)
      (hsecond.free_opens (opener_lineOpener .toolCall)) (free_closes_iff.mpr hstop)
      (.prose hlast.free_opens_nil)
    have hwhole := Cuts.closed (opener_lineOpener .command)
      (hfirst.free_opens (opener_lineOpener .command)) (free_closes_iff.mpr hempty) hrest
    rw [rebodied, String.toList_ofList]
    exact hwhole
  have hfits : Fits "\x60\x60 \x60tool_call\nhere".toList := ⟨by decide +kernel, by decide +kernel⟩
  exact ⟨hcuts, hfits, (parse_isolates _).2 _ _ hcuts 0 _ _ rfl rfl hfits⟩

end HomeAgents.Reply
