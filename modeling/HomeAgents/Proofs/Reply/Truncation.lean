import HomeAgents.Proofs.Reply.Display

/-!
# Replies that are cut off

A model may stop in the middle of a reply. Whatever is cut off, inside an opener, a body or a fence,
every block that was closed before the cut is there in the whole reply too, the same and in the same
place. So a reply that breaks off asks for nothing that the whole reply does not ask for.
-/

namespace HomeAgents

/-- A block that is reported because its fence is missing. -/
def Block.isUnterminated : Block → Bool
  | .malformed e => e.reason = "unterminated fence"
  | _ => false

namespace Reply

/-- Blocks without the last one, if that is reported because its fence is missing. -/
def dropUnterminated (blocks : List Block) : List Block :=
  if blocks.getLast?.any Block.isUnterminated then blocks.dropLast else blocks

section Blocks

variable {blocks : List Block} {block : Block} {i : Nat}

theorem dropUnterminated_isPrefix (blocks : List Block) : dropUnterminated blocks <+: blocks := by
  rw [dropUnterminated]
  split
  · exact List.dropLast_prefix blocks
  · exact List.prefix_rfl

theorem dropUnterminated_append (h : block.isUnterminated = true) (blocks : List Block) :
    dropUnterminated (blocks ++ [block]) = blocks := by
  rw [dropUnterminated, List.getLast?_concat, Option.any_some, if_pos h, List.dropLast_concat]

/-- A block that has its fence is not dropped. -/
theorem getElem?_dropUnterminated (h : blocks[i]? = some block)
    (hblock : block.isUnterminated = false) : (dropUnterminated blocks)[i]? = some block := by
  rw [dropUnterminated]
  split
  case isTrue hlast =>
    have hi : i ≠ blocks.length - 1 := by
      rintro rfl
      rw [List.getLast?_eq_getElem?, h, Option.any_some, hblock] at hlast
      cases hlast
    have hlength : i < blocks.length := (List.getElem?_eq_some_iff.mp h).1
    rw [List.getElem?_dropLast, if_pos (by omega), h]
  case isFalse => exact h

end Blocks

/-- Where a text is cut its closed blocks are the first ones of any text that begins with it. -/
theorem Cuts.append {cs tail : List Char} {spans : List Span} (h : Cuts cs spans tail)
    (more : List Char) :
    ∃ front later tail', Cuts (cs ++ more) (front ++ later) tail' ∧
      (spans = front ∨ ∃ last, spans = front ++ [last] ∧ last.closed = false) := by
  -- the first opener and the first fence behind it are the same ones in the longer text
  induction h with
  | @prose cs hprose =>
    obtain ⟨later, hcuts, -⟩ := segment_cuts (cs ++ more)
    exact ⟨[], later, _, hcuts, .inl rfl⟩
  | @unclosed prose opener body kind hopener hprose hbody =>
    obtain ⟨later, hcuts, -⟩ := segment_cuts (prose ++ (opener ++ body) ++ more)
    exact ⟨[], later, _, hcuts, .inr ⟨_, rfl, rfl⟩⟩
  | @closed prose opener body rest tail kind spans hopener hprose hbody hrest ih =>
    obtain ⟨front, later, tail', hcuts, hspans⟩ := ih
    have hfirst : Free Opens prose (opener ++ (body ++ (fence ++ (rest ++ more)))) :=
      hprose.plain.free_opens hopener
    have hwhole := Cuts.closed hopener hfirst hbody.closes_append hcuts
    refine ⟨⟨prose, kind, opener, body, true⟩ :: front, later, tail', ?_, ?_⟩
    · simpa only [List.append_assoc, List.cons_append] using hwhole
    · rcases hspans with rfl | ⟨last, rfl, hlast⟩
      · exact .inl rfl
      · exact .inr ⟨last, rfl, hlast⟩

/-- The blocks of a reply that is cut off, without a last one whose fence is missing, are the first
blocks of the whole reply; so every block that is not reported for a missing fence is in the whole
reply too, at the same place. -/
theorem parse_cut (cut rest : String) :
    dropUnterminated (parse cut).blocks <+: (parse (cut ++ rest)).blocks ∧
      ∀ (i : Nat) (block : Block), (parse cut).blocks[i]? = some block →
        block.isUnterminated = false → (parse (cut ++ rest)).blocks[i]? = some block := by
  obtain ⟨spans, hcuts, -⟩ := segment_cuts cut.toList
  obtain ⟨front, later, tail', hwhole, hspans⟩ := hcuts.append rest.toList
  rw [← String.toList_append] at hwhole
  have hfront : (front.map Span.passage).mapIdx Passage.toBlock <+:
      (parse (cut ++ rest)).blocks := by
    rw [hwhole.parse_eq, List.map_append, List.mapIdx_append]
    exact List.prefix_append ..
  have hblocks : dropUnterminated (parse cut).blocks <+: (parse (cut ++ rest)).blocks := by
    rw [hcuts.parse_eq]
    rcases hspans with rfl | ⟨last, rfl, hlast⟩
    · exact (dropUnterminated_isPrefix _).trans hfront
    · have hreported (index : Nat) : (last.passage.toBlock index).isUnterminated = true := by
        rw [Passage.toBlock, if_neg (by rw [Span.passage, hlast]; exact Bool.false_ne_true)]
        rfl
      rw [List.map_append, List.map_singleton, List.mapIdx_append, List.mapIdx_singleton,
        dropUnterminated_append (hreported _)]
      exact hfront
  refine ⟨hblocks, fun i block hblock hfence => ?_⟩
  have hkept := getElem?_dropUnterminated hblock hfence
  obtain ⟨hi, -⟩ := List.getElem?_eq_some_iff.mp hkept
  obtain ⟨others, hothers⟩ := hblocks
  rw [← hothers, List.getElem?_append_left hi, hkept]

end Reply

end HomeAgents
