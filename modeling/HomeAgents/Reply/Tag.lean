import HomeAgents.Reply.Segment
import HomeAgents.Text.Blank

/-!
# Presentation tags

Prose may carry tags such as `[FACE:happy]` for whatever renders it. The value of a tag is not
empty and has neither blanks nor a closing bracket. Tags do not overlap; they are taken from left
to right.
-/

namespace HomeAgents

/-- What a tag controls. -/
inductive TagKind where
  | face
  | led
  | sound
  | emotion
deriving DecidableEq, Repr, Inhabited

def TagKind.label : TagKind → String
  | face => "FACE"
  | led => "LED"
  | sound => "SOUND"
  | emotion => "EMOTION"

def TagKind.all : List TagKind := [face, led, sound, emotion]

/-- A presentation tag. -/
structure Tag where
  kind : TagKind
  value : String
deriving DecidableEq, Repr, Inhabited

namespace Tag

open Text

def isValueChar (c : Char) : Bool :=
  c != ']' && !isBlank c

/-- The value of a tag of a kind at the beginning of a text, and what stands behind the tag. -/
def ofKind? (kind : TagKind) (cs : List Char) : Option (Tag × List Char) :=
  match Reply.behind? ('[' :: kind.label.toList ++ [':']) cs with
  | none => none
  | some rest =>
    match rest.takeWhile isValueChar, rest.dropWhile isValueChar with
    | v :: vs, ']' :: after => some (⟨kind, String.ofList (v :: vs)⟩, after)
    | _, _ => none

/-- The tag at the beginning of a text, and what stands behind it. -/
def at? (cs : List Char) : Option (Tag × List Char) :=
  if cs.head? = some '[' then TagKind.all.findSome? fun kind => ofKind? kind cs else none

theorem length_ofKind? {kind : TagKind} {cs after : List Char} {tag : Tag}
    (h : ofKind? kind cs = some (tag, after)) : after.length < cs.length := by
  unfold ofKind? at h
  split at h
  · simp at h
  · rename_i rest hr
    have h1 := Reply.length_behind? hr
    have h2 := Reply.length_dropWhile_le isValueChar rest
    split at h
    · rename_i v vs a hv ha
      rw [ha] at h2
      simp only [Option.some.injEq, Prod.mk.injEq] at h
      rw [← h.2]
      simp only [List.length_cons] at h2
      omega
    · simp at h

theorem length_at? {cs after : List Char} {tag : Tag} (h : at? cs = some (tag, after)) :
    after.length < cs.length := by
  unfold at? at h
  split at h
  · obtain ⟨kind, _, hk⟩ := List.exists_of_findSome?_eq_some h
    exact length_ofKind? hk
  · simp at h

/-- The tags of a text, from left to right. -/
def scan (cs : List Char) : List Tag :=
  match _found : at? cs with
  | some (tag, after) => tag :: scan after
  | none =>
    match cs with
    | [] => []
    | _ :: rest => scan rest
termination_by cs.length
decreasing_by
  · exact length_at? _found
  · simp

def ofText (s : String) : List Tag :=
  scan s.toList

end Tag

end HomeAgents
