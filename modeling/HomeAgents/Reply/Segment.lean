import HomeAgents.Reply.Basic

/-!
# Prose and fenced bodies

A protocol block opens with three backticks, its label, any spaces or tabs and a line break, and it
closes at the next three backticks. A block that is never closed takes the rest of the reply.
-/

namespace HomeAgents.Reply

/-- The mark that closes a block and begins its opener. -/
def fence : List Char := ['\x60', '\x60', '\x60']

/-- What stands behind a given beginning of a text. -/
def behind? : List Char → List Char → Option (List Char)
  | [], cs => some cs
  | _ :: _, [] => none
  | w :: ws, c :: cs => if c = w then behind? ws cs else none

/-- A blank that may stand between the label and the line break. -/
def isLabelBlank (c : Char) : Bool :=
  c = ' ' || c = '\t'

/-- What stands behind a line break. -/
def behindBreak? : List Char → Option (List Char)
  | '\n' :: cs => some cs
  | '\r' :: '\n' :: cs => some cs
  | _ => none

/-- What stands behind an opener of a kind. -/
def behindOpener? (kind : BlockKind) (cs : List Char) : Option (List Char) :=
  match behind? (fence ++ kind.label.toList) cs with
  | some rest => behindBreak? (rest.dropWhile isLabelBlank)
  | none => none

/-- The kind of the opener a text begins with, and what stands behind it. -/
def opener? (cs : List Char) : Option (BlockKind × List Char) :=
  match behindOpener? .command cs with
  | some rest => some (.command, rest)
  | none =>
    match behindOpener? .toolCall cs with
    | some rest => some (.toolCall, rest)
    | none => none

/-- The text before the first opener, its kind, and what stands behind it. -/
def findOpener : List Char → Option (List Char × BlockKind × List Char)
  | [] => none
  | c :: cs =>
    match opener? (c :: cs) with
    | some (kind, rest) => some ([], kind, rest)
    | none =>
      match findOpener cs with
      | some (prose, kind, rest) => some (c :: prose, kind, rest)
      | none => none

/-- The text before the first fence, and what stands behind it. -/
def findFence : List Char → Option (List Char × List Char)
  | [] => none
  | c :: cs =>
    match behind? fence (c :: cs) with
    | some rest => some ([], rest)
    | none =>
      match findFence cs with
      | some (body, rest) => some (c :: body, rest)
      | none => none

/-- A block with the prose before it. -/
structure Passage where
  prose : List Char
  kind : BlockKind
  body : List Char
  closed : Bool
deriving DecidableEq, Repr

/-- A reply cut at its fences: its blocks with the prose before each, and the prose behind the
last. -/
structure Segments where
  passages : List Passage
  tail : List Char
deriving DecidableEq, Repr

theorem length_behind? {ws cs rest : List Char} (h : behind? ws cs = some rest) :
    rest.length + ws.length = cs.length := by
  induction ws generalizing cs with
  | nil => simp_all [behind?]
  | cons w ws ih =>
    cases cs with
    | nil => simp [behind?] at h
    | cons c cs =>
      simp only [behind?] at h
      split at h
      · have := ih h; simp only [List.length_cons]; omega
      · simp at h

theorem length_behindBreak? {cs rest : List Char} (h : behindBreak? cs = some rest) :
    rest.length < cs.length := by
  unfold behindBreak? at h
  split at h
  · simp_all
  · simp only [Option.some.injEq] at h; subst h; simp only [List.length_cons]; omega
  · simp at h

theorem length_dropWhile_le {α : Type} (p : α → Bool) (xs : List α) :
    (xs.dropWhile p).length ≤ xs.length :=
  (List.dropWhile_suffix p).length_le

theorem length_behindOpener? {kind : BlockKind} {cs rest : List Char}
    (h : behindOpener? kind cs = some rest) : rest.length < cs.length := by
  unfold behindOpener? at h
  split at h
  · rename_i r hr
    have h1 := length_behind? hr
    have h2 := length_behindBreak? h
    have h3 := length_dropWhile_le isLabelBlank r
    omega
  · simp at h

theorem length_opener? {cs rest : List Char} {kind : BlockKind}
    (h : opener? cs = some (kind, rest)) : rest.length < cs.length := by
  unfold opener? at h
  split at h
  · rename_i r hr
    have := length_behindOpener? hr
    simp_all
  · split at h
    · rename_i r hr
      have := length_behindOpener? hr
      simp_all
    · simp at h

theorem length_findOpener {cs prose rest : List Char} {kind : BlockKind}
    (h : findOpener cs = some (prose, kind, rest)) : rest.length < cs.length := by
  induction cs generalizing prose kind rest with
  | nil => simp [findOpener] at h
  | cons c cs ih =>
    simp only [findOpener] at h
    split at h
    · rename_i k r hr
      have := length_opener? hr
      simp_all
    · split at h
      · rename_i p k r hr
        have := ih hr
        simp_all only [Option.some.injEq, Prod.mk.injEq, List.length_cons]
        omega
      · simp at h

theorem length_findFence {cs body rest : List Char} (h : findFence cs = some (body, rest)) :
    rest.length < cs.length := by
  induction cs generalizing body rest with
  | nil => simp [findFence] at h
  | cons c cs ih =>
    simp only [findFence] at h
    split at h
    · rename_i r hr
      have := length_behind? hr
      simp only [Option.some.injEq, Prod.mk.injEq] at h
      simp only [fence, List.length_cons, List.length_nil] at this ⊢
      rw [← h.2]
      omega
    · split at h
      · rename_i b r hr
        have := ih hr
        simp_all only [Option.some.injEq, Prod.mk.injEq, List.length_cons]
        omega
      · simp at h

/-- Cuts a reply at its fences, from left to right. -/
def segment (cs : List Char) : Segments :=
  match _opened : findOpener cs with
  | none => ⟨[], cs⟩
  | some (prose, kind, rest) =>
    match _closed : findFence rest with
    | none => ⟨[⟨prose, kind, rest, false⟩], []⟩
    | some (body, rest') =>
      let s := segment rest'
      ⟨⟨prose, kind, body, true⟩ :: s.passages, s.tail⟩
termination_by cs.length
decreasing_by
  have := length_findOpener _opened
  have := length_findFence _closed
  omega

/-- The prose of a reply, all pieces joined. -/
def Segments.prose (s : Segments) : List Char :=
  (s.passages.flatMap (·.prose)) ++ s.tail

end HomeAgents.Reply
