import HomeAgents.Proofs.Json.Quotes
import HomeAgents.Proofs.Json.RoundTrip

/-!
# What printed values look like

The text of a value is one line. Its strings are closed, and a backtick occurs inside strings only.
-/

namespace HomeAgents.Json

/-- Every backtick of a text that begins on a side stands inside a string. -/
def TicksInside : Side → List Char → Prop
  | _, [] => True
  | s, c :: cs => (c = '\x60' → s = .inside) ∧ TicksInside (s.step c) cs

/-- A line that ends on the side where it begins and has its backticks inside strings. -/
structure Keeps (s : Side) (cs : List Char) : Prop where
  ticks : TicksInside s cs
  after : s.after cs = s
  oneLine : '\n' ∉ cs

section Lines

variable {s : Side} {c : Char} {cs cs' : List Char}

theorem TicksInside.append (h : TicksInside s cs) (h' : TicksInside (s.after cs) cs') :
    TicksInside s (cs ++ cs') := by
  induction cs generalizing s with
  | nil => exact h'
  | cons c cs ih => exact ⟨h.1, ih h.2 h'⟩

theorem ticksInside_of_not_mem (h : '\x60' ∉ cs) : TicksInside s cs := by
  induction cs generalizing s with
  | nil => trivial
  | cons c cs ih =>
    obtain ⟨hc, hcs⟩ := not_or.mp (mt List.mem_cons.mpr h)
    exact ⟨fun heq => absurd heq.symm hc, ih hcs⟩

/-- What stands before a backtick leaves a string open. -/
theorem TicksInside.after_eq_inside (h : TicksInside s (cs ++ '\x60' :: cs')) :
    s.after cs = .inside := by
  induction cs generalizing s with
  | nil => exact h.1 rfl
  | cons c cs ih => exact ih h.2

theorem Keeps.nil (s : Side) : Keeps s [] :=
  ⟨trivial, rfl, List.not_mem_nil⟩

theorem Keeps.append (h : Keeps s cs) (h' : Keeps s cs') : Keeps s (cs ++ cs') where
  ticks := h.ticks.append (h.after.symm ▸ h'.ticks)
  after := by rw [Side.after_append, h.after, h'.after]
  oneLine := by
    rw [List.mem_append, not_or]
    exact ⟨h.oneLine, h'.oneLine⟩

theorem Keeps.flatMap {α : Type} {f : α → List Char} {xs : List α} (h : ∀ x ∈ xs, Keeps s (f x)) :
    Keeps s (xs.flatMap f) := by
  induction xs with
  | nil => exact .nil s
  | cons x xs ih =>
    obtain ⟨hx, hxs⟩ := List.forall_mem_cons.mp h
    exact hx.append (ih hxs)

/-- Outside strings a line without quotes and backticks stays there. -/
theorem Keeps.of_plain (hquote : '"' ∉ cs) (htick : '\x60' ∉ cs) (hbreak : '\n' ∉ cs) :
    Keeps .outside cs where
  ticks := ticksInside_of_not_mem htick
  after := Side.after_outside hquote
  oneLine := hbreak

theorem keeps_comma : Keeps .outside [','] :=
  .of_plain (by decide) (by decide) (by decide)

theorem keeps_joinComma {pieces : List (List Char)} (h : ∀ p ∈ pieces, Keeps .outside p) :
    Keeps .outside (joinComma pieces) := by
  cases pieces with
  | nil => exact .nil _
  | cons piece pieces =>
    obtain ⟨hpiece, hpieces⟩ := List.forall_mem_cons.mp h
    rw [joinComma_cons]
    exact hpiece.append (.flatMap fun p hp => keeps_comma.append (hpieces p hp))

theorem keeps_hexDigit : ∀ n < 16, Keeps .inside [hexDigit n] := by
  have hdigit : ∀ n < 16, hexDigit n ≠ '\n' ∧ Side.inside.step (hexDigit n) = .inside := by decide
  intro n hn
  obtain ⟨hbreak, hstep⟩ := hdigit n hn
  exact ⟨⟨fun _ => rfl, trivial⟩, hstep, fun h => hbreak (List.mem_singleton.mp h).symm⟩

/-- An escaped character stays inside its string. -/
theorem keeps_escapeChar (c : Char) : Keeps .inside (escapeChar c) := by
  unfold escapeChar
  split
  case h_8 hquote hbackslash _ _ hbreak _ _ =>
    split
    case isTrue hcontrol =>
      have hlead : Keeps .inside ['\\', 'u', '0', '0'] :=
        ⟨ticksInside_of_not_mem (by decide), rfl, by decide⟩
      have hhigh := keeps_hexDigit (c.toNat / 16) (by omega)
      have hlow := keeps_hexDigit (c.toNat % 16) (by omega)
      exact hlead.append (hhigh.append hlow)
    case isFalse =>
      refine ⟨⟨fun _ => rfl, trivial⟩, Side.step_inside hquote hbackslash, ?_⟩
      exact fun h => hbreak (List.mem_singleton.mp h).symm
  all_goals
    refine ⟨ticksInside_of_not_mem (by decide), rfl, by decide⟩

/-- A printed string is closed. -/
theorem keeps_stringChars (text : String) : Keeps .outside (stringChars text) := by
  obtain ⟨hticks, hafter, hbreak⟩ : Keeps .inside (text.toList.flatMap escapeChar) :=
    .flatMap fun c _ => keeps_escapeChar c
  refine ⟨⟨nofun, hticks.append (ticksInside_of_not_mem (by decide))⟩, ?_, ?_⟩
  · rw [stringChars, Side.after_cons, Side.after_append]
    change (Side.inside.after _).after ['"'] = .outside
    rw [hafter]
    rfl
  · simp [stringChars, hbreak]

end Lines

theorem keeps_numberText {n : Number} (h : n.Whole) : Keeps .outside (numberText n).toList := by
  have hstart := startsNumber_of_mem h
  exact .of_plain (fun hmem => nomatch hstart _ hmem) (fun hmem => nomatch hstart _ hmem)
    (fun hmem => nomatch hstart _ hmem)

/-- The text of a proper value keeps its backticks inside strings and closes its strings. -/
theorem keeps_chars (v : Json) (h : v.Proper) : Keeps .outside v.chars := by
  match v with
  | null => exact .of_plain (by decide) (by decide) (by decide)
  | bool true => exact .of_plain (by decide) (by decide) (by decide)
  | bool false => exact .of_plain (by decide) (by decide) (by decide)
  | number n => exact keeps_numberText h
  | string s => exact keeps_stringChars s
  | array items =>
    have hitems : ∀ p ∈ items.map chars, Keeps .outside p := by
      rintro _ hp
      obtain ⟨v, hv, rfl⟩ := List.mem_map.mp hp
      have hsize := List.sizeOf_lt_of_mem hv
      exact keeps_chars v (ProperItems.of_mem h v hv)
    have hopen : Keeps .outside ['['] := .of_plain (by decide) (by decide) (by decide)
    have hclose : Keeps .outside [']'] := .of_plain (by decide) (by decide) (by decide)
    rw [chars_array]
    exact hopen.append ((keeps_joinComma hitems).append hclose)
  | object members =>
    have hmembers : ∀ p ∈ members.map (memberPiece chars), Keeps .outside p := by
      rintro _ hp
      obtain ⟨m, hm, rfl⟩ := List.mem_map.mp hp
      have hsize := sizeOf_member_lt hm
      have hcolon : Keeps .outside [':'] := .of_plain (by decide) (by decide) (by decide)
      have hvalue := keeps_chars m.2 (h.2.of_mem m hm)
      exact (keeps_stringChars m.1).append (hcolon.append hvalue)
    have hopen : Keeps .outside ['\x7b'] := .of_plain (by decide) (by decide) (by decide)
    have hclose : Keeps .outside ['\x7d'] := .of_plain (by decide) (by decide) (by decide)
    rw [chars_object]
    exact hopen.append ((keeps_joinComma hmembers).append hclose)
termination_by v
decreasing_by
  · rw [array.sizeOf_spec]
    omega
  · rw [object.sizeOf_spec]
    omega

end HomeAgents.Json
