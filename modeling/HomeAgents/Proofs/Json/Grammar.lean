import HomeAgents.Proofs.Json.Spelling
import HomeAgents.Proofs.Json.Numeral

/-!
# The grammar of JSON text

What JSON text looks like, without a reader. The grammar has two dialects. In the exact one a text
stands for a value: its strings are characters and its numbers have a double. In the loose one a
text is only well-formed. Whatever stands for a value is well-formed.
-/

namespace HomeAgents.Json

variable {α β ν μ : Type}

/-- Blanks between tokens. -/
def Gap (cs : List Char) : Prop :=
  ∀ c ∈ cs, isGap c = true

/-- What stands before an item: blanks, and before any but the first one a comma among them. -/
inductive Lead : Bool → List Char → Prop
  | first {gap : List Char} (hgap : Gap gap) : Lead true gap
  | later {gap gap' : List Char} (hgap : Gap gap) (hgap' : Gap gap') :
      Lead false (gap ++ ',' :: gap')

/-- Items between brackets. -/
inductive Listed (P : List Char → α → Prop) : Bool → List Char → List α → Prop
  | done {first : Bool} {gap : List Char} (hgap : Gap gap) : Listed P first gap []
  | item {first : Bool} {lead text more : List Char} {v : α} {vs : List α}
      (hlead : Lead first lead) (hitem : P text v) (rest : Listed P false more vs) :
      Listed P first (lead ++ (text ++ more)) (v :: vs)

/-- A member of an object: its name between quotes, a colon and its value. -/
inductive Member (N : List Char → ν → Prop) (P : List Char → α → Prop) :
    List Char → ν × α → Prop
  | mk {word gap gap' text : List Char} {name : ν} {v : α} (hname : N word name) (hgap : Gap gap)
      (hgap' : Gap gap') (hvalue : P text v) :
      Member N P ('"' :: (word ++ '"' :: (gap ++ ':' :: (gap' ++ text)))) (name, v)

/-- Some items between the brackets of an array. -/
def Bracketed (P : List Char → α → Prop) (text : List Char) (vs : List α) : Prop :=
  ∃ body, text = '[' :: (body ++ [']']) ∧ Listed P true body vs

/-- Some members between the brackets of an object. -/
def Braced (N : List Char → ν → Prop) (P : List Char → α → Prop) (text : List Char)
    (ms : List (ν × α)) : Prop :=
  ∃ body, text = '\x7b' :: (body ++ ['\x7d']) ∧ Listed (Member N P) true body ms

/-- A string between its quotes. -/
def Quoted (text : List Char) (s : String) : Prop :=
  ∃ word, text = '"' :: (word ++ ['"']) ∧ Spelled word s.toList

/-- How values without brackets and names are written, and what arrays and objects stand for. -/
structure Dialect (α ν : Type) where
  scalar : List Char → α → Prop
  name : List Char → ν → Prop
  array : List α → α
  object : List (ν × α) → α

/-- A text stands for a value whose brackets nest at most so deep. -/
def Dialect.Spells (d : Dialect α ν) : Nat → List Char → α → Prop
  | 0, text, v => d.scalar text v
  | depth + 1, text, v =>
    d.scalar text v ∨ (∃ vs, Bracketed (d.Spells depth) text vs ∧ v = d.array vs) ∨
      ∃ ms, Braced d.name (d.Spells depth) text ms ∧ v = d.object ms

/-- A value without brackets. -/
inductive Scalar : List Char → Json → Prop
  | null : Scalar ['n', 'u', 'l', 'l'] .null
  | true : Scalar ['t', 'r', 'u', 'e'] (.bool true)
  | false : Scalar ['f', 'a', 'l', 's', 'e'] (.bool false)
  | string {word : List Char} {s : String} (h : Spelled word s.toList) :
      Scalar ('"' :: (word ++ ['"'])) (.string s)
  | number {n : Numeral} {v : Number} (h : n.value? = some v) : Scalar n.chars (.number v)

/-- What has the form of a value without brackets. -/
inductive LooseScalar : List Char → Prop
  | null : LooseScalar ['n', 'u', 'l', 'l']
  | true : LooseScalar ['t', 'r', 'u', 'e']
  | false : LooseScalar ['f', 'a', 'l', 's', 'e']
  | string {word : List Char} (h : Loose word) : LooseScalar ('"' :: (word ++ ['"']))
  | number (n : Numeral) : LooseScalar n.chars

/-- The dialect of the values that are read. Of two members with one name the later counts. -/
def exact : Dialect Json String where
  scalar := Scalar
  name word name := Spelled word name.toList
  array := .array
  object := .ofMembers

/-- The dialect of the values that are passed over. -/
def loose : Dialect Unit Unit where
  scalar text _ := LooseScalar text
  name word _ := Loose word
  array _ := ()
  object _ := ()

/-- A well-formed value, however deep its brackets nest. -/
def WellFormed (text : List Char) : Prop :=
  ∃ depth, loose.Spells depth text ()

section Lists

variable {P : List Char → α → Prop} {Q : List Char → β → Prop} {N : List Char → ν → Prop}
  {M : List Char → μ → Prop} {first : Bool} {body text : List Char} {vs : List α} {f : α → β}
  {g : ν → μ}

theorem Gap.nil : Gap [] := nofun

theorem Gap.append {gap gap' : List Char} (h : Gap gap) (h' : Gap gap') : Gap (gap ++ gap') := by
  intro c hc
  exact (List.mem_append.mp hc).elim (h c) (h' c)

theorem Lead.append {lead gap : List Char} (h : Lead first lead) (hgap : Gap gap) :
    Lead first (lead ++ gap) := by
  cases h with
  | first h => exact .first (h.append hgap)
  | later h h' =>
    rw [List.append_assoc, List.cons_append]
    exact .later h (h'.append hgap)

/-- What the items stand for may be looked at in another way. -/
theorem Listed.map (h : Listed P first body vs) (hP : ∀ text v, P text v → Q text (f v)) :
    Listed Q first body (vs.map f) := by
  induction h with
  | done hgap => exact .done hgap
  | item hlead hitem rest ih => exact .item hlead (hP _ _ hitem) ih

theorem Listed.imp {P' : List Char → α → Prop} (h : Listed P first body vs)
    (hP : ∀ text v, P text v → P' text v) : Listed P' first body vs := by
  simpa using h.map (f := id) hP

theorem Member.map {m : ν × α} (h : Member N P text m) (hN : ∀ word n, N word n → M word (g n))
    (hP : ∀ text v, P text v → Q text (f v)) : Member M Q text (g m.1, f m.2) := by
  cases h with
  | mk hname hgap hgap' hvalue => exact .mk (hN _ _ hname) hgap hgap' (hP _ _ hvalue)

theorem Bracketed.map (h : Bracketed P text vs) (hP : ∀ text v, P text v → Q text (f v)) :
    Bracketed Q text (vs.map f) := by
  obtain ⟨body, htext, hlisted⟩ := h
  exact ⟨body, htext, hlisted.map hP⟩

theorem Braced.map {ms : List (ν × α)} (h : Braced N P text ms)
    (hN : ∀ word n, N word n → M word (g n)) (hP : ∀ text v, P text v → Q text (f v)) :
    Braced M Q text (ms.map fun m => (g m.1, f m.2)) := by
  obtain ⟨body, htext, hlisted⟩ := h
  exact ⟨body, htext, hlisted.map fun _ _ hm => hm.map hN hP⟩

end Lists

section Dialects

variable {d : Dialect α ν} {d' : Dialect β μ} {f : α → β} {g : ν → μ} {depth : Nat}
  {text : List Char} {v : α}

/-- One dialect translates into another one if its tokens do. -/
theorem Dialect.Spells.map (hscalar : ∀ text v, d.scalar text v → d'.scalar text (f v))
    (hname : ∀ word n, d.name word n → d'.name word (g n))
    (harray : ∀ vs, f (d.array vs) = d'.array (vs.map f))
    (hobject : ∀ ms, f (d.object ms) = d'.object (ms.map fun m => (g m.1, f m.2)))
    (h : d.Spells depth text v) : d'.Spells depth text (f v) := by
  induction depth generalizing text v with
  | zero => exact hscalar text v h
  | succ depth ih =>
    rcases h with h | ⟨vs, hvs, rfl⟩ | ⟨ms, hms, rfl⟩
    · exact .inl (hscalar text v h)
    · exact .inr (.inl ⟨_, hvs.map fun _ _ => ih, harray vs⟩)
    · exact .inr (.inr ⟨_, hms.map hname fun _ _ => ih, hobject ms⟩)

theorem Dialect.Spells.deeper (h : d.Spells depth text v) (more : Nat) :
    d.Spells (depth + more) text v := by
  induction depth generalizing text v with
  | zero =>
    cases more with
    | zero => exact h
    | succ more => exact .inl h
  | succ depth ih =>
    rw [Nat.succ_add]
    rcases h with h | ⟨vs, hvs, rfl⟩ | ⟨ms, hms, rfl⟩
    · exact .inl h
    · have hdeep := hvs.map (f := id) fun _ _ => ih
      rw [List.map_id] at hdeep
      exact .inr (.inl ⟨vs, hdeep, rfl⟩)
    · have hdeep := hms.map (g := id) (f := id) (fun _ _ => id) fun _ _ => ih
      simp only [id, List.map_id_fun'] at hdeep
      exact .inr (.inr ⟨ms, hdeep, rfl⟩)

/-- What stands for a value without brackets has the form of one. -/
theorem Scalar.loose {v : Json} (h : Scalar text v) : LooseScalar text := by
  cases h with
  | null => exact .null
  | true => exact .true
  | false => exact .false
  | string h => exact .string h.loose
  | number h => exact .number _

/-- What stands for a value is well-formed. -/
theorem wellFormed_of_spells {v : Json} (h : exact.Spells depth text v) : WellFormed text := by
  have hscalar (text : List Char) (v : Json) (h : exact.scalar text v) : loose.scalar text () :=
    Scalar.loose h
  have hname (word : List Char) (name : String) (h : exact.name word name) : loose.name word () :=
    Spelled.loose h
  exact ⟨depth, h.map (f := fun _ => ()) (g := fun _ => ()) hscalar hname (fun _ => rfl)
    fun _ => rfl⟩

end Dialects

end HomeAgents.Json
