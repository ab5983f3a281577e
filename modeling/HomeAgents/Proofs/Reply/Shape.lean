import HomeAgents.Proofs.Collection.Sorted
import HomeAgents.Proofs.Json.Records
import HomeAgents.Proofs.Reply.Ask

/-!
# Which bodies are accepted

A body asks for something if it is an object that gives the name once and the members at most once,
whatever else it has, or an array of the name and possibly the members. Every other body is
malformed. The array is accepted beside the documented object.
-/

namespace HomeAgents.Reply

open Json Text

/-- What the name of a request is called in a body. -/
def nameField : BlockKind → String
  | .command => "action"
  | .toolCall => "tool"

/-- What the members of a request are called in a body. -/
def membersField : BlockKind → String
  | .command => "params"
  | .toolCall => "args"

/-- How deep brackets may nest inside the members, which stand inside two brackets themselves. -/
def innerDepth : Nat := maxDepth - 2

/-- The texts of the values under a name. -/
def valuesOf (name : String) (entries : List (String × List Char)) : List (List Char) :=
  (entries.filter fun e => e.1 = name).map Prod.snd

/-- A JSON object that gives the name exactly once, as a string, and the members at most once, as an
object; without members there are none. -/
def Shaped (kind : BlockKind) (text : List Char) (name : String) (ms : List (String × Json)) :
    Prop :=
  ∃ entries, Braced exact.name Verbatim text entries ∧
    (∃ t, valuesOf (nameField kind) entries = [t] ∧ Quoted t name) ∧
    (valuesOf (membersField kind) entries = [] ∧ ms = [] ∨
      ∃ t, valuesOf (membersField kind) entries = [t] ∧
        Braced exact.name (exact.Spells innerDepth) t ms)

/-- A JSON array of the name, as a string, and possibly the members, as an object. -/
def Positional (text : List Char) (name : String) (ms : List (String × Json)) : Prop :=
  ∃ texts, Bracketed Verbatim text texts ∧ ∃ t more, texts = t :: more ∧ Quoted t name ∧
    (more = [] ∧ ms = [] ∨ ∃ t', more = [t'] ∧ Braced exact.name (exact.Spells innerDepth) t' ms)

/-- The name that a request gives. -/
def Ask.name : Ask → String
  | command c => c.action
  | toolCall c => c.tool

/-- The members that a request gives. -/
def Ask.members : Ask → Members
  | command c => c.params
  | toolCall c => c.args

section Fields

variable {name members key : String} {text : List Char} {limit : Nat} {given out : Request}
  {set : Request → Request} {entries : List (String × List Char)}

/-- What the two fields of a request take, and what they do to it. -/
inductive Stores (name members : String) : String → List Char → (Request → Request) → Prop
  | name {text : List Char} {s : String} (h : Quoted text s) :
      Stores name members name text fun r => { r with name := some s }
  | members {text : List Char} {ms : List (String × Json)}
      (h : Braced exact.name (exact.Spells innerDepth) text ms) :
      Stores name members members text fun r => { r with members := some (Sorted.ofList ms) }

theorem stores_name_iff (hne : name ≠ members) :
    Stores name members name text set ↔
      ∃ s, Quoted text s ∧ set = fun r => { r with name := some s } := by
  constructor
  · intro h
    generalize hkey : name = key at h
    cases h with
    | name h => exact ⟨_, h, rfl⟩
    | members h => exact absurd hkey hne
  · rintro ⟨s, h, rfl⟩
    exact .name h

theorem stores_members_iff (hne : name ≠ members) :
    Stores name members members text set ↔
      ∃ ms, Braced exact.name (exact.Spells innerDepth) text ms ∧
        set = fun r => { r with members := some (Sorted.ofList ms) } := by
  constructor
  · intro h
    generalize hkey : members = key at h
    cases h with
    | name h => exact absurd hkey.symm hne
    | members h => exact ⟨_, h, rfl⟩
  · rintro ⟨ms, h, rfl⟩
    exact .members h

theorem reads_request (title : String) (limit : Nat) (hne : name ≠ members) :
    (requestRecord limit title name members).Reads (Stores name members) limit
      (innerDepth + 1) := by
  constructor
  · intro f hf
    obtain rfl | hf := List.mem_cons.mp hf
    · exact recognises_of (recognises_readText limit _) fun _ _ => stores_name_iff hne
    · obtain rfl := List.mem_singleton.mp hf
      exact recognises_of (recognises_readMap limit innerDepth) fun _ _ => stores_members_iff hne
  · intro f hf text set hset
    cases hset with
    | name h =>
      obtain ⟨word, rfl, hword⟩ := h
      exact (LooseScalar.string hword.loose).wellFormed
    | members h =>
      have hobject : exact.Spells (innerDepth + 1) text (.ofMembers _) := .inr (.inr ⟨_, h, rfl⟩)
      exact wellFormed_of_spells hobject

end Fields

/-! ## Members that complete a request -/

section Members

variable {α : Type} {P : List Char → α → Prop} {before after : Option α} {t : List Char}
  {texts : List (List Char)}

/-- What the texts under a name make of a field that may have been given before: there is at most
one text, and none if it has. -/
inductive Given (P : List Char → α → Prop) : Option α → List (List Char) → Option α → Prop
  | kept {before : Option α} : Given P before [] before
  | set {text : List Char} {v : α} (h : P text v) : Given P none [text] (some v)

theorem given_cons_iff :
    Given P before (t :: texts) after ↔
      before = none ∧ ∃ v, P t v ∧ Given P (some v) texts after := by
  constructor
  · intro h
    cases h with
    | set h => exact ⟨rfl, _, h, .kept⟩
  · rintro ⟨rfl, v, h, hmore⟩
    cases hmore with
    | kept => exact .set h

end Members

section Filling

variable {name members title : String} {limit : Nat} {given out : Request}
  {entries : List (String × List Char)}

theorem valuesOf_cons_self (key : String) (text : List Char) :
    valuesOf key ((key, text) :: entries) = text :: valuesOf key entries := by
  simp [valuesOf]

theorem valuesOf_cons_ne {key other : String} (h : key ≠ other) (text : List Char) :
    valuesOf other ((key, text) :: entries) = valuesOf other entries := by
  simp [valuesOf, h]

/-- What the members of a request are, read from the text of an object. -/
def Kept (text : List Char) (members : Members) : Prop :=
  ∃ ms, Braced exact.name (exact.Spells innerDepth) text ms ∧ members = Sorted.ofList ms

theorem find?_other_iff {key : String} :
    (requestRecord limit title name members).fields.find? (fun f => f.name = key) = none ↔
      key ≠ name ∧ key ≠ members := by
  rw [List.find?_eq_none]
  simp [requestRecord, Field.of, eq_comm]

theorem eq_none_of_isSome {α : Type} {o : Option α} (h : o.isSome = false) : o = none :=
  Option.not_isSome_iff_eq_none.mp (ne_true_of_eq_false h)

theorem fills_request_iff (hne : name ≠ members) :
    Fills (Stores name members) (requestRecord limit title name members).fields given entries out ↔
      out.name.isSome = true ∧ Given Quoted given.name (valuesOf name entries) out.name ∧
        Given Kept given.members (valuesOf members entries) out.members := by
  constructor
  · intro h
    -- a field that is given is kept by the members behind it
    induction h with
    | done h => exact ⟨h _ List.mem_cons_self rfl, .kept, .kept⟩
    | field hfind hnew htext _ ih =>
      obtain ⟨hsome, hname, hmembers⟩ := ih
      cases htext with
      | name htext =>
        rw [find?_name, Option.some.injEq] at hfind
        subst hfind
        rw [valuesOf_cons_self, valuesOf_cons_ne hne, given_cons_iff]
        exact ⟨hsome, ⟨eq_none_of_isSome hnew, _, htext, hname⟩, hmembers⟩
      | members htext =>
        rw [find?_members hne, Option.some.injEq] at hfind
        subst hfind
        rw [valuesOf_cons_self, valuesOf_cons_ne hne.symm, given_cons_iff]
        exact ⟨hsome, hname, eq_none_of_isSome hnew, _, ⟨_, htext, rfl⟩, hmembers⟩
    | other hfind _ ih =>
      obtain ⟨hname, hmembers⟩ := find?_other_iff.mp hfind
      rwa [valuesOf_cons_ne hname, valuesOf_cons_ne hmembers]
  · intro h
    induction entries generalizing given with
    | nil =>
      obtain ⟨hsome, hname, hmembers⟩ := h
      obtain ⟨n, ms⟩ := given
      obtain ⟨n', ms'⟩ := out
      cases hname with
      | kept =>
        cases hmembers with
        | kept =>
          refine .done (List.forall_mem_cons.mpr ⟨fun _ => hsome, ?_⟩)
          simp [Field.of]
    | cons e entries ih =>
      obtain ⟨key, text⟩ := e
      obtain ⟨hsome, hname, hmembers⟩ := h
      by_cases hkey : key = name
      · subst hkey
        rw [valuesOf_cons_self, given_cons_iff] at hname
        rw [valuesOf_cons_ne hne] at hmembers
        obtain ⟨hnew, s, htext, hname⟩ := hname
        exact .field find?_name (by simp [Field.of, hnew]) (.name htext)
          (ih ⟨hsome, hname, hmembers⟩)
      · rw [valuesOf_cons_ne hkey] at hname
        by_cases hkey' : key = members
        · subst hkey'
          rw [valuesOf_cons_self, given_cons_iff] at hmembers
          obtain ⟨hnew, -, ⟨ms, htext, rfl⟩, hmembers⟩ := hmembers
          exact .field (find?_members hne) (by simp [Field.of, hnew]) (.members htext)
            (ih ⟨hsome, hname, hmembers⟩)
        · rw [valuesOf_cons_ne hkey'] at hmembers
          exact .other (find?_other_iff.mpr ⟨hkey, hkey'⟩) (ih ⟨hsome, hname, hmembers⟩)

/-- An array gives the name first and then, possibly, the members. -/
theorem lines_request_iff {texts : List (List Char)} (hne : name ≠ members) :
    Lines (Stores name members) (requestRecord limit title name members).fields {} texts out ↔
      ∃ t more s, texts = t :: more ∧ Quoted t s ∧ out.name = some s ∧
        (more = [] ∧ out.members = none ∨
          ∃ t' ms, more = [t'] ∧ Kept t' ms ∧ out.members = some ms) := by
  constructor
  · intro h
    cases h with
    | done h =>
      have hname := h _ List.mem_cons_self
      cases hname
    | item hname h =>
      obtain ⟨s, hquoted, rfl⟩ := (stores_name_iff hne).mp hname
      refine ⟨_, _, s, rfl, hquoted, ?_⟩
      cases h with
      | done => exact ⟨rfl, .inl ⟨rfl, rfl⟩⟩
      | item hmembers h =>
        obtain ⟨ms, hbraced, rfl⟩ := (stores_members_iff hne).mp hmembers
        cases h with
        | done => exact ⟨rfl, .inr ⟨_, _, rfl, ⟨ms, hbraced, rfl⟩, rfl⟩⟩
  · rintro ⟨t, more, s, rfl, hname, hs, ⟨rfl, hnone⟩ | ⟨t', ms, rfl, ⟨ms, hmembers, rfl⟩, hsome⟩⟩
    · obtain ⟨_, _⟩ := out
      subst hs hnone
      exact .item (.name hname) (.done (by simp [Field.of]))
    · obtain ⟨_, _⟩ := out
      subst hs hsome
      exact .item (.name hname) (.item (.members hmembers) (.done (List.forall_mem_nil _)))

end Filling

/-! ## Bodies -/

section Bodies

variable {kind : BlockKind} {text body : List Char} {limit : Nat} {r : Request} {s : String}
  {ms : List (String × Json)}

theorem nameField_ne (kind : BlockKind) : nameField kind ≠ membersField kind := by
  cases kind <;> decide

theorem blockRecord_eq (limit : Nat) (kind : BlockKind) :
    ∃ title, blockRecord limit kind =
      requestRecord limit title (nameField kind) (membersField kind) := by
  cases kind <;> exact ⟨_, rfl⟩

/-- The texts of a request. -/
def RequestText (limit : Nat) (kind : BlockKind) : List Char → Request → Prop :=
  (blockRecord limit kind).Text (Stores (nameField kind) (membersField kind)) {}

theorem RequestText.shape (h : RequestText limit kind text r) :
    ∃ s ms, r.name = some s ∧ r.members.getD [] = Sorted.ofList ms ∧
      (Shaped kind text s ms ∨ Positional text s ms) := by
  obtain ⟨title, heq⟩ := blockRecord_eq limit kind
  rw [RequestText, heq] at h
  obtain ⟨n, m⟩ := r
  rcases h with ⟨entries, hentries, h⟩ | ⟨texts, htexts, h⟩
  · obtain ⟨hsome, hname, hmembers⟩ := (fills_request_iff (nameField_ne kind)).mp h
    generalize hnames : valuesOf (nameField kind) entries = names at hname
    generalize hvalues : valuesOf (membersField kind) entries = values at hmembers
    cases hname with
    | kept => cases hsome
    | @set t s hs =>
      cases hmembers with
      | kept =>
        exact ⟨s, [], rfl, rfl, .inl ⟨entries, hentries, ⟨t, hnames, hs⟩, .inl ⟨hvalues, rfl⟩⟩⟩
      | @set t' m hm =>
        obtain ⟨ms, hms, rfl⟩ := hm
        exact ⟨s, ms, rfl, rfl,
          .inl ⟨entries, hentries, ⟨t, hnames, hs⟩, .inr ⟨t', hvalues, hms⟩⟩⟩
  · obtain ⟨t, more, s, htexts', hs, hname, hmore⟩ :=
      (lines_request_iff (nameField_ne kind)).mp h
    rcases hmore with ⟨hmore, hmembers⟩ | ⟨t', _, hmore, ⟨ms, hms, rfl⟩, hmembers⟩
    · exact ⟨s, [], hname, by rw [hmembers]; rfl,
        .inr ⟨texts, htexts, t, more, htexts', hs, .inl ⟨hmore, rfl⟩⟩⟩
    · exact ⟨s, ms, hname, by rw [hmembers]; rfl,
        .inr ⟨texts, htexts, t, more, htexts', hs, .inr ⟨t', hmore, hms⟩⟩⟩

theorem requestText_of_shape (limit : Nat)
    (h : Shaped kind text s ms ∨ Positional text s ms) :
    ∃ r, RequestText limit kind text r ∧ r.name = some s ∧
      r.members.getD [] = Sorted.ofList ms := by
  obtain ⟨title, heq⟩ := blockRecord_eq limit kind
  simp only [RequestText, heq]
  rcases h with ⟨entries, hentries, ⟨t, hname, hs⟩, hmembers⟩ |
    ⟨texts, htexts, t, more, rfl, hs, hmore⟩
  · rcases hmembers with ⟨hnone, rfl⟩ | ⟨t', hvalues, hms⟩
    · refine ⟨⟨some s, none⟩, .inl ⟨entries, hentries, ?_⟩, rfl, rfl⟩
      rw [fills_request_iff (nameField_ne kind), hname, hnone]
      exact ⟨rfl, .set hs, .kept⟩
    · refine ⟨⟨some s, some (Sorted.ofList ms)⟩, .inl ⟨entries, hentries, ?_⟩, rfl, rfl⟩
      rw [fills_request_iff (nameField_ne kind), hname, hvalues]
      exact ⟨rfl, .set hs, .set ⟨ms, hms, rfl⟩⟩
  · rcases hmore with ⟨hnone, rfl⟩ | ⟨t', hsome, hms⟩
    · refine ⟨⟨some s, none⟩, .inr ⟨_, htexts, ?_⟩, rfl, rfl⟩
      exact (lines_request_iff (nameField_ne kind)).mpr
        ⟨t, more, s, rfl, hs, rfl, .inl ⟨hnone, rfl⟩⟩
    · refine ⟨⟨some s, some (Sorted.ofList ms)⟩, .inr ⟨_, htexts, ?_⟩, rfl, rfl⟩
      exact (lines_request_iff (nameField_ne kind)).mpr
        ⟨t, more, s, rfl, hs, rfl, .inr ⟨t', _, hsome, ⟨ms, hms, rfl⟩, rfl⟩⟩

theorem isBlank_of_gap {gap : List Char} (h : Gap gap) : ∀ c ∈ gap, isBlank c = true := by
  intro c hc
  have hcases := h c hc
  simp only [isGap, Bool.or_eq_true, decide_eq_true_eq] at hcases
  rcases hcases with ((rfl | rfl) | rfl) | rfl <;> rfl

theorem RequestText.between (h : RequestText limit kind text r) :
    ∃ c middle d, text = c :: (middle ++ [d]) ∧ isBlank c = false ∧ isBlank d = false := by
  rcases h with ⟨entries, ⟨body, rfl, -⟩, -⟩ | ⟨texts, ⟨body, rfl, -⟩, -⟩
  · exact ⟨_, body, _, rfl, rfl, rfl⟩
  · exact ⟨_, body, _, rfl, rfl, rfl⟩

/-- Without blanks around it a body is the text of a request, or nothing is read from it. -/
theorem readRequest_trimmed :
    readRequest kind (trimChars body) = .ok r ↔
      RequestText ((trimChars body).length + 1) kind (trimChars body) r := by
  set text := trimChars body with htext
  have hreads : (blockRecord (text.length + 1) kind).Reads
      (Stores (nameField kind) (membersField kind)) (text.length + 1) (innerDepth + 1) := by
    obtain ⟨title, heq⟩ := blockRecord_eq (text.length + 1) kind
    rw [heq]
    exact reads_request title _ (nameField_ne kind)
  have hrecord : Recognises (text.length + 1)
      ((blockRecord (text.length + 1) kind).read (text.length + 1) {} maxDepth)
      (RequestText (text.length + 1) kind) := recognises_record hreads
  rw [readRequest, readWhole_eq_ok hrecord]
  constructor
  · rintro ⟨gap, inner, gap', hsplit, hgap, hgap', h⟩
    -- what is read begins and ends with a bracket, so a trimmed body has no blanks around it
    obtain ⟨c, middle, d, rfl, hc, hd⟩ := RequestText.between h
    have hinner : trimChars (gap ++ (c :: (middle ++ [d]) ++ gap')) = c :: (middle ++ [d]) :=
      trimChars_between (isBlank_of_gap hgap) hc hd (isBlank_of_gap hgap')
    rw [← hsplit, htext, trimChars_trimChars, ← htext] at hinner
    rwa [← hinner] at h
  · intro h
    exact ⟨[], text, [], (List.append_nil _).symm, .nil, .nil, h⟩

theorem toBlock_eq_iff (a : Ask) :
    r.toBlock kind = a.toBlock ↔
      a.kind = kind ∧ a.name = r.name.getD "" ∧ a.members = r.members.getD [] := by
  cases kind <;> cases a <;> rename_i c <;> obtain ⟨_, _⟩ := c <;>
    simp [Request.toBlock, Ask.toBlock, Ask.kind, Ask.name, Ask.members, eq_comm]

theorem decode_eq_toBlock_iff (index : Nat) (a : Ask) :
    decode index kind body = a.toBlock ↔
      ∃ r, readRequest kind (trimChars body) = .ok r ∧ r.toBlock kind = a.toBlock := by
  have hmalformed (e : BlockError) : Block.malformed e ≠ a.toBlock := by
    cases a <;> exact nofun
  unfold decode
  dsimp only
  split
  case isTrue hempty =>
    refine ⟨fun h => absurd h (hmalformed _), ?_⟩
    rintro ⟨r, hread, -⟩
    obtain ⟨c, middle, d, htext, -⟩ := (readRequest_trimmed.mp hread).between
    rw [htext] at hempty
    cases hempty
  case isFalse =>
    split
    case h_1 r hread =>
      constructor
      · exact fun h => ⟨r, hread, h⟩
      · rintro ⟨r', hread', h⟩
        rw [hread] at hread'
        cases hread'
        exact h
    case h_2 hread =>
      refine ⟨fun h => absurd h (hmalformed _), ?_⟩
      rintro ⟨r, hread', -⟩
      rw [hread] at hread'
      cases hread'

/-- A body is a request exactly if it is an object of the documented shape or an array of the same
values, and it is malformed otherwise. The request has the name that is given and the members of the
object, of two with one name the later. -/
theorem decode_accepts (index : Nat) (kind : BlockKind) (body : List Char) :
    (∀ a : Ask, decode index kind body = a.toBlock ↔ a.kind = kind ∧
      ∃ ms, Sorted.Collects ms a.members ∧
        (Shaped kind (trimChars body) a.name ms ∨ Positional (trimChars body) a.name ms)) ∧
    ((∃ a : Ask, decode index kind body = a.toBlock) ∨
      ∃ reason, decode index kind body =
        .malformed ⟨index, kind, reason, String.ofList body⟩) := by
  refine ⟨fun a => ?_, ?_⟩
  · rw [decode_eq_toBlock_iff]
    constructor
    · rintro ⟨r, hread, hblock⟩
      obtain ⟨hkind, hname, hmembers⟩ := (toBlock_eq_iff a).mp hblock
      obtain ⟨s, ms, hs, hms, hshape⟩ := (readRequest_trimmed.mp hread).shape
      rw [hs, Option.getD_some] at hname
      refine ⟨hkind, ms, Sorted.collects_iff.mpr (hmembers.trans hms), ?_⟩
      rwa [hname]
    · rintro ⟨hkind, ms, hcollects, hshape⟩
      obtain ⟨r, hr, hs, hms⟩ := requestText_of_shape _ hshape
      refine ⟨r, readRequest_trimmed.mpr hr, (toBlock_eq_iff a).mpr ⟨hkind, ?_, ?_⟩⟩
      · rw [hs, Option.getD_some]
      · rw [hms]
        exact Sorted.collects_iff.mp hcollects
  · unfold decode
    dsimp only
    split
    case isTrue => exact .inr ⟨_, rfl⟩
    case isFalse =>
      split
      case h_1 r hread =>
        refine .inl ?_
        cases kind with
        | command => exact ⟨.command _, rfl⟩
        | toolCall => exact ⟨.toolCall _, rfl⟩
      case h_2 => exact .inr ⟨_, rfl⟩

/-- An array that is not the documented object is a command all the same. -/
theorem decode_array :
    decode 0 .command "[\"unlock\"]\n".toList = (Ask.command ⟨"unlock", []⟩).toBlock ∧
      ∀ name ms, ¬ Shaped .command (trimChars "[\"unlock\"]\n".toList) name ms := by
  refine ⟨rfl, ?_⟩
  rintro name ms ⟨entries, ⟨body, htext, -⟩, -⟩
  have htrim : trimChars "[\"unlock\"]\n".toList = "[\"unlock\"]".toList := by decide
  rw [htrim] at htext
  cases htext

end Bodies

end HomeAgents.Reply
