import HomeAgents.Proofs.House.Sandbox
import HomeAgents.Proofs.Text.Digits
import HomeAgents.Proofs.Text.Lines
import Mathlib.Algebra.Order.Ring.Int

/-!
# Pages of a file

A file can be read page by page. Pages that follow one another are put together to the page of their
lines, with the same numbers, so nothing between them is lost or shown twice, and behind the end of
the file a page is empty.
-/

namespace HomeAgents.House

open Files Json Text

variable {tree : Node} {root path content : String} {ctx : ToolContext} {l : List Char}
  {ls : List (List Char)} {offset limit n : Nat}

section Lines

/-- A line as it is shown: its number, right-aligned in six places, a tab and at most 2000
characters. -/
def shownLine (n : Nat) (l : List Char) : List Char :=
  List.replicate (6 - (Nat.toDigits 10 n).length) ' ' ++ Nat.toDigits 10 n ++ '\t' :: l.take 2000

theorem toList_numberedLine (n : Nat) (l : List Char) :
    (numberedLine n l).toList = shownLine n l := by
  have htab : "\t".toList = ['\t'] := rfl
  rw [numberedLine, rightAligned, String.toList_append, String.toList_append, String.toList_append,
    toList_pushn, Nat.toString_eq_repr, ← String.length_toList, Nat.toList_repr, htab,
    String.toList_ofList, List.append_assoc]
  rfl

theorem numberedLine_ne_empty (n : Nat) (l : List Char) : numberedLine n l ≠ "" := by
  intro h
  have hchars := toList_numberedLine n l
  simp [h, shownLine] at hchars

theorem newline_not_mem_numberedLine (h : '\n' ∉ l) (n : Nat) :
    '\n' ∉ (numberedLine n l).toList := by
  rw [toList_numberedLine, shownLine]
  have hdigits : '\n' ∉ Nat.toDigits 10 n := fun hmem =>
    absurd (Nat.isDigit_of_mem_toDigits (by decide) (by decide) hmem) (by decide)
  have htaken : '\n' ∉ l.take 2000 := fun hmem => h (List.mem_of_mem_take hmem)
  simp [hdigits, htaken]

theorem getElem?_numberLines (n : Nat) (ls : List (List Char)) (i : Nat) :
    (numberLines n ls)[i]? = ls[i]?.map (numberedLine (n + i)) := by
  induction ls generalizing n i with
  | nil => rfl
  | cons l ls ih =>
    cases i with
    | zero => rfl
    | succ i =>
      rw [numberLines, List.getElem?_cons_succ, List.getElem?_cons_succ, ih, Nat.add_right_comm,
        Nat.add_assoc]

theorem numberLines_append (n : Nat) (ls ls' : List (List Char)) :
    numberLines n (ls ++ ls') = numberLines n ls ++ numberLines (n + ls.length) ls' := by
  induction ls generalizing n with
  | nil => rfl
  | cons l ls ih =>
    rw [List.cons_append, numberLines, numberLines, ih, List.length_cons, List.cons_append,
      Nat.add_right_comm, Nat.add_assoc]

theorem exists_of_mem_numberLines {line : String} (h : line ∈ numberLines n ls) :
    ∃ m, ∃ l ∈ ls, line = numberedLine m l := by
  obtain ⟨i, hi⟩ := List.mem_iff_getElem?.mp h
  rw [getElem?_numberLines, Option.map_eq_some_iff] at hi
  obtain ⟨l, hl, rfl⟩ := hi
  exact ⟨_, l, List.mem_of_getElem? hl, rfl⟩

end Lines

section Page

/-- Two pages, one right behind the other, are one page. -/
theorem page_add (content : String) (h : 1 ≤ offset) (a b : Nat) :
    page content offset (a + b) = page content offset a ++ page content (offset + a) b := by
  have hskipped : offset + a - 1 = offset - 1 + a := by omega
  simp only [page, hskipped, ← List.drop_drop]
  generalize (lineChars content.toList).drop (offset - 1) = rest
  rw [List.take_add, numberLines_append]
  by_cases hfull : a ≤ rest.length
  · rw [List.length_take_of_le hfull, Nat.add_right_comm]
  · -- the first page has reached the end of the file
    have hnone : rest.drop a = [] := List.drop_eq_nil_of_le (by omega)
    rw [hnone, List.take_nil]
    rfl

theorem getElem?_page (content : String) (h : 1 ≤ offset) (limit i : Nat) :
    (page content offset limit)[i]? =
      if i < limit then
        (lineChars content.toList)[offset - 1 + i]?.map (numberedLine (offset + i))
      else none := by
  have hnumber : offset - 1 + 1 = offset := by omega
  rw [page, getElem?_numberLines, List.getElem?_take, hnumber]
  split
  next => rw [List.getElem?_drop]
  next => rfl

theorem page_zero (content : String) (limit : Nat) : page content 0 limit = page content 1 limit :=
  rfl

theorem page_eq_nil (h : (lineChars content.toList).length < offset) :
    page content offset limit = [] := by
  have hnone : (lineChars content.toList).drop (offset - 1) = [] :=
    List.drop_eq_nil_of_le (by omega)
  simp only [page, hnone, List.take_nil]
  rfl

/-- The lines of an output. -/
def shownLines (output : String) : List String :=
  if output = "" then [] else (output.toList.splitOn '\n').map String.ofList

/-- Texts that are put together as lines are the lines of the whole. -/
theorem shownLines_intercalate {parts : List String}
    (h : ∀ p ∈ parts, p ≠ "" ∧ '\n' ∉ p.toList) : shownLines ("\n".intercalate parts) = parts := by
  by_cases hparts : parts = []
  · rw [hparts]
    rfl
  · have hchars : ∀ cs ∈ parts.map String.toList, '\n' ∉ cs := by
      intro cs hcs
      obtain ⟨p, hp, rfl⟩ := List.mem_map.mp hcs
      exact (h p hp).2
    have hsplit : ("\n".intercalate parts).toList.splitOn '\n' = parts.map String.toList := by
      rw [String.toList_intercalate]
      exact List.splitOn_intercalate '\n' hchars (by simpa using hparts)
    have hsome : "\n".intercalate parts ≠ "" := by
      intro hempty
      rw [hempty] at hsplit
      have hmem : [] ∈ parts.map String.toList := hsplit ▸ List.mem_singleton_self _
      obtain ⟨p, hp, hnil⟩ := List.mem_map.mp hmem
      exact (h p hp).1 (String.toList_eq_nil_iff.mp hnil)
    rw [shownLines, if_neg hsome, hsplit, List.map_map]
    simp [Function.comp_def]

theorem shownLines_page (content : String) (offset limit : Nat) :
    shownLines ("\n".intercalate (page content offset limit)) = page content offset limit := by
  refine shownLines_intercalate fun line hline => ?_
  obtain ⟨m, l, hl, rfl⟩ := exists_of_mem_numberLines hline
  have hmem : l ∈ lineChars content.toList := List.mem_of_mem_drop (List.mem_of_mem_take hl)
  exact ⟨numberedLine_ne_empty m l,
    newline_not_mem_numberedLine ((hasLines_lineChars content.toList).not_mem l hmem) m⟩

end Page

section Arguments

variable {σ α : Type} {fields : List (Argument σ)} {f : Argument σ} {name : String} {v : Json}
  {rest : List (String × Json)} {s s' : σ}

/-- A member with the name of an open field is taken for this field. -/
theorem takeMembers_cons
    (hfind : (fields.find? fun f => f.name = name || f.aliases.contains name) = some f)
    (hopen : f.given s = false) (hset : f.set v s = .ok s') :
    takeMembers fields ((name, v) :: rest) s = takeMembers fields rest s' := by
  simp only [takeMembers, hfind, hopen, hset, Bool.false_eq_true, if_false]

theorem argument_set {aliases : List String} {required : Bool} {given : σ → Bool}
    {value : Json → Except Mismatch α} {store : α → σ → σ} {x : α} (h : value v = .ok x) :
    (Argument.of name aliases required given value store).set v s = .ok (store x s) :=
  congrArg (Except.map fun x => store x s) h

end Arguments

section Read

/-- A path leads to a file in the root that the reading tool takes for a text, and it is not
empty. -/
def TextAt (tree : Node) (root path content : String) : Prop :=
  ∃ place bytes, resolveInRoot tree root path = .ok place ∧
    tree.at? place = some (.file bytes) ∧ looksBinary bytes = false ∧
    String.fromUTF8? bytes = some content ∧ content ≠ ""

/-- The arguments that ask for a page of a file. -/
def pageArguments (path : String) (offset limit : Nat) : Json :=
  .object [("limit", .ofNat limit), ("offset", .ofNat offset), ("path", .string path)]

theorem toOption_toSize (h : n < 2 ^ 64) : toOption toSize (.ofNat n) = .ok (some n) := by
  have hfits : (0 : Int) ≤ n ∧ (n : Int) < Nat.pow 2 64 := ⟨by omega, Int.ofNat_lt.mpr h⟩
  simp only [toOption, Json.ofNat, toSize, if_pos hfits]
  rfl

theorem takeArguments_pageArguments (path : String) (hoffset : offset < 2 ^ 64)
    (hlimit : limit < 2 ^ 64) :
    takeArguments readArguments {} (pageArguments path offset limit) =
      .ok ⟨some path, some (some offset), some (some limit)⟩ := by
  have hpath : toText (.string path) = .ok path := rfl
  -- one argument after the other by its law: evaluating would unfold the bound on an open number
  rw [pageArguments, takeArguments,
    takeMembers_cons (f := readArguments[2]) rfl rfl (argument_set (toOption_toSize hlimit)),
    takeMembers_cons (f := readArguments[1]) rfl rfl (argument_set (toOption_toSize hoffset)),
    takeMembers_cons (f := readArguments[0]) rfl rfl (argument_set hpath)]
  rfl

/-- Asks the reading tool for a page. -/
def askPage (tree : Node) (root path : String) (ctx : ToolContext) (offset limit : Nat) :
    ToolResult :=
  executeRead tree root (pageArguments path offset limit) ctx

theorem askPage_eq (h : TextAt tree root path content) (hlive : ctx.cancelled = false)
    (hoffset : offset < 2 ^ 64) (hlimit : limit < 2 ^ 64) :
    askPage tree root path ctx offset limit =
      .success ("\n".intercalate (page content offset limit)) := by
  obtain ⟨place, bytes, hplace, hbytes, htext, hcontent, hsome⟩ := h
  refine executeRead_eq_success_iff.mpr
    ⟨_, takeArguments_pageArguments path hoffset hlimit, hlive, ?_⟩
  refine readAsked_eq_ok_iff.mpr ⟨place, bytes, content, hplace, hbytes, htext, hcontent, ?_⟩
  have hfull : ¬ content.isEmpty = true := by simpa using hsome
  rw [shownText, if_neg hfull]
  rfl

theorem shownLines_askPage (h : TextAt tree root path content) (hlive : ctx.cancelled = false)
    (hoffset : offset < 2 ^ 64) (hlimit : limit < 2 ^ 64) :
    shownLines (askPage tree root path ctx offset limit).output = page content offset limit := by
  have houtput (output : String) : (ToolResult.success output).output = output := rfl
  rw [askPage_eq h hlive hoffset hlimit, houtput, shownLines_page]

/-- How a file is read by offset and limit, both of 64 bits. Every page is given out. Two pages, one
right behind the other, are one page; the lines of a page have their numbers in the file; to begin
with line zero is to begin with the first; and behind the last line there is nothing. -/
structure ReadInPages (ls : List (List Char)) (read : Nat → Nat → ToolResult) : Prop where
  succeeds : ∀ offset limit, offset < 2 ^ 64 → limit < 2 ^ 64 → (read offset limit).isError = false
  joins : ∀ offset a b, 1 ≤ offset → offset + a < 2 ^ 64 → a + b < 2 ^ 64 →
    shownLines (read offset (a + b)).output =
      shownLines (read offset a).output ++ shownLines (read (offset + a) b).output
  numbers : ∀ offset limit i, 1 ≤ offset → offset < 2 ^ 64 → limit < 2 ^ 64 →
    (shownLines (read offset limit).output)[i]? =
      if i < limit then
        ls[offset - 1 + i]?.map fun l => String.ofList (shownLine (offset + i) l)
      else none
  starts : ∀ limit, limit < 2 ^ 64 → read 0 limit = read 1 limit
  ends : ∀ offset limit, ls.length < offset → offset < 2 ^ 64 → limit < 2 ^ 64 →
    read offset limit = .success ""

/-- Reading a text file page by page loses no line and shows none twice. -/
theorem askPage_pages (h : TextAt tree root path content) (hlines : HasLines content.toList ls)
    (hlive : ctx.cancelled = false) : ReadInPages ls (askPage tree root path ctx) := by
  obtain rfl := hlines.lineChars_eq
  refine ⟨?_, ?_, ?_, ?_, ?_⟩
  · intro offset limit hoffset hlimit
    rw [askPage_eq h hlive hoffset hlimit]
    rfl
  · intro offset a b hfirst hoffset hlimit
    rw [shownLines_askPage h hlive (by omega) hlimit,
      shownLines_askPage h hlive (by omega) (by omega),
      shownLines_askPage h hlive hoffset (by omega)]
    exact page_add content hfirst a b
  · intro offset limit i hfirst hoffset hlimit
    have hline : numberedLine (offset + i) = fun l => String.ofList (shownLine (offset + i) l) := by
      funext l
      rw [← toList_numberedLine, String.ofList_toList]
    rw [shownLines_askPage h hlive hoffset hlimit, getElem?_page content hfirst, hline]
  · intro limit hlimit
    rw [askPage_eq h hlive (by omega) hlimit, askPage_eq h hlive (by omega) hlimit, page_zero]
  · intro offset limit hend hoffset hlimit
    rw [askPage_eq h hlive hoffset hlimit, page_eq_nil hend, String.intercalate_nil]

end Read

section Study

/-- A folder with a file of three lines, one of them with a carriage return and the last without an
ending. -/
def study : Node :=
  .directory [("plans", .directory [("robot.md", .file "arms\r\nlegs\nscreen".toUTF8)])]

theorem textAt_study : TextAt study "/plans" "robot.md" "arms\r\nlegs\nscreen" := by
  have htop : DirectoryAt study [] := ⟨_, rfl⟩
  have hplans : DirectoryAt study ["plans"] := ⟨_, rfl⟩
  have hroot : Leads study "/plans" ["plans"] := by
    have hcomponents : components "/plans" = ["", "plans"] := by decide +kernel
    refine ⟨by decide, by decide, 0, by decide, ?_⟩
    rw [hcomponents]
    exact .stay htop (.inl rfl) (.into ⟨by decide, rfl, _, rfl, rfl⟩ (.inr rfl) .arrived)
  have hfile : Leads study (joinPath "/plans" "robot.md") ["plans", "robot.md"] := by
    have hcomponents : components (joinPath "/plans" "robot.md") = ["", "plans", "robot.md"] := by
      decide +kernel
    refine ⟨by decide +kernel, by decide +kernel, 0, by decide, ?_⟩
    rw [hcomponents]
    exact .stay htop (.inl rfl) (.into ⟨by decide, rfl, _, rfl, rfl⟩ (.inr rfl)
      (.into ⟨by decide, rfl, _, rfl, rfl⟩ (.inl rfl) .arrived))
  have htext : String.fromUTF8? "arms\r\nlegs\nscreen".toUTF8 = some "arms\r\nlegs\nscreen" := by
    simp [String.fromUTF8?, String.fromUTF8, String.isValidUTF8]
  exact ⟨["plans", "robot.md"], _, (resolveInRoot_eq_ok_iff hroot hplans).mpr ⟨hfile, by decide⟩,
    rfl, by decide +kernel, htext, by decide⟩

/-- The three lines in two pages, the second of them on its own, and what is behind the last. -/
theorem askPage_pages_study :
    TextAt study "/plans" "robot.md" "arms\r\nlegs\nscreen" ∧
      HasLines "arms\r\nlegs\nscreen".toList ["arms".toList, "legs".toList, "screen".toList] ∧
      shownLines (askPage study "/plans" "robot.md" ⟨"", false⟩ 1 3).output =
        shownLines (askPage study "/plans" "robot.md" ⟨"", false⟩ 1 2).output ++
          shownLines (askPage study "/plans" "robot.md" ⟨"", false⟩ 3 1).output ∧
      (shownLines (askPage study "/plans" "robot.md" ⟨"", false⟩ 2 1).output)[0]? =
        some "     2\tlegs" ∧
      askPage study "/plans" "robot.md" ⟨"", false⟩ 4 9 = .success "" := by
  have hlines : HasLines "arms\r\nlegs\nscreen".toList
      ["arms".toList, "legs".toList, "screen".toList] := hasLines_iff.mpr (by decide +kernel)
  have hpages : ReadInPages _ (askPage study "/plans" "robot.md" ⟨"", false⟩) :=
    askPage_pages textAt_study hlines rfl
  refine ⟨textAt_study, hlines, hpages.joins 1 2 1 (by decide) (by omega) (by omega), ?_,
    hpages.ends 4 9 (by decide) (by omega) (by omega)⟩
  rw [hpages.numbers 2 1 0 (by decide) (by omega) (by omega)]
  decide +kernel

end Study

end HomeAgents.House
