import HomeAgents.House.ReadFile
import HomeAgents.Proofs.Files.Resolution

/-!
# The sandbox of the reading tool

With a root that leads to a directory, a path is let through exactly if it leads to a place at or
below that directory; how it is written and what it passes on its way do not matter. The reading
tool gives out the text of such a file and of no other, and it calls outside exactly those paths
that lead somewhere else.
-/

namespace HomeAgents.House

open Files Json

variable {tree : Node} {root path refused output : String} {rootPlace place : Place} {args : Json}
  {ctx : ToolContext} {a : ReadArgs}

section Resolve

theorem resolve_requestedPath (hroot : Leads tree root rootPlace)
    (hdirectory : DirectoryAt tree rootPlace) :
    resolve tree (requestedPath root path) = resolve tree (joinPath root path) := by
  unfold requestedPath
  split
  next hpath =>
    rw [resolve_eq_ok_iff.mpr hroot, resolve_eq_ok_iff.mpr (hroot.joinPath_stay hdirectory hpath)]
  next => rfl

theorem resolveInRoot_eq (hroot : Leads tree root rootPlace)
    (hdirectory : DirectoryAt tree rootPlace) :
    resolveInRoot tree root path =
      match resolve tree (joinPath root path) with
      | .error .notFound => .error (.notFound path)
      | .error e => .error (.io e)
      | .ok place => if rootPlace <+: place then .ok place else .error (.outside path) := by
  have hrootPlace := resolve_eq_ok_iff.mpr hroot
  rw [resolveInRoot, resolve_requestedPath hroot hdirectory, hrootPlace]
  cases resolve tree (joinPath root path) with
  | error e => cases e <;> rfl
  | ok goal => simp only [List.isPrefixOf_iff_prefix]

theorem resolveInRoot_eq_ok_iff (hroot : Leads tree root rootPlace)
    (hdirectory : DirectoryAt tree rootPlace) :
    resolveInRoot tree root path = .ok place ↔
      Leads tree (joinPath root path) place ∧ rootPlace <+: place := by
  rw [resolveInRoot_eq hroot hdirectory, ← resolve_eq_ok_iff]
  cases resolve tree (joinPath root path) with
  | error e => cases e <;> simp
  | ok goal =>
    by_cases hinside : rootPlace <+: goal
    · simp only [if_pos hinside, Except.ok.injEq]
      exact ⟨fun h => ⟨h, h ▸ hinside⟩, fun h => h.1⟩
    · simp only [if_neg hinside, Except.ok.injEq, reduceCtorEq, false_iff, not_and]
      exact fun h => h ▸ hinside

theorem resolveInRoot_outside_iff (hroot : Leads tree root rootPlace)
    (hdirectory : DirectoryAt tree rootPlace) :
    resolveInRoot tree root path = .error (.outside refused) ↔
      path = refused ∧ ∃ place, Leads tree (joinPath root path) place ∧ ¬ rootPlace <+: place := by
  simp only [resolveInRoot_eq hroot hdirectory, ← resolve_eq_ok_iff]
  cases resolve tree (joinPath root path) with
  | error e => cases e <;> simp
  | ok goal =>
    by_cases hinside : rootPlace <+: goal
    · simp [hinside]
    · simp [hinside]

end Resolve

section Refusal

theorem head?_append {first : String} {c : Char} (h : first.toList.head? = some c) (rest : String) :
    (first ++ rest).toList.head? = some c := by
  rw [String.toList_append, List.head?_append, h, Option.some_or]

theorem head?_outside (path : String) :
    (PathError.outside path).message.toList.head? = some 'P' :=
  head?_append (by simp) path

/-- No other refusal of the tool has the first letter of the refusal of a path outside. -/
theorem append_ne_outside (first rest : String) (hfirst : first.toList.head?.any (· ≠ 'P')) :
    first ++ rest ≠ (PathError.outside path).message := by
  intro h
  obtain ⟨c, hc, hother⟩ := (Option.any_eq_true _ _).mp hfirst
  have hhead := head?_append hc rest
  rw [h, head?_outside] at hhead
  obtain rfl := Option.some.inj hhead
  cases hother

theorem message_eq_outside_iff {e : PathError} :
    e.message = (PathError.outside path).message ↔ e = .outside path := by
  refine ⟨fun h => ?_, congrArg _⟩
  cases e with
  | notFound p => exact absurd h (append_ne_outside "Not found: " p (by simp))
  | io e => exact absurd h (append_ne_outside "IO error: " e.message (by simp))
  | noRoot e =>
    exact absurd h (append_ne_outside "Cannot resolve root directory: " e.message (by simp))
  | outside p =>
    have hpath : p = path := (String.append_right_inj _).mp h
    rw [hpath]

end Refusal

section Read

/-- Reads what arguments ask for. -/
def readAsked (tree : Node) (root : String) (a : ReadArgs) : Except String String :=
  readPage tree root (a.path.getD "") ((a.offset.getD none).getD 1)
    ((a.limit.getD none).getD defaultPage)

/-- What the reading tool puts out for a file with some text. -/
def shownText (a : ReadArgs) (content : String) : String :=
  if content.isEmpty then "Warning: File exists but has empty contents"
  else
    "\n".intercalate
      (page content ((a.offset.getD none).getD 1) ((a.limit.getD none).getD defaultPage))

theorem readAsked_eq_ok_iff :
    readAsked tree root a = .ok output ↔
      ∃ place bytes content, resolveInRoot tree root (a.path.getD "") = .ok place ∧
        tree.at? place = some (.file bytes) ∧ looksBinary bytes = false ∧
        String.fromUTF8? bytes = some content ∧ output = shownText a content := by
  constructor
  · intro h
    unfold readAsked readPage at h
    split at h
    next => cases h
    next place hplace =>
      split at h
      next bytes hbytes =>
        split at h
        next => cases h
        next hbinary =>
          split at h
          next => cases h
          next content hcontent =>
            have htext : looksBinary bytes = false := eq_false_of_ne_true hbinary
            refine ⟨place, bytes, content, hplace, hbytes, htext, hcontent, ?_⟩
            unfold shownText
            split at h
            next hempty => rw [if_pos hempty, Except.ok.inj h]
            next hempty => rw [if_neg hempty, Except.ok.inj h]
      next => cases h
  · rintro ⟨place, bytes, content, hplace, hbytes, hbinary, hcontent, rfl⟩
    unfold readAsked readPage shownText
    simp only [hplace, hbytes, hbinary, hcontent, Bool.false_eq_true, if_false]
    exact (apply_ite Except.ok _ _ _).symm

theorem readAsked_outside_iff :
    readAsked tree root a = .error (PathError.outside refused).message ↔
      resolveInRoot tree root (a.path.getD "") = .error (.outside refused) := by
  unfold readAsked readPage
  cases resolveInRoot tree root (a.path.getD "") with
  | error e => rw [Except.error.injEq, Except.error.injEq, message_eq_outside_iff]
  | ok place =>
    refine ⟨fun h => ?_, fun h => by cases h⟩
    dsimp only at h
    split at h
    next =>
      split at h
      next =>
        exact absurd (Except.error.inj h)
          (append_ne_outside "Binary file cannot be read as text: " _ (by simp))
      next =>
        split at h
        next =>
          exact absurd (Except.error.inj h)
            (append_ne_outside "Failed to read file: " IoError.notUtf8.message (by simp))
        next => split at h <;> cases h
    next => exact absurd (Except.error.inj h) (append_ne_outside "Not a file: " _ (by simp))

/-- A call of the reading tool is carried out, and its path leads to a place. -/
structure Asks (tree : Node) (root : String) (args : Json) (ctx : ToolContext) (a : ReadArgs)
    (place : Place) : Prop where
  taken : takeArguments readArguments {} args = .ok a
  live : ctx.cancelled = false
  leads : Leads tree (joinPath root (a.path.getD "")) place

theorem executeRead_eq_success_iff :
    executeRead tree root args ctx = .success output ↔
      ∃ a, takeArguments readArguments {} args = .ok a ∧ ctx.cancelled = false ∧
        readAsked tree root a = .ok output := by
  unfold executeRead
  cases takeArguments readArguments {} args with
  | error m => simp [ToolResult.failure, ToolResult.success]
  | ok a =>
    by_cases hcancelled : ctx.cancelled = true
    · simp [hcancelled, ToolResult.failure, ToolResult.success]
    · unfold readAsked
      cases hpage : readPage tree root (a.path.getD "") ((a.offset.getD none).getD 1)
          ((a.limit.getD none).getD defaultPage) with
      | error e => simp [hcancelled, hpage, ToolResult.failure, ToolResult.success]
      | ok text => simp [hcancelled, hpage, ToolResult.success]

theorem executeRead_outside_iff :
    executeRead tree root args ctx = .failure (PathError.outside refused).message ↔
      ∃ a, takeArguments readArguments {} args = .ok a ∧ ctx.cancelled = false ∧
        readAsked tree root a = .error (PathError.outside refused).message := by
  have hcancel : "Cancelled" ≠ (PathError.outside refused).message :=
    append_ne_outside "Cancelled" "" (by simp)
  unfold executeRead
  cases takeArguments readArguments {} args with
  | error m =>
    have harguments : "Invalid arguments: " ++ m.message ≠ (PathError.outside refused).message :=
      append_ne_outside "Invalid arguments: " m.message (by simp)
    simp [ToolResult.failure, harguments]
  | ok a =>
    by_cases hcancelled : ctx.cancelled = true
    · simp [hcancelled, ToolResult.failure, hcancel]
    · unfold readAsked
      cases hpage : readPage tree root (a.path.getD "") ((a.offset.getD none).getD 1)
          ((a.limit.getD none).getD defaultPage) with
      | error e => simp [hcancelled, hpage, ToolResult.failure]
      | ok text => simp [hcancelled, hpage, ToolResult.failure, ToolResult.success]

/-- The sandbox is exact. A path is let through by the place it leads to, and this place is given
out: something stands there, and its names are followed without any link. A file is read if and only
if it stands at such a place, and a path is called outside if and only if it leads to another. -/
theorem read_sandboxed (hroot : Leads tree root rootPlace)
    (hdirectory : DirectoryAt tree rootPlace) :
    (∀ path place, resolveInRoot tree root path = .ok place ↔
      Leads tree (joinPath root path) place ∧ rootPlace <+: place) ∧
    (∀ path place, resolveInRoot tree root path = .ok place →
      Real tree place ∧ ∃ node, tree.at? place = some node ∧ (node.isFile ∨ node.isDirectory)) ∧
    (∀ args ctx output, executeRead tree root args ctx = .success output ↔
      ∃ a place bytes content, Asks tree root args ctx a place ∧ rootPlace <+: place ∧
        tree.at? place = some (.file bytes) ∧ looksBinary bytes = false ∧
        String.fromUTF8? bytes = some content ∧ output = shownText a content) ∧
    ∀ args ctx path, executeRead tree root args ctx = .failure (PathError.outside path).message ↔
      ∃ a place, Asks tree root args ctx a place ∧ a.path.getD "" = path ∧
        ¬ rootPlace <+: place := by
  have hresolve : ∀ path place, resolveInRoot tree root path = .ok place ↔
      Leads tree (joinPath root path) place ∧ rootPlace <+: place :=
    fun path place => resolveInRoot_eq_ok_iff hroot hdirectory
  refine ⟨hresolve, ?_, ?_, ?_⟩
  · intro path place h
    have hreal : Real tree place := ((hresolve path place).mp h).1.real
    exact ⟨hreal, hreal.stands⟩
  · intro args ctx output
    rw [executeRead_eq_success_iff]
    constructor
    · rintro ⟨a, htaken, hlive, hasked⟩
      obtain ⟨place, bytes, content, hplace, hshown⟩ := readAsked_eq_ok_iff.mp hasked
      obtain ⟨hleads, hinside⟩ := (hresolve _ _).mp hplace
      exact ⟨a, place, bytes, content, ⟨htaken, hlive, hleads⟩, hinside, hshown⟩
    · rintro ⟨a, place, bytes, content, hasks, hinside, hshown⟩
      have hplace := (hresolve _ _).mpr ⟨hasks.leads, hinside⟩
      exact ⟨a, hasks.taken, hasks.live,
        readAsked_eq_ok_iff.mpr ⟨place, bytes, content, hplace, hshown⟩⟩
  · intro args ctx path
    rw [executeRead_outside_iff]
    constructor
    · rintro ⟨a, htaken, hlive, hasked⟩
      rw [readAsked_outside_iff, resolveInRoot_outside_iff hroot hdirectory] at hasked
      obtain ⟨hpath, place, hleads, houtside⟩ := hasked
      exact ⟨a, place, ⟨htaken, hlive, hleads⟩, hpath, houtside⟩
    · rintro ⟨a, place, hasks, hpath, houtside⟩
      refine ⟨a, hasks.taken, hasks.live, ?_⟩
      rw [readAsked_outside_iff, resolveInRoot_outside_iff hroot hdirectory]
      exact ⟨hpath, place, hasks.leads, houtside⟩

end Read

section Grounds

variable {rest : List String} {n : Nat} {goal : Place}

/-- A house with a garden beside it, and a link from the one to the other. -/
def grounds : Node :=
  .directory
    [("house", .directory [("exit", .link "../house garden"), ("plan", .file "ok".toUTF8)]),
      ("house garden", .directory [("shed", .file "no".toUTF8)])]

theorem directoryAt_house : DirectoryAt grounds ["house"] := ⟨_, rfl⟩

theorem walks_house (hrest : Walks grounds ["house"] rest n goal) :
    Walks grounds [] ("house" :: rest) n goal :=
  .into ⟨by decide, rfl, _, rfl, rfl⟩ (.inr rfl) hrest

theorem walks_exit (hrest : Walks grounds ["house garden"] rest 0 goal) :
    Walks grounds ["house"] ("exit" :: rest) 1 goal := by
  have htarget : components "../house garden" = ["..", "house garden"] := rfl
  have hbase : linkBase ["house"] "../house garden" = ["house"] := rfl
  refine .through ⟨by decide, rfl, _, rfl, rfl⟩ ?_ hrest
  rw [htarget, hbase]
  exact .up directoryAt_house
    (.into ⟨by decide, rfl, _, rfl, rfl⟩ (.inr rfl) .arrived)

theorem leads_house : Leads grounds "/house" ["house"] := by
  have hcomponents : components "/house" = ["", "house"] := rfl
  refine ⟨by decide, by decide, 0, by decide, ?_⟩
  rw [hcomponents]
  exact .stay ⟨_, rfl⟩ (.inl rfl) (walks_house .arrived)

/-- A path may lead out of the root and back. Another directory whose name begins like the root's is
outside. -/
theorem read_sandboxed_grounds :
    Leads grounds "/house" ["house"] ∧ DirectoryAt grounds ["house"] ∧
      resolveInRoot grounds "/house" "exit/../house/./plan" = .ok ["house", "plan"] ∧
      executeRead grounds "/house" (.object [("path", .string "exit/shed")]) ⟨"", false⟩ =
        .failure "Path is outside the allowed directory: exit/shed" := by
  have htop : DirectoryAt grounds [] := ⟨_, rfl⟩
  have hgarden : DirectoryAt grounds ["house garden"] := ⟨_, rfl⟩
  have hback : Leads grounds (joinPath "/house" "exit/../house/./plan") ["house", "plan"] := by
    have hcomponents : components (joinPath "/house" "exit/../house/./plan") =
        ["", "house", "exit", "..", "house", ".", "plan"] := by decide +kernel
    have hplan : Walks grounds ["house"] ["plan"] 0 ["house", "plan"] :=
      .into ⟨by decide, rfl, _, rfl, rfl⟩ (.inl rfl) .arrived
    refine ⟨by decide +kernel, by decide +kernel, 1, by decide, ?_⟩
    rw [hcomponents]
    refine .stay htop (.inl rfl) (walks_house (walks_exit (.up hgarden (walks_house ?_))))
    exact .stay directoryAt_house (.inr rfl) hplan
  have hshed : Leads grounds (joinPath "/house" "exit/shed") ["house garden", "shed"] := by
    have hcomponents : components (joinPath "/house" "exit/shed") =
        ["", "house", "exit", "shed"] := by decide +kernel
    refine ⟨by decide +kernel, by decide +kernel, 1, by decide, ?_⟩
    rw [hcomponents]
    refine .stay htop (.inl rfl) (walks_house (walks_exit ?_))
    exact .into ⟨by decide, rfl, _, rfl, rfl⟩ (.inl rfl) .arrived
  obtain ⟨hresolve, -, -, houtside⟩ := read_sandboxed leads_house directoryAt_house
  exact ⟨leads_house, directoryAt_house, (hresolve _ _).mpr ⟨hback, by decide⟩,
    (houtside _ _ "exit/shed").mpr ⟨_, _, ⟨rfl, rfl, hshed⟩, rfl, by decide⟩⟩

end Grounds

end HomeAgents.House
