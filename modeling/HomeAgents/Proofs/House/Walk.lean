import HomeAgents.Proofs.Files.Preorder
import HomeAgents.Proofs.House.Listing

/-!
# What a listing shows

In a tree without links a listing is the walk through what stands below the directory, with one line
for each node that is seen: no name on the way to it is hidden, it lies at one of the levels that
are listed, and it is a directory or a file whose name the pattern takes. That nothing below a
hidden name is seen, and nothing below the last level, needs no rule of its own.
-/

namespace HomeAgents.House

open Files Json

/-- What a listing shows of a walk. The first level is always listed. -/
def isSeen (pattern : Option (List Glob.Token)) (levels : Nat) (e : List String × Node) : Bool :=
  decide (e.1.length ≤ levels + 1) && e.1.all (!isHidden ·) &&
    (e.2.isDirectory || e.1.getLast?.all (shows pattern))

/-- The line of a node: two blanks for each level above it, the names on the way to it, and a slash
behind a directory. -/
def seenLine (e : List String × Node) : String :=
  "".pushn ' ' (2 * (e.1.length - 1)) ++ "/".intercalate e.1 ++
    (if e.2.isDirectory then "/" else "")

/-- The lines of a listing: what is seen, or a note that there is nothing. -/
def seenLines (pattern : Option (List Glob.Token)) (levels : Nat)
    (walk : List (List String × Node)) : List String :=
  match walk.filter (isSeen pattern levels) with
  | [] => [if pattern.isSome then "(no matches)" else "(empty directory)"]
  | seen => seen.map seenLine

variable {tree top node : Node} {base place rootPlace : Place} {names : List String}
  {pattern : Option (List Glob.Token)} {levels : Nat} {inside entries : List (String × Node)}
  {name : String}

section Seen

theorem isSeen_singleton (pattern : Option (List Glob.Token)) (levels : Nat) (name : String)
    (node : Node) :
    isSeen pattern levels ([name], node) =
      (!isHidden name && (node.isDirectory || shows pattern name)) := by
  simp [isSeen]

theorem isSeen_of_hidden (h : isHidden name = true) (names : List String) (node : Node) :
    isSeen pattern levels (name :: names, node) = false := by
  simp [isSeen, h]

theorem isSeen_zero (h : names ≠ []) (name : String) (node : Node) :
    isSeen pattern 0 (name :: names, node) = false := by
  simp [isSeen, h]

theorem isSeen_succ (h : names ≠ []) (hshown : isHidden name = false) (node : Node) :
    isSeen pattern (levels + 1) (name :: names, node) = isSeen pattern levels (names, node) := by
  obtain ⟨next, rest, rfl⟩ := List.exists_cons_of_ne_nil h
  simp [isSeen, hshown]

end Seen

section Lines

/-- In a readable directory names lead to a directory exactly if one stands there. -/
theorem directoryAt?_eq (hbase : Real tree base) (hreadable : Readable base top)
    (htop : tree.at? base = some top) (hnode : top.at? names = some node) :
    directoryAt? tree base names = node.entries?.map fun inside => (base ++ names, inside) := by
  obtain ⟨hwalks, hgoal⟩ := hreadable.walks htop hnode
  have hat : tree.at? (base ++ names) = some node := by rw [at?_append, htop]; exact hnode
  cases hgoal with
  | directory =>
    exact (directoryAt?_eq_some_iff hbase).mpr ⟨⟨0, Nat.zero_le _, hwalks⟩, hat⟩
  | file =>
    refine Option.eq_none_iff_forall_ne_some.mpr fun found hfound => ?_
    obtain ⟨p, inside⟩ := found
    obtain ⟨⟨n, -, hwalks'⟩, hinside⟩ := (directoryAt?_eq_some_iff hbase).mp hfound
    rw [hwalks'.unique hwalks, hat] at hinside
    cases hinside

theorem lines_listNames_nil (depth : Nat) :
    (listNames tree base pattern levels depth names []).lines = [] := by
  rw [listNames]

theorem lines_listNames_singleton (depth : Nat) :
    (listNames tree base pattern levels depth names [name]).lines =
      if isHidden name then []
      else
        match directoryAt? tree base (names ++ [name]) with
        | none => if shows pattern name then [entryLine depth (names ++ [name]) false] else []
        | some (_, inside) =>
          entryLine depth (names ++ [name]) true ::
            match levels with
            | 0 => []
            | less + 1 => (listNames tree base pattern less (depth + 1) (names ++ [name])
                (orderedNames inside)).lines := by
  rw [listNames, Listing.append, lines_listNames_nil, List.append_nil]
  split
  next => rfl
  next =>
    dsimp only
    cases directoryAt? tree base (names ++ [name]) with
    | none => rfl
    | some found => cases levels <;> rfl

/-- The entries are listed one after the other. -/
theorem lines_listNames_cons (depth : Nat) (rest : List String) :
    (listNames tree base pattern levels depth names (name :: rest)).lines =
      (listNames tree base pattern levels depth names [name]).lines ++
        (listNames tree base pattern levels depth names rest).lines := by
  rw [lines_listNames_singleton, listNames]
  split
  next => rfl
  next =>
    dsimp only
    cases directoryAt? tree base (names ++ [name]) with
    | none => rfl
    | some found => cases levels <;> rfl

theorem seenLine_eq (names : List String) (name : String) (node : Node) :
    seenLine (names ++ [name], node) =
      entryLine names.length (names ++ [name]) node.isDirectory := by
  simp [seenLine, entryLine]

/-- What is seen of an entry and below it. -/
theorem filter_branch (name : String) (node : Node) :
    (branch (name, node)).filter (isSeen pattern levels) =
      if isHidden name then []
      else
        (if node.isDirectory || shows pattern name then [([name], node)] else []) ++
          match levels with
          | 0 => []
          | less + 1 =>
            (node.walk.filter (isSeen pattern less)).map fun e => (name :: e.1, e.2) := by
  rw [branch, List.filter_cons, isSeen_singleton, List.filter_map]
  cases hhidden : isHidden name with
  | true =>
    have hnone : node.walk.filter (isSeen pattern levels ∘ fun e => (name :: e.1, e.2)) = [] :=
      List.filter_eq_nil_iff.mpr fun e _ => by simp [isSeen_of_hidden hhidden]
    rw [hnone]
    rfl
  | false =>
    have hbelow : node.walk.filter (isSeen pattern levels ∘ fun e => (name :: e.1, e.2)) =
        match levels with
        | 0 => []
        | less + 1 => node.walk.filter (isSeen pattern less) := by
      cases levels with
      | zero =>
        refine List.filter_eq_nil_iff.mpr fun e he => ?_
        simp [isSeen_zero (ne_nil_of_mem_walk he)]
      | succ less =>
        refine List.filter_congr fun e he => ?_
        exact isSeen_succ (ne_nil_of_mem_walk he) hhidden e.2
    rw [hbelow]
    cases levels <;> cases node.isDirectory || shows pattern name <;> rfl

/-- The lines for an entry are what is seen of it and below it, if that is so for what stands in
it. -/
theorem lines_entry (hread : directoryAt? tree base (names ++ [name]) =
      node.entries?.map fun inside => (base ++ (names ++ [name]), inside))
    (hchild : Readable (base ++ (names ++ [name])) node)
    (hbelow : ∀ less below, less < levels → node = .directory below →
      (listNames tree base pattern less (names ++ [name]).length (names ++ [name])
          (orderedNames below)).lines =
        (node.walk.filter (isSeen pattern less)).map fun e =>
          seenLine (names ++ [name] ++ e.1, e.2)) :
    (listNames tree base pattern levels names.length names [name]).lines =
      ((branch (name, node)).filter (isSeen pattern levels)).map fun e =>
        seenLine (names ++ e.1, e.2) := by
  rw [lines_listNames_singleton, hread, filter_branch]
  split
  next => rfl
  next =>
    cases hchild with
    | @file _ bytes =>
      have hnone : (match levels with
          | 0 => []
          | less + 1 => ((Node.file bytes).walk.filter (isSeen pattern less)).map
              fun e => (name :: e.1, e.2)) = [] := by
        cases levels <;> rfl
      rw [hnone, List.append_nil]
      cases shows pattern name <;> simp [Node.entries?, Node.isDirectory, seenLine_eq]
    | @directory _ below =>
      cases levels with
      | zero => simp [Node.entries?, Node.isDirectory, seenLine_eq]
      | succ less =>
        have hlines := hbelow less below (Nat.lt_succ_self less) rfl
        rw [List.length_append, List.length_singleton] at hlines
        simp [Node.entries?, Node.isDirectory, seenLine_eq, hlines]

/-- The lines for some entries of a directory below the listed one, in their order. -/
theorem lines_listNames (hbase : Real tree base) (hreadable : Readable base top)
    (htop : tree.at? base = some top) (hinside : top.at? names = some (.directory inside))
    (hentries : ∀ e ∈ entries, e ∈ inside) :
    (listNames tree base pattern levels names.length names (Sorted.names entries)).lines =
      ((entries.flatMap branch).filter (isSeen pattern levels)).map fun e =>
        seenLine (names ++ e.1, e.2) := by
  induction levels using Nat.strong_induction_on generalizing names inside entries with
  | _ levels ih =>
    induction entries with
    | nil => simp [Sorted.names, listNames]
    | cons e entries ihentries =>
      obtain ⟨name, node⟩ := e
      obtain ⟨hmem, hothers⟩ := List.forall_mem_cons.mp hentries
      obtain ⟨-, hdirectory⟩ := hreadable.walks htop hinside
      have hnode : top.at? (names ++ [name]) = some node := by
        have hfind : Sorted.find? name inside = some node :=
          (Ordered.find?_eq_some_iff hdirectory.distinct).mpr hmem
        rw [at?_append, hinside, Option.bind_some, Node.at?, hfind]
        rfl
      have hread := directoryAt?_eq hbase hreadable htop hnode
      obtain ⟨-, hchild⟩ := hreadable.walks htop hnode
      have hbelow (less : Nat) (below : List (String × Node)) (hless : less < levels)
          (hdir : node = .directory below) :
          (listNames tree base pattern less (names ++ [name]).length (names ++ [name])
              (orderedNames below)).lines =
            (node.walk.filter (isSeen pattern less)).map fun e =>
              seenLine (names ++ [name] ++ e.1, e.2) := by
        subst hdir
        rw [walk_directory]
        exact ih less hless hnode fun e he => Sorted.mem_byName.mp he
      have hnames : Sorted.names ((name, node) :: entries) = name :: Sorted.names entries := rfl
      rw [hnames, lines_listNames_cons, lines_entry hread hchild hbelow, ihentries hothers,
        List.flatMap_cons, List.filter_append, List.map_append]

end Lines

section Call

variable {root : String} {args : Json} {ctx : ToolContext} {a : ListArgs} {recursive : Bool}

/-- The body of a listing is what is seen of the walk, or the note that there is nothing. -/
theorem listingText_listPlace (hplace : Real tree place)
    (hinside : tree.at? place = some (.directory inside))
    (hreadable : Readable place (.directory inside)) (label : String)
    (pattern : Option (List Glob.Token)) (recursive : Bool) :
    listingText label pattern.isSome (listPlace tree place pattern recursive inside).lines =
      "\n".intercalate (("# " ++ label ++ "/") :: "" ::
        seenLines pattern (if recursive then maxListDepth else 0)
          (Node.directory inside).walk) := by
  have hhere : (Node.directory inside).at? [] = some (.directory inside) := rfl
  have hlines : (listNames tree place pattern (if recursive then maxListDepth else 0) 0 []
      (orderedNames inside)).lines =
        ((Node.directory inside).walk.filter
          (isSeen pattern (if recursive then maxListDepth else 0))).map seenLine := by
    rw [walk_directory]
    exact lines_listNames hplace hreadable hinside hhere fun e he => Sorted.mem_byName.mp he
  rw [listingText, listPlace, Listing.append, List.nil_append, hlines, seenLines]
  cases (Node.directory inside).walk.filter (isSeen pattern _) <;> rfl

/-- A call of the listing tool for a readable directory shows the walk through all that stands below
it, each line under the names on the way, as far as it is seen. -/
theorem list_walks (hroot : Leads tree root rootPlace) (hdirectory : DirectoryAt tree rootPlace)
    (hlists : Lists tree root rootPlace args ctx a place)
    (hpattern : readPattern (a.pattern.getD none) = .ok pattern)
    (hinside : tree.at? place = some (.directory inside))
    (hreadable : Readable place (.directory inside)) :
    IsWalk inside (Node.directory inside).walk ∧
      executeList tree root args ctx = .success ("\n".intercalate
        (("# " ++ (if (a.path.getD "").isEmpty then "." else a.path.getD "") ++ "/") :: "" ::
          seenLines pattern (if a.recursive.getD false then maxListDepth else 0)
            (Node.directory inside).walk)) := by
  have hplace := (resolveInRoot_eq_ok_iff hroot hdirectory).mpr ⟨hlists.leads, hlists.inside⟩
  have htext := listingText_listPlace hlists.leads.real hinside hreadable
    (if (a.path.getD "").isEmpty then "." else a.path.getD "") pattern (a.recursive.getD false)
  have hlisted := listAt_eq_ok_iff.mpr
    ⟨place, inside, pattern, hplace, hinside, hpattern, rfl, htext.symm⟩
  exact ⟨hreadable.isWalk,
    executeList_eq_success_iff.mpr ⟨hlists.live, a, _, hlists.taken, hlisted⟩⟩

/-- The entries of a folder with files of two kinds, one of them hidden, the last name first. -/
def parts : List (String × Node) :=
  [("arm.txt", .file .empty), ("arm.md", .file .empty), ("a.md", .file .empty),
    (".arm.md", .file .empty)]

/-- The entries of a folder with files, a hidden folder and the folder of parts, the last name
first. -/
def plans : List (String × Node) :=
  [("tips.txt", .file .empty), ("robot.md", .file .empty), ("parts", .directory parts),
    (".old", .directory [("leg.md", .file .empty)])]

/-- A workshop with plans. -/
def workshop : Node :=
  .directory [("plans", .directory plans)]

/-- The entries of a directory that can be read are checked one by one. -/
theorem readable_directory {entries : List (String × Node)}
    (hdistinct : (entries.map Prod.fst).Nodup)
    (h : ∀ e ∈ entries, (e.1 ≠ "" ∧ e.1 ≠ "." ∧ e.1 ≠ "..") ∧ tooLong place e.1 = false ∧
      Readable (place ++ [e.1]) e.2) : Readable place (.directory entries) :=
  .directory hdistinct (fun e he => (h e he).1) (fun e he => (h e he).2.1) fun e he => (h e he).2.2

theorem readable_plans : Readable ["plans"] (.directory plans) := by
  have hold : Readable ["plans", ".old"] (.directory [("leg.md", .file .empty)]) := by
    refine readable_directory (by decide) ?_
    exact List.forall_mem_singleton.mpr ⟨by decide, rfl, .file⟩
  have hparts : Readable ["plans", "parts"] (.directory parts) := by
    refine readable_directory (by decide) ?_
    simp only [parts, List.forall_mem_cons]
    exact ⟨⟨by decide, rfl, .file⟩, ⟨by decide, rfl, .file⟩, ⟨by decide, rfl, .file⟩,
      ⟨by decide, rfl, .file⟩, nofun⟩
  refine readable_directory (by decide) ?_
  simp only [plans, List.forall_mem_cons]
  exact ⟨⟨by decide, rfl, .file⟩, ⟨by decide, rfl, .file⟩, ⟨by decide, rfl, hparts⟩,
    ⟨by decide, rfl, hold⟩, nofun⟩

theorem walk_plans :
    (Node.directory plans).walk =
      [([".old"], .directory [("leg.md", .file .empty)]), ([".old", "leg.md"], .file .empty),
        (["parts"], .directory parts), (["parts", ".arm.md"], .file .empty),
        (["parts", "a.md"], .file .empty), (["parts", "arm.md"], .file .empty),
        (["parts", "arm.txt"], .file .empty), (["robot.md"], .file .empty),
        (["tips.txt"], .file .empty)] := by
  have hparts : Sorted.byName parts = parts.reverse := by
    refine Sorted.byName_eq (List.reverse_perm parts) ?_
    rw [Sorted.Increasing]
    decide +kernel
  have hplans : Sorted.byName plans = plans.reverse := by
    refine Sorted.byName_eq (List.reverse_perm plans) ?_
    rw [Sorted.Increasing]
    decide +kernel
  have hold : Sorted.byName [("leg.md", Node.file .empty)] = [("leg.md", .file .empty)] :=
    List.mergeSort_singleton _
  rw [walk_directory, hplans]
  simp only [plans, List.reverse_cons, List.reverse_nil, List.flatMap_append, List.flatMap_cons,
    List.flatMap_nil, branch, walk_directory, hparts, hold]
  simp only [parts, List.reverse_cons, List.reverse_nil, List.flatMap_cons, List.flatMap_nil,
    branch, walk_file, List.map_cons, List.map_nil, List.cons_append, List.nil_append]

theorem list_walks_workshop :
    Leads workshop "/plans" ["plans"] ∧
      workshop.at? ["plans"] = some (.directory plans) ∧
      Readable ["plans"] (.directory plans) ∧
      executeList workshop "/plans"
          (.object [("pattern", .string "*.md"), ("recursive", .bool true)]) ⟨"", false⟩ =
        .success "# ./\n\nparts/\n  parts/a.md\n  parts/arm.md\nrobot.md" := by
  have hdirectory : DirectoryAt workshop ["plans"] := ⟨_, rfl⟩
  have hroot : Leads workshop "/plans" ["plans"] := by
    have hcomponents : components "/plans" = ["", "plans"] := by decide +kernel
    refine ⟨by decide, by decide, 0, by decide, ?_⟩
    rw [hcomponents]
    exact .stay ⟨_, rfl⟩ (.inl rfl) (.into ⟨by decide, rfl, _, rfl, rfl⟩ (.inr rfl) .arrived)
  have hlists : Lists workshop "/plans" ["plans"]
      (.object [("pattern", .string "*.md"), ("recursive", .bool true)]) ⟨"", false⟩
      ⟨none, some (some "*.md"), some true⟩ ["plans"] :=
    ⟨rfl, rfl, hroot.joinPath_stay hdirectory (.inl rfl), List.prefix_refl _, hdirectory, _, rfl⟩
  have hpattern : readPattern (some "*.md") =
      .ok (some [.anySequence, .char '.', .char 'm', .char 'd']) := by rfl
  have hwalks := (list_walks hroot hdirectory hlists hpattern rfl readable_plans).2
  rw [walk_plans] at hwalks
  refine ⟨hroot, rfl, readable_plans, hwalks.trans (congrArg _ ?_)⟩
  decide +kernel

end Call

end HomeAgents.House
