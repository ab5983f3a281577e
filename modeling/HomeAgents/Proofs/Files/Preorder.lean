import HomeAgents.Proofs.Collection.Ordered
import HomeAgents.Proofs.Files.Resolution

/-!
# What stands below a directory

Everything below a directory, each node with the names on the way to it, in preorder: a directory
comes before what it holds, and the entries of one directory are put into the order of their names.
So the names on the way increase, and a node is listed under them exactly if they lead to it. In a
tree without links the same names lead to the node from the place of the directory.
-/

namespace HomeAgents.Files

mutual

/-- What stands below a node, with the names on the way. -/
def Node.walk : Node → List (List String × Node)
  | .directory entries => (Sorted.byName (branches entries)).flatMap Prod.snd
  | _ => []

/-- For the name of each entry the entry itself and what stands below it. -/
def branches : List (String × Node) → List (String × List (List String × Node))
  | [] => []
  | (name, node) :: entries =>
    (name, ([name], node) :: node.walk.map fun e => (name :: e.1, e.2)) :: branches entries

end

/-- An entry and what stands below it. -/
def branch (e : String × Node) : List (List String × Node) :=
  ([e.1], e.2) :: e.2.walk.map fun below => (e.1 :: below.1, below.2)

/-- A node at a place without links in or below it, whose directories have their entries in any
order, under different names that can be looked up. -/
inductive Readable : Place → Node → Prop where
  | file {place bytes} : Readable place (.file bytes)
  | directory {place entries} (hdistinct : (entries.map Prod.fst).Nodup)
      (hproper : ∀ e ∈ entries, e.1 ≠ "" ∧ e.1 ≠ "." ∧ e.1 ≠ "..")
      (hfits : ∀ e ∈ entries, tooLong place e.1 = false)
      (hbelow : ∀ e ∈ entries, Readable (place ++ [e.1]) e.2) : Readable place (.directory entries)

/-- A list has everything that stands below a directory, each node under the names that lead to it,
and in the order of these names. -/
structure IsWalk (entries : List (String × Node)) (walk : List (List String × Node)) : Prop where
  complete : ∀ names node, (names, node) ∈ walk ↔
    names ≠ [] ∧ (Node.directory entries).at? names = some node
  ordered : walk.Pairwise fun a b => a.1 < b.1

variable {tree node goal : Node} {place : Place} {names : List String}
  {entries : List (String × Node)}

@[simp] theorem walk_file (bytes : ByteArray) : (Node.file bytes).walk = [] := rfl

theorem branches_eq (entries : List (String × Node)) :
    branches entries = entries.map fun e => (e.1, branch e) := by
  induction entries with
  | nil => rfl
  | cons e entries ih => exact congrArg _ ih

/-- Below a directory stand its entries, in the order of their names, each with what is below it. -/
theorem walk_directory (entries : List (String × Node)) :
    (Node.directory entries).walk = (Sorted.byName entries).flatMap branch := by
  rw [Node.walk, branches_eq, Sorted.byName_map, List.flatMap_map]

theorem mem_branch {e : String × Node} :
    (names, goal) ∈ branch e ↔
      ∃ rest, names = e.1 :: rest ∧ (rest = [] ∧ goal = e.2 ∨ (rest, goal) ∈ e.2.walk) := by
  simp only [branch, List.mem_cons, Prod.mk.injEq, List.mem_map, Prod.exists]
  constructor
  · rintro (⟨rfl, rfl⟩ | ⟨rest, _, hrest, rfl, rfl⟩)
    · exact ⟨[], rfl, .inl ⟨rfl, rfl⟩⟩
    · exact ⟨rest, rfl, .inr hrest⟩
  · rintro ⟨rest, rfl, ⟨rfl, rfl⟩ | hrest⟩
    · exact .inl ⟨rfl, rfl⟩
    · exact .inr ⟨rest, goal, hrest, rfl, rfl⟩

theorem mem_walk_directory :
    (names, goal) ∈ (Node.directory entries).walk ↔ ∃ e ∈ entries, (names, goal) ∈ branch e := by
  simp only [walk_directory, List.mem_flatMap, Sorted.mem_byName]

theorem ne_nil_of_mem_walk (h : (names, goal) ∈ node.walk) : names ≠ [] := by
  cases node with
  | file bytes => cases h
  | link target => cases h
  | directory entries =>
    obtain ⟨e, -, hbranch⟩ := mem_walk_directory.mp h
    obtain ⟨rest, rfl, -⟩ := mem_branch.mp hbranch
    exact List.cons_ne_nil _ _

/-- A readable node has below it what names lead to. -/
theorem Readable.mem_walk_iff (h : Readable place node) :
    (names, goal) ∈ node.walk ↔ names ≠ [] ∧ node.at? names = some goal := by
  induction names generalizing place node with
  | nil => exact ⟨fun hmem => absurd rfl (ne_nil_of_mem_walk hmem), fun hat => absurd rfl hat.1⟩
  | cons name rest ih =>
    cases h with
    | file => simp [Node.walk, Node.at?]
    | @directory _ entries hdistinct hproper hfits hbelow =>
      have hchild (e) (he : e ∈ entries) :
          rest = [] ∧ goal = e.2 ∨ (rest, goal) ∈ e.2.walk ↔ e.2.at? rest = some goal := by
        rw [ih (hbelow e he)]
        cases rest with
        | nil => simp [Node.at?, eq_comm]
        | cons next rest => simp
      simp only [mem_walk_directory, mem_branch, Node.at?]
      constructor
      · rintro ⟨e, he, _, hnames, hgoal⟩
        obtain ⟨rfl, rfl⟩ := List.cons.inj hnames
        have hfind : Sorted.find? e.1 entries = some e.2 :=
          (Ordered.find?_eq_some_iff hdistinct).mpr he
        rw [hfind]
        exact ⟨List.cons_ne_nil _ _, (hchild e he).mp hgoal⟩
      · rintro ⟨-, hat⟩
        split at hat
        next child hfind =>
          have he := (Ordered.find?_eq_some_iff hdistinct).mp hfind
          exact ⟨(name, child), he, rest, rfl, (hchild _ he).mpr hat⟩
        next => cases hat

/-- The names on the way increase within a branch, which its entry begins. -/
theorem pairwise_branch {e : String × Node} (h : e.2.walk.Pairwise fun a b => a.1 < b.1) :
    (branch e).Pairwise fun a b => a.1 < b.1 := by
  rw [branch, List.pairwise_cons, List.pairwise_map]
  refine ⟨fun below hbelow => ?_, h.imp fun hlt => List.cons_lt_cons_iff.mpr (.inr ⟨rfl, hlt⟩)⟩
  obtain ⟨deeper, hmem, rfl⟩ := List.mem_map.mp hbelow
  obtain ⟨next, rest, hnames⟩ := List.exists_cons_of_ne_nil (ne_nil_of_mem_walk hmem)
  rw [hnames]
  exact List.cons_lt_cons_iff.mpr (.inr ⟨rfl, List.nil_lt_cons next rest⟩)

/-- The names on the way increase along the walk. -/
theorem Readable.pairwise_walk (h : Readable place node) :
    node.walk.Pairwise fun a b => a.1 < b.1 := by
  induction h with
  | file => exact .nil
  | @directory _ entries hdistinct hproper hfits hbelow ih =>
    rw [walk_directory, List.pairwise_flatMap]
    refine ⟨fun e he => pairwise_branch (ih e (Sorted.mem_byName.mp he)), ?_⟩
    -- of two entries the one with the lesser name comes first, and so does all that is below it
    refine (Sorted.byName_increasing hdistinct).imp fun {a b} hlt x hx y hy => ?_
    obtain ⟨xs, hxs, -⟩ := mem_branch.mp hx
    obtain ⟨ys, hys, -⟩ := mem_branch.mp hy
    rw [hxs, hys]
    exact List.cons_lt_cons_iff.mpr (.inl hlt)

theorem Readable.isWalk (h : Readable place (.directory entries)) :
    IsWalk entries (Node.directory entries).walk where
  complete _ _ := h.mem_walk_iff
  ordered := h.pairwise_walk

theorem Readable.distinct (h : Readable place (.directory entries)) :
    (entries.map Prod.fst).Nodup := by
  cases h with
  | directory hdistinct => exact hdistinct

/-- A readable node is no link. -/
theorem Readable.isFile_or (h : Readable place node) : node.isFile ∨ node.isDirectory := by
  cases h with
  | file => exact .inl rfl
  | directory => exact .inr rfl

/-- The names that lead to a node from the directory above lead to it from this directory's place in
the tree. -/
theorem Readable.walks (h : Readable place node) (hnode : tree.at? place = some node)
    (hgoal : node.at? names = some goal) :
    Walks tree place names 0 (place ++ names) ∧ Readable (place ++ names) goal := by
  induction names generalizing place node with
  | nil =>
    obtain rfl := Option.some.inj hgoal
    rw [List.append_nil]
    exact ⟨.arrived, h⟩
  | cons name rest ih =>
    cases h with
    | file => cases hgoal
    | @directory _ entries hdistinct hproper hfits hbelow =>
      simp only [Node.at?] at hgoal
      split at hgoal
      next child hfind =>
        have he := (Ordered.find?_eq_some_iff hdistinct).mp hfind
        have hname : Has tree place name child :=
          ⟨hproper _ he, hfits _ he, entries, hnode, hfind⟩
        obtain ⟨hwalks, hreadable⟩ := ih (hbelow _ he) hname.at? hgoal
        rw [List.append_assoc, List.singleton_append] at hwalks hreadable
        exact ⟨.into hname (hbelow _ he).isFile_or hwalks, hreadable⟩
      next => cases hgoal

end HomeAgents.Files
