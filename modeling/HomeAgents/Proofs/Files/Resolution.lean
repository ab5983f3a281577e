import HomeAgents.Files.Path

/-!
# Where a path leads

`Walks` says where components lead from a place, with one rule for each kind of component. A link is
a walk of its own, and what stands behind the link goes on from the end of that walk; the links of
all parts are counted together. Following components, which puts the target of a link in front of
what is still to do, finds exactly the walks with few enough links.
-/

namespace HomeAgents.Files

/-- A directory stands at a place. -/
def DirectoryAt (tree : Node) (place : Place) : Prop :=
  ∃ entries, tree.at? place = some (.directory entries)

/-- The directory at a place has a node under a name that can be looked up. -/
structure Has (tree : Node) (place : Place) (name : String) (node : Node) : Prop where
  proper : name ≠ "" ∧ name ≠ "." ∧ name ≠ ".."
  fits : tooLong place name = false
  found : ∃ entries, tree.at? place = some (.directory entries) ∧
    Sorted.find? name entries = some node

/-- Where the walk through a link begins that stands in the directory at a place. -/
def linkBase (place : Place) (target : String) : Place :=
  if isAbsolute target then [] else place

/-- From a place, components lead to a goal through a number of links. -/
inductive Walks (tree : Node) : Place → List String → Nat → Place → Prop where
  | arrived {place} : Walks tree place [] 0 place
  | stay {place name rest n goal} (hplace : DirectoryAt tree place) (hname : name = "" ∨ name = ".")
      (hrest : Walks tree place rest n goal) : Walks tree place (name :: rest) n goal
  | up {place rest n goal} (hplace : DirectoryAt tree place)
      (hrest : Walks tree place.dropLast rest n goal) : Walks tree place (".." :: rest) n goal
  | into {place name node rest n goal} (hname : Has tree place name node)
      (hnode : node.isFile ∨ node.isDirectory) (hrest : Walks tree (place ++ [name]) rest n goal) :
      Walks tree place (name :: rest) n goal
  | through {place name target rest m n middle goal} (hname : Has tree place name (.link target))
      (htarget : Walks tree (linkBase place target) (components target) m middle)
      (hrest : Walks tree middle rest n goal) : Walks tree place (name :: rest) (m + n + 1) goal

/-- A path leads to a place. -/
def Leads (tree : Node) (path : String) (place : Place) : Prop :=
  '\x00' ∉ path.toList ∧ path ≠ "" ∧ ∃ n, n ≤ maxLinks ∧ Walks tree [] (components path) n place

/-- A place is reached by its names alone: they are looked up one after the other, and none of them
is the name of a link. -/
inductive Real (tree : Node) : Place → Prop where
  | root (htree : DirectoryAt tree []) : Real tree []
  | child {place name node} (hplace : Real tree place) (hname : Has tree place name node)
      (hnode : node.isFile ∨ node.isDirectory) : Real tree (place ++ [name])

variable {tree node : Node} {place goal goal' : Place} {name target path : String}
  {names front rest : List String} {links n n' : Nat}

theorem Has.directoryAt (h : Has tree place name node) : DirectoryAt tree place := by
  obtain ⟨entries, hplace, _⟩ := h.found
  exact ⟨entries, hplace⟩

section Follow

theorem follow_stay (hplace : DirectoryAt tree place) (hname : name = "" ∨ name = ".") :
    follow tree links place (name :: rest) = follow tree links place rest := by
  obtain ⟨entries, hplace⟩ := hplace
  simp only [follow, hplace, if_pos hname]

theorem follow_up (hplace : DirectoryAt tree place) :
    follow tree links place (".." :: rest) = follow tree links place.dropLast rest := by
  obtain ⟨entries, hplace⟩ := hplace
  have hstay : ¬ (".." = "" ∨ ".." = ".") := by decide
  rw [follow, hplace]
  simp only [if_neg hstay, if_pos]

theorem follow_into (hname : Has tree place name node) (hnode : node.isFile ∨ node.isDirectory) :
    follow tree links place (name :: rest) = follow tree links (place ++ [name]) rest := by
  obtain ⟨⟨hempty, hdot, hup⟩, hfits, entries, hplace, hfound⟩ := hname
  have hstay : ¬ (name = "" ∨ name = ".") := not_or.mpr ⟨hempty, hdot⟩
  rw [follow]
  simp only [hplace, if_neg hstay, if_neg hup, hfits, hfound]
  cases node with
  | file bytes => rfl
  | directory inside => rfl
  | link target => simp [Node.isFile, Node.isDirectory] at hnode

theorem follow_through (hname : Has tree place name (.link target)) :
    follow tree (links + 1) place (name :: rest) =
      follow tree links (linkBase place target) (components target ++ rest) := by
  obtain ⟨⟨hempty, hdot, hup⟩, hfits, entries, hplace, hfound⟩ := hname
  have hstay : ¬ (name = "" ∨ name = ".") := not_or.mpr ⟨hempty, hdot⟩
  rw [follow]
  simp only [hplace, if_neg hstay, if_neg hup, hfits, hfound, linkBase]
  rfl

theorem follow_missing {entries : Sorted Node} (hname : name ≠ "" ∧ name ≠ "." ∧ name ≠ "..")
    (hfits : tooLong place name = false) (hplace : tree.at? place = some (.directory entries))
    (hfound : Sorted.find? name entries = none) :
    follow tree links place (name :: rest) = .error .notFound := by
  obtain ⟨hempty, hdot, hup⟩ := hname
  have hstay : ¬ (name = "" ∨ name = ".") := not_or.mpr ⟨hempty, hdot⟩
  rw [follow]
  simp only [hplace, if_neg hstay, if_neg hup, hfits, hfound]
  rfl

/-- A walk is followed to its goal, and costs as many links as it has. -/
theorem Walks.follow_append (h : Walks tree place names n goal) (links : Nat) (rest : List String) :
    follow tree (links + n) place (names ++ rest) = follow tree links goal rest := by
  induction h generalizing links rest with
  | arrived => rfl
  | stay hplace hname _ ih => rw [List.cons_append, follow_stay hplace hname, ih]
  | up hplace _ ih => rw [List.cons_append, follow_up hplace, ih]
  | into hname hnode _ ih => rw [List.cons_append, follow_into hname hnode, ih]
  | @through _ _ _ _ m n _ _ hname _ _ ihtarget ihrest =>
    have hlinks : links + (m + n + 1) = links + n + m + 1 := by omega
    rw [List.cons_append, hlinks, follow_through hname, ihtarget, ihrest]

theorem Walks.follow (h : Walks tree place names n goal) (hn : n ≤ links) :
    follow tree links place names = .ok goal := by
  have hfollow := h.follow_append (links - n) []
  rw [Nat.sub_add_cancel hn, List.append_nil] at hfollow
  rw [hfollow, Files.follow]

theorem Walks.unique (h : Walks tree place names n goal) (h' : Walks tree place names n' goal') :
    goal = goal' := by
  have hfollow := h.follow (Nat.le_add_right n n')
  rw [h'.follow (Nat.le_add_left n' n)] at hfollow
  exact (Except.ok.inj hfollow).symm

theorem Walks.append {m : Nat} {middle : Place} (h : Walks tree place front m middle)
    (hrest : Walks tree middle rest n goal) : Walks tree place (front ++ rest) (m + n) goal := by
  induction h with
  | arrived => rwa [Nat.zero_add]
  | stay hplace hname _ ih => exact .stay hplace hname (ih hrest)
  | up hplace _ ih => exact .up hplace (ih hrest)
  | into hname hnode _ ih => exact .into hname hnode (ih hrest)
  | @through _ _ _ _ m k _ _ hname htarget _ _ ih =>
    have hlinks : m + k + 1 + n = m + (k + n) + 1 := by omega
    rw [hlinks]
    exact .through hname htarget (ih hrest)

theorem Walks.split (h : Walks tree place (front ++ rest) n goal) :
    ∃ m k middle, n = m + k ∧ Walks tree place front m middle ∧ Walks tree middle rest k goal := by
  induction front generalizing place n with
  | nil => exact ⟨0, n, place, (Nat.zero_add n).symm, .arrived, h⟩
  | cons name front ih =>
    cases h with
    | stay hplace hname hrest =>
      obtain ⟨m, k, middle, hn, hfront, hbehind⟩ := ih hrest
      exact ⟨m, k, middle, hn, .stay hplace hname hfront, hbehind⟩
    | up hplace hrest =>
      obtain ⟨m, k, middle, hn, hfront, hbehind⟩ := ih hrest
      exact ⟨m, k, middle, hn, .up hplace hfront, hbehind⟩
    | into hname hnode hrest =>
      obtain ⟨m, k, middle, hn, hfront, hbehind⟩ := ih hrest
      exact ⟨m, k, middle, hn, .into hname hnode hfront, hbehind⟩
    | @through _ _ _ _ l _ _ _ hname htarget hrest =>
      obtain ⟨m, k, middle, rfl, hfront, hbehind⟩ := ih hrest
      exact ⟨l + m + 1, k, middle, by omega, .through hname htarget hfront, hbehind⟩

/-- Empty components lead nowhere. -/
theorem Walks.filter_ne_empty (h : Walks tree place names n goal) :
    Walks tree place (names.filter (· ≠ "")) n goal := by
  induction h with
  | arrived => exact .arrived
  | @stay _ name _ _ _ hplace hname _ ih =>
    by_cases hempty : name = ""
    · rw [List.filter_cons_of_neg (by simpa using hempty)]
      exact ih
    · rw [List.filter_cons_of_pos (by simpa using hempty)]
      exact .stay hplace hname ih
  | up hplace _ ih =>
    rw [List.filter_cons_of_pos (by decide)]
    exact .up hplace ih
  | into hname hnode _ ih =>
    rw [List.filter_cons_of_pos (by simpa using hname.proper.1)]
    exact .into hname hnode ih
  | through hname htarget _ _ ih =>
    rw [List.filter_cons_of_pos (by simpa using hname.proper.1)]
    exact .through hname htarget ih

/-- Following finds the walks that have few enough links, and nothing else. -/
theorem follow_eq_ok_iff :
    follow tree links place names = .ok goal ↔ ∃ n, n ≤ links ∧ Walks tree place names n goal := by
  constructor
  · intro h
    fun_induction Files.follow tree links place names with
    | case1 links place =>
      obtain rfl := Except.ok.inj h
      exact ⟨0, Nat.zero_le links, .arrived⟩
    | case2 links place name rest entries hplace hname ih =>
      obtain ⟨n, hn, hrest⟩ := ih h
      exact ⟨n, hn, .stay ⟨entries, hplace⟩ hname hrest⟩
    | case3 links place rest entries hplace _ ih =>
      obtain ⟨n, hn, hrest⟩ := ih h
      exact ⟨n, hn, .up ⟨entries, hplace⟩ hrest⟩
    | case7 place name rest entries hplace hstay hup hfits target hfound links ih =>
      obtain ⟨n, hn, hwalk⟩ := ih h
      obtain ⟨m, k, middle, rfl, htarget, hrest⟩ := hwalk.split
      have hname : Has tree place name (.link target) :=
        ⟨⟨(not_or.mp hstay).1, (not_or.mp hstay).2, hup⟩, eq_false_of_ne_true hfits,
          entries, hplace, hfound⟩
      exact ⟨m + k + 1, Nat.succ_le_succ hn, .through hname htarget hrest⟩
    | case8 links place name rest entries hplace hstay hup hfits node hlink hfound ih =>
      obtain ⟨n, hn, hrest⟩ := ih h
      have hname : Has tree place name node :=
        ⟨⟨(not_or.mp hstay).1, (not_or.mp hstay).2, hup⟩, eq_false_of_ne_true hfits,
          entries, hplace, hfound⟩
      have hnode : node.isFile ∨ node.isDirectory := by
        cases node with
        | file bytes => exact .inl rfl
        | directory inside => exact .inr rfl
        | link target => exact absurd rfl (hlink target)
      exact ⟨n, hn, .into hname hnode hrest⟩
    | _ => cases h
  · rintro ⟨n, hn, hwalk⟩
    exact hwalk.follow hn

theorem resolve_eq_ok_iff : resolve tree path = .ok place ↔ Leads tree path place := by
  by_cases hnul : path.toList.contains '\x00'
  · have hmem : '\x00' ∈ path.toList := by simpa using hnul
    rw [resolve, if_pos hnul]
    exact ⟨fun h => (by cases h), fun h => absurd hmem h.1⟩
  · have hmem : '\x00' ∉ path.toList := by simpa using hnul
    rw [resolve, if_neg hnul]
    by_cases hempty : path = ""
    · rw [hempty]
      exact ⟨fun h => (by cases h), fun h => absurd rfl h.2.1⟩
    · have hisEmpty : ¬ path.isEmpty := by simpa using hempty
      rw [if_neg hisEmpty, follow_eq_ok_iff]
      exact ⟨fun h => ⟨hmem, hempty, h⟩, fun h => h.2.2⟩

end Follow

section Real

theorem at?_append (names : List String) :
    tree.at? (place ++ names) = (tree.at? place).bind (·.at? names) := by
  induction place generalizing tree with
  | nil => rfl
  | cons name place ih =>
    cases tree with
    | file bytes => rfl
    | link target => rfl
    | directory entries =>
      simp only [List.cons_append, Node.at?]
      cases Sorted.find? name entries with
      | none => rfl
      | some node => exact ih

theorem Has.at? (h : Has tree place name node) : tree.at? (place ++ [name]) = some node := by
  obtain ⟨entries, hplace, hfound⟩ := h.found
  rw [at?_append, hplace]
  simp only [Option.bind_some, Node.at?, hfound]

theorem Real.dropLast (h : Real tree place) : Real tree place.dropLast := by
  cases h with
  | root htree => exact .root htree
  | child hplace hname hnode => rwa [List.dropLast_concat]

/-- What stands at a real place is no link. -/
theorem Real.stands (h : Real tree place) :
    ∃ node, tree.at? place = some node ∧ (node.isFile ∨ node.isDirectory) := by
  cases h with
  | root htree =>
    obtain ⟨entries, htree⟩ := htree
    exact ⟨.directory entries, htree, .inr rfl⟩
  | child hplace hname hnode => exact ⟨_, hname.at?, hnode⟩

theorem Real.linkBase (h : Real tree place) : Real tree (linkBase place target) := by
  have hroot : Real tree [] := by
    induction h with
    | root htree => exact .root htree
    | child _ _ _ ih => exact ih
  unfold Files.linkBase
  split
  · exact hroot
  · exact h

theorem Walks.real (h : Walks tree place names n goal) (hplace : Real tree place) :
    Real tree goal := by
  induction h with
  | arrived => exact hplace
  | stay _ _ _ ih => exact ih hplace
  | up _ _ ih => exact ih hplace.dropLast
  | into hname hnode _ ih => exact ih (hplace.child hname hnode)
  | through _ _ _ ihtarget ihrest => exact ihrest (ihtarget hplace.linkBase)

/-- A real place is walked to by its own names. -/
theorem Real.follow_append (h : Real tree place) (links : Nat) (names : List String) :
    follow tree links [] (place ++ names) = follow tree links place names := by
  induction h generalizing names with
  | root htree => rfl
  | child hplace hname hnode ih =>
    rw [List.append_assoc, ih, List.singleton_append, follow_into hname hnode]

theorem Walks.directoryAt (h : Walks tree place (name :: rest) n goal) :
    DirectoryAt tree place := by
  cases h with
  | stay hplace => exact hplace
  | up hplace => exact hplace
  | into hname => exact hname.directoryAt
  | through hname => exact hname.directoryAt

/-- A walk to a directory begins at a directory. -/
theorem Walks.directoryAt_of_goal (h : Walks tree place names n goal)
    (hgoal : DirectoryAt tree goal) : DirectoryAt tree place := by
  cases names with
  | nil =>
    cases h
    exact hgoal
  | cons => exact h.directoryAt

end Real

section Components

theorem splitFrom_append (mark : Char) (current front behind : List Char) :
    Text.splitFrom mark current (front ++ mark :: behind) =
      Text.splitFrom mark current front ++ Text.splitFrom mark [] behind := by
  induction front generalizing current with
  | nil => simp only [List.nil_append, Text.splitFrom, if_true, List.singleton_append]
  | cons c front ih =>
    simp only [List.cons_append, Text.splitFrom]
    split
    · rw [ih, List.cons_append]
    · exact ih _

theorem components_slash (front behind : String) :
    components (front ++ "/" ++ behind) = components front ++ components behind := by
  have hlist : (front ++ "/" ++ behind).toList = front.toList ++ '/' :: behind.toList := by
    simp [String.toList_append]
  simp only [components, Text.splitAt, hlist, splitFrom_append, List.map_append]

theorem components_ne_nil (path : String) : components path ≠ [] := by
  have hsplit : ∀ current cs, Text.splitFrom '/' current cs ≠ [] := by
    intro current cs
    fun_induction Text.splitFrom '/' current cs with
    | case3 current c cs hc ih => exact ih
    | _ => exact List.cons_ne_nil _ _
  simpa [components, Text.splitAt] using hsplit [] path.toList

theorem Leads.real (h : Leads tree path place) : Real tree place := by
  obtain ⟨_, _, n, _, hwalk⟩ := h
  cases hpath : components path with
  | nil => exact absurd hpath (components_ne_nil path)
  | cons name rest =>
    rw [hpath] at hwalk
    exact hwalk.real (.root hwalk.directoryAt)

theorem eq_append_slash (h : path.endsWith "/" = true) : ∃ front, path = front ++ "/" := by
  rw [String.endsWith_eq_endsWith_toSlice, String.Slice.endsWith_string_iff,
    String.copy_toSlice] at h
  obtain ⟨front, hfront⟩ := h
  refine ⟨String.ofList front, String.toList_inj.mp ?_⟩
  rw [String.toList_append, String.toList_ofList, hfront]

/-- An empty component or `.` behind a directory leads to the directory. -/
theorem Leads.joinPath_stay {root : String} (h : Leads tree root place)
    (hplace : DirectoryAt tree place) (hpath : path = "" ∨ path = ".") :
    Leads tree (joinPath root path) place := by
  obtain ⟨hnul, hempty, n, hn, hwalk⟩ := h
  have habsolute : isAbsolute path = false := by rcases hpath with rfl | rfl <;> decide
  have hcomponents : components path = [path] := by rcases hpath with rfl | rfl <;> decide
  have hpathNul : '\x00' ∉ path.toList := by rcases hpath with rfl | rfl <;> decide
  have hstay : Walks tree place [path] 0 place := .stay hplace hpath .arrived
  have hroot : ¬ root.isEmpty := by simpa using hempty
  unfold joinPath
  rw [if_neg (by simp [habsolute, hroot])]
  split
  next hslash =>
    obtain ⟨front, rfl⟩ := eq_append_slash hslash
    have hfront : components (front ++ "/") = components front ++ [""] := by
      have h := components_slash front ""
      rwa [String.append_empty] at h
    rw [hfront] at hwalk
    obtain ⟨m, k, middle, hm, hbefore, hbehind⟩ := hwalk.split
    have hlast : Walks tree middle [""] 0 middle := .stay hbehind.directoryAt (.inl rfl) .arrived
    obtain rfl := hlast.unique hbehind
    refine ⟨?_, ?_, m + 0, by omega, ?_⟩
    · simp only [String.toList_append, List.mem_append, not_or] at hnul ⊢
      exact ⟨hnul, hpathNul⟩
    · simp
    · rw [components_slash, hcomponents]
      exact hbefore.append hstay
  next =>
    refine ⟨?_, by simp, n + 0, hn, ?_⟩
    · have hslash : '\x00' ∉ "/".toList := by decide
      simp only [String.toList_append, List.mem_append, not_or]
      exact ⟨⟨hnul, hslash⟩, hpathNul⟩
    · rw [components_slash, hcomponents]
      exact hwalk.append hstay

end Components

end HomeAgents.Files
