import HomeAgents.House.ListDirectory
import HomeAgents.Proofs.Collection.Sorted
import HomeAgents.Proofs.House.Sandbox

/-!
# What the listing tool opens

Only the directory that is asked for is checked to lie in the root. Below it the tool opens every
directory that names without a dot at their beginning lead to, ten levels down, and these names may
be names of links. So the tool stays in the root if the links there do, and a link out of the root
takes it outside.
-/

namespace HomeAgents.House

open Files Json

variable {tree : Node} {base rootPlace place goal p : Place} {names more entries : List String}
  {pattern : Option (List Glob.Token)} {deeper depth n : Nat} {inside : List (String × Node)}

/-- Names that are shown lead from a place down to a directory, through not too many levels. -/
def Below (tree : Node) (base : Place) (levels : Nat) (p : Place) : Prop :=
  DirectoryAt tree p ∧ ∃ names n, names.length ≤ levels ∧ (∀ name ∈ names, isHidden name = false) ∧
    n ≤ maxLinks ∧ Walks tree base names n p

/-- Links that are shown in the root and lead to a directory lead to one in the root. -/
def LinksStay (tree : Node) (rootPlace : Place) : Prop :=
  ∀ place name target n goal, rootPlace <+: place → isHidden name = false →
    Has tree place name (.link target) →
    Walks tree (linkBase place target) (components target) n goal → DirectoryAt tree goal →
    rootPlace <+: goal

section Names

theorem mem_names_of_find? {name : String} {node : Node}
    (h : Sorted.find? name inside = some node) : name ∈ orderedNames inside := by
  obtain ⟨before, behind, rfl, -⟩ := List.lookup_eq_some_iff.mp h
  exact List.mem_map.mpr ⟨(name, node), Sorted.mem_byName.mpr (by simp), rfl⟩

/-- A component that is shown is the name of an entry, unless it is empty. -/
theorem mem_names_of_walks {name : String} (h : Walks tree place [name] n goal)
    (hempty : name ≠ "") (hshown : isHidden name = false)
    (hplace : tree.at? place = some (.directory inside)) : name ∈ orderedNames inside := by
  have hfound {node : Node} (hname : Has tree place name node) : name ∈ orderedNames inside := by
    obtain ⟨entries, hat, hfound⟩ := hname.found
    rw [hplace] at hat
    cases hat
    exact mem_names_of_find? hfound
  cases h with
  | stay _ hstay =>
    rcases hstay with rfl | rfl
    · exact absurd rfl hempty
    · exact absurd hshown (by decide)
  | up => exact absurd hshown (by decide)
  | into hname => exact hfound hname
  | through hname => exact hfound hname

/-- Shown names lead from inside the root to directories inside the root, if the links stay. -/
theorem stays_of_walks (hlinks : LinksStay tree rootPlace) (h : Walks tree place names n goal)
    (hplace : rootPlace <+: place) (hshown : ∀ name ∈ names, isHidden name = false)
    (hgoal : DirectoryAt tree goal) : rootPlace <+: goal := by
  induction h with
  | arrived => exact hplace
  | stay _ _ _ ih => exact ih hplace (List.forall_mem_cons.mp hshown).2 hgoal
  | up => exact absurd (List.forall_mem_cons.mp hshown).1 (by decide)
  | into _ _ _ ih =>
    exact ih (hplace.trans (List.prefix_append _ _)) (List.forall_mem_cons.mp hshown).2 hgoal
  | @through _ name target rest m n middle goal hname htarget hrest _ ih =>
    obtain ⟨hfirst, hothers⟩ := List.forall_mem_cons.mp hshown
    have hmiddle : DirectoryAt tree middle := hrest.directoryAt_of_goal hgoal
    exact ih (hlinks _ name target m middle hplace hfirst hname htarget hmiddle) hothers hgoal

end Names

section List

theorem directoryAt?_eq_some_iff (hbase : Real tree base) :
    directoryAt? tree base names = some (p, inside) ↔
      (∃ n, n ≤ maxLinks ∧ Walks tree base names n p) ∧ tree.at? p = some (.directory inside) := by
  rw [directoryAt?, hbase.follow_append, ← follow_eq_ok_iff]
  cases follow tree maxLinks base names with
  | error e => simp
  | ok q =>
    simp only [Except.ok.injEq]
    constructor
    · intro h
      split at h
      next entries hentries =>
        obtain ⟨rfl, rfl⟩ := Prod.mk.inj (Option.some.inj h)
        exact ⟨rfl, hentries⟩
      next => cases h
    · rintro ⟨rfl, hinside⟩
      rw [hinside]

/-- What is opened for one level: the directories among the entries, and what is opened in them. -/
theorem mem_opened_iff :
    p ∈ (listNames tree base pattern deeper depth names entries).opened ↔
      ∃ name ∈ entries, isHidden name = false ∧ ∃ less q inside, deeper = less + 1 ∧
        directoryAt? tree base (names ++ [name]) = some (q, inside) ∧
        (p = q ∨ p ∈ (listNames tree base pattern less (depth + 1) (names ++ [name])
          (orderedNames inside)).opened) := by
  induction entries with
  | nil => simp [listNames]
  | cons name entries ih =>
    simp only [listNames, Listing.append, List.mem_append, ih, List.mem_cons, exists_eq_or_imp]
    refine or_congr_left ?_
    cases isHidden name with
    | true => simp
    | false =>
      cases directoryAt? tree base (names ++ [name]) with
      | none => simp
      | some found =>
        obtain ⟨q, inside⟩ := found
        cases deeper with
        | zero => simp
        | succ less =>
          constructor
          · intro h
            exact ⟨rfl, less, q, inside, rfl, rfl, by simpa using h⟩
          · rintro ⟨-, _, _, _, ⟨⟩, ⟨⟩, h⟩
            simpa using h

/-- What is opened lies a few shown names further down. -/
theorem below_of_mem_opened (hbase : Real tree base)
    (h : p ∈ (listNames tree base pattern deeper depth names entries).opened) :
    DirectoryAt tree p ∧ ∃ more n, more.length ≤ deeper ∧ (∀ name ∈ more, isHidden name = false) ∧
      n ≤ maxLinks ∧ Walks tree base (names ++ more) n p := by
  induction deeper generalizing depth names entries with
  | zero =>
    obtain ⟨_, _, _, less, _, _, hdeeper, -⟩ := mem_opened_iff.mp h
    cases hdeeper
  | succ deeper ih =>
    obtain ⟨name, _, hshown, less, q, inside, hdeeper, hfound, hp⟩ := mem_opened_iff.mp h
    obtain rfl := Nat.succ.inj hdeeper
    obtain ⟨⟨n, hn, hwalk⟩, hinside⟩ := (directoryAt?_eq_some_iff hbase).mp hfound
    rcases hp with rfl | hp
    · exact ⟨⟨inside, hinside⟩, [name], n, Nat.succ_le_succ (Nat.zero_le _),
        List.forall_mem_singleton.mpr hshown, hn, hwalk⟩
    · obtain ⟨hp, more, n, hlength, hmore, hn, hwalk⟩ := ih hp
      rw [List.append_assoc] at hwalk
      exact ⟨hp, name :: more, n, Nat.succ_le_succ hlength,
        List.forall_mem_cons.mpr ⟨hshown, hmore⟩, hn, hwalk⟩

/-- Every directory that lies a few shown names further down is opened. -/
theorem mem_opened_of_walks (hbase : Real tree base) {m : Nat}
    (hnames : Walks tree base names m place) (hplace : tree.at? place = some (.directory inside))
    (hp : DirectoryAt tree p) (hmore : more ≠ []) (hlength : more.length ≤ deeper)
    (hshown : ∀ name ∈ more, name ≠ "" ∧ isHidden name = false)
    (hn : n ≤ maxLinks) (hwalk : Walks tree base (names ++ more) n p) :
    p ∈ (listNames tree base pattern deeper depth names (orderedNames inside)).opened := by
  induction more generalizing deeper depth names m place inside with
  | nil => exact absurd rfl hmore
  | cons name more ih =>
    obtain ⟨⟨hempty, hfirst⟩, hothers⟩ := List.forall_mem_cons.mp hshown
    obtain ⟨deeper, rfl⟩ : ∃ less, deeper = less + 1 := ⟨deeper - 1, by simp at hlength; omega⟩
    have hlength : more.length ≤ deeper := by simpa using hlength
    rw [← List.singleton_append, ← List.append_assoc] at hwalk
    obtain ⟨k, l, q, rfl, hfront, hrest⟩ := hwalk.split
    obtain ⟨entries, hentries⟩ := hrest.directoryAt_of_goal hp
    -- the walk to the next directory passes the one whose entries are listed
    obtain ⟨_, _, middle, rfl, hbefore, hstep⟩ := hfront.split
    obtain rfl := hnames.unique hbefore
    have hname := mem_names_of_walks hstep hempty hfirst hplace
    have hfound := (directoryAt?_eq_some_iff hbase).mpr
      ⟨⟨_, Nat.le_trans (Nat.le_add_right _ l) hn, hfront⟩, hentries⟩
    refine mem_opened_iff.mpr ⟨name, hname, hfirst, deeper, q, entries, rfl, hfound, ?_⟩
    cases more with
    | nil =>
      cases hrest
      exact .inl rfl
    | cons next more =>
      exact .inr (ih hfront hentries (List.cons_ne_nil _ _) hlength hothers hwalk)

/-- Listing a directory opens the directory and what lies below it. -/
theorem mem_listPlace_iff (hplace : Real tree place)
    (hinside : tree.at? place = some (.directory inside)) {recursive : Bool} :
    p ∈ (listPlace tree place pattern recursive inside).opened ↔
      Below tree place (if recursive then maxListDepth else 0) p := by
  generalize hlevels : (if recursive then maxListDepth else 0) = levels
  rw [listPlace, hlevels, Listing.append, List.mem_append, List.mem_singleton]
  constructor
  · rintro (rfl | hp)
    · exact ⟨⟨inside, hinside⟩, [], 0, Nat.zero_le _, fun _ h => absurd h List.not_mem_nil,
        Nat.zero_le _, .arrived⟩
    · exact below_of_mem_opened hplace hp
  · rintro ⟨hp, names, n, hlength, hshown, hn, hwalk⟩
    have hwalk := hwalk.filter_ne_empty
    have hlength := Nat.le_trans (List.length_filter_le (· ≠ "") names) hlength
    have hshown : ∀ name ∈ names.filter (· ≠ ""), name ≠ "" ∧ isHidden name = false := by
      intro name hname
      rw [List.mem_filter] at hname
      exact ⟨by simpa using hname.2, hshown name hname.1⟩
    by_cases hnames : names.filter (· ≠ "") = []
    · rw [hnames] at hwalk
      cases hwalk
      exact .inl rfl
    · exact .inr (mem_opened_of_walks hplace .arrived hinside hp hnames hlength hshown hn hwalk)

end List

section Call

variable {root path output : String} {args : Json} {ctx : ToolContext} {a : ListArgs}
  {listing : Listing}

/-- The pattern of a call, if it has one and the pattern can be read. -/
def readPattern : Option String → Except Glob.PatternError (Option (List Glob.Token))
  | none => .ok none
  | some text => (Glob.read text).map some

/-- A call of the listing tool that succeeds looks at the entries of the directory at a place. -/
def Opens (tree : Node) (root : String) (args : Json) (ctx : ToolContext) (p : Place) : Prop :=
  ∃ a listing output, takeArguments listArguments {} args = .ok a ∧
    executeList tree root args ctx = .success output ∧
    listAt tree root (a.path.getD "") (a.pattern.getD none) (a.recursive.getD false) =
      .ok (listing, output) ∧
    p ∈ listing.opened

/-- A call of the listing tool is carried out, and asks for the directory at a place in the root. -/
structure Lists (tree : Node) (root : String) (rootPlace : Place) (args : Json) (ctx : ToolContext)
    (a : ListArgs) (place : Place) : Prop where
  taken : takeArguments listArguments {} args = .ok a
  live : ctx.cancelled = false
  leads : Leads tree (joinPath root (a.path.getD "")) place
  inside : rootPlace <+: place
  directory : DirectoryAt tree place
  pattern : ∃ tokens, readPattern (a.pattern.getD none) = .ok tokens

theorem listAt_eq_ok_iff {given : Option String} {recursive : Bool} :
    listAt tree root path given recursive = .ok (listing, output) ↔
      ∃ place inside tokens, resolveInRoot tree root path = .ok place ∧
        tree.at? place = some (.directory inside) ∧ readPattern given = .ok tokens ∧
        listing = listPlace tree place tokens recursive inside ∧
        output = listingText (if path.isEmpty then "." else path) tokens.isSome listing.lines := by
  unfold listAt
  cases resolveInRoot tree root path with
  | error e => simp
  | ok place =>
    constructor
    · intro h
      dsimp only at h
      split at h
      next inside hinside =>
        cases given with
        | none =>
          obtain ⟨rfl, rfl⟩ := Prod.mk.inj (Except.ok.inj h)
          exact ⟨place, inside, none, rfl, hinside, rfl, rfl, rfl⟩
        | some text =>
          dsimp only at h
          split at h
          next => cases h
          next tokens htokens =>
            obtain ⟨rfl, rfl⟩ := Prod.mk.inj (Except.ok.inj h)
            have hpattern : readPattern (some text) = .ok (some tokens) := by
              rw [readPattern, htokens]
              rfl
            exact ⟨place, inside, some tokens, rfl, hinside, hpattern, rfl, rfl⟩
      next => cases h
    · rintro ⟨_, inside, tokens, hplace, hinside, hpattern, rfl, rfl⟩
      obtain rfl := Except.ok.inj hplace
      simp only [hinside]
      cases given with
      | none =>
        cases hpattern
        rfl
      | some text =>
        rw [readPattern] at hpattern
        cases htokens : Glob.read text with
        | error e =>
          rw [htokens] at hpattern
          cases hpattern
        | ok read =>
          rw [htokens] at hpattern
          cases hpattern
          dsimp only
          rw [htokens]

theorem executeList_eq_success_iff :
    executeList tree root args ctx = .success output ↔
      ctx.cancelled = false ∧ ∃ a listing, takeArguments listArguments {} args = .ok a ∧
        listAt tree root (a.path.getD "") (a.pattern.getD none) (a.recursive.getD false) =
          .ok (listing, output) := by
  unfold executeList
  by_cases hcancelled : ctx.cancelled = true
  · simp [hcancelled, ToolResult.failure, ToolResult.success]
  · cases takeArguments listArguments {} args with
    | error m => simp [hcancelled, ToolResult.failure, ToolResult.success]
    | ok a =>
      cases hlist : listAt tree root (a.path.getD "") (a.pattern.getD none)
          (a.recursive.getD false) with
      | error e => simp [hcancelled, hlist, ToolResult.failure, ToolResult.success]
      | ok listed =>
        obtain ⟨listing, text⟩ := listed
        simp [hcancelled, hlist, ToolResult.success]

/-- A call opens the directory it asks for and, if it is recursive, the directories below. -/
theorem opens_iff (hroot : Leads tree root rootPlace) (hdirectory : DirectoryAt tree rootPlace) :
    Opens tree root args ctx p ↔
      ∃ a place, Lists tree root rootPlace args ctx a place ∧
        Below tree place (if a.recursive.getD false then maxListDepth else 0) p := by
  constructor
  · rintro ⟨a, listing, output, htaken, hexecuted, hlisted, hp⟩
    obtain ⟨hlive, -⟩ := executeList_eq_success_iff.mp hexecuted
    obtain ⟨place, inside, tokens, hplace, hinside, hpattern, rfl, -⟩ := listAt_eq_ok_iff.mp hlisted
    obtain ⟨hleads, hbelow⟩ := (resolveInRoot_eq_ok_iff hroot hdirectory).mp hplace
    exact ⟨a, place, ⟨htaken, hlive, hleads, hbelow, ⟨inside, hinside⟩, tokens, hpattern⟩,
      (mem_listPlace_iff hleads.real hinside).mp hp⟩
  · rintro ⟨a, place, hlists, hp⟩
    obtain ⟨inside, hinside⟩ := hlists.directory
    obtain ⟨tokens, hpattern⟩ := hlists.pattern
    have hplace := (resolveInRoot_eq_ok_iff hroot hdirectory).mpr ⟨hlists.leads, hlists.inside⟩
    have hlisted : listAt tree root (a.path.getD "") (a.pattern.getD none)
        (a.recursive.getD false) =
          .ok (listPlace tree place tokens (a.recursive.getD false) inside, _) :=
      listAt_eq_ok_iff.mpr ⟨place, inside, tokens, hplace, hinside, hpattern, rfl, rfl⟩
    exact ⟨a, _, _, hlists.taken,
      executeList_eq_success_iff.mpr ⟨hlists.live, a, _, hlists.taken, hlisted⟩, hlisted,
      (mem_listPlace_iff hlists.leads.real hinside).mpr hp⟩

/-- The listing tool opens what lies below the directory it is asked for, and this lies in the root
if the links in the root lead nowhere else. -/
theorem list_opens (hroot : Leads tree root rootPlace) (hdirectory : DirectoryAt tree rootPlace) :
    (∀ args ctx p, Opens tree root args ctx p ↔
      ∃ a place, Lists tree root rootPlace args ctx a place ∧
        Below tree place (if a.recursive.getD false then maxListDepth else 0) p) ∧
    (LinksStay tree rootPlace → ∀ args ctx p, Opens tree root args ctx p → rootPlace <+: p) := by
  refine ⟨fun args ctx p => opens_iff hroot hdirectory, ?_⟩
  intro hlinks args ctx p hp
  obtain ⟨a, place, hlists, hdirectory, names, n, -, hshown, -, hwalk⟩ :=
    (opens_iff hroot hdirectory).mp hp
  exact stays_of_walks hlinks hwalk hlists.inside hshown hdirectory

/-- A house with a link to itself. -/
def hall : Node :=
  .directory [("house", .directory [("again", .link ".")])]

/-- A link may lead back up. -/
theorem list_opens_hall :
    Leads hall "/house" ["house"] ∧ DirectoryAt hall ["house"] ∧ LinksStay hall ["house"] ∧
      Opens hall "/house" (.object [("recursive", .bool true)]) ⟨"", false⟩ ["house"] ∧
      ∀ args ctx p, Opens hall "/house" args ctx p → ["house"] <+: p := by
  have hdirectory : DirectoryAt hall ["house"] := ⟨_, rfl⟩
  have hroot : Leads hall "/house" ["house"] := by
    have hcomponents : components "/house" = ["", "house"] := rfl
    refine ⟨by decide, by decide, 0, by decide, ?_⟩
    rw [hcomponents]
    exact .stay ⟨_, rfl⟩ (.inl rfl)
      (.into ⟨by decide, rfl, _, rfl, rfl⟩ (.inr rfl) .arrived)
  have hlinks : LinksStay hall ["house"] := by
    rintro _ name target n goal ⟨rest, rfl⟩ - hname hwalk -
    obtain ⟨entries, hentries, hfound⟩ := hname.found
    have hhouse : hall.at? ["house"] = some (.directory [("again", .link ".")]) := rfl
    have hagain {first : String} {node : Node}
        (h : Sorted.find? first [("again", Node.link ".")] = some node) : node = .link "." := by
      obtain ⟨before, behind, hsplit, -⟩ := List.lookup_eq_some_iff.mp h
      have hmem : (first, node) ∈ [("again", Node.link ".")] := by simp [hsplit]
      rw [List.mem_singleton] at hmem
      exact (Prod.mk.inj hmem).2
    rw [at?_append, hhouse, Option.bind_some] at hentries
    cases rest with
    | nil =>
      cases hentries
      cases hagain hfound
      have hbase : linkBase ["house"] "." = ["house"] := rfl
      have hcomponents : components "." = ["."] := rfl
      rw [List.append_nil, hbase, hcomponents] at hwalk
      have hstay : Walks hall ["house"] ["."] 0 ["house"] := .stay hdirectory (.inr rfl) .arrived
      obtain rfl := hstay.unique hwalk
      exact List.prefix_refl _
    | cons first rest =>
      -- nothing lies below a link
      simp only [Node.at?] at hentries
      split at hentries
      next node hnode =>
        obtain rfl := hagain hnode
        cases rest with
        | nil => cases hentries
        | cons => cases hentries
      next => cases hentries
  obtain ⟨hopens, hstays⟩ := list_opens hroot hdirectory
  have hlists : Lists hall "/house" ["house"] (.object [("recursive", .bool true)]) ⟨"", false⟩
      ⟨none, none, some true⟩ ["house"] :=
    ⟨rfl, rfl, hroot.joinPath_stay hdirectory (.inl rfl), List.prefix_refl _, hdirectory, none, rfl⟩
  have hbelow : Below hall ["house"] maxListDepth ["house"] :=
    ⟨hdirectory, [], 0, by decide, by decide, by decide, .arrived⟩
  exact ⟨hroot, hdirectory, hlinks, (hopens _ _ _).mpr ⟨_, _, hlists, hbelow⟩, hstays hlinks⟩

/-- In the grounds a recursive listing of the house goes on into the garden, although the tool
refuses the link to the garden when it is asked for it. -/
theorem list_leaves_house :
    Leads grounds "/house" ["house"] ∧ DirectoryAt grounds ["house"] ∧
      Opens grounds "/house" (.object [("recursive", .bool true)]) ⟨"", false⟩ ["house garden"] ∧
      ¬ ["house"] <+: ["house garden"] ∧
      executeList grounds "/house" (.object [("path", .string "exit")]) ⟨"", false⟩ =
        .failure (PathError.outside "exit").message := by
  have hexit : Walks grounds ["house"] ["exit"] 1 ["house garden"] := walks_exit .arrived
  have hleads : Leads grounds (joinPath "/house" "exit") ["house garden"] := by
    have hcomponents : components (joinPath "/house" "exit") = ["", "house", "exit"] := by
      decide +kernel
    refine ⟨by decide +kernel, by decide +kernel, 1, by decide, ?_⟩
    rw [hcomponents]
    exact .stay ⟨_, rfl⟩ (.inl rfl) (walks_house hexit)
  have hrefused : resolveInRoot grounds "/house" "exit" = .error (.outside "exit") :=
    (resolveInRoot_outside_iff leads_house directoryAt_house).mpr ⟨rfl, _, hleads, by decide⟩
  have hlists : Lists grounds "/house" ["house"] (.object [("recursive", .bool true)]) ⟨"", false⟩
      ⟨none, none, some true⟩ ["house"] :=
    ⟨rfl, rfl, leads_house.joinPath_stay directoryAt_house (.inl rfl), List.prefix_refl _,
      directoryAt_house, none, rfl⟩
  have hbelow : Below grounds ["house"] maxListDepth ["house garden"] :=
    ⟨⟨_, rfl⟩, ["exit"], 1, by decide, by decide, by decide, hexit⟩
  have htaken : takeArguments listArguments {} (.object [("path", .string "exit")]) =
      .ok ⟨some "exit", none, none⟩ := rfl
  refine ⟨leads_house, directoryAt_house,
    (opens_iff leads_house directoryAt_house).mpr ⟨_, _, hlists, hbelow⟩, by decide, ?_⟩
  simp [executeList, listAt, htaken, hrefused]

end Call

end HomeAgents.House
