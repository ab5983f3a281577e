import HomeAgents.Proofs.Files.Resolution
import HomeAgents.Provider.Client
import HomeAgents.Setting.Settings

/-!
# The key of a provider that is only listed

A provider that is known only by its entry among the credentials is found under the name it is
called by. Its key is looked for under another spelling of this name, in lower case and with hyphens
for spaces. The two agree exactly for the names that are spelled like this already; for any other
name the key is that of another entry, or there is none.
-/

namespace HomeAgents

namespace Text

/-- Replacing one character by another one goes character by character. -/
theorem replaceFrom_single (a b : Char) (cs : List Char) :
    replaceFrom [a] [b] 0 cs = cs.map fun c => if c = a then b else c := by
  induction cs with
  | nil => rfl
  | cons c cs ih =>
    by_cases hc : c = a
    · subst hc
      simp [replaceFrom, ih]
    · have hne : ¬ a = c := fun h => hc h.symm
      simp [replaceFrom, ih, hc, hne]

end Text

namespace Unicode

/-- No run of the lower-case mappings leads down to the space. -/
theorem lowerRuns_above_space : ∀ r ∈ lowerRuns, (32 : Int) < r.first + r.shift := by
  decide +kernel

theorem lowerSeveral_no_space : ∀ e ∈ lowerSeveral, ' ' ∉ e.2.map Char.ofNat := by
  decide +kernel

theorem toLower_ne_space : ∀ n : Fin 128, n ≠ 32 → (Char.ofNat n).toLower ≠ ' ' := by
  decide +kernel

theorem CaseRun.lt_of_map? {r : CaseRun} {n m : Nat} {k : Int} (hr : k < r.first + r.shift)
    (h : r.map? n = some m) : k < m := by
  unfold CaseRun.map? at h
  split at h
  next hin =>
    have hfirst : r.first ≤ n := by
      simp only [Bool.and_eq_true, decide_eq_true_eq] at hin
      exact hin.1.1
    have hm : ((n : Int) + r.shift).toNat = m := Option.some.inj h
    omega
  next => cases h

theorem ofNat_ne_space {n : Nat} (h : 32 < n) : Char.ofNat n ≠ ' ' := by
  intro he
  by_cases hvalid : n.isValidChar
  · rw [Char.ofNat, dif_pos hvalid] at he
    have hn : n = 32 := congrArg Char.toNat he
    omega
  · rw [Char.ofNat, dif_neg hvalid] at he
    cases he

theorem space_not_mem_caseImage {c : Char} (hc : c ≠ ' ') :
    ' ' ∉ caseImage lowerRuns lowerSeveral c := by
  unfold caseImage
  split
  next ns hns =>
    obtain ⟨front, back, hsplit, _⟩ := List.lookup_eq_some_iff.mp hns
    exact lowerSeveral_no_space (c.toNat, ns) (by simp [hsplit])
  next =>
    split
    next n hn =>
      obtain ⟨r, hr, hmap⟩ := List.exists_of_findSome?_eq_some hn
      have habove := CaseRun.lt_of_map? (lowerRuns_above_space r hr) hmap
      simpa using fun h => ofNat_ne_space (by omega) h.symm
    next => simpa using fun h => hc h.symm

/-- Only the space has a space for its lower case. -/
theorem space_mem_lowerChar {c : Char} : ' ' ∈ lowerChar c ↔ ' ' = c := by
  by_cases hc : c = ' '
  · subst hc
    decide
  · refine iff_of_false ?_ fun h => hc h.symm
    unfold lowerChar
    split
    next hsmall =>
      have hne : c.toNat ≠ 32 := fun h => hc (by rw [← Char.ofNat_toNat c, h])
      have hlower := toLower_ne_space ⟨c.toNat, hsmall⟩ fun h => hne (congrArg Fin.val h)
      rw [Char.ofNat_toNat] at hlower
      simpa using fun h => hlower h.symm
    next => exact space_not_mem_caseImage hc

theorem space_mem_lowerFrom (before cs : List Char) : ' ' ∈ lowerFrom before cs ↔ ' ' ∈ cs := by
  induction cs generalizing before with
  | nil => exact Iff.rfl
  | cons c cs ih =>
    simp only [lowerFrom, List.mem_append, List.mem_cons, ih]
    by_cases hc : c = 'Σ'
    · subst hc
      split
      next => split <;> simp
      next h => exact absurd rfl h
    · rw [if_neg hc, space_mem_lowerChar]

theorem space_mem_toLower (s : String) : ' ' ∈ (toLower s).toList ↔ ' ' ∈ s.toList := by
  rw [toLower, String.toList_ofList, space_mem_lowerFrom]

end Unicode

namespace ProviderConfig

/-- The spelling of a name for the credentials. -/
def spelling (name : String) : String :=
  Text.replace (Unicode.toLower name) " " "-"

theorem authKey_eq (p : ProviderConfig) : p.authKey = spelling p.name := rfl

theorem spelling_toList (name : String) :
    (spelling name).toList =
      (Unicode.toLower name).toList.map fun c => if c = ' ' then '-' else c := by
  have hspace : " ".toList = [' '] := rfl
  have hhyphen : "-".toList = ['-'] := rfl
  rw [spelling, Text.replace, String.toList_ofList, hspace, hhyphen, Text.replaceFrom_single]

theorem space_not_mem_spelling (name : String) : ' ' ∉ (spelling name).toList := by
  rw [spelling_toList]
  intro h
  obtain ⟨c, _, hc⟩ := List.mem_map.mp h
  split at hc
  · cases hc
  next hne => exact hne hc

/-- A name is its own spelling for the credentials exactly if it is in lower case and has no
spaces. -/
theorem spelling_eq_iff (name : String) :
    spelling name = name ↔ Unicode.toLower name = name ∧ ' ' ∉ name.toList := by
  have hkept (hspace : ' ' ∉ name.toList) : spelling name = Unicode.toLower name := by
    rw [← Unicode.space_mem_toLower] at hspace
    apply String.toList_injective
    rw [spelling_toList]
    refine (List.map_congr_left fun c hc => ?_).trans (List.map_id _)
    have hne : c ≠ ' ' := fun h => hspace (h ▸ hc)
    rw [if_neg hne, id]
  constructor
  · intro h
    have hspace : ' ' ∉ name.toList := by
      rw [← h]
      exact space_not_mem_spelling name
    exact ⟨(hkept hspace).symm.trans h, hspace⟩
  · rintro ⟨hlower, hspace⟩
    rw [hkept hspace, hlower]

/-- Where the variable for its key is not set, a provider has the key that is listed under the
spelling of its name for the credentials. -/
theorem findKey_of_unset (p : ProviderConfig) {vars : EnvironmentVariables} {tree : Files.Node}
    {directory path : String} {cs : Credentials}
    (hunset : Ordered.find? p.apiKeyEnv (DotEnv.completed vars tree directory) = none)
    (hpath : Places.credentialsFile? (DotEnv.completed vars tree directory) = some path)
    (hload : Credentials.load tree path = .ok cs) :
    p.findKey vars tree directory =
      (cs.key? (spelling p.name)).elim (.error (.missingApiKey p.apiKeyEnv)) .ok := by
  simp only [findKey, hunset, hpath, hload, Option.none_or, Option.bind_eq_bind, Option.bind_some,
    Except.toOption, authKey_eq]
  cases cs.key? (spelling p.name) <;> rfl

end ProviderConfig

/-- A name that is no preset is listed with an address among credentials, which are where they
belong, and the variable for its key is not set. -/
structure Listed (vars : EnvironmentVariables) (tree : Files.Node) (directory : String)
    (cs : Credentials) (name : String) (c : Credential) : Prop where
  preset : ProviderConfig.preset? name = none
  entry : Sorted.find? name cs = some c
  address : c.baseUrl.isSome = true
  stored : ∃ path, Places.credentialsFile? (DotEnv.completed vars tree directory) = some path ∧
    Credentials.load tree path = .ok cs
  unset : Ordered.find? (ProviderConfig.keyVariable name)
    (DotEnv.completed vars tree directory) = none

section Listed

variable {vars : EnvironmentVariables} {tree : Files.Node} {directory : String} {cs : Credentials}
  {c : Credential}

/-- The provider of a listed name is made of its entry, and its key is looked for under the other
spelling of the name. -/
theorem Settings.exists_provider (s : Settings)
    (h : Listed vars tree directory cs s.llm.provider c) :
    ∃ p, s.provider cs = .ok p ∧ p.name = s.llm.provider ∧
      some p.baseUrl = s.llm.baseUrl.or c.baseUrl ∧
      p.findKey vars tree directory =
        (cs.key? (ProviderConfig.spelling s.llm.provider)).elim
          (.error (.missingApiKey (ProviderConfig.keyVariable s.llm.provider))) .ok := by
  obtain ⟨url, hurl⟩ := Option.isSome_iff_exists.mp h.address
  obtain ⟨path, hpath, hload⟩ := h.stored
  have hcustom : cs.customProvider? s.llm.provider =
      some (.custom s.llm.provider url c.model) := by
    simp [Credentials.customProvider?, h.entry, hurl]
  let p := (ProviderConfig.custom s.llm.provider url c.model).withOverrides s.llm.baseUrl
    s.llm.model
  refine ⟨p, ?_, rfl, ?_, p.findKey_of_unset h.unset hpath hload⟩
  · simp only [provider, h.preset, hcustom]
    rfl
  · rw [hurl]
    cases hgiven : s.llm.baseUrl <;> simp [p, hgiven, ProviderConfig.withOverrides,
      ProviderConfig.custom]

/-- The provider of a listed name has the key of its own entry if the name is in lower case and has
no spaces. Otherwise it has the key of the entry with its other spelling, or none if there is no
such entry; so it gets its own key only where the two are the same. -/
theorem Settings.key_of_listed (s : Settings)
    (h : Listed vars tree directory cs s.llm.provider c) :
    ∃ p, s.provider cs = .ok p ∧ p.name = s.llm.provider ∧
      some p.baseUrl = s.llm.baseUrl.or c.baseUrl ∧
      (∀ key, p.findKey vars tree directory = .ok key ↔ ∃ other,
        Sorted.find? (ProviderConfig.spelling s.llm.provider) cs = some other ∧ other.key = key) ∧
      (p.findKey vars tree directory =
          .error (.missingApiKey (ProviderConfig.keyVariable s.llm.provider)) ↔
        Sorted.find? (ProviderConfig.spelling s.llm.provider) cs = none) ∧
      (Unicode.toLower s.llm.provider = s.llm.provider ∧ ' ' ∉ s.llm.provider.toList →
        p.findKey vars tree directory = .ok c.key) ∧
      ((∀ name other, Sorted.find? name cs = some other → other.key = c.key →
          name = s.llm.provider) →
        p.findKey vars tree directory = .ok c.key →
          Unicode.toLower s.llm.provider = s.llm.provider ∧ ' ' ∉ s.llm.provider.toList) := by
  obtain ⟨p, hprovider, hname, hurl, hfind⟩ := s.exists_provider h
  have hspelling := ProviderConfig.spelling_eq_iff s.llm.provider
  have hkey (key : String) : p.findKey vars tree directory = .ok key ↔ ∃ other,
      Sorted.find? (ProviderConfig.spelling s.llm.provider) cs = some other ∧ other.key = key := by
    rw [hfind, Credentials.key?]
    cases Sorted.find? (ProviderConfig.spelling s.llm.provider) cs <;> simp
  refine ⟨p, hprovider, hname, hurl, hkey, ?_, ?_, ?_⟩
  · rw [hfind, Credentials.key?]
    cases Sorted.find? (ProviderConfig.spelling s.llm.provider) cs <;> simp
  · intro hplain
    rw [hkey, hspelling.mpr hplain]
    exact ⟨c, h.entry, rfl⟩
  · intro hunique hown
    obtain ⟨other, hother, hsame⟩ := (hkey c.key).mp hown
    exact hspelling.mp (hunique _ _ hother hsame)

end Listed

/-- A house with a file of credentials in its folder of data. -/
def kitchen (cs : Credentials) : Files.Node :=
  .directory [("data", .directory [("bmo", .directory
    [("auth.json", .file cs.toText.toUTF8)])])]

/-- The variable for the folder of data. -/
def kitchenVars : EnvironmentVariables :=
  [("XDG_DATA_HOME", "/data")]

/-- The settings of somebody who asks a provider of that name. -/
def kitchenSettings (name : String) : Settings :=
  { Settings.initial kitchenVars "/" with llm := { provider := name } }

/-- There is no file of variables in the kitchen. -/
theorem completed_kitchen (cs : Credentials) :
    DotEnv.completed kitchenVars (kitchen cs) "/" = kitchenVars := by
  have hnames : ((Files.components "/").filter fun name => !name.isEmpty).reverse = [] := by
    decide +kernel
  have hcomponents : Files.components "/.env" = ["", ".env"] := by decide +kernel
  have hread : Files.readBytes (kitchen cs) "/.env" = .error .notFound := by
    have hresolve : Files.resolve (kitchen cs) "/.env" = .error .notFound := by
      rw [Files.resolve, if_neg (by decide +kernel), if_neg (by decide +kernel), hcomponents,
        Files.follow_stay ⟨_, rfl⟩ (.inl rfl)]
      exact Files.follow_missing (by decide) (by decide +kernel) rfl rfl
    rw [Files.readBytes, Files.nodeAt, hresolve]
  rw [DotEnv.completed, hnames, DotEnv.findIn?, hread]
  rfl

theorem load_kitchen {cs : Credentials}
    (hread : (Credentials.ofText cs.toText).toOption = some cs) :
    Credentials.load (kitchen cs) "/data/bmo/auth.json" = .ok cs := by
  have hcomponents : Files.components "/data/bmo/auth.json" = ["", "data", "bmo", "auth.json"] := by
    decide +kernel
  have hleads : Files.Leads (kitchen cs) "/data/bmo/auth.json" ["data", "bmo", "auth.json"] := by
    refine ⟨by decide +kernel, by decide, 0, by decide, ?_⟩
    rw [hcomponents]
    exact .stay ⟨_, rfl⟩ (.inl rfl) (.into ⟨by decide, by decide +kernel, _, rfl, rfl⟩ (.inr rfl)
      (.into ⟨by decide, by decide +kernel, _, rfl, rfl⟩ (.inr rfl)
        (.into ⟨by decide, by decide +kernel, _, rfl, rfl⟩ (.inl rfl) .arrived)))
  have hnode : Files.nodeAt (kitchen cs) "/data/bmo/auth.json" = .ok (.file cs.toText.toUTF8) := by
    rw [Files.nodeAt, Files.resolve_eq_ok_iff.mpr hleads]
    rfl
  have htext : Files.readText (kitchen cs) "/data/bmo/auth.json" = .ok cs.toText := by
    rw [Files.readText, Files.readBytes, hnode]
    simp [String.fromUTF8?, String.fromUTF8, String.isValidUTF8]
  have hparsed : Credentials.ofText cs.toText = .ok cs := by
    cases h : Credentials.ofText cs.toText with
    | error e => rw [h] at hread; cases hread
    | ok read => rw [h] at hread; exact congrArg _ (Option.some.inj hread)
  have hexists : Files.pathExists (kitchen cs) "/data/bmo/auth.json" = true := by
    rw [Files.pathExists, hnode]
    rfl
  rw [Credentials.load, if_pos hexists, htext]
  exact congrArg (Except.mapError _) hparsed

theorem listed_kitchen {cs : Credentials} {name : String} {c : Credential}
    (hread : (Credentials.ofText cs.toText).toOption = some cs)
    (hpreset : ProviderConfig.preset? name = none) (hentry : Sorted.find? name cs = some c)
    (haddress : c.baseUrl.isSome = true)
    (hunset : Ordered.find? (ProviderConfig.keyVariable name) kitchenVars = none) :
    Listed kitchenVars (kitchen cs) "/" cs name c where
  preset := hpreset
  entry := hentry
  address := haddress
  stored := by
    rw [completed_kitchen]
    exact ⟨"/data/bmo/auth.json", by decide +kernel, load_kitchen hread⟩
  unset := by rwa [completed_kitchen]

/-- An entry with a key of its own and an address. -/
def ownEntry : Credential :=
  ⟨"own", some "http://10.0.0.5:8080/v1", none⟩

/-- A name in lower case and without spaces gets the key of its entry. -/
theorem key_of_listed_plain :
    let cs : Credentials := [("kitchen-llm", ownEntry)]
    Listed kitchenVars (kitchen cs) "/" cs "kitchen-llm" ownEntry ∧
      ∃ p, (kitchenSettings "kitchen-llm").provider cs = .ok p ∧
        p.findKey kitchenVars (kitchen cs) "/" = .ok "own" := by
  intro cs
  have hlisted : Listed kitchenVars (kitchen cs) "/" cs "kitchen-llm" ownEntry :=
    listed_kitchen (by decide +kernel) (by decide +kernel) rfl rfl (by decide +kernel)
  obtain ⟨p, hprovider, _, _, _, _, hplain, _⟩ :=
    (kitchenSettings "kitchen-llm").key_of_listed hlisted
  exact ⟨hlisted, p, hprovider, hplain (by decide +kernel)⟩

/-- A name with capitals and a space gets the key of the entry with its other spelling, which is
sent to the address of its own entry. Without such an entry it has no key. -/
theorem key_of_other_spelling :
    let cs : Credentials := [("Kitchen LLM", ownEntry), ("kitchen-llm", ⟨"other", none, none⟩)]
    let alone : Credentials := [("Kitchen LLM", ownEntry)]
    Listed kitchenVars (kitchen cs) "/" cs "Kitchen LLM" ownEntry ∧
      Listed kitchenVars (kitchen alone) "/" alone "Kitchen LLM" ownEntry ∧
      (∃ p, (kitchenSettings "Kitchen LLM").provider cs = .ok p ∧
        some p.baseUrl = ownEntry.baseUrl ∧
        p.findKey kitchenVars (kitchen cs) "/" = .ok "other") ∧
      ∃ p, (kitchenSettings "Kitchen LLM").provider alone = .ok p ∧
        p.findKey kitchenVars (kitchen alone) "/" =
          .error (.missingApiKey "KITCHEN LLM_API_KEY") := by
  intro cs alone
  have hspelling : ProviderConfig.spelling "Kitchen LLM" = "kitchen-llm" := by decide +kernel
  have hvariable : ProviderConfig.keyVariable "Kitchen LLM" = "KITCHEN LLM_API_KEY" := by
    decide +kernel
  have hlisted : Listed kitchenVars (kitchen cs) "/" cs "Kitchen LLM" ownEntry :=
    listed_kitchen (by decide +kernel) (by decide +kernel) rfl rfl (by decide +kernel)
  have halone : Listed kitchenVars (kitchen alone) "/" alone "Kitchen LLM" ownEntry :=
    listed_kitchen (by decide +kernel) (by decide +kernel) rfl rfl (by decide +kernel)
  obtain ⟨p, hp, _, hurl, hfind⟩ := (kitchenSettings "Kitchen LLM").exists_provider hlisted
  obtain ⟨q, hq, _, _, hfind'⟩ := (kitchenSettings "Kitchen LLM").exists_provider halone
  have hname : (kitchenSettings "Kitchen LLM").llm.provider = "Kitchen LLM" := rfl
  rw [hname, hspelling] at hfind hfind'
  rw [hvariable] at hfind'
  exact ⟨hlisted, halone, ⟨p, hp, hurl, hfind⟩, q, hq, hfind'⟩

end HomeAgents
