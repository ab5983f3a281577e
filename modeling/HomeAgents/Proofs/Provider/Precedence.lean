import HomeAgents.Setting.Settings

/-!
# Which source decides on a provider

The address and the model of a provider come from the settings, from its credential, or from the
preset of its name, and the first of these that gives one decides. There is one gap: the credential
of a provider that is no preset is passed over as a whole unless it gives an address. So a model
that stands in it is forgotten where only the settings give the address.
-/

namespace HomeAgents

/-- The first thing that is given, of several that may be. -/
def firstGiven {α : Type} (sources : List (Option α)) : Option α :=
  sources.findSome? id

/-- Of two overrides the later one decides where it says something. -/
theorem ProviderConfig.withOverrides_withOverrides (p : ProviderConfig)
    (url url' model model' : Option String) :
    (p.withOverrides url model).withOverrides url' model' =
      p.withOverrides (url'.or url) (model'.or model) := by
  cases url' <;> cases model' <;> rfl

theorem ProviderConfig.custom_withOverrides (name url : String)
    (url' model model' : Option String) :
    (custom name url model).withOverrides url' model' =
      custom name (url'.getD url) (model'.or model) := by
  cases model' <;> rfl

namespace Credentials

variable (cs : Credentials)

/-- A credential changes of a provider what it gives. -/
theorem apply_eq (p : ProviderConfig) :
    cs.apply p = p.withOverrides ((Sorted.find? p.authKey cs).bind (·.baseUrl))
      ((Sorted.find? p.authKey cs).bind (·.model)) := by
  rw [Credentials.apply]
  cases Sorted.find? p.authKey cs <;> rfl

theorem customProvider?_of_address {name url : String} {c : Credential}
    (hc : Sorted.find? name cs = some c) (hurl : c.baseUrl = some url) :
    cs.customProvider? name = some (.custom name url c.model) := by
  simp [customProvider?, hc, hurl]

theorem customProvider?_of_no_address {name : String}
    (h : (Sorted.find? name cs).bind (·.baseUrl) = none) : cs.customProvider? name = none := by
  rw [customProvider?]
  cases hc : Sorted.find? name cs with
  | none => rfl
  | some c =>
    have hurl : c.baseUrl = none := by simpa [hc] using h
    simp [hurl]

end Credentials

namespace Settings

variable (s : Settings) (cs : Credentials)

/-- The preset that the settings name. -/
def preset? : Option ProviderConfig :=
  ProviderConfig.preset? s.llm.provider

/-- The credential of the provider that the settings name. A preset is listed under its own
spelling, any other provider under the name that it is called by. -/
def listed? : Option Credential :=
  Sorted.find? (s.preset?.elim s.llm.provider ProviderConfig.authKey) cs

theorem provider_of_preset {p : ProviderConfig} (h : s.preset? = some p) :
    s.provider cs = .ok (p.withOverrides (s.llm.baseUrl.or ((s.listed? cs).bind (·.baseUrl)))
      (s.llm.model.or ((s.listed? cs).bind (·.model)))) := by
  have hpreset : ProviderConfig.preset? s.llm.provider = some p := h
  have hlisted : s.listed? cs = Sorted.find? p.authKey cs := by
    rw [listed?, h]
    rfl
  rw [hlisted, ← p.withOverrides_withOverrides, ← cs.apply_eq]
  simp only [provider, hpreset]
  rfl

/-- A provider with neither a preset nor an address in its credential is made by the settings
alone. -/
theorem provider_of_no_address (h : s.preset? = none)
    (hlisted : (s.listed? cs).bind (·.baseUrl) = none) :
    s.provider cs = s.llm.baseUrl.elim (.error ⟨s.llm.provider⟩) fun url =>
      .ok (.custom s.llm.provider url s.llm.model) := by
  have hpreset : ProviderConfig.preset? s.llm.provider = none := h
  have hcustom : cs.customProvider? s.llm.provider = none := by
    rw [listed?, h] at hlisted
    exact cs.customProvider?_of_no_address hlisted
  simp only [provider, hpreset, hcustom]
  cases hurl : s.llm.baseUrl with
  | none => rfl
  | some url =>
    simp only [Except.map, ProviderConfig.custom_withOverrides, Option.getD_some, Option.or_none]
    rfl

theorem provider_of_address {c : Credential} {url : String} (h : s.preset? = none)
    (hc : s.listed? cs = some c) (hurl : c.baseUrl = some url) :
    s.provider cs =
      .ok (.custom s.llm.provider (s.llm.baseUrl.getD url) (s.llm.model.or c.model)) := by
  have hpreset : ProviderConfig.preset? s.llm.provider = none := h
  have hcustom : cs.customProvider? s.llm.provider = some (.custom s.llm.provider url c.model) := by
    rw [listed?, h] at hc
    exact cs.customProvider?_of_address hc hurl
  simp only [provider, hpreset, hcustom, Except.map, ProviderConfig.custom_withOverrides]

/-- The credential if it is heeded: without a preset it must give an address. -/
def heeded? : Option Credential :=
  (s.listed? cs).filter fun c => s.preset?.isSome || c.baseUrl.isSome

/-- The provider is made of what the settings, its credential and its preset give first; of a
credential that is not heeded the model does not count. -/
structure Composes (p : ProviderConfig) : Prop where
  name : p.name = s.preset?.elim s.llm.provider (·.name)
  address : firstGiven [s.llm.baseUrl, (s.listed? cs).bind (·.baseUrl),
    s.preset?.map (·.baseUrl)] = some p.baseUrl
  model : firstGiven [s.llm.model, (s.heeded? cs).bind (·.model),
    s.preset?.map (·.defaultModel), some "default"] = some p.defaultModel

variable {s cs}

theorem Composes.of_preset {preset p : ProviderConfig} (h : s.preset? = some preset)
    (hp : s.provider cs = .ok p) : s.Composes cs p := by
  rw [s.provider_of_preset cs h] at hp
  obtain rfl := Except.ok.inj hp
  have hheeded : s.heeded? cs = s.listed? cs := by
    rw [heeded?, h]
    cases s.listed? cs <;> rfl
  constructor
  · rw [h]
    rfl
  · rw [h]
    cases s.llm.baseUrl <;> cases (s.listed? cs).bind (·.baseUrl) <;> rfl
  · rw [hheeded, h]
    cases s.llm.model <;> cases (s.listed? cs).bind (·.model) <;> rfl

theorem Composes.of_no_address {p : ProviderConfig} (h : s.preset? = none)
    (hlisted : (s.listed? cs).bind (·.baseUrl) = none) (hp : s.provider cs = .ok p) :
    s.Composes cs p := by
  have hheeded : s.heeded? cs = none := by
    rw [heeded?, h]
    cases hc : s.listed? cs with
    | none => rfl
    | some c =>
      have hurl : c.baseUrl = none := by simpa [hc] using hlisted
      simp [hurl]
  rw [s.provider_of_no_address cs h hlisted] at hp
  cases hurl : s.llm.baseUrl with
  | none =>
    rw [hurl] at hp
    cases hp
  | some url =>
    rw [hurl] at hp
    obtain rfl := Except.ok.inj hp
    constructor
    · rw [h]
      rfl
    · rw [hurl]
      rfl
    · rw [hheeded, h]
      cases s.llm.model <;> rfl

theorem Composes.of_address {p : ProviderConfig} {c : Credential} {url : String}
    (h : s.preset? = none) (hc : s.listed? cs = some c) (hurl : c.baseUrl = some url)
    (hp : s.provider cs = .ok p) : s.Composes cs p := by
  have hheeded : s.heeded? cs = some c := by
    rw [heeded?, h, hc, Option.filter_some, hurl]
    rfl
  rw [s.provider_of_address cs h hc hurl] at hp
  obtain rfl := Except.ok.inj hp
  constructor
  · rw [h]
    rfl
  · rw [h, hc, Option.bind_some, hurl]
    cases s.llm.baseUrl <;> rfl
  · rw [hheeded, h, Option.bind_some]
    cases s.llm.model <;> cases c.model <;> simp [firstGiven, ProviderConfig.custom]

variable (s cs)

/-- The settings name a provider that can be asked unless it is no preset and neither they nor its
credential give an address. It is made of what is given first. -/
theorem provider_precedence :
    ((∃ e, s.provider cs = .error e) ↔
      s.preset? = none ∧ s.llm.baseUrl = none ∧ (s.listed? cs).bind (·.baseUrl) = none) ∧
    (∀ e, s.provider cs = .error e → e = ⟨s.llm.provider⟩) ∧
    ∀ p, s.provider cs = .ok p → s.Composes cs p := by
  cases h : s.preset? with
  | some preset =>
    have hok := s.provider_of_preset cs h
    refine ⟨?_, ?_, fun p hp => .of_preset h hp⟩
    · simp [hok]
    · simp [hok]
  | none =>
    cases hlisted : (s.listed? cs).bind (·.baseUrl) with
    | none =>
      have hp := s.provider_of_no_address cs h hlisted
      refine ⟨?_, ?_, fun p hp => .of_no_address h hlisted hp⟩
      · cases hurl : s.llm.baseUrl <;> simp [hp, hurl]
      · cases hurl : s.llm.baseUrl <;> simp [hp, hurl, eq_comm]
    | some url =>
      obtain ⟨c, hc, hurl⟩ := Option.bind_eq_some_iff.mp hlisted
      have hok := s.provider_of_address cs h hc hurl
      refine ⟨?_, ?_, fun p hp => .of_address h hc hurl hp⟩
      · simp [hok]
      · simp [hok]

end Settings

def garageSettings (name : String) : Settings :=
  { Settings.initial [] "/" with
    llm := { provider := name, baseUrl := some "http://10.0.0.5:8080/v1" } }

def modelOnly : Credential :=
  ⟨"key", none, some "qwen2.5-3b"⟩

/-- A model that only the credential gives is forgotten if the provider is no preset and the
settings give its address, although it is what is given first. With a preset it counts. -/
theorem listed_model_forgotten :
    let own := garageSettings "garage"
    let known := garageSettings "openai"
    let given (s : Settings) (cs : Credentials) := firstGiven [s.llm.model,
      (s.listed? cs).bind (·.model), s.preset?.map (·.defaultModel), some "default"]
    own.preset? = none ∧ own.listed? [("garage", modelOnly)] = some modelOnly ∧
      given own [("garage", modelOnly)] = some "qwen2.5-3b" ∧
      (own.provider [("garage", modelOnly)]).toOption.map (·.defaultModel) = some "default" ∧
      given known [("openai", modelOnly)] = some "qwen2.5-3b" ∧
      (known.provider [("openai", modelOnly)]).toOption.map (·.defaultModel) =
        some "qwen2.5-3b" := by
  decide +kernel

end HomeAgents
