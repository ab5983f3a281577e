import HomeAgents.Text.Search
import HomeAgents.Unicode.Case

/-!
# Providers

A provider is where models are asked: an address, the variable that holds the key, and the model
that is asked unless another one is named.
-/

namespace HomeAgents

structure ProviderConfig where
  name : String
  baseUrl : String
  apiKeyEnv : String
  defaultModel : String
deriving DecidableEq, Repr, Inhabited

namespace ProviderConfig

def openRouter : ProviderConfig :=
  ⟨"OpenRouter", "https://openrouter.ai/api/v1", "OPENROUTER_API_KEY", "openai/gpt-4o-mini"⟩

def openAI : ProviderConfig :=
  ⟨"OpenAI", "https://api.openai.com/v1", "OPENAI_API_KEY", "gpt-4o-mini"⟩

/-- A server of the house itself. -/
def lmStudio : ProviderConfig :=
  ⟨"lm-studio", "http://localhost:1234/v1", "LM_STUDIO_API_KEY", "qwen2.5-7b-instruct"⟩

/-- The provider known by a name, in any case. -/
def preset? (name : String) : Option ProviderConfig :=
  match Unicode.toLower name with
  | "openrouter" => some openRouter
  | "openai" => some openAI
  | "lm-studio" => some lmStudio
  | "lmstudio" => some lmStudio
  | "lm studio" => some lmStudio
  | _ => none

/-- The name of the provider among the credentials: in lower case and with hyphens for spaces. -/
def authKey (p : ProviderConfig) : String :=
  Text.replace (Unicode.toLower p.name) " " "-"

/-- The variable for the key of a provider that is not known: its name in upper case, with
underscores for hyphens. -/
def keyVariable (name : String) : String :=
  Text.replace (Unicode.toUpper name) "-" "_" ++ "_API_KEY"

/-- A provider that is known only by its name and address. -/
def custom (name baseUrl : String) (model : Option String) : ProviderConfig :=
  ⟨name, baseUrl, keyVariable name, model.getD "default"⟩

/-- The provider with another address and another model, where they are given. -/
def withOverrides (p : ProviderConfig) (baseUrl model : Option String) : ProviderConfig :=
  { p with baseUrl := baseUrl.getD p.baseUrl, defaultModel := model.getD p.defaultModel }

end ProviderConfig

end HomeAgents
