import HomeAgents.Agent.Error
import HomeAgents.Backend.Answer
import HomeAgents.Binary.Basic
import HomeAgents.Model.Message

/-!
# Models

A model takes a conversation and gives the text of the next reply, or it fails. It may keep its
caller waiting.
-/

namespace HomeAgents

/-- The settings of one model call. Without a model the default one of the provider is meant. -/
structure CompletionParams where
  model : Option String
  temperature : Binary.Value
  maxTokens : Option Nat
deriving DecidableEq, Repr, Inhabited

/-- What a model call comes to: the reply, and for how many milliseconds the caller is kept
waiting if the reply is not there at once. -/
structure Completion where
  reply : Except ProviderError String
  waitMs : Option Nat

/-- A model of a provider, acting on a world. -/
structure ChatModel (σ : Type) where
  provider : String
  defaultModel : String
  complete : List Message → CompletionParams → σ → Answer σ Completion

end HomeAgents
