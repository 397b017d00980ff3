import Mathlib.Data.List.Basic

/-! # Client protocols -/

namespace AiGateway

inductive Protocol where
  | openAiChatCompletions
  | openAiResponses
  | anthropicMessages
  deriving DecidableEq, Repr

namespace Protocol

def all : List Protocol := [.openAiChatCompletions, .openAiResponses, .anthropicMessages]

def toText : Protocol → String
  | .openAiChatCompletions => "openai_chat_completions"
  | .openAiResponses => "openai_responses"
  | .anthropicMessages => "anthropic_messages"

end Protocol

end AiGateway
