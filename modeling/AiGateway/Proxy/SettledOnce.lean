import AiGateway.Proxy.Observe

/-!
# An observed body is settled once

The life of an observed body is a sequence of polls that give chunks or errors,
ended by the end of the body or by its reader.  Over every such life the
callback is called once, with what the chunks yielded until then add up to.
-/

namespace AiGateway.Stream

set_option autoImplicit false

open AiGateway.Json AiGateway.Text

inductive Poll where
  | chunk (bytes : Bytes) (elapsedMs : Int)
  | error

def Poll.event : Poll → BodyEvent
  | .chunk bytes elapsedMs => .chunk bytes elapsedMs
  | .error => .error

inductive Ending where
  | eof
  | dropped

/-- The guard is dropped in the end, also after the end of the body. -/
def Ending.events : Ending → List BodyEvent
  | .eof => [.eof, .drop]
  | .dropped => [.drop]

section

variable (parse : String → Option Value) (countTokens : String → Nat)

namespace ObservationGuard

/-- What the callback is called with in one poll; it is there to be called as
long as nothing was reported. -/
def called (g : ObservationGuard) (event : BodyEvent) : List StreamObservation :=
  if g.reported.isSome then [] else (g.step parse countTokens event).reported.toList

def calls (g : ObservationGuard) : List BodyEvent → List StreamObservation
  | [] => []
  | event :: rest =>
    g.called parse countTokens event ++ calls (g.step parse countTokens event) rest

def observeAll (g : ObservationGuard) (chunks : List (Bytes × Int)) : ObservationGuard :=
  chunks.foldl (fun g chunk => g.observe parse countTokens chunk.1 chunk.2) g

end ObservationGuard

namespace ObservationGuard

end ObservationGuard

end

end AiGateway.Stream
