import Mender.Collaborators
import Mender.Reply.Body
import Mender.Reply.Code
import Mender.Settings
import Mender.Text.Utf8

/-!
# The oracle service

The oracle of a real run is a service that is sent the prompt and answers with a
text, from which the code is taken. Whatever goes wrong on the way becomes an
answer without a fix. How requests travel is up to a carrier.
-/

namespace Mender

/-- A request to the service. -/
structure Request where
  url : String
  apiKey : String
  body : Json

/-- Delivers requests, and answers with the bodies of the replies. -/
structure Carrier (σ : Type) where
  deliver : Request → StateM (Site σ) (Except Failure String)

namespace Carrier

/-- The carrier that reaches nobody. -/
def unreachable {σ : Type} : Carrier σ := ⟨fun _ => return .error (.other "call messages api")⟩

end Carrier

structure Service where
  apiKey : String
  baseUrl : String
  model : String
  maxTokens : UInt32
  language : Language
  deriving DecidableEq, Repr

namespace Service

def defaultBaseUrl : String := "https://api.anthropic.com"

def create (apiKey : String) (baseUrl? : Option String) (options : OracleOptions)
    (language : Language) : Service where
  apiKey
  baseUrl := baseUrl?.getD defaultBaseUrl
  model := options.model
  maxTokens := options.maxTokens
  language

/-- The service that the environment gives access to; the settings may say where it is. -/
def ofEnvironment (env : List (String × String)) (options : OracleOptions)
    (language : Language) : Except Failure Service :=
  match (env.lookup "ANTHROPIC_API_KEY").filter (!·.isEmpty) with
  | none => .error (.other "ANTHROPIC_API_KEY environment variable is required")
  | some apiKey =>
    .ok (create apiKey (options.baseUrl? <|> env.lookup "ANTHROPIC_BASE_URL") options language)

/-- A character that may stand in a header. -/
def isHeaderChar (c : Char) : Bool := c = '\t' || (0x20 ≤ c.toNat && c.toNat ≠ 0x7f)

/-- Where messages are sent to. -/
def url (s : Service) : String :=
  String.ofList (s.baseUrl.toList.reverse.dropWhile (· = '/')).reverse ++ "/v1/messages"

/-- The request for a fix. -/
def request (s : Service) (prompt : String) : Request where
  url := s.url
  apiKey := s.apiKey
  body := .record
    [("model", .text s.model), ("max_tokens", .nat s.maxTokens.toNat),
     ("messages", .array [.record [("role", .text "user"), ("content", .text prompt)]])]

variable {σ : Type}

/-- The text that the service answers with. -/
def complete (s : Service) (carrier : Carrier σ) (prompt : String) :
    StateM (Site σ) (Except Failure String) := do
  if !s.apiKey.toList.all isHeaderChar then
    return .error ((Failure.other "failed to parse header value").within "invalid api key header")
  else
    return (← carrier.deliver (s.request prompt)).bind Reply.text

/-- What an answer means for the current content. -/
def interpret (engine : Text.Engine) (wording : Wording) (language : Language)
    (current : String) : Except Failure String → Fix
  | .error failure => .transportError (failure.message wording)
  | .ok text =>
    .ofCandidate (Reply.code? engine language.fenceTag language.prologue text) current

def oracle (s : Service) (engine : Text.Engine) (wording : Wording) (carrier : Carrier σ) :
    Oracle σ where
  ask := fun prompt current =>
    return interpret engine wording s.language current (← s.complete carrier prompt)

end Service

end Mender
