import AnswerStream.Client.Session
import AnswerStream.Query.Basic

/-!
A client: settings that have been found sound, the policy for repetitions, and the token that every
request carries.
-/

namespace AnswerStream

structure Client where
  config : ClientConfig
  policy : RetryPolicy
  token : String

namespace Client

/-- A client and its limiter, where the settings are sound. -/
def ofConfig (config : ClientConfig) (token : String) (now : Duration) :
    Except Failure (Client × Limiter) :=
  let made : Except ConfigError Limiter := do
    config.validate
    Limiter.ofConfig config.rateLimit now
  match made with
  | .ok limiter => .ok (⟨config, .ofConfig config.retry, token⟩, limiter)
  | .error e => .error (.invalidRequest e.message)

/-- The header fields of a request, sorted by name. -/
def headers (c : Client) (accept : String) : Headers :=
  [("Accept", accept), ("Authorization", s!"Bearer {c.token}"),
    ("Content-Type", "application/json")]

end Client
end AnswerStream
