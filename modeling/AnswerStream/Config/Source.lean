import AnswerStream.Config.Basic
import AnswerStream.Text.Utf8

/-!
Where settings come from: a file, and environment variables that are laid over it. A variable that
is blank counts as not set. The variables are read in a fixed order, and the first that cannot be
read is reported.
-/

namespace AnswerStream
open Json (Node)

/-- The values of environment variables by name. -/
abbrev Environment := String → Option String

namespace Environment

def none : Environment := fun _ => .none

/-- The variables of a list of names and values. -/
def ofList (entries : List (String × String)) : Environment := fun name => entries.lookup name

/-- The value of a variable, where it holds more than blanks. -/
def text? (env : Environment) (name : String) : Option String :=
  (env name).filter fun s => !Text.isBlank s

/-- The trimmed value of a variable, read by `read`. -/
def parse? {α : Type} (env : Environment) (name : String) (read : List Char → Option α) :
    Except ConfigError (Option α) :=
  match env.text? name with
  | .none => .ok .none
  | some raw =>
    match read (Text.trimChars raw.toList) with
    | some a => .ok (some a)
    | .none => .error (.invalidEnv name raw)

end Environment

/-- Words for true and false, in any case. -/
def switch? (cs : List Char) : Option Bool :=
  match Text.lowerAscii (String.ofList cs) with
  | "1" | "true" | "yes" | "on" => some true
  | "0" | "false" | "no" | "off" => some false
  | _ => none

namespace Variable

def baseUrl : String := "PERPLEXITY_BASE_URL"

def queryEndpoint : String := "PERPLEXITY_QUERY_ENDPOINT"

def threadsEndpoint : String := "PERPLEXITY_THREADS_ENDPOINT"

def timeout : String := "PERPLEXITY_TIMEOUT_SECS"

def deepResearchTimeout : String := "PERPLEXITY_DEEP_RESEARCH_TIMEOUT_SECS"

def limiterEnabled : String := "PERPLEXITY_RATE_LIMITING_ENABLED"

def limiterRequests : String := "PERPLEXITY_RATE_LIMITING_RPS"

def limiterPeriod : String := "PERPLEXITY_RATE_LIMITING_PERIOD"

def retryAttempts : String := "PERPLEXITY_RETRY_ATTEMPTS"

def language : String := "PERPLEXITY_LANGUAGE"

def timezone : String := "PERPLEXITY_TIMEZONE"

def token : String := "PERPLEXITY_TOKEN"

def all : List String :=
  [baseUrl, queryEndpoint, threadsEndpoint, timeout, deepResearchTimeout, limiterEnabled,
    limiterRequests, limiterPeriod, retryAttempts, language, timezone, token]

end Variable

namespace ClientConfig

/-- Lays the variables that are set over the settings. -/
def overlay (c : ClientConfig) (env : Environment) : Except ConfigError ClientConfig := do
  let baseUrl := (env.text? Variable.baseUrl).getD c.baseUrl
  let queryEndpoint := (env.text? Variable.queryEndpoint).getD c.queryEndpoint
  let threadsEndpoint := (env.text? Variable.threadsEndpoint).getD c.threadsEndpoint
  let timeout ← env.parse? Variable.timeout (Decimal.bounded? word64)
  let deepTimeout ← env.parse? Variable.deepResearchTimeout (Decimal.bounded? word64)
  let enabled ← env.parse? Variable.limiterEnabled switch?
  let requests ← env.parse? Variable.limiterRequests (Decimal.bounded? word32)
  let period ← env.parse? Variable.limiterPeriod Decimal.real?
  let attempts ← env.parse? Variable.retryAttempts (Decimal.bounded? word32)
  let language := (env.text? Variable.language).getD c.locale.language
  let timezone := (env.text? Variable.timezone).getD c.locale.timezone
  pure
    { baseUrl, queryEndpoint, threadsEndpoint
      timeoutSecs := timeout.getD c.timeoutSecs
      deepResearchTimeoutSecs := deepTimeout.getD c.deepResearchTimeoutSecs
      rateLimit :=
        { enabled := enabled.getD c.rateLimit.enabled
          requestsPerPeriod := requests.getD c.rateLimit.requestsPerPeriod
          periodSeconds := period.getD c.rateLimit.periodSeconds }
      retry := { c.retry with maxAttempts := attempts.getD c.retry.maxAttempts }
      locale := { c.locale with language, timezone } }

/-- Settings from the octets of a file; no octets where there is no such file. -/
def load (file : Option (List UInt8)) : Except ConfigError ClientConfig :=
  match file.bind Utf8.decode? with
  | none => .error .unreadable
  | some text =>
    match (Node.parse? text).bind ofNode? with
    | none => .error .unparsable
    | some c => .ok c

/-- The text of a file that holds the settings. -/
def save (c : ClientConfig) : String := c.toValue.pretty

/-- Where the file of a user is, below the home directory. -/
def defaultPath : String := ".config/perplexity-stream/config.json"

/-- The settings to run with: the user's file if there is one, the variables over it, both judged
together. -/
def loadDefault (file : Option (List UInt8)) (env : Environment) :
    Except ConfigError ClientConfig := do
  let base ← match file with
    | none => pure standard
    | some _ => load file
  let c ← base.overlay env
  c.validate
  pure c

end ClientConfig
end AnswerStream
