import AnswerStream.Decimal.Reading
import AnswerStream.Duration
import AnswerStream.Json.Printer
import AnswerStream.Json.Record
import AnswerStream.Query.Mode
import AnswerStream.Text.Blank

/-!
Settings of a client. Every field has a value of its own, so a file may leave out any of them. A
configuration that `validate` accepts is one that a client can run with.
-/

namespace AnswerStream
open Json (Node Record Value)

inductive ConfigError
  | unreadable
  | unparsable
  | invalidEnv (name value : String)
  | invalid (reason : String)
  deriving DecidableEq, Repr

def ConfigError.message : ConfigError → String
  | .unreadable => "failed to read config file"
  | .unparsable => "failed to parse config file"
  | .invalidEnv name value => s!"invalid value for {name}: {value}"
  | .invalid reason => s!"invalid configuration: {reason}"

/-- Settings of the rate limiter. -/
structure RateLimitConfig where
  enabled : Bool
  requestsPerPeriod : Nat
  /-- The time in which an empty bucket refills. -/
  periodSeconds : Float

structure RetryConfig where
  /-- The first attempt counts. -/
  maxAttempts : Nat
  baseDelayMs : Nat
  maxDelayMs : Nat
  deriving DecidableEq, Repr

structure LocaleConfig where
  language : String
  timezone : String
  apiVersion : String
  modelPreference : String
  deriving DecidableEq, Repr

structure ClientConfig where
  baseUrl : String
  queryEndpoint : String
  threadsEndpoint : String
  timeoutSecs : Nat
  deepResearchTimeoutSecs : Nat
  rateLimit : RateLimitConfig
  retry : RetryConfig
  locale : LocaleConfig

/-- Numbers of 32 bits. -/
def word32 : Nat := Nat.pow 2 32

/-- Numbers of 64 bits. -/
def word64 : Nat := Nat.pow 2 64

namespace RateLimitConfig

def standard : RateLimitConfig := ⟨true, 20, 60⟩

def fieldNames : List String := ["enabled", "requests_per_period", "period_seconds"]

def ofNode? (n : Node) : Option RateLimitConfig := do
  let r ← Record.ofNode? fieldNames n
  let enabled ← r.default? "enabled" standard.enabled Node.bool?
  let requestsPerPeriod ←
    r.default? "requests_per_period" standard.requestsPerPeriod (Node.natural? word32)
  let periodSeconds ← r.default? "period_seconds" standard.periodSeconds Node.real?
  some { enabled, requestsPerPeriod, periodSeconds }

def toValue (c : RateLimitConfig) : Value :=
  .object [("enabled", .bool c.enabled), ("requests_per_period", .int c.requestsPerPeriod),
    ("period_seconds", .number (.float c.periodSeconds))]

/-- A period that is no duration counts as zero, which validation refuses. -/
def period (c : RateLimitConfig) : Duration := (Duration.ofSeconds? c.periodSeconds).getD .zero

/-- Equality of settings; an undefined period differs from itself. -/
def same (a b : RateLimitConfig) : Bool :=
  a.enabled == b.enabled && a.requestsPerPeriod == b.requestsPerPeriod &&
    a.periodSeconds == b.periodSeconds

end RateLimitConfig

namespace RetryConfig

def standard : RetryConfig := ⟨3, 1000, 30000⟩

def fieldNames : List String := ["max_attempts", "base_delay_ms", "max_delay_ms"]

def ofNode? (n : Node) : Option RetryConfig := do
  let r ← Record.ofNode? fieldNames n
  let maxAttempts ← r.default? "max_attempts" standard.maxAttempts (Node.natural? word32)
  let baseDelayMs ← r.default? "base_delay_ms" standard.baseDelayMs (Node.natural? word64)
  let maxDelayMs ← r.default? "max_delay_ms" standard.maxDelayMs (Node.natural? word64)
  some { maxAttempts, baseDelayMs, maxDelayMs }

def toValue (c : RetryConfig) : Value :=
  .object [("max_attempts", .int c.maxAttempts), ("base_delay_ms", .int c.baseDelayMs),
    ("max_delay_ms", .int c.maxDelayMs)]

end RetryConfig

namespace LocaleConfig

def standard : LocaleConfig := ⟨"en-US", "Europe/London", "2.18", "pplx_pro"⟩

def fieldNames : List String := ["language", "timezone", "api_version", "model_preference"]

def ofNode? (n : Node) : Option LocaleConfig := do
  let r ← Record.ofNode? fieldNames n
  let language ← r.default? "language" standard.language Node.text?
  let timezone ← r.default? "timezone" standard.timezone Node.text?
  let apiVersion ← r.default? "api_version" standard.apiVersion Node.text?
  let modelPreference ← r.default? "model_preference" standard.modelPreference Node.text?
  some { language, timezone, apiVersion, modelPreference }

def toValue (c : LocaleConfig) : Value :=
  .object [("language", .text c.language), ("timezone", .text c.timezone),
    ("api_version", .text c.apiVersion), ("model_preference", .text c.modelPreference)]

end LocaleConfig

namespace ClientConfig

def standard : ClientConfig :=
  { baseUrl := "https://www.perplexity.ai"
    queryEndpoint := "/api/pplx.generateStream"
    threadsEndpoint := "/rest/thread/list_ask_threads"
    timeoutSecs := 60
    deepResearchTimeoutSecs := 360
    rateLimit := .standard
    retry := .standard
    locale := .standard }

def fieldNames : List String :=
  ["base_url", "query_endpoint", "threads_endpoint", "timeout_secs", "deep_research_timeout_secs",
    "rate_limit", "retry", "locale"]

def ofNode? (n : Node) : Option ClientConfig := do
  let r ← Record.ofNode? fieldNames n
  let baseUrl ← r.default? "base_url" standard.baseUrl Node.text?
  let queryEndpoint ← r.default? "query_endpoint" standard.queryEndpoint Node.text?
  let threadsEndpoint ← r.default? "threads_endpoint" standard.threadsEndpoint Node.text?
  let timeoutSecs ← r.default? "timeout_secs" standard.timeoutSecs (Node.natural? word64)
  let deepResearchTimeoutSecs ←
    r.default? "deep_research_timeout_secs" standard.deepResearchTimeoutSecs (Node.natural? word64)
  let rateLimit ← r.default? "rate_limit" standard.rateLimit RateLimitConfig.ofNode?
  let retry ← r.default? "retry" standard.retry RetryConfig.ofNode?
  let locale ← r.default? "locale" standard.locale LocaleConfig.ofNode?
  some
    { baseUrl, queryEndpoint, threadsEndpoint, timeoutSecs, deepResearchTimeoutSecs, rateLimit
      retry, locale }

def toValue (c : ClientConfig) : Value :=
  .object [("base_url", .text c.baseUrl), ("query_endpoint", .text c.queryEndpoint),
    ("threads_endpoint", .text c.threadsEndpoint), ("timeout_secs", .int c.timeoutSecs),
    ("deep_research_timeout_secs", .int c.deepResearchTimeoutSecs),
    ("rate_limit", c.rateLimit.toValue), ("retry", c.retry.toValue), ("locale", c.locale.toValue)]

def same (a b : ClientConfig) : Bool :=
  a.baseUrl == b.baseUrl && a.queryEndpoint == b.queryEndpoint &&
    a.threadsEndpoint == b.threadsEndpoint && a.timeoutSecs == b.timeoutSecs &&
    a.deepResearchTimeoutSecs == b.deepResearchTimeoutSecs && a.rateLimit.same b.rateLimit &&
    a.retry == b.retry && a.locale == b.locale

/-- Exactly one slash between the two. -/
def joinUrl (base endpoint : String) : String :=
  Text.dropTrailing '/' base ++ "/" ++ Text.dropLeading '/' endpoint

def queryUrl (c : ClientConfig) : String := joinUrl c.baseUrl c.queryEndpoint

def threadsUrl (c : ClientConfig) : String :=
  joinUrl c.baseUrl c.threadsEndpoint ++ "?version=" ++ c.locale.apiVersion ++ "&source=default"

def timeoutFor (c : ClientConfig) : QueryMode → Duration
  | .standard => .ofSecs c.timeoutSecs
  | .deepResearch => .ofSecs c.deepResearchTimeoutSecs

def require (ok : Bool) (reason : String) : Except ConfigError Unit :=
  if ok then .ok () else .error (.invalid reason)

theorem require_eq_ok_iff {ok : Bool} {reason : String} {u : Unit} :
    require ok reason = .ok u ↔ ok = true := by
  cases ok <;> simp [require]

/-- The first rule that is broken is reported. -/
def validate (c : ClientConfig) : Except ConfigError Unit := do
  require (!Text.isBlank c.baseUrl) "base_url is empty"
  require (Text.startsWith c.baseUrl "http://" || Text.startsWith c.baseUrl "https://")
    s!"base_url must start with http:// or https://: {c.baseUrl}"
  require (!Text.isBlank c.queryEndpoint) "query_endpoint is empty"
  require (!Text.isBlank c.threadsEndpoint) "threads_endpoint is empty"
  require (c.timeoutSecs != 0 && c.deepResearchTimeoutSecs != 0) "timeouts must be positive"
  require (c.rateLimit.requestsPerPeriod != 0)
    "rate_limit.requests_per_period must be at least 1"
  require (!c.rateLimit.period.isZero) "rate_limit.period_seconds must be positive"
  require (c.retry.maxAttempts != 0) "retry.max_attempts must be at least 1"

end ClientConfig
end AnswerStream
