import AnswerStream.Proofs.Config.Filing
import AnswerStream.Proofs.Config.Urls
import AnswerStream.Proofs.Config.Wording
import AnswerStream.Proofs.Text.Cutting

/-!
Environment variables over settings. Six of the variables have to be read as a number or as a
switch, and the first of them that cannot be read, in a fixed order, is what is reported; whether
one can does not depend on the settings. If all can, each variable that is set gives its own field
and no other, so that laying the variables over the result changes nothing any more.
-/

namespace AnswerStream

namespace Environment

/-- A variable is set to a text that is more than blanks. -/
def Holds (env : Environment) (name raw : String) : Prop :=
  env name = some raw ∧ Text.isBlank raw = false

/-- What a text stands for, whatever blanks there are around it. -/
def Trimmed {α : Type} (Reads : List Char → α → Prop) (raw : String) (a : α) : Prop :=
  ∃ cs, Text.Trims raw.toList cs ∧ Reads cs a

def Legible {α : Type} (Reads : List Char → α → Prop) (raw : String) : Prop :=
  ∃ a, Trimmed Reads raw a

/-- The variable holds a text that is not one of those that can be read. -/
def Illegible (env : Environment) (v : String × (String → Prop)) (raw : String) : Prop :=
  env.Holds v.1 raw ∧ ¬ v.2 raw

/-- What a variable makes of a setting: what its text is read as, or what has been there if it holds
none. -/
structure Sets {α : Type} (env : Environment) (name : String) (Reads : String → α → Prop)
    (old new : α) : Prop where
  given : ∀ raw, env.Holds name raw → Reads raw new
  kept : (∀ raw, ¬ env.Holds name raw) → new = old

open scoped Classical in
/-- The report of a variable that cannot be read. -/
noncomputable def fault (env : Environment) (v : String × (String → Prop)) : Option ConfigError :=
  (env.text? v.1).bind fun raw => if v.2 raw then .none else some (.invalidEnv v.1 raw)

/-- What is read from a variable, if anything is. -/
def value? {α : Type} (env : Environment) (name : String) (read : List Char → Option α) :
    Option α :=
  (env.text? name).bind fun raw => read (Text.trimChars raw.toList)

section
variable {α β : Type} {env : Environment} {name raw : String} {v : String × (String → Prop)}
  {read : List Char → Option α} {Reads : List Char → α → Prop} {old new : α}

theorem text?_eq_some_iff : env.text? name = some raw ↔ env.Holds name raw := by
  simp [text?, Holds, Option.filter_eq_some_iff]

theorem text?_eq_none_iff : env.text? name = .none ↔ ∀ raw, ¬ env.Holds name raw := by
  simp only [← text?_eq_some_iff, Option.eq_none_iff_forall_ne_some]

theorem Holds.unique {raw' : String} (h : env.Holds name raw) (h' : env.Holds name raw') :
    raw = raw' := Option.some.inj (h.1.symm.trans h'.1)

theorem Sets.again {Reads : String → α → Prop} (h : env.Sets name Reads old new) :
    env.Sets name Reads new new := ⟨h.given, fun _ => rfl⟩

theorem trimmed_iff (hread : ∀ cs a, read cs = some a ↔ Reads cs a) {a : α} :
    Trimmed Reads raw a ↔ read (Text.trimChars raw.toList) = some a := by
  simp only [Trimmed, Text.trims_iff, exists_eq_left', hread]

theorem legible_iff (hread : ∀ cs a, read cs = some a ↔ Reads cs a) :
    Legible Reads raw ↔ (read (Text.trimChars raw.toList)).isSome = true := by
  simp only [Legible, trimmed_iff hread, Option.isSome_iff_exists]

theorem fault_eq_some_iff {e : ConfigError} :
    env.fault v = some e ↔ ∃ raw, env.Illegible v raw ∧ e = .invalidEnv v.1 raw := by
  simp only [fault, Option.bind_eq_some_iff, text?_eq_some_iff, Illegible]
  refine exists_congr fun raw => ?_
  by_cases h : v.2 raw <;> simp [h, eq_comm]

theorem fault_eq_none_iff : env.fault v = .none ↔ ∀ raw, ¬ env.Illegible v raw := by
  rw [Option.eq_none_iff_forall_ne_some]
  simp only [Ne, fault_eq_some_iff]
  exact ⟨fun h raw hraw => h _ ⟨raw, hraw, rfl⟩, fun h e ⟨raw, hraw, _⟩ => h raw hraw⟩

/-- A variable that can be read hands its value on, and any other ends the reading. -/
theorem parse?_bind (hread : ∀ cs a, read cs = some a ↔ Reads cs a)
    (next : Option α → Except ConfigError β) :
    (env.parse? name read >>= next) =
      (env.fault (name, Legible Reads)).elim (next (env.value? name read)) .error := by
  rw [parse?, fault, value?]
  cases env.text? name with
  | none => rfl
  | some raw =>
    simp only [Option.bind_some, legible_iff hread]
    cases read (Text.trimChars raw.toList) <;> rfl

theorem Sets.of_holds {Reads : String → α → Prop} (h : env.Holds name raw) (hread : Reads raw new) :
    env.Sets name Reads old new :=
  ⟨fun _ h' => h.unique h' ▸ hread, fun hempty => absurd h (hempty raw)⟩

theorem Sets.of_text?_eq_none {Reads : String → α → Prop} (h : env.text? name = .none) :
    env.Sets name Reads old old :=
  ⟨fun raw hraw => absurd hraw (text?_eq_none_iff.mp h raw), fun _ => rfl⟩

theorem sets_text_iff {old new : String} :
    env.Sets name Eq old new ↔ new = (env.text? name).getD old := by
  cases htext : env.text? name with
  | none => exact ⟨fun h => h.kept (text?_eq_none_iff.mp htext), fun h =>
    h ▸ .of_text?_eq_none htext⟩
  | some raw =>
    have hraw := text?_eq_some_iff.mp htext
    exact ⟨fun h => (h.given raw hraw).symm, fun h => .of_holds hraw h.symm⟩

theorem sets_trimmed_iff (hread : ∀ cs a, read cs = some a ↔ Reads cs a) :
    env.Sets name (Trimmed Reads) old new ↔
      env.fault (name, Legible Reads) = .none ∧ new = (env.value? name read).getD old := by
  rw [fault, value?]
  cases htext : env.text? name with
  | none =>
    exact ⟨fun h => ⟨rfl, h.kept (text?_eq_none_iff.mp htext)⟩,
      fun h => h.2 ▸ .of_text?_eq_none htext⟩
  | some raw =>
    have hraw := text?_eq_some_iff.mp htext
    have hsets : env.Sets name (Trimmed Reads) old new ↔ Trimmed Reads raw new :=
      ⟨fun h => h.given raw hraw, .of_holds hraw⟩
    simp only [hsets, Option.bind_some, trimmed_iff hread, legible_iff hread]
    cases read (Text.trimChars raw.toList) <;> simp [eq_comm]

end

end Environment

namespace Variable
open Decimal (Counts Spells)
open Environment (Legible)

/-- The variables that have to be read, in their order, each with the texts that can be read. -/
def judged : List (String × (String → Prop)) :=
  [("PERPLEXITY_TIMEOUT_SECS", Legible (Counts word64)),
    ("PERPLEXITY_DEEP_RESEARCH_TIMEOUT_SECS", Legible (Counts word64)),
    ("PERPLEXITY_RATE_LIMITING_ENABLED", Legible Switches),
    ("PERPLEXITY_RATE_LIMITING_RPS", Legible (Counts word32)),
    ("PERPLEXITY_RATE_LIMITING_PERIOD", Legible Spells),
    ("PERPLEXITY_RETRY_ATTEMPTS", Legible (Counts word32))]

end Variable

namespace ClientConfig
open Decimal (Counts Spells bounded?_eq_some_iff real?_eq_some_iff)
open Environment (Trimmed parse?_bind sets_text_iff sets_trimmed_iff trimmed_iff)

/-- Every field of the settings behind the variables: eleven that a variable may give, and four that
none gives. -/
structure Overlaid (env : Environment) (c c' : ClientConfig) : Prop where
  baseUrl : env.Sets "PERPLEXITY_BASE_URL" Eq c.baseUrl c'.baseUrl
  queryEndpoint : env.Sets "PERPLEXITY_QUERY_ENDPOINT" Eq c.queryEndpoint c'.queryEndpoint
  threadsEndpoint : env.Sets "PERPLEXITY_THREADS_ENDPOINT" Eq c.threadsEndpoint c'.threadsEndpoint
  timeoutSecs :
    env.Sets "PERPLEXITY_TIMEOUT_SECS" (Trimmed (Counts word64)) c.timeoutSecs c'.timeoutSecs
  deepResearchTimeoutSecs :
    env.Sets "PERPLEXITY_DEEP_RESEARCH_TIMEOUT_SECS" (Trimmed (Counts word64))
      c.deepResearchTimeoutSecs c'.deepResearchTimeoutSecs
  enabled :
    env.Sets "PERPLEXITY_RATE_LIMITING_ENABLED" (Trimmed Switches) c.rateLimit.enabled
      c'.rateLimit.enabled
  requestsPerPeriod :
    env.Sets "PERPLEXITY_RATE_LIMITING_RPS" (Trimmed (Counts word32)) c.rateLimit.requestsPerPeriod
      c'.rateLimit.requestsPerPeriod
  periodSeconds :
    env.Sets "PERPLEXITY_RATE_LIMITING_PERIOD" (Trimmed Spells) c.rateLimit.periodSeconds
      c'.rateLimit.periodSeconds
  maxAttempts :
    env.Sets "PERPLEXITY_RETRY_ATTEMPTS" (Trimmed (Counts word32)) c.retry.maxAttempts
      c'.retry.maxAttempts
  language : env.Sets "PERPLEXITY_LANGUAGE" Eq c.locale.language c'.locale.language
  timezone : env.Sets "PERPLEXITY_TIMEZONE" Eq c.locale.timezone c'.locale.timezone
  baseDelayMs : c'.retry.baseDelayMs = c.retry.baseDelayMs
  maxDelayMs : c'.retry.maxDelayMs = c.retry.maxDelayMs
  apiVersion : c'.locale.apiVersion = c.locale.apiVersion
  modelPreference : c'.locale.modelPreference = c.locale.modelPreference

/-- The settings with what is read from the variables, passing over those that cannot be read. -/
def laid (c : ClientConfig) (env : Environment) : ClientConfig where
  baseUrl := (env.text? "PERPLEXITY_BASE_URL").getD c.baseUrl
  queryEndpoint := (env.text? "PERPLEXITY_QUERY_ENDPOINT").getD c.queryEndpoint
  threadsEndpoint := (env.text? "PERPLEXITY_THREADS_ENDPOINT").getD c.threadsEndpoint
  timeoutSecs :=
    (env.value? "PERPLEXITY_TIMEOUT_SECS" (Decimal.bounded? word64)).getD c.timeoutSecs
  deepResearchTimeoutSecs :=
    (env.value? "PERPLEXITY_DEEP_RESEARCH_TIMEOUT_SECS" (Decimal.bounded? word64)).getD
      c.deepResearchTimeoutSecs
  rateLimit :=
    { enabled := (env.value? "PERPLEXITY_RATE_LIMITING_ENABLED" switch?).getD c.rateLimit.enabled
      requestsPerPeriod :=
        (env.value? "PERPLEXITY_RATE_LIMITING_RPS" (Decimal.bounded? word32)).getD
          c.rateLimit.requestsPerPeriod
      periodSeconds :=
        (env.value? "PERPLEXITY_RATE_LIMITING_PERIOD" Decimal.real?).getD
          c.rateLimit.periodSeconds }
  retry :=
    { c.retry with
      maxAttempts :=
        (env.value? "PERPLEXITY_RETRY_ATTEMPTS" (Decimal.bounded? word32)).getD
          c.retry.maxAttempts }
  locale :=
    { c.locale with
      language := (env.text? "PERPLEXITY_LANGUAGE").getD c.locale.language
      timezone := (env.text? "PERPLEXITY_TIMEZONE").getD c.locale.timezone }

theorem elim_findSome?_cons {α β γ : Type} (f : α → Option β) (a : α) (as : List α) (x : γ)
    (g : β → γ) :
    ((a :: as).findSome? f).elim x g = (f a).elim ((as.findSome? f).elim x g) g := by
  rw [List.findSome?_cons]
  cases f a <;> rfl

section
variable {c c' : ClientConfig} {env : Environment}

theorem overlay_eq (c : ClientConfig) (env : Environment) :
    c.overlay env = (Variable.judged.findSome? env.fault).elim (.ok (c.laid env)) .error := by
  simp only [overlay, parse?_bind fun _ _ => bounded?_eq_some_iff,
    parse?_bind fun _ _ => switch?_eq_some_iff, parse?_bind fun _ _ => real?_eq_some_iff,
    Variable.judged, elim_findSome?_cons, List.findSome?_nil, Option.elim_none]
  rfl

theorem overlay_eq_error_iff {e : ConfigError} :
    c.overlay env = .error e ↔ Variable.judged.findSome? env.fault = some e := by
  rw [overlay_eq]
  cases Variable.judged.findSome? env.fault <;> simp

theorem overlaid_iff :
    Overlaid env c c' ↔ (∀ v ∈ Variable.judged, env.fault v = none) ∧ c' = c.laid env := by
  simp only [Variable.judged, List.forall_mem_cons]
  constructor
  · intro h
    obtain ⟨htimeout, htimeoutSecs⟩ :=
      (sets_trimmed_iff fun _ _ => bounded?_eq_some_iff).mp h.timeoutSecs
    obtain ⟨hdeep, hdeepSecs⟩ :=
      (sets_trimmed_iff fun _ _ => bounded?_eq_some_iff).mp h.deepResearchTimeoutSecs
    obtain ⟨hswitch, henabled⟩ :=
      (sets_trimmed_iff fun _ _ => switch?_eq_some_iff).mp h.enabled
    obtain ⟨hrequests, hrequestsPerPeriod⟩ :=
      (sets_trimmed_iff fun _ _ => bounded?_eq_some_iff).mp h.requestsPerPeriod
    obtain ⟨hperiod, hperiodSeconds⟩ :=
      (sets_trimmed_iff fun _ _ => real?_eq_some_iff).mp h.periodSeconds
    obtain ⟨hattempts, hmaxAttempts⟩ :=
      (sets_trimmed_iff fun _ _ => bounded?_eq_some_iff).mp h.maxAttempts
    refine ⟨⟨htimeout, hdeep, hswitch, hrequests, hperiod, hattempts, List.forall_mem_nil _⟩, ?_⟩
    have hbaseUrl := sets_text_iff.mp h.baseUrl
    have hqueryEndpoint := sets_text_iff.mp h.queryEndpoint
    have hthreadsEndpoint := sets_text_iff.mp h.threadsEndpoint
    have hlanguage := sets_text_iff.mp h.language
    have htimezone := sets_text_iff.mp h.timezone
    have hkept := And.intro h.baseDelayMs
      (And.intro h.maxDelayMs (And.intro h.apiVersion h.modelPreference))
    rcases c' with ⟨_, _, _, _, _, ⟨_, _, _⟩, ⟨_, _, _⟩, ⟨_, _, _, _⟩⟩
    simp only at *
    simp only [laid, *]
  · rintro ⟨⟨htimeout, hdeep, hswitch, hrequests, hperiod, hattempts, -⟩, rfl⟩
    exact
      { baseUrl := sets_text_iff.mpr rfl
        queryEndpoint := sets_text_iff.mpr rfl
        threadsEndpoint := sets_text_iff.mpr rfl
        timeoutSecs := (sets_trimmed_iff fun _ _ => bounded?_eq_some_iff).mpr ⟨htimeout, rfl⟩
        deepResearchTimeoutSecs :=
          (sets_trimmed_iff fun _ _ => bounded?_eq_some_iff).mpr ⟨hdeep, rfl⟩
        enabled := (sets_trimmed_iff fun _ _ => switch?_eq_some_iff).mpr ⟨hswitch, rfl⟩
        requestsPerPeriod :=
          (sets_trimmed_iff fun _ _ => bounded?_eq_some_iff).mpr ⟨hrequests, rfl⟩
        periodSeconds := (sets_trimmed_iff fun _ _ => real?_eq_some_iff).mpr ⟨hperiod, rfl⟩
        maxAttempts := (sets_trimmed_iff fun _ _ => bounded?_eq_some_iff).mpr ⟨hattempts, rfl⟩
        language := sets_text_iff.mpr rfl
        timezone := sets_text_iff.mpr rfl
        baseDelayMs := rfl
        maxDelayMs := rfl
        apiVersion := rfl
        modelPreference := rfl }

theorem overlay_eq_ok_iff : c.overlay env = .ok c' ↔ Overlaid env c c' := by
  rw [overlay_eq, overlaid_iff]
  cases hfault : Variable.judged.findSome? env.fault with
  | none =>
    rw [and_iff_right (List.findSome?_eq_none_iff.mp hfault)]
    exact pure_eq_ok_iff
  | some e =>
    obtain ⟨v, hv, hfault⟩ := List.exists_of_findSome?_eq_some hfault
    refine iff_of_false (by simp) fun h => ?_
    rw [h.1 v hv] at hfault
    cases hfault

theorem Overlaid.again (h : Overlaid env c c') : Overlaid env c' c' where
  baseUrl := h.baseUrl.again
  queryEndpoint := h.queryEndpoint.again
  threadsEndpoint := h.threadsEndpoint.again
  timeoutSecs := h.timeoutSecs.again
  deepResearchTimeoutSecs := h.deepResearchTimeoutSecs.again
  enabled := h.enabled.again
  requestsPerPeriod := h.requestsPerPeriod.again
  periodSeconds := h.periodSeconds.again
  maxAttempts := h.maxAttempts.again
  language := h.language.again
  timezone := h.timezone.again
  baseDelayMs := rfl
  maxDelayMs := rfl
  apiVersion := rfl
  modelPreference := rfl

/-- The settings under the variables: those of the user's file, or the standard ones where there is
none. -/
def IsBase (file : Option (List UInt8)) (base : ClientConfig) : Prop :=
  match file with
  | none => base = standard
  | some octets => InFile octets base

theorem loadDefault_eq_ok_iff {file : Option (List UInt8)} :
    loadDefault file env = .ok c ↔
      ∃ base, IsBase file base ∧ base.overlay env = .ok c ∧ c.validate = .ok () := by
  have hrest (base : ClientConfig) :
      (do let c' ← base.overlay env; c'.validate; pure c' : Except ConfigError ClientConfig) =
      .ok c ↔
        base.overlay env = .ok c ∧ c.validate = .ok () := by
    simp only [bind_eq_ok_iff, pure_eq_ok_iff]
    constructor
    · rintro ⟨c', hoverlay, ⟨⟩, hvalid, rfl⟩
      exact ⟨hoverlay, hvalid⟩
    · rintro ⟨hoverlay, hvalid⟩
      exact ⟨c, hoverlay, (), hvalid, rfl⟩
  cases file with
  | none => exact (hrest standard).trans (by simp [IsBase])
  | some octets =>
    exact bind_eq_ok_iff.trans (exists_congr fun base => and_congr load_eq_ok_iff (hrest base))

end

/-- Laying variables over settings fails just if a variable that has to be read cannot be, and
reports the first one with what it holds. Otherwise each variable that is set gives its field, the
other fields stay, and to do it again changes nothing. The settings to run with are those of the
file or the standard ones with the variables laid over them, found to be sound. -/
theorem overlay_by_variables (c : ClientConfig) (env : Environment) :
    ((∃ e, c.overlay env = .error e) ↔ ∃ v ∈ Variable.judged, ∃ raw, env.Illegible v raw) ∧
    (∀ e, c.overlay env = .error e ↔
      ∃ before v after raw, Variable.judged = before ++ v :: after ∧
        (∀ u ∈ before, ∀ raw, ¬ env.Illegible u raw) ∧ env.Illegible v raw ∧
        e = .invalidEnv v.1 raw) ∧
    (∀ c', c.overlay env = .ok c' ↔ Overlaid env c c') ∧
    (∀ c', c.overlay env = .ok c' → c'.overlay env = .ok c') ∧
    (∀ file c', loadDefault file env = .ok c' ↔
      ∃ base, IsBase file base ∧ base.overlay env = .ok c' ∧ c'.validate = .ok ()) ∧
    ∀ c' : ClientConfig, c'.validate = .ok () ↔ c'.Sound := by
  refine ⟨?_, fun e => ?_, fun c' => overlay_eq_ok_iff, fun c' h => ?_,
    fun file c' => loadDefault_eq_ok_iff, fun c' => validate_eq_ok_iff⟩
  · simp only [overlay_eq_error_iff, ← Option.isSome_iff_exists, List.findSome?_isSome_iff]
    refine exists_congr fun v => and_congr_right fun _ => ?_
    rw [Option.isSome_iff_exists]
    simp only [Environment.fault_eq_some_iff]
    exact ⟨fun ⟨_, raw, hraw, _⟩ => ⟨raw, hraw⟩, fun ⟨raw, hraw⟩ => ⟨_, raw, hraw, rfl⟩⟩
  · rw [overlay_eq_error_iff, List.findSome?_eq_some_iff]
    simp only [Environment.fault_eq_some_iff, Environment.fault_eq_none_iff]
    constructor
    · rintro ⟨before, v, after, hjudged, ⟨raw, hraw, he⟩, hbefore⟩
      exact ⟨before, v, after, raw, hjudged, hbefore, hraw, he⟩
    · rintro ⟨before, v, after, raw, hjudged, hbefore, hraw, he⟩
      exact ⟨before, v, after, hjudged, ⟨raw, hraw, he⟩, hbefore⟩
  · exact overlay_eq_ok_iff.mpr (overlay_eq_ok_iff.mp h).again

/-- A file with some of the members, a blank variable, a number and a switch between blanks, and a
text that keeps its blanks; and two variables that cannot be read, behind one that can. -/
theorem overlay_by_variables_padded :
    let text := "\x7b\"timeout_secs\":5,\"note\":[],\"retry\":\x7b\"max_attempts\":7\x7d\x7d"
    let env : Environment := .ofList
      [("PERPLEXITY_BASE_URL", " "), ("PERPLEXITY_TIMEOUT_SECS", " 90\t"),
        ("PERPLEXITY_RATE_LIMITING_ENABLED", " Off "), ("PERPLEXITY_LANGUAGE", " fr ")]
    let faulty : Environment := .ofList
      [("PERPLEXITY_RETRY_ATTEMPTS", "many"), ("PERPLEXITY_RATE_LIMITING_ENABLED", " o n"),
        ("PERPLEXITY_TIMEOUT_SECS", "+60")]
    (∃ c, loadDefault (some (Utf8.encode text)) env = .ok c ∧ c.baseUrl = standard.baseUrl ∧
      c.timeoutSecs = 90 ∧ c.rateLimit.enabled = false ∧ c.retry.maxAttempts = 7 ∧
        c.locale.language = " fr " ∧
      c.overlay env = .ok c) ∧
    standard.overlay faulty = .error (.invalidEnv "PERPLEXITY_RATE_LIMITING_ENABLED" " o n") := by
  intro text env faulty
  constructor
  · let base : ClientConfig :=
      { standard with timeoutSecs := 5, retry := { RetryConfig.standard with maxAttempts := 7 } }
    let c : ClientConfig :=
      { base with
        timeoutSecs := 90
        rateLimit := { RateLimitConfig.standard with enabled := false }
        locale := { LocaleConfig.standard with language := " fr " } }
    obtain ⟨-, -, hiff, hagain, hload, hvalid⟩ := overlay_by_variables base env
    let members : List (Option String × Json.Node) :=
      [(some "timeout_secs", .number (.ofInt 5)), (some "note", .array []),
        (some "retry", .object [(some "max_attempts", .number (.ofInt 7))])]
    have hbase : IsBase (some (Utf8.encode text)) base :=
      ⟨text, .object members, rfl, Json.Token.writesAll_of_scan? (by decide +kernel),
        ofNode?_eq_some_iff.mp rfl⟩
    have hninety : env.Holds "PERPLEXITY_TIMEOUT_SECS" " 90\t" := ⟨by decide, by decide⟩
    have hoff : env.Holds "PERPLEXITY_RATE_LIMITING_ENABLED" " Off " := ⟨by decide, by decide⟩
    have hlanguage : env.Holds "PERPLEXITY_LANGUAGE" " fr " := ⟨by decide, by decide⟩
    have hoverlaid : Overlaid env base c :=
      { baseUrl := .of_text?_eq_none (by decide)
        queryEndpoint := .of_text?_eq_none (by decide)
        threadsEndpoint := .of_text?_eq_none (by decide)
        timeoutSecs := .of_holds hninety
          ((trimmed_iff fun _ _ => bounded?_eq_some_iff).mpr (by decide +kernel))
        deepResearchTimeoutSecs := .of_text?_eq_none (by decide)
        enabled := .of_holds hoff
          ((trimmed_iff fun _ _ => switch?_eq_some_iff).mpr (by decide +kernel))
        requestsPerPeriod := .of_text?_eq_none (by decide)
        periodSeconds := .of_text?_eq_none (by decide)
        maxAttempts := .of_text?_eq_none (by decide)
        language := .of_holds hlanguage rfl
        timezone := .of_text?_eq_none (by decide)
        baseDelayMs := rfl
        maxDelayMs := rfl
        apiVersion := rfl
        modelPreference := rfl }
    have hoverlay := (hiff c).mpr hoverlaid
    have hsound : c.Sound := { sound_standard with timeout := by decide, attempts := by decide }
    exact ⟨c, (hload _ c).mpr ⟨base, hbase, hoverlay, (hvalid c).mpr hsound⟩, rfl, rfl, rfl, rfl,
      rfl, hagain c hoverlay⟩
  · obtain ⟨-, hfirst, -⟩ := overlay_by_variables standard faulty
    have hsixty : Environment.Legible (Counts word64) "+60" :=
      (Environment.legible_iff fun _ _ => bounded?_eq_some_iff).mpr (by decide +kernel)
    have hswitch : ¬ Environment.Legible Switches " o n" :=
      (Environment.legible_iff fun _ _ => switch?_eq_some_iff).not.mpr (by decide +kernel)
    refine (hfirst _).mpr ⟨Variable.judged.take 2, _, Variable.judged.drop 3, " o n", rfl, ?_,
      ⟨⟨by decide, by decide⟩, hswitch⟩, rfl⟩
    rintro u (_ | ⟨_, _ | ⟨_, ⟨⟩⟩⟩) raw ⟨hholds, hillegible⟩
    · have hset : faulty.Holds "PERPLEXITY_TIMEOUT_SECS" "+60" := ⟨by decide, by decide⟩
      rw [hholds.unique hset] at hillegible
      exact hillegible hsixty
    · exact Environment.text?_eq_none_iff.mp (by decide) raw hholds

end ClientConfig
end AnswerStream
