import AnswerStream.Config.Source
import AnswerStream.Proofs.Json.Fields
import AnswerStream.Proofs.Json.Grammar
import AnswerStream.Proofs.Text.Encoding

/-!
What a file of settings gives. Its text is a record, the fields of which may all be missing. A field
that is there is read as a text, a number or a record of its own, and one that is missing has its
standard value.
-/

namespace AnswerStream
open Json (Node Record)

namespace Json.Node

def Says (n : Node) (s : String) : Prop := n = .text (some s)

def Switches (n : Node) (b : Bool) : Prop := n = .bool b

/-- A number of digits alone, below a bound. -/
def Counts (bound : Nat) (n : Node) (k : Nat) : Prop :=
  ∃ ds, n = .number ⟨false, ds, [], none⟩ ∧ k = Decimal.ofDigits ds ∧ k < bound

/-- Any number as a real one. -/
inductive Measures : Node → Float → Prop
  | natural {l : Literal} {k : Nat} (h : l.int? = some (.ofNat k)) :
      Measures (.number l) k.toUInt64.toFloat
  | negative {l : Literal} {k : Nat} (h : l.int? = some (.negSucc k)) :
      Measures (.number l) (-(k + 1).toUInt64.toFloat)
  | other {l : Literal} {x : Float} (hint : l.int? = none) (h : l.float? = some x) :
      Measures (.number l) x

variable {n : Node}

theorem text?_eq_some_iff {s : String} : n.text? = some s ↔ n.Says s := by
  cases n <;> simp [text?, Says]

theorem bool?_eq_some_iff {b : Bool} : n.bool? = some b ↔ n.Switches b := by
  cases n <;> simp [bool?, Switches]

theorem int?_eq_ofNat_iff {l : Literal} {k : Nat} :
    l.int? = some (.ofNat k) ↔
      ∃ ds, l = ⟨false, ds, [], none⟩ ∧ k = Decimal.ofDigits ds ∧ k < Nat.pow 2 64 := by
  obtain ⟨negative, whole, fraction, exponent⟩ := l
  unfold Literal.int?
  constructor
  · intro h
    obtain ⟨hplain, h⟩ := Option.ite_none_right_eq_some.mp h
    obtain ⟨rfl, rfl⟩ : fraction = [] ∧ exponent = none := by simpa using hplain
    cases negative with
    | true =>
      obtain ⟨hrange, h⟩ := Option.ite_none_right_eq_some.mp h
      have hpos : 0 < Decimal.ofDigits whole := (by simpa using hrange : _ ∧ _).1
      have hvalue : -(Decimal.ofDigits whole : Int) = (k : Int) := Option.some.inj h
      omega
    | false =>
      obtain ⟨hlt, h⟩ := Option.ite_none_right_eq_some.mp h
      obtain rfl : Decimal.ofDigits whole = k := Int.ofNat_inj.mp (Option.some.inj h)
      exact ⟨whole, rfl, rfl, hlt⟩
  · rintro ⟨ds, ⟨⟩, rfl, hlt⟩
    exact if_pos hlt

theorem natural?_eq_some_iff {bound k : Nat} (hbound : bound ≤ Nat.pow 2 64) :
    n.natural? bound = some k ↔ n.Counts bound k := by
  cases n with
  | number l =>
    have hread : (Node.number l).natural? bound = some k ↔ l.int? = some (.ofNat k) ∧
        k < bound := by
      rw [natural?, int?]
      split
      · next k' hk =>
        rw [hk, Option.ite_none_right_eq_some, Option.some_inj, Option.some_inj, Int.ofNat.injEq]
        constructor
        · rintro ⟨hlt, rfl⟩
          exact ⟨rfl, hlt⟩
        · rintro ⟨rfl, hlt⟩
          exact ⟨hlt, rfl⟩
      · next hnone => exact iff_of_false (by simp) fun h => hnone k h.1
    rw [hread, int?_eq_ofNat_iff, Counts]
    constructor
    · rintro ⟨⟨ds, rfl, rfl, -⟩, hlt⟩
      exact ⟨ds, rfl, rfl, hlt⟩
    · rintro ⟨ds, ⟨⟩, rfl, hlt⟩
      exact ⟨⟨ds, rfl, rfl, hlt.trans_le hbound⟩, hlt⟩
  | _ => exact iff_of_false (by rintro ⟨⟩) (by rintro ⟨ds, ⟨⟩, -⟩)

theorem real?_eq_some_iff {x : Float} : n.real? = some x ↔ n.Measures x := by
  cases n with
  | number l =>
    rw [real?]
    constructor
    · intro h
      split at h
      · next hint => exact Option.some.inj h ▸ .natural hint
      · next hint => exact Option.some.inj h ▸ .negative hint
      · next hint => exact .other hint h
    · intro h
      cases h with
      | natural h => rw [h]
      | negative h => rw [h]
      | other hint h => rw [hint, h]
  | _ => exact iff_of_false (by rintro ⟨⟩) (by rintro ⟨⟩)

end Json.Node

namespace Json.Record

/-- The fields that a record gives: in an object they stand in any order among others, each at most
once, and an array has the first of them in their order. -/
inductive Gives (names : List String) : Node → List (String × Node) → Prop
  | object {members : List (Option String × Node)} (hkeys : ∀ member ∈ members, member.1 ≠ none)
      (honce : ((fieldsAmong names members).map Prod.fst).Nodup) :
      Gives names (.object members) (fieldsAmong names members)
  | array {items : List Node} (hmost : items.length ≤ names.length) :
      Gives names (.array items) (names.zip items)

/-- A field is what stands under its name, or has a value of its own if nothing does. -/
structure Takes {α : Type} (fields : List (String × Node)) (name : String) (missing : α)
    (Reads : Node → α → Prop) (a : α) : Prop where
  given : ∀ n, (name, n) ∈ fields → Reads n a
  absent : (∀ n, (name, n) ∉ fields) → a = missing

/-- A record whose fields give a value. -/
def Holds {α : Type} (names : List String) (Fields : List (String × Node) → α → Prop) (n : Node)
    (a : α) : Prop :=
  ∃ fields, Gives names n fields ∧ Fields fields a

variable {α : Type} {names : List String} {n : Node} {fields : List (String × Node)} {a : α}

theorem Gives.nodup (hnames : names.Nodup) (h : Gives names n fields) :
    (fields.map Prod.fst).Nodup := by
  cases h with
  | object hkeys honce => exact honce
  | @array items hmost =>
    rw [List.zip_eq_zip_take_min, List.map_fst_zip (by simp)]
    exact hnames.sublist (List.take_sublist _ _)

theorem gives_iff :
    Gives names n fields ↔ ∃ positional, ofNode? names n = some ⟨fields, positional⟩ := by
  constructor
  · intro h
    cases h with
    | object hkeys honce =>
      refine ⟨false, ?_⟩
      rw [ofNode?, known?_eq_some_iff.mpr ⟨hkeys, rfl, honce⟩, Option.map_some]
    | array hmost => exact ⟨true, if_pos hmost⟩
  · rintro ⟨positional, h⟩
    cases n with
    | object members =>
      obtain ⟨fields', hknown, ⟨⟩⟩ := Option.map_eq_some_iff.mp h
      obtain ⟨hkeys, rfl, honce⟩ := known?_eq_some_iff.mp hknown
      exact .object hkeys honce
    | array items =>
      obtain ⟨hmost, ⟨⟩⟩ := Option.ite_none_right_eq_some.mp h
      exact .array hmost
    | _ => cases h

theorem default?_eq_some_iff {r : Record} {name : String} {missing : α} {read : Node → Option α}
    {Reads : Node → α → Prop} (hfields : (r.fields.map Prod.fst).Nodup)
    (hread : ∀ n a, read n = some a ↔ Reads n a) :
    r.default? name missing read = some a ↔ Takes r.fields name missing Reads a := by
  have hmem (n : Node) : r.get? name = some n ↔ (name, n) ∈ r.fields :=
    Members.lookup_eq_some_iff_mem hfields
  rw [default?]
  cases hget : r.get? name with
  | none =>
    have hempty (n : Node) : (name, n) ∉ r.fields := fun h => by
      rw [← hmem, hget] at h
      cases h
    exact ⟨fun h => ⟨fun n hn => absurd hn (hempty n), fun _ => (Option.some.inj h).symm⟩,
      fun h => congrArg some (h.absent hempty).symm⟩
  | some n =>
    have hfield := (hmem n).mp hget
    refine (hread n a).trans ⟨fun h => ⟨fun n' hn' => ?_, fun hempty => absurd hfield (hempty n)⟩,
      fun h => h.given n hfield⟩
    obtain rfl : n = n' := Option.some.inj (hget.symm.trans ((hmem n').mpr hn'))
    exact h

/-- A record is read as what its fields give, whatever is made of them. -/
theorem bind_ofNode?_eq_some_iff {build : Record → Option α}
    {Fields : List (String × Node) → α → Prop} (hnames : names.Nodup)
    (hbuild : ∀ r : Record, (r.fields.map Prod.fst).Nodup →
      (build r = some a ↔ Fields r.fields a)) :
    (ofNode? names n).bind build = some a ↔ Holds names Fields n a := by
  rw [Option.bind_eq_some_iff]
  constructor
  · rintro ⟨r, hr, ha⟩
    have hgives : Gives names n r.fields := gives_iff.mpr ⟨r.positional, hr⟩
    exact ⟨r.fields, hgives, (hbuild r (hgives.nodup hnames)).mp ha⟩
  · rintro ⟨fields, hgives, ha⟩
    obtain ⟨positional, hr⟩ := gives_iff.mp hgives
    exact ⟨_, hr, (hbuild ⟨fields, positional⟩ (hgives.nodup hnames)).mpr ha⟩

end Json.Record

open Json.Record (Holds Takes bind_ofNode?_eq_some_iff default?_eq_some_iff)

/-- Settings of the limiter as the fields of a record give them. -/
structure RateLimitConfig.Given (fields : List (String × Node)) (c : RateLimitConfig) : Prop where
  enabled : Takes fields "enabled" true Node.Switches c.enabled
  requestsPerPeriod :
    Takes fields "requests_per_period" 20 (Node.Counts word32) c.requestsPerPeriod
  periodSeconds : Takes fields "period_seconds" 60 Node.Measures c.periodSeconds

def RateLimitConfig.Filed : Node → RateLimitConfig → Prop :=
  Holds ["enabled", "requests_per_period", "period_seconds"] Given

structure RetryConfig.Given (fields : List (String × Node)) (c : RetryConfig) : Prop where
  maxAttempts : Takes fields "max_attempts" 3 (Node.Counts word32) c.maxAttempts
  baseDelayMs : Takes fields "base_delay_ms" 1000 (Node.Counts word64) c.baseDelayMs
  maxDelayMs : Takes fields "max_delay_ms" 30000 (Node.Counts word64) c.maxDelayMs

def RetryConfig.Filed : Node → RetryConfig → Prop :=
  Holds ["max_attempts", "base_delay_ms", "max_delay_ms"] Given

structure LocaleConfig.Given (fields : List (String × Node)) (c : LocaleConfig) : Prop where
  language : Takes fields "language" "en-US" Node.Says c.language
  timezone : Takes fields "timezone" "Europe/London" Node.Says c.timezone
  apiVersion : Takes fields "api_version" "2.18" Node.Says c.apiVersion
  modelPreference : Takes fields "model_preference" "pplx_pro" Node.Says c.modelPreference

def LocaleConfig.Filed : Node → LocaleConfig → Prop :=
  Holds ["language", "timezone", "api_version", "model_preference"] Given

structure ClientConfig.Given (fields : List (String × Node)) (c : ClientConfig) : Prop where
  baseUrl : Takes fields "base_url" "https://www.perplexity.ai" Node.Says c.baseUrl
  queryEndpoint :
    Takes fields "query_endpoint" "/api/pplx.generateStream" Node.Says c.queryEndpoint
  threadsEndpoint :
    Takes fields "threads_endpoint" "/rest/thread/list_ask_threads" Node.Says c.threadsEndpoint
  timeoutSecs : Takes fields "timeout_secs" 60 (Node.Counts word64) c.timeoutSecs
  deepResearchTimeoutSecs :
    Takes fields "deep_research_timeout_secs" 360 (Node.Counts word64) c.deepResearchTimeoutSecs
  rateLimit : Takes fields "rate_limit" ⟨true, 20, 60⟩ RateLimitConfig.Filed c.rateLimit
  retry : Takes fields "retry" ⟨3, 1000, 30000⟩ RetryConfig.Filed c.retry
  locale :
    Takes fields "locale" ⟨"en-US", "Europe/London", "2.18", "pplx_pro"⟩ LocaleConfig.Filed c.locale

def ClientConfig.Filed : Node → ClientConfig → Prop :=
  Holds ["base_url", "query_endpoint", "threads_endpoint", "timeout_secs",
    "deep_research_timeout_secs", "rate_limit", "retry", "locale"] Given

section

variable {n : Node}

theorem word32_le : word32 ≤ Nat.pow 2 64 := Nat.pow_le_pow_right (by decide) (by decide)

theorem RateLimitConfig.ofNode?_eq_some_iff {c : RateLimitConfig} :
    ofNode? n = some c ↔ Filed n c := by
  refine bind_ofNode?_eq_some_iff (by decide) fun r hr => ?_
  simp only [Option.bind_eq_bind, Option.bind_eq_some_iff,
    default?_eq_some_iff hr fun _ _ => Node.bool?_eq_some_iff,
    default?_eq_some_iff hr fun _ _ => Node.natural?_eq_some_iff word32_le,
    default?_eq_some_iff hr fun _ _ => Node.real?_eq_some_iff]
  constructor
  · rintro ⟨_, henabled, _, hrequests, _, hperiod, ⟨⟩⟩
    exact ⟨henabled, hrequests, hperiod⟩
  · intro h
    exact ⟨_, h.enabled, _, h.requestsPerPeriod, _, h.periodSeconds, rfl⟩

theorem RetryConfig.ofNode?_eq_some_iff {c : RetryConfig} :
    ofNode? n = some c ↔ Filed n c := by
  refine bind_ofNode?_eq_some_iff (by decide) fun r hr => ?_
  simp only [Option.bind_eq_bind, Option.bind_eq_some_iff,
    default?_eq_some_iff hr fun _ _ => Node.natural?_eq_some_iff word32_le,
    default?_eq_some_iff hr fun _ _ => Node.natural?_eq_some_iff (le_refl word64)]
  constructor
  · rintro ⟨_, hattempts, _, hbase, _, hmax, ⟨⟩⟩
    exact ⟨hattempts, hbase, hmax⟩
  · intro h
    exact ⟨_, h.maxAttempts, _, h.baseDelayMs, _, h.maxDelayMs, rfl⟩

theorem LocaleConfig.ofNode?_eq_some_iff {c : LocaleConfig} :
    ofNode? n = some c ↔ Filed n c := by
  refine bind_ofNode?_eq_some_iff (by decide) fun r hr => ?_
  simp only [Option.bind_eq_bind, Option.bind_eq_some_iff,
    default?_eq_some_iff hr fun _ _ => Node.text?_eq_some_iff]
  constructor
  · rintro ⟨_, hlanguage, _, htimezone, _, hversion, _, hmodel, ⟨⟩⟩
    exact ⟨hlanguage, htimezone, hversion, hmodel⟩
  · intro h
    exact ⟨_, h.language, _, h.timezone, _, h.apiVersion, _, h.modelPreference, rfl⟩

theorem ClientConfig.ofNode?_eq_some_iff {c : ClientConfig} :
    ofNode? n = some c ↔ Filed n c := by
  refine bind_ofNode?_eq_some_iff (by decide) fun r hr => ?_
  simp only [Option.bind_eq_bind, Option.bind_eq_some_iff,
    default?_eq_some_iff hr fun _ _ => Node.text?_eq_some_iff,
    default?_eq_some_iff hr fun _ _ => Node.natural?_eq_some_iff (le_refl word64),
    default?_eq_some_iff hr fun _ _ => RateLimitConfig.ofNode?_eq_some_iff,
    default?_eq_some_iff hr fun _ _ => RetryConfig.ofNode?_eq_some_iff,
    default?_eq_some_iff hr fun _ _ => LocaleConfig.ofNode?_eq_some_iff]
  constructor
  · rintro ⟨_, hbase, _, hquery, _, hthreads, _, htimeout, _, hdeep, _, hlimiter, _, hretry, _,
      hlocale, ⟨⟩⟩
    exact ⟨hbase, hquery, hthreads, htimeout, hdeep, hlimiter, hretry, hlocale⟩
  · intro h
    exact ⟨_, h.baseUrl, _, h.queryEndpoint, _, h.threadsEndpoint, _, h.timeoutSecs, _,
      h.deepResearchTimeoutSecs, _, h.rateLimit, _, h.retry, _, h.locale, rfl⟩

end

namespace ClientConfig

/-- The octets of a file encode a JSON text of a record whose fields give the settings. -/
def InFile (octets : List UInt8) (c : ClientConfig) : Prop :=
  ∃ (text : String) (n : Node), octets = Utf8.encode text ∧ n.Writes text.toList ∧
    Filed n c

theorem load_eq_ok_iff {octets : List UInt8} {c : ClientConfig} :
    load (some octets) = .ok c ↔ InFile octets c := by
  have hread : load (some octets) = .ok c ↔
      ∃ text, Utf8.decode? octets = some text ∧ (Node.parse? text).bind ofNode? = some c := by
    rw [load, Option.bind_some]
    split
    · next hnone => simp [hnone]
    · next text htext =>
      simp only [htext, Option.some_inj, exists_eq_left']
      split <;> simp [*]
  simp only [hread, Utf8.decode?_eq_some_iff, Option.bind_eq_some_iff, Node.parse?_eq_some_iff,
    ofNode?_eq_some_iff, InFile, exists_and_left]

end ClientConfig
end AnswerStream
