import AnswerStream.Answer.Basic
import AnswerStream.Proofs.Json.Fields
import AnswerStream.Proofs.Retry.Deciding

/-!
Records that survive being written. An answer, a source, a progress report and the settings for
repetitions and for the locale are each read from their own compact text as they were, so that the
text does not change when it is written again. Optional members come back whether they are left out
or written as null, and whole numbers as long as they are stored in their words.
-/

namespace AnswerStream
open Json (Node Record Value)
open Json.Literal (Fits fits_of_lt)
open Json.Value (Plain)
open Progress (orNull)

/-- What is written is read as it was, and written again as the same text. -/
structure Survives {α : Type} (read : Node → Option α) (write : α → Value) (a : α) : Prop where
  read_eq : (Node.parse? (write a).compact).bind read = some a
  rewritten_eq : ((Node.parse? (write a).compact).bind read).map (fun b => (write b).compact) =
    some (write a).compact

theorem Survives.of_node {α : Type} {read : Node → Option α} {write : α → Value} {a : α}
    {depth : Nat} (hplain : Plain depth (write a)) (hread : read (write a).node = some a) :
    Survives read write a := by
  have h : (Node.parse? (write a).compact).bind read = some a := by
    rw [hplain.nodeParse?_compact, Option.bind_some, hread]
  exact ⟨h, by rw [h, Option.map_some]⟩

namespace Json.Node

theorem list?_node {α : Type} {read : Node → Option α} {write : α → Value} {as : List α}
    (h : ∀ a ∈ as, read (write a).node = some a) :
    list? read (Value.array (as.map write)).node = some as := by
  have hall : (as.map fun a => (write a).node).mapM read = some (as.map id) :=
    Value.mapM_eq_some_map h
  rw [Value.node, Value.itemNodes_eq_map, List.map_map, list?]
  rw [List.map_id] at hall
  exact hall

theorem nullable?_text_node (s : Option String) :
    nullable? text? (orNull Value.text s).node = some s := by
  cases s <;> rfl

theorem natural?_node {bound n : Nat} (hbound : n < bound) (hword : n < 2 ^ 64) :
    natural? bound (Value.int n).node = some n := by
  rw [Value.int, Value.node, natural?, int?, Literal.int?_ofInt (Literal.fits_of_lt hword)]
  exact if_pos hbound

theorem nullable?_natural_node {bound : Nat} {n : Option Nat}
    (hbound : ∀ k ∈ n, k < bound ∧ k < 2 ^ 64) :
    nullable? (natural? bound) (orNull Value.int (n.bind fun k => some (k : Int))).node =
      some n := by
  cases n with
  | none => rfl
  | some k =>
    obtain ⟨hk, hword⟩ := hbound k rfl
    exact congrArg (Option.map some) (natural?_node hk hword)

end Json.Node

namespace Reference

theorem plain_toValue (r : Reference) (depth : Nat) : Plain (depth + 1) r.toValue := by
  obtain ⟨title, url, _ | snippet, _ | timestamp⟩ := r <;> simp [toValue, optionalMember]

theorem ofNode?_toValue (r : Reference) : ofNode? r.toValue.node = some r := by
  obtain ⟨title, url, _ | snippet, _ | timestamp⟩ := r <;> rfl

end Reference

namespace Answer

theorem plain_toValue (a : Answer) : Plain 3 a.toValue := by
  have hreferences : ∀ v ∈ a.references.map Reference.toValue, Plain 1 v :=
    List.forall_mem_map.mpr fun r _ => r.plain_toValue 0
  obtain ⟨text, references, status, _ | slug⟩ :=
    a <;> simpa [toValue, optionalMember] using hreferences

theorem ofNode?_toValue (a : Answer) : ofNode? a.toValue.node = some a := by
  have hreferences : Node.list? Reference.ofNode?
      (Value.array (a.references.map Reference.toValue)).node = some a.references :=
    Node.list?_node fun r _ => r.ofNode?_toValue
  have hread : ofNode? a.toValue.node =
      (Node.list? Reference.ofNode? (Value.array (a.references.map Reference.toValue)).node).bind
        fun references => some ⟨a.text, references, a.status, a.threadSlug⟩ := by
    obtain ⟨text, references, status, _ | slug⟩ := a <;> rfl
  rw [hread, hreferences, Option.bind_some]

end Answer

namespace Progress

/-- Numbers as they are stored: the seconds in 64 bits, the percentage in eight. -/
structure Stored (p : Progress) : Prop where
  etaSeconds_lt : ∀ n ∈ p.etaSeconds, n < 2 ^ 64
  percent_lt : ∀ n ∈ p.percent, n < 256

theorem plain_toValue {p : Progress} (h : p.Stored) : Plain 2 p.toValue := by
  have hseconds : ∀ n ∈ p.etaSeconds, Fits n := fun n hn => fits_of_lt (h.etaSeconds_lt n hn)
  have hpercent : ∀ n ∈ p.percent, Fits n :=
    fun n hn => fits_of_lt ((h.percent_lt n hn).trans (by decide))
  obtain ⟨_ | step, _ | etaSeconds, goals, _ | percent⟩ := p <;>
    simp_all [toValue, orNull, Value.int]

theorem ofNode?_toValue {p : Progress} (h : p.Stored) : ofNode? p.toValue.node = some p := by
  have hseconds : Node.nullable? (Node.natural? (Nat.pow 2 64))
      (orNull Value.int (p.etaSeconds.bind fun k => some (k : Int))).node =
      some p.etaSeconds :=
    Node.nullable?_natural_node fun n hn => ⟨h.etaSeconds_lt n hn, h.etaSeconds_lt n hn⟩
  have hpercent : Node.nullable? (Node.natural? 256)
      (orNull Value.int (p.percent.bind fun k => some (k : Int))).node =
      some p.percent :=
    Node.nullable?_natural_node fun n hn =>
      ⟨h.percent_lt n hn, (h.percent_lt n hn).trans (by decide)⟩
  have hgoals : Node.list? Node.text? (Value.array (p.goals.map .text)).node = some p.goals :=
    Node.list?_node fun _ _ => rfl
  rw [ofNode?, toValue, Record.ofNode?_object (by simp) (by simp [fieldNames])]
  simp only [Option.bind_eq_bind, Option.pure_def, Option.bind_some, Record.named?_memberNodes,
    Record.required?_memberNodes, Json.Members.lookup_cons, String.reduceEq, if_true, if_false,
    Option.map_some, Option.getD_some, Node.nullable?_text_node, hseconds, hgoals, hpercent]

end Progress

namespace RetryConfig

theorem plain_toValue {c : RetryConfig} (h : c.Stored) : Plain 1 c.toValue := by
  have hattempts : Fits c.maxAttempts := fits_of_lt (h.maxAttempts_lt.trans (by decide))
  have hbase : Fits c.baseDelayMs := fits_of_lt h.baseDelayMs_lt
  have hmax : Fits c.maxDelayMs := fits_of_lt h.maxDelayMs_lt
  simp [toValue, Value.int, hattempts, hbase, hmax]

theorem ofNode?_toValue {c : RetryConfig} (h : c.Stored) : ofNode? c.toValue.node = some c := by
  have hattempts := Node.natural?_node h.maxAttempts_lt (h.maxAttempts_lt.trans (by decide))
  have hbase := Node.natural?_node h.baseDelayMs_lt h.baseDelayMs_lt
  have hmax := Node.natural?_node h.maxDelayMs_lt h.maxDelayMs_lt
  rw [ofNode?, toValue, Record.ofNode?_object (by simp) (by simp [fieldNames])]
  simp only [Option.bind_eq_bind, Option.bind_some, Record.default?_memberNodes,
    Json.Members.lookup_cons, String.reduceEq, if_true, if_false, Option.map_some, Option.getD_some,
    hattempts, hbase, hmax]

end RetryConfig

namespace LocaleConfig

theorem plain_toValue (c : LocaleConfig) : Plain 1 c.toValue := by simp [toValue]

theorem ofNode?_toValue (c : LocaleConfig) : ofNode? c.toValue.node = some c := rfl

end LocaleConfig

/-- Answers, sources, progress reports and settings survive being written, whatever they hold. -/
theorem records_survive :
    (∀ a : Answer, Survives Answer.ofNode? Answer.toValue a) ∧
    (∀ r : Reference, Survives Reference.ofNode? Reference.toValue r) ∧
    (∀ p : Progress, p.Stored → Survives Progress.ofNode? Progress.toValue p) ∧
    (∀ c : RetryConfig, c.Stored → Survives RetryConfig.ofNode? RetryConfig.toValue c) ∧
    ∀ c : LocaleConfig, Survives LocaleConfig.ofNode? LocaleConfig.toValue c := by
  refine ⟨fun a => ?answer, fun r => ?reference, fun p hp => ?progress, fun c hc => ?retry,
    fun c => ?locale⟩
  case answer => exact .of_node a.plain_toValue a.ofNode?_toValue
  case reference => exact .of_node (r.plain_toValue 0) r.ofNode?_toValue
  case progress => exact .of_node (Progress.plain_toValue hp) (Progress.ofNode?_toValue hp)
  case retry => exact .of_node (RetryConfig.plain_toValue hc) (RetryConfig.ofNode?_toValue hc)
  case locale => exact .of_node c.plain_toValue c.ofNode?_toValue

/-- A source without its optional members, a report with the largest numbers, and settings of the
largest delay. -/
theorem records_survive_largest :
    let source : Reference := ⟨"\u0000", "é\"😀", none, some ""⟩
    let text := "\x7b\"progress\":null,\"eta_seconds\":18446744073709551615," ++
      "\"goals\":[\"a\\n\"],\"pct_complete\":255\x7d"
    (Node.parse? (Answer.toValue ⟨"", [source, source], "DONE", none⟩).compact).bind
          Answer.ofNode? =
        some ⟨"", [source, source], "DONE", none⟩ ∧
      (Node.parse? text).bind Progress.ofNode? = some ⟨none, some (2 ^ 64 - 1), ["a\n"], some 255⟩ ∧
      (Node.parse? (RetryConfig.toValue ⟨word32 - 1, 0, word64 - 1⟩).compact).bind
          RetryConfig.ofNode? =
        some ⟨word32 - 1, 0, word64 - 1⟩ := by
  intro source text
  obtain ⟨hanswer, -, hprogress, hretry, -⟩ := records_survive
  have hreport : Progress.Stored ⟨none, some (2 ^ 64 - 1), ["a\n"], some 255⟩ :=
    ⟨by simp, by simp⟩
  have hsettings : RetryConfig.Stored ⟨word32 - 1, 0, word64 - 1⟩ :=
    ⟨by decide, by decide, by decide⟩
  have hwritten : (Progress.toValue ⟨none, some (2 ^ 64 - 1), ["a\n"], some 255⟩).compact =
      text := by decide +kernel
  have hread := (hprogress _ hreport).read_eq
  rw [hwritten] at hread
  exact ⟨(hanswer _).read_eq, hread, (hretry _ hsettings).read_eq⟩

end AnswerStream
