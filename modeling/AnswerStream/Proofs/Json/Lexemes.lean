import AnswerStream.Proofs.Json.Numeral
import AnswerStream.Proofs.Json.Quoted
import Mathlib.Data.List.Chain

/-!
How the tokens of JSON are written, with blanks between them. The reader finds just the tokens that
a text is written in. Where a text has to be read as some tokens, no two words or numbers among them
may stand side by side, as they would then run together.
-/

namespace AnswerStream.Json

namespace Token

/-- The grammar of a token. -/
inductive Writes : Token → List Char → Prop
  | beginArray : Writes .beginArray ['[']
  | endArray : Writes .endArray [']']
  | beginObject : Writes .beginObject ['{']
  | endObject : Writes .endObject ['}']
  | colon : Writes .colon [':']
  | comma : Writes .comma [',']
  | null : Writes .null ['n', 'u', 'l', 'l']
  | true : Writes (.bool true) ['t', 'r', 'u', 'e']
  | false : Writes (.bool false) ['f', 'a', 'l', 's', 'e']
  | number {l : Literal} {cs : List Char} (h : l.Writes cs) : Writes (.number l) cs
  | text {ps : List Piece} {body : List Char} (h : Piece.WritesAll ps body) :
      Writes (.text (Piece.text? ps)) ('"' :: (body ++ ['"']))

/-- Tokens in their order, with blanks in front of them, between them and behind them. -/
inductive WritesAll : List Token → List Char → Prop
  | nil : WritesAll [] []
  | blank {ts : List Token} {cs : List Char} {c : Char} (h : WritesAll ts cs)
      (hc : isSpace c = true) : WritesAll ts (cs ++ [c])
  | snoc {ts : List Token} {cs lexeme : List Char} {t : Token} (h : WritesAll ts cs)
      (ht : t.Writes lexeme) : WritesAll (ts ++ [t]) (cs ++ lexeme)

/-- Tokens that end only where another character stands. -/
def isBare : Token → Bool
  | .null | .bool _ | .number _ => Bool.true
  | _ => Bool.false

theorem writes_of_ofWord? {cs : List Char} {t : Token} (h : ofWord? cs = some t) :
    t.Writes cs ∧ t.isBare = Bool.true := by
  unfold ofWord? at h
  split at h <;> cases h
  · exact ⟨.null, rfl⟩
  · exact ⟨.true, rfl⟩
  · exact ⟨.false, rfl⟩

theorem inNumber_of_isDigit {c : Char} (h : c.isDigit = Bool.true) : inNumber c = Bool.true := by
  simp [inNumber, h]

theorem inNumber_of_writes {l : Literal} {cs : List Char} (h : l.Writes cs) :
    (∃ c rest, cs = c :: rest ∧ (c.isDigit = Bool.true ∨ c = '-')) ∧
      ∀ c ∈ cs, inNumber c = Bool.true := by
  have hfigures {ds : List Nat} (hds : Literal.IsNumeral ds) :
      ∀ c ∈ Decimal.figures ds, inNumber c = Bool.true := fun c hc =>
    inNumber_of_isDigit (Decimal.isDigit_of_mem_figures hds.2 c hc)
  have hmarked {mark : Char} (hmark : mark = 'e' ∨ mark = 'E') : inNumber mark = Bool.true := by
    rcases hmark with rfl | rfl <;> rfl
  obtain @⟨negative, whole, fraction, exponent, point, power, hwhole, -, hpoint, hpower⟩ := h
  have hpointChars : ∀ c ∈ point, inNumber c = Bool.true := by
    cases hpoint with
    | absent => simp
    | digits hds => exact List.forall_mem_cons.mpr ⟨rfl, hfigures hds⟩
  have hpowerChars : ∀ c ∈ power, inNumber c = Bool.true := by
    cases hpower with
    | absent => simp
    | plain hmark hds => exact List.forall_mem_cons.mpr ⟨hmarked hmark, hfigures hds⟩
    | plus hmark hds | minus hmark hds =>
      exact List.forall_mem_cons.mpr ⟨hmarked hmark, List.forall_mem_cons.mpr ⟨rfl, hfigures hds⟩⟩
  obtain ⟨c, rest, hhead, hc⟩ := hwhole.exists_head
  have hbody : ∀ c ∈ Decimal.figures whole ++ (point ++ power), inNumber c = Bool.true := by
    simp only [List.forall_mem_append]
    exact ⟨hfigures hwhole, hpointChars, hpowerChars⟩
  cases negative with
  | false =>
    refine ⟨⟨c, rest ++ (point ++ power), ?_, .inl hc⟩, hbody⟩
    rw [hhead]
    rfl
  | true => exact ⟨⟨'-', _, rfl, .inr rfl⟩, List.forall_mem_cons.mpr ⟨rfl, hbody⟩⟩

end Token

namespace Reader

/-- What hexadecimal digits make of the value of those in front of them. -/
def hexFrom? (value : Nat) (ds : List Char) : Option Nat :=
  ds.foldlM (fun n c => (Text.hexDigit? c).map (16 * n + ·)) value

theorem hexValue?_eq_hexFrom? {ds : List Char} (h : ds ≠ []) : Text.hexValue? ds = hexFrom? 0 ds :=
  if_neg (by simpa using h)

theorem hexFrom?_cons_eq_some_iff {c : Char} {ds : List Char} {value n : Nat} :
    hexFrom? value (c :: ds) = some n ↔
      ∃ d, Text.hexDigit? c = some d ∧ hexFrom? (value * 16 + d) ds = some n := by
  simp [hexFrom?, Option.bind_eq_some_iff, Nat.mul_comm]

theorem hexFrom?_concat {c : Char} {ds : List Char} {value n d : Nat}
    (h : hexFrom? value ds = some n)
    (hd : Text.hexDigit? c = some d) : hexFrom? value (ds ++ [c]) = some (n * 16 + d) := by
  rw [hexFrom?, List.foldlM_append, ← hexFrom?, h]
  simp [hd, Nat.mul_comm]

/-- The characters that a reader has taken, by what it is in the middle of. -/
inductive Holds : Reader → List Char → Prop
  | between {ts : List Token} {cs : List Char} (h : Token.WritesAll ts.reverse cs) :
      Holds ⟨ts, .between⟩ cs
  | text {ts : List Token} {cs body : List Char} {ps : List Piece}
      (h : Token.WritesAll ts.reverse cs) (hbody : Piece.WritesAll ps body) :
      Holds ⟨ts, .text (ps.foldl TextScan.take .start)⟩ (cs ++ '"' :: body)
  | escape {ts : List Token} {cs body : List Char} {ps : List Piece}
      (h : Token.WritesAll ts.reverse cs) (hbody : Piece.WritesAll ps body) :
      Holds ⟨ts, .escape (ps.foldl TextScan.take .start)⟩ (cs ++ '"' :: (body ++ ['\\']))
  | hex {ts : List Token} {cs body ds : List Char} {ps : List Piece} {wanted value : Nat}
      (h : Token.WritesAll ts.reverse cs) (hbody : Piece.WritesAll ps body)
      (hwanted : 1 ≤ wanted) (hlength : ds.length + wanted = 4)
      (hvalue : hexFrom? 0 ds = some value) :
      Holds ⟨ts, .hex (ps.foldl TextScan.take .start) wanted value⟩
        (cs ++ '"' :: (body ++ '\\' :: 'u' :: ds))
  | number {ts : List Token} {cs seen : List Char} (h : Token.WritesAll ts.reverse cs) :
      Holds ⟨ts, .number seen⟩ (cs ++ seen.reverse)
  | word {ts : List Token} {cs seen : List Char} (h : Token.WritesAll ts.reverse cs) :
      Holds ⟨ts, .word seen⟩ (cs ++ seen.reverse)

theorem Holds.emit {ts : List Token} {cs lexeme : List Char} {t : Token}
    (h : Token.WritesAll ts.reverse cs) (ht : t.Writes lexeme) :
    Holds ⟨t :: ts, .between⟩ (cs ++ lexeme) := by
  refine .between ?_
  rw [List.reverse_cons]
  exact h.snoc ht

theorem Holds.stepBetween {ts : List Token} {cs : List Char} {c : Char} {r : Reader}
    (h : Token.WritesAll ts.reverse cs) (hstep : stepBetween ts c = some r) :
    Holds r (cs ++ [c]) := by
  unfold Reader.stepBetween at hstep
  split at hstep
  · cases hstep
    exact .emit h .beginArray
  · cases hstep
    exact .emit h .endArray
  · cases hstep
    exact .emit h .beginObject
  · cases hstep
    exact .emit h .endObject
  · cases hstep
    exact .emit h .colon
  · cases hstep
    exact .emit h .comma
  · cases hstep
    exact .text h .nil
  · split_ifs at hstep with hspace hnumber hword
    · cases hstep
      exact .between (h.blank hspace)
    · cases hstep
      exact .number h
    · cases hstep
      exact .word h

theorem Holds.stepClosed {ts : List Token} {cs lexeme : List Char} {t : Token} {c : Char}
    {r : Reader} (h : Token.WritesAll ts.reverse cs) (ht : t.Writes lexeme)
    (hstep : Reader.stepBetween (t :: ts) c = some r) : Holds r (cs ++ lexeme ++ [c]) := by
  refine .stepBetween ?_ hstep
  rw [List.reverse_cons]
  exact h.snoc ht

theorem Holds.stepHex {ts : List Token} {cs body ds : List Char} {ps : List Piece}
    {wanted value d : Nat}
    {c : Char} (h : Token.WritesAll ts.reverse cs) (hbody : Piece.WritesAll ps body)
    (hwanted : 1 ≤ wanted) (hlength : ds.length + wanted = 4) (hvalue : hexFrom? 0 ds = some value)
    (hd : Text.hexDigit? c = some d) :
    Holds ⟨ts, if wanted ≤ 1 then .text ((ps.foldl TextScan.take .start).pushUnit (value * 16 + d))
      else .hex (ps.foldl TextScan.take .start) (wanted - 1) (value * 16 + d)⟩
      (cs ++ '"' :: (body ++ '\\' :: 'u' :: (ds ++ [c]))) := by
  have hmore := hexFrom?_concat hvalue hd
  have hlength' : (ds ++ [c]).length = ds.length + 1 := by
    rw [List.length_append, List.length_singleton]
  split
  · have hpiece : Piece.Writes (.unit (value * 16 + d)) ('\\' :: 'u' :: (ds ++ [c])) := by
      refine .unit (by omega) ?_
      rw [hexValue?_eq_hexFrom? (List.concat_ne_nil c ds), hmore]
    have hnext := Holds.text h (hbody.snoc hpiece)
    simpa [TextScan.take] using hnext
  · exact .hex h hbody (by omega) (by omega) hmore

theorem Holds.step {r r' : Reader} {cs : List Char} {c : Char} (h : Holds r cs)
    (hstep : r.step c = some r') : Holds r' (cs ++ [c]) := by
  cases h with
  | between h => exact .stepBetween h hstep
  | @text ts cs body ps h hbody =>
    simp only [Reader.step] at hstep
    simp only [List.append_assoc, List.cons_append]
    split_ifs at hstep with hquote hslash hcontrol
    · cases hstep
      subst hquote
      rw [TextScan.finish_foldl_start]
      exact .emit h (.text hbody)
    · cases hstep
      subst hslash
      exact .escape h hbody
    · cases hstep
      have hpiece : Piece.Writes (.char c) [c] := .plain hquote hslash (by omega)
      have hnext := Holds.text h (hbody.snoc hpiece)
      simpa [TextScan.take] using hnext
  | @escape ts cs body ps h hbody =>
    simp only [Reader.step] at hstep
    simp only [List.append_assoc, List.cons_append]
    split_ifs at hstep with hunit
    · cases hstep
      subst hunit
      have hnext := @Holds.hex ts cs body [] ps 4 0 h hbody (by omega) rfl rfl
      simpa using hnext
    · obtain ⟨e, he, rfl⟩ := Option.map_eq_some_iff.mp hstep
      have hnext := Holds.text h (hbody.snoc (.escaped he))
      simpa [TextScan.take] using hnext
  | @hex ts cs body ds ps wanted value h hbody hwanted hlength hvalue =>
    simp only [Reader.step, Option.bind_eq_bind, Option.bind_eq_some_iff, Option.some.injEq]
      at hstep
    obtain ⟨d, hd, rfl⟩ := hstep
    simpa using Holds.stepHex h hbody hwanted hlength hvalue hd
  | @number ts cs seen h =>
    simp only [Reader.step] at hstep
    split_ifs at hstep with hdigit
    · cases hstep
      simpa using @Holds.number ts cs (c :: seen) h
    · obtain ⟨l, hl, hclosed⟩ := Option.bind_eq_some_iff.mp hstep
      exact .stepClosed h (.number (Literal.ofChars?_eq_some_iff.mp hl)) hclosed
  | @word ts cs seen h =>
    simp only [Reader.step] at hstep
    split_ifs at hstep with hlower
    · cases hstep
      simpa using @Holds.word ts cs (c :: seen) h
    · obtain ⟨t, ht, hclosed⟩ := Option.bind_eq_some_iff.mp hstep
      exact .stepClosed h (Token.writes_of_ofWord? ht).1 hclosed

theorem Holds.run {r r' : Reader} {cs more : List Char} (h : Holds r cs)
    (hrun : r.run more = some r') : Holds r' (cs ++ more) := by
  induction more generalizing r cs with
  | nil =>
    cases hrun
    simpa using h
  | cons c more ih =>
    obtain ⟨next, hstep, hrun⟩ := Option.bind_eq_some_iff.mp hrun
    simpa using ih (h.step hstep) hrun

theorem Holds.writesAll {r : Reader} {cs : List Char} {ts : List Token} (h : Holds r cs)
    (hfinish : r.finish? = some ts) : Token.WritesAll ts cs := by
  cases h with
  | between h =>
    cases hfinish
    exact h
  | text | escape | hex => cases hfinish
  | number h =>
    obtain ⟨l, hl, rfl⟩ := Option.map_eq_some_iff.mp hfinish
    rw [List.reverse_cons]
    exact h.snoc (.number (Literal.ofChars?_eq_some_iff.mp hl))
  | word h =>
    obtain ⟨t, ht, rfl⟩ := Option.map_eq_some_iff.mp hfinish
    rw [List.reverse_cons]
    exact h.snoc (Token.writes_of_ofWord? ht).1

/-- Readers that have some tokens, the last of them perhaps still open. -/
inductive Settled : Reader → List Token → Prop
  | between {ts : List Token} : Settled ⟨ts.reverse, .between⟩ ts
  | number {ts : List Token} {seen : List Char} {l : Literal}
      (h : Literal.ofChars? seen.reverse = some l) :
      Settled ⟨ts.reverse, .number seen⟩ (ts ++ [.number l])
  | word {ts : List Token} {seen : List Char} {t : Token}
      (h : Token.ofWord? seen.reverse = some t) :
      Settled ⟨ts.reverse, .word seen⟩ (ts ++ [t])

theorem Settled.finish?_eq {r : Reader} {ts : List Token} (h : Settled r ts) :
    r.finish? = some ts := by
  cases h with
  | between => simp [finish?]
  | number h => simp [finish?, h]
  | word h => simp [finish?, h]

/-- A character that cannot belong to a number or a word ends either. -/
theorem Settled.step_eq {r : Reader} {ts : List Token} {c : Char} (h : Settled r ts)
    (hnumber : Token.inNumber c = false) (hword : c.isLower = false) :
    r.step c = stepBetween ts.reverse c := by
  cases h with
  | between => simp [Reader.step]
  | number h => simp [Reader.step, hnumber, h]
  | word h => simp [Reader.step, hword, h]

theorem Settled.of_emit (ts : List Token) (t : Token) :
    Settled ⟨t :: ts.reverse, .between⟩ (ts ++ [t]) := by
  have h := @Settled.between (ts ++ [t])
  rwa [List.reverse_concat] at h

theorem run_hex {ts : List Token} {t : TextScan} {ds : List Char} {wanted value n : Nat}
    (hwanted : 1 ≤ wanted) (hlength : ds.length = wanted)
    (hvalue : hexFrom? value ds = some n) :
    run ⟨ts, .hex t wanted value⟩ ds = some ⟨ts, .text (t.pushUnit n)⟩ := by
  induction ds generalizing wanted value with
  | nil =>
    simp at hlength
    omega
  | cons c ds ih =>
    obtain ⟨d, hd, hvalue⟩ := hexFrom?_cons_eq_some_iff.mp hvalue
    rw [List.length_cons] at hlength
    by_cases hlast : wanted ≤ 1
    · have hnil : ds = [] := List.length_eq_zero_iff.mp (by omega)
      subst hnil
      cases hvalue
      simp [Reader.step, hd, hlast]
    · have hwanted' : 1 ≤ wanted - 1 := by omega
      have hrest := ih hwanted' (by omega) hvalue
      simpa [Reader.step, hd, hlast] using hrest

theorem run_piece {p : Piece} {part : List Char} (h : p.Writes part) (ts : List Token)
    (t : TextScan) : run ⟨ts, .text t⟩ part = some ⟨ts, .text (t.take p)⟩ := by
  cases h with
  | plain hquote hslash hcontrol =>
    have hcontrol' : ¬ _ < 0x20 := Nat.not_lt.mpr hcontrol
    simp [Reader.step, hquote, hslash, hcontrol', TextScan.take]
  | @escaped e c h =>
    have hunit : e ≠ 'u' := by
      rintro rfl
      cases h
    simp [Reader.step, hunit, h, TextScan.take]
  | @unit ds n hlength h =>
    have hne : ds ≠ [] := by
      rintro rfl
      cases hlength
    rw [hexValue?_eq_hexFrom? hne] at h
    have hrun := @run_hex ts t ds 4 0 n (by omega) hlength h
    simpa [Reader.step, TextScan.take] using hrun

theorem run_body {ps : List Piece} {body : List Char} (h : Piece.WritesAll ps body)
    (ts : List Token) (t : TextScan) :
    run ⟨ts, .text t⟩ body = some ⟨ts, .text (ps.foldl TextScan.take t)⟩ := by
  induction h with
  | nil => rfl
  | snoc _ hp ih => simp [run_append, ih, run_piece hp]

theorem run_number {cs : List Char} (h : ∀ c ∈ cs, Token.inNumber c = true) (ts : List Token)
    (seen : List Char) : run ⟨ts, .number seen⟩ cs = some ⟨ts, .number (cs.reverse ++ seen)⟩ := by
  induction cs generalizing seen with
  | nil => rfl
  | cons c cs ih =>
    obtain ⟨hc, hcs⟩ := List.forall_mem_cons.mp h
    simp [Reader.step, hc, ih hcs]

theorem stepBetween_number {c : Char} (h : c.isDigit = true ∨ c = '-') (ts : List Token) :
    stepBetween ts c = some ⟨ts, .number [c]⟩ := by
  rcases h with hdigit | rfl
  · have hspace : Token.isSpace c = false := by
      by_contra hblank
      simp only [Token.isSpace, Bool.not_eq_false, Bool.or_eq_true, beq_iff_eq] at hblank
      rcases hblank with ((rfl | rfl) | rfl) | rfl <;> cases hdigit
    unfold stepBetween
    split <;> first | cases hdigit | simp [hspace, hdigit]
  · rfl

theorem Settled.step_blank {r : Reader} {ts : List Token} {c : Char} (h : Settled r ts)
    (hc : Token.isSpace c = true) : r.step c = some ⟨ts.reverse, .between⟩ := by
  simp only [Token.isSpace, Bool.or_eq_true, beq_iff_eq] at hc
  rcases hc with ((rfl | rfl) | rfl) | rfl <;> exact h.step_eq rfl rfl

theorem Settled.mode_eq {r : Reader} {ts : List Token} (h : Settled r ts)
    (hlast : ∀ t ∈ ts.getLast?, t.isBare = false) : r.mode = .between := by
  cases h with
  | between => rfl
  | @number ts seen l h =>
    have hbare := hlast (.number l) (by simp)
    cases hbare
  | @word ts seen t h =>
    have hbare := hlast t (by simp)
    rw [(Token.writes_of_ofWord? h).2] at hbare
    cases hbare

/-- A token is read behind settled ones. If it is a word or a number, none may be open in front of
it. -/
theorem Settled.run_lexeme {r : Reader} {ts : List Token} {t : Token} {lexeme : List Char}
    (h : Settled r ts) (ht : t.Writes lexeme) (hbare : t.isBare = true → r.mode = .between) :
    ∃ r', r.run lexeme = some r' ∧ Settled r' (ts ++ [t]) := by
  have hmark {c : Char} {t : Token} (hnumber : Token.inNumber c = false) (hword : c.isLower = false)
      (hemit : stepBetween ts.reverse c = emit ts.reverse t) :
      ∃ r', r.run [c] = some r' ∧ Settled r' (ts ++ [t]) := by
    refine ⟨_, ?_, .of_emit ts t⟩
    simp [h.step_eq hnumber hword, hemit, emit]
  have hopen (hbetween : r.mode = .between) : r = ⟨ts.reverse, .between⟩ := by
    cases h with
    | between => simp
    | number | word => cases hbetween
  cases ht with
  | beginArray | endArray | beginObject | endObject | colon | comma => exact hmark rfl rfl rfl
  | null | true | false =>
    rw [hopen (hbare rfl)]
    exact ⟨_, rfl, .word rfl⟩
  | @number l cs hl =>
    rw [hopen (hbare rfl)]
    obtain ⟨⟨c, rest, rfl, hc⟩, hall⟩ := Token.inNumber_of_writes hl
    have hrun := run_number (fun d hd => hall d (List.mem_cons_of_mem c hd)) ts.reverse [c]
    have hread : Literal.ofChars? (rest.reverse ++ [c]).reverse = some l := by
      simpa using Literal.ofChars?_eq_some_iff.mpr hl
    exact ⟨_, by simpa [Reader.step, stepBetween_number hc] using hrun, .number hread⟩
  | @text ps body hbody =>
    have hopening : r.step '"' = some ⟨ts.reverse, .text .start⟩ := by
      rw [h.step_eq rfl rfl]
      rfl
    have hclosing : run ⟨ts.reverse, .text (ps.foldl TextScan.take .start)⟩ ['"'] =
        some ⟨.text (Piece.text? ps) :: ts.reverse, .between⟩ := by
      rw [← TextScan.finish_foldl_start]
      rfl
    refine ⟨_, ?_, .of_emit ts _⟩
    rw [run_cons, hopening, Option.bind_some, run_append, run_body hbody, Option.bind_some,
      hclosing]

end Reader

namespace Token

/-- No two words or numbers stand side by side. -/
def Apart (ts : List Token) : Prop := ts.IsChain fun t u => t.isBare = .false ∨ u.isBare = .false

theorem scan?_of_writesAll {ts : List Token} {cs : List Char} (h : WritesAll ts cs)
    (hapart : Apart ts) : scan? cs = some ts := by
  have hrun : ∃ r, Reader.start.run cs = some r ∧ Reader.Settled r ts := by
    induction h with
    | nil => exact ⟨.start, rfl, @Reader.Settled.between []⟩
    | @blank ts cs c _ hc ih =>
      obtain ⟨r, hr, hsettled⟩ := ih hapart
      exact ⟨⟨ts.reverse, .between⟩, by simp [Reader.run_append, hr, hsettled.step_blank hc],
        .between⟩
    | @snoc ts cs lexeme t _ ht ih =>
      obtain ⟨hbefore, -, hseam⟩ := List.isChain_append.mp hapart
      obtain ⟨r, hr, hsettled⟩ := ih hbefore
      have hbare (h : t.isBare = Bool.true) : r.mode = .between := by
        refine hsettled.mode_eq fun u hu => ?_
        have hneighbours := hseam u hu t (by simp)
        simpa [h] using hneighbours
      obtain ⟨r', hr', hsettled'⟩ := hsettled.run_lexeme ht hbare
      exact ⟨r', by simp [Reader.run_append, hr, hr'], hsettled'⟩
  obtain ⟨r, hr, hsettled⟩ := hrun
  simp [scan?, hr, hsettled.finish?_eq]

theorem writesAll_of_scan? {ts : List Token} {cs : List Char} (h : scan? cs = some ts) :
    WritesAll ts cs := by
  obtain ⟨r, hrun, hfinish⟩ := Option.bind_eq_some_iff.mp h
  have hstart : Reader.Holds .start [] := .between .nil
  exact (hstart.run hrun).writesAll hfinish

end Token
end AnswerStream.Json
