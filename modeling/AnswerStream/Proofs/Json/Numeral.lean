import AnswerStream.Json.Number
import Mathlib.Data.List.TakeWhile
import Mathlib.Tactic.IntervalCases

/-!
Numbers as JSON has them written: an optional minus sign, a whole part without leading zeros, a
point with digits behind it, an exponent with an optional sign. The reader takes just these texts,
and keeps what was written. A whole number that fits 64 bits is read as itself from the text in
which it is written out.
-/

namespace AnswerStream.Decimal

/-- Digits as they are written. -/
def figures (ds : List Nat) : List Char := ds.map Nat.digitChar

theorem digit?_digitChar {d : Nat} (h : d < 10) : digit? (Nat.digitChar d) = some d := by
  interval_cases d <;> rfl

theorem isDigit_digitChar {d : Nat} (h : d < 10) : (Nat.digitChar d).isDigit = true := by
  interval_cases d <;> rfl

theorem digit?_eq_some_iff {c : Char} {d : Nat} :
    digit? c = some d ↔ d < 10 ∧ c = Nat.digitChar d := by
  constructor
  · intro h
    obtain ⟨hdigit, hd⟩ := Option.ite_none_right_eq_some.mp h
    have hd := Option.some.inj hd
    have hrange : 48 ≤ c.toNat ∧ c.toNat ≤ 57 := by
      simpa [Char.isDigit, UInt32.le_iff_toNat_le] using hdigit
    have hzero : '0'.toNat = 48 := rfl
    have hlt : d < 10 := by omega
    have hc : c.toNat = (Nat.digitChar d).toNat := by
      rw [show c.toNat = d + 48 by omega]
      interval_cases d <;> rfl
    exact ⟨hlt, Char.toNat_inj.mp hc⟩
  · rintro ⟨hd, rfl⟩
    exact digit?_digitChar hd

theorem filterMap_figures {ds : List Nat} (h : ∀ d ∈ ds, d < 10) :
    (figures ds).filterMap digit? = ds := by
  induction ds with
  | nil => rfl
  | cons d ds ih =>
    obtain ⟨hd, hds⟩ := List.forall_mem_cons.mp h
    have hfirst := digit?_digitChar hd
    rw [figures, List.map_cons, List.filterMap_cons_some hfirst]
    exact congrArg (d :: ·) (ih hds)

theorem isDigit_of_mem_figures {ds : List Nat} (h : ∀ d ∈ ds, d < 10) :
    ∀ c ∈ figures ds, c.isDigit = true := by
  intro c hc
  obtain ⟨d, hd, rfl⟩ := List.mem_map.mp hc
  exact isDigit_digitChar (h d hd)

theorem exists_figures {cs : List Char} (h : ∀ c ∈ cs, c.isDigit = true) :
    ∃ ds, (∀ d ∈ ds, d < 10) ∧ cs = figures ds := by
  induction cs with
  | nil => exact ⟨[], by simp, rfl⟩
  | cons c cs ih =>
    obtain ⟨hc, hcs⟩ := List.forall_mem_cons.mp h
    obtain ⟨ds, hds, rfl⟩ := ih hcs
    have hfirst : digit? c = some (c.toNat - '0'.toNat) := if_pos hc
    obtain ⟨hd, hchar⟩ := digit?_eq_some_iff.mp hfirst
    exact ⟨_ :: ds, List.forall_mem_cons.mpr ⟨hd, hds⟩, congrArg (· :: figures ds) hchar⟩

theorem digitRun_eq_iff {cs rest : List Char} {ds : List Nat} :
    digitRun cs = (ds, rest) ↔
      (∀ d ∈ ds, d < 10) ∧ cs = figures ds ++ rest ∧ rest.head?.any Char.isDigit = false := by
  constructor
  · intro h
    obtain ⟨hds, hrest⟩ := Prod.mk.inj h
    have hdigits : ∀ c ∈ cs.takeWhile Char.isDigit, c.isDigit = true := fun c hc =>
      List.mem_takeWhile_imp hc
    obtain ⟨ds', hds', htaken⟩ := exists_figures hdigits
    rw [htaken, filterMap_figures hds'] at hds
    subst hds
    refine ⟨hds', ?_, ?_⟩
    · rw [← htaken, ← hrest, List.takeWhile_append_dropWhile]
    · rw [← hrest]
      have hhead := List.head?_dropWhile_not Char.isDigit cs
      cases hd : (cs.dropWhile Char.isDigit).head? with
      | none => rfl
      | some c => simpa [hd] using hhead
  · rintro ⟨hds, rfl, hrest⟩
    have hdigits := isDigit_of_mem_figures hds
    have hstop : rest.takeWhile Char.isDigit = [] ∧ rest.dropWhile Char.isDigit = rest := by
      cases rest with
      | nil => exact ⟨rfl, rfl⟩
      | cons c rest =>
        have hc : c.isDigit = false := by simpa using hrest
        simp [hc]
    rw [digitRun, List.takeWhile_append_of_pos hdigits, List.dropWhile_append_of_pos hdigits,
      hstop.1, hstop.2, List.append_nil, filterMap_figures hds]

theorem natural?_eq_some_iff {cs : List Char} {n : Nat} :
    natural? cs = some n ↔
      ∃ ds, ds ≠ [] ∧ (∀ d ∈ ds, d < 10) ∧ cs = figures ds ∧ n = ofDigits ds := by
  constructor
  · intro h
    rw [natural?] at h
    split at h
    · cases h
    · next ds hne hrun =>
      obtain ⟨hds, hcs, -⟩ := digitRun_eq_iff.mp hrun
      exact ⟨ds, hne, hds, by simpa using hcs, (Option.some.inj h).symm⟩
    · cases h
  · rintro ⟨ds, hne, hds, rfl, rfl⟩
    have hrun : digitRun (figures ds) = (ds, []) :=
      digitRun_eq_iff.mpr ⟨hds, (List.append_nil _).symm, rfl⟩
    rw [natural?, hrun]
    cases ds with
    | nil => exact absurd rfl hne
    | cons d ds => rfl

theorem exists_render_eq_figures (n : Nat) :
    ∃ ds, ds ≠ [] ∧ (∀ d ∈ ds, d < 10) ∧ (ds.head? = some 0 → ds = [0]) ∧ render n = figures ds ∧
      ofDigits ds = n := by
  induction n using Nat.strong_induction_on with
  | _ n ih =>
    by_cases hn : n < 10
    · refine ⟨[n], by simp, by simpa using hn, by simp, ?_, by simp [ofDigits]⟩
      rw [render, Nat.toDigits_of_lt_base hn]
      rfl
    · obtain ⟨ds, hne, hds, hzero, hrender, hvalue⟩ := ih (n / 10) (by omega)
      refine ⟨ds ++ [n % 10], by simp, ?_, ?_, ?_, ?_⟩
      · exact List.forall_mem_append.mpr ⟨hds, by simpa using Nat.mod_lt n (by decide)⟩
      · intro hhead
        have hfirst : ds.head? = some 0 := by
          cases ds with
          | nil => exact absurd rfl hne
          | cons d ds => exact hhead
        rw [hzero hfirst] at hvalue
        have hnonzero : n / 10 ≠ 0 := by omega
        exact absurd hvalue.symm hnonzero
      · have hdigits : Nat.toDigits 10 n = Nat.toDigits 10 (n / 10) ++ [Nat.digitChar (n % 10)] :=
          Nat.toDigits_of_base_le (by decide) (by omega)
        rw [render, hdigits, ← render, hrender, figures, figures, List.map_append,
          List.map_singleton]
      · rw [ofDigits_append_singleton, hvalue]
        omega

end AnswerStream.Decimal

namespace AnswerStream.Json.Literal
open Decimal (figures digitRun ofDigits)

/-- One or more digits. -/
def IsNumeral (ds : List Nat) : Prop := ds ≠ [] ∧ ∀ d ∈ ds, d < 10

def signChars (negative : Bool) : List Char := if negative then ['-'] else []

inductive WritesFraction : List Nat → List Char → Prop
  | absent : WritesFraction [] []
  | digits {ds : List Nat} (h : IsNumeral ds) : WritesFraction ds ('.' :: figures ds)

inductive WritesExponent : Option Int → List Char → Prop
  | absent : WritesExponent none []
  | plain {mark : Char} {ds : List Nat} (hmark : mark = 'e' ∨ mark = 'E') (h : IsNumeral ds) :
      WritesExponent (some (ofDigits ds)) (mark :: figures ds)
  | plus {mark : Char} {ds : List Nat} (hmark : mark = 'e' ∨ mark = 'E') (h : IsNumeral ds) :
      WritesExponent (some (ofDigits ds)) (mark :: '+' :: figures ds)
  | minus {mark : Char} {ds : List Nat} (hmark : mark = 'e' ∨ mark = 'E') (h : IsNumeral ds) :
      WritesExponent (some (-(ofDigits ds : Int))) (mark :: '-' :: figures ds)

/-- The grammar of numbers. A whole part that starts with a zero is that zero. -/
inductive Writes : Literal → List Char → Prop
  | parts {negative : Bool} {whole fraction : List Nat} {exponent : Option Int}
      {point power : List Char} (hwhole : IsNumeral whole)
      (hzero : whole.head? = some 0 → whole.length = 1) (hpoint : WritesFraction fraction point)
      (hpower : WritesExponent exponent power) :
      Writes ⟨negative, whole, fraction, exponent⟩
        (signChars negative ++ (figures whole ++ (point ++ power)))

theorem natural?_eq_some_iff {cs : List Char} {n : Nat} :
    Decimal.natural? cs = some n ↔ ∃ ds, IsNumeral ds ∧ cs = figures ds ∧ n = ofDigits ds := by
  simp only [Decimal.natural?_eq_some_iff, IsNumeral, and_assoc]

/-- A numeral starts with a digit, and so with none of the other marks in a number. -/
theorem IsNumeral.exists_head {ds : List Nat} (h : IsNumeral ds) :
    ∃ c cs, figures ds = c :: cs ∧ c.isDigit = true := by
  obtain ⟨hne, hds⟩ := h
  cases ds with
  | nil => exact absurd rfl hne
  | cons d ds => exact ⟨_, _, rfl, Decimal.isDigit_digitChar (hds d (by simp))⟩

theorem exponentPart?_eq_some_iff {cs : List Char} {e : Option Int} :
    exponentPart? cs = some e ↔ WritesExponent e cs := by
  constructor
  · intro h
    cases cs with
    | nil =>
      cases h
      exact .absent
    | cons mark rest =>
      obtain ⟨k, hk, rfl⟩ := Option.map_eq_some_iff.mp h
      unfold Decimal.exponent? at hk
      obtain ⟨hmark, hk⟩ := Option.ite_none_right_eq_some.mp hk
      split at hk <;>
        simp only [Option.map_eq_some_iff, Option.bind_eq_bind, Option.bind_eq_some_iff,
          Option.pure_def, Option.some.injEq, natural?_eq_some_iff] at hk <;>
        obtain ⟨_, ⟨_, ⟨ds, hds, rfl, rfl⟩, rfl⟩, rfl⟩ := hk
      · exact .minus hmark hds
      · exact .plus hmark hds
      · exact .plain hmark hds
  · intro h
    have hread {ds : List Nat} (hds : IsNumeral ds) :
        Decimal.natural? (figures ds) = some (ofDigits ds) :=
      natural?_eq_some_iff.mpr ⟨ds, hds, rfl, rfl⟩
    cases h with
    | absent => rfl
    | plain hmark hds =>
      have hnumber := hread hds
      obtain ⟨c, cs, hcs, hc⟩ := hds.exists_head
      rw [hcs] at hnumber ⊢
      have hminus : c ≠ '-' := by
        rintro rfl
        cases hc
      have hplus : c ≠ '+' := by
        rintro rfl
        cases hc
      simp [exponentPart?, Decimal.exponent?, hmark, hnumber, hminus, hplus]
    | plus hmark hds => simp [exponentPart?, Decimal.exponent?, hmark, hread hds]
    | minus hmark hds => simp [exponentPart?, Decimal.exponent?, hmark, hread hds]

theorem head?_of_writes {fraction : List Nat} {exponent : Option Int} {point power : List Char}
    (hpoint : WritesFraction fraction point) (hpower : WritesExponent exponent power) :
    power.head?.any Char.isDigit = false ∧ (point ++ power).head?.any Char.isDigit = false := by
  have hmarked {mark : Char} (hmark : mark = 'e' ∨ mark = 'E') : mark.isDigit = false := by
    rcases hmark with rfl | rfl <;> rfl
  have hpowerHead : power.head?.any Char.isDigit = false := by
    cases hpower with
    | absent => rfl
    | plain hmark => exact hmarked hmark
    | plus hmark => exact hmarked hmark
    | minus hmark => exact hmarked hmark
  refine ⟨hpowerHead, ?_⟩
  cases hpoint with
  | absent => exact hpowerHead
  | digits => rfl

theorem writes_of_ofChars? {cs : List Char} {l : Literal} (h : ofChars? cs = some l) :
    Writes l cs := by
  unfold ofChars? at h
  split at h
  next negative body hsign =>
  have hcs : cs = signChars negative ++ body := by
    split at hsign <;> cases hsign <;> rfl
  split at h
  next whole afterWhole hrun =>
  rw [Option.ite_none_left_eq_some] at h
  obtain ⟨hfigures, h⟩ := h
  obtain ⟨hdigits, rfl, -⟩ := Decimal.digitRun_eq_iff.mp hrun
  have hwhole : IsNumeral whole := ⟨by rintro rfl; simp at hfigures, hdigits⟩
  have hzero : whole.head? = some 0 → whole.length = 1 := by
    intro hhead
    by_contra hlength
    simp [hhead, hlength] at hfigures
  have hwritten {fraction : List Nat} {exponent : Option Int} {point power : List Char}
      (hafter : afterWhole = point ++ power) (hpoint : WritesFraction fraction point)
      (hexponent : exponentPart? power = some exponent) :
      Writes ⟨negative, whole, fraction, exponent⟩ cs := by
    rw [hcs, hafter]
    exact .parts hwhole hzero hpoint (exponentPart?_eq_some_iff.mp hexponent)
  simp only [Option.bind_eq_bind] at h
  split at h
  · next rest =>
    split at h
    · cases h
    · next run hne =>
      rcases hfraction : digitRun rest with ⟨fraction, tail⟩
      rw [hfraction] at h hne
      simp only [Option.bind_some, Option.bind_eq_some_iff] at h
      obtain ⟨exponent, hexponent, ⟨⟩⟩ := h
      obtain ⟨hdigits', rfl, -⟩ := Decimal.digitRun_eq_iff.mp hfraction
      have hnumeral : IsNumeral fraction := ⟨fun hnil => hne _ (by rw [hnil]), hdigits'⟩
      exact hwritten rfl (.digits hnumeral) hexponent
  · simp only [Option.bind_some, Option.bind_eq_some_iff] at h
    obtain ⟨exponent, hexponent, ⟨⟩⟩ := h
    exact hwritten rfl .absent hexponent

theorem ofChars?_of_writes {cs : List Char} {l : Literal} (h : Writes l cs) :
    ofChars? cs = some l := by
  obtain @⟨negative, whole, fraction, exponent, point, power, hwhole, hzero, hpoint, hpower⟩ := h
  obtain ⟨hpowerHead, hafterHead⟩ := head?_of_writes hpoint hpower
  have hrun : digitRun (figures whole ++ (point ++ power)) = (whole, point ++ power) :=
    Decimal.digitRun_eq_iff.mpr ⟨hwhole.2, rfl, hafterHead⟩
  have hfigures : (whole.isEmpty || whole.head? == some 0 && whole.length != 1) = false := by
    have hne := hwhole.1
    by_cases hhead : whole.head? = some 0
    · simp [hne, hzero hhead]
    · simp [hne, hhead]
  have hexponent := exponentPart?_eq_some_iff.mpr hpower
  obtain ⟨c, rest, hhead, hc⟩ := hwhole.exists_head
  have hminus : c ≠ '-' := by
    rintro rfl
    cases hc
  unfold ofChars?
  split
  next negative' body hsign =>
  obtain ⟨rfl, rfl⟩ : negative' = negative ∧ body = figures whole ++ (point ++ power) := by
    cases negative <;> simp [signChars, hhead, hminus] at hsign <;> simp [hhead, hsign]
  simp only [hrun, hfigures, Bool.false_eq_true, if_false, Option.bind_eq_bind]
  cases hpoint with
  | absent =>
    have hpoint : ∀ rest, power ≠ '.' :: rest := by
      rintro rest rfl
      cases hpower with
      | plain hmark => simp at hmark
      | plus hmark => simp at hmark
      | minus hmark => simp at hmark
    simp [hexponent]
  | digits hnumeral =>
    have hfraction : digitRun (figures fraction ++ power) = (fraction, power) :=
      Decimal.digitRun_eq_iff.mpr ⟨hnumeral.2, rfl, hpowerHead⟩
    simp only [List.cons_append, hfraction]
    simp [hnumeral.1, hexponent]

theorem ofChars?_eq_some_iff {cs : List Char} {l : Literal} : ofChars? cs = some l ↔ Writes l cs :=
  ⟨writes_of_ofChars?, ofChars?_of_writes⟩

theorem exists_ofInt_eq (i : Int) :
    ∃ ds, IsNumeral ds ∧ (ds.head? = some 0 → ds.length = 1) ∧
      Decimal.render i.natAbs = figures ds ∧
      ofDigits ds = i.natAbs ∧ ofInt i = ⟨i < 0, ds, [], none⟩ := by
  obtain ⟨ds, hne, hds, hzero, hrender, hvalue⟩ := Decimal.exists_render_eq_figures i.natAbs
  refine ⟨ds, ⟨hne, hds⟩, fun hhead => by rw [hzero hhead]; rfl, hrender, hvalue, ?_⟩
  rw [ofInt, hrender, Decimal.filterMap_figures hds]

theorem writes_ofInt (i : Int) : Writes (ofInt i) (Number.renderInt i) := by
  obtain ⟨ds, hds, hzero, hrender, -, hliteral⟩ := exists_ofInt_eq i
  have hchars : Number.renderInt i = signChars (i < 0) ++ (figures ds ++ ([] ++ [])) := by
    rw [Number.renderInt, hrender, List.append_nil, List.append_nil]
    by_cases hi : i < 0 <;> simp [signChars, hi]
  rw [hliteral, hchars]
  exact .parts hds hzero .absent .absent

/-- A whole number fits a signed or an unsigned 64-bit word. -/
def Fits (i : Int) : Prop := -(2 ^ 63) ≤ i ∧ i < 2 ^ 64

theorem fits_of_lt {n : Nat} (h : n < 2 ^ 64) : Fits n := ⟨by omega, by omega⟩

theorem int?_ofInt {i : Int} (h : Fits i) : (ofInt i).int? = some i := by
  obtain ⟨ds, -, -, -, hvalue, hliteral⟩ := exists_ofInt_eq i
  obtain ⟨hlow, hhigh⟩ := h
  have hpowers : Nat.pow 2 63 = 2 ^ 63 ∧ Nat.pow 2 64 = 2 ^ 64 := ⟨rfl, rfl⟩
  rw [hliteral, int?, hpowers.1, hpowers.2]
  simp only [List.isEmpty_nil, Option.isNone_none, Bool.and_self, if_true, hvalue,
    decide_eq_true_eq, Bool.and_eq_true]
  split
  · rw [if_pos (by omega)]
    congr 1
    omega
  · rw [if_pos (by omega)]
    congr 1
    omega

end AnswerStream.Json.Literal

namespace AnswerStream.Json.Number

theorem ofList_renderInt (i : Int) : String.ofList (renderInt i) = toString i := by
  cases i with
  | ofNat n =>
    have hsign : ¬ Int.ofNat n < 0 := by simp
    rw [renderInt, if_neg hsign]
    rfl
  | negSucc n =>
    have hsign : Int.negSucc n < 0 := Int.negSucc_lt_zero n
    have hdigits : toString (Int.negSucc n) = "-" ++ Nat.repr (n + 1) := rfl
    apply String.toList_inj.mp
    rw [hdigits, renderInt, if_pos hsign]
    simp [Decimal.render, Nat.repr]

end AnswerStream.Json.Number
