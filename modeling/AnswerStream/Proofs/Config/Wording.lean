import AnswerStream.Config.Source
import AnswerStream.Proofs.Json.Numeral

/-!
What the texts of variables stand for. A switch is one of eight words in whatever case. A whole
number is written in digits, a real number in digits with a point and an exponent or as a word, and
both may have a sign in front.
-/

namespace AnswerStream

/-- The words of a switch, in small letters. -/
def switchWords : Bool → List String
  | true => ["1", "true", "yes", "on"]
  | false => ["0", "false", "no", "off"]

/-- The case of letters does not matter. -/
def Switches (cs : List Char) (b : Bool) : Prop :=
  ∃ word ∈ switchWords b, cs.map Char.toLower = word.toList

theorem switch?_eq_some_iff {cs : List Char} {b : Bool} : switch? cs = some b ↔ Switches cs b := by
  have hlower (word : String) :
      cs.map Char.toLower = word.toList ↔ Text.lowerAscii (String.ofList cs) = word := by
    rw [← String.toList_inj, Text.lowerAscii, String.toList_map, String.toList_ofList]
  simp only [Switches, hlower, switch?]
  generalize Text.lowerAscii (String.ofList cs) = word
  split <;> cases b <;> simp_all [switchWords]

namespace Decimal
open Json.Literal (IsNumeral WritesExponent exponentPart? exponentPart?_eq_some_iff head?_of_writes)

/-- Digits, with or without a plus sign, of a number below a bound. -/
def Counts (bound : Nat) (cs : List Char) (n : Nat) : Prop :=
  ∃ ds, IsNumeral ds ∧ (cs = figures ds ∨ cs = '+' :: figures ds) ∧ n = ofDigits ds ∧ n < bound

/-- Digits with a point among or around them, or without one, and then an exponent or none. -/
inductive Figures : List Char → Float → Prop
  | parts {whole fraction : List Nat} {point power : List Char} {exponent : Option Int}
      (hdigits : IsNumeral (whole ++ fraction))
      (hpoint : point = '.' :: figures fraction ∨ point = [] ∧ fraction = [])
      (hpower : WritesExponent exponent power) :
      Figures (figures whole ++ (point ++ power))
        (nearest (ofDigits (whole ++ fraction)) (exponent.getD 0 - fraction.length))

/-- What stands for a real number without a sign. -/
inductive Measures : List Char → Float → Prop
  | infinity {cs : List Char} {word : String} (hword : word = "inf" ∨ word = "infinity")
      (h : cs.map Char.toLower = word.toList) : Measures cs infinity
  | undefined {cs : List Char} (h : cs.map Char.toLower = "nan".toList) : Measures cs undefined
  | figures {cs : List Char} {x : Float} (h : Figures cs x) : Measures cs x

/-- A sign, or none for plus. -/
inductive Signs : Bool → List Char → Prop
  | none : Signs false []
  | plus : Signs false ['+']
  | minus : Signs true ['-']

def Spells (cs : List Char) (x : Float) : Prop :=
  ∃ negative sign body magnitude, Signs negative sign ∧ cs = sign ++ body ∧
    Measures body magnitude ∧ x = signed negative magnitude

variable {cs : List Char} {x : Float}

theorem exponent?_eq_some_iff {e : Int} :
    exponent? cs = some e ↔ ∃ exponent, WritesExponent exponent cs ∧ e = exponent.getD 0 := by
  cases cs with
  | nil =>
    constructor
    · rintro ⟨⟩
      exact ⟨none, .absent, rfl⟩
    · rintro ⟨exponent, ⟨⟩, rfl⟩
      rfl
  | cons mark rest =>
    simp only [← exponentPart?_eq_some_iff, exponentPart?, Option.map_eq_some_iff]
    constructor
    · intro h
      exact ⟨some e, ⟨e, h, rfl⟩, rfl⟩
    · rintro ⟨_, ⟨e, h, rfl⟩, rfl⟩
      exact h

theorem bounded?_eq_some_iff {bound n : Nat} : bounded? bound cs = some n ↔ Counts bound cs n := by
  have hread (digits : List Char) :
      ((natural? digits).bind fun k => if k < bound then some k else none) = some n ↔
        ∃ ds, IsNumeral ds ∧ digits = figures ds ∧ n = ofDigits ds ∧ n < bound := by
    simp only [Option.bind_eq_some_iff, Json.Literal.natural?_eq_some_iff,
      Option.ite_none_right_eq_some, Option.some_inj]
    constructor
    · rintro ⟨_, ⟨ds, hds, hcs, rfl⟩, hlt, rfl⟩
      exact ⟨ds, hds, hcs, rfl, hlt⟩
    · rintro ⟨ds, hds, hcs, rfl, hlt⟩
      exact ⟨_, ⟨ds, hds, hcs, rfl⟩, hlt, rfl⟩
  refine (hread _).trans ?_
  refine exists_congr fun ds => and_congr_right fun hds => and_congr_left fun _ => ?_
  obtain ⟨c, rest, hhead, hdigit⟩ := hds.exists_head
  have hplus : c ≠ '+' := by
    rintro rfl
    cases hdigit
  split
  · simp [hhead, hplus.symm]
  · next hnone =>
    refine ⟨Or.inl, fun h => h.resolve_right (hnone _)⟩

theorem Figures.exists_head (h : Figures cs x) :
    ∃ c ∈ "0123456789.".toList, ∃ rest, cs = c :: rest := by
  obtain @⟨whole, fraction, point, power, exponent, ⟨hne, hdigits⟩, hpoint, hpower⟩ := h
  have hdigit {d : Nat} (hd : d < 10) : Nat.digitChar d ∈ "0123456789.".toList := by
    interval_cases d <;> decide
  cases whole with
  | cons d whole => exact ⟨_, hdigit (hdigits d (by simp)), _, rfl⟩
  | nil =>
    rcases hpoint with rfl | ⟨-, rfl⟩
    · exact ⟨'.', by decide, _, rfl⟩
    · exact absurd rfl hne

theorem figures_of_unsigned? (h : unsigned? cs = some x) : Figures cs x := by
  unfold unsigned? at h
  split at h
  next whole after hrun =>
  obtain ⟨hwhole, rfl, -⟩ := digitRun_eq_iff.mp hrun
  split at h
  next fraction tail hfraction =>
  obtain ⟨hsome, h⟩ := Option.ite_none_left_eq_some.mp h
  obtain ⟨e, he, rfl⟩ := Option.map_eq_some_iff.mp h
  obtain ⟨exponent, hpower, rfl⟩ := exponent?_eq_some_iff.mp he
  have hdigits (hall : ∀ d ∈ fraction, d < 10) : IsNumeral (whole ++ fraction) :=
    ⟨by simpa [List.isEmpty_iff] using hsome, List.forall_mem_append.mpr ⟨hwhole, hall⟩⟩
  split at hfraction
  · obtain ⟨hall, rfl, -⟩ := digitRun_eq_iff.mp hfraction
    exact .parts (hdigits hall) (.inl rfl) hpower
  · cases hfraction
    exact .parts (hdigits (by simp)) (.inr ⟨rfl, rfl⟩) hpower

theorem unsigned?_of_figures (h : Figures cs x) : unsigned? cs = some x := by
  obtain @⟨whole, fraction, point, power, exponent, ⟨hne, hdigits⟩, hpoint, hpower⟩ := h
  obtain ⟨hwhole, hfraction⟩ := List.forall_mem_append.mp hdigits
  have hstop : power.head?.any Char.isDigit = false := (head?_of_writes .absent hpower).1
  have hafter : (point ++ power).head?.any Char.isDigit = false := by
    rcases hpoint with rfl | ⟨rfl, -⟩
    · rfl
    · exact hstop
  have hrun : digitRun (figures whole ++ (point ++ power)) = (whole, point ++ power) :=
    digitRun_eq_iff.mpr ⟨hwhole, rfl, hafter⟩
  have hexponent := exponent?_eq_some_iff.mpr ⟨exponent, hpower, rfl⟩
  have hsome : (whole.isEmpty && fraction.isEmpty) = false := by
    simpa [List.isEmpty_iff] using hne
  unfold unsigned?
  rw [hrun]
  rcases hpoint with rfl | ⟨rfl, rfl⟩
  · have hfractionRun : digitRun (figures fraction ++ power) = (fraction, power) :=
      digitRun_eq_iff.mpr ⟨hfraction, rfl, hstop⟩
    simp only [List.cons_append, hfractionRun, hsome, hexponent]
    rfl
  · have hpoint : ∀ rest, power ≠ '.' :: rest := by
      rintro rest rfl
      cases hpower with
      | plain hmark => simp at hmark
      | plus hmark => simp at hmark
      | minus hmark => simp at hmark
    simp only [List.nil_append, hexponent, hsome]
    rfl

theorem Measures.not_signed (h : Measures cs x) (rest : List Char) :
    cs ≠ '-' :: rest ∧ cs ≠ '+' :: rest := by
  cases h with
  | infinity hword h => rcases hword with rfl | rfl <;> constructor <;> rintro rfl <;> simp at h
  | undefined h => constructor <;> rintro rfl <;> simp at h
  | figures h =>
    obtain ⟨c, hc, rest', rfl⟩ := h.exists_head
    constructor <;> rintro ⟨⟩ <;> simp at hc

theorem Figures.ne_word (h : Figures cs x) {word : String}
    (hword : word ∈ ["inf", "infinity", "nan"]) :
    String.ofList (cs.map Char.toLower) ≠ word := by
  obtain ⟨c, hc, rest, rfl⟩ := h.exists_head
  have hletter : ∀ word ∈ ["inf", "infinity", "nan"],
      "0123456789.".toList.all (word.toList.head? != some ·.toLower) = true := by decide
  intro heq
  refine bne_iff_ne.mp (List.all_eq_true.mp (hletter word hword) c hc) ?_
  rw [← heq, String.toList_ofList]
  rfl

theorem real?_eq_some_iff : real? cs = some x ↔ Spells cs x := by
  constructor
  · intro h
    unfold real? at h
    split at h
    next negative body hsign =>
    obtain ⟨sign, hsigns, rfl⟩ : ∃ sign, Signs negative sign ∧ cs = sign ++ body := by
      split at hsign <;> cases hsign
      · exact ⟨_, .minus, rfl⟩
      · exact ⟨_, .plus, rfl⟩
      · exact ⟨_, .none, rfl⟩
    have hspelled {magnitude : Float} (hmeasures : Measures body magnitude)
        (hx : some (signed negative magnitude) = some x) : Spells (sign ++ body) x :=
      ⟨negative, sign, body, magnitude, hsigns, rfl, hmeasures, (Option.some.inj hx).symm⟩
    have hlower {word : String} (hword : String.ofList (body.map Char.toLower) = word) :
        body.map Char.toLower = word.toList := by rw [← hword, String.toList_ofList]
    split at h
    · next hword => exact hspelled (.infinity (.inl rfl) (hlower hword)) h
    · next hword => exact hspelled (.infinity (.inr rfl) (hlower hword)) h
    · next hword => exact hspelled (.undefined (hlower hword)) h
    · obtain ⟨magnitude, hmagnitude, hx⟩ := Option.map_eq_some_iff.mp h
      exact hspelled (.figures (figures_of_unsigned? hmagnitude)) (congrArg some hx)
  · rintro ⟨negative, sign, body, magnitude, hsigns, rfl, hmeasures, rfl⟩
    unfold real?
    split
    next negative' body' hsign =>
    obtain ⟨rfl, rfl⟩ : negative' = negative ∧ body' = body := by
      cases hsigns with
      | none =>
        have hunsigned := hmeasures.not_signed
        split at hsign
        · next rest hbody => exact absurd hbody (hunsigned rest).1
        · next rest hbody => exact absurd hbody (hunsigned rest).2
        · cases hsign
          exact ⟨rfl, rfl⟩
      | plus =>
        cases hsign
        exact ⟨rfl, rfl⟩
      | minus =>
        cases hsign
        exact ⟨rfl, rfl⟩
    cases hmeasures with
    | infinity hword h =>
      rw [h, String.ofList_toList]
      rcases hword with rfl | rfl <;> rfl
    | undefined h =>
      rw [h, String.ofList_toList]
      rfl
    | figures h =>
      split
      · next hword => exact absurd hword (h.ne_word (by simp))
      · next hword => exact absurd hword (h.ne_word (by simp))
      · next hword => exact absurd hword (h.ne_word (by simp))
      · rw [unsigned?_of_figures h]
        rfl

end Decimal
end AnswerStream
