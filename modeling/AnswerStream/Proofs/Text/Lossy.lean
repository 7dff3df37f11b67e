import AnswerStream.Text.Utf8
import Mathlib.Data.List.Basic

/-!
Octets read as a text whatever they are. Each character takes up at least one octet, and an ASCII
character stands in the text only where its octet stands: neither a replacement character nor a
longer sequence can be taken for one.
-/

namespace AnswerStream.Utf8

theorem le_of_mem_take_continued {wanted : Nat} {low high : UInt8} (hlow : 128 ≤ low.toNat)
    {rest : List UInt8} :
    ∀ b ∈ rest.take (continued wanted low high rest), 128 ≤ b.toNat := by
  fun_induction continued wanted low high rest with
  | case1 => simp
  | case2 => simp
  | case3 wanted low high b rest hb ih =>
    simp only [Bool.and_eq_true, decide_eq_true_eq, UInt8.le_iff_toNat_le] at hb
    rw [List.take_succ_cons, List.forall_mem_cons]
    exact ⟨Nat.le_trans hlow hb.1, ih (by decide)⟩
  | case4 => simp

theorem exists_of_continued {wanted : Nat} {low high : UInt8} {rest : List UInt8}
    (h : continued (wanted + 1) low high rest = wanted + 1) :
    ∃ b tail, rest = b :: tail ∧ low.toNat ≤ b.toNat ∧ b.toNat ≤ high.toNat ∧
      continued wanted 0x80 0xBF tail = wanted := by
  cases rest with
  | nil => simp [continued] at h
  | cons b tail =>
    rw [continued] at h
    split at h
    · next hb =>
      simp only [Bool.and_eq_true, decide_eq_true_eq, UInt8.le_iff_toNat_le] at hb
      exact ⟨b, tail, rfl, hb.1, hb.2, Nat.succ.inj h⟩
    · cases h

/-- A lead octet, or else the narrowed range behind it, keeps the code point from being too small.
-/
theorem Sequence.ofLead?_cases {lead : UInt8} {shape : Sequence}
    (h : Sequence.ofLead? lead = some shape) :
    128 ≤ shape.low.toNat ∧ shape.high.toNat < 192 ∧
      (shape.trailing = 1 ∧ 2 ≤ lead.toNat % 32 ∨
        shape.trailing = 2 ∧ (1 ≤ lead.toNat % 16 ∨ 160 ≤ shape.low.toNat) ∨
        shape.trailing = 3 ∧ (1 ≤ lead.toNat % 8 ∨ 144 ≤ shape.low.toNat)) := by
  unfold Sequence.ofLead? at h
  simp only [Bool.and_eq_true, decide_eq_true_eq, beq_iff_eq, UInt8.le_iff_toNat_le,
    UInt8.reduceToNat] at h
  split_ifs at h with h2 hE0 hED h3 hF0 h4 hF4 <;> cases h <;> refine ⟨by decide, by decide, ?_⟩
  · exact .inl ⟨rfl, by omega⟩
  · exact .inr (.inl ⟨rfl, .inr (by decide)⟩)
  · exact .inr (.inl ⟨rfl, .inl (by subst hED; decide)⟩)
  · exact .inr (.inl ⟨rfl, .inl (by omega)⟩)
  · exact .inr (.inr ⟨rfl, .inr (by decide)⟩)
  · exact .inr (.inr ⟨rfl, .inl (by omega)⟩)
  · exact .inr (.inr ⟨rfl, .inl (by subst hF4; decide)⟩)

theorem le_codePoint {lead : UInt8} {shape : Sequence} {rest : List UInt8}
    (h : Sequence.ofLead? lead = some shape)
    (hall : continued shape.trailing shape.low shape.high rest = shape.trailing) :
    128 ≤ codePoint lead (rest.take shape.trailing) := by
  obtain ⟨hlow, hhigh, hlead | hlead | hlead⟩ := Sequence.ofLead?_cases h
  all_goals
    obtain ⟨htrailing, hlead⟩ := hlead
    rw [htrailing] at hall ⊢
    obtain ⟨a, rest, rfl, halow, hahigh, hall⟩ := exists_of_continued hall
  · simp only [codePoint, List.take_succ_cons, List.take_zero, List.length_singleton,
      List.foldl_cons, List.foldl_nil]
    omega
  · obtain ⟨b, rest, rfl, -, -, hall⟩ := exists_of_continued hall
    simp only [codePoint, List.take_succ_cons, List.take_zero, List.length_cons, List.length_nil,
      List.foldl_cons, List.foldl_nil]
    omega
  · obtain ⟨b, rest, rfl, -, -, hall⟩ := exists_of_continued hall
    obtain ⟨c, rest, rfl, -, -, hall⟩ := exists_of_continued hall
    simp only [codePoint, List.take_succ_cons, List.take_zero, List.length_cons, List.length_nil,
      List.foldl_cons, List.foldl_nil]
    omega

theorem length_lossyFrom_le (done : List Char) (bytes : List UInt8) :
    (lossyFrom done bytes).length ≤ done.length + bytes.length := by
  fun_induction lossyFrom done bytes with
  | case1 done => simp
  | case2 done b rest hb ih => simp only [List.length_cons] at ih ⊢; omega
  | case3 done b rest hb hlead ih => simp only [List.length_cons] at ih ⊢; omega
  | case4 done b rest hb shape hlead n c ih =>
    simp only [List.length_cons, List.length_drop] at ih ⊢
    omega

theorem length_lossy_le (bytes : List UInt8) : (lossy bytes).toList.length ≤ bytes.length := by
  rw [lossy, String.toList_ofList]
  simpa using length_lossyFrom_le [] bytes

theorem toNat_ofNat_of_lt {n : Nat} (h : n < 128) : (Char.ofNat n).toNat = n := by
  revert n
  decide

/-- What is no code point stands for NUL. -/
theorem toNat_ofNat_cases (n : Nat) : (Char.ofNat n).toNat = n ∨ (Char.ofNat n).toNat = 0 := by
  unfold Char.ofNat
  by_cases h : n.isValidChar
  · exact .inl (by rw [dif_pos h]; rfl)
  · exact .inr (by rw [dif_neg h]; rfl)

theorem mem_lossyFrom_iff {b : UInt8} {c : Char} (hc : c.toNat = b.toNat) (hpos : 0 < b.toNat)
    (hlt : b.toNat < 128)
    (done : List Char) (bytes : List UInt8) : c ∈ lossyFrom done bytes ↔ c ∈ done ∨ b ∈ bytes := by
  have hreplacement : replacement ≠ c := by
    rintro rfl
    have hn : replacement.toNat = 0xFFFD := rfl
    omega
  fun_induction lossyFrom done bytes with
  | case1 done => simp
  | case2 done a rest ha ih =>
    have ha' : a.toNat < 128 := UInt8.lt_iff_toNat_lt.mp ha
    have hhead : c = Char.ofNat a.toNat ↔ b = a := by
      rw [← Char.toNat_inj, toNat_ofNat_of_lt ha', hc, UInt8.toNat_inj]
    refine ih.trans ?_
    rw [List.mem_cons, List.mem_cons, hhead, or_left_comm, or_assoc]
  | case3 done a rest ha hlead ih =>
    have ha' : b ≠ a := by
      rintro rfl
      exact ha (UInt8.lt_iff_toNat_lt.mpr hlt)
    simp [ih, ha', hreplacement.symm]
  | case4 done a rest ha shape hlead n c' ih =>
    have ha' : b ≠ a := by
      rintro rfl
      exact ha (UInt8.lt_iff_toNat_lt.mpr hlt)
    have hc' : c' ≠ c := by
      unfold c'
      split
      · next hn =>
        rw [hn]
        rintro rfl
        have hle := le_codePoint hlead hn
        have hcases := toNat_ofNat_cases (codePoint a (rest.take shape.trailing))
        omega
      · exact hreplacement
    have htaken : b ∉ rest.take n := fun hmem => by
      have hle := le_of_mem_take_continued (Sequence.ofLead?_cases hlead).1 b hmem
      omega
    have hrest : b ∈ rest.drop n ↔ b ∈ rest := by
      conv_rhs => rw [← List.take_append_drop n rest, List.mem_append, or_iff_right htaken]
    simp [ih, ha', hc'.symm, hrest]

theorem mem_lossy_iff {bytes : List UInt8} {b : UInt8} {c : Char} (hc : c.toNat = b.toNat)
    (hpos : 0 < b.toNat) (hlt : b.toNat < 128) : c ∈ (lossy bytes).toList ↔ b ∈ bytes := by
  rw [lossy, String.toList_ofList, mem_lossyFrom_iff hc hpos hlt]
  simp

end AnswerStream.Utf8
