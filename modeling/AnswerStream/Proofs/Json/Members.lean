import AnswerStream.Json.Value
import Mathlib.Data.String.Basic

/-!
Members of objects. Where no key repeats, a key has one value whatever the order of the members.
Members sorted by key are of that kind; setting the value of a key keeps them sorted and touches no
other key. Setting the members of an object one after the other sorts them.
-/

namespace AnswerStream.Json.Members

variable {α : Type}

theorem lookup_eq_some_iff_mem {ms : List (String × α)} (h : (ms.map Prod.fst).Nodup)
    {key : String} {a : α} :
    ms.lookup key = some a ↔ (key, a) ∈ ms := by
  induction ms with
  | nil => simp
  | cons m ms ih =>
    obtain ⟨k, b⟩ := m
    obtain ⟨hk, hms⟩ := List.nodup_cons.mp h
    by_cases hkey : key = k
    · subst hkey
      have hrest : (key, a) ∉ ms := fun hmem => hk (List.mem_map.mpr ⟨_, hmem, rfl⟩)
      rw [List.lookup_cons_self, List.mem_cons, or_iff_left hrest]
      simp [eq_comm]
    · have hfirst : (key, a) ≠ (k, b) := fun heq => hkey (congrArg Prod.fst heq)
      have hskip : (key == k) = false := by simpa using hkey
      rw [List.lookup_cons, hskip, List.mem_cons, or_iff_right hfirst]
      exact ih hms

theorem lookup_of_perm {ms ms' : List (String × α)} (h : (ms.map Prod.fst).Nodup)
    (hperm : ms.Perm ms') (key : String) : ms'.lookup key = ms.lookup key := by
  have h' : (ms'.map Prod.fst).Nodup := (hperm.map Prod.fst).nodup_iff.mp h
  apply Option.ext
  intro a
  rw [lookup_eq_some_iff_mem h', lookup_eq_some_iff_mem h, hperm.mem_iff]

theorem lookup_map {β : Type} (f : α → β) (ms : List (String × α)) (key : String) :
    (ms.map fun m => (m.1, f m.2)).lookup key = (ms.lookup key).map f := by
  induction ms with
  | nil => rfl
  | cons m ms ih =>
    rw [List.map_cons, List.lookup_cons, List.lookup_cons]
    cases key == m.1 with
    | true => rfl
    | false => exact ih

/-- Sorted by key, so that no key repeats. -/
def Sorted (ms : List (String × α)) : Prop := ms.Pairwise fun a b => a.1 < b.1

theorem insert_perm (key : String) (a : α) {ms : List (String × α)} (h : Sorted ms) :
    (insert key a ms).Perm ((key, a) :: ms.filter fun m => m.1 ≠ key) := by
  induction ms with
  | nil => exact .refl _
  | cons m rest ih =>
    obtain ⟨hm, hrest⟩ := List.pairwise_cons.mp h
    have hkeep {l : List (String × α)} (hl : ∀ e ∈ l, key < e.1) :
        l.filter (fun e => e.1 ≠ key) = l := by
      apply List.filter_eq_self.mpr
      intro e he
      simpa using (hl e he).ne'
    rw [insert]
    split_ifs with hlt heq
    · rw [hkeep]
      exact List.forall_mem_cons.mpr ⟨hlt, fun e he => hlt.trans (hm e he)⟩
    · rw [List.filter_cons_of_neg (by simp [heq]), hkeep]
      exact heq ▸ hm
    · rw [List.filter_cons_of_pos (by simpa using Ne.symm heq)]
      exact ((ih hrest).cons m).trans (.swap _ _ _)

theorem Sorted.insert {ms : List (String × α)} (h : Sorted ms) (key : String) (a : α) :
    Sorted (insert key a ms) := by
  induction ms with
  | nil => exact List.pairwise_singleton _ _
  | cons m rest ih =>
    obtain ⟨hm, hrest⟩ := List.pairwise_cons.mp h
    rw [Members.insert]
    split_ifs with hlt heq
    · exact List.pairwise_cons.mpr
        ⟨List.forall_mem_cons.mpr ⟨hlt, fun e he => hlt.trans (hm e he)⟩, h⟩
    · exact List.pairwise_cons.mpr ⟨heq ▸ hm, hrest⟩
    · refine List.pairwise_cons.mpr ⟨fun e he => ?_, ih hrest⟩
      rcases List.mem_cons.mp ((insert_perm key a hrest).mem_iff.mp he) with rfl | he
      · exact lt_of_le_of_ne (not_lt.mp hlt) (Ne.symm heq)
      · exact hm e (List.mem_of_mem_filter he)

theorem Sorted.eq_of_perm {ms ms' : List (String × α)} (h : Sorted ms) (h' : Sorted ms')
    (hperm : ms.Perm ms') : ms = ms' :=
  hperm.eq_of_pairwise (fun _ _ _ _ hlt hgt => absurd hlt hgt.asymm) h h'

theorem sorted_foldl_insert {ms : List (String × α)} (h : Sorted ms) (entries : List (String × α)) :
    Sorted (entries.foldl (fun ms e => Members.insert e.1 e.2 ms) ms) := by
  induction entries generalizing ms with
  | nil => exact h
  | cons e entries ih => exact ih (h.insert e.1 e.2)

theorem foldl_insert_perm {ms entries : List (String × α)} (h : Sorted ms)
    (hkeys : ((entries ++ ms).map Prod.fst).Nodup) :
    (entries.foldl (fun ms e => Members.insert e.1 e.2 ms) ms).Perm (entries ++ ms) := by
  induction entries generalizing ms with
  | nil => exact .refl _
  | cons e entries ih =>
    obtain ⟨he, hrest⟩ := List.nodup_cons.mp hkeys
    have hkept : ms.filter (fun m => m.1 ≠ e.1) = ms := by
      refine List.filter_eq_self.mpr fun m hm => decide_eq_true fun heq => he ?_
      exact List.mem_map.mpr ⟨m, List.mem_append_right _ hm, heq⟩
    have hinsert := insert_perm e.1 e.2 h
    rw [hkept] at hinsert
    have hmoved : (entries ++ Members.insert e.1 e.2 ms).Perm (e :: (entries ++ ms)) :=
      (hinsert.append_left entries).trans List.perm_middle
    exact (ih (h.insert e.1 e.2) ((hmoved.map Prod.fst).nodup_iff.mpr hkeys)).trans hmoved

theorem sorted_ofList (entries : List (String × α)) : Sorted (ofList entries) :=
  sorted_foldl_insert List.Pairwise.nil entries

theorem ofList_perm {entries : List (String × α)} (h : (entries.map Prod.fst).Nodup) :
    (ofList entries).Perm entries := by
  have hperm := @foldl_insert_perm α [] entries List.Pairwise.nil (by rwa [List.append_nil])
  rwa [List.append_nil] at hperm

theorem lookup_ofList {entries : List (String × α)} (h : (entries.map Prod.fst).Nodup)
    (key : String) :
    (ofList entries).lookup key = entries.lookup key :=
  lookup_of_perm h (ofList_perm h).symm key

theorem filter_ofList {entries : List (String × α)} (h : (entries.map Prod.fst).Nodup)
    (p : String × α → Bool) : (ofList entries).filter p = ofList (entries.filter p) := by
  have hleft : ((entries.filter p).map Prod.fst).Nodup :=
    h.sublist (List.filter_sublist.map Prod.fst)
  have hsorted : Sorted ((ofList entries).filter p) := (sorted_ofList entries).filter p
  exact hsorted.eq_of_perm (sorted_ofList _)
    (((ofList_perm h).filter p).trans (ofList_perm hleft).symm)

theorem lookup_cons (k : String) (a : α) (ms : List (String × α)) (key : String) :
    ((k, a) :: ms).lookup key = if key = k then some a else ms.lookup key := by
  by_cases h : key = k
  · rw [if_pos h, h, List.lookup_cons_self]
  · rw [if_neg h, List.lookup_cons, beq_eq_false_iff_ne.mpr h]

theorem lookup_insert (key : String) (a : α) (ms : List (String × α)) (name : String) :
    (insert key a ms).lookup name = if name = key then some a else ms.lookup name := by
  induction ms with
  | nil => exact lookup_cons key a [] name
  | cons m rest ih =>
    obtain ⟨k, b⟩ := m
    by_cases hlt : key < k
    · rw [insert, if_pos hlt, lookup_cons]
    · by_cases heq : key = k
      · subst heq
        rw [insert, if_neg hlt, if_pos rfl, lookup_cons, lookup_cons]
        split_ifs <;> rfl
      · rw [insert, if_neg hlt, if_neg heq, lookup_cons, lookup_cons, ih]
        by_cases hk : name = k
        · rw [if_pos hk, if_neg (hk ▸ Ne.symm heq), if_pos hk]
        · rw [if_neg hk, if_neg hk]

theorem lookup_foldl_insert (ms entries : List (String × α)) (key : String) :
    (entries.foldl (fun ms e => insert e.1 e.2 ms) ms).lookup key =
      (entries.reverse.lookup key).or (ms.lookup key) := by
  induction entries generalizing ms with
  | nil => rfl
  | cons e entries ih =>
    rw [List.foldl_cons, ih, lookup_insert, List.reverse_cons, List.lookup_append, Option.or_assoc,
      lookup_cons]
    by_cases h : key = e.1
    · rw [if_pos h, if_pos h, Option.some_or]
    · rw [if_neg h, if_neg h, List.lookup_nil, Option.none_or]

theorem forall_mem_insert {P : String × α → Prop} {key : String} {a : α} {ms : List (String × α)}
    (hfirst : P (key, a)) (h : ∀ m ∈ ms, P m) : ∀ m ∈ insert key a ms, P m := by
  induction ms with
  | nil => exact List.forall_mem_singleton.mpr hfirst
  | cons m rest ih =>
    obtain ⟨hm, hrest⟩ := List.forall_mem_cons.mp h
    rw [insert]
    split_ifs
    · exact List.forall_mem_cons.mpr ⟨hfirst, h⟩
    · exact List.forall_mem_cons.mpr ⟨hfirst, hrest⟩
    · exact List.forall_mem_cons.mpr ⟨hm, ih hrest⟩

theorem forall_mem_foldl_insert {P : String × α → Prop} {ms entries : List (String × α)}
    (hms : ∀ m ∈ ms, P m)
    (h : ∀ e ∈ entries, P e) : ∀ m ∈ entries.foldl (fun ms e => insert e.1 e.2 ms) ms, P m := by
  induction entries generalizing ms with
  | nil => exact hms
  | cons e entries ih =>
    obtain ⟨he, hentries⟩ := List.forall_mem_cons.mp h
    exact ih (forall_mem_insert he hms) hentries

theorem Sorted.nodup {ms : List (String × α)} (h : Sorted ms) : (ms.map Prod.fst).Nodup := by
  rw [List.Nodup, List.pairwise_map]
  exact h.imp fun hlt => hlt.ne

theorem ofList_of_sorted {ms : List (String × α)} (h : Sorted ms) : ofList ms = ms :=
  (sorted_ofList ms).eq_of_perm h (ofList_perm h.nodup)

end AnswerStream.Json.Members
