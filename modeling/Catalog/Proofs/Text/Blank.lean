import Catalog.Proofs.Text.Letter
import Catalog.Text.Blank
import Mathlib.Data.List.DropRight

namespace Catalog.Text

theorem skipBlanks_eq_self {cs : List Char} (h : ∀ c ∈ cs, isBlank c = false) :
    skipBlanks cs = cs := by
  cases cs with
  | nil => rfl
  | cons c cs => exact List.dropWhile_cons_of_neg (Bool.eq_false_iff.1 (h c List.mem_cons_self))

theorem trim_eq_self {s : String} (h : ∀ c ∈ s.toList, isBlank c = false) : trim s = s := by
  have hend : dropBlankEnd s.toList = s.toList := by
    rw [dropBlankEnd, skipBlanks_eq_self fun c hc => h c (List.mem_reverse.1 hc),
      List.reverse_reverse]
  rw [trim, trimBlank, skipBlanks_eq_self h, hend, String.ofList_toList]

theorem toLower_of_isBlank {c : Char} (h : isBlank c = true) : c.toLower = c := by
  apply toLower_eq_self
  simp only [isBlank, Bool.or_eq_true, Bool.and_eq_true, decide_eq_true_eq, beq_iff_eq] at h
  omega

theorem isBlank_of_isDigit {c : Char} (h : c.isDigit = true) : isBlank c = false := by
  rw [isDigit_iff] at h
  rw [Bool.eq_false_iff, ne_eq]
  simp only [isBlank, Bool.or_eq_true, Bool.and_eq_true, decide_eq_true_eq, beq_iff_eq]
  omega

/-- What is left of a text without the blanks at its ends. -/
structure IsTrimmed (s t : String) : Prop where
  split : ∃ before after, s.toList = before ++ t.toList ++ after ∧
    (∀ c ∈ before, isBlank c = true) ∧ ∀ c ∈ after, isBlank c = true
  head : ∀ c, t.toList.head? = some c → isBlank c = false
  last : ∀ c, t.toList.getLast? = some c → isBlank c = false

theorem trimBlank_eq (cs : List Char) : trimBlank cs = (cs.dropWhile isBlank).rdropWhile isBlank :=
  rfl

theorem isTrimmed_trim (s : String) : IsTrimmed s (trim s) := by
  have hsplit : s.toList.takeWhile isBlank ++ (trim s).toList ++
      (s.toList.dropWhile isBlank).rtakeWhile isBlank = s.toList := by
    rw [toList_trim, trimBlank_eq, List.append_assoc, List.rdropWhile_append_rtakeWhile,
      List.takeWhile_append_dropWhile]
  refine ⟨⟨_, _, hsplit.symm, fun _ => List.mem_takeWhile_imp, fun _ => List.mem_rtakeWhile_imp⟩,
    ?_, ?_⟩
  · intro c hc
    obtain ⟨rest, hrest⟩ := List.rdropWhile_prefix isBlank (l := s.toList.dropWhile isBlank)
    have hfirst := List.head?_dropWhile_not isBlank s.toList
    rw [toList_trim, trimBlank_eq] at hc
    rw [← hrest, List.head?_append, hc] at hfirst
    exact hfirst
  · intro c hc
    rw [toList_trim, trimBlank_eq] at hc
    obtain ⟨hne, rfl⟩ := List.mem_getLast?_eq_getLast hc
    exact Bool.eq_false_iff.2 (List.rdropWhile_last_not isBlank _ hne)

theorem rdropWhile_append {cs after : List Char} (h : ∀ c ∈ after, isBlank c = true) :
    (cs ++ after).rdropWhile isBlank = cs.rdropWhile isBlank := by
  have hreverse : ∀ c ∈ after.reverse, isBlank c = true := fun c hc => h c (List.mem_reverse.1 hc)
  rw [List.rdropWhile, List.reverse_append, List.dropWhile_append_of_pos hreverse, List.rdropWhile]

theorem isTrimmed_iff {s t : String} : IsTrimmed s t ↔ t = trim s := by
  constructor
  · rintro ⟨⟨before, after, hsplit, hbefore, hafter⟩, hhead, hlast⟩
    have htrim : trimBlank s.toList = t.toList := by
      rw [hsplit, trimBlank_eq, List.append_assoc, List.dropWhile_append_of_pos hbefore]
      cases ht : t.toList with
      | nil =>
        rw [List.nil_append, List.dropWhile_eq_nil_iff.2 hafter, List.rdropWhile_nil]
      | cons c cs =>
        rw [ht] at hhead hlast
        have hc : ¬isBlank c = true := Bool.eq_false_iff.1 (hhead c rfl)
        rw [List.cons_append, List.dropWhile_cons_of_neg hc, ← List.cons_append,
          rdropWhile_append hafter, List.rdropWhile_eq_self_iff]
        intro hne
        exact Bool.eq_false_iff.1 (hlast _ (List.getLast?_eq_some_getLast hne))
    rw [trim, htrim, String.ofList_toList]
  · rintro rfl
    exact isTrimmed_trim s

end Catalog.Text
