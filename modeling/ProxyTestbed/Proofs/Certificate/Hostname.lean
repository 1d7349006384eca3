import Mathlib.Data.List.Basic
import ProxyTestbed.Certificate.Hostname
import ProxyTestbed.Proofs.Text.Pieces

/-!
# Host names as names of files

A host name that is accepted for a certificate holds no slash, so with an ending it is one name of a path.
-/

namespace ProxyTestbed

/-- A character other than the separator stands in one of the pieces. -/
theorem Text.exists_mem_splitOn {sep c : Char} {s : List Char} (h : c ∈ s) (hne : c ≠ sep) :
    ∃ p ∈ splitOn sep s, c ∈ p := by
  induction s with
  | nil => cases h
  | cons x r ih =>
    obtain ⟨q, qs, hqs⟩ := List.exists_cons_of_ne_nil (splitOn_ne_nil sep r)
    rw [hqs] at ih
    rw [splitOn, hqs]
    by_cases hx : x = sep
    · have hr : c ∈ r := by
        rcases List.mem_cons.mp h with rfl | hr
        · exact absurd hx hne
        · exact hr
      obtain ⟨p, hp, hcp⟩ := ih hr
      rw [if_pos hx]
      exact ⟨p, List.mem_cons_of_mem _ hp, hcp⟩
    · rw [if_neg hx]
      rcases List.mem_cons.mp h with rfl | hr
      · exact ⟨c :: q, List.mem_cons_self, List.mem_cons_self⟩
      · obtain ⟨p, hp, hcp⟩ := ih hr
        rcases List.mem_cons.mp hp with rfl | hp
        · exact ⟨x :: p, List.mem_cons_self, List.mem_cons_of_mem _ hcp⟩
        · exact ⟨p, List.mem_cons_of_mem _ hp, hcp⟩

namespace Hostname

variable {s : List Char} {c : Char} {name : String}

theorem of_mem_isLabels (h : isLabels s = true) (hc : c ∈ s) : isAlnum c = true ∨ c = '-' ∨ c = '.' := by
  by_cases hdot : c = '.'
  · exact .inr (.inr hdot)
  · obtain ⟨p, hp, hcp⟩ := Text.exists_mem_splitOn hc hdot
    have hlabel : isLabel p = true := List.all_eq_true.mp h p hp
    simp only [isLabel, Bool.and_eq_true] at hlabel
    have hchar := List.all_eq_true.mp hlabel.1.1.2 c hcp
    simp only [Bool.or_eq_true, beq_iff_eq] at hchar
    rcases hchar with halnum | hhyphen
    · exact .inl halnum
    · exact .inr (.inl hhyphen)

theorem of_mem_isName (h : isName s = true) (hc : c ∈ s) :
    isAlnum c = true ∨ c = '-' ∨ c = '.' ∨ c = '*' := by
  have hlabels {s : List Char} (h : isLabels s = true) (hc : c ∈ s) :
      isAlnum c = true ∨ c = '-' ∨ c = '.' ∨ c = '*' :=
    (of_mem_isLabels h hc).imp_right (Or.imp_right .inl)
  simp only [isName, Bool.or_eq_true] at h
  rcases h with h | h
  · exact hlabels h hc
  · split at h
    · rcases List.mem_cons.mp hc with rfl | hc
      · exact .inr (.inr (.inr rfl))
      · rcases List.mem_cons.mp hc with rfl | hc
        · exact .inr (.inr (.inl rfl))
        · exact hlabels h hc
    · cases h

/-- The characters of an accepted host name; the last one may be a line feed. -/
theorem of_mem_isAccepted (h : isAccepted name = true) (hc : c ∈ name.toList) :
    isAlnum c = true ∨ c = '-' ∨ c = '.' ∨ c = '*' ∨ c = '\n' := by
  have hname {s : List Char} (h : isName s = true) (hc : c ∈ s) :
      isAlnum c = true ∨ c = '-' ∨ c = '.' ∨ c = '*' ∨ c = '\n' :=
    (of_mem_isName h hc).imp_right (Or.imp_right (Or.imp_right .inl))
  simp only [isAccepted, matchesForm, Bool.and_eq_true, Bool.or_eq_true] at h
  rcases h.2 with h | h
  · exact hname h hc
  · unfold withoutFinalNewline at h
    split at h
    · rename_i hlast
      -- the line feed at the end is the only character that was taken away
      rw [← List.dropLast_append_getLast? _ hlast] at hc
      rcases List.mem_append.mp hc with hc | hc
      · exact hname h hc
      · exact .inr (.inr (.inr (.inr (List.mem_singleton.mp hc))))
    · exact hname h hc

theorem slash_not_mem_of_isAccepted (h : isAccepted name = true) : '/' ∉ name.toList :=
  fun hc => absurd (of_mem_isAccepted h hc) (by decide)

theorem zero_not_mem_of_isAccepted (h : isAccepted name = true) : '\x00' ∉ name.toList :=
  fun hc => absurd (of_mem_isAccepted h hc) (by decide)

end Hostname

end ProxyTestbed
