import ProxyTestbed.Declaration.Redirect
import ProxyTestbed.Proofs.Text.Blank
import ProxyTestbed.Proofs.Text.Pieces

/-!
# Redirects that are read back

Blanks do not count in a redirect, so it is read back up to blanks. The arrow of a built redirect is its
only one: neither a comma nor the end of a source forms another one with what stands beside it.

* `separable_of_read`: what is read has no blanks and can be told apart again.
* `write_read_inverse`: building and reading are inverse in both directions.
-/

namespace ProxyTestbed.Redirect

open Text

/-- The text without any blank. -/
def compact (s : String) : String :=
  String.ofList (dropBlanks s.toList)

@[simp]
theorem toList_compact (s : String) : (compact s).toList = dropBlanks s.toList :=
  String.toList_ofList

/-- Sources and a target that can be told apart once the blanks are gone. -/
structure Separable (sources : List String) (target : String) : Prop where
  sources_ne_nil : sources ≠ []
  source_ne_empty : ∀ s ∈ sources, compact s ≠ ""
  no_comma : ∀ s ∈ sources, ',' ∉ (compact s).toList
  no_arrow : ∀ s ∈ sources, ¬ HasArrow (compact s).toList
  target_ne_empty : compact target ≠ ""
  target_no_arrow : ¬ HasArrow (compact target).toList

/-! ## Building, then reading -/

theorem dropBlanks_intercalate (ps : List (List Char)) :
    dropBlanks ([','].intercalate ps) = [','].intercalate (ps.map dropBlanks) := by
  induction ps with
  | nil => rfl
  | cons p ps ih =>
    cases ps with
    | nil => simp
    | cons q ps =>
      rw [List.intercalate_cons_cons, dropBlanks_append, dropBlanks_append, ih]
      simp only [List.map_cons, List.intercalate_cons_cons]
      rfl

theorem not_hasArrow_intercalate {ps : List (List Char)} (h : ∀ p ∈ ps, ¬ HasArrow p) :
    ¬ HasArrow ([','].intercalate ps) := by
  induction ps with
  | nil => exact not_hasArrow_nil
  | cons p ps ih =>
    obtain ⟨hp, hps⟩ := List.forall_mem_cons.mp h
    cases ps with
    | nil => simpa using hp
    | cons q ps =>
      rw [List.intercalate_cons_cons, List.append_assoc, List.singleton_append,
        hasArrow_append_cons (by decide) (by decide), not_or]
      exact ⟨hp, ih hps⟩

/-- The characters of a built redirect that are no blanks. -/
theorem dropBlanks_write {sources : List String} {target text : String}
    (h : write sources target = .ok text) : dropBlanks text.toList =
      [','].intercalate (sources.map fun s => (compact s).toList) ++ '-' :: '>' :: (compact target).toList := by
  unfold write at h
  split at h
  · cases h
  · cases h
    have hcomma : ",".toList = [','] := rfl
    have harrow : dropBlanks "->".toList = ['-', '>'] := by decide
    rw [String.toList_append, String.toList_append, String.toList_intercalate, hcomma,
      dropBlanks_append, dropBlanks_append, dropBlanks_intercalate, harrow]
    simp [Function.comp_def]

theorem read_write {sources : List String} {target : String} (h : Separable sources target) :
    ∃ text, write sources target = .ok text ∧
      read text = .ok ⟨sources.map compact, compact target⟩ := by
  have hwrite : write sources target = .ok (",".intercalate sources ++ "->" ++ target) :=
    if_neg (by simpa using h.sources_ne_nil)
  refine ⟨_, hwrite, ?_⟩
  have hsources : ∀ p ∈ sources.map fun s => (compact s).toList, ¬ HasArrow p := by
    simpa using h.no_arrow
  have hpieces : splitOn ',' ([','].intercalate (sources.map fun s => (compact s).toList)) =
      sources.map fun s => (compact s).toList := by
    refine splitOn_eq_iff.mpr ⟨by simpa using h.sources_ne_nil, joinWith_eq_intercalate _ _, ?_⟩
    simpa using h.no_comma
  have hkept : (sources.map fun s => (compact s).toList).filter (fun s => !s.isEmpty) =
      sources.map fun s => (compact s).toList := by
    rw [List.filter_eq_self]
    simpa [← String.toList_inj] using h.source_ne_empty
  have htarget : (compact target).toList.isEmpty = false := by
    simpa [← String.toList_inj] using h.target_ne_empty
  unfold read
  rw [dropBlanks_write hwrite, splitArrows_append (not_hasArrow_intercalate hsources),
    splitArrows_of_not_hasArrow h.target_no_arrow]
  simp only [htarget, hpieces, hkept, Bool.false_eq_true, if_false]
  rw [if_neg (by simpa using h.sources_ne_nil)]
  simp [compact]

/-! ## Reading, then building -/

/-- What reading goes through. -/
theorem of_read {value : String} {r : Redirect} (h : read value = .ok r) :
    ∃ sourceText target, splitArrows (dropBlanks value.toList) = [sourceText, target] ∧ target ≠ [] ∧
      r.sources = ((splitOn ',' sourceText).filter fun s => !s.isEmpty).map String.ofList ∧
      r.sources ≠ [] ∧ r.target = String.ofList target := by
  unfold read at h
  split at h
  · next sourceText target hsplit =>
    split at h
    · cases h
    · next htarget =>
      dsimp only at h
      split at h
      · cases h
      · next hsources =>
        cases h
        exact ⟨sourceText, target, hsplit, by simpa using htarget, rfl, by simpa using hsources, rfl⟩
  · cases h

theorem compact_eq_self {s : List Char} (h : ∀ c ∈ s, isBlank c = false) :
    compact (String.ofList s) = String.ofList s := by
  rw [compact, String.toList_ofList, dropBlanks_eq_self h]

/-- What is read has no blanks and can be told apart again. -/
theorem separable_of_read {value : String} {r : Redirect} (h : read value = .ok r) :
    Separable r.sources r.target ∧ r.sources.map compact = r.sources ∧ compact r.target = r.target := by
  obtain ⟨sourceText, target, hsplit, htarget, hsources, hne, htargetText⟩ := of_read h
  obtain ⟨hvalue, hsourceArrow, htargetArrow⟩ := splitArrows_eq_pair_iff.mp hsplit
  have hblanks : ∀ c ∈ sourceText ++ '-' :: '>' :: target, isBlank c = false := by
    intro c hc
    rw [hvalue] at hc
    exact isBlank_of_mem_dropBlanks hc
  have hcompactTarget : compact r.target = r.target := by
    rw [htargetText]
    exact compact_eq_self fun c hc => hblanks c (by simp [hc])
  -- a source is a piece of the text between commas
  have hsource : ∀ s ∈ r.sources, s ≠ "" ∧ compact s = s ∧ ',' ∉ s.toList ∧ ¬ HasArrow s.toList := by
    intro s hs
    rw [hsources] at hs
    obtain ⟨p, hp, rfl⟩ := List.mem_map.mp hs
    obtain ⟨hmem, hempty⟩ := List.mem_filter.mp hp
    have hin := infix_of_mem_splitOn hmem
    rw [String.toList_ofList]
    refine ⟨by simpa [← String.toList_inj] using hempty, compact_eq_self fun c hc => ?_,
      not_mem_of_mem_splitOn hmem, not_hasArrow_of_within hsourceArrow hin⟩
    exact hblanks c (List.mem_append_left _ (hin.subset hc))
  have hcompact : ∀ s ∈ r.sources, compact s = s := fun s hs => (hsource s hs).2.1
  refine ⟨⟨hne, fun s hs => ?_, fun s hs => ?_, fun s hs => ?_, ?_, ?_⟩,
    (List.map_congr_left hcompact).trans (List.map_id' _), hcompactTarget⟩
  · rw [hcompact s hs]
    exact (hsource s hs).1
  · rw [hcompact s hs]
    exact (hsource s hs).2.2.1
  · rw [hcompact s hs]
    exact (hsource s hs).2.2.2
  · rw [hcompactTarget, htargetText]
    simpa [← String.toList_inj] using htarget
  · rw [hcompactTarget, htargetText, String.toList_ofList]
    exact htargetArrow

/-- **Redirects are read back.** Sources and a target that can be told apart once the blanks are gone are
read back without their blanks, in order; and a redirect that is read can be built, and what is built is
read as the same redirect. -/
theorem write_read_inverse :
    (∀ (sources : List String) (target : String), Separable sources target →
      ∃ text, write sources target = .ok text ∧
        read text = .ok ⟨sources.map compact, compact target⟩) ∧
    ∀ (value : String) (r : Redirect), read value = .ok r →
      ∃ text, write r.sources r.target = .ok text ∧ read text = .ok r := by
  refine ⟨fun sources target h => read_write h, fun value r h => ?_⟩
  obtain ⟨hseparable, hsources, htarget⟩ := separable_of_read h
  obtain ⟨text, hwrite, hread⟩ := read_write hseparable
  rw [hsources, htarget] at hread
  exact ⟨text, hwrite, hread⟩

/-- Sources and a target that end and begin with parts of an arrow, and a text with blanks, an empty source
and such parts. -/
theorem write_read_inverse_dashes :
    (Separable ["old -", "> \tb"] "> c" ∧
      ∃ text, write ["old -", "> \tb"] "> c" = .ok text ∧
        read text = .ok ⟨["old-", ">b"], ">c"⟩) ∧
    read " x , ,y- -> >z" = .ok ⟨["x", "y-"], ">z"⟩ ∧
      ∃ text, write ["x", "y-"] ">z" = .ok text ∧ read text = .ok ⟨["x", "y-"], ">z"⟩ := by
  have hseparable : Separable ["old -", "> \tb"] "> c" :=
    ⟨by decide, by decide, by decide, by decide, by decide, by decide⟩
  have hread : read " x , ,y- -> >z" = .ok ⟨["x", "y-"], ">z"⟩ := by decide +kernel
  exact ⟨⟨hseparable, write_read_inverse.1 _ _ hseparable⟩, hread, write_read_inverse.2 _ _ hread⟩

end ProxyTestbed.Redirect
