import ProxyTestbed.Text.Pieces

/-!
# Separators in texts

What a cut text is made of. Each way of cutting is the reverse of putting the pieces together again, as
long as the pieces hold no separator.

* `cutAt_eq_iff`: what is before and behind the first separator.
* `splitOn_eq_iff`, `splitArrows_eq_iff`: the pieces between a character, or between arrows, are the only
  ones without it that make up the text.
* `occursIn_iff`: a text occurs in another one.
* `cutAtText?_eq_some_iff`: the first `://` of a text. It cannot begin inside another one, so what stands
  before it may be any text that holds none.
-/

namespace ProxyTestbed.Text

/-! ## The first occurrence of a character -/

/-- A part behind its separator; nothing for no part. -/
def behind (sep : Char) : Option (List Char) → List Char
  | none => []
  | some b => sep :: b

section

variable {sep : Char} {s a : List Char} {b : Option (List Char)}

theorem cutAt_behind (h : sep ∉ a) (b : Option (List Char)) : cutAt sep (a ++ behind sep b) = (a, b) := by
  induction a with
  | nil => cases b <;> simp [behind, cutAt]
  | cons c r ih =>
    obtain ⟨hc, hr⟩ := List.ne_and_not_mem_of_not_mem_cons h
    rw [List.cons_append, cutAt, if_neg (Ne.symm hc), ih hr]

theorem cutAt_spec (sep : Char) (s : List Char) :
    s = (cutAt sep s).1 ++ behind sep (cutAt sep s).2 ∧ sep ∉ (cutAt sep s).1 := by
  induction s with
  | nil => simp [cutAt, behind]
  | cons c r ih =>
    rw [cutAt]
    split
    · next hc => simp [behind, hc]
    · next hc =>
      refine ⟨congrArg (c :: ·) ih.1, List.not_mem_cons_of_ne_of_not_mem (Ne.symm hc) ih.2⟩

/-- What is before the first separator holds none, and with what is behind it makes up the text. -/
theorem cutAt_eq_iff : cutAt sep s = (a, b) ↔ s = a ++ behind sep b ∧ sep ∉ a := by
  constructor
  · intro h
    have hspec := cutAt_spec sep s
    rwa [h] at hspec
  · rintro ⟨rfl, h⟩
    exact cutAt_behind h b

end

/-! ## The pieces between a character -/

theorem splitOn_eq (sep : Char) (s : List Char) : splitOn sep s = s.splitOn sep := by
  induction s with
  | nil => rfl
  | cons c r ih =>
    rw [splitOn, List.splitOn_cons_eq_if_modifyHead, ih]
    obtain ⟨p, ps, hps⟩ := List.exists_cons_of_ne_nil (List.splitOn_ne_nil sep r)
    by_cases hc : c = sep <;> simp [hc, hps]

theorem joinWith_eq_intercalate (sep : List Char) (ps : List (List Char)) :
    joinWith sep ps = sep.intercalate ps := by
  induction ps with
  | nil => rfl
  | cons p ps ih =>
    cases ps with
    | nil => simp [joinWith]
    | cons q qs => rw [joinWith, ih, List.intercalate_cons_cons]

/-- No piece holds the separator. -/
theorem not_mem_of_mem_splitOn {sep : Char} {s p : List Char} (h : p ∈ splitOn sep s) : sep ∉ p := by
  induction s generalizing p with
  | nil =>
    rw [splitOn, List.mem_singleton] at h
    subst h
    exact List.not_mem_nil
  | cons c r ih =>
    obtain ⟨q, qs, hqs⟩ := List.exists_cons_of_ne_nil (splitOn_ne_nil sep r)
    rw [hqs] at ih
    rw [splitOn, hqs] at h
    split at h
    · rcases List.mem_cons.mp h with rfl | h
      · exact List.not_mem_nil
      · exact ih h
    · next hc =>
      rcases List.mem_cons.mp h with rfl | h
      · exact List.not_mem_cons_of_ne_of_not_mem (Ne.symm hc) (ih List.mem_cons_self)
      · exact ih (List.mem_cons_of_mem _ h)

/-- The pieces between a character are the only ones without it that make up the text. -/
theorem splitOn_eq_iff {sep : Char} {s : List Char} {ps : List (List Char)} :
    splitOn sep s = ps ↔ ps ≠ [] ∧ joinWith [sep] ps = s ∧ ∀ p ∈ ps, sep ∉ p := by
  constructor
  · rintro rfl
    exact ⟨splitOn_ne_nil sep s, joinWith_splitOn sep s, fun p => not_mem_of_mem_splitOn⟩
  · rintro ⟨hne, rfl, hps⟩
    rw [splitOn_eq, joinWith_eq_intercalate]
    exact List.splitOn_intercalate sep hps hne

theorem splitOn_of_not_mem {sep : Char} {s : List Char} (h : sep ∉ s) : splitOn sep s = [s] :=
  splitOn_eq_iff.mpr ⟨by simp, rfl, by simpa using h⟩

theorem splitOn_append_cons (sep : Char) (s r : List Char) :
    splitOn sep (s ++ sep :: r) = splitOn sep s ++ splitOn sep r := by
  induction s with
  | nil => simp [splitOn]
  | cons c s ih =>
    obtain ⟨p, ps, hps⟩ := List.exists_cons_of_ne_nil (splitOn_ne_nil sep s)
    rw [List.cons_append, splitOn, splitOn, ih, hps]
    split <;> rfl

/-- Two pieces: the character occurs once. -/
theorem splitOn_eq_pair_iff {sep : Char} {s a b : List Char} :
    splitOn sep s = [a, b] ↔ a ++ sep :: b = s ∧ sep ∉ a ∧ sep ∉ b := by
  simp [splitOn_eq_iff, joinWith]

theorem length_splitOn (sep : Char) (s : List Char) : (splitOn sep s).length = s.count sep + 1 := by
  induction s with
  | nil => rfl
  | cons c r ih =>
    rw [splitOn, List.count_cons]
    obtain ⟨p, ps, hps⟩ := List.exists_cons_of_ne_nil (splitOn_ne_nil sep r)
    rw [hps] at ih ⊢
    by_cases hc : c = sep
    · simp [hc, ih]
    · simpa [hc] using ih

/-- Every piece stands in the text. -/
theorem infix_of_mem_splitOn {sep : Char} {s p : List Char} (h : p ∈ splitOn sep s) : p <:+: s := by
  obtain ⟨before, after, hps⟩ := List.append_of_mem h
  rw [← joinWith_splitOn sep s, hps]
  clear h hps
  induction before with
  | nil =>
    cases after with
    | nil => exact List.infix_rfl
    | cons q qs => exact ⟨[], [sep] ++ joinWith [sep] (q :: qs), by simp [joinWith]⟩
  | cons q before ih =>
    obtain ⟨r, rs, hrs⟩ := List.exists_cons_of_ne_nil (List.append_ne_nil_of_right_ne_nil before
      (List.cons_ne_nil p after))
    rw [List.cons_append, hrs, joinWith, ← hrs]
    exact ih.trans (List.infix_append_right ..)

/-! ## The first occurrence of a text -/

theorem cutAtText?_eq_none_iff {sep s : List Char} (hsep : sep ≠ []) :
    cutAtText? sep s = none ↔ ¬ sep <:+: s := by
  induction s with
  | nil => simp [cutAtText?, hsep]
  | cons c r ih =>
    rw [cutAtText?, List.infix_cons_iff, not_or, ← ih]
    by_cases h : sep <+: c :: r
    · simp [h]
    · simp [h]

theorem occursIn_iff {part s : List Char} (hpart : part ≠ []) : occursIn part s = true ↔ part <:+: s := by
  rw [occursIn, Option.isSome_iff_ne_none, ne_eq, cutAtText?_eq_none_iff hpart, Decidable.not_not]

/-- What stands before the first occurrence of a text does not hold it. -/
theorem of_cutAtText? {sep s a b : List Char} (h : cutAtText? sep s = some (a, b)) (hsep : sep ≠ []) :
    s = a ++ sep ++ b ∧ ¬ sep <:+: a := by
  induction s generalizing a with
  | nil => simp [cutAtText?, hsep] at h
  | cons c r ih =>
    rw [cutAtText?] at h
    by_cases hfirst : sep <+: c :: r
    · rw [if_pos (by simpa using hfirst)] at h
      obtain ⟨t, ht⟩ := hfirst
      cases h
      rw [← ht]
      exact ⟨by simp, by simpa using hsep⟩
    · rw [if_neg (by simpa using hfirst), Option.map_eq_some_iff] at h
      obtain ⟨⟨a', _⟩, hr, heq⟩ := h
      cases heq
      obtain ⟨rfl, ha'⟩ := ih hr
      refine ⟨by simp, ?_⟩
      rw [List.infix_cons_iff, not_or]
      refine ⟨fun hstart => hfirst (hstart.trans ?_), ha'⟩
      exact ⟨sep ++ b, by simp⟩

/-- The first `://` of a text. -/
theorem cutAtText?_eq_some_iff {s a b : List Char} :
    cutAtText? [':', '/', '/'] s = some (a, b) ↔
      s = a ++ ':' :: '/' :: '/' :: b ∧ ¬ [':', '/', '/'] <:+: a := by
  constructor
  · intro h
    simpa using of_cutAtText? h (List.cons_ne_nil _ _)
  · rintro ⟨rfl, ha⟩
    induction a with
    | nil => simp [cutAtText?]
    | cons c a ih =>
      rw [List.infix_cons_iff, not_or] at ha
      -- an earlier one would end inside this one, and it does not end as it begins
      have hfirst : ¬ [':', '/', '/'] <+: c :: (a ++ ':' :: '/' :: '/' :: b) := by
        match a, ha.1 with
        | [], _ => simp
        | [d], _ => simp
        | d :: e :: a, h => simpa using h
      rw [List.cons_append, cutAtText?, if_neg (by simpa using hfirst), ih ha.2]
      rfl

/-! ## Arrows -/

/-- The text holds an arrow `->`. -/
def HasArrow (s : List Char) : Prop :=
  ['-', '>'] <:+: s

instance (s : List Char) : Decidable (HasArrow s) :=
  decidable_of_iff (occursIn ['-', '>'] s = true) (occursIn_iff (List.cons_ne_nil _ _))

theorem not_hasArrow_nil : ¬ HasArrow [] := by
  decide

theorem hasArrow_cons {c : Char} {r : List Char} :
    HasArrow (c :: r) ↔ (c = '-' ∧ r.head? = some '>') ∨ HasArrow r := by
  rw [HasArrow, HasArrow, List.infix_cons_iff, List.cons_prefix_cons]
  cases r with
  | nil => simp
  | cons d r => simp [eq_comm]

theorem hasArrow_cons_of_ne {c : Char} (hc : c ≠ '-') {r : List Char} : HasArrow (c :: r) ↔ HasArrow r := by
  simp [hasArrow_cons, hc]

/-- No arrow is formed at a character that is no part of one. -/
theorem hasArrow_append_cons {c : Char} (hc : c ≠ '-') (hc' : c ≠ '>') {s t : List Char} :
    HasArrow (s ++ c :: t) ↔ HasArrow s ∨ HasArrow t := by
  induction s with
  | nil => simp [hasArrow_cons_of_ne hc, not_hasArrow_nil]
  | cons d s ih =>
    have hhead : (s ++ c :: t).head? = some '>' ↔ s.head? = some '>' := by
      cases s with
      | nil => simp [hc']
      | cons e s => simp
    rw [List.cons_append, hasArrow_cons, hasArrow_cons, ih, hhead, or_assoc]

theorem not_hasArrow_of_within {s t : List Char} (ht : ¬ HasArrow t) (h : s <:+: t) : ¬ HasArrow s :=
  fun hs => ht (hs.trans h)

theorem splitArrows_arrow (r : List Char) : splitArrows ('-' :: '>' :: r) = [] :: splitArrows r := by
  rw [splitArrows]

theorem splitArrows_ne_nil (s : List Char) : splitArrows s ≠ [] := by
  unfold splitArrows
  split
  · simp
  · simp
  · split <;> simp

/-- A character that begins no arrow belongs to the first piece. -/
theorem splitArrows_cons {c : Char} {r : List Char} (h : ¬ (c = '-' ∧ r.head? = some '>')) :
    splitArrows (c :: r) = (splitArrows r).modifyHead (c :: ·) := by
  have hpattern (r' : List Char) (hc : c = '-') : r = '>' :: r' → False := by
    rintro rfl
    exact h ⟨hc, rfl⟩
  rw [splitArrows]
  · obtain ⟨p, ps, hps⟩ := List.exists_cons_of_ne_nil (splitArrows_ne_nil r)
    simp [hps]
  · exact hpattern

/-- An arrow ends the piece before it, even one that ends with a dash. -/
theorem splitArrows_append {s : List Char} (hs : ¬ HasArrow s) (t : List Char) :
    splitArrows (s ++ '-' :: '>' :: t) = s :: splitArrows t := by
  induction s with
  | nil => exact splitArrows_arrow t
  | cons c s ih =>
    rw [hasArrow_cons, not_or] at hs
    have hhead : ¬ (c = '-' ∧ (s ++ '-' :: '>' :: t).head? = some '>') := by
      cases s with
      | nil => simp
      | cons d s => simpa using hs.1
    rw [List.cons_append, splitArrows_cons hhead, ih hs.2, List.modifyHead_cons]

theorem splitArrows_of_not_hasArrow {s : List Char} (hs : ¬ HasArrow s) : splitArrows s = [s] := by
  induction s with
  | nil => rfl
  | cons c s ih =>
    rw [hasArrow_cons, not_or] at hs
    rw [splitArrows_cons hs.1, ih hs.2, List.modifyHead_cons]

theorem joinWith_cons_cons (sep p : List Char) (c : Char) (ps : List (List Char)) :
    joinWith sep ((c :: p) :: ps) = c :: joinWith sep (p :: ps) := by
  cases ps <;> simp [joinWith]

theorem prefix_joinWith (sep p : List Char) (ps : List (List Char)) : p <+: joinWith sep (p :: ps) := by
  cases ps with
  | nil => exact List.prefix_rfl
  | cons q ps => exact ⟨sep ++ joinWith sep (q :: ps), by simp [joinWith]⟩

/-- The pieces hold no arrow, and make up the text. -/
theorem splitArrows_spec (s : List Char) :
    joinWith ['-', '>'] (splitArrows s) = s ∧ ∀ p ∈ splitArrows s, ¬ HasArrow p := by
  induction s using splitArrows.induct with
  | case1 => simp [splitArrows, joinWith, not_hasArrow_nil]
  | case2 r ih =>
    obtain ⟨p, ps, hps⟩ := List.exists_cons_of_ne_nil (splitArrows_ne_nil r)
    rw [splitArrows_arrow]
    refine ⟨?_, ?_⟩
    · rw [hps, joinWith, ← hps, ih.1]
      rfl
    · intro q hq
      rcases List.mem_cons.mp hq with rfl | hq
      · exact not_hasArrow_nil
      · exact ih.2 q hq
  | case3 c r hpattern _ ih | case4 c r hpattern _ _ _ ih =>
    have hhead : ¬ (c = '-' ∧ r.head? = some '>') := by
      rintro ⟨rfl, hr⟩
      obtain ⟨r', rfl⟩ := List.head?_eq_some_iff.mp hr
      exact hpattern r' rfl rfl
    rw [splitArrows_cons hhead]
    obtain ⟨p, ps, hps⟩ := List.exists_cons_of_ne_nil (splitArrows_ne_nil r)
    rw [hps] at ih ⊢
    obtain ⟨hjoin, hpieces⟩ := ih
    rw [List.modifyHead_cons]
    refine ⟨by rw [joinWith_cons_cons, hjoin], ?_⟩
    intro q hq
    rcases List.mem_cons.mp hq with rfl | hq
    · rw [hasArrow_cons, not_or]
      refine ⟨?_, hpieces p List.mem_cons_self⟩
      rintro ⟨hc, hp⟩
      obtain ⟨t, ht⟩ := hjoin ▸ prefix_joinWith ['-', '>'] p ps
      exact hhead ⟨hc, by rw [← ht, List.head?_append, hp]; rfl⟩
    · exact hpieces q (List.mem_cons_of_mem _ hq)

/-- The pieces between the arrows are the only ones without an arrow that make up the text. -/
theorem splitArrows_eq_iff {s : List Char} {ps : List (List Char)} :
    splitArrows s = ps ↔ ps ≠ [] ∧ joinWith ['-', '>'] ps = s ∧ ∀ p ∈ ps, ¬ HasArrow p := by
  constructor
  · rintro rfl
    exact ⟨splitArrows_ne_nil s, splitArrows_spec s⟩
  · rintro ⟨hne, rfl, hps⟩
    induction ps with
    | nil => exact absurd rfl hne
    | cons p ps ih =>
      obtain ⟨hp, hps⟩ := List.forall_mem_cons.mp hps
      cases ps with
      | nil => exact splitArrows_of_not_hasArrow hp
      | cons q ps =>
        rw [joinWith, List.append_assoc, List.cons_append, List.cons_append, List.nil_append,
          splitArrows_append hp, ih (List.cons_ne_nil q ps) hps]

/-- One piece: there is no arrow. -/
theorem splitArrows_eq_singleton_iff {s a : List Char} : splitArrows s = [a] ↔ a = s ∧ ¬ HasArrow a := by
  simp [splitArrows_eq_iff, joinWith]

/-- Two pieces: there is one arrow. -/
theorem splitArrows_eq_pair_iff {s a b : List Char} :
    splitArrows s = [a, b] ↔ a ++ '-' :: '>' :: b = s ∧ ¬ HasArrow a ∧ ¬ HasArrow b := by
  simp [splitArrows_eq_iff, joinWith]

end ProxyTestbed.Text
