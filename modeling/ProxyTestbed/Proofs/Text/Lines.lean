import ProxyTestbed.Proofs.Text.Pieces
import ProxyTestbed.Text.Lines

/-!
# What the lines of a text are

The lines of a text are told by their ends alone: none of them holds a character that ends a line, each but the last
one is followed by an end, and the last one may be.

* `hasLines_iff`: cutting a text into lines finds its lines.
* `isTail_iff`: the last lines of a text.
-/

namespace ProxyTestbed.Text

/-- The characters that end a line. -/
def lineBreaks : List Char :=
  ['\n', '\x0b', '\x0c', '\r', '\x1c', '\x1d', '\x1e', '\u0085', '\u2028', '\u2029']

/-- A line ends with `ending` and `r` comes after it. A line feed belongs to the carriage return before it. -/
inductive EndsLine : List Char → List Char → Prop
  | pair (r : List Char) : EndsLine ['\r', '\n'] r
  | single {c : Char} {r : List Char} (hc : c ∈ lineBreaks) (hwhole : c = '\r' → r.head? ≠ some '\n') :
      EndsLine [c] r

/-- The lines of a text, without their ends. -/
inductive HasLines : List Char → List (List Char) → Prop
  | empty : HasLines [] []
  | unended {line : List Char} (hne : line ≠ []) (hline : ∀ c ∈ line, c ∉ lineBreaks) : HasLines line [line]
  | ended {line ending r : List Char} {ls : List (List Char)} (hline : ∀ c ∈ line, c ∉ lineBreaks)
      (hending : EndsLine ending r) (hrest : HasLines r ls) : HasLines (line ++ (ending ++ r)) (line :: ls)

/-- The last `count` lines of a text, or all of them if there are not so many, with line feeds between them. -/
def IsTail (count : Nat) (s shown : String) : Prop :=
  ∃ earlier last, HasLines s.toList (earlier ++ last) ∧ last.length = min count (earlier ++ last).length ∧
    shown.toList = ['\n'].intercalate last

theorem isLineBreak_iff {c : Char} : isLineBreak c = true ↔ c ∈ lineBreaks := by
  have hcode (d : Char) : c = d ↔ c.toNat = d.toNat := Char.toNat_inj.symm
  simp only [isLineBreak, lineBreaks, List.mem_cons, List.not_mem_nil, or_false, hcode]
  simp only [Bool.or_eq_true, Bool.and_eq_true, decide_eq_true_eq, beq_iff_eq]
  simp only [Char.reduceToNat]
  omega

/-- What was read of a line, and the rest of the text, have the lines that are found in them: by induction on the
rest, as it is read. -/
theorem hasLines_linesFrom (line s : List Char) (hline : ∀ c ∈ line, c ∉ lineBreaks) :
    HasLines (line.reverse ++ s) (linesFrom line s) := by
  have hread {line : List Char} (h : ∀ c ∈ line, c ∉ lineBreaks) : ∀ c ∈ line.reverse, c ∉ lineBreaks :=
    fun c hc => h c (List.mem_reverse.mp hc)
  induction line, s using linesFrom.induct with
  | case1 line hempty =>
    rw [List.isEmpty_iff.mp hempty]
    exact .empty
  | case2 line hmore =>
    have hne : line ≠ [] := fun h => hmore (List.isEmpty_iff.mpr h)
    rw [linesFrom, if_neg hmore, List.append_nil]
    exact .unended (by simpa using hne) (hread hline)
  | case3 line r ih =>
    rw [linesFrom]
    exact .ended (hread hline) (.pair r) (ih (by simp))
  | case4 line c r hwhole hbreak ih =>
    rw [linesFrom, if_pos hbreak]
    · refine @HasLines.ended _ [c] _ _ (hread hline) (.single (isLineBreak_iff.mp hbreak) ?_) (ih (by simp))
      rintro rfl hfeed
      obtain ⟨r', rfl⟩ := List.head?_eq_some_iff.mp hfeed
      exact hwhole r' rfl rfl
    · exact hwhole
  | case5 line c r hwhole hplain ih =>
    rw [linesFrom, if_neg hplain]
    · have hc : c ∉ lineBreaks := fun h => hplain (isLineBreak_iff.mpr h)
      have hmore := ih (List.forall_mem_cons.mpr ⟨hc, hline⟩)
      rwa [List.reverse_cons, List.append_assoc] at hmore
    · exact hwhole

/-- The characters of a line are read one after another. -/
theorem linesFrom_append {line : List Char} (hline : ∀ c ∈ line, c ∉ lineBreaks) (before r : List Char) :
    linesFrom before (line ++ r) = linesFrom (line.reverse ++ before) r := by
  induction line generalizing before with
  | nil => rfl
  | cons c line ih =>
    have hc : ¬ isLineBreak c = true := fun h => hline c List.mem_cons_self (isLineBreak_iff.mp h)
    have hwhole : c ≠ '\r' := by
      rintro rfl
      exact hline _ List.mem_cons_self (by decide)
    rw [List.cons_append, linesFrom, if_neg hc, ih fun d hd => hline d (List.mem_cons_of_mem _ hd),
      List.reverse_cons, List.append_assoc]
    · rfl
    · exact fun r' h _ => hwhole h

theorem linesFrom_ending {ending r : List Char} (hending : EndsLine ending r) (line : List Char) :
    linesFrom line (ending ++ r) = line.reverse :: linesFrom [] r := by
  cases hending with
  | pair => rfl
  | @single c _ hc hwhole =>
    rw [List.singleton_append, linesFrom, if_pos (isLineBreak_iff.mpr hc)]
    rintro r' rfl rfl
    exact hwhole rfl rfl

/-- **The lines of a text.** -/
theorem hasLines_iff {s : List Char} {ls : List (List Char)} : HasLines s ls ↔ lines s = ls := by
  constructor
  · intro h
    unfold lines
    induction h with
    | empty => rfl
    | @unended line hne hline =>
      have hread := linesFrom_append hline [] []
      rw [List.append_nil, List.append_nil] at hread
      rw [hread, linesFrom, if_neg (by simpa using hne), List.reverse_reverse]
    | ended hline hending _ ih =>
      rw [linesFrom_append hline, linesFrom_ending hending, List.append_nil, List.reverse_reverse, ih]
  · rintro rfl
    exact hasLines_linesFrom [] s (by simp)

/-- The last lines of a text are its tail and nothing else is. -/
theorem isTail_iff {count : Nat} (hcount : 0 < count) {s shown : String} : IsTail count s shown ↔ tail s count = shown := by
  have hlast : lastOf (count : Int) (lines s.toList) = (lines s.toList).drop ((lines s.toList).length - count) := by
    rw [lastOf, if_pos (by omega), Int.toNat_natCast]
  rw [tail, hlast, joinWith_eq_intercalate]
  constructor
  · rintro ⟨earlier, last, hlines, hlength, hshown⟩
    rw [hasLines_iff.mp hlines]
    have hdrop : (earlier ++ last).length - count = earlier.length := by
      rw [List.length_append] at hlength ⊢
      omega
    rw [hdrop, List.drop_left, ← hshown, String.ofList_toList]
  · rintro rfl
    refine ⟨_, _, hasLines_iff.mpr (List.take_append_drop _ _).symm, ?_, String.toList_ofList⟩
    rw [List.take_append_drop, List.length_drop]
    omega

end ProxyTestbed.Text
