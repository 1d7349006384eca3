import ProxyTestbed.Proofs.Act.Outcome
import ProxyTestbed.Proofs.Number.Digits
import ProxyTestbed.Proofs.Number.Range
import ProxyTestbed.Settings.Load

/-!
# What no coercion reports

Coercing a value either succeeds or is refused with a report, but for two kinds of integers: one that has no text, be
it deep inside the value, since the text is what the value becomes or what its report shows; and one beyond the
reals for a number of seconds.

* `Datum.inside_whole_iff`: what is inside a datum is what is reached from it, though no part is entered twice.
* `Datum.hasText_eq_false_iff`: the data without a text, by the integers inside.
* `escapes_coerce_iff`: the values whose coercion fails without a report.
-/

namespace ProxyTestbed

/-! ## Integers without a text -/

namespace Datum

/-- An integer stands somewhere inside a datum, or inside of what its marks stand for. -/
inductive Inside (parts : Parts) (i : Int) : Datum → Prop
  | here : Inside parts i (.int i)
  | list {xs : List Datum} {x : Datum} (hx : x ∈ xs) (h : Inside parts i x) : Inside parts i (.list xs)
  | tuple {xs : List Datum} {x : Datum} (hx : x ∈ xs) (h : Inside parts i x) : Inside parts i (.tuple xs)
  | set {xs : List Datum} {x : Datum} (hx : x ∈ xs) (h : Inside parts i x) : Inside parts i (.set xs)
  | key {entries : List (Datum × Datum)} {k v : Datum} (he : (k, v) ∈ entries) (h : Inside parts i k) :
      Inside parts i (.map entries)
  | value {entries : List (Datum × Datum)} {k v : Datum} (he : (k, v) ∈ entries) (h : Inside parts i v) :
      Inside parts i (.map entries)
  | part {part : Part} {d : Datum} (hpart : parts.lookup part.number = some d) (h : Inside parts i d) :
      Inside parts i (.again part)

/-- An integer of more digits than are written. -/
def Unwritten (i : Int) : Prop :=
  10 ^ Number.maxDigits ≤ i.natAbs

theorem hasText_int_iff {i : Int} : hasText (.int i) = true ↔ ¬ Unwritten i := by
  rw [Unwritten, Nat.not_le, hasText]
  exact Number.isOk_writeInteger_iff

theorem haveText_iff {xs : List Datum} : haveText xs = true ↔ ∀ x ∈ xs, hasText x = true := by
  induction xs with
  | nil => simp [haveText]
  | cons x xs ih => simp [haveText, ih]

theorem entriesHaveText_iff {entries : List (Datum × Datum)} :
    entriesHaveText entries = true ↔ ∀ e ∈ entries, hasText e.1 = true ∧ hasText e.2 = true := by
  induction entries with
  | nil => simp [entriesHaveText]
  | cons e entries ih => simp [entriesHaveText, ih]

/-- The text of a datum writes every integer inside it. -/
theorem Inside.written {i : Int} {d : Datum} (h : Inside [] i d) (htext : d.hasText = true) : ¬ Unwritten i := by
  induction h with
  | here => exact hasText_int_iff.mp htext
  | list hx _ ih => exact ih (haveText_iff.mp (by rwa [hasText] at htext) _ hx)
  | tuple hx _ ih => exact ih (haveText_iff.mp (by rwa [hasText] at htext) _ hx)
  | set hx _ ih => exact ih (haveText_iff.mp (by rwa [hasText] at htext) _ hx)
  | key he _ ih => exact ih (entriesHaveText_iff.mp (by rwa [hasText] at htext) _ he).1
  | value he _ ih => exact ih (entriesHaveText_iff.mp (by rwa [hasText] at htext) _ he).2
  | part hpart => cases hpart

mutual

theorem hasText_of_written : ∀ {d : Datum}, (∀ i, Inside [] i d → ¬ Unwritten i) → d.hasText = true
  | .int i, h => hasText_int_iff.mpr (h i .here)
  | .list _, h => by
    rw [hasText]
    exact haveText_of_written fun i x hx hi => h i (.list hx hi)
  | .tuple _, h => by
    rw [hasText]
    exact haveText_of_written fun i x hx hi => h i (.tuple hx hi)
  | .set _, h => by
    rw [hasText]
    exact haveText_of_written fun i x hx hi => h i (.set hx hi)
  | .map _, h => by
    rw [hasText]
    exact entriesHaveText_of_written fun i e he hi => hi.elim (fun hk => h i (.key he hk)) fun hv => h i (.value he hv)
  | .null, _ | .bool _, _ | .real _, _ | .text _, _ | .bytes _, _ | .date _, _ | .moment _, _ | .again _, _ => by
    simp only [hasText]

theorem haveText_of_written : ∀ {xs : List Datum}, (∀ i, ∀ x ∈ xs, Inside [] i x → ¬ Unwritten i) →
    haveText xs = true
  | [], _ => by rw [haveText]
  | x :: xs, h => by
    rw [haveText, Bool.and_eq_true]
    exact ⟨hasText_of_written fun i hi => h i x List.mem_cons_self hi,
      haveText_of_written fun i y hy hi => h i y (List.mem_cons_of_mem x hy) hi⟩

theorem entriesHaveText_of_written : ∀ {entries : List (Datum × Datum)},
    (∀ i, ∀ e ∈ entries, Inside [] i e.1 ∨ Inside [] i e.2 → ¬ Unwritten i) → entriesHaveText entries = true
  | [], _ => by rw [entriesHaveText]
  | (k, v) :: entries, h => by
    rw [entriesHaveText, Bool.and_eq_true, Bool.and_eq_true]
    exact ⟨⟨hasText_of_written fun i hi => h i (k, v) List.mem_cons_self (.inl hi),
        hasText_of_written fun i hi => h i (k, v) List.mem_cons_self (.inr hi)⟩,
      entriesHaveText_of_written fun i e he hi => h i e (List.mem_cons_of_mem _ he) hi⟩

end

theorem hasText_eq_false_iff {d : Datum} : d.hasText = false ↔ ∃ i, Inside [] i d ∧ Unwritten i := by
  rw [← Bool.not_eq_true, ← not_iff_comm]
  push Not
  exact ⟨hasText_of_written, fun htext _ h => h.written htext⟩

/-! ## Marks -/

section

variable {parts : Parts} {i : Int} {d : Datum} {f : Part → Datum}

theorem lookup_without (parts : Parts) (n m : Nat) :
    (parts.without n).lookup m = if m = n then none else parts.lookup m := by
  induction parts with
  | nil => simp [Parts.without]
  | cons p parts ih =>
    obtain ⟨k, d⟩ := p
    rw [Parts.without] at ih ⊢
    by_cases hk : k = n
    · subst hk
      rw [List.filter_cons_of_neg (by simp), ih, List.lookup_cons]
      by_cases hm : m = k
      · rw [if_pos hm, if_pos hm]
      · rw [if_neg hm, if_neg hm, beq_eq_false_iff_ne.mpr hm]
    · rw [List.filter_cons_of_pos (by simp [hk]), List.lookup_cons, List.lookup_cons, ih]
      by_cases hm : m = k
      · subst hm
        rw [if_neg hk, if_neg hk, beq_self_eq_true]
      · rw [beq_eq_false_iff_ne.mpr hm]

theorem length_without_lt {n : Nat} (h : parts.lookup n = some d) : (parts.without n).length < parts.length := by
  have hmem : ∃ p ∈ parts, ¬ (p.1 != n) = true := by
    obtain ⟨l₁, l₂, rfl, -⟩ := List.lookup_eq_some_iff.mp h
    exact ⟨(n, d), by simp⟩
  exact List.length_filter_lt_length_iff_exists.mpr hmem

/-- With fewer parts, less is inside. -/
theorem Inside.of_without {n : Nat} (h : Inside (parts.without n) i d) : Inside parts i d := by
  induction h with
  | here => exact .here
  | list hx _ ih => exact .list hx ih
  | tuple hx _ ih => exact .tuple hx ih
  | set hx _ ih => exact .set hx ih
  | key he _ ih => exact .key he ih
  | value he _ ih => exact .value he ih
  | part hpart _ ih =>
    rw [lookup_without] at hpart
    split at hpart
    · cases hpart
    · exact .part hpart ih

/-- What is inside is so without entering a part, or inside this part without entering it again: by induction on the
way to it, of which the end after the last entrance counts. -/
theorem Inside.without (h : Inside parts i d) (n : Nat) : Inside (parts.without n) i d ∨
    ∃ inner, parts.lookup n = some inner ∧ Inside (parts.without n) i inner := by
  induction h with
  | here => exact .inl .here
  | list hx _ ih => exact ih.imp_left (.list hx)
  | tuple hx _ ih => exact ih.imp_left (.tuple hx)
  | set hx _ ih => exact ih.imp_left (.set hx)
  | key he _ ih => exact ih.imp_left (.key he)
  | value he _ ih => exact ih.imp_left (.value he)
  | @part p inner hpart _ ih =>
    by_cases hn : p.number = n
    · exact .inr (ih.elim (fun h => ⟨inner, hn ▸ hpart, h⟩) id)
    · exact ih.imp_left (.part (by rwa [lookup_without, if_neg hn]))

theorem replaceAll_eq (f : Part → Datum) (xs : List Datum) : replaceAll f xs = xs.map (replace f) := by
  induction xs with
  | nil => rfl
  | cons x xs ih => rw [replaceAll, ih, List.map_cons]

theorem replaceEntries_eq (f : Part → Datum) (entries : List (Datum × Datum)) :
    replaceEntries f entries = entries.map fun e => (replace f e.1, replace f e.2) := by
  induction entries with
  | nil => rfl
  | cons e entries ih => rw [replaceEntries, ih, List.map_cons]

/-- What is inside stays so where marks are replaced by data that it is inside of. -/
theorem Inside.replace (hf : ∀ part, Inside parts i (.again part) → Inside [] i (f part)) (h : Inside parts i d) :
    Inside [] i (d.replace f) := by
  induction h with
  | here => exact .here
  | list hx _ ih =>
    rw [Datum.replace, replaceAll_eq]
    exact .list (List.mem_map_of_mem hx) ih
  | tuple hx _ ih =>
    rw [Datum.replace, replaceAll_eq]
    exact .tuple (List.mem_map_of_mem hx) ih
  | set hx _ ih =>
    rw [Datum.replace, replaceAll_eq]
    exact .set (List.mem_map_of_mem hx) ih
  | key he _ ih =>
    rw [Datum.replace, replaceEntries_eq]
    exact .key (List.mem_map_of_mem he) ih
  | value he _ ih =>
    rw [Datum.replace, replaceEntries_eq]
    exact .value (List.mem_map_of_mem he) ih
  | part hpart h => exact hf _ (.part hpart h)

mutual

theorem inside_of_replace (hf : ∀ part, Inside [] i (f part) → Inside parts i (.again part)) :
    ∀ {d : Datum}, Inside [] i (d.replace f) → Inside parts i d
  | .again part, h => hf part h
  | .list xs, h => by
    rw [replace] at h
    cases h with
    | list hx h => exact (exists_inside_of_replaceAll hf hx h).elim fun x hx => .list hx.1 hx.2
  | .tuple xs, h => by
    rw [replace] at h
    cases h with
    | tuple hx h => exact (exists_inside_of_replaceAll hf hx h).elim fun x hx => .tuple hx.1 hx.2
  | .set xs, h => by
    rw [replace] at h
    cases h with
    | set hx h => exact (exists_inside_of_replaceAll hf hx h).elim fun x hx => .set hx.1 hx.2
  | .map entries, h => by
    rw [replace] at h
    cases h with
    | key he h =>
      obtain ⟨e, he, hkey, -⟩ := exists_inside_of_replaceEntries hf he
      exact .key he (hkey h)
    | value he h =>
      obtain ⟨e, he, -, hvalue⟩ := exists_inside_of_replaceEntries hf he
      exact .value he (hvalue h)
  | .int _, h => by
    cases h
    exact .here
  | .null, h | .bool _, h | .real _, h | .text _, h | .bytes _, h | .date _, h | .moment _, h => by cases h

theorem exists_inside_of_replaceAll (hf : ∀ part, Inside [] i (f part) → Inside parts i (.again part)) :
    ∀ {xs : List Datum} {x : Datum}, x ∈ replaceAll f xs → Inside [] i x → ∃ y ∈ xs, Inside parts i y
  | y :: xs, x, hx, h => by
    rw [replaceAll] at hx
    rcases List.mem_cons.mp hx with rfl | hx
    · exact ⟨y, List.mem_cons_self, inside_of_replace hf h⟩
    · obtain ⟨z, hz, hinside⟩ := exists_inside_of_replaceAll hf hx h
      exact ⟨z, List.mem_cons_of_mem _ hz, hinside⟩

theorem exists_inside_of_replaceEntries (hf : ∀ part, Inside [] i (f part) → Inside parts i (.again part)) :
    ∀ {entries : List (Datum × Datum)} {k v : Datum}, (k, v) ∈ replaceEntries f entries →
      ∃ e ∈ entries, (Inside [] i k → Inside parts i e.1) ∧ (Inside [] i v → Inside parts i e.2)
  | (a, b) :: entries, k, v, he => by
    rw [replaceEntries] at he
    rcases List.mem_cons.mp he with heq | he
    · obtain ⟨rfl, rfl⟩ := Prod.mk.inj heq
      exact ⟨(a, b), List.mem_cons_self, inside_of_replace hf, inside_of_replace hf⟩
    · obtain ⟨e, he, hinside⟩ := exists_inside_of_replaceEntries hf he
      exact ⟨e, List.mem_cons_of_mem _ he, hinside⟩

end

/-- By induction on the depth, which lasts for all parts: each one is entered with the others left. -/
theorem inside_wholeTo_iff {depth : Nat} (hdepth : parts.length ≤ depth) :
    Inside [] i (d.wholeTo depth parts) ↔ Inside parts i d := by
  induction depth generalizing parts d with
  | zero =>
    obtain rfl : parts = [] := List.length_eq_zero_iff.mp (Nat.le_zero.mp hdepth)
    rfl
  | succ depth ih =>
    have hmarks (p : Part) : Inside [] i ((parts.lookup p.number).elim (again p)
        (wholeTo depth (parts.without p.number))) ↔ Inside parts i (.again p) := by
      cases hp : parts.lookup p.number with
      | none =>
        refine iff_of_false ?_ ?_
        · rintro (_ | _ | _ | _ | _ | _ | hpart)
          cases hpart
        · rintro (_ | _ | _ | _ | _ | _ | hpart)
          rw [hp] at hpart
          cases hpart
      | some inner =>
        have hlength := length_without_lt hp
        rw [Option.elim_some, ih (by omega)]
        refine ⟨fun h => .part hp h.of_without, ?_⟩
        rintro (_ | _ | _ | _ | _ | _ | ⟨hpart, h⟩)
        obtain rfl := Option.some.inj (hp.symm.trans hpart)
        rcases h.without p.number with h | ⟨inner', hinner, h⟩
        · exact h
        · obtain rfl := Option.some.inj (hp.symm.trans hinner)
          exact h
    rw [wholeTo]
    exact ⟨inside_of_replace fun p => (hmarks p).mp, Inside.replace fun p => (hmarks p).mpr⟩

theorem inside_whole_iff : Inside [] i (d.whole parts) ↔ Inside parts i d :=
  inside_wholeTo_iff (Nat.le_refl _)

end

end Datum

namespace Settings

/-! ## Failing without a report -/

variable {α β : Type}

/-- Loading fails, and not with a report on the settings. -/
def Escapes (x : Except LoadProblem α) : Prop :=
  ∃ problem, x = .error problem ∧ ∀ p, problem ≠ .refused p

theorem not_escapes_ok (a : α) : ¬ Escapes (.ok a : Except LoadProblem α) := by
  rintro ⟨problem, ⟨⟩, -⟩

theorem not_escapes_refused (p : SettingsProblem) : ¬ Escapes (.error (.refused p) : Except LoadProblem α) := by
  rintro ⟨problem, ⟨⟩, h⟩
  exact h p rfl

theorem escapes_map_iff {x : Except LoadProblem α} {f : α → β} : Escapes (x.map f) ↔ Escapes x := by
  simp only [Escapes, map_eq_error_iff]

theorem escapes_bind_iff {x : Except LoadProblem α} {f : α → Except LoadProblem β} (hf : ∀ a, ¬ Escapes (f a)) :
    Escapes (x >>= f) ↔ Escapes x := by
  constructor
  · rintro ⟨problem, hproblem, hescapes⟩
    rcases bind_eq_error_iff.mp hproblem with hx | ⟨a, -, ha⟩
    · exact ⟨problem, hx, hescapes⟩
    · exact absurd ⟨problem, ha, hescapes⟩ (hf a)
  · rintro ⟨problem, hx, hescapes⟩
    exact ⟨problem, bind_eq_error_iff.mpr (.inl hx), hescapes⟩

theorem escapes_mapM_iff {f : α → Except LoadProblem β} {l : List α} :
    Escapes (l.mapM f) ↔
      ∃ before a after, l = before ++ a :: after ∧ (∀ x ∈ before, ∃ b, f x = .ok b) ∧ Escapes (f a) := by
  constructor
  · rintro ⟨problem, hproblem, hescapes⟩
    obtain ⟨before, a, after, hl, hbefore, ha⟩ := mapM_eq_error_iff.mp hproblem
    exact ⟨before, a, after, hl, hbefore, problem, ha, hescapes⟩
  · rintro ⟨before, a, after, hl, hbefore, problem, ha, hescapes⟩
    exact ⟨problem, mapM_eq_error_iff.mpr ⟨before, a, after, hl, hbefore, ha⟩, hescapes⟩

/-! ## Coercion -/

/-- The integer is no real, since the nearest one is infinite. -/
theorem escapes_realOfInt_iff {i : Int} : Escapes (realOfInt i) ↔ Number.leastInfinite ≤ i.natAbs := by
  rw [← Nat.not_lt, ← Number.nearestBits_lt_infinityBits_iff]
  simp only [realOfInt]
  split
  · rename_i hfinite
    exact iff_of_false (not_escapes_ok _) (not_not_intro hfinite)
  · rename_i hinfinite
    exact iff_of_true ⟨.tooLarge, rfl, by simp⟩ hinfinite

theorem escapes_ifWritten_iff {raw : Datum} {x : Except LoadProblem α} (hx : ¬ Escapes x) :
    Escapes (ifWritten raw x) ↔ raw.hasText = false := by
  unfold ifWritten
  split
  · rename_i htext
    exact iff_of_false hx (by simp [htext])
  · rename_i htext
    exact iff_of_true ⟨_, rfl, by simp⟩ (Bool.not_eq_true _ ▸ htext)

/-- A value has no text, or is no real for a number of seconds. -/
inductive Overflows (kind : SettingKind) (raw : Datum) (parts : Parts) : Prop
  | unwritten {i : Int} (hinside : raw.Inside parts i) (hi : Datum.Unwritten i)
  | unreal {i : Int} (hkind : kind = .seconds) (hraw : raw.whole parts = .int i)
      (hi : Number.leastInfinite ≤ i.natAbs)

/-- It does not matter whether there are marks in it. -/
theorem overflows_whole_iff {kind : SettingKind} {raw : Datum} {parts : Parts} :
    Overflows kind (raw.whole parts) [] ↔ Overflows kind raw parts := by
  constructor
  · rintro (⟨hinside, hi⟩ | ⟨hkind, hraw, hi⟩)
    · exact .unwritten (Datum.inside_whole_iff.mp hinside) hi
    · exact .unreal hkind hraw hi
  · rintro (⟨hinside, hi⟩ | ⟨hkind, hraw, hi⟩)
    · exact .unwritten (Datum.inside_whole_iff.mpr hinside) hi
    · exact .unreal hkind hraw hi

/-- But for integers as seconds, only a value without a text overflows. -/
theorem overflows_iff {kind : SettingKind} {raw : Datum} (h : kind = .seconds → ∀ i, raw ≠ .int i) :
    Overflows kind raw [] ↔ raw.hasText = false := by
  rw [Datum.hasText_eq_false_iff]
  constructor
  · rintro (⟨hinside, hi⟩ | ⟨hkind, hraw, -⟩)
    · exact ⟨_, hinside, hi⟩
    · exact absurd hraw (h hkind _)
  · rintro ⟨i, hinside, hi⟩
    exact .unwritten hinside hi

theorem not_overflows {kind : SettingKind} {raw : Datum} (h : kind = .seconds → ∀ i, raw ≠ .int i)
    (htext : raw.hasText = true) : ¬ Overflows kind raw [] := by
  rw [overflows_iff h, htext]
  exact Bool.noConfusion

theorem not_overflows_text {kind : SettingKind} {s : String} : ¬ Overflows kind (.text s) [] :=
  not_overflows (by simp) (by simp only [Datum.hasText])

theorem leastInfinite_le : Number.leastInfinite ≤ 10 ^ Number.maxDigits :=
  calc Number.leastInfinite ≤ 2 ^ 1024 := Nat.sub_le _ _
    _ ≤ 2 ^ Number.maxDigits := pow_le_pow_right₀ one_le_two (by decide)
    _ ≤ 10 ^ Number.maxDigits := Nat.pow_le_pow_left (by decide) _

/-- An integer without a text is no real either. -/
theorem overflows_seconds_int_iff {i : Int} :
    Overflows .seconds (.int i) [] ↔ Number.leastInfinite ≤ i.natAbs := by
  constructor
  · rintro (⟨⟨⟩, hi⟩ | ⟨-, ⟨⟩, hi⟩)
    · exact leastInfinite_le.trans hi
    · exact hi
  · exact .unreal rfl rfl

theorem escapes_coerceSeconds_iff {name : String} {raw : Datum} :
    Escapes (coerceSeconds name raw) ↔ Overflows .seconds raw [] := by
  unfold coerceSeconds
  split
  · exact iff_of_false (not_escapes_ok _) (not_overflows (by simp) (by simp only [Datum.hasText]))
  · exact escapes_realOfInt_iff.trans overflows_seconds_int_iff.symm
  · exact iff_of_false (not_escapes_ok _) (not_overflows (by simp) (by simp only [Datum.hasText]))
  · refine iff_of_false ?_ not_overflows_text
    split
    · exact not_escapes_ok _
    · exact not_escapes_refused _
  · refine iff_of_false ?_ (not_overflows (by simp) (by simp only [Datum.hasText]))
    split
    · exact not_escapes_ok _
    · exact not_escapes_refused _
  · rename_i hint _ _ _
    rw [overflows_iff fun _ => hint]
    exact escapes_ifWritten_iff (not_escapes_refused _)

theorem not_escapes_coerceLabels (name : String) (raw : Datum) (parts : Parts) :
    ¬ Escapes (coerceLabels name raw parts) := by
  unfold coerceLabels
  split
  · exact not_escapes_ok _
  · exact not_escapes_refused _

/-- A value is coerced or refused with a report unless it overflows. -/
theorem escapes_coerce_iff {name : String} {kind : SettingKind} {raw : Datum} {parts : Parts} :
    Escapes (coerce name kind raw parts) ↔ Overflows kind raw parts := by
  rw [← overflows_whole_iff]
  unfold coerce
  generalize raw.whole parts = whole
  split
  · exact iff_of_false (not_escapes_ok _) (not_overflows (by simp) (by simp only [Datum.hasText]))
  · exact iff_of_false (not_escapes_refused _) (not_overflows (by simp) (by simp only [Datum.hasText]))
  · rw [overflows_iff (by simp)]
    exact escapes_ifWritten_iff (not_escapes_ok _)
  · rw [overflows_iff (by simp)]
    exact escapes_ifWritten_iff (not_escapes_ok _)
  · exact escapes_coerceSeconds_iff
  · rw [overflows_iff (by simp)]
    exact escapes_ifWritten_iff (not_escapes_ok _)
  · rw [overflows_iff (by simp)]
    exact escapes_ifWritten_iff (not_escapes_coerceLabels name raw parts)

end Settings

end ProxyTestbed
