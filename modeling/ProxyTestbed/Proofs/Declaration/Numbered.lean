import Mathlib.Data.List.Nodup
import Mathlib.Tactic.IntervalCases
import ProxyTestbed.Proofs.Declaration.Variables

/-!
# Numbered declarations

Values are numbered from one, and the variables with their numbers are read in the order of the numbers as texts,
where 10 comes between 1 and 2. So up to nine values are read in their own order, and of ten or more the tenth
comes second.

* `NumeralOrder.eq_range`, `NumeralOrder.getElem?_one`: the places of a list in the order of their numerals.
* `declared_numbered`: the values of numbered variables, in the order of the names.
* `numbered_inNumeralOrder`: what reading numbered declarations ends in.
-/

namespace ProxyTestbed

/-! ## Numerals as texts -/

theorem toList_toString_nat (n : Nat) : (toString n).toList = Nat.toDigits 10 n := by
  rw [Nat.toString_eq_ofList_toDigits, String.toList_ofList]

/-- The text of a positive number begins with a digit other than zero. -/
theorem exists_cons_toDigits {n : Nat} (h : 0 < n) : ∃ c r, Nat.toDigits 10 n = c :: r ∧ '1' ≤ c := by
  induction n using Nat.strongRecOn with
  | ind n ih =>
    rcases Nat.lt_or_ge n 10 with hlt | hge
    · refine ⟨n.digitChar, [], Nat.toDigits_of_lt_base hlt, ?_⟩
      interval_cases n <;> decide
    · obtain ⟨c, r, hdigits, hc⟩ := ih (n / 10) (by omega) (by omega)
      exact ⟨c, r ++ [(n % 10).digitChar], by rw [Nat.toDigits_of_base_le (by decide) hge, hdigits]; rfl, hc⟩

/-- The number of a place in a list, counted from one, as a text. -/
def numeral (place : Nat) : String :=
  toString (place + 1)

theorem toList_numeral (i : Nat) : (numeral i).toList = Nat.toDigits 10 (i + 1) :=
  toList_toString_nat (i + 1)

theorem numeral_injective : Function.Injective numeral := by
  intro i j h
  have hdigits : Nat.toDigits 10 (i + 1) = Nat.toDigits 10 (j + 1) := by
    rw [← toList_numeral, h, toList_numeral]
  have hvalue := congrArg (fun digits => Nat.ofDigitChars 10 digits 0) hdigits
  simpa only [Nat.ofDigitChars_toDigits, Nat.reduceLT, Nat.reduceLeDiff, Nat.add_right_cancel_iff] using hvalue

/-- No place has a numeral before that of the first. -/
theorem not_numeral_lt_zero (i : Nat) : ¬ numeral i < numeral 0 := by
  obtain ⟨c, r, hdigits, hc⟩ := exists_cons_toDigits i.succ_pos
  rw [String.lt_iff_toList_lt, toList_numeral, hdigits, show (numeral 0).toList = ['1'] from rfl,
    List.cons_lt_cons_iff]
  rintro (hlt | ⟨-, hlt⟩)
  · exact absurd hlt (not_lt_of_ge hc)
  · exact List.not_lt_nil r hlt

/-- Only the first place has a numeral before that of the tenth. -/
theorem eq_zero_of_numeral_lt_nine {i : Nat} (h : numeral i < numeral 9) : i = 0 := by
  obtain ⟨c, r, hdigits, hc⟩ := exists_cons_toDigits i.succ_pos
  rw [String.lt_iff_toList_lt, toList_numeral, hdigits, show (numeral 9).toList = ['1', '0'] from rfl,
    List.cons_lt_cons_iff] at h
  rcases h with hlt | ⟨rfl, hlt⟩
  · exact absurd hlt (not_lt_of_ge hc)
  · cases r with
    | nil =>
      have hzero : numeral i = numeral 0 := by
        rw [← String.toList_inj, toList_numeral, hdigits]
        rfl
      exact numeral_injective hzero
    | cons d r =>
      -- a second digit is not below the zero of the tenth
      have hdigit : d.isDigit = true :=
        Nat.isDigit_of_mem_toDigits (b := 10) (n := i + 1) (by decide) (by decide) (by simp [hdigits])
      have hd : '0' ≤ d := by
        simp only [Char.isDigit, Bool.and_eq_true, decide_eq_true_eq] at hdigit
        exact hdigit.1
      rcases List.cons_lt_cons_iff.mp hlt with hlt | ⟨-, hlt⟩
      · exact absurd hlt (not_lt_of_ge hd)
      · exact absurd hlt (List.not_lt_nil r)

/-! ## Places in the order of their numerals -/

/-- The places of a list of `n` values, in the order of their numerals as texts. -/
structure NumeralOrder (n : Nat) (order : List Nat) : Prop where
  perm : order.Perm (List.range n)
  ascending : order.Pairwise fun i j => numeral i < numeral j

theorem exists_numeralOrder (n : Nat) : ∃ order, NumeralOrder n order :=
  ⟨_, List.mergeSort_perm _ _,
    pairwise_lt_mergeSort ((List.nodup_map_iff numeral_injective).mpr List.nodup_range)⟩

namespace NumeralOrder

variable {n : Nat} {order : List Nat}

/-- Up to nine places are in their own order. -/
theorem eq_range (h : NumeralOrder n order) (hn : n ≤ 9) : order = List.range n := by
  have hrange : (List.range n).Pairwise fun i j => numeral i < numeral j := by
    interval_cases n <;> decide
  exact h.perm.eq_of_pairwise (fun i j _ _ hlt hgt => absurd hlt (lt_asymm hgt)) h.ascending hrange

/-- The tenth place comes right after the first one. -/
theorem getElem?_one (h : NumeralOrder n order) (hn : 9 < n) : order[1]? = some 9 := by
  have hmem (i : Nat) (hi : i < n) : i ∈ order := h.perm.mem_iff.mpr (List.mem_range.mpr hi)
  have hascending := h.ascending
  cases order with
  | nil => cases hmem 0 (by omega)
  | cons i order =>
    obtain ⟨hi, hrest⟩ := List.pairwise_cons.mp hascending
    obtain rfl : i = 0 := by
      rcases List.mem_cons.mp (hmem 0 (by omega)) with heq | hzero
      · exact heq.symm
      · exact absurd (hi 0 hzero) (not_numeral_lt_zero i)
    have hnine : 9 ∈ order := (List.mem_cons.mp (hmem 9 hn)).resolve_left (by decide)
    cases order with
    | nil => cases hnine
    | cons j order =>
      rcases List.mem_cons.mp hnine with rfl | hlater
      · rfl
      · have hj : j = 0 := eq_zero_of_numeral_lt_nine ((List.pairwise_cons.mp hrest).1 9 hlater)
        exact absurd (hi j List.mem_cons_self) (hj ▸ not_numeral_lt_zero 0)

end NumeralOrder

/-! ## Numbered variables -/

namespace Variables

variable {ε α : Type} {word : String} {values : List String} {env : Variables}

theorem begins_append (word rest : String) : Begins word (word ++ rest) := by
  rw [Begins, String.toList_append]
  exact List.prefix_append _ _

theorem append_lt_append {a b : String} (word : String) (h : a < b) : word ++ a < word ++ b := by
  rw [String.lt_iff_toList_lt] at h ⊢
  rw [String.toList_append, String.toList_append]
  exact List.append_left_lt h

theorem mem_numbered_iff {v : String × String} :
    v ∈ numbered word values ↔ ∃ i, values[i]? = some v.2 ∧ v.1 = word ++ numeral i := by
  obtain ⟨name, value⟩ := v
  have hname (i : Nat) : s!"{word}{i + 1}" = word ++ numeral i := rfl
  simp only [numbered, List.mem_map, Prod.exists, List.mk_mem_zipIdx_iff_getElem?, Prod.mk.injEq, hname]
  constructor
  · rintro ⟨_, i, hi, rfl, rfl⟩
    exact ⟨i, hi, rfl⟩
  · rintro ⟨i, hi, rfl⟩
    exact ⟨value, i, hi, rfl, rfl⟩

theorem distinct_numbered (word : String) (values : List String) : Distinct (numbered word values) := by
  have hnames : (numbered word values).map (·.1) =
      (List.range values.length).map fun i => word ++ numeral i := by
    rw [numbered, List.map_map, List.range_eq_range', ← List.zipIdx_map_snd 0 values, List.map_map]
    rfl
  have hinjective : Function.Injective fun i => word ++ numeral i := by
    intro i j h
    have hchars := congrArg String.toList h
    simp only [String.toList_append, List.append_cancel_left_eq, String.toList_inj] at hchars
    exact numeral_injective hchars
  rw [Distinct, hnames]
  exact (List.nodup_map_iff hinjective).mpr List.nodup_range

/-- Among other variables, those of numbered values are in the order of their numerals. -/
theorem declared_numbered {order : List Nat} (horder : NumeralOrder values.length order) (hdistinct : Distinct env)
    (hagree : Agree word (numbered word values) env) :
    declared word env = order.map fun i => values.getD i "" := by
  have hmem (v : String × String) :
      v ∈ (order.map fun i => (word ++ numeral i, values.getD i "")) ↔ v ∈ numbered word values := by
    obtain ⟨name, value⟩ := v
    rw [mem_numbered_iff, List.mem_map]
    refine exists_congr fun i => ?_
    rw [horder.perm.mem_iff, List.mem_range, Prod.mk.injEq]
    constructor
    · rintro ⟨hi, rfl, rfl⟩
      exact ⟨by simp [hi], rfl⟩
    · rintro ⟨hvalue, rfl⟩
      obtain ⟨hi, rfl⟩ := List.getElem?_eq_some_iff.mp hvalue
      exact ⟨hi, rfl, by simp [hi]⟩
  have hchosen : InOrder word (numbered word values) (order.map fun i => (word ++ numeral i, values.getD i "")) := by
    refine ⟨List.pairwise_map.mpr (horder.ascending.imp fun hlt => append_lt_append word hlt), fun v => ?_⟩
    rw [hmem]
    refine ⟨fun hv => ⟨hv, ?_⟩, And.left⟩
    obtain ⟨i, -, hname⟩ := mem_numbered_iff.mp hv
    rw [hname]
    exact begins_append word _
  rw [declared_of_inOrder hdistinct (hchosen.of_agree hagree), List.map_map]
  rfl

/-! ## Reading numbered variables -/

theorem exists_forall₂ {β γ : Type} {R : β → γ → Prop} {l : List β} (h : ∀ b ∈ l, ∃ c, R b c) :
    ∃ cs, List.Forall₂ R l cs := by
  induction l with
  | nil => exact ⟨[], .nil⟩
  | cons b l ih =>
    obtain ⟨⟨c, hc⟩, hl⟩ := List.forall_mem_cons.mp h
    obtain ⟨cs, hcs⟩ := ih hl
    exact ⟨c :: cs, .cons hc hcs⟩

theorem exists_getElem?_of_forall₂ {β γ : Type} {R : β → γ → Prop} {bs : List β} {cs : List γ}
    (h : List.Forall₂ R bs cs) {i : Nat} {b : β} (hb : bs[i]? = some b) : ∃ c, cs[i]? = some c ∧ R b c := by
  induction h generalizing i with
  | nil => cases hb
  | cons hhead _ ih =>
    cases i with
    | zero =>
      cases hb
      exact ⟨_, rfl, hhead⟩
    | succ i => exact ih hb

/-- All rules are found, in the order of the numerals of their places: up to nine in their own order, and of more
the tenth comes second. -/
structure InNumeralOrder (rules : List α) (found : Except ε (List α)) : Prop where
  exists_order : ∃ order picked, NumeralOrder rules.length order ∧
    List.Forall₂ (fun i rule => rules[i]? = some rule) order picked ∧ found = .ok picked
  few : rules.length ≤ 9 → found = .ok rules
  many : 9 < rules.length → ∃ picked, found = .ok picked ∧ picked[1]? = rules[9]?

theorem inNumeralOrder_of_picked {rules picked : List α} {order : List Nat} {found : Except ε (List α)}
    (horder : NumeralOrder rules.length order)
    (hpicked : List.Forall₂ (fun i rule => rules[i]? = some rule) order picked) (hfound : found = .ok picked) :
    InNumeralOrder rules found where
  exists_order := ⟨order, picked, horder, hpicked, hfound⟩
  few hlength := by
    rw [horder.eq_range hlength] at hpicked
    have hsame : picked = rules := by
      refine List.ext_getElem? fun i => ?_
      rcases Nat.lt_or_ge i rules.length with hi | hi
      · obtain ⟨rule, hrule, hsame⟩ := exists_getElem?_of_forall₂ hpicked (List.getElem?_range hi)
        rw [hrule, hsame]
      · have hpickedLength : picked.length = rules.length := by
          rw [← hpicked.length_eq, List.length_range]
        rw [List.getElem?_eq_none hi, List.getElem?_eq_none (hpickedLength ▸ hi)]
    rw [hfound, hsame]
  many hlength := by
    obtain ⟨rule, hrule, hsame⟩ := exists_getElem?_of_forall₂ hpicked (horder.getElem?_one hlength)
    exact ⟨picked, hfound, hrule.trans hsame.symm⟩

theorem inNumeralOrder_mapM {read : String → Except ε α} {rules : List α} (hread : values.mapM read = .ok rules)
    (hdistinct : Distinct env) (hagree : Agree word (numbered word values) env) :
    InNumeralOrder rules ((declared word env).mapM read) := by
  have hrules := mapM_eq_ok_iff.mp hread
  obtain ⟨order, horder⟩ := exists_numeralOrder values.length
  have heach : ∀ i ∈ order, ∃ rule, rules[i]? = some rule ∧ read (values.getD i "") = .ok rule := by
    intro i hi
    have hlt : i < values.length := List.mem_range.mp (horder.perm.mem_iff.mp hi)
    obtain ⟨rule, hrule, hvalue⟩ := exists_getElem?_of_forall₂ hrules (List.getElem?_eq_getElem hlt)
    exact ⟨rule, hrule, by simpa [hlt] using hvalue⟩
  obtain ⟨picked, hpicked⟩ := exists_forall₂ heach
  refine inNumeralOrder_of_picked (hrules.length_eq ▸ horder) (hpicked.imp fun i rule h => h.1) ?_
  rw [declared_numbered horder hdistinct hagree]
  exact mapM_eq_ok_iff.mpr (List.forall₂_map_left_iff.mpr (hpicked.imp fun i rule h => h.2))

/-- **Numbered declarations are read in the order of their numbers as texts.** The variables of numbered values have
different names. In an environment that has them, and whatever variables that do not begin with the word, values
that are accepted are all read as they are by themselves, once each, in the order of their numerals: in their own
order if there are at most nine, while of ten or more the tenth comes second. -/
theorem numbered_inNumeralOrder (values : List String) :
    (∀ word, Distinct (numbered word values)) ∧
    ∀ env, Distinct env →
      (∀ rules, values.mapM VirtualHost.read = .ok rules →
        Agree virtualHostWord (numbered virtualHostWord values) env → InNumeralOrder rules (virtualHosts env)) ∧
      (∀ rules, values.mapM Redirect.read = .ok rules →
        Agree redirectWord (numbered redirectWord values) env → InNumeralOrder rules (redirects env)) :=
  ⟨fun word => distinct_numbered word values, fun _ hdistinct =>
    ⟨fun _ hread hagree => inNumeralOrder_mapM hread hdistinct hagree,
      fun _ hread hagree => inNumeralOrder_mapM hread hdistinct hagree⟩⟩

/-- A host and nothing else. -/
def plainHost (hostname : String) : VirtualHost :=
  ⟨hostname, .http, 80, "/", "/", none, "http", []⟩

def tenHosts : List String := ["a", "b", "c", "d", "e", "f", "g", "h", "i", "j"]

theorem mapM_read_tenHosts : tenHosts.mapM VirtualHost.read = .ok (tenHosts.map plainHost) := by
  decide

def withPath : Variables := ("PATH", "/bin") :: numbered virtualHostWord tenHosts

/-- Of ten hosts the last one is read second, wherever the other variable stands; two redirects are read in order. -/
theorem numbered_inNumeralOrder_ten :
    Distinct withPath ∧ Agree virtualHostWord (numbered virtualHostWord tenHosts) withPath ∧
      (∃ picked, virtualHosts withPath = .ok picked ∧ picked[1]? = some (plainHost "j")) ∧
      redirects (numbered redirectWord ["a -> b", "c,d->e"]) = .ok [⟨["a"], "b"⟩, ⟨["c", "d"], "e"⟩] := by
  have hdistinct : Distinct withPath := by decide
  have hagree : Agree virtualHostWord (numbered virtualHostWord tenHosts) withPath := by
    intro v hbegins
    have hne : v ≠ ("PATH", "/bin") := by
      rintro rfl
      exact absurd hbegins (by decide)
    rw [withPath, List.mem_cons, or_iff_right hne]
  have hhosts := ((numbered_inNumeralOrder tenHosts).2 withPath hdistinct).1 _ mapM_read_tenHosts hagree
  have hredirects : InNumeralOrder _ (redirects (numbered redirectWord ["a -> b", "c,d->e"])) :=
    ((numbered_inNumeralOrder ["a -> b", "c,d->e"]).2 _ ((numbered_inNumeralOrder _).1 _)).2
      [⟨["a"], "b"⟩, ⟨["c", "d"], "e"⟩] (by decide) fun _ _ => Iff.rfl
  exact ⟨hdistinct, hagree, hhosts.many (by decide), hredirects.few (by decide)⟩

/-- Ten hosts that are accepted are not read in their own order. -/
theorem virtualHosts_numbered_ne_ten :
    tenHosts.mapM VirtualHost.read = .ok (tenHosts.map plainHost) ∧
      virtualHosts (numbered virtualHostWord tenHosts) ≠ .ok (tenHosts.map plainHost) := by
  have horder := inNumeralOrder_mapM mapM_read_tenHosts (distinct_numbered virtualHostWord tenHosts) fun _ _ => Iff.rfl
  obtain ⟨picked, hpicked, hsecond⟩ := horder.many (by decide)
  refine ⟨mapM_read_tenHosts, fun hread => ?_⟩
  have hsame : picked = tenHosts.map plainHost := Except.ok.inj (hpicked.symm.trans hread)
  rw [hsame] at hsecond
  exact absurd hsecond (by decide)

end Variables

end ProxyTestbed
