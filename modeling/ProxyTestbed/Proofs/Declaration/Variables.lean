import Mathlib.Data.String.Basic
import ProxyTestbed.Backend.Basic
import ProxyTestbed.Proofs.Act.Outcome

/-!
# Declarations in the order of their names

The variables that begin with a word are read in the order of their names. An environment gives no name twice, so
there is one such order, whatever order the variables were set in, and variables that begin otherwise have no part
in it.

* `InOrder.unique`: the variables that begin with a word, in the order of their names.
* `declared_eq_of_agree`: what is declared depends on these variables alone.
* `declarations_canonical`: what reading all declarations ends in.
-/

namespace ProxyTestbed

/-- Sorted by different names, a list is in strictly ascending order. -/
theorem pairwise_lt_mergeSort {α : Type} {name : α → String} {l : List α} (h : (l.map name).Nodup) :
    (l.mergeSort fun a b => !decide (name b < name a)).Pairwise fun a b => name a < name b := by
  have hsorted := @List.pairwise_mergeSort α (fun a b => !decide (name b < name a)) (by grind) (by grind) l
  have hnodup := ((List.mergeSort_perm l fun a b => !decide (name b < name a)).map name).nodup_iff.mpr h
  refine (hsorted.and (List.pairwise_map.mp hnodup)).imp fun ⟨hle, hne⟩ => ?_
  simp only [Bool.not_eq_true', decide_eq_false_iff_not, not_lt] at hle
  exact lt_of_le_of_ne hle hne

namespace Variables

variable {ε α β : Type} {word : String} {env env' chosen chosen' : Variables}

/-- The name begins with the word. -/
def Begins (word name : String) : Prop :=
  word.toList <+: name.toList

instance (word name : String) : Decidable (Begins word name) :=
  inferInstanceAs (Decidable (_ <+: _))

/-- No name is given twice. -/
def Distinct (env : Variables) : Prop :=
  (env.map (·.1)).Nodup

instance (env : Variables) : Decidable (Distinct env) :=
  inferInstanceAs (Decidable (List.Nodup _))

/-- The variables that begin with the word are the same, in whatever order and among whatever others. -/
def Agree (word : String) (env env' : Variables) : Prop :=
  ∀ v, Begins word v.1 → (v ∈ env ↔ v ∈ env')

/-! ## The order of the names -/

/-- The variables that begin with the word, in the order of their names by code point. -/
structure InOrder (word : String) (env chosen : Variables) : Prop where
  ascending : chosen.Pairwise fun u v => u.1 < v.1
  mem_iff : ∀ v, v ∈ chosen ↔ v ∈ env ∧ Begins word v.1

theorem InOrder.nodup (h : InOrder word env chosen) : chosen.Nodup := by
  refine h.ascending.imp ?_
  rintro u _ hlt rfl
  exact lt_irrefl _ hlt

theorem InOrder.unique (h : InOrder word env chosen) (h' : InOrder word env chosen') : chosen = chosen' := by
  have hperm : chosen.Perm chosen' := by
    rw [List.perm_ext_iff_of_nodup h.nodup h'.nodup]
    intro v
    rw [h.mem_iff, h'.mem_iff]
  exact hperm.eq_of_pairwise (fun u v _ _ hlt hgt => absurd hlt (lt_asymm hgt)) h.ascending h'.ascending

theorem InOrder.of_agree (h : InOrder word env chosen) (hagree : Agree word env env') :
    InOrder word env' chosen where
  ascending := h.ascending
  mem_iff v := by
    rw [h.mem_iff]
    exact and_congr_left (hagree v)

theorem exists_inOrder (hdistinct : Distinct env) (word : String) :
    ∃ chosen, InOrder word env chosen ∧ declared word env = chosen.map (·.2) := by
  have hnodup : ((env.filter fun v => word.toList.isPrefixOf v.1.toList).map (·.1)).Nodup :=
    hdistinct.sublist (List.filter_sublist.map _)
  refine ⟨_, ⟨pairwise_lt_mergeSort hnodup, fun v => ?_⟩, rfl⟩
  rw [List.mem_mergeSort, List.mem_filter, List.isPrefixOf_iff_prefix, Begins]

theorem declared_of_inOrder (hdistinct : Distinct env) (h : InOrder word env chosen) :
    declared word env = chosen.map (·.2) := by
  obtain ⟨chosen', h', hdeclared⟩ := exists_inOrder hdistinct word
  rw [hdeclared, h'.unique h]

theorem declared_eq_of_agree (hdistinct : Distinct env) (hdistinct' : Distinct env') (hagree : Agree word env env') :
    declared word env' = declared word env := by
  obtain ⟨chosen, h, hdeclared⟩ := exists_inOrder hdistinct word
  rw [hdeclared, declared_of_inOrder hdistinct' (h.of_agree hagree)]

/-! ## Reading one after another -/

/-- What reading variables one after another ends in: one rule for each of them, or the fault of the first one that
cannot be read. -/
inductive Reading (read : String → Except ε α) : Variables → Except ε (List α) → Prop
  | all {chosen : Variables} {rules : List α} (h : List.Forall₂ (fun v rule => read v.2 = .ok rule) chosen rules) :
      Reading read chosen (.ok rules)
  | refused {before after : Variables} {v : String × String} {fault : ε}
      (hbefore : ∀ u ∈ before, ∃ rule, read u.2 = .ok rule) (h : read v.2 = .error fault) :
      Reading read (before ++ v :: after) (.error fault)

theorem reading_mapM (read : String → Except ε α) (chosen : Variables) :
    Reading read chosen ((chosen.map (·.2)).mapM read) := by
  rw [List.mapM_map]
  cases hread : chosen.mapM (read ∘ fun v => v.2) with
  | ok rules => exact .all (mapM_eq_ok_iff.mp hread)
  | error fault =>
    obtain ⟨before, v, after, rfl, hbefore, hv⟩ := mapM_eq_error_iff.mp hread
    exact .refused hbefore hv

theorem Reading.map {read : String → Except ε α} {r : Except ε (List α)} (h : Reading read chosen r) (f : α → β) :
    Reading (fun value => (read value).map f) chosen (r.map (List.map f)) := by
  cases h with
  | all h =>
    refine .all (List.forall₂_map_right_iff.mpr (h.imp fun v rule hread => ?_))
    rw [hread]
    rfl
  | refused hbefore h =>
    refine .refused (fun u hu => ?_) (map_eq_error_iff.mpr h)
    obtain ⟨rule, hrule⟩ := hbefore u hu
    exact ⟨f rule, map_eq_ok_iff.mpr ⟨rule, hrule, rfl⟩⟩

/-! ## All declarations -/

/-- **What is declared does not depend on the order in which variables were set.** Virtual hosts and redirects are
read of the variables that begin with their word, in the order of the names: one rule for each variable, or the
fault of the first one that cannot be read. So are the rules of a backend and its host names. An environment that
gives the same values to the names that begin with the word ends in the same, however it is ordered and whatever
else it gives. -/
theorem declarations_canonical (τ : Type) [Seconds τ] (hdistinct : Distinct env) (hdistinct' : Distinct env') :
    (∃ chosen, InOrder virtualHostWord env chosen ∧ Reading VirtualHost.read chosen (virtualHosts env) ∧
      ∀ b : Backend τ, b.env = env → Reading VirtualHost.read chosen b.rules ∧
        Reading (fun value => (VirtualHost.read value).map (·.hostname)) chosen b.hostnames) ∧
    (∃ chosen, InOrder redirectWord env chosen ∧ Reading Redirect.read chosen (redirects env)) ∧
    (Agree virtualHostWord env env' → virtualHosts env' = virtualHosts env ∧
      ∀ b b' : Backend τ, b.env = env → b'.env = env' → b'.rules = b.rules ∧ b'.hostnames = b.hostnames) ∧
    (Agree redirectWord env env' → redirects env' = redirects env) := by
  refine ⟨?_, ?_, fun hagree => ?_, fun hagree => ?_⟩
  · obtain ⟨chosen, horder, hdeclared⟩ := exists_inOrder hdistinct virtualHostWord
    have hreading : Reading VirtualHost.read chosen (virtualHosts env) := by
      rw [virtualHosts, hdeclared]
      exact reading_mapM _ _
    refine ⟨chosen, horder, hreading, ?_⟩
    rintro b rfl
    exact ⟨hreading, hreading.map _⟩
  · obtain ⟨chosen, horder, hdeclared⟩ := exists_inOrder hdistinct redirectWord
    refine ⟨chosen, horder, ?_⟩
    rw [redirects, hdeclared]
    exact reading_mapM _ _
  · have hsame : virtualHosts env' = virtualHosts env := by
      rw [virtualHosts, virtualHosts, declared_eq_of_agree hdistinct hdistinct' hagree]
    refine ⟨hsame, ?_⟩
    rintro b b' rfl rfl
    have hrules : b'.rules = b.rules := hsame
    exact ⟨hrules, by rw [Backend.hostnames, Backend.hostnames, hrules]⟩
  · rw [redirects, redirects, declared_eq_of_agree hdistinct hdistinct' hagree]

/-- Two ports that are none. -/
def portless : Variables := [("VIRTUAL_HOST9", "a:x"), ("PATH", "/bin"), ("VIRTUAL_HOST10", "b:y")]

/-- The same two among another variable, set in another order. -/
def reset : Variables := [("VIRTUAL_HOST10", "b:y"), ("HOME", "/"), ("VIRTUAL_HOST9", "a:x")]

/-- The port that is reported is that under the lesser name, in whatever order the two names are set. -/
theorem declarations_canonical_portless :
    Distinct portless ∧ Distinct reset ∧ Agree virtualHostWord portless reset ∧
      virtualHosts portless = .error (.rejected (.badPort "b:y")) ∧
      virtualHosts reset = .error (.rejected (.badPort "b:y")) := by
  have hdistinct : Distinct portless := by decide
  have hdistinct' : Distinct reset := by decide
  have horder : InOrder virtualHostWord portless [("VIRTUAL_HOST10", "b:y"), ("VIRTUAL_HOST9", "a:x")] := by
    refine ⟨by decide, ?_⟩
    rintro ⟨name, value⟩
    have hpath : ¬ Begins virtualHostWord "PATH" := by decide
    have hten : Begins virtualHostWord "VIRTUAL_HOST10" := by decide
    have hnine : Begins virtualHostWord "VIRTUAL_HOST9" := by decide
    simp only [portless, List.mem_cons, Prod.mk.injEq, List.not_mem_nil, or_false]
    grind
  have hagree : Agree virtualHostWord portless reset := by
    rintro ⟨name, value⟩ hname
    have hpath : ¬ Begins virtualHostWord "PATH" := by decide
    have hhome : ¬ Begins virtualHostWord "HOME" := by decide
    simp only [portless, reset, List.mem_cons, Prod.mk.injEq, List.not_mem_nil, or_false]
    grind
  obtain ⟨-, -, hsame, -⟩ := declarations_canonical Rat hdistinct hdistinct'
  have hbad : VirtualHost.read "b:y" = .error (.rejected (.badPort "b:y")) := by decide
  have hfirst : virtualHosts portless = .error (.rejected (.badPort "b:y")) := by
    rw [virtualHosts, declared_of_inOrder hdistinct horder, List.map_cons, List.mapM_cons, hbad]
    rfl
  exact ⟨hdistinct, hdistinct', hagree, hfirst, (hsame hagree).1.trans hfirst⟩

end Variables

end ProxyTestbed
