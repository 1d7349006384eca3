import ProxyTestbed.Proofs.Declaration.BasicAuth
import ProxyTestbed.Proofs.Declaration.Grammar
import ProxyTestbed.Proofs.Declaration.Redirect
import ProxyTestbed.Proofs.Declaration.Variables

/-!
# Which declarations are rejected

A declaration is read, or it is rejected with the rule that it breaks. There is one exception: a port of a virtual
host is let through by its characters before its number is read, so a port of characters that only look like digits,
or of too many digits, is not rejected and has no number either. It can stand behind the host, or behind the colon of
the inner side where a port may stand.

* `readPort_failsAtNumber_iff`: such a port.
* `VirtualHost.failsAtNumber_iff`: where it stands.
* `Redirect.read_eq_error_iff`, `BasicAuth.read_eq_error_iff`: why the other declarations are rejected.
* `Variables.declarations_settled_iff`: all declarations, and those of an environment.
-/

namespace ProxyTestbed

open Text

/-! ## Rejections -/

section

variable {α β : Type} {x : Except DeclarationFault α}

/-- It is read, or rejected with the rule that it breaks. -/
def Settled (x : Except DeclarationFault α) : Prop :=
  (∃ a, x = .ok a) ∨ ∃ problem, x = .error (.rejected problem)

/-- Reading ends at a port that has no number. -/
def FailsAtNumber (x : Except DeclarationFault α) : Prop :=
  ∃ problem, x = .error (.number problem)

theorem settled_iff : Settled x ↔ ¬ FailsAtNumber x := by
  rcases x with (problem | problem) | a <;> simp [Settled, FailsAtNumber]

theorem failsAtNumber_map_iff {f : α → β} : FailsAtNumber (x.map f) ↔ FailsAtNumber x := by
  simp only [FailsAtNumber, map_eq_error_iff]

theorem failsAtNumber_bind_iff {f : α → Except DeclarationFault β} :
    FailsAtNumber (x >>= f) ↔ FailsAtNumber x ∨ ∃ a, x = .ok a ∧ FailsAtNumber (f a) := by
  simp only [FailsAtNumber, bind_eq_error_iff, exists_or]
  refine or_congr_right ?_
  constructor
  · rintro ⟨problem, a, ha, hf⟩
    exact ⟨a, ha, problem, hf⟩
  · rintro ⟨a, ha, problem, hf⟩
    exact ⟨problem, a, ha, hf⟩

/-- Steps one after another fail as the first one that fails. -/
theorem failsAtNumber_mapM_iff {f : β → Except DeclarationFault α} {l : List β} : FailsAtNumber (l.mapM f) ↔
    ∃ before b after, l = before ++ b :: after ∧ (∀ x ∈ before, ∃ a, f x = .ok a) ∧ FailsAtNumber (f b) := by
  simp only [FailsAtNumber, mapM_eq_error_iff]
  constructor
  · rintro ⟨problem, before, b, after, hl, hbefore, hb⟩
    exact ⟨before, b, after, hl, hbefore, problem, hb⟩
  · rintro ⟨before, b, after, hl, hbefore, problem, hb⟩
    exact ⟨problem, before, b, after, hl, hbefore, hb⟩

theorem not_failsAtNumber_ok (a : α) : ¬ FailsAtNumber (.ok a : Except DeclarationFault α) := nofun

theorem not_failsAtNumber_rejected (problem : DeclarationProblem) :
    ¬ FailsAtNumber (.error (.rejected problem) : Except DeclarationFault α) := nofun

end

/-- The text has one arrow, between these two texts. -/
structure OneArrow (s before behind : List Char) : Prop where
  text : s = before ++ '-' :: '>' :: behind
  before : ¬ HasArrow before
  behind : ¬ HasArrow behind

theorem splitArrows_eq_iff_oneArrow {s a b : List Char} : splitArrows s = [a, b] ↔ OneArrow s a b := by
  rw [splitArrows_eq_pair_iff]
  exact ⟨fun ⟨h, ha, hb⟩ => ⟨h.symm, ha, hb⟩, fun h => ⟨h.text.symm, h.before, h.behind⟩⟩

theorem OneArrow.unique {s a b a' b' : List Char} (h : OneArrow s a b) (h' : OneArrow s a' b') : a = a' ∧ b = b' := by
  have hsame : [a, b] = [a', b'] :=
    (splitArrows_eq_iff_oneArrow.mpr h).symm.trans (splitArrows_eq_iff_oneArrow.mpr h')
  cases hsame
  exact ⟨rfl, rfl⟩

/-- A text has one arrow, or it has none or more. -/
theorem exists_oneArrow_or (s : List Char) : (∃ a b, OneArrow s a b) ∨ ∀ a b, ¬ OneArrow s a b := by
  simp only [← not_exists]
  exact Classical.em _

/-! ## Virtual hosts -/

namespace VirtualHost

/-- A port that is let through and has no number: its characters look like digits, but one of them is no decimal
digit, or there are too many. -/
structure Deceptive (text : List Char) : Prop where
  ne_nil : text ≠ []
  looks : ∀ c ∈ text, isDigitLike c = true
  numberless : Number.maxDigits < text.length ∨ ∃ c ∈ text, digitValue? c = none

theorem deceptive_iff {text : List Char} :
    Deceptive text ↔ text ≠ [] ∧ (∀ c ∈ text, isDigitLike c = true) ∧ ¬ ValidPort text := by
  constructor
  · intro h
    refine ⟨h.ne_nil, h.looks, fun hvalid => ?_⟩
    rcases h.numberless with hlength | ⟨c, hc, hnone⟩
    · exact Nat.not_lt.mpr hvalid.length_le hlength
    · obtain ⟨d, hd⟩ := hvalid.digits c hc
      rw [hnone] at hd
      cases hd
  · rintro ⟨hne, hlooks, hvalid⟩
    refine ⟨hne, hlooks, ?_⟩
    by_contra hnumber
    simp only [not_or, Nat.not_lt, not_exists, not_and] at hnumber
    exact hvalid ⟨hne, hnumber.1, fun c hc => Option.ne_none_iff_exists'.mp (hnumber.2 c hc)⟩

theorem portText_of_deceptive {text : List Char} (h : Deceptive text) : PortText text := by
  refine ⟨h.ne_nil, fun hmem => ?_, fun hmem => ?_⟩
  · exact absurd (h.looks '/' hmem) (by decide)
  · exact absurd (h.looks ':' hmem) (by decide)

/-- The ports that are let through and have no number. -/
theorem readPort_failsAtNumber_iff {value : String} {text : List Char} :
    FailsAtNumber (readPort value text) ↔ Deceptive text := by
  have hread : (∃ n, readPort value text = .ok n) ↔ ValidPort text := by
    rw [← exists_numeral_iff]
    simp only [readPort_eq_ok_iff]
    exact ⟨fun ⟨_, n, _, h⟩ => ⟨n, h⟩, fun ⟨n, h⟩ => ⟨n, n, rfl, h⟩⟩
  rw [deceptive_iff, ← hread]
  unfold readPort
  split
  · next hrefused =>
    refine iff_of_false (not_failsAtNumber_rejected _) ?_
    rintro ⟨hne, hlooks, -⟩
    simp only [Bool.or_eq_true, List.isEmpty_iff, hne, false_or, Bool.not_eq_true',
      List.all_eq_false] at hrefused
    obtain ⟨c, hc, hlooksNot⟩ := hrefused
    exact hlooksNot (hlooks c hc)
  · next hlooks =>
    simp only [Bool.or_eq_true, Bool.not_eq_true', not_or, Bool.not_eq_false, List.all_eq_true,
      List.isEmpty_iff] at hlooks
    cases Number.readInteger (String.ofList text) with
    | ok n => exact iff_of_false (not_failsAtNumber_ok n) fun h => h.2.2 ⟨n, rfl⟩
    | error problem => exact iff_of_true ⟨problem, rfl⟩ ⟨hlooks.1, hlooks.2, nofun⟩

theorem readPort?_failsAtNumber_iff {value : String} {text : List Char} :
    FailsAtNumber (readPort? value text) ↔ Deceptive text := by
  unfold readPort?
  split
  · next hempty =>
    exact iff_of_false (not_failsAtNumber_ok _) fun h => h.ne_nil (List.isEmpty_iff.mp hempty)
  · rw [failsAtNumber_map_iff, readPort_failsAtNumber_iff]

theorem readOuter_failsAtNumber_iff {value : String} {text : List Char} : FailsAtNumber (readOuter value text) ↔
    ∃ scheme host port rest, text = Scheme.mark scheme ++ (host ++ ':' :: port ++ behind '/' rest) ∧
      Hostname host ∧ Deceptive port := by
  constructor
  · intro h
    obtain ⟨scheme, host, port, rest, rfl, hcolon, hslash, hread⟩ := outer_cases text
    rw [hread] at h
    split at h
    · exact absurd h (not_failsAtNumber_rejected _)
    · next hne =>
      cases port with
      | none => exact absurd h (not_failsAtNumber_ok _)
      | some port =>
        rw [failsAtNumber_map_iff, readPort_failsAtNumber_iff] at h
        exact ⟨scheme, host, port, rest, rfl, ⟨by simpa using hne, hcolon, hslash⟩, h⟩
  · rintro ⟨scheme, host, port, rest, rfl, hhost, hport⟩
    rw [readOuter_port value scheme hhost (portText_of_deceptive hport) rest, failsAtNumber_map_iff,
      readPort_failsAtNumber_iff]
    exact hport

theorem readAuthority_failsAtNumber_iff {value : String} {scheme text : List Char} {noPath : Option (List Char)} :
    FailsAtNumber (readAuthority value scheme text noPath) ↔ Deceptive (text.takeWhile (· ≠ '/')) := by
  obtain ⟨portText, rest, hcut⟩ : ∃ portText rest, cutAt '/' text = (portText, rest) := ⟨_, _, rfl⟩
  rw [takeWhile_of_cutAt hcut]
  unfold readAuthority
  simp only [hcut, failsAtNumber_map_iff, readPort?_failsAtNumber_iff]

theorem readInner_failsAtNumber_iff {value : String} {text : List Char} : FailsAtNumber (readInner value text) ↔
    ∃ rest, BehindColon text rest ∧ Deceptive (rest.takeWhile (· ≠ '/')) := by
  rcases inner_cases text with ⟨r, rfl⟩ | ⟨hcolon, hmark⟩ | ⟨scheme, host, r, rfl, hscheme, hhost⟩
  · simp only [behindColon_cons_iff, exists_eq_left, readInner_colon, readAuthority_failsAtNumber_iff]
  · rw [readInner_of_no_mark value hcolon hmark]
    refine iff_of_false (not_failsAtNumber_ok _) ?_
    rintro ⟨rest, h, -⟩
    rcases h.head?_or_hasMark with h | h
    · exact hcolon h
    · exact hmark h
  · simp only [behindColon_url_iff hscheme hhost, readInner_of_mark value hscheme hhost]
    cases r with
    | none => exact iff_of_false (not_failsAtNumber_ok _) nofun
    | some r => simp only [Option.elim_some, readAuthority_failsAtNumber_iff, Option.some.injEq, exists_eq_left']

/-- The text has these parts, and all is well with them up to a port that has no number. -/
structure Form.Deceives (f : Form) (value : String) : Prop where
  sides : ∃ main, value.toList = main ++ behind ';' f.extra ∧ ';' ∉ main ∧ SidesOf main f.outer f.inner
  host : Hostname f.host
  port : (∃ text, f.port = some text ∧ Deceptive text) ∨
    (∀ text, f.port = some text → ValidPort text) ∧
      ∃ rest, BehindColon f.inner rest ∧ Deceptive (rest.takeWhile (· ≠ '/'))

theorem read_eq (value : String) : read value =
    match sides? (cutAt ';' value.toList).1 with
    | none => .error (.rejected (.badVirtualHost value))
    | some (outerText, innerText) => readOuter value outerText >>= fun outer =>
        readInner value innerText >>= fun inner =>
          .ok (route outer inner (readExtras (cutAt ';' value.toList).2)) := rfl

theorem sides_failsAtNumber_iff {value : String} {outerText innerText : List Char} {extra : Option (List Char)} :
    (FailsAtNumber (readOuter value outerText >>= fun outer => readInner value innerText >>= fun inner =>
      .ok (route outer inner (readExtras extra)))) ↔
      FailsAtNumber (readOuter value outerText) ∨
        (∃ outer, OuterSays outerText outer) ∧ FailsAtNumber (readInner value innerText) := by
  rw [failsAtNumber_bind_iff]
  refine or_congr_right ?_
  simp only [failsAtNumber_bind_iff, not_failsAtNumber_ok, and_false, exists_false, or_false, readOuter_eq_ok_iff,
    exists_and_right]

/-- Reading ends at a port without a number if and only if the text has a form with such a port. -/
theorem failsAtNumber_iff {value : String} : FailsAtNumber (read value) ↔ ∃ f : Form, f.Deceives value := by
  rw [read_eq]
  obtain ⟨hvalue, hmain⟩ := cutAt_spec ';' value.toList
  constructor
  · intro h
    split at h
    · exact absurd h (not_failsAtNumber_rejected _)
    · next outerText innerText hsides =>
      rw [sides?_eq_some_iff] at hsides
      rcases sides_failsAtNumber_iff.mp h with houter | ⟨⟨outer, houter⟩, hinner⟩
      · obtain ⟨scheme, host, port, rest, rfl, hhost, hport⟩ := readOuter_failsAtNumber_iff.mp houter
        exact ⟨⟨scheme, host, some port, rest, innerText, (cutAt ';' value.toList).2⟩, ⟨_, hvalue, hmain, hsides⟩,
          hhost, .inl ⟨port, rfl, hport⟩⟩
      · obtain ⟨f, rfl, rfl, hextra, hhost, hport⟩ :=
          Form.exists_outer houter innerText (cutAt ';' value.toList).2
        refine ⟨f, ⟨_, ?_, hmain, hsides⟩, hhost, .inr ⟨hport, readInner_failsAtNumber_iff.mp hinner⟩⟩
        rw [hextra]
        exact hvalue
  · rintro ⟨f, ⟨main, hvalue, hmain, hsides⟩, hhost, hport⟩
    have hcut : cutAt ';' value.toList = (main, f.extra) := cutAt_eq_iff.mpr ⟨hvalue, hmain⟩
    rw [hcut]
    simp only [sides?_eq_some_iff.mpr hsides, sides_failsAtNumber_iff]
    rcases hport with ⟨text, htext, hdeceptive⟩ | ⟨hvalid, hinner⟩
    · refine .inl (readOuter_failsAtNumber_iff.mpr ⟨f.scheme, f.host, text, f.rest, ?_, hhost, hdeceptive⟩)
      rw [Form.outer, htext]
      rfl
    · obtain ⟨outer, houter, -⟩ := f.outerSays hhost hvalid
      exact .inr ⟨⟨outer, houter⟩, readInner_failsAtNumber_iff.mpr hinner⟩

theorem eq_badPort_of_readPort {value : String} {text : List Char} {problem : DeclarationProblem}
    (h : readPort value text = .error (.rejected problem)) : problem = .badPort value := by
  unfold readPort at h
  split at h
  · cases h
    rfl
  · cases hread : Number.readInteger (String.ofList text) with
    | ok n =>
      rw [hread] at h
      cases h
    | error e =>
      rw [hread] at h
      cases h

theorem eq_badPort_of_readAuthority {value : String} {scheme text : List Char} {noPath : Option (List Char)}
    {problem : DeclarationProblem} (h : readAuthority value scheme text noPath = .error (.rejected problem)) :
    problem = .badPort value := by
  unfold readAuthority readPort? at h
  rw [map_eq_error_iff] at h
  split at h
  · cases h
  · exact eq_badPort_of_readPort (map_eq_error_iff.mp h)

theorem of_readOuter_rejected {value : String} {text : List Char} {problem : DeclarationProblem}
    (h : readOuter value text = .error (.rejected problem)) :
    problem = .noHostname value ∨ problem = .badPort value := by
  obtain ⟨scheme, host, port, rest, -, -, -, hread⟩ := outer_cases text
  rw [hread] at h
  split at h
  · cases h
    exact .inl rfl
  · cases port with
    | none => cases h
    | some port => exact .inr (eq_badPort_of_readPort (map_eq_error_iff.mp h))

theorem eq_badPort_of_readInner {value : String} {text : List Char} {problem : DeclarationProblem}
    (h : readInner value text = .error (.rejected problem)) : problem = .badPort value := by
  rcases inner_cases text with ⟨r, rfl⟩ | ⟨hcolon, hmark⟩ | ⟨scheme, host, r, rfl, hscheme, hhost⟩
  · rw [readInner_colon] at h
    exact eq_badPort_of_readAuthority h
  · rw [readInner_of_no_mark value hcolon hmark] at h
    cases h
  · rw [readInner_of_mark value hscheme hhost] at h
    cases r with
    | none => cases h
    | some r => exact eq_badPort_of_readAuthority h

/-- A rejection of a virtual host names its text. -/
theorem of_read_rejected {value : String} {problem : DeclarationProblem}
    (h : read value = .error (.rejected problem)) :
    problem = .badVirtualHost value ∨ problem = .noHostname value ∨ problem = .badPort value := by
  rw [read_eq] at h
  split at h
  · cases h
    exact .inl rfl
  · rcases bind_eq_error_iff.mp h with houter | ⟨outer, -, hinner⟩
    · exact .inr (of_readOuter_rejected houter)
    · rcases bind_eq_error_iff.mp hinner with hinner | ⟨inner, -, hroute⟩
      · exact .inr (.inr (eq_badPort_of_readInner hinner))
      · cases hroute

end VirtualHost

/-! ## Redirects -/

namespace Redirect

/-- Why a redirect is rejected: without its blanks it has not one arrow with something behind it, or no source. -/
inductive Rejects (value : String) : DeclarationProblem → Prop
  | sides (h : ∀ sources target, OneArrow (dropBlanks value.toList) sources target → target = []) :
    Rejects value (.badRedirect value)
  | sources {sources target : List Char} (h : OneArrow (dropBlanks value.toList) sources target)
    (htarget : target ≠ []) (hcommas : ∀ c ∈ sources, c = ',') : Rejects value (.redirectWithoutSource value)

/-- Between separators alone there is nothing. -/
theorem filter_splitOn_eq_nil_iff {sep : Char} {s : List Char} :
    (splitOn sep s).filter (fun p => !p.isEmpty) = [] ↔ ∀ c ∈ s, c = sep := by
  induction s with
  | nil => simp [splitOn]
  | cons c r ih =>
    obtain ⟨p, ps, hps⟩ := List.exists_cons_of_ne_nil (splitOn_ne_nil sep r)
    rw [splitOn, List.forall_mem_cons]
    by_cases hc : c = sep
    · simpa [hc] using ih
    · simp [hc, hps]

theorem read_of_oneArrow {value : String} {sources target : List Char}
    (h : OneArrow (dropBlanks value.toList) sources target) : read value =
      if target.isEmpty then .error (.badRedirect value)
      else if ((splitOn ',' sources).filter fun s => !s.isEmpty).isEmpty then .error (.redirectWithoutSource value)
      else .ok ⟨((splitOn ',' sources).filter fun s => !s.isEmpty).map String.ofList, String.ofList target⟩ := by
  rw [read, splitArrows_eq_iff_oneArrow.mpr h]

theorem read_of_not_oneArrow {value : String}
    (h : ∀ sources target, ¬ OneArrow (dropBlanks value.toList) sources target) :
    read value = .error (.badRedirect value) := by
  unfold read
  split
  · next sources target hsplit => exact absurd (splitArrows_eq_iff_oneArrow.mp hsplit) (h sources target)
  · rfl

theorem read_eq_error_iff {value : String} {problem : DeclarationProblem} :
    read value = .error problem ↔ Rejects value problem := by
  constructor
  · intro h
    rcases exists_oneArrow_or (dropBlanks value.toList) with ⟨sources, target, harrow⟩ | hnone
    · rw [read_of_oneArrow harrow] at h
      split at h
      · next htarget =>
        cases h
        refine .sides fun sources' target' harrow' => ?_
        obtain ⟨-, rfl⟩ := harrow.unique harrow'
        exact List.isEmpty_iff.mp htarget
      · next htarget =>
        split at h
        · next hsources =>
          cases h
          exact .sources harrow (by simpa using htarget) (filter_splitOn_eq_nil_iff.mp (List.isEmpty_iff.mp hsources))
        · cases h
    · rw [read_of_not_oneArrow hnone] at h
      cases h
      exact .sides fun sources target h => absurd h (hnone sources target)
  · rintro (hsides | ⟨harrow, htarget, hcommas⟩)
    · rcases exists_oneArrow_or (dropBlanks value.toList) with ⟨sources, target, harrow⟩ | hnone
      · rw [read_of_oneArrow harrow, if_pos (List.isEmpty_iff.mpr (hsides sources target harrow))]
      · exact read_of_not_oneArrow hnone
    · rw [read_of_oneArrow harrow, if_neg (by simpa using htarget),
        if_pos (List.isEmpty_iff.mpr (filter_splitOn_eq_nil_iff.mpr hcommas))]

end Redirect

/-! ## Protected hosts -/

namespace BasicAuth

/-- Why a protected host is rejected: its text has not one arrow, or the trimmed credentials behind it not one
colon. -/
inductive Rejects (value : String) : DeclarationProblem → Prop
  | sides (h : ∀ target credentials, ¬ OneArrow value.toList target credentials) :
    Rejects value (.badBasicAuth value)
  | credentials {target credentials : List Char} (h : OneArrow value.toList target credentials)
    (hcolons : (trim credentials).count ':' ≠ 1) :
    Rejects value (.badCredentials (String.ofList (trim credentials)))

theorem read_of_not_oneArrow {value : String} (h : ∀ target credentials, ¬ OneArrow value.toList target credentials) :
    read value = .error (.badBasicAuth value) := by
  unfold read
  split
  · next target credentials hsplit => exact absurd (splitArrows_eq_iff_oneArrow.mp hsplit) (h target credentials)
  · rfl

theorem read_of_colons {value : String} {target credentials : List Char}
    (h : OneArrow value.toList target credentials) (hcolons : (trim credentials).count ':' ≠ 1) :
    read value = .error (.badCredentials (String.ofList (trim credentials))) := by
  unfold read
  rw [splitArrows_eq_iff_oneArrow.mpr h]
  dsimp only
  split
  · next username password hsplit =>
    have hlength := length_splitOn ':' (trim credentials)
    rw [hsplit] at hlength
    exact absurd (Nat.succ.inj hlength).symm hcolons
  · rfl

theorem exists_read_of_colon {value : String} {target credentials : List Char}
    (h : OneArrow value.toList target credentials) (hcolon : (trim credentials).count ':' = 1) :
    ∃ a, read value = .ok a := by
  obtain ⟨username, password, hsplit⟩ :
      ∃ username password, splitOn ':' (trim credentials) = [username, password] := by
    rw [← List.length_eq_two, length_splitOn, hcolon]
  exact ⟨_, read_eq_ok_iff.mpr ⟨target, credentials, _, _, username, password, splitArrows_eq_iff_oneArrow.mpr h, rfl,
    hsplit, rfl⟩⟩

theorem read_eq_error_iff {value : String} {problem : DeclarationProblem} :
    read value = .error problem ↔ Rejects value problem := by
  constructor
  · intro h
    rcases exists_oneArrow_or value.toList with ⟨target, credentials, harrow⟩ | hnone
    · by_cases hcolon : (trim credentials).count ':' = 1
      · obtain ⟨a, hread⟩ := exists_read_of_colon harrow hcolon
        rw [hread] at h
        cases h
      · rw [read_of_colons harrow hcolon] at h
        cases h
        exact .credentials harrow hcolon
    · rw [read_of_not_oneArrow hnone] at h
      cases h
      exact .sides hnone
  · rintro (hsides | ⟨harrow, hcolons⟩)
    · exact read_of_not_oneArrow hsides
    · exact read_of_colons harrow hcolons

end BasicAuth

/-! ## All declarations -/

namespace Variables

/-- **Which declarations are rejected.** A virtual host is read or rejected, and a rejection names its text, unless
it has a port that is let through and has no number. So are the virtual hosts of an environment, unless the first one
that is not read has such a port. Redirects and protected hosts are read, or rejected for what is wrong with them;
and the redirects of an environment are read, or the first one that is not read is rejected. -/
theorem declarations_settled_iff {env : Variables} (hdistinct : Distinct env) :
    (∀ value, Settled (VirtualHost.read value) ↔ ¬ ∃ f : VirtualHost.Form, f.Deceives value) ∧
    (∀ value problem, VirtualHost.read value = .error (.rejected problem) →
      problem = .badVirtualHost value ∨ problem = .noHostname value ∨ problem = .badPort value) ∧
    (∀ value problem, Redirect.read value = .error problem ↔ Redirect.Rejects value problem) ∧
    (∀ value problem, BasicAuth.read value = .error problem ↔ BasicAuth.Rejects value problem) ∧
    (∃ chosen, InOrder virtualHostWord env chosen ∧ (Settled (virtualHosts env) ↔
      ¬ ∃ before v after, chosen = before ++ v :: after ∧
        (∀ u ∈ before, ∃ rule, VirtualHost.read u.2 = .ok rule) ∧ ∃ f : VirtualHost.Form, f.Deceives v.2)) ∧
    ∃ chosen, InOrder redirectWord env chosen ∧ ∀ problem, redirects env = .error problem ↔
      ∃ before v after, chosen = before ++ v :: after ∧ (∀ u ∈ before, ∃ rule, Redirect.read u.2 = .ok rule) ∧
        Redirect.Rejects v.2 problem := by
  refine ⟨fun value => ?_, fun value problem h => VirtualHost.of_read_rejected h,
    fun value problem => Redirect.read_eq_error_iff, fun value problem => BasicAuth.read_eq_error_iff, ?_, ?_⟩
  · rw [settled_iff, VirtualHost.failsAtNumber_iff]
  · obtain ⟨chosen, horder, hdeclared⟩ := exists_inOrder hdistinct virtualHostWord
    refine ⟨chosen, horder, ?_⟩
    rw [settled_iff, virtualHosts, hdeclared, List.mapM_map, failsAtNumber_mapM_iff]
    simp only [Function.comp_apply, VirtualHost.failsAtNumber_iff]
  · obtain ⟨chosen, horder, hdeclared⟩ := exists_inOrder hdistinct redirectWord
    refine ⟨chosen, horder, fun problem => ?_⟩
    rw [redirects, hdeclared, List.mapM_map, mapM_eq_error_iff]
    simp only [Function.comp_apply, Redirect.read_eq_error_iff]

/-- A superscript for a port, under the lesser of two names. -/
def superscript : Variables := [("VIRTUAL_HOST2", "a.test"), ("VIRTUAL_HOST1", "example.com:²")]

/-- The superscript is let through, and has no number. -/
theorem declarations_settled_iff_superscript :
    Distinct superscript ∧
      VirtualHost.read "example.com:²" = .error (.number (.malformed 10 "'²'")) ∧
      ¬ Settled (VirtualHost.read "example.com:²") ∧ ¬ Settled (virtualHosts superscript) := by
  have hdistinct : Distinct superscript := by decide
  have horder : InOrder virtualHostWord superscript
      [("VIRTUAL_HOST1", "example.com:²"), ("VIRTUAL_HOST2", "a.test")] := by
    refine ⟨by decide, ?_⟩
    rintro ⟨name, value⟩
    have hone : Begins virtualHostWord "VIRTUAL_HOST1" := by decide
    have htwo : Begins virtualHostWord "VIRTUAL_HOST2" := by decide
    simp only [superscript, List.mem_cons, Prod.mk.injEq, List.not_mem_nil, or_false]
    grind
  have hdeceives : ∃ f : VirtualHost.Form, f.Deceives "example.com:²" := by
    refine ⟨⟨none, "example.com".toList, some ['²'], none, [], none⟩, ?_, ?_, .inl ⟨['²'], rfl, ?_⟩⟩
    · exact ⟨"example.com:²".toList, by decide, by decide, .one (by decide)⟩
    · exact ⟨by decide, by decide, by decide⟩
    · exact ⟨by decide, List.forall_mem_singleton.mpr (by decide), .inr ⟨'²', by decide, by decide⟩⟩
  obtain ⟨hread, -, -, -, ⟨chosen, hchosen, hvirtual⟩, -⟩ := declarations_settled_iff hdistinct
  obtain rfl := hchosen.unique horder
  refine ⟨hdistinct, by decide +kernel, fun h => (hread _).mp h hdeceives, fun h => hvirtual.mp h ?_⟩
  exact ⟨[], _, _, rfl, nofun, hdeceives⟩

end Variables

end ProxyTestbed
