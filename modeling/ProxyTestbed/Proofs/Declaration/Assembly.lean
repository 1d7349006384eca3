import ProxyTestbed.Proofs.Declaration.Path
import ProxyTestbed.Proofs.Declaration.Sides

/-!
# Declarations and their sides

How a virtual host declaration is put together of two sides and directives, and how it falls apart again.
The directives may hold anything but semicolons, since the first semicolon ends the sides; the sides must
not hold an arrow, and must not begin or end with a blank.

* `of_read`: the sides of whatever is read are such texts, and say what is read.
* `read_declaration`: a declaration of such sides is read as what the sides say.
* `write_eq`: what is built is a declaration of an outer side and the target.
* `outerSays_outerText`, `side_outerText`: the outer side that is built says what it is built from, and is
  such a text.
-/

namespace ProxyTestbed.VirtualHost

open Text

/-! ## Texts without separators -/

/-- The text holds neither a semicolon nor an arrow. -/
structure Plain (s : List Char) : Prop where
  no_semicolon : ';' ∉ s
  no_arrow : ¬ HasArrow s

/-- The text can stand on a side of the arrow. -/
structure Side (s : List Char) : Prop extends Plain s where
  trimmed : Trimmed s

theorem plain_of_not_mem {s : List Char} (hsemicolon : ';' ∉ s) (hdash : '-' ∉ s) : Plain s :=
  ⟨hsemicolon, fun h => hdash (h.subset List.mem_cons_self)⟩

theorem plain_nil : Plain [] :=
  plain_of_not_mem List.not_mem_nil List.not_mem_nil

theorem side_nil : Side [] :=
  ⟨plain_nil, trimmed_nil⟩

theorem Plain.within {s t : List Char} (h : Plain t) (hst : s <:+: t) : Plain s :=
  ⟨fun hmem => h.no_semicolon (hst.subset hmem), not_hasArrow_of_within h.no_arrow hst⟩

/-- No arrow is formed at a colon, a slash or a blank. -/
theorem Plain.append_cons {s t : List Char} (hs : Plain s) (ht : Plain t) {c : Char}
    (hc : c ∉ ['-', '>', ';']) : Plain (s ++ c :: t) := by
  simp only [List.mem_cons, List.not_mem_nil, or_false, not_or] at hc
  refine ⟨?_, ?_⟩
  · rw [List.mem_append, List.mem_cons, not_or, not_or]
    exact ⟨hs.no_semicolon, Ne.symm hc.2.2, ht.no_semicolon⟩
  · rw [hasArrow_append_cons hc.1 hc.2.1, not_or]
    exact ⟨hs.no_arrow, ht.no_arrow⟩

theorem Plain.cons {t : List Char} (ht : Plain t) {c : Char} (hc : c ∉ ['-', '>', ';']) : Plain (c :: t) :=
  plain_nil.append_cons ht hc

theorem Plain.append_behind {s : List Char} (hs : Plain s) {c : Char} (hc : c ∉ ['-', '>', ';'])
    {b : Option (List Char)} (hb : ∀ t, b = some t → Plain t) : Plain (s ++ behind c b) := by
  cases b with
  | none => simpa [behind] using hs
  | some t => exact hs.append_cons (hb t rfl) hc

theorem plain_numeral {text : List Char} {n : Nat} (h : Number.Numeral text n) : Plain text :=
  plain_of_not_mem (h.not_mem (by decide)) (h.not_mem (by decide))

/-! ## Directives -/

/-- The directives, trimmed, without the empty ones. -/
def kept (directives : List String) : List String :=
  ((directives.map fun d => trim d.toList).filter fun d => !d.isEmpty).map String.ofList

/-- What stands after the first semicolon, if there are directives. -/
def directivesText : List String → Option (List Char)
  | [] => none
  | d :: ds => some (joinWith [';'] ((d :: ds).map fun d => ' ' :: d.toList))

theorem toList_join_directives (directives : List String) :
    (String.join (directives.map fun d => "; " ++ d)).toList = behind ';' (directivesText directives) := by
  induction directives with
  | nil => rfl
  | cons d ds ih =>
    rw [String.toList_join] at ih ⊢
    rw [List.map_cons, List.flatMap_cons, ih]
    cases ds <;> simp [directivesText, behind, joinWith]

theorem readExtras_directivesText {directives : List String} (h : ∀ d ∈ directives, ';' ∉ d.toList) :
    readExtras (directivesText directives) = kept directives := by
  cases directives with
  | nil => rfl
  | cons d ds =>
    have hsplit : splitOn ';' (joinWith [';'] ((d :: ds).map fun d => ' ' :: d.toList)) =
        (d :: ds).map fun d => ' ' :: d.toList := by
      refine splitOn_eq_iff.mpr ⟨by simp, rfl, fun p hp => ?_⟩
      obtain ⟨e, he, rfl⟩ := List.mem_map.mp hp
      exact List.not_mem_cons_of_ne_of_not_mem (by decide) (h e he)
    rw [directivesText, readExtras, hsplit, List.map_map, kept]
    simp only [Function.comp_def, trim_cons_blank (c := ' ') (by decide)]

theorem of_mem_readExtras {text : Option (List Char)} {d : String} (h : d ∈ readExtras text) :
    Trimmed d.toList ∧ d ≠ "" ∧ ';' ∉ d.toList := by
  cases text with
  | none => cases h
  | some t =>
    obtain ⟨_, hmem, rfl⟩ := List.mem_map.mp h
    obtain ⟨hpiece, hne⟩ := List.mem_filter.mp hmem
    obtain ⟨p, hp, rfl⟩ := List.mem_map.mp hpiece
    rw [String.toList_ofList]
    refine ⟨trimmed_trim p, by simpa [← String.toList_inj] using hne, fun hsemicolon => ?_⟩
    exact not_mem_of_mem_splitOn hp ((trim_within p).subset hsemicolon)

/-- Directives that are read are left alone. -/
theorem kept_readExtras (text : Option (List Char)) : kept (readExtras text) = readExtras text := by
  have htrim : ((readExtras text).map fun d => trim d.toList) = (readExtras text).map String.toList :=
    List.map_congr_left fun d hd => trim_eq_self (of_mem_readExtras hd).1
  have hne : ((readExtras text).map String.toList).filter (fun d => !d.isEmpty) =
      (readExtras text).map String.toList := by
    rw [List.filter_eq_self]
    intro _ htext
    obtain ⟨d, hd, rfl⟩ := List.mem_map.mp htext
    simpa using (of_mem_readExtras hd).2.1
  rw [kept, htrim, hne, List.map_map]
  simp [Function.comp_def]

/-! ## Reading -/

/-- The declaration of two sides and directives. -/
def declaration (outerText innerText : List Char) (directives : List String) : List Char :=
  outerText ++ (if innerText = [] then [] else [' ', '-', '>', ' '] ++ innerText) ++
    behind ';' (directivesText directives)

/-- The route of two sides and directives. -/
def route (outer : Outer) (inner : Inner) (extras : List String) : VirtualHost where
  hostname := String.ofList outer.hostname
  scheme := outer.scheme
  serverPort := outer.port
  path := String.ofList (inner.path.getD outer.path)
  externalPath := String.ofList outer.path
  containerPort := inner.port
  containerScheme := String.ofList inner.scheme
  extras := extras

theorem read_eq_ok_iff {value : String} {r : VirtualHost} : read value = .ok r ↔
    ∃ outerText innerText outer inner,
      sides? (cutAt ';' value.toList).1 = some (outerText, innerText) ∧
        OuterSays outerText outer ∧ InnerSays innerText inner ∧
        r = route outer inner (readExtras (cutAt ';' value.toList).2) := by
  obtain ⟨main, extraText, hcut⟩ : ∃ main extraText, cutAt ';' value.toList = (main, extraText) :=
    ⟨_, _, rfl⟩
  unfold read
  simp only [hcut]
  cases hsides : sides? main with
  | none => simp
  | some sides =>
    obtain ⟨outerText, innerText⟩ := sides
    simp only [bind_eq_ok_iff, readOuter_eq_ok_iff, readInner_eq_ok_iff]
    constructor
    · rintro ⟨outer, houter, inner, hinner, h⟩
      cases h
      exact ⟨_, _, outer, inner, rfl, houter, hinner, rfl⟩
    · rintro ⟨_, _, outer, inner, hsome, houter, hinner, rfl⟩
      cases hsome
      exact ⟨outer, houter, inner, hinner, rfl⟩

/-- The sides of the text before the directives are sides. -/
theorem of_sides? {main outerText innerText : List Char} (hmain : ';' ∉ main)
    (h : sides? main = some (outerText, innerText)) : Side outerText ∧ Side innerText := by
  have hside {piece : List Char} (harrow : ¬ HasArrow piece) (hin : piece <:+: main) : Side (trim piece) := by
    have hplain : Plain piece := ⟨fun hmem => hmain (hin.subset hmem), harrow⟩
    exact ⟨hplain.within (trim_within piece), trimmed_trim piece⟩
  unfold sides? at h
  split at h
  · next outer hsplit =>
    cases h
    obtain ⟨rfl, harrow⟩ := splitArrows_eq_singleton_iff.mp hsplit
    exact ⟨hside harrow List.infix_rfl, side_nil⟩
  · next outer inner hsplit =>
    cases h
    obtain ⟨rfl, houter, hinner⟩ := splitArrows_eq_pair_iff.mp hsplit
    refine ⟨hside houter (List.prefix_append ..).isInfix, hside hinner ?_⟩
    exact ⟨outer ++ ['-', '>'], [], by simp⟩
  · cases h

theorem of_read {value : String} {r : VirtualHost} (h : read value = .ok r) :
    ∃ outerText innerText outer inner extraText, Side outerText ∧ Side innerText ∧
      OuterSays outerText outer ∧ InnerSays innerText inner ∧
      r = route outer inner (readExtras extraText) := by
  obtain ⟨outerText, innerText, outer, inner, hsides, houter, hinner, hr⟩ := read_eq_ok_iff.mp h
  obtain ⟨houterSide, hinnerSide⟩ := of_sides? (cutAt_spec ';' value.toList).2 hsides
  exact ⟨_, _, outer, inner, _, houterSide, hinnerSide, houter, hinner, hr⟩

/-- An arrow between blanks parts a text from a side. -/
theorem sides?_append {outside inside : List Char} (houtside : Plain outside) (hinside : Side inside) :
    sides? (outside ++ ([' ', '-', '>', ' '] ++ inside)) = some (trim outside, inside) := by
  have hsplit : splitArrows (outside ++ ([' ', '-', '>', ' '] ++ inside)) = [outside ++ [' '], ' ' :: inside] := by
    rw [splitArrows_eq_pair_iff, hasArrow_append_cons (by decide) (by decide), hasArrow_cons_of_ne (by decide)]
    exact ⟨by simp, not_or.mpr ⟨houtside.no_arrow, not_hasArrow_nil⟩, hinside.no_arrow⟩
  rw [sides?, hsplit]
  simp only [trim_concat_blank (c := ' ') (by decide), trim_cons_blank (c := ' ') (by decide),
    trim_eq_self hinside.trimmed]

theorem sides?_declaration {outerText innerText : List Char} (houter : Side outerText)
    (hinner : Side innerText) :
    sides? (outerText ++ if innerText = [] then [] else [' ', '-', '>', ' '] ++ innerText) =
      some (outerText, innerText) := by
  by_cases hnil : innerText = []
  · rw [if_pos hnil, List.append_nil, sides?, splitArrows_of_not_hasArrow houter.no_arrow, hnil]
    simp only [trim_eq_self houter.trimmed]
  · rw [if_neg hnil, sides?_append houter.toPlain hinner, trim_eq_self houter.trimmed]

/-- A declaration is read as what its sides say. -/
theorem read_declaration {outerText innerText : List Char} (houterSide : Side outerText)
    (hinnerSide : Side innerText) {outer : Outer} {inner : Inner} (houter : OuterSays outerText outer)
    (hinner : InnerSays innerText inner) {directives : List String}
    (hdirectives : ∀ d ∈ directives, ';' ∉ d.toList) :
    read (String.ofList (declaration outerText innerText directives)) =
      .ok (route outer inner (kept directives)) := by
  -- the sides hold no semicolon, so the first one belongs to the directives
  have hmain : ';' ∉ outerText ++ if innerText = [] then [] else [' ', '-', '>', ' '] ++ innerText := by
    split
    · simpa using houterSide.no_semicolon
    · simpa using ⟨houterSide.no_semicolon, hinnerSide.no_semicolon⟩
  rw [read_eq_ok_iff, String.toList_ofList, declaration, cutAt_behind hmain]
  refine ⟨outerText, innerText, outer, inner, sides?_declaration houterSide hinnerSide, houter, hinner, ?_⟩
  rw [readExtras_directivesText hdirectives]

/-! ## Building -/

/-- The port has a text. -/
def Writable (port : Option Nat) : Prop :=
  ∀ n, port = some n → (Nat.toDigits 10 n).length ≤ Number.maxDigits

theorem Writable.exists_numeral {port : Option Nat} (hport : Writable port) {text : List Char}
    (h : port.map (Nat.toDigits 10) = some text) : ∃ n, Number.Numeral text n := by
  obtain ⟨n, rfl, rfl⟩ := Option.map_eq_some_iff.mp h
  exact ⟨n, Number.numeral_toDigits (hport n rfl)⟩

/-- The outer side that is built; `rest` is what stands after the slash of a path. -/
def outerText (scheme : Option Scheme) (host : List Char) (port : Option Nat) (rest : Option (List Char)) :
    List Char :=
  Scheme.mark scheme ++ (host ++ behind ':' (port.map (Nat.toDigits 10)) ++ behind '/' rest)

section

variable {scheme : Option Scheme} {host : List Char} {port : Option Nat} {rest : Option (List Char)}

theorem schemeMark_name (scheme : Option Scheme) :
    schemeMark (scheme.map Scheme.name) = .ok (String.ofList (Scheme.mark scheme)) := by
  rcases scheme with _ | scheme
  · rfl
  · cases scheme <;> rfl

theorem portMark_natCast (hport : Writable port) :
    portMark (port.map Nat.cast) = .ok (String.ofList (behind ':' (port.map (Nat.toDigits 10)))) := by
  cases port with
  | none => rfl
  | some n =>
    rw [Option.map_some, portMark, Number.writeInteger_natCast (hport n rfl)]
    simp [Except.map, Except.mapError, behind]

theorem toList_targetMark (target : Option String) : (targetMark target).toList =
    if (target.getD "").toList = [] then [] else [' ', '-', '>', ' '] ++ (target.getD "").toList := by
  cases target with
  | none => rfl
  | some t =>
    by_cases ht : t = ""
    · simp [targetMark, ht]
    · simp [targetMark, ht]

/-- What is built is the declaration of an outer side and the target. -/
theorem write_eq (scheme : Option Scheme) (hport : Writable port) (host : String) (path target : Option String)
    (directives : List String) :
    write ⟨host, scheme.map Scheme.name, port.map Nat.cast, path, target, directives⟩ =
      .ok (String.ofList (declaration (outerText scheme host.toList port (afterSlash? path))
        (target.getD "").toList directives)) := by
  unfold write
  simp only [schemeMark_name, portMark_natCast hport, bind_eq_ok_iff]
  refine ⟨_, rfl, _, rfl, congrArg Except.ok ?_⟩
  rw [← String.toList_inj, String.toList_append, toList_join_directives]
  simp [declaration, outerText, toList_rooted, toList_targetMark]

theorem outerSays_outerText (scheme : Option Scheme) (hhost : Hostname host) (hport : Writable port)
    (rest : Option (List Char)) :
    OuterSays (outerText scheme host port rest)
      ⟨scheme.getD .http, host, (port.map Nat.cast).getD (scheme.getD .http).port, '/' :: rest.getD []⟩ := by
  unfold outerText
  cases port with
  | none => simpa [behind] using OuterSays.host scheme hhost rest
  | some n => exact .port scheme hhost (Number.numeral_toDigits (hport n rfl)) rest

theorem Plain.mark_append {s : List Char} (hs : Plain s) (scheme : Option Scheme) :
    Plain (Scheme.mark scheme ++ s) := by
  cases scheme with
  | none => exact hs
  | some scheme =>
    have hname : Plain scheme.name.toList :=
      plain_of_not_mem (Scheme.not_mem_name (by decide)) (Scheme.not_mem_name (by decide))
    have hslashes : Plain ('/' :: '/' :: s) := (hs.cons (by decide)).cons (by decide)
    simpa [Scheme.mark] using hname.append_cons hslashes (by decide)

theorem plain_outerText (hhost : Plain host) (hport : Writable port) (hrest : ∀ r, rest = some r → Plain r) :
    Plain (outerText scheme host port rest) := by
  have hportText : ∀ t, port.map (Nat.toDigits 10) = some t → Plain t := by
    intro t ht
    obtain ⟨n, hn⟩ := hport.exists_numeral ht
    exact plain_numeral hn
  have hhostPort := hhost.append_behind (c := ':') (by decide) hportText
  exact (hhostPort.append_behind (by decide) hrest).mark_append scheme

theorem noBlankFirst_outerText (hne : host ≠ []) (hfirst : scheme = none → NoBlankFirst host) :
    NoBlankFirst (outerText scheme host port rest) := by
  unfold outerText
  cases scheme with
  | none =>
    rw [Scheme.mark, List.nil_append, List.append_assoc]
    exact (hfirst rfl).append hne _
  | some s =>
    have hmark : NoBlankFirst (Scheme.mark s) ∧ Scheme.mark s ≠ [] := by
      cases s <;> decide
    exact hmark.1.append hmark.2 _

theorem noBlankLast_append_behind {s : List Char} {c : Char} (hc : isBlank c = false)
    {b : Option (List Char)} (hs : b = none → NoBlankLast s) (hb : ∀ t, b = some t → NoBlankLast t) :
    NoBlankLast (s ++ behind c b) := by
  cases b with
  | none => simpa [behind] using hs rfl
  | some t => exact ((hb t rfl).cons hc).append (List.cons_ne_nil c t) s

theorem noBlankLast_outerText (hne : host ≠ []) (hport : Writable port)
    (hlast : port = none → rest = none → NoBlankLast host) (hrest : ∀ r, rest = some r → NoBlankLast r) :
    NoBlankLast (outerText scheme host port rest) := by
  have hportText : ∀ t, port.map (Nat.toDigits 10) = some t → NoBlankLast t := by
    intro t ht
    obtain ⟨n, hn⟩ := hport.exists_numeral ht
    exact noBlankLast_of_forall fun c hc => hn.isBlank hc
  have hhostPort : rest = none → NoBlankLast (host ++ behind ':' (port.map (Nat.toDigits 10))) := by
    intro hnone
    refine noBlankLast_append_behind (by decide) (fun h => hlast ?_ hnone) hportText
    simpa using h
  have hbody := noBlankLast_append_behind (c := '/') (by decide) hhostPort hrest
  exact hbody.append (by simp [hne]) (Scheme.mark scheme)

/-- The outer side that is built can stand on its side of the arrow. A blank at the front of the host is
kept from the end of the side by a scheme, and one at its back by a port or a path. -/
theorem side_outerText (hhost : Plain host) (hne : host ≠ []) (hport : Writable port)
    (hfirst : scheme = none → NoBlankFirst host) (hlast : port = none → rest = none → NoBlankLast host)
    (hrest : ∀ r, rest = some r → Plain r ∧ NoBlankLast r) : Side (outerText scheme host port rest) where
  toPlain := plain_outerText hhost hport fun r hr => (hrest r hr).1
  trimmed := ⟨noBlankFirst_outerText hne hfirst,
    noBlankLast_outerText hne hport hlast fun r hr => (hrest r hr).2⟩

end

end ProxyTestbed.VirtualHost
