import ProxyTestbed.Proofs.Declaration.Assembly

/-!
# The grammar of virtual hosts

Which texts are read as a virtual host at all, and which of their parts count. Before the first semicolon
there is at most one arrow; the text before it is

    [scheme://]host[:port][/rest]

and in the text after it only a port can be wrong, behind the one colon that a port may follow. A form is a
choice of these parts; all forms that a text has agree on what is read of it.

* `exists_readInner_iff`: what can be wrong with an inner side.
* `read_accepts_iff`: a text is read if and only if it has a form, and as what the form says.
-/

namespace ProxyTestbed.VirtualHost

open Text

/-! ## Ports -/

/-- One or more decimal digits of any script, not too many. -/
structure ValidPort (text : List Char) : Prop where
  ne_nil : text ≠ []
  length_le : text.length ≤ Number.maxDigits
  digits : ∀ c ∈ text, ∃ d, digitValue? c = some d

theorem exists_numeral_iff {text : List Char} : (∃ n, Number.Numeral text n) ↔ ValidPort text := by
  constructor
  · rintro ⟨n, h⟩
    exact ⟨h.ne_nil, h.length_le, fun c hc => h.exists_digitValue? hc⟩
  · intro h
    obtain ⟨ds, hds⟩ : ∃ ds : List Nat, text.map digitValue? = ds.map some := by
      refine ⟨text.filterMap digitValue?, ?_⟩
      rw [List.map_filterMap_some_eq_filter_map_isSome, List.filter_eq_self.mpr]
      intro x hx
      obtain ⟨c, hc, rfl⟩ := List.mem_map.mp hx
      obtain ⟨d, hd⟩ := h.digits c hc
      rw [hd]
      rfl
    exact ⟨_, h.ne_nil, h.length_le, ds, hds, rfl⟩

/-- Nothing, or a port. -/
def ValidPort? (text : List Char) : Prop :=
  text = [] ∨ ValidPort text

theorem exists_portSays_iff {text : List Char} : (∃ port, PortSays text port) ↔ ValidPort? text := by
  rw [ValidPort?, ← exists_numeral_iff]
  constructor
  · rintro ⟨_, _ | h⟩
    · exact .inl rfl
    · exact .inr ⟨_, h⟩
  · rintro (rfl | ⟨n, h⟩)
    · exact ⟨none, .nothing⟩
    · exact ⟨some n, .numeral h⟩

/-! ## The inner side -/

/-- The text behind the colon that a port of the container may follow: the colon that the side begins with, or
else the first one after the first `://`. -/
inductive BehindColon : List Char → List Char → Prop
  | first (rest : List Char) : BehindColon (':' :: rest) rest
  | url {scheme : List Char} (hscheme : UrlScheme scheme) {host : List Char} (hhost : ':' ∉ host)
    (rest : List Char) : BehindColon (scheme ++ ':' :: '/' :: '/' :: (host ++ ':' :: rest)) rest

/-- Behind that colon there is no port or a valid one, up to a slash or the end. -/
def InnerForm (text : List Char) : Prop :=
  ∀ rest, BehindColon text rest → ValidPort? (rest.takeWhile (· ≠ '/'))

theorem takeWhile_of_cutAt {sep : Char} {s a : List Char} {b : Option (List Char)}
    (h : cutAt sep s = (a, b)) : s.takeWhile (· ≠ sep) = a := by
  obtain ⟨rfl, ha⟩ := cutAt_eq_iff.mp h
  have hall : ∀ c ∈ a, decide (c ≠ sep) = true := by
    rintro c hc
    exact decide_eq_true fun heq => ha (heq ▸ hc)
  rw [List.takeWhile_append_of_pos hall]
  cases b <;> simp [behind]

theorem behindColon_cons_iff {r rest : List Char} : BehindColon (':' :: r) rest ↔ rest = r := by
  constructor
  · intro h
    generalize htext : ':' :: r = text at h
    cases h with
    | first => exact (List.cons.inj htext).2.symm
    | url hscheme =>
      have hhead := congrArg List.head? htext
      rw [List.head?_append_of_ne_nil _ hscheme.ne_nil] at hhead
      exact absurd hhead.symm hscheme.no_first_colon
  · rintro rfl
    exact .first _

theorem BehindColon.head?_or_hasMark {text rest : List Char} (h : BehindColon text rest) :
    text.head? = some ':' ∨ HasMark text := by
  cases h with
  | first => exact .inl rfl
  | @url scheme _ host _ =>
    exact .inr ⟨scheme, host ++ ':' :: rest, by simp⟩

/-- The scheme of a URL and what it has before and behind its colon are the only ones. -/
theorem url_unique {scheme scheme' host host' : List Char} {rest rest' : Option (List Char)}
    (hscheme : UrlScheme scheme) (hhost : ':' ∉ host) (hscheme' : UrlScheme scheme') (hhost' : ':' ∉ host')
    (h : scheme ++ ':' :: '/' :: '/' :: (host ++ behind ':' rest) =
      scheme' ++ ':' :: '/' :: '/' :: (host' ++ behind ':' rest')) : rest = rest' := by
  have hcut : cutAtText? [':', '/', '/'] (scheme ++ ':' :: '/' :: '/' :: (host ++ behind ':' rest)) =
      some (scheme, host ++ behind ':' rest) := cutAtText?_eq_some_iff.mpr ⟨by simp, hscheme.no_mark⟩
  have hcut' : cutAtText? [':', '/', '/'] (scheme' ++ ':' :: '/' :: '/' :: (host' ++ behind ':' rest')) =
      some (scheme', host' ++ behind ':' rest') := cutAtText?_eq_some_iff.mpr ⟨by simp, hscheme'.no_mark⟩
  rw [h, hcut'] at hcut
  obtain ⟨_, hbody⟩ := Prod.mk.inj (Option.some.inj hcut)
  have hcolon := cutAt_behind hhost rest
  rw [← hbody, cutAt_behind hhost'] at hcolon
  exact (Prod.mk.inj hcolon).2.symm

theorem behindColon_url_iff {scheme host rest : List Char} {r : Option (List Char)}
    (hscheme : UrlScheme scheme) (hhost : ':' ∉ host) :
    BehindColon (scheme ++ ':' :: '/' :: '/' :: (host ++ behind ':' r)) rest ↔ r = some rest := by
  constructor
  · intro h
    generalize htext : scheme ++ ':' :: '/' :: '/' :: (host ++ behind ':' r) = text at h
    cases h with
    | first =>
      have hhead := congrArg List.head? htext
      rw [List.head?_append_of_ne_nil _ hscheme.ne_nil] at hhead
      exact absurd hhead hscheme.no_first_colon
    | url hscheme' hhost' => exact url_unique hscheme hhost hscheme' hhost' htext
  · rintro rfl
    exact .url hscheme hhost rest

theorem exists_readAuthority_iff {value : String} {scheme text : List Char} {noPath : Option (List Char)} :
    (∃ inner, readAuthority value scheme text noPath = .ok inner) ↔
      ValidPort? (text.takeWhile (· ≠ '/')) := by
  obtain ⟨portText, rest, hcut⟩ : ∃ portText rest, cutAt '/' text = (portText, rest) := ⟨_, _, rfl⟩
  rw [takeWhile_of_cutAt hcut, ← exists_portSays_iff]
  unfold readAuthority
  simp only [hcut, map_eq_ok_iff, readPort?_eq_ok_iff]
  constructor
  · rintro ⟨_, port, hport, _⟩
    exact ⟨port, hport⟩
  · rintro ⟨port, hport⟩
    exact ⟨_, port, hport, rfl⟩

/-- Only a port can be wrong with an inner side. -/
theorem exists_readInner_iff {value : String} {text : List Char} :
    (∃ inner, readInner value text = .ok inner) ↔ InnerForm text := by
  rcases inner_cases text with ⟨r, rfl⟩ | ⟨hcolon, hmark⟩ | ⟨scheme, host, r, rfl, hscheme, hhost⟩
  · simp only [InnerForm, behindColon_cons_iff, forall_eq, readInner_colon, exists_readAuthority_iff]
  · rw [readInner_of_no_mark value hcolon hmark]
    refine iff_of_true ⟨_, rfl⟩ fun rest h => ?_
    rcases h.head?_or_hasMark with h | h
    · exact absurd h hcolon
    · exact absurd h hmark
  · simp only [InnerForm, behindColon_url_iff hscheme hhost, readInner_of_mark value hscheme hhost]
    cases r with
    | none => exact iff_of_true ⟨_, rfl⟩ nofun
    | some r => simp only [Option.elim_some, exists_readAuthority_iff, Option.some.injEq, forall_eq']

/-! ## Forms -/

/-- The trimmed texts before and behind the arrow of a text, of which there is at most one; nothing stands
behind an arrow that is missing. -/
inductive SidesOf : List Char → List Char → List Char → Prop
  | one {main : List Char} (h : ¬ HasArrow main) : SidesOf main (trim main) []
  | two {outer inner : List Char} (houter : ¬ HasArrow outer) (hinner : ¬ HasArrow inner) :
    SidesOf (outer ++ '-' :: '>' :: inner) (trim outer) (trim inner)

theorem sides?_eq_some_iff {main outer inner : List Char} :
    sides? main = some (outer, inner) ↔ SidesOf main outer inner := by
  constructor
  · intro h
    unfold sides? at h
    split at h
    · next hsplit =>
      cases h
      obtain ⟨rfl, hmain⟩ := splitArrows_eq_singleton_iff.mp hsplit
      exact .one hmain
    · next hsplit =>
      cases h
      obtain ⟨rfl, houter, hinner⟩ := splitArrows_eq_pair_iff.mp hsplit
      exact .two houter hinner
    · cases h
  · rintro (h | ⟨houter, hinner⟩)
    · rw [sides?, splitArrows_eq_singleton_iff.mpr ⟨rfl, h⟩]
    · rw [sides?, splitArrows_eq_pair_iff.mpr ⟨rfl, houter, hinner⟩]

/-- The parts of a declaration. -/
structure Form where
  scheme : Option Scheme
  host : List Char
  port : Option (List Char)
  /-- What stands behind the slash of the outer side. -/
  rest : Option (List Char)
  inner : List Char
  /-- What stands behind the first semicolon. -/
  extra : Option (List Char)

namespace Form

/-- The outer side: `[scheme://]host[:port][/rest]`. -/
def outer (f : Form) : List Char :=
  Scheme.mark f.scheme ++ (f.host ++ behind ':' f.port ++ behind '/' f.rest)

/-- The text has this form. -/
structure Of (f : Form) (value : String) : Prop where
  sides : ∃ main, value.toList = main ++ behind ';' f.extra ∧ ';' ∉ main ∧ SidesOf main f.outer f.inner
  host : Hostname f.host
  port : ∀ text, f.port = some text → ValidPort text
  inner : InnerForm f.inner

/-- The route has the host, the scheme, the port, the path and the directives of the form; the plain scheme,
its port and the root where they are not named. -/
structure Fits (f : Form) (r : VirtualHost) : Prop where
  hostname : r.hostname = String.ofList f.host
  scheme : r.scheme = f.scheme.getD .http
  namedPort : ∀ text, f.port = some text → ∃ n : Nat, Number.Numeral text n ∧ r.serverPort = n
  usualPort : f.port = none → r.serverPort = r.scheme.port
  externalPath : r.externalPath = String.ofList ('/' :: f.rest.getD [])
  extras : r.extras =
    ((((f.extra.getD []).splitOn ';').map trim).filter (· ≠ [])).map String.ofList

theorem readExtras_eq (extra : Option (List Char)) : readExtras extra =
    ((((extra.getD []).splitOn ';').map trim).filter (· ≠ [])).map String.ofList := by
  cases extra with
  | none => rfl
  | some t =>
    rw [readExtras, splitOn_eq, Option.getD_some]
    congr 2
    funext d
    cases d <;> rfl

/-- The parts of an outer side are what it says. -/
theorem outerSays {f : Form} (hhost : Hostname f.host) (hport : ∀ text, f.port = some text → ValidPort text) :
    ∃ outer, OuterSays f.outer outer ∧ outer.hostname = f.host ∧ outer.scheme = f.scheme.getD .http ∧
      (∀ text, f.port = some text → ∃ n : Nat, Number.Numeral text n ∧ outer.port = n) ∧
      (f.port = none → outer.port = outer.scheme.port) ∧ outer.path = '/' :: f.rest.getD [] := by
  unfold Form.outer
  cases h : f.port with
  | none =>
    have hsays := OuterSays.host f.scheme hhost f.rest
    exact ⟨_, by simpa [behind] using hsays, rfl, rfl, by simp, fun _ => rfl, rfl⟩
  | some text =>
    obtain ⟨n, hn⟩ := exists_numeral_iff.mpr (hport text h)
    refine ⟨_, .port f.scheme hhost hn f.rest, rfl, rfl, fun port hport => ?_, by simp, rfl⟩
    obtain rfl : text = port := Option.some.inj hport
    exact ⟨n, hn, rfl⟩

/-- What an outer side says are its parts. -/
theorem exists_outer {text : List Char} {outer : Outer} (h : OuterSays text outer)
    (inner : List Char) (extra : Option (List Char)) :
    ∃ f : Form, f.outer = text ∧ f.inner = inner ∧ f.extra = extra ∧ Hostname f.host ∧
      ∀ port, f.port = some port → ValidPort port := by
  cases h with
  | host scheme hhost rest =>
    exact ⟨⟨scheme, _, none, rest, inner, extra⟩, by simp [Form.outer, behind], rfl, rfl, hhost, nofun⟩
  | port scheme hhost hport rest =>
    refine ⟨⟨scheme, _, some _, rest, inner, extra⟩, rfl, rfl, rfl, hhost, ?_⟩
    rintro _ ⟨⟩
    exact exists_numeral_iff.mp ⟨_, hport⟩

end Form

theorem Form.Of.exists_read {f : Form} {value : String} (h : f.Of value) : ∃ r, read value = .ok r := by
  obtain ⟨main, hvalue, hmain, hsides⟩ := h.sides
  obtain ⟨outer, houter, _⟩ := f.outerSays h.host h.port
  obtain ⟨inner, hinner⟩ : ∃ inner, readInner value f.inner = .ok inner := exists_readInner_iff.mpr h.inner
  have hcut : cutAt ';' value.toList = (main, f.extra) := cutAt_eq_iff.mpr ⟨hvalue, hmain⟩
  refine ⟨_, read_eq_ok_iff.mpr ⟨f.outer, f.inner, outer, inner, ?_, houter, ?_, rfl⟩⟩
  · rw [hcut]
    exact sides?_eq_some_iff.mpr hsides
  · exact readInner_eq_ok_iff.mp hinner

theorem exists_form_of_read {value : String} {r : VirtualHost} (h : read value = .ok r) :
    ∃ f : Form, f.Of value := by
  obtain ⟨outerText, innerText, outer, inner, hsides, houter, hinner, _⟩ := read_eq_ok_iff.mp h
  obtain ⟨hvalue, hmain⟩ := cutAt_spec ';' value.toList
  obtain ⟨f, rfl, rfl, hextra, hhost, hport⟩ :=
    Form.exists_outer houter innerText (cutAt ';' value.toList).2
  refine ⟨f, ⟨_, ?_, hmain, sides?_eq_some_iff.mp hsides⟩, hhost, hport, ?_⟩
  · rw [hextra]
    exact hvalue
  · have hread : readInner value f.inner = .ok inner := readInner_of_says hinner
    exact exists_readInner_iff.mp ⟨inner, hread⟩

theorem Form.Of.fits {f : Form} {value : String} {r : VirtualHost} (h : f.Of value)
    (hread : read value = .ok r) : f.Fits r := by
  obtain ⟨main, hvalue, hmain, hsides⟩ := h.sides
  obtain ⟨outer, houter, hhostname, hscheme, hnamed, husual, hpath⟩ := f.outerSays h.host h.port
  have hcut : cutAt ';' value.toList = (main, f.extra) := cutAt_eq_iff.mpr ⟨hvalue, hmain⟩
  obtain ⟨outerText, innerText, outer', inner, hsides', houter', _, rfl⟩ := read_eq_ok_iff.mp hread
  rw [hcut, sides?_eq_some_iff.mpr hsides] at hsides'
  cases hsides'
  obtain rfl : outer' = outer := houter'.unique houter
  rw [hcut]
  exact ⟨congrArg String.ofList hhostname, hscheme, hnamed, husual, congrArg String.ofList hpath,
    Form.readExtras_eq f.extra⟩

/-- **What is accepted as a virtual host, and what is read of it.** A text is read if and only if it has a
form: before the first semicolon there is at most one arrow, before the arrow `[scheme://]host[:port][/rest]`
with a host that is not empty and holds no colon and no slash and with a valid port, and after it a side in
which no port or a valid one stands behind the colon where one may stand. Whatever is read of it has the host,
the scheme, the port, the path and the directives of the form. -/
theorem read_accepts_iff (value : String) :
    ((∃ r, read value = .ok r) ↔ ∃ f : Form, f.Of value) ∧
      ∀ (f : Form) (r : VirtualHost), f.Of value → read value = .ok r → f.Fits r :=
  ⟨⟨fun ⟨_, h⟩ => exists_form_of_read h, fun ⟨_, h⟩ => h.exists_read⟩, fun _ _ h hread => h.fits hread⟩

end ProxyTestbed.VirtualHost
