import ProxyTestbed.Proofs.Declaration.Canonical
import ProxyTestbed.Proofs.Declaration.Grammar

/-!
# What is read of a target

A target that is a URL has a scheme, a host, maybe a port, and a path of its own. They are read from the first `://`
and from the first colon behind it, wherever these stand. With a port that colon is the one of the port, and all is
read as it stands. Without one the path is not looked at: the route keeps the path that is asked for, and a colon in
the path is taken for that of a port. In the same way a path with a `://` in it is taken for a URL.

* `read_append_iff`: what is read of a target behind an outer side.
* `Url.leads_iff`: when the parts of a URL are read.
* `target_heeded_iff`: when a URL, or a path, is read as what it is.
-/

namespace ProxyTestbed.VirtualHost

open Text

/-! ## A target behind an outer side -/

/-- Without a semicolon a text is read of its sides. -/
theorem read_of_no_semicolon {value : String} {r : VirtualHost} (h : ';' ∉ value.toList) : read value = .ok r ↔
    ∃ outerText innerText outer inner, sides? value.toList = some (outerText, innerText) ∧
      OuterSays outerText outer ∧ InnerSays innerText inner ∧ r = route outer inner [] := by
  have hcut : cutAt ';' value.toList = (value.toList, none) := cutAt_eq_iff.mpr ⟨by simp [behind], h⟩
  rw [read_eq_ok_iff, hcut]
  rfl

/-- Behind an outer side that is read, a target is read as what it says. -/
theorem read_append_iff {outside target : String} {r₀ r : VirtualHost} (houtside : Plain outside.toList)
    (htarget : Side target.toList) (h : read outside = .ok r₀) :
    read (outside ++ " -> " ++ target) = .ok r ↔
      ∃ inner, InnerSays target.toList inner ∧ r = route r₀.outer inner [] := by
  obtain ⟨outerText, innerText, outer, inner₀, hsides, houter, -, rfl⟩ :=
    (read_of_no_semicolon houtside.no_semicolon).mp h
  rw [sides?, splitArrows_of_not_hasArrow houtside.no_arrow] at hsides
  cases hsides
  have htext : (outside ++ " -> " ++ target).toList = outside.toList ++ ([' ', '-', '>', ' '] ++ target.toList) := by
    simp
  have hsemicolon : ';' ∉ (outside ++ " -> " ++ target).toList := by
    rw [htext]
    simpa using ⟨houtside.no_semicolon, htarget.no_semicolon⟩
  rw [read_of_no_semicolon hsemicolon, htext, sides?_append houtside htarget, outer_route]
  constructor
  · rintro ⟨_, _, outer', inner, hsides, houter', hinner, rfl⟩
    cases hsides
    obtain rfl : outer = outer' := houter.unique houter'
    exact ⟨inner, hinner, rfl⟩
  · rintro ⟨inner, hinner, rfl⟩
    exact ⟨_, _, outer, inner, rfl, houter, hinner, rfl⟩

/-! ## URLs -/

/-- The parts of a URL `scheme://host[:port]/rest`. -/
structure Url where
  scheme : List Char
  host : List Char
  port : Option (List Char)
  rest : List Char

namespace Url

def authority (u : Url) : List Char :=
  u.host ++ behind ':' u.port

def text (u : Url) : List Char :=
  u.scheme ++ ':' :: '/' :: '/' :: (u.authority ++ '/' :: u.rest)

/-- The scheme and the authority are not empty, and a port is written with decimal digits. -/
structure WellFormed (u : Url) : Prop where
  scheme_ne_nil : u.scheme ≠ []
  scheme_colon : ':' ∉ u.scheme
  scheme_slash : '/' ∉ u.scheme
  authority_ne_nil : u.authority ≠ []
  host_colon : ':' ∉ u.host
  host_slash : '/' ∉ u.host
  port : ∀ text, u.port = some text → text ≠ [] ∧ ∀ c ∈ text, ∃ d, digitValue? c = some d

/-- The number that a text of decimal digits writes. -/
def number (text : List Char) : Nat :=
  Number.ofDigits 10 (text.filterMap digitValue?)

/-- The route leads to the scheme, the port and the path of the URL. -/
structure Leads (u : Url) (r : VirtualHost) : Prop where
  scheme : r.containerScheme = String.ofList u.scheme
  port : r.containerPort = u.port.map fun text => (number text : Int)
  path : r.path = String.ofList ('/' :: u.rest)

/-- What makes a URL be read as it stands: a port of not too many digits; or else that its path is the one that is
asked for, and has no colon but at its end. -/
inductive Heeded (u : Url) (asked : String) : Prop
  | port {text : List Char} (h : u.port = some text) (hlength : text.length ≤ Number.maxDigits)
  | path (h : u.port = none) (hasked : asked = String.ofList ('/' :: u.rest)) (hcolon : ':' ∉ u.rest.dropLast)

theorem eq_number {text : List Char} {n : Nat} (h : Number.Numeral text n) : n = number text := by
  obtain ⟨ds, hds, rfl⟩ := h.digits
  have hfilter : (text.map digitValue?).filterMap id = text.filterMap digitValue? := List.filterMap_map
  rw [number, ← hfilter, hds, List.filterMap_map]
  simp

theorem leads_route_iff {u : Url} {outer : Outer} {inner : Inner} {extras : List String} :
    u.Leads (route outer inner extras) ↔ inner.scheme = u.scheme ∧
      inner.port = u.port.map (fun text => (number text : Int)) ∧ inner.path.getD outer.path = '/' :: u.rest := by
  constructor
  · rintro ⟨hscheme, hport, hpath⟩
    exact ⟨String.ofList_injective hscheme, hport, String.ofList_injective hpath⟩
  · rintro ⟨hscheme, hport, hpath⟩
    exact ⟨congrArg String.ofList hscheme, hport, congrArg String.ofList hpath⟩

section

variable {u : Url}

theorem WellFormed.urlScheme (h : u.WellFormed) : UrlScheme u.scheme :=
  urlScheme_of_no_colon h.scheme_ne_nil h.scheme_colon

/-- With a port the first colon behind the `://` is its own. -/
theorem text_of_port {text : List Char} (hport : u.port = some text) : u.text =
    u.scheme ++ ':' :: '/' :: '/' :: (u.host ++ ':' :: (text ++ '/' :: u.rest)) := by
  simp [Url.text, authority, hport, behind]

/-- Without a port the path follows the host. -/
theorem text_of_no_port (hport : u.port = none) : u.text =
    u.scheme ++ ':' :: '/' :: '/' :: (u.host ++ '/' :: u.rest) := by
  simp [Url.text, authority, hport, behind]

theorem innerSays_of_port (h : u.WellFormed) {text : List Char} (hport : u.port = some text)
    (hlength : text.length ≤ Number.maxDigits) :
    InnerSays u.text ⟨u.scheme, some (number text : Int), some ('/' :: u.rest)⟩ := by
  obtain ⟨hne, hdigits⟩ := h.port text hport
  obtain ⟨n, hn⟩ := exists_numeral_iff.mpr ⟨hne, hlength, hdigits⟩
  have hinner := InnerSays.urlPort h.urlScheme h.host_colon (.numeral hn) (some u.rest)
  rw [text_of_port hport, ← eq_number hn]
  simpa [behind] using hinner

/-- With a port of too many digits nothing is read. -/
theorem length_le_of_innerSays (h : u.WellFormed) {text : List Char} (hport : u.port = some text) {inner : Inner}
    (hinner : InnerSays u.text inner) : text.length ≤ Number.maxDigits := by
  obtain ⟨hne, hdigits⟩ := h.port text hport
  have hread : readInner "" u.text = .ok inner := readInner_of_says hinner
  have hform : InnerForm u.text := exists_readInner_iff.mp ⟨inner, hread⟩
  have hslash : '/' ∉ text := by
    intro hmem
    obtain ⟨d, hd⟩ := hdigits '/' hmem
    have hnone : digitValue? '/' = none := by decide
    rw [hnone] at hd
    cases hd
  have htake : (text ++ '/' :: u.rest).takeWhile (· ≠ '/') = text :=
    takeWhile_of_cutAt (cutAt_behind hslash (some u.rest))
  rw [text_of_port hport] at hform
  have hvalid := hform _ (.url h.urlScheme h.host_colon (text ++ '/' :: u.rest))
  rw [htake] at hvalid
  rcases hvalid with hnil | hvalid
  · exact absurd hnil hne
  · exact hvalid.length_le

/-- Without a port, and without a colon but at the end of the path, nothing but the scheme is read. -/
theorem innerSays_of_no_port (h : u.WellFormed) (hport : u.port = none) (hcolon : ':' ∉ u.rest.dropLast) :
    InnerSays u.text ⟨u.scheme, none, none⟩ := by
  rw [text_of_no_port hport]
  by_cases hrest : ':' ∈ u.rest
  · obtain ⟨a, b, hab, ha⟩ := List.eq_append_cons_of_mem hrest
    obtain rfl : b = [] := by
      cases b with
      | nil => rfl
      | cons c b =>
        rw [hab, List.dropLast_append_of_ne_nil (List.cons_ne_nil _ _)] at hcolon
        simp at hcolon
    have hbehind : ':' ∉ u.host ++ '/' :: a := by
      simpa using ⟨h.host_colon, ha⟩
    have hinner := InnerSays.urlPort h.urlScheme hbehind .nothing none
    rw [hab]
    simpa [behind] using hinner
  · have hbehind : ':' ∉ u.host ++ '/' :: u.rest := by
      simpa using ⟨h.host_colon, hrest⟩
    exact .url h.urlScheme hbehind

/-- Without a port, a colon in the path is taken for the one of a port. -/
theorem of_innerSays_of_colon (h : u.WellFormed) (hport : u.port = none) {a b : List Char}
    (hrest : u.rest = a ++ ':' :: b) (ha : ':' ∉ a) {inner : Inner} (hinner : InnerSays u.text inner) :
    ∃ portText port rest, b = portText ++ behind '/' rest ∧ PortSays portText port ∧
      inner = ⟨u.scheme, port, rest.map ('/' :: ·)⟩ := by
  have hbehind : ':' ∉ u.host ++ '/' :: a := by
    simpa using ⟨h.host_colon, ha⟩
  have htext : u.text = u.scheme ++ ':' :: '/' :: '/' :: (u.host ++ '/' :: a ++ behind ':' (some b)) := by
    rw [text_of_no_port hport, hrest]
    simp [behind]
  have hread : readInner "" u.text = .ok inner := readInner_of_says hinner
  rw [htext, readInner_of_mark "" h.urlScheme hbehind, Option.elim_some, readAuthority_eq_ok_iff] at hread
  simpa using hread

/-- Without a port the path is read only where it is the one that is asked for. -/
theorem heeded_of_no_port (h : u.WellFormed) (hport : u.port = none) {outer : Outer} {inner : Inner}
    (hinner : InnerSays u.text inner) (hleads : u.Leads (route outer inner [])) :
    u.Heeded (String.ofList outer.path) := by
  obtain ⟨-, hnone, hpath⟩ := leads_route_iff.mp hleads
  rw [hport, Option.map_none] at hnone
  by_cases hrest : ':' ∈ u.rest
  · obtain ⟨a, b, hab, ha⟩ := List.eq_append_cons_of_mem hrest
    obtain ⟨portText, port, rest, rfl, hsaysPort, rfl⟩ := of_innerSays_of_colon h hport hab ha hinner
    obtain rfl : port = none := hnone
    obtain rfl : portText = [] := by
      cases hsaysPort
      rfl
    cases rest with
    | none =>
      refine .path hport (congrArg String.ofList hpath) ?_
      simpa [hab, behind] using ha
    | some q =>
      -- what is read would be a path as long as a part of it
      have hlength := congrArg List.length hpath
      simp only [hab, Option.map_some, Option.getD_some, behind, List.nil_append, List.length_cons,
        List.length_append] at hlength
      omega
  · have hcolon : ':' ∉ u.rest.dropLast := fun hmem => hrest ((List.dropLast_sublist _).mem hmem)
    obtain rfl : inner = ⟨u.scheme, none, none⟩ := hinner.unique (innerSays_of_no_port h hport hcolon)
    exact .path hport (congrArg String.ofList hpath) hcolon

theorem leads_iff (h : u.WellFormed) {outer : Outer} :
    (∃ inner, InnerSays u.text inner ∧ u.Leads (route outer inner [])) ↔ u.Heeded (String.ofList outer.path) := by
  constructor
  · rintro ⟨inner, hinner, hleads⟩
    cases hport : u.port with
    | none => exact heeded_of_no_port h hport hinner hleads
    | some text => exact .port hport (length_le_of_innerSays h hport hinner)
  · rintro (⟨hport, hlength⟩ | ⟨hport, hasked, hcolon⟩)
    · refine ⟨_, innerSays_of_port h hport hlength, leads_route_iff.mpr ⟨rfl, ?_, rfl⟩⟩
      rw [hport, Option.map_some]
    · refine ⟨_, innerSays_of_no_port h hport hcolon, leads_route_iff.mpr ⟨rfl, ?_, String.ofList_injective hasked⟩⟩
      rw [hport, Option.map_none]

end

end Url

/-! ## Targets -/

/-- A path with a `://` is taken for a URL, and its scheme begins with the slash of the path. -/
theorem scheme_ne_of_slash {target : List Char} (hslash : target.head? = some '/') (hmark : HasMark target)
    {inner : Inner} (h : InnerSays target inner) : inner.scheme ≠ plainScheme := by
  have hhead {scheme : List Char} (hscheme : UrlScheme scheme) {rest : List Char}
      (hfirst : (scheme ++ rest).head? = some '/') : scheme ≠ plainScheme := by
    rw [List.head?_append_of_ne_nil _ hscheme.ne_nil] at hfirst
    rintro rfl
    exact absurd hfirst (by decide)
  cases h with
  | nothing _ hslash' => exact absurd hslash hslash'
  | port => exact absurd hslash (by simp)
  | path rest hmark' => exact absurd hmark hmark'
  | url hscheme => exact hhead hscheme hslash
  | urlPort hscheme => exact hhead hscheme hslash

/-- **When a target is read as what it is.** Behind an outer side that is read, a URL is read with its own scheme,
port and path if and only if it has a port of not too many digits, or has none and its path is the one that is asked
for, without a colon but at its end. A path is read as it stands, to the plain scheme and no port, if and only if it
has no `://`. -/
theorem target_heeded_iff {outside : String} {r₀ : VirtualHost} (houtside : Plain outside.toList)
    (hread : read outside = .ok r₀) :
    (∀ u : Url, u.WellFormed → Side u.text →
      ((∃ r, read (outside ++ " -> " ++ String.ofList u.text) = .ok r ∧ u.Leads r) ↔ u.Heeded r₀.externalPath)) ∧
    ∀ target : String, Side target.toList → target.toList.head? = some '/' →
      ((∃ r, read (outside ++ " -> " ++ target) = .ok r ∧ r.path = target ∧ r.containerPort = none ∧
        r.containerScheme = "http") ↔ ¬ HasMark target.toList) := by
  constructor
  · intro u hu hside
    have hasked : String.ofList r₀.outer.path = r₀.externalPath := String.ofList_toList
    rw [← hasked, ← Url.leads_iff hu]
    rw [← String.toList_ofList (l := u.text)] at hside
    simp only [read_append_iff houtside hside hread, String.toList_ofList]
    constructor
    · rintro ⟨_, ⟨inner, hinner, rfl⟩, hleads⟩
      exact ⟨inner, hinner, hleads⟩
    · rintro ⟨inner, hinner, hleads⟩
      exact ⟨_, ⟨inner, hinner, rfl⟩, hleads⟩
  · intro target hside hslash
    simp only [read_append_iff houtside hside hread]
    constructor
    · rintro ⟨_, ⟨inner, hinner, rfl⟩, -, -, hscheme⟩ hmark
      exact scheme_ne_of_slash hslash hmark hinner (String.ofList_injective hscheme)
    · intro hmark
      obtain ⟨rest, hrest⟩ := List.head?_eq_some_iff.mp hslash
      rw [hrest] at hmark ⊢
      refine ⟨_, ⟨_, .path rest hmark, rfl⟩, ?_, rfl, rfl⟩
      rw [← String.toList_inj, hrest]
      exact String.toList_ofList

/-- A URL without a port, whose path is not the one that is asked for; the same URL with a port, and a path with a
`://`. -/
theorem target_heeded_iff_portless :
    read "example.com" = .ok ⟨"example.com", .http, 80, "/", "/", none, "http", []⟩ ∧
    read "example.com -> http://backend/app" = .ok ⟨"example.com", .http, 80, "/", "/", none, "http", []⟩ ∧
    (¬ ∃ r, read "example.com -> http://backend/app" = .ok r ∧
      Url.Leads ⟨"http".toList, "backend".toList, none, "app".toList⟩ r) ∧
    (∃ r, read "example.com -> http://backend:3000/a:b" = .ok r ∧
      Url.Leads ⟨"http".toList, "backend".toList, some "3000".toList, "a:b".toList⟩ r) ∧
    ¬ ∃ r, read "example.com -> /to/x://y" = .ok r ∧ r.path = "/to/x://y" ∧ r.containerPort = none ∧
      r.containerScheme = "http" := by
  have hread : read "example.com" = .ok ⟨"example.com", .http, 80, "/", "/", none, "http", []⟩ := by decide +kernel
  have hplain : Plain "example.com".toList := ⟨by decide, by decide⟩
  obtain ⟨hurls, hpaths⟩ := target_heeded_iff hplain hread
  refine ⟨hread, by decide +kernel, fun h => ?_, ?_, fun h => ?_⟩
  · have hwellFormed : Url.WellFormed ⟨"http".toList, "backend".toList, none, "app".toList⟩ :=
      ⟨by decide, by decide, by decide, by decide, by decide, by decide, nofun⟩
    rcases (hurls _ hwellFormed ⟨⟨by decide, by decide⟩, by decide⟩).mp h with ⟨⟨⟩, -⟩ | ⟨-, hasked, -⟩
    exact absurd hasked (by decide)
  · have hwellFormed : Url.WellFormed ⟨"http".toList, "backend".toList, some "3000".toList, "a:b".toList⟩ := by
      refine ⟨by decide, by decide, by decide, by decide, by decide, by decide, ?_⟩
      have hdigits : ("3000".toList.all fun c => (digitValue? c).isSome) = true := by decide
      rintro _ ⟨⟩
      exact ⟨by decide, fun c hc => Option.isSome_iff_exists.mp (List.all_eq_true.mp hdigits c hc)⟩
    exact (hurls _ hwellFormed ⟨⟨by decide, by decide⟩, by decide⟩).mpr (.port rfl (by decide))
  · exact (hpaths "/to/x://y" ⟨⟨by decide, by decide⟩, by decide⟩ (by decide)).mp h (by decide)

end ProxyTestbed.VirtualHost
