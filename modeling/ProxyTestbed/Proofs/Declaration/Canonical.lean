import ProxyTestbed.Proofs.Declaration.Assembly

/-!
# The canonical declaration of a virtual host

Whatever text a virtual host is read of, with blanks between its parts, digits of any script and slashes,
dashes and angle brackets anywhere, the route that is read can be built again with all of its parts named,
and what is built is read as the same route. So the routes that can be read are known by their fields
alone.

* `legible_of_read`: what holds of the fields of a route that is read.
* `exists_read_iff`: nothing else does; a route with such fields is read of its canonical declaration.
* `read_write_canonical`: whatever is read has a canonical declaration.
-/

namespace ProxyTestbed.VirtualHost

open Text

/-- A path from the root whose text can stand at the end of a side. -/
def RootedPath (path : List Char) : Prop :=
  ∃ rest, path = '/' :: rest ∧ Plain rest ∧ NoBlankLast rest

/-- The scheme of a URL whose text can stand at the front of a side. -/
structure OpeningScheme (scheme : List Char) : Prop extends UrlScheme scheme, Plain scheme where
  first : NoBlankFirst scheme

/-- What holds of an outer side that is read. Its host may begin or end with a blank, next to a scheme or a
port. -/
structure Outer.Legible (outer : Outer) : Prop where
  hostname : Hostname outer.hostname
  hostname_plain : Plain outer.hostname
  port : ∃ n : Nat, outer.port = n ∧ Writable n
  path : RootedPath outer.path

/-- What holds of an inner side that is read. -/
structure Inner.Legible (inner : Inner) : Prop where
  scheme : OpeningScheme inner.scheme
  port : ∃ port : Option Nat, inner.port = port.map Nat.cast ∧ Writable port
  path : ∀ path, inner.path = some path → RootedPath path

def outer (r : VirtualHost) : Outer :=
  ⟨r.scheme, r.hostname.toList, r.serverPort, r.externalPath.toList⟩

def inner (r : VirtualHost) : Inner :=
  ⟨r.containerScheme.toList, r.containerPort, some r.path.toList⟩

theorem route_outer_inner (r : VirtualHost) : route r.outer r.inner r.extras = r := by
  simp [route, VirtualHost.outer, VirtualHost.inner]

theorem outer_route (outer : Outer) (inner : Inner) (extras : List String) :
    (route outer inner extras).outer = outer := by
  simp [VirtualHost.outer, route]

theorem inner_route (outer : Outer) (inner : Inner) (extras : List String) :
    (route outer inner extras).inner = { inner with path := some (inner.path.getD outer.path) } := by
  simp [VirtualHost.inner, route]

/-- What holds of a route that is read. -/
structure Legible (r : VirtualHost) : Prop where
  outer : r.outer.Legible
  inner : r.inner.Legible
  extras : ∀ d ∈ r.extras, ';' ∉ d.toList
  extras_kept : kept r.extras = r.extras

/-! ## The fields of what is read -/

theorem writable_of_numeral {text : List Char} {n : Nat} (h : Number.Numeral text n) : Writable n := by
  rintro _ ⟨⟩
  exact h.length_toDigits_le

theorem rootedPath_of_ends {text rest : List Char} (htext : Side text) (h : rest <:+ text) :
    RootedPath ('/' :: rest) :=
  ⟨rest, rfl, htext.toPlain.within h.isInfix, htext.trimmed.last.of_ends h⟩

theorem getD_ends (c : Char) (s : List Char) (b : Option (List Char)) : b.getD [] <:+ s ++ behind c b := by
  cases b with
  | none => exact List.nil_suffix
  | some t => exact ⟨s ++ [c], by simp [behind]⟩

theorem OuterSays.legible {text : List Char} {outer : Outer} (h : OuterSays text outer)
    (htext : Side text) : outer.Legible := by
  cases h with
  | @host scheme host hhost rest =>
    have hin : host <:+: Scheme.mark scheme ++ (host ++ behind '/' rest) :=
      ⟨Scheme.mark scheme, behind '/' rest, by simp⟩
    refine ⟨hhost, htext.toPlain.within hin, ⟨_, rfl, ?_⟩, rootedPath_of_ends htext ?_⟩
    · rintro _ ⟨⟩
      cases scheme.getD .http <;> decide
    · rw [← List.append_assoc]
      exact getD_ends '/' _ rest
  | @port scheme host hhost port n hport rest =>
    have hin : host <:+: Scheme.mark scheme ++ (host ++ ':' :: port ++ behind '/' rest) :=
      ⟨Scheme.mark scheme, ':' :: port ++ behind '/' rest, by simp⟩
    refine ⟨hhost, htext.toPlain.within hin, ⟨n, rfl, writable_of_numeral hport⟩, ?_⟩
    refine rootedPath_of_ends htext ?_
    rw [← List.append_assoc]
    exact getD_ends '/' _ rest

theorem PortSays.exists_writable {text : List Char} {port : Option Int} (h : PortSays text port) :
    ∃ n : Option Nat, port = n.map Nat.cast ∧ Writable n := by
  cases h with
  | nothing => exact ⟨none, rfl, by simp [Writable]⟩
  | @numeral _ n h => exact ⟨some n, rfl, writable_of_numeral h⟩

theorem openingScheme_plainScheme : OpeningScheme plainScheme where
  toUrlScheme := urlScheme_of_no_colon (by decide) (by decide)
  no_semicolon := by decide
  no_arrow := by decide
  first := by decide

theorem openingScheme_of_begins {text scheme : List Char} (htext : Side text) (hscheme : UrlScheme scheme)
    (h : scheme <+: text) : OpeningScheme scheme :=
  ⟨hscheme, htext.toPlain.within h.isInfix, htext.trimmed.first.of_begins h⟩

theorem InnerSays.legible {text : List Char} {inner : Inner} (h : InnerSays text inner)
    (htext : Side text) : inner.Legible := by
  cases h with
  | nothing => exact ⟨openingScheme_plainScheme, PortSays.nothing.exists_writable, nofun⟩
  | @port port _ hport rest =>
    refine ⟨openingScheme_plainScheme, hport.exists_writable, ?_⟩
    rintro _ ⟨⟩
    exact rootedPath_of_ends htext (getD_ends '/' (':' :: port) rest)
  | path rest =>
    refine ⟨openingScheme_plainScheme, PortSays.nothing.exists_writable, ?_⟩
    rintro _ ⟨⟩
    exact rootedPath_of_ends htext (List.suffix_cons '/' rest)
  | url hscheme =>
    exact ⟨openingScheme_of_begins htext hscheme (List.prefix_append ..),
      PortSays.nothing.exists_writable, nofun⟩
  | @urlPort scheme hscheme host _ port _ hport rest =>
    refine ⟨openingScheme_of_begins htext hscheme (List.prefix_append ..), hport.exists_writable, ?_⟩
    intro path hpath
    obtain ⟨r, rfl, rfl⟩ := Option.map_eq_some_iff.mp hpath
    have hbehind := getD_ends '/' (scheme ++ ':' :: '/' :: '/' :: (host ++ ':' :: port)) (some r)
    exact rootedPath_of_ends htext (by simpa using hbehind)

theorem legible_of_read {value : String} {r : VirtualHost} (h : read value = .ok r) : Legible r := by
  obtain ⟨outerText, innerText, outer, inner, extraText, houterSide, hinnerSide, houter, hinner, rfl⟩ :=
    of_read h
  have houterLegible := houter.legible houterSide
  have hinnerLegible := hinner.legible hinnerSide
  -- where the inner side says no path, the one that is asked for stands in, and has the same form
  have hpath : RootedPath (inner.path.getD outer.path) := by
    cases hp : inner.path with
    | none => exact houterLegible.path
    | some path => exact hinnerLegible.path path hp
  constructor
  · rw [outer_route]
    exact houterLegible
  · rw [inner_route]
    refine ⟨hinnerLegible.scheme, hinnerLegible.port, ?_⟩
    rintro _ ⟨⟩
    exact hpath
  · exact fun d hd => (of_mem_readExtras hd).2.2
  · exact kept_readExtras extraText

/-! ## The canonical declaration -/

/-- The text of a port of the container, if there is one. -/
def portText (port : Option Int) : String :=
  match port with
  | none => ""
  | some n => toString n

/-- The parts of a route with everything named; the host of the target does not count. -/
def canonical (r : VirtualHost) : Parts where
  host := r.hostname
  scheme := some r.scheme.name
  port := some r.serverPort
  path := some r.externalPath
  target := some (r.containerScheme ++ "://x:" ++ portText r.containerPort ++ r.path)
  directives := r.extras

theorem portSays_portText {port : Option Nat} (hport : Writable port) :
    PortSays (portText (port.map Nat.cast)).toList (port.map Nat.cast) := by
  cases port with
  | none => exact .nothing
  | some n =>
    rw [Option.map_some, portText, Number.toString_natCast, String.toList_ofList]
    exact .numeral (Number.numeral_toDigits (hport n rfl))

theorem afterSlash?_of_toList {path : String} {rest : List Char} (h : path.toList = '/' :: rest) :
    afterSlash? (some path) = some rest := by
  simp [afterSlash?, h]

theorem PortSays.plain {text : List Char} {port : Option Int} (h : PortSays text port) : Plain text :=
  plain_of_not_mem (h.not_mem (by decide)) (h.not_mem (by decide))

/-- The target of the canonical declaration is a side that says the inner one. -/
theorem Legible.target {r : VirtualHost} (h : Legible r) :
    Side ((canonical r).target.getD "").toList ∧ InnerSays ((canonical r).target.getD "").toList r.inner := by
  obtain ⟨port, hport, hwritable⟩ := h.inner.port
  obtain ⟨rest, hpath, hplain, hlast⟩ := h.inner.path _ rfl
  have hscheme : OpeningScheme r.containerScheme.toList := h.inner.scheme
  have hsays : PortSays (portText r.containerPort).toList r.containerPort := by
    have hcontainerPort : r.containerPort = port.map Nat.cast := hport
    rw [hcontainerPort]
    exact portSays_portText hwritable
  have htext : ((canonical r).target.getD "").toList = r.containerScheme.toList ++
      ':' :: '/' :: '/' :: 'x' :: ':' :: ((portText r.containerPort).toList ++ '/' :: rest) := by
    simp [canonical, hpath]
  rw [htext, VirtualHost.inner, hpath]
  refine ⟨⟨?_, ?_, ?_⟩, ?_⟩
  · have hbehind : Plain ((portText r.containerPort).toList ++ '/' :: rest) :=
      hsays.plain.append_cons hplain (by decide)
    have hauthority :
        Plain ('/' :: '/' :: 'x' :: ':' :: ((portText r.containerPort).toList ++ '/' :: rest)) :=
      (((hbehind.cons (by decide)).cons (by decide)).cons (by decide)).cons (by decide)
    exact hscheme.toPlain.append_cons hauthority (by decide)
  · exact hscheme.first.append hscheme.ne_nil _
  · have hend := (hlast.cons (c := '/') (by decide)).append (List.cons_ne_nil '/' rest)
      (r.containerScheme.toList ++ ':' :: '/' :: '/' :: 'x' :: ':' :: (portText r.containerPort).toList)
    simpa using hend
  · have hhost : ':' ∉ ['x'] := by decide
    exact .urlPort hscheme.toUrlScheme hhost hsays (some rest)

/-- A route with such fields is read of its canonical declaration. -/
theorem read_write_of_legible {r : VirtualHost} (h : Legible r) :
    ∃ text, write (canonical r) = .ok text ∧ read text = .ok r := by
  obtain ⟨n, hn, hport⟩ := h.outer.port
  obtain ⟨rest, hexternal, hplain, hlast⟩ := h.outer.path
  have hserverPort : r.serverPort = n := hn
  have hrest : afterSlash? (some r.externalPath) = some rest := afterSlash?_of_toList hexternal
  have hwrite := write_eq (some r.scheme) hport r.hostname (some r.externalPath) (canonical r).target
    r.extras
  have houter := outerSays_outerText (some r.scheme) h.outer.hostname hport (some rest)
  -- between a scheme and a port the blanks of the host are at no end of the side
  have houterSide : Side (outerText (some r.scheme) r.hostname.toList (some n) (some rest)) := by
    refine side_outerText h.outer.hostname_plain h.outer.hostname.ne_nil hport nofun nofun ?_
    rintro _ ⟨⟩
    exact ⟨hplain, hlast⟩
  have hread := read_declaration houterSide h.target.1 houter h.target.2 h.extras
  rw [hrest] at hwrite
  have hside : r.outer = ⟨r.scheme, r.hostname.toList, n, '/' :: rest⟩ := by
    rw [← hserverPort, ← hexternal]
    rfl
  have hroute : route r.outer r.inner (kept r.extras) = r := by
    rw [h.extras_kept, route_outer_inner]
  rw [hside] at hroute
  refine ⟨_, ?_, hread.trans (congrArg Except.ok hroute)⟩
  rw [← hwrite, canonical, hserverPort]
  rfl

/-- The routes that can be read are known by their fields. -/
theorem exists_read_iff {r : VirtualHost} : (∃ value, read value = .ok r) ↔ Legible r := by
  constructor
  · rintro ⟨value, h⟩
    exact legible_of_read h
  · intro h
    obtain ⟨text, _, hread⟩ := read_write_of_legible h
    exact ⟨text, hread⟩

/-- **What is read has a canonical declaration.** Whatever text a route is read of, the declaration that
names its scheme, host, port and path, and in its target the scheme, port and path of the container, is
built, and read as the same route. -/
theorem read_write_canonical {value : String} {r : VirtualHost} (h : read value = .ok r) :
    ∃ text, write (canonical r) = .ok text ∧ read text = .ok r :=
  read_write_of_legible (legible_of_read h)

/-- A text with a blank that is no space, a blank at the end of the host, digits of another script, a colon
and a slash in the scheme of the container, no port after its colon, and an arrow in a directive. -/
theorem read_write_canonical_odd :
    read "\u00a0ws://a >b :٣٤/x -> cs:/://y:/z; d->e ; " =
        .ok ⟨"a >b ", .ws, 34, "/z", "/x", none, "cs:/", ["d->e"]⟩ ∧
      ∃ text, write (canonical ⟨"a >b ", .ws, 34, "/z", "/x", none, "cs:/", ["d->e"]⟩) = .ok text ∧
        read text = .ok ⟨"a >b ", .ws, 34, "/z", "/x", none, "cs:/", ["d->e"]⟩ := by
  have hread : read "\u00a0ws://a >b :٣٤/x -> cs:/://y:/z; d->e ; " =
      .ok ⟨"a >b ", .ws, 34, "/z", "/x", none, "cs:/", ["d->e"]⟩ := by
    decide +kernel
  exact ⟨hread, read_write_canonical hread⟩

end ProxyTestbed.VirtualHost
