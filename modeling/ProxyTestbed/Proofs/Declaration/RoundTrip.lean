import ProxyTestbed.Proofs.Declaration.Assembly

/-!
# Virtual hosts that are read back

A declaration that is built is read as what its parts say, when no part holds a separator that would be
taken for one of the declaration. What a target says is the relation of inner sides.

* `read_write_route`: building and then reading gives the route of the parts.
-/

namespace ProxyTestbed.VirtualHost

open Text

/-- Parts that hold no separators but those of a target. -/
structure Parts.Readable (p : Parts) : Prop where
  host_name : Hostname p.host.toList
  host_side : Side p.host.toList
  scheme : ∀ s, p.scheme = some s → s ∈ Scheme.all.map Scheme.name
  port : ∀ n, p.port = some n → ∃ m : Nat, n = m ∧ (Nat.toDigits 10 m).length ≤ Number.maxDigits
  path : ∀ t, p.path = some t → Plain t.toList ∧ NoBlankLast t.toList
  target : Side (p.target.getD "").toList
  directives : ∀ d ∈ p.directives, ';' ∉ d.toList

/-- The route of parts with a target that says `inner`: with the plain scheme, the port of the scheme and
the root where nothing else is said, and with the path that is asked for where the target says none. -/
def Parts.route (p : Parts) (inner : Inner) : VirtualHost :=
  let scheme := (p.scheme.bind Scheme.ofName?).getD .http
  let externalPath := (namedPath p.path).getD "/"
  { hostname := p.host
    scheme := scheme
    serverPort := p.port.getD scheme.port
    path := (inner.path.map String.ofList).getD externalPath
    externalPath := externalPath
    containerPort := inner.port
    containerScheme := String.ofList inner.scheme
    extras := kept p.directives }

theorem getD_namedPath (path : Option String) :
    (namedPath path).getD "/" = String.ofList ('/' :: (afterSlash? path).getD []) := by
  rw [namedPath_eq]
  cases afterSlash? path <;> rfl

/-- Readable parts, with the scheme and the port taken out of their texts. -/
theorem Parts.Readable.exists_eq {p : Parts} (h : p.Readable) :
    ∃ (scheme : Option Scheme) (port : Option Nat), Writable port ∧
      p = ⟨p.host, scheme.map Scheme.name, port.map Nat.cast, p.path, p.target, p.directives⟩ := by
  obtain ⟨scheme, hscheme⟩ : ∃ scheme : Option Scheme, p.scheme = scheme.map Scheme.name := by
    cases hp : p.scheme with
    | none => exact ⟨none, rfl⟩
    | some s =>
      obtain ⟨scheme, _, rfl⟩ := List.mem_map.mp (h.scheme s hp)
      exact ⟨some scheme, rfl⟩
  obtain ⟨port, hwritable, hport⟩ : ∃ port : Option Nat, Writable port ∧ p.port = port.map Nat.cast := by
    cases hp : p.port with
    | none => exact ⟨none, by simp [Writable], rfl⟩
    | some n =>
      obtain ⟨m, rfl, hm⟩ := h.port n hp
      exact ⟨some m, by simpa [Writable] using hm, rfl⟩
  refine ⟨scheme, port, hwritable, ?_⟩
  rw [← hscheme, ← hport]

theorem route_eq (host : String) (scheme : Option Scheme) (port : Option Nat) (path target : Option String)
    (directives : List String) (inner : Inner) :
    Parts.route ⟨host, scheme.map Scheme.name, port.map Nat.cast, path, target, directives⟩ inner =
      route ⟨scheme.getD .http, host.toList, (port.map Nat.cast).getD (scheme.getD .http).port,
        '/' :: (afterSlash? path).getD []⟩ inner (kept directives) := by
  have hscheme : (scheme.map Scheme.name).bind Scheme.ofName? = scheme := by
    cases scheme with
    | none => rfl
    | some s => exact Scheme.ofName?_name s
  simp only [Parts.route, route, hscheme, getD_namedPath, String.ofList_toList]
  cases inner.path <;> rfl

/-- **Virtual hosts are read back.** Readable parts with a target that says `inner` are built, and read as
their route. A target is absent, or empty; or a colon with a port and a path, which may both be missing; or
a path without `://`; or a URL, of which the scheme, the port after the colon and the path count. -/
theorem read_write_route {p : Parts} (h : p.Readable) {inner : Inner}
    (htarget : InnerSays (p.target.getD "").toList inner) :
    ∃ text, write p = .ok text ∧ read text = .ok (p.route inner) := by
  obtain ⟨scheme, port, hport, hp⟩ := h.exists_eq
  -- a written path ends as the path does, whether its slash was added or not
  have hrest : ∀ r, afterSlash? p.path = some r → Plain r ∧ NoBlankLast r := by
    intro r hr
    obtain ⟨t, ht, hends⟩ := afterSlash?_ends hr
    exact ⟨(h.path t ht).1.within hends.isInfix, (h.path t ht).2.of_ends hends⟩
  have houterSide : Side (outerText scheme p.host.toList port (afterSlash? p.path)) :=
    side_outerText h.host_side.toPlain h.host_name.ne_nil hport (fun _ => h.host_side.trimmed.first)
      (fun _ _ => h.host_side.trimmed.last) hrest
  have houter := outerSays_outerText scheme h.host_name hport (afterSlash? p.path)
  have hread := read_declaration houterSide h.target houter htarget h.directives
  have hwrite := write_eq scheme hport p.host p.path p.target p.directives
  have hroute := route_eq p.host scheme port p.path p.target p.directives inner
  rw [← hp] at hwrite hroute
  rw [← hroute] at hread
  exact ⟨_, hwrite, hread⟩

/-- A host that ends in half an arrow, a path with a blank after its slash, a target with a port of another
script, and a directive with an arrow. -/
theorem read_write_route_dashes :
    let p : Parts := ⟨"> a-", some "wss", some 8443, some " x/-", some "cs://h:٣/y", ["d -> e", " "]⟩
    p.Readable ∧ InnerSays "cs://h:٣/y".toList ⟨"cs".toList, some 3, some "/y".toList⟩ ∧
      ∃ text, write p = .ok text ∧
        read text = .ok ⟨"> a-", .wss, 8443, "/y", "/ x/-", some 3, "cs", ["d -> e"]⟩ := by
  have hreadable : Parts.Readable
      ⟨"> a-", some "wss", some 8443, some " x/-", some "cs://h:٣/y", ["d -> e", " "]⟩ := by
    refine ⟨⟨by decide, by decide, by decide⟩, ⟨⟨by decide, by decide⟩, by decide⟩, ?_, ?_, ?_,
      ⟨⟨by decide, by decide⟩, by decide⟩, by decide⟩
    · rintro _ ⟨⟩
      decide
    · rintro _ ⟨⟩
      exact ⟨8443, rfl, by decide⟩
    · rintro _ ⟨⟩
      exact ⟨⟨by decide, by decide⟩, by decide⟩
  have hscheme : UrlScheme ['c', 's'] := urlScheme_of_no_colon (by decide) (by decide)
  have hhost : ':' ∉ ['h'] := by decide
  have hport : Number.Numeral ['٣'] 3 := ⟨by decide, by decide, [3], by decide, rfl⟩
  have htarget : InnerSays "cs://h:٣/y".toList ⟨"cs".toList, some 3, some "/y".toList⟩ :=
    .urlPort hscheme hhost (.numeral hport) (some ['y'])
  exact ⟨hreadable, htarget, read_write_route hreadable htarget⟩

end ProxyTestbed.VirtualHost
