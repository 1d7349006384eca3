import ProxyTestbed.Declaration.VirtualHost
import ProxyTestbed.Proofs.Act.Outcome
import ProxyTestbed.Proofs.Number.Digits
import ProxyTestbed.Proofs.Text.Blank
import ProxyTestbed.Proofs.Text.Pieces

/-!
# The two sides of a virtual host

What a side of a virtual host declaration says, as a relation between its text and what is read of it.
The relations are the two halves of

    [scheme://]host[:port][/path] -> [:port[/path] | /path | scheme://host[:port][/path]]

with everything else that is let through: a port may be missing after its colon on the inner side, a text
of no known form says nothing, and the scheme of the container may be any text that begins with no colon.

* `takeFrom?_eq_some_iff`: the schemes do not get in the way of each other.
* `readOuter_eq_ok_iff`, `readInner_eq_ok_iff`: a side is read if and only if it says something, and as
  what it says.
-/

namespace ProxyTestbed

open Text

namespace Scheme

/-- A scheme with its `://`; nothing for no scheme. -/
def mark : Option Scheme → List Char
  | none => []
  | some s => s.name.toList ++ [':', '/', '/']

theorem ofName?_name (s : Scheme) : ofName? s.name = some s := by
  cases s <;> rfl

theorem not_mem_name {s : Scheme} {c : Char} (hc : c.isAlpha = false) : c ∉ s.name.toList := by
  have halpha : s.name.toList.all Char.isAlpha = true := by
    cases s <;> decide
  intro hmem
  rw [List.all_eq_true.mp halpha c hmem] at hc
  cases hc

/-- No scheme with its `://` begins another one. -/
theorem takeFrom?_eq_some_iff {text r : List Char} {s : Scheme} :
    takeFrom? text = some (s, r) ↔ text = mark s ++ r := by
  constructor
  · intro h
    obtain ⟨s', _, hs'⟩ := List.exists_of_findSome?_eq_some h
    dsimp only at hs'
    split at hs'
    · next hstart =>
      obtain ⟨t, rfl⟩ := List.isPrefixOf_iff_prefix.mp hstart
      rw [List.drop_left] at hs'
      cases hs'
      rfl
    · cases hs'
  · rintro rfl
    cases s <;> rfl

/-- Behind a scheme its `://` comes first. -/
theorem cutAt_of_takeFrom? {text r : List Char} {s : Scheme} (h : takeFrom? text = some (s, r)) :
    cutAt '/' text = (s.name.toList ++ [':'], some ('/' :: r)) := by
  rw [takeFrom?_eq_some_iff] at h
  rw [cutAt_eq_iff, h]
  refine ⟨by simp [mark, behind], ?_⟩
  simpa using not_mem_name (by decide)

end Scheme

namespace VirtualHost

/-! ## Ports -/

/-- A port that may be left out, and the number that it says. -/
inductive PortSays : List Char → Option Int → Prop
  | nothing : PortSays [] none
  | numeral {text : List Char} {n : Nat} (h : Number.Numeral text n) : PortSays text (some n)

theorem readPort_eq_ok_iff {value : String} {text : List Char} {port : Int} :
    readPort value text = .ok port ↔ ∃ n : Nat, port = n ∧ Number.Numeral text n := by
  unfold readPort
  constructor
  · intro h
    split at h
    · cases h
    · next htext =>
      simp only [Bool.or_eq_true, Bool.not_eq_true', not_or, Bool.not_eq_false, List.all_eq_true] at htext
      exact Number.numeral_of_readInteger htext.2 (mapError_eq_ok_iff.mp h)
  · rintro ⟨n, rfl, h⟩
    have hdigits : text.all isDigitLike = true := List.all_eq_true.mpr fun c hc => h.isDigitLike hc
    rw [if_neg (by simpa [h.ne_nil] using hdigits), mapError_eq_ok_iff]
    exact h.readInteger

theorem readPort?_eq_ok_iff {value : String} {text : List Char} {port : Option Int} :
    readPort? value text = .ok port ↔ PortSays text port := by
  unfold readPort?
  constructor
  · intro h
    split at h
    · next htext =>
      cases h
      rw [List.isEmpty_iff.mp htext]
      exact .nothing
    · obtain ⟨_, hread, rfl⟩ := map_eq_ok_iff.mp h
      obtain ⟨n, rfl, hn⟩ := readPort_eq_ok_iff.mp hread
      exact .numeral hn
  · rintro (_ | @⟨_, n, h⟩)
    · rfl
    · rw [if_neg (by simpa using h.ne_nil), map_eq_ok_iff]
      exact ⟨n, readPort_eq_ok_iff.mpr ⟨n, rfl, h⟩, rfl⟩

theorem PortSays.not_mem {text : List Char} {port : Option Int} (h : PortSays text port) {c : Char}
    (hc : digitValue? c = none) : c ∉ text := by
  cases h with
  | nothing => exact List.not_mem_nil
  | numeral h => exact h.not_mem hc

/-! ## The outer side -/

/-- A host name that stands out from what follows it. -/
structure Hostname (host : List Char) : Prop where
  ne_nil : host ≠ []
  no_colon : ':' ∉ host
  no_slash : '/' ∉ host

/-- An outer side and what it says; with the port of its scheme where it names none. -/
inductive OuterSays : List Char → Outer → Prop
  | host (scheme : Option Scheme) {host : List Char} (hhost : Hostname host) (rest : Option (List Char)) :
    OuterSays (Scheme.mark scheme ++ (host ++ behind '/' rest))
      ⟨scheme.getD .http, host, (scheme.getD .http).port, '/' :: rest.getD []⟩
  | port (scheme : Option Scheme) {host : List Char} (hhost : Hostname host) {text : List Char} {n : Nat}
    (hport : Number.Numeral text n) (rest : Option (List Char)) :
    OuterSays (Scheme.mark scheme ++ (host ++ ':' :: text ++ behind '/' rest))
      ⟨scheme.getD .http, host, n, '/' :: rest.getD []⟩

/-- Without a scheme, a host and a port are not taken for one. -/
theorem takeFrom?_mark {scheme : Option Scheme} {hostPort : List Char} {rest : Option (List Char)}
    (hslash : '/' ∉ hostPort) (hlast : hostPort.getLast? ≠ some ':') :
    (Scheme.takeFrom? (Scheme.mark scheme ++ (hostPort ++ behind '/' rest))).getD
        (.http, Scheme.mark scheme ++ (hostPort ++ behind '/' rest)) =
      (scheme.getD .http, hostPort ++ behind '/' rest) := by
  cases scheme with
  | some s => rw [Scheme.takeFrom?_eq_some_iff.mpr rfl]; rfl
  | none =>
    cases htake : Scheme.takeFrom? (hostPort ++ behind '/' rest) with
    | none => simp [Scheme.mark, htake]
    | some x =>
      -- a scheme leaves a colon before the first slash
      have hcut := Scheme.cutAt_of_takeFrom? htake
      rw [cutAt_behind hslash] at hcut
      rw [(Prod.mk.inj hcut).1] at hlast
      simp at hlast

/-- A text behind the colon of a host that is taken for its port. -/
structure PortText (text : List Char) : Prop where
  ne_nil : text ≠ []
  no_slash : '/' ∉ text
  no_colon : ':' ∉ text

theorem portText_of_numeral {text : List Char} {n : Nat} (h : Number.Numeral text n) : PortText text :=
  ⟨h.ne_nil, h.not_mem (by decide), h.not_mem (by decide)⟩

/-- Behind a host a port is read, if anything stands there. -/
theorem readOuter_port (value : String) (scheme : Option Scheme) {host text : List Char} (hhost : Hostname host)
    (htext : PortText text) (rest : Option (List Char)) :
    readOuter value (Scheme.mark scheme ++ (host ++ ':' :: text ++ behind '/' rest)) =
      (readPort value text).map fun port => ⟨scheme.getD .http, host, port, '/' :: rest.getD []⟩ := by
  have hslash : '/' ∉ host ++ ':' :: text := by
    rw [List.mem_append, not_or]
    exact ⟨hhost.no_slash, List.not_mem_cons_of_ne_of_not_mem (by decide) htext.no_slash⟩
  have hlast : (host ++ ':' :: text).getLast? ≠ some ':' := by
    rw [List.append_cons, List.getLast?_append_of_ne_nil _ htext.ne_nil]
    exact fun h => htext.no_colon (List.mem_of_getLast? h)
  have hcolon : cutAt ':' (host ++ ':' :: text) = (host, some text) := cutAt_behind hhost.no_colon (some text)
  have hne : host.isEmpty = false := by simpa using hhost.ne_nil
  unfold readOuter
  simp only [takeFrom?_mark hslash hlast, cutAt_behind hslash, hcolon, hne]
  cases rest <;> rfl

theorem readOuter_of_says {value : String} {text : List Char} {outer : Outer} (h : OuterSays text outer) :
    readOuter value text = .ok outer := by
  cases h with
  | @host scheme host hhost rest =>
    have hlast : host.getLast? ≠ some ':' := fun h => hhost.no_colon (List.mem_of_getLast? h)
    have hcolon : cutAt ':' host = (host, none) := by simpa [behind] using cutAt_behind hhost.no_colon none
    have hne : host.isEmpty = false := by simpa using hhost.ne_nil
    unfold readOuter
    simp only [takeFrom?_mark hhost.no_slash hlast, cutAt_behind hhost.no_slash, hcolon, hne]
    cases rest <;> rfl
  | @port scheme host hhost text n hport rest =>
    rw [readOuter_port value scheme hhost (portText_of_numeral hport) rest, map_eq_ok_iff]
    exact ⟨n, readPort_eq_ok_iff.mpr ⟨n, rfl, hport⟩, rfl⟩

/-- What an outer side can be: only the host can be missing, and only the port can be wrong. -/
theorem outer_cases (text : List Char) :
    ∃ scheme host port rest, text = Scheme.mark scheme ++ (host ++ behind ':' port ++ behind '/' rest) ∧
      ':' ∉ host ∧ '/' ∉ host ∧ ∀ value, readOuter value text =
        if host.isEmpty then .error (.rejected (.noHostname value))
        else match port with
          | none => .ok ⟨scheme.getD .http, host, (scheme.getD .http).port, '/' :: rest.getD []⟩
          | some t => (readPort value t).map fun port => ⟨scheme.getD .http, host, port, '/' :: rest.getD []⟩ := by
  obtain ⟨scheme, body, hbody, rfl⟩ : ∃ scheme body,
      (Scheme.takeFrom? text).getD (.http, text) = (Option.getD scheme .http, body) ∧
        text = Scheme.mark scheme ++ body := by
    cases htake : Scheme.takeFrom? text with
    | none => exact ⟨none, text, rfl, rfl⟩
    | some x => exact ⟨some x.1, x.2, rfl, Scheme.takeFrom?_eq_some_iff.mp htake⟩
  obtain ⟨hostPort, rest, hslash⟩ : ∃ hostPort rest, cutAt '/' body = (hostPort, rest) := ⟨_, _, rfl⟩
  obtain ⟨host, port, hcolon⟩ : ∃ host port, cutAt ':' hostPort = (host, port) := ⟨_, _, rfl⟩
  obtain ⟨hbodyText, hnoSlash⟩ := cutAt_eq_iff.mp hslash
  obtain ⟨hhostPort, hnoColon⟩ := cutAt_eq_iff.mp hcolon
  rw [hhostPort, List.mem_append, not_or] at hnoSlash
  refine ⟨scheme, host, port, rest, by rw [hbodyText, hhostPort], hnoColon, hnoSlash.1, fun value => ?_⟩
  unfold readOuter
  simp only [hbody, hslash, hcolon]
  cases rest <;> cases port <;> rfl

theorem says_of_readOuter {value : String} {text : List Char} {outer : Outer}
    (h : readOuter value text = .ok outer) : OuterSays text outer := by
  obtain ⟨scheme, host, port, rest, rfl, hnoColon, hnoSlash, hread⟩ := outer_cases text
  rw [hread] at h
  split at h
  · cases h
  · next hne =>
    have hhost : Hostname host := ⟨by simpa using hne, hnoColon, hnoSlash⟩
    cases port with
    | none =>
      cases h
      simpa [behind] using OuterSays.host scheme hhost rest
    | some text =>
      obtain ⟨_, hport, rfl⟩ := map_eq_ok_iff.mp h
      obtain ⟨n, rfl, hnumeral⟩ := readPort_eq_ok_iff.mp hport
      simpa [behind] using OuterSays.port scheme hhost hnumeral rest

/-- An outer side is read if and only if it says something, and as what it says. -/
theorem readOuter_eq_ok_iff {value : String} {text : List Char} {outer : Outer} :
    readOuter value text = .ok outer ↔ OuterSays text outer :=
  ⟨says_of_readOuter, readOuter_of_says⟩

theorem OuterSays.unique {text : List Char} {outer outer' : Outer} (h : OuterSays text outer)
    (h' : OuterSays text outer') : outer = outer' := by
  have hread : readOuter "" text = .ok outer := readOuter_of_says h
  have hread' : readOuter "" text = .ok outer' := readOuter_of_says h'
  exact Except.ok.inj (hread.symm.trans hread')

/-! ## The inner side -/

theorem readAuthority_eq_ok_iff {value : String} {scheme text : List Char} {noPath : Option (List Char)}
    {inner : Inner} : readAuthority value scheme text noPath = .ok inner ↔
      ∃ portText port rest, text = portText ++ behind '/' rest ∧ PortSays portText port ∧
        inner = ⟨scheme, port, (rest.map ('/' :: ·)).or noPath⟩ := by
  obtain ⟨portText, rest, hcut⟩ : ∃ portText rest, cutAt '/' text = (portText, rest) := ⟨_, _, rfl⟩
  unfold readAuthority
  simp only [hcut, map_eq_ok_iff, readPort?_eq_ok_iff]
  constructor
  · rintro ⟨port, hport, rfl⟩
    refine ⟨portText, port, rest, (cutAt_eq_iff.mp hcut).1, hport, ?_⟩
    cases rest <;> rfl
  · rintro ⟨_, port, _, rfl, hport, rfl⟩
    rw [cutAt_behind (hport.not_mem (by decide))] at hcut
    cases hcut
    refine ⟨port, hport, ?_⟩
    cases rest <;> rfl

/-- The text holds a `://`. -/
def HasMark (s : List Char) : Prop :=
  [':', '/', '/'] <:+: s

instance (s : List Char) : Decidable (HasMark s) :=
  decidable_of_iff (occursIn [':', '/', '/'] s = true) (occursIn_iff (List.cons_ne_nil _ _))

/-- A text that is taken for the scheme of a URL when a `://` follows it. -/
structure UrlScheme (scheme : List Char) : Prop where
  ne_nil : scheme ≠ []
  no_first_colon : scheme.head? ≠ some ':'
  no_mark : ¬ HasMark scheme

theorem urlScheme_of_no_colon {scheme : List Char} (hne : scheme ≠ []) (h : ':' ∉ scheme) :
    UrlScheme scheme :=
  ⟨hne, fun hhead => h (List.mem_of_head? hhead), fun hmark => h (hmark.subset List.mem_cons_self)⟩

/-- An inner side and what it says. The host of a URL does not count; without a colon behind it, nothing
of the URL does but its scheme. -/
inductive InnerSays : List Char → Inner → Prop
  | nothing {text : List Char} (hcolon : text.head? ≠ some ':') (hslash : text.head? ≠ some '/')
    (hmark : ¬ HasMark text) : InnerSays text ⟨plainScheme, none, none⟩
  | port {text : List Char} {port : Option Int} (hport : PortSays text port) (rest : Option (List Char)) :
    InnerSays (':' :: (text ++ behind '/' rest)) ⟨plainScheme, port, some ('/' :: rest.getD [])⟩
  | path (rest : List Char) (hmark : ¬ HasMark ('/' :: rest)) :
    InnerSays ('/' :: rest) ⟨plainScheme, none, some ('/' :: rest)⟩
  | url {scheme : List Char} (hscheme : UrlScheme scheme) {host : List Char} (hhost : ':' ∉ host) :
    InnerSays (scheme ++ ':' :: '/' :: '/' :: host) ⟨scheme, none, none⟩
  | urlPort {scheme : List Char} (hscheme : UrlScheme scheme) {host : List Char} (hhost : ':' ∉ host)
    {text : List Char} {port : Option Int} (hport : PortSays text port) (rest : Option (List Char)) :
    InnerSays (scheme ++ ':' :: '/' :: '/' :: (host ++ ':' :: (text ++ behind '/' rest)))
      ⟨scheme, port, rest.map ('/' :: ·)⟩

theorem readInner_colon (value : String) (r : List Char) :
    readInner value (':' :: r) = readAuthority value plainScheme r (some ['/']) := by
  rw [readInner]

theorem readInner_of_no_mark (value : String) {text : List Char} (hcolon : text.head? ≠ some ':')
    (hmark : ¬ HasMark text) : readInner value text =
      .ok ⟨plainScheme, none, if text.head? = some '/' then some text else none⟩ := by
  rw [readInner, (cutAtText?_eq_none_iff (List.cons_ne_nil _ _)).mpr hmark]
  rintro r rfl
  exact hcolon rfl

theorem readInner_of_mark (value : String) {scheme host : List Char} (hscheme : UrlScheme scheme)
    (hhost : ':' ∉ host) (r : Option (List Char)) :
    readInner value (scheme ++ ':' :: '/' :: '/' :: (host ++ behind ':' r)) =
      r.elim (.ok ⟨scheme, none, none⟩) fun r => readAuthority value scheme r none := by
  rw [readInner, cutAtText?_eq_some_iff.mpr ⟨rfl, hscheme.no_mark⟩]
  · simp only [cutAt_behind hhost]
    cases r <;> rfl
  · intro r' h
    have hhead := congrArg List.head? h
    rw [List.head?_append_of_ne_nil scheme hscheme.ne_nil] at hhead
    exact hscheme.no_first_colon hhead

/-- What an inner side can be. -/
theorem inner_cases (text : List Char) :
    (∃ r, text = ':' :: r) ∨ (text.head? ≠ some ':' ∧ ¬ HasMark text) ∨
      ∃ scheme host r, text = scheme ++ ':' :: '/' :: '/' :: (host ++ behind ':' r) ∧
        UrlScheme scheme ∧ ':' ∉ host := by
  by_cases hcolon : text.head? = some ':'
  · exact .inl (List.head?_eq_some_iff.mp hcolon)
  · cases hcut : cutAtText? [':', '/', '/'] text with
    | none => exact .inr (.inl ⟨hcolon, (cutAtText?_eq_none_iff (List.cons_ne_nil _ _)).mp hcut⟩)
    | some x =>
      obtain ⟨scheme, body⟩ := x
      obtain ⟨rfl, hmark⟩ := cutAtText?_eq_some_iff.mp hcut
      obtain ⟨hbody, hhost⟩ := cutAt_spec ':' body
      -- a text that begins with `://` begins with a colon
      have hne : scheme ≠ [] := by
        rintro rfl
        exact hcolon rfl
      rw [List.head?_append_of_ne_nil scheme hne] at hcolon
      exact .inr (.inr ⟨scheme, _, _, congrArg (scheme ++ ':' :: '/' :: '/' :: ·) hbody,
        ⟨hne, hcolon, hmark⟩, hhost⟩)

theorem readInner_of_says {value : String} {text : List Char} {inner : Inner} (h : InnerSays text inner) :
    readInner value text = .ok inner := by
  cases h with
  | nothing hcolon hslash hmark => rw [readInner_of_no_mark value hcolon hmark, if_neg hslash]
  | port hport rest =>
    rw [readInner_colon, readAuthority_eq_ok_iff]
    refine ⟨_, _, rest, rfl, hport, ?_⟩
    cases rest <;> rfl
  | path rest hmark => rw [readInner_of_no_mark value (by simp) hmark, if_pos (by simp)]
  | @url scheme hscheme host hhost =>
    simpa [behind] using readInner_of_mark value hscheme hhost none
  | @urlPort scheme hscheme host hhost text port hport rest =>
    have hread := readInner_of_mark value hscheme hhost (some (text ++ behind '/' rest))
    rw [behind] at hread
    rw [hread, Option.elim_some, readAuthority_eq_ok_iff]
    exact ⟨text, port, rest, rfl, hport, by simp⟩

theorem says_of_readInner {value : String} {text : List Char} {inner : Inner}
    (h : readInner value text = .ok inner) : InnerSays text inner := by
  rcases inner_cases text with ⟨r, rfl⟩ | ⟨hcolon, hmark⟩ | ⟨scheme, host, r, rfl, hscheme, hhost⟩
  · rw [readInner_colon, readAuthority_eq_ok_iff] at h
    obtain ⟨portText, port, rest, rfl, hport, rfl⟩ := h
    have hsays := InnerSays.port hport rest
    cases rest <;> simpa using hsays
  · rw [readInner_of_no_mark value hcolon hmark] at h
    cases h
    by_cases hslash : text.head? = some '/'
    · rw [if_pos hslash]
      obtain ⟨rest, rfl⟩ := List.head?_eq_some_iff.mp hslash
      exact .path rest hmark
    · rw [if_neg hslash]
      exact .nothing hcolon hslash hmark
  · rw [readInner_of_mark value hscheme hhost] at h
    cases r with
    | none =>
      cases h
      simpa [behind] using InnerSays.url hscheme hhost
    | some r =>
      rw [Option.elim_some, readAuthority_eq_ok_iff] at h
      obtain ⟨portText, port, rest, rfl, hport, rfl⟩ := h
      simpa [behind] using InnerSays.urlPort hscheme hhost hport rest

/-- An inner side is read if and only if it says something, and as what it says. -/
theorem readInner_eq_ok_iff {value : String} {text : List Char} {inner : Inner} :
    readInner value text = .ok inner ↔ InnerSays text inner :=
  ⟨says_of_readInner, readInner_of_says⟩

theorem InnerSays.unique {text : List Char} {inner inner' : Inner} (h : InnerSays text inner)
    (h' : InnerSays text inner') : inner = inner' := by
  have hread : readInner "" text = .ok inner := readInner_of_says h
  have hread' : readInner "" text = .ok inner' := readInner_of_says h'
  exact Except.ok.inj (hread.symm.trans hread')

end VirtualHost

end ProxyTestbed
