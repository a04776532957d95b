import CrossAudit.Contract.Route
import CrossAudit.Http.Url
import CrossAudit.Proofs.Text.Pieces
import CrossAudit.Proofs.Text.Substitution
import Mathlib.Data.List.Forall2
import Mathlib.Data.List.TakeWhile

/-!
# Routes and request URLs meet

A server writes a route as segments, some of which are parameters in one of four spellings.  A
client writes a URL with an origin, a path some of whose segments are interpolations, and a suffix.
Each side has its own normal form; matching the two normal forms compares the segments as they were
meant, whatever the spelling.

Main results:

- Theorem `normalizeRoute_text`: the normal form of a route, segment by segment.
- Theorem `exists_normalizeUrl_text`: the normal form of a URL is its path, segment by segment, and
  a suffix.
- Theorem `isMatch_normalize_iff`: the normal forms match exactly if there are as many segments on
  both sides and each one of the route goes with its counterpart in the URL.
-/

namespace CrossAudit

/-! ## Texts up to a character -/

namespace Chars

section Stop

variable {p : Char → Bool} {cs rest : List Char} {c : Char}

/-- What passes a test is taken up to the first character that does not. -/
theorem takeWhile_append_stop (h : ∀ x ∈ cs, p x = true) (hc : p c = false) :
    (cs ++ c :: rest).takeWhile p = cs := by
  rw [List.takeWhile_append_of_pos h, List.takeWhile_cons, hc]
  simp

/-- What passes a test is dropped up to the first character that does not. -/
theorem dropWhile_append_stop (h : ∀ x ∈ cs, p x = true) (hc : p c = false) :
    (cs ++ c :: rest).dropWhile p = c :: rest := by
  rw [List.dropWhile_append_of_pos h, List.dropWhile_cons, hc]
  simp

end Stop

/-- A text without certain characters. -/
structure Without (marks : List Char) where
  chars : List Char
  free : ∀ c ∈ chars, c ∉ marks

/-- A text without marks has no character that is one. -/
theorem Without.ne_of_mem {marks : List Char} (t : Without marks) {c d : Char}
    (hc : c ∈ t.chars) (hd : d ∈ marks) : c ≠ d := by
  intro h
  exact t.free c hc (h ▸ hd)

/-- Going through a text tells whether it is without certain characters. -/
theorem free_of_all {marks chars : List Char}
    (h : chars.all (fun c => !marks.contains c) = true) : ∀ c ∈ chars, c ∉ marks := by
  intro c hc hmem
  have hfree := List.all_eq_true.1 h c hc
  simp [hmem] at hfree

end Chars

namespace Http

open Chars (Without Rewrites free_of_all)

/-! ## Routes as they are written -/

/-- The characters that cannot stand in a literal. -/
def literalMarks : List Char :=
  ['/', '?', '#', '<', '>', '\x7b', '\x7d', '$', ':']

/-- A text that stands for itself in a route and in a URL. -/
abbrev Literal := Without literalMarks

/-- The characters that cannot stand in a name. -/
def nameMarks : List Char :=
  ['/', '?', '#', '<', '>', '\x7b', '\x7d', ':']

/-- The name of a parameter or of a converter. -/
structure Name extends Without nameMarks where
  ne_nil : chars ≠ []

/-- A segment of a route: a literal, or a parameter in angle brackets, there perhaps with a
converter, in braces, or after a colon. -/
inductive RouteSegment where
  | literal (text : Literal)
  | angle (name : Name)
  | converted (converter name : Name)
  | braced (name : Name)
  | colon (name : Name)

namespace RouteSegment

/-- A segment as a server writes it. -/
def written : RouteSegment → List Char
  | .literal t => t.chars
  | .angle n => '<' :: (n.chars ++ ['>'])
  | .converted k n => '<' :: ((k.chars ++ ':' :: n.chars) ++ ['>'])
  | .braced n => '\x7b' :: (n.chars ++ ['\x7d'])
  | .colon n => ':' :: n.chars

/-- A segment in its common form. -/
def normal : RouteSegment → List Char
  | .literal t => t.chars
  | .angle n => '\x7b' :: (n.chars ++ ['\x7d'])
  | .converted _ n => '\x7b' :: (n.chars ++ ['\x7d'])
  | .braced n => '\x7b' :: (n.chars ++ ['\x7d'])
  | .colon n => ':' :: n.chars

end RouteSegment

/-- A route: one segment or several. -/
structure RouteTemplate where
  segments : List RouteSegment
  ne_nil : segments ≠ []

/-- A route as a server writes it. -/
def RouteTemplate.text (r : RouteTemplate) : String :=
  String.ofList (['/'].intercalate (r.segments.map RouteSegment.written))

/-! ## Request URLs as they are written -/

/-- The characters that cannot stand inside an interpolation. -/
def Interpolation.marks : Interpolation → List Char
  | .dollar => ['\x7d']
  | .braces => ['\x7b', '\x7d']

/-- What stands inside an interpolation. -/
abbrev Inside (style : Interpolation) := Without style.marks

/-- An interpolation as a client writes it. -/
def interpolated : (style : Interpolation) → Inside style → List Char
  | .dollar, e => '$' :: '\x7b' :: (e.chars ++ ['\x7d'])
  | .braces, e => '\x7b' :: (e.chars ++ ['\x7d'])

/-- A segment of a URL's path: a literal, or an interpolation. -/
inductive UrlSegment (style : Interpolation) where
  | literal (text : Literal)
  | computed (inside : Inside style)

namespace UrlSegment

variable {style : Interpolation}

/-- A segment as a client writes it. -/
def written : UrlSegment style → List Char
  | .literal t => t.chars
  | .computed e => interpolated style e

/-- A segment in its common form. -/
def normal : UrlSegment style → List Char
  | .literal t => t.chars
  | .computed _ => placeholder

/-- The segment without any characters. -/
def empty : UrlSegment style :=
  .literal ⟨[], by simp⟩

end UrlSegment

/-- The characters that cannot stand in a host. -/
def hostMarks : List Char :=
  ['/', '?', '#', '$', '\x7b', '\x7d']

/-- A scheme and a host. -/
structure Server where
  first : Char
  scheme : List Char
  host : Without hostMarks
  first_isAlpha : first.isAlpha = true
  scheme_chars : ∀ c ∈ scheme, isSchemeChar c = true
  host_ne_nil : host.chars ≠ []

/-- A server as a client writes it. -/
def Server.written (s : Server) : List Char :=
  s.first :: (s.scheme ++ ':' :: '/' :: '/' :: s.host.chars)

/-- What stands before the path of a URL: nothing, a server, or an interpolation. -/
inductive Origin (style : Interpolation) where
  | absent
  | server (s : Server)
  | computed (inside : Inside style)

namespace Origin

variable {style : Interpolation}

/-- An origin as a client writes it. -/
def written : Origin style → List Char
  | .absent => []
  | .server s => s.written
  | .computed e => interpolated style e

/-- An origin once interpolations are replaced. -/
def replaced : Origin style → List Char
  | .absent => []
  | .server s => s.written
  | .computed _ => placeholder

end Origin

/-- What stands behind the path of a URL. -/
inductive Suffix where
  | absent
  | query (text : List Char)
  | fragment (text : List Char)

/-- A suffix as a client writes it. -/
def Suffix.written : Suffix → List Char
  | .absent => []
  | .query t => '?' :: t
  | .fragment t => '#' :: t

/-- A request URL; its path starts with a slash, after which one segment or several stand. -/
structure RequestUrl (style : Interpolation) where
  origin : Origin style
  path : List (UrlSegment style)
  path_ne_nil : path ≠ []
  suffix : Suffix

namespace RequestUrl

variable {style : Interpolation}

/-- The segments of a URL's path; the first one is what stands before its first slash. -/
def segments (u : RequestUrl style) : List (UrlSegment style) :=
  .empty :: u.path

/-- A URL as a client writes it. -/
def text (u : RequestUrl style) : String :=
  String.ofList (u.origin.written ++
    (['/'].intercalate (u.segments.map UrlSegment.written) ++ u.suffix.written))

end RequestUrl

/-! ## Segments that go together -/

/-- A parameter goes with an interpolation and with a literal that is not empty, and a literal goes
with itself. -/
def Meets {style : Interpolation} : RouteSegment → UrlSegment style → Prop
  | .literal a, .literal b => a.chars = b.chars
  | .literal _, .computed _ => False
  | _, .literal b => b.chars ≠ []
  | _, .computed _ => True

/-! ## The normal form of a route -/

/-- A parameter in angle brackets starts with one. -/
theorem angleParameter_cons_of_ne {c : Char} (h : c ≠ '<') (rest : List Char) :
    angleParameter (c :: rest) = none := by
  unfold angleParameter
  split
  · rename_i heq
    exact absurd (List.cons.inj heq).1 h
  · rfl

/-- What stands between angle brackets is recognised as a whole. -/
theorem rewrites_angle {inside : List Char} (hne : inside ≠ [])
    (h : ∀ c ∈ inside, c ≠ '<' ∧ c ≠ '>') :
    Rewrites angleParameter ('<' :: (inside ++ ['>']))
      ('\x7b' :: (parameterName inside ++ ['\x7d'])) := by
  apply Rewrites.of_recognised (by simp)
  intro rest
  have htake : (inside ++ '>' :: rest).takeWhile (fun c => c != '<' && c != '>') = inside := by
    apply Chars.takeWhile_append_stop
    · intro c hc
      simpa using h c hc
    · decide
  simp only [List.cons_append, List.append_assoc, List.nil_append, angleParameter, htake]
  simp [hne]

namespace Name

/-- A name has no colon. -/
theorem ne_colon (n : Name) : ∀ c ∈ n.chars, (c != ':') = true := by
  intro c hc
  have hne : c ≠ ':' := n.ne_of_mem hc (by decide)
  simpa using hne

/-- A name has no angle brackets. -/
theorem ne_angles (n : Name) : ∀ c ∈ n.chars, c ≠ '<' ∧ c ≠ '>' := by
  intro c hc
  exact ⟨n.ne_of_mem hc (by decide), n.ne_of_mem hc (by decide)⟩

/-- A name without a converter is taken as a whole. -/
theorem parameterName_eq (n : Name) : parameterName n.chars = n.chars := by
  have hdrop : n.chars.dropWhile (· != ':') = [] := List.dropWhile_eq_nil_iff.2 n.ne_colon
  simp [parameterName, Chars.cut, hdrop]

/-- A converter is dropped. -/
theorem parameterName_converted (k n : Name) :
    parameterName (k.chars ++ ':' :: n.chars) = n.chars := by
  have htake : (k.chars ++ ':' :: n.chars).takeWhile (· != ':') = k.chars :=
    Chars.takeWhile_append_stop k.ne_colon (by decide)
  have hdrop : (k.chars ++ ':' :: n.chars).dropWhile (· != ':') = ':' :: n.chars :=
    Chars.dropWhile_append_stop k.ne_colon (by decide)
  simp [parameterName, Chars.cut, htake, hdrop, k.ne_nil, n.ne_nil]

/-- A name stays where no angle bracket opens. -/
theorem rewrites (n : Name) : Rewrites angleParameter n.chars n.chars := by
  apply Rewrites.plain
  intro c hc rest
  exact angleParameter_cons_of_ne (n.ne_angles c hc).1 rest

end Name

/-- A character other than an opening angle bracket stays. -/
theorem rewrites_single {c : Char} (h : c ≠ '<') : Rewrites angleParameter [c] [c] :=
  Rewrites.single (angleParameter_cons_of_ne h)

/-- Each segment of a route is rewritten into its common form. -/
theorem RouteSegment.rewrites (s : RouteSegment) :
    Rewrites angleParameter s.written s.normal := by
  cases s with
  | literal t =>
      apply Rewrites.plain
      intro c hc rest
      exact angleParameter_cons_of_ne (t.ne_of_mem hc (by decide)) rest
  | angle n =>
      have hangle := rewrites_angle n.ne_nil n.ne_angles
      rwa [n.parameterName_eq] at hangle
  | converted k n =>
      have hfree : ∀ c ∈ k.chars ++ ':' :: n.chars, c ≠ '<' ∧ c ≠ '>' := by
        intro c hc
        rcases List.mem_append.1 hc with hc | hc
        · exact k.ne_angles c hc
        · rcases List.mem_cons.1 hc with rfl | hc
          · decide
          · exact n.ne_angles c hc
      have hangle := rewrites_angle (by simp) hfree
      rwa [k.parameterName_converted n] at hangle
  | braced n =>
      have hopen : Rewrites angleParameter ['\x7b'] ['\x7b'] := rewrites_single (by decide)
      have hclose : Rewrites angleParameter ['\x7d'] ['\x7d'] := rewrites_single (by decide)
      exact hopen.append (n.rewrites.append hclose)
  | colon n =>
      have hcolon : Rewrites angleParameter [':'] [':'] := rewrites_single (by decide)
      exact hcolon.append n.rewrites

/-- The normal form of a route, segment by segment. -/
theorem normalizeRoute_text (r : RouteTemplate) :
    normalizeRoute r.text =
      String.ofList (['/'].intercalate (r.segments.map RouteSegment.normal)) := by
  have hslash : Rewrites angleParameter ['/'] ['/'] := rewrites_single (by decide)
  have hall := Rewrites.intercalate hslash fun s (_ : s ∈ r.segments) => s.rewrites
  simp only [normalizeRoute, RouteTemplate.text, String.toList_ofList, hall.substitute_eq]

/-! ## The normal form of a URL -/

section Url

variable {style : Interpolation}

/-- An interpolation starts with a dollar sign or a brace. -/
theorem interpolation_cons_of_ne {c : Char} (hdollar : c ≠ '$') (hbrace : c ≠ '\x7b')
    (rest : List Char) : interpolation style (c :: rest) = none := by
  unfold interpolation
  split
  · rename_i heq
    exact absurd (List.cons.inj heq).1 hdollar
  · rename_i heq
    exact absurd (List.cons.inj heq).1 hbrace
  · rfl

/-- A text without dollars and braces stays. -/
theorem rewrites_plain {cs : List Char} (h : ∀ c ∈ cs, c ≠ '$' ∧ c ≠ '\x7b') :
    Rewrites (interpolation style) cs cs := by
  apply Rewrites.plain
  intro c hc rest
  exact interpolation_cons_of_ne (h c hc).1 (h c hc).2 rest

/-- An interpolation is rewritten into the placeholder. -/
theorem rewrites_interpolated (e : Inside style) :
    Rewrites (interpolation style) (interpolated style e) placeholder := by
  cases style with
  | dollar =>
      apply Rewrites.of_recognised (by simp [interpolated])
      intro rest
      have htake : (e.chars ++ '\x7d' :: rest).takeWhile (· != '\x7d') = e.chars := by
        apply Chars.takeWhile_append_stop
        · intro c hc
          have hne : c ≠ '\x7d' := e.ne_of_mem hc (by decide)
          simpa using hne
        · decide
      simp [interpolated, interpolation, htake]
  | braces =>
      apply Rewrites.of_recognised (by simp [interpolated])
      intro rest
      have htake : (e.chars ++ '\x7d' :: rest).takeWhile
          (fun c => c != '\x7b' && c != '\x7d') = e.chars := by
        apply Chars.takeWhile_append_stop
        · intro c hc
          have hopen : c ≠ '\x7b' := e.ne_of_mem hc (by decide)
          have hclose : c ≠ '\x7d' := e.ne_of_mem hc (by decide)
          simp [hopen, hclose]
        · decide
      simp [interpolated, interpolation, htake]

/-- Each segment of a path is rewritten into its common form. -/
theorem UrlSegment.rewrites (s : UrlSegment style) :
    Rewrites (interpolation style) s.written s.normal := by
  cases s with
  | literal t =>
      apply rewrites_plain
      intro c hc
      exact ⟨t.ne_of_mem hc (by decide), t.ne_of_mem hc (by decide)⟩
  | computed e => exact rewrites_interpolated e

/-- The characters of a scheme start no interpolation. -/
theorem isSchemeChar_ne {c : Char} (h : isSchemeChar c = true) : c ≠ '$' ∧ c ≠ '\x7b' := by
  constructor
  · rintro rfl
    exact absurd h (by decide)
  · rintro rfl
    exact absurd h (by decide)

/-- Letters start no interpolation. -/
theorem isAlpha_ne {c : Char} (h : c.isAlpha = true) : c ≠ '$' ∧ c ≠ '\x7b' := by
  constructor
  · rintro rfl
    exact absurd h (by decide)
  · rintro rfl
    exact absurd h (by decide)

/-- A server holds no interpolation. -/
theorem Server.rewrites (s : Server) :
    Rewrites (interpolation style) s.written s.written := by
  apply rewrites_plain
  intro c hc
  simp only [Server.written, List.mem_cons, List.mem_append] at hc
  rcases hc with rfl | hc | rfl | rfl | rfl | hc
  · exact isAlpha_ne s.first_isAlpha
  · exact isSchemeChar_ne (s.scheme_chars c hc)
  · decide
  · decide
  · decide
  · exact ⟨s.host.ne_of_mem hc (by decide), s.host.ne_of_mem hc (by decide)⟩

/-- An origin is rewritten as a whole. -/
theorem Origin.rewrites (o : Origin style) :
    Rewrites (interpolation style) o.written o.replaced := by
  cases o with
  | absent => exact Rewrites.nil
  | server s => exact s.rewrites
  | computed e => exact rewrites_interpolated e

/-- A scheme and a host are dropped up to the slash behind them. -/
theorem Server.dropHost_append (s : Server) (rest : List Char) :
    dropHost (s.written ++ '/' :: rest) = '/' :: rest := by
  have hscheme : ((s.scheme ++ ':' :: '/' :: '/' :: (s.host.chars ++ '/' :: rest)).dropWhile
      isSchemeChar) = ':' :: '/' :: '/' :: (s.host.chars ++ '/' :: rest) :=
    Chars.dropWhile_append_stop s.scheme_chars (by decide)
  have hhost : ∀ c ∈ s.host.chars, (c != '/') = true := by
    intro c hc
    have hne : c ≠ '/' := s.host.ne_of_mem hc (by decide)
    simpa using hne
  have htake : (s.host.chars ++ '/' :: rest).takeWhile (· != '/') = s.host.chars :=
    Chars.takeWhile_append_stop hhost (by decide)
  have hdrop : (s.host.chars ++ '/' :: rest).dropWhile (· != '/') = '/' :: rest :=
    Chars.dropWhile_append_stop hhost (by decide)
  simp [Server.written, dropHost, s.first_isAlpha, hscheme, Chars.after?, htake, hdrop,
    s.host_ne_nil]

/-- Whatever the origin was, the path remains. -/
theorem rooted_dropPlaceholders_dropHost (o : Origin style) (rest : List Char) :
    rooted (dropPlaceholders (dropHost (o.replaced ++ '/' :: rest))) = '/' :: rest := by
  cases o with
  | absent => rfl
  | server s =>
      rw [Origin.replaced, s.dropHost_append]
      rfl
  | computed e => rfl

/-- A suffix is still one after interpolations in it are replaced. -/
theorem Suffix.exists_substitute (style : Interpolation) (s : Suffix) :
    ∃ s' : Suffix, Chars.substitute (interpolation style) s.written = s'.written := by
  cases s with
  | absent => exact ⟨.absent, rfl⟩
  | query t =>
      refine ⟨.query (Chars.substitute (interpolation style) t), ?_⟩
      exact Chars.substitute_cons_of_none
        (interpolation_cons_of_ne (by decide) (by decide) t)
  | fragment t =>
      refine ⟨.fragment (Chars.substitute (interpolation style) t), ?_⟩
      exact Chars.substitute_cons_of_none
        (interpolation_cons_of_ne (by decide) (by decide) t)

/-- The normal form of a URL is its path, segment by segment, and a suffix. -/
theorem exists_normalizeUrl_text (u : RequestUrl style) :
    ∃ s : Suffix, normalizeUrl style u.text =
      String.ofList (['/'].intercalate (u.segments.map UrlSegment.normal) ++ s.written) := by
  rcases u.suffix.exists_substitute style with ⟨s, hs⟩
  refine ⟨s, ?_⟩
  have hslash : Rewrites (interpolation style) ['/'] ['/'] :=
    rewrites_plain (by simp)
  have hpath := Rewrites.intercalate hslash fun p (_ : p ∈ u.segments) => p.rewrites
  have hrooted : ∃ rest, ['/'].intercalate (u.segments.map UrlSegment.normal) = '/' :: rest := by
    rcases hcons : u.path with _ | ⟨p, ps⟩
    · exact absurd hcons u.path_ne_nil
    · rw [RequestUrl.segments, hcons, List.map_cons, List.map_cons, List.intercalate_cons_cons]
      exact ⟨_, rfl⟩
  rcases hrooted with ⟨rest, hrest⟩
  simp only [normalizeUrl, RequestUrl.text, String.toList_ofList]
  rw [u.origin.rewrites, hpath, hs, hrest, List.cons_append, rooted_dropPlaceholders_dropHost]

end Url

/-! ## Matching the normal forms -/

/-- The characters at which a path is cut. -/
def cuts : List Char :=
  ['/', '?', '#']

/-- A segment of a normalized route holds no character that cuts one off. -/
theorem RouteSegment.normal_free (s : RouteSegment) : ∀ c ∈ s.normal, c ∉ cuts := by
  intro c hc hcut
  have hmarks : c ∈ literalMarks ∧ c ∈ nameMarks := by
    constructor
    · exact List.mem_of_mem_take (i := 3) hcut
    · exact List.mem_of_mem_take (i := 3) hcut
  have hbraces : c ≠ '\x7b' ∧ c ≠ '\x7d' ∧ c ≠ ':' := by
    refine ⟨?_, ?_, ?_⟩ <;> rintro rfl <;> exact absurd hcut (by decide)
  have hname : ∀ n : Name, c ∉ n.chars := fun n hmem => n.free c hmem hmarks.2
  cases s with
  | literal t => exact t.free c hc hmarks.1
  | angle n => simp [normal, hbraces, hname n] at hc
  | converted k n => simp [normal, hbraces, hname n] at hc
  | braced n => simp [normal, hbraces, hname n] at hc
  | colon n => simp [normal, hbraces, hname n] at hc

/-- A segment of a normalized address holds no character that cuts one off. -/
theorem UrlSegment.normal_free {style : Interpolation} (s : UrlSegment style) :
    ∀ c ∈ s.normal, c ∉ cuts := by
  intro c hc hcut
  cases s with
  | literal t => exact t.free c hc (List.mem_of_mem_take (i := 3) hcut)
  | computed e =>
      have hplaceholder : ∀ d ∈ placeholder, d ∉ cuts := free_of_all (by decide)
      exact hplaceholder c hc hcut

/-- Cutting off the query and the fragment leaves what stands before a suffix. -/
theorem cut_cut_append {path : List Char} (h : ∀ c ∈ path, c ≠ '?' ∧ c ≠ '#') (s : Suffix) :
    (Chars.cut '#' (Chars.cut '?' (path ++ s.written)).1).1 = path := by
  have hquery : ∀ c ∈ path, (c != '?') = true := fun c hc => by simpa using (h c hc).1
  have hfragment : ∀ c ∈ path, (c != '#') = true := fun c hc => by simpa using (h c hc).2
  cases s with
  | absent =>
      simp only [Chars.cut, Suffix.written, List.append_nil]
      rw [List.takeWhile_eq_self_iff.2 hquery, List.takeWhile_eq_self_iff.2 hfragment]
  | query t =>
      simp only [Chars.cut, Suffix.written]
      rw [Chars.takeWhile_append_stop hquery (by decide), List.takeWhile_eq_self_iff.2 hfragment]
  | fragment t =>
      -- The mark of the fragment is no question mark, so the first cut keeps it.
      have hkeep : ('#' :: t).takeWhile (· != '?') = '#' :: t.takeWhile (· != '?') := by
        simp
      simp only [Chars.cut, Suffix.written]
      rw [List.takeWhile_append_of_pos hquery, hkeep,
        Chars.takeWhile_append_stop hfragment (by decide)]

/-- The segments of a path are what was put between its slashes; a suffix does not count. -/
theorem segments_intercalate {pieces : List (List Char)} (hne : pieces ≠ [])
    (h : ∀ p ∈ pieces, ∀ c ∈ p, c ∉ cuts) (s : Suffix) :
    Route.segments (String.ofList (['/'].intercalate pieces ++ s.written)) =
      pieces.map String.ofList := by
  have hmarks : ∀ c ∈ ['/'].intercalate pieces, c ≠ '?' ∧ c ≠ '#' := by
    intro c hc
    rcases Chars.mem_intercalate hc with hslash | ⟨p, hp, hc⟩
    · rw [List.mem_singleton.1 hslash]
      decide
    · have hcut : c ∉ cuts := h p hp c hc
      exact ⟨fun heq => hcut (by simp [heq, cuts]), fun heq => hcut (by simp [heq, cuts])⟩
  have hslash : ∀ p ∈ pieces, '/' ∉ p := fun p hp hc => h p hp '/' hc (by decide)
  rw [Route.segments, String.toList_ofList, cut_cut_append hmarks,
    List.splitOn_intercalate '/' hslash hne]

/-- A template matches a path exactly if it takes its segments one by one. -/
theorem isMatch_iff (template url : String) :
    Route.isMatch template url = true ↔
      List.Forall₂ (fun want got => Route.takes want got = true) (Route.segments template)
        (Route.segments url) := by
  rw [List.forall₂_iff_zip]
  simp [Route.isMatch]

/-- A literal is no parameter. -/
theorem isParameter_literal (t : Literal) : Route.isParameter (String.ofList t.chars) = false := by
  unfold Route.isParameter
  rw [String.toList_ofList]
  split
  · rename_i heq
    exact absurd rfl (t.ne_of_mem (d := ':') (heq ▸ List.mem_cons_self) (by decide))
  · rename_i heq
    exact absurd rfl (t.ne_of_mem (d := '\x7b') (heq ▸ List.mem_cons_self) (by decide))
  · rfl

/-- A name in braces is a parameter. -/
theorem isParameter_braced (n : Name) :
    Route.isParameter (String.ofList ('\x7b' :: (n.chars ++ ['\x7d']))) = true := by
  simp [Route.isParameter]

/-- A name behind a colon is a parameter. -/
theorem isParameter_colon (n : Name) :
    Route.isParameter (String.ofList (':' :: n.chars)) = true := by
  simp [Route.isParameter]

/-- One segment takes another exactly if the two go together. -/
theorem takes_normal_iff {style : Interpolation} (w : RouteSegment) (g : UrlSegment style) :
    Route.takes (String.ofList w.normal) (String.ofList g.normal) = true ↔ Meets w g := by
  have hcomputed : placeholder ≠ [] := by decide
  unfold Route.takes
  cases w with
  | literal t =>
      rw [RouteSegment.normal, isParameter_literal]
      cases g with
      | literal b => simp [UrlSegment.normal, Meets, String.ofList_inj]
      | computed e =>
          -- The placeholder starts with a colon, which no literal holds.
          have hne : t.chars ≠ placeholder := by
            intro heq
            exact t.ne_of_mem (c := ':') (heq ▸ by decide) (d := ':') (by decide) rfl
          simp [UrlSegment.normal, Meets, String.ofList_inj, hne]
  | angle n =>
      rw [RouteSegment.normal, isParameter_braced]
      cases g <;> simp [UrlSegment.normal, Meets, hcomputed]
  | converted k n =>
      rw [RouteSegment.normal, isParameter_braced]
      cases g <;> simp [UrlSegment.normal, Meets, hcomputed]
  | braced n =>
      rw [RouteSegment.normal, isParameter_braced]
      cases g <;> simp [UrlSegment.normal, Meets, hcomputed]
  | colon n =>
      rw [RouteSegment.normal, isParameter_colon]
      cases g <;> simp [UrlSegment.normal, Meets, hcomputed]

/-- The normal forms of a route and of a URL match exactly if there are as many segments on both
sides and each one of the route goes with its counterpart in the URL. -/
theorem isMatch_normalize_iff {style : Interpolation} (r : RouteTemplate) (u : RequestUrl style) :
    Route.isMatch (normalizeRoute r.text) (normalizeUrl style u.text) = true ↔
      List.Forall₂ Meets r.segments u.segments := by
  have hroute : Route.segments (normalizeRoute r.text) =
      r.segments.map fun s => String.ofList s.normal := by
    have hne : r.segments.map RouteSegment.normal ≠ [] := by simpa using r.ne_nil
    have hcut := segments_intercalate hne
      (by simpa using fun s (_ : s ∈ r.segments) => s.normal_free) .absent
    rw [Suffix.written, List.append_nil, List.map_map] at hcut
    rw [normalizeRoute_text, hcut]
    rfl
  have hurl : Route.segments (normalizeUrl style u.text) =
      u.segments.map fun s => String.ofList s.normal := by
    rcases exists_normalizeUrl_text u with ⟨s, hs⟩
    have hne : u.segments.map UrlSegment.normal ≠ [] := by simp [RequestUrl.segments]
    have hcut := segments_intercalate hne
      (by simpa using fun s (_ : s ∈ u.segments) => s.normal_free) s
    rw [List.map_map] at hcut
    rw [hs, hcut]
    rfl
  rw [isMatch_iff, hroute, hurl, List.forall₂_map_left_iff, List.forall₂_map_right_iff]
  simp only [takes_normal_iff]

/-- The route `/users/<int:id>`. -/
def userRoute : RouteTemplate where
  segments :=
    [.literal ⟨[], by simp⟩, .literal ⟨"users".toList, free_of_all (by decide)⟩,
      .converted ⟨⟨"int".toList, free_of_all (by decide)⟩, by decide⟩
        ⟨⟨"id".toList, free_of_all (by decide)⟩, by decide⟩]
  ne_nil := by simp

/-- A request for one user on a server, whose id is computed and which has a query. -/
def userUrl : RequestUrl .dollar where
  origin := .server
    { first := 'h', scheme := "ttps".toList
      host := ⟨"api:8080".toList, free_of_all (by decide)⟩
      first_isAlpha := by decide, scheme_chars := List.all_eq_true.1 (by decide)
      host_ne_nil := by decide }
  path := [.literal ⟨"users".toList, free_of_all (by decide)⟩,
    .computed ⟨"a/b?\x7b".toList, free_of_all (by decide)⟩]
  path_ne_nil := by simp
  suffix := .query "page=$\x7bn\x7d".toList

/-- A route with a typed parameter matches an address with an origin, an interpolation and a query.
-/
theorem isMatch_normalize_user :
    userRoute.text = "/users/<int:id>" ∧
      userUrl.text = "https://api:8080/users/$\x7ba/b?\x7b\x7d?page=$\x7bn\x7d" ∧
      Route.isMatch (normalizeRoute userRoute.text) (normalizeUrl .dollar userUrl.text) = true := by
  refine ⟨by decide +kernel, by decide +kernel, (isMatch_normalize_iff userRoute userUrl).2 ?_⟩
  exact .cons rfl (.cons rfl (.cons trivial .nil))

end Http
end CrossAudit
