import CrossAudit.Proofs.Json.Quotation
import CrossAudit.Proofs.Text.Lines
import CrossAudit.Wire.Response

/-!
# The last line of an output

An output is cut at every line boundary of Unicode.  Some of these boundaries may stand within the
strings of a document: a next-line character, a line separator and a paragraph separator.  A
document that is printed on one line is read back unless it holds one of them.

Main results:

- Theorem `lastLine?_behind`: what stands between the last two boundaries of an output is its last
  line.
- Theorem `ofOutput_unbroken`: a response without boundaries is read back from behind any other
  text.
- Theorem `ofOutput_printed`: a response that is printed behind any other text is read back if it
  holds no boundary, and is taken for an unreadable one otherwise.
-/

namespace CrossAudit
namespace Wire

variable {line : List Char}

/-! ## Last lines -/

/-- What stands between the last two boundaries of an output is its last line, unless it is
blank. -/
theorem lastLine?_behind {output : String} (text : List Char) (c : Char)
    (houtput : output.toList = text ++ c :: (line ++ ['\n']))
    (hc : Chars.isLineBreak c = true) (hreturn : c ≠ '\r')
    (hline : ∀ d ∈ line, Chars.isLineBreak d = false) (hblank : Chars.strip line ≠ []) :
    lastLine? output = some (String.ofList line) := by
  have hlast : Chars.linesFrom [] (line ++ ['\n']) = [line] := by
    rw [Chars.linesFrom_unbroken hline, Chars.linesFrom_cons_break (by decide) (by decide)]
    simp [Chars.linesFrom]
  have hlines : Text.lines output =
      (Chars.linesFrom [] (text ++ [c])).map String.ofList ++ [String.ofList line] := by
    rw [Text.lines, houtput, Chars.lines, Chars.linesFrom_append_break hc hreturn, hlast]
    simp
  have hkept : (Text.strip (String.ofList line) != "") = true := by
    simpa [Text.strip, String.ofList_eq_empty_iff] using hblank
  simp [lastLine?, hlines, List.filter_append, hkept]

/-! ## Documents on one line -/

/-- A response is an object. -/
theorem exists_parse_eq_obj {d : String} {r : Response} (h : Response.ofText d = .ok r) :
    ∃ ms, Json.parse depthLimit d = .ok (.obj ms) := by
  unfold Response.ofText at h
  split at h
  · rename_i j hparse
    cases j with
    | obj ms => exact ⟨ms, hparse⟩
    | _ => cases h
  · cases h

/-- A response without line boundaries is read back from behind any other text. -/
theorem ofOutput_unbroken (log : String) {d : String} {r : Response}
    (hwhole : d.toList.any Chars.isLineBreak = false)
    (haccepted : Response.ofText d = .ok r) :
    Response.ofOutput (log ++ "\n" ++ d ++ "\n") = .ok r := by
  rcases exists_parse_eq_obj haccepted with ⟨ms, hparse⟩
  have hlast : lastLine? (log ++ "\n" ++ d ++ "\n") = some d := by
    simpa using lastLine?_behind log.toList '\n' (by simp) (by decide) (by decide)
      (by simpa using hwhole)
      (Chars.strip_ne_nil (Json.brace_mem_of_parse hparse) (by decide))
  simp [Response.ofOutput, hlast, haccepted]

/-- The result that a document carries, if it is a response. -/
def resultOf? (d : String) : Option Result :=
  match Response.ofText d with
  | .ok r => r.result
  | .bad _ _ => none

/-- A result that a document without line boundaries carries is read back. -/
theorem exists_ofOutput_of_resultOf? (log : String) {d : String} {result : Result}
    (hwhole : d.toList.any Chars.isLineBreak = false) (h : resultOf? d = some result) :
    ∃ response, Response.ofOutput (log ++ "\n" ++ d ++ "\n") = .ok response ∧
      response.result = some result := by
  unfold resultOf? at h
  split at h
  · rename_i response haccepted
    exact ⟨response, ofOutput_unbroken log hwhole haccepted, h⟩
  · cases h

/-- What a document holds behind the last line boundary. -/
def lastPiece (d : String) : String :=
  String.ofList (d.toList.reverse.takeWhile fun c => !Chars.isLineBreak c).reverse

/-- What follows the last line break of a text is its last piece. -/
theorem lastPiece_eq {d : String} {c : Char} {before after : List Char}
    (hd : d.toList = before ++ c :: after) (hc : Chars.isLineBreak c = true)
    (hafter : ∀ d ∈ after, Chars.isLineBreak d = false) : lastPiece d = String.ofList after := by
  have hunbroken : ∀ d ∈ after.reverse, (!Chars.isLineBreak d) = true := by simpa using hafter
  have hpiece : (after.reverse ++ c :: before.reverse).takeWhile (fun c => !Chars.isLineBreak c) =
      after.reverse := by
    rw [List.takeWhile_append_of_pos hunbroken, List.takeWhile_cons_of_neg (by simp [hc]),
      List.append_nil]
  have hreverse : d.toList.reverse = after.reverse ++ c :: before.reverse := by simp [hd]
  rw [lastPiece, hreverse, hpiece, List.reverse_reverse]

/-- A response that is printed on one line behind any other text is read back if it holds no line
boundary.  Otherwise the last piece of it is read, which is no document. -/
theorem ofOutput_printed (log : String) {d : String} {r : Response} (hfeed : '\n' ∉ d.toList)
    (hreturn : '\r' ∉ d.toList) (haccepted : Response.ofText d = .ok r) :
    (d.toList.any Chars.isLineBreak = false →
      Response.ofOutput (log ++ "\n" ++ d ++ "\n") = .ok r) ∧
    (d.toList.any Chars.isLineBreak = true →
      ∃ c, Json.parse depthLimit (lastPiece d) = .error c ∧
        Response.ofOutput (log ++ "\n" ++ d ++ "\n") =
          .error (.invalid 1 (.unreadable c.flaw (Json.placeOf (lastPiece d).toList c.rest)))) := by
  refine ⟨fun hwhole => ofOutput_unbroken log hwhole haccepted, fun hbroken => ?_⟩
  rcases exists_parse_eq_obj haccepted with ⟨ms, hparse⟩
  rcases Chars.exists_last_break (List.any_eq_true.1 hbroken) with
    ⟨before, c, after, hd, hc, hafter⟩
  have hmem : c ∈ d.toList := by simp [hd]
  have hinner : Json.isInnerBoundary c = true := by
    refine Json.isInnerBoundary_of_isLineBreak hc ?_ ?_
    · rintro rfl
      exact hfeed hmem
    · rintro rfl
      exact hreturn hmem
  have hquote : '"' ∈ after := by
    have hlexes := Json.lexes_of_parse hparse
    rw [hd] at hlexes
    exact Json.quote_mem_of_lexes (by decide) (Json.lexes_inside_of_boundary hinner hlexes)
  have hlast : lastLine? (log ++ "\n" ++ d ++ "\n") = some (String.ofList after) := by
    refine lastLine?_behind (log.toList ++ '\n' :: before) c (by simp [hd]) hc ?_ hafter
      (Chars.strip_ne_nil hquote (by decide))
    rintro rfl
    exact hreturn hmem
  rcases Json.fails_parse_of_boundary hparse hd hinner with ⟨complaint, hfails⟩
  rw [lastPiece_eq hd hc hafter]
  exact ⟨complaint, hfails, by simp [Response.ofOutput, hlast, Response.ofText, hfails]⟩

/-- A failure whose message holds a line separator. -/
def separatedFailure : String :=
  "\x7b\"error\":\x7b\"message\":\"a\u2028b\"\x7d\x7d"

/-- A failure that is printed in one piece, and one whose message holds a line separator. -/
theorem ofOutput_printed_separated : ∃ r, Response.ofText separatedFailure = .ok r ∧
    r.error = some { message := "a\u2028b" } ∧
    Response.ofOutput ("log" ++ "\n" ++ separatedFailure ++ "\n") =
      .error (.invalid 1 (.unreadable .noValue ⟨1, 1⟩)) := by
  have hread : (Response.ofText separatedFailure).map (·.error) =
      .ok (some { message := "a\u2028b" }) := by
    decide +kernel
  have hflaw : ((Json.parse depthLimit (lastPiece separatedFailure)).map fun _ => ()).mapError
      (fun c => (c.flaw, Json.placeOf (lastPiece separatedFailure).toList c.rest)) =
      .error (.noValue, ⟨1, 1⟩) := by
    decide +kernel
  cases haccepted : Response.ofText separatedFailure with
  | bad p ps =>
      rw [haccepted] at hread
      cases hread
  | ok r =>
      rw [haccepted, Checked.map, Checked.ok.injEq] at hread
      have hprinted := ofOutput_printed "log" (by decide) (by decide) haccepted
      obtain ⟨c, hc, houtput⟩ := hprinted.2 (by decide)
      rw [hc, Except.map, Except.mapError, Except.error.injEq, Prod.mk.injEq] at hflaw
      rw [hflaw.1, hflaw.2] at houtput
      exact ⟨r, rfl, hread, houtput⟩

end Wire
end CrossAudit
