import CrossAudit.Adapter.Basic
import CrossAudit.Proofs.Failing
import CrossAudit.Proofs.Syntax.Places
import Mathlib.Data.Option.Basic

/-!
# The requests that adapters find

A note on a request is read with defaults for whatever is empty or zero.  None of this occurs in the
requests that adapters find: their methods are known ones, their URLs are rooted, and their places
are those of nodes.

Main results:

- Theorem `upper_of_isMethod`: a known method is in upper case.
- Theorem `definite_of_mem_apiCalls`: the requests of a document whose places count from one are
  definite.
-/

namespace CrossAudit

open Syntax

/-! ## Methods and URLs -/

namespace Http

/-- A known method is in upper case. -/
theorem upper_of_isMethod {m : String} (h : isMethod m = true) : Text.upper m = m := by
  have hall : ∀ m ∈ methods, Text.upper m = m := by decide +kernel
  exact hall m (List.contains_iff_mem.1 h)

theorem isMethod_ne_empty {m : String} (h : isMethod m = true) : m ≠ "" := by
  rintro rfl
  exact absurd h (by decide)

/-- A URL in its common form starts with a slash, so it is not empty. -/
theorem normalizeUrl_ne_empty (style : Interpolation) (url : String) :
    normalizeUrl style url ≠ "" := by
  intro h
  have hempty := congrArg String.toList h
  rw [normalizeUrl, String.toList_ofList, rooted] at hempty
  split at hempty <;> simp_all

end Http

/-! ## Requests -/

/-- Nothing about a request is empty or zero: its method is a known one, it has a URL, and its place
counts from one. -/
structure ApiCall.Definite (c : ApiCall) : Prop where
  method : Http.isMethod c.method = true
  url : c.url ≠ ""
  place : c.location.FromOne

namespace Adapter

variable {d : Document} {c : Cursor} {call : ApiCall}

/-- What goes on in the same way from each of three branches has gone on from something. -/
theorem exists_of_branches {α β : Type} {p q : Prop} [Decidable p] [Decidable q]
    {x y z : Option α} {f : α → Option β} {b : β}
    (h : (if p then x.bind f else if q then y.bind f else z.bind f) = some b) :
    ∃ a, f a = some b := by
  have hbound : ∀ x : Option α, x.bind f = some b → ∃ a, f a = some b := by
    intro x hx
    rcases Option.bind_eq_some_iff.1 hx with ⟨a, _, ha⟩
    exact ⟨a, ha⟩
  split at h
  · exact hbound x h
  · split at h
    · exact hbound y h
    · exact hbound z h

theorem Python.definite_of_apiCall? (hplace : c.location.FromOne)
    (h : Python.apiCall? d c = some call) : call.Definite := by
  simp only [Python.apiCall?, bind, Option.bind_eq_some_iff] at h
  rcases h with ⟨function, _, _, _, _, _, h⟩
  -- Wherever the method comes from, it is checked against the known ones further on.
  rcases exists_of_branches h with ⟨⟨method, target⟩, h⟩
  simp only [Option.bind_eq_some_iff] at h
  rcases h with ⟨url, _, _, hguard, raw, _, _, _, hcall⟩
  cases hcall
  rw [guard] at hguard
  split at hguard
  case isFalse => cases hguard
  rename_i hkind
  exact ⟨(Bool.and_eq_true_iff.1 hkind).2, Http.normalizeUrl_ne_empty _ _, hplace⟩

theorem EcmaScript.definite_of_apiCall? (hplace : c.location.FromOne)
    (h : EcmaScript.apiCall? d c = .ok (some call)) : call.Definite := by
  unfold EcmaScript.apiCall? at h
  split at h
  case h_2 => cases h
  split at h
  case h_2 => cases h
  split at h
  case h_2 => cases h
  dsimp only at h
  split at h
  case isTrue => cases h
  rename_i hmethod
  rw [bind_eq_ok_iff] at h
  rcases h with ⟨_ | url, _, h⟩
  · cases h
  · cases h
    exact ⟨by simpa using hmethod, Http.normalizeUrl_ne_empty _ _, hplace⟩

/-- The requests of a document whose places count from one are definite. -/
theorem definite_of_mem_apiCalls {a : Adapter} {calls : List ApiCall} (hplaces : d.FromOne)
    (h : a.apiCalls d = .ok calls) : ∀ call ∈ calls, call.Definite := by
  have hplace : ∀ kinds, ∀ c ∈ d.nodesOf kinds, c.location.FromOne :=
    fun kinds c hc => hplaces c (List.mem_filter.1 hc).1
  have hecma : (EcmaScript.apiCalls d).mapError Fault.url = .ok calls →
      ∀ call ∈ calls, call.Definite := by
    intro h call hcall
    rw [mapError_eq_ok_iff, EcmaScript.apiCalls, bind_eq_ok_iff] at h
    rcases h with ⟨found, hmapM, hcalls⟩
    cases hcalls
    rcases List.mem_filterMap.1 hcall with ⟨_, hsome, rfl⟩
    rcases exists_of_mem_mapM hmapM hsome with ⟨c, hc, hread⟩
    exact EcmaScript.definite_of_apiCall? (hplace _ c hc) hread
  cases a with
  | python =>
      cases h
      intro call hcall
      rcases List.mem_filterMap.1 hcall with ⟨c, hc, hread⟩
      exact Python.definite_of_apiCall? (hplace _ c hc) hread
  | typescript => exact hecma h
  | javascript => exact hecma h

end Adapter
end CrossAudit
