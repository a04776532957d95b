import CrossAudit.Pass.Security
import CrossAudit.Proofs.Repetition

/-!
# What the security pass reports once

Several detectors may find the same rule on the same line, and the pass reports the first finding of
each line and rule.  A rule has one severity, whatever detector finds it and on whatever call, with
a single exception: in Python a shell that is asked for by keyword is a mere warning, although its
rule is critical elsewhere.  So what is reported is the gravest finding of its line and rule, unless
it is this warning and a critical finding of its rule comes later on its line.

Main results:

- Theorem `run_eq`: the findings reported are the first of their line and rule.
- Theorem `rated_of_mem_all`: the severity of a finding, from its rule.
- Theorem `gravest_reported_iff`: which findings are hidden behind milder ones.
-/

namespace CrossAudit
namespace Pass
namespace Security

open Syntax

variable {d : Document} {f g : Finding} {fs : List Finding}

/-! ## Lines and rules -/

/-- Two findings are of one rule on one line. -/
def SameSpot (f g : Finding) : Prop :=
  f.line = g.line ∧ f.rule = g.rule

/-- The line of a finding, if it is a number, and its rule. -/
def spot (f : Finding) : Option Int × String :=
  (match f.line with | .int n => some n | _ => none, f.rule)

/-- The line of a finding is a number. -/
def Numbered (f : Finding) : Prop :=
  ∃ n : Nat, f.line = .ofNat n

theorem spot_eq_iff (hf : Numbered f) (hg : Numbered g) : spot f = spot g ↔ SameSpot f g := by
  obtain ⟨m, hm⟩ := hf
  obtain ⟨n, hn⟩ := hg
  simp [spot, SameSpot, hm, hn, Json.ofNat]

theorem same_line_iff (hf : Numbered f) (hg : Numbered g) :
    (f.line == g.line && f.rule == g.rule) = true ↔ spot f = spot g := by
  obtain ⟨m, hm⟩ := hf
  obtain ⟨n, hn⟩ := hg
  simp [spot, hm, hn, Json.ofNat, Json.beq_int]

/-- What is reported of findings with numbers for lines are the first of each line and rule. -/
theorem foldl_addFirst_eq (hnumbered : ∀ f ∈ fs, Numbered f) :
    fs.foldl addFirst [] = firstBy spot fs := by
  induction fs using List.reverseRecOn with
  | nil => rfl
  | append_singleton fs f ih =>
      have hfs : ∀ g ∈ fs, Numbered g := fun g hg => hnumbered g (List.mem_append_left _ hg)
      have hf : Numbered f := hnumbered f (by simp)
      have hany : ((firstBy spot fs).any fun g => g.line == f.line && g.rule == f.rule) = true ↔
          spot f ∈ fs.map spot := by
        rw [List.any_eq_true, ← mem_keys_firstBy, List.mem_map]
        refine exists_congr fun g => and_congr_right fun hg => ?_
        exact same_line_iff (hfs g (mem_of_mem_firstBy hg)) hf
      rw [List.foldl_append, List.foldl_cons, List.foldl_nil, ih hfs, firstBy_concat, addFirst]
      by_cases hthere : spot f ∈ fs.map spot
      · rw [if_pos hthere, if_pos (hany.2 hthere)]
      · rw [if_neg hthere, if_neg (mt hany.1 hthere)]

/-! ## Severities -/

/-- The severity of a rule. -/
def severityOf (rule : String) : String :=
  if rule = "path-traversal" then "suggestion"
  else if rule = "unsafe-deserialization" then "warning"
  else "critical"

/-- The warning about a Python call that asks for a shell by keyword. -/
structure IsShellWarning (d : Document) (f : Finding) : Prop where
  language : d.language = "python"
  rule : f.rule = "command-injection"
  severity : f.severity = "warning"
  message : f.message = "subprocess called with shell=True"

/-- A finding has a number for a line and the severity of its rule, or it is the warning about a
shell. -/
structure Rated (d : Document) (f : Finding) : Prop where
  numbered : Numbered f
  severity : f.severity = severityOf f.rule ∨ IsShellWarning d f

theorem rated_flag {severity rule : String} (h : severity = severityOf rule) (place : Position)
    (message : String) : Rated d (flag d place message severity rule) :=
  ⟨⟨place.line, rfl⟩, .inl h⟩

/-- Every dangerous function breaks a critical rule. -/
theorem severityOf_of_lookup {name rule : String}
    (h : (if d.language == "python" then pythonDangers else ecmaDangers).lookup name = some rule) :
    severityOf rule = "critical" := by
  have htables : ∀ p ∈ pythonDangers ++ ecmaDangers, severityOf p.2 = "critical" := by decide
  refine htables (name, rule) (List.mem_append.2 ?_)
  split at h
  · obtain ⟨before, after, htable, -⟩ := List.lookup_eq_some_iff.1 h
    exact .inl (htable ▸ List.mem_append_right _ List.mem_cons_self)
  · obtain ⟨before, after, htable, -⟩ := List.lookup_eq_some_iff.1 h
    exact .inr (htable ▸ List.mem_append_right _ List.mem_cons_self)

/-- A detector that finds at most one thing on a condition. -/
theorem rated_of_mem_ite {p : Prop} [Decidable p] (h : f ∈ if p then [g] else [])
    (hg : p → Rated d g) : Rated d f := by
  split at h
  case isTrue hp => exact List.mem_singleton.1 h ▸ hg hp
  case isFalse => cases h

theorem rated_of_mem_ofCall {tainted : List String} {call : Cursor}
    (h : f ∈ ofCall d tainted call) : Rated d f := by
  unfold ofCall at h
  split at h
  · cases h
  · simp only [List.mem_append] at h
    rcases h with ((((hdanger | hshell) | hsql) | hfile) | hpickle) | hyaml
    · split at hdanger
      · rename_i rule hrule
        rw [List.mem_singleton.1 hdanger]
        exact rated_flag (severityOf_of_lookup hrule).symm _ _
      · cases hdanger
    · refine rated_of_mem_ite hshell fun hcall => ⟨⟨_, rfl⟩, .inr ⟨?_, rfl, rfl, rfl⟩⟩
      rw [Bool.and_eq_true, Bool.and_eq_true, beq_iff_eq] at hcall
      exact hcall.1.1
    · split at hsql
      · rw [List.mem_singleton.1 hsql]
        exact rated_flag (by decide) _ _
      · cases hsql
    · exact rated_of_mem_ite hfile fun _ => rated_flag (by decide) _ _
    · exact rated_of_mem_ite hpickle fun _ => rated_flag (by decide) _ _
    · exact rated_of_mem_ite hyaml fun _ => rated_flag (by decide) _ _

theorem rated_of_mem_secrets (h : f ∈ secrets d) : Rated d f := by
  obtain ⟨rule, -, h⟩ := List.mem_flatMap.1 h
  obtain ⟨m, -, rfl⟩ := List.mem_map.1 h
  exact rated_flag (by decide) _ _

/-- The severity of a finding is that of its rule, unless it is the warning about a shell. -/
theorem rated_of_mem_all (h : f ∈ all d) : Rated d f := by
  rw [all, List.mem_append] at h
  rcases h with h | h
  · obtain ⟨call, -, h⟩ := List.mem_flatMap.1 h
    exact rated_of_mem_ofCall h
  · exact rated_of_mem_secrets h

/-- The pass reports the first finding of each line and rule. -/
theorem run_eq (d : Document) : run d = firstBy spot (all d) :=
  foldl_addFirst_eq fun _ hf => (rated_of_mem_all hf).numbered

theorem mem_all_of_mem_run (h : f ∈ run d) : f ∈ all d := by
  rw [run_eq] at h
  exact mem_of_mem_firstBy h

theorem spot_eq_iff_of_mem_all (hf : f ∈ all d) (hg : g ∈ all d) : spot f = spot g ↔ SameSpot f g :=
  spot_eq_iff (rated_of_mem_all hf).numbered (rated_of_mem_all hg).numbered

/-! ## What is hidden -/

/-- A finding is graver than another one of its rule only if this is the warning about a shell, and
then it is critical. -/
theorem rank_lt_iff (hf : Rated d f) (hg : Rated d g) (hrule : f.rule = g.rule) :
    Severity.rank g.severity < Severity.rank f.severity ↔
      IsShellWarning d g ∧ f.severity = "critical" := by
  have hcritical : severityOf "command-injection" = "critical" := by decide
  constructor
  · intro hless
    rcases hg.severity with hgrave | hshell
    · rcases hf.severity with hf' | hf'
      · rw [hf', hgrave, hrule] at hless
        exact absurd hless (Nat.lt_irrefl _)
      · rw [hf'.severity, hgrave, ← hrule, hf'.rule, hcritical] at hless
        exact absurd hless (by decide)
    · rcases hf.severity with hf' | hf'
      · rw [hf', hrule, hshell.rule]
        exact ⟨hshell, hcritical⟩
      · rw [hf'.severity, hshell.severity] at hless
        exact absurd hless (Nat.lt_irrefl _)
  · rintro ⟨hshell, hgrave⟩
    rw [hshell.severity, hgrave]
    decide

/-- The pass reports one finding for each line and rule on which it has found something, the first
one.  Something graver of the line and rule has been found if and only if the finding reported is
the warning about a shell and something critical of its rule has been found on its line. -/
theorem gravest_reported_iff (d : Document) :
    (∀ f ∈ all d, ∃ g ∈ run d, SameSpot f g) ∧
      (run d).Pairwise (fun f g => ¬ SameSpot f g) ∧
      (∀ g, g ∈ run d ↔
        ∃ before after, all d = before ++ g :: after ∧ ∀ f ∈ before, ¬ SameSpot f g) ∧
      ∀ g ∈ run d, (∃ f ∈ all d, SameSpot f g ∧
          Severity.rank g.severity < Severity.rank f.severity) ↔
        IsShellWarning d g ∧ ∃ f ∈ all d, SameSpot f g ∧ f.severity = "critical" := by
  refine ⟨fun f hf => ?_, ?_, fun g => ?_, fun g hg => ?_⟩
  · have hkept : spot f ∈ (run d).map spot := by
      rw [run_eq]
      exact mem_keys_firstBy.2 (List.mem_map_of_mem hf)
    obtain ⟨g, hg, hspot⟩ := List.mem_map.1 hkept
    exact ⟨g, hg, (spot_eq_iff_of_mem_all hf (mem_all_of_mem_run hg)).1 hspot.symm⟩
  · have hnodup : ((run d).map spot).Nodup := by
      rw [run_eq]
      exact nodup_keys_firstBy spot (all d)
    refine (List.pairwise_map.1 hnodup).imp_of_mem fun {f g} hf hg hne hsame => hne ?_
    exact (spot_eq_iff_of_mem_all (mem_all_of_mem_run hf) (mem_all_of_mem_run hg)).2 hsame
  · rw [run_eq, mem_firstBy_iff]
    refine exists_congr fun before => exists_congr fun after => and_congr_right fun hall => ?_
    refine forall₂_congr fun f hf => not_congr (spot_eq_iff_of_mem_all (d := d) ?_ ?_)
    · exact hall ▸ List.mem_append_left _ hf
    · exact hall ▸ List.mem_append_right _ List.mem_cons_self
  · have hg' : Rated d g := rated_of_mem_all (mem_all_of_mem_run hg)
    constructor
    · rintro ⟨f, hf, hsame, hless⟩
      obtain ⟨hshell, hcritical⟩ := (rank_lt_iff (rated_of_mem_all hf) hg' hsame.2).1 hless
      exact ⟨hshell, f, hf, hsame, hcritical⟩
    · rintro ⟨hshell, f, hf, hsame, hcritical⟩
      exact ⟨f, hf, hsame, (rank_lt_iff (rated_of_mem_all hf) hg' hsame.2).2 ⟨hshell, hcritical⟩⟩

/-- A Python line that asks for a shell and then calls `system`. -/
def shellThenSystem : Document :=
  let node (kind : String) (first last : Nat) (kids : List Node) : Node :=
    .mk { kind := kind, first := first, last := last
          location := ⟨⟨1, first + 1⟩, ⟨1, last + 1⟩⟩ } kids
  { language := "python", path := "a.py", diagnostics := []
    source := "run(c, shell=True); system(c)".toUTF8
    root := node "module" 0 29
      [node "call" 0 18 [node "identifier" 0 3 [], node "argument_list" 3 18
        [node "identifier" 4 5 [], node "keyword_argument" 7 17
          [node "identifier" 7 12 [], node "true" 13 17 []]]],
       node "call" 20 29 [node "identifier" 20 26 [], node "argument_list" 26 29
        [node "identifier" 27 28 []]]] }

/-- The critical finding on the line is not reported. -/
theorem critical_hidden_shellThenSystem :
    (all shellThenSystem).map (fun f => (spot f, f.severity)) =
        [((some 1, "command-injection"), "warning"), ((some 1, "command-injection"), "critical")] ∧
      (run shellThenSystem).map (fun f => (spot f, f.severity)) =
        [((some 1, "command-injection"), "warning")] := by
  decide +kernel

end Security
end Pass
end CrossAudit
