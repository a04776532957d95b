import CrossAudit.Contract.Validation
import CrossAudit.Proofs.Contract.Pairing
import CrossAudit.Proofs.Reference.Build
import CrossAudit.Total

/-!
# The readers of a pairing agree

The pairing of requests with endpoints is read three times: the validation reports requests without
an endpoint or with another method, the summary counts the callers of each endpoint, and references
are inferred from the pairs.  What they say about the same requests fits together.

Main results:

- Theorem `validate_eq_ok`: the findings are those on each request, one after the other.
- Theorems `total_callers`, `total_mismatched`: the summary counts each paired request once.
- Theorem `readers_agree`: findings, summary and references agree with the requests.
-/

namespace CrossAudit
namespace Contract

variable {es : List Entity} {s : CallSite} {e : Entity}

/-! ## Findings on one request -/

/-- Whether a finding is on a request without an endpoint. -/
def isMissing (f : Finding) : Bool :=
  f.rule == "missing-endpoint"

/-- Whether a finding is on a request whose endpoint has another method. -/
def isMismatch (f : Finding) : Bool :=
  f.rule == "method-mismatch"

/-- The findings on a request and its partner. -/
def findingsOn (es : List Entity) (s : CallSite) : List Finding :=
  match check (s, partner es s) with
  | .ok fs => fs
  | .error _ => []

/-- A well-typed request expects a kind of response that can be told. -/
theorem CallSite.WellTyped.exists_expectedKind (h : s.WellTyped) :
    ∃ kind, expectedKind s.expectedType = .ok kind := by
  unfold expectedKind
  split
  · exact ⟨_, rfl⟩
  · rename_i hstr
    split
    · rename_i hv
      rcases h.expected hv with ⟨t, ht⟩
      exact absurd ht (hstr t)
    · exact ⟨_, rfl⟩

/-- The check of a well-typed request ends well. -/
theorem CallSite.WellTyped.check_eq_ok (h : s.WellTyped) (es : List Entity) :
    check (s, partner es s) = .ok (findingsOn es s) := by
  have hok : ∃ fs, check (s, partner es s) = .ok fs := by
    rcases partner_cases es s with ⟨hnone, _⟩ | ⟨e, _, hfull, _⟩ | ⟨e, _, hpath, _⟩
    · rw [hnone]
      exact ⟨_, rfl⟩
    · rcases h.exists_expectedKind with ⟨kind, hkind⟩
      rw [hfull, check, hkind]
      exact ⟨_, rfl⟩
    · rw [hpath]
      exact ⟨_, rfl⟩
  rcases hok with ⟨fs, hfs⟩
  rw [findingsOn, hfs]

/-- The rules that only requests with a full partner can break. -/
def partnerRules : List String :=
  ["type-mismatch", "deprecated-endpoint", "auth-mismatch"]

/-- The finding on a type has the rule of mismatches. -/
theorem rule_of_mem_typeMismatch {provided expected : Option String} {f : Finding}
    (h : f ∈ typeMismatch s e provided expected) : f.rule = "type-mismatch" := by
  unfold typeMismatch at h
  split at h
  · split at h
    · cases h
    · rw [List.mem_singleton.1 h]
      rfl
  · cases h

/-- The finding on a deprecated endpoint has its rule. -/
theorem rule_of_mem_deprecation {f : Finding} (h : f ∈ deprecation s e) :
    f.rule = "deprecated-endpoint" := by
  unfold deprecation at h
  split at h
  · rw [List.mem_singleton.1 h]
    rfl
  · cases h

/-- The finding on missing authentication has its rule. -/
theorem rule_of_mem_missingAuth {f : Finding} (h : f ∈ missingAuth s e) :
    f.rule = "auth-mismatch" := by
  unfold missingAuth at h
  split at h
  · split at h
    · cases h
    · rw [List.mem_singleton.1 h]
      rfl
  · cases h

/-- A request with a full partner breaks none of the rules on its pairing. -/
theorem rule_mem_of_full {f : Finding} (h : partner es s = some (e, .full))
    (hf : f ∈ findingsOn es s) : f.rule ∈ partnerRules := by
  rw [findingsOn, h] at hf
  split at hf
  · rename_i fs hcheck
    rw [check, bind_eq_ok_iff] at hcheck
    rcases hcheck with ⟨kind, _, hfs⟩
    cases hfs
    rcases List.mem_append.1 hf with hf | hf
    · rcases List.mem_append.1 hf with hf | hf
      · simp [rule_of_mem_typeMismatch hf, partnerRules]
      · simp [rule_of_mem_deprecation hf, partnerRules]
    · simp [rule_of_mem_missingAuth hf, partnerRules]
  · cases hf

/-- A rule on a full partner is none of the two on the pairing itself. -/
theorem not_isMissing_of_mem_partnerRules {f : Finding} (h : f.rule ∈ partnerRules) :
    isMissing f = false ∧ isMismatch f = false := by
  simp only [partnerRules, List.mem_cons, List.not_mem_nil, or_false] at h
  rcases h with h | h | h <;> simp [isMissing, isMismatch, h]

/-- A request is reported to have no endpoint once if it reaches none, and never otherwise. -/
theorem countP_isMissing (es : List Entity) (s : CallSite) :
    (findingsOn es s).countP isMissing = if !es.any (reaches s) then 1 else 0 := by
  rcases partner_cases es s with ⟨hnone, hreach⟩ | ⟨e, he, hfull, hfits⟩ | ⟨e, he, hpath, hreach, _⟩
  · rw [findingsOn, hnone, hreach]
    rfl
  · have hany : es.any (fits s) = true := List.any_eq_true.2 ⟨e, he, hfits⟩
    rw [any_reaches_of_any_fits hany]
    apply List.countP_eq_zero.2
    intro f hf
    simp [not_isMissing_of_mem_partnerRules (rule_mem_of_full hfull hf)]
  · have hany : es.any (reaches s) = true := List.any_eq_true.2 ⟨e, he, hreach⟩
    rw [findingsOn, hpath, hany]
    rfl

/-- A request is reported to use another method once if it reaches endpoints but fits none, and
never otherwise. -/
theorem countP_isMismatch (es : List Entity) (s : CallSite) :
    (findingsOn es s).countP isMismatch =
      if es.any (reaches s) && !es.any (fits s) then 1 else 0 := by
  rcases partner_cases es s with ⟨hnone, hreach⟩ | ⟨e, he, hfull, hfits⟩ |
    ⟨e, he, hpath, hreach, hfits⟩
  · rw [findingsOn, hnone, hreach]
    rfl
  · have hany : es.any (fits s) = true := List.any_eq_true.2 ⟨e, he, hfits⟩
    rw [hany, Bool.not_true, Bool.and_false]
    apply List.countP_eq_zero.2
    intro f hf
    simp [not_isMissing_of_mem_partnerRules (rule_mem_of_full hfull hf)]
  · have hany : es.any (reaches s) = true := List.any_eq_true.2 ⟨e, he, hreach⟩
    rw [findingsOn, hpath, hany, hfits]
    rfl

/-! ## Findings on all requests -/

/-- If each item contributes one hit or none, there are as many hits as contributing items. -/
theorem countP_flatMap_eq {α β : Type} {f : α → List β} {p : β → Bool} {q : α → Bool}
    (h : ∀ x, (f x).countP p = if q x then 1 else 0) (xs : List α) :
    (xs.flatMap f).countP p = xs.countP q := by
  induction xs with
  | nil => rfl
  | cons x xs ih =>
      rw [List.flatMap_cons, List.countP_append, List.countP_cons, ih, h x, Nat.add_comm]

variable {entities : List Entity} {sites : List CallSite}

/-- The findings are those on each request, one after the other. -/
theorem validate_eq_ok (hsites : callSites entities = .ok sites)
    (htyped : ∀ s ∈ sites, s.WellTyped) :
    validate entities = .ok (sites.flatMap (findingsOn (endpoints entities))) := by
  have hcheck : (sites.map fun s => (s, partner (endpoints entities) s)).mapM check =
      .ok (sites.map (findingsOn (endpoints entities))) := by
    rw [List.mapM_map]
    apply mapM_eq_ok_map
    intro s hs
    exact (htyped s hs).check_eq_ok (endpoints entities)
  rw [validate, pair_eq_ok hsites htyped]
  change ((sites.map fun s => (s, partner (endpoints entities) s)).mapM check >>= fun parts =>
    pure parts.flatten) = _
  rw [hcheck, List.flatMap_def]
  rfl

/-! ## The summary -/

/-- Whether a request has an endpoint of another method only. -/
def isPathOnly (p : Pairing) : Bool :=
  p.2.any fun hit => hit.2 == .pathOnly

/-- Noting a pair adds one caller if it has an endpoint. -/
theorem total_callers_addCaller (usage : List (String × Usage)) (p : Pairing) :
    total ((addCaller usage p).map fun u => u.2.callers.length) =
      total (usage.map fun u => u.2.callers.length) + if p.2.isSome then 1 else 0 := by
  rcases p with ⟨call, _ | ⟨e, kind⟩⟩
  · rfl
  · rw [total_eq_sum, total_eq_sum]
    exact Assoc.sum_update (fun u : Usage => u.callers.length) (by simp) rfl e.id usage

/-- Noting a pair adds one mismatch if its endpoint has another method. -/
theorem total_mismatched_addCaller (usage : List (String × Usage)) (p : Pairing) :
    total ((addCaller usage p).map fun u => u.2.mismatched) =
      total (usage.map fun u => u.2.mismatched) + if isPathOnly p then 1 else 0 := by
  rcases p with ⟨call, _ | ⟨e, kind⟩⟩
  · rfl
  · have hkind : (if kind == .full then 0 else 1) =
        if isPathOnly (call, some (e, kind)) then 1 else 0 := by
      cases kind <;> rfl
    rw [← hkind, total_eq_sum, total_eq_sum]
    exact Assoc.sum_update (fun u : Usage => u.mismatched) (fun _ => rfl) rfl e.id usage

/-- A figure that grows with each pair of some kind counts these pairs. -/
theorem total_foldl_addCaller (figure : Usage → Nat) (counted : Pairing → Bool)
    (hstep : ∀ usage p, total ((addCaller usage p).map fun u => figure u.2) =
      total (usage.map fun u => figure u.2) + if counted p then 1 else 0)
    (ps : List Pairing) (usage : List (String × Usage)) :
    total ((ps.foldl addCaller usage).map fun u => figure u.2) =
      total (usage.map fun u => figure u.2) + ps.countP counted := by
  induction ps generalizing usage with
  | nil => rfl
  | cons p ps ih =>
      rw [List.foldl_cons, ih, hstep, List.countP_cons]
      omega

/-- The endpoints as the summary begins with them. -/
def listed (entities : List Entity) : List (String × Usage) :=
  Assoc.ofPairs ((endpoints entities).map fun e => (e.id, { endpoint := e }))

/-- No figure has been counted at the beginning. -/
theorem total_listed (figure : Usage → Nat) (h : ∀ e, figure { endpoint := e } = 0)
    (entities : List Entity) : total ((listed entities).map fun u => figure u.2) = 0 := by
  have hzero : ∀ u ∈ listed entities, figure u.2 = 0 := by
    intro u hu
    rcases Assoc.exists_of_mem_ofPairs hu with ⟨q, hq, hvalue⟩
    rcases List.mem_map.1 hq with ⟨e, _, rfl⟩
    rw [← hvalue]
    exact h e
  generalize listed entities = table at hzero
  induction table with
  | nil => rfl
  | cons u table ih =>
      rw [List.map_cons, total, hzero u List.mem_cons_self,
        ih fun u' hu' => hzero u' (List.mem_cons_of_mem u hu')]

variable {pairs : List Pairing}

/-- The summary adds every caller to its endpoint. -/
theorem summarize_eq_ok (h : pair entities = .ok pairs) :
    summarize entities = .ok ((pairs.foldl addCaller (listed entities)).map (·.2)) := by
  simp only [summarize, h]
  rfl

/-- The callers in a summary are the requests that have an endpoint. -/
theorem total_callers (entities : List Entity) (pairs : List Pairing) :
    total (((pairs.foldl addCaller (listed entities)).map (·.2)).map (·.callers.length)) =
      pairs.countP (·.2.isSome) := by
  have hcount := total_foldl_addCaller (·.callers.length) (·.2.isSome) total_callers_addCaller
    pairs (listed entities)
  have hzero := total_listed (·.callers.length) (fun _ => rfl) entities
  rw [hzero, Nat.zero_add] at hcount
  rw [List.map_map]
  exact hcount

/-- The mismatches in a summary are the requests that have an endpoint of another method only. -/
theorem total_mismatched (entities : List Entity) (pairs : List Pairing) :
    total (((pairs.foldl addCaller (listed entities)).map (·.2)).map (·.mismatched)) =
      pairs.countP isPathOnly := by
  have hcount := total_foldl_addCaller (·.mismatched) isPathOnly total_mismatched_addCaller
    pairs (listed entities)
  have hzero := total_listed (·.mismatched) (fun _ => rfl) entities
  rw [hzero, Nat.zero_add] at hcount
  rw [List.map_map]
  exact hcount

/-- A request has a partner if it reaches an endpoint. -/
theorem isSome_partner (es : List Entity) (s : CallSite) :
    (partner es s).isSome = es.any (reaches s) := by
  rcases partner_cases es s with ⟨hnone, hreach⟩ | ⟨e, he, hfull, hfits⟩ |
    ⟨e, he, hpath, hreach, _⟩
  · rw [hnone, hreach]
    rfl
  · rw [hfull, any_reaches_of_any_fits (List.any_eq_true.2 ⟨e, he, hfits⟩)]
    rfl
  · rw [hpath, List.any_eq_true.2 ⟨e, he, hreach⟩]
    rfl

/-- A request is paired by its path only if it reaches an endpoint and fits none. -/
theorem isPathOnly_partner (es : List Entity) (s : CallSite) :
    isPathOnly (s, partner es s) = (es.any (reaches s) && !es.any (fits s)) := by
  rcases partner_cases es s with ⟨hnone, hreach⟩ | ⟨e, he, hfull, hfits⟩ |
    ⟨e, he, hpath, hreach, hfits⟩
  · rw [hnone, hreach]
    rfl
  · rw [hfull, List.any_eq_true.2 ⟨e, he, hfits⟩, Bool.not_true, Bool.and_false]
    rfl
  · rw [hpath, List.any_eq_true.2 ⟨e, he, hreach⟩, hfits]
    rfl

end Contract

/-! ## References -/

namespace Reference

variable {entities after : List Entity} {refs rs : List Reference} {r : Reference}
  {pairs : List Contract.Pairing}

/-- A request of one entity is paired with another one. -/
def Paired (pairs : List Contract.Pairing) (s e : Entity) (kind : Contract.MatchKind) : Prop :=
  ∃ p ∈ pairs, p.1.entity = s ∧ p.2 = some (e, kind)

/-- The references of requests are those of their pairings. -/
theorem mem_requests_iff (hpairs : Contract.pair entities = .ok pairs)
    (hrs : requests entities = .ok rs) : r ∈ rs ↔ ∃ p ∈ pairs, ofPairing p = some r := by
  rw [requests, hpairs] at hrs
  cases hrs
  exact List.mem_filterMap

/-- A reference of a request that some pass infers comes from a pair. -/
theorem Produced.exists_pairing (h : Produced entities r) (htype : r.type = "api-call")
    (hpairs : Contract.pair entities = .ok pairs) : ∃ p ∈ pairs, ofPairing p = some r := by
  cases h with
  | call hcalls hr =>
      rw [(joins_of_mem_calls hcalls hr).type_eq] at htype
      exact absurd htype (by decide)
  | base hr =>
      rcases joins_of_mem_heritage hr with hjoins | hjoins
      · rw [hjoins.type_eq] at htype
        exact absurd htype (by decide)
      · rw [hjoins.type_eq] at htype
        exact absurd htype (by decide)
  | imported himports hr =>
      rw [(joins_of_mem_imports himports hr).type_eq] at htype
      exact absurd htype (by decide)
  | request hrequests hr => exact (mem_requests_iff hpairs hrequests).1 hr

/-- The confidence that a pair of a kind gives. -/
def requestConfidence (kind : Contract.MatchKind) : Binary64 :=
  if kind == .full then requestFull else requestPathOnly

/-- A reference that is kept for a request from one entity to another one comes from a pair of them,
with the confidence that the pair gives. -/
theorem exists_paired_of_mem (hdistinct : (entities.map (·.id)).Nodup)
    (hpairs : Contract.pair entities = .ok pairs) (h : build entities = .ok (refs, after))
    {s e : Entity} (hs : s ∈ entities) (he : e ∈ entities) (hr : r ∈ refs)
    (hkey : r.key = (s.id, e.id, "api-call")) :
    ∃ kind, Paired pairs s e kind ∧ r.confidence = requestConfidence kind := by
  rcases exists_inferred_of_build h with ⟨rs, hrs, rfl⟩
  have hproduced : Produced entities r := (mem_inferred_iff hrs).1 (mem_of_mem_strongest hr)
  simp only [key, Prod.mk.injEq] at hkey
  rcases hproduced.exists_pairing hkey.2.2 hpairs with ⟨⟨call, hit⟩, hp, hofPairing⟩
  simp only [ofPairing, Option.map_eq_some_iff] at hofPairing
  rcases hofPairing with ⟨⟨e', kind⟩, rfl, rfl⟩
  rcases Contract.mem_of_mem_pair hpairs hp with ⟨hcall, he'⟩
  have hinj := List.inj_on_of_nodup_map hdistinct
  have hsource : call.entity = s := hinj hcall hs hkey.1
  have htarget : e' = e := hinj he' he hkey.2.1
  exact ⟨kind, ⟨_, hp, hsource, by rw [htarget]⟩, rfl⟩

/-- For a pair there is a reference, and it is not less confident than the pair. -/
theorem exists_mem_of_paired (hpairs : Contract.pair entities = .ok pairs)
    (h : build entities = .ok (refs, after)) {s e : Entity} {kind : Contract.MatchKind}
    (hpair : Paired pairs s e kind) :
    ∃ r ∈ refs, r.key = (s.id, e.id, "api-call") ∧
      r.confidence.lt (requestConfidence kind) = false := by
  rcases exists_inferred_of_build h with ⟨rs, hrs, rfl⟩
  rcases hpair with ⟨⟨call, _⟩, hp, rfl, rfl⟩
  have hrequests : ∃ qs, requests entities = .ok qs := by
    rw [requests, hpairs]
    exact ⟨_, rfl⟩
  rcases hrequests with ⟨qs, hqs⟩
  have hproduced := Produced.request hqs ((mem_requests_iff hpairs hqs).2 ⟨_, hp, rfl⟩)
  rcases exists_mem_strongest ((mem_inferred_iff hrs).2 hproduced) with ⟨kept, hkept, hkey, hbest⟩
  exact ⟨kept, hkept, hkey, hbest⟩

/-- The references of requests mirror a pairing: there is one from an entity to another exactly if
a request of the one is paired with the other, and it is the more confident one exactly if one of
these pairs is full. -/
structure Mirrors (entities : List Entity) (pairs : List Contract.Pairing)
    (refs : List Reference) : Prop where
  emitted_iff : ∀ s ∈ entities, ∀ e ∈ entities,
    (∃ r ∈ refs, r.key = (s.id, e.id, "api-call")) ↔ ∃ kind, Paired pairs s e kind
  full_iff : ∀ s ∈ entities, ∀ e ∈ entities, ∀ r ∈ refs, r.key = (s.id, e.id, "api-call") →
    (r.confidence = .ofRat (9 / 10) ↔ Paired pairs s e .full)
  pathOnly : ∀ s ∈ entities, ∀ e ∈ entities, ∀ r ∈ refs, r.key = (s.id, e.id, "api-call") →
    ¬ Paired pairs s e .full → r.confidence = .ofRat (6 / 10)

/-- A full match makes a request's reference more confident. -/
theorem requestPathOnly_lt_requestFull : requestPathOnly.lt requestFull = true := by
  decide +kernel

/-- The references that are built mirror the pairing. -/
theorem mirrors_build (hdistinct : (entities.map (·.id)).Nodup)
    (hpairs : Contract.pair entities = .ok pairs) (h : build entities = .ok (refs, after)) :
    Mirrors entities pairs refs := by
  have hfull : ∀ s ∈ entities, ∀ e ∈ entities, ∀ r ∈ refs, r.key = (s.id, e.id, "api-call") →
      (r.confidence = requestFull ↔ Paired pairs s e .full) := by
    intro s hs e he r hr hkey
    rcases exists_paired_of_mem hdistinct hpairs h hs he hr hkey with ⟨kind, hpair, hconfidence⟩
    constructor
    · intro heq
      cases kind with
      | full => exact hpair
      | pathOnly =>
          have hlt := requestPathOnly_lt_requestFull
          rw [hconfidence] at heq
          rw [← heq, requestConfidence] at hlt
          exact absurd hlt (by simp [Binary64.lt_irrefl])
    · intro hpair'
      rcases exists_mem_of_paired hpairs h hpair' with ⟨kept, hkept, hkey', hbest⟩
      -- Keys are distinct, so the reference at hand is the one that is kept for the full pair.
      rcases exists_inferred_of_build h with ⟨rs, _, rfl⟩
      have hsame : kept = r :=
        List.inj_on_of_nodup_map (nodup_keys_strongest rs) hkept hr (hkey'.trans hkey.symm)
      subst hsame
      cases kind with
      | full => exact hconfidence
      | pathOnly =>
          rw [hconfidence] at hbest
          exact absurd hbest (by simp [requestConfidence, requestPathOnly_lt_requestFull])
  refine ⟨?_, hfull, ?_⟩
  · intro s hs e he
    constructor
    · rintro ⟨r, hr, hkey⟩
      rcases exists_paired_of_mem hdistinct hpairs h hs he hr hkey with ⟨kind, hpair, _⟩
      exact ⟨kind, hpair⟩
    · rintro ⟨kind, hpair⟩
      rcases exists_mem_of_paired hpairs h hpair with ⟨r, hr, hkey, _⟩
      exact ⟨r, hr, hkey⟩
  · intro s hs e he r hr hkey hnot
    rcases exists_paired_of_mem hdistinct hpairs h hs he hr hkey with ⟨kind, hpair, hconfidence⟩
    cases kind with
    | full => exact absurd hpair hnot
    | pathOnly => exact hconfidence

/-- Building references over a pairing fails only for calls or imports. -/
theorem fails_build_iff (hpairs : Contract.pair entities = .ok pairs) :
    Fails (build entities) ↔ Fails (calls entities) ∨ Fails (imports entities) := by
  have hrequests : ¬ Fails (requests entities) := by
    rw [requests, hpairs]
    exact not_fails_ok _
  have hinferred : Fails (build entities) ↔ Fails (inferred entities) := by
    rw [build, fails_bind_iff]
    simp
  rw [hinferred, inferred, fails_bind_iff]
  constructor
  · rintro (hcalls | ⟨cs, _, hrest⟩)
    · exact Or.inl hcalls
    · rw [fails_bind_iff] at hrest
      rcases hrest with himports | ⟨is, _, hrest⟩
      · exact Or.inr himports
      · rw [fails_bind_iff] at hrest
        rcases hrest with hfails | ⟨qs, _, hend⟩
        · exact absurd hfails hrequests
        · exact absurd hend (not_fails_pure _)
  · rintro (hcalls | himports)
    · exact Or.inl hcalls
    · cases hcalls : calls entities with
      | error f => exact Or.inl (fails_error f)
      | ok cs => exact Or.inr ⟨cs, rfl, fails_bind_iff.2 (Or.inl himports)⟩

end Reference

/-! ## Agreement -/

namespace Contract

variable {entities : List Entity}

/-- A pair is justified by the endpoints: without an endpoint nothing is reached, a full one fits,
and with any other nothing fits. -/
def Justified (es : List Entity) (p : Pairing) : Prop :=
  match p.2 with
  | none => es.any (reaches p.1) = false
  | some (e, .full) => e ∈ es ∧ fits p.1 e = true
  | some (e, .pathOnly) => e ∈ es ∧ reaches p.1 e = true ∧ es.any (fits p.1) = false

/-- The pairing of a request with its partner is justified. -/
theorem justified_partner (es : List Entity) (s : CallSite) : Justified es (s, partner es s) := by
  rcases partner_cases es s with ⟨hnone, hreach⟩ | ⟨e, he, hfull, hfits⟩ |
    ⟨e, he, hpath, hreach, hfits⟩
  · rw [hnone]
    exact hreach
  · rw [hfull]
    exact ⟨he, hfits⟩
  · rw [hpath]
    exact ⟨he, hreach, hfits⟩

/-- Pairs, findings and summary agree with the requests of entities. -/
structure Agreement (entities : List Entity) (sites : List CallSite) (pairs : List Pairing)
    (findings : List Finding) (usage : List Usage) : Prop where
  /-- Each request is paired once, in order. -/
  sites_eq : pairs.map (·.1) = sites
  justified : ∀ p ∈ pairs, Justified (endpoints entities) p
  /-- Requests that reach no endpoint are reported as such. -/
  missing : findings.countP isMissing =
    sites.countP fun s => !(endpoints entities).any (reaches s)
  /-- Requests that reach an endpoint but fit none are reported as such. -/
  mismatch : findings.countP isMismatch = sites.countP fun s =>
    (endpoints entities).any (reaches s) && !(endpoints entities).any (fits s)
  mismatched : total (usage.map (·.mismatched)) = findings.countP isMismatch
  callers : total (usage.map (·.callers.length)) + findings.countP isMissing = sites.length
  /-- The findings are those on each request and its partner, in order. -/
  findings_eq : findings = sites.flatMap (findingsOn (endpoints entities))
  /-- A request that fits an endpoint has no finding of both kinds. -/
  fitting : ∀ s ∈ sites, (endpoints entities).any (fits s) = true →
    ∀ f ∈ findingsOn (endpoints entities) s, isMissing f = false ∧ isMismatch f = false

/-- If no two entities have the same name and their notes on requests are well typed, requests,
pairs, findings and summary can all be computed and agree, the references of requests mirror the
pairs, and only calls and imports can keep them from being built. -/
theorem readers_agree (hdistinct : (entities.map (·.id)).Nodup)
    (htyped : ∀ e ∈ entities, hasWellTypedNotes e = true) :
    ∃ sites pairs findings usage, callSites entities = .ok sites ∧ pair entities = .ok pairs ∧
      validate entities = .ok findings ∧ summarize entities = .ok usage ∧
      Agreement entities sites pairs findings usage ∧
      (Fails (Reference.build entities) ↔
        Fails (Reference.calls entities) ∨ Fails (Reference.imports entities)) ∧
      ∀ refs after, Reference.build entities = .ok (refs, after) →
        Reference.Mirrors entities pairs refs := by
  rcases exists_callSites_eq_ok htyped with ⟨sites, hsites, hsound⟩
  have hpairs := pair_eq_ok hsites hsound
  refine ⟨sites, _, _, _, hsites, hpairs, validate_eq_ok hsites hsound, summarize_eq_ok hpairs, ?_,
    Reference.fails_build_iff hpairs,
    fun refs after h => Reference.mirrors_build hdistinct hpairs h⟩
  have hmissing := countP_flatMap_eq (countP_isMissing (endpoints entities)) sites
  have hmismatch := countP_flatMap_eq (countP_isMismatch (endpoints entities)) sites
  refine ⟨?_, ?_, hmissing, hmismatch, ?_, ?_, rfl, ?_⟩
  · rw [List.map_map]
    exact List.map_id sites
  · intro p hp
    rcases List.mem_map.1 hp with ⟨s, _, rfl⟩
    exact justified_partner (endpoints entities) s
  · rw [total_mismatched, List.countP_map, hmismatch]
    apply List.countP_congr
    intro s _
    simp [isPathOnly_partner]
  · have hcallers : (sites.map fun s => (s, partner (endpoints entities) s)).countP (·.2.isSome) =
        sites.countP fun s => (endpoints entities).any (reaches s) := by
      rw [List.countP_map]
      apply List.countP_congr
      intro s _
      simp [isSome_partner]
    rw [total_callers, hcallers, hmissing,
      List.length_eq_countP_add_countP fun s => (endpoints entities).any (reaches s)]
    congr 1
    apply List.countP_congr
    intro s _
    cases (endpoints entities).any (reaches s) <;> decide
  · intro s _ hfits f hf
    rcases partner_cases (endpoints entities) s with ⟨_, hreach⟩ | ⟨e, _, hfull, _⟩ |
      ⟨e, _, _, _, hnone⟩
    · rw [any_reaches_of_any_fits hfits] at hreach
      cases hreach
    · exact not_isMissing_of_mem_partnerRules (rule_mem_of_full hfull hf)
    · rw [hfits] at hnone
      cases hnone

/-- Two endpoints that share a route, and a client that asks for the same user by three methods and
for something that is not there. -/
def shop : List Entity :=
  [{ id := "python:GET /users/:id", name := "GET /users/:id", language := "python"
     file := "server.py", type := "endpoint", startLine := 10, endLine := 14
     apiEndpoint := some "/users/:id", apiMethod := some "get" },
   { id := "python:PUT /users", name := "PUT /users", language := "python"
     file := "server.py", type := "endpoint", startLine := 20, endLine := 24
     apiEndpoint := some "/users/\x7bid\x7d", apiMethod := some "PUT" },
   { id := "typescript:load", name := "load", language := "typescript", file := "client.ts"
     type := "function", startLine := 1, endLine := 9
     metadata := [("api_calls", .arr [
       .obj [("method", .str "GET"), ("url", .str "/users/7"), ("line", .int 2)],
       .obj [("method", .str "delete"), ("url", .str "/users/7"), ("line", .int 3)],
       .obj [("url", .str "/orders"), ("line", .int 4)],
       .obj [("method", .null), ("url", .str "/users/8?all=1")]])] }]

/-- A shop with four requests: one of another method, one without an endpoint, and one that is built
into a reference. -/
theorem readers_agree_shop :
    (shop.map (·.id)).Nodup ∧ (∀ e ∈ shop, hasWellTypedNotes e = true) ∧
      ∃ sites pairs findings usage, callSites shop = .ok sites ∧ pair shop = .ok pairs ∧
        validate shop = .ok findings ∧ summarize shop = .ok usage ∧
        Agreement shop sites pairs findings usage ∧ sites.length = 4 ∧
        findings.map (·.rule) = ["method-mismatch", "missing-endpoint"] ∧
        ∃ refs after, Reference.build shop = .ok (refs, after) ∧
          Reference.Mirrors shop pairs refs ∧ refs.length = 1 := by
  have hdistinct : (shop.map (·.id)).Nodup := by decide
  have htyped : ∀ e ∈ shop, hasWellTypedNotes e = true := by decide
  refine ⟨hdistinct, htyped, ?_⟩
  rcases readers_agree hdistinct htyped with
    ⟨sites, pairs, findings, usage, hsites, hpairs, hvalidate, hsummarize, hagree, _, hmirrors⟩
  have hcount : (callSites shop).map List.length = .ok 4 := by decide +kernel
  have hrules : (validate shop).map (fun fs => fs.map (·.rule)) =
      .ok ["method-mismatch", "missing-endpoint"] := by
    decide +kernel
  have hbuild : (Reference.build shop).map (fun p => p.1.length) = .ok 1 := by decide +kernel
  rw [hsites] at hcount
  rw [hvalidate] at hrules
  rcases map_eq_ok_iff.1 hbuild with ⟨⟨refs, after⟩, hrefs, hlength⟩
  exact ⟨sites, pairs, findings, usage, hsites, hpairs, hvalidate, hsummarize, hagree,
    Except.ok.inj hcount, Except.ok.inj hrules, refs, after, hrefs, hmirrors refs after hrefs,
    hlength⟩

end Contract
end CrossAudit
