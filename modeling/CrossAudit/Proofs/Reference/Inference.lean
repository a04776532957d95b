import CrossAudit.Proofs.Failing
import CrossAudit.Reference.Resolution

/-!
# What the passes infer

Each of the four passes that look for references finds both ends of a reference among the given
entities, and takes its confidence from a fixed list.  Only a request may lead from an entity to
itself.

Main results:

- Theorem `Contract.mem_of_mem_pair`: a request and its endpoint belong to given entities.
- Theorem `Produced.exists_joins`: a reference that some pass infers joins two of the entities in
  one of five kinds.
-/

namespace CrossAudit

variable {entities : List Entity}

/-! ## Requests and their endpoints -/

namespace Contract

theorem entity_eq_of_readNote {e : Entity} {note : Json} {call : CallSite}
    (h : readNote e note = .ok call) : call.entity = e := by
  simp only [readNote, bind_eq_ok_iff] at h
  rcases h with ⟨_, _, _, _, _, _, _, _, _, _, _, _, h⟩
  cases h
  rfl

/-- A request is noted by one of the entities. -/
theorem entity_mem_of_mem_callSites {calls : List CallSite} {call : CallSite}
    (h : callSites entities = .ok calls) (hcall : call ∈ calls) : call.entity ∈ entities := by
  rcases exists_of_mem_flatten_mapM h hcall with ⟨e, he, found, hfound, hcall⟩
  rw [callsOf, bind_eq_ok_iff] at hfound
  rcases hfound with ⟨notes, _, hread⟩
  rcases exists_of_mem_mapM hread hcall with ⟨note, _, hnote⟩
  rw [entity_eq_of_readNote hnote]
  exact he

theorem mem_of_mem_pathHits {es hits : List Entity} {url : Json} {e : Entity}
    (h : pathHits es url = .ok hits) (he : e ∈ hits) : e ∈ es := by
  unfold pathHits at h
  split at h
  · cases h
    exact he
  · cases h
    exact (List.mem_filter.1 he).1
  · cases h

theorem mem_of_choose {method : String} {hits : List Entity} {e : Entity} {kind : MatchKind}
    (h : choose method hits = some (e, kind)) : e ∈ hits := by
  unfold choose at h
  split at h
  · rename_i hfound
    cases h
    exact List.mem_of_find?_eq_some hfound
  · simp only [Option.map_eq_some_iff, Prod.mk.injEq] at h
    rcases h with ⟨e', hhead, rfl, _⟩
    exact List.mem_of_head? hhead

/-- A request and its endpoint belong to given entities. -/
theorem mem_of_mem_pair {ps : List Pairing} {call : CallSite} {e : Entity} {kind : MatchKind}
    (h : pair entities = .ok ps) (hp : (call, some (e, kind)) ∈ ps) :
    call.entity ∈ entities ∧ e ∈ entities := by
  rw [pair, bind_eq_ok_iff] at h
  rcases h with ⟨calls, hcalls, h⟩
  rcases exists_of_mem_mapM h hp with ⟨call', hcall', hchosen⟩
  rw [bind_eq_ok_iff] at hchosen
  rcases hchosen with ⟨hits, hhits, hchosen⟩
  simp only [pure, Except.pure, Except.ok.injEq, Prod.mk.injEq] at hchosen
  rcases hchosen with ⟨rfl, hchosen⟩
  have he : e ∈ endpoints entities := mem_of_mem_pathHits hhits (mem_of_choose hchosen)
  exact ⟨entity_mem_of_mem_callSites hcalls hcall', (List.mem_filter.1 he).1⟩

end Contract

namespace Reference

variable {r : Reference}

/-! ## What a pass may find -/

/-- Every confidence that a pass gives. -/
def confidences : List Binary64 :=
  [callSameFile, callSameLanguage, callAcross, baseSameLanguage, baseAcross, importResolved,
    requestFull, requestPathOnly]

/-- The kinds of references whose ends differ. -/
def properTypes : List String :=
  ["calls", "extends", "implements", "imports"]

/-- A reference of a kind from one entity to another, or to the same one by a request. -/
def Joins (entities : List Entity) (type : String) (r : Reference) : Prop :=
  ∃ source ∈ entities, ∃ target ∈ entities, ∃ sure ∈ confidences, ∃ protocol metadata,
    r = between source target type protocol sure metadata ∧
      (type ∈ properTypes → target.id ≠ source.id)

/-- A reference that one of the four passes infers. -/
inductive Produced (entities : List Entity) (r : Reference) : Prop where
  | call {rs : List Reference} : calls entities = .ok rs → r ∈ rs → Produced entities r
  | base : r ∈ heritage entities → Produced entities r
  | imported {rs : List Reference} : imports entities = .ok rs → r ∈ rs → Produced entities r
  | request {rs : List Reference} : requests entities = .ok rs → r ∈ rs → Produced entities r

/-! ## Calls -/

theorem mem_of_mem_callCandidates {name : String} {e : Entity}
    (h : e ∈ callCandidates entities name) : e ∈ entities := by
  simp only [callCandidates] at h
  split at h
  · exact (List.mem_filter.1 h).1
  · exact (List.mem_filter.1 h).1

/-- The closest candidate is one of them, and is not the caller. -/
theorem mem_of_closest {source target : Entity} {candidates : List Entity} {sure : Binary64}
    (h : closest source candidates = some (target, sure)) :
    target ∈ candidates ∧ target.id ≠ source.id ∧ sure ∈ confidences := by
  -- Whichever list the target heads, it was taken from the others.
  have hothers : target ∈ (candidates.filter fun c => c.id != source.id) ∧ sure ∈ confidences := by
    simp only [closest] at h
    split at h
    · rename_i hlist
      cases h
      have hmem := hlist ▸ List.mem_cons_self
      exact ⟨(List.mem_filter.1 (List.mem_filter.1 hmem).1).1, by simp [confidences]⟩
    · rename_i hlist
      cases h
      have hmem := hlist ▸ List.mem_cons_self
      exact ⟨(List.mem_filter.1 hmem).1, by simp [confidences]⟩
    · rename_i hlist
      cases h
      have hmem := hlist ▸ List.mem_cons_self
      exact ⟨(List.mem_filter.1 hmem).1, by simp [confidences]⟩
    · rename_i hlist
      cases h
      exact ⟨hlist ▸ List.mem_cons_self, by simp [confidences]⟩
    · cases h
  have htarget := List.mem_filter.1 hothers.1
  exact ⟨htarget.1, by simpa using htarget.2, hothers.2⟩

theorem joins_of_mem_ofCallName {source : Entity} {name : Json} {rs : List Reference}
    (hsource : source ∈ entities) (h : ofCallName entities source name = .ok rs) (hr : r ∈ rs) :
    Joins entities "calls" r := by
  unfold ofCallName at h
  split at h
  · cases h
    simp only [Option.mem_toList, Option.map_eq_some_iff] at hr
    rcases hr with ⟨⟨target, sure⟩, hclosest, rfl⟩
    rcases mem_of_closest hclosest with ⟨hcandidate, hne, hsure⟩
    exact ⟨source, hsource, target, mem_of_mem_callCandidates hcandidate, sure, hsure, _, _, rfl,
      fun _ => hne⟩
  · cases h

/-- A call leads from an entity to another one. -/
theorem joins_of_mem_calls {rs : List Reference} (h : calls entities = .ok rs) (hr : r ∈ rs) :
    Joins entities "calls" r := by
  rcases exists_of_mem_flatten_mapM h hr with ⟨source, hsource, found, hfound, hr⟩
  rw [bind_eq_ok_iff] at hfound
  rcases hfound with ⟨names, _, hfound⟩
  rcases exists_of_mem_flatten_mapM hfound hr with ⟨name, _, found', hname, hr⟩
  exact joins_of_mem_ofCallName hsource hname hr

/-! ## Base types -/

theorem joins_of_ofBase {source : Entity} {type raw : String} (hsource : source ∈ entities)
    (h : ofBase entities source type raw = some r) : Joins entities type r := by
  have hcandidate : ∀ c, c ∈ (entities.filter fun c => baseTypes.contains c.type &&
      c.name == baseName raw && c.id != source.id) → c ∈ entities ∧ c.id ≠ source.id := by
    intro c hc
    have hkept := List.mem_filter.1 hc
    simp only [Bool.and_eq_true, bne_iff_ne] at hkept
    exact ⟨hkept.1, hkept.2.2⟩
  simp only [ofBase] at h
  split at h
  · rename_i target hfound
    cases h
    rcases hcandidate target (List.mem_of_find?_eq_some hfound) with ⟨htarget, hne⟩
    exact ⟨source, hsource, target, htarget, _, by simp [confidences], _, _, rfl, fun _ => hne⟩
  · simp only [Option.map_eq_some_iff] at h
    rcases h with ⟨target, hhead, rfl⟩
    rcases hcandidate target (List.mem_of_head? hhead) with ⟨htarget, hne⟩
    exact ⟨source, hsource, target, htarget, _, by simp [confidences], _, _, rfl, fun _ => hne⟩

/-- A base leads from an entity to another one. -/
theorem joins_of_mem_heritage (hr : r ∈ heritage entities) :
    Joins entities "extends" r ∨ Joins entities "implements" r := by
  simp only [heritage, List.mem_flatMap, List.mem_append, List.mem_filterMap] at hr
  rcases hr with ⟨source, hsource, ⟨raw, _, hbase⟩ | ⟨raw, _, hbase⟩⟩
  · exact Or.inl (joins_of_ofBase hsource hbase)
  · exact Or.inr (joins_of_ofBase hsource hbase)

/-! ## Imports -/

/-- The best of several modules is one of them, or the one to begin with. -/
theorem mem_of_foldl_betterModule {key : List String} {modules : List Entity}
    {best : Option Entity} {c : Entity} (h : modules.foldl (betterModule key) best = some c) :
    c ∈ modules ∨ best = some c := by
  induction modules generalizing best with
  | nil => exact Or.inr h
  | cons m modules ih =>
      rw [List.foldl_cons] at h
      rcases ih h with hc | hc
      · exact Or.inl (List.mem_cons_of_mem _ hc)
      · unfold betterModule at hc
        split at hc
        · split at hc
          · cases hc
            exact Or.inl List.mem_cons_self
          · exact Or.inr hc
        · cases hc
          exact Or.inl List.mem_cons_self

theorem mem_of_importedModule? {modules : List Entity} {source target : Entity}
    {key : List String} (h : importedModule? modules source key = some target) :
    target ∈ modules ∧ target.id ≠ source.id := by
  rcases mem_of_foldl_betterModule h with hmem | hnone
  · have htarget := List.mem_filter.1 hmem
    have hkeep := htarget.2
    simp only [Bool.and_eq_true, bne_iff_ne] at hkeep
    exact ⟨htarget.1, hkeep.1.2⟩
  · cases hnone

/-- An import leads from a module to another one. -/
theorem joins_of_mem_imports {rs : List Reference} (h : imports entities = .ok rs) (hr : r ∈ rs) :
    Joins entities "imports" r := by
  rcases exists_of_mem_flatten_mapM h hr with ⟨source, hsource, found, hfound, hr⟩
  rw [bind_eq_ok_iff] at hfound
  rcases hfound with ⟨notes, _, hfound⟩
  rw [bind_eq_ok_iff] at hfound
  rcases hfound with ⟨found', hfound', hfilter⟩
  cases hfilter
  simp only [List.mem_filterMap, id_eq, exists_eq_right] at hr
  rcases exists_of_mem_mapM hfound' hr with ⟨note, _, hnote⟩
  rw [ofImport, bind_eq_ok_iff] at hnote
  rcases hnote with ⟨member, _, hnote⟩
  split at hnote
  · simp only [pure, Except.pure, Except.ok.injEq, Option.map_eq_some_iff] at hnote
    rcases hnote with ⟨target, htarget, rfl⟩
    rcases mem_of_importedModule? htarget with ⟨hmodule, hne⟩
    exact ⟨source, (List.mem_filter.1 hsource).1, target, (List.mem_filter.1 hmodule).1, _,
      by simp [confidences], _, _, rfl, fun _ => hne⟩
  · cases hnote

/-! ## Requests -/

/-- A request leads from an entity to an endpoint, which may be the same. -/
theorem joins_of_mem_requests {rs : List Reference} (h : requests entities = .ok rs)
    (hr : r ∈ rs) : Joins entities "api-call" r := by
  rw [requests, bind_eq_ok_iff] at h
  rcases h with ⟨ps, hps, h⟩
  cases h
  simp only [List.mem_filterMap, ofPairing, Option.map_eq_some_iff] at hr
  rcases hr with ⟨⟨call, hit⟩, hp, ⟨e, kind⟩, rfl, rfl⟩
  rcases Contract.mem_of_mem_pair hps hp with ⟨hcall, he⟩
  refine ⟨call.entity, hcall, e, he, _, ?_, _, _, rfl, by simp [properTypes]⟩
  split <;> simp [confidences]

/-! ## All passes -/

/-- The kinds of references that are inferred. -/
def inferredTypes : List String :=
  ["calls", "extends", "implements", "imports", "api-call"]

/-- A reference that some pass infers joins two of the entities in one of five kinds. -/
theorem Produced.exists_joins (h : Produced entities r) :
    ∃ type ∈ inferredTypes, Joins entities type r := by
  cases h with
  | call hcalls hr => exact ⟨"calls", by simp [inferredTypes], joins_of_mem_calls hcalls hr⟩
  | base hr =>
      rcases joins_of_mem_heritage hr with hjoins | hjoins
      · exact ⟨"extends", by simp [inferredTypes], hjoins⟩
      · exact ⟨"implements", by simp [inferredTypes], hjoins⟩
  | imported himports hr =>
      exact ⟨"imports", by simp [inferredTypes], joins_of_mem_imports himports hr⟩
  | request hrequests hr =>
      exact ⟨"api-call", by simp [inferredTypes], joins_of_mem_requests hrequests hr⟩

end Reference
end CrossAudit
