import CrossAudit.Proofs.Contract.Readability
import CrossAudit.Proofs.Text.Pieces

/-!
# Calls lead to the closest candidate

A called name is looked up by its last part.  It means the functions of that name, or the classes,
schemas and structs of that name if there is no such function.  Of those, the caller itself apart,
the call goes to one that shares the caller's file and class, or else its file, or else its
language, as long as there is one; of several it goes to the first.

Main results:

- Theorem `closest_eq_find?`: the closest candidate is the first that passes one test.
- Theorem `ofCallName_eq`: the reference of a called name, through a search of all entities.
- Theorem `calls_resolved`: what each called name yields, and that `build` returns nothing else.
-/

namespace CrossAudit

/-! ## Candidates -/

/-- A name is one of the entity's called names. -/
def Entity.CallsByName (e : Entity) (call : String) : Prop :=
  ∃ names, ((e.metadata.lookup "call_names").getD (.arr [])).elements = .ok names ∧
    .str call ∈ names

namespace Reference

variable {entities : List Entity} {source target : Entity} {name call : String}

/-- An entity is what a name means when it is called: a function of that name, or, if there is no
such function, a class, schema or struct of that name. -/
def Answers (entities : List Entity) (name : String) (e : Entity) : Prop :=
  e.name = name ∧ (e.type = "function" ∨
    (∀ f ∈ entities, f.name = name → f.type ≠ "function") ∧ e.type ∈ ["class", "schema", "struct"])

/-- What a called name may lead to: what the name means, without the caller itself. -/
structure Candidate (entities : List Entity) (source : Entity) (name : String) (e : Entity) :
    Prop where
  mem : e ∈ entities
  answers : Answers entities name e
  ne : e ≠ source

/-- Two entities share a file and the name of a class. -/
def SharesClass (source e : Entity) : Prop :=
  e.file = source.file ∧ ∃ name, name ≠ "" ∧ source.className = some name ∧ e.className = some name

/-- An entity is as close to a caller as any candidate: it shares the file and the class if one
does, the file if one does, and the language if one does and none shares the file. -/
structure Preferred (entities : List Entity) (source : Entity) (name : String) (e : Entity) :
    Prop where
  shares_class : (∃ c, Candidate entities source name c ∧ SharesClass source c) →
    SharesClass source e
  shares_file : (∃ c, Candidate entities source name c ∧ c.file = source.file) →
    e.file = source.file
  shares_language : (∀ c, Candidate entities source name c → c.file ≠ source.file) →
    (∃ c, Candidate entities source name c ∧ c.language = source.language) →
    e.language = source.language

/-- The first of the candidates that are as close to the caller as any. -/
structure Closest (entities : List Entity) (source : Entity) (name : String) (target : Entity) :
    Prop where
  candidate : Candidate entities source name target
  preferred : Preferred entities source name target
  first : ∃ before after, entities = before ++ target :: after ∧
    ∀ c ∈ before, Candidate entities source name c → ¬ Preferred entities source name c

/-- How sure a call is: in one file, in one language, or across languages. -/
def callConfidence (source target : Entity) : Binary64 :=
  if target.file = source.file then .ofRat (9 / 10)
  else if target.language = source.language then .ofRat (7 / 10)
  else .ofRat (4 / 10)

/-- The reference of a called name that leads to an entity. -/
def callReference (source target : Entity) (call : String) : Reference :=
  between source target "calls" "direct" (callConfidence source target) [("name", .str call)]

/-! ## The closest candidate is the first that passes one test -/

/-- Whether two entities share a file and the name of a class. -/
def sharesClass (source e : Entity) : Bool :=
  e.file == source.file && (source.className.getD "" != "" && e.className == source.className)

/-- The test that a caller puts candidates to, given all of them. -/
def preference (source : Entity) (others : List Entity) : Entity → Bool :=
  if others.any (sharesClass source) then sharesClass source
  else if others.any (·.file == source.file) then (·.file == source.file)
  else if others.any (·.language == source.language) then (·.language == source.language)
  else fun _ => true

/-- What heads a filtered list is what is found first. -/
theorem found_of_filter_eq_cons {p : Entity → Bool} {es rest : List Entity} {e : Entity}
    (h : es.filter p = e :: rest) : es.any p = true ∧ es.find? p = some e ∧ e ∈ es ∧ p e = true := by
  have hmem : e ∈ es.filter p := h ▸ List.mem_cons_self
  have he := List.mem_filter.1 hmem
  refine ⟨List.any_eq_true.2 ⟨e, he⟩, ?_, he⟩
  rw [← List.head?_filter, h, List.head?_cons]

theorem any_eq_false_of_filter_eq_nil {p : Entity → Bool} {es : List Entity}
    (h : es.filter p = []) : es.any p = false :=
  List.any_eq_false.2 (List.filter_eq_nil_iff.1 h)

/-- The closest candidate is the first of the others that passes the caller's test. -/
theorem closest_eq_find? (source : Entity) (candidates : List Entity) :
    closest source candidates =
      ((candidates.filter fun c => c.id != source.id).find?
        (preference source (candidates.filter fun c => c.id != source.id))).map
        fun t => (t, callConfidence source t) := by
  simp only [closest]
  generalize candidates.filter (fun c => c.id != source.id) = others
  have hclass : (others.filter fun c => c.file == source.file).filter (fun c =>
      source.className.getD "" != "" && c.className == source.className) =
      others.filter (sharesClass source) := by
    rw [List.filter_filter]
    refine List.filter_congr fun c _ => ?_
    rw [sharesClass, Bool.and_comm]
  rw [hclass]
  -- The lists are looked at in this order, and the first that is not empty decides.
  cases hsame : others.filter (sharesClass source) with
  | cons c rest =>
      rcases found_of_filter_eq_cons hsame with ⟨hany, hfind, _, hc⟩
      have hfile : c.file = source.file := by
        simp only [sharesClass, Bool.and_eq_true, beq_iff_eq] at hc
        exact hc.1
      simp [preference, hany, hfind, callConfidence, hfile, callSameFile]
  | nil =>
      have hnone := any_eq_false_of_filter_eq_nil hsame
      cases hfiles : others.filter (fun c => c.file == source.file) with
      | cons c rest =>
          rcases found_of_filter_eq_cons hfiles with ⟨hany, hfind, _, hc⟩
          have hfile : c.file = source.file := by simpa using hc
          simp [preference, hnone, hany, hfind, callConfidence, hfile, callSameFile]
      | nil =>
          have hnofile := List.any_eq_false.1 (any_eq_false_of_filter_eq_nil hfiles)
          cases hlanguages : others.filter (fun c => c.language == source.language) with
          | cons c rest =>
              rcases found_of_filter_eq_cons hlanguages with ⟨hany, hfind, hmem, hc⟩
              have hfile : c.file ≠ source.file := by simpa using hnofile c hmem
              have hlanguage : c.language = source.language := by simpa using hc
              simp [preference, hnone, any_eq_false_of_filter_eq_nil hfiles, hany, hfind,
                callConfidence, hfile, hlanguage, callSameLanguage]
          | nil =>
              have hnolanguage := List.any_eq_false.1 (any_eq_false_of_filter_eq_nil hlanguages)
              have htest : preference source others = fun _ => true := by
                simp [preference, hnone, any_eq_false_of_filter_eq_nil hfiles,
                  any_eq_false_of_filter_eq_nil hlanguages]
              rw [htest]
              cases others with
              | nil => rfl
              | cons c rest =>
                  have hfile : c.file ≠ source.file := by simpa using hnofile c List.mem_cons_self
                  have hlanguage : c.language ≠ source.language := by
                    simpa using hnolanguage c List.mem_cons_self
                  simp [callConfidence, hfile, hlanguage, callAcross]

/-! ## Candidates and preference as tests -/

theorem sharesClass_iff {e : Entity} : sharesClass source e = true ↔ SharesClass source e := by
  simp only [sharesClass, SharesClass, Bool.and_eq_true, beq_iff_eq, bne_iff_ne]
  refine and_congr_right fun _ => ?_
  cases hclass : source.className with
  | none => simp
  | some cls =>
      constructor
      · rintro ⟨hne, heq⟩
        exact ⟨cls, by simpa using hne, rfl, heq⟩
      · rintro ⟨_, hne, ⟨⟩, heq⟩
        exact ⟨by simpa using hne, heq⟩

instance (entities : List Entity) (name : String) : DecidablePred (Answers entities name) :=
  fun e => inferInstanceAs (Decidable (e.name = name ∧ (e.type = "function" ∨
    (∀ f ∈ entities, f.name = name → f.type ≠ "function") ∧ e.type ∈ ["class", "schema", "struct"])))

/-- The entities that a called name may mean are those that answer to it. -/
theorem callCandidates_eq (entities : List Entity) (name : String) :
    callCandidates entities name = entities.filter fun e => decide (Answers entities name e) := by
  simp only [callCandidates]
  split
  · rename_i hempty
    have hno : ∀ f ∈ entities, f.name = name → f.type ≠ "function" := by
      intro f hf hname htype
      have hnot := List.filter_eq_nil_iff.1 (List.isEmpty_iff.1 hempty) f hf
      simp [htype, hname] at hnot
    refine List.filter_congr fun e he => ?_
    have htype := hno e he
    rw [Bool.eq_iff_iff, decide_eq_true_iff]
    simp only [Bool.and_eq_true, List.contains_iff_mem, beq_iff_eq, Answers]
    tauto
  · rename_i hsome
    have hex : ¬ ∀ f ∈ entities, f.name = name → f.type ≠ "function" := by
      intro hno
      apply hsome
      rw [List.isEmpty_iff, List.filter_eq_nil_iff]
      intro f hf
      have htype := hno f hf
      simp only [Bool.and_eq_true, beq_iff_eq]
      tauto
    refine List.filter_congr fun e _ => ?_
    rw [Bool.eq_iff_iff, decide_eq_true_iff]
    simp only [Bool.and_eq_true, beq_iff_eq, Answers]
    tauto

section Search

variable {others : List Entity}

/-- A candidate passes the caller's test if it is as close as any. -/
theorem preference_iff (hothers : ∀ c, c ∈ others ↔ Candidate entities source name c)
    (e : Entity) : preference source others e = true ↔ Preferred entities source name e := by
  have hclass : others.any (sharesClass source) = true ↔
      ∃ c, Candidate entities source name c ∧ SharesClass source c := by
    simp only [List.any_eq_true, sharesClass_iff, hothers]
  have hfile : (others.any fun c => c.file == source.file) = true ↔
      ∃ c, Candidate entities source name c ∧ c.file = source.file := by
    simp only [List.any_eq_true, beq_iff_eq, hothers]
  have hlanguage : (others.any fun c => c.language == source.language) = true ↔
      ∃ c, Candidate entities source name c ∧ c.language = source.language := by
    simp only [List.any_eq_true, beq_iff_eq, hothers]
  unfold preference
  split
  · rename_i h
    rw [sharesClass_iff]
    rcases hclass.1 h with ⟨c, hc, hshares⟩
    exact ⟨fun he => ⟨fun _ => he, fun _ => he.1, fun hno => absurd hshares.1 (hno c hc)⟩,
      fun he => he.shares_class ⟨c, hc, hshares⟩⟩
  · rename_i hnoclass
    rw [hclass] at hnoclass
    split
    · rename_i h
      rw [beq_iff_eq]
      rcases hfile.1 h with ⟨c, hc, hshares⟩
      exact ⟨fun he => ⟨fun h => absurd h hnoclass, fun _ => he,
        fun hno => absurd hshares (hno c hc)⟩, fun he => he.shares_file ⟨c, hc, hshares⟩⟩
    · rename_i hnofile
      rw [hfile] at hnofile
      split
      · rename_i h
        rw [beq_iff_eq]
        exact ⟨fun he => ⟨fun h => absurd h hnoclass, fun h => absurd h hnofile, fun _ _ => he⟩,
          fun he => he.shares_language (fun c hc heq => hnofile ⟨c, hc, heq⟩) (hlanguage.1 h)⟩
      · rename_i hnolanguage
        rw [hlanguage] at hnolanguage
        exact ⟨fun _ => ⟨fun h => absurd h hnoclass, fun h => absurd h hnofile,
          fun _ h => absurd h hnolanguage⟩, fun _ => rfl⟩

/-- Where there are candidates, one of them passes the caller's test. -/
theorem exists_preference (source : Entity) (h : others ≠ []) :
    ∃ c ∈ others, preference source others c = true := by
  unfold preference
  split
  · exact List.any_eq_true.1 ‹_›
  · split
    · exact List.any_eq_true.1 ‹_›
    · split
      · exact List.any_eq_true.1 ‹_›
      · rcases List.exists_mem_of_ne_nil others h with ⟨c, hc⟩
        exact ⟨c, hc, rfl⟩

end Search

/-! ## The search for a target -/

/-- The candidates for a called name, in the order of the entities. -/
def others (entities : List Entity) (source : Entity) (name : String) : List Entity :=
  (callCandidates entities name).filter fun c => c.id != source.id

/-- The entity that a called name leads to. -/
def target? (entities : List Entity) (source : Entity) (name : String) : Option Entity :=
  (others entities source name).find? (preference source (others entities source name))

section Distinct

variable (hdistinct : (entities.map (·.id)).Nodup) (hsource : source ∈ entities) (name : String)
include hdistinct hsource

theorem mem_others_iff (c : Entity) :
    c ∈ others entities source name ↔ Candidate entities source name c := by
  rw [others, callCandidates_eq, List.mem_filter, List.mem_filter]
  simp only [decide_eq_true_eq, bne_iff_ne]
  constructor
  · rintro ⟨⟨hmem, hanswers⟩, hid⟩
    exact ⟨hmem, hanswers, fun heq => hid (by rw [heq])⟩
  · rintro ⟨hmem, hanswers, hne⟩
    exact ⟨⟨hmem, hanswers⟩, fun hid => hne (List.inj_on_of_nodup_map hdistinct hmem hsource hid)⟩

/-- A called name leads to the closest candidate. -/
theorem target?_eq_some_iff :
    target? entities source name = some target ↔ Closest entities source name target := by
  have hmem := mem_others_iff hdistinct hsource name
  -- The two filters and the test of the caller are one test on entities.
  have hfind : target? entities source name = entities.find? fun e =>
      decide (Answers entities name e) && (e.id != source.id &&
        preference source (others entities source name) e) := by
    change ((callCandidates entities name).filter _).find? _ = _
    rw [List.find?_filter, callCandidates_eq, List.find?_filter]
    simp only [Bool.decide_and, Bool.decide_eq_true]
  have htest : ∀ e ∈ entities, (decide (Answers entities name e) && (e.id != source.id &&
      preference source (others entities source name) e)) = true ↔
      Candidate entities source name e ∧ Preferred entities source name e := by
    intro e he
    rw [← hmem e, ← preference_iff hmem e, others, callCandidates_eq, List.mem_filter,
      List.mem_filter]
    simp only [Bool.and_eq_true]
    tauto
  rw [hfind, List.find?_eq_some_iff_append]
  constructor
  · rintro ⟨hpasses, before, after, hsplit, hbefore⟩
    have htarget : target ∈ entities := by simp [hsplit]
    rcases (htest target htarget).1 hpasses with ⟨hcandidate, hpreferred⟩
    refine ⟨hcandidate, hpreferred, before, after, hsplit, fun c hc hcand hpref => ?_⟩
    have hcmem : c ∈ entities := by simp [hsplit, hc]
    have hfails := hbefore c hc
    rw [(htest c hcmem).2 ⟨hcand, hpref⟩] at hfails
    cases hfails
  · rintro ⟨hcandidate, hpreferred, before, after, hsplit, hbefore⟩
    refine ⟨(htest target hcandidate.mem).2 ⟨hcandidate, hpreferred⟩, before, after, hsplit,
      fun c hc => ?_⟩
    have hcmem : c ∈ entities := by simp [hsplit, hc]
    rw [Bool.not_eq_true', ← Bool.not_eq_true, htest c hcmem]
    exact fun h => hbefore c hc h.1 h.2

/-- A called name leads nowhere if there is no candidate. -/
theorem target?_eq_none_iff :
    target? entities source name = none ↔ ∀ c, ¬ Candidate entities source name c := by
  have hmem := mem_others_iff hdistinct hsource name
  constructor
  · intro h c hc
    have hne : others entities source name ≠ [] := List.ne_nil_of_mem ((hmem c).2 hc)
    rcases exists_preference source hne with ⟨t, ht, hpasses⟩
    exact List.find?_eq_none.1 h t ht hpasses
  · intro h
    have hempty : others entities source name = [] :=
      List.eq_nil_iff_forall_not_mem.2 fun c hc => h c ((hmem c).1 hc)
    rw [target?, hempty]
    rfl

end Distinct

/-! ## Called names -/

/-- The reference of a called name, through a search of all entities. -/
theorem ofCallName_eq {part : String} (hpart : Text.IsLastPart part call) :
    ofCallName entities source (.str call) =
      .ok ((target? entities source part).map fun t => callReference source t call).toList := by
  rw [ofCallName, Text.lastPiece_eq_iff.2 hpart, closest_eq_find?, Option.map_map]
  rfl

/-- A reference comes from a called name of an entity, and leads to the closest candidate. -/
def Arises (entities : List Entity) (r : Reference) : Prop :=
  ∃ source ∈ entities, ∃ call, source.CallsByName call ∧ ∃ part target,
    Text.IsLastPart part call ∧ Closest entities source part target ∧
      r = callReference source target call

/-- What one called name yields: nothing without candidates, else one reference, which leads to the
closest of them. -/
structure Yields (entities : List Entity) (source : Entity) (call part : String) : Prop where
  dropped : (∀ c, ¬ Candidate entities source part c) →
    ofCallName entities source (.str call) = .ok []
  resolved : (∃ c, Candidate entities source part c) → ∃ target,
    Closest entities source part target ∧ (∀ t, Closest entities source part t → t = target) ∧
      ofCallName entities source (.str call) = .ok [callReference source target call]

/-- The calls among references are those that arise from called names: for each name that leads to
an entity there is exactly one from the caller to that entity, and every one arises this way. -/
structure CallsResolved (entities : List Entity) (refs : List Reference) : Prop where
  made : ∀ source ∈ entities, ∀ call part target, source.CallsByName call →
    Text.IsLastPart part call → Closest entities source part target →
    ∃ r ∈ refs, r.key = (source.id, target.id, "calls") ∧
      r.confidence = callConfidence source target ∧ ∀ r' ∈ refs, r'.key = r.key → r' = r
  arises : ∀ r ∈ refs, r.type = "calls" → Arises entities r

variable (hdistinct : (entities.map (·.id)).Nodup)
include hdistinct

theorem yields_of_isLastPart (hsource : source ∈ entities) {part : String}
    (hpart : Text.IsLastPart part call) : Yields entities source call part := by
  refine ⟨fun hnone => ?_, fun hsome => ?_⟩
  · rw [ofCallName_eq hpart, (target?_eq_none_iff hdistinct hsource part).2 hnone]
    rfl
  · cases htarget : target? entities source part with
    | none =>
        rcases hsome with ⟨c, hc⟩
        exact absurd hc ((target?_eq_none_iff hdistinct hsource part).1 htarget c)
    | some target =>
        refine ⟨target, (target?_eq_some_iff hdistinct hsource part).1 htarget, fun t ht => ?_, ?_⟩
        · rw [← target?_eq_some_iff hdistinct hsource part, htarget, Option.some.injEq] at ht
          exact ht.symm
        · rw [ofCallName_eq hpart, htarget]
          rfl

/-- The calls that are inferred are those that arise from called names. -/
theorem mem_calls_iff {rs : List Reference} {r : Reference} (h : calls entities = .ok rs) :
    r ∈ rs ↔ Arises entities r := by
  constructor
  · intro hr
    rcases exists_of_mem_flatten_mapM h hr with ⟨source, hsource, found, hfound, hr⟩
    rw [bind_eq_ok_iff] at hfound
    rcases hfound with ⟨names, hnames, hfound⟩
    rcases exists_of_mem_flatten_mapM hfound hr with ⟨name, hname, found', hyields, hr⟩
    cases name with
    | str call =>
        have hpart : Text.IsLastPart (Text.lastPiece '.' call) call := Text.lastPiece_eq_iff.1 rfl
        rw [ofCallName_eq hpart, Except.ok.injEq] at hyields
        rw [← hyields, Option.mem_toList, Option.map_eq_some_iff] at hr
        rcases hr with ⟨target, htarget, rfl⟩
        exact ⟨source, hsource, call, ⟨names, hnames, hname⟩, _, target, hpart,
          (target?_eq_some_iff hdistinct hsource _).1 htarget, rfl⟩
    | _ => cases hyields
  · rintro ⟨source, hsource, call, ⟨names, hnames, hcall⟩, part, target, hpart, hclosest, rfl⟩
    rcases exists_subset_of_flatten_mapM h hsource with ⟨found, hfound, hsubset⟩
    rw [hnames] at hfound
    rcases exists_subset_of_flatten_mapM hfound hcall with ⟨found', hyields, hsubset'⟩
    rw [ofCallName_eq hpart, (target?_eq_some_iff hdistinct hsource part).2 hclosest,
      Except.ok.injEq] at hyields
    exact hsubset (hsubset' (hyields ▸ List.mem_singleton.2 rfl))

/-- Of what the passes infer, the calls are those that arise from called names. -/
theorem produced_call_iff {rs : List Reference} {r : Reference} (h : inferred entities = .ok rs) :
    r ∈ rs ∧ r.type = "calls" ↔ Arises entities r := by
  have hcalls : ∃ cs, calls entities = .ok cs := by
    simp only [inferred, bind_eq_ok_iff] at h
    rcases h with ⟨cs, hcs, _⟩
    exact ⟨cs, hcs⟩
  rw [mem_inferred_iff h]
  constructor
  · rintro ⟨hproduced, htype⟩
    cases hproduced with
    | call hcs hr => exact (mem_calls_iff hdistinct hcs).1 hr
    | base hr =>
        rcases joins_of_mem_heritage hr with hjoins | hjoins <;>
          · rw [hjoins.type_eq] at htype
            exact absurd htype (by decide)
    | imported his hr =>
        rw [(joins_of_mem_imports his hr).type_eq] at htype
        exact absurd htype (by decide)
    | request hqs hr =>
        rw [(joins_of_mem_requests hqs hr).type_eq] at htype
        exact absurd htype (by decide)
  · intro harises
    rcases hcalls with ⟨cs, hcs⟩
    refine ⟨.call hcs ((mem_calls_iff hdistinct hcs).2 harises), ?_⟩
    rcases harises with ⟨_, _, _, _, _, _, _, _, rfl⟩
    rfl

/-- A build that succeeds resolves calls as described. -/
theorem callsResolved_of_build {refs : List Reference} {after : List Entity}
    (h : build entities = .ok (refs, after)) : CallsResolved entities refs := by
  rcases exists_inferred_of_build h with ⟨rs, hrs, rfl⟩
  have harises : ∀ r ∈ strongest rs, r.type = "calls" → Arises entities r := fun r hr htype =>
    (produced_call_iff hdistinct hrs).1 ⟨mem_of_mem_strongest hr, htype⟩
  have hinj := List.inj_on_of_nodup_map (nodup_keys_strongest rs)
  have hids := List.inj_on_of_nodup_map hdistinct
  refine ⟨?_, harises⟩
  intro source hsource call part target hcall hpart hclosest
  have hmem := ((produced_call_iff hdistinct hrs).2
    ⟨source, hsource, call, hcall, part, target, hpart, hclosest, rfl⟩).1
  rcases exists_mem_strongest hmem with ⟨kept, hkept, hkey, _⟩
  refine ⟨kept, hkept, hkey, ?_, fun r hr hkeys => hinj hr hkept hkeys⟩
  -- The reference that is kept may come from another name, but joins the same two entities.
  have htype : kept.type = "calls" := congrArg (fun k => k.2.2) hkey
  rcases harises kept hkept htype with ⟨s, hs, _, _, _, t, _, ht, rfl⟩
  have hsame : s = source := hids hs hsource (congrArg (fun k => k.1) hkey)
  have hsame' : t = target := hids ht.candidate.mem hclosest.candidate.mem
    (congrArg (fun k => k.2.1) hkey)
  rw [hsame, hsame']
  rfl

/-- If no two entities have the same name, each called name of an entity yields nothing if there is
no candidate, and otherwise one reference, to the closest; references can be built exactly if all
entities are legible, and then the calls among them are those that arise from called names. -/
theorem calls_resolved :
    (∀ source ∈ entities, ∀ call part, source.CallsByName call → Text.IsLastPart part call →
      Yields entities source call part) ∧
    ((∃ built, build entities = .ok built) ↔
      ∀ e ∈ entities, isLegible (Contract.endpoints entities) e = true) ∧
    ∀ refs after, build entities = .ok (refs, after) → CallsResolved entities refs :=
  ⟨fun _ hsource _ _ _ hpart => yields_of_isLastPart hdistinct hsource hpart,
    exists_build_iff entities, fun _ _ h => callsResolved_of_build hdistinct h⟩

omit hdistinct

/-- A method that calls a function of its class, one of its file, one of another file in its
language, one of another language, itself, and a name that nothing has.  For the first two names
there are also candidates that are further away and come earlier. -/
def till : List Entity :=
  [{ id := "round@go", name := "round", language := "go", file := "math.go", type := "function"
     startLine := 1, endLine := 2 },
   { id := "price@other", name := "price", language := "python", file := "other.py"
     type := "function", startLine := 1, endLine := 2 },
   { id := "price", name := "price", language := "python", file := "till.py"
     type := "function", startLine := 1, endLine := 2 },
   { id := "Till.price", name := "price", language := "python", file := "till.py"
     type := "function", startLine := 6, endLine := 7, className := some "Till" },
   { id := "Till.sum", name := "sum", language := "python", file := "till.py"
     type := "function", startLine := 8, endLine := 9, className := some "Till"
     metadata := [("call_names", .arr [.str "self.price", .str "Receipt", .str "tax.rate",
       .str "round", .str "sum", .str "price", .str "lost"])] },
   { id := "Receipt@other", name := "Receipt", language := "python", file := "other.py"
     type := "class", startLine := 5, endLine := 9 },
   { id := "Receipt", name := "Receipt", language := "python", file := "till.py"
     type := "class", startLine := 12, endLine := 19 },
   { id := "rate", name := "rate", language := "python", file := "tax.py"
     type := "function", startLine := 1, endLine := 2 }]

/-- Of seven calls of one method four are resolved, to its class, its file, its language and another
one; three are not. -/
theorem calls_resolved_till : ∃ refs after, build till = .ok (refs, after) ∧
    refs.map (fun r => (r.targetId, r.confidence)) = [("Till.price", .ofRat (9 / 10)),
      ("Receipt", .ofRat (9 / 10)), ("rate", .ofRat (7 / 10)), ("round@go", .ofRat (4 / 10))] ∧
    CallsResolved till refs := by
  have hrefs : (build till).map (fun p => p.1.map fun r => (r.targetId, r.confidence)) =
      .ok [("Till.price", .ofRat (9 / 10)), ("Receipt", .ofRat (9 / 10)),
        ("rate", .ofRat (7 / 10)), ("round@go", .ofRat (4 / 10))] := by
    decide +kernel
  rcases map_eq_ok_iff.1 hrefs with ⟨⟨refs, after⟩, hbuild, hkeys⟩
  exact ⟨refs, after, hbuild, hkeys, (calls_resolved (by decide)).2.2 refs after hbuild⟩

end Reference
end CrossAudit
