import CrossAudit.Proofs.Reference.Build
import Mathlib.Data.List.Forall2

/-!
# Calls are noted on both ends, once and for all

Building references notes each call that is found on the entity that calls and on the one that is
called.  The notes are added to the same entities from which references are inferred, but inference
looks at neither list, so that building again finds the same references and has nothing to add.

Main results:

- Theorem `inferred_unlinked`: what is inferred does not depend on calls and callers.
- Theorem `foldl_noteCall_eq`: if no two entities have the same name, noting calls changes each
  entity on its own.
- Theorem `mirrored_noted`: what is added to an entity, and what is left alone.
- Theorem `build_stable`: calls and callers after a build, and that further builds change nothing.
-/

namespace CrossAudit

/-! ## Inference does not look at calls and callers -/

/-- An entity without its calls and callers. -/
def Entity.unlinked (e : Entity) : Entity :=
  { e with calls := [], calledBy := [] }

namespace Entity

@[simp]
theorem id_unlinked (e : Entity) : e.unlinked.id = e.id :=
  rfl

@[simp]
theorem name_unlinked (e : Entity) : e.unlinked.name = e.name :=
  rfl

@[simp]
theorem type_unlinked (e : Entity) : e.unlinked.type = e.type :=
  rfl

@[simp]
theorem language_unlinked (e : Entity) : e.unlinked.language = e.language :=
  rfl

@[simp]
theorem file_unlinked (e : Entity) : e.unlinked.file = e.file :=
  rfl

@[simp]
theorem className_unlinked (e : Entity) : e.unlinked.className = e.className :=
  rfl

end Entity

namespace Contract

/-- A request of an entity without calls and callers. -/
def CallSite.unlinked (c : CallSite) : CallSite :=
  { c with entity := c.entity.unlinked }

/-- An endpoint without calls and callers, and how well it matches. -/
def unlinkedHit (hit : Entity × MatchKind) : Entity × MatchKind :=
  (hit.1.unlinked, hit.2)

/-- A request and its endpoint without calls and callers. -/
def unlinkedPairing (p : Pairing) : Pairing :=
  (p.1.unlinked, p.2.map unlinkedHit)

/-- The calls that an entity makes do not depend on its links; they are only told by the entity
without them. -/
theorem callsOf_unlinked (e : Entity) :
    callsOf e.unlinked = List.map CallSite.unlinked <$> callsOf e := by
  have hnote : ∀ note, readNote e.unlinked note = CallSite.unlinked <$> readNote e note := by
    intro note
    simp only [readNote, map_bind, map_pure]
    rfl
  unfold callsOf
  rw [map_bind]
  refine bind_congr fun notes => ?_
  rw [← mapM_map_result]
  exact congrArg (notes.mapM ·) (funext hnote)

/-- The calls of all entities are those of the entities without their links. -/
theorem callSites_unlinked (entities : List Entity) :
    callSites (entities.map Entity.unlinked) =
      List.map CallSite.unlinked <$> callSites entities := by
  have hcalls : callsOf ∘ Entity.unlinked = fun e => List.map CallSite.unlinked <$> callsOf e :=
    funext callsOf_unlinked
  unfold callSites
  rw [List.mapM_map, hcalls, mapM_map_result, map_bind, bind_map_left]
  simp only [map_pure, List.map_flatten]

/-- The endpoints whose path a request names are found without looking at links. -/
theorem pathHits_unlinked (es : List Entity) (url : Json) :
    pathHits (es.map Entity.unlinked) url = List.map Entity.unlinked <$> pathHits es url := by
  cases es with
  | nil => rfl
  | cons e rest =>
      cases url with
      | str u => exact congrArg Except.ok List.filter_map
      | _ => rfl

/-- The choice among the endpoints of one path does not depend on links. -/
theorem choose_unlinked (method : String) (hits : List Entity) :
    choose method (hits.map Entity.unlinked) = (choose method hits).map unlinkedHit := by
  have hfind : (hits.map Entity.unlinked).find? (fun e => endpointMethod e == method) =
      (hits.find? fun e => endpointMethod e == method).map Entity.unlinked :=
    List.find?_map
  unfold choose
  rw [hfind]
  cases hits.find? fun e => endpointMethod e == method with
  | some e => rfl
  | none => cases hits <;> rfl

/-- Requests are paired with the same endpoints whatever the links of the entities are. -/
theorem pair_unlinked (entities : List Entity) :
    pair (entities.map Entity.unlinked) = List.map unlinkedPairing <$> pair entities := by
  have hendpoints : endpoints (entities.map Entity.unlinked) =
      (endpoints entities).map Entity.unlinked :=
    List.filter_map
  unfold pair
  rw [hendpoints, callSites_unlinked, bind_map_left, map_bind]
  refine bind_congr fun calls => ?_
  rw [List.mapM_map, ← mapM_map_result]
  refine congrArg (calls.mapM ·) (funext fun call => ?_)
  simp only [Function.comp_apply, map_bind, map_pure]
  rw [CallSite.unlinked, pathHits_unlinked, bind_map_left]
  simp only [choose_unlinked]
  rfl

end Contract

namespace Reference

/-- The entities that a called name may mean are found without looking at links. -/
theorem callCandidates_unlinked (entities : List Entity) (name : String) :
    callCandidates (entities.map Entity.unlinked) name =
      (callCandidates entities name).map Entity.unlinked := by
  simp only [callCandidates, List.filter_map, Function.comp_def, Entity.type_unlinked,
    Entity.name_unlinked, List.isEmpty_map]
  split <;> rfl

/-- The closest candidate is the same one without the links, and as far away. -/
theorem closest_unlinked (source : Entity) (candidates : List Entity) :
    closest source.unlinked (candidates.map Entity.unlinked) =
      (closest source candidates).map fun c => (c.1.unlinked, c.2) := by
  simp only [closest, List.filter_map, Function.comp_def, Entity.id_unlinked,
    Entity.file_unlinked, Entity.language_unlinked, Entity.className_unlinked]
  generalize candidates.filter (fun c => c.id != source.id) = others
  generalize others.filter (fun c => c.file == source.file) = sameFile
  generalize others.filter (fun c => c.language == source.language) = sameLanguage
  generalize sameFile.filter (fun c =>
    source.className.getD "" != "" && c.className == source.className) = sameClass
  cases sameClass with
  | cons c _ => rfl
  | nil =>
      cases sameFile with
      | cons c _ => rfl
      | nil =>
          cases sameLanguage with
          | cons c _ => rfl
          | nil => cases others <;> rfl

/-- A called name is resolved to the same references without the links. -/
theorem ofCallName_unlinked (entities : List Entity) (source : Entity) (name : Json) :
    ofCallName (entities.map Entity.unlinked) source.unlinked name =
      ofCallName entities source name := by
  cases name with
  | str s =>
      simp only [ofCallName, callCandidates_unlinked, closest_unlinked, Option.map_map]
      rfl
  | _ => rfl

/-- The references of all calls do not depend on the links of the entities. -/
theorem calls_unlinked (entities : List Entity) :
    calls (entities.map Entity.unlinked) = calls entities := by
  unfold calls
  rw [List.mapM_map]
  refine congrArg (· >>= _) (congrArg (entities.mapM ·) (funext fun e => ?_))
  exact congrArg (_ >>= ·) (funext fun names =>
    congrArg (· >>= _) (congrArg (names.mapM ·) (funext (ofCallName_unlinked entities e))))

/-- A base class or interface is resolved to the same references without the links. -/
theorem ofBase_unlinked (entities : List Entity) (source : Entity) (type raw : String) :
    ofBase (entities.map Entity.unlinked) source.unlinked type raw =
      ofBase entities source type raw := by
  simp only [ofBase, List.filter_map, List.find?_map, Function.comp_def, Entity.type_unlinked,
    Entity.name_unlinked, Entity.id_unlinked, Entity.language_unlinked]
  generalize entities.filter (fun c =>
    baseTypes.contains c.type && c.name == baseName raw && c.id != source.id) = candidates
  cases candidates.find? fun c => c.language == source.language with
  | some same => rfl
  | none => cases candidates <;> rfl

/-- The references to base classes and interfaces do not depend on links. -/
theorem heritage_unlinked (entities : List Entity) :
    heritage (entities.map Entity.unlinked) = heritage entities := by
  unfold heritage
  rw [List.flatMap_map]
  refine List.flatMap_congr fun e _ => ?_
  exact congrArg₂ (· ++ ·)
    (congrArg (e.bases.filterMap ·) (funext (ofBase_unlinked entities e "extends")))
    (congrArg (e.implements.filterMap ·) (funext (ofBase_unlinked entities e "implements")))

/-- Which of two modules answers an import better does not depend on their links. -/
theorem betterModule_unlinked (key : List String) (best : Option Entity) (c : Entity) :
    betterModule key (best.map Entity.unlinked) c.unlinked =
      (betterModule key best c).map Entity.unlinked := by
  cases best with
  | none => rfl
  | some b => exact (apply_ite (Option.map Entity.unlinked) _ (some c) (some b)).symm

/-- An import is answered by the same module without the links. -/
theorem importedModule?_unlinked (modules : List Entity) (source : Entity) (key : List String) :
    importedModule? (modules.map Entity.unlinked) source.unlinked key =
      (importedModule? modules source key).map Entity.unlinked := by
  have hrun : ∀ (cs : List Entity) (best : Option Entity),
      (cs.map Entity.unlinked).foldl (betterModule key) (best.map Entity.unlinked) =
        (cs.foldl (betterModule key) best).map Entity.unlinked := by
    intro cs
    induction cs with
    | nil => exact fun best => rfl
    | cons c rest ih =>
        intro best
        rw [List.map_cons, List.foldl_cons, List.foldl_cons, betterModule_unlinked, ih]
  simp only [importedModule?, List.filter_map, Function.comp_def, Entity.name_unlinked,
    Entity.id_unlinked, Entity.language_unlinked]
  exact hrun _ none

/-- One note of an import gives the same references without the links. -/
theorem ofImport_unlinked (modules : List Entity) (source : Entity) (note : Json) :
    ofImport (modules.map Entity.unlinked) source.unlinked note = ofImport modules source note := by
  unfold ofImport
  refine bind_congr fun member => ?_
  split
  · rw [importedModule?_unlinked, Option.map_map]
    rfl
  · rfl

/-- The references of all imports do not depend on links. -/
theorem imports_unlinked (entities : List Entity) :
    imports (entities.map Entity.unlinked) = imports entities := by
  simp only [imports, List.filter_map, Function.comp_def, Entity.type_unlinked]
  generalize entities.filter (fun e => e.type == "module") = modules
  rw [List.mapM_map]
  refine congrArg (· >>= _) (congrArg (modules.mapM ·) (funext fun m => ?_))
  exact congrArg (_ >>= ·) (funext fun notes =>
    congrArg (· >>= _) (congrArg (notes.mapM ·) (funext (ofImport_unlinked modules m))))

/-- The references of all requests do not depend on links. -/
theorem requests_unlinked (entities : List Entity) :
    requests (entities.map Entity.unlinked) = requests entities := by
  unfold requests
  rw [Contract.pair_unlinked, bind_map_left]
  refine bind_congr fun ps => ?_
  rw [List.filterMap_map]
  refine congrArg (fun f => pure (ps.filterMap f)) (funext fun p => ?_)
  rcases p with ⟨call, hit⟩
  cases hit <;> rfl

/-- What is inferred does not depend on calls and callers. -/
theorem inferred_unlinked (entities : List Entity) :
    inferred (entities.map Entity.unlinked) = inferred entities := by
  unfold inferred
  rw [calls_unlinked, heritage_unlinked, imports_unlinked, requests_unlinked]

/-! ## Notes on one entity -/

/-- A list of names that got longer by new names, each once. -/
def Gains (before after : List String) : Prop :=
  ∃ added, after = before ++ added ∧ added.Nodup ∧ ∀ name ∈ added, name ∉ before

/-- Names that stay as they are have gained nothing. -/
theorem Gains.refl (names : List String) : Gains names names :=
  ⟨[], by simp, List.nodup_nil, by simp⟩

/-- What is gained in two rounds is gained in one. -/
theorem Gains.trans {a b c : List String} (hab : Gains a b) (hbc : Gains b c) : Gains a c := by
  rcases hab with ⟨first, rfl, hfirst, hnew⟩
  rcases hbc with ⟨second, rfl, hsecond, hnew'⟩
  refine ⟨first ++ second, List.append_assoc _ _ _, ?_, ?_⟩
  · refine hfirst.append hsecond fun name hmem hmem' => ?_
    exact hnew' name hmem' (List.mem_append_right a hmem)
  · intro name hmem
    rcases List.mem_append.1 hmem with hmem | hmem
    · exact hnew name hmem
    · exact fun ha => hnew' name hmem (List.mem_append_left first ha)

/-- A name that is added is a gain. -/
theorem gains_addName (name : String) (names : List String) : Gains names (addName name names) := by
  unfold addName
  split
  · exact Gains.refl names
  · rename_i hnew
    exact ⟨[name], rfl, List.nodup_singleton name, by simpa using hnew⟩

/-- After a name is added the names are the old ones and that one. -/
theorem mem_addName_iff {name other : String} {names : List String} :
    other ∈ addName name names ↔ other ∈ names ∨ other = name := by
  unfold addName
  split
  · rename_i hmem
    constructor
    · exact Or.inl
    · rintro (hother | rfl)
      · exact hother
      · simpa using hmem
  · simp

/-- A name that is there already is not added again. -/
theorem addName_of_mem {name : String} {names : List String} (h : name ∈ names) :
    addName name names = names := by
  simp [addName, h]

/-- Notes on an entity whom it calls, if the reference leads from it. -/
def noteTarget (r : Reference) (e : Entity) : Entity :=
  if e.id = r.sourceId then { e with calls := addName r.targetId e.calls } else e

/-- Notes on an entity who calls it, if the reference leads to it. -/
def noteSource (r : Reference) (e : Entity) : Entity :=
  if e.id = r.targetId then { e with calledBy := addName r.sourceId e.calledBy } else e

/-- What becomes of an entity when a call is noted. -/
def note (e : Entity) (r : Reference) : Entity :=
  if r.type = "calls" then noteSource r (noteTarget r e) else e

/-- What becomes of an entity when all calls of a list are noted. -/
def noted (refs : List Reference) (e : Entity) : Entity :=
  refs.foldl note e

/-- A reference is a call from one name to another. -/
def IsCall (r : Reference) (source target : String) : Prop :=
  r.type = "calls" ∧ r.sourceId = source ∧ r.targetId = target

/-- What becomes of an entity when the calls among references are noted: its calls are those that it
had and those of references that lead from it, its callers are those that it had and those of
references that lead to it, no name is added twice, and nothing else changes. -/
structure Mirrored (refs : List Reference) (e e' : Entity) : Prop where
  fields : e' = { e with calls := e'.calls, calledBy := e'.calledBy }
  calls_iff : ∀ name, name ∈ e'.calls ↔ name ∈ e.calls ∨ ∃ r ∈ refs, IsCall r e.id name
  calledBy_iff : ∀ name, name ∈ e'.calledBy ↔ name ∈ e.calledBy ∨ ∃ r ∈ refs, IsCall r name e.id
  calls_gain : Gains e.calls e'.calls
  calledBy_gain : Gains e.calledBy e'.calledBy

variable {r : Reference} {refs : List Reference} {entities after : List Entity} {e : Entity}

@[simp]
theorem id_noteTarget (r : Reference) (e : Entity) : (noteTarget r e).id = e.id := by
  unfold noteTarget
  split <;> rfl

@[simp]
theorem id_noteSource (r : Reference) (e : Entity) : (noteSource r e).id = e.id := by
  unfold noteSource
  split <;> rfl

@[simp]
theorem id_note (e : Entity) (r : Reference) : (note e r).id = e.id := by
  unfold note
  split <;> simp

/-- Noting a call at its target is told by the calls that the reference adds. -/
theorem mirrored_noteTarget (htype : r.type = "calls") (e : Entity) :
    (noteTarget r e) = { e with calls := (noteTarget r e).calls } ∧
      (∀ name, name ∈ (noteTarget r e).calls ↔ name ∈ e.calls ∨ IsCall r e.id name) ∧
      Gains e.calls (noteTarget r e).calls := by
  by_cases hsource : e.id = r.sourceId
  · have hcalls : (noteTarget r e).calls = addName r.targetId e.calls := by
      simp [noteTarget, hsource]
    refine ⟨by simp [noteTarget, hsource], fun name => ?_, hcalls ▸ gains_addName _ _⟩
    simp [hcalls, mem_addName_iff, IsCall, htype, hsource, eq_comm]
  · have hsame : noteTarget r e = e := if_neg hsource
    refine ⟨by rw [hsame], fun name => ?_, by rw [hsame]; exact Gains.refl _⟩
    simp [hsame, IsCall, Ne.symm hsource]

/-- Noting a call at its source is told by the callers that the reference adds. -/
theorem mirrored_noteSource (htype : r.type = "calls") (e : Entity) :
    (noteSource r e) = { e with calledBy := (noteSource r e).calledBy } ∧
      (∀ name, name ∈ (noteSource r e).calledBy ↔ name ∈ e.calledBy ∨ IsCall r name e.id) ∧
      Gains e.calledBy (noteSource r e).calledBy := by
  by_cases htarget : e.id = r.targetId
  · have hcalledBy : (noteSource r e).calledBy = addName r.sourceId e.calledBy := by
      simp [noteSource, htarget]
    refine ⟨by simp [noteSource, htarget], fun name => ?_, hcalledBy ▸ gains_addName _ _⟩
    simp [hcalledBy, mem_addName_iff, IsCall, htype, htarget, eq_comm]
  · have hsame : noteSource r e = e := if_neg htarget
    refine ⟨by rw [hsame], fun name => ?_, by rw [hsame]; exact Gains.refl _⟩
    simp [hsame, IsCall, Ne.symm htarget]

/-- Noting one call. -/
theorem mirrored_note (e : Entity) (r : Reference) : Mirrored [r] e (note e r) := by
  by_cases htype : r.type = "calls"
  · rcases mirrored_noteTarget htype e with ⟨hfields, hmem, hgain⟩
    rcases mirrored_noteSource htype (noteTarget r e) with ⟨hfields', hmem', hgain'⟩
    have hnote : note e r = noteSource r (noteTarget r e) := if_pos htype
    have hcalls : (note e r).calls = (noteTarget r e).calls := by rw [hnote, hfields']
    have hcalledBy : (noteTarget r e).calledBy = e.calledBy := by rw [hfields]
    refine ⟨?_, ?_, ?_, ?_, ?_⟩
    · rw [hnote, hfields', hfields]
    · simpa [hcalls] using hmem
    · simpa [hnote, hcalledBy] using hmem'
    · exact hcalls ▸ hgain
    · exact hnote ▸ hcalledBy ▸ hgain'
  · have hsame : note e r = e := if_neg htype
    exact
      { fields := by rw [hsame]
        calls_iff := by simp [hsame, IsCall, htype]
        calledBy_iff := by simp [hsame, IsCall, htype]
        calls_gain := by rw [hsame]; exact Gains.refl _
        calledBy_gain := by rw [hsame]; exact Gains.refl _ }

/-- Without references every entity mirrors itself. -/
theorem Mirrored.refl (e : Entity) : Mirrored [] e e :=
  ⟨rfl, by simp, by simp, Gains.refl _, Gains.refl _⟩

/-- Noting calls one after the other. -/
theorem Mirrored.trans {more : List Reference} {e' e'' : Entity} (h : Mirrored refs e e')
    (h' : Mirrored more e' e'') : Mirrored (refs ++ more) e e'' := by
  have hid : e'.id = e.id := by rw [h.fields]
  refine ⟨?_, ?_, ?_, h.calls_gain.trans h'.calls_gain, h.calledBy_gain.trans h'.calledBy_gain⟩
  · rw [h'.fields, h.fields]
  · intro name
    rw [h'.calls_iff, h.calls_iff, hid, or_assoc]
    simp only [List.mem_append, or_and_right, exists_or]
  · intro name
    rw [h'.calledBy_iff, h.calledBy_iff, hid, or_assoc]
    simp only [List.mem_append, or_and_right, exists_or]

/-- Noting all calls of a list. -/
theorem mirrored_noted (refs : List Reference) (e : Entity) : Mirrored refs e (noted refs e) := by
  induction refs generalizing e with
  | nil => exact Mirrored.refl e
  | cons r rest ih => exact (mirrored_note e r).trans (ih (note e r))

/-- A call that is noted already changes nothing. -/
theorem note_of_noted (hcalls : ∀ name, IsCall r e.id name → name ∈ e.calls)
    (hcalledBy : ∀ name, IsCall r name e.id → name ∈ e.calledBy) : note e r = e := by
  by_cases htype : r.type = "calls"
  · have htarget : noteTarget r e = e := by
      unfold noteTarget
      split
      · rename_i hsource
        rw [addName_of_mem (hcalls _ ⟨htype, hsource.symm, rfl⟩)]
      · rfl
    have hsource : noteSource r e = e := by
      unfold noteSource
      split
      · rename_i htarget'
        rw [addName_of_mem (hcalledBy _ ⟨htype, rfl, htarget'.symm⟩)]
      · rfl
    rw [note, if_pos htype, htarget, hsource]
  · exact if_neg htype

/-- Noting the same calls again changes nothing. -/
theorem noted_noted (refs : List Reference) (e : Entity) :
    noted refs (noted refs e) = noted refs e := by
  have h := mirrored_noted refs e
  have hid : (noted refs e).id = e.id := by rw [h.fields]
  generalize noted refs e = e' at h hid ⊢
  have hstep : ∀ r ∈ refs, note e' r = e' := by
    intro r hr
    refine note_of_noted (fun name hcall => ?_) fun name hcall => ?_
    · exact (h.calls_iff name).2 (Or.inr ⟨r, hr, hid ▸ hcall⟩)
    · exact (h.calledBy_iff name).2 (Or.inr ⟨r, hr, hid ▸ hcall⟩)
  clear h hid
  unfold noted
  induction refs with
  | nil => rfl
  | cons r rest ih =>
      rw [List.foldl_cons, hstep r List.mem_cons_self]
      exact ih fun r' hr' => hstep r' (List.mem_cons_of_mem r hr')

/-! ## Notes on all entities -/

/-- If no two entities have the same name, the last one of a name is the only one. -/
theorem changeLast_eq_map (hdistinct : (entities.map (·.id)).Nodup) (id : String)
    (f : Entity → Entity) :
    changeLast id f entities = entities.map fun e => if e.id = id then f e else e := by
  have hgo : ∀ es : List Entity, (es.map (·.id)).Nodup →
      changeLast.go id f es = es.map fun e => if e.id = id then f e else e := by
    intro es
    induction es with
    | nil => exact fun _ => rfl
    | cons e rest ih =>
        intro hnodup
        rw [List.map_cons, List.nodup_cons] at hnodup
        by_cases hid : e.id = id
        · have hrest : (rest.map fun e => if e.id = id then f e else e) = rest := by
            have hothers : ∀ e' ∈ rest, e'.id ≠ id := by
              rintro e' he' rfl
              exact hnodup.1 (List.mem_map.2 ⟨e', he', hid.symm⟩)
            rw [List.map_congr_left fun e' he' => if_neg (hothers e' he'), List.map_id']
          simp [changeLast.go, hid, hrest]
        · simp [changeLast.go, hid, ih hnodup.2]
  rw [changeLast, hgo _ (by rw [List.map_reverse]; exact List.nodup_reverse.2 hdistinct),
    List.map_reverse, List.reverse_reverse]

/-- Where identifiers are distinct, one call is noted by treating each entity on its own. -/
theorem noteCall_eq_map (hdistinct : (entities.map (·.id)).Nodup) (r : Reference) :
    noteCall entities r = entities.map (note · r) := by
  by_cases htype : r.type = "calls"
  · have hids : ((entities.map (noteTarget r)).map (·.id)).Nodup := by
      simpa [Function.comp_def] using hdistinct
    have hfirst : changeLast r.sourceId (fun e => { e with calls := addName r.targetId e.calls })
        entities = entities.map (noteTarget r) :=
      changeLast_eq_map hdistinct _ _
    have hsecond : changeLast r.targetId
        (fun e => { e with calledBy := addName r.sourceId e.calledBy })
        (entities.map (noteTarget r)) = (entities.map (noteTarget r)).map (noteSource r) :=
      changeLast_eq_map hids _ _
    simp only [noteCall, htype, BEq.rfl, if_true]
    rw [hfirst, hsecond, List.map_map]
    simp only [note, htype, if_true]
    rfl
  · have hnone : entities.map (note · r) = entities := by
      simp [note, htype]
    simp [noteCall, htype, hnone]

/-- If no two entities have the same name, noting calls changes each entity on its own. -/
theorem foldl_noteCall_eq (hdistinct : (entities.map (·.id)).Nodup) (refs : List Reference) :
    refs.foldl noteCall entities = entities.map (noted refs) := by
  induction refs generalizing entities with
  | nil => exact (List.map_id' entities).symm
  | cons r rest ih =>
      have hids : ((entities.map (note · r)).map (·.id)).Nodup := by
        simpa [Function.comp_def] using hdistinct
      rw [List.foldl_cons, noteCall_eq_map hdistinct, ih hids, List.map_map]
      rfl

/-! ## Building once and building again -/

/-- Calls and callers agree among entities. -/
def Reciprocal (entities : List Entity) : Prop :=
  ∀ a ∈ entities, ∀ b ∈ entities, b.id ∈ a.calls ↔ a.id ∈ b.calledBy

/-- Builds a number of times, each time on the entities that the last build left, and returns the
references of every build with the entities that are left in the end. -/
def buildTimes : Nat → List Entity → Except Fault (List (List Reference) × List Entity)
  | 0, entities => return ([], entities)
  | n + 1, entities => do
      let (refs, after) ← build entities
      let (more, last) ← buildTimes n after
      return (refs :: more, last)

/-- An entity and its mirror differ in nothing but their links. -/
theorem Mirrored.unlinked {e' : Entity} (h : Mirrored refs e e') : e'.unlinked = e.unlinked := by
  rw [h.fields]
  rfl

/-- Noting calls changes nothing that inference looks at. -/
theorem inferred_map_noted (refs : List Reference) (entities : List Entity) :
    inferred (entities.map (noted refs)) = inferred entities := by
  have hunlinked : (entities.map (noted refs)).map Entity.unlinked =
      entities.map Entity.unlinked := by
    rw [List.map_map]
    exact List.map_congr_left fun e _ => (mirrored_noted refs e).unlinked
  rw [← inferred_unlinked, hunlinked, inferred_unlinked]

/-- If no two entities have the same name, building changes each entity on its own. -/
theorem eq_map_noted_of_build (hdistinct : (entities.map (·.id)).Nodup)
    (h : build entities = .ok (refs, after)) : after = entities.map (noted refs) := by
  rcases bind_eq_ok_iff.1 h with ⟨rs, _, hreturn⟩
  cases hreturn
  exact foldl_noteCall_eq hdistinct _

/-- Building again finds the same references and has nothing to add. -/
theorem build_of_build (hdistinct : (entities.map (·.id)).Nodup)
    (h : build entities = .ok (refs, after)) : build after = .ok (refs, after) := by
  have hafter := eq_map_noted_of_build hdistinct h
  have hids : (after.map (·.id)).Nodup := by
    have hsame : after.map (·.id) = entities.map (·.id) := by
      rw [hafter, List.map_map]
      exact List.map_congr_left fun e _ => by
        rw [Function.comp_apply, (mirrored_noted refs e).fields]
    rwa [hsame]
  rcases bind_eq_ok_iff.1 h with ⟨rs, hrs, hreturn⟩
  have hrefs : strongest rs = refs := congrArg Prod.fst (Except.ok.inj hreturn)
  have hstill : after.map (noted refs) = after := by
    rw [hafter, List.map_map]
    exact List.map_congr_left fun e _ => noted_noted refs e
  rw [build, hafter, inferred_map_noted, hrs, ← hafter]
  change Except.ok (strongest rs, (strongest rs).foldl noteCall after) = _
  rw [hrefs, foldl_noteCall_eq hids, hstill]

/-- A list that one more build leaves as it is stays so in every number of builds. -/
theorem buildTimes_of_stable (h : build after = .ok (refs, after)) (n : Nat) :
    buildTimes n after = .ok (List.replicate n refs, after) := by
  induction n with
  | zero => rfl
  | succ n ih =>
      rw [buildTimes, h]
      change (buildTimes n after >>= fun p => Except.ok (refs :: p.1, p.2)) = _
      rw [ih]
      rfl

/-- Noting all references turns every entity into its mirror. -/
theorem forall₂_map_noted (refs : List Reference) (entities : List Entity) :
    List.Forall₂ (Mirrored refs) entities (entities.map (noted refs)) := by
  rw [List.forall₂_map_right_iff, List.forall₂_same]
  exact fun e _ => mirrored_noted refs e

/-- Links that answer one another still do after more references are noted. -/
theorem Reciprocal.map_noted (h : Reciprocal entities) (refs : List Reference) :
    Reciprocal (entities.map (noted refs)) := by
  intro a' ha' b' hb'
  rcases List.mem_map.1 ha' with ⟨a, ha, rfl⟩
  rcases List.mem_map.1 hb' with ⟨b, hb, rfl⟩
  have hmirrors := mirrored_noted refs a
  have hmirrors' := mirrored_noted refs b
  have hid : (noted refs a).id = a.id := by rw [hmirrors.fields]
  have hid' : (noted refs b).id = b.id := by rw [hmirrors'.fields]
  calc (noted refs b).id ∈ (noted refs a).calls
      ↔ b.id ∈ a.calls ∨ ∃ r ∈ refs, IsCall r a.id b.id := by rw [hid', hmirrors.calls_iff]
    _ ↔ a.id ∈ b.calledBy ∨ ∃ r ∈ refs, IsCall r a.id b.id := by rw [h a ha b hb]
    _ ↔ (noted refs a).id ∈ (noted refs b).calledBy := by rw [hid, hmirrors'.calledBy_iff]

/-- If no two entities have the same name, a build notes exactly the calls that it returns, on both
ends, adds no name twice and changes nothing else; calls and callers that agree still agree; and
every further build returns the same references and changes nothing. -/
theorem build_stable (hdistinct : (entities.map (·.id)).Nodup)
    (h : build entities = .ok (refs, after)) :
    List.Forall₂ (Mirrored refs) entities after ∧
      (Reciprocal entities → Reciprocal after) ∧
      build after = .ok (refs, after) ∧
      ∀ n, buildTimes n after = .ok (List.replicate n refs, after) := by
  have hagain := build_of_build hdistinct h
  refine ⟨?_, ?_, hagain, buildTimes_of_stable hagain⟩
  · rw [eq_map_noted_of_build hdistinct h]
    exact forall₂_map_noted refs entities
  · intro hreciprocal
    rw [eq_map_noted_of_build hdistinct h]
    exact hreciprocal.map_noted refs

/-- Two functions that call each other, the first one twice, and one of another language that calls
the second.  The first two know of one of the calls already. -/
def correspondents : List Entity :=
  [{ id := "python:a.py:ask", name := "ask", language := "python", file := "a.py"
     type := "function", startLine := 1, endLine := 2, calls := ["python:a.py:reply"]
     metadata := [("call_names", .arr [.str "reply", .str "self.reply"])] },
   { id := "python:a.py:reply", name := "reply", language := "python", file := "a.py"
     type := "function", startLine := 3, endLine := 4, calledBy := ["python:a.py:ask"]
     metadata := [("call_names", .arr [.str "ask"])] },
   { id := "go:b.go:Listen", name := "Listen", language := "go", file := "b.go"
     type := "function", startLine := 1, endLine := 2
     metadata := [("call_names", .arr [.str "a.reply"])] }]

/-- Two modules that call one another: the links that are added answer one another, a link to an
unknown caller is kept, and three further builds change nothing. -/
theorem build_stable_correspondents : ∃ refs after,
    build correspondents = .ok (refs, after) ∧
      after.map (fun e => (e.calls, e.calledBy)) =
        [(["python:a.py:reply"], ["python:a.py:reply"]),
         (["python:a.py:ask"], ["python:a.py:ask", "go:b.go:Listen"]),
         (["python:a.py:reply"], [])] ∧
      Reciprocal correspondents ∧ Reciprocal after ∧
      List.Forall₂ (Mirrored refs) correspondents after ∧
      buildTimes 3 after = .ok ([refs, refs, refs], after) := by
  have hlinks : (build correspondents).map (fun p => p.2.map fun e => (e.calls, e.calledBy)) =
      .ok [(["python:a.py:reply"], ["python:a.py:reply"]),
        (["python:a.py:ask"], ["python:a.py:ask", "go:b.go:Listen"]),
        (["python:a.py:reply"], [])] := by
    decide +kernel
  have hreciprocal : Reciprocal correspondents := by
    unfold Reciprocal
    decide
  rcases map_eq_ok_iff.1 hlinks with ⟨⟨refs, after⟩, hbuild, hafter⟩
  rcases build_stable (by decide) hbuild with ⟨hmirrors, hkeeps, _, htimes⟩
  exact ⟨refs, after, hbuild, hafter, hreciprocal, hkeeps hreciprocal, hmirrors, htimes 3⟩

end Reference
end CrossAudit
