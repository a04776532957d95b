import CrossAudit.Contract.Pairing
import CrossAudit.Proofs.Adapter.Requests
import CrossAudit.Proofs.Entity.Naming
import CrossAudit.Proofs.Entity.Ownership

/-!
# Requests from a file to the contracts

The requests of a file travel as notes in the metadata of its entities, and notes are read with
defaults for whatever is missing.  No request is lost, repeated or changed on the way: what an
adapter finds never reads as missing, and each request has one owner.

Main results:

- Theorem `readNote_callNote`: a note on a definite request is read as what was noted.
- Theorem `perm_flatMap_filter`: items of which each belongs to one group are those of all groups.
- Theorem `requests_carried`: the requests of a document are those that are read from its entities,
  each from the one that owns it.
-/

namespace CrossAudit

open Syntax

/-! ## Reading notes -/

namespace Contract

open Extraction

/-- A request that an entity issues. -/
def siteOf (e : Entity) (c : ApiCall) : CallSite where
  entity := e
  method := c.method
  url := .str c.url
  line := .ofNat c.location.start.line
  column := .ofNat c.location.start.col
  hasAuth := c.hasAuth
  expectedType := .ofText? c.expectedType

/-- A member that holds is read as it is. -/
theorem noteOr_of_holds {ms : List (String × Json)} {key : String} {v : Json} (fallback : Json)
    (hlookup : ms.lookup key = some v) (hholds : v.holds = true) :
    noteOr (.obj ms) key fallback = .ok v := by
  have hread : noteOr (.obj ms) key fallback =
      .ok (if ((ms.lookup key).getD .null).holds then (ms.lookup key).getD .null else fallback) :=
    rfl
  rw [hread, hlookup, Option.getD_some, if_pos hholds]

/-- A note on a definite request is read as what was noted: no default is taken. -/
theorem readNote_callNote {c : ApiCall} (h : c.Definite) (e : Entity) :
    readNote e (callNote c) = .ok (siteOf e c) := by
  have htext : ∀ s : String, s ≠ "" → (Json.str s).holds = true := by
    intro s hs
    simpa [Json.holds] using hs
  have hnumber : ∀ n : Nat, 1 ≤ n → (Json.ofNat n).holds = true := by
    intro n hn
    simpa [Json.ofNat, Json.holds] using Nat.one_le_iff_ne_zero.1 hn
  have hmethod : noteMethod (callNote c) = .ok c.method := by
    rw [noteMethod, callNote,
      noteOr_of_holds _ rfl (htext c.method (Http.isMethod_ne_empty h.method))]
    exact congrArg Except.ok (Http.upper_of_isMethod h.method)
  rw [readNote, hmethod, callNote, noteOr_of_holds _ rfl (htext c.url h.url),
    noteOr_of_holds _ rfl (hnumber _ h.place.1), noteOr_of_holds _ rfl (hnumber _ h.place.2)]
  rfl

/-- The requests that were noted on an entity are read from it. -/
theorem callsOf_noteAll {e : Entity} {calls : List ApiCall}
    (hnone : e.metadata.lookup "api_calls" = none) (hcalls : ∀ c ∈ calls, c.Definite) :
    callsOf (noteAll calls e) = .ok (calls.map (siteOf (noteAll calls e))) := by
  have hread : ∀ c ∈ calls, readNote (noteAll calls e) (callNote c) =
      .ok (siteOf (noteAll calls e) c) :=
    fun c hc => readNote_callNote (hcalls c hc) _
  rw [callsOf, lookup_noteAll calls hnone]
  exact List.mapM_map.trans (mapM_eq_ok_map hread)

end Contract

/-! ## The entities of a document -/

namespace Extraction

variable {a : Adapter} {d : Document}

/-- What the owner of a line depends on, and the name. -/
def outline (e : Entity) : String × String × Int × Int :=
  (e.type, e.name, e.startLine, e.endLine)

theorem map_name {β : Type} {f : Entity → β} (hf : ∀ e id, f { e with id := id } = f e)
    (pool : IdPool) (ds : List Draft) :
    (name pool ds).1.map f = ds.map fun x => f x.entity := by
  induction ds generalizing pool with
  | nil => rfl
  | cons x ds ih =>
      have htail := ih (pool.claim x.base).2
      exact congrArg₂ List.cons (hf x.entity _) htail

/-- The functions among the drafts of a document are those of its adapter. -/
theorem filter_outline_drafts (a : Adapter) (d : Document) :
    ((drafts a d).map fun x => outline x.entity).filter (fun o => o.1 == "function") =
      (a.functions d).map fun f =>
        ("function", f.name, (f.location.startLine : Int), (f.location.stopLine : Int)) := by
  have hnone : ∀ {α : Type} (xs : List α) (g : α → Draft),
      (∀ x, (g x).entity.type ≠ "function") →
        ((xs.map g).map fun x => outline x.entity).filter (fun o => o.1 == "function") = [] := by
    intro α xs g hg
    simp [List.filter_eq_nil_iff, outline, hg]
  have hclass : ∀ c, (classDraft d c).entity.type ≠ "function" := by
    intro c
    simp only [classDraft, blank]
    split <;> decide
  have hfunctions : ((a.functions d).map (functionDraft d)).map (fun x => outline x.entity) =
      (a.functions d).map fun f =>
        ("function", f.name, (f.location.startLine : Int), (f.location.stopLine : Int)) := by
    rw [List.map_map]
    rfl
  have hmodule : ((outline (moduleDraft a d).entity).1 == "function") = false := rfl
  rw [drafts, List.map_append, List.map_append, List.map_append, List.map_cons,
    List.filter_append, List.filter_append, List.filter_append, List.filter_cons,
    hnone _ _ hclass, hnone _ (interfaceDraft d) (fun _ => by simp [interfaceDraft, blank]),
    hnone _ (endpointDraft d) (fun _ => by simp [endpointDraft, blank]), hfunctions, hmodule]
  simp

theorem lookup_of_mem_drafts {x : Draft} (h : x ∈ drafts a d) :
    x.entity.metadata.lookup "api_calls" = none := by
  simp only [drafts, List.cons_append, List.mem_cons, List.mem_append, List.mem_map] at h
  rcases h with rfl | ((⟨f, _, rfl⟩ | ⟨c, _, rfl⟩) | ⟨i, _, rfl⟩) | ⟨e, _, rfl⟩ <;> rfl

/-- No request is noted on an entity that was just named. -/
theorem lookup_of_mem_name {pool : IdPool} {e : Entity} (h : e ∈ (name pool (drafts a d)).1) :
    e.metadata.lookup "api_calls" = none := by
  have hmap := map_name (f := fun e => e.metadata.lookup "api_calls") (fun _ _ => rfl) pool
    (drafts a d)
  have hmem := List.mem_map_of_mem (f := fun e => e.metadata.lookup "api_calls") h
  rw [hmap] at hmem
  rcases List.mem_map.1 hmem with ⟨x, hx, heq⟩
  rw [← heq]
  exact lookup_of_mem_drafts hx

end Extraction

/-! ## Requests that are carried over -/

namespace Contract

open Extraction

/-- Items of which each belongs to exactly one group are those of all groups together. -/
theorem perm_flatMap_filter {α β : Type} {groups : List α} {items : List β} {p : α → β → Bool}
    (hsome : ∀ y ∈ items, ∃ x ∈ groups, p x y = true)
    (honce : groups.Pairwise fun x x' => ∀ y ∈ items, p x y = true → p x' y = false) :
    (groups.flatMap fun x => items.filter (p x)).Perm items := by
  induction groups generalizing items with
  | nil =>
      cases items with
      | nil => exact .nil
      | cons y items =>
          rcases hsome y List.mem_cons_self with ⟨x, hx, _⟩
          cases hx
  | cons x groups ih =>
      rw [List.pairwise_cons] at honce
      -- What the first group leaves over belongs to the others.
      have hrest : (groups.flatMap fun x' => items.filter (p x')) =
          groups.flatMap fun x' => (items.filter fun y => !p x y).filter (p x') := by
        refine List.flatMap_congr fun x' hx' => ?_
        rw [List.filter_filter]
        refine List.filter_congr fun y hy => ?_
        have honce := honce.1 x' hx' y hy
        cases hx : p x y <;> simp_all
      rw [List.flatMap_cons, hrest]
      refine (List.Perm.append_left _ (ih ?_ ?_)).trans (List.filter_append_perm (p x) items)
      · intro y hy
        rcases List.mem_filter.1 hy with ⟨hy, hnot⟩
        rcases hsome y hy with ⟨x', hx', hp⟩
        rcases List.mem_cons.1 hx' with rfl | hx'
        · simp [hp] at hnot
        · exact ⟨x', hx', hp⟩
      · exact honce.2.imp fun h y hy => h y (List.mem_filter.1 hy).1

/-- What is told of a request, whichever entity issues it. -/
structure Particulars where
  method : String
  url : Json
  line : Json
  column : Json
  hasAuth : Bool
  expectedType : Json

/-- What an adapter tells of a request. -/
def Particulars.ofCall (c : ApiCall) : Particulars :=
  ⟨c.method, .str c.url, .ofNat c.location.start.line, .ofNat c.location.start.col, c.hasAuth,
    .ofText? c.expectedType⟩

/-- What is read of a request. -/
def Particulars.ofSite (s : CallSite) : Particulars :=
  ⟨s.method, s.url, s.line, s.column, s.hasAuth, s.expectedType⟩

open Classical in
/-- The requests that an adapter finds in a document are those that are read from its entities, and
each is read from the entity that owns it. -/
structure Carried (a : Adapter) (d : Document) (entities : List Entity) (calls : List ApiCall)
    (sites : List CallSite) : Prop where
  found : a.apiCalls d = .ok calls
  read : callSites entities = .ok sites
  same : (sites.map .ofSite).Perm (calls.map Particulars.ofCall)
  functions : (entities.filter fun e => e.type == "function").map outline =
    (a.functions d).map fun f =>
      ("function", f.name, (f.location.startLine : Int), (f.location.stopLine : Int))
  distinct : (entities.map (·.id)).Nodup
  owned : ∀ c ∈ calls, ∃! e, Owns entities c.location.startLine e
  noted : ∀ e ∈ entities, callsOf e =
    .ok ((calls.filter fun c => Owns entities c.location.startLine e).map (siteOf e))

section Document

variable {a : Adapter} {d : Document} {pool : IdPool} {entities : List Entity}
  {calls : List ApiCall}

/-- Requests are read from the entities that take them, each from one. -/
theorem perm_flatMap_takes (h : Filed entities) (calls : List ApiCall) :
    (entities.flatMap fun e => calls.filter (takes entities e)).Perm calls := by
  refine perm_flatMap_filter ?_ ?_
  · intro c _
    rcases h.existsUnique_owns c.location.startLine with ⟨e, howns, _⟩
    exact ⟨e, howns.mem, (h.takes_iff howns.mem c).2 howns⟩
  · have hdistinct : entities.Pairwise fun e e' => e.id ≠ e'.id := List.pairwise_map.1 h.distinct
    refine hdistinct.imp_of_mem fun {e e'} he he' hne c _ htakes => ?_
    by_contra hboth
    have howns := (h.takes_iff he c).1 htakes
    have howns' := (h.takes_iff he' c).1 (by simpa using hboth)
    exact hne (congrArg (·.id) ((h.existsUnique_owns _).unique howns howns'))

theorem filed_name (a : Adapter) (d : Document) (pool : IdPool) :
    Filed (name pool (drafts a d)).1 where
  module := ⟨_, rfl, rfl⟩
  distinct := (handed_name pool (drafts a d)).nodup

/-- The entities of a document are its named drafts with notes on the requests that they take. -/
theorem exists_eq_map_noteAll (h : (ofDocument a d pool).1 = .ok entities) :
    ∃ calls, a.apiCalls d = .ok calls ∧
      entities = (name pool (drafts a d)).1.map fun e =>
        noteAll (calls.filter (takes (name pool (drafts a d)).1 e)) e := by
  have hattach : (ofDocument a d pool).1 =
      (a.apiCalls d).map fun calls => calls.foldl attach (name pool (drafts a d)).1 := rfl
  rw [hattach, map_eq_ok_iff] at h
  rcases h with ⟨calls, hcalls, rfl⟩
  exact ⟨calls, hcalls, foldl_attach_eq _ _⟩

/-- The functions among the entities of a document are those of its adapter, in order. -/
theorem map_outline_functions (h : (ofDocument a d pool).1 = .ok entities) :
    (entities.filter fun e => e.type == "function").map outline =
      (a.functions d).map fun f =>
        ("function", f.name, (f.location.startLine : Int), (f.location.stopLine : Int)) := by
  rcases exists_eq_map_noteAll h with ⟨calls, _, hentities⟩
  have houtline : entities.map outline = (drafts a d).map fun x => outline x.entity := by
    rw [hentities, ← map_name (fun _ _ => rfl) pool, List.map_map]
    exact List.map_congr_left fun e _ => frame_noteAll outline (fun _ _ => rfl) _ e
  rw [← filter_outline_drafts, ← houtline, List.filter_map]
  rfl

/-- From each entity of a document the requests are read that it takes. -/
theorem callsOf_eq (hplaces : d.FromOne) (h : (ofDocument a d pool).1 = .ok entities) :
    ∃ calls, a.apiCalls d = .ok calls ∧ Filed entities ∧ ∀ e ∈ entities,
      callsOf e = .ok ((calls.filter (takes entities e)).map (siteOf e)) := by
  rcases exists_eq_map_noteAll h with ⟨calls, hcalls, rfl⟩
  refine ⟨calls, hcalls, (filed_name a d pool).map_noteAll _, ?_⟩
  intro e he
  rcases List.mem_map.1 he with ⟨x, hx, rfl⟩
  have hdefinite : ∀ c ∈ calls.filter (takes (name pool (drafts a d)).1 x), c.Definite :=
    fun c hc => Adapter.definite_of_mem_apiCalls hplaces hcalls c (List.mem_filter.1 hc).1
  rw [callsOf_noteAll (lookup_of_mem_name hx) hdefinite]
  congr 3
  funext c
  exact (takes_map_noteAll _ x _ c).symm

/-- What is read from all entities is what is told of the requests that they take. -/
theorem map_ofSite_flatMap (entities : List Entity) (own : Entity → List ApiCall) :
    (entities.flatMap fun e => (own e).map (siteOf e)).map Particulars.ofSite =
      (entities.flatMap own).map Particulars.ofCall := by
  rw [List.map_flatMap, List.map_flatMap]
  refine List.flatMap_congr fun e _ => ?_
  rw [List.map_map]
  rfl

/-- The requests of a document whose places count from one are those that are read from its
entities, each from the one that owns it. -/
theorem requests_carried (hplaces : d.FromOne) (h : (ofDocument a d pool).1 = .ok entities) :
    ∃ calls sites, Carried a d entities calls sites := by
  classical
  rcases callsOf_eq hplaces h with ⟨calls, hcalls, hfiled, hread⟩
  refine ⟨calls, entities.flatMap fun e => (calls.filter (takes entities e)).map (siteOf e), ?_⟩
  exact
    { found := hcalls
      read := by
        rw [callSites, mapM_eq_ok_map hread]
        rfl
      same := by
        rw [map_ofSite_flatMap]
        exact (perm_flatMap_takes hfiled calls).map _
      functions := map_outline_functions h
      distinct := hfiled.distinct
      owned := fun c _ => hfiled.existsUnique_owns _
      noted := by
        intro e he
        have htakes : ∀ c ∈ calls,
            takes entities e c = decide (Owns entities c.location.startLine e) := by
          intro c _
          rw [Bool.eq_iff_iff, decide_eq_true_eq]
          exact hfiled.takes_iff he c
        rw [hread e he, List.filter_congr htakes] }

end Document

/-- A row of a tree, for a node that is more than a token. -/
def treeRow (parent : Int) (kind : String) (first last : Int) (role : String) : Json :=
  .arr [.int parent, .str kind, .int first, .int last, .int 1, .str role]

/-- A function on one line that issues a request, and a request on the next line. -/
def briefFile : Json :=
  .obj [("path", .str "m.py"),
    ("source", .str "def f(): ky.get('/a')\nky.put('/b')\n"),
    ("tree", .arr [treeRow (-1) "module" 0 34 "",
      treeRow 0 "function_definition" 0 21 "", treeRow 1 "identifier" 4 5 "name",
      treeRow 1 "call" 9 21 "body", treeRow 3 "attribute" 9 15 "function",
      treeRow 4 "identifier" 9 11 "object", treeRow 4 "identifier" 12 15 "attribute",
      treeRow 3 "argument_list" 15 21 "arguments", treeRow 7 "string" 16 20 "",
      treeRow 0 "call" 22 34 "", treeRow 9 "attribute" 22 28 "function",
      treeRow 10 "identifier" 22 24 "object", treeRow 10 "identifier" 25 28 "attribute",
      treeRow 9 "argument_list" 28 34 "arguments", treeRow 13 "string" 29 33 ""])]

/-- The document that is parsed from it. -/
def briefDocument : Document :=
  (Snapshot.workspace [briefFile]).parse .python "m.py" (Snapshot.contentOf briefFile)

/-- The first request is read from the function, the second from the module. -/
theorem requests_carried_brief : ∃ entities calls sites,
    (ofDocument .python briefDocument {}).1 = .ok entities ∧
    sites.map (fun s => (s.entity.name, s.method)) = [("m", "PUT"), ("f", "GET")] ∧
    Carried .python briefDocument entities calls sites := by
  have hread : attains (ofDocument .python briefDocument {}).1 (fun entities =>
      attains (callSites entities) fun sites =>
        sites.map (fun s => (s.entity.name, s.method)) == [("m", "PUT"), ("f", "GET")]) = true := by
    decide +kernel
  rcases hentities : (ofDocument .python briefDocument {}).1 with fault | entities
  · rw [hentities] at hread
    cases hread
  · have hplaces : briefDocument.FromOne := Snapshot.fromOne_parse _ _ _ _
    rcases requests_carried hplaces hentities with ⟨calls, sites, hcarried⟩
    rw [hentities, attains_ok, hcarried.read, attains_ok, beq_iff_eq] at hread
    exact ⟨entities, calls, sites, rfl, hread, hcarried⟩

end Contract
end CrossAudit
