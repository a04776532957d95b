import CrossAudit.Entity.Extraction
import CrossAudit.Proofs.Assoc
import Mathlib.Data.Int.Order.Basic

/-!
# Which entity a request is noted on

Each request of a file is noted on one entity: on the shortest function whose lines contain it, or
else on the module.  The owner is looked for anew for each request, among entities that already
carry the notes on earlier ones; that makes no difference, since notes only change the metadata.

Main results:

- Theorem `owner_eq_some_iff`: the running minimum over the functions finds the owner of a line.
- Theorem `lookup_noteAll`: the notes on an entity are those that were taken, in order.
- Theorem `foldl_attach_eq`: attaching requests notes on each entity those that it takes, in order.
-/

namespace CrossAudit
namespace Extraction

variable {entities : List Entity} {line : Nat} {e : Entity}

/-! ## Owners -/

/-- Whether an entity is a function whose lines contain a line. -/
def encloses (line : Nat) (e : Entity) : Bool :=
  e.type == "function" && (e.startLine ≤ (line : Int) && (line : Int) ≤ e.endLine)

/-- The entity that a line of a file belongs to: the shortest function around it, the earliest of
those that are equally short, or the module if there is no function around it. -/
inductive Owns (entities : List Entity) (line : Nat) (e : Entity) : Prop where
  | function (before after : List Entity) (place : entities = before ++ e :: after)
      (around : encloses line e = true)
      (earlier : ∀ f ∈ before, encloses line f = true → span e < span f)
      (later : ∀ f ∈ after, encloses line f = true → span e ≤ span f)
  | module (first : entities.head? = some e) (type : e.type = "module")
      (outside : ∀ f ∈ entities, encloses line f = false)

/-- The owner of a line is one of the entities. -/
theorem Owns.mem (h : Owns entities line e) : e ∈ entities := by
  cases h with
  | function before after place => simp [place]
  | module first => exact List.mem_of_head? first

/-- The entity that a request on a line is attached to. -/
def owner (entities : List Entity) (line : Nat) : Option Entity :=
  (ownerOf line (entities.filter fun e => e.type == "function")).or entities.head?

/-- The owner is the running minimum of the functions around a line. -/
theorem ownerOf_eq (entities : List Entity) (line : Nat) :
    ownerOf line (entities.filter fun e => e.type == "function") =
      (entities.filter (encloses line)).foldl shorter none := by
  rw [ownerOf, List.filter_filter]
  congr 2
  funext e
  rw [encloses, Bool.and_comm]

/-! ## The running minimum -/

/-- An entity is the shortest of a list, and the first of those that are as short. -/
structure FirstShortest (es : List Entity) (e : Entity) : Prop where
  split : ∃ before after, es = before ++ e :: after ∧
    (∀ f ∈ before, span e < span f) ∧ ∀ f ∈ after, span e ≤ span f

namespace FirstShortest

variable {es : List Entity} {x : Entity}

/-- The shortest entity of a list is in the list. -/
theorem mem (h : FirstShortest es e) : e ∈ es := by
  rcases h.split with ⟨before, after, rfl, _⟩
  simp

/-- The shortest entity of a list is no longer than any other. -/
theorem span_le (h : FirstShortest es e) : ∀ f ∈ es, span e ≤ span f := by
  rcases h.split with ⟨before, after, rfl, hbefore, hafter⟩
  intro f hf
  rcases List.mem_append.1 hf with hf | hf
  · exact (hbefore f hf).le
  · rcases List.mem_cons.1 hf with rfl | hf
    · exact le_refl _
    · exact hafter f hf

/-- An entity that is shorter than all before it takes over; any other changes nothing. -/
theorem concat_of_lt (h : FirstShortest es e) (hlt : span x < span e) :
    FirstShortest (es ++ [x]) x :=
  ⟨es, [], rfl, fun f hf => lt_of_lt_of_le hlt (h.span_le f hf), by simp⟩

/-- A later entity that is not shorter changes nothing. -/
theorem concat_of_le (h : FirstShortest es e) (hle : span e ≤ span x) :
    FirstShortest (es ++ [x]) e := by
  rcases h.split with ⟨before, after, rfl, hbefore, hafter⟩
  refine ⟨before, after ++ [x], by simp, hbefore, ?_⟩
  intro f hf
  rcases List.mem_append.1 hf with hf | hf
  · exact hafter f hf
  · rwa [List.mem_singleton.1 hf]

end FirstShortest

/-- The running minimum is nothing for no entities, and else the first of the shortest. -/
theorem foldl_shorter_cases (es : List Entity) :
    (es = [] ∧ es.foldl shorter none = none) ∨
      ∃ e, es.foldl shorter none = some e ∧ FirstShortest es e := by
  induction es using List.reverseRecOn with
  | nil => exact Or.inl ⟨rfl, rfl⟩
  | append_singleton es x ih =>
      right
      rw [List.foldl_append, List.foldl_cons, List.foldl_nil]
      rcases ih with ⟨rfl, hnone⟩ | ⟨b, hbest, hb⟩
      · exact ⟨x, rfl, [], [], rfl, by simp, by simp⟩
      · rw [hbest, shorter]
        split
        · exact ⟨x, rfl, hb.concat_of_lt ‹_›⟩
        · exact ⟨b, rfl, hb.concat_of_le (not_lt.1 ‹_›)⟩

/-- A running minimum stays if nothing shorter comes. -/
theorem foldl_shorter_of_le {es : List Entity} (h : ∀ f ∈ es, span e ≤ span f) :
    es.foldl shorter (some e) = some e := by
  induction es with
  | nil => rfl
  | cons f es ih =>
      have hstep : shorter (some e) f = some e := if_neg (not_lt.2 (h f List.mem_cons_self))
      rw [List.foldl_cons, hstep]
      exact ih fun g hg => h g (List.mem_cons_of_mem f hg)

/-- The running minimum is the first of the shortest entities. -/
theorem foldl_shorter_eq_some_iff (es : List Entity) :
    es.foldl shorter none = some e ↔ FirstShortest es e := by
  constructor
  · intro h
    rcases foldl_shorter_cases es with ⟨_, hnone⟩ | ⟨b, hbest, hb⟩
    · rw [hnone] at h
      cases h
    · rw [hbest] at h
      cases h
      exact hb
  · rintro ⟨before, after, rfl, hbefore, hafter⟩
    have hstep : shorter (before.foldl shorter none) e = some e := by
      rcases foldl_shorter_cases before with ⟨_, hnone⟩ | ⟨b, hbest, hb⟩
      · rw [hnone]
        rfl
      · rw [hbest]
        exact if_pos (hbefore b hb.mem)
    rw [List.foldl_append, List.foldl_cons, hstep]
    exact foldl_shorter_of_le hafter

/-- The shortest of the functions around a line is found among all entities. -/
theorem firstShortest_filter_iff : FirstShortest (entities.filter (encloses line)) e ↔
    ∃ before after, entities = before ++ e :: after ∧ encloses line e = true ∧
      (∀ f ∈ before, encloses line f = true → span e < span f) ∧
      ∀ f ∈ after, encloses line f = true → span e ≤ span f := by
  constructor
  · rintro ⟨before', after', hsplit, hbefore, hafter⟩
    rcases List.filter_eq_append_iff.1 hsplit with ⟨start, rest, rfl, rfl, hrest⟩
    rcases List.filter_eq_cons_iff.1 hrest with ⟨skipped, after, rfl, hskipped, he, rfl⟩
    refine ⟨start ++ skipped, after, by simp, he, ?_, ?_⟩
    · intro f hf hencloses
      rcases List.mem_append.1 hf with hf | hf
      · exact hbefore f (List.mem_filter.2 ⟨hf, hencloses⟩)
      · exact absurd hencloses (hskipped f hf)
    · exact fun f hf hencloses => hafter f (List.mem_filter.2 ⟨hf, hencloses⟩)
  · rintro ⟨before, after, rfl, he, hbefore, hafter⟩
    refine ⟨before.filter (encloses line), after.filter (encloses line), by simp [he], ?_, ?_⟩
    · exact fun f hf => hbefore f (List.mem_filter.1 hf).1 (List.mem_filter.1 hf).2
    · exact fun f hf => hafter f (List.mem_filter.1 hf).1 (List.mem_filter.1 hf).2

/-- The running minimum over the functions finds the owner of a line. -/
theorem owner_eq_some_iff (hmodule : ∀ m, entities.head? = some m → m.type = "module") :
    owner entities line = some e ↔ Owns entities line e := by
  have houtside : entities.filter (encloses line) = [] ↔
      ∀ f ∈ entities, encloses line f = false := by
    simp [List.filter_eq_nil_iff]
  rw [owner, ownerOf_eq]
  rcases foldl_shorter_cases (entities.filter (encloses line)) with ⟨hnil, hnone⟩ | ⟨b, hbest, hb⟩
  · rw [hnone, Option.none_or]
    constructor
    · exact fun hhead => .module hhead (hmodule e hhead) (houtside.1 hnil)
    · rintro (⟨before, after, hplace, haround, _, _⟩ | ⟨hhead, _, _⟩)
      · rw [houtside.1 hnil e (by simp [hplace])] at haround
        cases haround
      · exact hhead
  · rw [hbest, Option.some_or, ← hbest, foldl_shorter_eq_some_iff, firstShortest_filter_iff]
    constructor
    · rintro ⟨before, after, hplace, haround, hearlier, hlater⟩
      exact .function before after hplace haround hearlier hlater
    · rintro (⟨before, after, hplace, haround, hearlier, hlater⟩ | ⟨_, _, hout⟩)
      · exact ⟨before, after, hplace, haround, hearlier, hlater⟩
      · rw [houtside.2 hout] at hb
        cases hb.mem

/-! ## Notes -/

/-- Notes requests on an entity, one after the other. -/
def noteAll (calls : List ApiCall) (e : Entity) : Entity :=
  calls.foldl (fun e c => noteCall (callNote c) e) e

/-- Calls are noted one after another. -/
theorem noteAll_concat (calls : List ApiCall) (c : ApiCall) (e : Entity) :
    noteAll (calls ++ [c]) e = noteCall (callNote c) (noteAll calls e) := by
  simp [noteAll]

/-- Noting requests leaves alone what does not depend on the metadata. -/
theorem frame_noteAll {β : Type} (f : Entity → β)
    (hf : ∀ e metadata, f { e with metadata := metadata } = f e) (calls : List ApiCall)
    (e : Entity) : f (noteAll calls e) = f e := by
  induction calls using List.reverseRecOn with
  | nil => rfl
  | append_singleton calls c ih =>
      rw [noteAll_concat, ← ih]
      exact hf _ _

/-- The notes on requests are those that were taken, in order. -/
theorem lookup_noteAll (calls : List ApiCall) (h : e.metadata.lookup "api_calls" = none) :
    ((noteAll calls e).metadata.lookup "api_calls").getD (.arr []) =
      .arr (calls.map callNote) := by
  induction calls using List.reverseRecOn with
  | nil =>
      rw [noteAll, List.foldl_nil, h]
      rfl
  | append_singleton calls c ih =>
      have hknown : (((noteAll calls e).metadata.lookup "api_calls").map Json.items).getD [] =
          calls.map callNote := by
        generalize (noteAll calls e).metadata.lookup "api_calls" = noted at ih
        cases noted with
        | none => exact (Json.arr.inj ih)
        | some v =>
            rw [Option.getD_some] at ih
            rw [ih]
            rfl
      have hset : (noteCall (callNote c) (noteAll calls e)).metadata.lookup "api_calls" =
          some (.arr (calls.map callNote ++ [callNote c])) := by
        rw [← hknown]
        exact (Assoc.lookup_set "api_calls" "api_calls" _ _).trans (if_pos (by decide))
      rw [noteAll_concat, hset, Option.getD_some, List.map_append]
      rfl

/-! ## Attaching -/

/-- Whether a request is attached to an entity. -/
def takes (entities : List Entity) (e : Entity) (call : ApiCall) : Bool :=
  (owner entities call.location.startLine).any fun o => o.id == e.id

section Marked

variable {mark : Entity → List ApiCall}

/-- Notes do not change which of two entities is shorter. -/
theorem shorter_noteAll (best : Option Entity) (e : Entity) :
    shorter (best.map fun x => noteAll (mark x) x) (noteAll (mark e) e) =
      (shorter best e).map fun x => noteAll (mark x) x := by
  have hspan := frame_noteAll span fun _ _ => rfl
  cases best with
  | none => rfl
  | some b =>
      simp only [shorter, Option.map_some, hspan]
      split <;> rfl

/-- Owners stay the same when requests are noted. -/
theorem owner_map_noteAll (entities : List Entity) (line : Nat) :
    owner (entities.map fun e => noteAll (mark e) e) line =
      (owner entities line).map fun e => noteAll (mark e) e := by
  have hfold : ∀ (es : List Entity) (best : Option Entity),
      (es.map fun e => noteAll (mark e) e).foldl shorter (best.map fun x => noteAll (mark x) x) =
        (es.foldl shorter best).map fun e => noteAll (mark e) e := by
    intro es
    induction es with
    | nil => exact fun _ => rfl
    | cons e es ih =>
        intro best
        rw [List.map_cons, List.foldl_cons, shorter_noteAll, ih, List.foldl_cons]
  have hfilter : (entities.map fun e => noteAll (mark e) e).filter (encloses line) =
      (entities.filter (encloses line)).map fun e => noteAll (mark e) e := by
    rw [List.filter_map]
    congr 2
    funext e
    exact frame_noteAll (encloses line) (fun _ _ => rfl) (mark e) e
  rw [owner, owner, ownerOf_eq, ownerOf_eq, hfilter, List.head?_map, Option.map_or]
  congr 1
  exact hfold _ none

/-- Notes do not change which entity takes a call. -/
theorem takes_map_noteAll (entities : List Entity) (e : Entity) (calls : List ApiCall)
    (call : ApiCall) :
    takes (entities.map fun e => noteAll (mark e) e) (noteAll calls e) call =
      takes entities e call := by
  have hid := frame_noteAll (·.id) fun _ _ => rfl
  rw [takes, takes, owner_map_noteAll, Option.any_map]
  simp only [hid]

end Marked

/-- Attaching requests notes on each entity those that it takes, in order. -/
theorem foldl_attach_eq (entities : List Entity) (calls : List ApiCall) :
    calls.foldl attach entities =
      entities.map fun e => noteAll (calls.filter (takes entities e)) e := by
  induction calls using List.reverseRecOn with
  | nil => simp [noteAll]
  | append_singleton calls c ih =>
      have hattach : ∀ es, attach es c =
          es.map fun e => if takes es e c then noteCall (callNote c) e else e := fun _ => rfl
      rw [List.foldl_append, List.foldl_cons, List.foldl_nil, ih, hattach, List.map_map]
      refine List.map_congr_left fun e _ => ?_
      rw [Function.comp_apply, takes_map_noteAll, List.filter_append]
      cases htakes : takes entities e c with
      | true => simp [htakes, noteAll_concat]
      | false => simp [htakes]

/-! ## The entities of one file -/

/-- Entities with distinct names, of which the first is the module. -/
structure Filed (entities : List Entity) : Prop where
  module : ∃ m, entities.head? = some m ∧ m.type = "module"
  distinct : (entities.map (·.id)).Nodup

namespace Filed

/-- The entities of a file stay so with notes on them. -/
theorem map_noteAll (h : Filed entities) (mark : Entity → List ApiCall) :
    Filed (entities.map fun e => noteAll (mark e) e) := by
  rcases h.module with ⟨m, hhead, htype⟩
  refine ⟨⟨noteAll (mark m) m, by rw [List.head?_map, hhead, Option.map_some], ?_⟩, ?_⟩
  · exact (frame_noteAll (·.type) (fun _ _ => rfl) (mark m) m).trans htype
  · have hids : (entities.map fun e => noteAll (mark e) e).map (·.id) = entities.map (·.id) := by
      rw [List.map_map]
      exact List.map_congr_left fun e _ => frame_noteAll (·.id) (fun _ _ => rfl) (mark e) e
    rw [hids]
    exact h.distinct

/-- The owner that is found for a line is the one that owns it. -/
theorem owner_eq_some_iff (h : Filed entities) :
    owner entities line = some e ↔ Owns entities line e := by
  rcases h.module with ⟨m, hhead, htype⟩
  refine Extraction.owner_eq_some_iff fun m' hm' => ?_
  rw [hhead] at hm'
  cases hm'
  exact htype

/-- Each line of a file belongs to one entity. -/
theorem existsUnique_owns (h : Filed entities) (line : Nat) : ∃! e, Owns entities line e := by
  rcases h.module with ⟨m, hhead, _⟩
  have hsome : ∃ e, owner entities line = some e := by
    rw [owner, hhead]
    cases ownerOf line (entities.filter fun e => e.type == "function") with
    | none => exact ⟨m, rfl⟩
    | some e => exact ⟨e, rfl⟩
  rcases hsome with ⟨e, he⟩
  refine ⟨e, h.owner_eq_some_iff.1 he, fun e' howns => ?_⟩
  have he' := h.owner_eq_some_iff.2 howns
  rw [he] at he'
  exact (Option.some.inj he').symm

/-- An entity takes the requests on the lines that it owns. -/
theorem takes_iff (h : Filed entities) (he : e ∈ entities) (call : ApiCall) :
    takes entities e call = true ↔ Owns entities call.location.startLine e := by
  rcases h.existsUnique_owns call.location.startLine with ⟨o, ho, hunique⟩
  rw [takes, h.owner_eq_some_iff.2 ho, Option.any_some, beq_iff_eq]
  constructor
  · intro hid
    rwa [← List.inj_on_of_nodup_map h.distinct ho.mem he hid]
  · intro howns
    rw [hunique e howns]

end Filed

end Extraction
end CrossAudit
