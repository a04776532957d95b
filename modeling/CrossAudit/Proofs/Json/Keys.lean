import CrossAudit.Json.Parser
import CrossAudit.Proofs.Assoc
import CrossAudit.Proofs.Failing
import Mathlib.Tactic.Common

/-!
# Keys of documents that were read

Objects are lists of members, so a value may well hold one key twice.  A document that was read from
a text never does: a repeated key replaces the member that has it.

Main results:

- Theorems `eachObject_arr_iff` and `eachObject_obj_iff`: a property of all objects within a
  container is one of the container itself and of the objects within its parts.
- Theorem `distinctKeys_of_parse`: no object within a document that was read has a key twice.
-/

namespace CrossAudit
namespace Json

/-! ## Parts of a document -/

/-- The parts of a document: itself, and the parts of its items and members. -/
inductive PartOf : Json → Json → Prop where
  | self (j : Json) : PartOf j j
  | item {j x : Json} {xs : List Json} (hx : x ∈ xs) (h : PartOf j x) : PartOf j (.arr xs)
  | member {j : Json} {m : String × Json} {ms : List (String × Json)} (hm : m ∈ ms)
      (h : PartOf j m.2) : PartOf j (.obj ms)

/-- Every object within a document has members with a property. -/
def EachObject (P : List (String × Json) → Prop) (j : Json) : Prop :=
  ∀ ms, PartOf (.obj ms) j → P ms

section

variable {P : List (String × Json) → Prop}

/-- Null holds no object. -/
theorem eachObject_null : EachObject P .null := by
  rintro ms ⟨⟩

/-- A truth value holds no object. -/
theorem eachObject_bool (b : Bool) : EachObject P (.bool b) := by
  rintro ms ⟨⟩

/-- An integer holds no object. -/
theorem eachObject_int (n : Int) : EachObject P (.int n) := by
  rintro ms ⟨⟩

/-- A number holds no object. -/
theorem eachObject_real (x : Binary64) : EachObject P (.real x) := by
  rintro ms ⟨⟩

/-- A text holds no object. -/
theorem eachObject_str (s : String) : EachObject P (.str s) := by
  rintro ms ⟨⟩

/-- The objects in an array are those in its items. -/
theorem eachObject_arr_iff {xs : List Json} :
    EachObject P (.arr xs) ↔ ∀ x ∈ xs, EachObject P x := by
  constructor
  · intro h x hx ms hms
    exact h ms (.item hx hms)
  · intro h ms hms
    cases hms with
    | item hx hms => exact h _ hx ms hms

/-- The objects in an object are that one and those in its members. -/
theorem eachObject_obj_iff {ms : List (String × Json)} :
    EachObject P (.obj ms) ↔ P ms ∧ ∀ m ∈ ms, EachObject P m.2 := by
  constructor
  · intro h
    exact ⟨h ms (.self _), fun m hm ms' hms' => h ms' (.member hm hms')⟩
  · rintro ⟨hown, h⟩ ms' hms'
    cases hms' with
    | self => exact hown
    | member hm hms' => exact h _ hm ms' hms'

end

/-! ## Distinct keys -/

/-- No object within a document has a key twice. -/
def DistinctKeys : Json → Prop :=
  EachObject fun ms => (ms.map (·.1)).Nodup

/-- Setting a member replaces the one with the same key. -/
theorem distinctKeys_setMember {ms : List (String × Json)} (key : String) {value : Json}
    (hms : DistinctKeys (.obj ms)) (hvalue : DistinctKeys value) :
    DistinctKeys (.obj (setMember key value ms)) := by
  rw [DistinctKeys, eachObject_obj_iff] at hms ⊢
  rw [setMember]
  constructor
  · rw [Assoc.set_eq_update]
    exact Assoc.nodup_keys_update key value _ hms.1
  · intro m hm
    rcases Assoc.mem_set hm with heq | hm
    · rwa [heq]
    · exact hms.2 m hm

/-! ## Readers -/

variable {fuel depth : Nat} {cs rest : List Char}

/-- A number has no keys. -/
theorem distinctKeys_numberOf (negative : Bool) (whole : List Char)
    (fraction : Option (List Char)) (exponent : Option Int) :
    DistinctKeys (numberOf negative whole fraction exponent) := by
  unfold numberOf
  split
  · exact eachObject_int _
  · exact eachObject_real _

/-- The number that is read has no keys. -/
theorem distinctKeys_of_readMagnitude {negative : Bool} {v : Json}
    (h : readMagnitude negative cs = .ok (v, rest)) : DistinctKeys v := by
  simp only [readMagnitude, bind_eq_ok_iff] at h
  rcases h with ⟨⟨whole, _⟩, _, h⟩
  split at h
  · cases h
  simp only [bind_eq_ok_iff] at h
  rcases h with ⟨⟨fraction, _⟩, _, ⟨exponent, _⟩, _, h⟩
  split at h
  · cases h
  · cases h
    exact distinctKeys_numberOf negative whole fraction exponent

/-- A word has no members. -/
theorem distinctKeys_of_readWord {v : Json} (h : readWord cs = .ok (v, rest)) :
    DistinctKeys v := by
  unfold readWord at h
  split at h
  case h_1 | h_2 =>
    rcases map_eq_ok_iff.1 h with ⟨_, _, ⟨⟩⟩
    exact eachObject_bool _
  case h_3 =>
    rcases map_eq_ok_iff.1 h with ⟨_, _, ⟨⟩⟩
    exact eachObject_null
  case h_4 | h_5 | h_6 =>
    rcases map_eq_ok_iff.1 h with ⟨_, _, ⟨⟩⟩
    exact eachObject_real _
  case h_7 =>
    unfold readNumber at h
    split at h
    · exact distinctKeys_of_readMagnitude h
    · split at h
      · exact distinctKeys_of_readMagnitude h
      · cases h
    · cases h

/-- What the readers give with some fuel has distinct keys, if what was read before has. -/
structure ReadersKeep (fuel : Nat) : Prop where
  value : ∀ {depth cs v rest}, readValue depth fuel cs = .ok (v, rest) → DistinctKeys v
  items : ∀ {depth cs vs rest}, readItems depth fuel cs = .ok (vs, rest) →
    DistinctKeys (.arr vs)
  members : ∀ {depth done cs ms rest}, readMembers depth fuel done cs = .ok (ms, rest) →
    DistinctKeys (.obj done) → DistinctKeys (.obj ms)

/-- An object without members has no key twice. -/
theorem distinctKeys_obj_nil : DistinctKeys (.obj []) :=
  eachObject_obj_iff.2 ⟨List.nodup_nil, by simp⟩

/-- A container has distinct keys if every list of parts that was read makes such a container. -/
theorem distinctKeys_of_readContainer {α : Type} {close : Char} {ended : Flaw}
    {deep : List Char → Complaint} {wrap : List α → Json}
    {parts : Nat → List Char → Reading (List α)} {v : Json} (hempty : DistinctKeys (wrap []))
    (hparts : ∀ {depth cs xs rest}, parts depth cs = .ok (xs, rest) → DistinctKeys (wrap xs))
    (h : readContainer close ended deep wrap depth parts cs = .ok (v, rest)) : DistinctKeys v := by
  unfold readContainer at h
  split at h
  · cases h
  · split at h
    · cases h
      exact hempty
    · split at h
      · cases h
      · rcases map_eq_ok_iff.1 h with ⟨⟨xs, _⟩, hxs, ⟨⟩⟩
        exact hparts hxs

/-- A value has distinct keys if its items and members do. -/
theorem ReadersKeep.value_succ (ih : ReadersKeep fuel) {v : Json}
    (h : readValue depth (fuel + 1) cs = .ok (v, rest)) : DistinctKeys v := by
  rw [readValue] at h
  split at h
  case h_1 => cases h
  case h_2 =>
    rcases map_eq_ok_iff.1 h with ⟨_, _, ⟨⟩⟩
    exact eachObject_str _
  case h_3 => exact distinctKeys_of_readContainer (eachObject_arr_iff.2 (by simp)) ih.items h
  case h_4 =>
    exact distinctKeys_of_readContainer distinctKeys_obj_nil
      (fun hms => ih.members hms distinctKeys_obj_nil) h
  case h_5 => exact distinctKeys_of_readWord h

/-- Items have distinct keys if values and further items do. -/
theorem ReadersKeep.items_succ (ih : ReadersKeep fuel) {vs : List Json}
    (h : readItems depth (fuel + 1) cs = .ok (vs, rest)) : DistinctKeys (.arr vs) := by
  simp only [readItems, bind_eq_ok_iff] at h
  rcases h with ⟨⟨v, _⟩, hv, ⟨more, _⟩, _, h⟩
  have hhead := ih.value hv
  split at h
  · rcases bind_eq_ok_iff.1 h with ⟨⟨vs, _⟩, hvs, ⟨⟩⟩
    have htail := eachObject_arr_iff.1 (ih.items hvs)
    exact eachObject_arr_iff.2 (List.forall_mem_cons.2 ⟨hhead, htail⟩)
  · cases h
    exact eachObject_arr_iff.2 (List.forall_mem_singleton.2 hhead)

/-- Members have distinct keys, since a key that is met again replaces its value. -/
theorem ReadersKeep.members_succ (ih : ReadersKeep fuel) {done ms : List (String × Json)}
    (h : readMembers depth (fuel + 1) done cs = .ok (ms, rest))
    (hdone : DistinctKeys (.obj done)) : DistinctKeys (.obj ms) := by
  simp only [readMembers, bind_eq_ok_iff] at h
  rcases h with ⟨⟨key, _⟩, _, ⟨v, _⟩, hv, ⟨more, _⟩, _, h⟩
  have hset := distinctKeys_setMember key hdone (ih.value hv)
  split at h
  · exact ih.members h hset
  · cases h
    exact hset

/-- Whatever the fuel, each reader keeps keys distinct. -/
theorem readersKeep (fuel : Nat) : ReadersKeep fuel := by
  induction fuel with
  | zero => exact ⟨by simp [readValue], by simp [readItems], by simp [readMembers]⟩
  | succ fuel ih => exact ⟨ih.value_succ, ih.items_succ, ih.members_succ⟩

/-- No object within a document that was read has a key twice. -/
theorem distinctKeys_of_parse {s : String} {j : Json} (h : parse depth s = .ok j) :
    DistinctKeys j := by
  simp only [parse, bind_eq_ok_iff] at h
  rcases h with ⟨⟨v, rest⟩, hv, h⟩
  split at h
  · cases h
    exact (readersKeep _).value hv
  · cases h

end Json
end CrossAudit
