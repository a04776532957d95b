import CrossAudit.Proofs.Json.Keys
import CrossAudit.Proofs.Json.Requoting
import CrossAudit.Wire.Task
import Mathlib.Data.List.Forall2

/-!
# The spelling of fields does not show in a response

Names of fields that consist of several words are spelled with underscores or with capitals.  A
document may mix the spellings as it likes: a reader finds the same values under the names of its
fields, unless an object holds one field in both spellings.

Main results:

- Theorem `fields_distinct`: in a document that was read, and in which no object holds one field in
  both spellings, no object holds a field twice.
- Theorem `Respelling.lookupField`: a field has the same value in another spelling, up to spellings
  within the value.
- Theorem `blind_response`: responses are read the same way in every spelling.
- Theorem `ofOutput_respelt`: so are the outputs of programs, and the results that they lead to;
  outputs that cannot be read are refused for the same flaw.
- Theorem `respelling_shows`: the place of a flaw depends on the spelling, and so does the value of
  a field whose key is repeated and changed once.
-/

namespace CrossAudit
namespace Wire

open Read Json

/-! ## Spellings -/

/-- The fields whose names consist of several words, spelled with underscores. -/
def wordyFields : List String :=
  ["index_entries", "files_analyzed", "execution_time", "start_line", "end_line", "return_type",
    "api_endpoint", "api_method", "requires_auth", "default_value"]

/-- Spellings of one key. -/
def SameKey (k k' : String) : Prop :=
  k = k' ∨ ∃ f ∈ wordyFields, (k = f ∨ k = camel f) ∧ (k' = f ∨ k' = camel f)

mutual

/-- Documents that differ in the spelling of keys only, at any depth but not within metadata. -/
inductive Respelt : Json → Json → Prop where
  | same (j : Json) : Respelt j j
  | arr {xs ys : List Json} (h : List.Forall₂ Respelt xs ys) : Respelt (.arr xs) (.arr ys)
  | obj {ms ms' : List (String × Json)} (h : List.Forall₂ RespeltMember ms ms') :
      Respelt (.obj ms) (.obj ms')

/-- Members of such documents: the same one, or two with spellings of one key. -/
inductive RespeltMember : String × Json → String × Json → Prop where
  | same (m : String × Json) : RespeltMember m m
  | spelt {k k' : String} {v v' : Json} (hkey : SameKey k k') (hmetadata : k ≠ "metadata")
      (h : Respelt v v') : RespeltMember (k, v) (k', v')

end

/-- No object within a document holds a field in both spellings. -/
def SinglySpelt : Json → Prop :=
  EachObject fun ms => ∀ f ∈ wordyFields, ¬ (f ∈ ms.map (·.1) ∧ camel f ∈ ms.map (·.1))

/-! ## Fields -/

/-- The field that a key stands for. -/
def fieldOf (key : String) : String :=
  (wordyFields.find? fun f => camel f == key).getD key

/-- The name of a field in the spelling that readers use. -/
def IsField (name : String) : Prop :=
  fieldOf name = name ∧ fieldOf (camel name) = name

/-- A key is a field itself or the other spelling of one with several words. -/
theorem fieldOf_cases (k : String) :
    fieldOf k = k ∨ (fieldOf k ∈ wordyFields ∧ camel (fieldOf k) = k) := by
  unfold fieldOf
  cases hfind : wordyFields.find? fun f => camel f == k with
  | none => exact Or.inl rfl
  | some f =>
      have hspelt := List.find?_some hfind
      exact Or.inr ⟨List.mem_of_find?_eq_some hfind, by simpa using hspelt⟩

/-- The names that readers ask for. -/
abbrev readFields : List String :=
  ["file", "line", "column", "severity", "message", "rule", "analyzer", "fix", "name", "type",
    "optional", "default_value", "visibility", "id", "start_line", "end_line", "signature",
    "parameters", "properties", "return_type", "calls", "extends", "implements", "api_endpoint",
    "api_method", "requires_auth", "deprecated", "complexity", "metadata", "error",
    "files_analyzed", "execution_time", "violations", "index_entries", "metrics", "errors", "code",
    "result"]

/-- The names that the reader looks up are fields. -/
theorem isField_of_mem {name : String} (h : name ∈ readFields) : IsField name := by
  have hall : ∀ f ∈ readFields, fieldOf f = f ∧ fieldOf (camel f) = f := by decide +kernel
  exact hall name h

/-- A field of several words is a field. -/
theorem isField_of_wordy {f : String} (h : f ∈ wordyFields) : IsField f := by
  have hsub : ∀ f ∈ wordyFields, f ∈ readFields := by decide +kernel
  exact isField_of_mem (hsub f h)

/-- Spellings of one key stand for one field. -/
theorem SameKey.fieldOf_eq {k k' : String} (h : SameKey k k') : fieldOf k = fieldOf k' := by
  rcases h with rfl | ⟨f, hf, hk, hk'⟩
  · rfl
  · have hfield := isField_of_wordy hf
    have hone : ∀ {k : String}, k = f ∨ k = camel f → fieldOf k = f := by
      rintro k (rfl | rfl)
      · exact hfield.1
      · exact hfield.2
    rw [hone hk, hone hk']

/-- No object within a document holds a field twice, whatever the spellings. -/
def FieldsDistinct : Json → Prop :=
  EachObject fun ms => (ms.map fun m => fieldOf m.1).Nodup

/-- Where keys are distinct and no object holds both spellings of a field, fields are distinct. -/
theorem fields_distinct {j : Json} (hkeys : DistinctKeys j) (hsingle : SinglySpelt j) :
    FieldsDistinct j := by
  intro ms hms
  have hinj : ∀ k ∈ ms.map (·.1), ∀ k' ∈ ms.map (·.1), fieldOf k = fieldOf k' → k = k' := by
    intro k hk k' hk' hfield
    rcases fieldOf_cases k with hself | ⟨hwordy, hcamel⟩
    · rcases fieldOf_cases k' with hself' | ⟨hwordy', hcamel'⟩
      · rw [← hself, ← hself', hfield]
      · refine absurd ⟨?_, ?_⟩ (hsingle ms hms (fieldOf k') hwordy')
        · rwa [← hfield, hself]
        · rwa [hcamel']
    · rcases fieldOf_cases k' with hself' | ⟨hwordy', hcamel'⟩
      · refine absurd ⟨?_, ?_⟩ (hsingle ms hms (fieldOf k) hwordy)
        · rwa [hfield, hself']
        · rwa [hcamel]
      · rw [← hcamel, ← hcamel', hfield]
  have hnodup := (hkeys ms hms).map_on hinj
  rwa [List.map_map] at hnodup

/-! ## Looking up fields -/

/-- Members under the fields that their keys stand for. -/
def byField (ms : List (String × Json)) : List (String × Json) :=
  ms.map fun m => (fieldOf m.1, m.2)

/-- A key that no member has is not found. -/
theorem lookup_eq_none_of_not_mem {k : String} {ms : List (String × Json)}
    (h : k ∉ ms.map (·.1)) : ms.lookup k = none := by
  rw [List.lookup_eq_none_iff]
  intro m hm
  exact bne_iff_ne.2 fun heq => h (List.mem_map.2 ⟨m, hm, heq.symm⟩)

/-- What is found in either spelling is what is found under the field. -/
theorem lookupField_eq {ms : List (String × Json)} {name : String} (hname : IsField name)
    (hnodup : (ms.map fun m => fieldOf m.1).Nodup) :
    Read.lookupField ms name = (byField ms).lookup name := by
  induction ms with
  | nil => rfl
  | cons m rest ih =>
      rcases m with ⟨k, v⟩
      rw [List.map_cons, List.nodup_cons] at hnodup
      by_cases hk : fieldOf k = name
      · have hfound : (byField ((k, v) :: rest)).lookup name = some v := by
          simp [byField, hk]
        rw [hfound, Read.lookupField]
        by_cases hcamel : camel name = k
        · simp [hcamel]
        · have hself : name = k := by
            rcases fieldOf_cases k with hself | ⟨_, hspelt⟩
            · rw [← hk, hself]
            · rw [hk] at hspelt
              exact absurd hspelt hcamel
          -- The other spelling does not occur, since it would be the same field once more.
          have hnone : rest.lookup (camel name) = none := by
            apply lookup_eq_none_of_not_mem
            intro hmem
            rcases List.mem_map.1 hmem with ⟨m, hm, hkey⟩
            exact hnodup.1 (List.mem_map.2 ⟨m, hm, by rw [hkey, hname.2, hk]⟩)
          subst hself
          have hne : (camel name == name) = false := beq_false_of_ne hcamel
          simp [List.lookup_cons, hne, hnone]
      · have hne : (name == k) = false := by
          apply beq_false_of_ne
          rintro rfl
          exact hk hname.1
        have hne' : (camel name == k) = false := by
          apply beq_false_of_ne
          rintro rfl
          exact hk hname.2
        have hskip : (name == fieldOf k) = false := beq_false_of_ne (Ne.symm hk)
        have hrest := ih hnodup.2
        rw [Read.lookupField] at hrest ⊢
        rw [List.lookup_cons, hne', List.lookup_cons, hne]
        simpa [byField, List.lookup_cons, hskip] using hrest

/-- Members with distinct fields, in two spellings. -/
structure Respelling (ms ms' : List (String × Json)) : Prop where
  distinct : FieldsDistinct (.obj ms)
  respelt : List.Forall₂ RespeltMember ms ms'

/-- Values of one field in two spellings; metadata is left alone. -/
structure SameValue (name : String) (v v' : Json) : Prop where
  distinct : FieldsDistinct v
  respelt : Respelt v v'
  metadata : name = "metadata" → v = v'

/-- Members in two spellings belong to one field, and so do their values. -/
theorem RespeltMember.sameValue {m m' : String × Json} (h : RespeltMember m m')
    (hdistinct : FieldsDistinct m.2) :
    fieldOf m.1 = fieldOf m'.1 ∧ SameValue (fieldOf m.1) m.2 m'.2 := by
  cases h with
  | same => exact ⟨rfl, hdistinct, .same _, fun _ => rfl⟩
  | @spelt k k' v v' hkey hmetadata h =>
      refine ⟨hkey.fieldOf_eq, hdistinct, h, fun hfield => ?_⟩
      dsimp only at hfield
      rcases fieldOf_cases k with hself | ⟨hwordy, _⟩
      · exact absurd (hself.symm.trans hfield) hmetadata
      · rw [hfield] at hwordy
        exact absurd hwordy (by simp [wordyFields])

namespace Respelling

variable {ms ms' : List (String × Json)} {name : String} {α : Type} {read : Reader α}

/-- Respelt members are those of the same fields. -/
theorem map_fieldOf_eq (h : List.Forall₂ RespeltMember ms ms')
    (hdistinct : ∀ m ∈ ms, FieldsDistinct m.2) :
    (ms.map fun m => fieldOf m.1) = ms'.map fun m => fieldOf m.1 := by
  induction h with
  | nil => rfl
  | cons hm _ ih =>
      rw [List.forall_mem_cons] at hdistinct
      rw [List.map_cons, List.map_cons, (hm.sameValue hdistinct.1).1, ih hdistinct.2]

/-- Looking up one field in respelt members finds values that are read alike. -/
theorem lookup_byField (h : List.Forall₂ RespeltMember ms ms')
    (hdistinct : ∀ m ∈ ms, FieldsDistinct m.2) (name : String) :
    Option.Rel (SameValue name) ((byField ms).lookup name) ((byField ms').lookup name) := by
  induction h with
  | nil => exact .none
  | @cons m m' ms ms' hm _ ih =>
      rw [List.forall_mem_cons] at hdistinct
      rcases hm.sameValue hdistinct.1 with ⟨hfield, hvalue⟩
      have hrest := ih hdistinct.2
      simp only [byField, List.map_cons, List.lookup_cons, ← hfield] at hrest ⊢
      by_cases hname : name = fieldOf m.1
      · subst hname
        simpa using Option.Rel.some hvalue
      · have hne : (name == fieldOf m.1) = false := beq_false_of_ne hname
        simpa [hne] using hrest

/-- A field has the same value in another spelling. -/
theorem lookupField (h : Respelling ms ms') (hname : IsField name) :
    Option.Rel (SameValue name) (Read.lookupField ms name) (Read.lookupField ms' name) := by
  rcases eachObject_obj_iff.1 h.distinct with ⟨hnodup, hmembers⟩
  have hnodup' := hnodup
  rw [map_fieldOf_eq h.respelt hmembers] at hnodup'
  rw [lookupField_eq hname hnodup, lookupField_eq hname hnodup']
  exact lookup_byField h.respelt hmembers name

end Respelling

/-! ## Readers that do not see spellings -/

/-- A reader that takes documents in two spellings for the same. -/
def Blind {α : Type} (read : Reader α) : Prop :=
  ∀ {j j' : Json}, FieldsDistinct j → Respelt j j' → read j = read j'

section

variable {α : Type} {read : Reader α}

/-- A reader that does not look into arrays and objects. -/
theorem blind_of_flat (harr : ∀ xs ys, read (.arr xs) = read (.arr ys))
    (hobj : ∀ ms ms', read (.obj ms) = read (.obj ms')) : Blind read := by
  intro j j' _ h
  cases h with
  | same => rfl
  | arr _ => exact harr _ _
  | obj _ => exact hobj _ _

/-- A reader of a text sees no spelling. -/
theorem blind_text : Blind text :=
  blind_of_flat (fun _ _ => rfl) fun _ _ => rfl

/-- A reader of an integer sees no spelling. -/
theorem blind_integer : Blind integer :=
  blind_of_flat (fun _ _ => rfl) fun _ _ => rfl

/-- A reader of a number sees no spelling. -/
theorem blind_number : Blind number :=
  blind_of_flat (fun _ _ => rfl) fun _ _ => rfl

/-- A reader of a truth value sees no spelling. -/
theorem blind_truth : Blind truth :=
  blind_of_flat (fun _ _ => rfl) fun _ _ => rfl

/-- A value that may be null is read without seeing spellings if the value itself is. -/
theorem blind_nullable (hread : Blind read) : Blind (nullable read) := by
  intro j j' hdistinct h
  have hsame := hread hdistinct h
  cases h with
  | same => rfl
  | arr _ => exact congrArg (Checked.map some) hsame
  | obj _ => exact congrArg (Checked.map some) hsame

/-- Elements that differ only in spelling are read alike, one after the other. -/
theorem each_respelt (hread : Blind read) {xs ys : List Json} (h : List.Forall₂ Respelt xs ys)
    (hdistinct : ∀ x ∈ xs, FieldsDistinct x) : Checked.each read xs = Checked.each read ys := by
  induction h with
  | nil => rfl
  | cons hx _ ih =>
      rw [List.forall_mem_cons] at hdistinct
      rw [Checked.each, Checked.each, hread hdistinct.1 hx, ih hdistinct.2]

/-- A list is read without seeing spellings if its elements are. -/
theorem blind_list (hread : Blind read) : Blind (list read) := by
  intro j j' hdistinct h
  cases h with
  | same => rfl
  | arr h => exact each_respelt hread h (eachObject_arr_iff.1 hdistinct)
  | obj _ => rfl

/-- An object is read without seeing spellings if its members are. -/
theorem blind_object {members : List (String × Json) → Checked α}
    (h : ∀ {ms ms'}, Respelling ms ms' → members ms = members ms') : Blind (object members) := by
  intro j j' hdistinct hrespelt
  cases hrespelt with
  | same => rfl
  | arr _ => rfl
  | obj hms => exact h ⟨hdistinct, hms⟩

end

namespace Respelling

variable {ms ms' : List (String × Json)} {name : String} {α : Type} {read : Reader α}

/-- What follows from the value of a field follows from it in another spelling. -/
theorem elim_lookupField (h : Respelling ms ms') (hname : IsField name) (missing : Checked α)
    (hread : ∀ v v', SameValue name v v' → read v = read v') :
    (Read.lookupField ms name).elim missing read =
      (Read.lookupField ms' name).elim missing read := by
  have hvalue := h.lookupField hname
  generalize Read.lookupField ms name = found at hvalue ⊢
  generalize Read.lookupField ms' name = found' at hvalue ⊢
  cases hvalue with
  | none => rfl
  | some hvalue => exact hread _ _ hvalue

/-- A required field that is absent is complained about. -/
theorem required_eq_elim (ms : List (String × Json)) (name : String) (read : Reader α) :
    Read.required ms name read = (Read.lookupField ms name).elim (.bad .missing []) read := by
  unfold Read.required
  cases Read.lookupField ms name <;> rfl

/-- An absent field is replaced by its default. -/
theorem orElse_eq_elim (ms : List (String × Json)) (name : String) (read : Reader α)
    (fallback : α) :
    Read.orElse ms name read fallback = (Read.lookupField ms name).elim (.ok fallback) read := by
  unfold Read.orElse
  cases Read.lookupField ms name <;> rfl

/-- A required field is read alike from respelt members. -/
theorem required (h : Respelling ms ms') (name : String) (hread : Blind read)
    (hname : name ∈ readFields) :
    Read.required ms name read = Read.required ms' name read := by
  rw [required_eq_elim, required_eq_elim]
  exact h.elim_lookupField (isField_of_mem hname) _ fun v v' hvalue =>
    hread hvalue.distinct hvalue.respelt

/-- A field with a default is read alike from respelt members. -/
theorem orElse (h : Respelling ms ms') (name : String) (hread : Blind read) (fallback : α)
    (hname : name ∈ readFields) :
    Read.orElse ms name read fallback = Read.orElse ms' name read fallback := by
  rw [orElse_eq_elim, orElse_eq_elim]
  exact h.elim_lookupField (isField_of_mem hname) _ fun v v' hvalue =>
    hread hvalue.distinct hvalue.respelt

/-- Metadata is the same in every spelling, so any reader may look into it. -/
theorem metadata (h : Respelling ms ms') (read : Reader α) (fallback : α) :
    Read.orElse ms "metadata" read fallback = Read.orElse ms' "metadata" read fallback := by
  have hname : IsField "metadata" := isField_of_mem (by repeat constructor)
  rw [orElse_eq_elim, orElse_eq_elim]
  exact h.elim_lookupField hname _ fun v v' hvalue => by rw [hvalue.metadata rfl]

end Respelling

/-! ## Responses -/

/-- A finding is read without seeing spellings. -/
theorem blind_finding : Blind Finding.read :=
  blind_object fun h => by
    simp (disch := simp) only [h.required _ blind_text, h.orElse _ blind_text,
      h.orElse _ blind_integer, h.orElse _ (blind_nullable blind_text)]

/-- A parameter is read without seeing spellings. -/
theorem blind_parameter : Blind Parameter.read :=
  blind_object fun h => by
    simp (disch := simp) only [h.required _ blind_text, h.orElse _ blind_truth,
      h.orElse _ (blind_nullable blind_text)]

/-- A property is read without seeing spellings. -/
theorem blind_property : Blind Property.read :=
  blind_object fun h => by
    simp (disch := simp) only [h.required _ blind_text, h.orElse _ blind_text,
      h.orElse _ blind_truth, h.orElse _ (blind_nullable blind_text)]

/-- An entity is read without seeing spellings, its metadata apart. -/
theorem blind_entity : Blind Entity.read :=
  blind_object fun h => by
    simp (disch := simp) only [h.required _ blind_text, h.orElse _ blind_text,
      h.orElse _ blind_integer, h.orElse _ blind_truth, h.orElse _ (blind_nullable blind_text),
      h.orElse _ (blind_list blind_text), h.orElse _ (blind_list blind_parameter),
      h.orElse _ (blind_list blind_property), h.metadata table]

/-- An error of an analyzer is read without seeing spellings. -/
theorem blind_trouble : Blind Trouble.read :=
  blind_object fun h => by
    simp (disch := simp) only [h.required _ blind_text,
      h.orElse _ (blind_nullable blind_text)]

/-- The figures of a result are read without seeing spellings. -/
theorem blind_metrics : Blind Metrics.read :=
  blind_object fun h => by
    simp (disch := simp) only [h.orElse _ blind_integer, h.orElse _ blind_number]

/-- A result is read without seeing spellings. -/
theorem blind_result : Blind Result.read :=
  blind_object fun h => by
    simp (disch := simp) only [h.orElse _ (blind_list blind_finding),
      h.orElse _ (blind_list blind_entity), h.orElse _ blind_metrics,
      h.orElse _ (blind_list blind_trouble)]

/-- A failure is read without seeing spellings. -/
theorem blind_failure : Blind Failure.read :=
  blind_object fun h => by
    simp (disch := simp) only [h.required _ blind_text, h.orElse _ blind_integer]

/-- Responses are read the same way in every spelling. -/
theorem blind_response : Blind Response.read :=
  blind_object fun h => by
    simp (disch := simp) only [h.orElse _ (blind_nullable blind_integer),
      h.orElse _ (blind_nullable blind_result), h.orElse _ (blind_nullable blind_failure)]

/-! ## Outputs -/

/-- Texts in two spellings: documents that differ in the spelling of keys only, or texts that are no
documents and differ in the spelling of names in quotes only. -/
inductive RespeltText (d d' : String) : Prop where
  | read {j j' : Json} (hd : Json.parse depthLimit d = .ok j)
      (hd' : Json.parse depthLimit d' = .ok j') (h : Respelt j j')
  | unread (hd : Fails (Json.parse depthLimit d)) (h : Requoted SameKey d.toList d'.toList)

/-- Documents are read the same way in both spellings, and of two texts that are none, both have the
same flaw. -/
theorem ofText_respelt {d d' : String} (h : RespeltText d d')
    (hsingle : ∀ j, Json.parse depthLimit d = .ok j → SinglySpelt j) :
    (∀ j, Json.parse depthLimit d = .ok j → Response.ofText d = Response.ofText d') ∧
    ∀ c, Json.parse depthLimit d = .error c → ∃ place',
      Response.ofText d = .bad (.unreadable c.flaw (Json.placeOf d.toList c.rest)) [] ∧
      Response.ofText d' = .bad (.unreadable c.flaw place') [] := by
  cases h with
  | @read j j' hd hd' h =>
      refine ⟨fun _ _ => ?_, fun c hc => ?_⟩
      · simp only [Response.ofText, hd, hd']
        exact blind_response (fields_distinct (distinctKeys_of_parse hd) (hsingle j hd)) h
      · cases hd.symm.trans hc
  | unread hd h =>
      rcases hd with ⟨c₀, hd⟩
      refine ⟨fun j hj => ?_, fun c hc => ?_⟩
      · cases hd.symm.trans hj
      · rcases h.parse depthLimit with ⟨j, _, hj, _⟩ | ⟨c₁, c', hc₁, hc', hflaw⟩
        · cases hc.symm.trans hj
        · cases hc.symm.trans hc₁
          exact ⟨Json.placeOf d'.toList c'.rest, by simp only [Response.ofText, hc],
            by simp only [Response.ofText, hc', hflaw]⟩

/-- Outputs that end in one document up to the spelling of keys give the same response or the same
breach, and outputs that end in one unreadable text up to the spelling of names are refused for the
same flaw, at places that may differ.  Either way they lead to the same result of a language. -/
theorem ofOutput_respelt {output output' d d' : String} (hline : lastLine? output = some d)
    (hline' : lastLine? output' = some d') (hrespelt : RespeltText d d')
    (hsingle : ∀ j, Json.parse depthLimit d = .ok j → SinglySpelt j) :
    (∀ j, Json.parse depthLimit d = .ok j →
      Response.ofOutput output = Response.ofOutput output') ∧
    (∀ c, Json.parse depthLimit d = .error c → ∃ place',
      Response.ofOutput output =
        .error (.invalid 1 (.unreadable c.flaw (Json.placeOf d.toList c.rest))) ∧
      Response.ofOutput output' = .error (.invalid 1 (.unreadable c.flaw place'))) ∧
    ∀ language,
      ((Response.ofOutput output).map fun r => r.result.map (·.toTask language)).toOption =
        ((Response.ofOutput output').map fun r => r.result.map (·.toTask language)).toOption := by
  have htext := ofText_respelt hrespelt hsingle
  have hread : ∀ j, Json.parse depthLimit d = .ok j →
      Response.ofOutput output = Response.ofOutput output' := by
    intro j hj
    simp only [Response.ofOutput, hline, hline', htext.1 j hj]
  have hunread : ∀ c, Json.parse depthLimit d = .error c → ∃ place',
      Response.ofOutput output =
        .error (.invalid 1 (.unreadable c.flaw (Json.placeOf d.toList c.rest))) ∧
      Response.ofOutput output' = .error (.invalid 1 (.unreadable c.flaw place')) := by
    intro c hc
    rcases htext.2 c hc with ⟨place', hbad, hbad'⟩
    refine ⟨place', ?_, ?_⟩
    · simp [Response.ofOutput, hline, hbad]
    · simp [Response.ofOutput, hline', hbad']
  refine ⟨hread, hunread, fun language => ?_⟩
  cases hparse : Json.parse depthLimit d with
  | ok j => rw [hread j hparse]
  | error c =>
      rcases hunread c hparse with ⟨place', houtput, houtput'⟩
      rw [houtput, houtput']
      rfl

/-! ## Documents in two spellings -/

/-- A document of figures. -/
def figures (ms : List (String × Int)) : Json :=
  .obj [("result", .obj [("metrics", .obj (ms.map fun m => (m.1, .int m.2)))])]

/-- Whether members are given figures. -/
def areFigures : List (String × Json) → List (String × Int) → Bool
  | [], [] => true
  | (k, .int n) :: rest, m :: ms => k == m.1 && n == m.2 && areFigures rest ms
  | _, _ => false

/-- Whether a document is one of given figures. -/
def isFigures (ms : List (String × Int)) : Json → Bool
  | .obj [(result, .obj [(metrics, .obj members)])] =>
    result == "result" && metrics == "metrics" && areFigures members ms
  | _ => false

/-- Members that pass the check for figures are those figures. -/
theorem eq_map_of_areFigures {members : List (String × Json)} {ms : List (String × Int)}
    (h : areFigures members ms = true) : members = ms.map fun m => (m.1, .int m.2) := by
  fun_induction areFigures members ms with
  | case1 => rfl
  | case2 k n rest m ms ih =>
      simp only [Bool.and_eq_true, beq_iff_eq] at h
      rw [List.map_cons, ih h.2, h.1.1, h.1.2]
  | case3 => cases h

/-- A text that passes the check for figures is read as that document. -/
theorem eq_figures {ms : List (String × Int)} {found : Except Complaint Json}
    (h : found.toOption.map (isFigures ms) = some true) : found = .ok (figures ms) := by
  cases found with
  | error c => cases h
  | ok j =>
      have hj : isFigures ms j = true := Option.some.inj h
      unfold isFigures at hj
      split at hj
      · simp only [Bool.and_eq_true, beq_iff_eq] at hj
        rw [figures, ← eq_map_of_areFigures hj.2, hj.1.1, hj.1.2]
      · cases hj

/-- Figures are singly spelt if no field of several words has both its spellings. -/
theorem singlySpelt_figures {ms : List (String × Int)}
    (h : ∀ f ∈ wordyFields, ¬ (f ∈ ms.map (·.1) ∧ camel f ∈ ms.map (·.1))) :
    SinglySpelt (figures ms) := by
  have hmembers : SinglySpelt (.obj (ms.map fun m => (m.1, .int m.2))) := by
    refine eachObject_obj_iff.2 ⟨by simpa using h, ?_⟩
    rintro _ hm
    rcases List.mem_map.1 hm with ⟨m, _, rfl⟩
    exact eachObject_int m.2
  have hsingle : ∀ k ∈ ["result", "metrics"], ∀ f ∈ wordyFields, ¬ (f ∈ [k] ∧ camel f ∈ [k]) := by
    decide +kernel
  refine eachObject_obj_iff.2 ⟨hsingle "result" (by simp), List.forall_mem_singleton.2 ?_⟩
  exact eachObject_obj_iff.2 ⟨hsingle "metrics" (by simp), List.forall_mem_singleton.2 hmembers⟩

instance (k k' : String) : Decidable (SameKey k k') :=
  inferInstanceAs
    (Decidable (k = k' ∨ ∃ f ∈ wordyFields, (k = f ∨ k = camel f) ∧ (k' = f ∨ k' = camel f)))

/-- The text of figures with underscores in both names. -/
def underscored : String :=
  "\x7b\"result\":\x7b\"metrics\":\x7b\"files_analyzed\":3,\"execution_time\":2\x7d\x7d\x7d"

/-- The text of figures with capitals in one of the names. -/
def capitalised : String :=
  "\x7b\"result\":\x7b\"metrics\":\x7b\"filesAnalyzed\":3,\"execution_time\":2\x7d\x7d\x7d"

/-- A text in which the name of an entity is half a character, under a key for the entities. -/
def halved (key : String) : String :=
  "\x7b\"result\":\x7b\"" ++ key ++ "\":[\x7b\"name\":\"\\ud800\"\x7d]\x7d\x7d"

/-- The two broken documents differ in the quoted key alone. -/
theorem requoted_halved :
    Requoted SameKey (halved "index_entries").toList (halved "indexEntries").toList :=
  requoted_of_requotes 100 (by decide +kernel)

/-- Each of the two broken documents is a line of its own. -/
theorem lastLine?_halved : ∀ key ∈ ["index_entries", "indexEntries"],
    lastLine? (halved key) = some (halved key) := by
  decide +kernel

/-- What is wrong with a text, and where. -/
def flawOf? (d : String) : Option (Flaw × Place) :=
  match Json.parse depthLimit d with
  | .ok _ => none
  | .error c => some (c.flaw, Json.placeOf d.toList c.rest)

/-- The first of them is refused for half an escape in column 44. -/
theorem flawOf?_halved : flawOf? (halved "index_entries") = some (.halfEscape, ⟨1, 44⟩) := by
  decide +kernel

/-- A text that is no document is refused for its flaw. -/
theorem ofOutput_of_flawOf? {d : String} {flaw : Flaw} {place : Place}
    (hline : lastLine? d = some d) (h : flawOf? d = some (flaw, place)) :
    Response.ofOutput d = .error (.invalid 1 (.unreadable flaw place)) := by
  unfold flawOf? at h
  split at h
  · cases h
  · rename_i c hc
    simp only [Option.some.injEq, Prod.mk.injEq] at h
    simp [Response.ofOutput, hline, Response.ofText, hc, h.1, h.2]

/-- Two outputs with figures under either spelling give the same response, and two that break off in
a text are refused for the same reason. -/
theorem ofOutput_respelt_figures :
    (lastLine? (underscored ++ "\n") = some underscored ∧
      lastLine? ("log\n" ++ capitalised) = some capitalised ∧
      RespeltText underscored capitalised ∧
      (∀ j, Json.parse depthLimit underscored = .ok j → SinglySpelt j) ∧
      Response.ofOutput (underscored ++ "\n") = Response.ofOutput ("log\n" ++ capitalised)) ∧
    (lastLine? (halved "index_entries") = some (halved "index_entries") ∧
      lastLine? (halved "indexEntries") = some (halved "indexEntries") ∧
      RespeltText (halved "index_entries") (halved "indexEntries") ∧
      (∀ j, Json.parse depthLimit (halved "index_entries") = .ok j → SinglySpelt j) ∧
      ∃ place', Response.ofOutput (halved "indexEntries") =
        .error (.invalid 1 (.unreadable .halfEscape place'))) := by
  constructor
  · have hline : lastLine? (underscored ++ "\n") = some underscored := by decide +kernel
    have hline' : lastLine? ("log\n" ++ capitalised) = some capitalised := by decide +kernel
    have hparse : Json.parse depthLimit underscored =
        .ok (figures [("files_analyzed", 3), ("execution_time", 2)]) :=
      eq_figures (by decide +kernel)
    have hparse' : Json.parse depthLimit capitalised =
        .ok (figures [("filesAnalyzed", 3), ("execution_time", 2)]) :=
      eq_figures (by decide +kernel)
    have hrespelt : RespeltText underscored capitalised :=
      .read hparse hparse' (.obj (.cons (.spelt (.inl rfl) (by decide) (.obj (.cons
        (.spelt (.inl rfl) (by decide) (.obj (.cons (.spelt (by decide +kernel) (by decide)
          (.same _)) (.cons (.same _) .nil)))) .nil))) .nil))
    have hsingle : ∀ j, Json.parse depthLimit underscored = .ok j → SinglySpelt j := by
      intro j hj
      cases hparse.symm.trans hj
      exact singlySpelt_figures (by decide +kernel)
    exact ⟨hline, hline', hrespelt, hsingle,
      (ofOutput_respelt hline hline' hrespelt hsingle).1 _ hparse⟩
  · have hline := lastLine?_halved "index_entries" (by simp)
    have hline' := lastLine?_halved "indexEntries" (by simp)
    have hflaw := flawOf?_halved
    cases hparse : Json.parse depthLimit (halved "index_entries") with
    | ok j => simp [flawOf?, hparse] at hflaw
    | error c =>
        simp only [flawOf?, hparse, Option.some.injEq, Prod.mk.injEq] at hflaw
        have hrespelt : RespeltText (halved "index_entries") (halved "indexEntries") :=
          .unread ⟨c, hparse⟩ requoted_halved
        have hsingle : ∀ j, Json.parse depthLimit (halved "index_entries") = .ok j →
            SinglySpelt j := by
          intro j hj
          cases hparse.symm.trans hj
        rcases (ofOutput_respelt hline hline' hrespelt hsingle).2.1 c hparse with
          ⟨place', _, houtput'⟩
        rw [hflaw.1] at houtput'
        exact ⟨hline, hline', hrespelt, by simp, place', houtput'⟩

/-- The text of figures that are written twice, the first time under a given key. -/
def repeated (key : String) : String :=
  "\x7b\"result\":\x7b\"metrics\":\x7b\"" ++ key ++ "\":1,\"files_analyzed\":2\x7d\x7d\x7d"

/-- The number of files that a response gives. -/
def filesOf? (output : String) : Option Int :=
  (Response.ofOutput output).toOption.bind fun r => r.result.map (·.metrics.filesAnalyzed)

/-- A spelling shows if it is changed at one of the places of a repeated key, and it shows in the
place of a flaw. -/
theorem respelling_shows :
    ((∀ j, Json.parse depthLimit (repeated "files_analyzed") = .ok j → SinglySpelt j) ∧
      Requoted SameKey (repeated "files_analyzed").toList (repeated "filesAnalyzed").toList ∧
      filesOf? (repeated "files_analyzed") = some 2 ∧
      filesOf? (repeated "filesAnalyzed") = some 1) ∧
    (Requoted SameKey (halved "index_entries").toList (halved "indexEntries").toList ∧
      Response.ofOutput (halved "index_entries") =
        .error (.invalid 1 (.unreadable .halfEscape ⟨1, 44⟩)) ∧
      Response.ofOutput (halved "indexEntries") =
        .error (.invalid 1 (.unreadable .halfEscape ⟨1, 43⟩))) := by
  refine ⟨⟨?_, requoted_of_requotes 100 (by decide +kernel), by decide +kernel,
    by decide +kernel⟩, requoted_halved, ?_, ?_⟩
  · intro j hj
    have hparse : Json.parse depthLimit (repeated "files_analyzed") =
        .ok (figures [("files_analyzed", 2)]) :=
      eq_figures (by decide +kernel)
    cases hparse.symm.trans hj
    exact singlySpelt_figures (by decide +kernel)
  · exact ofOutput_of_flawOf? (lastLine?_halved _ (by simp)) flawOf?_halved
  · exact ofOutput_of_flawOf? (lastLine?_halved _ (by simp)) (by decide +kernel)

end Wire
end CrossAudit
