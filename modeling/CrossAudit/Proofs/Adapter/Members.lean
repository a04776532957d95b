import CrossAudit.Adapter.Python
import CrossAudit.Proofs.Assoc
import CrossAudit.Proofs.Syntax.Ancestors

/-!
# Who lists a method

A function of a Python file is a method if the nearest definition around it is a class, which is
seen on the way up from the function.  The methods of a class are found on the way down from it:
they are the functions below it whose nearest definition is the class.  On every tree the two views
agree.  Each class definition has one record, a class or an interface, and the records share out the
methods of the file.

Main results:

- Theorem `enclosing?_eq_some_iff`: the first definition on the way up is the innermost one that the
  place lies in.
- Theorem `mem_methodNodes_iff`: a class lists the functions whose nearest definition it is.
- Theorem `perm_flatMap_methodNodes`: the classes share out the methods of a file.
- Theorem `declarations_partitioned`: so do the records of a file.
-/

namespace CrossAudit

/-! ## Headings -/

/-- What tells a method wherever it is listed: its name, its return type and its place. -/
abbrev Heading := String × Option String × Option Location

/-- The heading of a function. -/
def FunctionDecl.heading (f : FunctionDecl) : Heading :=
  (f.name, f.returnType, some f.location)

/-- The heading of a member of an interface. -/
def InterfaceMember.heading (m : InterfaceMember) : Heading :=
  (m.name, m.type, m.location)

/-- The members of an interface that are methods. -/
def InterfaceDecl.methods (i : InterfaceDecl) : List InterfaceMember :=
  i.members.filter (·.kind == .method)

namespace Adapter
namespace Python

open Syntax

variable {d : Document} {c f : Cursor}

/-! ## Definitions of a file -/

/-- The function definitions of a file, in pre-order. -/
def functionNodes (d : Document) : List Cursor :=
  d.nodesOf ["function_definition"]

/-- The class definitions of a file, in pre-order. -/
def classNodes (d : Document) : List Cursor :=
  d.nodesOf ["class_definition"]

/-- The heading of a function definition. -/
def headingOf (d : Document) (f : Cursor) : Heading :=
  (d.roleText f "name", d.roleText? f "return_type", some f.location)

/-- Whether the nearest definition around a place is a class. -/
def inClass (f : Cursor) : Bool :=
  (enclosing? f).any fun c => c.kind == "class_definition"

/-- The function definitions that the record of a class definition lists. -/
def methodNodes (c : Cursor) : List Cursor :=
  c.walk.filter fun f =>
    f.kind == "function_definition" && (enclosing? f).any fun e => e.sameAs c

/-- The functions of a document are the nodes of their kind. -/
theorem mem_functionNodes_iff :
    f ∈ functionNodes d ↔ f ∈ d.walk ∧ f.kind = "function_definition" := by
  simp [functionNodes, Document.nodesOf]

/-- The classes of a document are the nodes of their kind. -/
theorem mem_classNodes_iff : c ∈ classNodes d ↔ c ∈ d.walk ∧ c.kind = "class_definition" := by
  simp [classNodes, Document.nodesOf]

/-- The record of a function has its heading. -/
theorem heading_function (d : Document) (f : Cursor) : (function d f).heading = headingOf d f :=
  rfl

/-- A function is recorded as a method exactly if it is in a class. -/
theorem isMethod_function (d : Document) (f : Cursor) : (function d f).isMethod = inClass f := by
  rw [inClass]
  show ((enclosing? f).map fun s => s.kind == "class_definition").getD false = _
  cases enclosing? f <;> rfl

/-- A field as a member of an interface. -/
def fieldMember (p : Property) : InterfaceMember :=
  { name := p.name, kind := .property, type := p.type, optional := p.optional }

/-- A function as a member of an interface. -/
def methodMember (f : FunctionDecl) : InterfaceMember :=
  { name := f.name, kind := .method, type := f.returnType, location := some f.location }

/-- The methods of a class are the records of its method nodes. -/
theorem methods_eq (d : Document) (c : Cursor) : methods d c = (methodNodes c).map (function d) :=
  rfl

/-- The methods of a class have the headings of its method nodes. -/
theorem heading_methods (d : Document) (c : Cursor) :
    (methods d c).map (·.heading) = (methodNodes c).map (headingOf d) := by
  rw [methods_eq, List.map_map]
  rfl

/-- The methods that an interface lists are those of its class definition; its fields are none. -/
theorem heading_methods_interfaceDecl (d : Document) (c : Cursor) :
    (interfaceDecl d c).methods.map (·.heading) = (methodNodes c).map (headingOf d) := by
  have hmembers : (interfaceDecl d c).members =
      (properties d c).map fieldMember ++ (methods d c).map methodMember := rfl
  have hfields : ((properties d c).map fieldMember).filter (·.kind == .method) = [] := by
    rw [List.filter_eq_nil_iff, List.forall_mem_map]
    exact fun p _ => Bool.false_ne_true
  have hmethods : ((methods d c).map methodMember).filter (·.kind == .method) =
      (methods d c).map methodMember := by
    rw [List.filter_eq_self, List.forall_mem_map]
    exact fun f _ => rfl
  rw [InterfaceDecl.methods, hmembers, List.filter_append, hfields, hmethods, List.nil_append,
    methods_eq, List.map_map, List.map_map]
  rfl

/-! ## The way up and the way down -/

/-- The nearest definition around a place, told by what lies below it: the place lies in it, and it
is or lies in every definition of the file that the place lies in. -/
structure Nearest (d : Document) (f c : Cursor) : Prop where
  mem_walk : c ∈ d.walk
  isDefinition : isDefinition c.node = true
  around : f ∈ c.walk ∧ f ≠ c
  innermost : ∀ b ∈ d.walk, Python.isDefinition b.node = true → f ∈ b.walk → f ≠ b → c ∈ b.walk

/-- The first definition on the way up is the nearest one. -/
theorem nearest_of_enclosing? (hf : f ∈ d.walk) (h : enclosing? f = some c) : Nearest d f c := by
  obtain ⟨hdefinition, before, behind, hway, hbefore⟩ := List.find?_eq_some_iff_append.1 h
  have habove : c ∈ f.ancestors := List.mem_of_find?_eq_some h
  have hc := Document.mem_walk_of_mem_ancestors hf habove
  have haround := (Document.mem_ancestors_iff hf).1 habove
  refine ⟨hc.1, hdefinition, haround, fun b hb hkind hmeets hne => ?_⟩
  -- Another definition around the place is further up.
  have hb' : b ∈ before ++ c :: behind := hway ▸ (Document.mem_ancestors_iff hf).2 ⟨hmeets, hne⟩
  rw [List.mem_append, List.mem_cons, Cursor.eq_ancestors_of_append hway] at hb'
  rcases hb' with hbefore' | rfl | hbehind
  · simpa [hkind] using hbefore b hbefore'
  · exact Cursor.self_mem_walk b
  · exact (Document.mem_walk_of_mem_ancestors hc.1 hbehind).2

/-- No place has two nearest definitions around it. -/
theorem Nearest.unique {b : Cursor} (h : Nearest d f c) (h' : Nearest d f b) : c = b := by
  by_contra hne
  have hup : b ∈ c.ancestors := (Document.mem_ancestors_iff h.mem_walk).2
    ⟨h.innermost b h'.mem_walk h'.isDefinition h'.around.1 h'.around.2, hne⟩
  have hdown : c ∈ b.ancestors := (Document.mem_ancestors_iff h'.mem_walk).2
    ⟨h'.innermost c h.mem_walk h.isDefinition h.around.1 h.around.2, Ne.symm hne⟩
  exact absurd (Cursor.length_ancestors_lt hup) (Cursor.length_ancestors_lt hdown).le.not_gt

/-- What is found on the way up is the nearest definition around a place. -/
theorem enclosing?_eq_some_iff (hf : f ∈ d.walk) : enclosing? f = some c ↔ Nearest d f c := by
  refine ⟨nearest_of_enclosing? hf, fun h => ?_⟩
  have habove : c ∈ f.ancestors := (Document.mem_ancestors_iff hf).2 h.around
  cases hfound : enclosing? f with
  | none => exact absurd h.isDefinition (List.find?_eq_none.1 hfound c habove)
  | some b => rw [(nearest_of_enclosing? hf hfound).unique h]

/-- A class lists the functions of the file whose nearest definition it is. -/
theorem mem_methodNodes_iff (hc : c ∈ d.walk) :
    f ∈ methodNodes c ↔ f ∈ functionNodes d ∧ enclosing? f = some c := by
  rw [methodNodes, List.mem_filter, mem_functionNodes_iff, Bool.and_eq_true, beq_iff_eq,
    Option.any_eq_true]
  constructor
  · rintro ⟨hwalk, hkind, e, henclosing, hsame⟩
    have hf : f ∈ d.walk := Document.mem_walk_of_mem_walk hc hwalk
    have he : e ∈ d.walk :=
      (Document.mem_walk_of_mem_ancestors hf (List.mem_of_find?_eq_some henclosing)).1
    rw [Document.sameAs_iff he hc] at hsame
    exact ⟨⟨hf, hkind⟩, hsame ▸ henclosing⟩
  · rintro ⟨⟨hf, hkind⟩, henclosing⟩
    have habove : c ∈ f.ancestors := List.mem_of_find?_eq_some henclosing
    exact ⟨(Document.mem_walk_of_mem_ancestors hf habove).2, hkind, c, henclosing,
      (Document.sameAs_iff hc hc).2 rfl⟩

/-- No method node of a class stands twice. -/
theorem nodup_methodNodes (c : Cursor) : (methodNodes c).Nodup :=
  (Cursor.nodup_along _ _).filter _

/-- The nearest definition around a method is a class definition of the file. -/
theorem exists_enclosing?_of_inClass (hf : f ∈ functionNodes d) (h : inClass f = true) :
    ∃ c ∈ classNodes d, enclosing? f = some c := by
  obtain ⟨c, henclosing, hkind⟩ := (Option.any_eq_true _ _).1 h
  have habove : c ∈ f.ancestors := List.mem_of_find?_eq_some henclosing
  have hc := Document.mem_walk_of_mem_ancestors (mem_functionNodes_iff.1 hf).1 habove
  exact ⟨c, mem_classNodes_iff.2 ⟨hc.1, beq_iff_eq.1 hkind⟩, henclosing⟩

/-- A function right in a class is in a class. -/
theorem inClass_of_enclosing? (hc : c ∈ classNodes d) (h : enclosing? f = some c) :
    inClass f = true := by
  rw [inClass, h, Option.any_some, beq_iff_eq]
  exact (mem_classNodes_iff.1 hc).2

/-- A function is a method if and only if a class lists it, and then only one does. -/
theorem inClass_iff_existsUnique (hf : f ∈ functionNodes d) :
    inClass f = true ↔ ∃! c, c ∈ classNodes d ∧ f ∈ methodNodes c := by
  have hlists : ∀ c ∈ classNodes d, f ∈ methodNodes c ↔ enclosing? f = some c := fun c hc => by
    rw [mem_methodNodes_iff (mem_classNodes_iff.1 hc).1, and_iff_right hf]
  constructor
  · intro h
    obtain ⟨c, hc, henclosing⟩ := exists_enclosing?_of_inClass hf h
    refine ⟨c, ⟨hc, (hlists c hc).2 henclosing⟩, ?_⟩
    rintro b ⟨hb, hlisted⟩
    exact Option.some.inj (((hlists b hb).1 hlisted).symm.trans henclosing)
  · rintro ⟨c, ⟨hc, hlisted⟩, -⟩
    exact inClass_of_enclosing? hc ((hlists c hc).1 hlisted)

/-- The classes share out the methods of a file. -/
theorem perm_flatMap_methodNodes (d : Document) :
    ((classNodes d).flatMap methodNodes).Perm ((functionNodes d).filter inClass) := by
  apply Assoc.perm_flatMap_of_owner enclosing? (d.nodup_walk.filter _)
    ((d.nodup_walk.filter _).filter _)
  · exact fun c _ => nodup_methodNodes c
  · intro c hc f
    rw [mem_methodNodes_iff (mem_classNodes_iff.1 hc).1, List.mem_filter]
    constructor
    · exact fun ⟨hf, henclosing⟩ => ⟨⟨hf, inClass_of_enclosing? hc henclosing⟩, henclosing⟩
    · exact fun ⟨⟨hf, _⟩, henclosing⟩ => ⟨hf, henclosing⟩
  · intro f hf
    rw [List.mem_filter] at hf
    exact exists_enclosing?_of_inClass hf.1 hf.2

/-! ## The records of a file -/

/-- The record of a class definition. -/
def recordOf (d : Document) (c : Cursor) : ClassDecl ⊕ InterfaceDecl :=
  if isInterface d c then .inr (interfaceDecl d c) else .inl (classDecl d c)

/-- The headings of the methods that a record lists. -/
def listed : ClassDecl ⊕ InterfaceDecl → List Heading
  | .inl k => k.methods.map (·.heading)
  | .inr i => i.methods.map (·.heading)

/-- The name and the place of a record. -/
def label : ClassDecl ⊕ InterfaceDecl → String × Location
  | .inl k => (k.name, k.location)
  | .inr i => (i.name, i.location)

/-- The record of a class has its name and place. -/
theorem label_recordOf (d : Document) (c : Cursor) :
    label (recordOf d c) = (d.roleText c "name", c.location) := by
  rw [recordOf]
  split <;> rfl

/-- The record of a class lists the headings of its methods. -/
theorem listed_recordOf (d : Document) (c : Cursor) :
    listed (recordOf d c) = (methodNodes c).map (headingOf d) := by
  rw [recordOf]
  split
  · exact heading_methods_interfaceDecl d c
  · exact heading_methods d c

/-- The classes are those records that are no interfaces. -/
theorem classes_eq (d : Document) :
    classes d = ((classNodes d).map (recordOf d)).filterMap Sum.getLeft? := by
  have hnodes : d.nodesOf vocabulary.classes = classNodes d := rfl
  rw [classes, hnodes, ← List.filterMap_eq_map, List.filterMap_filter, List.filterMap_map]
  refine List.filterMap_congr fun c _ => ?_
  show _ = (recordOf d c).getLeft?
  rw [recordOf]
  cases isInterface d c <;> rfl

/-- The interfaces are those records that are no classes. -/
theorem interfaces_eq (d : Document) :
    interfaces d = ((classNodes d).map (recordOf d)).filterMap Sum.getRight? := by
  have hnodes : d.nodesOf vocabulary.classes = classNodes d := rfl
  rw [interfaces, hnodes, ← List.filterMap_eq_map, List.filterMap_filter, List.filterMap_map]
  refine List.filterMap_congr fun c _ => ?_
  show _ = (recordOf d c).getRight?
  rw [recordOf]
  cases isInterface d c <;> rfl

/-- What classes and interfaces list is what their records list. -/
theorem perm_flatMap_listed (records : List (ClassDecl ⊕ InterfaceDecl)) :
    (((records.filterMap Sum.getLeft?).flatMap fun k => k.methods.map (·.heading)) ++
      ((records.filterMap Sum.getRight?).flatMap fun i => i.methods.map (·.heading))).Perm
      (records.flatMap listed) := by
  induction records with
  | nil => exact .nil
  | cons r records ih =>
      rw [List.filterMap_cons, List.filterMap_cons, List.flatMap_cons]
      cases r with
      | inl k =>
          rw [Sum.getLeft?_inl, Sum.getRight?_inl, List.flatMap_cons, List.append_assoc]
          exact ih.append_left _
      | inr i =>
          rw [Sum.getLeft?_inr, Sum.getRight?_inr, List.flatMap_cons]
          exact (List.perm_append_comm_assoc _ _ _).trans (ih.append_left _)

/-- The declarations of a file share out its definitions. -/
structure Partitioned (d : Document) : Prop where
  /-- Every function definition has one record, which is a method if and only if some class
  definition lists it; and then only one does, the nearest definition around it, which is what is
  found on the way up. -/
  functions : List.Forall₂ (fun f (r : FunctionDecl) => r.heading = headingOf d f ∧
    (r.isMethod = true ↔ ∃! c, c ∈ classNodes d ∧ f ∈ methodNodes c) ∧
      ∀ c ∈ classNodes d, (f ∈ methodNodes c ↔ Nearest d f c) ∧
        (f ∈ methodNodes c ↔ enclosing? f = some c))
    (d.nodesOf ["function_definition"]) (Python.functions d)
  /-- Every class definition has one record, either a class or an interface, which lists the
  functions of the file that the class definition lists, each of them once. -/
  records : ∃ records : List (ClassDecl ⊕ InterfaceDecl),
    records.filterMap Sum.getLeft? = classes d ∧ records.filterMap Sum.getRight? = interfaces d ∧
      List.Forall₂ (fun c r => label r = (d.roleText c "name", c.location) ∧
        listed r = (methodNodes c).map (headingOf d) ∧ (methodNodes c).Nodup ∧
          methodNodes c ⊆ functionNodes d) (d.nodesOf ["class_definition"]) records
  /-- The functions that are methods are the methods of the classes and those of the interfaces. -/
  methods : (((Python.functions d).filter (·.isMethod)).map (·.heading)).Perm
    (((classes d).flatMap fun k => k.methods.map (·.heading)) ++
      ((interfaces d).flatMap fun i => i.methods.map (·.heading)))

/-- The methods among the functions are the function nodes in classes. -/
theorem map_heading_methods (d : Document) :
    ((functions d).filter (·.isMethod)).map (·.heading) =
      ((functionNodes d).filter inClass).map (headingOf d) := by
  have hfunctions : functions d = (functionNodes d).map (function d) := rfl
  have hflag : (fun f => (function d f).isMethod) = inClass := funext (isMethod_function d)
  rw [hfunctions, List.filter_map, Function.comp_def, hflag, List.map_map]
  rfl

/-- Every class definition has one record and every function definition has one; the functions that
are methods are listed by the record of the nearest definition around them, and by no other. -/
theorem declarations_partitioned (d : Document) : Partitioned d where
  functions := by
    refine List.forall₂_map_right_iff.2 (List.forall₂_same.2 fun f hf => ?_)
    refine ⟨heading_function d f, ?_, fun c hc => ?_⟩
    · rw [isMethod_function]
      exact inClass_iff_existsUnique hf
    · have hlists : f ∈ methodNodes c ↔ enclosing? f = some c :=
        (mem_methodNodes_iff (mem_classNodes_iff.1 hc).1).trans (and_iff_right hf)
      exact ⟨hlists.trans (enclosing?_eq_some_iff (mem_functionNodes_iff.1 hf).1), hlists⟩
  records := by
    refine ⟨(classNodes d).map (recordOf d), (classes_eq d).symm, (interfaces_eq d).symm, ?_⟩
    refine List.forall₂_map_right_iff.2 (List.forall₂_same.2 fun c hc => ?_)
    refine ⟨label_recordOf d c, listed_recordOf d c, nodup_methodNodes c, fun f hf => ?_⟩
    exact ((mem_methodNodes_iff (mem_classNodes_iff.1 hc).1).1 hf).1
  methods := by
    rw [map_heading_methods, classes_eq, interfaces_eq]
    refine ((perm_flatMap_methodNodes d).map (headingOf d)).symm.trans ?_
    refine .trans ?_ (perm_flatMap_listed _).symm
    rw [List.map_flatMap, List.flatMap_map]
    simp only [listed_recordOf]
    exact .refl _

/-- A class `A` with a class `B` in it; the method `m` of `B` holds a function `i`, and behind `B`
stands the method `n` of `A`. -/
def nestedClasses : Document :=
  let node (kind : String) (first last : Nat) (role : Option String) (kids : List Node) : Node :=
    .mk { kind := kind, first := first, last := last, role := role
          location := ⟨⟨1, first + 1⟩, ⟨1, last + 1⟩⟩ } kids
  let name (first : Nat) : Node := node "identifier" first (first + 1) (some "name") []
  { language := "python", path := "a.py", diagnostics := []
    source := "class A:\n class B:\n  def m(self):\n   def i(): pass\n def n(self): pass".toUTF8
    root := node "module" 0 69 none [node "class_definition" 0 69 none [name 6,
      node "block" 10 69 (some "body")
        [node "class_definition" 10 50 none [name 16,
          node "block" 21 50 (some "body") [node "function_definition" 21 50 none [name 25,
            node "block" 37 50 (some "body") [node "function_definition" 37 50 none [name 41,
              node "block" 46 50 (some "body") []]]]]],
        node "function_definition" 52 69 none [name 56,
          node "block" 65 69 (some "body") []]]]] }

/-- A class in a class, and a function inside a method: each method is listed by the class right
around it, and the inner function by none. -/
theorem declarations_partitioned_nestedClasses :
    (functions nestedClasses).map (fun f => (f.name, f.isMethod)) =
      [("m", true), ("i", false), ("n", true)] ∧
    (classes nestedClasses).map (fun k => (k.name, k.methods.map (·.name))) =
      [("A", ["n"]), ("B", ["m"])] ∧
    interfaces nestedClasses = [] ∧
    (((functions nestedClasses).filter (·.isMethod)).map (·.heading)).Perm
      ((classes nestedClasses).flatMap fun k => k.methods.map (·.heading)) := by
  have hinterfaces : interfaces nestedClasses = [] :=
    List.isEmpty_iff.1 (by decide +kernel)
  have hmethods := (declarations_partitioned nestedClasses).methods
  rw [hinterfaces, List.flatMap_nil, List.append_nil] at hmethods
  exact ⟨by decide +kernel, by decide +kernel, hinterfaces, hmethods⟩

end Python
end Adapter
end CrossAudit
