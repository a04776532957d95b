import Mathlib.Tactic.Common

/-!
# Computations that may fail

What it takes for a computation to fail, put together from its parts, and where the results of a
computation over a list come from.
-/

namespace CrossAudit

variable {ε α β : Type}

/-- A computation that ends with an error. -/
def Fails (x : Except ε α) : Prop :=
  ∃ e, x = .error e

@[simp]
theorem fails_error (e : ε) : Fails (.error e : Except ε α) :=
  ⟨e, rfl⟩

@[simp]
theorem not_fails_ok (a : α) : ¬ Fails (.ok a : Except ε α) := by
  rintro ⟨e, h⟩
  cases h

@[simp]
theorem not_fails_pure (a : α) : ¬ Fails (pure a : Except ε α) :=
  not_fails_ok a

/-- One computation after another fails if either does. -/
theorem fails_bind_iff {x : Except ε α} {f : α → Except ε β} :
    Fails (x >>= f) ↔ Fails x ∨ ∃ a, x = .ok a ∧ Fails (f a) := by
  cases x with
  | error e =>
      have hbind : (Except.error e >>= f) = .error e := rfl
      simp [hbind]
  | ok a =>
      have hbind : (Except.ok a >>= f) = f a := rfl
      simp [hbind]

@[simp]
theorem fails_map_iff {x : Except ε α} {f : α → β} : Fails (x.map f) ↔ Fails x := by
  cases x <;> simp [Except.map]

@[simp]
theorem fails_functorMap_iff {x : Except ε α} {f : α → β} : Fails (f <$> x) ↔ Fails x :=
  fails_map_iff

@[simp]
theorem fails_mapError_iff {δ : Type} {x : Except ε α} {f : ε → δ} :
    Fails (x.mapError f) ↔ Fails x := by
  cases x <;> simp [Except.mapError]

/-- A sequence of computations that ends well is made of parts that do. -/
theorem bind_eq_ok_iff {x : Except ε α} {f : α → Except ε β} {b : β} :
    (x >>= f) = .ok b ↔ ∃ a, x = .ok a ∧ f a = .ok b := by
  cases x with
  | error e =>
      have hbind : (Except.error e >>= f) = .error e := rfl
      simp [hbind]
  | ok a =>
      have hbind : (Except.ok a >>= f) = f a := rfl
      simp [hbind]

/-- A sequence of computations fails with an error that one of its parts fails with. -/
theorem bind_eq_error_iff {x : Except ε α} {f : α → Except ε β} {e : ε} :
    (x >>= f) = .error e ↔ x = .error e ∨ ∃ a, x = .ok a ∧ f a = .error e := by
  cases x with
  | error e' =>
      have hbind : (Except.error e' >>= f) = .error e' := rfl
      simp [hbind]
  | ok a =>
      have hbind : (Except.ok a >>= f) = f a := rfl
      simp [hbind]

/-- A mapped result is there exactly if the result is. -/
theorem map_eq_ok_iff {x : Except ε α} {f : α → β} {b : β} :
    x.map f = .ok b ↔ ∃ a, x = .ok a ∧ f a = b := by
  cases x <;> simp [Except.map]

/-- Mapping errors changes no result that is there. -/
theorem mapError_eq_ok_iff {δ : Type} {x : Except ε α} {f : ε → δ} {a : α} :
    x.mapError f = .ok a ↔ x = .ok a := by
  cases x <;> simp [Except.mapError]

/-- Mapping results changes no error. -/
theorem map_eq_error_iff {x : Except ε α} {f : α → β} {e : ε} :
    x.map f = .error e ↔ x = .error e := by
  cases x <;> simp [Except.map]

/-- Each result of a computation over a list is that of one of its items. -/
theorem exists_of_mem_mapM {f : α → Except ε β} {xs : List α} {ys : List β} {y : β}
    (h : xs.mapM f = .ok ys) (hy : y ∈ ys) : ∃ x ∈ xs, f x = .ok y := by
  induction xs generalizing ys with
  | nil =>
      rw [List.mapM_nil] at h
      cases h
      simp at hy
  | cons x xs ih =>
      rw [List.mapM_cons, bind_eq_ok_iff] at h
      rcases h with ⟨b, hb, h⟩
      rw [bind_eq_ok_iff] at h
      rcases h with ⟨bs, hbs, h⟩
      cases h
      rcases List.mem_cons.1 hy with rfl | hy
      · exact ⟨x, List.mem_cons_self, hb⟩
      · rcases ih hbs hy with ⟨x', hx', hy'⟩
        exact ⟨x', List.mem_cons_of_mem _ hx', hy'⟩

/-- A computation over a list that ends well does so at each item, with one of the results. -/
theorem exists_mem_of_mapM {f : α → Except ε β} {xs : List α} {ys : List β} {x : α}
    (h : xs.mapM f = .ok ys) (hx : x ∈ xs) : ∃ y ∈ ys, f x = .ok y := by
  induction xs generalizing ys with
  | nil => cases hx
  | cons x' xs ih =>
      rw [List.mapM_cons, bind_eq_ok_iff] at h
      rcases h with ⟨b, hb, h⟩
      rw [bind_eq_ok_iff] at h
      rcases h with ⟨bs, hbs, h⟩
      cases h
      rcases List.mem_cons.1 hx with rfl | hx
      · exact ⟨b, List.mem_cons_self, hb⟩
      · rcases ih hbs hx with ⟨y, hy, hfy⟩
        exact ⟨y, List.mem_cons_of_mem b hy, hfy⟩

/-- A computation over a list fails with an error that it fails with at one of the items. -/
theorem exists_of_mapM_eq_error {f : α → Except ε β} {xs : List α} {e : ε}
    (h : xs.mapM f = .error e) : ∃ x ∈ xs, f x = .error e := by
  induction xs with
  | nil =>
      rw [List.mapM_nil] at h
      cases h
  | cons x xs ih =>
      rw [List.mapM_cons, bind_eq_error_iff] at h
      rcases h with hx | ⟨y, _, h⟩
      · exact ⟨x, List.mem_cons_self, hx⟩
      · rcases bind_eq_error_iff.1 h with hrest | ⟨ys, _, h⟩
        · rcases ih hrest with ⟨x', hx', he⟩
          exact ⟨x', List.mem_cons_of_mem _ hx', he⟩
        · cases h

/-- Each part of the joined results of a computation over a list comes from one of its items. -/
theorem exists_of_mem_flatten_mapM {f : α → Except ε (List β)} {xs : List α} {ys : List β} {y : β}
    (h : (xs.mapM f >>= fun yss => pure yss.flatten) = .ok ys) (hy : y ∈ ys) :
    ∃ x ∈ xs, ∃ zs, f x = .ok zs ∧ y ∈ zs := by
  rw [bind_eq_ok_iff] at h
  rcases h with ⟨yss, hyss, h⟩
  cases h
  rcases List.mem_flatten.1 hy with ⟨zs, hzs, hy⟩
  rcases exists_of_mem_mapM hyss hzs with ⟨x, hx, hf⟩
  exact ⟨x, hx, zs, hf, hy⟩

/-- What a computation over a list yields at an item is part of the joined results. -/
theorem exists_subset_of_flatten_mapM {f : α → Except ε (List β)} {xs : List α} {ys : List β}
    {x : α} (h : (xs.mapM f >>= fun yss => pure yss.flatten) = .ok ys) (hx : x ∈ xs) :
    ∃ zs, f x = .ok zs ∧ zs ⊆ ys := by
  rw [bind_eq_ok_iff] at h
  rcases h with ⟨yss, hyss, h⟩
  cases h
  rcases exists_mem_of_mapM hyss hx with ⟨zs, hzs, hf⟩
  exact ⟨zs, hf, fun y hy => List.mem_flatten.2 ⟨zs, hzs, hy⟩⟩

/-- A computation over a list ends well if it does at each item. -/
theorem exists_mapM_eq_ok {f : α → Except ε β} {xs : List α} (h : ∀ x ∈ xs, ∃ y, f x = .ok y) :
    ∃ ys, xs.mapM f = .ok ys := by
  induction xs with
  | nil => exact ⟨[], rfl⟩
  | cons x xs ih =>
      rcases h x List.mem_cons_self with ⟨y, hy⟩
      rcases ih fun x' hx' => h x' (List.mem_cons_of_mem x hx') with ⟨ys, hys⟩
      refine ⟨y :: ys, ?_⟩
      rw [List.mapM_cons, hy, hys]
      rfl

/-- If the outcome at each item is known, so is the outcome over a list. -/
theorem mapM_eq_ok_map {f : α → Except ε β} {g : α → β} {xs : List α}
    (h : ∀ x ∈ xs, f x = .ok (g x)) : xs.mapM f = .ok (xs.map g) := by
  induction xs with
  | nil => rfl
  | cons x xs ih =>
      have hrest := ih fun x' hx' => h x' (List.mem_cons_of_mem x hx')
      rw [List.mapM_cons, h x List.mem_cons_self, hrest]
      rfl

/-- Results that are changed one by one can be changed all at the end. -/
theorem mapM_map_result {γ : Type} (f : α → Except ε β) (g : β → γ) (xs : List α) :
    (xs.mapM fun x => g <$> f x) = List.map g <$> xs.mapM f := by
  induction xs with
  | nil => rfl
  | cons x xs ih =>
      rw [List.mapM_cons, List.mapM_cons, ih]
      cases f x with
      | error e => rfl
      | ok y => cases xs.mapM f <;> rfl

/-- A computation over a list fails if it does at some item, and if there is only one error that an
item can fail with, then with that error. -/
theorem mapM_eq_error {f : α → Except ε β} {xs : List α} {e : ε} (hfails : ∃ x ∈ xs, Fails (f x))
    (hsame : ∀ x ∈ xs, ∀ e', f x = .error e' → e' = e) : xs.mapM f = .error e := by
  induction xs with
  | nil =>
      rcases hfails with ⟨x, hx, _⟩
      cases hx
  | cons x xs ih =>
      rw [List.mapM_cons]
      cases hx : f x with
      | error e' =>
          rw [hsame x List.mem_cons_self e' hx]
          rfl
      | ok y =>
          have hrest : ∃ x' ∈ xs, Fails (f x') := by
            rcases hfails with ⟨x', hx', hf⟩
            rcases List.mem_cons.1 hx' with rfl | hx'
            · rw [hx] at hf
              exact absurd hf (not_fails_ok y)
            · exact ⟨x', hx', hf⟩
          rw [ih hrest fun x' hx' => hsame x' (List.mem_cons_of_mem x hx')]
          rfl

/-- Steps over a list end well exactly if the step at each item does. -/
theorem forM_eq_ok_iff {f : α → Except ε Unit} {xs : List α} :
    xs.forM f = .ok () ↔ ∀ x ∈ xs, f x = .ok () := by
  induction xs with
  | nil => exact iff_of_true rfl (by simp)
  | cons x xs ih =>
      have hcons : (x :: xs).forM f = (f x >>= fun _ => xs.forM f) := rfl
      rw [hcons, bind_eq_ok_iff, List.forall_mem_cons, ← ih]
      constructor
      · rintro ⟨⟨⟩, hx, hxs⟩
        exact ⟨hx, hxs⟩
      · rintro ⟨hx, hxs⟩
        exact ⟨(), hx, hxs⟩

/-- Steps over a list fail with an error that the step at one of the items fails with. -/
theorem exists_of_forM_eq_error {f : α → Except ε Unit} {xs : List α} {e : ε}
    (h : xs.forM f = .error e) : ∃ x ∈ xs, f x = .error e := by
  induction xs with
  | nil => cases h
  | cons x xs ih =>
      have hcons : (x :: xs).forM f = (f x >>= fun _ => xs.forM f) := rfl
      rw [hcons, bind_eq_error_iff] at h
      rcases h with hx | ⟨_, _, h⟩
      · exact ⟨x, List.mem_cons_self, hx⟩
      · rcases ih h with ⟨x', hx', he⟩
        exact ⟨x', List.mem_cons_of_mem x hx', he⟩

/-! ## Tests on results -/

/-- Whether a computation ends well, with a result that passes a test. -/
def attains (x : Except ε α) (test : α → Bool) : Bool :=
  match x with
  | .ok a => test a
  | .error _ => false

@[simp]
theorem attains_ok (a : α) (test : α → Bool) : attains (.ok a : Except ε α) test = test a :=
  rfl

@[simp]
theorem attains_error (e : ε) (test : α → Bool) : attains (.error e) test = false :=
  rfl

@[simp]
theorem attains_pure (a : α) (test : α → Bool) :
    attains (pure a : Except ε α) test = test a :=
  rfl

/-- A test on what follows a computation is one on its result. -/
@[simp]
theorem attains_bind (x : Except ε α) (f : α → Except ε β) (test : β → Bool) :
    attains (x >>= f) test = attains x fun a => attains (f a) test := by
  cases x <;> rfl

/-- A computation over a list ends well with results that pass a test if it does so at each item. -/
theorem attains_mapM (f : α → Except ε β) (test : β → Bool) (xs : List α) :
    attains (xs.mapM f) (·.all test) = xs.all fun x => attains (f x) test := by
  induction xs with
  | nil => rfl
  | cons x xs ih =>
      rw [List.mapM_cons, List.all_cons, ← ih]
      cases f x with
      | error e => rfl
      | ok y => cases hxs : xs.mapM f <;> simp

/-- A computation over a list ends well if it does at each item. -/
theorem attains_mapM_true (f : α → Except ε β) (xs : List α) :
    attains (xs.mapM f) (fun _ => true) = xs.all fun x => attains (f x) fun _ => true := by
  have hall : (fun ys : List β => ys.all fun _ => true) = fun _ => true := by
    funext ys
    exact List.all_eq_true.2 fun _ _ => rfl
  rw [← attains_mapM, hall]

/-- To attain anything at all is to have a result. -/
theorem attains_true_iff {x : Except ε α} :
    attains x (fun _ => true) = true ↔ ∃ a, x = .ok a := by
  cases x <;> simp

end CrossAudit
