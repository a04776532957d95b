import CrossAudit.Proofs.Entity.Naming

/-!
# The search for a free name

A pool looks for a free name by trying the base, then the base with the numbers from two on.
Nothing in the search itself bounds the number of its steps; it ends because every name that it
leaves behind is in use and no two of them are the same.  So it takes no more steps than there are
names in use, whatever calls the pool has answered before.

Main results:

- Theorem `handed_runAll`: calls hand out names that were free, each once, and leave them in use.
- Theorem `Ends.unique`: a search ends in one way only.
- Theorem `exists_ends_next`: the search ends at the name that the pool hands out.
- Theorem `claim_least_free`: what a claim does after every history of calls.
-/

namespace CrossAudit
namespace IdPool

/-! ## Calls -/

/-- What is asked of a pool. -/
inductive Call where
  | claim (base : String)
  | allocate (language kind file name : String) (line col : Int)
  deriving Repr, DecidableEq

/-- The name that a call hands out, and the pool after it. -/
def Call.run (pool : IdPool) : Call → String × IdPool
  | .claim base => pool.claim base
  | .allocate language kind file name line col => pool.allocate language kind file name line col

/-- The name that a call asks for. -/
def Call.base : Call → String
  | .claim base => base
  | .allocate language kind file name line col => baseName language kind file name line col

/-- The names that calls hand out one after the other, and the pool after them. -/
def runAll (pool : IdPool) : List Call → List String × IdPool
  | [] => ([], pool)
  | c :: rest =>
    let (id, next) := c.run pool
    let (ids, last) := runAll next rest
    (id :: ids, last)

theorem Call.run_eq (pool : IdPool) (c : Call) : c.run pool = pool.claim c.base := by
  cases c <;> rfl

/-- Calls hand out names that were free, each once, and leave them in use. -/
theorem handed_runAll (pool : IdPool) (calls : List Call) :
    Handed pool (runAll pool calls).1 (runAll pool calls).2 := by
  induction calls generalizing pool with
  | nil => exact .nil pool
  | cons c rest ih =>
      have hrun : runAll pool (c :: rest) =
          ((pool.next c.base :: (runAll (pool.claim c.base).2 rest).1),
            (runAll (pool.claim c.base).2 rest).2) := by
        rw [runAll, Call.run_eq]
        rfl
      rw [hrun]
      exact (ih (pool.claim c.base).2).cons

/-- The names in use after calls on an empty pool are those that were handed out. -/
theorem mem_used_runAll_iff (calls : List Call) (id : String) :
    id ∈ (runAll {} calls).2.used ↔ id ∈ (runAll {} calls).1 := by
  rw [(handed_runAll {} calls).used_eq]
  simp

/-! ## Steps of the search -/

variable {used used' : List String} {base a : String}

/-- Where a search stands: the name to be tried, and the number of the one after it. -/
structure Search where
  candidate : String
  number : Nat
  deriving Repr, DecidableEq

/-- A search goes on from a name in use, and stops at a free one. -/
def Search.step? (used : List String) (base : String) (s : Search) : Option Search :=
  if used.contains s.candidate then some ⟨numbered base s.number, s.number + 1⟩ else none

/-- From where it stands, a search takes a number of steps and stops. -/
inductive Ends (used : List String) (base : String) : Search → Nat → Search → Prop where
  | here {s : Search} (stop : s.step? used base = none) : Ends used base s 0 s
  | onward {s t u : Search} {n : Nat} (step : s.step? used base = some t)
      (rest : Ends used base t n u) : Ends used base s (n + 1) u

theorem Search.step?_of_mem {s : Search} (h : s.candidate ∈ used) :
    s.step? used base = some ⟨numbered base s.number, s.number + 1⟩ := by
  simp [step?, h]

theorem Search.step?_eq_none_iff {s : Search} :
    s.step? used base = none ↔ s.candidate ∉ used := by
  simp [step?]

/-- A search ends in one way only. -/
theorem Ends.unique {s t u : Search} {m n : Nat} (h : Ends used base s m t)
    (h' : Ends used base s n u) : n = m ∧ u = t := by
  induction h generalizing n u with
  | here stop =>
      cases h' with
      | here _ => exact ⟨rfl, rfl⟩
      | onward step _ =>
          rw [stop] at step
          cases step
  | onward step _ ih =>
      cases h' with
      | here stop =>
          rw [stop] at step
          cases step
      | onward step' rest' =>
          rw [step'] at step
          cases step
          obtain ⟨hn, hu⟩ := ih rest'
          exact ⟨by rw [hn], hu⟩

/-- From a numbered name, a search ends at the first one that is free. -/
theorem ends_numbered {k n : Nat} (hfree : numbered base (k + n) ∉ used)
    (hbefore : ∀ m, k ≤ m → m < k + n → numbered base m ∈ used) :
    Ends used base ⟨numbered base k, k + 1⟩ n ⟨numbered base (k + n), k + n + 1⟩ := by
  induction n generalizing k with
  | zero => exact .here (Search.step?_eq_none_iff.2 hfree)
  | succ n ih =>
      have hnext : k + (n + 1) = k + 1 + n := by omega
      rw [hnext] at hfree hbefore ⊢
      have htaken : numbered base k ∈ used := hbefore k (Nat.le_refl k) (by omega)
      have hrest : ∀ m, k + 1 ≤ m → m < k + 1 + n → numbered base m ∈ used :=
        fun m hm hlt => hbefore m (by omega) hlt
      exact .onward (Search.step?_of_mem htaken) (ih hfree hrest)

/-! ## The length of the search -/

/-- A numbered name is longer than its base. -/
theorem numbered_ne (base : String) (n : Nat) : numbered base n ≠ base := by
  intro h
  have hlength := congrArg String.length h
  simp only [numbered, String.length_append] at hlength
  have hmark : "#".length = 1 := rfl
  omega

/-- A base in use and more numbered names in use than that are no more than the names in use. -/
theorem succ_le_length_of_numbered_mem {n : Nat} (hbase : base ∈ used)
    (h : ∀ m, 2 ≤ m → m < 2 + n → numbered base m ∈ used) : n + 1 ≤ used.length := by
  have hrest : ∀ m, 2 ≤ m → m < 2 + n → numbered base m ∈ used.erase base :=
    fun m hm hlt => (List.mem_erase_of_ne (numbered_ne base m)).2 (h m hm hlt)
  have hle : n ≤ (used.erase base).length := le_length_of_numbered_mem hrest
  rw [List.length_erase_of_mem hbase] at hle
  have hpos : 0 < used.length := List.length_pos_of_mem hbase
  omega

/-- The search for a least free name ends there, after no more steps than there are names in use. -/
theorem LeastFree.exists_ends (h : LeastFree used base a) :
    ∃ n ≤ used.length, Ends used base ⟨base, 2⟩ n ⟨a, n + 2⟩ := by
  cases h with
  | plain free => exact ⟨0, Nat.zero_le _, .here (Search.step?_eq_none_iff.2 free)⟩
  | numbered k taken two_le free least =>
      obtain ⟨n, rfl⟩ := Nat.exists_eq_add_of_le two_le
      have hsearch := ends_numbered free least
      have hnumber : 2 + n + 1 = n + 1 + 2 := by omega
      rw [hnumber] at hsearch
      exact ⟨n + 1, succ_le_length_of_numbered_mem taken least,
        .onward (Search.step?_of_mem taken) hsearch⟩

/-- The search ends at the name that the pool hands out. -/
theorem exists_ends_next (pool : IdPool) (base : String) :
    ∃ n ≤ pool.used.length, Ends pool.used base ⟨base, 2⟩ n ⟨pool.next base, n + 2⟩ :=
  (leastFree_next pool base).exists_ends

/-! ## Claims after a history -/

theorem LeastFree.congr (h : LeastFree used base a) (hsame : ∀ id, id ∈ used ↔ id ∈ used') :
    LeastFree used' base a := by
  cases h with
  | plain free => exact .plain (mt (hsame base).2 free)
  | numbered n taken two_le free least =>
      exact .numbered n ((hsame base).1 taken) two_le (mt (hsame _).2 free)
        fun m hm hlt => (hsame _).1 (least m hm hlt)

/-- After every history of calls, the search of a claim ends, in one way, after no more steps than
names were handed out.  The claim hands out the name where it ends, which is the least free one of
the base and was not handed out before, and only that name comes into use. -/
theorem claim_least_free (calls : List Call) (base : String) :
    let ids := (runAll {} calls).1
    let pool := (runAll {} calls).2
    let id := (pool.claim base).1
    (∃ n ≤ ids.length, ∀ m s, Ends pool.used base ⟨base, 2⟩ m s ↔ m = n ∧ s = ⟨id, n + 2⟩) ∧
      LeastFree ids base id ∧
      id ∉ ids ∧
      (∀ other, other ∈ pool.used ↔ other ∈ ids) ∧
      ∀ other, other ∈ (pool.claim base).2.used ↔ other ∈ ids ∨ other = id := by
  intro ids pool id
  have hused : ∀ other, other ∈ pool.used ↔ other ∈ ids := mem_used_runAll_iff calls
  have hleast : LeastFree ids base id := (leastFree_next pool base).congr hused
  refine ⟨?_, hleast, hleast.not_mem, hused, ?_⟩
  · obtain ⟨n, hle, hends⟩ := exists_ends_next pool base
    have hlength : pool.used.length = ids.length := by
      rw [(handed_runAll {} calls).used_eq]
      simp [ids]
    rw [hlength] at hle
    refine ⟨n, hle, fun m s => ⟨hends.unique, ?_⟩⟩
    rintro ⟨rfl, rfl⟩
    exact hends
  · intro other
    have hclaim : (pool.claim base).2.used = id :: pool.used := rfl
    rw [hclaim, List.mem_cons, hused]
    exact or_comm

/-- A base that looks like a numbered name of another one takes its place. -/
example : (runAll {} [.claim "a#2", .claim "a", .claim "a", .claim "a#2"]).1 =
    ["a#2", "a", "a#3", "a#2#2"] := by decide

end IdPool
end CrossAudit
