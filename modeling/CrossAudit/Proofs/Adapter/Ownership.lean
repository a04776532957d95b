import CrossAudit.Adapter.Registry
import CrossAudit.Proofs.Assoc

/-!
# Who owns a file

Adapters are registered and removed.  Whatever was done to a registry, a file has at most one owner
in it, and who that is depends on the languages of the registry alone: their extensions are those
that the table of known extensions has for them, and no extension is in that table twice.

Main results:

- Theorem `performed`: all that an operation can do.
- Theorem `nodup_languages_after`: after every history, no language has two adapters.
- Theorem `mem_extensions_iff`: an adapter's extensions are those of its language.
- Theorem `lookup_extensions`: the table of a registry gives an extension to the adapter that is
  first to have it.
- Theorem `files_owned`: the owners of files after every history.
-/

namespace CrossAudit

/-! ## Extensions of an adapter -/

namespace Adapter

/-- Every adapter is found under its language. -/
theorem ofLanguage?_language (a : Adapter) : ofLanguage? a.language = some a := by
  cases a <;> decide

/-- Different adapters have different languages. -/
theorem language_injective : Function.Injective language := by
  intro a b h
  have hsame : ofLanguage? a.language = ofLanguage? b.language := congrArg ofLanguage? h
  rw [ofLanguage?_language, ofLanguage?_language] at hsame
  exact Option.some.inj hsame

/-- An adapter's extensions are those of its language. -/
theorem mem_extensions_iff (a : Adapter) (e : String) :
    e ∈ a.extensions ↔ Language.extensions.lookup e = some a.language := by
  have hdistinct : (Language.extensions.map (·.1)).Nodup := by decide
  rw [Assoc.lookup_eq_some_iff_mem hdistinct]
  constructor
  · intro he
    have hall : ∀ e ∈ a.extensions, (e, a.language) ∈ Language.extensions := by
      cases a <;> decide
    exact hall e he
  · intro hentry
    have hall : ∀ entry ∈ Language.extensions, entry.2 = a.language → entry.1 ∈ a.extensions := by
      cases a <;> decide
    exact hall _ hentry rfl

/-- An adapter has the extensions that belong to its language. -/
theorem contains_extensions_iff (a : Adapter) (e : String) :
    a.extensions.contains e = true ↔ Language.extensions.lookup e = some a.language := by
  rw [List.contains_iff_mem, mem_extensions_iff]

/-- An adapter supports the files of its language. -/
theorem supports_iff (a : Adapter) (path : String) :
    a.supports path = true ↔ Language.ofPath? path = some a.language :=
  contains_extensions_iff a (Language.extensionOf path)

end Adapter

namespace Registry

/-! ## Operations -/

/-- What may be done to a registry. -/
inductive Operation where
  | register (a : Adapter) (available : Bool)
  | unregister (language : String)
  deriving Repr, DecidableEq

/-- What an operation answers. -/
inductive Reply where
  | done
  | refused (why : Refusal)
  | removed (found : Bool)
  deriving Repr, DecidableEq

/-- The answer to an operation, and the registry after it.  A refusal leaves the registry as it
was; a removal is known by the number of adapters. -/
def perform (r : Registry) : Operation → Reply × Registry
  | .register a available =>
    match r.register a available with
    | .ok s => (.done, s)
    | .error why => (.refused why, r)
  | .unregister language =>
    let s := r.unregister language
    (.removed (s.adapters.length != r.adapters.length), s)

/-- The registry after a history of operations. -/
def after (ops : List Operation) : Registry :=
  ops.foldl (fun r op => (r.perform op).2) {}

/-- All that an operation can do: an adapter that is not available is passed over, one whose
language is taken is refused, any other is added at the end, and a language is removed with a word
on whether it was there. -/
inductive Performed (r : Registry) : Operation → Reply × Registry → Prop where
  | passedOver (a : Adapter) : Performed r (.register a false) (.done, r)
  | refused (a : Adapter) (taken : a.language ∈ r.languages) :
      Performed r (.register a true) (.refused (.taken a.language), r)
  | added (a : Adapter) (free : a.language ∉ r.languages) :
      Performed r (.register a true) (.done, ⟨r.adapters ++ [a]⟩)
  | removed (language : String) :
      Performed r (.unregister language) (.removed (decide (language ∈ r.languages)),
        ⟨r.adapters.filter fun a => a.language != language⟩)

/-- The languages of a registry are those of its adapters. -/
theorem mem_languages_iff {r : Registry} {language : String} :
    language ∈ r.languages ↔ ∃ a ∈ r.adapters, a.language = language :=
  List.mem_map

/-- Adapters of other languages are all of them exactly if the language is not there. -/
theorem length_unregister_ne_iff (r : Registry) (language : String) :
    (r.unregister language).adapters.length ≠ r.adapters.length ↔ language ∈ r.languages := by
  rw [unregister, Ne, List.length_filter_eq_length_iff, mem_languages_iff]
  simp

/-- Every operation does what it can do. -/
theorem performed (r : Registry) (op : Operation) : Performed r op (r.perform op) := by
  cases op with
  | register a available =>
      cases available with
      | false => exact .passedOver a
      | true =>
          have htaken : (r.adapters.any fun b => b.language == a.language) = true ↔
              a.language ∈ r.languages := by
            simp [mem_languages_iff]
          by_cases h : a.language ∈ r.languages
          · have hperform : r.perform (.register a true) = (.refused (.taken a.language), r) := by
              simp [perform, register, htaken.2 h]
            rw [hperform]
            exact .refused a h
          · have hperform : r.perform (.register a true) = (.done, ⟨r.adapters ++ [a]⟩) := by
              simp only [perform, register, htaken, h, Bool.not_true, Bool.false_eq_true, if_false]
            rw [hperform]
            exact .added a h
  | unregister language =>
      have hfound : ((r.unregister language).adapters.length != r.adapters.length) =
          decide (language ∈ r.languages) := by
        rw [Bool.eq_iff_iff, bne_iff_ne, decide_eq_true_iff, length_unregister_ne_iff]
      have hperform : r.perform (.unregister language) =
          (.removed (decide (language ∈ r.languages)), r.unregister language) := by
        rw [← hfound]
        rfl
      rw [hperform]
      exact .removed language

/-- An operation keeps the languages distinct. -/
theorem Performed.nodup_languages {r : Registry} {op : Operation} {out : Reply × Registry}
    (hperformed : Performed r op out) (h : r.languages.Nodup) : out.2.languages.Nodup := by
  cases hperformed with
  | passedOver _ => exact h
  | refused _ _ => exact h
  | added a free =>
      have hlanguages : (⟨r.adapters ++ [a]⟩ : Registry).languages =
          r.languages.concat a.language := by
        simp [languages]
      rw [hlanguages]
      exact h.concat free
  | removed language => exact h.sublist (List.filter_sublist.map _)

/-- After every history, no language has two adapters. -/
theorem nodup_languages_after (ops : List Operation) : (after ops).languages.Nodup := by
  induction ops using List.reverseRecOn with
  | nil => exact List.nodup_nil
  | append_singleton ops op ih =>
      have hstep : after (ops ++ [op]) = ((after ops).perform op).2 := by simp [after]
      rw [hstep]
      exact (performed (after ops) op).nodup_languages ih

/-- Registering all adapters leads to the registry that has all of them. -/
example : after (Adapter.all.map fun a => .register a true) = standard := by decide

/-! ## The owner of an extension -/

/-- The first adapter that has an extension. -/
def owner? (r : Registry) (e : String) : Option Adapter :=
  r.adapters.find? fun a => a.extensions.contains e

/-- The adapter of a path is the owner of its extension. -/
theorem adapterFor?_eq_owner? (r : Registry) (path : String) :
    r.adapterFor? path = r.owner? (Language.extensionOf path) :=
  rfl

/-- The owner of an extension has the language that the extension belongs to. -/
theorem lookup_of_owner? {r : Registry} {e : String} {a : Adapter} (h : r.owner? e = some a) :
    Language.extensions.lookup e = some a.language := by
  have hhas : a.extensions.contains e = true := by simpa using List.find?_some h
  exact (Adapter.contains_extensions_iff a e).1 hhas

/-- The owner of an extension is the adapter of its language. -/
theorem owner?_eq_some_iff (r : Registry) (e : String) (a : Adapter) :
    r.owner? e = some a ↔ a ∈ r.adapters ∧ Language.extensions.lookup e = some a.language := by
  constructor
  · intro h
    exact ⟨List.mem_of_find?_eq_some h, lookup_of_owner? h⟩
  · rintro ⟨hmem, hlanguage⟩
    have hhas : a.extensions.contains e = true := (Adapter.contains_extensions_iff a e).2 hlanguage
    cases hfirst : r.owner? e with
    | none => exact absurd hhas (List.find?_eq_none.1 hfirst a hmem)
    | some b =>
        -- The first adapter that has the extension has the same language.
        have hb : some a.language = some b.language :=
          hlanguage.symm.trans (lookup_of_owner? hfirst)
        rw [Adapter.language_injective (Option.some.inj hb)]

/-- Registries with the same languages have the same owners. -/
theorem owner?_congr {r s : Registry}
    (h : ∀ language, language ∈ r.languages ↔ language ∈ s.languages) (e : String) :
    r.owner? e = s.owner? e := by
  have hadapters : ∀ a, a ∈ r.adapters ↔ a ∈ s.adapters := by
    intro a
    have hlanguage := h a.language
    rwa [languages, languages, List.mem_map_of_injective Adapter.language_injective,
      List.mem_map_of_injective Adapter.language_injective] at hlanguage
  ext a
  rw [owner?_eq_some_iff, owner?_eq_some_iff, hadapters]

/-! ## The table of extensions -/

/-- Every extension of every adapter with its language. -/
def entries (r : Registry) : List (String × String) :=
  r.adapters.flatMap fun a => a.extensions.map fun e => (e, a.language)

/-- Adds an entry to a table that does not have its key yet. -/
def keep (table : List (String × String)) (entry : String × String) : List (String × String) :=
  if (table.lookup entry.1).isSome then table else table ++ [entry]

/-- The table of extensions keeps the first entry of each. -/
theorem extensions_eq (r : Registry) : r.extensions = r.entries.foldl keep [] :=
  rfl

/-- An entry that is kept counts only if there was none before. -/
theorem lookup_keep (table : List (String × String)) (entry : String × String) (k : String) :
    (keep table entry).lookup k = (table.lookup k).or ([entry].lookup k) := by
  unfold keep
  split
  · rename_i hknown
    by_cases hk : k = entry.1
    · obtain ⟨v, hv⟩ := Option.isSome_iff_exists.1 hknown
      rw [hk, hv, Option.some_or]
    · have hother : [entry].lookup k = none := by
        simpa [List.lookup_eq_none_iff] using hk
      rw [hother, Option.or_none]
  · exact List.lookup_append

/-- What is found in a table of kept entries is the first entry of a key. -/
theorem lookup_foldl_keep (table added : List (String × String)) (k : String) :
    (added.foldl keep table).lookup k = (table.lookup k).or (added.lookup k) := by
  induction added generalizing table with
  | nil => simp
  | cons entry rest ih =>
      have hcons : ([entry] ++ rest).lookup k = ([entry].lookup k).or (rest.lookup k) :=
        List.lookup_append
      rw [List.singleton_append] at hcons
      rw [List.foldl_cons, ih, lookup_keep, hcons, Option.or_assoc]

/-- Keeping first entries leaves every key once. -/
theorem nodup_keys_foldl_keep (table added : List (String × String))
    (h : (table.map (·.1)).Nodup) : ((added.foldl keep table).map (·.1)).Nodup := by
  induction added generalizing table with
  | nil => exact h
  | cons entry rest ih =>
      rw [List.foldl_cons]
      refine ih (keep table entry) ?_
      unfold keep
      split
      · exact h
      · rename_i hnew
        have hfresh : entry.1 ∉ table.map (·.1) := by
          simpa [List.lookup_isSome_iff] using hnew
        simpa using h.concat hfresh

/-- In a table with one language for all extensions, that language is found for them. -/
theorem lookup_marked (es : List String) (language k : String) :
    (es.map fun e => (e, language)).lookup k = if es.contains k then some language else none := by
  induction es with
  | nil => rfl
  | cons e rest ih =>
      by_cases hk : k = e
      · simp [hk]
      · have hk' : (k == e) = false := beq_false_of_ne hk
        simpa [List.lookup_cons, hk', hk] using ih

/-- An extension is found with the language of its owner. -/
theorem lookup_entries (r : Registry) (e : String) :
    r.entries.lookup e = (r.owner? e).map Adapter.language := by
  obtain ⟨adapters⟩ := r
  induction adapters with
  | nil => rfl
  | cons a rest ih =>
      have hcons : entries ⟨a :: rest⟩ =
          (a.extensions.map fun e => (e, a.language)) ++ entries ⟨rest⟩ := rfl
      have howner : owner? ⟨a :: rest⟩ e =
          if a.extensions.contains e then some a else owner? ⟨rest⟩ e := by
        rw [owner?, List.find?_cons]
        cases a.extensions.contains e <;> rfl
      rw [hcons, List.lookup_append, lookup_marked, ih, howner]
      cases a.extensions.contains e <;> simp

/-- The table of a registry gives an extension to the adapter that is first to have it. -/
theorem lookup_extensions (r : Registry) (e : String) :
    r.extensions.lookup e = (r.owner? e).map Adapter.language := by
  rw [extensions_eq, lookup_foldl_keep, lookup_entries]
  rfl

/-- No extension is in the table of a registry twice. -/
theorem nodup_keys_extensions (r : Registry) : (r.extensions.map (·.1)).Nodup :=
  nodup_keys_foldl_keep [] r.entries List.nodup_nil

/-! ## The owner of a file -/

/-- A file has one owner or none, and whoever is asked agrees on it. -/
structure Owned (r : Registry) (path : String) : Prop where
  /-- The adapters that support the file are its owner, if it has one, and no other. -/
  supporting : r.adapters.filter (·.supports path) = (r.adapterFor? path).toList
  /-- The table of the registry has the language of the owner for the file's extension, and nothing
  if there is no owner. -/
  listed : r.extensions.lookup (Language.extensionOf path) =
    (r.adapterFor? path).map Adapter.language
  /-- The owner is the adapter of the language that the file's extension tells. -/
  known : ∀ a, r.adapterFor? path = some a ↔
    a ∈ r.adapters ∧ Language.ofPath? path = some a.language

/-- If no language has two adapters, every file has one owner or none. -/
theorem owned_of_nodup {r : Registry} (h : r.languages.Nodup) (path : String) :
    Owned r path := by
  have hknown : ∀ a, r.adapterFor? path = some a ↔
      a ∈ r.adapters ∧ Language.ofPath? path = some a.language := by
    intro a
    rw [adapterFor?_eq_owner?, owner?_eq_some_iff, Language.ofPath?]
  have hlisted : r.extensions.lookup (Language.extensionOf path) =
      (r.adapterFor? path).map Adapter.language := by
    rw [adapterFor?_eq_owner?, lookup_extensions]
  have hadapters : r.adapters.Nodup := h.of_map _
  refine ⟨?_, hlisted, hknown⟩
  have hmem : ∀ a, a ∈ r.adapters.filter (·.supports path) ↔ r.adapterFor? path = some a := by
    intro a
    rw [List.mem_filter, Adapter.supports_iff, hknown]
  cases howner : r.adapterFor? path with
  | none =>
      rw [Option.toList_none, List.eq_nil_iff_forall_not_mem]
      intro a ha
      rw [hmem, howner] at ha
      cases ha
  | some a =>
      have hone : ∀ b, b ∈ r.adapters.filter (·.supports path) ↔ b ∈ [a] := by
        intro b
        rw [hmem, howner, Option.some_inj, List.mem_singleton, eq_comm]
      have hperm : (r.adapters.filter (·.supports path)).Perm [a] :=
        (List.perm_ext_iff_of_nodup (hadapters.filter _) (List.nodup_singleton a)).2 hone
      exact List.perm_singleton.1 hperm

/-- After every history of a registry, its languages are distinct, an operation does what it can do
and nothing else, its table has each extension once, and every file has one owner or none.  Whatever
the order of its operations, another history with the same languages leads to the same owners. -/
theorem files_owned (ops : List Operation) :
    let r := after ops
    r.languages.Nodup ∧
      (∀ op, Performed r op (r.perform op)) ∧
      (r.extensions.map (·.1)).Nodup ∧
      (∀ path, Owned r path) ∧
      ∀ others, (∀ language, language ∈ (after others).languages ↔ language ∈ r.languages) →
        (∀ path, (after others).adapterFor? path = r.adapterFor? path) ∧
          ∀ e, (after others).extensions.lookup e = r.extensions.lookup e := by
  intro r
  have hdistinct : r.languages.Nodup := nodup_languages_after ops
  refine ⟨hdistinct, performed r, nodup_keys_extensions r, owned_of_nodup hdistinct, ?_⟩
  intro others hsame
  have howners : ∀ e, (after others).owner? e = r.owner? e := owner?_congr hsame
  constructor
  · intro path
    rw [adapterFor?_eq_owner?, adapterFor?_eq_owner?, howners]
  · intro e
    rw [lookup_extensions, lookup_extensions, howners]

/-- Two scripting languages, one of them asked for twice. -/
def repeated : List Operation :=
  [.register .javascript true, .register .typescript true, .register .javascript true]

/-- The same two the other way round, with a third one that is removed and then not available. -/
def roundabout : List Operation :=
  [.register .python true, .register .typescript true, .unregister "python",
    .register .python false, .register .javascript true]

/-- Two histories with the same languages in another order, and a file that has the same owner in
both. -/
theorem files_owned_roundabout :
    (∀ language,
        language ∈ (after roundabout).languages ↔ language ∈ (after repeated).languages) ∧
      (after repeated).languages = ["javascript", "typescript"] ∧
      (after roundabout).languages = ["typescript", "javascript"] ∧
      (after roundabout).adapterFor? "Web/Index.TSX" = some .typescript ∧
      (after repeated).adapterFor? "Web/Index.TSX" = some .typescript := by
  have hrepeated : (after repeated).languages = ["javascript", "typescript"] := by decide
  have hroundabout : (after roundabout).languages = ["typescript", "javascript"] := by decide
  have hsame : ∀ language,
      language ∈ (after roundabout).languages ↔ language ∈ (after repeated).languages := by
    intro language
    rw [hrepeated, hroundabout]
    simp [or_comm]
  have howner : (after repeated).adapterFor? "Web/Index.TSX" = some .typescript := by
    decide +kernel
  have hagree := ((files_owned repeated).2.2.2.2 roundabout hsame).1 "Web/Index.TSX"
  exact ⟨hsame, hrepeated, hroundabout, hagree.trans howner, howner⟩

end Registry
end CrossAudit
