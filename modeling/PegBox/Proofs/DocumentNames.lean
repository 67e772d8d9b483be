/-
**A document says each thing once.**

The tables of a TOML document grow with every assignment and every header.  A name that is new is
put behind the others; a name that is there already keeps its place, or moves to the end.  So no
step makes a name stand twice in a table, and the structured value of a document is a mapping with
distinct names.

Main definitions:

* `PegBox.DistinctNames` — **no name stands twice** in a row of entries;
* `PegBox.Toml.KeepsDistinct` — a change after which names are still distinct.

Main results:

* `PegBox.DistinctNames.eq_of_mem` — a name then stands for one thing;
* `PegBox.Toml.keepsDistinct_assign`, `PegBox.Toml.keepsDistinct_addSection` — **assignments and
  sections** keep names distinct;
* `PegBox.Toml.exists_entries_of_parse` — a document is a mapping with distinct names.
-/

import Mathlib.Data.List.Nodup
import PegBox.Toml.Document

set_option autoImplicit false

namespace PegBox

/-! ### Distinct names -/

/-- **No name stands twice** in a row of entries. -/
def DistinctNames {α : Type} (entries : List (String × α)) : Prop := (entries.map Prod.fst).Nodup

namespace DistinctNames

variable {α : Type} {entries : List (String × α)} {name : String}

theorem nil : DistinctNames ([] : List (String × α)) := List.nodup_nil

/-- A name stands for one thing. -/
theorem eq_of_mem (h : DistinctNames entries) {first second : α} (hfirst : (name, first) ∈ entries)
    (hsecond : (name, second) ∈ entries) : first = second :=
  congrArg Prod.snd (List.inj_on_of_nodup_map h hfirst hsecond rfl)

/-- What a name stands for is found by the name. -/
theorem lookup_eq_some_iff (h : DistinctNames entries) {value : α} :
    entries.lookup name = some value ↔ (name, value) ∈ entries := by
  constructor
  · intro hvalue
    obtain ⟨before, after, rfl, -⟩ := List.lookup_eq_some_iff.1 hvalue
    simp
  · intro hmem
    cases hlookup : entries.lookup name with
    | none =>
        have hne := List.lookup_eq_none_iff.1 hlookup (name, value) hmem
        simp at hne
    | some other =>
        obtain ⟨before, after, hentries, -⟩ := List.lookup_eq_some_iff.1 hlookup
        have hother : (name, other) ∈ entries := by simp [hentries]
        rw [h.eq_of_mem hother hmem]

theorem append_new (h : DistinctNames entries) (hnew : entries.lookup name = none) (value : α) :
    DistinctNames (entries ++ [(name, value)]) := by
  rw [DistinctNames, List.map_append, List.map_singleton, List.nodup_append]
  refine ⟨h, List.nodup_singleton _, ?_⟩
  intro other hother same hsame
  obtain ⟨entry, hentry, rfl⟩ := List.mem_map.1 hother
  rw [List.mem_singleton.1 hsame]
  rintro rfl
  simpa using List.lookup_eq_none_iff.1 hnew entry hentry

end DistinctNames

namespace Toml

/-! ### Changes of a table -/

/-- A change of a table after which its names are still distinct. -/
def KeepsDistinct (change : Entries → Option Entries) : Prop :=
  ∀ entries grown, change entries = some grown → DistinctNames entries → DistinctNames grown

theorem distinctNames_replace {name : String} {item : Item} {entries : Entries}
    (h : DistinctNames entries) : DistinctNames (replace name item entries) := by
  have hnames : (replace name item entries).map Prod.fst = entries.map Prod.fst := by
    clear h
    induction entries with
    | nil => rfl
    | cons entry rest ih =>
        obtain ⟨other, old⟩ := entry
        rw [replace]
        split
        · rfl
        · rw [List.map_cons, ih, List.map_cons]
  rwa [DistinctNames, hnames]

theorem distinctNames_remove {name : String} {entries : Entries} (h : DistinctNames entries) :
    DistinctNames (remove name entries) :=
  h.sublist (List.filter_sublist.map Prod.fst)

theorem lookup_remove (name : String) (entries : Entries) :
    (remove name entries).lookup name = none := by
  rw [List.lookup_eq_none_iff]
  intro entry hentry
  have hne : entry.1 ≠ name := of_decide_eq_true (List.mem_filter.1 hentry).2
  exact bne_iff_ne.2 hne.symm

/-- An assignment keeps names distinct: it adds a name that is new, or changes what stands for one
that is there. -/
theorem keepsDistinct_assign (value : Datum) (path : List String) (name : String) :
    KeepsDistinct (assign value path name) := by
  intro entries grown h hdistinct
  cases path with
  | nil =>
      rw [assign] at h
      split at h
      · cases h
      · next hnew =>
        cases h
        exact hdistinct.append_new hnew _
  | cons table path =>
      rw [assign] at h
      split at h
      · next hnew =>
        obtain ⟨inner, -, rfl⟩ := Option.map_eq_some_iff.1 h
        exact hdistinct.append_new hnew _
      · cases h
      · split at h
        · cases h
        · obtain ⟨inner, -, rfl⟩ := Option.map_eq_some_iff.1 h
          exact distinctNames_replace hdistinct
      · split at h
        · cases h
        · obtain ⟨inner, -, rfl⟩ := Option.map_eq_some_iff.1 h
          exact distinctNames_replace hdistinct

theorem keepsDistinct_assignAll (assignments : List (KeyPath × Datum)) :
    KeepsDistinct (assignAll assignments) := by
  intro entries grown h hdistinct
  induction assignments generalizing entries with
  | nil =>
      cases h
      exact hdistinct
  | cons assignment rest ih =>
      obtain ⟨path, value⟩ := assignment
      rw [assignAll] at h
      split at h
      · cases h
      · next next hassign =>
        exact ih _ h (keepsDistinct_assign value path.tables path.name _ _ hassign hdistinct)

/-- A change at the end of a way keeps the names distinct of the table at which the way starts. -/
theorem keepsDistinct_changeWithin {change : Entries → Option Entries}
    (hchange : KeepsDistinct change) (path : List String) :
    KeepsDistinct (changeWithin change path) := by
  intro entries grown h hdistinct
  cases path with
  | nil => exact hchange entries grown h hdistinct
  | cons table path =>
      rw [changeWithin] at h
      split at h
      · next hnew =>
        obtain ⟨inner, -, rfl⟩ := Option.map_eq_some_iff.1 h
        exact hdistinct.append_new hnew _
      · cases h
      · obtain ⟨inner, -, rfl⟩ := Option.map_eq_some_iff.1 h
        exact distinctNames_replace hdistinct
      · obtain ⟨inner, -, rfl⟩ := Option.map_eq_some_iff.1 h
        exact distinctNames_replace hdistinct

theorem keepsDistinct_addTable (assignments : List (KeyPath × Datum)) (name : String) :
    KeepsDistinct (addTable assignments name) := by
  intro entries grown h hdistinct
  rw [addTable] at h
  split at h
  · next hnew =>
    obtain ⟨inner, -, rfl⟩ := Option.map_eq_some_iff.1 h
    exact hdistinct.append_new hnew _
  · -- A table that longer headers made is taken out, and put at the end with its own entries.
    obtain ⟨inner, -, rfl⟩ := Option.map_eq_some_iff.1 h
    exact (distinctNames_remove hdistinct).append_new (lookup_remove name entries) _
  · cases h

theorem keepsDistinct_addElement (assignments : List (KeyPath × Datum)) (name : String) :
    KeepsDistinct (addElement assignments name) := by
  intro entries grown h hdistinct
  rw [addElement] at h
  split at h
  · cases h
  · split at h
    · next hnew =>
      cases h
      exact hdistinct.append_new hnew _
    · cases h
      exact distinctNames_replace hdistinct
    · cases h

/-- A section keeps names distinct, whatever its header is. -/
theorem keepsDistinct_addSection (part : Section) : KeepsDistinct (addSection part) := by
  rw [addSection]
  refine keepsDistinct_changeWithin ?_ part.header.path.tables
  split
  · exact keepsDistinct_addElement part.assignments part.header.path.name
  · exact keepsDistinct_addTable part.assignments part.header.path.name

theorem keepsDistinct_addSections (parts : List Section) : KeepsDistinct (addSections parts) := by
  intro entries grown h hdistinct
  induction parts generalizing entries with
  | nil =>
      cases h
      exact hdistinct
  | cons part rest ih =>
      rw [addSections] at h
      split at h
      · cases h
      · next next hsection =>
        exact ih _ h (keepsDistinct_addSection part _ _ hsection hdistinct)

/-! ### Documents -/

theorem names_entriesData (entries : Entries) :
    (entriesData entries).map Prod.fst = entries.map Prod.fst := by
  induction entries with
  | nil => rfl
  | cons entry rest ih =>
      obtain ⟨name, item⟩ := entry
      rw [entriesData, List.map_cons, ih, List.map_cons]

/-- A document is a mapping with distinct names. -/
theorem exists_entries_of_parse {text : String} {document : Datum}
    (h : parse text = some document) :
    ∃ entries, document = .mapping entries ∧ DistinctNames entries := by
  rw [parse] at h
  split at h
  · cases h
  · dsimp only at h
    split at h
    · cases h
    · next root hroot =>
      obtain ⟨tables, htables, rfl⟩ := Option.map_eq_some_iff.1 h
      refine ⟨entriesData tables, rfl, ?_⟩
      rw [DistinctNames, names_entriesData]
      exact keepsDistinct_addSections _ root tables htables
        (keepsDistinct_assignAll _ [] root hroot .nil)

end Toml

end PegBox
