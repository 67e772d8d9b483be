/-
**Rows with limited room.**

The device keeps its words and bytes in rows that cannot grow beyond a fixed room.  What does not
fit is refused and leaves the row alone; a loop that knows that everything fits does not look at the
refusal.

Main definitions:

* `PegBox.Row` — **a row of items with room for so many**;
* `PegBox.Row.push?`, `PegBox.Row.extend?` — one more item, or several, where there is room;
* `PegBox.Row.push`, `PegBox.Row.extend` — the same without a look at the refusal;
* `PegBox.Row.ofList?` — a row of the items of a list.

Main results:

* `PegBox.Row.items_push`, `PegBox.Row.items_extend` — nothing is lost where there is room;
* `PegBox.Row.items_foldl_push`, `PegBox.Row.items_foldl_extend` — nor by a loop.
-/

set_option autoImplicit false

namespace PegBox

/-- **A row of items with room for so many.** -/
structure Row (α : Type) (room : Nat) where
  items : List α
  fits : items.length ≤ room

namespace Row

variable {α : Type} {room : Nat}

/-- A row without an item. -/
def empty : Row α room := ⟨[], Nat.zero_le room⟩

/-- The row with more items behind the others, all of them or none. -/
def extend? (row : Row α room) (more : List α) : Option (Row α room) :=
  if h : row.items.length + more.length ≤ room then
    some ⟨row.items ++ more, by simpa using h⟩
  else none

/-- The row with one more item behind the others. -/
def push? (row : Row α room) (item : α) : Option (Row α room) := row.extend? [item]

/-- The row with more items, or as it is where they are refused. -/
def extend (row : Row α room) (more : List α) : Row α room := (row.extend? more).getD row

/-- The row with one more item, or as it is where that is refused. -/
def push (row : Row α room) (item : α) : Row α room := (row.push? item).getD row

/-- The row of the items of a list, if they fit. -/
def ofList? (items : List α) : Option (Row α room) := empty.extend? items

@[simp]
theorem items_empty : (empty : Row α room).items = [] := rfl

/-- Items that fit are not lost. -/
theorem items_extend {row : Row α room} {more : List α}
    (h : row.items.length + more.length ≤ room) : (row.extend more).items = row.items ++ more := by
  simp [extend, extend?, h]

theorem items_push {row : Row α room} {item : α} (h : row.items.length < room) :
    (row.push item).items = row.items ++ [item] := by
  have hfits : row.items.length + [item].length ≤ room := h
  exact items_extend hfits

/-- A loop of pushes loses nothing if everything fits. -/
theorem items_foldl_push (items : List α) (row : Row α room)
    (h : row.items.length + items.length ≤ room) :
    (items.foldl push row).items = row.items ++ items := by
  induction items generalizing row with
  | nil => simp
  | cons item items ih =>
    rw [List.length_cons] at h
    have hpush : (row.push item).items = row.items ++ [item] := items_push (by omega)
    have hfits : (row.push item).items.length + items.length ≤ room := by
      rw [hpush, List.length_append, List.length_singleton]
      omega
    rw [List.foldl_cons, ih _ hfits, hpush, List.append_assoc, List.singleton_append]

/-- A loop of extensions loses nothing if everything fits. -/
theorem items_foldl_extend {β : Type} (f : β → List α) (inputs : List β) (row : Row α room)
    (h : row.items.length + (inputs.flatMap f).length ≤ room) :
    (inputs.foldl (fun row input => row.extend (f input)) row).items =
      row.items ++ inputs.flatMap f := by
  induction inputs generalizing row with
  | nil => simp
  | cons input inputs ih =>
    rw [List.flatMap_cons, List.length_append] at h
    have hextend : (row.extend (f input)).items = row.items ++ f input := items_extend (by omega)
    have hfits : (row.extend (f input)).items.length + (inputs.flatMap f).length ≤ room := by
      rw [hextend, List.length_append]
      omega
    rw [List.foldl_cons, ih _ hfits, hextend, List.append_assoc, List.flatMap_cons]

theorem ofList?_of_le {items : List α} (h : items.length ≤ room) :
    (ofList? items : Option (Row α room)) = some ⟨items, h⟩ := by
  simp [ofList?, extend?, h]

theorem ofList?_of_lt {items : List α} (h : room < items.length) :
    (ofList? items : Option (Row α room)) = none := by
  simp [ofList?, extend?, Nat.not_le.2 h]

end Row

end PegBox
