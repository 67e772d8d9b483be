/-
**Pegs and their byte-sized names.**

The box numbers its pegs with one byte.  The six pegs of the box have names of their own; every
other byte stands for a peg without one, and the last byte is what a position gets that no byte can
hold.

Main definitions:

* `PegBox.pegCount` — how many pegs the box has;
* `PegBox.PegId` — the number of a peg;
* `PegBox.PegId.ofIndex` — **the number of a position**;
* `PegBox.PegId.name` — the name shown for a number.
-/

set_option autoImplicit false

namespace PegBox

/-- The box has six pegs. -/
def pegCount : Nat := 6

/-- The number of a peg. -/
structure PegId where
  id : UInt8
  deriving DecidableEq, Repr

namespace PegId

/-- The number of a position that no byte can hold. -/
def unknown : PegId := ⟨255⟩

/-- The numbers of the pegs of the box, in order. -/
def named : List PegId := [⟨0⟩, ⟨1⟩, ⟨2⟩, ⟨3⟩, ⟨4⟩, ⟨5⟩]

/-- The number of the peg at a position, `unknown` where the position does not fit a byte. -/
def ofIndex (index : Nat) : PegId :=
  if index < 256 then ⟨UInt8.ofNat index⟩ else unknown

/-- The name of a peg: the six pegs of the box count from one. -/
def name (peg : PegId) : String :=
  match peg.id with
  | 0 => "peg1"
  | 1 => "peg2"
  | 2 => "peg3"
  | 3 => "peg4"
  | 4 => "peg5"
  | 5 => "peg6"
  | _ => "unknown"

/-- A position that a byte can hold is its own number. -/
theorem ofIndex_of_lt {index : Nat} (h : index < 256) : (ofIndex index).id.toNat = index := by
  simp only [ofIndex, h, if_true, UInt8.toNat_ofNat']
  omega

theorem ofIndex_of_le {index : Nat} (h : 256 ≤ index) : ofIndex index = unknown := by
  simp [ofIndex, Nat.not_lt.2 h]

end PegId

end PegBox
