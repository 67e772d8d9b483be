/-
**Pegs are numbered by their positions, as far as there are bytes to tell them apart.**

A reading set is gone through peg by peg, in order, and each peg gets the number of its position.
Numbers are bytes, and one of them doubles as the placeholder for positions that no byte can hold.
That one is the last byte, so the last position that fits a byte is numbered like all the positions
beyond it: from there on pegs cannot be told apart by their numbers.  Before it each number stands
for one position.

Main results:

* `PegBox.PegId.toNat_ofIndex` — a number is its position, up to the last byte;
* `PegBox.PegId.ofIndex_eq_iff`, `PegBox.PegId.ofIndex_eq_unknown_iff` — which positions share a
  number, and which have the placeholder;
* `PegBox.pegs_numbered` — **the pegs of a reading set** with their numbers and readings;
* `PegBox.last_byte_shared` — a position that fits a byte shares its number with one that does not.
-/

import PegBox.ReadingSet

set_option autoImplicit false

namespace PegBox

namespace PegId

/-- A number is its position, up to the last byte. -/
theorem toNat_ofIndex (index : Nat) : (ofIndex index).id.toNat = min index 255 := by
  rcases Nat.lt_or_ge index 256 with hindex | hindex
  · rw [ofIndex_of_lt hindex]
    omega
  · rw [ofIndex_of_le hindex, show unknown.id.toNat = 255 from rfl]
    omega

/-- Two positions share a number only where both are at or beyond the last byte. -/
theorem ofIndex_eq_iff {index other : Nat} :
    ofIndex index = ofIndex other ↔ index = other ∨ (255 ≤ index ∧ 255 ≤ other) := by
  constructor
  · intro h
    have hnumbers : (ofIndex index).id.toNat = (ofIndex other).id.toNat := by rw [h]
    rw [toNat_ofIndex, toNat_ofIndex] at hnumbers
    omega
  · intro h
    have hnumbers : (ofIndex index).id.toNat = (ofIndex other).id.toNat := by
      rw [toNat_ofIndex, toNat_ofIndex]
      omega
    exact congrArg PegId.mk (UInt8.toNat_inj.1 hnumbers)

/-- The placeholder stands for the last position that fits a byte and for all that do not. -/
theorem ofIndex_eq_unknown_iff {index : Nat} : ofIndex index = unknown ↔ 255 ≤ index := by
  rw [show unknown = ofIndex 255 from rfl, ofIndex_eq_iff]
  omega

end PegId

namespace ReadingSet

/-- There is one triple for each peg. -/
theorem length_pegs (set : ReadingSet) : set.pegs.length = set.size := by
  rw [pegs, List.length_mapIdx, List.length_zip, ← set.length_eq, Nat.min_self, size]

/-- The triple of a peg: the number of its position, and its two readings. -/
theorem getElem?_pegs (set : ReadingSet) {peg : Nat} {high low : Float}
    (hhigh : set.highs[peg]? = some high) (hlow : set.lows[peg]? = some low) :
    set.pegs[peg]? = some (PegId.ofIndex peg, high, low) := by
  have hpair : (set.highs.zip set.lows)[peg]? = some (high, low) :=
    List.getElem?_zip_eq_some.2 ⟨hhigh, hlow⟩
  rw [pegs, List.getElem?_mapIdx, hpair]
  rfl

/-- A number that stands in the place of a peg is that of its position. -/
theorem number_of_pegs (set : ReadingSet) {peg : Nat} {number : PegId} {high low : Float}
    (h : set.pegs[peg]? = some (number, high, low)) : number = PegId.ofIndex peg := by
  rw [pegs, List.getElem?_mapIdx, Option.map_eq_some_iff] at h
  obtain ⟨_, -, htriple⟩ := h
  exact (congrArg Prod.fst htriple).symm

end ReadingSet

/-- **The pegs of a reading set**: one for each position, in order, with the two readings of that
position.  The number of a position that fits a byte is the position itself; the placeholder stands
from the last of these positions on; and two positions share a number only if they are the same or
both have the placeholder. -/
theorem pegs_numbered (set : ReadingSet) :
    set.pegs.length = set.size ∧
    (∀ peg < set.size, ∃ number high low, set.pegs[peg]? = some (number, high, low) ∧
      set.highs[peg]? = some high ∧ set.lows[peg]? = some low) ∧
    ∀ peg number high low, set.pegs[peg]? = some (number, high, low) →
      (peg < 256 → number.id.toNat = peg) ∧
      (number = PegId.unknown ↔ 255 ≤ peg) ∧
      ∀ other same otherHigh otherLow, set.pegs[other]? = some (same, otherHigh, otherLow) →
        (number = same ↔ peg = other ∨ (255 ≤ peg ∧ 255 ≤ other)) := by
  refine ⟨set.length_pegs, ?_, ?_⟩
  · intro peg hpeg
    obtain ⟨high, low, hhigh, hlow⟩ := set.exists_readings hpeg
    exact ⟨_, high, low, set.getElem?_pegs hhigh hlow, hhigh, hlow⟩
  · intro peg number high low hnumber
    rw [set.number_of_pegs hnumber]
    refine ⟨PegId.ofIndex_of_lt, PegId.ofIndex_eq_unknown_iff, ?_⟩
    intro other same otherHigh otherLow hsame
    rw [set.number_of_pegs hsame]
    exact PegId.ofIndex_eq_iff

/-- A position that fits a byte shares its number with one that does not: of 257 pegs the last two
both have the placeholder. -/
theorem last_byte_shared :
    ∃ set, ReadingSet.ofLists (List.replicate 257 10) (List.replicate 257 1) = .ok set ∧
      255 < 256 ∧
      set.pegs[255]? = some (PegId.unknown, 10, 1) ∧
      set.pegs[256]? = some (PegId.unknown, 10, 1) := by
  have hpaired : pairingFault? (List.replicate 257 10) (List.replicate 257 1) = none := by
    rw [pairingFault?_eq_none_iff]
    refine ⟨List.replicate_succ_ne_nil, by rw [List.length_replicate, List.length_replicate],
      ?_, ?_⟩
    · intro reading hreading
      rw [List.eq_of_mem_replicate hreading]
      decide
    · intro reading hreading
      rw [List.eq_of_mem_replicate hreading]
      decide
  refine ⟨_, ReadingSet.ofLists_of_paired hpaired, by decide, ?_, ?_⟩
  · exact ReadingSet.getElem?_pegs _ (List.getElem?_replicate_of_lt (by decide))
      (List.getElem?_replicate_of_lt (by decide))
  · exact ReadingSet.getElem?_pegs _ (List.getElem?_replicate_of_lt (by decide))
      (List.getElem?_replicate_of_lt (by decide))

end PegBox
