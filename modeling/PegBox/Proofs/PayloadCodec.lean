/-
**The payload of the report carries the thresholds, byte for byte.**

The host writes thresholds as a payload and reads them back from one.  Both ways go through rows
with limited room and do not look at what the rows refuse, so nothing in the code itself says that
no byte is lost.  This module shows it: a word is its two bytes, a list of words is its bytes two by
two, and as the box has six pegs both rows have room for all of it.  Writing and reading therefore
undo each other, and a payload of any other length is refused.

Main definitions:

* `PegBox.bytesOfWords` — the bytes of words, two each and the low one first.

Main results:

* `PegBox.wordsOfBytes_bytesOfWords`, `PegBox.bytesOfWords_wordsOfBytes` — words and pairs of bytes
  are the same;
* `PegBox.getElem?_bytesOfWords` — where the bytes of a word stand;
* `PegBox.Thresholds.ofPayload_payload`, `PegBox.Thresholds.payload_of_ofPayload` — reading undoes
  writing, and writing undoes reading;
* `PegBox.payload_codec` — **the codec of the payload**.
-/

import PegBox.Thresholds

set_option autoImplicit false

namespace PegBox

/-! ### Words and pairs of bytes -/

/-- A word is made of its two bytes. -/
theorem wordOfBytes_lowByte_highByte (word : UInt16) :
    wordOfBytes (lowByte word) (highByte word) = word := by
  rw [← UInt16.toNat_inj, toNat_wordOfBytes, toNat_lowByte, toNat_highByte]
  omega

theorem lowByte_wordOfBytes (low high : UInt8) : lowByte (wordOfBytes low high) = low := by
  have hlow := low.toNat_lt
  rw [← UInt8.toNat_inj, toNat_lowByte, toNat_wordOfBytes]
  omega

theorem highByte_wordOfBytes (low high : UInt8) : highByte (wordOfBytes low high) = high := by
  have hlow := low.toNat_lt
  rw [← UInt8.toNat_inj, toNat_highByte, toNat_wordOfBytes]
  omega

/-- The bytes of words, two each and the low one first. -/
def bytesOfWords (words : List UInt16) : List UInt8 :=
  words.flatMap fun word => [lowByte word, highByte word]

@[simp]
theorem bytesOfWords_nil : bytesOfWords [] = [] := rfl

@[simp]
theorem bytesOfWords_cons (word : UInt16) (words : List UInt16) :
    bytesOfWords (word :: words) = lowByte word :: highByte word :: bytesOfWords words := rfl

/-- Pairing up the bytes of words gives the words. -/
theorem wordsOfBytes_bytesOfWords (words : List UInt16) :
    wordsOfBytes (bytesOfWords words) = words := by
  induction words with
  | nil => rfl
  | cons word words ih =>
      rw [bytesOfWords_cons, wordsOfBytes, wordOfBytes_lowByte_highByte, ih]

/-- Bytes that pair up are the bytes of their words; a last byte without a partner would be lost. -/
theorem bytesOfWords_wordsOfBytes {bytes : List UInt8} (h : 2 ∣ bytes.length) :
    bytesOfWords (wordsOfBytes bytes) = bytes := by
  fun_induction wordsOfBytes bytes with
  | case1 low high rest ih =>
      have hrest : 2 ∣ rest.length := by
        simp only [List.length_cons] at h
        omega
      rw [bytesOfWords_cons, lowByte_wordOfBytes, highByte_wordOfBytes, ih hrest]
  | case2 bytes hpair =>
      rcases bytes with _ | ⟨low, _ | ⟨high, rest⟩⟩
      · rfl
      · rw [List.length_singleton] at h
        omega
      · exact absurd rfl (hpair low high rest)

/-- The low byte of a word stands before its high byte, behind the bytes of the earlier words. -/
theorem getElem?_bytesOfWords (words : List UInt16) (index : Nat) :
    (bytesOfWords words)[2 * index]? = words[index]?.map lowByte ∧
      (bytesOfWords words)[2 * index + 1]? = words[index]?.map highByte := by
  induction words generalizing index with
  | nil => exact ⟨rfl, rfl⟩
  | cons word words ih =>
      cases index with
      | zero => exact ⟨rfl, rfl⟩
      | succ index =>
          simp only [Nat.mul_succ, bytesOfWords_cons, List.getElem?_cons_succ]
          exact ih index

/-! ### Thresholds and payloads -/

namespace Thresholds

theorem payload_eq_bytesOfWords (thresholds : Thresholds) :
    thresholds.payload = bytesOfWords thresholds.values :=
  thresholds.payload_eq_flatMap

/-- A payload of the right length carries its words, all of them. -/
theorem ofPayload_of_length {bytes : List UInt8} (h : bytes.length = payloadSize) :
    ∃ thresholds, ofPayload bytes = .ok thresholds ∧ thresholds.values = wordsOfBytes bytes := by
  have hwords : (wordsOfBytes bytes).length = pegCount := by
    rw [length_wordsOfBytes, h]
    rfl
  rw [ofPayload, dif_pos h]
  refine ⟨_, rfl, ?_⟩
  -- there is one word for each peg, so the row has room for all of them
  have hroom : (Row.empty : Row UInt16 pegCount).items.length + (wordsOfBytes bytes).length ≤
      pegCount := by
    rw [hwords, Row.items_empty]
    exact Nat.le_refl _
  exact Row.items_foldl_push _ _ hroom

/-- Any other length is refused. -/
theorem ofPayload_of_length_ne {bytes : List UInt8} (h : bytes.length ≠ payloadSize) :
    ofPayload bytes = .error (.payloadLength payloadSize bytes.length) := by
  rw [ofPayload, dif_neg h]

theorem length_of_ofPayload {bytes : List UInt8} {thresholds : Thresholds}
    (h : ofPayload bytes = .ok thresholds) : bytes.length = payloadSize := by
  by_cases hlength : bytes.length = payloadSize
  · exact hlength
  · rw [ofPayload_of_length_ne hlength] at h
    cases h

/-- Reading undoes writing. -/
theorem ofPayload_payload (thresholds : Thresholds) :
    ofPayload thresholds.payload = .ok thresholds := by
  obtain ⟨read, hread, hvalues⟩ := ofPayload_of_length thresholds.length_payload
  rw [payload_eq_bytesOfWords, wordsOfBytes_bytesOfWords] at hvalues
  have hsame : read = thresholds := by
    cases read
    cases thresholds
    cases hvalues
    rfl
  rw [hread, hsame]

/-- Writing undoes reading. -/
theorem payload_of_ofPayload {bytes : List UInt8} {thresholds : Thresholds}
    (h : ofPayload bytes = .ok thresholds) : thresholds.payload = bytes := by
  have hlength := length_of_ofPayload h
  obtain ⟨read, hread, hvalues⟩ := ofPayload_of_length hlength
  rw [hread] at h
  cases h
  have hpairs : 2 ∣ bytes.length := by
    rw [hlength]
    exact Nat.dvd_mul_left 2 pegCount
  rw [payload_eq_bytesOfWords, hvalues, bytesOfWords_wordsOfBytes hpairs]

/-- The bytes of a threshold stand at their places in the payload, the low one first. -/
theorem getElem?_payload (thresholds : Thresholds) {peg : Nat}
    (hpeg : peg < thresholds.values.length) :
    thresholds.payload[2 * peg]? = some (lowByte thresholds.values[peg]) ∧
      thresholds.payload[2 * peg + 1]? = some (highByte thresholds.values[peg]) := by
  have hplaces := getElem?_bytesOfWords thresholds.values peg
  rw [List.getElem?_eq_getElem hpeg] at hplaces
  rw [payload_eq_bytesOfWords]
  exact hplaces

end Thresholds

/-- **The codec of the payload.**  Thresholds, wherever they come from, are written as twelve bytes,
in which each threshold has its place and its low byte comes first; reading these bytes gives the
thresholds back.  Bytes are read exactly where there are twelve of them, and are then what is
written for the thresholds that were read; any other number of bytes is refused with that number. -/
theorem payload_codec (thresholds : Thresholds) (bytes : List UInt8) :
    (thresholds.payload.length = 12 ∧ thresholds.values.length = 6 ∧
      (∀ (peg : Nat) (hpeg : peg < thresholds.values.length), ∃ low high : UInt8,
        thresholds.payload[2 * peg]? = some low ∧
          thresholds.payload[2 * peg + 1]? = some high ∧
          thresholds.values[peg].toNat = low.toNat + 256 * high.toNat) ∧
      Thresholds.ofPayload thresholds.payload = .ok thresholds) ∧
    ((∃ read, Thresholds.ofPayload bytes = .ok read) ↔ bytes.length = 12) ∧
    (∀ read, Thresholds.ofPayload bytes = .ok read → read.payload = bytes) ∧
    (bytes.length ≠ 12 →
      Thresholds.ofPayload bytes = .error (.payloadLength 12 bytes.length)) := by
  refine ⟨⟨thresholds.length_payload, thresholds.length_values, ?_,
    Thresholds.ofPayload_payload thresholds⟩, ?_, ?_, ?_⟩
  · intro peg hpeg
    obtain ⟨hlow, hhigh⟩ := thresholds.getElem?_payload hpeg
    refine ⟨_, _, hlow, hhigh, ?_⟩
    rw [← toNat_wordOfBytes, wordOfBytes_lowByte_highByte]
  · constructor
    · rintro ⟨read, hread⟩
      exact Thresholds.length_of_ofPayload hread
    · intro hlength
      obtain ⟨read, hread, -⟩ := Thresholds.ofPayload_of_length hlength
      exact ⟨read, hread⟩
  · intro read hread
    exact Thresholds.payload_of_ofPayload hread
  · intro hlength
    exact Thresholds.ofPayload_of_length_ne hlength

end PegBox
