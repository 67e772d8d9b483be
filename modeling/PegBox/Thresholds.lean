/-
**Thresholds and the report that carries them.**

The box keeps one threshold per peg, each in a 16-bit word.  The host writes them in one feature
report: six words, the low byte of each first.  This module turns midpoints into thresholds, refuses
what does not fit, and converts thresholds to the payload of the report and back.

Main definitions:

* `PegBox.ReportError` — why thresholds or a payload are refused;
* `PegBox.thresholdOfMidpoint` — the threshold of one midpoint;
* `PegBox.thresholdsFrom` — the thresholds of a list of midpoints, the first offender named;
* `PegBox.storeFrom` — the loop that stores these thresholds in a row with room for one per peg;
* `PegBox.Thresholds` — **one threshold per peg of the box**;
* `PegBox.Thresholds.ofList`, `PegBox.Thresholds.ofMidpoints` — thresholds of words, of midpoints;
* `PegBox.Thresholds.payload`, `PegBox.Thresholds.ofPayload` — the payload of the report, and the
  thresholds that a payload carries.

Main results:

* `PegBox.length_thresholdsFrom` — one threshold for each midpoint;
* `PegBox.items_storeFrom` — while there is room, the loop stores all of them and fails as they do;
* `PegBox.Thresholds.payload_eq_flatMap`, `PegBox.Thresholds.length_payload` — a payload is the
  bytes of all thresholds, twelve of them.
-/

import PegBox.Binary64
import PegBox.PegId
import PegBox.Row

set_option autoImplicit false

namespace PegBox

/-! ### The report -/

/-- The number of the feature report that carries the thresholds. -/
def reportId : UInt8 := 71

/-- The payload of the report has two bytes for each peg. -/
def payloadSize : Nat := pegCount * 2

/-- Why thresholds or a payload are refused. -/
inductive ReportError where
  | pegCountMismatch (expected actual : Nat)
  /-- The truncated midpoint of a peg does not fit a 16-bit word. -/
  | thresholdOutOfRange (peg : Nat) (value : Int)
  | payloadLength (expected actual : Nat)
  deriving DecidableEq, Repr

/-- What the operator is told about a refusal. -/
def ReportError.message : ReportError → String
  | .pegCountMismatch expected actual =>
    "expected " ++ toString expected ++ " peg thresholds, got " ++ toString actual
  | .thresholdOutOfRange peg value =>
    "threshold for peg " ++ toString peg ++ " is " ++ toString value ++ ", outside 0..=65535"
  | .payloadLength expected actual =>
    "payload is " ++ toString actual ++ " bytes, expected " ++ toString expected

/-! ### Thresholds of midpoints -/

/-- The threshold of a midpoint: its whole part, where a 16-bit word can hold it.  The position of
the peg is named in the refusal. -/
def thresholdOfMidpoint (peg : Nat) (mid : Float) : Except ReportError UInt16 :=
  let value := Binary64.truncate mid
  if 0 ≤ value ∧ value < 65536 then .ok (UInt16.ofNat value.toNat)
  else .error (.thresholdOutOfRange peg value)

/-- The thresholds of the midpoints at the positions from `peg` on; the first midpoint that does not
fit is the one refused. -/
def thresholdsFrom (peg : Nat) : List Float → Except ReportError (List UInt16)
  | [] => .ok []
  | mid :: rest =>
    match thresholdOfMidpoint peg mid with
    | .error refusal => .error refusal
    | .ok threshold =>
      match thresholdsFrom (peg + 1) rest with
      | .error refusal => .error refusal
      | .ok thresholds => .ok (threshold :: thresholds)

/-- One threshold for each midpoint. -/
theorem length_thresholdsFrom {peg : Nat} {mids : List Float} {thresholds : List UInt16}
    (h : thresholdsFrom peg mids = .ok thresholds) : thresholds.length = mids.length := by
  induction mids generalizing peg thresholds with
  | nil =>
    simp only [thresholdsFrom, Except.ok.injEq] at h
    simp [← h]
  | cons mid rest ih =>
    simp only [thresholdsFrom] at h
    split at h
    · simp at h
    · split at h
      · simp at h
      · next htail =>
        simp only [Except.ok.injEq] at h
        simp [← h, ih htail]

/-- Stores the thresholds of the midpoints at the positions from `peg` on behind those of a row.
The first midpoint that does not fit ends the loop; a row without room is not looked out for. -/
def storeFrom (peg : Nat) (row : Row UInt16 pegCount) :
    List Float → Except ReportError (Row UInt16 pegCount)
  | [] => .ok row
  | mid :: rest =>
    match thresholdOfMidpoint peg mid with
    | .error refusal => .error refusal
    | .ok threshold => storeFrom (peg + 1) (row.push threshold) rest

/-- While there is room, the loop stores all thresholds and fails as they do. -/
theorem items_storeFrom (mids : List Float) (peg : Nat) (row : Row UInt16 pegCount)
    (h : row.items.length + mids.length ≤ pegCount) :
    (storeFrom peg row mids).map Row.items = (thresholdsFrom peg mids).map (row.items ++ ·) := by
  induction mids generalizing peg row with
  | nil => simp [storeFrom, thresholdsFrom, Except.map]
  | cons mid rest ih =>
    rw [List.length_cons] at h
    rw [storeFrom, thresholdsFrom]
    cases thresholdOfMidpoint peg mid with
    | error refusal => rfl
    | ok threshold =>
      have hpush : (row.push threshold).items = row.items ++ [threshold] :=
        Row.items_push (by omega)
      have hrest := ih (peg + 1) (row.push threshold)
        (by rw [hpush, List.length_append, List.length_singleton]; omega)
      dsimp only
      rw [hrest, hpush]
      cases thresholdsFrom (peg + 1) rest <;> simp [Except.map]

theorem length_storeFrom {mids : List Float} {row : Row UInt16 pegCount}
    (h : mids.length = pegCount) (hrow : storeFrom 0 .empty mids = .ok row) :
    row.items.length = pegCount := by
  have hitems := items_storeFrom mids 0 .empty (by simp [h])
  rw [hrow] at hitems
  cases hvalues : thresholdsFrom 0 mids with
  | error refusal => simp [hvalues, Except.map] at hitems
  | ok values =>
    simp only [hvalues, Except.map, Row.items_empty, List.nil_append, Except.ok.injEq] at hitems
    rw [hitems, length_thresholdsFrom hvalues, h]

/-! ### Words and bytes -/

/-- The low byte of a word. -/
def lowByte (word : UInt16) : UInt8 := UInt8.ofNat (word.toNat % 256)

/-- The high byte of a word. -/
def highByte (word : UInt16) : UInt8 := UInt8.ofNat (word.toNat / 256)

/-- The word with the given low and high byte. -/
def wordOfBytes (low high : UInt8) : UInt16 := UInt16.ofNat (low.toNat + 256 * high.toNat)

theorem toNat_lowByte (word : UInt16) : (lowByte word).toNat = word.toNat % 256 := by
  rw [lowByte, UInt8.toNat_ofNat_of_lt' (by rw [UInt8.size]; omega)]

theorem toNat_highByte (word : UInt16) : (highByte word).toNat = word.toNat / 256 := by
  have hword := word.toNat_lt
  rw [highByte, UInt8.toNat_ofNat_of_lt' (by rw [UInt8.size]; omega)]

theorem toNat_wordOfBytes (low high : UInt8) :
    (wordOfBytes low high).toNat = low.toNat + 256 * high.toNat := by
  have hlow := low.toNat_lt
  have hhigh := high.toNat_lt
  rw [wordOfBytes, UInt16.toNat_ofNat_of_lt' (by rw [UInt16.size]; omega)]

/-- The words that a row of bytes carries, two bytes each and the low byte first; a last byte
without a partner carries none. -/
def wordsOfBytes : List UInt8 → List UInt16
  | low :: high :: rest => wordOfBytes low high :: wordsOfBytes rest
  | _ => []

theorem length_wordsOfBytes (bytes : List UInt8) :
    (wordsOfBytes bytes).length = bytes.length / 2 := by
  fun_induction wordsOfBytes bytes with
  | case1 low high rest ih =>
    simp only [List.length_cons, ih]
    omega
  | case2 bytes h =>
    match bytes, h with
    | [], _ => rfl
    | [_], _ => simp
    | low :: high :: rest, h => exact absurd rfl (h low high rest)

/-! ### Thresholds of the box -/

/-- **One threshold for each peg of the box.** -/
structure Thresholds where
  values : List UInt16
  length_values : values.length = pegCount
  deriving DecidableEq

namespace Thresholds

/-- Thresholds of a list of words: it has to fit the row, and then it has to hold one word for each
peg. -/
def ofList (values : List UInt16) : Except ReportError Thresholds :=
  match (Row.ofList? values : Option (Row UInt16 pegCount)) with
  | none => .error (.pegCountMismatch pegCount values.length)
  | some row =>
    if h : row.items.length = pegCount then .ok ⟨row.items, h⟩
    else .error (.pegCountMismatch pegCount values.length)

/-- Thresholds of a list of midpoints: the number of pegs is looked at first, then the midpoints in
order. -/
def ofMidpoints (mids : List Float) : Except ReportError Thresholds :=
  if h : mids.length = pegCount then
    match hrow : storeFrom 0 .empty mids with
    | .error refusal => .error refusal
    | .ok row => .ok ⟨row.items, length_storeFrom h hrow⟩
  else .error (.pegCountMismatch pegCount mids.length)

/-- The payload of the report: each threshold in order, its low byte first. -/
def payload (thresholds : Thresholds) : List UInt8 :=
  (thresholds.values.foldl (fun row word => row.extend [lowByte word, highByte word])
    (.empty : Row UInt8 payloadSize)).items

/-- The thresholds that a payload carries. -/
def ofPayload (bytes : List UInt8) : Except ReportError Thresholds :=
  if h : bytes.length = payloadSize then
    .ok ⟨((wordsOfBytes bytes).foldl Row.push (.empty : Row UInt16 pegCount)).items, by
      have hlength : (wordsOfBytes bytes).length = pegCount := by rw [length_wordsOfBytes, h]; rfl
      rw [Row.items_foldl_push _ _ (by simp [hlength])]
      simpa using hlength⟩
  else .error (.payloadLength payloadSize bytes.length)

theorem length_wordBytes (words : List UInt16) :
    (words.flatMap fun word => [lowByte word, highByte word]).length = words.length * 2 := by
  induction words with
  | nil => rfl
  | cons word words ih =>
    simp only [List.flatMap_cons, List.length_append, ih, List.length_cons, List.length_nil]
    omega

/-- A payload is the bytes of all thresholds. -/
theorem payload_eq_flatMap (thresholds : Thresholds) :
    thresholds.payload = thresholds.values.flatMap fun word => [lowByte word, highByte word] := by
  have hfits := length_wordBytes thresholds.values
  rw [thresholds.length_values] at hfits
  rw [payload, Row.items_foldl_extend (fun word => [lowByte word, highByte word])]
  · rfl
  · rw [hfits, Row.items_empty]
    decide

/-- A payload has twelve bytes. -/
theorem length_payload (thresholds : Thresholds) : thresholds.payload.length = payloadSize := by
  rw [payload_eq_flatMap, length_wordBytes, thresholds.length_values, payloadSize]

end Thresholds

end PegBox
