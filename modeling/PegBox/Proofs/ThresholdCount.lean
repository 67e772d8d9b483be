/-
**Thresholds are as many as the pegs.**

Thresholds come about in four ways: from a list of words, from a structured value, from midpoints
and from a payload.  The first two look at the number of words, before or after these are put into a
row with room for one word for each peg; the other two check the length of their input and then fill
the row in a loop that does not look at refusals, as does the loop that writes a payload.  This
module shows that each way gives one threshold for each peg, in order, and that no row in any of the
loops ever refuses anything: had a loop looked at the answers, it would have gone on to the same
row.

Main definitions:

* `PegBox.CountsPegs` — **an answer that counts the words** and keeps all of them;
* `PegBox.HoldsThresholds` — a structured value that holds words under the name of thresholds.

Main results:

* `PegBox.Row.foldlM_extend?` — a loop of extensions that fit is refused nothing;
* `PegBox.storeFrom_eq_foldl` — the loop that stores midpoints is a loop of pushes;
* `PegBox.Thresholds.countsPegs_ofList`, `PegBox.Thresholds.countsPegs_ofDatum` — words are counted,
  wherever they come from;
* `PegBox.one_threshold_per_peg` — **thresholds are as many as the pegs**.
-/

import PegBox.Proofs.CaptureForms
import PegBox.Proofs.PayloadCodec
import PegBox.Proofs.Storing

set_option autoImplicit false

namespace PegBox

/-! ### Loops that look at refusals -/

namespace Row

variable {α β : Type} {room : Nat}

theorem extend?_of_le {row : Row α room} {more : List α}
    (h : row.items.length + more.length ≤ room) : row.extend? more = some (row.extend more) := by
  rw [extend, extend?, dif_pos h]
  rfl

/-- A loop of extensions that fit is refused nothing, and ends where the loop ends that does not
look. -/
theorem foldlM_extend? (f : β → List α) (inputs : List β) (row : Row α room)
    (h : row.items.length + (inputs.flatMap f).length ≤ room) :
    inputs.foldlM (fun row input => row.extend? (f input)) row =
      some (inputs.foldl (fun row input => row.extend (f input)) row) := by
  induction inputs generalizing row with
  | nil => rfl
  | cons input inputs ih =>
      rw [List.flatMap_cons, List.length_append] at h
      have hnow : row.items.length + (f input).length ≤ room := by omega
      have hlater : (row.extend (f input)).items.length + (inputs.flatMap f).length ≤ room := by
        rw [items_extend hnow, List.length_append]
        omega
      rw [List.foldlM_cons, extend?_of_le hnow, List.foldl_cons]
      exact ih _ hlater

theorem foldlM_push? (items : List α) (h : items.length ≤ room) :
    items.foldlM push? (empty : Row α room) = some (items.foldl push empty) := by
  refine foldlM_extend? (fun item => [item]) items empty ?_
  rwa [List.flatMap_singleton', items_empty, List.length_nil, Nat.zero_add]

end Row

/-- The loop that stores midpoints is a loop of pushes of their thresholds. -/
theorem storeFrom_eq_foldl {mids : List Float} (peg : Nat) (row : Row UInt16 pegCount)
    (h : ∀ mid ∈ mids, Storable mid) :
    storeFrom peg row mids = .ok ((mids.map storedWord).foldl Row.push row) := by
  induction mids generalizing peg row with
  | nil => rfl
  | cons mid rest ih =>
      rw [List.forall_mem_cons] at h
      rw [storeFrom, thresholdOfMidpoint_of_storable peg h.1]
      exact ih (peg + 1) (row.push (storedWord mid)) h.2

/-- A threshold stands where its midpoint stands. -/
theorem getElem?_thresholdsFrom {mids : List Float} {start : Nat} {words : List UInt16}
    (h : thresholdsFrom start mids = .ok words) {peg : Nat} {mid : Float}
    (hmid : mids[peg]? = some mid) :
    ∃ word, words[peg]? = some word ∧ thresholdOfMidpoint (start + peg) mid = .ok word := by
  obtain ⟨hstorable, rfl⟩ := thresholdsFrom_eq_ok_iff.1 h
  refine ⟨storedWord mid, ?_, ?_⟩
  · rw [List.getElem?_map, hmid, Option.map_some]
  · exact thresholdOfMidpoint_of_storable _ (hstorable mid (List.mem_of_getElem? hmid))

/-! ### Words that are counted -/

/-- **An answer that counts the words**: thresholds are given exactly for one word for each peg, and
they are these words; otherwise the refusal says how many there are. -/
structure CountsPegs {ε : Type} (words : List UInt16) (answer : Except ε Thresholds)
    (refusal : ReportError → ε) : Prop where
  accepted_iff : (∃ thresholds, answer = .ok thresholds) ↔ words.length = 6
  kept : ∀ thresholds, answer = .ok thresholds → thresholds.values = words
  refused : words.length ≠ 6 → answer = .error (refusal (.pegCountMismatch 6 words.length))

theorem CountsPegs.of_cases {ε : Type} {words : List UInt16} {answer : Except ε Thresholds}
    {refusal : ReportError → ε} (hok : ∀ h : words.length = pegCount, answer = .ok ⟨words, h⟩)
    (herror : words.length ≠ pegCount →
      answer = .error (refusal (.pegCountMismatch pegCount words.length))) :
    CountsPegs words answer refusal := by
  by_cases h : words.length = pegCount
  · rw [hok h]
    refine ⟨iff_of_true ⟨_, rfl⟩ h, ?_, fun hne => absurd h hne⟩
    rintro thresholds ⟨⟩
    rfl
  · rw [herror h]
    refine ⟨iff_of_false (by simp) h, ?_, fun _ => rfl⟩
    rintro thresholds ⟨⟩

namespace Thresholds

theorem ofList_of_length {words : List UInt16} (h : words.length = pegCount) :
    ofList words = .ok ⟨words, h⟩ := by
  rw [ofList, Row.ofList?_of_le (Nat.le_of_eq h)]
  exact dif_pos h

theorem ofList_of_length_ne {words : List UInt16} (h : words.length ≠ pegCount) :
    ofList words = .error (.pegCountMismatch pegCount words.length) := by
  rw [ofList]
  -- too many words do not fit the row, and too few are counted in it
  rcases Nat.lt_or_ge pegCount words.length with hmany | hfit
  · rw [Row.ofList?_of_lt hmany]
  · rw [Row.ofList?_of_le hfit]
    exact dif_neg h

theorem countsPegs_ofList (words : List UInt16) : CountsPegs words (ofList words) id :=
  .of_cases ofList_of_length ofList_of_length_ne

end Thresholds

/-! ### Structured values that hold words -/

namespace Datum

theorem toWord_eq_ok_iff {item : Datum} {word : UInt16} :
    item.toWord = .ok word ↔ item = .integer word.toNat := by
  constructor
  · intro h
    cases item with
    | integer value =>
        rw [toWord] at h
        split at h
        · next hrange =>
          cases h
          rw [UInt16.toNat_ofNat_of_lt' (by rw [UInt16.size]; omega), Int.toNat_of_nonneg hrange.1]
        · cases h
    | _ => cases h
  · rintro rfl
    have hword := word.toNat_lt
    rw [toWord, if_pos (by omega), Int.toNat_natCast, UInt16.ofNat_toNat]

/-- A list of words, however it is written. -/
def HoldsWords (form : Datum) (words : List UInt16) : Prop :=
  form.items? = some (words.map fun word => .integer word.toNat)

theorem toList_toWord_of_holdsWords {form : Datum} {words : List UInt16}
    (h : form.HoldsWords words) : toList toWord form = .ok words := by
  rw [toList, h]
  dsimp only
  rw [readItems_eq_ok_iff, List.forall₂_map_left_iff, List.forall₂_same]
  intro word _
  exact toWord_eq_ok_iff.2 rfl

/-- A record that is not strict passes over the entries that it does not know. -/
theorem readEntries_append_of_unknown {α : Type} {record : Record}
    {readField : String → Datum → Except Fault α} {done : List String}
    (hloose : record.strict = false) {unknown : List (String × Datum)}
    (hunknown : ∀ entry ∈ unknown, entry.1 ∉ record.fields) (rest : List (String × Datum)) :
    record.readEntries readField done (unknown ++ rest) =
      record.readEntries readField done rest := by
  induction unknown with
  | nil => rfl
  | cons entry unknown ih =>
      rw [List.forall_mem_cons] at hunknown
      obtain ⟨name, item⟩ := entry
      rw [List.cons_append, Record.readEntries, if_neg hunknown.1, hloose,
        if_neg Bool.false_ne_true, ih hunknown.2]

end Datum

/-- **A structured value that holds words under the name of thresholds**: a mapping that has one
entry of this name, among others or not, or a list of this one item. -/
inductive HoldsThresholds (words : List UInt16) : Datum → Prop where
  | named {before after : List (String × Datum)} {form : Datum} (hform : form.HoldsWords words)
      (hbefore : ∀ entry ∈ before, entry.1 ≠ "values")
      (hafter : ∀ entry ∈ after, entry.1 ≠ "values") :
      HoldsThresholds words (.mapping (before ++ ("values", form) :: after))
  | positional {document form : Datum} (hform : form.HoldsWords words)
      (hitems : document.items? = some [form]) : HoldsThresholds words document

/-- Every list of words has such a value. -/
theorem holdsThresholds_mapping (words : List UInt16) :
    HoldsThresholds words
      (.mapping [("values", .sequence (words.map fun word => .integer word.toNat))]) := by
  have hform : (Datum.sequence (words.map fun word => .integer word.toNat)).HoldsWords words := rfl
  have hothers : ∀ entry ∈ ([] : List (String × Datum)), entry.1 ≠ "values" :=
    fun _ hentry => absurd hentry List.not_mem_nil
  exact .named hform hothers hothers

namespace Thresholds

/-- The fields that are read from a value that holds words. -/
theorem read_of_holdsThresholds {words : List UInt16} {document : Datum}
    (h : HoldsThresholds words document) :
    record.read (fun _ => Datum.toList Datum.toWord) document = .ok [("values", words)] := by
  have hknown : "values" ∈ record.fields := List.mem_cons_self
  have hunknown : ∀ entries : List (String × Datum), (∀ entry ∈ entries, entry.1 ≠ "values") →
      ∀ entry ∈ entries, entry.1 ∉ record.fields := by
    intro entries hentries entry hentry hname
    exact hentries entry hentry (List.mem_singleton.1 hname)
  cases h with
  | @named before after form hform hbefore hafter =>
      have hrest : record.readEntries (fun _ => Datum.toList Datum.toWord) ["values"] after =
          .ok [] := by
        rw [← List.append_nil after]
        exact Datum.readEntries_append_of_unknown rfl (hunknown after hafter) []
      rw [Datum.Record.read, Datum.readEntries_append_of_unknown rfl (hunknown before hbefore),
        Datum.Record.readEntries, if_pos hknown, if_neg List.not_mem_nil,
        Datum.toList_toWord_of_holdsWords hform, hrest]
  | @positional _ form hform hitems =>
      have hread := Datum.toList_toWord_of_holdsWords hform
      have hpositions : record.readPositions (fun _ => Datum.toList Datum.toWord) 1 0
          record.fields [form] = .ok [("values", words)] := by
        rw [show record.fields = ["values"] from rfl, Datum.Record.readPositions, hread]
        rfl
      cases document <;> cases hitems <;> exact hpositions

/-- Words that are held are counted like words that are given. -/
theorem ofDatum_of_holdsThresholds {words : List UInt16} {document : Datum}
    (h : HoldsThresholds words document) :
    ofDatum document = (ofList words).mapError .refused := by
  have hrequired : Datum.required "values" [("values", words)] = .ok words := rfl
  rw [ofDatum, read_of_holdsThresholds h]
  dsimp only
  rw [hrequired]
  cases hlist : ofList words <;> simp [hlist, Except.mapError]

theorem countsPegs_ofDatum {words : List UInt16} {document : Datum}
    (h : HoldsThresholds words document) :
    CountsPegs words (ofDatum document) Datum.Fault.refused := by
  rw [ofDatum_of_holdsThresholds h]
  refine .of_cases ?_ ?_
  · intro hlength
    rw [ofList_of_length hlength]
    rfl
  · intro hlength
    rw [ofList_of_length_ne hlength]
    rfl

/-! ### Thresholds that are filled in by a loop -/

/-- The words of a payload stand where their bytes stand. -/
theorem getElem?_values_ofPayload {bytes : List UInt8} {thresholds : Thresholds}
    (h : ofPayload bytes = .ok thresholds) {peg : Nat} (hpeg : peg < 6) :
    ∃ low high, bytes[2 * peg]? = some low ∧ bytes[2 * peg + 1]? = some high ∧
      thresholds.values[peg]? = some (wordOfBytes low high) := by
  have hvalues : peg < thresholds.values.length := by
    rw [thresholds.length_values]
    exact hpeg
  obtain ⟨hlow, hhigh⟩ := thresholds.getElem?_payload hvalues
  rw [payload_of_ofPayload h] at hlow hhigh
  refine ⟨_, _, hlow, hhigh, ?_⟩
  rw [wordOfBytes_lowByte_highByte, List.getElem?_eq_getElem hvalues]

/-- As far as a list of midpoints is read, all thresholds are stored. -/
theorem stored_of_isPrefix {mids before : List Float} (hlength : mids.length = pegCount)
    (hbefore : before <+: mids) {words : List UInt16}
    (hwords : thresholdsFrom 0 before = .ok words) :
    ∃ row, words.foldlM Row.push? (.empty : Row UInt16 pegCount) = some row ∧
      storeFrom 0 .empty before = .ok row := by
  have hroom : words.length ≤ pegCount := by
    rw [length_thresholdsFrom hwords, ← hlength]
    exact hbefore.length_le
  obtain ⟨hstorable, rfl⟩ := thresholdsFrom_eq_ok_iff.1 hwords
  exact ⟨_, Row.foldlM_push? _ hroom, storeFrom_eq_foldl 0 .empty hstorable⟩

/-- All words of a payload are stored. -/
theorem stored_of_ofPayload {bytes : List UInt8} {thresholds : Thresholds}
    (h : ofPayload bytes = .ok thresholds) :
    ∃ row, (wordsOfBytes bytes).foldlM Row.push? (.empty : Row UInt16 pegCount) = some row ∧
      row.items = thresholds.values := by
  have hlength := length_of_ofPayload h
  have hroom : (wordsOfBytes bytes).length ≤ pegCount := by
    rw [length_wordsOfBytes, hlength]
    exact Nat.le_refl _
  refine ⟨_, Row.foldlM_push? _ hroom, ?_⟩
  rw [ofPayload, dif_pos hlength] at h
  cases h
  rfl

/-- All bytes of a payload are written. -/
theorem written_payload (thresholds : Thresholds) :
    ∃ row, thresholds.values.foldlM (fun row word => row.extend? [lowByte word, highByte word])
        (.empty : Row UInt8 payloadSize) = some row ∧ row.items = thresholds.payload := by
  refine ⟨_, Row.foldlM_extend? _ thresholds.values .empty ?_, rfl⟩
  rw [Row.items_empty, length_wordBytes, thresholds.length_values]
  decide

end Thresholds

/-- **Thresholds are as many as the pegs.**  Words, given as a list or held by a structured value,
become thresholds exactly where there is one for each peg; they are kept in order, and any other
number of them, too small or too large for the row, is refused with that number.  Midpoints and
payloads give one threshold for each peg, made of the midpoint or of the two bytes at its place.
And the loops that do not look at refusals are never refused anything: to look at each answer would
lead to the same row, for midpoints as far as they are read. -/
theorem one_threshold_per_peg :
    (∀ words : List UInt16, CountsPegs words (Thresholds.ofList words) id) ∧
    (∀ words : List UInt16,
      HoldsThresholds words
        (.mapping [("values", .sequence (words.map fun word => .integer word.toNat))]) ∧
      ∀ document, HoldsThresholds words document →
        CountsPegs words (Thresholds.ofDatum document) Datum.Fault.refused) ∧
    (∀ mids thresholds, Thresholds.ofMidpoints mids = .ok thresholds →
      thresholds.values.length = 6 ∧ mids.length = 6 ∧
      ∀ peg mid, mids[peg]? = some mid → ∃ word, thresholds.values[peg]? = some word ∧
        thresholdOfMidpoint peg mid = .ok word) ∧
    (∀ bytes thresholds, Thresholds.ofPayload bytes = .ok thresholds →
      thresholds.values.length = 6 ∧
      ∀ peg < 6, ∃ low high, bytes[2 * peg]? = some low ∧ bytes[2 * peg + 1]? = some high ∧
        thresholds.values[peg]? = some (wordOfBytes low high)) ∧
    (∀ mids before : List Float, mids.length = 6 → before <+: mids →
      ∀ words, thresholdsFrom 0 before = .ok words →
        ∃ row, words.foldlM Row.push? (.empty : Row UInt16 pegCount) = some row ∧
          storeFrom 0 .empty before = .ok row) ∧
    (∀ bytes thresholds, Thresholds.ofPayload bytes = .ok thresholds →
      ∃ row, (wordsOfBytes bytes).foldlM Row.push? (.empty : Row UInt16 pegCount) = some row ∧
        row.items = thresholds.values) ∧
    ∀ thresholds : Thresholds, ∃ row,
      thresholds.values.foldlM (fun row word => row.extend? [lowByte word, highByte word])
        (.empty : Row UInt8 payloadSize) = some row ∧ row.items = thresholds.payload := by
  refine ⟨Thresholds.countsPegs_ofList, ?_, ?_, ?_, ?_, ?_, Thresholds.written_payload⟩
  · intro words
    refine ⟨holdsThresholds_mapping words, ?_⟩
    intro document hdocument
    exact Thresholds.countsPegs_ofDatum hdocument
  · intro mids thresholds hmids
    have hwords := Thresholds.thresholdsFrom_of_ofMidpoints hmids
    refine ⟨thresholds.length_values, ?_, ?_⟩
    · rw [← length_thresholdsFrom hwords, thresholds.length_values]
      rfl
    · intro peg mid hmid
      obtain ⟨word, hword, hthreshold⟩ := getElem?_thresholdsFrom hwords hmid
      rw [Nat.zero_add] at hthreshold
      exact ⟨word, hword, hthreshold⟩
  · intro bytes thresholds hbytes
    exact ⟨thresholds.length_values, fun peg => Thresholds.getElem?_values_ofPayload hbytes⟩
  · intro mids before hlength hbefore words hwords
    exact Thresholds.stored_of_isPrefix hlength hbefore hwords
  · intro bytes thresholds hbytes
    exact Thresholds.stored_of_ofPayload hbytes

end PegBox
