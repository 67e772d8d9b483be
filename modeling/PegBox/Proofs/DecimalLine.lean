/-
**The decimal line can be read back.**

The decimal line shows truncated midpoints with a separator between them, whatever the operator
chose for it: several characters, none of ASCII, or a text like `aa` that overlaps itself.  As long
as the separator holds no digit and no minus sign, a reader who splits the line at the separator
finds one number for each midpoint, each in its one usual spelling.  The reason is that no
occurrence of the separator begins within a number, so that the first one to be found after a number
is the one that was written there.

Main definitions:

* `PegBox.pieces` — the pieces of a text between the occurrences of a separator;
* `PegBox.IsCanonicalDecimal` — **the usual spelling of a number**: no leading zero, and a minus
  sign only before what is not zero.

Main results:

* `PegBox.pieces_intercalate` — a joined text falls into the pieces of which it was joined;
* `PegBox.isCanonicalDecimal_toString` — numbers are shown in their usual spelling;
* `PegBox.map_toInt?_pieces` — the numbers that are read off a line;
* `PegBox.decimalLine_reads_back` — **the decimal line can be read back**.
-/

import Mathlib
import PegBox.Line

set_option autoImplicit false

namespace PegBox

open Binary64

/-! ### Splitting a joined text -/

/-- The pieces of a text between the occurrences of a separator, looked for from the front. -/
def pieces (separator text : String) : List String :=
  (text.split separator).toList.map String.Slice.copy

section Splitting

open String.Slice.Pattern String.Slice.Pattern.Model

variable {separator before after : String} {first : Char} {others : List Char} {s : String.Slice}

theorem exists_pos_splits (h : s.copy = before ++ after) :
    ∃ pos : s.Pos, pos.Splits before after := by
  have hvalid : before.rawEndPos.IsValidForSlice s :=
    String.Pos.Raw.isValidForSlice_iff_exists_append.2 ⟨before, after, h, rfl⟩
  exact ⟨s.pos _ hvalid, h, by simp⟩

/-- No occurrence begins at a character that is not the first of the separator. -/
theorem not_matchesAt_of_ne (hseparator : separator.toList = first :: others) {c : Char}
    (hc : c ≠ first) {pos : s.Pos} (hpos : pos.Splits before (String.singleton c ++ after)) :
    ¬ MatchesAt separator pos := by
  intro hmatch
  obtain ⟨_, behind, hpos'⟩ := ForwardStringSearcher.matchesAt_iff_splits.1 hmatch
  have hchars := congrArg String.toList (hpos.eq_right hpos')
  rw [String.toList_append, String.toList_append, hseparator, String.toList_singleton] at hchars
  exact hc (List.cons.inj hchars).1

/-- The search passes over a text without the first character of the separator. -/
theorem split_skip [StrictPatternModel separator] (hseparator : separator.toList = first :: others)
    {text : List Char} (htext : first ∉ text) {start pos : s.Pos} (hle : start ≤ pos)
    (hpos : pos.Splits before (String.ofList text ++ after)) :
    ∃ (stop : s.Pos) (hstop : start ≤ stop), stop.Splits (before ++ String.ofList text) after ∧
      Model.split separator start pos hle = Model.split separator start stop hstop := by
  induction text generalizing before pos with
  | nil => exact ⟨pos, hle, by simpa using hpos, rfl⟩
  | cons c rest ih =>
      rw [List.mem_cons, not_or] at htext
      rw [String.ofList_cons, String.append_assoc] at hpos
      obtain ⟨stop, hstop, hsplits, hsplit⟩ :=
        ih htext.2 (Std.le_trans hle String.Slice.Pos.le_next) hpos.next
      refine ⟨stop, hstop, ?_, ?_⟩
      · rw [String.ofList_cons, ← String.append_assoc]
        exact hsplits
      · rw [← hsplit]
        exact split_eq_next_of_not_matchesAt hpos.ne_endPos_of_singleton
          (not_matchesAt_of_ne hseparator (Ne.symm htext.1) hpos)

theorem copy_subslice {text : String} {start stop : s.Pos} (hle : start ≤ stop)
    (hstart : start.Splits before (text ++ after)) (hstop : stop.Splits (before ++ text) after) :
    (s.subslice start stop hle).toSlice.copy = text := by
  obtain ⟨_, hcopy⟩ := String.Slice.copy_slice_eq_iff_splits.2 ⟨before, after, hstart, hstop⟩
  exact hcopy

/-- From the beginning of a text on, each text and the separator behind it are split off. -/
theorem split_intercalate [StrictPatternModel separator]
    (hseparator : separator.toList = first :: others) {text : String} {texts : List String}
    (htexts : ∀ piece ∈ text :: texts, first ∉ piece.toList) {start : s.Pos}
    (hstart : start.Splits before (separator.intercalate (text :: texts))) :
    (Model.split separator start start (Std.le_refl _)).map
      (String.Slice.copy ∘ String.Slice.Subslice.toSlice) = text :: texts := by
  have hfirst := htexts text List.mem_cons_self
  induction texts generalizing text before start with
  | nil =>
      rw [String.intercalate_singleton, ← String.append_empty (s := text)] at hstart
      obtain ⟨stop, hle, hstop, hsplit⟩ := split_skip hseparator hfirst (Std.le_refl _)
        (by rwa [String.ofList_toList])
      rw [String.ofList_toList] at hstop
      obtain rfl : stop = s.endPos := hstop.eq_endPos_iff.2 rfl
      rw [hsplit, split_endPos, List.map_singleton, Function.comp_apply,
        copy_subslice hle hstart hstop]
  | cons next rest ih =>
      have hrest : ∀ piece ∈ next :: rest, first ∉ piece.toList :=
        fun piece hpiece => htexts piece (List.mem_cons_of_mem _ hpiece)
      rw [String.intercalate_cons_cons, String.append_assoc] at hstart
      obtain ⟨stop, hle, hstop, hsplit⟩ := split_skip hseparator hfirst (Std.le_refl _)
        (by rwa [String.ofList_toList])
      rw [String.ofList_toList] at hstop
      -- the text is followed by an occurrence, and the search goes on behind that
      have hcopy : s.copy =
          before ++ text ++ separator ++ separator.intercalate (next :: rest) :=
        hstop.eq_append.trans String.append_assoc.symm
      obtain ⟨resume, hresume⟩ := exists_pos_splits hcopy
      have hmatch : IsLongestMatchAt separator stop resume :=
        ForwardStringSearcher.isLongestMatchAt_iff_splits.2 ⟨_, _, hstop, hresume⟩
      rw [hsplit, split_eq_of_isLongestMatchAt hmatch, List.map_cons, Function.comp_apply,
        copy_subslice hle hstart hstop, ih hrest hresume (hrest next List.mem_cons_self)]

/-- A joined text falls into the pieces of which it was joined, if the separator cannot begin in
one of them. -/
theorem pieces_intercalate (hseparator : separator.toList = first :: others)
    {texts : List String} (hne : texts ≠ []) (htexts : ∀ piece ∈ texts, first ∉ piece.toList) :
    pieces separator (separator.intercalate texts) = texts := by
  have hnonempty : separator ≠ "" := by
    rintro rfl
    cases hseparator
  have hmodel := ForwardStringSearcher.strictPatternModel hnonempty
  have hlawful := ForwardStringSearcher.lawfulToForwardSearcherModel hnonempty
  obtain ⟨text, rest, rfl⟩ := List.exists_cons_of_ne_nil hne
  have hstart : (separator.intercalate (text :: rest)).toSlice.startPos.Splits ""
      (separator.intercalate (text :: rest)) :=
    String.Slice.splits_startPos_iff.2 ⟨rfl, String.copy_toSlice.symm⟩
  rw [pieces, String.split_eq_split_toSlice, String.Slice.toList_split_eq_splitToSubslice,
    String.Slice.Pattern.toList_splitToSubslice_eq_modelSplit, List.map_map]
  exact split_intercalate hseparator htexts hstart

end Splitting

/-! ### The spelling of a number -/

/-- Digits that do not begin with zero. -/
structure IsPositiveNumeral (digits : List Char) : Prop where
  nonempty : digits ≠ []
  digit : ∀ c ∈ digits, c.isDigit = true
  no_leading_zero : digits.head? ≠ some '0'

/-- **The usual spelling of a number**: zero is one digit and has no sign. -/
inductive IsCanonicalDecimal : String → Prop
  | zero : IsCanonicalDecimal "0"
  | positive {digits : List Char} (h : IsPositiveNumeral digits) :
      IsCanonicalDecimal (String.ofList digits)
  | negative {digits : List Char} (h : IsPositiveNumeral digits) :
      IsCanonicalDecimal ("-" ++ String.ofList digits)

theorem isPositiveNumeral_toDigits {n : ℕ} (h : 0 < n) : IsPositiveNumeral (Nat.toDigits 10 n) := by
  refine ⟨Nat.toDigits_ne_nil,
    fun c hc => Nat.isDigit_of_mem_toDigits (by decide) (by decide) hc, ?_⟩
  induction n using Nat.strongRecOn with
  | ind n ih =>
      rcases Nat.lt_or_ge n 10 with hsmall | hbig
      · rw [Nat.toDigits_of_lt_base hsmall, List.head?_cons, Ne, Option.some_inj,
          Nat.digitChar_eq_zero]
        exact h.ne'
      · -- the last digit is not the first one
        rw [Nat.toDigits_of_base_le (by decide) hbig, List.head?_append_of_ne_nil]
        · exact ih (n / 10) (by omega) (by omega)
        · exact Nat.toDigits_ne_nil

/-- Numbers are shown in their usual spelling. -/
theorem isCanonicalDecimal_toString (number : ℤ) : IsCanonicalDecimal (toString number) := by
  rw [Int.toString_eq_repr, Int.repr_eq_if, Nat.repr_eq_ofList_toDigits,
    Nat.repr_eq_ofList_toDigits]
  rcases lt_trichotomy number 0 with hnegative | rfl | hpositive
  · rw [if_neg (not_le.2 hnegative)]
    exact .negative (isPositiveNumeral_toDigits (by omega))
  · exact .zero
  · rw [if_pos hpositive.le]
    exact .positive (isPositiveNumeral_toDigits (by omega))

theorem IsCanonicalDecimal.isDigit_or_minus {text : String} (h : IsCanonicalDecimal text) {c : Char}
    (hc : c ∈ text.toList) : c.isDigit = true ∨ c = '-' := by
  cases h with
  | zero =>
      rw [List.mem_singleton.1 hc]
      exact Or.inl rfl
  | positive h =>
      rw [String.toList_ofList] at hc
      exact Or.inl (h.digit c hc)
  | negative h =>
      rw [String.toList_append, List.mem_append] at hc
      obtain hc | hc := hc
      · exact Or.inr (List.mem_singleton.1 hc)
      · rw [String.toList_ofList] at hc
        exact Or.inl (h.digit c hc)

/-! ### Reading a line -/

variable {separator : String} {mids : List Float}

/-- The pieces of a line are its numbers. -/
theorem pieces_decimalLine (hnonempty : separator ≠ "")
    (hclear : ∀ c ∈ separator.toList, c.isDigit = false ∧ c ≠ '-') (hmids : mids ≠ []) :
    pieces separator (decimalLine mids separator) =
      mids.map fun mid => toString (truncate mid) := by
  obtain ⟨first, others, hseparator⟩ :=
    List.exists_cons_of_ne_nil (mt String.toList_eq_nil_iff.1 hnonempty)
  obtain ⟨hdigit, hminus⟩ := hclear first (by rw [hseparator]; exact List.mem_cons_self)
  refine pieces_intercalate hseparator (mt List.map_eq_nil_iff.1 hmids) ?_
  intro piece hpiece hfirst
  obtain ⟨mid, -, rfl⟩ := List.mem_map.1 hpiece
  obtain h | h := (isCanonicalDecimal_toString (truncate mid)).isDigit_or_minus hfirst
  · exact Bool.false_ne_true (hdigit.symm.trans h)
  · exact hminus h

/-- The numbers that are read off a line. -/
theorem map_toInt?_pieces (hnonempty : separator ≠ "")
    (hclear : ∀ c ∈ separator.toList, c.isDigit = false ∧ c ≠ '-') (hmids : mids ≠ []) :
    (pieces separator (decimalLine mids separator)).map String.toInt? =
      (mids.map truncate).map some := by
  rw [pieces_decimalLine hnonempty hclear hmids, List.map_map, List.map_map]
  refine List.map_congr_left ?_
  intro mid _
  rw [Function.comp_apply, Function.comp_apply, Int.toString_eq_repr, Int.toInt?_repr]

theorem decimalLine_ne_empty (hmids : mids ≠ []) : decimalLine mids separator ≠ "" := by
  intro hempty
  obtain ⟨mid, rest, rfl⟩ := List.exists_cons_of_ne_nil hmids
  rw [decimalLine, List.map_cons] at hempty
  have htext : toString (truncate mid) = "" := by
    cases rest with
    | nil => exact hempty
    | cons next rest =>
        rw [List.map_cons, String.intercalate_cons_cons, String.append_assoc,
          String.append_eq_empty_iff] at hempty
        exact hempty.1
  have hread := Int.toInt?_repr (truncate mid)
  have hnothing : "".toInt? = none := by cbv
  rw [← Int.toString_eq_repr, htext, hnothing] at hread
  cases hread

/-- **The decimal line can be read back.**  A separator that is not empty and holds no digit and no
minus sign splits the line of a list of midpoints, not-a-numbers and infinities among them, into one
piece for each: the usual spelling of a signed 64-bit number, and that is the truncated midpoint.
So two lists, of the same length or not, have the same line exactly if their truncations are the
same. -/
theorem decimalLine_reads_back {separator : String} (hnonempty : separator ≠ "")
    (hclear : ∀ c ∈ separator.toList, c.isDigit = false ∧ c ≠ '-') :
    (∀ mids : List Float, mids ≠ [] →
      (pieces separator (decimalLine mids separator)).length = mids.length ∧
      List.Forall₂ (fun mid piece => IsCanonicalDecimal piece ∧
          piece.toInt? = some (truncate mid) ∧
          -9223372036854775808 ≤ truncate mid ∧ truncate mid ≤ 9223372036854775807)
        mids (pieces separator (decimalLine mids separator))) ∧
    ∀ mids others : List Float,
      decimalLine mids separator = decimalLine others separator ↔
        mids.map truncate = others.map truncate := by
  constructor
  · intro mids hmids
    rw [pieces_decimalLine hnonempty hclear hmids]
    refine ⟨List.length_map .., List.forall₂_map_right_iff.2 (List.forall₂_same.2 ?_)⟩
    intro mid _
    refine ⟨isCanonicalDecimal_toString (truncate mid), ?_, truncate_mem_range mid⟩
    rw [Int.toString_eq_repr, Int.toInt?_repr]
  · intro mids others
    constructor
    · intro hline
      rcases eq_or_ne mids [] with rfl | hmids
      · have hothers : others = [] := not_not.1 fun h => decimalLine_ne_empty h hline.symm
        rw [hothers]
      · have hothers : others ≠ [] := by
          rintro rfl
          exact decimalLine_ne_empty hmids hline
        have hread := map_toInt?_pieces hnonempty hclear hmids
        rw [hline, map_toInt?_pieces hnonempty hclear hothers] at hread
        exact (List.map_injective_iff.2 (Option.some_injective ℤ) hread).symm
    · intro htruncate
      have hmap : ∀ mids : List Float, decimalLine mids separator =
          separator.intercalate ((mids.map truncate).map toString) := by
        intro mids
        rw [decimalLine, List.map_map]
        rfl
      rw [hmap, hmap, htruncate]

/-- A separator that overlaps itself, and midpoints of all kinds. -/
theorem decimalLine_reads_back_overlapping :
    "aa" ≠ "" ∧ (∀ c ∈ "aa".toList, c.isDigit = false ∧ c ≠ '-') ∧
      ∃ mids : List Float,
        mids = [.ofBits 0x7FF8000000000000, .ofBits 0xFFF0000000000000, 198.75, -0.5] ∧
        mids ≠ [] ∧ decimalLine mids "aa" = "0aa-9223372036854775808aa198aa0" ∧
        (pieces "aa" (decimalLine mids "aa")).length = 4 ∧
        decimalLine mids "aa" ≠ decimalLine (mids.drop 1) "aa" := by
  have hclear : ∀ c ∈ "aa".toList, c.isDigit = false ∧ c ≠ '-' := by
    intro c hc
    obtain rfl : c = 'a' := by simpa using hc
    decide
  obtain ⟨hpieces, hsame⟩ := decimalLine_reads_back (by decide : "aa" ≠ "") hclear
  refine ⟨by decide, hclear,
    [.ofBits 0x7FF8000000000000, .ofBits 0xFFF0000000000000, 198.75, -0.5], rfl,
    List.cons_ne_nil _ _, by decide +kernel, ?_, ?_⟩
  · exact (hpieces _ (List.cons_ne_nil _ _)).1
  · rw [Ne, hsame]
    decide +kernel

end PegBox
