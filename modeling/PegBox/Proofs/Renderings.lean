/-
**The renderings of midpoints agree with what is stored.**

Thresholds leave the program on three ways: as the payload of the report, as a call for the console,
and as hexadecimal bytes to be read by eye; the decimal line shows the same midpoints before they
are stored.  Each way makes its own text or bytes.  This module shows that they say the same: the
call and the bytes exist exactly where the thresholds do, and are refused with the same words; the
numbers of the call are the decimal line; the digits of the bytes are those of the payload.

Main definitions:

* `PegBox.between` — the text between a bracket and the next closing one.

Main results:

* `PegBox.wireHex_eq` — the digits of a threshold are those of its two bytes, the low one first;
* `PegBox.between_consoleCall` — the numbers of the console call;
* `PegBox.filter_isHexDigit_wireHex`, `PegBox.filter_intercalate` — the digits of one threshold and
  of a line;
* `PegBox.renderings_agree` — **the renderings agree with what is stored**.
-/

import PegBox.Proofs.Storing

set_option autoImplicit false

namespace PegBox

/-! ### Hexadecimal digits -/

theorem paddedHex_one {number : Nat} (h : number < 16) :
    paddedHex 1 number = [Nat.digitChar number] := by
  rw [paddedHex, Nat.toDigits_of_lt_base h]
  rfl

/-- The last digit is that of the remainder. -/
theorem paddedHex_succ {width : Nat} (hwidth : 0 < width) (number : Nat) :
    paddedHex (width + 1) number =
      paddedHex width (number / 16) ++ [Nat.digitChar (number % 16)] := by
  -- a number of one digit has a zero in the place of its quotient
  rcases Nat.lt_or_ge number 16 with hsmall | hbig
  · obtain ⟨zeros, rfl⟩ := Nat.exists_eq_add_one_of_ne_zero (Nat.pos_iff_ne_zero.1 hwidth)
    rw [paddedHex, paddedHex, Nat.toDigits_of_lt_base hsmall, Nat.div_eq_of_lt hsmall,
      Nat.mod_eq_of_lt hsmall, Nat.toDigits_zero]
    rw [List.length_singleton, List.length_singleton, Nat.add_sub_cancel, Nat.add_sub_cancel,
      List.replicate_succ']
  · rw [paddedHex, paddedHex, Nat.toDigits_of_base_le (by decide) hbig]
    rw [List.length_append, List.length_singleton, Nat.add_sub_add_right, List.append_assoc]

/-- A word has four digits. -/
theorem paddedHex_four {number : Nat} (h : number < 65536) :
    paddedHex 4 number =
      [Nat.digitChar (number / 256 / 16), Nat.digitChar (number / 256 % 16),
        Nat.digitChar (number % 256 / 16), Nat.digitChar (number % 256 % 16)] := by
  rw [paddedHex_succ (by decide), paddedHex_succ (by decide), paddedHex_succ (by decide),
    paddedHex_one (by omega)]
  have hfirst : number / 16 / 16 / 16 = number / 256 / 16 := by omega
  have hsecond : number / 16 / 16 % 16 = number / 256 % 16 := by omega
  have hthird : number / 16 % 16 = number % 256 / 16 := by omega
  have hfourth : number % 16 = number % 256 % 16 := by omega
  rw [hfirst, hsecond, hthird, hfourth]
  rfl

/-- The digits of a threshold are those of its two bytes, the low one first. -/
theorem wireHex_eq (word : UInt16) :
    wireHex word = byteHex (lowByte word) ++ " " ++ byteHex (highByte word) := by
  rw [wireHex, paddedHex_four word.toNat_lt, byteHex, byteHex, toNat_lowByte, toNat_highByte]
  rfl

example : wireHex 0x00c6 = "c6 00" := by decide

theorem isHexDigit_digitChar {digit : Nat} (h : digit < 16) :
    (Nat.digitChar digit).isHexDigit = true := by
  have hall : ∀ digit < 16, (Nat.digitChar digit).isHexDigit = true := by decide
  exact hall digit h

/-- All characters of a byte are digits. -/
theorem filter_isHexDigit_byteHex (byte : UInt8) :
    (byteHex byte).toList.filter Char.isHexDigit = (byteHex byte).toList := by
  have hbyte := byte.toNat_lt
  rw [byteHex, String.toList_ofList, List.filter_eq_self]
  intro c hc
  rw [List.mem_cons, List.mem_singleton] at hc
  rcases hc with rfl | rfl
  · exact isHexDigit_digitChar (by omega)
  · exact isHexDigit_digitChar (by omega)

/-- The digits of a threshold are those of its bytes in the payload. -/
theorem filter_isHexDigit_wireHex (word : UInt16) :
    (wireHex word).toList.filter Char.isHexDigit =
      [lowByte word, highByte word].flatMap fun byte => (byteHex byte).toList := by
  have hblank : " ".toList.filter Char.isHexDigit = [] := by decide
  rw [wireHex_eq, String.toList_append, String.toList_append, List.filter_append,
    List.filter_append, hblank, filter_isHexDigit_byteHex, filter_isHexDigit_byteHex,
    List.append_nil]
  simp

/-! ### Joined lists -/

/-- A filter that drops all of the separator keeps what it keeps of the pieces. -/
theorem filter_intercalate {α : Type} (keep : α → Bool) (separator : List α)
    (pieces : List (List α)) (h : ∀ a ∈ separator, keep a = false) :
    (separator.intercalate pieces).filter keep = pieces.flatMap (List.filter keep) := by
  have hseparator : separator.filter keep = [] := by
    rw [List.filter_eq_nil_iff]
    intro a ha
    rw [h a ha]
    exact Bool.false_ne_true
  induction pieces with
  | nil => rfl
  | cons piece rest ih =>
      by_cases hrest : rest = []
      · rw [hrest, List.intercalate_singleton, List.flatMap_cons, List.flatMap_nil, List.append_nil]
      · rw [List.intercalate_cons_of_ne_nil hrest, List.filter_append, List.filter_append,
          hseparator, List.append_nil, ih, List.flatMap_cons]

theorem mem_intercalate {α : Type} {separator : List α} {pieces : List (List α)} {a : α}
    (h : a ∈ separator.intercalate pieces) : a ∈ separator ∨ ∃ piece ∈ pieces, a ∈ piece := by
  induction pieces with
  | nil => exact absurd h List.not_mem_nil
  | cons piece rest ih =>
      by_cases hrest : rest = []
      · rw [hrest, List.intercalate_singleton] at h
        exact Or.inr ⟨piece, List.mem_cons_self, h⟩
      · rw [List.intercalate_cons_of_ne_nil hrest, List.mem_append, List.mem_append] at h
        obtain (hpiece | hseparator) | htail := h
        · exact Or.inr ⟨piece, List.mem_cons_self, hpiece⟩
        · exact Or.inl hseparator
        · obtain hseparator | ⟨other, hother, ha⟩ := ih htail
          · exact Or.inl hseparator
          · exact Or.inr ⟨other, List.mem_cons_of_mem _ hother, ha⟩

/-! ### The numbers of the console call -/

/-- The text between the first opening bracket and the next closing one. -/
def between (opening closing : Char) (text : String) : String :=
  String.ofList (((text.toList.dropWhile (· != opening)).drop 1).takeWhile (· != closing))

theorem between_of_toList {opening closing : Char} {before inner after : List Char} {text : String}
    (htext : text.toList = before ++ opening :: (inner ++ closing :: after))
    (hbefore : opening ∉ before) (hinner : closing ∉ inner) :
    between opening closing text = String.ofList inner := by
  have hdrop : (before ++ opening :: (inner ++ closing :: after)).dropWhile (· != opening) =
      opening :: (inner ++ closing :: after) := by
    rw [List.dropWhile_append_of_pos]
    · rw [List.dropWhile_cons_of_neg (by simp)]
    · intro c hc
      rw [bne_iff_ne]
      rintro rfl
      exact hbefore hc
  have htake : (inner ++ closing :: after).takeWhile (· != closing) = inner := by
    rw [List.takeWhile_append_of_pos]
    · rw [List.takeWhile_cons_of_neg (by simp), List.append_nil]
    · intro c hc
      rw [bne_iff_ne]
      rintro rfl
      exact hinner hc
  rw [between, htext, hdrop, List.drop_one, List.tail_cons, htake]

theorem isDigit_of_mem_toString {number : Nat} {c : Char} (h : c ∈ (toString number).toList) :
    c.isDigit = true := by
  rw [Nat.toString_eq_ofList_toDigits, String.toList_ofList] at h
  exact Nat.isDigit_of_mem_toDigits (by decide) (by decide) h

/-- The numbers of the console call. -/
theorem between_consoleCall (thresholds : Thresholds) :
    between '[' ']' (consoleCall thresholds) =
      ",".intercalate (thresholds.values.map fun threshold => toString threshold.toNat) := by
  generalize hnumbers :
    (thresholds.values.map fun threshold => toString threshold.toNat) = numbers
  have hclosing : ']' ∉ (",".intercalate numbers).toList := by
    intro hmem
    rw [String.toList_intercalate] at hmem
    obtain hcomma | ⟨piece, hpiece, hmem⟩ := mem_intercalate hmem
    · exact absurd hcomma (by decide)
    · rw [← hnumbers, List.map_map] at hpiece
      obtain ⟨threshold, -, rfl⟩ := List.mem_map.1 hpiece
      have hdigit := isDigit_of_mem_toString hmem
      exact absurd hdigit (by decide)
  have hcall : (consoleCall thresholds).toList =
      "await device.set_feature('peg_thresholds', ".toList ++
        '[' :: ((",".intercalate numbers).toList ++ ']' :: ");".toList) := by
    have hopening : "await device.set_feature('peg_thresholds', [".toList =
        "await device.set_feature('peg_thresholds', ".toList ++ ['['] := by simp
    have hrest : "]);".toList = ']' :: ");".toList := by simp
    -- the last bracket of the text before the numbers is the only opening one
    unfold consoleCall
    simp only [hnumbers, String.toList_append, hopening, hrest, List.append_assoc,
      List.cons_append, List.nil_append]
  rw [between_of_toList hcall (by simp) hclosing, String.ofList_toList]

/-- The decimal line shows the thresholds where they exist. -/
theorem decimalLine_of_ofMidpoints {mids : List Float} {thresholds : Thresholds}
    (h : Thresholds.ofMidpoints mids = .ok thresholds) (separator : String) :
    decimalLine mids separator =
      separator.intercalate
        (thresholds.values.map fun threshold => toString threshold.toNat) := by
  obtain ⟨hstorable, hvalues⟩ :=
    thresholdsFrom_eq_ok_iff.1 (Thresholds.thresholdsFrom_of_ofMidpoints h)
  rw [decimalLine, hvalues, List.map_map]
  refine congrArg separator.intercalate (List.map_congr_left ?_)
  intro mid hmid
  rw [← toNat_storedWord (hstorable mid hmid)]
  rfl

/-! ### The agreement -/

/-- The digits of a hexadecimal line are those of the payload. -/
theorem filter_isHexDigit_line (thresholds : Thresholds) {separator : String}
    (h : ∀ c ∈ separator.toList, c.isHexDigit = false) :
    (separator.intercalate (thresholds.values.map wireHex)).toList.filter Char.isHexDigit =
      thresholds.payload.flatMap fun byte => (byteHex byte).toList := by
  rw [String.toList_intercalate, filter_intercalate _ _ _ h, Thresholds.payload_eq_flatMap,
    List.map_map, List.flatMap_map, List.flatMap_assoc]
  refine congrArg (List.flatMap · thresholds.values) (funext ?_)
  intro word
  exact filter_isHexDigit_wireHex word

/-- **The renderings agree with what is stored.**  The console call exists exactly where the
thresholds do, is refused with the same words, does not depend on the separator, and names the
numbers of the decimal line.  For one midpoint per peg the hexadecimal line exists exactly where the
thresholds do and is refused with the same words; where the separator has no hexadecimal digit, the
digits of the line are those of the payload. -/
theorem renderings_agree (mids : List Float) (separator : String) :
    ((∀ refusal, render mids .console separator = .error refusal ↔
        Thresholds.ofMidpoints mids = .error refusal) ∧
      ((∃ line, render mids .console separator = .ok line) ↔
        ∃ thresholds, Thresholds.ofMidpoints mids = .ok thresholds) ∧
      (∀ other, render mids .console other = render mids .console separator) ∧
      ∀ line, render mids .console separator = .ok line →
        between '[' ']' line = decimalLine mids ",") ∧
    (mids.length = pegCount →
      (∀ refusal, render mids .hex separator = .error refusal ↔
        Thresholds.ofMidpoints mids = .error refusal) ∧
      ((∃ line, render mids .hex separator = .ok line) ↔
        ∃ thresholds, Thresholds.ofMidpoints mids = .ok thresholds) ∧
      ∀ line thresholds, render mids .hex separator = .ok line →
        Thresholds.ofMidpoints mids = .ok thresholds →
        (∀ c ∈ separator.toList, c.isHexDigit = false) →
          line.toList.filter Char.isHexDigit =
            thresholds.payload.flatMap fun byte => (byteHex byte).toList) := by
  constructor
  · rw [render]
    cases hstored : Thresholds.ofMidpoints mids with
    | error refusal =>
        refine ⟨fun other => by simp, by simp, fun other => ?_, fun line hline => ?_⟩
        · rw [render, hstored]
        · cases hline
    | ok thresholds =>
        refine ⟨fun other => by simp, by simp, fun other => ?_, fun line hline => ?_⟩
        · rw [render, hstored]
        · cases hline
          rw [between_consoleCall, decimalLine_of_ofMidpoints hstored]
  · intro hlength
    have hvalues := Thresholds.values_ofMidpoints hlength
    rw [render, ← hvalues]
    cases hstored : Thresholds.ofMidpoints mids with
    | error refusal =>
        refine ⟨fun other => by simp [Except.map], by simp [Except.map], ?_⟩
        intro line stored hline
        cases hline
    | ok thresholds =>
        refine ⟨fun other => by simp [Except.map], by simp [Except.map], ?_⟩
        intro line stored hline hsame hseparator
        cases hline
        cases hsame
        exact filter_isHexDigit_line thresholds hseparator

end PegBox
