/-
**How many newlines a run writes.**

An output puts one newline behind each line that it takes, and a result is meant to be one line.
Numbers and bytes are written without a newline, but the separator is taken as it is given, so the
result is one line only as far as the separator lets it be.  This module counts: the console call
has no newline within it, and each of the other formats has those of the separators between its
pegs.

Main definitions:

* `PegBox.Appends` — **an output that appends lines**, each with one newline behind it;
* `PegBox.Settings.newlinesWithin` — the newlines within a line of so many pegs.

Main results:

* `PegBox.count_bytesOf` — the newlines of a text are those of its bytes;
* `PegBox.appends_sink`, `PegBox.appends_text` — a sink and a text append lines;
* `PegBox.count_newline_render` — the newlines within a line;
* `PegBox.newlines_of_run` — **what a run that succeeds has written**, and when that is one line;
* `PegBox.newline_separator_breaks_line` — a separator that makes six lines of one.
-/

import PegBox.Proofs.Renderings
import PegBox.Proofs.SinkHistory

set_option autoImplicit false

namespace PegBox

/-! ### Newlines in bytes -/

theorem Sink.bytesOf_eq_flatMap (text : String) :
    Sink.bytesOf text = text.toList.flatMap String.utf8EncodeChar := by
  rw [Sink.bytesOf, String.toUTF8_eq_toByteArray, ← String.utf8Encode_toList, List.utf8Encode,
    List.data_toByteArray]

/-- A byte from 128 on is not that of a newline. -/
theorem ofNat_ne_newline {number base : Nat} (hbase : 128 ≤ base) (hbyte : number + base < 256) :
    (10 : UInt8) ≠ UInt8.ofNat (number + base) := by
  rw [Ne, ← UInt8.toNat_inj, UInt8.toNat_ofNat_of_lt' hbyte]
  change ¬ 10 = number + base
  omega

/-- The byte of a newline stands for nothing else: the bytes of a longer encoding are above it. -/
theorem newline_not_mem_utf8EncodeChar {c : Char} (h : c ≠ '\n') :
    10 ∉ String.utf8EncodeChar c := by
  -- one case for each length of the encoding
  fun_cases String.utf8EncodeChar c with
  | case1 code hone =>
      have hcode : code ≠ 10 := by
        intro hten
        exact h (Char.ext (UInt32.toNat_inj.1 hten))
      have hbyte : code < UInt8.size := by
        rw [UInt8.size]
        omega
      rw [List.mem_singleton, ← UInt8.toNat_inj, UInt8.toNat_ofNat_of_lt' hbyte]
      exact Ne.symm hcode
  | case2 code _ htwo =>
      simp only [List.mem_cons, List.not_mem_nil, or_false, not_or]
      exact ⟨ofNat_ne_newline (by decide) (by omega), ofNat_ne_newline (by decide) (by omega)⟩
  | case3 code _ _ hthree =>
      simp only [List.mem_cons, List.not_mem_nil, or_false, not_or]
      exact ⟨ofNat_ne_newline (by decide) (by omega), ofNat_ne_newline (by decide) (by omega),
        ofNat_ne_newline (by decide) (by omega)⟩
  | case4 code _ _ _ =>
      simp only [List.mem_cons, List.not_mem_nil, or_false, not_or]
      exact ⟨ofNat_ne_newline (by decide) (by omega), ofNat_ne_newline (by decide) (by omega),
        ofNat_ne_newline (by decide) (by omega), ofNat_ne_newline (by decide) (by omega)⟩

theorem count_utf8EncodeChar (c : Char) :
    (String.utf8EncodeChar c).count 10 = [c].count '\n' := by
  by_cases hc : c = '\n'
  · rw [hc]
    rfl
  · rw [List.count_eq_zero.2 (newline_not_mem_utf8EncodeChar hc), List.count_eq_zero.2]
    rw [List.mem_singleton]
    exact Ne.symm hc

/-- The newlines of a text are those of its bytes. -/
theorem count_bytesOf (text : String) :
    (Sink.bytesOf text).count 10 = text.toList.count '\n' := by
  rw [Sink.bytesOf_eq_flatMap]
  induction text.toList with
  | nil => rfl
  | cons c rest ih =>
      rw [List.flatMap_cons, List.count_append, ih, count_utf8EncodeChar, ← List.count_append]
      rfl

theorem count_terminated (line : String) :
    (Sink.terminated line).count 10 = line.toList.count '\n' + 1 := by
  rw [Sink.terminated, List.count_append, count_bytesOf, count_bytesOf]
  rfl

/-! ### Outputs that append lines -/

/-- **An output that appends lines**: when it has taken a line, the bytes in it have grown by the
line and one newline. -/
def Appends {σ : Type} [LineOutput σ] (bytes : σ → List UInt8) : Prop :=
  ∀ line output after, LineOutput.emit line output = (.ok (), after) →
    bytes after = bytes output ++ Sink.terminated line

theorem appends_sink : Appends Sink.contents := by
  intro line sink after h
  change sink.emit line = (.ok (), after) at h
  by_cases hroom : sink.HasRoom (Sink.terminated line).length
  · rw [Sink.emit_of_hasRoom hroom, Sink.flush] at h
    split at h
    · cases h
    · cases h
      rfl
  · rw [Sink.emit_of_not_hasRoom hroom] at h
    cases h

theorem appends_text : Appends Sink.bytesOf := by
  intro line text after h
  cases h
  rw [Sink.bytesOf_append, Sink.bytesOf_append, List.append_assoc, Sink.terminated]

/-! ### Newlines within a line -/

/-- Between pieces without a newline only the separators have any. -/
theorem count_intercalate_of_not_mem {α : Type} [DecidableEq α] {a : α} (separator : List α)
    {pieces : List (List α)} (h : ∀ piece ∈ pieces, a ∉ piece) :
    (separator.intercalate pieces).count a = (pieces.length - 1) * separator.count a := by
  induction pieces with
  | nil => simp
  | cons piece rest ih =>
      rw [List.forall_mem_cons] at h
      have hpiece : piece.count a = 0 := List.count_eq_zero.2 h.1
      cases rest with
      | nil =>
          rw [List.intercalate_singleton, hpiece, List.length_singleton, Nat.sub_self, Nat.zero_mul]
      | cons next rest =>
          rw [List.intercalate_cons_of_ne_nil (List.cons_ne_nil _ _), List.count_append,
            List.count_append, ih h.2, hpiece]
          simp only [List.length_cons, Nat.add_sub_cancel, Nat.zero_add]
          rw [Nat.succ_mul, Nat.add_comm]

theorem newline_not_mem_natText (number : Nat) : '\n' ∉ (toString number).toList := by
  intro h
  exact absurd (isDigit_of_mem_toString h) (by decide)

theorem newline_not_mem_intText (number : Int) : '\n' ∉ (toString number).toList := by
  cases number with
  | ofNat number => exact newline_not_mem_natText number
  | negSucc number =>
      intro h
      change '\n' ∈ ("-" ++ toString (number + 1)).toList at h
      rw [String.toList_append, List.mem_append] at h
      rcases h with hsign | hdigits
      · exact absurd hsign (by decide)
      · exact newline_not_mem_natText _ hdigits

theorem newline_not_mem_wireHex (word : UInt16) : '\n' ∉ (wireHex word).toList := by
  have hbyte (byte : UInt8) : '\n' ∉ (byteHex byte).toList := by
    rw [← filter_isHexDigit_byteHex]
    intro h
    exact absurd (List.mem_filter.1 h).2 (by decide)
  rw [wireHex_eq, String.toList_append, String.toList_append, List.mem_append, List.mem_append]
  rintro ((hlow | hblank) | hhigh)
  · exact hbyte _ hlow
  · exact absurd hblank (by decide)
  · exact hbyte _ hhigh

/-- The newlines of a joined text whose pieces have none. -/
theorem count_newline_join {pieces : List String} (separator : String)
    (h : ∀ piece ∈ pieces, '\n' ∉ piece.toList) :
    (separator.intercalate pieces).toList.count '\n' =
      (pieces.length - 1) * separator.toList.count '\n' := by
  rw [String.toList_intercalate, count_intercalate_of_not_mem, List.length_map]
  rw [List.forall_mem_map]
  exact h

theorem newline_not_mem_consoleCall (thresholds : Thresholds) :
    '\n' ∉ (consoleCall thresholds).toList := by
  have hnumbers : (",".intercalate
      (thresholds.values.map fun threshold => toString threshold.toNat)).toList.count '\n' = 0 := by
    have hcomma : ",".toList.count '\n' = 0 := by decide
    rw [count_newline_join, hcomma, Nat.mul_zero]
    rw [List.forall_mem_map]
    intro threshold _
    exact newline_not_mem_natText _
  have hopening : '\n' ∉ "await device.set_feature('peg_thresholds', [".toList := by simp
  have hclosing : '\n' ∉ "]);".toList := by simp
  unfold consoleCall
  simp only [String.toList_append, List.mem_append, not_or]
  exact ⟨⟨hopening, List.count_eq_zero.1 hnumbers⟩, hclosing⟩

/-- The newlines within a line of so many pegs: the console call has none, and the other formats
have those of the separators between the pegs. -/
def Settings.newlinesWithin (settings : Settings) (pegs : Nat) : Nat :=
  match settings.format with
  | .console => 0
  | _ => (pegs - 1) * settings.separator.toList.count '\n'

/-- The newlines within a line. -/
theorem count_newline_render {mids : List Float} {settings : Settings} {line : String}
    (h : render mids settings.format settings.separator = .ok line) :
    line.toList.count '\n' = settings.newlinesWithin mids.length := by
  rw [Settings.newlinesWithin]
  cases hformat : settings.format with
  | decimal =>
      rw [hformat] at h
      cases h
      rw [decimalLine, count_newline_join, List.length_map]
      rw [List.forall_mem_map]
      intro mid _
      exact newline_not_mem_intText _
  | hex =>
      rw [hformat, render] at h
      cases hwords : thresholdsFrom 0 mids with
      | error refusal =>
          rw [hwords] at h
          cases h
      | ok words =>
          rw [hwords] at h
          cases h
          rw [count_newline_join, List.length_map, length_thresholdsFrom hwords]
          rw [List.forall_mem_map]
          intro word _
          exact newline_not_mem_wireHex word
  | console =>
      rw [hformat, render] at h
      cases hstored : Thresholds.ofMidpoints mids with
      | error refusal =>
          rw [hstored] at h
          cases h
      | ok thresholds =>
          rw [hstored] at h
          cases h
          exact List.count_eq_zero.2 (newline_not_mem_consoleCall thresholds)

/-- A line of one peg or more has no newline within it exactly where it is a console call, is of one
peg, or is joined by a separator without a newline. -/
theorem newlinesWithin_eq_zero_iff (settings : Settings) {pegs : Nat} (hpegs : 0 < pegs) :
    settings.newlinesWithin pegs = 0 ↔
      settings.format = .console ∨ pegs = 1 ∨ '\n' ∉ settings.separator.toList := by
  have hjoined : (pegs - 1) * settings.separator.toList.count '\n' = 0 ↔
      pegs = 1 ∨ '\n' ∉ settings.separator.toList := by
    rw [Nat.mul_eq_zero, List.count_eq_zero]
    refine or_congr_left ?_
    omega
  rw [Settings.newlinesWithin]
  cases settings.format with
  | decimal => simpa using hjoined
  | hex => simpa using hjoined
  | console => simp

/-! ### Runs -/

/-- **What a run that succeeds has written**, on every output that appends lines: its line and one
newline.  So the output has gained that newline and those within the line, of which there are as
many as the settings make of the pegs that were loaded.  The line has none of its own, and the
output has gained exactly one, if and only if the line is a console call, is of one peg, or is
joined by a separator without a newline. -/
theorem newlines_of_run {σ : Type} [LineOutput σ] {bytes : σ → List UInt8}
    (happends : Appends bytes) {settings : Settings} {files : Files} {output after : σ}
    {line : String} (hrun : settings.run files output = (.ok line, after)) :
    bytes after = bytes output ++ Sink.terminated line ∧
      ∃ readings, settings.source.load files = .ok readings ∧
        (bytes after).count 10 =
          (bytes output).count 10 + settings.newlinesWithin readings.size + 1 ∧
        ('\n' ∉ line.toList ↔
          settings.format = .console ∨ readings.size = 1 ∨ '\n' ∉ settings.separator.toList) ∧
        ((bytes after).count 10 = (bytes output).count 10 + 1 ↔
          settings.format = .console ∨ readings.size = 1 ∨
            '\n' ∉ settings.separator.toList) := by
  obtain ⟨hline, hemit⟩ := Settings.line_of_run hrun
  obtain ⟨readings, hload, hrender⟩ := Settings.line_eq_ok_iff.1 hline
  have hwritten := happends line output after hemit
  have hwithin := count_newline_render hrender
  rw [Calibration.length_apply] at hwithin
  have hnone := newlinesWithin_eq_zero_iff settings readings.size_pos
  have hcount : (bytes after).count 10 =
      (bytes output).count 10 + settings.newlinesWithin readings.size + 1 := by
    rw [hwritten, List.count_append, count_terminated, hwithin, Nat.add_assoc]
  refine ⟨hwritten, readings, hload, hcount, ?_, ?_⟩
  · rw [← List.count_eq_zero, hwithin, hnone]
  · rw [hcount, ← hnone]
    omega

/-- The first bench capture, in hexadecimal and with a separator of two characters, on a text. -/
theorem newlines_of_run_bench :
    Appends Sink.contents ∧ Appends Sink.bytesOf ∧
      ∃ line after, (⟨.preset .capture1, "; ", .hex⟩ : Settings).run ⟨fun _ => .error .missing⟩
          "pegs\n" = (.ok line, after) ∧
        line = "c6 00; a9 00; a6 00; a2 00; a4 00; 8b 00" ∧
        '\n' ∉ line.toList ∧ (Sink.bytesOf after).count 10 = 2 := by
  obtain ⟨line, after, hrun, hline⟩ : ∃ line after,
      (⟨.preset .capture1, "; ", .hex⟩ : Settings).run ⟨fun _ => .error .missing⟩ "pegs\n" =
        (.ok line, after) ∧ line = "c6 00; a9 00; a6 00; a2 00; a4 00; 8b 00" :=
    ⟨_, _, rfl, by decide +kernel⟩
  have hseparator : '\n' ∉ "; ".toList := by decide
  obtain ⟨-, readings, -, -, hone, hgained⟩ := newlines_of_run appends_text hrun
  have hbefore : (Sink.bytesOf "pegs\n").count 10 = 1 := by decide
  rw [hbefore] at hgained
  exact ⟨appends_sink, appends_text, line, after, hrun, hline, hone.2 (.inr (.inr hseparator)),
    hgained.2 (.inr (.inr hseparator))⟩

/-- A separator that makes six lines of one: it can be given on the command line, the settings
resolve, and the run succeeds. -/
theorem newline_separator_breaks_line :
    ∃ settings line after,
      Settings.resolve ⟨none, none, none, none, some "\n", none⟩ none = .ok settings ∧
      settings.run ⟨fun _ => .error .missing⟩ "" = (.ok line, after) ∧
      '\n' ∈ line.toList ∧ after = "198\n169\n166\n162\n164\n139\n" ∧
      after.toList.count '\n' = 6 :=
  ⟨_, _, _, rfl, rfl, by decide +kernel, by decide +kernel, by decide +kernel⟩

end PegBox
