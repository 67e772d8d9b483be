/-
**Names are accepted up to the case of ASCII letters, and nothing else is.**

Formats and bench captures are known by name.  A reader of names looks for the small letters of a
text in a table, or compares small letters with the names in turn.  This module states which texts
are accepted without that conversion, for every text there is: they are the names, up to the case of
ASCII letters.  So case makes no difference, and no text is accepted that has a blank in it or a
character beyond ASCII, however much it looks like a letter.

Main definitions:

* `PegBox.SameButCase` — **two texts that differ at most in the case of ASCII letters**;
* `PegBox.IsVisible` — a visible character of ASCII;
* `PegBox.KnowsNames` — **a reader that knows names**;
* `PegBox.OutputFormat.names`, `PegBox.Preset.names` — the names of formats and of captures.

Main results:

* `PegBox.toLower_eq_toLower_iff` — texts have the same small letters exactly if they differ at most
  in the case of ASCII letters;
* `PegBox.KnowsNames.of_search` — a reader that searches for small letters knows names;
* `PegBox.OutputFormat.knowsNames`, `PegBox.Preset.knowsNames` — **the names that are accepted**.
-/

import Mathlib.Data.List.Forall2
import PegBox.OutputFormat
import PegBox.Preset

set_option autoImplicit false

namespace PegBox

/-! ### The case of letters -/

/-- A capital letter of ASCII and its small letter, which stands thirty-two places behind it. -/
def IsCapitalOf (capital small : Char) : Prop :=
  'A' ≤ capital ∧ capital ≤ 'Z' ∧ small.toNat = capital.toNat + 32

/-- Two characters that are the same, up to the case of an ASCII letter. -/
def SameLetter (c d : Char) : Prop := c = d ∨ IsCapitalOf c d ∨ IsCapitalOf d c

/-- **Two texts that differ at most in the case of ASCII letters.** -/
def SameButCase (text other : String) : Prop :=
  List.Forall₂ SameLetter text.toList other.toList

theorem char_le_iff {c d : Char} : c ≤ d ↔ c.toNat ≤ d.toNat :=
  Char.le_def.trans UInt32.le_iff_toNat_le

theorem toNat_toLower (c : Char) :
    c.toLower.toNat = if 'A' ≤ c ∧ c ≤ 'Z' then c.toNat + 32 else c.toNat := by
  by_cases h : 'A' ≤ c ∧ c ≤ 'Z'
  · have hlower : c.toLower.val = c.val + 32 := congrArg Char.val (dif_pos h)
    have hlast : c.val.toNat ≤ 90 := UInt32.le_iff_toNat_le.1 h.2
    have hsum : (c.val + 32).toNat = c.val.toNat + 32 := by
      rw [UInt32.toNat_add]
      exact Nat.mod_eq_of_lt (by change c.val.toNat + 32 < 4294967296; omega)
    rw [if_pos h]
    exact (congrArg UInt32.toNat hlower).trans hsum
  · have hlower : c.toLower = c := dif_neg h
    rw [if_neg h, hlower]

/-- Characters have the same small letter exactly if they are the same up to case. -/
theorem charToLower_eq_iff {c d : Char} : c.toLower = d.toLower ↔ SameLetter c d := by
  have hA : 'A'.toNat = 65 := rfl
  have hZ : 'Z'.toNat = 90 := rfl
  simp only [SameLetter, IsCapitalOf, ← Char.toNat_inj, toNat_toLower, char_le_iff, hA, hZ]
  split_ifs <;> omega

theorem toList_toLower (text : String) : text.toLower.toList = text.toList.map Char.toLower :=
  String.toList_map

theorem sameButCase_iff {text other : String} :
    SameButCase text other ↔
      text.toList.map Char.toLower = other.toList.map Char.toLower := by
  rw [← List.forall₂_eq_eq_eq, List.forall₂_map_left_iff, List.forall₂_map_right_iff, SameButCase]
  simp only [charToLower_eq_iff]

/-- Texts have the same small letters exactly if they differ at most in the case of ASCII
letters. -/
theorem toLower_eq_toLower_iff {text other : String} :
    text.toLower = other.toLower ↔ SameButCase text other := by
  rw [sameButCase_iff, ← String.toList_inj, toList_toLower, toList_toLower]

/-! ### Visible characters -/

/-- A visible character of ASCII: no blank, no control character and nothing beyond ASCII. -/
def IsVisible (c : Char) : Prop := '!' ≤ c ∧ c ≤ '~'

instance (c : Char) : Decidable (IsVisible c) := inferInstanceAs (Decidable (_ ∧ _))

/-- Whether a character is visible and no capital letter. -/
def isPlain (c : Char) : Bool := '!' ≤ c && c ≤ '~' && c.toLower == c

theorem isPlain_iff {c : Char} : isPlain c = true ↔ IsVisible c ∧ c.toLower = c := by
  simp only [isPlain, IsVisible, Bool.and_eq_true, decide_eq_true_eq, beq_iff_eq]

theorem toLower_of_plain {text : String} (h : text.toList.all isPlain = true) :
    text.toLower = text := by
  rw [List.all_eq_true] at h
  rw [← String.toList_inj, toList_toLower]
  exact (List.map_congr_left fun c hc => (isPlain_iff.1 (h c hc)).2).trans (List.map_id _)

/-- The other case of a visible character is visible. -/
theorem SameLetter.isVisible {c d : Char} (h : SameLetter c d) (hd : IsVisible d) :
    IsVisible c := by
  have hfirst : '!'.toNat = 33 := rfl
  have hlast : '~'.toNat = 126 := rfl
  have hA : 'A'.toNat = 65 := rfl
  have hZ : 'Z'.toNat = 90 := rfl
  simp only [IsVisible, char_le_iff, hfirst, hlast] at hd ⊢
  rcases h with rfl | ⟨hc, hc', hsmall⟩ | ⟨hd', hd'', hsmall⟩
  · exact hd
  · rw [char_le_iff, hA] at hc
    rw [char_le_iff, hZ] at hc'
    omega
  · rw [char_le_iff, hZ] at hd''
    omega

theorem SameButCase.isVisible {text name : String} (h : SameButCase text name)
    (hname : ∀ c ∈ name.toList, IsVisible c) : ∀ c ∈ text.toList, IsVisible c := by
  rw [SameButCase] at h
  generalize text.toList = chars at h ⊢
  generalize name.toList = letters at h hname
  induction h with
  | nil => exact fun c hc => absurd hc List.not_mem_nil
  | cons hletter _ ih =>
      rw [List.forall_mem_cons] at hname ⊢
      exact ⟨hletter.isVisible hname.1, ih hname.2⟩

/-! ### Readers of names -/

/-- **A reader that knows names.**  It takes a text for a value exactly if the text is one of the
names of the value, up to the case of ASCII letters; any other text is refused in the words for
unknown names. -/
structure KnowsNames {α : Type} (names : α → List String) (unknown : String → String)
    (read : String → Except String α) : Prop where
  accepts_iff : ∀ text value, read text = .ok value ↔ ∃ name ∈ names value, SameButCase text name
  refuses_iff : ∀ text words, read text = .error words ↔
    (∀ value, ∀ name ∈ names value, ¬ SameButCase text name) ∧ words = unknown text

namespace KnowsNames

variable {α : Type} {names : α → List String} {unknown : String → String}
  {read : String → Except String α}

/-- A reader that searches a table of names in small letters for the small letters of a text. -/
theorem of_search (search : String → Option α)
    (hread : ∀ text, read text = match search text.toLower with
      | some value => .ok value
      | none => .error (unknown text))
    (hsearch : ∀ name value, search name = some value ↔ name ∈ names value)
    (hplain : ∀ value, ∀ name ∈ names value, name.toList.all isPlain = true) :
    KnowsNames names unknown read := by
  have hfound : ∀ text value,
      search text.toLower = some value ↔ ∃ name ∈ names value, SameButCase text name := by
    intro text value
    rw [hsearch]
    constructor
    · intro hmem
      exact ⟨_, hmem, toLower_eq_toLower_iff.1 (toLower_of_plain (hplain value _ hmem)).symm⟩
    · rintro ⟨name, hname, hsame⟩
      rw [toLower_eq_toLower_iff.2 hsame, toLower_of_plain (hplain value name hname)]
      exact hname
  constructor
  · intro text value
    rw [← hfound, hread]
    cases search text.toLower <;> simp
  · intro text words
    have hnone : (∀ value, ∀ name ∈ names value, ¬ SameButCase text name) ↔
        search text.toLower = none := by
      simp only [Option.eq_none_iff_forall_ne_some, ne_eq, hfound, not_exists, not_and]
    rw [hnone, hread]
    cases search text.toLower <;> simp [eq_comm]

/-- Case does not matter. -/
theorem read_eq_ok_congr (h : KnowsNames names unknown read) {text other : String}
    (hsame : SameButCase text other) (value : α) :
    read text = .ok value ↔ read other = .ok value := by
  simp only [h.accepts_iff, ← toLower_eq_toLower_iff, toLower_eq_toLower_iff.2 hsame]

/-- A text that is accepted is visible throughout, like the name that it is taken for. -/
theorem isVisible (h : KnowsNames names unknown read)
    (hplain : ∀ value, ∀ name ∈ names value, name.toList.all isPlain = true) {text : String}
    {value : α} (hread : read text = .ok value) : ∀ c ∈ text.toList, IsVisible c := by
  obtain ⟨name, hname, hsame⟩ := (h.accepts_iff text value).1 hread
  have hletters := List.all_eq_true.1 (hplain value name hname)
  exact hsame.isVisible fun c hc => (isPlain_iff.1 (hletters c hc)).1

/-- A text with a character that is not visible is refused. -/
theorem refuses_of_not_isVisible (h : KnowsNames names unknown read)
    (hplain : ∀ value, ∀ name ∈ names value, name.toList.all isPlain = true) {text : String}
    {c : Char} (hc : c ∈ text.toList) (hhidden : ¬ IsVisible c) :
    read text = .error (unknown text) := by
  cases hread : read text with
  | error words => rw [((h.refuses_iff text words).1 hread).2]
  | ok value => exact absurd (h.isVisible hplain hread c hc) hhidden

/-- A name is read as what it names. -/
theorem read_name (h : KnowsNames names unknown read) {name : String} {value : α}
    (hname : name ∈ names value) : read name = .ok value :=
  (h.accepts_iff name value).2 ⟨name, hname, toLower_eq_toLower_iff.1 rfl⟩

end KnowsNames

namespace OutputFormat

/-- The names of a format. -/
def names : OutputFormat → List String
  | .decimal => ["decimal", "dec", "int"]
  | .hex => ["hex", "le"]
  | .console => ["console", "js"]

theorem plain_names (format : OutputFormat) :
    ∀ name ∈ format.names, name.toList.all isPlain = true := by
  cases format <;> decide

theorem ofLowerName?_eq_some_iff (name : String) (format : OutputFormat) :
    ofLowerName? name = some format ↔ name ∈ format.names := by
  constructor
  · intro h
    rw [ofLowerName?] at h
    split_ifs at h with hdecimal hhex hconsole
    · cases h
      simpa only [names, List.mem_cons, List.not_mem_nil, or_false] using hdecimal
    · cases h
      simpa only [names, List.mem_cons, List.not_mem_nil, or_false] using hhex
    · cases h
      simpa only [names, List.mem_cons, List.not_mem_nil, or_false] using hconsole
  · intro h
    have hnames : ∀ name ∈ format.names, ofLowerName? name = some format := by
      cases format <;> decide
    exact hnames name h

theorem knowsNames : KnowsNames names unknownMessage ofName := by
  refine .of_search ofLowerName? ?_ ofLowerName?_eq_some_iff plain_names
  intro text
  rw [ofName]
  cases ofLowerName? text.toLower <;> rfl

theorem ofName_name (format : OutputFormat) : ofName format.name = .ok format := by
  refine knowsNames.read_name ?_
  cases format <;> exact List.mem_cons_self

/-- Case does not matter, not even to the words of a refusal. -/
theorem ofName_congr {text other : String} (h : SameButCase text other) :
    ofName text = ofName other := by
  have hlower : text.toLower = other.toLower := toLower_eq_toLower_iff.2 h
  have hwords : unknownMessage text = unknownMessage other :=
    congrArg (fun lower => "unknown format '" ++ lower ++ "'. Valid formats: decimal, hex, console")
      hlower
  rw [ofName, ofName, hlower, hwords]

end OutputFormat

namespace Preset

/-- The names of a capture. -/
def names : Preset → List String
  | .capture1 => ["capture-1"]
  | .capture2 => ["capture-2"]

theorem name_mem_names (preset : Preset) : preset.name ∈ preset.names := by
  cases preset <;> exact List.mem_cons_self

theorem plain_names (preset : Preset) :
    ∀ name ∈ preset.names, name.toList.all isPlain = true := by
  cases preset <;> decide

theorem find?_eq_some_iff (name : String) (preset : Preset) :
    (all.find? fun preset => preset.name.toLower == name) = some preset ↔
      name ∈ preset.names := by
  have hlower : ∀ preset : Preset, preset.name.toLower = preset.name := fun preset =>
    toLower_of_plain (plain_names preset _ (name_mem_names preset))
  simp only [hlower]
  constructor
  · intro h
    have hname := List.find?_some h
    rw [beq_iff_eq] at hname
    rw [← hname]
    exact name_mem_names preset
  · intro h
    have hnames : ∀ name ∈ preset.names,
        (all.find? fun preset => preset.name == name) = some preset := by
      cases preset <;> decide
    exact hnames name h

theorem knowsNames : KnowsNames names unknownMessage ofName := by
  refine .of_search (fun name => all.find? fun preset => preset.name.toLower == name) ?_
    find?_eq_some_iff plain_names
  intro text
  rw [ofName]
  cases all.find? fun preset => preset.name.toLower == text.toLower <;> rfl

theorem ofName_name (preset : Preset) : ofName preset.name = .ok preset :=
  knowsNames.read_name (name_mem_names preset)

end Preset

end PegBox
