/-
**Which colours are accepted.**

A palette grows by the colours that it does not have yet. Whether it accepts a colour is a matter of
its members alone, and so is all that a run says of a source.

* `Palette.names_allowAll` — the names behind any number of additions: those from the start, then
  the new ones, each once, in the order in which they came first.
* `isHexColor_iff` — a colour code is a `#` in front of three or of six hexadecimal digits. Its
  length is measured in bytes, but none of its characters takes more than one.
* `Palette.accepts_allowAll_iff` — the colours accepted behind any number of additions.
* **`checkSource_congr`** — palettes with the same members lead to the same run.
-/

import TurtleScene.Command.Answer
import TurtleScene.Proofs.Pattern

namespace TurtleScene

/-! ### The names of a palette -/

theorem Palette.allowAll_concat (palette : Palette) (colors : List String) (color : String) :
    palette.allowAll (colors ++ [color]) = (palette.allowAll colors).allow color := by
  simp [allowAll]

/-- One more colour comes last, unless it was there. -/
theorem Palette.names_allow (palette : Palette) (color : String) :
    (palette.allow color).names =
      if color ∈ palette.names then palette.names else palette.names ++ [color] := by
  unfold allow
  by_cases present : color ∈ palette.names
  · rw [if_pos present, if_pos (contains_iff.mpr present)]
  · rw [if_neg present, if_neg (mt contains_iff.mp present)]

theorem eraseDups_concat (names : List String) (name : String) :
    (names ++ [name]).eraseDups =
      if name ∈ names then names.eraseDups else names.eraseDups ++ [name] := by
  rw [List.eraseDups_append]
  by_cases present : name ∈ names <;> simp [List.removeAll, present, List.eraseDups_cons]

/-- **The names behind any number of additions**: those from the start, then the others, each once
and in the order in which they came first. -/
theorem Palette.names_allowAll (palette : Palette) (colors : List String) :
    (palette.allowAll colors).names =
      palette.names ++ (colors.filter (· ∉ palette.names)).eraseDups := by
  induction colors using List.reverseRecOn with
  | nil => simp [allowAll]
  | append_singleton colors color before =>
    rw [allowAll_concat, names_allow, before, List.filter_append]
    by_cases first : color ∈ palette.names
    · simp [first]
    · rw [List.filter_singleton, decide_eq_true first, cond_true, eraseDups_concat]
      by_cases allowed : color ∈ colors <;> simp [first, allowed]

theorem Palette.mem_names_allowAll_iff {palette : Palette} {colors : List String}
    {color : String} :
    color ∈ (palette.allowAll colors).names ↔ color ∈ palette.names ∨ color ∈ colors := by
  rw [names_allowAll, List.mem_append, List.mem_eraseDups, List.mem_filter, decide_eq_true_iff]
  tauto

/-! ### Colour codes -/

/-- The hexadecimal digits, in both cases. -/
def hexDigits : List Char := "0123456789abcdefABCDEF".toList

theorem mem_hexDigits_iff {character : Char} :
    character ∈ hexDigits ↔ isHexDigit character = true := by
  constructor
  · intro member
    have each : hexDigits.all isHexDigit = true := by decide
    exact List.all_eq_true.mp each character member
  · intro isDigit
    have ranges : hexDigits =
        (List.range' 48 10 ++ List.range' 97 6 ++ List.range' 65 6).map Char.ofNat := by decide
    have within : character.toNat ∈ List.range' 48 10 ++ List.range' 97 6 ++ List.range' 65 6 := by
      simp only [isHexDigit, Bool.or_eq_true, Bool.and_eq_true, decide_eq_true_eq,
        isDigit_iff] at isDigit
      simp only [List.mem_append, List.mem_range'_1]
      have digits : (48 ≤ character.toNat ∧ character.toNat ≤ 57 ∨
          97 ≤ character.toNat ∧ character.toNat ≤ 102) ∨
            65 ≤ character.toNat ∧ character.toNat ≤ 70 := isDigit
      omega
    rw [ranges]
    exact List.mem_map.mpr ⟨character.toNat, within, Char.ofNat_toNat character⟩

/-- A hexadecimal digit takes one byte. -/
theorem byteLength_of_hexDigits {digits : List Char} (each : ∀ digit ∈ digits, digit ∈ hexDigits) :
    Text.byteLength digits = digits.length := by
  have single : (hexDigits.all fun digit => digit.utf8Size == 1) = true := by decide
  induction digits with
  | nil => rfl
  | cons digit others behind =>
    have oneByte : digit.utf8Size = 1 :=
      beq_iff_eq.mp (List.all_eq_true.mp single digit (each digit (.head _)))
    rw [Text.byteLength_cons, oneByte, behind fun other member => each other (.tail _ member),
      List.length_cons, Nat.add_comm]

/-- **A colour code** is a `#` in front of three or of six hexadecimal digits. -/
theorem isHexColor_iff {text : String} :
    isHexColor text = true ↔
      ∃ digits, text.toList = '#' :: digits ∧ (digits.length = 3 ∨ digits.length = 6) ∧
        ∀ digit ∈ digits, digit ∈ hexDigits := by
  have coded : ∀ digits : List Char,
      ((Text.byteLength ('#' :: digits) == 4 || Text.byteLength ('#' :: digits) == 7) &&
          digits.all isHexDigit) = true ↔
        (digits.length = 3 ∨ digits.length = 6) ∧ ∀ digit ∈ digits, digit ∈ hexDigits := by
    intro digits
    rw [Bool.and_eq_true, List.all_eq_true]
    simp only [← mem_hexDigits_iff]
    refine and_congr_left fun each => ?_
    have mark : ('#' : Char).utf8Size = 1 := by decide
    rw [Text.byteLength_cons, byteLength_of_hexDigits each, mark]
    simp only [Bool.or_eq_true, beq_iff_eq]
    omega
  unfold isHexColor
  split
  · rename_i digits begins
    rw [coded digits, begins]
    constructor
    · intro isCode
      exact ⟨digits, rfl, isCode⟩
    · rintro ⟨others, same, isCode⟩
      cases same
      exact isCode
  · rename_i unlike
    constructor
    · intro absurd
      cases absurd
    · rintro ⟨digits, begins, _⟩
      exact absurd begins (unlike digits)

/-- **The colours that are accepted behind any number of additions.** -/
theorem Palette.accepts_allowAll_iff {palette : Palette} {colors : List String}
    {color : String} :
    (palette.allowAll colors).accepts color = true ↔
      color ∈ palette.names ∨ color ∈ colors ∨
        ∃ digits, color.toList = '#' :: digits ∧ (digits.length = 3 ∨ digits.length = 6) ∧
          ∀ digit ∈ digits, digit ∈ hexDigits := by
  rw [accepts, Bool.or_eq_true, contains_iff, mem_names_allowAll_iff, isHexColor_iff, or_assoc]

/-! ### Palettes with the same members -/

section Members

variable {first second : Palette}

/-- Two palettes have the same members. -/
def Palette.SameMembers (first second : Palette) : Prop :=
  ∀ color, color ∈ first.names ↔ color ∈ second.names

theorem Palette.SameMembers.accepts (same : first.SameMembers second) (color : String) :
    first.accepts color = second.accepts color := by
  rw [Palette.accepts, Palette.accepts, Bool.eq_iff_iff]
  simp only [Bool.or_eq_true, contains_iff, same color]

/-- **Palettes with the same members find the same in a scene.** -/
theorem Scene.check_congr (same : first.SameMembers second) (surroundings : Option Scope)
    (scene : Scene) : scene.check first surroundings = scene.check second surroundings := by
  have draws : Draw.check first = Draw.check second := by
    funext scope draw
    simp only [Draw.check, Shape.check, Shape.checkPencil, same.accepts]
  rw [Scene.check, Scene.check, draws]

/-- **Palettes with the same members lead to the same run.** -/
theorem checkSource_congr (same : first.SameMembers second) (settings : Settings) (file : Nat)
    (source : SourceFile) :
    checkSource { settings with palette := first } file source =
      checkSource { settings with palette := second } file source := by
  have scenes : ∀ scene, checkScene { settings with palette := first } file scene =
      checkScene { settings with palette := second } file scene := by
    intro scene
    simp only [checkScene, Scene.check_congr same]
    rfl
  simp only [checkSource, parseAndCheck, scenes]
  rfl

end Members

end TurtleScene
