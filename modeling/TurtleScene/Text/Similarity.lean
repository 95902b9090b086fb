/-
**How alike two words are.**

Two words are alike if many of their characters can be paired, equal ones at about the same place,
and if the pairs stand in the same order in both words.

* `pairFrom` pairs the characters of two words.
* `similarity` is the mean of three parts: how much of the one word is paired, how much of the
  other, and how much of the pairs is in order. It is a magnitude of a floating-point number, and
  each step to it is rounded.
-/

import TurtleScene.Number.Rounding

namespace TurtleScene.Text

/-! ### Pairs of characters -/

/-- A character of a word, and whether it is paired. -/
structure Letter where
  character : Char
  paired : Bool
  deriving DecidableEq

/-- The place of the first letter that can be paired with a character at a place: an equal one that
is free, and no further away than `reach`. -/
def partner? (reach place : Nat) (character : Char) (letters : List Letter) : Option Nat :=
  let earliest := place - reach
  (List.range' earliest (place + reach + 1 - earliest)).find? fun other =>
    letters[other]? = some ⟨character, false⟩

/-- Pairs characters, the first of which is at a place, with the letters of another word. The
characters of the pairs, in the order of the one word and of the other. -/
def pairFrom (reach place : Nat) : List Char → List Letter → List Char × List Char
  | [], letters => ([], (letters.filter Letter.paired).map Letter.character)
  | character :: others, letters =>
    match partner? reach place character letters with
    | none => pairFrom reach (place + 1) others letters
    | some partner =>
      let (first, second) :=
        pairFrom reach (place + 1) others (letters.set partner ⟨character, true⟩)
      (character :: first, second)

/-! ### The measure -/

/-- How alike two words are: a magnitude from that of zero to that of one. -/
def similarity (first second : String) : Nat :=
  let reach := max first.length second.length / 2 - 1
  let (paired, partners) := pairFrom reach 0 first.toList (second.toList.map (⟨·, false⟩))
  -- Two pairs that have changed places are out of order at both of them.
  let swapped := ((paired.zip partners).countP fun (one, other) => one ≠ other) / 2
  if paired.isEmpty then 0
  else
    let inFirst := Binary64.nearest paired.length first.length
    let inSecond := Binary64.nearest paired.length second.length
    let inOrder := Binary64.nearest (paired.length - swapped) paired.length
    Binary64.divide (Binary64.add (Binary64.add inFirst inSecond) inOrder) (Binary64.nearest 3 1)

end TurtleScene.Text
