/-
**Operands that are printed alike.**

An integer begins with a digit or a minus sign, a text with its quote, and a name with a letter or
an underscore; so the line of an operand tells these apart and gives their values back. It does not
tell a number with a fraction from an integer. In a slot with a title, it does not tell a missing
operand from the name that stands for one.

* `Integer.write_injective` — an integer is told by its digits.
* `Literal.eq_of_print` — a literal is told by its text, unless it is a number with a fraction.
* **`Operand.form_eq_of_print`** — operands in slots without a title.
* **`Operand.form_eq_of_printTitled`** — operands in slots with a title.
-/

import TurtleScene.Proofs.Contents
import TurtleScene.Scene.Outline

namespace TurtleScene

/-! ### Integers -/

namespace Integer

/-- The digits of an integer denote it. -/
theorem ofText_write (value : Int64) : ofText (write value) = value.toInt := by
  unfold write
  split
  · rw [ofText, Numeral.value_write]
    omega
  · have noSign : ∀ others, Numeral.write value.toInt.natAbs ≠ '-' :: others := fun others same =>
      absurd (Numeral.isDigit_of_mem_write (same ▸ List.mem_cons_self)) (by decide)
    rw [ofText.eq_2 _ noSign, Numeral.value_write]
    omega

theorem write_injective : Function.Injective write := by
  intro first second same
  rw [← Int64.toInt_inj, ← ofText_write, same, ofText_write]

/-- An integer begins neither like a name nor like a text. -/
theorem write_starts (value : Int64) :
    ∃ head tail, write value = head :: tail ∧ isWordStart head = false ∧ head ≠ '"' := by
  unfold write
  split
  · exact ⟨'-', _, rfl, by decide, by decide⟩
  · obtain ⟨head, tail, form⟩ := List.exists_cons_of_ne_nil
      (Nat.toDigits_ne_nil (b := 10) (n := value.toInt.natAbs))
    have isDigit : head.isDigit = true :=
      Nat.isDigit_of_mem_toDigits (by decide) (by decide) (form ▸ List.mem_cons_self)
    refine ⟨head, tail, form, isWordStart_false_of_isDigit isDigit, ?_⟩
    rintro rfl
    exact absurd isDigit (by decide)

end Integer

/-! ### Numbers on one line -/

theorem Integer.newline_notMem_write (value : Int64) : '\n' ∉ write value := by
  have inDigits : ∀ number : Nat, '\n' ∉ Numeral.write number := fun _ member =>
    absurd (Numeral.isDigit_of_mem_write member) (by decide)
  unfold write
  split <;> simp [inDigits]

theorem Decimal.isDigit_of_mem_paddedDigits {decimal : Decimal} {digit : Char}
    (member : digit ∈ decimal.paddedDigits) : digit.isDigit = true := by
  rcases List.mem_append.mp member with inPadding | inNumber
  · rw [List.eq_of_mem_replicate inPadding]
    decide
  · exact Numeral.isDigit_of_mem_write inNumber

theorem Decimal.newline_notMem_write (decimal : Decimal) : '\n' ∉ decimal.write := by
  have inDigits : '\n' ∉ decimal.paddedDigits := fun member =>
    absurd (isDigit_of_mem_paddedDigits member) (by decide)
  have inWhole : '\n' ∉ decimal.wholeDigits := fun member =>
    inDigits (List.mem_of_mem_take member)
  have inFraction : '\n' ∉ decimal.fractionDigits := fun member =>
    inDigits (List.mem_of_mem_drop (List.mem_reverse.mp
      ((List.dropWhile_sublist _).subset (List.mem_reverse.mp member))))
  unfold write
  split <;> simp [inWhole, inFraction]

theorem Binary64.newline_notMem_write (number : Binary64) : '\n' ∉ number.write := by
  unfold write
  dsimp only
  split_ifs <;> simp [Decimal.newline_notMem_write]

/-! ### Literals -/

namespace Literal

/-- A literal of a source stands on one line. -/
theorem newline_notMem_print {literal : Literal} (spelled : (OperandForm.literal literal).Spelled) :
    '\n' ∉ literal.print.toList := by
  cases spelled with
  | integer value => simpa [print] using Integer.newline_notMem_write value
  | real value => simpa [print] using value.newline_notMem_write
  | text quotable =>
    have inText : '\n' ∉ _ := fun member => absurd (quotable _ member) (by decide)
    simpa [print] using inText
  | name isName => exact isName.oneLine

theorem integer_ne_text (value : Int64) (text : String) :
    (integer value).print ≠ (Literal.text text).print := by
  intro same
  obtain ⟨head, tail, form, _, noQuote⟩ := Integer.write_starts value
  have letters := congrArg String.toList same
  simp only [print, String.toList_ofList, form, String.toList_append, List.append_assoc] at letters
  exact noQuote (List.cons.inj letters).1

theorem integer_ne_name (value : Int64) {name : String} (isName : IsName name) :
    (integer value).print ≠ (Literal.name name).print := by
  intro same
  obtain ⟨head, tail, form, noStart, _⟩ := Integer.write_starts value
  obtain ⟨first, others, nameForm, starts, _⟩ := isName.exists_cons
  have letters := congrArg String.toList same
  simp only [print, String.toList_ofList, form, nameForm] at letters
  rw [(List.cons.inj letters).1, starts] at noStart
  cases noStart

theorem text_ne_name (text : String) {name : String} (isName : IsName name) :
    (Literal.text text).print ≠ (Literal.name name).print := by
  intro same
  obtain ⟨first, others, nameForm, starts, _⟩ := isName.exists_cons
  have letters := congrArg String.toList same
  simp only [print, nameForm, String.toList_append, List.append_assoc] at letters
  rw [← (List.cons.inj letters).1] at starts
  exact absurd starts (by decide)

/-- A number that is written with a point. -/
def IsReal (literal : Literal) : Prop := ∃ value, literal = .real value

/-- **A literal is told by its text**, unless it is a number with a fraction. -/
theorem eq_of_print {first second : Literal} (spelled : (OperandForm.literal first).Spelled)
    (otherSpelled : (OperandForm.literal second).Spelled) (same : first.print = second.print) :
    first = second ∨ first.IsReal ∨ second.IsReal := by
  cases spelled with
  | real value => exact .inr (.inl ⟨value, rfl⟩)
  | integer value =>
    cases otherSpelled with
    | real other => exact .inr (.inr ⟨other, rfl⟩)
    | integer other =>
      exact .inl (congrArg integer (Integer.write_injective (String.ofList_injective same)))
    | text _ => exact (integer_ne_text _ _ same).elim
    | name isName => exact (integer_ne_name _ isName same).elim
  | text _ =>
    cases otherSpelled with
    | real other => exact .inr (.inr ⟨other, rfl⟩)
    | integer other => exact (integer_ne_text _ _ same.symm).elim
    | text _ => exact .inl (congrArg text (by simpa [print] using same))
    | name isName => exact (text_ne_name _ isName same).elim
  | name isName =>
    cases otherSpelled with
    | real other => exact .inr (.inr ⟨other, rfl⟩)
    | integer other => exact (integer_ne_name _ isName same.symm).elim
    | text _ => exact (text_ne_name _ isName same.symm).elim
    | name _ => exact .inl (congrArg name same)

end Literal

/-! ### Operands -/

/-- The name that is printed like a missing operand. -/
theorem isName_nill : IsName "nill" :=
  Pattern.mem_identifier.mpr
    ⟨'n', ['i', 'l', 'l'], by decide, List.all_eq_true.mp (by decide), by decide⟩

theorem OperandForm.Spelled.missing_or_literal {form : OperandForm} (spelled : form.Spelled) :
    form = .missing ∨ ∃ literal, form = .literal literal := by
  cases spelled with
  | missing => exact .inl rfl
  | integer _ | real _ | text _ | name _ => exact .inr ⟨_, rfl⟩

namespace Operand

/-- The operand is a number that is written with a point. -/
def IsReal (operand : Operand) : Prop := ∃ value, operand.form = .literal (.real value)

/-- The first operand is missing, and the second is the name that is printed like it. -/
def IsMissingFor (first second : Operand) : Prop :=
  first.form = .missing ∧ second.form = .literal (.name "nill")

variable {first second : Operand}

/-- Operands that are literals with the same text. -/
theorem form_eq_of_literals {literal other : Literal} (spelled : first.form.Spelled)
    (otherSpelled : second.form.Spelled) (isLiteral : first.form = .literal literal)
    (isOther : second.form = .literal other) (same : literal.print = other.print) :
    first.form = second.form ∨ first.IsReal ∨ second.IsReal := by
  rw [isLiteral] at spelled
  rw [isOther] at otherSpelled
  rcases Literal.eq_of_print spelled otherSpelled same with rfl | ⟨value, rfl⟩ | ⟨value, rfl⟩
  · exact .inl (isLiteral.trans isOther.symm)
  · exact .inr (.inl ⟨value, isLiteral⟩)
  · exact .inr (.inr ⟨value, isOther⟩)

/-- **Operands with the same line, in slots without a title**, are the same unless one of them is a
number that is written with a point. -/
theorem form_eq_of_print (spelled : first.form.Spelled) (otherSpelled : second.form.Spelled)
    (same : first.print = second.print) :
    first.form = second.form ∨ first.IsReal ∨ second.IsReal := by
  have apart : ∀ literal : Literal, "nill" ≠ "value: " ++ literal.print := by
    intro literal same
    have letters := congrArg String.toList same
    rw [String.toList_append] at letters
    exact absurd (List.cons.inj letters).1 (by decide)
  unfold print at same
  rcases spelled.missing_or_literal with isMissing | ⟨literal, isLiteral⟩ <;>
    rcases otherSpelled.missing_or_literal with otherMissing | ⟨other, isOther⟩
  · exact .inl (isMissing.trans otherMissing.symm)
  · rw [isMissing, isOther] at same
    exact (apart other same).elim
  · rw [isLiteral, otherMissing] at same
    exact (apart literal same.symm).elim
  · rw [isLiteral, isOther] at same
    exact form_eq_of_literals spelled otherSpelled isLiteral isOther
      ((String.append_right_inj _).mp same)

/-- A literal that is printed like a missing operand. -/
theorem eq_nill_of_print {literal : Literal} (spelled : (OperandForm.literal literal).Spelled)
    (same : literal.print = "nill") : literal = .name "nill" ∨ literal.IsReal := by
  rcases Literal.eq_of_print spelled (.name isName_nill) same with isName | isReal | ⟨_, isReal⟩
  · exact .inl isName
  · exact .inr isReal
  · cases isReal

/-- **Operands with the same line, in slots with the same title**, are the same unless one of them
is a number that is written with a point, or one is missing and the other the name `nill`. -/
theorem form_eq_of_printTitled {title : String} (spelled : first.form.Spelled)
    (otherSpelled : second.form.Spelled)
    (same : first.printTitled title = second.printTitled title) :
    first.form = second.form ∨ first.IsReal ∨ second.IsReal ∨ first.IsMissingFor second ∨
      second.IsMissingFor first := by
  unfold printTitled at same
  rw [String.append_right_inj] at same
  rcases spelled.missing_or_literal with isMissing | ⟨literal, isLiteral⟩ <;>
    rcases otherSpelled.missing_or_literal with otherMissing | ⟨other, isOther⟩
  · exact .inl (isMissing.trans otherMissing.symm)
  · rw [isMissing, isOther] at same
    rcases eq_nill_of_print (isOther ▸ otherSpelled) same.symm with rfl | ⟨value, rfl⟩
    · exact .inr (.inr (.inr (.inl ⟨isMissing, isOther⟩)))
    · exact .inr (.inr (.inl ⟨value, isOther⟩))
  · rw [isLiteral, otherMissing] at same
    rcases eq_nill_of_print (isLiteral ▸ spelled) same with rfl | ⟨value, rfl⟩
    · exact .inr (.inr (.inr (.inr ⟨otherMissing, isLiteral⟩)))
    · exact .inr (.inl ⟨value, isLiteral⟩)
  · rw [isLiteral, isOther] at same
    rcases form_eq_of_literals spelled otherSpelled isLiteral isOther same with
      same | isReal | isReal
    · exact .inl same
    · exact .inr (.inl isReal)
    · exact .inr (.inr (.inl isReal))

end Operand

end TurtleScene
