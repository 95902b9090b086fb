/-
**The parser reads what the grammar derives.**

Each part of the parser succeeds exactly on the tokens that a tree of its production derives, and
gives what the tree denotes. The two directions are one equivalence per production, so that a
production is put together from the equivalences of its parts.

* `ExpressionTree.Readable` — the texts in an expression are numbers of the machine.
* `expression_ok_iff`, `instruction_ok_iff`, `shape_ok_iff`, … — one equivalence per production.
* `optionalExpression_ok_iff`, `position_ok_iff` — where the next token tells what is left out.
* **`Parser.declarations_ok_iff`** — the declarations of a source, no shape among them twice.
-/

import TurtleScene.Proofs.Derivation
import TurtleScene.Proofs.Steps

namespace TurtleScene

/-! ### Operands -/

/-- The literal that the texts of an expression are read as, if they are numbers of the machine. -/
def ExpressionTree.reading? : ExpressionTree → Option Literal
  | .integer digits _ => (Integer.read? digits.toList).map .integer
  | .decimal text _ => (Binary64.read? text.toList).map .real
  | .string text _ => some (.text text)
  | .name text _ => some (.name text)
  | .negativeInteger _ digits _ => (Integer.read? ("-" ++ digits).toList).map .integer
  | .negativeDecimal _ text _ => (Binary64.read? text.toList).map fun value => .real value.negate

/-- The texts in an expression are numbers of the machine. -/
def ExpressionTree.Readable (expression : ExpressionTree) : Prop := expression.reading?.isSome

/-- A text is an integer of the machine if it is a numeral behind an optional minus sign and in
range. -/
theorem Integer.read?_eq (text : List Char) :
    Integer.read? text =
      if (!(unsigned text).isEmpty && (unsigned text).all Char.isDigit) &&
          inRange (ofText text) then
        some (Int64.ofInt (ofText text))
      else none := by
  unfold Integer.read?
  split
  · rw [Numeral.read?, unsigned, ofText]
    split <;> rename_i numeral <;> simp [numeral]
  · rename_i noSign
    rw [Numeral.read?, unsigned.eq_2 text noSign, ofText.eq_2 text noSign]
    split <;> rename_i numeral <;> simp [numeral]

theorem Integer.read?_eq_some {text : List Char} {value : Int64}
    (found : Integer.read? text = some value) : Int64.ofInt (Integer.ofText text) = value := by
  rw [read?_eq, Option.ite_none_right_eq_some] at found
  exact Option.some.inj found.2

theorem Binary64.read?_eq_some {text : String} {value : Binary64}
    (found : Binary64.read? text.toList = some value) : Binary64.ofText text = value := by
  obtain ⟨decimal, read, rfl⟩ := Option.map_eq_some_iff.mp found
  have same : decimal = Decimal.ofText text.toList := by
    unfold Decimal.read? at read
    unfold Decimal.ofText
    split at read
    · rename_i fraction point
      rw [Option.ite_none_right_eq_some] at read
      rw [point]
      exact (Option.some.inj read.2).symm
    · cases read
  rw [same, ofText]

/-- An expression that is readable is read as the literal that it denotes. -/
theorem ExpressionTree.Readable.reading?_eq {expression : ExpressionTree}
    (readable : expression.Readable) : expression.reading? = some expression.literal := by
  obtain ⟨literal, found⟩ := Option.isSome_iff_exists.mp readable
  rw [found]
  cases expression with
  | integer digits place =>
    obtain ⟨value, read, rfl⟩ := Option.map_eq_some_iff.mp found
    rw [ExpressionTree.literal, Integer.read?_eq_some read]
  | decimal text place =>
    obtain ⟨value, read, rfl⟩ := Option.map_eq_some_iff.mp found
    rw [ExpressionTree.literal, Binary64.read?_eq_some read]
  | string text place | name text place => exact found.symm
  | negativeInteger minus digits place =>
    obtain ⟨value, read, rfl⟩ := Option.map_eq_some_iff.mp found
    rw [String.toList_append] at read
    rw [ExpressionTree.literal, ← Integer.read?_eq_some read]
    rfl
  | negativeDecimal minus text place =>
    obtain ⟨value, read, rfl⟩ := Option.map_eq_some_iff.mp found
    rw [ExpressionTree.literal, Binary64.read?_eq_some read]

namespace Parser

theorem integerOperand_ok_iff {text : String} {span : Span} {cursor last : Cursor}
    {operand : Operand} :
    integerOperand text span cursor = .ok operand last ↔
      ∃ value, Integer.read? text.toList = some value ∧
        ⟨.literal (.integer value), span⟩ = operand ∧ cursor = last := by
  unfold integerOperand
  cases Integer.read? text.toList with
  | some value => simp [pure_ok_iff]
  | none => simp

theorem decimalNumber_ok_iff {text : String} {span : Span} {cursor last : Cursor}
    {number : Binary64} :
    decimalNumber text span cursor = .ok number last ↔
      Binary64.read? text.toList = some number ∧ cursor = last := by
  unfold decimalNumber
  cases Binary64.read? text.toList with
  | some value => simp [pure_ok_iff]
  | none => simp

/-- A number behind a minus sign is read together with it. -/
theorem negated_ok_iff {minus : Span} {cursor last : Cursor} {operand : Operand} :
    negated ⟨.mark .minus, minus⟩ cursor = .ok operand last ↔
      ∃ (tree : ExpressionTree) (literal : Literal) (number : Token),
        tree.reading? = some literal ∧ ⟨.literal literal, tree.span⟩ = operand ∧
          tree.tokens = [⟨.mark .minus, minus⟩, number] ∧ advance cursor = .ok number last := by
  rw [negated, bind_ok_iff]
  constructor
  · rintro ⟨⟨kind, place⟩, after, taken, done⟩
    cases kind with
    | integer digits =>
      obtain ⟨value, read, rfl, rfl⟩ := integerOperand_ok_iff.mp done
      exact ⟨.negativeInteger minus digits place, .integer value, _,
        Option.map_eq_some_iff.mpr ⟨value, read, rfl⟩, rfl, rfl, taken⟩
    | decimal text =>
      obtain ⟨value, _, converted, done⟩ := bind_ok_iff.mp done
      obtain ⟨read, rfl⟩ := decimalNumber_ok_iff.mp converted
      obtain ⟨rfl, rfl⟩ := pure_ok_iff.mp done
      exact ⟨.negativeDecimal minus text place, .real value.negate, _,
        Option.map_eq_some_iff.mpr ⟨value, read, rfl⟩, rfl, rfl, taken⟩
    | keyword _ | mark _ | identifier _ | string _ | color _ | endOfFile =>
      exact (throw_ne_ok done).elim
  · rintro ⟨tree, literal, number, found, rfl, same, taken⟩
    refine ⟨number, last, taken, ?_⟩
    cases tree with
    | negativeInteger minus digits place =>
      obtain ⟨value, read, rfl⟩ := Option.map_eq_some_iff.mp found
      cases same
      exact integerOperand_ok_iff.mpr ⟨value, read, rfl, rfl⟩
    | negativeDecimal minus text place =>
      obtain ⟨value, read, rfl⟩ := Option.map_eq_some_iff.mp found
      cases same
      refine bind_ok_iff.mpr ⟨value, last, ?_, pure_ok_iff.mpr ⟨rfl, rfl⟩⟩
      exact decimalNumber_ok_iff.mpr ⟨read, rfl⟩
    | integer _ _ | decimal _ _ | string _ _ | name _ _ => cases same

/-- An expression is read with the literal of its texts. -/
theorem expression_ok_iff_reading {cursor last : Cursor} {operand : Operand} :
    expression cursor = .ok operand last ↔ ∃ (tree : ExpressionTree) (literal : Literal),
      tree.reading? = some literal ∧ ⟨.literal literal, tree.span⟩ = operand ∧
        Reads cursor tree.tokens last := by
  rw [expression, bind_ok_iff]
  constructor
  · rintro ⟨⟨kind, place⟩, after, taken, done⟩
    cases kind with
    | integer digits =>
      obtain ⟨value, read, rfl, rfl⟩ := integerOperand_ok_iff.mp done
      exact ⟨.integer digits place, .integer value, Option.map_eq_some_iff.mpr ⟨value, read, rfl⟩,
        rfl, reads_singleton.mpr taken⟩
    | decimal text =>
      obtain ⟨value, _, converted, done⟩ := bind_ok_iff.mp done
      obtain ⟨read, rfl⟩ := decimalNumber_ok_iff.mp converted
      obtain ⟨rfl, rfl⟩ := pure_ok_iff.mp done
      exact ⟨.decimal text place, .real value, Option.map_eq_some_iff.mpr ⟨value, read, rfl⟩,
        rfl, reads_singleton.mpr taken⟩
    | string text =>
      obtain ⟨rfl, rfl⟩ := pure_ok_iff.mp done
      exact ⟨.string text place, _, rfl, rfl, reads_singleton.mpr taken⟩
    | identifier name =>
      obtain ⟨rfl, rfl⟩ := pure_ok_iff.mp done
      exact ⟨.name name place, _, rfl, rfl, reads_singleton.mpr taken⟩
    | mark symbol =>
      cases symbol with
      | minus =>
        obtain ⟨tree, literal, number, read, rfl, same, behind⟩ := negated_ok_iff.mp done
        refine ⟨tree, literal, read, rfl, ?_⟩
        rw [same]
        exact ⟨after, taken, reads_singleton.mpr behind⟩
      | leftBrace | rightBrace | leftParen | rightParen | semicolon | comma | equals =>
        exact (throw_ne_ok done).elim
    | keyword _ | color _ | endOfFile => exact (throw_ne_ok done).elim
  · rintro ⟨tree, literal, found, rfl, reads⟩
    cases tree with
    | integer digits place =>
      obtain ⟨value, read, rfl⟩ := Option.map_eq_some_iff.mp found
      exact ⟨_, last, reads_singleton.mp reads, integerOperand_ok_iff.mpr ⟨value, read, rfl, rfl⟩⟩
    | decimal text place =>
      obtain ⟨value, read, rfl⟩ := Option.map_eq_some_iff.mp found
      refine ⟨_, last, reads_singleton.mp reads, ?_⟩
      refine bind_ok_iff.mpr ⟨value, last, ?_, pure_ok_iff.mpr ⟨rfl, rfl⟩⟩
      exact decimalNumber_ok_iff.mpr ⟨read, rfl⟩
    | string text place | name text place =>
      cases found
      exact ⟨_, last, reads_singleton.mp reads, pure_ok_iff.mpr ⟨rfl, rfl⟩⟩
    | negativeInteger minus digits place | negativeDecimal minus text place =>
      obtain ⟨after, taken, behind⟩ := reads
      exact ⟨_, after, taken, negated_ok_iff.mpr
        ⟨_, literal, _, found, rfl, rfl, reads_singleton.mp behind⟩⟩

/-- **An expression is read as the operand that it denotes.** -/
theorem expression_ok_iff {cursor last : Cursor} {operand : Operand} :
    expression cursor = .ok operand last ↔ ∃ tree : ExpressionTree,
      tree.Readable ∧ tree.operand = operand ∧ Reads cursor tree.tokens last := by
  rw [expression_ok_iff_reading]
  constructor
  · rintro ⟨tree, literal, found, rfl, reads⟩
    have readable : tree.Readable := Option.isSome_iff_exists.mpr ⟨literal, found⟩
    refine ⟨tree, readable, ?_, reads⟩
    rw [ExpressionTree.operand, ← Option.some.inj (found.symm.trans readable.reading?_eq)]
  · rintro ⟨tree, readable, rfl, reads⟩
    exact ⟨tree, tree.literal, readable.reading?_eq, rfl, reads⟩

/-- No expression begins with what ends the place of an operand. -/
theorem endsOperand_eq_false {tree : ExpressionTree} {cursor last : Cursor}
    (reads : Reads cursor tree.tokens last) : endsOperand cursor.current.kind = false := by
  cases tree <;> (rw [reads.current_eq]; rfl)

/-- The place of an operand is empty only in front of what ends it. -/
theorem optionalExpression_ok_iff {cursor last : Cursor} {operand : Operand} :
    optionalExpression cursor = .ok operand last ↔ ∃ content : Option ExpressionTree,
      (∀ tree ∈ content.toList, tree.Readable) ∧
        optionalOperand last.current.span content = operand ∧
        (content = none → endsOperand cursor.current.kind = true) ∧
        Reads cursor (optionalTokens content) last := by
  rw [optionalExpression, bind_ok_iff]
  simp only [current_ok_iff]
  constructor
  · rintro ⟨token, _, ⟨rfl, rfl⟩, done⟩
    by_cases ends : endsOperand cursor.current.kind = true
    · rw [if_pos ends] at done
      obtain ⟨rfl, rfl⟩ := pure_ok_iff.mp done
      exact ⟨none, by simp, rfl, fun _ => ends, rfl⟩
    · rw [if_neg ends] at done
      obtain ⟨tree, readable, rfl, reads⟩ := expression_ok_iff.mp done
      exact ⟨some tree, by simpa using readable, rfl, nofun, reads⟩
  · rintro ⟨content, readable, rfl, empty, reads⟩
    refine ⟨cursor.current, cursor, ⟨rfl, rfl⟩, ?_⟩
    cases content with
    | none =>
      cases reads
      rw [if_pos (empty rfl)]
      exact pure_ok_iff.mpr ⟨rfl, rfl⟩
    | some tree =>
      rw [endsOperand_eq_false reads, if_neg Bool.false_ne_true]
      exact expression_ok_iff.mpr ⟨tree, readable tree (by simp), rfl, reads⟩

/-- The place of an operand together with the mark that ends it. -/
theorem optionalExpression_then_mark_iff {symbol : Mark} {cursor last : Cursor} {operand : Operand}
    (ends : endsOperand (.mark symbol) = true) :
    (∃ closed, optionalExpression cursor = .ok operand closed ∧
        ∃ place, advance closed = .ok ⟨.mark symbol, place⟩ last) ↔
      ∃ (content : Option ExpressionTree) (place : Span),
        (∀ tree ∈ content.toList, tree.Readable) ∧ optionalOperand place content = operand ∧
          Reads cursor (optionalTokens content ++ [⟨.mark symbol, place⟩]) last := by
  simp only [optionalExpression_ok_iff, reads_append, reads_singleton]
  constructor
  · rintro ⟨closed, ⟨content, readable, rfl, _, reads⟩, place, taken⟩
    refine ⟨content, place, readable, ?_, closed, reads, taken⟩
    rw [(advance_ok_iff.mp taken).1]
  · rintro ⟨content, place, readable, rfl, closed, reads, taken⟩
    have current := (advance_ok_iff.mp taken).1
    refine ⟨closed, ⟨content, readable, ?_, ?_, reads⟩, place, taken⟩
    · rw [current]
    · rintro rfl
      cases reads
      rw [current]
      exact ends

/-- **An argument is read as the operand that it denotes.** -/
theorem argument_ok_iff {cursor last : Cursor} {operand : Operand} :
    argument cursor = .ok operand last ↔ ∃ tree : ArgumentTree,
      (∀ part ∈ tree.expressions, part.Readable) ∧ tree.operand = operand ∧
        Reads cursor tree.tokens last := by
  simp only [argument, mark, bind_ok_iff, discard_expect_ok_iff, pure_ok_iff]
  constructor
  · rintro ⟨_, inside, ⟨opening, opened⟩, _, closed, read, _, _, taken, rfl, rfl⟩
    obtain ⟨content, closing, readable, rfl, reads⟩ :=
      (optionalExpression_then_mark_iff rfl).mp ⟨closed, read, taken⟩
    exact ⟨⟨opening, content, closing⟩, readable, rfl, inside, opened, reads⟩
  · rintro ⟨⟨opening, content, closing⟩, readable, rfl, inside, opened, reads⟩
    obtain ⟨closed, read, taken⟩ :=
      (optionalExpression_then_mark_iff rfl).mpr ⟨content, closing, readable, rfl, reads⟩
    exact ⟨⟨⟩, inside, ⟨opening, opened⟩, _, closed, read, ⟨⟩, last, taken, rfl, rfl⟩

/-- **Two operands are read as those that they denote.** -/
theorem pair_ok_iff {cursor last : Cursor} {operands : Operand × Operand} :
    pair cursor = .ok operands last ↔ ∃ tree : PairTree,
      (∀ part ∈ tree.expressions, part.Readable) ∧ tree.operands = operands ∧
        Reads cursor tree.tokens last := by
  simp only [pair, mark, bind_ok_iff, discard_expect_ok_iff, pure_ok_iff]
  constructor
  · intro read
    obtain ⟨_, inside, ⟨opening, opened⟩, read⟩ := read
    obtain ⟨_, between, readFirst, _, second, isComma, read⟩ := read
    obtain ⟨_, closed, readSecond, _, _, isClosing, rfl, rfl⟩ := read
    obtain ⟨first, comma, inFirst, rfl, front⟩ :=
      (optionalExpression_then_mark_iff rfl).mp ⟨between, readFirst, isComma⟩
    obtain ⟨other, closing, inSecond, rfl, behind⟩ :=
      (optionalExpression_then_mark_iff rfl).mp ⟨closed, readSecond, isClosing⟩
    exact ⟨⟨opening, first, comma, other, closing⟩, List.forall_mem_append.mpr ⟨inFirst, inSecond⟩,
      rfl, inside, opened, reads_append.mpr ⟨second, front, behind⟩⟩
  · rintro ⟨⟨opening, first, comma, other, closing⟩, readable, rfl, inside, opened, others⟩
    obtain ⟨inFirst, inSecond⟩ := List.forall_mem_append.mp readable
    obtain ⟨second, front, behind⟩ := reads_append.mp others
    obtain ⟨between, readFirst, isComma⟩ :=
      (optionalExpression_then_mark_iff rfl).mpr ⟨first, comma, inFirst, rfl, front⟩
    obtain ⟨closed, readSecond, isClosing⟩ :=
      (optionalExpression_then_mark_iff rfl).mpr ⟨other, closing, inSecond, rfl, behind⟩
    exact ⟨⟨⟩, inside, ⟨opening, opened⟩, _, between, readFirst, ⟨⟩, second, isComma, _, closed,
      readSecond, ⟨⟩, last, isClosing, rfl, rfl⟩

/-! ### Instructions -/

/-- What stands behind a name is the argument of a call or the value of an assignment. -/
theorem callOrAssignment_ok_iff {name : String} {cursor last : Cursor} {form : InstructionForm}
    (place : Span) :
    callOrAssignment name cursor = .ok form last ↔ ∃ tree : FormTree,
      tree.firstToken = ⟨.identifier name, place⟩ ∧
        (∀ part ∈ tree.expressions, part.Readable) ∧ tree.form = form ∧
          Reads cursor tree.otherTokens last := by
  rw [callOrAssignment, bind_ok_iff]
  simp only [current_ok_iff]
  constructor
  · rintro ⟨token, _, ⟨rfl, rfl⟩, done⟩
    by_cases equals : cursor.current.kind = .mark .equals
    · rw [if_pos equals] at done
      obtain ⟨_, after, skipped, done⟩ := bind_ok_iff.mp done
      obtain ⟨⟨kind, sign⟩, taken⟩ := discard_ok_iff.mp skipped
      obtain ⟨operand, _, read, done⟩ := bind_ok_iff.mp done
      obtain ⟨value, readable, rfl, reads⟩ := expression_ok_iff.mp read
      obtain ⟨rfl, rfl⟩ := pure_ok_iff.mp done
      refine ⟨.assign name place sign value, rfl, by simpa [FormTree.expressions] using readable,
        rfl, after, ?_, reads⟩
      rw [(advance_ok_iff.mp taken).1] at equals
      rw [taken, ← equals]
    · rw [if_neg equals] at done
      obtain ⟨operand, _, read, done⟩ := bind_ok_iff.mp done
      obtain ⟨value, readable, rfl, reads⟩ := argument_ok_iff.mp read
      obtain ⟨rfl, rfl⟩ := pure_ok_iff.mp done
      exact ⟨.call name place value, rfl, readable, rfl, reads⟩
  · rintro ⟨tree, isName, readable, rfl, reads⟩
    refine ⟨_, _, ⟨rfl, rfl⟩, ?_⟩
    cases tree with
    | assign _ _ sign value =>
      cases isName
      rw [reads.current_eq, if_pos rfl]
      obtain ⟨after, taken, reads⟩ := reads
      have isReadable : value.Readable := readable value (by simp [FormTree.expressions])
      have read : expression after = .ok value.operand last :=
        expression_ok_iff.mpr ⟨value, isReadable, rfl, reads⟩
      refine bind_ok_iff.mpr ⟨⟨⟩, after, discard_ok_iff.mpr ⟨_, taken⟩, ?_⟩
      exact bind_ok_iff.mpr ⟨_, last, read, pure_ok_iff.mpr ⟨rfl, rfl⟩⟩
    | call _ _ argument =>
      cases isName
      rw [reads.current_eq, if_neg (by simp)]
      have read : Parser.argument cursor = .ok argument.operand last :=
        argument_ok_iff.mpr ⟨argument, readable, rfl, reads⟩
      exact bind_ok_iff.mpr ⟨_, last, read, pure_ok_iff.mpr ⟨rfl, rfl⟩⟩
    | left _ _ | right _ _ | line _ _ | push _ | pop _ | jump _ _ => cases isName

/-- A word and what has to stand behind it. -/
theorem discard_advance_then_iff {α : Type} {next : Parser α} {cursor last : Cursor} {value : α} :
    (do discard advance; next) cursor = .ok value last ↔
      ∃ after, advance cursor = .ok cursor.current after ∧ next after = .ok value last := by
  simp only [bind_ok_iff, discard_ok_iff]
  constructor
  · rintro ⟨_, after, ⟨token, taken⟩, done⟩
    rw [(advance_ok_iff.mp taken).1]
    exact ⟨after, taken, done⟩
  · rintro ⟨after, taken, done⟩
    exact ⟨⟨⟩, after, ⟨_, taken⟩, done⟩

/-- An instruction that is a word and an argument. -/
theorem word_argument_ok_iff {wrap : Operand → InstructionForm} {cursor last : Cursor}
    {form : InstructionForm} :
    (do discard advance; return wrap (← argument)) cursor = .ok form last ↔
      ∃ tree : ArgumentTree, (∀ part ∈ tree.expressions, part.Readable) ∧
        wrap tree.operand = form ∧ Reads cursor (cursor.current :: tree.tokens) last := by
  rw [discard_advance_then_iff]
  simp only [bind_ok_iff, argument_ok_iff, pure_ok_iff]
  constructor
  · rintro ⟨after, taken, _, _, ⟨tree, readable, rfl, reads⟩, rfl, rfl⟩
    exact ⟨tree, readable, rfl, after, taken, reads⟩
  · rintro ⟨tree, readable, rfl, after, taken, reads⟩
    exact ⟨after, taken, _, last, ⟨tree, readable, rfl, reads⟩, rfl, rfl⟩

/-- **An instruction up to its semicolon is read as it is denoted.** -/
theorem instructionForm_ok_iff {cursor last : Cursor} {form : InstructionForm} :
    instructionForm cursor = .ok form last ↔ ∃ tree : FormTree,
      (∀ part ∈ tree.expressions, part.Readable) ∧ tree.form = form ∧
        Reads cursor tree.tokens last := by
  rw [instructionForm, bind_ok_iff]
  simp only [current_ok_iff]
  constructor
  · rintro ⟨token, _, ⟨rfl, rfl⟩, done⟩
    obtain ⟨⟨kind, place⟩, ahead⟩ := cursor
    cases kind with
    | keyword word =>
      cases word with
      | left =>
        obtain ⟨argument, readable, rfl, reads⟩ := word_argument_ok_iff.mp done
        exact ⟨.left place argument, readable, rfl, reads⟩
      | right =>
        obtain ⟨argument, readable, rfl, reads⟩ := word_argument_ok_iff.mp done
        exact ⟨.right place argument, readable, rfl, reads⟩
      | line =>
        obtain ⟨argument, readable, rfl, reads⟩ := word_argument_ok_iff.mp done
        exact ⟨.line place argument, readable, rfl, reads⟩
      | push =>
        obtain ⟨after, taken, done⟩ := discard_advance_then_iff.mp done
        obtain ⟨rfl, rfl⟩ := pure_ok_iff.mp done
        exact ⟨.push place, nofun, rfl, after, taken, rfl⟩
      | pop =>
        obtain ⟨after, taken, done⟩ := discard_advance_then_iff.mp done
        obtain ⟨rfl, rfl⟩ := pure_ok_iff.mp done
        exact ⟨.pop place, nofun, rfl, after, taken, rfl⟩
      | jump =>
        obtain ⟨after, taken, done⟩ := discard_advance_then_iff.mp done
        obtain ⟨operands, _, read, done⟩ := bind_ok_iff.mp done
        obtain ⟨target, readable, rfl, reads⟩ := pair_ok_iff.mp read
        obtain ⟨rfl, rfl⟩ := pure_ok_iff.mp done
        exact ⟨.jump place target, readable, rfl, after, taken, reads⟩
      | shape | pencil | rule | initiator | draw | position => exact (refuse_ne_ok done).elim
    | identifier name =>
      obtain ⟨after, taken, done⟩ := discard_advance_then_iff.mp done
      obtain ⟨tree, isName, readable, rfl, reads⟩ := (callOrAssignment_ok_iff place).mp done
      refine ⟨tree, readable, rfl, after, ?_, reads⟩
      rw [isName]
      exact taken
    | mark _ | integer _ | decimal _ | string _ | color _ | endOfFile =>
      exact (refuse_ne_ok done).elim
  · rintro ⟨tree, readable, rfl, after, taken, reads⟩
    have current := (advance_ok_iff.mp taken).1
    refine ⟨_, _, ⟨rfl, rfl⟩, ?_⟩
    rw [← current] at taken
    cases tree with
    | left _ argument | right _ argument | line _ argument =>
      rw [current]
      exact word_argument_ok_iff.mpr ⟨argument, readable, rfl, after, taken, reads⟩
    | push _ | pop _ =>
      rw [current]
      exact discard_advance_then_iff.mpr ⟨after, taken, pure_ok_iff.mpr ⟨rfl, reads⟩⟩
    | jump _ target =>
      have read : pair after = .ok target.operands last :=
        pair_ok_iff.mpr ⟨target, readable, rfl, reads⟩
      rw [current]
      refine discard_advance_then_iff.mpr ⟨after, taken, ?_⟩
      exact bind_ok_iff.mpr ⟨_, last, read, pure_ok_iff.mpr ⟨rfl, rfl⟩⟩
    | assign name place _ _ | call name place _ =>
      rw [current]
      refine discard_advance_then_iff.mpr ⟨after, taken, ?_⟩
      exact (callOrAssignment_ok_iff place).mpr ⟨_, rfl, readable, rfl, reads⟩

/-- **An instruction is read as it is denoted**, from its first token to its semicolon. -/
theorem instruction_ok_iff {cursor last : Cursor} {value : Instruction} :
    instruction cursor = .ok value last ↔ ∃ tree : InstructionTree,
      (∀ part ∈ tree.expressions, part.Readable) ∧ tree.instruction = value ∧
        Reads cursor tree.tokens last := by
  simp only [instruction, mark, bind_ok_iff, current_ok_iff, expect_ok_iff, pure_ok_iff,
    instructionForm_ok_iff]
  constructor
  · intro read
    obtain ⟨_, _, ⟨rfl, rfl⟩, _, closed, ⟨form, readable, rfl, reads⟩, read⟩ := read
    obtain ⟨⟨_, semicolon⟩, _, ⟨rfl, taken⟩, rfl, rfl⟩ := read
    refine ⟨⟨form, semicolon⟩, readable, ?_, ?_⟩
    · rw [reads.current_eq]
      rfl
    · exact reads_append.mpr ⟨closed, reads, reads_singleton.mpr taken⟩
  · rintro ⟨⟨form, semicolon⟩, readable, rfl, reads⟩
    obtain ⟨closed, front, behind⟩ := reads_append.mp reads
    refine ⟨_, _, ⟨rfl, rfl⟩, _, closed, ⟨form, readable, rfl, front⟩, _, last,
      ⟨rfl, reads_singleton.mp behind⟩, ?_, rfl⟩
    rw [front.current_eq]
    rfl

/-! ### Blocks and rules -/

section Readable

variable {α Tree : Type}

/-- A property that does not depend on what came before, of trees with parts. -/
theorem eachAfter_readable_iff {value : Tree → α} {expressions : Tree → List ExpressionTree}
    {earlier : List α} {trees : List Tree} :
    EachAfter value (fun _ tree => ∀ part ∈ expressions tree, part.Readable) earlier trees ↔
      ∀ part ∈ trees.flatMap expressions, part.Readable := by
  induction trees generalizing earlier with
  | nil => simp [EachAfter]
  | cons tree others ih => rw [EachAfter, ih, List.flatMap_cons, List.forall_mem_append]

/-- Members that do not depend on those before them. -/
theorem manyWhile_ok_iff_of_readable {begins : TokenKind → Bool} {member : Parser α}
    {tokens : Tree → List Token} {value : Tree → α} {expressions : Tree → List ExpressionTree}
    (ends : begins .endOfFile = false)
    (starts : ∀ tree, ∃ first others, tokens tree = first :: others ∧ begins first.kind = true)
    (recognised : ∀ {cursor last result}, member cursor = .ok result last ↔
      ∃ tree, (∀ part ∈ expressions tree, part.Readable) ∧ value tree = result ∧
        Reads cursor (tokens tree) last)
    {cursor last : Cursor} {results : List α} :
    manyWhile begins (fun _ => member) [] cursor = .ok results last ↔
      begins last.current.kind = false ∧ ∃ trees : List Tree,
        (∀ part ∈ trees.flatMap expressions, part.Readable) ∧ trees.map value = results ∧
          Reads cursor (trees.flatMap tokens) last := by
  rw [manyWhile_ok_iff ends starts fun _ _ _ _ => recognised]
  simp only [eachAfter_readable_iff]

end Readable

/-- An instruction begins with a word. -/
theorem continuesBlock_firstToken (tree : FormTree) :
    continuesBlock tree.firstToken.kind = true := by
  cases tree <;> rfl

/-- Instructions in a row are read up to the end of the block. -/
theorem instructions_ok_iff {cursor last : Cursor} {values : List Instruction} :
    manyWhile continuesBlock (fun _ => instruction) [] cursor = .ok values last ↔
      continuesBlock last.current.kind = false ∧ ∃ trees : List InstructionTree,
        (∀ part ∈ trees.flatMap InstructionTree.expressions, part.Readable) ∧
          trees.map InstructionTree.instruction = values ∧
            Reads cursor (trees.flatMap InstructionTree.tokens) last :=
  manyWhile_ok_iff_of_readable rfl
    (fun tree : InstructionTree =>
      ⟨tree.form.firstToken, _, rfl, continuesBlock_firstToken tree.form⟩)
    instruction_ok_iff

/-- **A block is read as the instructions that it denotes.** -/
theorem block_ok_iff {cursor last : Cursor} {value : List Instruction × Span} :
    block cursor = .ok value last ↔ ∃ tree : BlockTree,
      (∀ part ∈ tree.expressions, part.Readable) ∧ (tree.instructions, tree.span) = value ∧
        Reads cursor tree.tokens last := by
  simp only [block, mark, bind_ok_iff, expect_ok_iff, pure_ok_iff, instructions_ok_iff]
  constructor
  · intro read
    obtain ⟨⟨_, opening⟩, inside, ⟨rfl, opened⟩, read⟩ := read
    obtain ⟨_, closed, ⟨_, body, readable, rfl, reads⟩, read⟩ := read
    obtain ⟨⟨_, closing⟩, _, ⟨rfl, taken⟩, rfl, rfl⟩ := read
    exact ⟨⟨opening, body, closing⟩, readable, rfl, inside, opened,
      reads_append.mpr ⟨closed, reads, reads_singleton.mpr taken⟩⟩
  · rintro ⟨⟨opening, body, closing⟩, readable, rfl, inside, opened, others⟩
    obtain ⟨closed, reads, taken⟩ := reads_append.mp others
    rw [reads_singleton] at taken
    refine ⟨_, inside, ⟨rfl, opened⟩, _, closed, ⟨?_, body, readable, rfl, reads⟩, _, last,
      ⟨rfl, taken⟩, rfl, rfl⟩
    rw [(advance_ok_iff.mp taken).1]
    rfl

/-- **A rule is read as it is denoted.** -/
theorem rule_ok_iff {cursor last : Cursor} {value : Rule} :
    rule cursor = .ok value last ↔ ∃ tree : RuleTree,
      (∀ part ∈ tree.expressions, part.Readable) ∧ tree.rule = value ∧
        Reads cursor tree.tokens last := by
  simp only [rule, keyword, mark, bind_ok_iff, expect_ok_iff, discard_expect_ok_iff,
    identifier_ok_iff, reads_singleton, block_ok_iff, pure_ok_iff]
  constructor
  · intro read
    obtain ⟨⟨_, word⟩, behindWord, ⟨rfl, isWord⟩, read⟩ := read
    obtain ⟨⟨name, namePlace⟩, behindName, isName, read⟩ := read
    obtain ⟨_, behindOpening, ⟨opening, isOpening⟩, read⟩ := read
    obtain ⟨⟨parameter, parameterPlace⟩, behindParameter, isParameter, read⟩ := read
    obtain ⟨_, behindClosing, ⟨closing, isClosing⟩, read⟩ := read
    obtain ⟨_, _, ⟨body, readable, rfl, reads⟩, rfl, rfl⟩ := read
    exact ⟨⟨word, name, namePlace, opening, parameter, parameterPlace, closing, body⟩, readable,
      rfl, behindWord, isWord, behindName, isName, behindOpening, isOpening, behindParameter,
      isParameter, behindClosing, isClosing, reads⟩
  · intro derived
    obtain ⟨⟨word, name, namePlace, opening, parameter, parameterPlace, closing, body⟩, readable,
      rfl, behindWord, isWord, behindName, isName, derived⟩ := derived
    obtain ⟨behindOpening, isOpening, behindParameter, isParameter, derived⟩ := derived
    obtain ⟨behindClosing, isClosing, reads⟩ := derived
    exact ⟨_, behindWord, ⟨rfl, isWord⟩, ⟨name, namePlace⟩, behindName, isName, ⟨⟩, behindOpening,
      ⟨opening, isOpening⟩, ⟨parameter, parameterPlace⟩, behindParameter, isParameter, ⟨⟩,
      behindClosing, ⟨closing, isClosing⟩, _, last, ⟨body, readable, rfl, reads⟩, rfl, rfl⟩

/-- **A start sequence is read as it is denoted.** -/
theorem initiator_ok_iff {cursor last : Cursor} {value : Initiator} :
    initiator cursor = .ok value last ↔ ∃ tree : InitiatorTree,
      (∀ part ∈ tree.expressions, part.Readable) ∧ tree.initiator = value ∧
        Reads cursor tree.tokens last := by
  simp only [initiator, keyword, bind_ok_iff, expect_ok_iff, block_ok_iff, pure_ok_iff]
  constructor
  · rintro ⟨⟨_, word⟩, inside, ⟨rfl, isWord⟩, _, _, ⟨body, readable, rfl, reads⟩, rfl, rfl⟩
    exact ⟨⟨word, body⟩, readable, rfl, inside, isWord, reads⟩
  · rintro ⟨⟨word, body⟩, readable, rfl, inside, isWord, reads⟩
    exact ⟨_, inside, ⟨rfl, isWord⟩, _, last, ⟨body, readable, rfl, reads⟩, rfl, rfl⟩

/-! ### Shapes and draw statements -/

/-- A colour is read as it is written. -/
theorem color_ok_iff {cursor last : Cursor} {value : String × Span} :
    color cursor = .ok value last ↔ ∃ tree : ColorTree,
      (tree.text, tree.token.span) = value ∧ advance cursor = .ok tree.token last := by
  rw [color, bind_ok_iff]
  simp only [current_ok_iff]
  constructor
  · rintro ⟨token, _, ⟨rfl, rfl⟩, done⟩
    obtain ⟨⟨kind, place⟩, ahead⟩ := cursor
    cases kind with
    | identifier text => exact ⟨.identifier text place, text_and_place_ok_iff.mp done⟩
    | color text => exact ⟨.color text place, text_and_place_ok_iff.mp done⟩
    | string text => exact ⟨.string text place, text_and_place_ok_iff.mp done⟩
    | keyword _ | mark _ | integer _ | decimal _ | endOfFile => exact (refuse_ne_ok done).elim
  · rintro ⟨tree, rfl, taken⟩
    have current := (advance_ok_iff.mp taken).1
    refine ⟨_, _, ⟨rfl, rfl⟩, ?_⟩
    rw [← current] at taken
    cases tree with
    | identifier text place | color text place | string text place =>
      rw [current]
      exact text_and_place_ok_iff.mpr ⟨by rw [current]; rfl, taken⟩

/-- Rules in a row are read up to what is no rule. -/
theorem rules_ok_iff {cursor last : Cursor} {values : List Rule} :
    manyWhile (· = .keyword .rule) (fun _ => rule) [] cursor = .ok values last ↔
      decide (last.current.kind = .keyword .rule) = false ∧ ∃ trees : List RuleTree,
        (∀ part ∈ trees.flatMap RuleTree.expressions, part.Readable) ∧
          trees.map RuleTree.rule = values ∧
            Reads cursor (trees.flatMap RuleTree.tokens) last :=
  manyWhile_ok_iff_of_readable rfl (fun _ => ⟨_, _, rfl, rfl⟩) rule_ok_iff

/-- **The definition of a shape is read as it is denoted.** -/
theorem shape_ok_iff {cursor last : Cursor} {value : Shape} :
    shape cursor = .ok value last ↔ ∃ tree : ShapeTree,
      (∀ part ∈ tree.expressions, part.Readable) ∧ tree.shape = value ∧
        Reads cursor tree.tokens last := by
  simp only [shape, keyword, mark, bind_ok_iff, expect_ok_iff, discard_expect_ok_iff,
    identifier_ok_iff, reads_singleton, color_ok_iff, rules_ok_iff, initiator_ok_iff, pure_ok_iff]
  constructor
  · intro read
    obtain ⟨⟨_, word⟩, behindWord, ⟨rfl, isWord⟩, read⟩ := read
    obtain ⟨⟨name, namePlace⟩, behindName, isName, read⟩ := read
    obtain ⟨_, behindOpening, ⟨opening, isOpening⟩, read⟩ := read
    obtain ⟨_, behindPencil, ⟨pencilWord, isPencil⟩, read⟩ := read
    obtain ⟨_, behindColor, ⟨pencil, rfl, isColor⟩, read⟩ := read
    obtain ⟨_, behindSemicolon, ⟨semicolon, isSemicolon⟩, read⟩ := read
    obtain ⟨_, behindRules, ⟨_, rules, inRules, rfl, readsRules⟩, read⟩ := read
    obtain ⟨_, closed, ⟨start, inStart, rfl, readsStart⟩, read⟩ := read
    obtain ⟨⟨_, closing⟩, _, ⟨rfl, isClosing⟩, rfl, rfl⟩ := read
    exact ⟨⟨word, name, namePlace, opening, pencilWord, pencil, semicolon, rules, start, closing⟩,
      List.forall_mem_append.mpr ⟨inRules, inStart⟩, rfl, behindWord, isWord, behindName, isName,
      behindOpening, isOpening, behindPencil, isPencil, behindColor, isColor, behindSemicolon,
      isSemicolon, reads_append.mpr ⟨behindRules, readsRules,
        reads_append.mpr ⟨closed, readsStart, reads_singleton.mpr isClosing⟩⟩⟩
  · intro derived
    obtain ⟨⟨word, name, namePlace, opening, pencilWord, pencil, semicolon, rules, start, closing⟩,
      readable, rfl, behindWord, isWord, behindName, isName, derived⟩ := derived
    obtain ⟨behindOpening, isOpening, behindPencil, isPencil, derived⟩ := derived
    obtain ⟨behindColor, isColor, behindSemicolon, isSemicolon, reads⟩ := derived
    obtain ⟨inRules, inStart⟩ := List.forall_mem_append.mp readable
    obtain ⟨behindRules, readsRules, reads⟩ := reads_append.mp reads
    obtain ⟨closed, readsStart, isClosing⟩ := reads_append.mp reads
    refine ⟨_, behindWord, ⟨rfl, isWord⟩, ⟨name, namePlace⟩, behindName, isName, ⟨⟩, behindOpening,
      ⟨opening, isOpening⟩, ⟨⟩, behindPencil, ⟨pencilWord, isPencil⟩, _, behindColor,
      ⟨pencil, rfl, isColor⟩, ⟨⟩, behindSemicolon, ⟨semicolon, isSemicolon⟩, _, behindRules,
      ⟨?_, rules, inRules, rfl, readsRules⟩, _, closed, ⟨start, inStart, rfl, readsStart⟩, _, last,
      ⟨rfl, reads_singleton.mp isClosing⟩, rfl, rfl⟩
    rw [readsStart.current_eq]
    rfl

/-- Coordinates are read where the word for them stands, and else left out. -/
theorem position_ok_iff {nameSpan : Span} {cursor last : Cursor} {operands : Operand × Operand} :
    position nameSpan cursor = .ok operands last ↔ ∃ content : Option PositionTree,
      (∀ part ∈ content.toList.flatMap fun tree => tree.target.expressions, part.Readable) ∧
        positionOperands nameSpan content = operands ∧
        (content = none → cursor.current.kind ≠ .keyword .position) ∧
        Reads cursor (positionTokens content) last := by
  rw [position, bind_ok_iff]
  simp only [current_ok_iff]
  constructor
  · rintro ⟨token, _, ⟨rfl, rfl⟩, done⟩
    by_cases placed : cursor.current.kind = .keyword .position
    · rw [if_pos placed] at done
      obtain ⟨after, taken, done⟩ := discard_advance_then_iff.mp done
      obtain ⟨target, readable, rfl, reads⟩ := pair_ok_iff.mp done
      refine ⟨some ⟨cursor.current.span, target⟩, by simpa using readable, rfl, nofun, after, ?_,
        reads⟩
      rw [taken, ← placed]
    · rw [if_neg placed] at done
      obtain ⟨rfl, rfl⟩ := pure_ok_iff.mp done
      exact ⟨none, by simp, rfl, fun _ => placed, rfl⟩
  · rintro ⟨content, readable, rfl, absent, reads⟩
    refine ⟨_, _, ⟨rfl, rfl⟩, ?_⟩
    cases content with
    | none =>
      cases reads
      rw [if_neg (absent rfl)]
      exact pure_ok_iff.mpr ⟨rfl, rfl⟩
    | some tree =>
      rw [reads.current_eq, if_pos rfl, discard_advance_then_iff, reads.current_eq]
      obtain ⟨after, taken, behind⟩ := reads
      exact ⟨after, taken, pair_ok_iff.mpr ⟨tree.target, by simpa using readable, rfl, behind⟩⟩

/-- **A draw statement is read as it is denoted.** -/
theorem draw_ok_iff {cursor last : Cursor} {value : DrawStatement} :
    draw cursor = .ok value last ↔ ∃ tree : DrawTree,
      (∀ part ∈ tree.expressions, part.Readable) ∧ tree.statement = value ∧
        Reads cursor tree.tokens last := by
  simp only [draw, keyword, mark, bind_ok_iff, expect_ok_iff, identifier_ok_iff, reads_singleton,
    position_ok_iff, pure_ok_iff]
  constructor
  · intro read
    obtain ⟨⟨_, word⟩, behindWord, ⟨rfl, isWord⟩, read⟩ := read
    obtain ⟨⟨name, namePlace⟩, behindName, isName, read⟩ := read
    obtain ⟨_, closed, ⟨content, readable, rfl, _, reads⟩, read⟩ := read
    obtain ⟨⟨_, semicolon⟩, _, ⟨rfl, isSemicolon⟩, rfl, rfl⟩ := read
    exact ⟨⟨word, name, namePlace, content, semicolon⟩, readable, rfl, behindWord, isWord,
      behindName, isName, reads_append.mpr ⟨closed, reads, reads_singleton.mpr isSemicolon⟩⟩
  · intro derived
    obtain ⟨⟨word, name, namePlace, content, semicolon⟩, readable, rfl, behindWord, isWord,
      behindName, isName, others⟩ := derived
    obtain ⟨closed, reads, isSemicolon⟩ := reads_append.mp others
    rw [reads_singleton] at isSemicolon
    refine ⟨_, behindWord, ⟨rfl, isWord⟩, ⟨name, namePlace⟩, behindName, isName, _, closed,
      ⟨content, readable, rfl, ?_, reads⟩, _, last, ⟨rfl, isSemicolon⟩, rfl, rfl⟩
    rintro rfl
    cases reads
    rw [(advance_ok_iff.mp isSemicolon).1]
    exact nofun

end Parser

/-! ### Declarations -/

/-- A declaration that defines no shape of a name that an earlier one defines. -/
def Declaration.IsNew (earlier : List Declaration) (found : Declaration) : Prop :=
  ∀ definition ∈ found.shape?, Declaration.defines earlier definition.name = false

/-- The names of the shapes that are defined, in order. -/
def Declaration.shapeNames (declarations : List Declaration) : List String :=
  (declarations.filterMap Declaration.shape?).map Shape.name

theorem Declaration.defines_iff {declarations : List Declaration} {name : String} :
    Declaration.defines declarations name = true ↔ name ∈ Declaration.shapeNames declarations := by
  rw [defines, List.any_eq_true, shapeNames, List.mem_map]
  simp only [beq_iff_eq]

namespace Parser

/-- **A declaration is read as it is denoted**, if it defines no shape a second time. -/
theorem declaration_ok_iff {earlier : List Declaration} {cursor last : Cursor}
    {value : Declaration} :
    declaration earlier cursor = .ok value last ↔ ∃ tree : ItemTree,
      ((∀ part ∈ tree.expressions, part.Readable) ∧ tree.declaration.IsNew earlier) ∧
        tree.declaration = value ∧ Reads cursor tree.tokens last := by
  rw [declaration, bind_ok_iff]
  simp only [current_ok_iff]
  constructor
  · rintro ⟨token, _, ⟨rfl, rfl⟩, done⟩
    obtain ⟨⟨kind, place⟩, ahead⟩ := cursor
    cases kind with
    | keyword word =>
      cases word with
      | shape =>
        obtain ⟨found, after, read, done⟩ := bind_ok_iff.mp done
        obtain ⟨definition, readable, rfl, reads⟩ := shape_ok_iff.mp read
        by_cases taken : Declaration.defines earlier definition.shape.name = true
        · rw [if_pos taken] at done
          exact (throw_ne_ok done).elim
        · rw [if_neg taken] at done
          obtain ⟨rfl, rfl⟩ := pure_ok_iff.mp done
          refine ⟨.shape definition, ⟨readable, ?_⟩, rfl, reads⟩
          rintro _ ⟨rfl⟩
          exact Bool.eq_false_iff.mpr taken
      | draw =>
        obtain ⟨found, after, read, done⟩ := bind_ok_iff.mp done
        obtain ⟨statement, readable, rfl, reads⟩ := draw_ok_iff.mp read
        obtain ⟨rfl, rfl⟩ := pure_ok_iff.mp done
        exact ⟨.draw statement, ⟨readable, nofun⟩, rfl, reads⟩
      | pencil | rule | initiator | position | left | right | line | push | pop | jump =>
        exact (refuse_ne_ok done).elim
    | mark _ | identifier _ | integer _ | decimal _ | string _ | color _ | endOfFile =>
      exact (refuse_ne_ok done).elim
  · rintro ⟨tree, ⟨readable, isNew⟩, rfl, reads⟩
    refine ⟨_, _, ⟨rfl, rfl⟩, ?_⟩
    cases tree with
    | shape definition =>
      have read : shape cursor = .ok definition.shape last :=
        shape_ok_iff.mpr ⟨definition, readable, rfl, reads⟩
      rw [reads.current_eq]
      refine bind_ok_iff.mpr ⟨_, last, read, ?_⟩
      rw [isNew definition.shape rfl, if_neg Bool.false_ne_true]
      exact pure_ok_iff.mpr ⟨rfl, rfl⟩
    | draw statement =>
      have read : draw cursor = .ok statement.statement last :=
        draw_ok_iff.mpr ⟨statement, readable, rfl, reads⟩
      rw [reads.current_eq]
      exact bind_ok_iff.mpr ⟨_, last, read, pure_ok_iff.mpr ⟨rfl, rfl⟩⟩

/-- No declaration defines a shape that one before it defines if all names are different. -/
theorem eachAfter_declaration_iff {earlier : List Declaration} {trees : List ItemTree} :
    EachAfter ItemTree.declaration (fun earlier tree =>
        (∀ part ∈ tree.expressions, part.Readable) ∧ tree.declaration.IsNew earlier)
      earlier trees ↔
      (∀ part ∈ trees.flatMap ItemTree.expressions, part.Readable) ∧
        (Declaration.shapeNames (trees.map ItemTree.declaration)).Nodup ∧
        ∀ name ∈ Declaration.shapeNames (trees.map ItemTree.declaration),
          name ∉ Declaration.shapeNames earlier := by
  induction trees generalizing earlier with
  | nil => simp [EachAfter, Declaration.shapeNames]
  | cons tree others ih =>
    rw [EachAfter, ih, List.flatMap_cons, List.forall_mem_append]
    cases tree with
    | shape definition =>
      have isNew : Declaration.IsNew earlier (ItemTree.shape definition).declaration ↔
          definition.name ∉ Declaration.shapeNames earlier := by
        rw [← Declaration.defines_iff, Bool.not_eq_true]
        exact ⟨fun isNew => isNew _ rfl, fun isNew _ same => Option.some.inj same ▸ isNew⟩
      have names : Declaration.shapeNames
          ((ItemTree.shape definition :: others).map ItemTree.declaration) =
            definition.name :: Declaration.shapeNames (others.map ItemTree.declaration) := rfl
      have known : Declaration.shapeNames ((ItemTree.shape definition).declaration :: earlier) =
          definition.name :: Declaration.shapeNames earlier := rfl
      rw [isNew, names, known, List.nodup_cons]
      simp only [List.mem_cons, not_or, forall_eq_or_imp]
      grind
    | draw statement =>
      have isNew : Declaration.IsNew earlier (ItemTree.draw statement).declaration := nofun
      simp only [isNew, and_true, and_assoc]
      exact Iff.rfl

/-- **Declarations are read as they are denoted**, up to the end of the source, if no shape is
defined twice. -/
theorem declarations_ok_iff {cursor last : Cursor} {values : List Declaration} :
    manyWhile (· ≠ .endOfFile) declaration [] cursor = .ok values last ↔
      last.current.kind = .endOfFile ∧ ∃ tree : SceneTree,
        ((∀ part ∈ tree.expressions, part.Readable) ∧ (Declaration.shapeNames values).Nodup) ∧
          tree.declarations = values ∧ Reads cursor tree.tokens last := by
  have starts : ∀ tree : ItemTree, ∃ first others, tree.tokens = first :: others ∧
      decide (first.kind ≠ .endOfFile) = true := by
    intro tree
    cases tree <;> exact ⟨_, _, rfl, rfl⟩
  refine Iff.trans (manyWhile_ok_iff rfl starts @declaration_ok_iff) ?_
  simp only [eachAfter_declaration_iff]
  constructor
  · rintro ⟨stopped, trees, ⟨readable, distinct, _⟩, rfl, reads⟩
    exact ⟨by simpa using stopped, ⟨trees⟩, ⟨readable, distinct⟩, rfl, reads⟩
  · rintro ⟨stopped, ⟨trees⟩, ⟨readable, distinct⟩, rfl, reads⟩
    exact ⟨by simpa using stopped, trees, ⟨readable, distinct, fun _ _ => List.not_mem_nil⟩, rfl,
      reads⟩

end Parser

end TurtleScene
