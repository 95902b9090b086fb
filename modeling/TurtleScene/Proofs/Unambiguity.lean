/-
**The grammar is unambiguous.**

A sequence of tokens is derived by at most one tree. Each production says by itself where it ends,
or by the one token behind it, so that a tree can be cut off the front of any longer sequence.

* `ArgumentTree.selfDelimiting`, … — a tree is settled by any sequence that begins with its tokens.
* `optional_inj` — an operand that may be left out, with the mark behind it.
* **`SceneTree.tokens_injective`** — the tree of a sequence of tokens is unique.
-/

import TurtleScene.Proofs.Lists
import TurtleScene.Proofs.Recognition

namespace TurtleScene

/-- A token of a kind in front, of which only the place is open. -/
theorem token_inj {kind : TokenKind} {place otherPlace : Span} {rest others : List Token}
    (same : (⟨kind, place⟩ : Token) :: rest = ⟨kind, otherPlace⟩ :: others) :
    place = otherPlace ∧ rest = others := by
  rw [List.cons.injEq, Token.mk.injEq] at same
  exact ⟨same.1.2, same.2⟩

theorem selfDelimiting_single {kind : TokenKind} :
    SelfDelimiting fun place : Span => [(⟨kind, place⟩ : Token)] :=
  fun _ _ _ _ => token_inj

/-! ### Operands -/

theorem ExpressionTree.selfDelimiting : SelfDelimiting ExpressionTree.tokens := by
  intro first second rest others same
  cases first <;> cases second <;> simp_all [tokens]

/-- An operand, or none, together with the mark that ends its place. -/
theorem optional_inj {symbol : Mark} (ends : Parser.endsOperand (.mark symbol) = true)
    {content otherContent : Option ExpressionTree} {place otherPlace : Span}
    {rest others : List Token}
    (same : optionalTokens content ++ ⟨.mark symbol, place⟩ :: rest =
      optionalTokens otherContent ++ ⟨.mark symbol, otherPlace⟩ :: others) :
    content = otherContent ∧ place = otherPlace ∧ rest = others := by
  have apart : ∀ {tree : ExpressionTree} {rest : List Token} {place : Span} {others : List Token},
      tree.tokens ++ rest ≠ ⟨.mark symbol, place⟩ :: others := by
    intro tree rest place others same
    cases tree <;> cases symbol <;> simp [ExpressionTree.tokens, Parser.endsOperand] at same ends
  cases content with
  | none =>
    cases otherContent with
    | none => exact ⟨rfl, token_inj same⟩
    | some otherTree => exact (apart same.symm).elim
  | some tree =>
    cases otherContent with
    | none => exact (apart same).elim
    | some otherTree =>
      obtain ⟨rfl, behind⟩ := ExpressionTree.selfDelimiting same
      exact ⟨rfl, token_inj behind⟩

theorem ArgumentTree.selfDelimiting : SelfDelimiting ArgumentTree.tokens := by
  rintro ⟨opening, content, closing⟩ ⟨otherOpening, otherContent, otherClosing⟩ rest others same
  simp only [tokens, List.cons_append, List.append_assoc, List.nil_append] at same
  obtain ⟨rfl, inside⟩ := token_inj same
  obtain ⟨rfl, rfl, behind⟩ := optional_inj rfl inside
  exact ⟨rfl, behind⟩

theorem PairTree.selfDelimiting : SelfDelimiting PairTree.tokens := by
  rintro ⟨opening, first, comma, second, closing⟩
    ⟨otherOpening, otherFirst, otherComma, otherSecond, otherClosing⟩ rest others same
  simp only [tokens, List.cons_append, List.append_assoc, List.nil_append] at same
  obtain ⟨rfl, inside⟩ := token_inj same
  obtain ⟨rfl, rfl, further⟩ := optional_inj rfl inside
  obtain ⟨rfl, rfl, behind⟩ := optional_inj rfl further
  exact ⟨rfl, behind⟩

/-! ### Instructions -/

theorem FormTree.selfDelimiting : SelfDelimiting FormTree.tokens := by
  intro first second rest others same
  simp only [tokens, List.cons_append, List.cons.injEq] at same
  obtain ⟨word, behind⟩ := same
  cases first with
  | left place argument | right place argument | line place argument =>
    cases second <;> cases word
    obtain ⟨rfl, rfl⟩ := ArgumentTree.selfDelimiting behind
    exact ⟨rfl, rfl⟩
  | push place | pop place =>
    cases second <;> cases word
    exact ⟨rfl, behind⟩
  | jump place target =>
    cases second <;> cases word
    obtain ⟨rfl, rfl⟩ := PairTree.selfDelimiting behind
    exact ⟨rfl, rfl⟩
  | assign name place equals value =>
    cases second <;> cases word
    · obtain ⟨rfl, further⟩ := token_inj behind
      obtain ⟨rfl, rfl⟩ := ExpressionTree.selfDelimiting further
      exact ⟨rfl, rfl⟩
    · simp [otherTokens, ArgumentTree.tokens] at behind
  | call name place argument =>
    cases second <;> cases word
    · simp [otherTokens, ArgumentTree.tokens] at behind
    · obtain ⟨rfl, rfl⟩ := ArgumentTree.selfDelimiting behind
      exact ⟨rfl, rfl⟩

theorem InstructionTree.selfDelimiting : SelfDelimiting InstructionTree.tokens := by
  rintro ⟨form, semicolon⟩ ⟨otherForm, otherSemicolon⟩ rest others same
  simp only [tokens, List.append_assoc, List.cons_append, List.nil_append] at same
  obtain ⟨rfl, closed⟩ := FormTree.selfDelimiting same
  obtain ⟨rfl, behind⟩ := token_inj closed
  exact ⟨rfl, behind⟩

theorem BlockTree.selfDelimiting : SelfDelimiting BlockTree.tokens := by
  rintro ⟨opening, body, closing⟩ ⟨otherOpening, otherBody, otherClosing⟩ rest others same
  simp only [tokens, List.cons_append, List.append_assoc] at same
  obtain ⟨rfl, inside⟩ := token_inj same
  obtain ⟨rfl, rfl, behind⟩ := flatMap_inj (Parser.continuesBlock ·.kind)
    InstructionTree.selfDelimiting
    (fun tree => ⟨tree.form.firstToken, _, rfl, Parser.continuesBlock_firstToken tree.form⟩)
    selfDelimiting_single (fun _ => ⟨_, _, rfl, rfl⟩) inside
  exact ⟨rfl, behind⟩

/-! ### Shapes and draw statements -/

theorem RuleTree.selfDelimiting : SelfDelimiting RuleTree.tokens := by
  intro first second rest others same
  obtain ⟨word, name, namePlace, opening, parameter, parameterPlace, closing, block⟩ := first
  obtain ⟨_, _, _, _, _, _, _, otherBlock⟩ := second
  simp only [tokens, List.cons_append, List.cons.injEq, Token.mk.injEq, true_and,
    TokenKind.identifier.injEq] at same
  obtain ⟨rfl, ⟨rfl, rfl⟩, rfl, ⟨rfl, rfl⟩, rfl, inside⟩ := same
  obtain ⟨rfl, behind⟩ := BlockTree.selfDelimiting inside
  exact ⟨rfl, behind⟩

theorem InitiatorTree.selfDelimiting : SelfDelimiting InitiatorTree.tokens := by
  rintro ⟨word, block⟩ ⟨otherWord, otherBlock⟩ rest others same
  simp only [tokens, List.cons_append] at same
  obtain ⟨rfl, inside⟩ := token_inj same
  obtain ⟨rfl, behind⟩ := BlockTree.selfDelimiting inside
  exact ⟨rfl, behind⟩

theorem ColorTree.token_injective : Function.Injective ColorTree.token := by
  intro first second same
  cases first <;> cases second <;> cases same <;> rfl

theorem ShapeTree.selfDelimiting : SelfDelimiting ShapeTree.tokens := by
  intro first second rest others same
  obtain ⟨word, name, namePlace, opening, pencilWord, pencil, semicolon, rules, start, closing⟩ :=
    first
  obtain ⟨_, _, _, _, _, otherPencil, _, otherRules, otherStart, otherClosing⟩ := second
  simp only [tokens, List.cons_append, List.append_assoc, List.cons.injEq, Token.mk.injEq, true_and,
    TokenKind.identifier.injEq] at same
  obtain ⟨rfl, ⟨rfl, rfl⟩, rfl, rfl, color, rfl, inside⟩ := same
  cases ColorTree.token_injective color
  obtain ⟨rfl, rfl, closed⟩ := flatMap_inj (·.kind = .keyword .rule) RuleTree.selfDelimiting
    (fun _ => ⟨_, _, rfl, rfl⟩) InitiatorTree.selfDelimiting (fun _ => ⟨_, _, rfl, rfl⟩) inside
  obtain ⟨rfl, behind⟩ := token_inj closed
  exact ⟨rfl, behind⟩

/-- The coordinates of a draw statement, or none, together with its semicolon. -/
theorem position_inj {position otherPosition : Option PositionTree} {place otherPlace : Span}
    {rest others : List Token}
    (same : positionTokens position ++ ⟨.mark .semicolon, place⟩ :: rest =
      positionTokens otherPosition ++ ⟨.mark .semicolon, otherPlace⟩ :: others) :
    position = otherPosition ∧ place = otherPlace ∧ rest = others := by
  cases position with
  | none =>
    cases otherPosition with
    | none => exact ⟨rfl, token_inj same⟩
    | some tree => simp [positionTokens] at same
  | some tree =>
    cases otherPosition with
    | none => simp [positionTokens] at same
    | some otherTree =>
      obtain ⟨word, target⟩ := tree
      obtain ⟨otherWord, otherTarget⟩ := otherTree
      simp only [positionTokens, List.cons_append] at same
      obtain ⟨rfl, inside⟩ := token_inj same
      obtain ⟨rfl, behind⟩ := PairTree.selfDelimiting inside
      exact ⟨rfl, token_inj behind⟩

theorem DrawTree.selfDelimiting : SelfDelimiting DrawTree.tokens := by
  intro first second rest others same
  obtain ⟨word, name, namePlace, position, semicolon⟩ := first
  obtain ⟨_, _, _, otherPosition, otherSemicolon⟩ := second
  simp only [tokens, List.cons_append, List.append_assoc, List.nil_append, List.cons.injEq,
    Token.mk.injEq, true_and, TokenKind.identifier.injEq] at same
  obtain ⟨rfl, ⟨rfl, rfl⟩, inside⟩ := same
  obtain ⟨rfl, rfl, behind⟩ := position_inj inside
  exact ⟨rfl, behind⟩

/-! ### Scenes -/

theorem ItemTree.selfDelimiting : SelfDelimiting ItemTree.tokens := by
  intro first second rest others same
  cases first with
  | shape definition =>
    cases second with
    | shape otherDefinition =>
      obtain ⟨rfl, behind⟩ := ShapeTree.selfDelimiting same
      exact ⟨rfl, behind⟩
    | draw statement => cases (List.cons.inj same).1
  | draw statement =>
    cases second with
    | shape definition => cases (List.cons.inj same).1
    | draw otherStatement =>
      obtain ⟨rfl, behind⟩ := DrawTree.selfDelimiting same
      exact ⟨rfl, behind⟩

/-- **The tree of a sequence of tokens is unique.** -/
theorem SceneTree.tokens_injective : Function.Injective SceneTree.tokens := by
  rintro ⟨items⟩ ⟨otherItems⟩ same
  -- the end of the source closes the list of items
  have starts : ∀ tree : ItemTree, ∃ first others, tree.tokens = first :: others ∧
      decide (first.kind ≠ .endOfFile) = true := by
    intro tree
    cases tree <;> exact ⟨_, _, rfl, rfl⟩
  have closed : items.flatMap ItemTree.tokens ++ ([⟨.endOfFile, Span.point 0⟩] ++ []) =
      otherItems.flatMap ItemTree.tokens ++ ([⟨.endOfFile, Span.point 0⟩] ++ []) :=
    congrArg (· ++ _) same
  obtain ⟨rfl, _⟩ := flatMap_inj (fun token => decide (token.kind ≠ .endOfFile))
    ItemTree.selfDelimiting starts selfDelimiting_single (fun _ => ⟨_, _, rfl, rfl⟩) closed
  rfl

end TurtleScene
