/-
**Words of the grammar, and where they break off.**

The trees of a production derive sequences of tokens. Their kinds are the words of a language, and
the productions put these languages together by the regular operations. A language refuses a kind
behind a sequence if the sequence begins a word and no word goes on with the kind.

* `words` — the language of a production; `words_argument`, `words_shape`, … build it from the
  languages of its parts.
* `HasWord` — a language with a word of kinds that are found in sources.
* `PrefixFree` — no word of a language begins another one. The trees behind which a production goes
  on end by themselves, so their words have it.
* `Refuses` — a kind with which no word goes on. It is kept by the operations: in front of another
  language (`Refuses.before`), behind a word (`Refuses.behind`), and in the alternative that the
  first kind settles (`Refuses.branch`).
-/

import Mathlib.Computability.Language
import TurtleScene.Proofs.Exactness
import TurtleScene.Proofs.Relocation

namespace TurtleScene

open Computability

/-! ### Words -/

/-- The kinds of tokens in a row. -/
def kinds (tokens : List Token) : List TokenKind := tokens.map Token.kind

@[simp] theorem kinds_nil : kinds [] = [] := rfl

@[simp] theorem kinds_cons (token : Token) (others : List Token) :
    kinds (token :: others) = token.kind :: kinds others := rfl

@[simp] theorem kinds_append (front others : List Token) :
    kinds (front ++ others) = kinds front ++ kinds others := List.map_append

/-- The words of a production. -/
def words {Tree : Type} (tokens : Tree → List Token) : Language TokenKind :=
  {word | ∃ tree, kinds (tokens tree) = word}

/-- The only word of a terminal. -/
def terminal (kind : TokenKind) : Language TokenKind := {[kind]}

/-- The words that are a name. -/
def anyName : Language TokenKind := {word | ∃ name, [TokenKind.identifier name] = word}

theorem mem_words {Tree : Type} {tokens : Tree → List Token} {word : List TokenKind} :
    word ∈ words tokens ↔ ∃ tree, kinds (tokens tree) = word := Iff.rfl

theorem mem_terminal {kind : TokenKind} {word : List TokenKind} :
    word ∈ terminal kind ↔ word = [kind] := Iff.rfl

theorem mem_anyName {word : List TokenKind} :
    word ∈ anyName ↔ ∃ name, [TokenKind.identifier name] = word := Iff.rfl

/-- The words of lists of trees. -/
theorem words_flatMap {Tree : Type} (tokens : Tree → List Token) :
    words (fun trees : List Tree => trees.flatMap tokens) = (words tokens)∗ := by
  ext word
  rw [mem_words, Language.mem_kstar]
  constructor
  · rintro ⟨trees, rfl⟩
    refine ⟨trees.map fun tree => kinds (tokens tree), ?_, ?_⟩
    · rw [kinds, List.map_flatMap, List.flatMap_def]
      rfl
    · intro part member
      obtain ⟨tree, _, rfl⟩ := List.mem_map.mp member
      exact ⟨tree, rfl⟩
  · rintro ⟨parts, rfl, each⟩
    induction parts with
    | nil => exact ⟨[], rfl⟩
    | cons part others ih =>
      obtain ⟨tree, rfl⟩ := each part List.mem_cons_self
      obtain ⟨trees, same⟩ := ih fun other member => each other (List.mem_cons_of_mem _ member)
      exact ⟨tree :: trees, by rw [List.flatMap_cons, kinds_append, same, List.flatten_cons]⟩

/-! ### Productions as languages -/

theorem words_argument : words ArgumentTree.tokens =
    terminal (.mark .leftParen) * (words optionalTokens * terminal (.mark .rightParen)) := by
  ext word
  simp only [mem_words, Language.mem_mul, mem_terminal, exists_eq_left, exists_exists_eq_and]
  constructor
  · rintro ⟨⟨opening, content, closing⟩, rfl⟩
    exact ⟨content, by simp [ArgumentTree.tokens]⟩
  · rintro ⟨content, rfl⟩
    exact ⟨⟨.point 0, content, .point 0⟩, by simp [ArgumentTree.tokens]⟩

theorem words_pair : words PairTree.tokens =
    terminal (.mark .leftParen) * (words optionalTokens * (terminal (.mark .comma) *
      (words optionalTokens * terminal (.mark .rightParen)))) := by
  ext word
  simp only [mem_words, Language.mem_mul, mem_terminal, exists_eq_left, exists_exists_eq_and]
  constructor
  · rintro ⟨⟨opening, first, comma, second, closing⟩, rfl⟩
    exact ⟨_, ⟨first, second, rfl⟩, by simp [PairTree.tokens]⟩
  · rintro ⟨_, ⟨first, second, rfl⟩, rfl⟩
    exact ⟨⟨.point 0, first, .point 0, second, .point 0⟩, by simp [PairTree.tokens]⟩

theorem words_instruction : words InstructionTree.tokens =
    words FormTree.tokens * terminal (.mark .semicolon) := by
  ext word
  simp only [mem_words, Language.mem_mul, mem_terminal, exists_eq_left, exists_exists_eq_and]
  constructor
  · rintro ⟨⟨form, semicolon⟩, rfl⟩
    exact ⟨form, by simp [InstructionTree.tokens]⟩
  · rintro ⟨form, rfl⟩
    exact ⟨⟨form, .point 0⟩, by simp [InstructionTree.tokens]⟩

theorem words_block : words BlockTree.tokens =
    terminal (.mark .leftBrace) *
      ((words InstructionTree.tokens)∗ * terminal (.mark .rightBrace)) := by
  rw [← words_flatMap]
  ext word
  simp only [mem_words, Language.mem_mul, mem_terminal, exists_eq_left, exists_exists_eq_and]
  constructor
  · rintro ⟨⟨opening, body, closing⟩, rfl⟩
    exact ⟨body, by simp [BlockTree.tokens]⟩
  · rintro ⟨body, rfl⟩
    exact ⟨⟨.point 0, body, .point 0⟩, by simp [BlockTree.tokens]⟩

theorem words_rule : words RuleTree.tokens =
    terminal (.keyword .rule) * (anyName * (terminal (.mark .leftParen) * (anyName *
      (terminal (.mark .rightParen) * words BlockTree.tokens)))) := by
  ext word
  simp only [mem_words, mem_anyName, Language.mem_mul, mem_terminal, exists_eq_left,
    exists_exists_eq_and]
  constructor
  · rintro ⟨⟨word, name, namePlace, opening, parameter, parameterPlace, closing, block⟩, rfl⟩
    exact ⟨_, ⟨name, _, ⟨_, ⟨parameter, block, rfl⟩, rfl⟩, rfl⟩, by simp [RuleTree.tokens]⟩
  · rintro ⟨_, ⟨name, _, ⟨_, ⟨parameter, block, rfl⟩, rfl⟩, rfl⟩, rfl⟩
    exact ⟨⟨.point 0, name, .point 0, .point 0, parameter, .point 0, .point 0, block⟩,
      by simp [RuleTree.tokens]⟩

theorem words_initiator : words InitiatorTree.tokens =
    terminal (.keyword .initiator) * words BlockTree.tokens := by
  ext word
  simp only [mem_words, Language.mem_mul, mem_terminal, exists_eq_left, exists_exists_eq_and]
  constructor
  · rintro ⟨⟨word, block⟩, rfl⟩
    exact ⟨block, by simp [InitiatorTree.tokens]⟩
  · rintro ⟨block, rfl⟩
    exact ⟨⟨.point 0, block⟩, by simp [InitiatorTree.tokens]⟩

/-- The words that are a colour. -/
def anyColor : Language TokenKind := words fun color : ColorTree => [color.token]

theorem words_shape : words ShapeTree.tokens =
    terminal (.keyword .shape) * (anyName * (terminal (.mark .leftBrace) *
      (terminal (.keyword .pencil) * (anyColor * (terminal (.mark .semicolon) *
        ((words RuleTree.tokens)∗ *
          (words InitiatorTree.tokens * terminal (.mark .rightBrace)))))))) := by
  rw [← words_flatMap]
  ext word
  simp only [mem_words, anyColor, mem_anyName, Language.mem_mul, mem_terminal, exists_eq_left,
    exists_exists_eq_and]
  constructor
  · rintro ⟨⟨word, name, namePlace, opening, pencilWord, pencil, semicolon, rules, start,
      closing⟩, rfl⟩
    exact ⟨_, ⟨name, _, ⟨_, ⟨_, ⟨pencil, _, ⟨_, ⟨rules, start, rfl⟩, rfl⟩, rfl⟩, rfl⟩, rfl⟩, rfl⟩,
      by simp [ShapeTree.tokens]⟩
  · rintro ⟨_, ⟨name, _, ⟨_, ⟨_, ⟨pencil, _, ⟨_, ⟨rules, start, rfl⟩, rfl⟩, rfl⟩, rfl⟩, rfl⟩, rfl⟩,
      rfl⟩
    exact ⟨⟨.point 0, name, .point 0, .point 0, .point 0, pencil, .point 0, rules, start,
      .point 0⟩, by simp [ShapeTree.tokens]⟩

theorem words_draw : words DrawTree.tokens =
    terminal (.keyword .draw) * (anyName * (words positionTokens *
      terminal (.mark .semicolon))) := by
  ext word
  simp only [mem_words, mem_anyName, Language.mem_mul, mem_terminal, exists_eq_left,
    exists_exists_eq_and]
  constructor
  · rintro ⟨⟨word, name, namePlace, position, semicolon⟩, rfl⟩
    exact ⟨_, ⟨name, position, rfl⟩, by simp [DrawTree.tokens]⟩
  · rintro ⟨_, ⟨name, position, rfl⟩, rfl⟩
    exact ⟨⟨.point 0, name, .point 0, position, .point 0⟩, by simp [DrawTree.tokens]⟩

theorem words_scene : words SceneTree.tokens = (words ItemTree.tokens)∗ := by
  rw [← words_flatMap]
  ext word
  constructor
  · rintro ⟨tree, rfl⟩
    exact ⟨tree.items, rfl⟩
  · rintro ⟨items, rfl⟩
    exact ⟨⟨items⟩, rfl⟩

/-! ### Languages with a word -/

/-- A kind that is found in sources: some text is read as it, or it is the end. -/
def TokenKind.Occurs (kind : TokenKind) : Prop := kind.Spelled ∨ kind = .endOfFile

namespace TokenKind.Occurs

theorem keyword (word : Keyword) : (TokenKind.keyword word).Occurs :=
  .inl ⟨.keyword word, _, rfl, rfl⟩

theorem mark (symbol : Mark) : (TokenKind.mark symbol).Occurs := .inl ⟨.mark symbol, _, rfl, rfl⟩

theorem identifier : (TokenKind.identifier "a").Occurs := by
  refine .inl ⟨.identifier, ['a'], Pattern.mem_identifier.mpr ⟨'a', [], by decide, nofun, rfl⟩, ?_⟩
  decide

theorem integer : (TokenKind.integer "0").Occurs := by
  refine .inl ⟨.integer, ['0'], Pattern.mem_integer.mpr ⟨List.cons_ne_nil _ _, ?_⟩, by decide⟩
  exact List.forall_mem_singleton.mpr (by decide)

end TokenKind.Occurs

/-- A language that has a word of kinds that are found in sources. -/
class HasWord (language : Language TokenKind) : Prop where
  exists_mem : ∃ word ∈ language, ∀ kind ∈ word, kind.Occurs

theorem exists_word (language : Language TokenKind) [HasWord language] :
    ∃ word ∈ language, ∀ kind ∈ word, kind.Occurs := HasWord.exists_mem

section HasWord

variable {language other : Language TokenKind}

theorem hasWord_terminal {kind : TokenKind} (occurs : kind.Occurs) : HasWord (terminal kind) :=
  ⟨_, rfl, List.forall_mem_singleton.mpr occurs⟩

instance (word : Keyword) : HasWord (terminal (.keyword word)) :=
  hasWord_terminal (.keyword word)

instance (symbol : Mark) : HasWord (terminal (.mark symbol)) :=
  hasWord_terminal (.mark symbol)

instance : HasWord (terminal .endOfFile) := hasWord_terminal (.inr rfl)

instance : HasWord anyName :=
  ⟨_, ⟨"a", rfl⟩, List.forall_mem_singleton.mpr .identifier⟩

instance : HasWord anyColor :=
  ⟨_, ⟨.identifier "a" (.point 0), rfl⟩, List.forall_mem_singleton.mpr .identifier⟩

instance : HasWord (words optionalTokens) := ⟨_, ⟨none, rfl⟩, nofun⟩

instance : HasWord (words positionTokens) := ⟨_, ⟨none, rfl⟩, nofun⟩

instance : HasWord (words ExpressionTree.tokens) :=
  ⟨_, ⟨.name "a" (.point 0), rfl⟩, List.forall_mem_singleton.mpr .identifier⟩

instance : HasWord (words FormTree.tokens) :=
  ⟨_, ⟨.push (.point 0), rfl⟩, List.forall_mem_singleton.mpr (.keyword .push)⟩

instance [HasWord language] [HasWord other] : HasWord (language * other) := by
  obtain ⟨word, member, inWord⟩ := exists_word language
  obtain ⟨further, behind, inFurther⟩ := exists_word other
  exact ⟨_, Language.append_mem_mul member behind, List.forall_mem_append.mpr ⟨inWord, inFurther⟩⟩

instance : HasWord (1 : Language TokenKind) := ⟨[], rfl, nofun⟩

instance : HasWord language∗ := ⟨_, Language.nil_mem_kstar language, nofun⟩

instance : HasWord (words ArgumentTree.tokens) := by
  rw [words_argument]
  infer_instance

instance : HasWord (words PairTree.tokens) := by
  rw [words_pair]
  infer_instance

instance : HasWord (words BlockTree.tokens) := by
  rw [words_block]
  infer_instance

instance : HasWord (words InitiatorTree.tokens) := by
  rw [words_initiator]
  infer_instance

instance : HasWord (words DrawTree.tokens) := by
  rw [words_draw]
  infer_instance

instance : HasWord (words ItemTree.tokens) := by
  obtain ⟨_, ⟨tree, rfl⟩, occurs⟩ := exists_word (words DrawTree.tokens)
  exact ⟨_, ⟨.draw tree, rfl⟩, occurs⟩

end HasWord

/-! ### Languages whose words end by themselves -/

/-- No word of the language begins another one. -/
class PrefixFree (language : Language TokenKind) : Prop where
  eq_of_prefix : ∀ {word other}, word ∈ language → other ∈ language → word <+: other →
    word = other

section PrefixFree

/-- Words of the same length do not begin each other. -/
theorem prefixFree_of_length {language : Language TokenKind} (length : Nat)
    (each : ∀ word ∈ language, word.length = length) : PrefixFree language :=
  ⟨fun member other begins => begins.eq_of_length ((each _ member).trans (each _ other).symm)⟩

instance (kind : TokenKind) : PrefixFree (terminal kind) :=
  prefixFree_of_length 1 fun _ same => congrArg List.length same

instance : PrefixFree anyName := by
  refine prefixFree_of_length 1 fun word member => ?_
  obtain ⟨name, rfl⟩ := member
  rfl

instance : PrefixFree anyColor := by
  refine prefixFree_of_length 1 fun word member => ?_
  obtain ⟨color, rfl⟩ := member
  rfl

/-- If a tree is settled by what begins with its tokens, then the kinds alone do it: all tokens may
be moved to one place. -/
theorem prefixFree_words {Tree : Type} {tokens : Tree → List Token} {move : Tree → Tree}
    (delimiting : SelfDelimiting tokens)
    (moved : ∀ tree, tokens (move tree) =
      (tokens tree).map (Token.mapSpans fun _ => Span.point 0)) : PrefixFree (words tokens) := by
  have placed : ∀ tree, tokens (move tree) =
      (kinds (tokens tree)).map fun kind => ⟨kind, Span.point 0⟩ := by
    intro tree
    rw [moved, kinds, List.map_map]
    rfl
  refine ⟨?_⟩
  rintro _ _ ⟨tree, rfl⟩ ⟨other, rfl⟩ ⟨rest, same⟩
  have together : tokens (move tree) ++ rest.map (fun kind => ⟨kind, Span.point 0⟩) =
      tokens (move other) ++ [] := by
    rw [placed, placed, ← List.map_append, same, List.append_nil]
  obtain ⟨_, isEnd⟩ := delimiting together
  rw [List.map_eq_nil_iff.mp isEnd, List.append_nil] at same
  exact same

instance : PrefixFree (words ExpressionTree.tokens) :=
  prefixFree_words ExpressionTree.selfDelimiting (ExpressionTree.tokens_mapSpans _)

instance : PrefixFree (words PairTree.tokens) :=
  prefixFree_words PairTree.selfDelimiting (PairTree.tokens_mapSpans _)

instance : PrefixFree (words FormTree.tokens) :=
  prefixFree_words FormTree.selfDelimiting (FormTree.tokens_mapSpans _)

instance : PrefixFree (words InstructionTree.tokens) :=
  prefixFree_words InstructionTree.selfDelimiting (InstructionTree.tokens_mapSpans _)

instance : PrefixFree (words RuleTree.tokens) :=
  prefixFree_words RuleTree.selfDelimiting (RuleTree.tokens_mapSpans _)

instance : PrefixFree (words InitiatorTree.tokens) :=
  prefixFree_words InitiatorTree.selfDelimiting (InitiatorTree.tokens_mapSpans _)

instance : PrefixFree (words ItemTree.tokens) :=
  prefixFree_words ItemTree.selfDelimiting (ItemTree.tokens_mapSpans _)

end PrefixFree

/-! ### Where words break off -/

/-- A word that begins with one of some kinds. -/
inductive Opens (first : TokenKind → Prop) : List TokenKind → Prop
  | cons {head : TokenKind} (others : List TokenKind) : first head → Opens first (head :: others)

theorem Opens.mono {first other : TokenKind → Prop} {word : List TokenKind}
    (opens : Opens first word) (within : ∀ kind, first kind → other kind) : Opens other word := by
  cases opens with
  | cons others holds => exact .cons others (within _ holds)

theorem opens_terminal {kind : TokenKind} {first : TokenKind → Prop} (holds : first kind) :
    ∀ word ∈ terminal kind, Opens first word := by
  rintro _ rfl
  exact .cons [] holds

theorem opens_mul {language other : Language TokenKind} {first : TokenKind → Prop}
    (each : ∀ word ∈ language, Opens first word) :
    ∀ word ∈ language * other, Opens first word := by
  rintro _ ⟨front, member, behind, _, rfl⟩
  cases each front member with
  | cons others holds => exact .cons _ holds

/-- **A language refuses a kind behind a sequence** that begins a word: no word goes on with it.
What would complete the word is found in sources. -/
structure Refuses (language : Language TokenKind) (front : List TokenKind) (kind : TokenKind) :
    Prop where
  viable : ∃ behind, front ++ behind ∈ language ∧ ∀ kind ∈ behind, kind.Occurs
  stuck : ∀ word ∈ language, ∀ behind, ¬ word <+: front ++ kind :: behind

namespace Refuses

variable {language other : Language TokenKind} {front : List TokenKind} {kind : TokenKind}

/-- What a language refuses is refused in front of another one. -/
theorem before [HasWord other] (refuses : Refuses language front kind) :
    Refuses (language * other) front kind := by
  obtain ⟨behind, member, inBehind⟩ := refuses.viable
  obtain ⟨further, inOther, inFurther⟩ := exists_word other
  refine ⟨⟨behind ++ further, ?_, List.forall_mem_append.mpr ⟨inBehind, inFurther⟩⟩, ?_⟩
  · rw [← List.append_assoc]
    exact Language.append_mem_mul member inOther
  · rintro _ ⟨word, inFirst, last, _, rfl⟩ rest begins
    exact refuses.stuck word inFirst rest ((List.prefix_append word last).trans begins)

/-- What a language refuses is refused behind a word that ends by itself. -/
theorem behind [PrefixFree language] {word : List TokenKind} (member : word ∈ language)
    (refuses : Refuses other front kind) : Refuses (language * other) (word ++ front) kind := by
  obtain ⟨rest, inOther, occurs⟩ := refuses.viable
  refine ⟨⟨rest, ?_, occurs⟩, ?_⟩
  · rw [List.append_assoc]
    exact Language.append_mem_mul member inOther
  · rintro _ ⟨first, inFirst, last, inLast, rfl⟩ further begins
    rw [List.append_assoc] at begins
    have same : first = word := by
      rcases List.prefix_or_prefix_of_prefix ((List.prefix_append first last).trans begins)
        (List.prefix_append word _) with shorter | longer
      · exact PrefixFree.eq_of_prefix inFirst member shorter
      · exact (PrefixFree.eq_of_prefix member inFirst longer).symm
    rw [same, List.prefix_append_right_inj] at begins
    exact refuses.stuck last inLast further begins

/-- A kind that begins no word is refused at once. -/
theorem first [HasWord language] (each : ∀ word ∈ language, Opens (· ≠ kind) word) :
    Refuses language [] kind := by
  refine ⟨HasWord.exists_mem, ?_⟩
  intro word member rest begins
  cases each word member with
  | cons others different => exact different (List.cons_prefix_cons.mp begins).1

/-- What one alternative refuses is refused by all of them, if the first kind settles which one it
is. -/
theorem branch {start : TokenKind} (refuses : Refuses language front kind)
    (isFirst : (front ++ [kind]).head? = some start) (part : ∀ word ∈ language, word ∈ other)
    (settles : ∀ word ∈ other, word ∈ language ∨ Opens (· ≠ start) word) :
    Refuses other front kind := by
  refine ⟨refuses.viable.imp fun _ viable => ⟨part _ viable.1, viable.2⟩, ?_⟩
  intro word member rest begins
  rcases settles word member with inPart | opens
  · exact refuses.stuck word inPart rest begins
  · cases opens with
    | cons others different =>
      cases front with
      | nil =>
        cases isFirst
        exact different (List.cons_prefix_cons.mp begins).1
      | cons first more =>
        cases isFirst
        exact different (List.cons_prefix_cons.mp begins).1

end Refuses

end TurtleScene
