/-
**Tokens stand one behind the other.**

The tokens of a source are laid out in it from the left to the right, none of them empty. So the
span from the first to the last token of a part lies where these tokens are laid, and the spans of
parts in a row stand one behind the other.

* `Span.Holds` — a span holds others, each one behind the one before.
* `Placed`, `Laid` — spans, and tokens, that stand one behind the other between two offsets. The
  tokens of a source do (`SceneTree.Derives.laid`).
* `Span.FitsTo` — a span lies wherever certain tokens are laid, and is not empty. The spans of parts
  fit to the tokens of their trees (`RuleTree.fits`, `ItemTree.fits`, …).
* **`Laid.placed`** — the spans of parts in a row.
-/

import TurtleScene.Proofs.Spelling

namespace TurtleScene

open Text

/-! ### Spans that hold others -/

namespace Span

/-- The second span starts behind the first one, or where the first one stops. -/
def Before (first second : Span) : Prop := first.stop ≤ second.start

/-- One span is in front of the other, so no byte lies in both. -/
def Apart (first second : Span) : Prop := first.Before second ∨ second.Before first

theorem Apart.symm {first second : Span} (apart : first.Apart second) : second.Apart first :=
  Or.symm apart

/-- The first span lies in the second one. -/
def Within (inner outer : Span) : Prop := outer.start ≤ inner.start ∧ inner.stop ≤ outer.stop

theorem within_refl (span : Span) : span.Within span := ⟨Nat.le_refl _, Nat.le_refl _⟩

theorem Within.trans {inner middle outer : Span} (within : inner.Within middle)
    (further : middle.Within outer) : inner.Within outer :=
  ⟨further.1.trans within.1, within.2.trans further.2⟩

/-- What lies between two places lies in the span from the one to the other. -/
theorem within_merge {inner first last : Span} (starts : first.start ≤ inner.start)
    (stops : inner.stop ≤ last.stop) : inner.Within (first.merge last) :=
  ⟨(min_le_left _ _).trans starts, stops.trans (le_max_right _ _)⟩

/-- **A span holds other spans**, one behind the other. -/
structure Holds (outer : Span) (parts : List Span) : Prop where
  inside : ∀ part ∈ parts, part.Within outer
  ordered : parts.Pairwise Before

theorem Holds.mono {outer larger : Span} {parts : List Span} (holds : outer.Holds parts)
    (within : outer.Within larger) : larger.Holds parts :=
  ⟨fun part member => (holds.inside part member).trans within, holds.ordered⟩

end Span

/-! ### One behind the other -/

/-- Spans stand one behind the other between two offsets. Some may be empty. -/
def Placed (low : Nat) : List Span → Nat → Prop
  | [], high => low ≤ high
  | span :: others, high => low ≤ span.start ∧ span.start ≤ span.stop ∧ Placed span.stop others high

namespace Placed

variable {low high : Nat} {spans others : List Span}

theorem le (placed : Placed low spans high) : low ≤ high := by
  induction spans generalizing low with
  | nil => exact placed
  | cons span further ih =>
    obtain ⟨starts, ordered, behind⟩ := placed
    exact starts.trans (ordered.trans (ih behind))

theorem mono {lower higher : Nat} (placed : Placed low spans high) (less : lower ≤ low)
    (more : high ≤ higher) : Placed lower spans higher := by
  induction spans generalizing low lower with
  | nil => exact less.trans (Nat.le_trans placed more)
  | cons span further ih =>
    exact ⟨less.trans placed.1, placed.2.1, ih placed.2.2 (Nat.le_refl _)⟩

theorem inside {span : Span} (placed : Placed low spans high) (member : span ∈ spans) :
    low ≤ span.start ∧ span.start ≤ span.stop ∧ span.stop ≤ high := by
  induction spans generalizing low with
  | nil => cases member
  | cons first further ih =>
    obtain ⟨starts, ordered, behind⟩ := placed
    rcases List.mem_cons.mp member with rfl | later
    · exact ⟨starts, ordered, le behind⟩
    · have bounds := ih behind later
      exact ⟨starts.trans (ordered.trans bounds.1), bounds.2⟩

/-- **A span holds the spans that stand in it one behind the other.** -/
theorem holds (placed : Placed low spans high) : (Span.mk low high).Holds spans := by
  refine ⟨fun span member => ?_, ?_⟩
  · have bounds := placed.inside member
    exact ⟨bounds.1, bounds.2.2⟩
  · induction spans generalizing low with
    | nil => exact .nil
    | cons first further ih =>
      obtain ⟨_, _, behind⟩ := placed
      exact .cons (fun span member => (inside behind member).1) (ih behind)

end Placed

theorem placed_append {low high : Nat} {front behind : List Span} :
    Placed low (front ++ behind) high ↔
      ∃ middle, Placed low front middle ∧ Placed middle behind high := by
  induction front generalizing low with
  | nil =>
    constructor
    · exact fun placed => ⟨low, Nat.le_refl low, placed⟩
    · rintro ⟨middle, less, placed⟩
      exact placed.mono less (Nat.le_refl _)
  | cons span others ih =>
    simp only [List.cons_append, Placed, ih]
    constructor
    · rintro ⟨starts, ordered, middle, inFront, placed⟩
      exact ⟨middle, ⟨starts, ordered, inFront⟩, placed⟩
    · rintro ⟨middle, ⟨starts, ordered, inFront⟩, placed⟩
      exact ⟨starts, ordered, middle, inFront, placed⟩

/-- **Tokens stand one behind the other** between two offsets, and none of them is empty. -/
def Laid (low : Nat) (tokens : List Token) (high : Nat) : Prop :=
  Placed low (tokens.map Token.span) high ∧ ∀ token ∈ tokens, token.span.start < token.span.stop

theorem laid_nil {low high : Nat} : Laid low [] high ↔ low ≤ high := by
  simp [Laid, Placed]

theorem laid_cons {low high : Nat} {token : Token} {others : List Token} :
    Laid low (token :: others) high ↔ low ≤ token.span.start ∧
      token.span.start < token.span.stop ∧ Laid token.span.stop others high := by
  rw [Laid, List.map_cons, Placed, List.forall_mem_cons]
  constructor
  · rintro ⟨⟨starts, _, behind⟩, nonempty, each⟩
    exact ⟨starts, nonempty, behind, each⟩
  · rintro ⟨starts, nonempty, behind, each⟩
    exact ⟨⟨starts, nonempty.le, behind⟩, nonempty, each⟩

theorem laid_append {low high : Nat} {front behind : List Token} :
    Laid low (front ++ behind) high ↔
      ∃ middle, Laid low front middle ∧ Laid middle behind high := by
  simp only [Laid, List.map_append, placed_append, List.forall_mem_append]
  constructor
  · rintro ⟨⟨middle, inFront, placed⟩, each, further⟩
    exact ⟨middle, ⟨inFront, each⟩, placed, further⟩
  · rintro ⟨middle, ⟨inFront, each⟩, placed, further⟩
    exact ⟨⟨middle, inFront, placed⟩, each, further⟩

theorem Laid.mono {low high lower : Nat} {tokens : List Token} (laid : Laid low tokens high)
    (less : lower ≤ low) : Laid lower tokens high :=
  ⟨laid.1.mono less (Nat.le_refl _), laid.2⟩

/-- Some tokens in a row are laid where all of them are. -/
theorem Laid.infix {low high : Nat} {tokens part : List Token} (laid : Laid low tokens high)
    (inTokens : part <:+: tokens) : ∃ first last, Laid first part last := by
  obtain ⟨front, behind, rfl⟩ := inTokens
  obtain ⟨last, upTo, _⟩ := laid_append.mp laid
  obtain ⟨first, _, inside⟩ := laid_append.mp upTo
  exact ⟨first, last, inside⟩

/-- The tokens of a text without faults stand one behind the other in it. -/
theorem Munched.laid {offset : Nat} {text : List Char} {items : List Item}
    (munched : Munched offset text items) {tokens : List Token}
    (isTokens : items = tokens.map Item.token) : Laid offset tokens (offset + byteLength text) := by
  induction munched generalizing tokens with
  | done offset =>
    rw [List.map_eq_nil_iff.mp isTokens.symm]
    exact laid_nil.mpr (Nat.le_refl _)
  | skipped _ _ _ ih =>
    rw [byteLength_append, ← Nat.add_assoc]
    exact (ih isTokens).mono (Nat.le_add_right _ _)
  | token taken _ _ ih =>
    obtain ⟨token, others, rfl, isToken, isOthers⟩ := List.map_eq_cons_iff.mp isTokens.symm
    cases isToken
    rw [byteLength_append, ← Nat.add_assoc]
    exact laid_cons.mpr ⟨Nat.le_refl _, Nat.lt_add_of_pos_right
      (byteLength_pos taken.here.nonempty), ih isOthers.symm⟩
  | fault =>
    obtain ⟨_, _, _, isToken, _⟩ := List.map_eq_cons_iff.mp isTokens.symm
    cases isToken

/-- **The tokens of a source stand one behind the other.** -/
theorem SceneTree.Derives.laid {tree : SceneTree} {source : String}
    (derives : tree.Derives source) : Laid 0 tree.tokens source.utf8ByteSize := by
  have laid := (munched_itemsFrom 0 source.toList).laid (TokenStream.tokens_ok_iff.mp derives)
  rwa [Nat.zero_add, byteLength_toList] at laid

/-! ### Spans of tokens -/

/-- **A span lies wherever some tokens are laid**, and it is not empty. -/
def Span.FitsTo (span : Span) (tokens : List Token) : Prop :=
  ∀ low high, Laid low tokens high → low ≤ span.start ∧ span.start < span.stop ∧ span.stop ≤ high

theorem Span.Encloses.fits {span : Span} {tokens : List Token} (encloses : span.Encloses tokens) :
    span.FitsTo tokens := by
  obtain ⟨first, last, inside, rfl, rfl⟩ := encloses
  intro low high laid
  obtain ⟨starts, nonempty, behind⟩ := laid_cons.mp laid
  obtain ⟨middle, between, stops⟩ := laid_append.mp behind
  have := between.1.le
  simp only [laid_cons, laid_nil] at stops
  simp only [merge]
  omega

/-- The spans of parts in a row stand one behind the other. -/
theorem Laid.placed {Tree : Type} {tokens : Tree → List Token} {span : Tree → Span}
    (fits : ∀ tree, (span tree).FitsTo (tokens tree)) {trees : List Tree} {low high : Nat}
    (laid : Laid low (trees.flatMap tokens) high) : Placed low (trees.map span) high := by
  induction trees generalizing low with
  | nil => exact laid_nil.mp laid
  | cons tree others ih =>
    rw [List.flatMap_cons] at laid
    obtain ⟨middle, here, behind⟩ := laid_append.mp laid
    obtain ⟨starts, nonempty, stops⟩ := fits tree low middle here
    exact ⟨starts, nonempty.le, (ih behind).mono stops (Nat.le_refl _)⟩

theorem ExpressionTree.fits (tree : ExpressionTree) : tree.span.FitsTo tree.tokens := by
  intro low high laid
  cases tree <;> simp only [tokens, laid_cons, laid_nil] at laid <;>
    simp only [span, Span.merge] <;> omega

theorem BlockTree.fits (tree : BlockTree) : tree.span.FitsTo tree.tokens :=
  Span.Encloses.fits ⟨_, _, _, rfl, rfl⟩

theorem RuleTree.fits (tree : RuleTree) : tree.rule.span.FitsTo tree.tokens := by
  intro low high laid
  simp only [tokens, laid_cons] at laid
  obtain ⟨starts, nonempty, _, _, _, _, _, _, _, _, block⟩ := laid
  have := tree.block.fits _ _ block
  simp only [rule, Span.merge]
  omega

theorem InitiatorTree.fits (tree : InitiatorTree) : tree.initiator.span.FitsTo tree.tokens := by
  intro low high laid
  simp only [tokens, laid_cons] at laid
  obtain ⟨starts, nonempty, block⟩ := laid
  have := tree.block.fits _ _ block
  simp only [initiator, Span.merge]
  omega

theorem ItemTree.fits (tree : ItemTree) : tree.span.FitsTo tree.tokens := tree.encloses.fits

end TurtleScene
