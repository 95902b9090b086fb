/-
**A checker that lasts over many scenes.**

A checker has a palette and a log. It walks a scene in the order of the draws, in one scope for all
of them, and writes down in its log what it finds. The log is emptied before a walk, and handed out
behind it.

* `Checker.check` — the walk over a scene, and the checker behind it.
* **`Checker.check_eq`** — what is handed out is what is wrong with the scene, whatever the log held
  before. Behind the walk it holds nothing.
-/

import TurtleScene.Check.Finding

namespace TurtleScene

/-- A palette, and what was found on the walk so far. -/
structure Checker where
  palette : Palette
  log : List Finding
  deriving DecidableEq

/-- A checker on its way through a scene, with the names that are in scope by now. -/
structure Walk where
  checker : Checker
  scope : Scope

namespace Walk

/-- Writes a finding down. -/
def record (walk : Walk) (finding : Finding) : Walk :=
  { walk with checker.log := walk.checker.log ++ [finding] }

/-- Looks at the pencil of a shape. -/
def visitPencil (walk : Walk) (shape : Shape) : Walk :=
  if walk.checker.palette.accepts shape.pencil then walk
  else walk.record (.invalidColor shape.pencil shape.pencilSpan)

/-- Looks at an instruction. -/
def visitInstruction (walk : Walk) (instruction : Instruction) : Walk :=
  match instruction.form with
  | .call rule _ =>
    if walk.scope.hasRule rule then walk else walk.record (.undefinedRule rule instruction.span)
  | .assign name value => { walk with scope := walk.scope.defineVariable name value }
  | .left _ | .right _ | .line _ | .push | .pop | .jump _ _ => walk

/-- Looks at a rule, which is in scope from here on. -/
def visitRule (walk : Walk) (rule : Rule) : Walk :=
  let inside := { walk with scope := walk.scope.defineRule rule.name rule.parameter }
  rule.instructions.foldl visitInstruction inside

/-- Looks at a drawn shape: its pencil, its rules, and its start sequence. -/
def visitDraw (walk : Walk) (draw : Draw) : Walk :=
  let behindRules := draw.shape.rules.foldl visitRule (walk.visitPencil draw.shape)
  draw.shape.initiator.instructions.foldl visitInstruction behindRules

end Walk

namespace Checker

/-- A checker before its first scene. -/
def new (palette : Palette) : Checker := ⟨palette, []⟩

/-- Walks a scene, inside `surroundings` if there are any, and hands out the log. -/
def check (checker : Checker) (surroundings : Option Scope) (scene : Scene) :
    List Finding × Checker :=
  let scope := (surroundings.map Scope.enter).getD Scope.root
  let last := scene.draws.foldl Walk.visitDraw ⟨{ checker with log := [] }, scope⟩
  (last.checker.log, { last.checker with log := [] })

end Checker

/-! ### What a walk writes down -/

namespace Walk

/-- The walk with more findings in the log, and in another scope. -/
def add (walk : Walk) (found : List Finding × Scope) : Walk :=
  ⟨{ walk.checker with log := walk.checker.log ++ found.1 }, found.2⟩

theorem add_nothing (walk : Walk) : walk.add ([], walk.scope) = walk := by
  simp [add]

theorem add_add (walk : Walk) (first second : List Finding × Scope) :
    (walk.add first).add second = walk.add (first.1 ++ second.1, second.2) := by
  simp [add]

/-- **What one part adds to a walk, a list of parts adds.** -/
theorem foldl_eq_add {α : Type} {visit : Walk → α → Walk}
    {check : Scope → α → List Finding × Scope} {palette : Palette}
    (each : ∀ walk part, walk.checker.palette = palette →
      visit walk part = walk.add (check walk.scope part))
    (parts : List α) (walk : Walk) (same : walk.checker.palette = palette) :
    parts.foldl visit walk = walk.add (checkEach check walk.scope parts) := by
  induction parts generalizing walk with
  | nil => exact walk.add_nothing.symm
  | cons part others ih =>
    have further : (walk.add (check walk.scope part)).checker.palette = palette := same
    rw [List.foldl_cons, each walk part same, ih _ further, add_add]
    rfl

theorem visitPencil_eq (walk : Walk) (shape : Shape) :
    walk.visitPencil shape = walk.add (shape.checkPencil walk.checker.palette, walk.scope) := by
  unfold visitPencil Shape.checkPencil
  split
  · exact walk.add_nothing.symm
  · rfl

theorem visitInstruction_eq (walk : Walk) (instruction : Instruction) :
    walk.visitInstruction instruction = walk.add (instruction.check walk.scope) := by
  obtain ⟨form, span⟩ := instruction
  cases form with
  | call rule argument =>
    unfold visitInstruction Instruction.check
    dsimp only
    split
    · exact walk.add_nothing.symm
    · rfl
  | assign name value => simp [visitInstruction, Instruction.check, add]
  | left _ | right _ | line _ | push | pop | jump _ _ => exact walk.add_nothing.symm

theorem visitInstructions_eq (instructions : List Instruction) (walk : Walk) :
    instructions.foldl visitInstruction walk =
      walk.add (checkEach Instruction.check walk.scope instructions) :=
  foldl_eq_add (fun walk part _ => walk.visitInstruction_eq part) instructions walk rfl

theorem visitRule_eq (walk : Walk) (rule : Rule) :
    walk.visitRule rule = walk.add (rule.check walk.scope) := by
  rw [visitRule, visitInstructions_eq]
  rfl

theorem visitDraw_eq (walk : Walk) (draw : Draw) :
    walk.visitDraw draw = walk.add (draw.check walk.checker.palette walk.scope) := by
  have rules := foldl_eq_add (fun walk part _ => walk.visitRule_eq part) draw.shape.rules
    (walk.add (draw.shape.checkPencil walk.checker.palette, walk.scope)) rfl
  rw [visitDraw, visitPencil_eq, rules, add_add, visitInstructions_eq, add_add]
  rfl

end Walk

/-- **A walk hands out what is wrong with a scene**, whatever was in the log before, and leaves the
log empty. -/
theorem Checker.check_eq (checker : Checker) (surroundings : Option Scope) (scene : Scene) :
    checker.check surroundings scene =
      (scene.check checker.palette surroundings, .new checker.palette) := by
  unfold Checker.check Scene.check
  dsimp only
  rw [Walk.foldl_eq_add (fun walk draw same => same ▸ walk.visitDraw_eq draw) scene.draws _ rfl]
  rfl

end TurtleScene
