/-
**The outline of a scene can be read back.**

The lines of an outline are those of a scene's parts, each told from the others by depths and by the
words that its line begins with. So equal outlines are those of scenes with the same parts, but for
their places and for operands that have the same line.

* `InstructionForm.ShownAlike`, `Rule.ShownAlike`, `Shape.ShownAlike`, `Draw.ShownAlike` — parts
  that differ in places and operands only, where the operands have the same lines.
* `Scene.outline_eq_iff` — the same lines are those of scenes that are shown alike.
* `Scene.allPlain_outline` — the lines of a source's scene are given back by their text.
* **`Scene.print_eq_iff`** — scenes of two sources with the same outline.
-/

import TurtleScene.Proofs.OperandLines
import TurtleScene.Proofs.OutlineLines

namespace TurtleScene

open OutlineLine

/-! ### Instructions -/

namespace InstructionForm

/-- The words that the line of an instruction begins with. -/
def opening : InstructionForm → String
  | .call _ _ => "CallRule: "
  | .left _ => "Left:"
  | .right _ => "Right:"
  | .line _ => "Line:"
  | .push => "Push"
  | .pop => "Pop"
  | .jump _ _ => "Jump:"
  | .assign _ _ => "Assign: "

/-- All words that the line of an instruction can begin with. -/
def openings : List String :=
  ["CallRule: ", "Left:", "Right:", "Line:", "Push", "Pop", "Jump:", "Assign: "]

theorem opening_mem_openings (form : InstructionForm) : form.opening ∈ openings := by
  cases form <;> simp [opening, openings]

/-- The line of an instruction. -/
def heading (form : InstructionForm) : String := form.opening ++ form.name?.getD ""

/-- The lines of the operands of an instruction. -/
def operandLines : InstructionForm → List String
  | .call _ operand | .left operand | .right operand | .line operand | .assign _ operand =>
    [operand.print]
  | .push | .pop => []
  | .jump x y => [x.printTitled "X", y.printTitled "Y"]

/-- **Instructions that are shown alike**: they are made in the same way with the same name, and
their operands have the same lines. -/
inductive ShownAlike : InstructionForm → InstructionForm → Prop
  | call {rule : String} {first second : Operand} : first.print = second.print →
      ShownAlike (.call rule first) (.call rule second)
  | left {first second : Operand} : first.print = second.print →
      ShownAlike (.left first) (.left second)
  | right {first second : Operand} : first.print = second.print →
      ShownAlike (.right first) (.right second)
  | line {first second : Operand} : first.print = second.print →
      ShownAlike (.line first) (.line second)
  | push : ShownAlike .push .push
  | pop : ShownAlike .pop .pop
  | jump {x y otherX otherY : Operand} : x.printTitled "X" = otherX.printTitled "X" →
      y.printTitled "Y" = otherY.printTitled "Y" → ShownAlike (.jump x y) (.jump otherX otherY)
  | assign {name : String} {first second : Operand} : first.print = second.print →
      ShownAlike (.assign name first) (.assign name second)

variable {first second : InstructionForm}

/-- No line of one kind of instruction begins like one of another kind. -/
theorem opening_eq_of_heading (same : first.heading = second.heading) :
    first.opening = second.opening := by
  have apart : ∀ word ∈ openings, ∀ other ∈ openings, word.toList <+: other.toList →
      word = other := by decide
  have begins : ∀ form : InstructionForm, form.opening.toList <+: form.heading.toList :=
    fun form => ⟨_, String.toList_append.symm⟩
  rcases List.prefix_or_prefix_of_prefix (begins first) (same ▸ begins second) with shorter | longer
  · exact apart _ first.opening_mem_openings _ second.opening_mem_openings shorter
  · exact (apart _ second.opening_mem_openings _ first.opening_mem_openings longer).symm

/-- Instructions with the same lines are shown alike. -/
theorem shownAlike_of_lines (headings : first.heading = second.heading)
    (operands : first.operandLines = second.operandLines) : first.ShownAlike second := by
  have openings := opening_eq_of_heading headings
  have names : first.name?.getD "" = second.name?.getD "" := by
    rwa [heading, heading, openings, String.append_right_inj] at headings
  cases first with
  | call rule first =>
    cases second with
    | call otherRule second =>
      obtain rfl : rule = otherRule := names
      exact .call (List.singleton_inj.mp operands)
    | _ => exact absurd openings (by simp [opening])
  | left first =>
    cases second with
    | left second => exact .left (List.singleton_inj.mp operands)
    | _ => exact absurd openings (by simp [opening])
  | right first =>
    cases second with
    | right second => exact .right (List.singleton_inj.mp operands)
    | _ => exact absurd openings (by simp [opening])
  | line first =>
    cases second with
    | line second => exact .line (List.singleton_inj.mp operands)
    | _ => exact absurd openings (by simp [opening])
  | push =>
    cases second with
    | push => exact .push
    | _ => exact absurd openings (by simp [opening])
  | pop =>
    cases second with
    | pop => exact .pop
    | _ => exact absurd openings (by simp [opening])
  | jump x y =>
    cases second with
    | jump otherX otherY =>
      obtain ⟨sameX, others⟩ := List.cons.inj operands
      exact .jump sameX (List.singleton_inj.mp others)
    | _ => exact absurd openings (by simp [opening])
  | assign name first =>
    cases second with
    | assign otherName second =>
      obtain rfl : name = otherName := names
      exact .assign (List.singleton_inj.mp operands)
    | _ => exact absurd openings (by simp [opening])

theorem shownAlike_iff : first.ShownAlike second ↔
    first.heading = second.heading ∧ first.operandLines = second.operandLines := by
  refine ⟨fun alike => ?_, fun ⟨headings, operands⟩ => shownAlike_of_lines headings operands⟩
  cases alike with
  | call same | left same | right same | line same | assign same =>
    exact ⟨rfl, List.singleton_inj.mpr same⟩
  | push | pop => exact ⟨rfl, rfl⟩
  | jump sameX sameY =>
    exact ⟨rfl, congrArg₂ List.cons sameX (List.singleton_inj.mpr sameY)⟩

end InstructionForm

namespace Instruction

/-- **Instructions that are shown alike.** -/
def ShownAlike (first second : Instruction) : Prop := first.form.ShownAlike second.form

/-- The parts below an instruction. -/
def below (depth : Nat) (instruction : Instruction) : List (List OutlineLine) :=
  instruction.form.operandLines.map (leaf (depth + 1))

theorem outline_eq (depth : Nat) (instruction : Instruction) : instruction.outline depth =
    partLines depth instruction.form.heading (instruction.below depth) := by
  obtain ⟨form, span⟩ := instruction
  cases form <;>
    simp [outline, outlineOperand, outlinePair, partLines, below, leaf,
      InstructionForm.operandLines, InstructionForm.heading, InstructionForm.opening,
      InstructionForm.name?]

theorem isPart_below {depth : Nat} (instruction : Instruction) :
    ∀ part ∈ instruction.below depth, IsPart (depth + 1) part :=
  List.forall_mem_map.mpr fun text _ => isPart_leaf (depth + 1) text

theorem isPart_outline (depth : Nat) (instruction : Instruction) :
    IsPart depth (instruction.outline depth) :=
  instruction.outline_eq depth ▸ isPart_partLines instruction.isPart_below

theorem outline_eq_iff {depth : Nat} (first second : Instruction) :
    first.outline depth = second.outline depth ↔ first.ShownAlike second := by
  have told : Function.Injective (leaf (depth + 1)) := fun _ _ same => leaf_eq_iff.mp same
  rw [outline_eq, outline_eq, partLines_eq_iff first.isPart_below second.isPart_below, below, below,
    told.list_map.eq_iff, ShownAlike, InstructionForm.shownAlike_iff]

/-- The lines of instructions in a row. -/
theorem map_outline_eq_iff {depth : Nat} {firsts seconds : List Instruction} :
    firsts.map (outline depth) = seconds.map (outline depth) ↔
      List.Forall₂ ShownAlike firsts seconds :=
  map_eq_map_iff outline_eq_iff

end Instruction

/-! ### Rules and start sequences -/

/-- **Rules that are shown alike**, instruction by instruction. -/
structure Rule.ShownAlike (first second : Rule) : Prop where
  name : first.name = second.name
  parameter : first.parameter = second.parameter
  instructions : List.Forall₂ Instruction.ShownAlike first.instructions second.instructions

namespace Rule

/-- The parts below a rule. -/
def below (depth : Nat) (rule : Rule) : List (List OutlineLine) :=
  leaf (depth + 1) ("name: " ++ rule.name) :: leaf (depth + 1) ("param: " ++ rule.parameter) ::
    rule.instructions.map (Instruction.outline (depth + 1))

theorem outline_eq (depth : Nat) (rule : Rule) :
    rule.outline depth = partLines depth "Rule:" (rule.below depth) := by
  simp [outline, partLines, below, leaf, List.flatMap_def]

theorem isPart_below {depth : Nat} (rule : Rule) :
    ∀ part ∈ rule.below depth, IsPart (depth + 1) part :=
  List.forall_mem_cons.mpr ⟨isPart_leaf _ _, List.forall_mem_cons.mpr ⟨isPart_leaf _ _,
    List.forall_mem_map.mpr fun instruction _ => instruction.isPart_outline _⟩⟩

theorem isPart_outline (depth : Nat) (rule : Rule) : IsPart depth (rule.outline depth) :=
  rule.outline_eq depth ▸ isPart_partLines rule.isPart_below

theorem outline_eq_iff {depth : Nat} (first second : Rule) :
    first.outline depth = second.outline depth ↔ first.ShownAlike second := by
  rw [outline_eq, outline_eq, partLines_eq_iff first.isPart_below second.isPart_below, below, below]
  simp only [List.cons.injEq, leaf_eq_iff, String.append_right_inj,
    Instruction.map_outline_eq_iff, true_and]
  exact ⟨fun ⟨name, parameter, instructions⟩ => ⟨name, parameter, instructions⟩,
    fun alike => ⟨alike.name, alike.parameter, alike.instructions⟩⟩

end Rule

namespace Initiator

/-- **Start sequences that are shown alike**, instruction by instruction. -/
def ShownAlike (first second : Initiator) : Prop :=
  List.Forall₂ Instruction.ShownAlike first.instructions second.instructions

theorem outline_eq (depth : Nat) (initiator : Initiator) : initiator.outline depth =
    partLines depth "Axiom:" (initiator.instructions.map (Instruction.outline (depth + 1))) := by
  simp [outline, partLines, List.flatMap_def]

theorem isPart_below {depth : Nat} (initiator : Initiator) :
    ∀ part ∈ initiator.instructions.map (Instruction.outline depth), IsPart depth part :=
  List.forall_mem_map.mpr fun instruction _ => instruction.isPart_outline _

theorem isPart_outline (depth : Nat) (initiator : Initiator) :
    IsPart depth (initiator.outline depth) :=
  initiator.outline_eq depth ▸ isPart_partLines initiator.isPart_below

theorem outline_eq_iff {depth : Nat} (first second : Initiator) :
    first.outline depth = second.outline depth ↔ first.ShownAlike second := by
  rw [outline_eq, outline_eq, partLines_eq_iff first.isPart_below second.isPart_below,
    Instruction.map_outline_eq_iff, ShownAlike]
  exact and_iff_right rfl

end Initiator

/-! ### Shapes and draws -/

/-- **Shapes that are shown alike**, rule by rule. -/
structure Shape.ShownAlike (first second : Shape) : Prop where
  name : first.name = second.name
  pencil : first.pencil = second.pencil
  rules : List.Forall₂ Rule.ShownAlike first.rules second.rules
  initiator : first.initiator.ShownAlike second.initiator

namespace Shape

/-- The parts below a shape. -/
def below (depth : Nat) (shape : Shape) : List (List OutlineLine) :=
  leaf (depth + 1) ("name: " ++ shape.name) :: leaf (depth + 1) ("pencil: " ++ shape.pencil) ::
    (shape.rules.map (Rule.outline (depth + 1)) ++ [shape.initiator.outline (depth + 1)])

theorem outline_eq (depth : Nat) (shape : Shape) :
    shape.outline depth = partLines depth "Shape:" (shape.below depth) := by
  simp [outline, partLines, below, leaf, List.flatMap_def]

theorem isPart_below {depth : Nat} (shape : Shape) :
    ∀ part ∈ shape.below depth, IsPart (depth + 1) part :=
  List.forall_mem_cons.mpr ⟨isPart_leaf _ _, List.forall_mem_cons.mpr ⟨isPart_leaf _ _,
    List.forall_mem_append.mpr ⟨List.forall_mem_map.mpr fun rule _ => rule.isPart_outline _,
      List.forall_mem_singleton.mpr (shape.initiator.isPart_outline _)⟩⟩⟩

theorem isPart_outline (depth : Nat) (shape : Shape) : IsPart depth (shape.outline depth) :=
  shape.outline_eq depth ▸ isPart_partLines shape.isPart_below

theorem outline_eq_iff {depth : Nat} (first second : Shape) :
    first.outline depth = second.outline depth ↔ first.ShownAlike second := by
  rw [outline_eq, outline_eq, partLines_eq_iff first.isPart_below second.isPart_below, below, below]
  simp only [List.cons.injEq, leaf_eq_iff, String.append_right_inj, true_and,
    List.append_singleton_inj, map_eq_map_iff Rule.outline_eq_iff, Initiator.outline_eq_iff]
  exact ⟨fun ⟨name, pencil, rules, initiator⟩ => ⟨name, pencil, rules, initiator⟩,
    fun alike => ⟨alike.name, alike.pencil, alike.rules, alike.initiator⟩⟩

end Shape

/-- **Draws that are shown alike**, their coordinates by their lines. -/
structure Draw.ShownAlike (first second : Draw) : Prop where
  shape : first.shape.ShownAlike second.shape
  x : first.x.printTitled "X" = second.x.printTitled "X"
  y : first.y.printTitled "Y" = second.y.printTitled "Y"

namespace Draw

/-- The parts below a draw. -/
def below (depth : Nat) (draw : Draw) : List (List OutlineLine) :=
  [draw.shape.outline (depth + 1), leaf (depth + 1) (draw.x.printTitled "X"),
    leaf (depth + 1) (draw.y.printTitled "Y")]

theorem outline_eq (depth : Nat) (draw : Draw) :
    draw.outline depth = partLines depth "Draw:" (draw.below depth) := by
  simp [outline, outlinePair, partLines, below, leaf]

theorem isPart_below {depth : Nat} (draw : Draw) :
    ∀ part ∈ draw.below depth, IsPart (depth + 1) part :=
  List.forall_mem_cons.mpr ⟨draw.shape.isPart_outline _, List.forall_mem_cons.mpr
    ⟨isPart_leaf _ _, List.forall_mem_singleton.mpr (isPart_leaf _ _)⟩⟩

theorem isPart_outline (depth : Nat) (draw : Draw) : IsPart depth (draw.outline depth) :=
  draw.outline_eq depth ▸ isPart_partLines draw.isPart_below

/-- **The same lines are those of draws that are shown alike.** -/
theorem outline_eq_iff {depth : Nat} (first second : Draw) :
    first.outline depth = second.outline depth ↔ first.ShownAlike second := by
  rw [outline_eq, outline_eq, partLines_eq_iff first.isPart_below second.isPart_below, below, below]
  simp only [List.cons.injEq, leaf_eq_iff, Shape.outline_eq_iff, and_true, true_and]
  exact ⟨fun ⟨shape, x, y⟩ => ⟨shape, x, y⟩, fun alike => ⟨alike.shape, alike.x, alike.y⟩⟩

end Draw

theorem Scene.outline_eq_iff {first second : Scene} :
    first.outline = second.outline ↔ List.Forall₂ Draw.ShownAlike first.draws second.draws := by
  have form : ∀ scene : Scene,
      scene.outline = partLines 0 "Scene:" (scene.draws.map (Draw.outline 1)) := fun scene => by
    simp [outline, partLines, List.flatMap_def]
  have isPart : ∀ scene : Scene, ∀ part ∈ scene.draws.map (Draw.outline 1), IsPart 1 part :=
    fun scene => List.forall_mem_map.mpr fun draw _ => draw.isPart_outline _
  rw [form, form, partLines_eq_iff (isPart first) (isPart second),
    map_eq_map_iff Draw.outline_eq_iff]
  exact and_iff_right rfl

/-! ### Plain lines -/

namespace Operand

variable {operand : Operand}

theorem plain_print (spelled : operand.form.Spelled) : Plain operand.print := by
  unfold print
  rcases spelled.missing_or_literal with isMissing | ⟨literal, isLiteral⟩
  · rw [isMissing]
    decide
  · rw [isLiteral]
    exact plain_append (by decide) (by decide)
      (Literal.newline_notMem_print (isLiteral ▸ spelled))

theorem plain_printTitled {title : String} (spelled : operand.form.Spelled)
    (plain : Plain (title ++ ": ")) (nonempty : (title ++ ": ").toList ≠ []) :
    Plain (operand.printTitled title) := by
  refine plain_append plain nonempty ?_
  rcases spelled.missing_or_literal with isMissing | ⟨literal, isLiteral⟩
  · rw [isMissing]
    decide
  · rw [isLiteral]
    exact Literal.newline_notMem_print (isLiteral ▸ spelled)

end Operand

theorem InstructionForm.plain_heading {form : InstructionForm} (spelled : form.Spelled) :
    Plain form.heading := by
  have each : ∀ opening ∈ openings, Plain opening ∧ opening.toList ≠ [] := by decide
  obtain ⟨plain, nonempty⟩ := each _ form.opening_mem_openings
  refine plain_append plain nonempty ?_
  cases named : form.name? with
  | none => decide
  | some name => exact (spelled.name name named).oneLine

theorem InstructionForm.plain_operandLines {form : InstructionForm} (spelled : form.Spelled) :
    ∀ text ∈ form.operandLines, Plain text := by
  cases form with
  | call _ _ | left _ | right _ | line _ | assign _ _ =>
    exact List.forall_mem_singleton.mpr
      (Operand.plain_print (spelled.arguments _ List.mem_cons_self))
  | push | pop => exact nofun
  | jump _ _ =>
    have x := spelled.coordinates _ List.mem_cons_self
    have y := spelled.coordinates _ (List.mem_cons_of_mem _ List.mem_cons_self)
    exact List.forall_mem_cons.mpr ⟨Operand.plain_printTitled x (by decide) (by decide),
      List.forall_mem_singleton.mpr (Operand.plain_printTitled y (by decide) (by decide))⟩

variable {depth : Nat}

theorem Instruction.allPlain_outline {instruction : Instruction}
    (spelled : instruction.form.Spelled) : AllPlain (instruction.outline depth) := by
  rw [outline_eq]
  exact allPlain_partLines (InstructionForm.plain_heading spelled)
    (List.forall_mem_map.mpr fun text member =>
      allPlain_leaf (InstructionForm.plain_operandLines spelled text member))

theorem Rule.allPlain_outline {rule : Rule} (name : IsName rule.name)
    (parameter : IsName rule.parameter)
    (instructions : ∀ instruction ∈ rule.instructions, instruction.form.Spelled) :
    AllPlain (rule.outline depth) := by
  rw [outline_eq]
  refine allPlain_partLines (by decide) (List.forall_mem_cons.mpr ⟨?_,
    List.forall_mem_cons.mpr ⟨?_, List.forall_mem_map.mpr fun instruction member => ?_⟩⟩)
  · exact allPlain_leaf (plain_append (by decide) (by decide) name.oneLine)
  · exact allPlain_leaf (plain_append (by decide) (by decide) parameter.oneLine)
  · exact Instruction.allPlain_outline (instructions instruction member)

theorem Initiator.allPlain_outline {initiator : Initiator}
    (instructions : ∀ instruction ∈ initiator.instructions, instruction.form.Spelled) :
    AllPlain (initiator.outline depth) := by
  rw [outline_eq]
  exact allPlain_partLines (by decide) (List.forall_mem_map.mpr
    fun instruction member => Instruction.allPlain_outline (instructions instruction member))

theorem Shape.allPlain_outline {shape : Shape} (spelled : shape.Spelled) :
    AllPlain (shape.outline depth) := by
  rw [outline_eq]
  refine allPlain_partLines (by decide) (List.forall_mem_cons.mpr ⟨?_,
    List.forall_mem_cons.mpr ⟨?_, List.forall_mem_append.mpr
      ⟨List.forall_mem_map.mpr fun rule member => ?_, List.forall_mem_singleton.mpr ?_⟩⟩⟩)
  · exact allPlain_leaf (plain_append (by decide) (by decide) spelled.name.oneLine)
  · exact allPlain_leaf (plain_append (by decide) (by decide) spelled.pencil)
  · obtain ⟨name, parameter⟩ := spelled.rules rule member
    exact Rule.allPlain_outline name parameter fun instruction inRule =>
      spelled.instructions instruction
        (List.mem_append_left _ (List.mem_flatMap_of_mem member inRule))
  · exact Initiator.allPlain_outline fun instruction inStart =>
      spelled.instructions instruction (List.mem_append_right _ inStart)

theorem Draw.allPlain_outline {draw : Draw} (spelled : draw.Spelled) :
    AllPlain (draw.outline depth) := by
  rw [outline_eq]
  refine allPlain_partLines (by decide) (List.forall_mem_cons.mpr ⟨?_,
    List.forall_mem_cons.mpr ⟨?_, List.forall_mem_singleton.mpr ?_⟩⟩)
  · exact Shape.allPlain_outline spelled.shape
  · exact allPlain_leaf (Operand.plain_printTitled spelled.x (by decide) (by decide))
  · exact allPlain_leaf (Operand.plain_printTitled spelled.y (by decide) (by decide))

namespace Scene

/-- The lines of the scene of a source can be read back from their text. -/
theorem allPlain_outline {source : String} {scene : Scene}
    (parsed : Scene.parse source = .ok scene) : AllPlain scene.outline := by
  refine List.forall_mem_cons.mpr ⟨by decide, fun line member => ?_⟩
  obtain ⟨draw, drawn, inDraw⟩ := List.mem_flatMap.mp member
  exact Draw.allPlain_outline (spelled_of_parse parsed draw drawn) line inDraw

/-- **What an outline tells.** The scenes of two sources have the same outline if and only if they
are shown alike, draw by draw. Moreover, operands with the same line are the same up to their
places, unless one of them is a number that is written with a point, or both stand in slots with a
title, one is missing and the other is the name `nill`. -/
theorem print_eq_iff {source other : String} {scene otherScene : Scene}
    (parsed : Scene.parse source = .ok scene) (otherParsed : Scene.parse other = .ok otherScene) :
    (scene.print = otherScene.print ↔
      List.Forall₂ Draw.ShownAlike scene.draws otherScene.draws) ∧
    (∀ operand ∈ scene.arguments, ∀ otherOperand ∈ otherScene.arguments,
      operand.print = otherOperand.print →
        operand.form = otherOperand.form ∨ operand.IsReal ∨ otherOperand.IsReal) ∧
    ∀ title, ∀ operand ∈ scene.coordinates, ∀ otherOperand ∈ otherScene.coordinates,
      operand.printTitled title = otherOperand.printTitled title →
        operand.form = otherOperand.form ∨ operand.IsReal ∨ otherOperand.IsReal ∨
          operand.IsMissingFor otherOperand ∨ otherOperand.IsMissingFor operand := by
  refine ⟨?_, fun operand member otherOperand otherMember same => ?_,
    fun title operand member otherOperand otherMember same => ?_⟩
  · rw [← outline_eq_iff]
    refine ⟨fun same => ?_, fun same => by rw [print, print, same]⟩
    exact eq_of_print (allPlain_outline parsed) (allPlain_outline otherParsed) same
  · exact Operand.form_eq_of_print (spelled_of_mem_arguments parsed member)
      (spelled_of_mem_arguments otherParsed otherMember) same
  · exact Operand.form_eq_of_printTitled (spelled_of_mem_coordinates parsed member)
      (spelled_of_mem_coordinates otherParsed otherMember) same

/-- Two scenes that are shown alike: a colour with quotes and one without them, a name and a missing
operand, an integer and a number with a point. -/
theorem print_eq_iff_lookalikes :
    let source := "shape a\x7bpencil red;axiom\x7bjump(nill,1);\x7d\x7ddraw a at(,);"
    let other := "shape a\x7bpencil \"red\";axiom\x7bjump(,1.0);\x7d\x7ddraw a;"
    ∃ scene otherScene, Scene.parse source = .ok scene ∧ Scene.parse other = .ok otherScene ∧
      scene.eraseSpans ≠ otherScene.eraseSpans ∧
      List.Forall₂ Draw.ShownAlike scene.draws otherScene.draws := by
  intro source other
  have isScene : (Scene.parse source).isOk = true := by
    simp only [source]
    decide +kernel
  have otherIsScene : (Scene.parse other).isOk = true := by
    simp only [other]
    decide +kernel
  have outlines : (Scene.parse source).map print = (Scene.parse other).map print := by
    simp only [source, other]
    decide +kernel
  have differ : (Scene.parse source).map eraseSpans ≠ (Scene.parse other).map eraseSpans := by
    simp only [source, other]
    decide +kernel
  cases parsed : Scene.parse source with
  | error error => rw [parsed] at isScene; cases isScene
  | ok scene =>
    cases otherParsed : Scene.parse other with
    | error error => rw [otherParsed] at otherIsScene; cases otherIsScene
    | ok otherScene =>
      rw [parsed, otherParsed] at outlines differ
      exact ⟨scene, otherScene, rfl, rfl, fun same => differ (congrArg Except.ok same),
        (print_eq_iff parsed otherParsed).1.mp (Except.ok.inj outlines)⟩

end Scene

end TurtleScene
