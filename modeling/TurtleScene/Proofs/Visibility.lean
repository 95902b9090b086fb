/-
**Findings by position.**

The checker threads one scope through a scene. What it finds is a law about places: each pencil and
each call is judged on its own, by the rules that stand before it.

* `ShapeDigest` — what the law reads of a shape: its pencil, the names of its rules, and the calls
  in their bodies and in the start sequence. All else of a scene is left out.
* `expectedFindings` — the law: a pencil that the palette does not accept, and each call of a rule
  that is neither around the scene, nor in a shape drawn earlier, nor earlier in the same shape, nor
  the rule that holds the call.
* `Knows` — a scope has exactly the rules of a list. `findings_of_step` carries it through a list of
  parts from what one part does; it is used for instructions, for rules and for draws.
* `expectedFindings_mapSpans` — the findings move with the places of a scene.
* **`Scene.check_eq_expectedFindings`** — the checker finds what the law says, in its order, and so
  does one that lasts, whatever its log holds (`Checker.check_eq_law`).
-/

import TurtleScene.Check.Checker
import TurtleScene.Proofs.Lists
import TurtleScene.Scene.Placement

namespace TurtleScene

/-! ### What the law reads -/

/-- The call of a rule, and its place. -/
structure Call where
  rule : String
  span : Span
  deriving DecidableEq

/-- The call that an instruction is, if it is one. -/
def Instruction.call? (instruction : Instruction) : Option Call :=
  match instruction.form with
  | .call rule _ => some ⟨rule, instruction.span⟩
  | .left _ | .right _ | .line _ | .push | .pop | .jump _ _ | .assign _ _ => none

/-- A rule by its name and the calls in its body. -/
structure RuleDigest where
  name : String
  calls : List Call
  deriving DecidableEq

/-- A shape by its pencil, its rules and the calls in its start sequence. -/
structure ShapeDigest where
  pencil : String
  pencilSpan : Span
  rules : List RuleDigest
  calls : List Call
  deriving DecidableEq

/-- What the law reads of a rule. -/
def Rule.digest (rule : Rule) : RuleDigest :=
  ⟨rule.name, rule.instructions.filterMap Instruction.call?⟩

/-- What the law reads of a shape. -/
def Shape.digest (shape : Shape) : ShapeDigest :=
  ⟨shape.pencil, shape.pencilSpan, shape.rules.map Rule.digest,
    shape.initiator.instructions.filterMap Instruction.call?⟩

/-- What the law reads of a scene. -/
def Scene.digest (scene : Scene) : List ShapeDigest := scene.draws.map fun draw => draw.shape.digest

/-! ### The law -/

/-- A finding for each call of a rule that is not among the visible ones. -/
def unknownCalls (visible : List String) (calls : List Call) : List Finding :=
  (calls.filter fun call => call.rule ∉ visible).map fun call => .undefinedRule call.rule call.span

/-- The names of the rules of a shape. -/
def ShapeDigest.ruleNames (shape : ShapeDigest) : List String := shape.rules.map RuleDigest.name

/-- The findings in a shape, given the rules that are visible in all of it. A body sees the rules
before it and its own, the start sequence all rules of the shape. -/
def ShapeDigest.findings (palette : Palette) (visible : List String) (shape : ShapeDigest) :
    List Finding :=
  (if palette.accepts shape.pencil then [] else [.invalidColor shape.pencil shape.pencilSpan]) ++
    (shape.rules.zipIdx.flatMap fun (rule, position) =>
      unknownCalls (visible ++ shape.ruleNames.take position ++ [rule.name]) rule.calls) ++
    unknownCalls (visible ++ shape.ruleNames) shape.calls

/-- The findings in a scene, given the rules around it. A shape sees the rules of all shapes drawn
before it. -/
def expectedFindings (palette : Palette) (around : List String) (shapes : List ShapeDigest) :
    List Finding :=
  shapes.zipIdx.flatMap fun (shape, position) =>
    shape.findings palette (around ++ (shapes.take position).flatMap ShapeDigest.ruleNames)

/-- The names of all rules of a scope, from the inside out. -/
def Scope.ruleNames (scope : Scope) : List String :=
  scope.frames.flatMap fun frame => frame.rules.map Prod.fst

/-! ### The rules that a scope knows -/

/-- The rules in scope are exactly those of a list. -/
def Knows (scope : Scope) (names : List String) : Prop :=
  ∀ name, scope.hasRule name = true ↔ name ∈ names

theorem Scope.knows_ruleNames (scope : Scope) : Knows scope scope.ruleNames := by
  intro name
  rw [hasRule, ruleParameter?, List.findSome?_isSome_iff, ruleNames, List.mem_flatMap]
  refine exists_congr fun frame => and_congr_right fun _ => ?_
  rw [List.lookup_isSome_iff]
  simp only [beq_iff_eq, List.mem_map]
  exact exists_congr fun entry => and_congr_right fun _ => eq_comm

theorem knows_root : Knows Scope.root [] := Scope.root.knows_ruleNames

theorem Knows.enter {scope : Scope} {names : List String} (known : Knows scope names) :
    Knows scope.enter names := known

theorem Knows.defineRule {scope : Scope} {names : List String} (known : Knows scope names)
    (name parameter : String) : Knows (scope.defineRule name parameter) (names ++ [name]) := by
  intro other
  rw [Scope.hasRule, Scope.ruleParameter?_defineRule, List.mem_append, List.mem_singleton]
  by_cases same : other = name
  · simp [same]
  · rw [if_neg same, ← known other]
    simp [same, Scope.hasRule]

theorem Knows.defineVariable {scope : Scope} {names : List String} (known : Knows scope names)
    (name : String) (value : Operand) : Knows (scope.defineVariable name value) names := known

/-! ### Parts in a row -/

theorem zipIdx_flatMap_take_succ {α β : Type} (head : α) (tail : List α)
    (found : List α → α → List β) :
    ((head :: tail).zipIdx.flatMap fun (part, position) =>
        found ((head :: tail).take position) part) =
      found [] head ++ tail.zipIdx.flatMap fun (part, position) =>
        found (head :: tail.take position) part := by
  rw [List.zipIdx_cons, List.flatMap_cons, List.zipIdx_succ, List.flatMap_map]
  rfl

/-- **What one part does, a list of parts does.** If a part has the findings that the names known
before it call for, and makes its own names known, then each part of a list is judged by the names
known before the list and those of the parts before it. -/
theorem findings_of_step {α : Type} {check : Scope → α → List Finding × Scope}
    {found : List String → α → List Finding} {names : α → List String}
    (step : ∀ {scope known} part, Knows scope known →
      (check scope part).1 = found known part ∧ Knows (check scope part).2 (known ++ names part))
    {scope : Scope} {known : List String} (parts : List α) (knows : Knows scope known) :
    (checkEach check scope parts).1 = (parts.zipIdx.flatMap fun (part, position) =>
        found (known ++ (parts.take position).flatMap names) part) ∧
      Knows (checkEach check scope parts).2 (known ++ parts.flatMap names) := by
  induction parts generalizing scope known with
  | nil => exact ⟨rfl, by simpa [checkEach] using knows⟩
  | cons head tail ih =>
    obtain ⟨first, knowsAfter⟩ := step head knows
    obtain ⟨others, knowsLast⟩ := ih knowsAfter
    refine ⟨?_, ?_⟩
    · rw [zipIdx_flatMap_take_succ head tail fun earlier part =>
        found (known ++ earlier.flatMap names) part]
      simp only [checkEach, first, others, List.flatMap_nil, List.append_nil, List.flatMap_cons,
        List.append_assoc]
    · simpa [checkEach] using knowsLast

/-! ### From instructions to scenes -/

theorem unknownCalls_cons (visible : List String) (call : Call) (others : List Call) :
    unknownCalls visible (call :: others) =
      unknownCalls visible [call] ++ unknownCalls visible others := by
  rw [unknownCalls, unknownCalls, unknownCalls, ← List.map_append, ← List.filter_append]
  rfl

/-- An instruction is judged by its call alone, and makes no rule known. -/
theorem Instruction.check_eq {scope : Scope} {visible : List String} (instruction : Instruction)
    (knows : Knows scope visible) :
    (instruction.check scope).1 = unknownCalls visible instruction.call?.toList ∧
      Knows (instruction.check scope).2 visible := by
  obtain ⟨form, span⟩ := instruction
  cases form with
  | call rule argument =>
    refine ⟨?_, knows⟩
    by_cases member : rule ∈ visible
    · simp [check, call?, unknownCalls, member, (knows rule).mpr member]
    · have absent : scope.hasRule rule = false :=
        Bool.eq_false_iff.mpr fun present => member ((knows rule).mp present)
      simp [check, call?, unknownCalls, member, absent]
  | assign name value => exact ⟨rfl, knows.defineVariable name value⟩
  | left angle | right angle | line length | push | pop | jump x y => exact ⟨rfl, knows⟩

/-- Instructions in a row are judged by their calls alone. -/
theorem checkInstructions_eq {scope : Scope} {visible : List String}
    (instructions : List Instruction) (knows : Knows scope visible) :
    (checkEach Instruction.check scope instructions).1 =
        unknownCalls visible (instructions.filterMap Instruction.call?) ∧
      Knows (checkEach Instruction.check scope instructions).2 visible := by
  induction instructions generalizing scope with
  | nil => exact ⟨rfl, knows⟩
  | cons first others ih =>
    obtain ⟨inFirst, knowsAfter⟩ := first.check_eq knows
    obtain ⟨inOthers, knowsLast⟩ := ih knowsAfter
    refine ⟨?_, knowsLast⟩
    show (first.check scope).1 ++ (checkEach Instruction.check (first.check scope).2 others).1 = _
    rw [inFirst, inOthers, List.filterMap_cons]
    cases first.call? with
    | none => rfl
    | some call => exact (unknownCalls_cons visible call _).symm

/-- A rule is known in its own body and behind it. -/
theorem Rule.check_eq {scope : Scope} {known : List String} (rule : Rule)
    (knows : Knows scope known) :
    (rule.check scope).1 = unknownCalls (known ++ [rule.name]) rule.digest.calls ∧
      Knows (rule.check scope).2 (known ++ [rule.name]) :=
  checkInstructions_eq rule.instructions (knows.defineRule rule.name rule.parameter)

/-- A shape has the findings of the law, and makes its rules known to what follows. -/
theorem Shape.check_eq (palette : Palette) {scope : Scope} {known : List String} (shape : Shape)
    (knows : Knows scope known) :
    (shape.check palette scope).1 = shape.digest.findings palette known ∧
      Knows (shape.check palette scope).2 (known ++ shape.digest.ruleNames) := by
  have names : ∀ rules : List Rule,
      (rules.flatMap fun rule => [rule.name]) = (rules.map Rule.digest).map RuleDigest.name := by
    intro rules
    rw [List.map_map]
    exact List.map_eq_flatMap.symm
  obtain ⟨inRules, knowsRules⟩ := findings_of_step Rule.check_eq shape.rules knows
  rw [names] at knowsRules
  obtain ⟨inStart, knowsLast⟩ := checkInstructions_eq shape.initiator.instructions knowsRules
  refine ⟨?_, knowsLast⟩
  show shape.checkPencil palette ++ (checkEach Rule.check scope shape.rules).1 ++
    (checkEach Instruction.check (checkEach Rule.check scope shape.rules).2
      shape.initiator.instructions).1 = _
  rw [inRules, inStart]
  simp only [ShapeDigest.findings, ShapeDigest.ruleNames, digest, List.zipIdx_map,
    List.flatMap_map, names, List.map_take]
  rfl

/-- **Draws in a row have the findings of the law**, and make the rules of their shapes known. -/
theorem checkDraws_eq (palette : Palette) {scope : Scope} {known : List String}
    (draws : List Draw) (knows : Knows scope known) :
    (checkEach (Draw.check palette) scope draws).1 =
        expectedFindings palette known (draws.map fun draw => draw.shape.digest) ∧
      Knows (checkEach (Draw.check palette) scope draws).2
        (known ++ draws.flatMap fun draw => draw.shape.digest.ruleNames) := by
  obtain ⟨found, knowsLast⟩ :=
    findings_of_step (fun draw known => draw.shape.check_eq palette known) draws knows
  refine ⟨?_, knowsLast⟩
  rw [expectedFindings, List.zipIdx_map, List.flatMap_map]
  refine Eq.trans found ?_
  simp only [← List.map_take, List.flatMap_map]
  rfl

/-! ### Places -/

section Places

variable (change : Span → Span)

/-- Changes the span of a finding. -/
def Finding.mapSpans : Finding → Finding
  | .invalidColor color span => .invalidColor color (change span)
  | .undefinedRule name span => .undefinedRule name (change span)

/-- Changes the span of a call. -/
def Call.mapSpans (call : Call) : Call := ⟨call.rule, change call.span⟩

/-- Changes the spans of the calls in a rule. -/
def RuleDigest.mapSpans (rule : RuleDigest) : RuleDigest :=
  ⟨rule.name, rule.calls.map (Call.mapSpans change)⟩

/-- Changes the spans of the pencil and the calls of a shape. -/
def ShapeDigest.mapSpans (shape : ShapeDigest) : ShapeDigest :=
  ⟨shape.pencil, change shape.pencilSpan, shape.rules.map (RuleDigest.mapSpans change),
    shape.calls.map (Call.mapSpans change)⟩

theorem filterMap_call?_mapSpans (instructions : List Instruction) :
    (instructions.map (Instruction.mapSpans change)).filterMap Instruction.call? =
      (instructions.filterMap Instruction.call?).map (Call.mapSpans change) := by
  refine filterMap_map_of (fun instruction => ?_) instructions
  obtain ⟨form, span⟩ := instruction
  cases form <;> rfl

theorem Rule.digest_mapSpans (rule : Rule) :
    (rule.mapSpans change).digest = rule.digest.mapSpans change :=
  congrArg (RuleDigest.mk rule.name) (filterMap_call?_mapSpans change rule.instructions)

theorem Shape.digest_mapSpans (shape : Shape) :
    (shape.mapSpans change).digest = shape.digest.mapSpans change := by
  have rules : (shape.rules.map (Rule.mapSpans change)).map Rule.digest =
      (shape.rules.map Rule.digest).map (RuleDigest.mapSpans change) := by
    rw [List.map_map, List.map_map]
    exact List.map_congr_left fun rule _ => rule.digest_mapSpans change
  simp only [digest, mapSpans, ShapeDigest.mapSpans, rules, Initiator.mapSpans,
    filterMap_call?_mapSpans]

theorem Draw.digest_mapSpans (draws : List Draw) :
    ((draws.map (Draw.mapSpans change)).map fun draw => draw.shape.digest) =
      (draws.map fun draw => draw.shape.digest).map (ShapeDigest.mapSpans change) := by
  rw [List.map_map, List.map_map]
  exact List.map_congr_left fun draw _ => draw.shape.digest_mapSpans change

theorem unknownCalls_mapSpans (visible : List String) (calls : List Call) :
    unknownCalls visible (calls.map (Call.mapSpans change)) =
      (unknownCalls visible calls).map (Finding.mapSpans change) := by
  rw [unknownCalls, unknownCalls, List.filter_map, List.map_map, List.map_map]
  rfl

theorem ShapeDigest.ruleNames_mapSpans (shape : ShapeDigest) :
    (shape.mapSpans change).ruleNames = shape.ruleNames := by
  rw [ruleNames, ruleNames, mapSpans, List.map_map]
  rfl

theorem ShapeDigest.findings_mapSpans (palette : Palette) (visible : List String)
    (shape : ShapeDigest) :
    (shape.mapSpans change).findings palette visible =
      (shape.findings palette visible).map (Finding.mapSpans change) := by
  rw [findings, findings, ruleNames_mapSpans, List.map_append, List.map_append]
  congr 2
  · show (if palette.accepts shape.pencil then _ else _) = _
    split <;> rfl
  · simp only [mapSpans, List.zipIdx_map, List.flatMap_map, List.map_flatMap]
    congr 1
    funext entry
    exact unknownCalls_mapSpans change _ entry.1.calls
  · exact unknownCalls_mapSpans change _ shape.calls

/-- **The findings move with the places**, and do not depend on them. -/
theorem expectedFindings_mapSpans (palette : Palette) (around : List String)
    (shapes : List ShapeDigest) :
    expectedFindings palette around (shapes.map (ShapeDigest.mapSpans change)) =
      (expectedFindings palette around shapes).map (Finding.mapSpans change) := by
  have names : ∀ earlier : List ShapeDigest,
      (earlier.map (ShapeDigest.mapSpans change)).flatMap ShapeDigest.ruleNames =
        earlier.flatMap ShapeDigest.ruleNames := by
    intro earlier
    rw [List.flatMap_map]
    simp only [ShapeDigest.ruleNames_mapSpans]
  rw [expectedFindings, expectedFindings, List.zipIdx_map, List.flatMap_map, List.map_flatMap]
  congr 1
  funext entry
  simp only [Prod.map, ← List.map_take, names]
  exact ShapeDigest.findings_mapSpans change palette _ entry.1

end Places

/-! ### The checker -/

/-- The scope in which a scene is checked. -/
def Scope.inside (surroundings : Option Scope) : Scope :=
  (surroundings.map Scope.enter).getD Scope.root

/-- In it, the rules of all frames of the surroundings are known. -/
theorem knows_inside (surroundings : Option Scope) :
    Knows (Scope.inside surroundings) ((surroundings.map Scope.ruleNames).getD []) := by
  cases surroundings with
  | none => exact knows_root
  | some around => exact around.knows_ruleNames.enter

/-- The law, by the names that are known where a scene is checked. -/
theorem Scene.check_eq_of_knows {surroundings : Option Scope} {names : List String}
    (knows : Knows (Scope.inside surroundings) names) (palette : Palette) (scene : Scene) :
    scene.check palette surroundings = expectedFindings palette names scene.digest :=
  (checkDraws_eq palette scene.draws knows).1

/-- **The checker finds what the law says, in its order.** The rules around the scene are those of
all frames of the surroundings. The law reads a digest of the scene, so operands, coordinates,
parameters, names of shapes and assignments add, remove and reorder nothing. -/
theorem Scene.check_eq_expectedFindings (palette : Palette) (surroundings : Option Scope)
    (scene : Scene) :
    scene.check palette surroundings =
      expectedFindings palette ((surroundings.map Scope.ruleNames).getD []) scene.digest :=
  check_eq_of_knows (knows_inside surroundings) palette scene

/-- **A checker that lasts hands out what the law says**, whatever its log held before, and its log
is empty behind the walk. -/
theorem Checker.check_eq_law (checker : Checker) (surroundings : Option Scope) (scene : Scene) :
    checker.check surroundings scene =
      (expectedFindings checker.palette ((surroundings.map Scope.ruleNames).getD []) scene.digest,
        .new checker.palette) := by
  rw [Checker.check_eq, Scene.check_eq_of_knows (knows_inside surroundings)]

end TurtleScene
