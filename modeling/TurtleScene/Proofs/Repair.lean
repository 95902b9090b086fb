/-
**What is repaired is no longer found.**

A scene is checked by a palette and inside surroundings. With more colours in the palette and more
rules around the scene, the calls of a shape are judged by other names at every step; but each
finding depends on what it is about alone. So the findings are those of before without the ones that
are settled now: the others stay, with their places and in their order, and none is new.

* `Finding.persists` — a finding that a palette, and rules around the scene, do not settle.
* `expectedFindings_filter` — the law under more colours and more rules, from calls to shapes and
  from shapes to scenes.
* `Scene.check_filter` — the same for the checker. All that it finds persists
  (`Scene.persists_of_mem_check`).
* **`Scene.check_repaired`** — one more rule, one more colour, or more of both. It holds as well of
  a checker that lasts (`Checker.check_repairs`).
-/

import TurtleScene.Proofs.Location

namespace TurtleScene

/-! ### Findings that persist -/

/-- Whether a finding is still one under a palette, with rules of some names around the scene. -/
def Finding.persists (palette : Palette) (around : List String) : Finding → Bool
  | .invalidColor color _ => !palette.accepts color
  | .undefinedRule name _ => name ∉ around

section Law

variable {palette richer : Palette} {around wider : List String}

/-- Of the unknown calls those remain whose rule is not around either. -/
theorem unknownCalls_filter (more : around ⊆ wider) (inside : List String) (calls : List Call) :
    unknownCalls (wider ++ inside) calls =
      (unknownCalls (around ++ inside) calls).filter (Finding.persists richer wider) := by
  rw [unknownCalls, unknownCalls, List.filter_map, List.filter_filter]
  congr 1
  refine List.filter_congr fun call _ => ?_
  have narrow : call.rule ∉ wider → call.rule ∉ around := fun absent present =>
    absent (more present)
  simp only [Function.comp_apply, Finding.persists, List.mem_append, not_or, Bool.decide_and]
  by_cases absent : call.rule ∉ wider
  · simp [absent, narrow absent]
  · simp [absent]

/-- The pencil of a shape is refused if it was refused before and persists. -/
theorem pencil_filter (colors : ∀ color, palette.accepts color = true → richer.accepts color = true)
    (pencil : String) (span : Span) :
    (if richer.accepts pencil then [] else [Finding.invalidColor pencil span]) =
      (if palette.accepts pencil then [] else [.invalidColor pencil span]).filter
        (Finding.persists richer wider) := by
  by_cases accepted : palette.accepts pencil = true
  · rw [if_pos accepted, if_pos (colors pencil accepted), List.filter_nil]
  · rw [if_neg accepted, List.filter_singleton, Finding.persists]
    cases richer.accepts pencil <;> rfl

/-- The findings in a shape that remain. -/
theorem ShapeDigest.findings_filter
    (colors : ∀ color, palette.accepts color = true → richer.accepts color = true)
    (more : around ⊆ wider) (earlier : List String) (shape : ShapeDigest) :
    shape.findings richer (wider ++ earlier) =
      (shape.findings palette (around ++ earlier)).filter (Finding.persists richer wider) := by
  rw [findings, findings, List.filter_append, List.filter_append, List.filter_flatMap,
    ← pencil_filter colors]
  simp only [List.append_assoc, ← unknownCalls_filter more]

/-- **The findings in a scene that remain** with more colours and more rules. -/
theorem expectedFindings_filter
    (colors : ∀ color, palette.accepts color = true → richer.accepts color = true)
    (more : around ⊆ wider) (shapes : List ShapeDigest) :
    expectedFindings richer wider shapes =
      (expectedFindings palette around shapes).filter (Finding.persists richer wider) := by
  rw [expectedFindings, expectedFindings, List.filter_flatMap]
  simp only [← ShapeDigest.findings_filter colors more]

end Law

/-! ### Findings of the checker -/

namespace Scene

/-- **With more colours and more rules the checker finds what persists**, in the order of before. -/
theorem check_filter {palette richer : Palette} {surroundings wider : Option Scope}
    {names others : List String} (knows : Knows (Scope.inside surroundings) names)
    (knowsMore : Knows (Scope.inside wider) others)
    (colors : ∀ color, palette.accepts color = true → richer.accepts color = true)
    (more : names ⊆ others) (scene : Scene) :
    scene.check richer wider =
      (scene.check palette surroundings).filter (Finding.persists richer others) := by
  rw [check_eq_of_knows knows, check_eq_of_knows knowsMore]
  exact expectedFindings_filter colors more scene.digest

/-- All that the checker finds persists where it is found. -/
theorem persists_of_mem_check {palette : Palette} {surroundings : Option Scope}
    {names : List String} {scene : Scene} {finding : Finding}
    (knows : Knows (Scope.inside surroundings) names)
    (member : finding ∈ scene.check palette surroundings) :
    finding.persists palette names = true := by
  rw [check_filter knows knows (fun _ => id) (List.Subset.refl names)] at member
  exact List.of_mem_filter member

end Scene

/-! ### Findings by their messages -/

/-- The message on a rule is that of no other rule. -/
theorem Finding.message_undefinedRule_iff {name other : String} {span : Span} :
    (undefinedRule other span).message = "Don't exist's rule '" ++ name ++ "'" ↔ other = name :=
  ⟨eq_of_enclosed, fun same => same ▸ rfl⟩

/-- The message on a colour is that of no other colour. -/
theorem Finding.message_invalidColor_iff {color other : String} {span : Span} :
    (invalidColor other span).message = "Invalid color '" ++ color ++ "'" ↔ other = color :=
  ⟨eq_of_enclosed, fun same => same ▸ rfl⟩

/-- One more colour in a palette is one more that it accepts. -/
theorem Palette.accepts_allow (palette : Palette) (color other : String) :
    (palette.allow color).accepts other = (palette.accepts other || other == color) := by
  rw [accepts, accepts, contains_allow, Bool.or_right_comm]

/-! ### Repairs -/

namespace Scene

/-- One more rule around a scene settles the calls of it. -/
theorem check_defineRule (scene : Scene) (palette : Palette) (parent : Scope)
    (name parameter : String) :
    scene.check palette (some (parent.defineRule name parameter)) =
      (scene.check palette (some parent)).filter fun finding =>
        finding.message ≠ "Don't exist's rule '" ++ name ++ "'" := by
  have knows : Knows (Scope.inside (some parent)) parent.ruleNames := parent.knows_ruleNames.enter
  have knowsMore : Knows (Scope.inside (some (parent.defineRule name parameter)))
      (parent.ruleNames ++ [name]) := (parent.knows_ruleNames.defineRule name parameter).enter
  rw [check_filter knows knowsMore (fun _ => id) (List.subset_append_left _ _)]
  refine List.filter_congr fun finding member => ?_
  have persists := persists_of_mem_check knows member
  cases finding with
  | invalidColor color span =>
    have differs : (Finding.invalidColor color span).message ≠
        "Don't exist's rule '" ++ name ++ "'" := ne_of_quotes (by decide)
    rw [decide_eq_true differs]
    exact persists
  | undefinedRule other span =>
    have absent : other ∉ parent.ruleNames := of_decide_eq_true persists
    rw [Finding.persists, decide_eq_decide, ne_eq, Finding.message_undefinedRule_iff]
    simp [absent]

/-- One more colour in the palette settles the pencils of it. -/
theorem check_allow (scene : Scene) (palette : Palette) (surroundings : Option Scope)
    (color : String) :
    scene.check (palette.allow color) surroundings =
      (scene.check palette surroundings).filter fun finding =>
        finding.message ≠ "Invalid color '" ++ color ++ "'" := by
  have knows := (Scope.inside surroundings).knows_ruleNames
  have colors : ∀ other, palette.accepts other = true →
      (palette.allow color).accepts other = true := by
    intro other accepted
    rw [Palette.accepts_allow, accepted, Bool.true_or]
  rw [check_filter knows knows colors (List.Subset.refl _)]
  refine List.filter_congr fun finding member => ?_
  have persists := persists_of_mem_check knows member
  cases finding with
  | undefinedRule name span =>
    have differs : (Finding.undefinedRule name span).message ≠
        "Invalid color '" ++ color ++ "'" := ne_of_quotes (by decide)
    rw [decide_eq_true differs]
    exact persists
  | invalidColor other span =>
    have refused : palette.accepts other = false := (Bool.not_eq_true' _).mp persists
    rw [Bool.eq_iff_iff, decide_eq_true_iff, ne_eq, Finding.message_invalidColor_iff,
      Finding.persists, Palette.accepts_allow, refused]
    simp

/-- More colours and more rules of any kind take findings away and bring none. -/
theorem check_sublist (scene : Scene) {palette richer : Palette} {surroundings wider : Option Scope}
    (colors : ∀ color, palette.accepts color = true → richer.accepts color = true)
    (rules : ∀ name, (Scope.inside surroundings).hasRule name = true →
      (Scope.inside wider).hasRule name = true) :
    (scene.check richer wider).Sublist (scene.check palette surroundings) := by
  have knows := (Scope.inside surroundings).knows_ruleNames
  have knowsMore := (Scope.inside wider).knows_ruleNames
  have more : (Scope.inside surroundings).ruleNames ⊆ (Scope.inside wider).ruleNames :=
    fun name member => (knowsMore name).mp (rules name ((knows name).mpr member))
  rw [check_filter knows knowsMore colors more]
  exact List.filter_sublist

/-- **Repairs are exact.** One more rule around a scene takes the findings about that rule away, and
one more colour in the palette those about that colour; the other findings keep their places and
their order. More colours and more rules of any kind take findings away and bring none. -/
theorem check_repaired (scene : Scene) (palette : Palette) :
    (∀ (parent : Scope) (name parameter : String),
        scene.check palette (some (parent.defineRule name parameter)) =
          (scene.check palette (some parent)).filter fun finding =>
            finding.message ≠ "Don't exist's rule '" ++ name ++ "'") ∧
      (∀ (surroundings : Option Scope) (color : String),
        scene.check (palette.allow color) surroundings =
          (scene.check palette surroundings).filter fun finding =>
            finding.message ≠ "Invalid color '" ++ color ++ "'") ∧
      ∀ (richer : Palette) (surroundings wider : Option Scope),
        (∀ color, palette.accepts color = true → richer.accepts color = true) →
        (∀ name, (Scope.inside surroundings).hasRule name = true →
          (Scope.inside wider).hasRule name = true) →
        (scene.check richer wider).Sublist (scene.check palette surroundings) :=
  ⟨scene.check_defineRule palette, scene.check_allow palette,
    fun _ _ _ colors rules => scene.check_sublist colors rules⟩

/-- A pencil and a call, each settled by its own repair, and both by both. -/
theorem check_repaired_both :
    let call : Instruction := ⟨.call "r" ⟨.missing, ⟨27, 27⟩⟩, ⟨25, 29⟩⟩
    let shape : Shape := ⟨"a", "red", ⟨15, 18⟩, [], ⟨[call], ⟨19, 30⟩⟩, ⟨0, 31⟩⟩
    let scene : Scene := ⟨[⟨shape, ⟨.missing, ⟨37, 37⟩⟩, ⟨.missing, ⟨37, 37⟩⟩, ⟨31, 38⟩⟩]⟩
    let parent := Scope.root.defineRule "r" "n"
    let richer := Palette.standard.allow "red"
    scene.check .standard (some .root) =
        [.invalidColor "red" ⟨15, 18⟩, .undefinedRule "r" ⟨25, 29⟩] ∧
      scene.check .standard (some parent) = [.invalidColor "red" ⟨15, 18⟩] ∧
      scene.check richer (some .root) = [.undefinedRule "r" ⟨25, 29⟩] ∧
      (scene.check richer (some parent)).Sublist (scene.check .standard none) := by
  intro call shape scene parent richer
  have before : scene.check .standard (some .root) =
      [.invalidColor "red" ⟨15, 18⟩, .undefinedRule "r" ⟨25, 29⟩] := by
    simp only [scene, shape, call]
    decide +kernel
  have colors : ∀ color, Palette.standard.accepts color = true → richer.accepts color = true := by
    intro color accepted
    rw [Palette.accepts_allow, accepted, Bool.true_or]
  have rules : ∀ name, (Scope.inside none).hasRule name = true →
      (Scope.inside (some parent)).hasRule name = true :=
    fun name known => nomatch (knows_root name).mp known
  obtain ⟨rule, color, more⟩ := check_repaired scene .standard
  refine ⟨before, ?_, ?_, more richer none (some parent) colors rules⟩
  · rw [rule .root "r" "n", before]
    decide +kernel
  · rw [color (some .root) "red", before]
    decide +kernel

end Scene

/-- **Repairs are exact for a checker that lasts**, whatever the log of each one holds. -/
theorem Checker.check_repairs (checker : Checker) (scene : Scene) :
    (∀ (parent : Scope) (name parameter : String),
        (checker.check (some (parent.defineRule name parameter)) scene).1 =
          (checker.check (some parent) scene).1.filter fun finding =>
            finding.message ≠ "Don't exist's rule '" ++ name ++ "'") ∧
      (∀ (other : Checker) (surroundings : Option Scope) (color : String),
        other.palette = checker.palette.allow color →
        (other.check surroundings scene).1 =
          (checker.check surroundings scene).1.filter fun finding =>
            finding.message ≠ "Invalid color '" ++ color ++ "'") ∧
      ∀ (other : Checker) (surroundings wider : Option Scope),
        (∀ color, checker.palette.accepts color = true → other.palette.accepts color = true) →
        (∀ name, (Scope.inside surroundings).hasRule name = true →
          (Scope.inside wider).hasRule name = true) →
        (other.check wider scene).1.Sublist (checker.check surroundings scene).1 := by
  simp only [Checker.check_eq]
  refine ⟨scene.check_defineRule checker.palette, ?_, ?_⟩
  · intro other surroundings color same
    rw [same]
    exact scene.check_allow checker.palette surroundings color
  · intro other surroundings wider colors rules
    exact scene.check_sublist colors rules

end TurtleScene
