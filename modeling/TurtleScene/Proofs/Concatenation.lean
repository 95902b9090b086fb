/-
**Two sources in a row.**

Two sources with scenes that define different shapes, with a newline between them, have a scene: the
draws of the first and, further along the text, those of the second. The second part is checked as
if the rules of the shapes that the first part draws were around it.

* `SceneTree.Derives.append` — the trees of two sources in a row.
* `Scene.declarations_append` — their declarations, if no shape is defined in both.
* `Scene.ofDeclarations_append` — no draw statement of one part finds a shape of the other.
* `checkEach_append` — parts are checked in the scope that the ones before them leave behind.
* **`Scene.parse_append`** — the scene of two sources in a row, and what is wrong with it.
-/

import TurtleScene.Proofs.Exactness
import TurtleScene.Proofs.Transport
import TurtleScene.Proofs.Visibility

namespace TurtleScene

open Text

/-! ### Trees in a row -/

namespace SceneTree

/-- The items of two trees in a row. -/
def append (first second : SceneTree) : SceneTree := ⟨first.items ++ second.items⟩

theorem tokens_append (first second : SceneTree) :
    (first.append second).tokens = first.tokens ++ second.tokens :=
  List.flatMap_append

theorem expressions_append (first second : SceneTree) :
    (first.append second).expressions = first.expressions ++ second.expressions :=
  List.flatMap_append

theorem declarations_append (first second : SceneTree) :
    (first.append second).declarations = first.declarations ++ second.declarations :=
  List.map_append

/-- **The trees of two sources in a row**, the second one further along the text. -/
theorem Derives.append {first second : SceneTree} {source other : String}
    (derives : first.Derives source) (otherDerives : second.Derives other) :
    (first.append (second.mapSpans (Span.shift (byteLength source.toList + 1)))).Derives
      (source ++ "\n" ++ other) := by
  rw [Derives, TokenStream.tokens_ok_iff] at derives otherDerives ⊢
  rw [TokenStream.ahead_ofSource_append, derives, otherDerives, tokens_append, tokens_mapSpans,
    List.map_append, List.map_map, List.map_map]
  rfl

end SceneTree

/-! ### Declarations in a row -/

/-- The names of the shapes that a source defines, drawn or not. -/
def Scene.shapeNames (source : String) : List String :=
  match Scene.declarations source with
  | .ok values => Declaration.shapeNames values
  | .error _ => []

theorem Declaration.shapeNames_append (first second : List Declaration) :
    shapeNames (first ++ second) = shapeNames first ++ shapeNames second := by
  rw [shapeNames, List.filterMap_append, List.map_append]
  rfl

theorem Declaration.shapeNames_mapSpans (change : Span → Span) (values : List Declaration) :
    shapeNames (values.map (mapSpans change)) = shapeNames values := by
  rw [shapeNames, filterMap_shape?_mapSpans, List.map_map]
  rfl

/-- **The declarations of two sources in a row**, if no shape is defined in both. -/
theorem Scene.declarations_append {source other : String} {values others : List Declaration}
    (declared : Scene.declarations source = .ok values)
    (otherDeclared : Scene.declarations other = .ok others)
    (disjoint : (Declaration.shapeNames values).Disjoint (Declaration.shapeNames others)) :
    Scene.declarations (source ++ "\n" ++ other) = .ok (values ++
      others.map (Declaration.mapSpans (Span.shift (byteLength source.toList + 1)))) := by
  obtain ⟨first, derives, inRange, distinct, rfl⟩ := Scene.declarations_ok_iff.mp declared
  obtain ⟨second, otherDerives, otherRange, otherDistinct, rfl⟩ :=
    Scene.declarations_ok_iff.mp otherDeclared
  have relocates := relocates_shift (byteLength source.toList + 1)
  refine Scene.declarations_ok_iff.mpr ⟨_, derives.append otherDerives, ?_, ?_, ?_⟩
  · rw [SceneTree.expressions_append, List.forall_mem_append, SceneTree.inRange_mapSpans]
    exact ⟨inRange, otherRange⟩
  · rw [← SceneTree.shapeNames_declarations, SceneTree.declarations_append,
      SceneTree.declarations_mapSpans relocates, Declaration.shapeNames_append,
      Declaration.shapeNames_mapSpans, List.nodup_append']
    rw [← SceneTree.shapeNames_declarations] at distinct otherDistinct
    exact ⟨distinct, otherDistinct, disjoint⟩
  · rw [SceneTree.declarations_append, SceneTree.declarations_mapSpans relocates]

/-! ### Draw statements in a row -/

/-- A draw statement is resolved in the same way with more shapes behind. -/
theorem resolve_append_left {shapes : List Shape} {statement : DrawStatement} {draw : Draw}
    (others : List Shape) (resolved : statement.resolve shapes = .ok draw) :
    statement.resolve (shapes ++ others) = .ok draw := by
  obtain ⟨shape, found, rfl⟩ := resolve_ok_iff.mp resolved
  refine resolve_ok_iff.mpr ⟨shape, ?_, rfl⟩
  rw [List.find?_append, found]
  rfl

/-- A draw statement is resolved in the same way behind shapes of other names. -/
theorem resolve_append_right {shapes others : List Shape} {statement : DrawStatement} {draw : Draw}
    (disjoint : (shapes.map Shape.name).Disjoint (others.map Shape.name))
    (resolved : statement.resolve others = .ok draw) :
    statement.resolve (shapes ++ others) = .ok draw := by
  obtain ⟨shape, found, rfl⟩ := resolve_ok_iff.mp resolved
  have isName : shape.name = statement.shapeName := by
    simpa using List.find?_some found
  have inOthers : statement.shapeName ∈ others.map Shape.name :=
    isName ▸ List.mem_map_of_mem (List.mem_of_find?_eq_some found)
  have missing : (shapes.find? fun shape => shape.name == statement.shapeName) = none := by
    rw [List.find?_eq_none]
    intro earlier member same
    rw [beq_iff_eq] at same
    exact disjoint (List.mem_map_of_mem member) (same.symm ▸ inOthers)
  refine resolve_ok_iff.mpr ⟨shape, ?_, rfl⟩
  rw [List.find?_append, missing]
  exact found

theorem Scene.ofDeclarations_mapSpans {values : List Declaration} {scene : Scene}
    (change : Span → Span) (made : Scene.ofDeclarations values = .ok scene) :
    Scene.ofDeclarations (values.map (Declaration.mapSpans change)) =
      .ok (scene.mapSpans change) := by
  rw [Scene.ofDeclarations_map, made]
  rfl

/-- **No draw statement of one part finds a shape of the other.** -/
theorem Scene.ofDeclarations_append {values others : List Declaration} {scene otherScene : Scene}
    (made : Scene.ofDeclarations values = .ok scene)
    (otherMade : Scene.ofDeclarations others = .ok otherScene)
    (disjoint : (Declaration.shapeNames values).Disjoint (Declaration.shapeNames others)) :
    Scene.ofDeclarations (values ++ others) = .ok ⟨scene.draws ++ otherScene.draws⟩ := by
  rw [Scene.ofDeclarations_ok_iff] at made otherMade ⊢
  rw [List.filterMap_append, List.filterMap_append]
  refine List.rel_append (made.imp fun _ _ resolved => ?_) (otherMade.imp fun _ _ resolved => ?_)
  · exact resolve_append_left _ resolved
  · exact resolve_append_right disjoint resolved

/-! ### Checks in a row -/

/-- Parts are checked in the scope that the ones before them leave behind. -/
theorem checkEach_append {α : Type} (check : Scope → α → List Finding × Scope) (scope : Scope)
    (first second : List α) :
    (checkEach check scope (first ++ second)).1 =
      (checkEach check scope first).1 ++
        (checkEach check (checkEach check scope first).2 second).1 := by
  induction first generalizing scope with
  | nil => rfl
  | cons part others ih =>
    show (check scope part).1 ++ (checkEach check (check scope part).2 (others ++ second)).1 = _
    rw [ih, ← List.append_assoc]
    rfl

/-- **Moved draws in a row behind others** are checked as if the rules of the others were around
them. -/
theorem Scene.check_append (palette : Palette) (change : Span → Span) {surroundings : Scope}
    (first second : Scene)
    (around : ∀ name, surroundings.hasRule name = true ↔
      ∃ draw ∈ first.draws, ∃ rule ∈ draw.shape.rules, rule.name = name) :
    Scene.check palette none ⟨first.draws ++ (second.mapSpans change).draws⟩ =
      Scene.check palette none first ++
        (Scene.check palette (some surroundings) second).map (Finding.mapSpans change) := by
  obtain ⟨_, knowsFirst⟩ := checkDraws_eq palette first.draws knows_root
  have knowsAround : Knows surroundings.enter
      ([] ++ first.draws.flatMap fun draw => draw.shape.digest.ruleNames) := by
    intro name
    refine (around name).trans ?_
    simp [ShapeDigest.ruleNames, Shape.digest, Rule.digest]
  have moved := (checkDraws_eq palette (second.mapSpans change).draws knowsFirst).1
  have alone := (checkDraws_eq palette second.draws knowsAround).1
  show (checkEach _ _ (first.draws ++ _)).1 = (checkEach _ _ _).1 ++
    (checkEach _ surroundings.enter second.draws).1.map _
  rw [checkEach_append, alone, ← expectedFindings_mapSpans, ← Draw.digest_mapSpans]
  exact congrArg _ moved

/-! ### The two sources -/

/-- **Two sources in a row.** If two sources have scenes and no shape is defined in both, the first,
a newline and the second have a scene: the draws of the first and those of the second, further along
by the bytes in front of them. What is wrong with it is what is wrong with the first, and what is
wrong with the second where exactly the rules of the shapes that the first draws are around it. -/
theorem Scene.parse_append {source other : String} {scene otherScene : Scene}
    (parsed : Scene.parse source = .ok scene) (otherParsed : Scene.parse other = .ok otherScene)
    (disjoint : (Scene.shapeNames source).Disjoint (Scene.shapeNames other)) :
    let distance := byteLength source.toList + 1
    let whole : Scene := ⟨scene.draws ++ (otherScene.shift distance).draws⟩
    Scene.parse (source ++ "\n" ++ other) = .ok whole ∧
      ∀ (palette : Palette) (surroundings : Scope),
        (∀ name, surroundings.hasRule name = true ↔
          ∃ draw ∈ scene.draws, ∃ rule ∈ draw.shape.rules, rule.name = name) →
        whole.check palette none = scene.check palette none ++
          (otherScene.check palette (some surroundings)).map
            (Finding.mapSpans (Span.shift distance)) := by
  intro distance whole
  obtain ⟨values, declared, made⟩ := Scene.parse_ok_iff.mp parsed
  obtain ⟨others, otherDeclared, otherMade⟩ := Scene.parse_ok_iff.mp otherParsed
  rw [Scene.shapeNames, Scene.shapeNames, declared, otherDeclared] at disjoint
  refine ⟨Scene.parse_ok_iff.mpr
    ⟨_, Scene.declarations_append declared otherDeclared disjoint, ?_⟩, ?_⟩
  · refine Scene.ofDeclarations_append made (Scene.ofDeclarations_mapSpans _ otherMade) ?_
    rwa [Declaration.shapeNames_mapSpans]
  · intro palette surroundings around
    exact Scene.check_append palette _ scene otherScene around

/-- A call in the second source finds a rule of a shape that the first one draws. -/
theorem Scene.parse_append_call :
    let source := "shape a\x7bpencil blue;rule r(n)\x7b\x7daxiom\x7b\x7d\x7ddraw a;"
    let other := "shape b\x7bpencil red;axiom\x7br();q();\x7d\x7ddraw b;"
    let scene : Scene :=
      ⟨[⟨⟨"a", "blue", ⟨15, 19⟩, [⟨"r", "n", [], ⟨20, 31⟩⟩], ⟨[], ⟨31, 38⟩⟩, ⟨0, 39⟩⟩,
        ⟨.missing, ⟨45, 45⟩⟩, ⟨.missing, ⟨45, 45⟩⟩, ⟨39, 46⟩⟩]⟩
    let otherScene : Scene :=
      ⟨[⟨⟨"b", "red", ⟨15, 18⟩, [],
          ⟨[⟨.call "r" ⟨.missing, ⟨27, 27⟩⟩, ⟨25, 29⟩⟩, ⟨.call "q" ⟨.missing, ⟨31, 31⟩⟩, ⟨29, 33⟩⟩],
            ⟨19, 34⟩⟩, ⟨0, 35⟩⟩,
        ⟨.missing, ⟨41, 41⟩⟩, ⟨.missing, ⟨41, 41⟩⟩, ⟨35, 42⟩⟩]⟩
    let whole : Scene := ⟨scene.draws ++ (otherScene.shift 47).draws⟩
    Scene.parse source = .ok scene ∧ Scene.parse other = .ok otherScene ∧
      Scene.shapeNames source = ["a"] ∧ Scene.shapeNames other = ["b"] ∧
      Scene.parse (source ++ "\n" ++ other) = .ok whole ∧
      whole.check Palette.standard none =
        [.invalidColor "red" ⟨62, 65⟩, .undefinedRule "q" ⟨76, 80⟩] := by
  intro source other scene otherScene whole
  have parsed : Scene.parse source = .ok scene := by
    simp only [source, scene]
    decide +kernel
  have otherParsed : Scene.parse other = .ok otherScene := by
    simp only [other, otherScene]
    decide +kernel
  have names : Scene.shapeNames source = ["a"] ∧ Scene.shapeNames other = ["b"] := by
    simp only [source, other]
    decide +kernel
  have distance : byteLength source.toList + 1 = 47 := by
    simp only [source]
    decide +kernel
  have disjoint : (Scene.shapeNames source).Disjoint (Scene.shapeNames other) := by
    rw [names.1, names.2]
    simp
  obtain ⟨together, checked⟩ := Scene.parse_append parsed otherParsed disjoint
  rw [distance] at together checked
  refine ⟨parsed, otherParsed, names.1, names.2, together, ?_⟩
  refine (checked Palette.standard (Scope.root.defineRule "r" "n") fun name => ?_).trans ?_
  · rw [Scope.hasRule, Scope.ruleParameter?_defineRule]
    by_cases same : name = "r"
    · simp [same, scene]
    · have isOther : ("r" = name) = False := eq_false fun isName => same isName.symm
      simp [same, scene, isOther, Scope.ruleParameter?, Scope.root, Scope.frames, Frame.empty]
  · simp only [scene, otherScene]
    decide +kernel

end TurtleScene
