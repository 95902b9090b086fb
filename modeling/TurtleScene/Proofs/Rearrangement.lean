/-
**The order of definitions does not matter.**

A scene is made from the definitions of a source, wherever they stand, and from its draw statements
in their order. So definitions may be moved past each other and past draw statements, and what no
draw statement names may be left out or added.

* `assemble` — texts on lines of their own. The texts of items that are cut out of a source spell
  the items in any order (`SceneTree.Derives.spells_assemble`).
* `SceneTree.Agrees` — trees with the same draw statements, and with the same definitions of the
  names in them. Both denote the same scenes (`SceneTree.Agrees.denotes_iff`).
* `SameScene` — two sources have the same scene but for the places, with the same messages. Sources
  that spell trees that agree do (`SceneTree.Agrees.sameScene`).
* **`Scene.parse_rearranged`** — definitions that are moved, added or left out.
-/

import TurtleScene.Proofs.Location

namespace TurtleScene

open Text

/-! ### Items as texts -/

/-- The text of an item, cut out of its source. -/
def ItemTree.text (source : String) (item : ItemTree) : String :=
  String.ofList (slice item.span.start item.span.stop source.toList)

/-- Texts in a row, each with a line break behind it. -/
def assemble (texts : List String) : String :=
  texts.foldr (fun text others => text ++ "\n" ++ others) ""

theorem spells_assemble_texts {texts : List String} {words : List (List TokenKind)}
    (each : List.Forall₂ Spells texts words) : Spells (assemble texts) words.flatten := by
  induction each with
  | nil => exact spells_nil
  | cons here _ ih => exact here.append ih

/-- An item of a source, cut out of it, is spelled on its own. -/
theorem SceneTree.Derives.spells_text {tree : SceneTree} {source : String}
    (derives : tree.Derives source) {item : ItemTree} (member : item ∈ tree.items) :
    Spells (item.text source) (kinds item.tokens) := by
  obtain ⟨covered, covers, spells, _⟩ :=
    derives.excerpt item.encloses (infix_flatMap member ItemTree.tokens)
  rwa [ItemTree.text, covers.slice_eq]

/-- The kinds of the tokens of items in a row. -/
def ItemTree.word (items : List ItemTree) : List TokenKind :=
  items.flatMap fun item => kinds item.tokens

theorem SceneTree.kinds_tokens (tree : SceneTree) :
    kinds tree.tokens = ItemTree.word tree.items := by
  rw [kinds, tokens, List.map_flatMap]
  rfl

/-- **Items of a source, cut out of it, are spelled in any order.** -/
theorem SceneTree.Derives.forall_spells_text {tree : SceneTree} {source : String}
    (derives : tree.Derives source) {items : List ItemTree} (inTree : items ⊆ tree.items) :
    List.Forall₂ Spells (items.map (ItemTree.text source))
      (items.map fun item => kinds item.tokens) := by
  rw [List.forall₂_map_left_iff, List.forall₂_map_right_iff, List.forall₂_same]
  exact fun item member => derives.spells_text (inTree member)

theorem SceneTree.Derives.spells_assemble {tree : SceneTree} {source : String}
    (derives : tree.Derives source) {items : List ItemTree} (inTree : items ⊆ tree.items) :
    Spells (assemble (items.map (ItemTree.text source))) (ItemTree.word items) := by
  rw [ItemTree.word, List.flatMap_def]
  exact spells_assemble_texts (derives.forall_spells_text inTree)

/-! ### Trees that agree -/

/-- **Trees that differ in definitions that are not drawn**, or in where definitions stand. -/
structure SceneTree.Agrees (tree other : SceneTree) : Prop where
  /-- The draw statements are the same, in the same order. -/
  draws : other.draws = tree.draws
  /-- No name is defined twice in one tree if none is in the other one. -/
  distinct : (other.shapes.map ShapeTree.name).Nodup ↔ (tree.shapes.map ShapeTree.name).Nodup
  /-- What is drawn is defined alike. -/
  drawn : ∀ definition : ShapeTree, definition.name ∈ tree.draws.map DrawTree.name →
    (definition ∈ other.shapes ↔ definition ∈ tree.shapes)

namespace SceneTree.Agrees

variable {tree other : SceneTree}

theorem symm (agrees : tree.Agrees other) : other.Agrees tree := by
  refine ⟨agrees.draws.symm, agrees.distinct.symm, fun definition isDrawn => ?_⟩
  rw [agrees.draws] at isDrawn
  exact (agrees.drawn definition isDrawn).symm

/-- Definitions may stand in any order. -/
theorem of_perm {items : List ItemTree} (perm : items.Perm tree.items)
    (draws : items.filterMap ItemTree.draw? = tree.draws) : tree.Agrees ⟨items⟩ := by
  have shapes : (SceneTree.mk items).shapes.Perm tree.shapes := perm.filterMap ItemTree.shape?
  exact ⟨draws, (shapes.map ShapeTree.name).nodup_iff, fun _ _ => shapes.mem_iff⟩

/-- A definition of a new name may be added if it is not drawn. -/
theorem of_insert {front behind : List ItemTree} {definition : ShapeTree}
    (undrawn : definition.name ∉ (SceneTree.mk (front ++ behind)).draws.map DrawTree.name)
    (isNew : definition.name ∉ (SceneTree.mk (front ++ behind)).shapes.map ShapeTree.name) :
    (SceneTree.mk (front ++ behind)).Agrees ⟨front ++ .shape definition :: behind⟩ := by
  have shapes : (SceneTree.mk (front ++ .shape definition :: behind)).shapes.Perm
      (definition :: (SceneTree.mk (front ++ behind)).shapes) :=
    List.perm_middle.filterMap ItemTree.shape?
  refine ⟨?_, ?_, fun other isDrawn => ?_⟩
  · simp only [SceneTree.draws, List.filterMap_append, List.filterMap_cons, ItemTree.draw?]
  · rw [(shapes.map ShapeTree.name).nodup_iff, List.map_cons, List.nodup_cons]
    exact and_iff_right isNew
  · rw [shapes.mem_iff, List.mem_cons]
    refine or_iff_right ?_
    rintro rfl
    exact undrawn isDrawn

theorem mapSpans (change : Span → Span) (agrees : tree.Agrees other) :
    (tree.mapSpans change).Agrees (other.mapSpans change) := by
  refine ⟨?_, ?_, fun definition isDrawn => ?_⟩
  · rw [draws_mapSpans, draws_mapSpans, agrees.draws]
  · rw [shapeNames_mapSpans, shapeNames_mapSpans]
    exact agrees.distinct
  · have names : (tree.mapSpans change).draws.map DrawTree.name = tree.draws.map DrawTree.name := by
      rw [draws_mapSpans, List.map_map]
      rfl
    rw [names] at isDrawn
    rw [shapes_mapSpans, shapes_mapSpans, List.mem_map, List.mem_map]
    refine exists_congr fun original => and_congr_left ?_
    rintro rfl
    exact agrees.drawn original isDrawn

theorem denotes {scene : Scene} (agrees : tree.Agrees other) (denotes : tree.Denotes scene) :
    other.Denotes scene := by
  rw [Denotes, agrees.draws]
  have named : ∀ statement ∈ tree.draws, statement.name ∈ tree.draws.map DrawTree.name :=
    fun _ => List.mem_map_of_mem
  refine ((List.forall₂_and_left _ _).mpr ⟨named, denotes⟩).imp ?_
  rintro statement draw ⟨isDrawn, definition, member, isName, isDraw⟩
  refine ⟨definition, (agrees.drawn definition ?_).mpr member, isName, isDraw⟩
  rwa [isName]

/-- **Trees that agree denote the same scenes.** -/
theorem denotes_iff (agrees : tree.Agrees other) (scene : Scene) :
    other.Denotes scene ↔ tree.Denotes scene :=
  ⟨agrees.symm.denotes, agrees.denotes⟩

end SceneTree.Agrees

/-! ### Sources with the same scene -/

/-- **Both sources have a scene, or none has.** The scenes are the same but for the places, and they
have the same findings in the same order, as they are worded. -/
def SameScene (source other : String) : Prop :=
  (∃ scene otherScene, Scene.parse source = .ok scene ∧ Scene.parse other = .ok otherScene ∧
      scene.eraseSpans = otherScene.eraseSpans ∧
      ∀ (palette : Palette) (surroundings : Option Scope),
        (scene.check palette surroundings).map Finding.message =
          (otherScene.check palette surroundings).map Finding.message) ∨
    (∃ error, Scene.parse source = .error error) ∧ ∃ error, Scene.parse other = .error error

/-- **Sources that spell trees that agree** have the same scene. -/
theorem SceneTree.Agrees.sameScene {tree otherTree : SceneTree} {source other : String}
    (agrees : tree.Agrees otherTree) (spells : Spells source (kinds tree.tokens))
    (otherSpells : Spells other (kinds otherTree.tokens))
    (inRange : ∀ expression ∈ tree.expressions, expression.InRange)
    (otherInRange : ∀ expression ∈ otherTree.expressions, expression.InRange) :
    SameScene source other := by
  have alike : ∀ erased : Scene,
      (∃ scene, Scene.parse other = .ok scene ∧ scene.eraseSpans = erased) ↔
        ∃ scene, Scene.parse source = .ok scene ∧ scene.eraseSpans = erased := by
    intro erased
    rw [Scene.parse_erased_iff otherSpells otherInRange, Scene.parse_erased_iff spells inRange,
      agrees.distinct, eraseSpans, (agrees.mapSpans _).denotes_iff, eraseSpans]
  cases parsed : Scene.parse source with
  | ok scene =>
    obtain ⟨otherScene, otherParsed, same⟩ := (alike scene.eraseSpans).mpr ⟨scene, parsed, rfl⟩
    refine .inl ⟨scene, otherScene, parsed, otherParsed, same.symm, fun palette surroundings => ?_⟩
    rw [← scene.messages_eraseSpans, ← same, otherScene.messages_eraseSpans]
  | error error =>
    cases otherParsed : Scene.parse other with
    | ok otherScene =>
      obtain ⟨_, found, _⟩ := (alike otherScene.eraseSpans).mp ⟨otherScene, otherParsed, rfl⟩
      cases parsed.symm.trans found
    | error otherError => exact .inr ⟨⟨error, parsed⟩, otherError, otherParsed⟩

/-- The expressions of a tree with one more definition are those of the definition and the
others. -/
theorem SceneTree.forall_expressions_insert {holds : ExpressionTree → Prop}
    {front behind : List ItemTree} {definition : ShapeTree} :
    (∀ expression ∈ (SceneTree.mk (front ++ .shape definition :: behind)).expressions,
        holds expression) ↔
      (∀ expression ∈ definition.expressions, holds expression) ∧
        ∀ expression ∈ (SceneTree.mk (front ++ behind)).expressions, holds expression := by
  have perm : (SceneTree.mk (front ++ .shape definition :: behind)).expressions.Perm
      (definition.expressions ++ (SceneTree.mk (front ++ behind)).expressions) :=
    List.perm_middle.flatMap_right ItemTree.expressions
  simp only [perm.mem_iff, List.forall_mem_append]

/-- Whatever spells the items of a tree that agrees has the same scene. -/
theorem SceneTree.Derives.sameScene {tree : SceneTree} {source : String} {items : List ItemTree}
    (derives : tree.Derives source)
    (inRange : ∀ expression ∈ tree.expressions, expression.InRange)
    (agrees : tree.Agrees ⟨items⟩)
    (itemsInRange : ∀ expression ∈ (SceneTree.mk items).expressions, expression.InRange)
    (other : String) (spells : Spells other (ItemTree.word items)) : SameScene source other := by
  rw [← SceneTree.kinds_tokens ⟨items⟩] at spells
  exact agrees.sameScene derives.spells spells inRange itemsInRange

/-- **Only the order of draw statements counts.** Take a source of definitions and draw statements
whose integers are in range. If its items are written in another order that keeps the order of the
draw statements, the new source has the same scene and the same messages, or none of the two has a
scene. The same holds if the definition of a name is added or left out that no draw statement and no
other definition has. Each new source can be made from the texts of the items. -/
theorem Scene.parse_rearranged {source : String} {tree : SceneTree} (derives : tree.Derives source)
    (inRange : ∀ expression ∈ tree.expressions, expression.InRange) :
    (∀ items : List ItemTree, items.Perm tree.items →
        items.filterMap ItemTree.draw? = tree.draws →
        Spells (assemble (items.map (ItemTree.text source))) (ItemTree.word items) ∧
          ∀ other, Spells other (ItemTree.word items) → SameScene source other) ∧
      (∀ (front behind : List ItemTree) (definition : ShapeTree) (text : String),
        tree.items = front ++ behind → Spells text (kinds definition.tokens) →
        (∀ expression ∈ definition.expressions, expression.InRange) →
        definition.name ∉ tree.draws.map DrawTree.name →
        definition.name ∉ tree.shapes.map ShapeTree.name →
        Spells (assemble (front.map (ItemTree.text source) ++
            text :: behind.map (ItemTree.text source)))
          (ItemTree.word (front ++ .shape definition :: behind)) ∧
          ∀ other, Spells other (ItemTree.word (front ++ .shape definition :: behind)) →
            SameScene source other) ∧
      ∀ (front behind : List ItemTree) (definition : ShapeTree),
        tree.items = front ++ .shape definition :: behind →
        definition.name ∉ tree.draws.map DrawTree.name →
        definition.name ∉ (SceneTree.mk (front ++ behind)).shapes.map ShapeTree.name →
        Spells (assemble ((front ++ behind).map (ItemTree.text source)))
          (ItemTree.word (front ++ behind)) ∧
          ∀ other, Spells other (ItemTree.word (front ++ behind)) → SameScene source other := by
  refine ⟨fun items perm draws => ?_, fun front behind definition text split written bounded undrawn
    isNew => ?_, fun front behind definition split undrawn isNew => ?_⟩
  · refine ⟨derives.spells_assemble perm.subset, derives.sameScene inRange (.of_perm perm draws) ?_⟩
    intro expression member
    exact inRange expression ((perm.flatMap_right ItemTree.expressions).subset member)
  · obtain ⟨items⟩ := tree
    obtain rfl : items = front ++ behind := split
    refine ⟨?_, derives.sameScene inRange (.of_insert undrawn isNew)
      (SceneTree.forall_expressions_insert.mpr ⟨bounded, inRange⟩)⟩
    have each := List.rel_append
      (derives.forall_spells_text (List.subset_append_left front behind))
      (.cons written (derives.forall_spells_text (List.subset_append_right front behind)))
    have spells := spells_assemble_texts each
    rw [ItemTree.word, List.flatMap_def, List.map_append, List.map_cons]
    exact spells
  · obtain ⟨items⟩ := tree
    obtain rfl : items = front ++ .shape definition :: behind := split
    have draws : (SceneTree.mk (front ++ .shape definition :: behind)).draws =
        (SceneTree.mk (front ++ behind)).draws := by
      simp only [SceneTree.draws, List.filterMap_append, List.filterMap_cons, ItemTree.draw?]
    rw [draws] at undrawn
    refine ⟨derives.spells_assemble ?_, derives.sameScene inRange
      (SceneTree.Agrees.of_insert undrawn isNew).symm
      (SceneTree.forall_expressions_insert.mp inRange).2⟩
    exact List.append_subset.mpr ⟨List.subset_append_left _ _,
      List.subset_append_of_subset_right front (List.subset_cons_self _ behind)⟩

/-- A shape may be drawn before it is defined or behind it. -/
theorem Scene.parse_rearranged_forward :
    let statement : DrawTree := ⟨⟨0, 4⟩, "a", ⟨5, 6⟩, none, ⟨6, 7⟩⟩
    let definition : ShapeTree := ⟨⟨8, 13⟩, "a", ⟨14, 15⟩, ⟨16, 17⟩, ⟨18, 24⟩,
      .identifier "ash" ⟨25, 28⟩, ⟨28, 29⟩, [], ⟨⟨30, 35⟩, ⟨36, 37⟩, [], ⟨37, 38⟩⟩, ⟨39, 40⟩⟩
    let source := "draw a;\nshape a \x7b pencil ash; axiom \x7b\x7d \x7d"
    SceneTree.Derives ⟨[.draw statement, .shape definition]⟩ source ∧
      (Scene.parse source).isOk = true ∧
      SameScene source "shape a \x7b pencil ash; axiom \x7b\x7d \x7d\ndraw a;\n" := by
  intro statement definition source
  have derives : SceneTree.Derives ⟨[.draw statement, .shape definition]⟩ source := by
    unfold SceneTree.Derives
    simp only [source, statement, definition]
    decide +kernel
  have inRange : ∀ expression ∈
      (SceneTree.mk [.draw statement, .shape definition]).expressions, expression.InRange := nofun
  obtain ⟨spells, same⟩ := (Scene.parse_rearranged derives inRange).1
    [.shape definition, .draw statement] (.swap _ _ _) rfl
  have isScene : (Scene.parse source).isOk = true := by
    simp only [source]
    decide +kernel
  refine ⟨derives, isScene, same _ ?_⟩
  have text : assemble ([.shape definition, .draw statement].map (ItemTree.text source)) =
      "shape a \x7b pencil ash; axiom \x7b\x7d \x7d\ndraw a;\n" := by
    simp only [source, statement, definition]
    decide +kernel
  exact text ▸ spells

end TurtleScene
