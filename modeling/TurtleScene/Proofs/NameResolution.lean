/-
**Which name is blamed.**

A shape must not be defined twice, and what is drawn has to be defined somewhere. The first is found
as soon as the second definition is read, whatever stands behind it; the second only when the whole
source is read, so it shows where nothing else is wrong.

* `Scene.parse_duplicateShape` — the first definition of a name that is taken refuses the source.
* `Scene.declarations_ne_unknownShape` — reading declarations never misses a shape.
* `SceneTree.ofDeclarations_error_iff` — the first draw statement whose shape is missing refuses the
  scene. `Scene.parse_unknownShape_iff` says so of the source.
* **`Scene.parse_resolves_names`** — both, for every source.
-/

import TurtleScene.Proofs.Arrangement
import TurtleScene.Proofs.Arrival
import TurtleScene.Proofs.Location

namespace TurtleScene

/-! ### A name that is taken -/

/-- What tokens in a row enclose begins with the first of them and ends with the last one. -/
theorem Laid.merge_eq {low high : Nat} {first last : Token} {inside : List Token}
    (laid : Laid low (first :: (inside ++ [last])) high) :
    first.span.merge last.span = ⟨first.span.start, last.span.stop⟩ := by
  obtain ⟨_, nonempty, behind⟩ := laid_cons.mp laid
  obtain ⟨middle, between, stops⟩ := laid_append.mp behind
  have ordered := between.1.le
  obtain ⟨further, alsoNonempty, _⟩ := laid_cons.mp stops
  rw [Span.merge, Span.mk.injEq]
  omega

/-- The definition of a shape reaches from its first word to its closing brace. -/
theorem ShapeTree.span_eq {tree : ShapeTree} {low high : Nat} (laid : Laid low tree.tokens high) :
    tree.shape.span = ⟨tree.word.start, tree.closing.stop⟩ := by
  have isTokens : tree.tokens = ⟨.keyword .shape, tree.word⟩ ::
      ((⟨.identifier tree.name, tree.namePlace⟩ :: ⟨.mark .leftBrace, tree.opening⟩ ::
        ⟨.keyword .pencil, tree.pencilWord⟩ :: tree.pencil.token ::
        ⟨.mark .semicolon, tree.semicolon⟩ ::
        (tree.rules.flatMap RuleTree.tokens ++ tree.initiator.tokens)) ++
          [⟨.mark .rightBrace, tree.closing⟩]) := by
    simp [tokens]
  rw [isTokens] at laid
  exact laid.merge_eq

/-- A definition of a name that is taken is refused when it is read. -/
theorem Parser.declaration_duplicate {earlier : List Declaration} {cursor last : Cursor}
    {second : ShapeTree} (readable : ∀ part ∈ second.expressions, part.Readable)
    (reads : Reads cursor second.tokens last)
    (taken : second.name ∈ Declaration.shapeNames earlier) :
    declaration earlier cursor = .error (.duplicateShape second.name second.shape.span) last := by
  have read : shape cursor = .ok second.shape last :=
    shape_ok_iff.mpr ⟨second, readable, rfl, reads⟩
  have defined : Declaration.defines earlier second.shape.name = true :=
    Declaration.defines_iff.mpr taken
  have here : current cursor = .ok cursor.current cursor := rfl
  rw [declaration, bind_eq_of_ok here, reads.current_eq]
  refine (bind_eq_of_ok read).trans ?_
  rw [defined, if_pos rfl]
  rfl

/-- **The first definition of a name that is taken refuses the source**, whatever stands behind it
and whatever is drawn in front of it. -/
theorem Scene.parse_duplicateShape {source : String} {tokens : List Token} {front : SceneTree}
    {second : ShapeTree} (lexes : (TokenStream.ofSource source).tokens = .ok tokens)
    (begins : front.tokens ++ second.tokens <+: tokens)
    (inRange : ∀ expression ∈ front.expressions ++ second.expressions, expression.InRange)
    (distinct : (front.shapes.map ShapeTree.name).Nodup)
    (taken : second.name ∈ front.shapes.map ShapeTree.name) :
    Scene.parse source = .error
      (.duplicateShape second.name ⟨second.word.start, second.closing.stop⟩) := by
  obtain ⟨inside, ahead, rfl⟩ := TokenStream.exists_of_tokens_ok lexes
  -- the two definitions end in front of the end of the source
  have begins : front.tokens ++ second.tokens <+: inside := by
    rcases List.prefix_concat_iff.mp begins with same | begins
    · have atEnd : (TokenStream.ofSource source).endToken ∈ front.tokens ++ second.tokens :=
        same ▸ List.mem_concat_self
      rcases List.mem_append.mp atEnd with inFront | inSecond
      · exact absurd rfl (front.covers.inside _ inFront)
      · exact absurd rfl (second.covers.inside _ inSecond)
    · exact begins
  obtain ⟨rest, rfl⟩ := begins
  rw [List.map_append] at ahead
  have noFault : ∀ error, (rest.map Item.token).head? ≠ some (.fault error) := by
    cases rest <;> simp
  obtain ⟨start, last, starts, reads, _⟩ := TokenStream.exists_reads ahead noFault
  obtain ⟨mid, readsFront, readsSecond⟩ := reads_append.mp reads
  have inSource : ∀ token ∈ front.tokens ++ second.tokens,
      Item.token token ∈ (TokenStream.ofSource source).ahead := by
    intro token member
    rw [ahead]
    exact List.mem_append_left _ (List.mem_map_of_mem member)
  have contains : ∀ part ∈ front.expressions ++ second.expressions,
      part.tokens ⊆ front.tokens ++ second.tokens := by
    intro part member token inPart
    rcases List.mem_append.mp member with inFront | inSecond
    · exact List.mem_append_left _ (front.covers.contains part inFront inPart)
    · exact List.mem_append_right _ (second.covers.contains part inSecond inPart)
  obtain ⟨readableFront, readableSecond⟩ :=
    List.forall_mem_append.mp (readable_of_inRange inSource contains inRange)
  have arrives := Parser.arrives_declaration readableFront
    (front.shapeNames_declarations.symm ▸ distinct)
  have inside : mid.current.kind ≠ .endOfFile := by
    rw [readsSecond.current_eq]
    exact nofun
  have known : second.name ∈ Declaration.shapeNames
      (front.items.map ItemTree.declaration).reverse := by
    have names : second.name ∈ Declaration.shapeNames front.declarations :=
      front.shapeNames_declarations ▸ taken
    rw [Declaration.shapeNames, List.filterMap_reverse, List.map_reverse, List.mem_reverse]
    exact names
  have refused := Parser.declaration_duplicate readableSecond readsSecond known
  have laid : Laid 0 _ _ := (munched_itemsFrom 0 source.toList).laid
    (ahead.trans (List.map_append.symm.trans rfl))
  have together : second.tokens <:+: front.tokens ++ second.tokens ++ rest :=
    ⟨front.tokens, rest, rfl⟩
  obtain ⟨_, _, laidSecond⟩ := laid.infix together
  rw [ShapeTree.span_eq laidSecond] at refused
  exact parse_error_of_scene starts (arrives.error readsFront inside refused)

/-! ### A shape that is missing -/

/-- A draw statement is refused if no shape has the name. -/
theorem resolve_error_iff {shapes : List Shape} {statement : DrawStatement} {error : ParseError} :
    statement.resolve shapes = .error error ↔
      statement.shapeName ∉ shapes.map Shape.name ∧
        error = .unknownShape statement.shapeName statement.nameSpan := by
  have missing : (shapes.find? fun shape => shape.name == statement.shapeName) = none ↔
      statement.shapeName ∉ shapes.map Shape.name := by
    simp [List.find?_eq_none]
  rw [← missing]
  unfold DrawStatement.resolve
  cases shapes.find? fun shape => shape.name == statement.shapeName with
  | none => simp [eq_comm]
  | some shape => simp

theorem exists_resolve_iff {shapes : List Shape} {statement : DrawStatement} :
    (∃ draw, statement.resolve shapes = .ok draw) ↔
      statement.shapeName ∈ shapes.map Shape.name := by
  cases answer : statement.resolve shapes with
  | error error =>
    have missing := (resolve_error_iff.mp answer).1
    simpa using missing
  | ok draw =>
    refine ⟨fun _ => ?_, fun _ => ⟨draw, rfl⟩⟩
    by_contra missing
    rw [resolve_error_iff.mpr ⟨missing, rfl⟩] at answer
    cases answer

/-- Declarations make no scene just if a draw statement is not resolved. -/
theorem Scene.ofDeclarations_error_iff {declarations : List Declaration} {error : ParseError} :
    Scene.ofDeclarations declarations = .error error ↔
      (declarations.filterMap Declaration.draw?).mapM
        (DrawStatement.resolve (declarations.filterMap Declaration.shape?)) = .error error := by
  rw [Scene.ofDeclarations]
  cases (declarations.filterMap Declaration.draw?).mapM
      (DrawStatement.resolve (declarations.filterMap Declaration.shape?)) with
  | error first =>
    show Except.error first = Except.error error ↔ _
    rw [Except.error.injEq, Except.error.injEq]
  | ok draws => constructor <;> (intro failed; cases failed)

/-- **The first draw statement whose shape is missing refuses the scene.** -/
theorem SceneTree.ofDeclarations_error_iff {tree : SceneTree} {error : ParseError} :
    Scene.ofDeclarations tree.declarations = .error error ↔ ∃ first,
      (tree.draws.find? fun statement => statement.name ∉ tree.shapes.map ShapeTree.name) =
          some first ∧
        error = .unknownShape first.name first.namePlace := by
  have names : (tree.shapes.map ShapeTree.shape).map Shape.name = tree.shapes.map ShapeTree.name :=
    List.map_map
  rw [Scene.ofDeclarations_error_iff, filterMap_shape?, filterMap_draw?, List.mapM_map,
    mapM_error_iff]
  simp only [Function.comp_apply, exists_resolve_iff, resolve_error_iff, names,
    List.find?_eq_some_iff_append, decide_not, Bool.not_not, Bool.not_eq_true', decide_eq_true_eq,
    decide_eq_false_iff_not]
  constructor
  · rintro ⟨front, first, behind, draws, known, missing, blamed⟩
    exact ⟨first, ⟨missing, front, behind, draws, known⟩, blamed⟩
  · rintro ⟨first, ⟨missing, front, behind, draws, known⟩, blamed⟩
    exact ⟨front, first, behind, draws, known, missing, blamed⟩

/-- The declarations of a source are never refused for a shape that is missing. -/
theorem Scene.declarations_ne_unknownShape (source name : String) (span : Span) :
    Scene.declarations source ≠ .error (.unknownShape name span) := by
  intro failed
  unfold Scene.declarations at failed
  cases starts : Cursor.ofSource source with
  | error fault => rw [starts] at failed; cases failed
  | ok cursor =>
    rw [starts] at failed
    dsimp only at failed
    split at failed
    · cases failed
    · rename_i error last stopped
      cases failed
      have blamed := Parser.parses_declarations.blames (Parser.bind_error_iff.mpr (.inl stopped))
      cases blamed with
      | meaning _ misjudged => cases misjudged

/-- A source is refused for a missing shape just if its declarations make no scene for it. -/
theorem Scene.parse_unknownShape_iff {source name : String} {span : Span} :
    Scene.parse source = .error (.unknownShape name span) ↔ ∃ tree : SceneTree,
      tree.Derives source ∧ (∀ expression ∈ tree.expressions, expression.InRange) ∧
        (tree.shapes.map ShapeTree.name).Nodup ∧ ∃ first,
          (tree.draws.find? fun statement => statement.name ∉ tree.shapes.map ShapeTree.name) =
              some first ∧
            name = first.name ∧ span = first.namePlace := by
  have fromDeclarations : Scene.parse source = .error (.unknownShape name span) ↔ ∃ values,
      Scene.declarations source = .ok values ∧
        Scene.ofDeclarations values = .error (.unknownShape name span) := by
    rw [Scene.parse_eq]
    cases declared : Scene.declarations source with
    | error error =>
      refine ⟨fun failed => ?_, fun ⟨_, same, _⟩ => nomatch same⟩
      cases failed
      exact absurd declared (Scene.declarations_ne_unknownShape source name span)
    | ok values =>
      refine ⟨fun failed => ⟨values, rfl, failed⟩, ?_⟩
      rintro ⟨_, same, failed⟩
      cases same
      exact failed
  rw [fromDeclarations]
  constructor
  · rintro ⟨values, declared, failed⟩
    obtain ⟨tree, derives, inRange, distinct, rfl⟩ := Scene.declarations_ok_iff.mp declared
    obtain ⟨first, isFirst, blamed⟩ := SceneTree.ofDeclarations_error_iff.mp failed
    cases blamed
    exact ⟨tree, derives, inRange, distinct, first, isFirst, rfl, rfl⟩
  · rintro ⟨tree, derives, inRange, distinct, first, isFirst, rfl, rfl⟩
    exact ⟨tree.declarations, Scene.declarations_ok_iff.mpr ⟨tree, derives, inRange, distinct, rfl⟩,
      SceneTree.ofDeclarations_error_iff.mpr ⟨first, isFirst, rfl⟩⟩

/-! ### Every source -/

/-- **Names are blamed exactly.** In a source without a fault, the first definition of a name that
is taken is blamed over its whole length, whatever stands behind it and whatever is drawn; what
stands up to its end has to follow the grammar, with integers that have 64 bits.

A missing shape is blamed if and only if the whole source follows the grammar, its integers have 64
bits, no name is defined twice and some draw statement has a name that none of the definitions has.
It is the first such statement of the source, and the place is that of the name in it. -/
theorem Scene.parse_resolves_names :
    (∀ (source : String) (tokens : List Token) (front : SceneTree) (second : ShapeTree),
      (TokenStream.ofSource source).tokens = .ok tokens →
      front.tokens ++ second.tokens <+: tokens →
      (∀ expression ∈ front.expressions ++ second.expressions, expression.InRange) →
      (front.shapes.map ShapeTree.name).Nodup →
      second.name ∈ front.shapes.map ShapeTree.name →
      ∃ error, Scene.parse source = .error error ∧ error.stage = .parsing ∧
        error.message = "shape '" ++ second.name ++ "' is already defined" ∧
          error.span = ⟨second.word.start, second.closing.stop⟩) ∧
    ∀ (source name : String) (span : Span),
      (∃ error, Scene.parse source = .error error ∧ error.stage = .parsing ∧
        error.message = "unknown shape '" ++ name ++ "'" ∧ error.span = span) ↔
      ∃ tree : SceneTree, tree.Derives source ∧
        (∀ expression ∈ tree.expressions, expression.InRange) ∧
          (tree.shapes.map ShapeTree.name).Nodup ∧ ∃ first,
            (tree.draws.find? fun statement =>
                statement.name ∉ tree.shapes.map ShapeTree.name) = some first ∧
              name = first.name ∧ span = first.namePlace := by
  refine ⟨?_, fun source name span => ?_⟩
  · intro source tokens front second lexes begins inRange distinct taken
    exact ⟨_, parse_duplicateShape lexes begins inRange distinct taken, rfl, rfl, rfl⟩
  · rw [← parse_unknownShape_iff]
    constructor
    · rintro ⟨error, failed, _, isMessage, rfl⟩
      obtain ⟨span, rfl⟩ := ParseError.eq_unknownShape_of_message isMessage
      exact failed
    · intro failed
      exact ⟨_, failed, rfl, rfl, rfl⟩

/-- A second shape is blamed in front of a stray mark and of what is drawn, and otherwise the first
name of two that are missing. -/
theorem Scene.parse_blames_first_names :
    let twice := "draw q;shape s\x7bpencil red;axiom\x7b\x7d\x7d" ++
      "shape s\x7bpencil red;axiom\x7b\x7d\x7d;"
    let missing := "draw s;draw p;draw q;shape s\x7bpencil red;axiom\x7b\x7d\x7d"
    (∃ error, Scene.parse twice = .error error ∧ error.stage = .parsing ∧
      error.message = "shape 's' is already defined" ∧ error.span = ⟨34, 61⟩) ∧
      ∃ error, Scene.parse missing = .error error ∧ error.stage = .parsing ∧
        error.message = "unknown shape 'p'" ∧ error.span = ⟨12, 13⟩ := by
  intro twice missing
  -- the definition that both sources hold, `start` bytes behind their beginning
  let definition (start : Nat) : ShapeTree :=
    ⟨⟨start, start + 5⟩, "s", ⟨start + 6, start + 7⟩, ⟨start + 7, start + 8⟩,
      ⟨start + 8, start + 14⟩, .identifier "red" ⟨start + 15, start + 18⟩,
      ⟨start + 18, start + 19⟩, [],
      ⟨⟨start + 19, start + 24⟩, ⟨start + 24, start + 25⟩, [], ⟨start + 25, start + 26⟩⟩,
      ⟨start + 26, start + 27⟩⟩
  let statement (start : Nat) (name : String) : DrawTree :=
    ⟨⟨start, start + 4⟩, name, ⟨start + 5, start + 6⟩, none, ⟨start + 6, start + 7⟩⟩
  let front : SceneTree := ⟨[.draw (statement 0 "q"), .shape (definition 7)]⟩
  let tree : SceneTree := ⟨[.draw (statement 0 "s"), .draw (statement 7 "p"),
    .draw (statement 14 "q"), .shape (definition 21)]⟩
  have lexes : (TokenStream.ofSource twice).tokens = .ok
      (front.tokens ++ (definition 34).tokens ++
        [⟨.mark .semicolon, ⟨61, 62⟩⟩, ⟨.endOfFile, ⟨62, 62⟩⟩]) := by
    simp only [twice, front, definition, statement]
    decide +kernel
  have derives : tree.Derives missing := by
    unfold SceneTree.Derives
    simp only [missing, tree, definition, statement]
    decide +kernel
  constructor
  · exact Scene.parse_resolves_names.1 twice _ front (definition 34) lexes ⟨_, rfl⟩ nofun
      (by decide) (by decide)
  · exact (Scene.parse_resolves_names.2 missing "p" ⟨12, 13⟩).mpr
      ⟨tree, derives, nofun, by decide, statement 7 "p", rfl, rfl, rfl⟩

end TurtleScene
