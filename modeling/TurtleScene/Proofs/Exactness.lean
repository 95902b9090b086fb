/-
**The scenes of sources are the derivations of the grammar.**

A source has a scene exactly if its tokens, all of them, are derived by a tree whose integers have
64 bits, whose shapes have different names, and whose draw statements name shapes of the tree. The
scene is then what the tree denotes.

* `reads_to_end_iff` — what a cursor moves over up to the end of the source are all its tokens.
* `spelled_of_mem_itemsFrom` — the tokens of a source are words of the patterns, so the integers in
  a tree are readable if they are in range (`ExpressionTree.readable_iff_inRange`).
* `SceneTree.ofDeclarations_ok_iff` — draw statements are resolved to the shapes of their names.
* `Scene.parse_ok_iff` — a source with a scene, by its declarations.
* **`Scene.parse_iff_derives`** — a source with a scene, by a tree that derives its tokens.
-/

import TurtleScene.Proofs.Lists
import TurtleScene.Proofs.MaximalMunch
import TurtleScene.Proofs.Unambiguity

namespace TurtleScene

/-! ### All tokens of a source -/

/-- The tokens of a stream are its items, if none is a fault, and the end behind them. -/
theorem TokenStream.tokens_eq_ok_iff {stream : TokenStream} {tokens : List Token} :
    stream.tokens = .ok tokens ↔
      stream.ahead ++ [Item.token stream.endToken] = tokens.map Item.token := by
  have each : ∀ (item : Item) (token : Token), item.toExcept = .ok token ↔ item = .token token := by
    intro item token
    cases item <;> simp [Item.toExcept]
  rw [TokenStream.tokens, mapM_ok_iff]
  simp only [each]
  rw [← List.forall₂_map_right_iff, List.forall₂_eq_eq_eq]

theorem TokenStream.tokens_ok_iff {stream : TokenStream} {tokens : List Token} :
    stream.tokens = .ok (tokens ++ [stream.endToken]) ↔
      stream.ahead = tokens.map Item.token := by
  rw [TokenStream.tokens_eq_ok_iff, List.map_append]
  exact List.append_left_inj _

/-- A stream of tokens without faults gives a token. -/
theorem TokenStream.exists_next_eq_token {stream : TokenStream} {tokens : List Token}
    (all : stream.ahead = tokens.map Item.token) :
    ∃ cursor : Cursor, stream.next = (.token cursor.current, cursor.ahead) := by
  obtain ⟨ahead, length⟩ := stream
  cases tokens with
  | nil =>
    cases all
    exact ⟨⟨_, _⟩, rfl⟩
  | cons token others =>
    cases all
    exact ⟨⟨token, _⟩, rfl⟩

/-- What a cursor moves over up to the end of the source are all tokens of the source. -/
theorem reads_to_end_iff {stream : TokenStream} {cursor : Cursor} {tokens : List Token}
    (starts : stream.next = (.token cursor.current, cursor.ahead))
    (inStream : ∀ token, Item.token token ∈ stream.ahead → token.kind ≠ .endOfFile)
    (inTokens : ∀ token ∈ tokens, token.kind ≠ .endOfFile) :
    (∃ last, last.current.kind = .endOfFile ∧ Reads cursor tokens last) ↔
      stream.ahead = tokens.map Item.token := by
  induction tokens generalizing stream cursor with
  | nil =>
    simp only [reads_nil, exists_eq_right', List.map_nil]
    rcases TokenStream.next_eq_token starts with ⟨empty, isEnd, _⟩ | ⟨others, isFirst, _⟩
    · rw [isEnd]
      exact ⟨fun _ => empty, fun _ => rfl⟩
    · rw [isFirst]
      constructor
      · intro isEnd
        exact (inStream _ (isFirst ▸ List.mem_cons_self) isEnd).elim
      · intro same
        cases same
  | cons token others ih =>
    obtain ⟨inside, inOthers⟩ := List.forall_mem_cons.mp inTokens
    rcases TokenStream.next_eq_token starts with ⟨empty, isEnd, _⟩ | ⟨rest, isFirst, behind⟩
    · rw [empty]
      constructor
      · rintro ⟨last, _, reads⟩
        rw [← reads.current_eq, isEnd] at inside
        exact (inside rfl).elim
      · intro same
        cases same
    · have inRest : ∀ token, Item.token token ∈ cursor.ahead.ahead → token.kind ≠ .endOfFile := by
        intro found member
        rw [behind] at member
        exact inStream found (isFirst ▸ List.mem_cons_of_mem _ member)
      rw [isFirst, List.map_cons, List.cons.injEq, Item.token.injEq]
      constructor
      · rintro ⟨last, isEnd, after, taken, reads⟩
        obtain ⟨isCurrent, isNext⟩ := Parser.advance_ok_iff.mp taken
        have others := (ih isNext inRest inOthers).mp ⟨last, isEnd, reads⟩
        rw [behind] at others
        exact ⟨isCurrent, others⟩
      · rintro ⟨rfl, rfl⟩
        have all : cursor.ahead.ahead = others.map Item.token := congrArg TokenStream.ahead behind
        obtain ⟨after, isNext⟩ := TokenStream.exists_next_eq_token all
        obtain ⟨last, isEnd, reads⟩ := (ih isNext inRest inOthers).mpr all
        exact ⟨last, isEnd, after, Parser.advance_ok_iff.mpr ⟨rfl, isNext⟩, reads⟩

/-! ### The words of a source -/

/-- A token is made from a word of some pattern. -/
def TokenKind.Spelled (kind : TokenKind) : Prop :=
  ∃ (pattern : Pattern) (word : List Char), word ∈ pattern.language ∧ pattern.kind? word = some kind

theorem TokenKind.Spelled.ne_endOfFile {kind : TokenKind} (spelled : kind.Spelled) :
    kind ≠ .endOfFile := by
  rintro rfl
  obtain ⟨pattern, word, _, made⟩ := spelled
  cases pattern <;> cases made

/-- The text of an integer is one or more digits. -/
theorem TokenKind.Spelled.digits {digits : String} (spelled : (integer digits).Spelled) :
    digits.toList ≠ [] ∧ ∀ character ∈ digits.toList, character.isDigit = true := by
  obtain ⟨pattern, word, member, made⟩ := spelled
  cases pattern <;> cases made
  rw [String.toList_ofList]
  exact Pattern.mem_integer.mp member

/-- The text of a decimal is digits, a point and digits. -/
theorem TokenKind.Spelled.fraction {text : String} (spelled : (decimal text).Spelled) :
    ∃ whole fraction, (whole ≠ [] ∧ ∀ character ∈ whole, character.isDigit = true) ∧
      (fraction ≠ [] ∧ ∀ character ∈ fraction, character.isDigit = true) ∧
      text.toList = whole ++ '.' :: fraction := by
  obtain ⟨pattern, word, member, made⟩ := spelled
  cases pattern <;> cases made
  rw [String.toList_ofList]
  exact Pattern.mem_decimal.mp member

/-- **The tokens of a text are words of the patterns.** -/
theorem spelled_of_mem_itemsFrom {offset : Nat} {text : List Char} {token : Token}
    (member : Item.token token ∈ itemsFrom offset text) : token.kind.Spelled := by
  induction size : text.length using Nat.strong_induction_on generalizing offset text with
  | _ size ih =>
    cases text with
    | nil =>
      rw [itemsFrom_nil] at member
      cases member
    | cons head tail =>
      subst size
      rw [itemsFrom_cons, List.mem_append] at member
      rcases member with inFirst | inOthers
      · by_cases fault : (Lexeme.first head tail).reading = .fault
        · simp [Lexeme.itemsAt, fault] at inFirst
        · obtain ⟨pattern, taken, reads⟩ := Lexeme.exists_longest fault
          rw [Lexeme.itemsAt, reads, Pattern.reading] at inFirst
          cases made : pattern.kind? (Lexeme.first head tail).covered with
          | none => simp [made] at inFirst
          | some kind =>
            rw [made, List.mem_singleton, Item.token.injEq] at inFirst
            rw [inFirst]
            exact ⟨pattern, _, taken.here.word, made⟩
      · exact ih _ (Lexeme.rest_length_lt head tail) inOthers rfl

/-! ### Numbers of the machine -/

/-- Digits, behind a minus sign or without one, are an integer of the machine if it is in range. -/
theorem Integer.isSome_read?_iff {text : List Char} (nonempty : unsigned text ≠ [])
    (digits : ∀ character ∈ unsigned text, character.isDigit = true) :
    (Integer.read? text).isSome = true ↔ -2 ^ 63 ≤ ofText text ∧ ofText text ≤ 2 ^ 63 - 1 := by
  have numeral : (!(unsigned text).isEmpty && (unsigned text).all Char.isDigit) = true := by
    rw [Bool.and_eq_true, Bool.not_eq_true', List.isEmpty_eq_false_iff, List.all_eq_true]
    exact ⟨nonempty, digits⟩
  rw [read?_eq, numeral, Bool.true_and]
  by_cases isIn : inRange (ofText text) = true
  · rw [if_pos isIn]
    simpa [inRange] using isIn
  · rw [if_neg isIn]
    simpa [inRange] using isIn

theorem Integer.unsigned_of_digits {text : List Char}
    (digits : ∀ character ∈ text, character.isDigit = true) : unsigned text = text := by
  refine unsigned.eq_2 text fun others same => ?_
  exact absurd (digits '-' (same ▸ List.mem_cons_self)) (by decide)

/-- Digits, a point and digits are a number of the machine. -/
theorem Binary64.isSome_read? {whole fraction : List Char}
    (inWhole : whole ≠ [] ∧ ∀ character ∈ whole, character.isDigit = true)
    (inFraction : fraction ≠ [] ∧ ∀ character ∈ fraction, character.isDigit = true) :
    (Binary64.read? (whole ++ '.' :: fraction)).isSome = true := by
  rw [read?, Option.isSome_map, Decimal.read?,
    dropWhile_append_stop fraction inWhole.2 (by decide),
    takeWhile_append_stop fraction inWhole.2 (by decide)]
  simp [inWhole.1, inFraction.1, List.all_eq_true.mpr inFraction.2]

/-- **The expressions of a source are readable if their integers are in range.** -/
theorem ExpressionTree.readable_iff_inRange {tree : ExpressionTree}
    (spelled : ∀ token ∈ tree.tokens, token.kind.Spelled) : tree.Readable ↔ tree.InRange := by
  unfold Readable InRange
  cases tree with
  | integer digits place =>
    obtain ⟨nonempty, each⟩ := (spelled _ List.mem_cons_self).digits
    have same := Integer.unsigned_of_digits each
    simpa [reading?, integer?] using
      Integer.isSome_read?_iff (same.symm ▸ nonempty) (same.symm ▸ each)
  | negativeInteger minus digits place =>
    obtain ⟨nonempty, each⟩ := (spelled _ (List.mem_cons_of_mem _ List.mem_cons_self)).digits
    have same : Integer.unsigned ('-' :: digits.toList) = digits.toList := rfl
    simpa [reading?, integer?] using
      Integer.isSome_read?_iff (same.symm ▸ nonempty) (same.symm ▸ each)
  | decimal text place =>
    obtain ⟨whole, fraction, inWhole, inFraction, same⟩ := (spelled _ List.mem_cons_self).fraction
    simp [reading?, integer?, same, Binary64.isSome_read? inWhole inFraction]
  | negativeDecimal minus text place =>
    obtain ⟨whole, fraction, inWhole, inFraction, same⟩ :=
      (spelled _ (List.mem_cons_of_mem _ List.mem_cons_self)).fraction
    simp [reading?, integer?, same, Binary64.isSome_read? inWhole inFraction]
  | string text place | name text place => simp [reading?, integer?]

/-! ### Names and shapes -/

/-- A shape is found by its name if no two shapes have the same. -/
theorem find?_name_eq_some_iff {shapes : List Shape} {name : String} {found : Shape}
    (distinct : (shapes.map Shape.name).Nodup) :
    (shapes.find? fun shape => shape.name == name) = some found ↔
      found ∈ shapes ∧ found.name = name := by
  induction shapes with
  | nil => simp
  | cons first others ih =>
    obtain ⟨isNew, distinct⟩ := List.nodup_cons.mp distinct
    rw [List.find?_cons, List.mem_cons]
    by_cases same : first.name = name
    · rw [beq_iff_eq.mpr same]
      constructor
      · intro isFirst
        cases isFirst
        exact ⟨.inl rfl, same⟩
      · rintro ⟨rfl | member, isName⟩
        · rfl
        · rw [same, ← isName] at isNew
          exact (isNew (List.mem_map_of_mem member)).elim
    · rw [beq_eq_false_iff_ne.mpr same]
      refine (ih distinct).trans (and_congr_left fun isName => ?_)
      exact ⟨.inr, fun member => member.resolve_left fun isFirst => same (isFirst ▸ isName)⟩

/-- A draw statement is resolved to a draw of the shape that it names. -/
theorem resolve_ok_iff {shapes : List Shape} {statement : DrawStatement} {draw : Draw} :
    statement.resolve shapes = .ok draw ↔ ∃ shape,
      (shapes.find? fun shape => shape.name == statement.shapeName) = some shape ∧
        draw = ⟨shape, statement.x, statement.y, statement.span⟩ := by
  unfold DrawStatement.resolve
  cases shapes.find? fun shape => shape.name == statement.shapeName with
  | none => simp
  | some shape => simp [eq_comm]

theorem Scene.ofDeclarations_ok_iff {declarations : List Declaration} {scene : Scene} :
    Scene.ofDeclarations declarations = .ok scene ↔
      List.Forall₂ (fun statement draw =>
          statement.resolve (declarations.filterMap Declaration.shape?) = .ok draw)
        (declarations.filterMap Declaration.draw?) scene.draws := by
  rw [← mapM_ok_iff, Scene.ofDeclarations]
  cases (declarations.filterMap Declaration.draw?).mapM
      (DrawStatement.resolve (declarations.filterMap Declaration.shape?)) with
  | error error => exact ⟨nofun, nofun⟩
  | ok draws =>
    obtain ⟨others⟩ := scene
    show Except.ok (Scene.mk draws) = .ok ⟨others⟩ ↔ _
    simp

theorem SceneTree.filterMap_shape? (tree : SceneTree) :
    tree.declarations.filterMap Declaration.shape? = tree.shapes.map ShapeTree.shape := by
  refine filterMap_map_of (fun item => ?_) tree.items
  cases item <;> rfl

theorem SceneTree.filterMap_draw? (tree : SceneTree) :
    tree.declarations.filterMap Declaration.draw? = tree.draws.map DrawTree.statement := by
  refine filterMap_map_of (fun item => ?_) tree.items
  cases item <;> rfl

theorem SceneTree.shapeNames_declarations (tree : SceneTree) :
    Declaration.shapeNames tree.declarations = tree.shapes.map ShapeTree.name := by
  rw [Declaration.shapeNames, filterMap_shape?, List.map_map]
  rfl

/-- **A tree denotes the scene that its declarations make**, if its shapes have different names. -/
theorem SceneTree.ofDeclarations_ok_iff {tree : SceneTree} {scene : Scene}
    (distinct : (tree.shapes.map ShapeTree.name).Nodup) :
    Scene.ofDeclarations tree.declarations = .ok scene ↔ tree.Denotes scene := by
  rw [Scene.ofDeclarations_ok_iff, filterMap_shape?, filterMap_draw?, List.forall₂_map_left_iff,
    Denotes]
  have names : ((tree.shapes.map ShapeTree.shape).map Shape.name).Nodup := by
    rw [List.map_map]
    exact distinct
  have each : ∀ (statement : DrawTree) (draw : Draw),
      statement.statement.resolve (tree.shapes.map ShapeTree.shape) = .ok draw ↔
        ∃ definition ∈ tree.shapes, definition.name = statement.name ∧
          draw = statement.draw definition.shape := by
    intro statement draw
    rw [resolve_ok_iff]
    simp only [find?_name_eq_some_iff names, List.mem_map]
    constructor
    · rintro ⟨_, ⟨⟨definition, member, rfl⟩, isName⟩, rfl⟩
      exact ⟨definition, member, isName, rfl⟩
    · rintro ⟨definition, member, isName, rfl⟩
      exact ⟨definition.shape, ⟨⟨definition, member, rfl⟩, isName⟩, rfl⟩
  simp only [each]

/-- A tree denotes some scene if each of its draw statements names a shape of it. -/
theorem SceneTree.exists_denotes_iff {tree : SceneTree} :
    (∃ scene, tree.Denotes scene) ↔
      ∀ statement ∈ tree.draws, statement.name ∈ tree.shapes.map ShapeTree.name := by
  have someDraws : (∃ scene, tree.Denotes scene) ↔ ∃ draws, tree.Denotes ⟨draws⟩ :=
    ⟨fun ⟨⟨draws⟩, denotes⟩ => ⟨draws, denotes⟩, fun ⟨draws, denotes⟩ => ⟨⟨draws⟩, denotes⟩⟩
  refine someDraws.trans (exists_forall₂_iff.trans (forall₂_congr fun statement _ => ?_))
  rw [List.mem_map]
  constructor
  · rintro ⟨_, definition, member, isName, _⟩
    exact ⟨definition, member, isName⟩
  · rintro ⟨definition, member, isName⟩
    exact ⟨_, definition, member, isName, rfl⟩

/-! ### The declarations of a source -/

/-- The declarations of a source, before draw statements are resolved. -/
def Scene.declarations (source : String) : Except ParseError (List Declaration) :=
  match Cursor.ofSource source with
  | .ok cursor =>
    match Parser.manyWhile (· ≠ .endOfFile) Parser.declaration [] cursor with
    | .ok declarations _ => .ok declarations
    | .error error _ => .error error
  | .error error => .error (.lexical error)

/-- A scene is made from the declarations of its source. -/
theorem Scene.parse_eq (source : String) :
    Scene.parse source = (Scene.declarations source).bind Scene.ofDeclarations := by
  unfold Scene.parse Scene.declarations Scene.parseFrom
  cases Cursor.ofSource source with
  | error error => rfl
  | ok cursor =>
    have steps : Parser.scene cursor = EStateM.bind
        (Parser.manyWhile (· ≠ .endOfFile) Parser.declaration [])
        (fun values => MonadExcept.ofExcept (Scene.ofDeclarations values)) cursor := rfl
    dsimp only
    rw [steps]
    unfold EStateM.bind
    cases Parser.manyWhile (· ≠ .endOfFile) Parser.declaration [] cursor with
    | error error after => rfl
    | ok values after =>
      dsimp only [Except.bind]
      cases Scene.ofDeclarations values <;> rfl

theorem Scene.parse_ok_iff {source : String} {scene : Scene} :
    Scene.parse source = .ok scene ↔ ∃ values,
      Scene.declarations source = .ok values ∧ Scene.ofDeclarations values = .ok scene := by
  rw [Scene.parse_eq]
  cases Scene.declarations source with
  | error error => exact ⟨nofun, fun ⟨_, same, _⟩ => nomatch same⟩
  | ok values =>
    refine ⟨fun made => ⟨values, rfl, made⟩, ?_⟩
    rintro ⟨_, same, made⟩
    cases same
    exact made

theorem Cursor.ofSource_ok_iff {source : String} {cursor : Cursor} :
    Cursor.ofSource source = .ok cursor ↔
      (TokenStream.ofSource source).next = (.token cursor.current, cursor.ahead) := by
  unfold Cursor.ofSource
  obtain ⟨current, ahead⟩ := cursor
  split <;> rename_i isNext <;> rw [isNext] <;> simp

/-- **Declarations are read up to the end of a stream** if its tokens are those of a tree, and they
are then those of the tree. -/
theorem Parser.declarations_to_end_iff {stream : TokenStream} {cursor : Cursor}
    {values : List Declaration}
    (starts : stream.next = (.token cursor.current, cursor.ahead))
    (inStream : ∀ token, Item.token token ∈ stream.ahead → token.kind ≠ .endOfFile) :
    (∃ last, manyWhile (· ≠ .endOfFile) declaration [] cursor = .ok values last) ↔
      ∃ tree : SceneTree, stream.ahead = tree.tokens.map Item.token ∧
        (∀ part ∈ tree.expressions, part.Readable) ∧ (Declaration.shapeNames values).Nodup ∧
          tree.declarations = values := by
  have toEnd : ∀ tree : SceneTree,
      (∃ last, last.current.kind = .endOfFile ∧ Reads cursor tree.tokens last) ↔
        stream.ahead = tree.tokens.map Item.token :=
    fun tree => reads_to_end_iff starts inStream tree.covers.inside
  constructor
  · rintro ⟨last, read⟩
    obtain ⟨isEnd, tree, ⟨readable, distinct⟩, same, reads⟩ := declarations_ok_iff.mp read
    exact ⟨tree, (toEnd tree).mp ⟨last, isEnd, reads⟩, readable, distinct, same⟩
  · rintro ⟨tree, all, readable, distinct, same⟩
    obtain ⟨last, isEnd, reads⟩ := (toEnd tree).mpr all
    exact ⟨last, declarations_ok_iff.mpr ⟨isEnd, tree, ⟨readable, distinct⟩, same, reads⟩⟩

/-- **The declarations of a source are those of the trees that derive its tokens.** -/
theorem Scene.declarations_ok_iff_readable {source : String} {values : List Declaration} :
    Scene.declarations source = .ok values ↔ ∃ tree : SceneTree,
      (TokenStream.ofSource source).ahead = tree.tokens.map Item.token ∧
        (∀ part ∈ tree.expressions, part.Readable) ∧ (Declaration.shapeNames values).Nodup ∧
          tree.declarations = values := by
  have inStream : ∀ token, Item.token token ∈ (TokenStream.ofSource source).ahead →
      token.kind ≠ .endOfFile := fun token member => (spelled_of_mem_itemsFrom member).ne_endOfFile
  unfold Scene.declarations
  cases first : Cursor.ofSource source with
  | error error =>
    refine ⟨nofun, fun ⟨tree, all, _⟩ => ?_⟩
    obtain ⟨cursor, isNext⟩ := TokenStream.exists_next_eq_token all
    rw [Cursor.ofSource_ok_iff.mpr isNext] at first
    cases first
  | ok cursor =>
    rw [← Parser.declarations_to_end_iff (Cursor.ofSource_ok_iff.mp first) inStream]
    dsimp only
    cases Parser.manyWhile (· ≠ .endOfFile) Parser.declaration [] cursor with
    | ok declarations last => simp
    | error error last => simp

/-! ### Derivations of a source -/

/-- A tree derives the tokens of a source, all of them. -/
def SceneTree.Derives (tree : SceneTree) (source : String) : Prop :=
  (TokenStream.ofSource source).tokens =
    .ok (tree.tokens ++ [(TokenStream.ofSource source).endToken])

/-- What is asked of a tree beyond the grammar. -/
structure SceneTree.WellFormed (tree : SceneTree) : Prop where
  /-- Each integer has 64 bits, its sign included. -/
  inRange : ∀ expression ∈ tree.expressions, expression.InRange
  /-- No two shapes have the same name. -/
  distinct : (tree.shapes.map ShapeTree.name).Nodup
  /-- Each draw statement names a shape, be it defined before or behind it. -/
  named : ∀ statement ∈ tree.draws, statement.name ∈ tree.shapes.map ShapeTree.name

/-- **A source has the declarations of the trees that derive it**, if their integers are in range
and their shapes have different names. -/
theorem Scene.declarations_ok_iff {source : String} {values : List Declaration} :
    Scene.declarations source = .ok values ↔ ∃ tree : SceneTree, tree.Derives source ∧
      (∀ expression ∈ tree.expressions, expression.InRange) ∧
        (tree.shapes.map ShapeTree.name).Nodup ∧ tree.declarations = values := by
  rw [Scene.declarations_ok_iff_readable]
  refine exists_congr fun tree => ?_
  rw [SceneTree.Derives, TokenStream.tokens_ok_iff]
  refine and_congr_right fun all => ?_
  have spelled : ∀ token ∈ tree.tokens, token.kind.Spelled := by
    intro token member
    refine spelled_of_mem_itemsFrom (?_ : Item.token token ∈ (TokenStream.ofSource source).ahead)
    rw [all]
    exact List.mem_map_of_mem member
  have numbers : (∀ part ∈ tree.expressions, part.Readable) ↔
      ∀ part ∈ tree.expressions, part.InRange :=
    forall₂_congr fun part member => ExpressionTree.readable_iff_inRange fun token inPart =>
      spelled token (tree.covers.contains part member inPart)
  rw [numbers, ← tree.shapeNames_declarations]
  refine and_congr_right fun _ => ?_
  constructor
  · rintro ⟨distinct, rfl⟩
    exact ⟨distinct, rfl⟩
  · rintro ⟨distinct, rfl⟩
    exact ⟨distinct, rfl⟩

/-- At most one tree derives a source. -/
theorem SceneTree.Derives.eq {tree other : SceneTree} {source : String}
    (derives : tree.Derives source) (otherDerives : other.Derives source) : tree = other := by
  have same := Except.ok.inj (derives.symm.trans otherDerives)
  exact SceneTree.tokens_injective (List.append_cancel_right same)

/-- **The parser is exact.** A source has a scene if and only if a well-formed tree derives its
tokens, and the scene is then the one that the tree of the source denotes. -/
theorem Scene.parse_iff_derives (source : String) :
    ((∃ scene, Scene.parse source = .ok scene) ↔
        ∃ tree : SceneTree, tree.Derives source ∧ tree.WellFormed) ∧
      ∀ (scene : Scene) (tree : SceneTree), Scene.parse source = .ok scene →
        tree.Derives source → tree.Denotes scene := by
  have ofTree : ∀ (tree : SceneTree) (scene : Scene), tree.Derives source → tree.WellFormed →
      (Scene.parse source = .ok scene ↔ tree.Denotes scene) := by
    intro tree scene derives wellFormed
    have same : Scene.declarations source = .ok tree.declarations :=
      Scene.declarations_ok_iff.mpr ⟨tree, derives, wellFormed.inRange, wellFormed.distinct, rfl⟩
    rw [← SceneTree.ofDeclarations_ok_iff wellFormed.distinct, Scene.parse_eq, same]
    exact Iff.rfl
  have toTree : ∀ scene, Scene.parse source = .ok scene →
      ∃ tree : SceneTree, tree.Derives source ∧ tree.WellFormed := by
    intro scene parsed
    obtain ⟨_, declared, made⟩ := Scene.parse_ok_iff.mp parsed
    obtain ⟨tree, derives, inRange, distinct, rfl⟩ := Scene.declarations_ok_iff.mp declared
    have denotes := (SceneTree.ofDeclarations_ok_iff distinct).mp made
    exact ⟨tree, derives, inRange, distinct, SceneTree.exists_denotes_iff.mp ⟨scene, denotes⟩⟩
  refine ⟨⟨fun ⟨scene, parsed⟩ => toTree scene parsed, ?_⟩, ?_⟩
  · rintro ⟨tree, derives, wellFormed⟩
    obtain ⟨scene, denotes⟩ := SceneTree.exists_denotes_iff.mpr wellFormed.named
    exact ⟨scene, (ofTree tree scene derives wellFormed).mpr denotes⟩
  · intro scene tree parsed derives
    obtain ⟨other, otherDerives, wellFormed⟩ := toTree scene parsed
    rw [derives.eq otherDerives]
    exact (ofTree other scene otherDerives wellFormed).mp parsed

end TurtleScene
