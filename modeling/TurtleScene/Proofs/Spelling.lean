/-
**Sources that spell a tree.**

A source spells a tree if its tokens are of the kinds that the tree derives, in their order. Where
they stand is free, and so are blanks and comments between them; so many sources spell one tree, and
all of them mean the same.

* `Spells` — the kinds of the tokens of a source. Sources with a newline between them spell in a row
  what each of them spells (`Spells.append`).
* `SceneTree.Derives.excerpt` — the text under the span of some tokens in a row, cut out of the
  source, spells these tokens (`InstructionTree.encloses`, `ShapeTree.encloses`, …).
* `SceneTree.eraseSpans`, `SceneTree.Denotes.mapSpans` — trees without their places, and what they
  denote.
* `Scene.ofStream_ok_iff` — the scene of a stream, by the tree of its tokens.
* **`Scene.parse_erased_iff`** — a source that spells a tree has the scene that the tree denotes,
  but for the places.
-/

import TurtleScene.Proofs.Layout

namespace TurtleScene

open Text

/-! ### Kinds of tokens in a source -/

/-- **The tokens of a source are of the kinds of a word**, and the end of the source follows
them. -/
def Spells (source : String) (word : List TokenKind) : Prop :=
  ∃ tokens, (TokenStream.ofSource source).tokens = .ok tokens ∧
    kinds tokens = word ++ [.endOfFile]

theorem spells_iff {source : String} {word : List TokenKind} :
    Spells source word ↔ ∃ inside : List Token,
      (TokenStream.ofSource source).ahead = inside.map Item.token ∧ kinds inside = word := by
  constructor
  · rintro ⟨tokens, lexes, isWord⟩
    obtain ⟨inside, ahead, rfl⟩ := TokenStream.exists_of_tokens_ok lexes
    rw [kinds_append] at isWord
    exact ⟨inside, ahead, (List.append_inj' isWord rfl).1⟩
  · rintro ⟨inside, ahead, rfl⟩
    exact ⟨_, TokenStream.tokens_ok_iff.mpr ahead, kinds_append _ _⟩

theorem spells_iff_map {source : String} {word : List TokenKind} :
    Spells source word ↔
      (TokenStream.ofSource source).tokens.map kinds = .ok (word ++ [.endOfFile]) := by
  unfold Spells
  cases (TokenStream.ofSource source).tokens <;> simp [Except.map]

instance (source : String) (word : List TokenKind) : Decidable (Spells source word) :=
  decidable_of_iff _ spells_iff_map.symm

theorem spells_nil : Spells "" [] :=
  spells_iff.mpr ⟨[], itemsFrom_nil 0, rfl⟩

theorem kinds_mapSpans (change : Span → Span) (tokens : List Token) :
    kinds (tokens.map (Token.mapSpans change)) = kinds tokens := by
  rw [kinds, kinds, List.map_map]
  rfl

/-- **Sources with a newline between them** spell what each of them spells. -/
theorem Spells.append {source other : String} {word more : List TokenKind}
    (spells : Spells source word) (further : Spells other more) :
    Spells (source ++ "\n" ++ other) (word ++ more) := by
  obtain ⟨inside, ahead, rfl⟩ := spells_iff.mp spells
  obtain ⟨behind, otherAhead, rfl⟩ := spells_iff.mp further
  refine spells_iff.mpr
    ⟨inside ++ behind.map (Token.mapSpans (Span.shift (byteLength source.toList + 1))), ?_, ?_⟩
  · rw [TokenStream.ahead_ofSource_append, ahead, otherAhead, List.map_append, List.map_map,
      List.map_map]
    rfl
  · rw [kinds_append, kinds_mapSpans]

theorem SceneTree.Derives.spells {tree : SceneTree} {source : String}
    (derives : tree.Derives source) : Spells source (kinds tree.tokens) :=
  ⟨_, derives, kinds_append _ _⟩

/-- The kinds that a source spells are made from words of the patterns. -/
theorem Spells.spelled {source : String} {word : List TokenKind} (spells : Spells source word) :
    ∀ kind ∈ word, kind.Spelled := by
  obtain ⟨inside, ahead, rfl⟩ := spells_iff.mp spells
  intro kind member
  obtain ⟨token, inSource, rfl⟩ := List.mem_map.mp member
  refine spelled_of_mem_itemsFrom (?_ : Item.token token ∈ (TokenStream.ofSource source).ahead)
  rw [ahead]
  exact List.mem_map_of_mem inSource

/-! ### Excerpts -/

/-- Items at changed places are tokens only if the items are. -/
theorem exists_tokens_of_mapSpans {change : Span → Span} {items : List Item} {tokens : List Token}
    (same : items.map (Item.mapSpans change) = tokens.map Item.token) :
    ∃ own : List Token, items = own.map Item.token ∧
      own.map (Token.mapSpans change) = tokens := by
  induction items generalizing tokens with
  | nil =>
    rw [List.map_eq_nil_iff.mp same.symm]
    exact ⟨[], rfl, rfl⟩
  | cons item others ih =>
    obtain ⟨token, further, rfl, isToken, behind⟩ := List.map_eq_cons_iff.mp same.symm
    obtain ⟨own, rfl, isFurther⟩ := ih behind.symm
    cases item with
    | token found =>
      refine ⟨found :: own, rfl, ?_⟩
      rw [List.map_cons, isFurther, Item.token.inj isToken]
    | fault error => cases isToken

/-- The last token of a source stands at its end. -/
def Tight (source : String) : Prop :=
  ∃ (others : List Token) (last : Token), (TokenStream.ofSource source).ahead =
    (others ++ [last]).map Item.token ∧ last.span.stop = byteLength source.toList

/-- A part of a source without faults spells its tokens on its own. -/
theorem spells_of_itemsFrom {offset : Nat} {covered : List Char} {tokens : List Token}
    {last : Token} (items : itemsFrom offset covered = (tokens ++ [last]).map Item.token)
    (atEnd : last.span.stop = offset + byteLength covered) :
    Spells (String.ofList covered) (kinds (tokens ++ [last])) ∧ Tight (String.ofList covered) := by
  rw [← Nat.zero_add offset, itemsFrom_add] at items
  obtain ⟨own, isOwn, isTokens⟩ := exists_tokens_of_mapSpans items
  have ahead : (TokenStream.ofSource (String.ofList covered)).ahead = own.map Item.token :=
    (congrArg (itemsFrom 0) String.toList_ofList).trans isOwn
  refine ⟨spells_iff.mpr ⟨own, ahead, ?_⟩, ?_⟩
  · rw [← isTokens, kinds_mapSpans]
  · obtain ⟨others, final, rfl, _, isFinal⟩ := List.map_eq_append_iff.mp isTokens
    obtain ⟨ownLast, rfl, rfl⟩ := List.map_eq_singleton_iff.mp isFinal
    have stop : ownLast.span.stop + offset = offset + byteLength covered := atEnd
    refine ⟨others, ownLast, ahead, ?_⟩
    rw [String.toList_ofList]
    omega

/-- A span goes from the first one of some tokens up to the last one. -/
def Span.Encloses (span : Span) (tokens : List Token) : Prop :=
  ∃ (first last : Token) (inside : List Token),
    tokens = first :: (inside ++ [last]) ∧ span = first.span.merge last.span

theorem InstructionTree.encloses (tree : InstructionTree) :
    tree.instruction.span.Encloses tree.tokens := ⟨_, _, _, rfl, rfl⟩

theorem ShapeTree.encloses (tree : ShapeTree) : tree.shape.span.Encloses tree.tokens := by
  refine ⟨⟨.keyword .shape, tree.word⟩, ⟨.mark .rightBrace, tree.closing⟩,
    ⟨.identifier tree.name, tree.namePlace⟩ :: ⟨.mark .leftBrace, tree.opening⟩ ::
      ⟨.keyword .pencil, tree.pencilWord⟩ :: tree.pencil.token ::
      ⟨.mark .semicolon, tree.semicolon⟩ ::
      (tree.rules.flatMap RuleTree.tokens ++ tree.initiator.tokens), ?_, rfl⟩
  simp [tokens]

theorem DrawTree.encloses (tree : DrawTree) : tree.statement.span.Encloses tree.tokens :=
  ⟨_, _, _ :: positionTokens tree.position, rfl, rfl⟩

/-- The place of an item. -/
def ItemTree.span : ItemTree → Span
  | .shape definition => definition.shape.span
  | .draw statement => statement.statement.span

theorem ItemTree.encloses (item : ItemTree) : item.span.Encloses item.tokens := by
  cases item with
  | shape definition => exact definition.encloses
  | draw statement => exact statement.encloses

/-- **The text under the span of some tokens in a row** spells these tokens, and ends with the last
one. -/
theorem SceneTree.Derives.excerpt {tree : SceneTree} {source : String} {span : Span}
    {tokens : List Token} (derives : tree.Derives source) (encloses : span.Encloses tokens)
    (inTree : tokens <:+: tree.tokens) :
    ∃ covered, span.Covers source.toList covered ∧
      Spells (String.ofList covered) (kinds tokens) ∧ Tight (String.ofList covered) := by
  obtain ⟨first, last, inside, rfl, rfl⟩ := encloses
  obtain ⟨front, behind, split⟩ := inTree
  have items : (TokenStream.ofSource source).ahead = front.map Item.token ++
      (.token first :: (inside.map Item.token ++ .token last :: behind.map Item.token)) := by
    rw [TokenStream.tokens_ok_iff.mp derives, ← split]
    simp
  obtain ⟨covered, covers, alone, atEnd⟩ := itemsFrom_cut items
  have isWord : itemsFrom first.span.start covered =
      (first :: inside ++ [last]).map Item.token := by
    refine alone.trans ?_
    rw [List.map_append]
    rfl
  exact ⟨covered, covers, spells_of_itemsFrom isWord atEnd⟩

/-! ### Trees without their places -/

namespace SceneTree

/-- The tree without its places. -/
def eraseSpans (tree : SceneTree) : SceneTree := tree.mapSpans fun _ => Span.point 0

theorem shapes_mapSpans (change : Span → Span) (tree : SceneTree) :
    (tree.mapSpans change).shapes = tree.shapes.map (ShapeTree.mapSpans change) := by
  refine filterMap_map_of (fun item => ?_) tree.items
  cases item <;> rfl

theorem draws_mapSpans (change : Span → Span) (tree : SceneTree) :
    (tree.mapSpans change).draws = tree.draws.map (DrawTree.mapSpans change) := by
  refine filterMap_map_of (fun item => ?_) tree.items
  cases item <;> rfl

theorem shapeNames_mapSpans (change : Span → Span) (tree : SceneTree) :
    (tree.mapSpans change).shapes.map ShapeTree.name = tree.shapes.map ShapeTree.name := by
  rw [shapes_mapSpans, List.map_map]
  rfl

/-- **A changed tree denotes the changed scene.** -/
theorem Denotes.mapSpans {change : Span → Span} (relocates : Relocates change) {tree : SceneTree}
    {scene : Scene} (denotes : tree.Denotes scene) :
    (tree.mapSpans change).Denotes (scene.mapSpans change) := by
  rw [Denotes, draws_mapSpans]
  refine List.forall₂_map_left_iff.mpr (List.forall₂_map_right_iff.mpr (denotes.imp ?_))
  rintro statement draw ⟨definition, member, isName, rfl⟩
  refine ⟨definition.mapSpans change, ?_, isName, ?_⟩
  · rw [shapes_mapSpans]
    exact List.mem_map_of_mem member
  · simp only [DrawTree.draw, DrawTree.mapSpans, Draw.mapSpans, positionOperands_map relocates,
      relocates.merge, definition.shape_mapSpans relocates]

end SceneTree

/-! ### The scene of a tree -/

theorem Parser.ofExcept_ok_iff {α : Type} {outcome : Except ParseError α} {value : α}
    {cursor last : Cursor} :
    (MonadExcept.ofExcept outcome : Parser α) cursor = .ok value last ↔
      outcome = .ok value ∧ cursor = last := by
  cases outcome with
  | ok found =>
    show (pure found : Parser α) cursor = .ok value last ↔ _
    rw [Parser.pure_ok_iff, Except.ok.injEq]
  | error error =>
    show (throw error : Parser α) cursor = .ok value last ↔ _
    simp

namespace Scene

/-- The parser gives the scene that the declarations up to the end make. -/
theorem ofStream_ok_iff_declarations {stream : TokenStream} {cursor : Cursor} {scene : Scene}
    (starts : stream.next = (.token cursor.current, cursor.ahead)) :
    Scene.ofStream stream = .ok scene ↔ ∃ values,
      (∃ last, Parser.manyWhile (· ≠ .endOfFile) Parser.declaration [] cursor = .ok values last) ∧
        Scene.ofDeclarations values = .ok scene := by
  have answer : Scene.ofStream stream = .ok scene ↔
      ∃ last, Parser.scene cursor = .ok scene last := by
    unfold Scene.ofStream Scene.parseFrom
    rw [starts]
    dsimp only
    cases Parser.scene cursor with
    | ok found last => simp
    | error error last => simp
  rw [answer, Parser.scene]
  simp only [Parser.bind_ok_iff, Parser.ofExcept_ok_iff]
  constructor
  · rintro ⟨last, values, after, read, made, rfl⟩
    exact ⟨values, ⟨after, read⟩, made⟩
  · rintro ⟨values, ⟨after, read⟩, made⟩
    exact ⟨after, values, after, read, made, rfl⟩

/-- **The scene of a stream** is the one that the tree of its tokens denotes. -/
theorem ofStream_ok_iff {stream : TokenStream} {tree : SceneTree} {scene : Scene}
    (ahead : stream.ahead = tree.tokens.map Item.token)
    (readable : ∀ part ∈ tree.expressions, part.Readable) :
    Scene.ofStream stream = .ok scene ↔
      (tree.shapes.map ShapeTree.name).Nodup ∧ tree.Denotes scene := by
  obtain ⟨cursor, starts⟩ := TokenStream.exists_next_eq_token ahead
  have inStream : ∀ token, Item.token token ∈ stream.ahead → token.kind ≠ .endOfFile := by
    intro token member
    rw [ahead, List.mem_map] at member
    obtain ⟨_, inTree, same⟩ := member
    exact Item.token.inj same ▸ tree.covers.inside _ inTree
  rw [ofStream_ok_iff_declarations starts]
  simp only [Parser.declarations_to_end_iff starts inStream]
  constructor
  · rintro ⟨_, ⟨other, otherAhead, _, distinct, rfl⟩, made⟩
    have same : other = tree := by
      rw [ahead] at otherAhead
      exact (SceneTree.tokens_injective (List.map_injective_iff.mpr
        (fun _ _ => Item.token.inj) otherAhead)).symm
    subst same
    rw [SceneTree.shapeNames_declarations] at distinct
    exact ⟨distinct, (SceneTree.ofDeclarations_ok_iff distinct).mp made⟩
  · rintro ⟨distinct, denotes⟩
    refine ⟨_, ⟨tree, ahead, readable, ?_, rfl⟩,
      (SceneTree.ofDeclarations_ok_iff distinct).mpr denotes⟩
    rwa [SceneTree.shapeNames_declarations]

/-- **A source that spells a tree has the scene that the tree denotes**, but for the places. -/
theorem parse_erased_iff {source : String} {tree : SceneTree} {erased : Scene}
    (spells : Spells source (kinds tree.tokens))
    (inRange : ∀ expression ∈ tree.expressions, expression.InRange) :
    (∃ scene, Scene.parse source = .ok scene ∧ scene.eraseSpans = erased) ↔
      (tree.shapes.map ShapeTree.name).Nodup ∧ tree.eraseSpans.Denotes erased := by
  have relocates := relocates_const 0
  have spelled := spells.spelled
  obtain ⟨inside, ahead, isWord⟩ := spells_iff.mp spells
  have bare : ((TokenStream.ofSource source).mapSpans fun _ => Span.point 0).ahead =
      tree.eraseSpans.tokens.map Item.token := by
    rw [TokenStream.mapSpans, ahead, map_mapSpans_eq_of_kinds isWord, SceneTree.eraseSpans,
      SceneTree.tokens_mapSpans, List.map_map, List.map_map]
    rfl
  have readable : ∀ part ∈ tree.eraseSpans.expressions, part.Readable := by
    intro part member
    refine (ExpressionTree.readable_iff_inRange fun token inPart => ?_).mpr
      ((tree.inRange_mapSpans _).mpr inRange part member)
    have inTree := tree.eraseSpans.covers.contains part member inPart
    rw [SceneTree.eraseSpans, SceneTree.tokens_mapSpans] at inTree
    obtain ⟨original, inOriginal, rfl⟩ := List.mem_map.mp inTree
    have inWord : original.kind ∈ kinds tree.tokens := List.mem_map_of_mem inOriginal
    exact spelled _ inWord
  have outcome := ofStream_mapSpans relocates (TokenStream.ofSource source)
  rw [← parse_eq_ofStream] at outcome
  have distinct := tree.shapeNames_mapSpans fun _ => Span.point 0
  rw [← distinct, ← SceneTree.eraseSpans, ← ofStream_ok_iff bare readable, outcome]
  cases Scene.parse source with
  | ok scene => simp [mapOutcome, Scene.eraseSpans]
  | error error => simp [mapOutcome]

/-- A source that spells a tree which denotes a scene has that scene, but for the places. -/
theorem parse_of_spells {source : String} {tree : SceneTree} {scene : Scene}
    (spells : Spells source (kinds tree.tokens))
    (inRange : ∀ expression ∈ tree.expressions, expression.InRange)
    (distinct : (tree.shapes.map ShapeTree.name).Nodup) (denotes : tree.Denotes scene) :
    ∃ own, Scene.parse source = .ok own ∧ own.eraseSpans = scene.eraseSpans :=
  (parse_erased_iff spells inRange).mpr ⟨distinct, denotes.mapSpans (relocates_const 0)⟩

end Scene

end TurtleScene
