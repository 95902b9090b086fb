/-
**Layout does not matter.**

Two sources with the same kinds of tokens differ in blanks, comments and line breaks only, and so in
the places of their tokens only. Whatever is decided, printed or worded on the way from a source to
its findings is the same for both.

* `Scene.print_mapSpans` — the outline of a scene at changed places.
* `Scene.check_mapSpans` — its findings.
* `TokenStream.mapSpans_eq_of_kinds` — sources with the same kinds of tokens are the same without
  places.
* **`Scene.parse_layout`** — their scenes, or the errors of both.
-/

import TurtleScene.Proofs.Causes
import TurtleScene.Proofs.Transport
import TurtleScene.Proofs.Visibility
import TurtleScene.Scene.Outline

namespace TurtleScene

/-! ### Outlines at changed places -/

section Outline

variable (change : Span → Span)

/-- Parts that are shown without their places. -/
theorem flatMap_outline_map {Part : Type} {move : Part → Part}
    {outline : Part → List OutlineLine} (each : ∀ part, outline (move part) = outline part)
    (parts : List Part) : (parts.map move).flatMap outline = parts.flatMap outline := by
  rw [List.flatMap_map]
  simp only [each]

theorem Instruction.outline_mapSpans (depth : Nat) (instruction : Instruction) :
    (instruction.mapSpans change).outline depth = instruction.outline depth := by
  obtain ⟨form, span⟩ := instruction
  cases form <;> rfl

theorem Rule.outline_mapSpans (depth : Nat) (rule : Rule) :
    (rule.mapSpans change).outline depth = rule.outline depth :=
  congrArg (List.append _)
    (flatMap_outline_map (Instruction.outline_mapSpans change (depth + 1)) rule.instructions)

theorem Initiator.outline_mapSpans (depth : Nat) (initiator : Initiator) :
    (initiator.mapSpans change).outline depth = initiator.outline depth :=
  congrArg (List.cons _)
    (flatMap_outline_map (Instruction.outline_mapSpans change (depth + 1)) initiator.instructions)

theorem Shape.outline_mapSpans (depth : Nat) (shape : Shape) :
    (shape.mapSpans change).outline depth = shape.outline depth := by
  have rules : (shape.mapSpans change).rules.flatMap (Rule.outline (depth + 1)) =
      shape.rules.flatMap (Rule.outline (depth + 1)) :=
    flatMap_outline_map (Rule.outline_mapSpans change (depth + 1)) shape.rules
  have initiator : (shape.mapSpans change).initiator.outline (depth + 1) =
      shape.initiator.outline (depth + 1) := shape.initiator.outline_mapSpans change (depth + 1)
  rw [outline, outline, rules, initiator]
  rfl

theorem Draw.outline_mapSpans (depth : Nat) (draw : Draw) :
    (draw.mapSpans change).outline depth = draw.outline depth := by
  have shape : (draw.mapSpans change).shape.outline (depth + 1) =
      draw.shape.outline (depth + 1) := draw.shape.outline_mapSpans change (depth + 1)
  rw [outline, outline, shape]
  rfl

/-- **The outline of a scene shows no places.** -/
theorem Scene.print_mapSpans (scene : Scene) : (scene.mapSpans change).print = scene.print := by
  have outline : (scene.mapSpans change).outline = scene.outline :=
    congrArg (List.cons _) (flatMap_outline_map (Draw.outline_mapSpans change 1) scene.draws)
  rw [print, print, outline]

end Outline

/-! ### Findings at changed places -/

theorem Finding.message_mapSpans (change : Span → Span) (finding : Finding) :
    (finding.mapSpans change).message = finding.message := by
  cases finding <;> rfl

/-- **The findings of a scene at changed places** are its findings, at changed places. -/
theorem Scene.check_mapSpans (change : Span → Span) (palette : Palette)
    (surroundings : Option Scope) (scene : Scene) :
    (scene.mapSpans change).check palette surroundings =
      (scene.check palette surroundings).map (Finding.mapSpans change) := by
  have knows := Scope.knows_ruleNames ((surroundings.map Scope.enter).getD Scope.root)
  have moved := (checkDraws_eq palette (scene.mapSpans change).draws knows).1
  have before := (checkDraws_eq palette scene.draws knows).1
  show (checkEach _ _ (scene.mapSpans change).draws).1 = (checkEach _ _ scene.draws).1.map _
  rw [moved, before, ← expectedFindings_mapSpans, ← Draw.digest_mapSpans]
  rfl

/-- **The messages of a scene name no places.** -/
theorem Scene.messages_eraseSpans (scene : Scene) (palette : Palette)
    (surroundings : Option Scope) :
    (scene.eraseSpans.check palette surroundings).map Finding.message =
      (scene.check palette surroundings).map Finding.message := by
  rw [Scene.eraseSpans, Scene.check_mapSpans, List.map_map]
  exact List.map_congr_left fun finding _ => finding.message_mapSpans _

/-! ### Sources without their places -/

/-- Tokens of the same kinds are the same at one place. -/
theorem map_mapSpans_eq_of_kinds {tokens others : List Token} (same : kinds tokens = kinds others)
    (place : Span) : (tokens.map Item.token).map (Item.mapSpans fun _ => place) =
      (others.map Item.token).map (Item.mapSpans fun _ => place) := by
  have placed : ∀ tokens : List Token, (tokens.map Item.token).map (Item.mapSpans fun _ => place) =
      (kinds tokens).map fun kind => Item.token ⟨kind, place⟩ := by
    intro tokens
    rw [kinds, List.map_map, List.map_map]
    rfl
  rw [placed, placed, same]

/-- The last token of a stream without faults is its end. -/
theorem TokenStream.exists_of_tokens_ok {stream : TokenStream} {tokens : List Token}
    (lexes : stream.tokens = .ok tokens) :
    ∃ inside, stream.ahead = inside.map Item.token ∧ tokens = inside ++ [stream.endToken] := by
  have items := tokens_eq_ok_iff.mp lexes
  obtain ⟨inside, last, rfl, ahead, isEnd⟩ := List.map_eq_append_iff.mp items.symm
  obtain ⟨token, rfl, isToken⟩ := List.map_eq_singleton_iff.mp isEnd
  exact ⟨inside, ahead.symm, by rw [Item.token.inj isToken]⟩

/-- **Sources with the same kinds of tokens are the same without their places.** -/
theorem TokenStream.mapSpans_eq_of_kinds {stream other : TokenStream}
    {tokens otherTokens : List Token} (lexes : stream.tokens = .ok tokens)
    (otherLexes : other.tokens = .ok otherTokens) (same : kinds tokens = kinds otherTokens)
    (offset : Nat) :
    stream.mapSpans (fun _ => Span.point offset) =
      other.mapSpans (fun _ => Span.point offset) := by
  obtain ⟨inside, ahead, rfl⟩ := exists_of_tokens_ok lexes
  obtain ⟨otherInside, otherAhead, rfl⟩ := exists_of_tokens_ok otherLexes
  rw [kinds_append, kinds_append] at same
  have inner : kinds inside = kinds otherInside := (List.append_inj' same rfl).1
  rw [mapSpans, mapSpans, ahead, otherAhead, map_mapSpans_eq_of_kinds inner]

/-! ### Both sources -/

/-- A parser error of a source without faults is no lexical one. -/
theorem Scene.stage_of_tokens_ok {source : String} {tokens : List Token} {error : ParseError}
    (lexes : (TokenStream.ofSource source).tokens = .ok tokens)
    (failed : Scene.parse source = .error error) : error.stage = .parsing := by
  cases error with
  | lexical fault =>
    rw [Scene.tokens_of_parse_lexical failed] at lexes
    cases lexes
  | unexpected _ _ | integerOutOfRange _ _ | malformedDecimal _ _ | duplicateShape _ _
  | unknownShape _ _ => rfl

/-- **Layout does not matter.** If two sources have the same kinds of tokens, both have a scene or
none has. The scenes are the same but for the places, they are printed alike, and they have the same
findings in the same order, as they are worded. The errors are worded alike. -/
theorem Scene.parse_layout {source other : String} {tokens otherTokens : List Token}
    (lexes : (TokenStream.ofSource source).tokens = .ok tokens)
    (otherLexes : (TokenStream.ofSource other).tokens = .ok otherTokens)
    (same : tokens.map Token.kind = otherTokens.map Token.kind) :
    (∃ scene otherScene, Scene.parse source = .ok scene ∧ Scene.parse other = .ok otherScene ∧
        scene.eraseSpans = otherScene.eraseSpans ∧ scene.print = otherScene.print ∧
        ∀ (palette : Palette) (surroundings : Option Scope),
          (scene.check palette surroundings).map Finding.message =
            (otherScene.check palette surroundings).map Finding.message) ∨
      ∃ error otherError, Scene.parse source = .error error ∧
        Scene.parse other = .error otherError ∧ error.stage = .parsing ∧
        otherError.stage = .parsing ∧ error.message = otherError.message := by
  have relocates := relocates_const 0
  have alike : mapOutcome (fun _ => Span.point 0) Scene.eraseSpans (Scene.parse source) =
      mapOutcome (fun _ => Span.point 0) Scene.eraseSpans (Scene.parse other) := by
    rw [Scene.parse_eq_ofStream, Scene.parse_eq_ofStream]
    refine (Scene.ofStream_mapSpans relocates _).symm.trans
      (Eq.trans ?_ (Scene.ofStream_mapSpans relocates _))
    rw [TokenStream.mapSpans_eq_of_kinds lexes otherLexes same]
  cases parsed : Scene.parse source with
  | ok scene =>
    cases otherParsed : Scene.parse other with
    | error otherError => rw [parsed, otherParsed] at alike; cases alike
    | ok otherScene =>
      rw [parsed, otherParsed] at alike
      have erased : scene.eraseSpans = otherScene.eraseSpans := Except.ok.inj alike
      refine .inl ⟨scene, otherScene, rfl, rfl, erased, ?_, fun palette surroundings => ?_⟩
      · rw [← scene.print_mapSpans, ← otherScene.print_mapSpans]
        exact congrArg Scene.print erased
      · rw [← scene.messages_eraseSpans, erased, otherScene.messages_eraseSpans]
  | error error =>
    cases otherParsed : Scene.parse other with
    | ok otherScene => rw [parsed, otherParsed] at alike; cases alike
    | error otherError =>
      rw [parsed, otherParsed] at alike
      refine .inr ⟨error, otherError, rfl, rfl, Scene.stage_of_tokens_ok lexes parsed,
        Scene.stage_of_tokens_ok otherLexes otherParsed, ?_⟩
      have messages := congrArg ParseError.message (Except.error.inj alike)
      rwa [ParseError.message_mapSpans, ParseError.message_mapSpans] at messages

/-- Blanks and a comment change neither the outline nor the wording of the finding. -/
theorem Scene.parse_layout_blanks :
    let source := "shape a\x7bpencil blue;axiom\x7br();\x7d\x7ddraw a;"
    let other := "shape a // one\n\x7b pencil blue;\n axiom \x7b r ( ) ; \x7d\n\x7d draw a ;\n"
    (TokenStream.ofSource source).tokens.map (List.map Token.kind) =
        (TokenStream.ofSource other).tokens.map (List.map Token.kind) ∧
      ∃ scene otherScene, Scene.parse source = .ok scene ∧ Scene.parse other = .ok otherScene ∧
        scene.print = otherScene.print ∧
        (scene.check .standard none).map Finding.message =
          (otherScene.check .standard none).map Finding.message := by
  intro source other
  have kinds : (TokenStream.ofSource source).tokens.map (List.map Token.kind) =
      (TokenStream.ofSource other).tokens.map (List.map Token.kind) := by
    simp only [source, other]
    decide +kernel
  have isScene : (Scene.parse source).isOk = true := by
    simp only [source]
    decide +kernel
  refine ⟨kinds, ?_⟩
  cases parsed : Scene.parse source with
  | error error => rw [parsed] at isScene; cases isScene
  | ok scene =>
    obtain ⟨tokens, lexes⟩ := Scene.tokens_ok_of_parse parsed
    cases otherLexes : (TokenStream.ofSource other).tokens with
    | error error => rw [lexes, otherLexes] at kinds; cases kinds
    | ok otherTokens =>
      rw [lexes, otherLexes] at kinds
      rcases Scene.parse_layout lexes otherLexes (Except.ok.inj kinds) with
        ⟨_, otherScene, same, otherParsed, _, printed, messages⟩ | ⟨_, _, failed, _⟩
      · cases parsed.symm.trans same
        exact ⟨scene, otherScene, rfl, otherParsed, printed, messages _ _⟩
      · cases parsed.symm.trans failed

end TurtleScene
