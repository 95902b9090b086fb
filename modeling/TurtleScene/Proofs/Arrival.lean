/-
**Where a reading arrives.**

A parser that has read some tokens of a sentence is about to read the next part of it. What it
answers is then settled by that part and what is done behind it, which depends on nothing that
stands there; if the part is refused, so is the whole.

* `Arrives` — behind some tokens a reading comes to a part: it goes on as if it began there. Closed
  under `bind`, in front (`Arrives.first`) and behind (`Arrives.behind`), and under going on to a
  part of the part (`Arrives.trans`).
* `arrives_manyWhile` — **a repetition comes to a member behind others that are read.**
* `arrives_declaration` — the declarations of a source come to one behind others.
* `TokenStream.exists_reads` — a stream lets the tokens that it begins with be read.
* `Scene.parse_error_of_scene` — a source is refused as its reading is.
-/

import TurtleScene.Proofs.Layout
import TurtleScene.Proofs.Refusal

namespace TurtleScene

namespace Parser

section Arrivals

variable {α β γ : Type} {cursor mid after last : Cursor} {front more : List Token}
  {begins narrower : TokenKind → Prop}

/-- **Behind some tokens a reading comes to a part of itself**, in front of a token of certain
kinds. It goes on as if it began there, and in one way whatever the source is. -/
def Arrives (reader : Parser α) (front : List Token) (begins : TokenKind → Prop)
    (part : Parser β) : Prop :=
  ∃ next : β → Parser α, ∀ cursor after, Reads cursor front after → begins after.current.kind →
    reader cursor = (part >>= next) after

theorem arrives_self (reader : Parser α) : Arrives reader [] begins reader := by
  refine ⟨pure, fun cursor after reads _ => ?_⟩
  cases reads
  rw [bind_pure]

/-- A reading whose part is refused is refused. -/
theorem Arrives.error {reader : Parser α} {part : Parser β} {error : ParseError}
    (arrives : Arrives reader front begins part) (reads : Reads cursor front after)
    (begun : begins after.current.kind) (refused : part after = .error error last) :
    reader cursor = .error error last := by
  obtain ⟨next, same⟩ := arrives
  rw [same cursor after reads begun]
  exact bind_error_iff.mpr (.inl refused)

/-- Two readings that are the same in front of the tokens come to the same part behind them. -/
theorem Arrives.of_eq {reader other : Parser α} {part : Parser β}
    (same : ∀ cursor after, Reads cursor front after → begins after.current.kind →
      reader cursor = other cursor)
    (arrives : Arrives other front begins part) : Arrives reader front begins part := by
  obtain ⟨next, comes⟩ := arrives
  refine ⟨next, fun cursor after reads begun => ?_⟩
  rw [same cursor after reads begun, comes cursor after reads begun]

/-- What is done behind a reading does not matter for where it arrives. -/
theorem Arrives.first {reader : Parser α} {part : Parser β}
    (arrives : Arrives reader front begins part) (next : α → Parser γ) :
    Arrives (reader >>= next) front begins part := by
  obtain ⟨behind, comes⟩ := arrives
  refine ⟨fun found => behind found >>= next, fun cursor after reads begun => ?_⟩
  rw [← bind_assoc]
  show EStateM.bind _ _ cursor = EStateM.bind _ _ after
  unfold EStateM.bind
  rw [comes cursor after reads begun]

theorem bind_eq_of_ok {reader : Parser α} {next : α → Parser γ} {value : α}
    (read : reader cursor = .ok value mid) : (reader >>= next) cursor = next value mid := by
  show EStateM.bind _ _ cursor = _
  unfold EStateM.bind
  rw [read]

/-- Behind what is read first, a reading arrives where its continuation does. -/
theorem Arrives.behind {reader : Parser α} {next : α → Parser γ} {part : Parser β} {value : α}
    (read : ∀ cursor mid after, Reads cursor front mid → Reads mid more after →
      begins after.current.kind → reader cursor = .ok value mid)
    (arrives : Arrives (next value) more begins part) :
    Arrives (reader >>= next) (front ++ more) begins part := by
  obtain ⟨further, comes⟩ := arrives
  refine ⟨further, fun cursor after reads begun => ?_⟩
  obtain ⟨mid, inFront, inMore⟩ := reads_append.mp reads
  rw [bind_eq_of_ok (read cursor mid after inFront inMore begun), comes mid after inMore begun]

/-- A part may come to a part of its own. -/
theorem Arrives.trans {reader : Parser α} {part : Parser β} {inner : Parser γ}
    (arrives : Arrives reader front begins part) (further : Arrives part more narrower inner)
    (starts : ∀ mid after, Reads mid more after → narrower after.current.kind →
      begins mid.current.kind) : Arrives reader (front ++ more) narrower inner := by
  obtain ⟨next, comes⟩ := arrives
  obtain ⟨behind, comesFurther⟩ := further.first next
  refine ⟨behind, fun cursor after reads begun => ?_⟩
  obtain ⟨mid, inFront, inMore⟩ := reads_append.mp reads
  rw [comes cursor mid inFront (starts mid after inMore begun), comesFurther mid after inMore begun]

/-! ### Single tokens -/

section Tokens

variable {next : Token → Parser α} {part : Parser β} {token : Token}

/-- The current token is looked at, and stays where it is. -/
theorem Arrives.current (arrives : Arrives (next token) (token :: front) begins part) :
    Arrives (Parser.current >>= next) (token :: front) begins part := by
  refine .of_eq (fun cursor after reads _ => ?_) arrives
  have here : Parser.current cursor = .ok token cursor :=
    current_ok_iff.mpr ⟨reads.current_eq, rfl⟩
  exact bind_eq_of_ok here

theorem Arrives.advance (arrives : Arrives (next token) front begins part) :
    Arrives (Parser.advance >>= next) (token :: front) begins part := by
  show Arrives _ ([token] ++ front) _ _
  exact .behind (fun _ _ _ reads _ _ => reads_singleton.mp reads) arrives

theorem Arrives.expect {kind : TokenKind} {place : Span}
    (arrives : Arrives (next ⟨kind, place⟩) front begins part) :
    Arrives (Parser.expect kind >>= next) (⟨kind, place⟩ :: front) begins part := by
  show Arrives _ ([⟨kind, place⟩] ++ front) _ _
  exact .behind (fun _ _ _ reads _ _ => expect_ok_iff.mpr ⟨rfl, reads_singleton.mp reads⟩) arrives

theorem Arrives.identifier {next : String × Span → Parser α} {name : String} {place : Span}
    (arrives : Arrives (next (name, place)) front begins part) :
    Arrives (Parser.identifier >>= next) (⟨.identifier name, place⟩ :: front) begins part := by
  show Arrives _ ([⟨.identifier name, place⟩] ++ front) _ _
  exact .behind (fun _ _ _ reads _ _ => identifier_ok_iff.mpr reads) arrives

/-- What is taken is of no interest where the result is dropped. -/
theorem Arrives.discard {first : Parser α} {next : PUnit → Parser γ}
    (arrives : Arrives (first >>= fun _ => next ⟨⟩) front begins part) :
    Arrives (Functor.discard first >>= next) front begins part := by
  have same : (Functor.discard first >>= next) = first >>= fun _ => next ⟨⟩ := by
    show (Functor.mapConst PUnit.unit first >>= next) = _
    simp [map_const]
  rw [same]
  exact arrives

end Tokens

end Arrivals

/-! ### Repetition -/

section Repetition

variable {α β Tree : Type} {begins : TokenKind → Bool} {member : List α → Parser α}
  {tokens : Tree → List Token} {value : Tree → α} {holds : List α → Tree → Prop}

/-- **A repetition comes to a member behind others that are read.** -/
theorem arrives_manyWhile (ends : begins .endOfFile = false)
    (starts : ∀ tree, ∃ first others, tokens tree = first :: others ∧ begins first.kind = true)
    (recognised : ∀ earlier cursor last result, member earlier cursor = .ok result last ↔
      ∃ tree, holds earlier tree ∧ value tree = result ∧ Reads cursor (tokens tree) last)
    {trees : List Tree} {earlier : List α} (each : EachAfter value holds earlier trees) :
    Arrives (manyWhile begins member earlier) (trees.flatMap tokens) (begins · = true)
      (member ((trees.map value).reverse ++ earlier)) := by
  have progress : ∀ earlier cursor result last, member earlier cursor = .ok result last →
      last.remaining < cursor.remaining := by
    intro earlier cursor result last read
    obtain ⟨tree, _, _, reads⟩ := (recognised _ _ _ _).mp read
    obtain ⟨first, others, same, begins⟩ := starts tree
    rw [same] at reads
    refine reads.remaining_lt fun isEnd => ?_
    rw [isEnd, ends] at begins
    exact Bool.false_ne_true begins
  have unrolled : ∀ {earlier cursor}, begins cursor.current.kind = true →
      manyWhile begins member earlier cursor = (member earlier >>= fun found =>
        manyWhile begins member (found :: earlier) >>= fun further => pure (found :: further))
          cursor := fun begun => manyWhile_eq_of_begun begun (progress _ _)
  -- by induction on what is read in front: the loop takes one member after the other
  induction trees generalizing earlier with
  | nil =>
    refine .of_eq (fun cursor after reads begun => unrolled ?_) ((arrives_self _).first _)
    cases reads
    exact begun
  | cons tree others ih =>
    have further := (ih each.2).first fun found => pure (value tree :: found)
    have members : (others.map value).reverse ++ value tree :: earlier =
        ((tree :: others).map value).reverse ++ earlier := by
      rw [List.map_cons, List.reverse_cons, List.append_assoc, List.singleton_append]
    rw [members] at further
    refine .of_eq (fun cursor after reads _ => unrolled ?_)
      (.behind (fun cursor mid after reads _ _ => ?_) further)
    · obtain ⟨first, rest, same, begins⟩ := starts tree
      rw [List.flatMap_cons, same] at reads
      exact reads.current_eq ▸ begins
    · exact (recognised _ _ _ _).mpr ⟨tree, each.1, rfl, reads⟩

/-- **The declarations of a source come to one behind others.** -/
theorem arrives_declaration {front : List ItemTree}
    (readable : ∀ part ∈ front.flatMap ItemTree.expressions, part.Readable)
    (distinct : (Declaration.shapeNames (front.map ItemTree.declaration)).Nodup) :
    Arrives scene (front.flatMap ItemTree.tokens) (· ≠ .endOfFile)
      (declaration (front.map ItemTree.declaration).reverse) := by
  have starts : ∀ tree : ItemTree, ∃ first others, tree.tokens = first :: others ∧
      decide (first.kind ≠ .endOfFile) = true := by
    intro tree
    cases tree <;> exact ⟨_, _, rfl, rfl⟩
  have nothing : ∀ name ∈ Declaration.shapeNames (front.map ItemTree.declaration),
      name ∉ Declaration.shapeNames [] := fun _ _ => List.not_mem_nil
  have loop : Arrives (manyWhile (· ≠ .endOfFile) declaration []) (front.flatMap ItemTree.tokens)
      (fun kind => decide (kind ≠ .endOfFile) = true)
      (declaration ((front.map ItemTree.declaration).reverse ++ [])) :=
    arrives_manyWhile rfl starts @declaration_ok_iff
      (eachAfter_declaration_iff.mpr ⟨readable, distinct, nothing⟩)
  rw [List.append_nil] at loop
  simp only [decide_eq_true_eq] at loop
  exact loop.first _

end Repetition

end Parser

/-! ### Streams -/

/-- **A stream that begins with tokens lets them be read**, if no fault stands right behind them. -/
theorem TokenStream.exists_reads {stream : TokenStream} {front : List Token} {rest : List Item}
    (items : stream.ahead = front.map Item.token ++ rest)
    (inside : ∀ error, rest.head? ≠ some (.fault error)) :
    ∃ start after : Cursor, stream.next = (.token start.current, start.ahead) ∧
      Reads start front after ∧
        next { stream with ahead := rest } = (.token after.current, after.ahead) := by
  obtain ⟨ahead, length⟩ := stream
  dsimp only at items
  subst items
  induction front with
  | nil =>
    cases rest with
    | nil => exact ⟨⟨_, _⟩, ⟨_, _⟩, rfl, rfl, rfl⟩
    | cons item others =>
      cases item with
      | token found => exact ⟨⟨found, _⟩, ⟨found, _⟩, rfl, rfl, rfl⟩
      | fault error => exact absurd rfl (inside error)
  | cons token others ih =>
    obtain ⟨start, after, isNext, reads, behind⟩ := ih
    exact ⟨⟨token, _⟩, after, rfl, ⟨start, Parser.advance_ok_iff.mpr ⟨rfl, isNext⟩, reads⟩, behind⟩

/-- Expressions among the tokens of a source are readable if their integers are in range. -/
theorem readable_of_inRange {source : String} {tokens : List Token}
    {expressions : List ExpressionTree}
    (inSource : ∀ token ∈ tokens, Item.token token ∈ (TokenStream.ofSource source).ahead)
    (contains : ∀ part ∈ expressions, part.tokens ⊆ tokens)
    (inRange : ∀ part ∈ expressions, part.InRange) : ∀ part ∈ expressions, part.Readable := by
  intro part member
  refine (ExpressionTree.readable_iff_inRange fun token inPart => ?_).mpr (inRange part member)
  exact spelled_of_mem_itemsFrom (inSource token (contains part member inPart))

/-- A source is refused as its reading from the first token on is. -/
theorem Scene.parse_error_of_scene {source : String} {start last : Cursor} {error : ParseError}
    (starts : (TokenStream.ofSource source).next = (.token start.current, start.ahead))
    (refused : Parser.scene start = .error error last) : Scene.parse source = .error error := by
  rw [Scene.parse, Cursor.ofSource_ok_iff.mpr starts]
  show (Scene.parseFrom start).1 = _
  rw [Scene.parseFrom, refused]

end TurtleScene
