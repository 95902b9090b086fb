/-
**Steps of the parser.**

A parser is a function on cursors that may fail. Here is when each of its steps succeeds, and with
what, so that a part of the parser can be read backwards from its success.

* `bind_ok_iff`, `expect_ok_iff`, … — when a step of the parser succeeds.
* `Reads` — a cursor moves over a list of tokens, each of which is current when it is taken.
* `remaining_of_advance` — taking a token leaves less to be read, but at the end of the source.
* **`Parser.manyWhile_ok_iff`** — repetition, for members that may depend on those before them.
-/

import TurtleScene.Scene.Parser

namespace TurtleScene

/-! ### Steps that succeed -/

namespace Parser

section Steps

variable {α β : Type}

theorem bind_ok_iff {first : Parser α} {next : α → Parser β} {cursor last : Cursor} {value : β} :
    (first >>= next) cursor = .ok value last ↔
      ∃ found after, first cursor = .ok found after ∧ next found after = .ok value last := by
  show EStateM.bind first next cursor = _ ↔ _
  unfold EStateM.bind
  cases first cursor with
  | ok found after =>
    constructor
    · intro done
      exact ⟨found, after, rfl, done⟩
    · rintro ⟨_, _, same, done⟩
      cases same
      exact done
  | error error after => simp

theorem pure_ok_iff {found value : α} {cursor last : Cursor} :
    (pure found : Parser α) cursor = .ok value last ↔ found = value ∧ cursor = last := by
  show EStateM.Result.ok found cursor = _ ↔ _
  rw [EStateM.Result.ok.injEq]

theorem discard_ok_iff {first : Parser α} {cursor last : Cursor} {value : PUnit} :
    (discard first) cursor = .ok value last ↔ ∃ found, first cursor = .ok found last := by
  show EStateM.map _ first cursor = _ ↔ _
  unfold EStateM.map
  cases first cursor with
  | ok found after => simp
  | error error after => simp

theorem current_ok_iff {cursor last : Cursor} {token : Token} :
    current cursor = .ok token last ↔ cursor.current = token ∧ cursor = last := by
  show EStateM.Result.ok cursor.current cursor = _ ↔ _
  rw [EStateM.Result.ok.injEq]

@[simp] theorem refuse_ne_ok {expected : Expectation} {cursor last : Cursor} {value : α} :
    (refuse expected : Parser α) cursor ≠ .ok value last := nofun

@[simp] theorem throw_ne_ok {error : ParseError} {cursor last : Cursor} {value : α} :
    (throw error : Parser α) cursor ≠ .ok value last := nofun

/-- What is taken is the current token, and the next one becomes current. -/
theorem advance_ok_iff {cursor last : Cursor} {token : Token} :
    advance cursor = .ok token last ↔
      cursor.current = token ∧ cursor.ahead.next = (.token last.current, last.ahead) := by
  unfold advance
  obtain ⟨current, ahead⟩ := last
  split <;> rename_i found <;> rw [found] <;> simp

theorem expect_ok_iff {kind : TokenKind} {cursor last : Cursor} {token : Token} :
    expect kind cursor = .ok token last ↔ token.kind = kind ∧ advance cursor = .ok token last := by
  show (if cursor.current.kind = kind then advance else refuse _) cursor = _ ↔ _
  split
  · rename_i same
    refine ⟨fun taken => ⟨?_, taken⟩, And.right⟩
    rw [← (advance_ok_iff.mp taken).1, same]
  · rename_i different
    refine ⟨fun taken => (refuse_ne_ok taken).elim, fun ⟨same, taken⟩ => ?_⟩
    rw [(advance_ok_iff.mp taken).1] at different
    exact (different same).elim

end Steps

end Parser

/-! ### Lists of tokens -/

/-- A cursor moves over a list of tokens: each is current when it is taken. -/
def Reads (cursor : Cursor) : List Token → Cursor → Prop
  | [], last => cursor = last
  | token :: others, last =>
    ∃ after, Parser.advance cursor = .ok token after ∧ Reads after others last

@[simp] theorem reads_nil {cursor last : Cursor} : Reads cursor [] last ↔ cursor = last := Iff.rfl

theorem reads_cons {cursor last : Cursor} {token : Token} {others : List Token} :
    Reads cursor (token :: others) last ↔
      ∃ after, Parser.advance cursor = .ok token after ∧ Reads after others last := Iff.rfl

theorem reads_append {cursor last : Cursor} {front others : List Token} :
    Reads cursor (front ++ others) last ↔ ∃ after, Reads cursor front after ∧
      Reads after others last := by
  induction front generalizing cursor with
  | nil => simp
  | cons token front ih =>
    simp only [List.cons_append, reads_cons, ih]
    constructor
    · rintro ⟨next, taken, after, inFront, behind⟩
      exact ⟨after, ⟨next, taken, inFront⟩, behind⟩
    · rintro ⟨after, ⟨next, taken, inFront⟩, behind⟩
      exact ⟨next, taken, after, inFront, behind⟩

theorem reads_singleton {cursor last : Cursor} {token : Token} :
    Reads cursor [token] last ↔ Parser.advance cursor = .ok token last := by
  simp [reads_cons]

/-- The first of the tokens is the current one. -/
theorem Reads.current_eq {cursor last : Cursor} {token : Token} {others : List Token}
    (reads : Reads cursor (token :: others) last) : cursor.current = token := by
  obtain ⟨after, taken, _⟩ := reads
  exact (Parser.advance_ok_iff.mp taken).1

/-- A stream gives its first item, or the end of the source over and over. -/
theorem TokenStream.next_eq_token {stream after : TokenStream} {found : Token}
    (isNext : stream.next = (.token found, after)) :
    stream.ahead = [] ∧ found = stream.endToken ∧ after = stream ∨
      ∃ others, stream.ahead = .token found :: others ∧
        after = { stream with ahead := others } := by
  obtain ⟨ahead, length⟩ := stream
  cases ahead with
  | nil =>
    cases isNext
    exact .inl ⟨rfl, rfl, rfl⟩
  | cons item others =>
    cases isNext
    exact .inr ⟨others, rfl, rfl⟩

/-- Taking a token leaves no more than before, and less if it is not the end of the source. -/
theorem remaining_of_advance {cursor last : Cursor} {token : Token}
    (taken : Parser.advance cursor = .ok token last) :
    last.remaining ≤ cursor.remaining ∧
      (token.kind ≠ .endOfFile → last.remaining < cursor.remaining) := by
  obtain ⟨rfl, isNext⟩ := Parser.advance_ok_iff.mp taken
  have atEnd : ∀ cursor : Cursor, cursor.atEnd = true ↔ cursor.current.kind = .endOfFile :=
    fun _ => decide_eq_true_iff
  simp only [Cursor.remaining, atEnd]
  rcases TokenStream.next_eq_token isNext with ⟨empty, isEnd, same⟩ | ⟨others, isFirst, behind⟩
  · have atEndBehind : last.current.kind = .endOfFile := isEnd ▸ rfl
    rw [same, empty, if_pos atEndBehind]
    refine ⟨Nat.zero_le _, fun inside => ?_⟩
    rw [if_neg inside]
    exact Nat.one_pos
  · have shorter : last.ahead.ahead.length = others.length := congrArg (·.ahead.length) behind
    rw [isFirst, shorter, List.length_cons]
    refine ⟨?_, fun inside => ?_⟩
    · split <;> split <;> omega
    · rw [if_neg inside]
      split <;> omega

theorem Reads.remaining_le {cursor last : Cursor} {tokens : List Token}
    (reads : Reads cursor tokens last) : last.remaining ≤ cursor.remaining := by
  induction tokens generalizing cursor with
  | nil =>
    cases reads
    exact Nat.le_refl _
  | cons token others ih =>
    obtain ⟨after, taken, behind⟩ := reads
    exact Nat.le_trans (ih behind) (remaining_of_advance taken).1

/-- Less remains behind tokens of which the first is not the end of the source. -/
theorem Reads.remaining_lt {cursor last : Cursor} {token : Token} {others : List Token}
    (reads : Reads cursor (token :: others) last) (inside : token.kind ≠ .endOfFile) :
    last.remaining < cursor.remaining := by
  obtain ⟨after, taken, behind⟩ := reads
  exact Nat.lt_of_le_of_lt behind.remaining_le ((remaining_of_advance taken).2 inside)

namespace Parser

/-- A token that has to be of a kind is taken where it stands. -/
theorem discard_expect_ok_iff {kind : TokenKind} {cursor last : Cursor} {value : PUnit} :
    (discard (expect kind)) cursor = .ok value last ↔
      ∃ place, advance cursor = .ok ⟨kind, place⟩ last := by
  rw [discard_ok_iff]
  simp only [expect_ok_iff]
  constructor
  · rintro ⟨⟨_, place⟩, rfl, taken⟩
    exact ⟨place, taken⟩
  · rintro ⟨place, taken⟩
    exact ⟨_, rfl, taken⟩

/-- A text that is kept with the place of its token. -/
theorem text_and_place_ok_iff {text : String} {cursor last : Cursor} {found : String × Span} :
    (do return (text, (← advance).span)) cursor = .ok found last ↔
      (text, cursor.current.span) = found ∧ advance cursor = .ok cursor.current last := by
  simp only [bind_ok_iff, pure_ok_iff]
  constructor
  · rintro ⟨token, after, taken, rfl, rfl⟩
    rw [(advance_ok_iff.mp taken).1]
    exact ⟨rfl, taken⟩
  · rintro ⟨rfl, taken⟩
    exact ⟨cursor.current, last, taken, rfl, rfl⟩

theorem identifier_ok_iff {cursor last : Cursor} {found : String × Span} :
    identifier cursor = .ok found last ↔ Reads cursor [⟨.identifier found.1, found.2⟩] last := by
  rw [reads_singleton, identifier, bind_ok_iff]
  simp only [current_ok_iff]
  constructor
  · rintro ⟨token, _, ⟨rfl, rfl⟩, done⟩
    cases isKind : cursor.current.kind with
    | identifier name =>
      rw [isKind] at done
      obtain ⟨rfl, taken⟩ := text_and_place_ok_iff.mp done
      rw [taken, ← isKind]
    | keyword _ | mark _ | integer _ | decimal _ | string _ | color _ | endOfFile =>
      rw [isKind] at done
      exact (refuse_ne_ok done).elim
  · intro taken
    have current := (advance_ok_iff.mp taken).1
    refine ⟨_, _, ⟨rfl, rfl⟩, ?_⟩
    rw [current]
    rw [← current] at taken
    exact text_and_place_ok_iff.mpr ⟨by rw [current], taken⟩

/-! ### Repetition -/

section Repetition

variable {α Tree : Type}

/-- Every tree of a list has a property that may depend on the values before it, the latest
first. -/
def EachAfter (value : Tree → α) (holds : List α → Tree → Prop) : List α → List Tree → Prop
  | _, [] => True
  | earlier, tree :: others =>
    holds earlier tree ∧ EachAfter value holds (value tree :: earlier) others

/-- **Members are read as long as a token begins one.** If a member is read as the trees of a
production denote it, a list of members is read as a list of trees, up to a token that begins no
member. -/
theorem manyWhile_ok_iff {begins : TokenKind → Bool} {member : List α → Parser α}
    {tokens : Tree → List Token} {value : Tree → α} {holds : List α → Tree → Prop}
    (ends : begins .endOfFile = false)
    (starts : ∀ tree, ∃ first others, tokens tree = first :: others ∧ begins first.kind = true)
    (recognised : ∀ earlier cursor last result, member earlier cursor = .ok result last ↔
      ∃ tree, holds earlier tree ∧ value tree = result ∧ Reads cursor (tokens tree) last)
    {earlier : List α} {cursor last : Cursor} {results : List α} :
    manyWhile begins member earlier cursor = .ok results last ↔
      begins last.current.kind = false ∧ ∃ trees, EachAfter value holds earlier trees ∧
        trees.map value = results ∧ Reads cursor (trees.flatMap tokens) last := by
  have progress : ∀ {cursor after : Cursor} {tree : Tree}, Reads cursor (tokens tree) after →
      begins cursor.current.kind = true ∧ after.remaining < cursor.remaining := by
    intro cursor after tree reads
    obtain ⟨first, others, same, begun⟩ := starts tree
    rw [same] at reads
    refine ⟨reads.current_eq ▸ begun, reads.remaining_lt fun isEnd => ?_⟩
    rw [isEnd, ends] at begun
    exact Bool.false_ne_true begun
  induction size : cursor.remaining using Nat.strongRecOn
    generalizing earlier cursor results with
  | _ size ih =>
    subst size
    rw [manyWhile]
    by_cases begun : begins cursor.current.kind = true
    · rw [if_pos begun]
      constructor
      · intro done
        cases first : member earlier cursor with
        | error error after => rw [first] at done; cases done
        | ok found after =>
          obtain ⟨tree, held, rfl, reads⟩ := (recognised _ _ _ _).mp first
          have fewer := (progress reads).2
          simp only [first, if_pos fewer] at done
          cases further : manyWhile begins member (value tree :: earlier) after with
          | error error after => rw [further] at done; cases done
          | ok others stop =>
            rw [further] at done
            cases done
            obtain ⟨stopped, trees, inTrees, rfl, behind⟩ := (ih _ fewer rfl).mp further
            exact ⟨stopped, tree :: trees, ⟨held, inTrees⟩, rfl,
              reads_append.mpr ⟨after, reads, behind⟩⟩
      · rintro ⟨stopped, trees, held, rfl, reads⟩
        cases trees with
        | nil =>
          cases reads
          rw [begun] at stopped
          cases stopped
        | cons tree others =>
          obtain ⟨after, front, behind⟩ := reads_append.mp reads
          have fewer := (progress front).2
          have first := (recognised _ _ _ _).mpr ⟨tree, held.1, rfl, front⟩
          have further := (ih _ fewer rfl).mpr ⟨stopped, others, held.2, rfl, behind⟩
          simp only [first, if_pos fewer, further, List.map_cons]
    · rw [if_neg begun]
      constructor
      · intro done
        cases done
        exact ⟨Bool.eq_false_iff.mpr begun, [], trivial, rfl, rfl⟩
      · rintro ⟨stopped, trees, held, rfl, reads⟩
        cases trees with
        | nil =>
          cases reads
          rfl
        | cons tree others =>
          obtain ⟨after, front, _⟩ := reads_append.mp reads
          exact (begun (progress front).1).elim

end Repetition

end Parser

end TurtleScene
