/-
**The lexer loses nothing of a source.**

The items of a source and what is skipped between them make up the whole source. Between two items
stand blank space and comments, and no comment stops in the middle of its line. An item that is cut
out of the source is read as the same item.

* `Filler` — what is skipped, in front of what stands behind it.
* `Munched.filler`, `Munched.gap` — in front of each item of a text, and of its end, stands filler.
* `Munched.alone` — an item that is cut out of a text is its only item.
* `Coverage` — the items of a source, with filler between them and around them.
* **`TokenStream.answers_cover`** — what the lexer answers covers the source up to filler.
-/

import TurtleScene.Proofs.Causes
import TurtleScene.Proofs.Newline

namespace TurtleScene

open Text

/-! ### What is skipped -/

/-- **Blank space and comments in a row**, in front of the text behind them. A comment reaches up to
a newline, or to the end of the text. -/
inductive Filler (behind : List Char) : List Char → Prop
  | done : Filler behind []
  | blank {word rest : List Char} : word ∈ Pattern.blank.language → Filler behind rest →
      Filler behind (word ++ rest)
  | comment {word rest : List Char} : word ∈ Pattern.comment.language →
      (∀ next ∈ (rest ++ behind).head?, next = '\n') → Filler behind rest →
      Filler behind (word ++ rest)

/-- A comment that is the longest match reaches up to the end of its line. -/
theorem Longest.comment_stops {covered rest : List Char}
    (taken : Longest .comment covered (covered ++ rest)) : ∀ next ∈ rest.head?, next = '\n' := by
  obtain ⟨tail, inLine, isComment⟩ := Pattern.mem_comment.mp taken.here.word
  cases rest with
  | nil => nofun
  | cons next others =>
    intro _ isNext
    cases isNext
    by_contra goesOn
    have longer : MatchesFront .comment (covered ++ [next]) (covered ++ next :: others) := by
      refine ⟨Pattern.mem_comment.mpr ⟨tail ++ [next], ?_, by rw [isComment]; rfl⟩, by simp,
        ⟨others, by simp⟩⟩
      refine List.forall_mem_append.mpr ⟨inLine, List.forall_mem_singleton.mpr ?_⟩
      rwa [isLinePart, bne_iff_ne]
    have short := taken.longest _ _ longer
    rw [List.length_append] at short
    exact Nat.not_succ_le_self _ short

/-- A longest match that makes no token is filler. -/
theorem Filler.of_longest {pattern : Pattern} {covered rest behind : List Char}
    (taken : Longest pattern covered (covered ++ (rest ++ behind)))
    (skipped : pattern.kind? covered = none) (filler : Filler behind rest) :
    Filler behind (covered ++ rest) := by
  cases pattern with
  | blank => exact .blank taken.here.word filler
  | comment => exact .comment taken.here.word taken.comment_stops filler
  | keyword _ | identifier | integer | decimal | string | color | mark _ => cases skipped

/-- The end of a text that begins at an offset, as the item that stands behind all others. -/
def endAt (offset : Nat) (text : List Char) : Item :=
  .token ⟨.endOfFile, Span.point (offset + byteLength text)⟩

theorem endAt_append (offset : Nat) (covered rest : List Char) :
    endAt offset (covered ++ rest) = endAt (offset + byteLength covered) rest := by
  rw [endAt, endAt, byteLength_append, Nat.add_assoc]

/-- **In front of the first item stands filler**, be the item the end of the text. -/
theorem Munched.filler {offset : Nat} {text : List Char} {items behind : List Item} {first : Item}
    (munched : Munched offset text items)
    (isFirst : items ++ [endAt offset text] = first :: behind) :
    ∃ gap rest, text = gap ++ rest ∧ first.span.start = offset + byteLength gap ∧
      Filler rest gap := by
  induction munched generalizing first behind with
  | done offset =>
    cases isFirst
    exact ⟨[], [], rfl, rfl, .done⟩
  | @skipped offset pattern covered rest items taken skipped others ih =>
    rw [endAt_append] at isFirst
    obtain ⟨gap, further, rfl, start, filler⟩ := ih isFirst
    refine ⟨covered ++ gap, further, (List.append_assoc _ _ _).symm, ?_,
      .of_longest taken skipped filler⟩
    rw [start, byteLength_append, Nat.add_assoc]
  | token taken made others ih =>
    cases isFirst
    exact ⟨[], _, rfl, rfl, .done⟩
  | fault unmatched extent told placed others ih =>
    cases isFirst
    exact ⟨[], _, rfl, congrArg Span.start placed, .done⟩

/-- Where the last one of some items stops: at the beginning of the source if there is none. -/
def lastStop (items : List Item) : Nat := (items.getLast?.map fun item => item.span.stop).getD 0

/-- **In front of each item stands filler**, and behind the last item as well. -/
theorem Munched.gap {text : List Char} {items front behind : List Item} {item : Item}
    (munched : Munched 0 text items) (split : items ++ [endAt 0 text] = front ++ item :: behind) :
    ∃ before gap rest, text = before ++ (gap ++ rest) ∧ byteLength before = lastStop front ∧
      byteLength before + byteLength gap = item.span.start ∧ Filler rest gap := by
  rcases List.eq_nil_or_concat front with rfl | ⟨others, last, rfl⟩
  · obtain ⟨gap, rest, whole, start, filler⟩ := munched.filler split
    exact ⟨[], gap, rest, whole, rfl, start.symm, filler⟩
  · rw [List.concat_eq_append, List.append_assoc, List.singleton_append] at split
    obtain ⟨more, isItems, isBehind⟩ := exists_of_concat_eq split
    obtain ⟨before, covered, rest, rfl, cut⟩ := munched.cut isItems
    rw [endAt_append, endAt_append] at isBehind
    obtain ⟨gap, further, rfl, start, filler⟩ := cut.inRest.filler isBehind
    refine ⟨before ++ covered, gap, further, (List.append_assoc _ _ _).symm, ?_, ?_, filler⟩
    · rw [lastStop, List.concat_eq_append, List.getLast?_concat, Option.map_some,
        Option.getD_some, cut.isSpan, byteLength_append, Nat.zero_add]
    · rw [start, byteLength_append, Nat.zero_add]

/-! ### Items on their own -/

/-- A text has no more items than bytes. -/
theorem Munched.length_le {offset : Nat} {text : List Char} {items : List Item}
    (munched : Munched offset text items) : items.length ≤ byteLength text := by
  induction munched with
  | done offset => exact Nat.le_refl 0
  | skipped _ _ _ ih =>
    rw [byteLength_append]
    exact Nat.le_add_left_of_le ih
  | token taken _ _ ih =>
    have := byteLength_pos taken.here.nonempty
    rw [byteLength_append, List.length_cons]
    omega
  | fault _ extent _ _ _ ih =>
    have := byteLength_pos extent.nonempty
    rw [byteLength_append, List.length_cons]
    omega

/-- **An item that is cut out of a text** is the only item of what it covers, at the beginning. -/
theorem Munched.alone {text : List Char} {items : List Item} {item : Item}
    (munched : Munched 0 text items) (member : item ∈ items) :
    itemsFrom 0 (slice item.span.start item.span.stop text) =
      [item.mapSpans fun span => ⟨0, span.length⟩] := by
  obtain ⟨front, behind, split⟩ := List.append_of_mem member
  obtain ⟨before, covered, rest, rfl, cut⟩ := munched.cut split
  have covers : item.span.Covers (before ++ (covered ++ rest)) covered :=
    ⟨before, rest, rfl, by rw [cut.isSpan, Nat.zero_add], by rw [cut.isSpan, Nat.zero_add]⟩
  have moved := cut.alone.eq_itemsFrom
  rw [itemsFrom_add, List.map_eq_singleton_iff] at moved
  obtain ⟨first, same, rfl⟩ := moved
  have place : first.span.start = 0 := by
    have := congrArg Span.start cut.isSpan
    cases first <;> simpa [Item.span, Item.mapSpans, Token.mapSpans, Span.shift] using this
  rw [covers.slice_eq, same]
  obtain ⟨⟨kind, start, stop⟩⟩ | ⟨text, start, stop⟩ := first <;>
    simp_all [Item.span, Item.mapSpans, Token.mapSpans, Span.shift, Span.length]

/-! ### The answers of the lexer -/

/-- **Items cover a source** up to filler, and each of them is read on its own. -/
structure Coverage (source : String) (items : List Item) : Prop where
  fewer : items.length ≤ source.utf8ByteSize
  inside : ∀ item ∈ items, item.span.start < item.span.stop ∧ item.span.stop ≤ source.utf8ByteSize
  boundaries : ∀ item ∈ items,
    String.Pos.Raw.IsValid source ⟨item.span.start⟩ ∧ String.Pos.Raw.IsValid source ⟨item.span.stop⟩
  ordered : items.Pairwise fun first second => first.span.stop ≤ second.span.start
  gaps : ∀ front item behind, items ++ [endAt 0 source.toList] = front ++ item :: behind →
    ∃ before gap rest, source.toList = before ++ (gap ++ rest) ∧
      byteLength before = lastStop front ∧
        byteLength before + byteLength gap = item.span.start ∧ Filler rest gap

namespace TokenStream

/-- A stream gives some items, and from then on its end over and over. -/
def Gives (stream : TokenStream) (items : List Item) : Prop :=
  ∀ count, stream.answers count =
    (items ++ List.replicate count (Item.token stream.endToken)).take count

theorem gives_ahead (stream : TokenStream) : stream.Gives stream.ahead := stream.answers_eq

/-- The items of a source cover it. -/
theorem coverage_ahead (source : String) : Coverage source (ofSource source).ahead := by
  have munched := munched_itemsFrom 0 source.toList
  refine ⟨?_, fun item member => ?_, fun item member => ?_, munched.pairwise, ?_⟩
  · rw [← byteLength_toList]
    exact munched.length_le
  · have bounds := munched.bounds member
    rw [← byteLength_toList]
    omega
  · have covers := covers_of_mem_all (mem_all.mpr (.inl member))
    exact ⟨covers.boundaries.1.isValid, covers.boundaries.2.isValid⟩
  · intro front item behind split
    exact munched.gap split

/-- A source has its tokens if none of its items is a fault. -/
theorem exists_tokens_iff {stream : TokenStream} :
    (∃ tokens, stream.tokens = .ok tokens) ↔ ∀ error, Item.fault error ∉ stream.ahead := by
  constructor
  · rintro ⟨tokens, readable⟩ error member
    have isToken := List.mem_append_left [Item.token stream.endToken] member
    rw [tokens_eq_ok_iff.mp readable] at isToken
    obtain ⟨_, _, isFault⟩ := List.mem_map.mp isToken
    cases isFault
  · intro noFault
    rcases exists_tokens_or_fault stream.ahead with ⟨tokens, same⟩ | ⟨front, error, behind, same⟩
    · exact ⟨_, tokens_ok_iff.mpr same⟩
    · refine (noFault error ?_).elim
      rw [same]
      exact List.mem_append_right _ List.mem_cons_self

/-- **The lexer loses nothing of a source and ends.** Asked again and again it gives items that
cover the source up to filler, and from then on the end of the source. An item that is cut out of
the source is the only one of its text. All tokens of the source are those items with the end behind
them if none is a fault; otherwise the source is refused for the first fault. -/
theorem answers_cover (source : String) :
    ∃ items, (ofSource source).Gives items ∧ Coverage source items ∧
      (ofSource source).endToken = ⟨.endOfFile, ⟨source.utf8ByteSize, source.utf8ByteSize⟩⟩ ∧
      (∀ token, Item.token token ∈ items → token.kind ≠ .endOfFile) ∧
      (∀ item ∈ items,
        (ofSource (String.ofList (slice item.span.start item.span.stop source.toList))).Gives
          [item.mapSpans fun span => ⟨0, span.length⟩]) ∧
      ((∃ tokens, (ofSource source).tokens = .ok tokens) ↔ ∀ error, Item.fault error ∉ items) ∧
      (∀ tokens, (ofSource source).tokens = .ok tokens ↔
        tokens.map Item.token = items ++ [Item.token (ofSource source).endToken]) ∧
      ∀ error, (ofSource source).tokens = .error error ↔
        ∃ (front : List Token) (behind : List Item),
          items = front.map Item.token ++ .fault error :: behind := by
  refine ⟨(ofSource source).ahead, gives_ahead _, coverage_ahead source, ?_, fun token member => ?_,
    fun item member => ?_, exists_tokens_iff, fun tokens => ?_, fun error => tokens_eq_error_iff⟩
  · rw [← byteLength_toList]
    rfl
  · exact (spelled_of_mem_itemsFrom member).ne_endOfFile
  · have alone : (ofSource (String.ofList
        (slice item.span.start item.span.stop source.toList))).ahead =
          [item.mapSpans fun span => ⟨0, span.length⟩] := by
      rw [ofSource, String.toList_ofList]
      exact (munched_itemsFrom 0 source.toList).alone member
    rw [← alone]
    exact gives_ahead _
  · rw [tokens_eq_ok_iff, eq_comm]

end TokenStream

end TurtleScene
