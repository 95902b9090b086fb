/-
**What the items of a source cover.**

Each item covers a stretch of the source, and its span tells which. The stretches follow each other
in the order of the items. A part of a source from where one item starts up to where another one
stops has the items from the one to the other, and no others.

* `Span.Covers` — a span is the place of a stretch of a text. Stretches are joined to a stretch
  (`Span.Covers.merge`).
* `CutAt`, `Munched.cut` — a text that is cut in front of an item and behind it, and the items of
  the parts.
* **`itemsFrom_cut`** — the items of a part of a source.
* `TokenStream.all` — the items of a source, and its end behind them; no two of them start at the
  same place (`TokenStream.pairwise_all`), and each covers its own text
  (`TokenStream.covers_of_mem_all`).
-/

import TurtleScene.Proofs.MaximalMunch

namespace TurtleScene

open Text

/-! ### Spans of stretches -/

/-- The byte length of a text that is not empty. -/
theorem byteLength_pos {text : List Char} (nonempty : text ≠ []) : 0 < byteLength text := by
  cases text with
  | nil => exact (nonempty rfl).elim
  | cons head tail => exact Nat.add_pos_left head.utf8Size_pos _

/-- **A span is the place of a stretch** of a text. -/
def Span.Covers (span : Span) (text covered : List Char) : Prop :=
  ∃ before behind, text = before ++ (covered ++ behind) ∧ span.start = byteLength before ∧
    span.stop = byteLength before + byteLength covered

theorem splitAtByte_byteLength (front behind : List Char) :
    splitAtByte (byteLength front) (front ++ behind) = (front, behind) := by
  induction front with
  | nil => rw [byteLength_nil, List.nil_append, splitAtByte]
  | cons head tail ih =>
    obtain ⟨size, isSize⟩ := Nat.exists_eq_add_one.mpr head.utf8Size_pos
    have offset : byteLength (head :: tail) = size + byteLength tail + 1 := by
      rw [byteLength_cons, isSize]
      omega
    have others : size + byteLength tail + 1 - head.utf8Size = byteLength tail := by omega
    rw [offset, List.cons_append, splitAtByte, others, ih]
    exact Nat.succ_ne_zero _

/-- A stretch is the text under its span. -/
theorem Span.Covers.slice_eq {span : Span} {text covered : List Char}
    (covers : span.Covers text covered) : slice span.start span.stop text = covered := by
  obtain ⟨before, behind, rfl, start, stop⟩ := covers
  have length : span.stop - span.start = byteLength covered := by omega
  rw [slice, length, start, splitAtByte_byteLength, splitAtByte_byteLength]

theorem Span.Covers.le {span : Span} {text covered : List Char}
    (covers : span.Covers text covered) :
    span.start ≤ span.stop ∧ span.stop ≤ byteLength text := by
  obtain ⟨before, behind, rfl, start, stop⟩ := covers
  rw [byteLength_append, byteLength_append]
  omega

/-- An offset is a boundary of a text: no character lies on both sides of it. -/
def Boundary (text : List Char) (offset : Nat) : Prop :=
  ∃ before behind, text = before ++ behind ∧ offset = byteLength before

theorem byteLength_toList (text : String) : byteLength text.toList = text.utf8ByteSize := by
  have ofList : ∀ text : List Char, byteLength text = (String.ofList text).utf8ByteSize := by
    intro text
    induction text with
    | nil => rfl
    | cons head tail ih =>
      rw [byteLength_cons, ih, String.ofList_cons, String.utf8ByteSize_append,
        String.utf8ByteSize_singleton]
  rw [ofList, String.ofList_toList]

/-- A boundary is a position of the text as a sequence of bytes in UTF-8. -/
theorem Boundary.isValid {text : String} {offset : Nat} (boundary : Boundary text.toList offset) :
    String.Pos.Raw.IsValid text ⟨offset⟩ := by
  obtain ⟨before, behind, split, rfl⟩ := boundary
  refine String.Pos.Raw.isValid_iff_exists_append.mpr
    ⟨String.ofList before, String.ofList behind, ?_, ?_⟩
  · rw [← String.ofList_append, ← split, String.ofList_toList]
  · rw [String.rawEndPos, ← byteLength_toList, String.toList_ofList]

theorem Span.Covers.boundaries {span : Span} {text covered : List Char}
    (covers : span.Covers text covered) : Boundary text span.start ∧ Boundary text span.stop := by
  obtain ⟨before, behind, split, start, stop⟩ := covers
  refine ⟨⟨before, covered ++ behind, split, start⟩, before ++ covered, behind, ?_, ?_⟩
  · rw [split, List.append_assoc]
  · rw [stop, byteLength_append]

/-- Between two boundaries lies a stretch. -/
theorem Span.exists_covers {span : Span} {text : List Char} (starts : Boundary text span.start)
    (stops : Boundary text span.stop) (ordered : span.start ≤ span.stop) :
    ∃ covered, span.Covers text covered := by
  obtain ⟨before, after, rfl, start⟩ := starts
  obtain ⟨front, behind, split, stop⟩ := stops
  rcases List.append_eq_append_iff.mp split with ⟨covered, rfl, rfl⟩ | ⟨more, rfl, rfl⟩
  · exact ⟨covered, before, behind, rfl, start, by rw [stop, byteLength_append]⟩
  · -- the second boundary is not in front of the first one, so both are the same
    have none : more = [] := by
      by_contra some
      have := byteLength_pos some
      rw [byteLength_append] at start
      omega
    rw [none, List.append_nil] at start
    exact ⟨[], front, after, by rw [none, List.append_nil, List.nil_append], start, stop⟩

/-- **Stretches are joined to a stretch.** -/
theorem Span.Covers.merge {first second : Span} {text covered other : List Char}
    (covers : first.Covers text covered) (others : second.Covers text other) :
    ∃ joined, (first.merge second).Covers text joined := by
  have ordered : (first.merge second).start ≤ (first.merge second).stop := by
    have := covers.le
    show min first.start second.start ≤ max first.stop second.stop
    omega
  refine exists_covers ?_ ?_ ordered
  · show Boundary text (min first.start second.start)
    rcases min_choice first.start second.start with same | same <;> rw [same]
    · exact covers.boundaries.1
    · exact others.boundaries.1
  · show Boundary text (max first.stop second.stop)
    rcases max_choice first.stop second.stop with same | same <;> rw [same]
    · exact covers.boundaries.2
    · exact others.boundaries.2

/-! ### Items and their stretches -/

/-- The place of an item. -/
def Item.span : Item → Span
  | .token found => found.span
  | .fault error => error.span

/-- The text of an item. -/
def Item.text : Item → String
  | .token found => found.kind.spelling
  | .fault error => error.text

/-- A token is spelled as the word that it is made from. -/
theorem Pattern.spelling_of_kind? {pattern : Pattern} {word : List Char} {kind : TokenKind}
    (member : word ∈ pattern.language) (made : pattern.kind? word = some kind) :
    kind.spelling = String.ofList word := by
  cases pattern with
  | keyword keyword =>
    cases made
    rw [Set.mem_singleton_iff.mp member, String.ofList_toList]
    rfl
  | identifier | integer | decimal | color =>
    cases made
    rfl
  | string =>
    obtain ⟨text, _, rfl⟩ := mem_string.mp member
    cases made
    simp [TokenKind.spelling, String.ext_iff]
  | mark symbol =>
    cases made
    rw [Set.mem_singleton_iff.mp member]
    rfl
  | blank | comment => cases made

/-- A match in front of less text is one in front of the whole. -/
theorem MatchesFront.extend {pattern : Pattern} {stretch front text : List Char}
    (here : MatchesFront pattern stretch front) (within : front <+: text) :
    MatchesFront pattern stretch text :=
  ⟨here.word, here.nonempty, here.front.trans within⟩

/-- The longest match is the longest one with less text behind it. -/
theorem Longest.truncate {pattern : Pattern} {covered front behind : List Char}
    (taken : Longest pattern covered (covered ++ (front ++ behind))) :
    Longest pattern covered (covered ++ front) := by
  have within : covered ++ front <+: covered ++ (front ++ behind) :=
    ⟨behind, List.append_assoc _ _ _⟩
  refine ⟨⟨taken.here.word, taken.here.nonempty, List.prefix_append _ _⟩, ?_, taken.preferred⟩
  intro other stretch here
  exact taken.longest other stretch (here.extend within)

theorem FaultExtent.truncate {covered front behind : List Char}
    (extent : FaultExtent covered (front ++ behind)) : FaultExtent covered front := by
  refine extent.imp_right ?_
  rintro ⟨text, rfl, inLine, ends⟩
  refine ⟨text, rfl, inLine, fun next isNext => ends next ?_⟩
  rw [Option.mem_def] at isNext ⊢
  rw [List.head?_append, isNext, Option.some_or]

/-! ### Cutting a text at its items -/

/-- The text of a fault is what its message quotes. -/
theorem LexicalError.text_eq {error : LexicalError} {covered : List Char}
    (told : error.message = "unexpected character '" ++ String.ofList covered ++ "'") :
    error.text = String.ofList covered := eq_of_enclosed told

/-- A stretch puts items in front of those of any text behind it, as long as that text is the
beginning of a given one. -/
def Leads (offset : Nat) (stretch rest : List Char) (items : List Item) : Prop :=
  ∀ tail others, tail <+: rest → Munched (offset + byteLength stretch) tail others →
    Munched offset (stretch ++ tail) (items ++ others)

theorem leads_of_skipped {offset : Nat} {pattern : Pattern} {covered rest : List Char}
    (taken : Longest pattern covered (covered ++ rest)) (skipped : pattern.kind? covered = none) :
    Leads offset covered rest [] := by
  rintro tail others ⟨behind, rfl⟩ munched
  exact .skipped taken.truncate skipped munched

theorem leads_of_token {offset : Nat} {pattern : Pattern} {kind : TokenKind}
    {covered rest : List Char} (taken : Longest pattern covered (covered ++ rest))
    (made : pattern.kind? covered = some kind) :
    Leads offset covered rest [.token ⟨kind, ⟨offset, offset + byteLength covered⟩⟩] := by
  rintro tail others ⟨behind, rfl⟩ munched
  exact .token taken.truncate made munched

theorem leads_of_fault {offset : Nat} {covered rest : List Char} {error : LexicalError}
    (unmatched : ∀ pattern stretch, ¬ MatchesFront pattern stretch (covered ++ rest))
    (extent : FaultExtent covered rest)
    (told : error.message = "unexpected character '" ++ String.ofList covered ++ "'")
    (placed : error.span = ⟨offset, offset + byteLength covered⟩) :
    Leads offset covered rest [.fault error] := by
  rintro tail others ⟨behind, rfl⟩ munched
  refine .fault (fun pattern stretch here => ?_) extent.truncate told placed munched
  exact unmatched _ _ (here.extend ⟨behind, List.append_assoc _ _ _⟩)

/-- **A text is cut in front of an item and behind it.** Each part has its own items, and so have
two parts in a row. -/
structure CutAt (offset : Nat) (before covered rest : List Char) (front : List Item) (item : Item)
    (behind : List Item) : Prop where
  nonempty : covered ≠ []
  isText : item.text = String.ofList covered
  isSpan : item.span = ⟨offset + byteLength before, offset + byteLength before + byteLength covered⟩
  inFront : Munched offset before front
  upTo : Munched offset (before ++ covered) (front ++ [item])
  alone : Munched (offset + byteLength before) covered [item]
  onward : Munched (offset + byteLength before) (covered ++ rest) (item :: behind)
  inRest : Munched (offset + byteLength before + byteLength covered) rest behind

namespace CutAt

variable {offset : Nat} {before covered rest : List Char} {front behind : List Item} {item : Item}

theorem here (nonempty : covered ≠ []) (isText : item.text = String.ofList covered)
    (isSpan : item.span = ⟨offset, offset + byteLength covered⟩)
    (leads : Leads offset covered rest [item])
    (others : Munched (offset + byteLength covered) rest behind) :
    CutAt offset [] covered rest [] item behind := by
  have alone := leads [] [] List.nil_prefix (.done _)
  rw [List.append_nil] at alone
  exact ⟨nonempty, isText, isSpan, .done offset, alone, alone,
    leads rest behind (List.prefix_refl _) others, others⟩

theorem deeper {stretch : List Char} {items : List Item}
    (leads : Leads offset stretch (before ++ (covered ++ rest)) items)
    (cut : CutAt (offset + byteLength stretch) before covered rest front item behind) :
    CutAt offset (stretch ++ before) covered rest (items ++ front) item behind := by
  have place : offset + byteLength stretch + byteLength before =
      offset + byteLength (stretch ++ before) := by
    rw [byteLength_append, Nat.add_assoc]
  have upTo := leads _ _ ⟨rest, List.append_assoc _ _ _⟩ cut.upTo
  rw [← List.append_assoc, ← List.append_assoc] at upTo
  exact ⟨cut.nonempty, cut.isText, place ▸ cut.isSpan,
    leads _ _ (List.prefix_append _ _) cut.inFront, upTo, place ▸ cut.alone, place ▸ cut.onward,
    place ▸ cut.inRest⟩

end CutAt

/-- **A text can be cut at each of its items.** -/
theorem Munched.cut {offset : Nat} {text : List Char} {items front behind : List Item}
    {item : Item} (munched : Munched offset text items) (split : items = front ++ item :: behind) :
    ∃ before covered rest, text = before ++ (covered ++ rest) ∧
      CutAt offset before covered rest front item behind := by
  induction munched generalizing front with
  | done offset => cases (List.append_eq_nil_iff.mp split.symm).2
  | skipped taken skipped _ ih =>
    obtain ⟨before, covered, rest, rfl, cut⟩ := ih split
    exact ⟨_, covered, rest, (List.append_assoc _ _ _).symm,
      cut.deeper (leads_of_skipped taken skipped)⟩
  | token taken made others ih =>
    cases front with
    | nil =>
      cases split
      exact ⟨[], _, _, rfl, .here taken.here.nonempty
        (Pattern.spelling_of_kind? taken.here.word made) rfl (leads_of_token taken made) others⟩
    | cons first more =>
      cases split
      obtain ⟨before, covered, rest, rfl, cut⟩ := ih rfl
      exact ⟨_, covered, rest, (List.append_assoc _ _ _).symm,
        cut.deeper (leads_of_token taken made)⟩
  | fault unmatched extent told placed others ih =>
    have leads := leads_of_fault unmatched extent told placed
    cases front with
    | nil =>
      cases split
      exact ⟨[], _, _, rfl, .here extent.nonempty (LexicalError.text_eq told) placed leads others⟩
    | cons first more =>
      cases split
      obtain ⟨before, covered, rest, rfl, cut⟩ := ih rfl
      exact ⟨_, covered, rest, (List.append_assoc _ _ _).symm, cut.deeper leads⟩

/-! ### The places of items -/

/-- An item of a text covers some of its bytes. -/
theorem Munched.bounds {offset : Nat} {text : List Char} {items : List Item} {item : Item}
    (munched : Munched offset text items) (member : item ∈ items) :
    offset ≤ item.span.start ∧ item.span.start < item.span.stop ∧
      item.span.stop ≤ offset + byteLength text := by
  obtain ⟨front, behind, split⟩ := List.append_of_mem member
  obtain ⟨before, covered, rest, rfl, cut⟩ := munched.cut split
  have := byteLength_pos cut.nonempty
  rw [cut.isSpan, byteLength_append, byteLength_append]
  dsimp only
  omega

/-- **Items stand one behind the other.** -/
theorem Munched.pairwise {offset : Nat} {text : List Char} {items : List Item}
    (munched : Munched offset text items) :
    items.Pairwise fun first second => first.span.stop ≤ second.span.start := by
  induction munched with
  | done offset => exact .nil
  | skipped _ _ _ ih => exact ih
  | token _ _ others ih => exact .cons (fun _ member => (others.bounds member).1) ih
  | fault _ _ _ placed others ih =>
    refine .cons (fun _ member => ?_) ih
    rw [Item.span, placed]
    exact (others.bounds member).1

namespace TokenStream

/-- All items, and the end of the source behind them. -/
def all (stream : TokenStream) : List Item := stream.ahead ++ [Item.token stream.endToken]

theorem mem_all {stream : TokenStream} {item : Item} :
    item ∈ stream.all ↔ item ∈ stream.ahead ∨ item = .token stream.endToken := by
  rw [all, List.mem_append, List.mem_singleton]

/-- **Each item covers its own text**, and the end of a source covers nothing. -/
theorem covers_of_mem_all {source : String} {item : Item} (member : item ∈ (ofSource source).all) :
    item.span.Covers source.toList item.text.toList := by
  rcases mem_all.mp member with inside | rfl
  · obtain ⟨front, behind, split⟩ := List.append_of_mem inside
    obtain ⟨before, covered, rest, whole, cut⟩ := (munched_itemsFrom 0 source.toList).cut split
    rw [cut.isText, cut.isSpan, String.toList_ofList, Nat.zero_add]
    exact ⟨before, rest, whole, rfl, rfl⟩
  · exact ⟨source.toList, [], (List.append_nil _).symm, rfl, rfl⟩

end TokenStream

/-- **A part of a source has the items that it covers**: from where one item starts up to where
another one stops, the text has the items from the one to the other, and the last one at its end. -/
theorem itemsFrom_cut {source : String} {front behind : List Item} {first last : Item}
    {inside : List Item}
    (split : (TokenStream.ofSource source).ahead = front ++ (first :: (inside ++ last :: behind))) :
    ∃ covered, (first.span.merge last.span).Covers source.toList covered ∧
      itemsFrom first.span.start covered = first :: (inside ++ [last]) ∧
      last.span.stop = first.span.start + byteLength covered := by
  obtain ⟨before, covered, rest, whole, cut⟩ := (munched_itemsFrom 0 source.toList).cut split
  obtain ⟨between, stretch, others, same, further⟩ := cut.onward.cut (List.cons_append ..).symm
  have start : first.span.start = byteLength before := by
    rw [cut.isSpan, Nat.zero_add]
  have stop := congrArg Span.stop further.isSpan
  have bounds := further.upTo.bounds List.mem_cons_self
  have lastBounds :=
    further.upTo.bounds (List.mem_append_right (first :: inside) List.mem_cons_self)
  rw [byteLength_append] at bounds lastBounds
  dsimp only at stop
  refine ⟨between ++ stretch, ⟨before, others, ?_, ?_, ?_⟩, ?_, ?_⟩
  · rw [whole, same, List.append_assoc]
  · show min first.span.start last.span.start = _
    omega
  · show max first.span.stop last.span.stop = _
    rw [byteLength_append]
    omega
  · rw [start, ← Nat.zero_add (byteLength before)]
    exact further.upTo.eq_itemsFrom
  · rw [byteLength_append]
    omega

end TurtleScene
