/-
**A newline separates the lexemes around it.**

No lexeme that begins in front of a newline reads across it, but for blank space, which leaves no
item behind. So a text with a newline in the middle has the items of both parts, the later ones at
their places in the whole.

* `itemsFrom_add` — the items of a text further along the source.
* `itemsFrom_blank` — a blank character can be skipped on its own.
* `Lexeme.first_append_newline` — a lexeme is the same in front of a newline.
* **`itemsFrom_append_newline`** — the items of a text with a newline in the middle; for two
  sources, `TokenStream.ahead_ofSource_append`.
-/

import TurtleScene.Proofs.MaximalMunch

namespace TurtleScene

open Text

/-! ### Moving items -/

/-- Changes the span of a token. -/
def Token.mapSpans (change : Span → Span) (token : Token) : Token :=
  { token with span := change token.span }

/-- Changes the span of an item. -/
def Item.mapSpans (change : Span → Span) : Item → Item
  | .token found => .token (found.mapSpans change)
  | .fault error => .fault { error with span := change error.span }

theorem Lexeme.itemsAt_add (offset distance : Nat) (lexeme : Lexeme) :
    lexeme.itemsAt (offset + distance) =
      (lexeme.itemsAt offset).map (Item.mapSpans (Span.shift distance)) := by
  have stops : offset + distance + byteLength lexeme.covered =
      offset + byteLength lexeme.covered + distance := by omega
  unfold itemsAt
  cases lexeme.reading with
  | blank => rfl
  | token kind => simp [Item.mapSpans, Token.mapSpans, Span.shift, stops]
  | fault => simp [Item.mapSpans, Span.shift, stops]

/-- **A text further along the source has its items further along.** -/
theorem itemsFrom_add (offset distance : Nat) (text : List Char) :
    itemsFrom (offset + distance) text =
      (itemsFrom offset text).map (Item.mapSpans (Span.shift distance)) := by
  induction size : text.length using Nat.strong_induction_on generalizing offset text with
  | _ size ih =>
    cases text with
    | nil => rw [itemsFrom_nil, itemsFrom_nil, List.map_nil]
    | cons head tail =>
      subst size
      have stops : offset + distance + byteLength (Lexeme.first head tail).covered =
          offset + byteLength (Lexeme.first head tail).covered + distance := by omega
      rw [itemsFrom_cons, itemsFrom_cons, List.map_append, Lexeme.itemsAt_add, stops,
        ih _ (Lexeme.rest_length_lt head tail) _ _ rfl]

/-! ### Blank space -/

/-- **A blank character leaves no item behind**, and those behind it are the same without it. -/
theorem itemsFrom_blank {head : Char} (blank : isBlank head = true) (offset : Nat)
    (tail : List Char) :
    itemsFrom offset (head :: tail) = itemsFrom (offset + head.utf8Size) tail := by
  have run : ∀ (offset : Nat) {head : Char} (tail : List Char), isBlank head = true →
      itemsFrom offset (head :: tail) =
        itemsFrom (offset + (head.utf8Size + byteLength (tail.takeWhile isBlank)))
          (tail.dropWhile isBlank) := by
    intro offset head tail blank
    rw [itemsFrom_cons, Lexeme.first_of_isBlank tail blank]
    rfl
  rw [run offset tail blank]
  cases tail with
  | nil => rfl
  | cons next more =>
    by_cases further : isBlank next = true
    · rw [run _ more further, List.takeWhile_cons_of_pos further,
        List.dropWhile_cons_of_pos further, byteLength_cons, Nat.add_assoc]
    · rw [List.takeWhile_cons_of_neg further, List.dropWhile_cons_of_neg further, byteLength_nil,
        Nat.add_zero]

/-! ### Lexemes in front of a newline -/

namespace Lexeme

/-- The same lexeme with more text behind it. -/
def followedBy (lexeme : Lexeme) (more : List Char) : Lexeme :=
  { lexeme with rest := lexeme.rest ++ more }

theorem run_append_stop (reading : List Char → Reading) {inClass : Char → Bool} {stop : Char}
    (stops : inClass stop = false) (head : Char) (tail more : List Char) :
    run reading inClass head (tail ++ stop :: more) =
      (run reading inClass head tail).followedBy (stop :: more) := by
  rw [run, takeWhile_append_cons stops, dropWhile_append_cons stops]
  rfl

/-- A number goes on behind a digit or a point only. -/
theorem number_append_stop {stop : Char} (noDigit : stop.isDigit = false) (noPoint : stop ≠ '.')
    (head : Char) (tail more : List Char) :
    number head (tail ++ stop :: more) = (number head tail).followedBy (stop :: more) := by
  unfold number
  rw [takeWhile_append_cons noDigit, dropWhile_append_cons noDigit]
  cases tail.dropWhile Char.isDigit with
  | nil => simp [noPoint, followedBy]
  | cons point behind =>
    by_cases isPoint : point = '.'
    · subst isPoint
      cases behind with
      | nil => simp [noDigit, followedBy]
      | cons digit others =>
        by_cases isDigit : digit.isDigit = true
        · simp [isDigit, followedBy, takeWhile_append_cons noDigit, dropWhile_append_cons noDigit]
        · simp [isDigit, followedBy]
    · simp [isPoint, followedBy]

theorem quoted_append_newline (tail more : List Char) :
    quoted (tail ++ '\n' :: more) = (quoted tail).followedBy ('\n' :: more) := by
  unfold quoted
  rw [takeWhile_append_cons (by decide), dropWhile_append_cons (by decide)]
  cases tail.dropWhile isQuotable with
  | nil => rfl
  | cons next others =>
    by_cases isQuote : next = '"'
    · subst isQuote
      rfl
    · simp [isQuote, followedBy]

/-- **A lexeme is the same in front of a newline**, unless it is blank space. -/
theorem first_append_newline {head : Char} (visible : isBlank head = false)
    (tail more : List Char) :
    first head (tail ++ '\n' :: more) = (first head tail).followedBy ('\n' :: more) := by
  have slashes : (tail ++ '\n' :: more).head? = some '/' ↔ tail.head? = some '/' := by
    cases tail <;> simp
  unfold first
  rw [visible, if_neg Bool.false_ne_true, if_neg Bool.false_ne_true]
  simp only [slashes]
  split
  · exact run_append_stop _ (by decide) head tail more
  split
  · exact number_append_stop (by decide) (by decide) head tail more
  split
  · exact run_append_stop _ (by decide) head tail more
  split
  · exact quoted_append_newline tail more
  split
  · exact run_append_stop _ (by decide) head tail more
  split <;> rfl

end Lexeme

/-! ### The items of both parts -/

/-- **A newline separates the lexemes around it**: the items are those of the text in front of it
and those of the text behind it. -/
theorem itemsFrom_append_newline (offset : Nat) (front behind : List Char) :
    itemsFrom offset (front ++ '\n' :: behind) =
      itemsFrom offset front ++ itemsFrom (offset + byteLength front + 1) behind := by
  induction size : front.length using Nat.strong_induction_on generalizing offset front with
  | _ size ih =>
    cases front with
    | nil =>
      rw [itemsFrom_nil, List.nil_append, List.nil_append, itemsFrom_blank (by decide)]
      rfl
    | cons head tail =>
      subst size
      by_cases blank : isBlank head = true
      · have shorter : tail.length < (head :: tail).length := Nat.lt_succ_self _
        rw [List.cons_append, itemsFrom_blank blank, itemsFrom_blank blank,
          ih _ shorter _ _ rfl, byteLength_cons, Nat.add_assoc offset]
      · have visible : isBlank head = false := Bool.eq_false_iff.mpr blank
        have stops : byteLength (head :: tail) = byteLength (Lexeme.first head tail).covered +
            byteLength (Lexeme.first head tail).rest := by
          rw [← byteLength_append, Lexeme.covered_append_rest]
        rw [List.cons_append, itemsFrom_cons, itemsFrom_cons offset head tail,
          Lexeme.first_append_newline visible, stops, List.append_assoc, ← Nat.add_assoc offset]
        exact congrArg (List.append _) (ih _ (Lexeme.rest_length_lt head tail) _ _ rfl)

/-- The items of two sources with a newline between them. -/
theorem TokenStream.ahead_ofSource_append (source other : String) :
    (ofSource (source ++ "\n" ++ other)).ahead = (ofSource source).ahead ++
      (ofSource other).ahead.map (Item.mapSpans (Span.shift (byteLength source.toList + 1))) := by
  have texts : (source ++ "\n" ++ other).toList = source.toList ++ '\n' :: other.toList := by
    simp
  show itemsFrom 0 (source ++ "\n" ++ other).toList = _
  rw [texts, itemsFrom_append_newline, Nat.add_assoc, itemsFrom_add]
  rfl

end TurtleScene
