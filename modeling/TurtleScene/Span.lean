/-
**Places in a text.**

A span is a half-open range of byte offsets into the UTF-8 form of a text. Spans are only carried
along and joined by the parser; nothing decides on one.

* `Span.merge` joins two spans into the smallest one that covers both, which for a span and itself
  is that span (`merge_self`).
* `Span.shift` moves a span along the text; moving is compatible with joining (`shift_merge`).
-/

namespace TurtleScene

/-- A half-open range of byte offsets: `start` is the first byte, `stop` the one after the last. -/
structure Span where
  start : Nat
  stop : Nat
  deriving DecidableEq

namespace Span

/-- The empty span at an offset. -/
def point (offset : Nat) : Span := ⟨offset, offset⟩

/-- The smallest span that covers both spans. -/
def merge (first second : Span) : Span :=
  ⟨min first.start second.start, max first.stop second.stop⟩

/-- The number of bytes covered. -/
def length (span : Span) : Nat := span.stop - span.start

/-- Whether no byte is covered. -/
def isEmpty (span : Span) : Bool := span.start == span.stop

/-- The span further along the text by a number of bytes. -/
def shift (distance : Nat) (span : Span) : Span := ⟨span.start + distance, span.stop + distance⟩

/-- The written form of a span in dumps and error descriptions. -/
def describe (span : Span) : String :=
  "Span \x7b start: " ++ span.start.repr ++ ", end: " ++ span.stop.repr ++ " \x7d"

@[simp] theorem merge_self (span : Span) : span.merge span = span := by
  simp [merge]

theorem shift_merge (distance : Nat) (first second : Span) :
    (first.merge second).shift distance = (first.shift distance).merge (second.shift distance) := by
  simp only [merge, shift, Span.mk.injEq]
  omega

end Span

end TurtleScene
