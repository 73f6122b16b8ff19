import CLexicon.Text.Encoding

/-!
# Byte ranges of a text

A `Span` is the half-open range from byte `start` up to byte `stop`.

* `Span.length`, `Span.isEmpty`, `Span.contains`: its size and its members;
* `Span.text`: the part of a text that it covers;
* `Span.render`: its written form, `start..stop`.
-/

namespace CLexicon

/-- A half-open range of byte offsets. -/
structure Span where
  start : Nat := 0
  stop : Nat := 0
  deriving DecidableEq, Repr, Inhabited

namespace Span

/-- The number of bytes of a span. -/
def length (span : Span) : Nat :=
  span.stop - span.start

/-- Whether a span covers no byte. -/
def isEmpty (span : Span) : Bool :=
  span.start = span.stop

/-- Whether a byte offset lies in a span. -/
def contains (span : Span) (offset : Nat) : Bool :=
  span.start ≤ offset && offset < span.stop

/-- The span, moved `distance` bytes to the right. -/
def shift (span : Span) (distance : Nat) : Span :=
  ⟨span.start + distance, span.stop + distance⟩

/-- The part of a text that a span covers. It is empty when the span does not
fit the text. -/
def text (span : Span) (source : String) : String :=
  (Text.slice? source span.start span.stop).getD ""

/-- The written form of a span, `start..stop`. -/
def render (span : Span) : String :=
  toString span.start ++ ".." ++ toString span.stop

end Span

end CLexicon
