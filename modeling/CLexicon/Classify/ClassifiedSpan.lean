import CLexicon.Catalogue.Entry
import CLexicon.Classify.Kind
import CLexicon.Span

/-!
# Classified spans

A `ClassifiedSpan` is a span of source text with its kind and, where the
catalogue knows it, its entry.

* `ClassifiedSpan.render`: its written form;
* `spanAt?`: the span that holds an offset, among spans in source order.
-/

namespace CLexicon

/-- A span of source text, what it is, and the entry that it stands for. -/
structure ClassifiedSpan where
  span : Span
  kind : Kind
  entry : Option Entry := none
  deriving DecidableEq, Repr

namespace ClassifiedSpan

/-- The id of the entry. -/
def entryId? (classified : ClassifiedSpan) : Option String :=
  classified.entry.map Entry.id

/-- The part of a text that is covered. -/
def text (classified : ClassifiedSpan) (source : String) : String :=
  classified.span.text source

/-- The written form: the span, the kind, and the id of the entry if there is
one. -/
def render (classified : ClassifiedSpan) : String :=
  classified.span.render ++ " " ++ classified.kind.name ++
    match classified.entryId? with
    | some id => " " ++ id
    | none => ""

end ClassifiedSpan

/-- The span that holds an offset: the first that stops behind it, if it
starts at or before it. The spans are in source order. -/
def spanAt? (spans : List ClassifiedSpan) (offset : Nat) :
    Option ClassifiedSpan :=
  (spans.find? fun s => offset < s.span.stop).filter
    (·.span.contains offset)

end CLexicon
