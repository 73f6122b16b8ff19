import CLexicon.Proofs.Scan.Tokens

/-!
# Spans in source order

The spans of tokens that are read one after the other abut.  A part of them
leaves gaps, but the spans are still in order.

* `InSourceOrder`: no span is empty, and each starts where the one before it
  stops, or later.  `InSourceOrder.sublist`: some spans may be left out.
* `Abut.inSourceOrder`, `Abut.exists_contains`: spans that abut are in order,
  and hold each offset between their ends.
* `Scanner.inSourceOrder_placed`: the spans of all tokens of a scanner.
-/

namespace CLexicon

/-- No span is empty, and none starts before the one in front of it stops. -/
structure InSourceOrder (spans : List Span) : Prop where
  not_empty : ∀ span ∈ spans, span.start < span.stop
  follow : spans.Pairwise fun first second => first.stop ≤ second.start

theorem Span.contains_iff {span : Span} {offset : Nat} :
    span.contains offset ↔ span.start ≤ offset ∧ offset < span.stop := by
  simp [Span.contains]

namespace InSourceOrder

theorem cons_iff {span : Span} {spans : List Span} :
    InSourceOrder (span :: spans) ↔
      span.start < span.stop ∧ (∀ later ∈ spans, span.stop ≤ later.start) ∧
        InSourceOrder spans := by
  constructor
  · intro h
    have hempty := List.forall_mem_cons.mp h.not_empty
    have hfollow := List.pairwise_cons.mp h.follow
    exact ⟨hempty.1, hfollow.1, hempty.2, hfollow.2⟩
  · intro hgiven
    obtain ⟨hempty, hfollow, h⟩ := hgiven
    exact ⟨List.forall_mem_cons.mpr ⟨hempty, h.not_empty⟩,
      List.pairwise_cons.mpr ⟨hfollow, h.follow⟩⟩

/-- Spans stay in order when some are left out. -/
theorem sublist {fewer spans : List Span} (h : InSourceOrder spans)
    (hsublist : fewer.Sublist spans) : InSourceOrder fewer :=
  ⟨fun span hspan => h.not_empty span (hsublist.subset hspan), h.follow.sublist hsublist⟩

/-- One more span may follow all others. -/
theorem concat {span : Span} {spans : List Span} (h : InSourceOrder spans)
    (hspan : span.start < span.stop) (hfollow : ∀ earlier ∈ spans, earlier.stop ≤ span.start) :
    InSourceOrder (spans ++ [span]) := by
  constructor
  · rw [List.forall_mem_append, List.forall_mem_singleton]
    exact ⟨h.not_empty, hspan⟩
  · refine List.pairwise_append.mpr ⟨h.follow, List.pairwise_singleton _ _, ?_⟩
    intro earlier hearlier later hlater
    rw [List.mem_singleton.mp hlater]
    exact hfollow earlier hearlier

/-- No two spans start at one place. -/
theorem pairwise_start {spans : List Span} (h : InSourceOrder spans) :
    spans.Pairwise fun first second => first.start < second.start :=
  h.follow.imp_of_mem fun hfirst _ hfollow =>
    Nat.lt_of_lt_of_le (h.not_empty _ hfirst) hfollow

end InSourceOrder

namespace Abut

variable {start stop : Nat} {spans : List Span}

/-- Spans that abut lie between the two ends. -/
theorem bounds (h : Abut start spans stop) :
    start ≤ stop ∧ ∀ span ∈ spans, start ≤ span.start ∧ span.stop ≤ stop := by
  induction spans generalizing start with
  | nil => exact ⟨Nat.le_of_eq h, by simp⟩
  | cons span spans ih =>
    obtain ⟨rfl, hpos, htail⟩ := h
    obtain ⟨hstop, hbounds⟩ := ih htail
    refine ⟨by omega, List.forall_mem_cons.mpr ⟨⟨Nat.le_refl _, hstop⟩, ?_⟩⟩
    intro later hlater
    have := hbounds later hlater
    omega

theorem inSourceOrder (h : Abut start spans stop) : InSourceOrder spans := by
  induction spans generalizing start with
  | nil => exact ⟨by simp, .nil⟩
  | cons span spans ih =>
    obtain ⟨rfl, hpos, htail⟩ := h
    refine InSourceOrder.cons_iff.mpr ⟨hpos, ?_, ih htail⟩
    exact fun later hlater => (htail.bounds.2 later hlater).1

/-- Each offset between the two ends lies in one of the spans. -/
theorem exists_contains (h : Abut start spans stop) {offset : Nat}
    (hstart : start ≤ offset) (hstop : offset < stop) :
    ∃ span ∈ spans, span.contains offset := by
  induction spans generalizing start with
  | nil =>
    obtain rfl : start = stop := h
    omega
  | cons span spans ih =>
    obtain ⟨rfl, hpos, htail⟩ := h
    by_cases hin : offset < span.stop
    · exact ⟨span, List.mem_cons_self, Span.contains_iff.mpr ⟨hstart, hin⟩⟩
    · obtain ⟨later, hlater, hcontains⟩ := ih htail (by omega)
      exact ⟨later, List.mem_cons_of_mem _ hlater, hcontains⟩

end Abut

/-- The spans of the tokens that a scanner gives are in order. -/
theorem Scanner.inSourceOrder_placed (scanner : Scanner) :
    InSourceOrder (scanner.placed.map PlacedToken.span) :=
  (scanner.scans_tokens.abut_placeTokens scanner.cursor.position).inSourceOrder

end CLexicon
