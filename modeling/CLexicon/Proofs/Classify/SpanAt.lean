import CLexicon.Edition
import CLexicon.Proofs.Classify.Spans
import CLexicon.Proofs.Scan.Order

/-!
# The span at an offset

The span that holds an offset is asked for in two ways.  `spanAt?` looks it up
among all spans of a text, and `Lexer.seek` goes through the text and stops as
soon as the answer is clear.  Both rest on the order of the spans.

* `Lexer.inSourceOrder_run`: the spans of a lexer are in order, also when blank
  space is left out.
* `spanAt?_eq_some_iff` and `Lexer.seek_eq_some_iff`: both ways find the one
  span that holds the offset.
* `exists_partition`: an offset parts the spans in two, so that a binary search
  may look for the place between them.
* `spanAt?_eq_classify`: the two ways agree for every text, and find nothing
  only past the end or in blank space that was left out.
-/

namespace CLexicon

/-! ## Looking a span up -/

section Lookup

variable {spans : List ClassifiedSpan} {offset : Nat} {found : ClassifiedSpan}

/-- The spans in front of the one that holds an offset stop at the offset or
before it. -/
theorem InSourceOrder.stop_le_of_contains {before behind : List ClassifiedSpan}
    (h : InSourceOrder ((before ++ found :: behind).map ClassifiedSpan.span))
    (hcontains : found.span.contains offset) :
    ∀ earlier ∈ before, earlier.span.stop ≤ offset := by
  intro earlier hearlier
  have hstart := (Span.contains_iff.mp hcontains).1
  rw [List.map_append, List.map_cons] at h
  have hfollow := (List.pairwise_append.mp h.follow).2.2
  have hstop := hfollow _ (List.mem_map_of_mem hearlier) _ List.mem_cons_self
  omega

/-- Among spans in order, the one that holds an offset is found. -/
theorem spanAt?_eq_some_iff (h : InSourceOrder (spans.map ClassifiedSpan.span)) :
    spanAt? spans offset = some found ↔ found ∈ spans ∧ found.span.contains offset := by
  unfold spanAt?
  rw [Option.filter_eq_some_iff]
  constructor
  · intro hgiven
    obtain ⟨hfind, hcontains⟩ := hgiven
    exact ⟨List.mem_of_find?_eq_some hfind, hcontains⟩
  · intro hgiven
    obtain ⟨hmem, hcontains⟩ := hgiven
    refine ⟨?_, hcontains⟩
    obtain ⟨before, behind, rfl⟩ := List.append_of_mem hmem
    have hstop := (Span.contains_iff.mp hcontains).2
    rw [List.find?_eq_some_iff_append]
    refine ⟨decide_eq_true hstop, before, behind, rfl, ?_⟩
    intro earlier hearlier
    have := h.stop_le_of_contains hcontains earlier hearlier
    simp only [Bool.not_eq_true', decide_eq_false_iff_not]
    omega

/-- The span that holds an offset is among those that start at the offset or
before it. -/
theorem find?_takeWhile_eq_some_iff (h : InSourceOrder (spans.map ClassifiedSpan.span)) :
    (spans.takeWhile (·.span.start ≤ offset)).find? (·.span.contains offset) = some found ↔
      found ∈ spans ∧ found.span.contains offset := by
  constructor
  · intro hfind
    have hmem := List.mem_of_find?_eq_some hfind
    exact ⟨(List.takeWhile_prefix _).subset hmem, by simpa using List.find?_some hfind⟩
  · intro hgiven
    obtain ⟨hmem, hcontains⟩ := hgiven
    obtain ⟨before, behind, rfl⟩ := List.append_of_mem hmem
    have hearlier := h.stop_le_of_contains hcontains
    have hbefore : ∀ s ∈ before, decide (s.span.start ≤ offset) = true := by
      intro s hs
      have hstop := hearlier s hs
      have hempty := h.not_empty s.span (List.mem_map_of_mem (List.mem_append_left _ hs))
      exact decide_eq_true (by omega)
    have hfound : decide (found.span.start ≤ offset) = true :=
      decide_eq_true (Span.contains_iff.mp hcontains).1
    rw [List.takeWhile_append_of_pos hbefore, List.takeWhile_cons, if_pos hfound,
      List.find?_eq_some_iff_append]
    refine ⟨hcontains, before, _, rfl, ?_⟩
    intro s hs
    have hstop := hearlier s hs
    rw [Bool.not_eq_true', ← Bool.not_eq_true, Span.contains_iff]
    omega

/-- Two spans in order that hold one offset are the same. -/
theorem InSourceOrder.eq_of_contains (h : InSourceOrder (spans.map ClassifiedSpan.span))
    {first second : ClassifiedSpan} (hfirst : first ∈ spans) (hsecond : second ∈ spans)
    (hin : first.span.contains offset) (hin' : second.span.contains offset) :
    first = second := by
  have hfind := (spanAt?_eq_some_iff h).mpr ⟨hfirst, hin⟩
  rw [(spanAt?_eq_some_iff h).mpr ⟨hsecond, hin'⟩] at hfind
  exact (Option.some.inj hfind).symm

/-- An offset parts spans in order into those that stop before it or at it, and
those that stop behind it. -/
theorem exists_partition (h : InSourceOrder (spans.map ClassifiedSpan.span))
    (offset : Nat) :
    ∃ place ≤ spans.length, (∀ s ∈ spans.take place, s.span.stop ≤ offset) ∧
      ∀ s ∈ spans.drop place, offset < s.span.stop := by
  induction spans with
  | nil => exact ⟨0, Nat.le_refl _, by simp, by simp⟩
  | cons span spans ih =>
    rw [List.map_cons, InSourceOrder.cons_iff] at h
    obtain ⟨-, hfollow, htail⟩ := h
    by_cases hstop : span.span.stop ≤ offset
    · obtain ⟨place, hplace, hbefore, hbehind⟩ := ih htail
      exact ⟨place + 1, Nat.succ_le_succ hplace,
        List.forall_mem_cons.mpr ⟨hstop, hbefore⟩, hbehind⟩
    · refine ⟨0, Nat.zero_le _, by simp, List.forall_mem_cons.mpr ⟨by omega, ?_⟩⟩
      intro later hlater
      have hmem : later.span ∈ spans.map ClassifiedSpan.span := List.mem_map_of_mem hlater
      have := hfollow _ hmem
      have := htail.not_empty _ hmem
      omega

/-- Where an offset parts the spans, the first of the second part is looked at.
-/
theorem spanAt?_eq_of_partition {place : Nat}
    (hbefore : ∀ s ∈ spans.take place, s.span.stop ≤ offset)
    (hbehind : ∀ s ∈ spans.drop place, offset < s.span.stop) :
    spanAt? spans offset = spans[place]?.filter (·.span.contains offset) := by
  unfold spanAt?
  congr 1
  have hnone : (spans.take place).find? (fun s => offset < s.span.stop) = none := by
    apply List.find?_eq_none.mpr
    intro s hs
    have := hbefore s hs
    simp only [decide_eq_true_eq]
    omega
  rw [← List.head?_drop]
  conv => lhs; rw [← List.take_append_drop place spans, List.find?_append, hnone]
  cases hdrop : spans.drop place with
  | nil => rfl
  | cons s rest =>
    rw [hdrop] at hbehind
    have hs : offset < s.span.stop := hbehind s List.mem_cons_self
    rw [Option.none_or, List.find?_cons, decide_eq_true hs]
    rfl

end Lookup

/-! ## Seeking a span -/

namespace Lexer

/-- The spans of a lexer are in order, whether blank space is kept or not. -/
theorem inSourceOrder_run (lexer : Lexer) :
    InSourceOrder (lexer.run.1.map ClassifiedSpan.span) := by
  apply lexer.scanner.inSourceOrder_placed.sublist
  rw [spans_run]
  have hspans : lexer.scanner.placed.map PlacedToken.span =
      (lexer.scanner.placed.map (·.classified lexer.lexicon)).map ClassifiedSpan.span := by
    rw [List.map_map]
    exact List.map_congr_left fun placed _ => (placed.classified_span lexer.lexicon).symm
  rw [hspans]
  exact List.filter_sublist.map _

theorem seek_of_next_eq_none {lexer last : Lexer} (h : lexer.next = (none, last))
    (offset : Nat) : lexer.seek offset = none := by
  rw [seek]
  split
  · rfl
  · rename_i heq
    rw [h] at heq
    cases heq

theorem seek_of_next_eq_some {lexer after : Lexer} {classified : ClassifiedSpan}
    (h : lexer.next = (some classified, after)) (offset : Nat) :
    lexer.seek offset =
      if offset < classified.span.start then none
      else if classified.span.contains offset then some classified
      else after.seek offset := by
  rw [seek]
  split
  · rename_i heq
    rw [h] at heq
    cases heq
  · rename_i heq
    rw [h] at heq
    obtain ⟨hclassified, rfl⟩ := Prod.mk.inj heq
    cases hclassified
    rfl

/-- Seeking goes through the spans that start at the offset or before it, and
takes the first that holds it. -/
theorem seek_eq_find? (lexer : Lexer) (offset : Nat) :
    lexer.seek offset =
      (lexer.run.1.takeWhile (·.span.start ≤ offset)).find? (·.span.contains offset) := by
  induction lexer using run.induct with
  | case1 lexer last hnext =>
    rw [seek_of_next_eq_none hnext, run_of_next_eq_none hnext]
    rfl
  | case2 lexer classified after hnext _ _ _ ih =>
    rw [seek_of_next_eq_some hnext, run_of_next_eq_some hnext, List.takeWhile_cons, ih]
    by_cases hstart : offset < classified.span.start
    · have hstops : decide (classified.span.start ≤ offset) = false := by simpa using hstart
      rw [if_pos hstart, hstops]
      rfl
    · have hgoes : decide (classified.span.start ≤ offset) = true := by simpa using hstart
      rw [if_neg hstart, if_pos hgoes, List.find?_cons]
      cases classified.span.contains offset <;> rfl

/-- Seeking finds the span that holds an offset. -/
theorem seek_eq_some_iff {lexer : Lexer} {offset : Nat} {found : ClassifiedSpan} :
    lexer.seek offset = some found ↔
      found ∈ lexer.run.1 ∧ found.span.contains offset := by
  rw [seek_eq_find?]
  exact find?_takeWhile_eq_some_iff lexer.inSourceOrder_run

end Lexer

/-! ## Both ways agree -/

/-- For every text, offset and options, seeking a span gives the answer that
looking it up among all spans gives: the one span that holds the offset.  There
is none only past the end of the text and in blank space that is left out.  The
spans that stop at the offset or before it come first, so a binary search for
the end of these finds the same. -/
theorem spanAt?_eq_classify (edition : Edition) (source : String) (offset : Nat)
    (options : ScanOptions) :
    let spans := (edition.classify source options).spans
    let withBlanks := edition.classify source { options with keepWhitespace := true }
    edition.spanAt? source offset options =
      (edition.classify source options).spanAt? offset ∧
    (∀ found, edition.spanAt? source offset options = some found ↔
      found ∈ spans ∧ found.span.contains offset) ∧
    (edition.spanAt? source offset options = none ↔
      source.utf8ByteSize ≤ offset ∨
        options.keepWhitespace = false ∧ ∃ gap ∈ withBlanks.spans,
          gap.kind = .whitespace ∧ gap.span.contains offset) ∧
    ∃ place ≤ spans.length,
      (∀ s ∈ spans.take place, s.span.stop ≤ offset) ∧
      (∀ s ∈ spans.drop place, offset < s.span.stop) ∧
      edition.spanAt? source offset options =
        spans[place]?.filter (·.span.contains offset) := by
  intro spans withBlanks
  have horder : InSourceOrder (spans.map ClassifiedSpan.span) :=
    (Lexer.ofText edition.lexicon source options).inSourceOrder_run
  have hseek : ∀ found, edition.spanAt? source offset options = some found ↔
      found ∈ spans ∧ found.span.contains offset := fun _ => Lexer.seek_eq_some_iff
  have hagree : edition.spanAt? source offset options = spanAt? spans offset := by
    apply Option.ext
    intro found
    rw [hseek, spanAt?_eq_some_iff horder]
  refine ⟨hagree, hseek, ?_, ?_⟩
  · have hfilter : spans = withBlanks.spans.filter _ :=
      spans_lex_eq_filter edition.lexicon source options
    have habut : Abut 0 (withBlanks.spans.map ClassifiedSpan.span) source.utf8ByteSize :=
      abut_lex edition.lexicon source options.foldDirectives options.warningLimit
    rw [Option.eq_none_iff_forall_ne_some]
    constructor
    · intro hnone
      rw [or_iff_not_imp_left]
      intro hstop
      obtain ⟨_, hmem, hcontains⟩ := habut.exists_contains (Nat.zero_le offset) (by omega)
      obtain ⟨gap, hgap, rfl⟩ := List.mem_map.mp hmem
      have hout : gap ∉ spans := fun hin => hnone gap ((hseek gap).mpr ⟨hin, hcontains⟩)
      rw [hfilter, List.mem_filter, and_iff_right hgap] at hout
      simp at hout
      exact ⟨hout.1, gap, hgap, hout.2, hcontains⟩
    · intro hgiven found hfound
      obtain ⟨hmem, hcontains⟩ := (hseek found).mp hfound
      rw [hfilter, List.mem_filter] at hmem
      rcases hgiven with hstop | ⟨hdrops, gap, hgap, hkind, hin⟩
      · have hbounds := habut.bounds.2 _ (List.mem_map_of_mem hmem.1)
        have := (Span.contains_iff.mp hcontains).2
        omega
      · obtain rfl := habut.inSourceOrder.eq_of_contains hgap hmem.1 hin hcontains
        simp [hdrops, hkind] at hmem
  · obtain ⟨place, hplace, hbefore, hbehind⟩ := exists_partition horder offset
    refine ⟨place, hplace, hbefore, hbehind, ?_⟩
    rw [hagree, spanAt?_eq_of_partition hbefore hbehind]

end CLexicon
