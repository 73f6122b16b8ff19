import CLexicon.Text.Blank
import Mathlib.Data.List.DropRight

/-!
# Blanks at the ends of a text

What the operations on blanks find, in terms of how a text is put together.

* `AllBlank` and `NoBlankEnds`: texts of blanks, and texts without blanks at their
  ends.
* `trim_eq_iff`: trimming takes away blanks at both ends until there are none.
* `after?_trimStart_eq_some_iff`: a fixed beginning, read behind any blanks.
-/

namespace CLexicon.Text

/-- A text of blanks only. -/
def AllBlank (text : List Char) : Prop :=
  ∀ c ∈ text, isBlank c = true

/-- A text that neither starts nor ends with a blank. -/
structure NoBlankEnds (text : List Char) : Prop where
  head : ∀ c ∈ text.head?, isBlank c = false
  last : ∀ c ∈ text.getLast?, isBlank c = false

theorem AllBlank.append {first second : List Char} (hfirst : AllBlank first)
    (hsecond : AllBlank second) : AllBlank (first ++ second) :=
  List.forall_mem_append.mpr ⟨hfirst, hsecond⟩

theorem allBlank_takeWhile (text : List Char) : AllBlank (text.takeWhile isBlank) :=
  fun _ => List.mem_takeWhile_imp

theorem allBlank_rtakeWhile (text : List Char) : AllBlank (text.rtakeWhile isBlank) :=
  fun _ => List.mem_rtakeWhile_imp

/-- A text is the blanks it starts with, and the rest of it. -/
theorem exists_blanks_append (text : List Char) :
    ∃ blanks, AllBlank blanks ∧ text = blanks ++ trimStart text :=
  ⟨_, allBlank_takeWhile text, List.takeWhile_append_dropWhile.symm⟩

/-- Blanks at the start are left out. -/
theorem trimStart_append {blanks : List Char} (h : AllBlank blanks) (rest : List Char) :
    trimStart (blanks ++ rest) = trimStart rest :=
  List.dropWhile_append_of_pos h

/-- Blanks at the end are left out. -/
theorem trimEnd_append {blanks : List Char} (h : AllBlank blanks) (rest : List Char) :
    trimEnd (rest ++ blanks) = trimEnd rest := by
  unfold trimEnd
  rw [List.reverse_append, List.dropWhile_append_of_pos]
  exact fun c hc => h c (List.mem_reverse.mp hc)

/-- Dropping the blanks at the end leaves a start that is not blank. -/
theorem trimStart_trimEnd {text : List Char} (h : trimStart text = text) :
    trimStart (trimEnd text) = trimEnd text := by
  have hbegins : trimEnd text <+: text := List.rdropWhile_prefix isBlank text
  apply List.dropWhile_eq_self_iff.mpr
  intro hpos
  rw [hbegins.getElem hpos]
  exact List.dropWhile_eq_self_iff.mp h (Nat.lt_of_lt_of_le hpos hbegins.length_le)

theorem trimStart_trim (text : List Char) : trimStart (trim text) = trim text :=
  trimStart_trimEnd (List.dropWhile_idempotent isBlank text)

/-- A trimmed text stays as it is when it is trimmed again. -/
theorem trim_trim (text : List Char) : trim (trim text) = trim text := by
  show trimEnd (trimStart (trim text)) = trim text
  rw [trimStart_trim]
  exact List.rdropWhile_idempotent isBlank (trimStart text)

theorem trimmed_trimmed (text : String) : trimmed (trimmed text) = trimmed text := by
  unfold trimmed
  rw [String.toList_ofList, trim_trim]

/-- A start that is not blank stays. -/
theorem trimStart_of_head {text : List Char} (h : ∀ c ∈ text.head?, isBlank c = false) :
    trimStart text = text := by
  cases text with
  | nil => rfl
  | cons c rest => exact List.dropWhile_cons_of_neg (by simp [h c rfl])

/-- An end that is not blank stays. -/
theorem trimEnd_of_last {text : List Char} (h : ∀ c ∈ text.getLast?, isBlank c = false) :
    trimEnd text = text := by
  refine List.rdropWhile_eq_self_iff.mpr fun hnonempty => ?_
  simp [h _ (List.getLast?_eq_some_getLast hnonempty)]

theorem noBlankEnds_trim (text : List Char) : NoBlankEnds (trim text) := by
  constructor
  case head =>
    intro c hc
    have hnot := List.head?_dropWhile_not isBlank (trim text)
    rw [show (trim text).dropWhile isBlank = trim text from trimStart_trim text,
      Option.mem_def.mp hc] at hnot
    exact hnot
  case last =>
    intro c hc
    obtain ⟨hnonempty, rfl⟩ := List.mem_getLast?_eq_getLast hc
    exact eq_false_of_ne_true (List.rdropWhile_last_not isBlank (trimStart text) hnonempty)

/-- Trimming takes away blanks at both ends until there are none. -/
theorem trim_eq_iff {text core : List Char} :
    trim text = core ↔
      NoBlankEnds core ∧ ∃ before behind,
        AllBlank before ∧ AllBlank behind ∧ text = before ++ core ++ behind := by
  constructor
  · rintro rfl
    refine ⟨noBlankEnds_trim text, _, _, allBlank_takeWhile text,
      allBlank_rtakeWhile (trimStart text), ?_⟩
    rw [List.append_assoc]
    show text = text.takeWhile isBlank ++
      ((trimStart text).rdropWhile isBlank ++ (trimStart text).rtakeWhile isBlank)
    rw [List.rdropWhile_append_rtakeWhile]
    exact List.takeWhile_append_dropWhile.symm
  · rintro ⟨hends, before, behind, hbefore, hbehind, rfl⟩
    show trimEnd (trimStart (before ++ core ++ behind)) = core
    rw [List.append_assoc, trimStart_append hbefore]
    cases core with
    | nil =>
      -- all of the text is blank, so its start is all that there is
      have hnil : trimStart behind = [] := List.dropWhile_eq_nil_iff.mpr hbehind
      rw [List.nil_append, hnil]
      rfl
    | cons c rest =>
      rw [trimStart_of_head (by simpa using hends.head c rfl), trimEnd_append hbehind,
        trimEnd_of_last hends.last]

/-- Nothing is left of a text of blanks. -/
theorem trim_eq_nil_iff {text : List Char} : trim text = [] ↔ AllBlank text := by
  rw [trim_eq_iff]
  constructor
  · rintro ⟨-, before, behind, hbefore, hbehind, rfl⟩
    rw [List.append_nil]
    exact hbefore.append hbehind
  · intro h
    exact ⟨⟨by simp, by simp⟩, text, [], h, by simp [AllBlank], by simp⟩

/-- A fixed beginning that is not blank, read behind any blanks. -/
theorem after?_trimStart_eq_some_iff {c : Char} {start text rest : List Char}
    (h : isBlank c = false) :
    after? (c :: start) (trimStart text) = some rest ↔
      ∃ blanks, AllBlank blanks ∧ text = blanks ++ (c :: start ++ rest) := by
  rw [after?_eq_some_iff]
  constructor
  · intro htext
    rw [← htext]
    exact exists_blanks_append text
  · rintro ⟨blanks, hblanks, rfl⟩
    rw [trimStart_append hblanks, List.cons_append, trimStart_of_head (by simpa using h)]

end CLexicon.Text
