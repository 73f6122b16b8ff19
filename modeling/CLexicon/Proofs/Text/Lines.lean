import CLexicon.Proofs.Search
import CLexicon.Proofs.Text.Boundary
import CLexicon.Text.Line
import Mathlib.Data.List.DropRight
import Mathlib.Data.List.Induction

/-!
# Lines and columns of a text

A line table holds byte offsets, while lines and columns are about characters.  This
module says what a table finds in terms of the characters of the text.

* `count_lineFeed_bytes`: a line feed is one byte, and no other character has it.
* `lineOf_ofText` and `searchedLine_ofText`: the line of an offset, which a binary search
  finds as well.
* `WholeLines`: characters behind which a line starts.  `getElem?_starts` finds that
  start in the table.
* `position_ofText`: the line and column at the end of some characters.
  `Position.Before` is the order in which positions are read, and it is the order of the
  places that have them, `position_before_iff`.
* `exists_split_of_splitOn` and `lineText?_ofText`: a line of its own.
* `positions_exact`: all of it, for every text.
-/

namespace CLexicon.Text

/-! ## Line feeds -/

/-- The byte of a line feed stands for that character only. -/
theorem lineFeed_mem_utf8EncodeChar_iff {c : Char} :
    0x0A ∈ String.utf8EncodeChar c ↔ c = '\n' := by
  constructor
  · intro hmem
    rcases utf8EncodeChar_cases c with ⟨b, hc, -⟩ | ⟨b, rest, hc, -, hhigh⟩
    · rw [hc] at hmem
      obtain rfl := List.mem_singleton.mp hmem
      have hsame : String.singleton c = String.singleton '\n' := by
        apply bytes_injective
        rw [bytes_singleton, bytes_singleton, hc]
        rfl
      simpa using congrArg String.toList hsame
    · rw [hc] at hmem
      exact absurd (hhigh _ hmem) (by decide)
  · rintro rfl
    decide

theorem count_lineFeed_bytes (text : String) :
    (bytes text).count 0x0A = text.toList.count '\n' := by
  unfold bytes
  induction text.toList with
  | nil => rfl
  | cons c rest ih =>
    rw [List.flatMap_cons, List.count_append, ih, List.count_cons, Nat.add_comm]
    by_cases hc : c = '\n'
    · subst hc
      rfl
    · rw [List.count_eq_zero.mpr (mt lineFeed_mem_utf8EncodeChar_iff.mp hc)]
      simp [hc]

/-! ## Starts of lines -/

theorem lineStartsAfter_append (offset : Nat) (first second : List UInt8) :
    lineStartsAfter offset (first ++ second) =
      lineStartsAfter offset first ++ lineStartsAfter (offset + first.length) second := by
  induction first generalizing offset with
  | nil => rfl
  | cons b first ih =>
    rw [List.cons_append, lineStartsAfter, lineStartsAfter, ih, List.length_cons,
      Nat.add_right_comm offset 1, Nat.add_assoc offset]
    split <;> rfl

/-- There is one start behind each line feed. -/
theorem length_lineStartsAfter (offset : Nat) (input : List UInt8) :
    (lineStartsAfter offset input).length = input.count 0x0A := by
  induction input generalizing offset with
  | nil => rfl
  | cons b input ih =>
    rw [lineStartsAfter, List.count_cons]
    split <;> simp_all

theorem lt_of_mem_lineStartsAfter {offset start : Nat} {input : List UInt8}
    (h : start ∈ lineStartsAfter offset input) : offset < start := by
  induction input generalizing offset with
  | nil => exact absurd h List.not_mem_nil
  | cons b input ih =>
    rw [lineStartsAfter] at h
    split at h
    · rcases List.mem_cons.mp h with rfl | hrest
      · exact Nat.lt_succ_self offset
      · exact Nat.lt_of_succ_lt (ih hrest)
    · exact Nat.lt_of_succ_lt (ih h)

theorem pairwise_lineStartsAfter (offset : Nat) (input : List UInt8) :
    (lineStartsAfter offset input).Pairwise (· < ·) := by
  induction input generalizing offset with
  | nil => exact List.Pairwise.nil
  | cons b input ih =>
    rw [lineStartsAfter]
    split
    · exact List.pairwise_cons.mpr ⟨fun _ => lt_of_mem_lineStartsAfter, ih (offset + 1)⟩
    · exact ih (offset + 1)

/-- The starts up to a place are those behind the line feeds before it. -/
theorem countP_lineStartsAfter (offset place : Nat) (input : List UInt8) :
    (lineStartsAfter offset input).countP (· ≤ place) =
      (input.take (place - offset)).count 0x0A := by
  induction input generalizing offset with
  | nil => simp [lineStartsAfter]
  | cons b input ih =>
    rw [lineStartsAfter]
    rcases Nat.lt_or_ge offset place with hlt | hge
    · -- the first byte is before the place, and so is a line that starts behind it
      have hsucc : place - offset = place - (offset + 1) + 1 := by omega
      rw [hsucc, List.take_succ_cons, List.count_cons, ← ih]
      split
      · rename_i hb
        rw [List.countP_cons, decide_eq_true (show offset + 1 ≤ place from hlt)]
        simp [hb]
      · rename_i hb
        simp [hb]
    · have hzero : place - offset = 0 := by omega
      have hrest := ih (offset + 1)
      rw [show place - (offset + 1) = 0 by omega, List.take_zero] at hrest
      rw [hzero, List.take_zero]
      split
      · rw [List.countP_cons, hrest, decide_eq_false (by omega : ¬offset + 1 ≤ place)]
        rfl
      · exact hrest

namespace LineTable

variable (text : String)

/-- The line of an offset counts the line feeds before it. -/
theorem lineOf_ofText (place : Nat) :
    (ofText text).lineOf place = 1 + ((bytes text).take place).count 0x0A := by
  have hcount := countP_lineStartsAfter 0 place (bytes text)
  rw [Nat.sub_zero] at hcount
  rw [lineOf, ofText, List.countP_cons, hcount, decide_eq_true (Nat.zero_le place), if_pos rfl,
    Nat.add_comm]
  exact Nat.max_eq_right (Nat.le_add_right 1 _)

/-- The line of an offset, by a binary search among the starts. -/
def searchedLine (table : LineTable) (place : Nat) : Nat :=
  match Ascending.search id place table.starts with
  | .ok exact => exact + 1
  | .error behind => behind - 1 + 1

/-- A search for the line of an offset finds it. -/
theorem searchedLine_ofText (place : Nat) :
    (ofText text).searchedLine place = (ofText text).lineOf place := by
  have hascending : (ofText text).starts.Pairwise (id · < id ·) :=
    List.pairwise_cons.mpr ⟨fun _ => lt_of_mem_lineStartsAfter, pairwise_lineStartsAfter 0 _⟩
  have hcount : (ofText text).starts.countP (· ≤ place) =
      Ascending.rank id (place + 1) (ofText text).starts :=
    List.countP_congr fun start _ => by simp only [decide_eq_true_eq, id_eq, Nat.lt_succ_iff]
  rw [searchedLine, lineOf, hcount, Ascending.rank_succ hascending]
  cases Ascending.search id place (ofText text).starts with
  | ok exact => exact (Nat.max_eq_right (Nat.le_add_left 1 exact)).symm
  | error behind =>
    show behind - 1 + 1 = max 1 behind
    omega

end LineTable

/-- Some characters that are a number of whole lines: none, or the last is a line feed. -/
def WholeLines (front : List Char) : Prop :=
  ∀ c ∈ front.getLast?, c = '\n'

/-- Whole lines stay some behind any line feed. -/
theorem WholeLines.append {front : List Char} (h : WholeLines front) (first : List Char) :
    WholeLines (first ++ '\n' :: front) := by
  intro c hc
  rw [List.getLast?_append, List.getLast?_cons, Option.some_or] at hc
  rcases hlast : front.getLast? with _ | last
  · rw [hlast] at hc
    exact (Option.some.inj hc).symm
  · rw [hlast] at hc
    obtain rfl : last = c := Option.some.inj hc
    exact h last hlast

namespace LineTable

/-- Behind some whole lines the next one starts. -/
theorem getElem?_starts {front : String} (h : WholeLines front.toList) (behind : String) :
    (ofText (front ++ behind)).starts[front.toList.count '\n']? = some front.utf8ByteSize := by
  rw [← count_lineFeed_bytes, ← length_bytes, ofText, bytes_append]
  dsimp only
  rcases List.eq_nil_or_concat' front.toList with hnil | ⟨chars, c, hchars⟩
  · simp [bytes, hnil]
  · obtain rfl : c = '\n' := h c (by simp [hchars])
    have hbytes : bytes front = chars.flatMap String.utf8EncodeChar ++ [0x0A] := by
      rw [bytes, hchars, List.flatMap_append]
      rfl
    rw [hbytes, List.append_assoc, lineStartsAfter_append, List.count_append]
    show (0 :: (_ ++ (0 + (chars.flatMap String.utf8EncodeChar).length + 1) :: _))[_ + 1]? = _
    rw [List.getElem?_cons_succ, ← length_lineStartsAfter 0,
      List.getElem?_append_right (Nat.le_refl _), Nat.sub_self, Nat.zero_add]
    simp

/-- There are no lines behind the last one. -/
theorem getElem?_starts_eq_none {text : String} {line : Nat} (h : text.toList.count '\n' < line) :
    (ofText text).starts[line]? = none := by
  rw [List.getElem?_eq_none_iff, ofText, List.length_cons, length_lineStartsAfter,
    count_lineFeed_bytes]
  exact h

/-! ## Positions -/

/-- The position behind some whole lines and a part of the next one. -/
theorem position_of_split {front part : String} (hfront : WholeLines front.toList)
    (hpart : '\n' ∉ part.toList) (behind : String) :
    (ofText (front ++ part ++ behind)).position (front ++ part ++ behind)
        (front ++ part).utf8ByteSize =
      ⟨1 + front.toList.count '\n', 1 + part.length⟩ := by
  have htake : (bytes (front ++ part ++ behind)).take (front ++ part).utf8ByteSize =
      bytes (front ++ part) := by
    rw [bytes_append (front ++ part), ← length_bytes, List.take_left]
  have hcount : (bytes (front ++ part)).count 0x0A = front.toList.count '\n' := by
    rw [count_lineFeed_bytes, String.toList_append, List.count_append,
      List.count_eq_zero.mpr hpart, Nat.add_zero]
  have hstart := getElem?_starts hfront (part ++ behind)
  rw [← String.append_assoc] at hstart
  have hstop : min (front ++ part).utf8ByteSize (front ++ part ++ behind).utf8ByteSize =
      front.utf8ByteSize + part.utf8ByteSize := by
    rw [String.utf8ByteSize_append (s := front ++ part), Nat.min_eq_left (Nat.le_add_right _ _),
      String.utf8ByteSize_append]
  unfold position
  rw [lineOf_ofText, htake, hcount]
  dsimp only
  rw [Nat.add_sub_cancel_left, hstart, Option.getD_some, hstop, slice?_append, Option.getD_some,
    Nat.add_comm part.length]

end LineTable

/-- The whole lines of some characters are what stands before the last line feed, and
the line feed itself. -/
theorem wholeLines_rdropWhile (chars : List Char) :
    WholeLines (chars.rdropWhile (· ≠ '\n')) := by
  intro c hc
  obtain ⟨hnonempty, rfl⟩ := List.mem_getLast?_eq_getLast hc
  simpa using List.rdropWhile_last_not _ chars hnonempty

/-- The position behind some characters: the line feeds among them count the lines, and
the characters behind the last line feed the columns. -/
def Position.behind (chars : List Char) : Position :=
  ⟨1 + chars.count '\n', 1 + (chars.rtakeWhile (· ≠ '\n')).length⟩

/-- A table finds the position behind the characters that lie before an offset. -/
theorem position_ofText (before rest : String) :
    (LineTable.ofText (before ++ rest)).position (before ++ rest) before.utf8ByteSize =
      Position.behind before.toList := by
  have hfront : WholeLines (String.ofList (before.toList.rdropWhile (· ≠ '\n'))).toList := by
    rw [String.toList_ofList]
    exact wholeLines_rdropWhile before.toList
  have hpart : '\n' ∉ (String.ofList (before.toList.rtakeWhile (· ≠ '\n'))).toList := by
    rw [String.toList_ofList]
    intro hmem
    simpa using List.mem_rtakeWhile_imp hmem
  have hsplit : before = String.ofList (before.toList.rdropWhile (· ≠ '\n')) ++
      String.ofList (before.toList.rtakeWhile (· ≠ '\n')) := by
    rw [← String.ofList_append, List.rdropWhile_append_rtakeWhile, String.ofList_toList]
  have hcount : before.toList.count '\n' = (before.toList.rdropWhile (· ≠ '\n')).count '\n' := by
    conv => lhs; rw [hsplit]
    rw [String.toList_append, List.count_append, List.count_eq_zero.mpr hpart, Nat.add_zero,
      String.toList_ofList]
  have hposition := LineTable.position_of_split hfront hpart rest
  rw [← hsplit, String.toList_ofList, String.length_ofList, ← hcount] at hposition
  exact hposition

namespace Position

/-- One position is read before another. -/
def Before (first second : Position) : Prop :=
  first.line < second.line ∨ first.line = second.line ∧ first.column < second.column

/-- Behind more characters comes a later position. -/
theorem before_behind_append (chars : List Char) {more : List Char} (h : more ≠ []) :
    (behind chars).Before (behind (chars ++ more)) := by
  unfold Before behind
  dsimp only
  rw [List.count_append]
  by_cases hmem : '\n' ∈ more
  · have hpos := List.count_pos_iff.mpr hmem
    exact Or.inl (by omega)
  · have hplain : ∀ c ∈ more.reverse, decide (c ≠ '\n') = true := by
      intro c hc
      refine decide_eq_true ?_
      rintro rfl
      exact hmem (List.mem_reverse.mp hc)
    have hcolumns : (chars ++ more).rtakeWhile (· ≠ '\n') =
        chars.rtakeWhile (· ≠ '\n') ++ more := by
      unfold List.rtakeWhile
      rw [List.reverse_append, List.takeWhile_append_of_pos hplain, List.reverse_append,
        List.reverse_reverse]
    have hlength := List.length_pos_iff.mpr h
    rw [hcolumns, List.length_append, List.count_eq_zero.mpr hmem]
    exact Or.inr ⟨rfl, by omega⟩

theorem Before.asymm {first second : Position} (h : first.Before second) :
    ¬second.Before first := by
  rcases h with hline | ⟨hline, hcolumn⟩ <;> rintro (hline' | ⟨hline', hcolumn'⟩) <;> omega

theorem not_before_self (position : Position) : ¬position.Before position :=
  fun h => h.asymm h

end Position

namespace LineTable

variable {text : String}

/-- Of two places between characters, the later one has the later position. -/
theorem position_before {first second : Nat}
    (hfirst : (String.Pos.Raw.mk first).IsValid text)
    (hsecond : (String.Pos.Raw.mk second).IsValid text) (hlt : first < second) :
    ((ofText text).position text first).Before ((ofText text).position text second) := by
  obtain ⟨before, rest, rfl, hplace⟩ := String.Pos.Raw.isValid_iff_exists_append.mp hfirst
  obtain ⟨before', rest', htext, hplace'⟩ := String.Pos.Raw.isValid_iff_exists_append.mp hsecond
  obtain rfl : first = before.utf8ByteSize := congrArg String.Pos.Raw.byteIdx hplace
  obtain rfl : second = before'.utf8ByteSize := congrArg String.Pos.Raw.byteIdx hplace'
  rw [position_ofText, htext, position_ofText]
  -- of two beginnings of one text, the shorter one starts the longer one
  have hchars := congrArg String.toList htext
  rw [String.toList_append, String.toList_append] at hchars
  rcases List.append_eq_append_iff.mp hchars with ⟨more, hmore, -⟩ | ⟨more, hmore, -⟩
  · rw [hmore]
    refine Position.before_behind_append _ ?_
    rintro rfl
    rw [List.append_nil] at hmore
    obtain rfl := String.toList_inj.mp hmore
    exact Nat.lt_irrefl _ hlt
  · obtain rfl : before = before' ++ String.ofList more := by
      rw [← String.toList_inj, hmore, String.toList_append, String.toList_ofList]
    rw [String.utf8ByteSize_append] at hlt
    omega

/-- Places between characters and their positions are in the same order. -/
theorem position_before_iff {first second : Nat}
    (hfirst : (String.Pos.Raw.mk first).IsValid text)
    (hsecond : (String.Pos.Raw.mk second).IsValid text) :
    first < second ↔
      ((ofText text).position text first).Before ((ofText text).position text second) := by
  refine ⟨position_before hfirst hsecond, fun hbefore => ?_⟩
  rcases Nat.lt_trichotomy first second with hlt | rfl | hgt
  · exact hlt
  · exact absurd hbefore (Position.not_before_self _)
  · exact absurd hbefore (position_before hsecond hfirst hgt).asymm

/-- Places between characters that have one position are the same. -/
theorem position_injective {first second : Nat}
    (hfirst : (String.Pos.Raw.mk first).IsValid text)
    (hsecond : (String.Pos.Raw.mk second).IsValid text)
    (hsame : (ofText text).position text first = (ofText text).position text second) :
    first = second := by
  have hsecondFirst := position_before_iff hsecond hfirst
  have hfirstSecond := position_before_iff hfirst hsecond
  rw [hsame] at hsecondFirst hfirstSecond
  have hirrefl := Position.not_before_self ((ofText text).position text second)
  exact Nat.le_antisymm (Nat.not_lt.mp (mt hsecondFirst.mp hirrefl))
    (Nat.not_lt.mp (mt hfirstSecond.mp hirrefl))

/-- An offset past the end is on the last line. -/
theorem lineOf_past {place : Nat} (h : text.utf8ByteSize ≤ place) :
    (ofText text).lineOf place = 1 + (bytes text).count 0x0A := by
  rw [lineOf_ofText, List.take_of_length_le (by rwa [length_bytes])]

/-- An offset past the end has the position of the end. -/
theorem position_past {place : Nat} (h : text.utf8ByteSize ≤ place) :
    (ofText text).position text place = (ofText text).position text text.utf8ByteSize := by
  unfold position
  rw [lineOf_past h, lineOf_past (Nat.le_refl _), Nat.min_eq_right h, Nat.min_self]

end LineTable

/-! ## The text of a line -/

theorem length_splitOn_lineFeed (chars : List Char) :
    (chars.splitOn '\n').length = 1 + chars.count '\n' := by
  induction chars with
  | nil => rfl
  | cons c rest ih =>
    rw [List.splitOn_cons_eq_if_modifyHead, List.count_cons]
    split
    · rw [List.length_cons, ih, Nat.add_assoc]
    · rw [List.length_modifyHead, ih, Nat.add_zero]

/-- A piece of a text stands behind whole lines and reaches to the next line feed, or to
the end. -/
theorem exists_split_of_splitOn {chars piece : List Char} {index : Nat}
    (h : (chars.splitOn '\n')[index]? = some piece) :
    ∃ front behind, chars = front ++ piece ++ behind ∧ WholeLines front ∧
      front.count '\n' = index ∧ '\n' ∉ piece ∧ ∀ c ∈ behind.head?, c = '\n' := by
  induction index generalizing chars with
  | zero =>
    by_cases hmem : '\n' ∈ chars
    · obtain ⟨first, rest, rfl, hfirst⟩ := List.eq_append_cons_of_mem hmem
      rw [List.splitOn_append_cons_self_of_not_mem hfirst] at h
      obtain rfl := Option.some.inj h
      exact ⟨[], '\n' :: rest, rfl, by simp [WholeLines], rfl, hfirst, by simp⟩
    · rw [List.splitOn_eq_singleton hmem] at h
      obtain rfl := Option.some.inj h
      exact ⟨[], [], (List.append_nil _).symm, by simp [WholeLines], rfl, hmem, by simp⟩
  | succ index ih =>
    by_cases hmem : '\n' ∈ chars
    · obtain ⟨first, rest, rfl, hfirst⟩ := List.eq_append_cons_of_mem hmem
      rw [List.splitOn_append_cons_self_of_not_mem hfirst, List.getElem?_cons_succ] at h
      obtain ⟨front, behind, rfl, hfront, hcount, hpiece, hbehind⟩ := ih h
      refine ⟨first ++ '\n' :: front, behind, by simp, ?_, ?_, hpiece, hbehind⟩
      · exact hfront.append first
      · rw [List.count_append, List.count_cons_self, hcount, List.count_eq_zero.mpr hfirst,
          Nat.zero_add]
    · rw [List.splitOn_eq_singleton hmem] at h
      cases h

/-- A text that holds no line feed ends in carriage returns only. -/
theorem rdropWhile_lineEnd {piece : List Char} (h : '\n' ∉ piece) :
    piece.rdropWhile (fun c => c = '\n' || c = '\r') = piece.rdropWhile (· = '\r') := by
  induction piece using List.reverseRecOn with
  | nil => rfl
  | append_singleton piece c ih =>
    obtain ⟨hpiece, hc⟩ : '\n' ∉ piece ∧ c ≠ '\n' := by
      simpa [eq_comm] using h
    rw [List.rdropWhile_concat, List.rdropWhile_concat, ih hpiece]
    simp [hc]

namespace LineTable

/-- The text of a line is what lies between its start and its stop, without its end. -/
theorem lineText?_of_stop {text front withEnd rest : String} {index : Nat}
    (hsplit : text = front ++ withEnd ++ rest)
    (hstart : (ofText text).starts[index]? = some front.utf8ByteSize)
    (hstop : (ofText text).starts[index + 1]?.getD text.utf8ByteSize =
      front.utf8ByteSize + withEnd.utf8ByteSize) :
    (ofText text).lineText? text (index + 1) = some (String.ofList
      (withEnd.toList.rdropWhile fun c => c = '\n' || c = '\r')) := by
  have hslice := slice?_append front withEnd rest
  rw [← hsplit, ← hstop] at hslice
  unfold lineText?
  rw [if_neg (Nat.succ_ne_zero index), Nat.add_sub_cancel, hstart]
  simp only [Option.bind_eq_bind, Option.bind_some, hslice]
  rfl

/-- The text of a line that stands behind whole lines. -/
theorem lineText?_of_split {front line behind : String} (hfront : WholeLines front.toList)
    (hline : '\n' ∉ line.toList) (hbehind : ∀ c ∈ behind.toList.head?, c = '\n') :
    (ofText (front ++ line ++ behind)).lineText? (front ++ line ++ behind)
        (front.toList.count '\n' + 1) =
      some (String.ofList (line.toList.rdropWhile (· = '\r'))) := by
  have hstart := getElem?_starts hfront (line ++ behind)
  rw [← String.append_assoc] at hstart
  rcases hchars : behind.toList with _ | ⟨c, rest⟩
  · -- the last line reaches to the end of the text
    obtain rfl : behind = "" := String.toList_eq_nil_iff.mp hchars
    rw [lineText?_of_stop rfl hstart, rdropWhile_lineEnd hline]
    rw [getElem?_starts_eq_none (by simp [List.count_eq_zero.mpr hline]), Option.getD_none,
      String.append_empty, String.utf8ByteSize_append]
  · -- any other line reaches to where the next one starts
    obtain rfl : c = '\n' := hbehind c (by simp [hchars])
    have hrest : behind = "\n" ++ String.ofList rest := by
      simp [← String.toList_inj, hchars]
    have hsplit : front ++ line ++ behind = front ++ (line ++ "\n") ++ String.ofList rest := by
      rw [hrest]
      simp only [String.append_assoc]
    have hnext : WholeLines (front ++ (line ++ "\n")).toList := by
      simp [WholeLines]
    have hcount : (front ++ (line ++ "\n")).toList.count '\n' =
        front.toList.count '\n' + 1 := by
      simp [List.count_eq_zero.mpr hline]
    have hstop := getElem?_starts hnext (String.ofList rest)
    rw [hcount, ← hsplit] at hstop
    rw [lineText?_of_stop hsplit hstart, String.toList_append,
      show "\n".toList = ['\n'] from rfl, List.rdropWhile_concat_pos _ _ _ (by decide),
      rdropWhile_lineEnd hline]
    rw [hstop, Option.getD_some, String.utf8ByteSize_append]

/-- The lines of a text are its pieces between line feeds, each without the carriage
returns that it ends in. -/
theorem lineText?_ofText (text : String) (line : Nat) :
    (ofText text).lineText? text line =
      if line = 0 then none
      else (text.toList.splitOn '\n')[line - 1]?.map fun piece =>
        String.ofList (piece.rdropWhile (· = '\r')) := by
  rcases line with _ | index
  · rfl
  rw [if_neg (Nat.succ_ne_zero index), Nat.add_sub_cancel]
  rcases hpiece : (text.toList.splitOn '\n')[index]? with _ | piece
  · rw [List.getElem?_eq_none_iff, length_splitOn_lineFeed] at hpiece
    have hstart : (ofText text).starts[index]? = none := getElem?_starts_eq_none (by omega)
    unfold lineText?
    rw [if_neg (Nat.succ_ne_zero index), Nat.add_sub_cancel, hstart]
    rfl
  · obtain ⟨front, behind, hchars, hfront, rfl, hline, hbehind⟩ := exists_split_of_splitOn hpiece
    rw [← String.toList_ofList (l := front)] at hfront
    rw [← String.toList_ofList (l := piece)] at hline
    rw [← String.toList_ofList (l := behind)] at hbehind
    have htext : text = String.ofList front ++ String.ofList piece ++ String.ofList behind := by
      rw [← String.toList_inj, hchars]
      simp only [String.toList_append, String.toList_ofList]
    have hlineText := lineText?_of_split hfront hline hbehind
    rw [← htext, String.toList_ofList, String.toList_ofList] at hlineText
    exact hlineText

end LineTable

/-- Lines and columns are exact.

* At a place between two characters, the line counts the line feeds before the place, and
  the column the characters behind the last of them.
* A later place has a later position, and so another one.
* A binary search finds the line of any offset.
* Past the end, the line is the last one and the column that of the end.
* The lines themselves are the pieces between the line feeds, without the carriage returns
  at their ends, and there are no others. -/
theorem positions_exact (text : String) :
    (∀ place, (String.Pos.Raw.mk place).IsValid text →
      ∃ before rest, text = before ++ rest ∧ before.utf8ByteSize = place ∧
        (LineTable.ofText text).position text place =
          ⟨1 + ((bytes text).take place).count 0x0A,
            1 + (before.toList.rtakeWhile (· ≠ '\n')).length⟩) ∧
    (∀ first second, (String.Pos.Raw.mk first).IsValid text →
      (String.Pos.Raw.mk second).IsValid text →
      (first < second ↔ ((LineTable.ofText text).position text first).Before
        ((LineTable.ofText text).position text second)) ∧
      ((LineTable.ofText text).position text first =
        (LineTable.ofText text).position text second → first = second)) ∧
    (∀ place, (LineTable.ofText text).searchedLine place =
      (LineTable.ofText text).lineOf place) ∧
    (∀ place, text.utf8ByteSize < place →
      (LineTable.ofText text).lineOf place = 1 + (bytes text).count 0x0A ∧
      (LineTable.ofText text).position text place =
        (LineTable.ofText text).position text text.utf8ByteSize) ∧
    (text.toList.splitOn '\n').length = 1 + (bytes text).count 0x0A ∧
    ∀ line, (LineTable.ofText text).lineText? text line =
      if line = 0 then none
      else (text.toList.splitOn '\n')[line - 1]?.map fun piece =>
        String.ofList (piece.rdropWhile (· = '\r')) := by
  refine ⟨fun place hplace => ?_, fun first second hfirst hsecond => ?_,
    LineTable.searchedLine_ofText text, fun place hplace => ?_, ?_, LineTable.lineText?_ofText text⟩
  · obtain ⟨before, rest, rfl, hend⟩ := String.Pos.Raw.isValid_iff_exists_append.mp hplace
    obtain rfl : place = before.utf8ByteSize := congrArg String.Pos.Raw.byteIdx hend
    refine ⟨before, rest, rfl, rfl, ?_⟩
    rw [position_ofText, bytes_append, ← length_bytes, List.take_left, count_lineFeed_bytes]
    rfl
  · exact ⟨LineTable.position_before_iff hfirst hsecond,
      LineTable.position_injective hfirst hsecond⟩
  · exact ⟨LineTable.lineOf_past (Nat.le_of_lt hplace),
      LineTable.position_past (Nat.le_of_lt hplace)⟩
  · rw [length_splitOn_lineFeed, count_lineFeed_bytes]

end CLexicon.Text
