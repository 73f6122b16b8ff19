import CLexicon.Catalogue.Anchor
import CLexicon.Proofs.Text.Blanks
import CLexicon.Proofs.Text.Boundary

/-!
# How anchors are written

An anchor is a start tag with a quoted id and an end tag.  Blanks may stand around
it, around the parts of its start tag, around the id, and between the two tags.

* `Written`: an anchor with all its blanks, and what it looks like.
* `opened?_eq_some_iff`, `quotedId?_eq_some_iff` and `closes?_eq_some_iff`: what is read in
  front of the id, what as the id, and what behind it.
* `cutTarget?`: the same reading, where the id is cut out of the text at byte offsets.
* `target?_eq_some_iff_written`: what has a target, and that no cut goes through a
  character.
-/

namespace CLexicon.Anchor

open Text

/-! ## Written anchors -/

/-- An anchor as it is written. -/
structure Written where
  before : List Char
  afterName : List Char
  beforeEquals : List Char
  afterEquals : List Char
  quote : Char
  beforeId : List Char
  id : List Char
  afterId : List Char
  afterQuote : List Char
  betweenTags : List Char
  behind : List Char
  allBlank : ∀ blanks ∈ [before, afterName, beforeEquals, afterEquals, beforeId, afterId,
    afterQuote, betweenTags, behind], AllBlank blanks
  afterName_ne_nil : afterName ≠ []
  quote_cases : quote = '"' ∨ quote = '\''
  id_ne_nil : id ≠ []
  id_noBlankEnds : NoBlankEnds id
  quote_notMem : quote ∉ beforeId ++ id ++ afterId

namespace Written

/-- The text of an anchor, without the blanks around it. -/
def core (w : Written) : List Char :=
  ['<', 'a'] ++ w.afterName ++ ['i', 'd'] ++ w.beforeEquals ++ ['='] ++ w.afterEquals ++
    [w.quote] ++ w.beforeId ++ w.id ++ w.afterId ++ [w.quote] ++
    w.afterQuote ++ ['>'] ++ w.betweenTags ++ ['<', '/', 'a', '>']

/-- The text of an anchor. -/
def text (w : Written) : List Char :=
  w.before ++ w.core ++ w.behind

theorem core_noBlankEnds (w : Written) : NoBlankEnds w.core := by
  constructor
  case head =>
    simp only [core, List.cons_append, List.head?_cons, Option.mem_some_iff, forall_eq']
    decide
  case last =>
    have hlast : w.core.getLast? = some '>' := by
      rw [core, List.getLast?_append_of_ne_nil _ (by simp)]
      rfl
    rw [hlast]
    simp only [Option.mem_some_iff, forall_eq']
    decide

end Written

/-! ## The three parts of a reading -/

/-- Reads what stands in front of the id. -/
def opened? (core : List Char) : Option (List Char) := do
  let rest ← after? ['<', 'a'] core
  if !rest.head?.any isBlank then none
  let rest ← after? ['i', 'd'] (trimStart rest)
  let rest ← after? ['='] (trimStart rest)
  some (trimStart rest)

/-- Reads what stands behind the id, up to the end of the text. -/
def closes? (rest : List Char) : Option Unit := do
  let rest ← after? ['>'] (trimStart rest)
  let rest ← after? ['<', '/', 'a', '>'] (trimStart rest)
  if trim rest = [] then some () else none

/-- An anchor is read in three parts. -/
theorem read?_eq (text : List Char) :
    read? text = (opened? (trim text)).bind fun inside =>
      (quotedId? inside).bind fun (target, behind) =>
        (closes? behind).map fun _ => target := by
  unfold read? opened? closes?
  simp only [bind, Option.bind_assoc, Option.map_bind]
  refine Option.bind_congr fun rest _ => ?_
  by_cases hblank : rest.head?.any isBlank
  · simp only [hblank, Bool.not_true, Bool.false_eq_true, if_false, Option.bind_assoc,
      Option.bind_some, Function.comp_def, Option.map_bind, Option.map_if]
  · simp [hblank]

/-- A start tag up to its id: the name, behind it a blank at least, and the name of the
attribute with its sign. -/
theorem opened?_eq_some_iff {core inside : List Char} :
    opened? core = some inside ↔
      trimStart inside = inside ∧ ∃ afterName beforeEquals afterEquals,
        AllBlank afterName ∧ AllBlank beforeEquals ∧ AllBlank afterEquals ∧ afterName ≠ [] ∧
        core = '<' :: 'a' :: (afterName ++ 'i' :: 'd' :: (beforeEquals ++ '=' ::
          (afterEquals ++ inside))) := by
  have hname : ∀ {rest behind : List Char}, after? ['i', 'd'] (trimStart rest) = some behind ↔
      ∃ blanks, AllBlank blanks ∧ rest = blanks ++ 'i' :: 'd' :: behind :=
    after?_trimStart_eq_some_iff (by decide)
  have hequals : ∀ {rest behind : List Char}, after? ['='] (trimStart rest) = some behind ↔
      ∃ blanks, AllBlank blanks ∧ rest = blanks ++ '=' :: behind :=
    after?_trimStart_eq_some_iff (by decide)
  simp only [opened?, bind, Option.bind_eq_some_iff, after?_eq_some_iff]
  constructor
  · rintro ⟨rest, rfl, hrest⟩
    by_cases hblank : rest.head?.any isBlank
    · simp only [hblank, Bool.not_true, Bool.false_eq_true, if_false, Option.bind_eq_some_iff,
        hname, hequals] at hrest
      obtain ⟨behindName, ⟨afterName, hafterName, rfl⟩, behindEquals,
        ⟨beforeEquals, hbeforeEquals, rfl⟩, hinside⟩ := hrest
      obtain rfl := Option.some.inj hinside
      obtain ⟨afterEquals, hafterEquals, hsplit⟩ := exists_blanks_append behindEquals
      refine ⟨List.dropWhile_idempotent isBlank behindEquals, afterName, beforeEquals,
        afterEquals, hafterName, hbeforeEquals, hafterEquals, ?_, ?_⟩
      · rintro rfl
        -- the name of the attribute would follow at once, and is not blank
        exact absurd (show isBlank 'i' = true from hblank) (by decide)
      · rw [← hsplit]
        rfl
    · simp [hblank] at hrest
  · rintro ⟨hinside, afterName, beforeEquals, afterEquals, hafterName, hbeforeEquals,
      hafterEquals, hnonempty, rfl⟩
    refine ⟨afterName ++ 'i' :: 'd' :: (beforeEquals ++ '=' :: (afterEquals ++ inside)), rfl, ?_⟩
    obtain ⟨c, more, rfl⟩ := List.exists_cons_of_ne_nil hnonempty
    have hblank : isBlank c = true := hafterName c List.mem_cons_self
    simp only [List.cons_append, List.head?_cons, Option.any_some, hblank, Bool.not_true,
      Bool.false_eq_true, if_false, Option.bind_eq_some_iff, hname, hequals]
    exact ⟨_, ⟨c :: more, hafterName, rfl⟩, _, ⟨beforeEquals, hbeforeEquals, rfl⟩,
      by rw [trimStart_append hafterEquals, hinside]⟩

/-- A quote does not stand in a text, or it is split at the first place where it does. -/
theorem split_at_quote (quote : Char) (rest : List Char) :
    quote ∉ rest ∧ rest.dropWhile (· ≠ quote) = [] ∨
      quote ∈ rest ∧ ∃ behind, rest.dropWhile (· ≠ quote) = quote :: behind ∧
        rest = rest.takeWhile (· ≠ quote) ++ quote :: behind := by
  have hsplit : rest.takeWhile (· ≠ quote) ++ rest.dropWhile (· ≠ quote) = rest :=
    List.takeWhile_append_dropWhile
  cases hdrop : rest.dropWhile (· ≠ quote) with
  | nil =>
    refine Or.inl ⟨fun hmem => ?_, rfl⟩
    simpa using List.dropWhile_eq_nil_iff.mp hdrop quote hmem
  | cons c behind =>
    have hnot := List.head?_dropWhile_not (fun c => decide (c ≠ quote)) rest
    rw [hdrop] at hnot
    obtain rfl : c = quote := by simpa using hnot
    rw [hdrop] at hsplit
    exact Or.inr ⟨by rw [← hsplit]; simp, behind, rfl, hsplit.symm⟩

/-- An id between two equal quotes, which do not occur inside. -/
theorem quotedId?_eq_some_iff {text target behind : List Char} :
    quotedId? text = some (target, behind) ↔
      ∃ quote beforeId afterId, (quote = '"' ∨ quote = '\'') ∧
        AllBlank beforeId ∧ AllBlank afterId ∧ target ≠ [] ∧ NoBlankEnds target ∧
        quote ∉ beforeId ++ target ++ afterId ∧
        text = quote :: (beforeId ++ target ++ afterId ++ quote :: behind) := by
  have hquote : ∀ c, isQuote c = true ↔ c = '"' ∨ c = '\'' := by simp [isQuote]
  cases text with
  | nil => simp [quotedId?]
  | cons quote rest =>
    rw [quotedId?]
    constructor
    · intro h
      rcases split_at_quote quote rest with ⟨-, hdrop⟩ | ⟨-, afterQuote, hdrop, hsplit⟩
      · rw [hdrop] at h
        cases h
      rw [hdrop] at h
      obtain ⟨hcond, hfound⟩ := Option.ite_none_right_eq_some.mp h
      rw [Bool.and_eq_true, hquote, decide_eq_true_eq] at hcond
      obtain ⟨rfl, rfl⟩ := Prod.mk.inj (Option.some.inj hfound)
      obtain ⟨hends, beforeId, afterId, hbeforeId, hafterId, hinside⟩ :=
        trim_eq_iff.mp (rfl : trim (rest.takeWhile (· ≠ quote)) = _)
      refine ⟨quote, beforeId, afterId, hcond.1, hbeforeId, hafterId, hcond.2, hends, ?_, ?_⟩
      · rw [← hinside]
        intro hmem
        simpa using List.mem_takeWhile_imp hmem
      · rw [← hinside, ← hsplit]
    · rintro ⟨_, beforeId, afterId, hcases, hbeforeId, hafterId, hnonempty, hends, hnotMem, htext⟩
      obtain ⟨rfl, rfl⟩ := List.cons.inj htext
      have hinside : ∀ c ∈ beforeId ++ target ++ afterId, decide (c ≠ quote) = true :=
        fun c hc => decide_eq_true fun hsame => hnotMem (hsame ▸ hc)
      have htrim : trim (beforeId ++ target ++ afterId) = target :=
        trim_eq_iff.mpr ⟨hends, beforeId, afterId, hbeforeId, hafterId, rfl⟩
      rw [List.dropWhile_append_of_pos hinside, List.takeWhile_append_of_pos hinside,
        List.dropWhile_cons_of_neg (by simp), List.takeWhile_cons_of_neg (by simp),
        List.append_nil, htrim]
      exact if_pos (by simp [hquote, hcases, hnonempty])

/-- An end of a start tag and the end tag, with nothing behind them. -/
theorem closes?_eq_some_iff {rest : List Char} :
    closes? rest = some () ↔ ∃ afterQuote betweenTags behind,
      AllBlank afterQuote ∧ AllBlank betweenTags ∧ AllBlank behind ∧
      rest = afterQuote ++ '>' :: (betweenTags ++ '<' :: '/' :: 'a' :: '>' :: behind) := by
  have hend : ∀ {rest behind : List Char}, after? ['>'] (trimStart rest) = some behind ↔
      ∃ blanks, AllBlank blanks ∧ rest = blanks ++ '>' :: behind :=
    after?_trimStart_eq_some_iff (by decide)
  have htag : ∀ {rest behind : List Char},
      after? ['<', '/', 'a', '>'] (trimStart rest) = some behind ↔
        ∃ blanks, AllBlank blanks ∧ rest = blanks ++ '<' :: '/' :: 'a' :: '>' :: behind :=
    after?_trimStart_eq_some_iff (by decide)
  simp only [closes?, bind, Option.bind_eq_some_iff, hend, htag, Option.ite_none_right_eq_some,
    trim_eq_nil_iff, and_true]
  constructor
  · rintro ⟨_, ⟨afterQuote, hafterQuote, rfl⟩, behind, ⟨betweenTags, hbetweenTags, rfl⟩, hbehind⟩
    exact ⟨afterQuote, betweenTags, behind, hafterQuote, hbetweenTags, hbehind, rfl⟩
  · rintro ⟨afterQuote, betweenTags, behind, hafterQuote, hbetweenTags, hbehind, rfl⟩
    exact ⟨_, ⟨afterQuote, hafterQuote, rfl⟩, behind, ⟨betweenTags, hbetweenTags, rfl⟩, hbehind⟩

/-! ## Targets -/

theorem Written.core_eq (w : Written) :
    w.core = '<' :: 'a' :: (w.afterName ++ 'i' :: 'd' :: (w.beforeEquals ++ '=' ::
      (w.afterEquals ++ w.quote :: (w.beforeId ++ w.id ++ w.afterId ++ w.quote ::
        (w.afterQuote ++ '>' :: (w.betweenTags ++ '<' :: '/' :: 'a' :: '>' :: [])))))) := by
  simp [core]

/-- A text is read as an anchor exactly if it is one. -/
theorem read?_eq_some_iff {text target : List Char} :
    read? text = some target ↔ ∃ w : Written, w.text = text ∧ w.id = target := by
  simp only [read?_eq, Option.bind_eq_some_iff, Option.map_eq_some_iff]
  constructor
  · rintro ⟨inside, hopened, ⟨_, behind⟩, hquoted, ⟨⟩, hclosed, rfl⟩
    obtain ⟨-, afterName, beforeEquals, afterEquals, hafterName, hbeforeEquals, hafterEquals,
      hnonempty, hcore⟩ := opened?_eq_some_iff.mp hopened
    obtain ⟨quote, beforeId, afterId, hcases, hbeforeId, hafterId, hid, hends, hnotMem, rfl⟩ :=
      quotedId?_eq_some_iff.mp hquoted
    obtain ⟨afterQuote, betweenTags, rest, hafterQuote, hbetweenTags, hrest, rfl⟩ :=
      closes?_eq_some_iff.mp hclosed
    obtain ⟨-, before, back, hbefore, hback, rfl⟩ := trim_eq_iff.mp hcore
    let w : Written :=
      { before, afterName, beforeEquals, afterEquals, quote, beforeId, afterId, afterQuote,
        betweenTags
        id := _
        behind := rest ++ back
        allBlank := by
          simp only [List.forall_mem_cons]
          exact ⟨hbefore, hafterName, hbeforeEquals, hafterEquals, hbeforeId, hafterId,
            hafterQuote, hbetweenTags, hrest.append hback, by simp⟩
        afterName_ne_nil := hnonempty
        quote_cases := hcases
        id_ne_nil := hid
        id_noBlankEnds := hends
        quote_notMem := hnotMem }
    exact ⟨w, by simp [w, Written.text, Written.core], rfl⟩
  · rintro ⟨w, rfl, rfl⟩
    have htrim : trim w.text = w.core := trim_eq_iff.mpr
      ⟨w.core_noBlankEnds, w.before, w.behind, w.allBlank _ (by simp), w.allBlank _ (by simp), rfl⟩
    have hquote : isBlank w.quote = false := by
      rcases w.quote_cases with h | h
      all_goals
        rw [h]
        decide
    rw [htrim, w.core_eq]
    refine ⟨_, opened?_eq_some_iff.mpr ⟨trimStart_of_head (by simpa using hquote), w.afterName,
        w.beforeEquals, w.afterEquals, w.allBlank _ (by simp), w.allBlank _ (by simp),
        w.allBlank _ (by simp), w.afterName_ne_nil, rfl⟩,
      (w.id, _), quotedId?_eq_some_iff.mpr ⟨w.quote, w.beforeId, w.afterId, w.quote_cases,
        w.allBlank _ (by simp), w.allBlank _ (by simp), w.id_ne_nil, w.id_noBlankEnds,
        w.quote_notMem, rfl⟩,
      (), closes?_eq_some_iff.mpr ⟨w.afterQuote, w.betweenTags, [], w.allBlank _ (by simp),
        w.allBlank _ (by simp), by simp [AllBlank], rfl⟩, rfl⟩

/-! ## Cuts at byte offsets -/

/-- The byte offset of the first place where a character stands. -/
def offsetOf? (c : Char) (text : String) : Option Nat :=
  if c ∈ text.toList then
    some (String.ofList (text.toList.takeWhile (· ≠ c))).utf8ByteSize
  else
    none

/-- Reads an id between two equal quotes, and cuts it out at byte offsets.  The outer
option is `none` if a cut would go through a character. -/
def cutQuotedId? (text : String) : Option (Option (String × String)) :=
  match text.toList.head?.filter isQuote with
  | none => some none
  | some quote => do
    let rest ← slice? text 1 text.utf8ByteSize
    match offsetOf? quote rest with
    | none => some none
    | some close =>
      let target := trimmed (← slice? rest 0 close)
      if target = "" then some none
      else
        let behind ← slice? rest (close + 1) rest.utf8ByteSize
        some (some (target, behind))

/-- The target of a description, with the id cut out at byte offsets.  The outer option
is `none` if a cut would go through a character. -/
def cutTarget? (description : String) : Option (Option String) :=
  match opened? (trim description.toList) with
  | none => some none
  | some inside =>
    (cutQuotedId? (String.ofList inside)).map fun found =>
      found.bind fun (target, behind) => (closes? behind.toList).map fun _ => target

theorem utf8ByteSize_of_isQuote {quote : Char} (h : isQuote quote = true) :
    (String.singleton quote).utf8ByteSize = 1 := by
  have hcases : quote = '"' ∨ quote = '\'' := by simpa [isQuote] using h
  rcases hcases with rfl | rfl <;> rfl

/-- What follows a quote may be cut off. -/
theorem slice?_behind_quote {quote : Char} (h : isQuote quote = true) (before behind : String) :
    slice? (before ++ String.singleton quote ++ behind) (before.utf8ByteSize + 1)
      (before ++ String.singleton quote ++ behind).utf8ByteSize = some behind := by
  have hslice := slice?_append (before ++ String.singleton quote) behind ""
  rw [String.append_empty, String.utf8ByteSize_append, utf8ByteSize_of_isQuote h] at hslice
  rw [String.utf8ByteSize_append, String.utf8ByteSize_append, utf8ByteSize_of_isQuote h]
  exact hslice

/-- What comes before a quote may be cut off. -/
theorem slice?_before_quote (before behind : String) :
    slice? (before ++ behind) 0 before.utf8ByteSize = some before := by
  simpa using slice?_append "" before behind

/-- All cuts around an id are between characters. -/
theorem cutQuotedId?_eq (text : List Char) :
    cutQuotedId? (String.ofList text) =
      some ((quotedId? text).map fun (target, behind) =>
        (String.ofList target, String.ofList behind)) := by
  cases text with
  | nil => simp [cutQuotedId?, quotedId?]
  | cons quote rest =>
    unfold cutQuotedId?
    rw [String.toList_ofList, List.head?_cons, Option.filter_some, quotedId?]
    by_cases hquote : isQuote quote
    · have hrest := slice?_behind_quote hquote "" (String.ofList rest)
      rw [String.empty_append, String.singleton_eq_ofList, ← String.ofList_append] at hrest
      change slice? (String.ofList (quote :: rest)) 1
        (String.ofList (quote :: rest)).utf8ByteSize = _ at hrest
      simp only [hquote, if_true, hrest, bind, Option.bind_some, Bool.true_and, offsetOf?,
        String.toList_ofList, decide_eq_true_eq]
      rcases split_at_quote quote rest with ⟨hmem, hdrop⟩ | ⟨hmem, behind, hdrop, hsplit⟩
      · rw [if_neg hmem, hdrop]
        rfl
      · rw [if_pos hmem, hdrop]
        have hinside := slice?_before_quote (String.ofList (rest.takeWhile (· ≠ quote)))
          (String.ofList (quote :: behind))
        have hbehind := slice?_behind_quote hquote (String.ofList (rest.takeWhile (· ≠ quote)))
          (String.ofList behind)
        rw [← String.ofList_append, ← hsplit] at hinside
        rw [String.singleton_eq_ofList, ← String.ofList_append, ← String.ofList_append,
          List.append_assoc, List.singleton_append, ← hsplit] at hbehind
        simp only [hinside, hbehind, Option.bind_some, trimmed, String.toList_ofList]
        by_cases hnil : trim (rest.takeWhile (· ≠ quote)) = []
        · rw [hnil, if_pos rfl, if_neg (not_not.mpr rfl)]
          rfl
        · have hempty : String.ofList (trim (rest.takeWhile (· ≠ quote))) ≠ "" :=
            fun heq => hnil (String.ofList_injective heq)
          rw [if_neg hempty, if_pos hnil]
          rfl
    · simp only [hquote, Bool.false_eq_true, if_false, Bool.false_and]
      split <;> rfl

/-- All cuts of a description are between characters, and find its target. -/
theorem cutTarget?_eq (description : String) :
    cutTarget? description = some (target? description) := by
  unfold cutTarget? target?
  rw [read?_eq]
  cases hopened : opened? (trim description.toList) with
  | none => rfl
  | some inside =>
    dsimp only
    rw [cutQuotedId?_eq, Option.map_some, Option.bind_some]
    cases hquoted : quotedId? inside with
    | none => rfl
    | some found =>
      simp [Function.comp_def]

/-- A description has a target exactly if it is an anchor, and the target is the id that
is written there.  It is the only one, and all that is cut out of the description on the
way is cut between characters. -/
theorem target?_eq_some_iff_written (description : String) :
    (∀ target, target? description = some target ↔
      ∃ w : Written, w.text = description.toList ∧ w.id = target.toList) ∧
    (∀ first second : Written, first.text = description.toList →
      second.text = description.toList → first.id = second.id) ∧
    ((¬∃ w : Written, w.text = description.toList) → target? description = none) ∧
    cutTarget? description = some (target? description) := by
  have hread : ∀ target, target? description = some target ↔
      ∃ w : Written, w.text = description.toList ∧ w.id = target.toList := by
    intro target
    rw [← read?_eq_some_iff, target?, Option.map_eq_some_iff]
    constructor
    · rintro ⟨chars, hchars, rfl⟩
      rwa [String.toList_ofList]
    · exact fun h => ⟨_, h, String.ofList_toList⟩
  refine ⟨hread, fun first second hfirst hsecond => ?_, fun hnone => ?_, cutTarget?_eq description⟩
  · have htargets := (read?_eq_some_iff.mpr ⟨first, hfirst, rfl⟩).symm.trans
      (read?_eq_some_iff.mpr ⟨second, hsecond, rfl⟩)
    exact Option.some.inj htargets
  · refine Option.eq_none_iff_forall_ne_some.mpr fun target htarget => hnone ?_
    obtain ⟨w, hw, -⟩ := (hread target).mp htarget
    exact ⟨w, hw⟩

end CLexicon.Anchor
