import CLexicon.Proofs.Catalogue.Merge

/-!
# Items that survive

An item of a raw catalogue is dropped if it is malformed, if an earlier item
has its id, or if it is a redirect that reaches no entry, and the report names
the index of each item that is dropped.  This module reads the report from the
items.  `Claimant.duplicate?_eq_some_iff` and `shadowIssue?_eq_some_iff` say what
is reported about an id and about a spelling, and the code of an issue tells the
stage that reports it (`filter_code_eq_nil`, `filter_code_eq_self`).
`exists_dropIssue?_of_mem_report` and `mem_report_of_dropIssue?` say which issues
name an index, and `survives_candidate_iff` and `survives_stub_iff` what it means
that none does.

`tokenSpellings` are all spellings that a token has, and `keptSpellings` those
that are left of them: a redirect keeps the first.  By
`exists_carries_iff_exists_survives`, the entries of a catalogue that was put
in order carry exactly the kept spellings of the items that survive.
-/

namespace CLexicon

open Text Repair

/-- The raw index of the item that an issue says was dropped. -/
def Issue.dropped? : Issue → Option Nat
  | danglingRedirect index .. => some index
  | redirectCycle index .. => some index
  | conflictingDuplicate index .. => some index
  | shadowedSpelling .. => none
  | malformedEntry index .. => some index

/-- No issue says that the item at an index was dropped. -/
def Survives (options : NormalizeOptions) (raw : List RawItem) (index : Nat) :
    Prop :=
  ∀ issue ∈ (normalize raw options).report, issue.dropped? ≠ some index

/-- The issue that drops what an item became, if one does. -/
def Repaired.dropIssue? (options : NormalizeOptions) (raw : List RawItem) :
    Repaired → Option Issue
  | candidate c =>
    Claimant.duplicate? (claimantsOf options raw) (claimantOf options raw c)
  | stub s =>
    Redirect.issue? s (s.resolve (keptOf options raw) (stubsOf options raw))
  | malformed index rawId spelling defect =>
    some (.malformedEntry index rawId spelling defect)

/-! ## What each stage reports -/

/-- A claimant is reported if another one is the first of its id, and the
report names both. -/
theorem Claimant.duplicate?_eq_some_iff {claimants : List Claimant}
    {claimant : Claimant} {issue : Issue} :
    duplicate? claimants claimant = some issue ↔
      ∃ kept, first? claimants claimant.id = some kept ∧ kept ≠ claimant ∧
        issue = .conflictingDuplicate claimant.candidate.index kept.candidate.index
          claimant.id claimant.candidate.spelling kept.candidate.spelling := by
  unfold duplicate?
  cases first? claimants claimant.id with
  | none => simp
  | some kept =>
    dsimp only [Option.bind_eq_bind, Option.bind_some]
    by_cases hkept : kept = claimant
    · simp [hkept]
    · simp [hkept, eq_comm (a := issue)]

/-- An entry is reported exactly if the first of its category and spelling has
another id, and the report names both ids. -/
theorem shadowIssue?_eq_some_iff {entries : List Entry} {entry : Entry} {issue : Issue} :
    shadowIssue? entries entry = some issue ↔
      ∃ winner, firstSpelled? entries entry.category entry.spelling = some winner ∧
        winner.id ≠ entry.id ∧
        issue = .shadowedSpelling entry.category entry.spelling winner.id entry.id := by
  unfold shadowIssue?
  cases firstSpelled? entries entry.category entry.spelling with
  | none => simp
  | some winner =>
    dsimp only [Option.bind_eq_bind, Option.bind_some]
    by_cases hid : winner.id = entry.id
    · simp [hid]
    · simp [hid, eq_comm (a := issue)]

theorem code_of_issue? {repaired : Repaired} {issue : Issue}
    (h : repaired.issue? = some issue) : issue.code = .malformedEntry := by
  cases repaired with
  | malformed index rawId spelling defect =>
    rw [← Option.some.inj h]
    rfl
  | _ => cases h

theorem code_of_duplicate? {claimants : List Claimant} {claimant : Claimant}
    {issue : Issue} (h : Claimant.duplicate? claimants claimant = some issue) :
    issue.code = .conflictingDuplicate := by
  obtain ⟨kept, -, -, rfl⟩ := Claimant.duplicate?_eq_some_iff.mp h
  rfl

theorem code_of_redirect_issue? {stub : Stub} {resolution : Resolution}
    {issue : Issue} (h : Redirect.issue? stub resolution = some issue) :
    issue.code = .danglingRedirect ∨ issue.code = .redirectCycle := by
  cases resolution with
  | entry id => cases h
  | dangling target => exact Or.inl (by rw [← Option.some.inj h]; rfl)
  | cycle chain => exact Or.inr (by rw [← Option.some.inj h]; rfl)

theorem code_of_shadowIssue? {entries : List Entry} {entry : Entry} {issue : Issue}
    (h : shadowIssue? entries entry = some issue) : issue.code = .shadowedSpelling := by
  obtain ⟨winner, -, -, rfl⟩ := shadowIssue?_eq_some_iff.mp h
  rfl

/-- A stage that reports other codes reports nothing with this one. -/
theorem filter_code_eq_nil {α : Type} {f : α → Option Issue} {code : Code}
    (h : ∀ x issue, f x = some issue → issue.code ≠ code) (xs : List α) :
    (xs.filterMap f).filter (·.code = code) = [] := by
  apply List.filter_eq_nil_iff.mpr
  intro issue hissue
  obtain ⟨x, -, hissue⟩ := List.mem_filterMap.mp hissue
  simpa using h x issue hissue

/-- A stage that reports one code reports all that it does with this one. -/
theorem filter_code_eq_self {α : Type} {f : α → Option Issue} {code : Code}
    (h : ∀ x issue, f x = some issue → issue.code = code) (xs : List α) :
    (xs.filterMap f).filter (·.code = code) = xs.filterMap f := by
  apply List.filter_eq_self.mpr
  intro issue hissue
  obtain ⟨x, -, hissue⟩ := List.mem_filterMap.mp hissue
  exact decide_eq_true (h x issue hissue)

/-! ## The items that issues name -/

theorem dropped?_of_duplicate? {claimants : List Claimant} {claimant : Claimant}
    {issue : Issue} (h : Claimant.duplicate? claimants claimant = some issue) :
    issue.dropped? = some claimant.candidate.index := by
  obtain ⟨kept, -, -, rfl⟩ := Claimant.duplicate?_eq_some_iff.mp h
  rfl

theorem dropped?_of_redirect_issue? {stub : Stub} {resolution : Resolution}
    {issue : Issue} (h : Redirect.issue? stub resolution = some issue) :
    issue.dropped? = some stub.index := by
  cases resolution with
  | entry id => cases h
  | dangling target => rw [← Option.some.inj h]; rfl
  | cycle chain => rw [← Option.some.inj h]; rfl

theorem dropped?_of_shadowIssue? {entries : List Entry} {entry : Entry}
    {issue : Issue} (h : shadowIssue? entries entry = some issue) :
    issue.dropped? = none := by
  obtain ⟨winner, -, -, rfl⟩ := shadowIssue?_eq_some_iff.mp h
  rfl

section Items

variable {options : NormalizeOptions} {raw : List RawItem} {index : Nat}
  {item : RawItem}

/-- An issue that names an index drops the item there. -/
theorem exists_dropIssue?_of_mem_report {issue : Issue}
    (hissue : issue ∈ (normalize raw options).report)
    (hdropped : issue.dropped? = some index) :
    ∃ item, raw[index]? = some item ∧
      (repair options index item).dropIssue? options raw = some issue := by
  rw [normalize_report] at hissue
  simp only [List.mem_append, List.mem_filterMap] at hissue
  rcases hissue with ((⟨repaired, hmem, hissue⟩ | hduplicate) | hredirect) |
    ⟨entry, -, hshadow⟩
  · obtain ⟨item, hitem, hrepair⟩ := mem_repairAll.mp hmem
    cases repaired with
    | candidate c => cases hissue
    | stub s => cases hissue
    | malformed place rawId spelling defect =>
      obtain rfl := Option.some.inj hissue
      obtain rfl : place = index := Option.some.inj hdropped
      refine ⟨item, hitem, ?_⟩
      rw [show repair options place item = _ from hrepair]
      rfl
  · obtain ⟨claimant, hclaimant, hissue⟩ := List.mem_filterMap.mp hduplicate
    obtain ⟨hcandidate, hclaim⟩ := mem_claimantsOf.mp hclaimant
    obtain ⟨item, hitem, hrepair⟩ := mem_candidatesOf.mp hcandidate
    rw [dropped?_of_duplicate? hissue] at hdropped
    obtain rfl := Option.some.inj hdropped
    refine ⟨item, hitem, ?_⟩
    rw [hrepair]
    show Claimant.duplicate? _ (claimantOf options raw claimant.candidate) = _
    rw [← hclaim, hissue]
  · obtain ⟨stub, hstub, hissue⟩ := List.mem_filterMap.mp hredirect
    obtain ⟨item, hitem, hrepair⟩ := mem_stubsOf.mp hstub
    rw [dropped?_of_redirect_issue? hissue] at hdropped
    obtain rfl := Option.some.inj hdropped
    refine ⟨item, hitem, ?_⟩
    rw [hrepair]
    exact hissue
  · -- a shadowed spelling names no index
    rw [dropped?_of_shadowIssue? hshadow] at hdropped
    cases hdropped

/-- What drops an item is reported, with the index of the item. -/
theorem mem_report_of_dropIssue? {issue : Issue} (hitem : raw[index]? = some item)
    (hdrop : (repair options index item).dropIssue? options raw = some issue) :
    issue ∈ (normalize raw options).report ∧ issue.dropped? = some index := by
  rw [normalize_report]
  simp only [List.mem_append, List.mem_filterMap]
  have hindex : (repair options index item).index = index := index_repair
  generalize hrepair : repair options index item = repaired at hdrop hindex
  cases repaired with
  | candidate c =>
    obtain rfl : c.index = index := hindex
    refine ⟨Or.inl (Or.inl (Or.inr ?_)), dropped?_of_duplicate? hdrop⟩
    refine List.mem_filterMap.mpr ⟨claimantOf options raw c, ?_, hdrop⟩
    exact mem_claimantsOf.mpr ⟨mem_candidatesOf.mpr ⟨item, hitem, hrepair⟩, rfl⟩
  | stub s =>
    obtain rfl : s.index = index := hindex
    refine ⟨Or.inl (Or.inr ?_), dropped?_of_redirect_issue? hdrop⟩
    exact List.mem_filterMap.mpr ⟨s, mem_stubsOf.mpr ⟨item, hitem, hrepair⟩, hdrop⟩
  | malformed place rawId spelling defect =>
    obtain rfl : place = index := hindex
    obtain rfl := Option.some.inj hdrop
    refine ⟨Or.inl (Or.inl (Or.inl ⟨.malformed place rawId spelling defect, ?_, rfl⟩)), rfl⟩
    exact mem_repairAll.mpr ⟨item, hitem, hrepair⟩

/-- An item survives exactly if nothing drops what it became. -/
theorem survives_iff (hitem : raw[index]? = some item) :
    Survives options raw index ↔
      (repair options index item).dropIssue? options raw = none := by
  constructor
  · intro hsurvives
    rw [Option.eq_none_iff_forall_ne_some]
    intro issue hissue
    obtain ⟨hmem, hdropped⟩ := mem_report_of_dropIssue? hitem hissue
    exact hsurvives issue hmem hdropped
  · intro hnone issue hmem hdropped
    obtain ⟨other, hother, hissue⟩ := exists_dropIssue?_of_mem_report hmem hdropped
    rw [hitem] at hother
    obtain rfl := Option.some.inj hother
    rw [hnone] at hissue
    cases hissue

theorem mem_keepers_iff {c : Candidate} (hc : c ∈ candidatesOf options raw) :
    claimantOf options raw c ∈ Claimant.keepers (claimantsOf options raw) ↔
      Claimant.duplicate? (claimantsOf options raw) (claimantOf options raw c) =
        none := by
  have hmem : claimantOf options raw c ∈ claimantsOf options raw :=
    mem_claimantsOf.mpr ⟨hc, rfl⟩
  have hfirst : (Claimant.first? (claimantsOf options raw)
      (claimantOf options raw c).id).isSome :=
    List.find?_isSome.mpr ⟨_, hmem, decide_eq_true rfl⟩
  obtain ⟨first, hfirst⟩ := Option.isSome_iff_exists.mp hfirst
  unfold Claimant.keepers Claimant.isFirst Claimant.duplicate?
  rw [List.mem_filter, and_iff_right hmem, decide_eq_true_iff, hfirst]
  dsimp only [Option.bind_eq_bind, Option.bind_some]
  split
  · rename_i hsame
    simp [hsame]
  · rename_i hother
    simp [hother]

/-- A candidate survives if it is the first to claim its id. -/
theorem survives_candidate_iff {c : Candidate} (hitem : raw[index]? = some item)
    (hrepair : repair options index item = .candidate c) :
    Survives options raw index ↔
      claimantOf options raw c ∈ Claimant.keepers (claimantsOf options raw) := by
  have hindex : (repair options index item).index = index := index_repair
  rw [hrepair] at hindex
  obtain rfl : c.index = index := hindex
  rw [survives_iff hitem, hrepair,
    mem_keepers_iff (mem_candidatesOf.mpr ⟨item, hitem, hrepair⟩)]
  rfl

/-- A stub survives if it reaches an entry. -/
theorem survives_stub_iff {s : Stub} (hitem : raw[index]? = some item)
    (hrepair : repair options index item = .stub s) :
    Survives options raw index ↔
      ∃ id, s.resolve (keptOf options raw) (stubsOf options raw) = .entry id := by
  rw [survives_iff hitem, hrepair]
  show Redirect.issue? s (s.resolve (keptOf options raw) (stubsOf options raw)) = none ↔ _
  cases s.resolve (keptOf options raw) (stubsOf options raw) with
  | entry id => exact iff_of_true rfl ⟨id, rfl⟩
  | dangling target =>
    refine iff_of_false ?_ ?_
    · intro h
      cases h
    · intro hgiven
      obtain ⟨_, h⟩ := hgiven
      cases h
  | cycle chain =>
    refine iff_of_false ?_ ?_
    · intro h
      cases h
    · intro hgiven
      obtain ⟨_, h⟩ := hgiven
      cases h

theorem not_survives_malformed {place : Nat} {rawId spelling : String}
    {defect : Defect} (hitem : raw[index]? = some item)
    (hrepair : repair options index item = .malformed place rawId spelling defect) :
    ¬Survives options raw index := by
  rw [survives_iff hitem, hrepair]
  intro h
  cases h

end Items

/-! ## Spellings of the items that survive -/

/-- All spellings that are read off the token of an item: the token without
blanks and backticks around it, or each of its parts if it is cut. -/
def tokenSpellings (options : NormalizeOptions) (item : RawItem) : List String :=
  if options.splitPairs ∧ item.category = .operator ∧
      (pairParts? (bareToken item)).isSome then
    (words (bareToken item)).map String.ofList
  else
    [String.ofList (bareToken item)]

/-- The spellings of an item that its entry, or the entry that it redirects
to, is given.  A redirect keeps the first only. -/
def keptSpellings (options : NormalizeOptions) (item : RawItem) : List String :=
  if (target? options item).isSome then [(spellings options item).1]
  else (spellings options item).1 :: (spellings options item).2

section Spellings

variable {options : NormalizeOptions} {raw : List RawItem} {category : Category}
  {spelling : String}

/-- The first part of a token and those that differ from it are all of its
parts. -/
theorem mem_words_iff_of_pairParts? {token first part : List Char}
    {others : List (List Char)} (h : pairParts? token = some (first, others)) :
    part ∈ words token ↔ part = first ∨ part ∈ others := by
  unfold pairParts? at h
  split at h
  · cases h
  rename_i head rest hwords
  dsimp only at h
  split at h
  · obtain ⟨rfl, rfl⟩ := Prod.mk.inj (Option.some.inj h)
    rw [hwords, List.mem_cons, List.mem_filter, decide_eq_true_eq]
    by_cases hfirst : part = head
    · exact iff_of_true (Or.inl hfirst) (Or.inl hfirst)
    · rw [or_iff_right hfirst, or_iff_right hfirst]
      exact (and_iff_left hfirst).symm
  · cases h

/-- Apart from repetitions of the first, the spellings of a token are the one
that an item is spelled by and its further ones. -/
theorem mem_tokenSpellings {item : RawItem} :
    spelling ∈ tokenSpellings options item ↔
      spelling = (spellings options item).1 ∨ spelling ∈ (spellings options item).2 := by
  unfold tokenSpellings spellings
  dsimp only
  by_cases hsplit : options.splitPairs = true ∧ item.category = .operator
  · rw [if_pos hsplit]
    cases hparts : pairParts? (bareToken item) with
    | none => simp
    | some parts =>
      obtain ⟨first, others⟩ := parts
      rw [if_pos ⟨hsplit.1, hsplit.2, rfl⟩]
      simp only [List.mem_map, mem_words_iff_of_pairParts? hparts, or_and_right,
        exists_or, exists_eq_left]
      rw [eq_comm]
  · rw [if_neg hsplit, if_neg fun h => hsplit ⟨h.1, h.2.1⟩]
    simp

theorem keptSpellings_of_candidate {index : Nat} {item : RawItem} {c : Candidate}
    (h : repair options index item = .candidate c) :
    keptSpellings options item =
      (spellings options item).1 :: (spellings options item).2 := by
  obtain ⟨-, -, htarget, -, -⟩ := repair_candidate h
  rw [keptSpellings, htarget]
  rfl

theorem keptSpellings_of_stub {index : Nat} {item : RawItem} {s : Stub}
    (h : repair options index item = .stub s) :
    keptSpellings options item = [(spellings options item).1] := by
  obtain ⟨-, -, target, htarget, -⟩ := repair_stub h
  rw [keptSpellings, htarget]
  rfl

/-- The entry of a candidate carries its spelling and its further ones. -/
theorem carries_candidateOf {index : Nat} {item : RawItem} {id : String} :
    (Claimant.toEntry ⟨id, candidateOf options index item⟩).Carries category spelling ↔
      item.category = category ∧
        spelling ∈ (spellings options item).1 :: (spellings options item).2 := by
  unfold Entry.Carries Claimant.toEntry candidateOf
  rw [Entry.isSpelled_iff]
  simp only [List.mem_cons, List.mem_map, Alias.mk.injEq]
  constructor
  · intro hgiven
    rcases hgiven with ⟨hcategory, rfl⟩ | ⟨other, hother, rfl, rfl⟩
    · exact ⟨hcategory, Or.inl rfl⟩
    · exact ⟨(accepts_of_mem_others hother).1, Or.inr hother⟩
  · intro hgiven
    obtain ⟨hcategory, rfl | hother⟩ := hgiven
    · exact Or.inl ⟨hcategory, rfl⟩
    · exact Or.inr ⟨spelling, hother, rfl, (accepts_of_mem_others hother).1.symm.trans hcategory⟩

/-- The entries of a catalogue that was put in order carry the kept spellings
of the items that survive, and no others. -/
theorem exists_carries_iff_exists_survives :
    (∃ entry ∈ (normalize raw options).catalogue.entries,
        entry.Carries category spelling) ↔
      ∃ index item, raw[index]? = some item ∧ Survives options raw index ∧
        item.category = category ∧ spelling ∈ keptSpellings options item := by
  rw [exists_carries_iff]
  constructor
  · intro hgiven
    rcases hgiven with ⟨kept, hkept, hcarries⟩ | ⟨stub, hstub, halias, hreach⟩
    · obtain ⟨claimant, hkeeper, rfl⟩ := mem_keptOf.mp hkept
      obtain ⟨hmem, -⟩ := List.mem_filter.mp hkeeper
      obtain ⟨hcandidate, hclaim⟩ := mem_claimantsOf.mp hmem
      obtain ⟨item, hitem, hrepair⟩ := mem_candidatesOf.mp hcandidate
      obtain ⟨-, -, -, -, hc⟩ := repair_candidate hrepair
      refine ⟨_, item, hitem, (survives_candidate_iff hitem hrepair).mpr ?_, ?_⟩
      · rwa [← hclaim]
      · rw [hclaim, claimantOf, hc] at hcarries
        rw [keptSpellings_of_candidate hrepair]
        exact carries_candidateOf.mp hcarries
    · obtain ⟨item, hitem, hrepair⟩ := mem_stubsOf.mp hstub
      obtain ⟨-, -, target, -, hs⟩ := repair_stub hrepair
      refine ⟨_, item, hitem, (survives_stub_iff hitem hrepair).mpr hreach, ?_⟩
      rw [hs] at halias
      obtain ⟨rfl, rfl⟩ := Alias.mk.inj halias
      rw [keptSpellings_of_stub hrepair]
      exact ⟨rfl, List.mem_singleton.mpr rfl⟩
  · intro hgiven
    obtain ⟨index, item, hitem, hsurvives, hcategory, hkept⟩ := hgiven
    cases hrepair : repair options index item with
    | candidate c =>
      obtain ⟨-, -, -, -, hc⟩ := repair_candidate hrepair
      have hkeeper := (survives_candidate_iff hitem hrepair).mp hsurvives
      rw [keptSpellings_of_candidate hrepair] at hkept
      refine Or.inl ⟨_, mem_keptOf.mpr ⟨_, hkeeper, rfl⟩, ?_⟩
      rw [claimantOf, hc]
      exact carries_candidateOf.mpr ⟨hcategory, hkept⟩
    | stub s =>
      obtain ⟨-, -, target, -, hs⟩ := repair_stub hrepair
      have hindex : s.index = index := by rw [hs]; rfl
      rw [keptSpellings_of_stub hrepair] at hkept
      refine Or.inr ⟨s, ?_, ?_, (survives_stub_iff hitem hrepair).mp hsurvives⟩
      · exact mem_stubsOf.mpr ⟨item, hindex ▸ hitem, hindex.symm ▸ hrepair⟩
      · rw [hs, List.mem_singleton.mp hkept, ← hcategory]
        rfl
    | malformed place rawId bad defect =>
      exact absurd hsurvives (not_survives_malformed hitem hrepair)

end Spellings

end CLexicon
