import CLexicon.Catalogue.Normalize

/-!
# The stages of putting a catalogue in order

`normalize` goes from raw items to entries in stages.  This module gives each
stage a name and says what comes out of it, so that the theorems about whole
catalogues unfold neither `repair` nor `normalize`.

* `repair_candidate` and `repair_stub`: what is known of an item that becomes
  a candidate or a stub.  `index_repair`: no item changes its index.
* `candidatesOf`, `stubsOf`, `claimantsOf`, `keptOf`: the items that are
  accepted, the ids that they claim, and the entries before the redirects are
  merged.  `normalize_entries` and `normalize_report` put them together.
* `mem_candidatesOf` and `mem_stubsOf`: the accepted items, by their place in
  the raw catalogue.
-/

namespace CLexicon

open Text Repair

/-! ## One item -/

/-- The raw index of what an item became. -/
def Repaired.index : Repaired → Nat
  | candidate c => c.index
  | stub s => s.index
  | malformed index .. => index

/-- The candidate for an item that is accepted as an entry. -/
def candidateOf (options : NormalizeOptions) (index : Nat) (item : RawItem) :
    Candidate :=
  { index
    rawId := trimmed item.id
    spelling := (spellings options item).1
    category := item.category
    description := trimmed item.description
    sample := sample? item
    aliases := (spellings options item).2.map fun other => ⟨other, .operator⟩ }

/-- The stub for an item that is accepted as a redirect to a target. -/
def stubOf (options : NormalizeOptions) (index : Nat) (item : RawItem)
    (target : String) : Stub :=
  { index
    rawId := trimmed item.id
    spelling := (spellings options item).1
    category := item.category
    target }

section Item

variable {options : NormalizeOptions} {index : Nat} {item : RawItem}

theorem index_repair : (repair options index item).index = index := by
  unfold repair
  dsimp only
  split
  · rfl
  split
  · rfl
  split
  · rfl
  split
  · rfl
  split <;> rfl

/-- An item that becomes a candidate has an id, an accepted spelling and a
description, and is no redirect. -/
theorem repair_candidate {c : Candidate}
    (h : repair options index item = .candidate c) :
    trimmed item.id ≠ "" ∧ item.category.accepts (spellings options item).1 ∧
      target? options item = none ∧ trimmed item.description ≠ "" ∧
      c = candidateOf options index item := by
  unfold repair at h
  dsimp only at h
  split at h
  · cases h
  rename_i hid
  split at h
  · cases h
  split at h
  · cases h
  rename_i haccepts
  split at h
  · cases h
  rename_i htarget
  split at h
  · cases h
  rename_i hdescription
  refine ⟨hid, by simpa using haccepts, htarget, hdescription, ?_⟩
  exact (Repaired.candidate.inj h).symm

/-- An item that becomes a stub has an id and an accepted spelling, and its
description is an anchor. -/
theorem repair_stub {s : Stub} (h : repair options index item = .stub s) :
    trimmed item.id ≠ "" ∧ item.category.accepts (spellings options item).1 ∧
      ∃ target, target? options item = some target ∧
        s = stubOf options index item target := by
  unfold repair at h
  dsimp only at h
  split at h
  · cases h
  rename_i hid
  split at h
  · cases h
  split at h
  · cases h
  rename_i haccepts
  split at h
  · rename_i target htarget
    refine ⟨hid, by simpa using haccepts, target, htarget, ?_⟩
    exact (Repaired.stub.inj h).symm
  split at h <;> cases h

/-- Only operators have further spellings, and each is one an operator may
have. -/
theorem accepts_of_mem_others {other : String}
    (h : other ∈ (spellings options item).2) :
    item.category = .operator ∧ Category.operator.accepts other := by
  unfold spellings at h
  dsimp only at h
  split at h
  · rename_i first others hparts
    split at hparts
    · rename_i hsplit
      refine ⟨hsplit.2, ?_⟩
      unfold pairParts? at hparts
      split at hparts
      · cases hparts
      dsimp only at hparts
      split at hparts
      · rename_i hruns
        obtain ⟨-, rfl⟩ := Prod.mk.inj (Option.some.inj hparts)
        obtain ⟨part, hpart, rfl⟩ := List.mem_map.mp h
        have hrun := List.all_eq_true.mp hruns.2 part (List.mem_cons_of_mem _ hpart)
        simpa [Category.accepts] using hrun
      · cases hparts
    · cases hparts
  · cases h

end Item

/-! ## All items -/

variable (options : NormalizeOptions) (raw : List RawItem)

/-- The items that are accepted as entries, in raw order. -/
def candidatesOf : List Candidate :=
  (repairAll options raw).filterMap Repaired.candidate?

/-- The items that are accepted as redirects, in raw order. -/
def stubsOf : List Stub :=
  (repairAll options raw).filterMap Repaired.stub?

/-- A candidate with the id that it derives among all candidates. -/
def claimantOf (c : Candidate) : Claimant :=
  ⟨Claimant.derivedId options.idSeparator (candidatesOf options raw) c, c⟩

/-- The candidates with the ids that they derive. -/
def claimantsOf : List Claimant :=
  Claimant.ofCandidates options.idSeparator (candidatesOf options raw)

/-- The entries before the redirects are merged into them. -/
def keptOf : List Entry :=
  (Claimant.keepers (claimantsOf options raw)).map Claimant.toEntry

theorem normalize_entries :
    (normalize raw options).catalogue.entries =
      Redirect.mergeAll (keptOf options raw) (stubsOf options raw) :=
  rfl

theorem normalize_report :
    (normalize raw options).report =
      (repairAll options raw).filterMap Repaired.issue? ++
      Claimant.duplicates (claimantsOf options raw) ++
      Redirect.issues (keptOf options raw) (stubsOf options raw) ++
      (normalize raw options).catalogue.entries.filterMap
        (shadowIssue? (normalize raw options).catalogue.entries) :=
  rfl

variable {options raw}

theorem mem_repairAll {repaired : Repaired} :
    repaired ∈ repairAll options raw ↔
      ∃ item, raw[repaired.index]? = some item ∧
        repair options repaired.index item = repaired := by
  unfold repairAll
  rw [List.mem_map]
  constructor
  · intro hgiven
    obtain ⟨⟨item, index⟩, hmem, rfl⟩ := hgiven
    rw [List.mem_zipIdx_iff_getElem?] at hmem
    rw [index_repair]
    exact ⟨item, hmem, rfl⟩
  · intro hgiven
    obtain ⟨item, hitem, hrepair⟩ := hgiven
    exact ⟨(item, repaired.index), List.mem_zipIdx_iff_getElem?.mpr hitem, hrepair⟩

theorem mem_candidatesOf {c : Candidate} :
    c ∈ candidatesOf options raw ↔
      ∃ item, raw[c.index]? = some item ∧
        repair options c.index item = .candidate c := by
  unfold candidatesOf
  rw [List.mem_filterMap]
  constructor
  · intro hgiven
    obtain ⟨repaired, hmem, hc⟩ := hgiven
    cases repaired <;> cases hc
    exact mem_repairAll.mp hmem
  · intro h
    exact ⟨.candidate c, mem_repairAll.mpr h, rfl⟩

theorem mem_stubsOf {s : Stub} :
    s ∈ stubsOf options raw ↔
      ∃ item, raw[s.index]? = some item ∧
        repair options s.index item = .stub s := by
  unfold stubsOf
  rw [List.mem_filterMap]
  constructor
  · intro hgiven
    obtain ⟨repaired, hmem, hs⟩ := hgiven
    cases repaired <;> cases hs
    exact mem_repairAll.mp hmem
  · intro h
    exact ⟨.stub s, mem_repairAll.mpr h, rfl⟩

theorem mem_claimantsOf {claimant : Claimant} :
    claimant ∈ claimantsOf options raw ↔
      claimant.candidate ∈ candidatesOf options raw ∧
        claimant = claimantOf options raw claimant.candidate := by
  unfold claimantsOf Claimant.ofCandidates
  rw [List.mem_map]
  constructor
  · intro hgiven
    obtain ⟨c, hc, rfl⟩ := hgiven
    exact ⟨hc, rfl⟩
  · intro hgiven
    obtain ⟨hc, hclaimant⟩ := hgiven
    exact ⟨_, hc, hclaimant.symm⟩

end CLexicon
