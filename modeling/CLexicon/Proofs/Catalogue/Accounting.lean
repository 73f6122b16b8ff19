import CLexicon.Proofs.Catalogue.WellFormed
import CLexicon.Proofs.Catalogue.Survival
import Mathlib.Data.List.Forall2
import Mathlib.Data.List.Count

/-!
# Every item is accounted for

Each raw item comes to one end: it becomes an entry, its spellings go to
another entry, or it is dropped with one issue that names its index.  The
report lists the issues by their kind, so the order of the items is lost in it.

* `perm_report`: up to their order, the issues are those that drop the items
  one by one, and those about shadowed spellings.
* `perm_dropped`: so the indices in the report are those of the items that
  something drops, each once.
* `entryItems` and `entries_eq_map_entryItems`: the items that become entries,
  and the entries in their order.
* `keptIndex_of_mem_report`: an item that repeats an id comes behind one that
  becomes an entry.
* `items_accounted`: all of this, for every catalogue.
-/

namespace CLexicon

open Repair

/-! ## Issues in the order of the items -/

/-- The issues of a partial answer for each kind of item, kind by kind, are
those of all items up to their order. -/
private theorem perm_streams (onCandidate : Candidate → Option Issue)
    (onStub : Stub → Option Issue) (all : List Repaired) :
    (all.filterMap Repaired.issue? ++
        (all.filterMap Repaired.candidate?).filterMap onCandidate ++
        (all.filterMap Repaired.stub?).filterMap onStub).Perm
      (all.filterMap fun
        | .candidate c => onCandidate c
        | .stub s => onStub s
        | .malformed index rawId spelling defect =>
          some (.malformedEntry index rawId spelling defect)) := by
  induction all with
  | nil => exact .refl _
  | cons repaired all ih =>
    cases repaired with
    | malformed index rawId spelling defect => exact ih.cons _
    | candidate c =>
      simp only [List.filterMap_cons, Repaired.issue?, Repaired.candidate?, Repaired.stub?]
      cases onCandidate c with
      | none => exact ih
      | some issue =>
        rw [List.append_assoc] at ih ⊢
        exact List.perm_middle.trans (ih.cons _)
    | stub s =>
      simp only [List.filterMap_cons, Repaired.issue?, Repaired.candidate?, Repaired.stub?]
      cases onStub s with
      | none => exact ih
      | some issue => exact List.perm_middle.trans (ih.cons _)

section Report

variable (raw : List RawItem) (options : NormalizeOptions)

/-- Up to their order, the issues are those that drop an item, and those about
entries that are shadowed. -/
theorem perm_report :
    (normalize raw options).report.Perm
      ((repairAll options raw).filterMap (Repaired.dropIssue? options raw) ++
        (normalize raw options).catalogue.entries.filterMap
          (shadowIssue? (normalize raw options).catalogue.entries)) := by
  rw [normalize_report, Claimant.duplicates, claimantsOf, Claimant.ofCandidates,
    List.filterMap_map]
  refine List.Perm.append_right _ ?_
  refine (perm_streams _ _ _).trans (List.Perm.of_eq ?_)
  apply List.filterMap_congr
  intro repaired _
  cases repaired <;> rfl

end Report

/-! ## The indices in the report -/

/-- The raw index of each item that an issue says was dropped. -/
def Normalized.dropped (normalized : Normalized) : List Nat :=
  normalized.report.filterMap Issue.dropped?

section Items

variable {raw : List RawItem} {options : NormalizeOptions}

theorem survives_iff_notMem_dropped {index : Nat} :
    Survives options raw index ↔ index ∉ (normalize raw options).dropped := by
  unfold Survives Normalized.dropped
  rw [List.mem_filterMap, not_exists]
  exact forall_congr' fun issue => not_and.symm

theorem dropped?_of_dropIssue? {repaired : Repaired} {issue : Issue}
    (h : repaired.dropIssue? options raw = some issue) :
    issue.dropped? = some repaired.index := by
  cases repaired with
  | candidate c => exact dropped?_of_duplicate? h
  | stub s => exact dropped?_of_redirect_issue? h
  | malformed index rawId spelling defect =>
    rw [← Option.some.inj h]
    rfl

/-- The codes of the issues that may drop what an item became. -/
def Repaired.dropCodes : Repaired → List Code
  | candidate _ => [.conflictingDuplicate]
  | stub _ => [.danglingRedirect, .redirectCycle]
  | malformed .. => [.malformedEntry]

theorem code_mem_of_dropIssue? {repaired : Repaired} {issue : Issue}
    (h : repaired.dropIssue? options raw = some issue) :
    issue.code ∈ repaired.dropCodes := by
  cases repaired with
  | candidate c => exact List.mem_singleton.mpr (code_of_duplicate? h)
  | stub s => exact List.mem_pair.mpr (code_of_redirect_issue? h)
  | malformed index rawId spelling defect =>
    rw [← Option.some.inj h]
    exact List.mem_singleton.mpr rfl

theorem stub?_isSome_iff_of_code_mem {repaired : Repaired} {code : Code}
    (h : code ∈ repaired.dropCodes) :
    repaired.stub?.isSome ↔ code = .danglingRedirect ∨ code = .redirectCycle := by
  cases repaired with
  | candidate c =>
    obtain rfl : code = _ := List.mem_singleton.mp h
    simp [Repaired.stub?]
  | stub s =>
    refine iff_of_true rfl ?_
    rwa [Repaired.dropCodes, List.mem_cons, List.mem_singleton] at h
  | malformed =>
    obtain rfl : code = _ := List.mem_singleton.mp h
    simp [Repaired.stub?]

/-- Where one partial function answers, and another answers to that, both
together pick elements and look at them. -/
private theorem filterMap_filterMap_eq_map {α β γ : Type} {f : α → Option β}
    {g : β → Option γ} {k : α → γ} (h : ∀ x y, f x = some y → g y = some (k x))
    (xs : List α) :
    (xs.filterMap f).filterMap g = (xs.filter fun x => (f x).isSome).map k := by
  induction xs with
  | nil => rfl
  | cons x xs ih =>
    cases hx : f x with
    | none =>
      rw [List.filterMap_cons_none hx, List.filter_cons_of_neg (by simp [hx])]
      exact ih
    | some y =>
      rw [List.filterMap_cons_some hx, List.filter_cons_of_pos (by simp [hx]),
        List.filterMap_cons_some (h x y hx), List.map_cons, ih]

/-- The indices in the report are those of the items that something drops, each
as often as there are such items. -/
theorem perm_dropped (raw : List RawItem) (options : NormalizeOptions) :
    (normalize raw options).dropped.Perm
      (((repairAll options raw).filter fun repaired =>
        (repaired.dropIssue? options raw).isSome).map Repaired.index) := by
  have hshadow : ((normalize raw options).catalogue.entries.filterMap
      (shadowIssue? (normalize raw options).catalogue.entries)).filterMap
        Issue.dropped? = [] := by
    apply List.filterMap_eq_nil_iff.mpr
    intro issue hissue
    obtain ⟨entry, -, hshadow⟩ := List.mem_filterMap.mp hissue
    exact dropped?_of_shadowIssue? hshadow
  have hperm := (perm_report raw options).filterMap Issue.dropped?
  rw [List.filterMap_append, hshadow, List.append_nil,
    filterMap_filterMap_eq_map fun _ _ => dropped?_of_dropIssue?] at hperm
  exact hperm

/-- No index stands in the report twice. -/
theorem nodup_dropped (raw : List RawItem) (options : NormalizeOptions) :
    (normalize raw options).dropped.Nodup := by
  rw [(perm_dropped raw options).nodup_iff]
  have hrange := map_index_repairAll options raw
  refine List.Nodup.sublist (List.filter_sublist.map Repaired.index) ?_
  rw [hrange]
  exact List.nodup_range

end Items

/-! ## The items that become entries -/

section Entries

variable (options : NormalizeOptions) (raw : List RawItem)

/-- Whether the item at a place of a raw catalogue is a redirect. -/
def isRedirectAt (place : RawItem × Nat) : Bool :=
  (repair options place.2 place.1).stub?.isSome

/-- The items that are no redirects and were not dropped, with their indices. -/
def entryItems : List (RawItem × Nat) :=
  raw.zipIdx.filter fun place =>
    !isRedirectAt options place && place.2 ∉ (normalize raw options).dropped

/-- An entry has the fields that were repaired for a candidate.  Further aliases
may follow those of the candidate. -/
structure Entry.FilledFrom (entry : Entry) (c : Candidate) : Prop where
  rawId : entry.rawId = c.rawId
  spelling : entry.spelling = c.spelling
  category : entry.category = c.category
  description : entry.description = c.description
  sample : entry.sample = c.sample
  aliases : c.aliases <+: entry.aliases

variable {options raw} in
/-- An item that is accepted as an entry becomes the candidate for it. -/
theorem repair_eq_candidateOf {index : Nat} {item : RawItem}
    (h : (repair options index item).candidate?.isSome) :
    repair options index item = .candidate (candidateOf options index item) := by
  cases hrepair : repair options index item with
  | candidate c =>
    obtain ⟨-, -, -, -, hc⟩ := repair_candidate hrepair
    rw [hc]
  | stub s =>
    rw [hrepair] at h
    cases h
  | malformed =>
    rw [hrepair] at h
    cases h

theorem candidatesOf_eq_map :
    candidatesOf options raw =
      (raw.zipIdx.filter fun place =>
        (repair options place.2 place.1).candidate?.isSome).map
        fun place => candidateOf options place.2 place.1 := by
  have hcandidate : ∀ (place : RawItem × Nat) c,
      (repair options place.2 place.1).candidate? = some c →
        some c = some (candidateOf options place.2 place.1) := by
    intro place c h
    rw [repair_eq_candidateOf (by rw [h]; rfl)] at h
    exact h.symm
  have hmap := filterMap_filterMap_eq_map hcandidate raw.zipIdx
  rw [List.filterMap_some] at hmap
  rw [← hmap]
  exact List.filterMap_map

variable {options raw} in
/-- An item becomes an entry exactly if it is accepted as one and nothing drops
it. -/
theorem becomesEntry_iff {place : RawItem × Nat} (hplace : place ∈ raw.zipIdx) :
    (!isRedirectAt options place && decide (place.2 ∉ (normalize raw options).dropped)) =
      ((repair options place.2 place.1).candidate?.isSome &&
        ((repair options place.2 place.1).dropIssue? options raw).isNone) := by
  have hitem := List.mem_zipIdx_iff_getElem?.mp hplace
  rw [Bool.eq_iff_iff, Bool.and_eq_true, Bool.and_eq_true, decide_eq_true_iff,
    ← survives_iff_notMem_dropped, survives_iff hitem, Option.isNone_iff_eq_none,
    isRedirectAt]
  apply and_congr_left
  intro hnone
  cases hrepair : repair options place.2 place.1 with
  | candidate c => exact iff_of_true rfl rfl
  | stub s => simp [Repaired.stub?, Repaired.candidate?]
  | malformed index rawId spelling defect =>
    rw [hrepair] at hnone
    cases hnone

variable {options raw} in
theorem repair_of_mem_entryItems {place : RawItem × Nat}
    (h : place ∈ entryItems options raw) :
    repair options place.2 place.1 = .candidate (candidateOf options place.2 place.1) := by
  obtain ⟨hplace, hentry⟩ := List.mem_filter.mp h
  rw [becomesEntry_iff hplace, Bool.and_eq_true] at hentry
  exact repair_eq_candidateOf hentry.1

/-- The candidates that nothing drops are those of the items that become
entries. -/
theorem filter_candidatesOf :
    (candidatesOf options raw).filter (fun c =>
        ((Repaired.candidate c).dropIssue? options raw).isNone) =
      (entryItems options raw).map fun place => candidateOf options place.2 place.1 := by
  rw [candidatesOf_eq_map, List.filter_map, List.filter_filter, entryItems]
  apply congrArg (List.map _)
  apply List.filter_congr
  intro place hplace
  rw [becomesEntry_iff hplace, Bool.and_comm, Bool.eq_iff_iff, Bool.and_eq_true,
    Bool.and_eq_true]
  apply and_congr_right
  intro hcandidate
  rw [repair_eq_candidateOf hcandidate]
  rfl

/-- The claimants that are kept are those of the candidates that nothing drops. -/
theorem keepers_eq_map_filter :
    Claimant.keepers (claimantsOf options raw) =
      ((candidatesOf options raw).filter fun c =>
        ((Repaired.candidate c).dropIssue? options raw).isNone).map
          (claimantOf options raw) := by
  have hclaimants : claimantsOf options raw =
      (candidatesOf options raw).map (claimantOf options raw) := rfl
  rw [Claimant.keepers]
  conv => lhs; arg 2; rw [hclaimants]
  rw [List.filter_map]
  congr 1
  apply List.filter_congr
  intro c hc
  have hkeeper := mem_keepers_iff hc
  rw [Claimant.keepers, List.mem_filter,
    and_iff_right (mem_claimantsOf.mpr ⟨hc, rfl⟩)] at hkeeper
  rw [Bool.eq_iff_iff, Option.isNone_iff_eq_none]
  exact hkeeper

theorem keepers_eq_map_entryItems :
    Claimant.keepers (claimantsOf options raw) =
      (entryItems options raw).map fun place =>
        claimantOf options raw (candidateOf options place.2 place.1) := by
  rw [keepers_eq_map_filter, filter_candidatesOf, List.map_map]
  rfl

/-- The entries are those of the items that become entries, in their order, with
the spellings of the redirects that reach them. -/
theorem entries_eq_map_entryItems :
    (normalize raw options).catalogue.entries =
      (entryItems options raw).map fun place =>
        let kept := (claimantOf options raw (candidateOf options place.2 place.1)).toEntry
        kept.addStubs ((stubsOf options raw).filter fun stub =>
          stub.resolve (keptOf options raw) (stubsOf options raw) = .entry kept.id) := by
  rw [normalize_entries, Redirect.mergeAll_eq_map]
  conv => lhs; arg 2; rw [keptOf, keepers_eq_map_entryItems]
  rw [List.map_map, List.map_map]
  rfl

end Entries

section Fields

variable {entry : Entry} {c : Candidate}

theorem Claimant.filledFrom_toEntry (claimant : Claimant) :
    claimant.toEntry.FilledFrom claimant.candidate :=
  ⟨rfl, rfl, rfl, rfl, rfl, List.prefix_refl _⟩

theorem Entry.FilledFrom.addAlias (h : entry.FilledFrom c) (added : Alias) :
    (entry.addAlias added).FilledFrom c := by
  unfold Entry.addAlias
  split
  · exact h
  · exact { h with aliases := h.aliases.trans (List.prefix_append _ _) }

theorem Entry.FilledFrom.addStubs (h : entry.FilledFrom c) (stubs : List Stub) :
    (entry.addStubs stubs).FilledFrom c := by
  induction stubs generalizing entry with
  | nil => exact h
  | cons stub stubs ih => exact ih (h.addAlias stub.toAlias)

end Fields

/-- Each entry has what was repaired of the item in its place. -/
theorem forall₂_entries_entryItems (options : NormalizeOptions) (raw : List RawItem) :
    List.Forall₂ (fun entry place =>
        let c := candidateOf options place.2 place.1
        repair options place.2 place.1 = .candidate c ∧ entry.FilledFrom c)
      (normalize raw options).catalogue.entries (entryItems options raw) := by
  rw [entries_eq_map_entryItems, List.forall₂_map_left_iff, List.forall₂_same]
  intro place hplace
  refine ⟨repair_of_mem_entryItems hplace, ?_⟩
  exact (Claimant.filledFrom_toEntry _).addStubs _

/-! ## Counting items and issues -/

section Counts

variable (options : NormalizeOptions) (raw : List RawItem)

/-- The issue that drops what an item became has this code. -/
def Repaired.isDroppedAs (code : Code) (repaired : Repaired) : Bool :=
  (repaired.dropIssue? options raw).any (·.code = code)

/-- What an item became is one of four things: an entry, a redirect, dropped as
malformed, or dropped as a duplicate. -/
private theorem outcome_eq_one (repaired : Repaired) :
    (repaired.candidate?.isSome && (repaired.dropIssue? options raw).isNone).toNat +
      repaired.stub?.isSome.toNat +
      (repaired.isDroppedAs options raw .malformedEntry).toNat +
      (repaired.isDroppedAs options raw .conflictingDuplicate).toNat = 1 := by
  unfold Repaired.isDroppedAs
  cases hdrop : repaired.dropIssue? options raw with
  | none =>
    cases repaired with
    | candidate c => rfl
    | stub s => rfl
    | malformed => cases hdrop
  | some issue =>
    have hcode := code_mem_of_dropIssue? hdrop
    cases repaired with
    | candidate c =>
      simp [Repaired.candidate?, Repaired.stub?, List.mem_singleton.mp hcode]
    | stub s =>
      rcases List.mem_cons.mp hcode with h | h
      · simp [Repaired.candidate?, Repaired.stub?, h]
      · simp [Repaired.candidate?, Repaired.stub?, List.mem_singleton.mp h]
    | malformed =>
      simp [Repaired.candidate?, Repaired.stub?, List.mem_singleton.mp hcode]

private theorem countP_outcomes (all : List Repaired) :
    (all.countP fun repaired =>
        repaired.candidate?.isSome && (repaired.dropIssue? options raw).isNone) +
      (all.countP fun repaired => repaired.stub?.isSome) +
      all.countP (Repaired.isDroppedAs options raw .malformedEntry) +
      all.countP (Repaired.isDroppedAs options raw .conflictingDuplicate) = all.length := by
  induction all with
  | nil => rfl
  | cons repaired all ih =>
    have hone := outcome_eq_one options raw repaired
    have hcount (p : Repaired → Bool) :
        (repaired :: all).countP p = all.countP p + (p repaired).toNat := by
      rw [List.countP_cons]
      cases p repaired <;> rfl
    simp only [hcount, List.length_cons]
    omega

theorem entryItems_length :
    (entryItems options raw).length =
      (repairAll options raw).countP fun repaired =>
        repaired.candidate?.isSome && (repaired.dropIssue? options raw).isNone := by
  rw [entryItems, ← List.countP_eq_length_filter, repairAll, List.countP_map]
  apply List.countP_congr
  intro ⟨item, index⟩ hplace
  rw [becomesEntry_iff hplace, Function.comp_apply]

theorem countP_isRedirectAt :
    raw.zipIdx.countP (isRedirectAt options) =
      (repairAll options raw).countP fun repaired => repaired.stub?.isSome := by
  rw [repairAll, List.countP_map]
  apply List.countP_congr
  intro ⟨item, index⟩ _
  rw [isRedirectAt, Function.comp_apply]

/-- A code of dropped items is reported as often as items are dropped with it. -/
theorem countP_code_report {code : Code} (hcode : code ≠ .shadowedSpelling) :
    (normalize raw options).report.countP (·.code = code) =
      (repairAll options raw).countP (Repaired.isDroppedAs options raw code) := by
  have hshadow : ((normalize raw options).catalogue.entries.filterMap
      (shadowIssue? (normalize raw options).catalogue.entries)).countP
        (·.code = code) = 0 := by
    apply List.countP_eq_zero.mpr
    intro issue hissue
    obtain ⟨entry, -, hshadow⟩ := List.mem_filterMap.mp hissue
    rw [code_of_shadowIssue? hshadow]
    simpa using Ne.symm hcode
  rw [(perm_report raw options).countP_eq, List.countP_append, hshadow, Nat.add_zero,
    List.countP_filterMap]
  apply List.countP_congr
  intro repaired _
  rw [Repaired.isDroppedAs]
  cases repaired.dropIssue? options raw <;> simp

end Counts

/-! ## Duplicates -/

section Duplicates

variable {options : NormalizeOptions} {raw : List RawItem}

/-- The claimants stand in the order of their items. -/
theorem pairwise_index_claimantsOf (options : NormalizeOptions) (raw : List RawItem) :
    (claimantsOf options raw).Pairwise fun first second =>
      first.candidate.index < second.candidate.index := by
  unfold claimantsOf Claimant.ofCandidates
  exact List.pairwise_map.mpr (pairwise_index_candidatesOf options raw)

theorem claimantOf_mem_claimantsOf {index : Nat} {item : RawItem} {c : Candidate}
    (hitem : raw[index]? = some item) (hrepair : repair options index item = .candidate c) :
    claimantOf options raw c ∈ claimantsOf options raw := by
  obtain ⟨-, -, -, -, hc⟩ := repair_candidate hrepair
  have hindex : c.index = index := hc ▸ rfl
  exact mem_claimantsOf.mpr
    ⟨mem_candidatesOf.mpr ⟨item, hindex ▸ hitem, hindex.symm ▸ hrepair⟩, rfl⟩

/-- The first claimant of an id comes before the other ones, and is kept. -/
theorem index_lt_of_first? {kept claimant : Claimant}
    (hfirst : Claimant.first? (claimantsOf options raw) claimant.id = some kept)
    (hmem : claimant ∈ claimantsOf options raw) (hne : kept ≠ claimant) :
    kept.candidate.index < claimant.candidate.index ∧
      kept ∈ Claimant.keepers (claimantsOf options raw) := by
  obtain ⟨hid, before, behind, hsplit, hbefore⟩ := List.find?_eq_some_iff_append.mp hfirst
  have hid : kept.id = claimant.id := of_decide_eq_true hid
  constructor
  · have hpairwise := pairwise_index_claimantsOf options raw
    rw [hsplit] at hmem hpairwise
    have hbehind : claimant ∈ behind := by
      rcases List.mem_append.mp hmem with h | h
      · have hother := hbefore claimant h
        simp at hother
      · exact (List.mem_cons.mp h).resolve_left (Ne.symm hne)
    exact List.rel_of_pairwise_cons (List.pairwise_append.mp hpairwise).2.1 hbehind
  · refine List.mem_filter.mpr ⟨List.mem_of_find?_eq_some hfirst, ?_⟩
    rw [Claimant.isFirst, hid, hfirst]
    exact decide_eq_true rfl

/-- An item that repeats an id comes behind the one that it is said to repeat,
which becomes an entry. -/
theorem keptIndex_of_mem_report {index keptIndex : Nat} {id spelling keptSpelling : String}
    (h : Issue.conflictingDuplicate index keptIndex id spelling keptSpelling ∈
      (normalize raw options).report) :
    keptIndex < index ∧ ∃ item, (item, keptIndex) ∈ entryItems options raw := by
  obtain ⟨item, hitem, hdrop⟩ := exists_dropIssue?_of_mem_report h rfl
  have hcode := code_mem_of_dropIssue? hdrop
  cases hrepair : repair options index item with
  | candidate c =>
    rw [hrepair] at hdrop
    obtain ⟨kept, hfirst, hne, hissue⟩ := Claimant.duplicate?_eq_some_iff.mp hdrop
    injection hissue with hindex hkeptIndex
    obtain ⟨hlt, hkeeper⟩ :=
      index_lt_of_first? hfirst (claimantOf_mem_claimantsOf hitem hrepair) hne
    rw [hindex, hkeptIndex]
    refine ⟨hlt, ?_⟩
    rw [keepers_eq_map_entryItems] at hkeeper
    obtain ⟨place, hplace, rfl⟩ := List.mem_map.mp hkeeper
    exact ⟨place.1, hplace⟩
  | stub s =>
    rw [hrepair] at hcode
    simp [Issue.code, Repaired.dropCodes] at hcode
  | malformed place rawId spelling defect =>
    rw [hrepair] at hcode
    simp [Issue.code, Repaired.dropCodes] at hcode

end Duplicates

/-! ## All items -/

/-- Every raw item is accounted for once.  The indices in the report are
different, each is that of an item, and the kind of the issue tells whether the
item is a redirect.  The entries, the redirects, the malformed items and those
that repeat an id are all items together.  The entries are those of the items
that are no redirects and were not dropped, in the same order and with what was
repaired of them.  An item that repeats an id comes behind one that became an
entry. -/
theorem items_accounted (raw : List RawItem) (options : NormalizeOptions) :
    let normalized := normalize raw options
    normalized.dropped.Nodup ∧
    (∀ issue ∈ normalized.report, ∀ index, issue.dropped? = some index →
      ∃ item, raw[index]? = some item ∧
        (isRedirectAt options (item, index) ↔
          issue.code = .danglingRedirect ∨ issue.code = .redirectCycle)) ∧
    normalized.catalogue.entries.length + raw.zipIdx.countP (isRedirectAt options) +
      normalized.report.countP (·.code = .malformedEntry) +
      normalized.report.countP (·.code = .conflictingDuplicate) = raw.length ∧
    List.Forall₂ (fun entry place =>
        let c := candidateOf options place.2 place.1
        repair options place.2 place.1 = .candidate c ∧ entry.FilledFrom c)
      normalized.catalogue.entries (entryItems options raw) ∧
    ∀ index keptIndex id spelling keptSpelling,
      .conflictingDuplicate index keptIndex id spelling keptSpelling ∈ normalized.report →
        keptIndex < index ∧ ∃ item, (item, keptIndex) ∈ entryItems options raw := by
  intro normalized
  refine ⟨nodup_dropped raw options, ?_, ?_, ?_, ?_⟩
  · intro issue hissue index hindex
    obtain ⟨item, hitem, hdrop⟩ := exists_dropIssue?_of_mem_report hissue hindex
    exact ⟨item, hitem, stub?_isSome_iff_of_code_mem (code_mem_of_dropIssue? hdrop)⟩
  · rw [entries_eq_map_entryItems, List.length_map, entryItems_length,
      countP_code_report options raw (by decide), countP_code_report options raw (by decide),
      countP_isRedirectAt, countP_outcomes, repairAll, List.length_map, List.length_zipIdx]
  · exact forall₂_entries_entryItems options raw
  · intro index keptIndex id spelling keptSpelling hissue
    exact keptIndex_of_mem_report hissue

end CLexicon
