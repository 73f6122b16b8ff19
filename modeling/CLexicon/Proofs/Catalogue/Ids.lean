import CLexicon.Proofs.Catalogue.Accounting
import CLexicon.Proofs.Catalogue.Redirects
import CLexicon.Proofs.Lexicon.Precedence

/-!
# Which item has which id

An accepted item derives an id from its own id and, where other spellings share
that, from its spelling.  The first item to derive an id keeps it, and each
later one is reported.

* `acceptedItems` and `derivedIdAt`: the items that are accepted as entries, and
  the ids that they derive.  `derivedIdAt_of_spelledAlike` and
  `derivedIdAt_of_not_spelledAlike` are the two ways to derive one.
* `DerivesFirst`: no earlier item derives the id.  `first?_claimantsOf` finds the
  item of this kind for each id, so that `duplicate?_of_derivesFirst` and
  `duplicate?_of_not_derivesFirst` tell which items are too late.
* `ids_exact`: the ids of all entries, and all that is reported about ids.
-/

namespace CLexicon

open Text Repair

/-! ## Deriving an id -/

section Derive

variable (options : NormalizeOptions) (raw : List RawItem)

/-- The items that are accepted as entries, neither malformed nor redirects, with
their indices. -/
def acceptedItems : List (RawItem × Nat) :=
  raw.zipIdx.filter fun place => (repair options place.2 place.1).candidate?.isSome

/-- The claimant for the accepted item at a place. -/
def claimantAt (place : RawItem × Nat) : Claimant :=
  claimantOf options raw (candidateOf options place.2 place.1)

/-- The id that the accepted item at a place derives. -/
def derivedIdAt (place : RawItem × Nat) : String :=
  (claimantAt options raw place).id

/-- All accepted items with the raw id of this one are spelled as it is. -/
def SpelledAlike (place : RawItem × Nat) : Prop :=
  ∀ other ∈ acceptedItems options raw, trimmed other.1.id = trimmed place.1.id →
    (spellings options other.1).1 = (spellings options place.1).1

/-- No accepted item before this one derives the same id. -/
def DerivesFirst (place : RawItem × Nat) : Prop :=
  ∀ earlier ∈ acceptedItems options raw, earlier.2 < place.2 →
    derivedIdAt options raw earlier ≠ derivedIdAt options raw place

instance : DecidablePred (DerivesFirst options raw) := fun place =>
  inferInstanceAs (Decidable (∀ earlier ∈ acceptedItems options raw,
    earlier.2 < place.2 →
      derivedIdAt options raw earlier ≠ derivedIdAt options raw place))

variable {options raw} {place : RawItem × Nat}

theorem Claimant.isShared_iff {candidates : List Candidate} {c : Candidate} :
    isShared candidates c ↔
      ∃ other ∈ candidates, other.rawId = c.rawId ∧ other.spelling ≠ c.spelling := by
  simp [isShared]

theorem isShared_iff_not_spelledAlike :
    Claimant.isShared (candidatesOf options raw) (candidateOf options place.2 place.1) ↔
      ¬SpelledAlike options raw place := by
  rw [Claimant.isShared_iff, candidatesOf_eq_map]
  simp only [List.mem_map, exists_exists_and_eq_and, SpelledAlike, not_forall, exists_prop]
  rfl

theorem derivedIdAt_of_spelledAlike (h : SpelledAlike options raw place) :
    derivedIdAt options raw place = trimmed place.1.id :=
  if_neg fun hshared => isShared_iff_not_spelledAlike.mp hshared h

theorem derivedIdAt_of_not_spelledAlike (h : ¬SpelledAlike options raw place) :
    derivedIdAt options raw place =
      trimmed place.1.id ++ options.idSeparator.toString ++
        (spellings options place.1).1 :=
  if_pos (isShared_iff_not_spelledAlike.mpr h)

/-- A derived id is the raw id where all spellings with the raw id are the same,
and is longer otherwise. -/
theorem derivedIdAt_eq_rawId_iff :
    derivedIdAt options raw place = trimmed place.1.id ↔
      SpelledAlike options raw place := by
  refine ⟨fun hid => ?_, derivedIdAt_of_spelledAlike⟩
  by_contra h
  rw [derivedIdAt_of_not_spelledAlike h] at hid
  have hlength := congrArg String.length hid
  rw [String.length_append, String.length_append] at hlength
  have hseparator : options.idSeparator.toString.length = 1 := by simp
  omega

/-- Items that share a raw id and are spelled differently derive different ids. -/
theorem derivedIdAt_ne {other : RawItem × Nat} (hplace : place ∈ acceptedItems options raw)
    (hother : other ∈ acceptedItems options raw)
    (hrawId : trimmed other.1.id = trimmed place.1.id)
    (hspelling : (spellings options other.1).1 ≠ (spellings options place.1).1) :
    derivedIdAt options raw other ≠ derivedIdAt options raw place := by
  have hplaceShares : ¬SpelledAlike options raw place :=
    fun h => hspelling (h other hother hrawId)
  have hotherShares : ¬SpelledAlike options raw other :=
    fun h => hspelling (h place hplace hrawId.symm).symm
  rw [derivedIdAt_of_not_spelledAlike hplaceShares,
    derivedIdAt_of_not_spelledAlike hotherShares, hrawId]
  intro heq
  have hlists := congrArg String.toList heq
  rw [String.toList_append, String.toList_append (t := (spellings options place.1).1)]
    at hlists
  exact hspelling (String.toList_injective (List.append_cancel_left hlists))

end Derive

/-! ## The first to derive an id -/

section First

variable {options : NormalizeOptions} {raw : List RawItem} {place : RawItem × Nat}

theorem claimantsOf_eq_map :
    claimantsOf options raw = (acceptedItems options raw).map (claimantAt options raw) := by
  have hclaimants : claimantsOf options raw =
      (candidatesOf options raw).map (claimantOf options raw) := rfl
  rw [hclaimants, candidatesOf_eq_map, List.map_map]
  rfl

/-- An accepted item is told by its index. -/
theorem eq_of_index_eq {other : RawItem × Nat} (hplace : place ∈ acceptedItems options raw)
    (hother : other ∈ acceptedItems options raw) (h : place.2 = other.2) : place = other := by
  have hitem := List.mem_zipIdx_iff_getElem?.mp (List.mem_filter.mp hplace).1
  have hitem' := List.mem_zipIdx_iff_getElem?.mp (List.mem_filter.mp hother).1
  rw [h, hitem'] at hitem
  exact Prod.ext (Option.some.inj hitem).symm h

/-- Of the items that derive an id, one is the first. -/
theorem eq_of_derivesFirst {other : RawItem × Nat}
    (hplace : place ∈ acceptedItems options raw) (hother : other ∈ acceptedItems options raw)
    (hid : derivedIdAt options raw place = derivedIdAt options raw other)
    (hfirst : DerivesFirst options raw place) (hfirst' : DerivesFirst options raw other) :
    place = other := by
  apply eq_of_index_eq hplace hother
  rcases Nat.lt_trichotomy place.2 other.2 with hlt | heq | hlt
  · exact absurd hid (hfirst' place hplace hlt)
  · exact heq
  · exact absurd hid.symm (hfirst other hother hlt)

/-- The first claimant of an id is that of the first item to derive it. -/
theorem first?_claimantsOf (hplace : place ∈ acceptedItems options raw) :
    ∃ first ∈ acceptedItems options raw, DerivesFirst options raw first ∧
      first.2 ≤ place.2 ∧ derivedIdAt options raw first = derivedIdAt options raw place ∧
      Claimant.first? (claimantsOf options raw) (derivedIdAt options raw place) =
        some (claimantAt options raw first) := by
  have hclaimant : ∀ other ∈ acceptedItems options raw,
      claimantAt options raw other ∈ claimantsOf options raw := by
    intro other hother
    rw [claimantsOf_eq_map]
    exact List.mem_map_of_mem hother
  have hsome : (Claimant.first? (claimantsOf options raw)
      (derivedIdAt options raw place)).isSome :=
    List.find?_isSome.mpr ⟨_, hclaimant place hplace, decide_eq_true rfl⟩
  obtain ⟨kept, hkept⟩ := Option.isSome_iff_exists.mp hsome
  have hmem := List.mem_of_find?_eq_some hkept
  rw [claimantsOf_eq_map] at hmem
  obtain ⟨first, hfirst, rfl⟩ := List.mem_map.mp hmem
  have hfound := List.find?_some hkept
  have hid : derivedIdAt options raw first = derivedIdAt options raw place :=
    of_decide_eq_true hfound
  have hbefore : ∀ other ∈ acceptedItems options raw,
      derivedIdAt options raw other = derivedIdAt options raw place →
        first.2 ≤ other.2 := by
    intro other hother hsame
    by_cases heq : claimantAt options raw first = claimantAt options raw other
    · exact Nat.le_of_eq (congrArg (fun claimant => claimant.candidate.index) heq)
    · rw [← hsame] at hkept
      exact Nat.le_of_lt (index_lt_of_first? hkept (hclaimant other hother) heq).1
  refine ⟨first, hfirst, ?_, hbefore place hplace rfl, hid, hkept⟩
  intro earlier hearlier hlt hsame
  have := hbefore earlier hearlier (hsame.trans hid)
  omega

/-- Nothing is reported about the first item to derive an id. -/
theorem duplicate?_of_derivesFirst (hplace : place ∈ acceptedItems options raw)
    (h : DerivesFirst options raw place) :
    Claimant.duplicate? (claimantsOf options raw) (claimantAt options raw place) = none := by
  obtain ⟨first, hfirst, hderives, -, hid, hkept⟩ := first?_claimantsOf hplace
  obtain rfl := eq_of_derivesFirst hfirst hplace hid hderives h
  rw [Option.eq_none_iff_forall_ne_some]
  intro issue hissue
  obtain ⟨kept, hkept', hne, -⟩ := Claimant.duplicate?_eq_some_iff.mp hissue
  exact hne (Option.some.inj (hkept'.symm.trans hkept))

/-- An item that derives an id too late is reported, with the first item to derive
it. -/
theorem duplicate?_of_not_derivesFirst (hplace : place ∈ acceptedItems options raw)
    (h : ¬DerivesFirst options raw place) :
    ∃ first ∈ acceptedItems options raw, DerivesFirst options raw first ∧
      first.2 < place.2 ∧ derivedIdAt options raw first = derivedIdAt options raw place ∧
      Claimant.duplicate? (claimantsOf options raw) (claimantAt options raw place) =
        some (.conflictingDuplicate place.2 first.2 (derivedIdAt options raw place)
          (spellings options place.1).1 (spellings options first.1).1) := by
  obtain ⟨first, hfirst, hderives, hle, hid, hkept⟩ := first?_claimantsOf hplace
  have hne : first.2 ≠ place.2 := by
    intro hindex
    obtain rfl := eq_of_index_eq hfirst hplace hindex
    exact h hderives
  refine ⟨first, hfirst, hderives, by omega, hid, ?_⟩
  refine Claimant.duplicate?_eq_some_iff.mpr ⟨_, hkept, fun heq => hne ?_, rfl⟩
  exact congrArg (fun claimant => claimant.candidate.index) heq

/-- The items that become entries are those that derive their id first. -/
theorem entryItems_eq_filter :
    entryItems options raw =
      (acceptedItems options raw).filter (DerivesFirst options raw ·) := by
  rw [acceptedItems, List.filter_filter]
  apply List.filter_congr
  intro place hplace
  rw [becomesEntry_iff hplace, Bool.and_comm, Bool.eq_iff_iff, Bool.and_eq_true,
    Bool.and_eq_true]
  apply and_congr_left
  intro hcandidate
  have haccepted : place ∈ acceptedItems options raw :=
    List.mem_filter.mpr ⟨hplace, hcandidate⟩
  rw [repair_eq_candidateOf hcandidate, decide_eq_true_iff]
  show (Claimant.duplicate? (claimantsOf options raw) (claimantAt options raw place)).isNone ↔ _
  by_cases hfirst : DerivesFirst options raw place
  · rw [duplicate?_of_derivesFirst haccepted hfirst]
    exact iff_of_true rfl hfirst
  · obtain ⟨first, -, -, -, -, hissue⟩ := duplicate?_of_not_derivesFirst haccepted hfirst
    rw [hissue]
    exact iff_of_false (by simp) hfirst

end First

/-! ## The report on ids -/

section Report

variable (options : NormalizeOptions) (raw : List RawItem)

/-- What is reported about ids is what there is to report about the accepted items,
in their order. -/
theorem filter_conflictingDuplicate_report :
    (normalize raw options).report.filter (·.code = .conflictingDuplicate) =
      (acceptedItems options raw).filterMap fun place =>
        Claimant.duplicate? (claimantsOf options raw) (claimantAt options raw place) := by
  have hduplicates : (claimantsOf options raw).filterMap
      (Claimant.duplicate? (claimantsOf options raw)) =
      (acceptedItems options raw).filterMap fun place =>
        Claimant.duplicate? (claimantsOf options raw) (claimantAt options raw place) := by
    conv => lhs; arg 2; rw [claimantsOf_eq_map]
    exact List.filterMap_map
  rw [normalize_report, Claimant.duplicates, Redirect.issues, List.filter_append,
    List.filter_append, List.filter_append, filter_code_eq_nil, filter_code_eq_self,
    filter_code_eq_nil, filter_code_eq_nil, List.nil_append, List.append_nil,
    List.append_nil, hduplicates]
  · intro entry issue hissue
    simp [code_of_shadowIssue? hissue]
  · intro stub issue hissue
    rcases code_of_redirect_issue? hissue with hcode | hcode <;> simp [hcode]
  · exact fun _ _ => code_of_duplicate?
  · intro repaired issue hissue
    simp [code_of_issue? hissue]

/-- The entries are those of the items that derive their id first, with the
spellings of the redirects that reach them. -/
theorem entries_eq_map_acceptedItems :
    (normalize raw options).catalogue.entries =
      ((acceptedItems options raw).filter (DerivesFirst options raw ·)).map fun place =>
        (claimantAt options raw place).toEntry.addStubs
          (mergedInto raw options (claimantAt options raw place).toEntry) := by
  rw [← entryItems_eq_filter, entries_eq_map_entryItems]
  rfl

/-- An entry has the id that its item derives.  That is not its raw id exactly if an
accepted item with the raw id is spelled differently. -/
theorem forall₂_entries_derivesFirst :
    List.Forall₂ (fun entry place =>
        entry.id = derivedIdAt options raw place ∧
        entry.FilledFrom (candidateOf options place.2 place.1) ∧
        (entry.id ≠ entry.rawId ↔ ∃ other ∈ acceptedItems options raw,
          trimmed other.1.id = entry.rawId ∧
          (spellings options other.1).1 ≠ entry.spelling))
      (normalize raw options).catalogue.entries
      ((acceptedItems options raw).filter (DerivesFirst options raw ·)) := by
  rw [entries_eq_map_acceptedItems, List.forall₂_map_left_iff, List.forall₂_same]
  intro place _
  generalize hstubs : mergedInto raw options (claimantAt options raw place).toEntry = stubs
  have hfilled : ((claimantAt options raw place).toEntry.addStubs stubs).FilledFrom
      (candidateOf options place.2 place.1) :=
    (Claimant.filledFrom_toEntry (claimantAt options raw place)).addStubs stubs
  have hid : ((claimantAt options raw place).toEntry.addStubs stubs).id =
      derivedIdAt options raw place := Entry.addStubs_id _ _
  have hdiffers : derivedIdAt options raw place ≠ trimmed place.1.id ↔
      ∃ other ∈ acceptedItems options raw, trimmed other.1.id = trimmed place.1.id ∧
        (spellings options other.1).1 ≠ (spellings options place.1).1 := by
    rw [ne_eq, derivedIdAt_eq_rawId_iff]
    simp only [SpelledAlike, not_forall, exists_prop, ne_eq]
  refine ⟨hid, hfilled, ?_⟩
  rw [hid, hfilled.rawId, hfilled.spelling]
  exact hdiffers

variable {options raw} in
/-- What is reported about an accepted item names the first item to derive its id. -/
theorem exists_first_of_duplicate? {place : RawItem × Nat} {issue : Issue}
    (hplace : place ∈ acceptedItems options raw)
    (hissue : Claimant.duplicate? (claimantsOf options raw)
      (claimantAt options raw place) = some issue) :
    ∃ first ∈ acceptedItems options raw, DerivesFirst options raw first ∧
      first.2 < place.2 ∧ derivedIdAt options raw first = derivedIdAt options raw place ∧
      issue = .conflictingDuplicate place.2 first.2 (derivedIdAt options raw place)
        (spellings options place.1).1 (spellings options first.1).1 := by
  have hlate : ¬DerivesFirst options raw place := by
    intro hfirst
    rw [duplicate?_of_derivesFirst hplace hfirst] at hissue
    cases hissue
  obtain ⟨first, hfirst, hderives, hlt, hid, heq⟩ :=
    duplicate?_of_not_derivesFirst hplace hlate
  exact ⟨first, hfirst, hderives, hlt, hid, Option.some.inj (hissue.symm.trans heq)⟩

/-- An item that derives an id too late is reported, and nothing else is about ids. -/
theorem forall₂_duplicates :
    List.Forall₂ (fun issue place => ∃ first ∈ acceptedItems options raw,
        DerivesFirst options raw first ∧ first.2 < place.2 ∧
        derivedIdAt options raw first = derivedIdAt options raw place ∧
        issue = .conflictingDuplicate place.2 first.2 (derivedIdAt options raw place)
          (spellings options place.1).1 (spellings options first.1).1)
      ((normalize raw options).report.filter (·.code = .conflictingDuplicate))
      ((acceptedItems options raw).filter (¬DerivesFirst options raw ·)) := by
  have hlate : (acceptedItems options raw).filter (¬DerivesFirst options raw ·) =
      (acceptedItems options raw).filter fun place =>
        (Claimant.duplicate? (claimantsOf options raw)
          (claimantAt options raw place)).isSome := by
    apply List.filter_congr
    intro place hplace
    by_cases hfirst : DerivesFirst options raw place
    · simp [duplicate?_of_derivesFirst hplace hfirst, hfirst]
    · obtain ⟨first, -, -, -, -, hissue⟩ := duplicate?_of_not_derivesFirst hplace hfirst
      simp [hissue, hfirst]
  rw [filter_conflictingDuplicate_report, hlate]
  have hrow := forall₂_filterMap_filter
    (fun place issue (h : Claimant.duplicate? (claimantsOf options raw)
      (claimantAt options raw place) = some issue) => h) (acceptedItems options raw)
  refine List.forall₂_iff_zip.mpr ⟨hrow.length_eq, fun {issue place} hzip => ?_⟩
  have hplace := (List.mem_filter.mp (List.of_mem_zip hzip).2).1
  exact exists_first_of_duplicate? hplace (List.forall₂_zip hrow hzip)

variable {options raw} in
/-- An item that is dropped for one with its own raw id is spelled as that one is. -/
theorem spelling_eq_of_mem_report {index keptIndex : Nat} {id spelling keptSpelling : String}
    {item kept : RawItem}
    (hissue : .conflictingDuplicate index keptIndex id spelling keptSpelling ∈
      (normalize raw options).report)
    (hitem : raw[index]? = some item) (hkept : raw[keptIndex]? = some kept)
    (hrawId : trimmed item.id = trimmed kept.id) : spelling = keptSpelling := by
  have hmem : .conflictingDuplicate index keptIndex id spelling keptSpelling ∈
      (normalize raw options).report.filter (·.code = .conflictingDuplicate) :=
    List.mem_filter.mpr ⟨hissue, decide_eq_true rfl⟩
  rw [filter_conflictingDuplicate_report, List.mem_filterMap] at hmem
  obtain ⟨place, hplace, hduplicate⟩ := hmem
  obtain ⟨first, hfirst, -, -, hid, heq⟩ := exists_first_of_duplicate? hplace hduplicate
  injection heq with hindex hkeptIndex _ hspelling hkeptSpelling
  have hplaceItem := List.mem_zipIdx_iff_getElem?.mp (List.mem_filter.mp hplace).1
  have hfirstItem := List.mem_zipIdx_iff_getElem?.mp (List.mem_filter.mp hfirst).1
  rw [← hindex, hitem] at hplaceItem
  rw [← hkeptIndex, hkept] at hfirstItem
  rw [Option.some.inj hplaceItem, Option.some.inj hfirstItem] at hrawId
  rw [hspelling, hkeptSpelling]
  by_contra hne
  exact derivedIdAt_ne hplace hfirst hrawId.symm (Ne.symm hne) hid

end Report

/-! ## All ids -/

/-- An accepted item derives its raw id if all accepted items with this raw id are
spelled as it is, and else its raw id with the separator and its spelling.  The
entries are those of the items that derive their id first, in order, under these
ids.  All other accepted items are reported in order, each with the id, its
spelling, and the index and the spelling of the first item to derive the id.  So
an item is never dropped for one with the same raw id and another spelling, and an
entry has its raw id as its id unless an accepted item with this raw id is spelled
differently. -/
theorem ids_exact (raw : List RawItem) (options : NormalizeOptions) :
    let accepted := acceptedItems options raw
    let derived := derivedIdAt options raw
    let normalized := normalize raw options
    (∀ place ∈ accepted,
      (SpelledAlike options raw place → derived place = trimmed place.1.id) ∧
      (¬SpelledAlike options raw place → derived place =
        trimmed place.1.id ++ options.idSeparator.toString ++
          (spellings options place.1).1)) ∧
    List.Forall₂ (fun entry place =>
        entry.id = derived place ∧
        entry.FilledFrom (candidateOf options place.2 place.1) ∧
        (entry.id ≠ entry.rawId ↔ ∃ other ∈ accepted,
          trimmed other.1.id = entry.rawId ∧
          (spellings options other.1).1 ≠ entry.spelling))
      normalized.catalogue.entries
      (accepted.filter (DerivesFirst options raw ·)) ∧
    List.Forall₂ (fun issue place => ∃ first ∈ accepted,
        DerivesFirst options raw first ∧ first.2 < place.2 ∧
        derived first = derived place ∧
        issue = .conflictingDuplicate place.2 first.2 (derived place)
          (spellings options place.1).1 (spellings options first.1).1)
      (normalized.report.filter (·.code = .conflictingDuplicate))
      (accepted.filter (¬DerivesFirst options raw ·)) ∧
    ∀ index keptIndex id spelling keptSpelling item kept,
      .conflictingDuplicate index keptIndex id spelling keptSpelling ∈ normalized.report →
      raw[index]? = some item → raw[keptIndex]? = some kept →
      trimmed item.id = trimmed kept.id → spelling = keptSpelling := by
  intro accepted derived normalized
  refine ⟨fun place _ => ⟨derivedIdAt_of_spelledAlike, derivedIdAt_of_not_spelledAlike⟩,
    forall₂_entries_derivesFirst options raw, forall₂_duplicates options raw, ?_⟩
  intro index keptIndex id spelling keptSpelling item kept hissue hitem hkept hrawId
  exact spelling_eq_of_mem_report hissue hitem hkept hrawId

end CLexicon
