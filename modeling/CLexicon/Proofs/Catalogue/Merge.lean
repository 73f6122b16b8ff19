import CLexicon.Proofs.Catalogue.Stages

/-!
# Merging redirects into entries

`Redirect.mergeAll` goes through the stubs one by one and rebuilds all entries
for each.  Here the same is said entry by entry: `mergeAll_eq_map` gives to
each entry the spellings of the stubs that reach it, and `carries_addStubs`
says which spellings it then has.

An entry carries a spelling in a category if it is spelled so, or has the
spelling as an alias of the category.  `accepts_of_carries` says that the
category then accepts the spelling, for every entry of a catalogue that was
put in order, and `exists_carries_iff` traces a spelling back to an entry or a
stub from before the merge.
-/

namespace CLexicon

/-! ## Spellings of an entry -/

/-- A spelling in a category is the entry's own or one of its aliases. -/
def Entry.Carries (entry : Entry) (category : Category) (spelling : String) :
    Prop :=
  entry.isSpelled category spelling ∨ ⟨spelling, category⟩ ∈ entry.aliases

namespace Entry

theorem isSpelled_iff {entry : Entry} {category : Category} {spelling : String} :
    entry.isSpelled category spelling ↔
      entry.category = category ∧ entry.spelling = spelling := by
  simp [isSpelled]

theorem mem_aliasesIn {entry : Entry} {category : Category} {spelling : String} :
    spelling ∈ entry.aliasesIn category ↔ ⟨spelling, category⟩ ∈ entry.aliases := by
  unfold aliasesIn
  rw [List.mem_map]
  constructor
  · intro hgiven
    obtain ⟨a, ha, rfl⟩ := hgiven
    obtain ⟨hmem, hcategory⟩ := List.mem_filter.mp ha
    obtain rfl := of_decide_eq_true hcategory
    exact hmem
  · intro h
    exact ⟨_, List.mem_filter.mpr ⟨h, decide_eq_true rfl⟩, rfl⟩

/-- An entry answers to each spelling that it carries. -/
theorem Carries.answersTo {entry : Entry} {category : Category} {spelling : String}
    (h : entry.Carries category spelling) : entry.answersTo spelling := by
  unfold Entry.answersTo
  rw [Bool.or_eq_true]
  rcases h with hown | halias
  · exact Or.inl (decide_eq_true (isSpelled_iff.mp hown).2)
  · exact Or.inr (List.any_eq_true.mpr ⟨_, halias, decide_eq_true rfl⟩)

/-! ## Adding aliases -/

/-- An entry with the spellings of some stubs added, stub by stub. -/
def addStubs (entry : Entry) (stubs : List Stub) : Entry :=
  stubs.foldl (fun merged stub => merged.addAlias stub.toAlias) entry

@[simp] theorem addAlias_id (entry : Entry) (added : Alias) :
    (entry.addAlias added).id = entry.id := by
  unfold addAlias; split <;> rfl

@[simp] theorem addAlias_category (entry : Entry) (added : Alias) :
    (entry.addAlias added).category = entry.category := by
  unfold addAlias; split <;> rfl

@[simp] theorem addAlias_spelling (entry : Entry) (added : Alias) :
    (entry.addAlias added).spelling = entry.spelling := by
  unfold addAlias; split <;> rfl

@[simp] theorem addStubs_id (entry : Entry) (stubs : List Stub) :
    (entry.addStubs stubs).id = entry.id := by
  induction stubs generalizing entry with
  | nil => rfl
  | cons stub rest ih => exact (ih _).trans (addAlias_id _ _)

/-- Adding an alias makes the entry carry it, and changes nothing else. -/
theorem carries_addAlias {entry : Entry} {added : Alias} {category : Category}
    {spelling : String} :
    (entry.addAlias added).Carries category spelling ↔
      entry.Carries category spelling ∨ added = ⟨spelling, category⟩ := by
  unfold Carries
  rw [isSpelled_iff, isSpelled_iff, addAlias_category, addAlias_spelling]
  unfold addAlias
  split
  · rename_i hthere
    constructor
    · exact Or.inl
    · intro hgiven
      rcases hgiven with h | rfl
      · exact h
      · exact hthere.imp_left isSpelled_iff.mp
  · rw [List.mem_append, List.mem_singleton, or_assoc, eq_comm (a := added)]

/-- With some stubs added, an entry carries their spellings besides its own. -/
theorem carries_addStubs {entry : Entry} {stubs : List Stub} {category : Category}
    {spelling : String} :
    (entry.addStubs stubs).Carries category spelling ↔
      entry.Carries category spelling ∨
        ∃ stub ∈ stubs, stub.toAlias = ⟨spelling, category⟩ := by
  induction stubs generalizing entry with
  | nil => simp [addStubs]
  | cons stub rest ih =>
    show ((entry.addAlias stub.toAlias).addStubs rest).Carries _ _ ↔ _
    simp only [ih, carries_addAlias, or_assoc, List.mem_cons, exists_eq_or_imp]

end Entry

/-! ## Merging, entry by entry -/

namespace Redirect

theorem merge_eq_map (entries : List Entry) (stub : Stub) (resolution : Resolution) :
    merge entries stub resolution =
      entries.map fun entry =>
        if resolution = .entry entry.id then entry.addAlias stub.toAlias else entry := by
  unfold merge
  split
  · apply List.map_congr_left
    intro entry _
    simp only [Resolution.entry.injEq, eq_comm]
  · rename_i hother
    have hfalse : ∀ entry : Entry, resolution ≠ .entry entry.id :=
      fun entry => hother entry.id
    simp [hfalse]

private theorem foldl_merge (resolution : Stub → Resolution) (stubs : List Stub)
    (entries : List Entry) :
    stubs.foldl (fun merged stub => merge merged stub (resolution stub)) entries =
      entries.map fun entry =>
        entry.addStubs (stubs.filter fun stub => resolution stub = .entry entry.id) := by
  induction stubs generalizing entries with
  | nil => simp [Entry.addStubs]
  | cons stub rest ih =>
    rw [List.foldl_cons, ih, merge_eq_map, List.map_map]
    apply List.map_congr_left
    intro entry _
    by_cases hreach : resolution stub = .entry entry.id
    · simp [hreach, Entry.addStubs]
    · simp [hreach]

/-- Each entry gets the spellings of the stubs that reach it. -/
theorem mergeAll_eq_map (entries : List Entry) (stubs : List Stub) :
    mergeAll entries stubs =
      entries.map fun entry => entry.addStubs
        (stubs.filter fun stub => stub.resolve entries stubs = .entry entry.id) :=
  foldl_merge _ stubs entries

end Redirect

theorem mem_of_named? {entries : List Entry} {id : String} {entry : Entry}
    (h : named? entries id = some entry) : entry ∈ entries := by
  rcases Option.or_eq_some_iff.mp h with h | ⟨_, h⟩
  · exact List.mem_of_find?_eq_some h
  · exact List.mem_of_find?_eq_some h

/-- A walk that ends at an entry ends at one of the entries it was given. -/
theorem Stub.exists_of_walk {entries : List Entry} {stubs : List Stub}
    {chain : List String} {target id : String}
    (h : walk entries stubs chain target = .entry id) :
    ∃ entry ∈ entries, entry.id = id := by
  fun_induction walk entries stubs chain target with
  | case1 chain target entry hnamed =>
    exact ⟨entry, mem_of_named? hnamed, Resolution.entry.inj h⟩
  | case2 => cases h
  | case3 => cases h
  | case4 _ _ _ _ _ _ ih => exact ih h

/-! ## Spellings of a catalogue that was put in order -/

section Normalized

variable {raw : List RawItem} {options : NormalizeOptions}

theorem mem_normalize_entries {entry : Entry} :
    entry ∈ (normalize raw options).catalogue.entries ↔
      ∃ kept ∈ keptOf options raw, entry = kept.addStubs
        ((stubsOf options raw).filter fun stub =>
          stub.resolve (keptOf options raw) (stubsOf options raw) =
            .entry kept.id) := by
  rw [normalize_entries, Redirect.mergeAll_eq_map, List.mem_map]
  exact exists_congr fun _ => and_congr_right fun _ => eq_comm

/-- A spelling is carried by some entry exactly if it was before the redirects
were merged, or is that of a stub that reaches an entry. -/
theorem exists_carries_iff {category : Category} {spelling : String} :
    (∃ entry ∈ (normalize raw options).catalogue.entries,
        entry.Carries category spelling) ↔
      (∃ kept ∈ keptOf options raw, kept.Carries category spelling) ∨
        ∃ stub ∈ stubsOf options raw, stub.toAlias = ⟨spelling, category⟩ ∧
          ∃ id, stub.resolve (keptOf options raw) (stubsOf options raw) =
            .entry id := by
  constructor
  · intro hgiven
    obtain ⟨entry, hentry, hcarries⟩ := hgiven
    obtain ⟨kept, hkept, rfl⟩ := mem_normalize_entries.mp hentry
    rcases Entry.carries_addStubs.mp hcarries with h | ⟨stub, hstub, halias⟩
    · exact Or.inl ⟨kept, hkept, h⟩
    · obtain ⟨hmem, hreach⟩ := List.mem_filter.mp hstub
      exact Or.inr ⟨stub, hmem, halias, kept.id, of_decide_eq_true hreach⟩
  · intro hgiven
    rcases hgiven with ⟨kept, hkept, h⟩ | ⟨stub, hstub, halias, id, hreach⟩
    · exact ⟨_, mem_normalize_entries.mpr ⟨kept, hkept, rfl⟩,
        Entry.carries_addStubs.mpr (Or.inl h)⟩
    · obtain ⟨kept, hkept, rfl⟩ := Stub.exists_of_walk hreach
      refine ⟨_, mem_normalize_entries.mpr ⟨kept, hkept, rfl⟩,
        Entry.carries_addStubs.mpr (Or.inr ⟨stub, ?_, halias⟩)⟩
      exact List.mem_filter.mpr ⟨hstub, decide_eq_true hreach⟩

theorem mem_keptOf {entry : Entry} :
    entry ∈ keptOf options raw ↔
      ∃ claimant ∈ Claimant.keepers (claimantsOf options raw),
        claimant.toEntry = entry :=
  List.mem_map

/-- What an entry carries in a category is accepted by the category. -/
theorem accepts_of_carries {entry : Entry} {category : Category} {spelling : String}
    (hentry : entry ∈ (normalize raw options).catalogue.entries)
    (hcarries : entry.Carries category spelling) : category.accepts spelling := by
  rcases exists_carries_iff.mp ⟨entry, hentry, hcarries⟩ with
    ⟨kept, hkept, hcarries⟩ | ⟨stub, hstub, halias, -⟩
  · obtain ⟨claimant, hclaimant, rfl⟩ := mem_keptOf.mp hkept
    obtain ⟨hmem, -⟩ := List.mem_filter.mp hclaimant
    obtain ⟨item, -, hrepair⟩ := mem_candidatesOf.mp (mem_claimantsOf.mp hmem).1
    obtain ⟨-, haccepts, -, -, hcandidate⟩ := repair_candidate hrepair
    unfold Entry.Carries Claimant.toEntry at hcarries
    rw [Entry.isSpelled_iff, hcandidate] at hcarries
    rcases hcarries with ⟨rfl, rfl⟩ | halias
    · exact haccepts
    · obtain ⟨other, hother, heq⟩ := List.mem_map.mp halias
      obtain ⟨rfl, rfl⟩ := Alias.mk.inj heq
      exact (accepts_of_mem_others hother).2
  · obtain ⟨item, -, hrepair⟩ := mem_stubsOf.mp hstub
    obtain ⟨-, haccepts, target, -, hs⟩ := repair_stub hrepair
    rw [hs] at halias
    obtain ⟨rfl, rfl⟩ := Alias.mk.inj halias
    exact haccepts

end Normalized

end CLexicon
