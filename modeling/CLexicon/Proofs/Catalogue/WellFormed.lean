import CLexicon.Proofs.Catalogue.Merge
import CLexicon.Proofs.Text.Blanks
import Mathlib.Data.List.Nodup

/-!
# Catalogues that were put in order

Whatever the raw items are, the catalogue that `normalize` makes of them meets
one invariant.  Its entries have different ids, and each entry alone meets
`Entry.WellFormed`.

* `wellFormed_toEntry`: the entry of an accepted item is well-formed.
* `Entry.WellFormed.addAlias` and `Entry.WellFormed.addStubs`: it stays so when
  redirects are merged into it, one by one.
* `nodup_map_id_normalize` and `Catalogue.get?_eq_some_iff`: no two entries
  share an id, so an id leads to the one entry that has it.
* `wellFormed_normalize`: what holds of the catalogue as a whole.
-/

namespace CLexicon

open Text Repair

/-! ## One entry -/

/-- What holds of every entry of a catalogue that was put in order. -/
structure Entry.WellFormed (options : NormalizeOptions) (entry : Entry) : Prop where
  accepts_spelling : entry.category.accepts entry.spelling
  rawId_ne_empty : entry.rawId ≠ ""
  description_ne_empty : entry.description ≠ ""
  description_trimmed : trimmed entry.description = entry.description
  description_no_anchor : options.recognizeAnchors →
    Anchor.target? entry.description = none
  sample_not_blank : ∀ text, entry.sample = some text → trim text.toList ≠ []
  accepts_alias : ∀ a ∈ entry.aliases, a.category.accepts a.spelling
  alias_not_own : ∀ a ∈ entry.aliases, ¬entry.isSpelled a.category a.spelling

section Item

variable {options : NormalizeOptions} {item : RawItem}

/-- The further spellings of an item differ from the one it is spelled by. -/
theorem ne_of_mem_others {other : String} (h : other ∈ (spellings options item).2) :
    other ≠ (spellings options item).1 := by
  unfold spellings at h ⊢
  dsimp only at h ⊢
  split at h
  · rename_i first others hparts
    split at hparts
    · unfold pairParts? at hparts
      split at hparts
      · cases hparts
      dsimp only at hparts
      split at hparts
      · obtain ⟨rfl, rfl⟩ := Prod.mk.inj (Option.some.inj hparts)
        obtain ⟨part, hpart, rfl⟩ := List.mem_map.mp h
        have hother := of_decide_eq_true (List.mem_filter.mp hpart).2
        exact fun heq => hother (String.ofList_injective heq)
      · cases hparts
    · cases hparts
  · cases h

/-- A sample that is kept is not blank. -/
theorem sample?_not_blank {text : String} (h : sample? item = some text) :
    trim text.toList ≠ [] := by
  unfold sample? at h
  obtain ⟨-, hblank⟩ := Option.filter_eq_some_iff.mp h
  exact of_decide_eq_true hblank

/-- An accepted item becomes a well-formed entry, whichever id it gets. -/
theorem wellFormed_toEntry {index : Nat} {c : Candidate} (id : String)
    (h : repair options index item = .candidate c) :
    (Claimant.toEntry ⟨id, c⟩).WellFormed options := by
  obtain ⟨hid, haccepts, htarget, hdescription, rfl⟩ := repair_candidate h
  constructor
  case accepts_spelling => exact haccepts
  case rawId_ne_empty => exact hid
  case description_ne_empty => exact hdescription
  case description_trimmed =>
    show trimmed (trimmed item.description) = trimmed item.description
    exact trimmed_trimmed item.description
  case description_no_anchor =>
    intro hanchors
    rw [target?, if_pos hanchors] at htarget
    exact htarget
  case sample_not_blank => exact fun _ => sample?_not_blank
  case accepts_alias =>
    intro a ha
    obtain ⟨other, hother, rfl⟩ := List.mem_map.mp ha
    exact (accepts_of_mem_others hother).2
  case alias_not_own =>
    intro a ha hown
    obtain ⟨other, hother, rfl⟩ := List.mem_map.mp ha
    exact ne_of_mem_others hother (Entry.isSpelled_iff.mp hown).2.symm

end Item

namespace Entry.WellFormed

variable {options : NormalizeOptions} {entry : Entry}

/-- One more alias leaves an entry well-formed, if its category accepts it. -/
theorem addAlias {added : Alias} (h : entry.WellFormed options)
    (haccepts : added.category.accepts added.spelling) :
    (entry.addAlias added).WellFormed options := by
  unfold Entry.addAlias
  split
  · exact h
  rename_i hnew
  rw [not_or] at hnew
  constructor
  case accepts_alias =>
    intro a ha
    rcases List.mem_append.mp ha with ha | ha
    · exact h.accepts_alias a ha
    · rwa [List.mem_singleton.mp ha]
  case alias_not_own =>
    intro a ha
    rcases List.mem_append.mp ha with ha | ha
    · exact h.alias_not_own a ha
    · rw [List.mem_singleton.mp ha]
      exact hnew.1
  -- an alias changes no other field
  case accepts_spelling => exact h.accepts_spelling
  case rawId_ne_empty => exact h.rawId_ne_empty
  case description_ne_empty => exact h.description_ne_empty
  case description_trimmed => exact h.description_trimmed
  case description_no_anchor => exact h.description_no_anchor
  case sample_not_blank => exact h.sample_not_blank

/-- The spellings of stubs leave an entry well-formed. -/
theorem addStubs {stubs : List Stub} (h : entry.WellFormed options)
    (haccepts : ∀ stub ∈ stubs, stub.category.accepts stub.spelling) :
    (entry.addStubs stubs).WellFormed options := by
  induction stubs generalizing entry with
  | nil => exact h
  | cons stub stubs ih =>
    rw [List.forall_mem_cons] at haccepts
    exact ih (h.addAlias haccepts.1) haccepts.2

end Entry.WellFormed

/-! ## Different ids -/

theorem map_index_repairAll (options : NormalizeOptions) (raw : List RawItem) :
    (repairAll options raw).map Repaired.index = List.range raw.length := by
  unfold repairAll
  rw [List.map_map, List.range_eq_range', ← List.zipIdx_map_snd]
  exact List.map_congr_left fun _ _ => index_repair

/-- The items keep their order. -/
theorem pairwise_index_repairAll (options : NormalizeOptions) (raw : List RawItem) :
    (repairAll options raw).Pairwise fun first second => first.index < second.index := by
  rw [← List.pairwise_map (R := (· < ·)), map_index_repairAll]
  exact List.pairwise_lt_range

theorem pairwise_index_candidatesOf (options : NormalizeOptions) (raw : List RawItem) :
    (candidatesOf options raw).Pairwise fun first second => first.index < second.index := by
  apply List.Pairwise.filterMap Repaired.candidate? _ (pairwise_index_repairAll options raw)
  intro first second hlt c hc d hd
  cases first <;> cases hc
  cases second <;> cases hd
  exact hlt

theorem nodup_claimantsOf (options : NormalizeOptions) (raw : List RawItem) :
    (claimantsOf options raw).Nodup := by
  unfold claimantsOf Claimant.ofCandidates
  refine List.Nodup.map (fun _ _ h => (Claimant.mk.inj h).2) ?_
  refine (pairwise_index_candidatesOf options raw).imp fun hlt heq => ?_
  rw [heq] at hlt
  exact Nat.lt_irrefl _ hlt

/-- Of all claimants of one id, one is kept. -/
theorem Claimant.nodup_map_id_keepers {claimants : List Claimant} (h : claimants.Nodup) :
    ((keepers claimants).map Claimant.id).Nodup := by
  refine List.Nodup.map_on ?_ (h.filter _)
  intro first hfirst second hsecond hid
  have hfirst := of_decide_eq_true (List.mem_filter.mp hfirst).2
  have hsecond := of_decide_eq_true (List.mem_filter.mp hsecond).2
  rw [hid, hsecond] at hfirst
  exact (Option.some.inj hfirst).symm

/-- Merging redirects changes no id. -/
theorem Redirect.map_id_mergeAll (entries : List Entry) (stubs : List Stub) :
    (mergeAll entries stubs).map Entry.id = entries.map Entry.id := by
  rw [mergeAll_eq_map, List.map_map]
  exact List.map_congr_left fun _ _ => Entry.addStubs_id _ _

/-- The entries of a catalogue that was put in order have different ids. -/
theorem nodup_map_id_normalize (raw : List RawItem) (options : NormalizeOptions) :
    ((normalize raw options).catalogue.entries.map Entry.id).Nodup := by
  rw [normalize_entries, Redirect.map_id_mergeAll, keptOf, List.map_map]
  exact Claimant.nodup_map_id_keepers (nodup_claimantsOf options raw)

/-- Where all ids differ, an id leads to the entry that has it. -/
theorem Catalogue.get?_eq_some_iff {catalogue : Catalogue}
    (hids : (catalogue.entries.map Entry.id).Nodup) {id : String} {entry : Entry} :
    catalogue.get? id = some entry ↔ entry ∈ catalogue.entries ∧ entry.id = id := by
  unfold get?
  constructor
  · intro h
    exact ⟨List.mem_of_find?_eq_some h, by simpa using List.find?_some h⟩
  · intro hgiven
    obtain ⟨hmem, rfl⟩ := hgiven
    have hsome : (catalogue.entries.find? (·.id = entry.id)).isSome :=
      List.find?_isSome.mpr ⟨entry, hmem, decide_eq_true rfl⟩
    obtain ⟨found, hfound⟩ := Option.isSome_iff_exists.mp hsome
    have hid : found.id = entry.id := by simpa using List.find?_some hfound
    rw [hfound, List.inj_on_of_nodup_map hids (List.mem_of_find?_eq_some hfound) hmem hid]

/-! ## All entries -/

theorem wellFormed_of_mem_keptOf {raw : List RawItem} {options : NormalizeOptions}
    {entry : Entry} (h : entry ∈ keptOf options raw) : entry.WellFormed options := by
  obtain ⟨claimant, hkeeper, rfl⟩ := mem_keptOf.mp h
  obtain ⟨hmem, -⟩ := List.mem_filter.mp hkeeper
  obtain ⟨item, -, hrepair⟩ := mem_candidatesOf.mp (mem_claimantsOf.mp hmem).1
  exact wellFormed_toEntry claimant.id hrepair

/-- The spelling of a redirect is accepted by its category. -/
theorem accepts_of_mem_stubsOf {raw : List RawItem} {options : NormalizeOptions}
    {stub : Stub} (h : stub ∈ stubsOf options raw) :
    stub.category.accepts stub.spelling := by
  obtain ⟨item, -, hrepair⟩ := mem_stubsOf.mp h
  obtain ⟨-, haccepts, target, -, hstub⟩ := repair_stub hrepair
  rw [hstub]
  exact haccepts

/-- A catalogue that was put in order has entries of different ids, an id leads
to the one entry that has it and to none otherwise, and all entries are
well-formed. -/
theorem wellFormed_normalize (raw : List RawItem) (options : NormalizeOptions) :
    let catalogue := (normalize raw options).catalogue
    (catalogue.entries.map Entry.id).Nodup ∧
    (∀ id entry, catalogue.get? id = some entry ↔
      entry ∈ catalogue.entries ∧ entry.id = id) ∧
    (∀ id, catalogue.get? id = none ↔ ∀ entry ∈ catalogue.entries, entry.id ≠ id) ∧
    ∀ entry ∈ catalogue.entries, entry.WellFormed options := by
  intro catalogue
  have hids := nodup_map_id_normalize raw options
  refine ⟨hids, fun id entry => Catalogue.get?_eq_some_iff hids, ?_, ?_⟩
  · intro id
    simp [Catalogue.get?]
  · intro entry hentry
    obtain ⟨kept, hkept, rfl⟩ := mem_normalize_entries.mp hentry
    apply (wellFormed_of_mem_keptOf hkept).addStubs
    intro stub hstub
    exact accepts_of_mem_stubsOf (List.mem_filter.mp hstub).1

end CLexicon
