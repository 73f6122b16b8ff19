import CLexicon.Proofs.Catalogue.Ids
import Mathlib.Data.List.Induction

/-!
# What redirects and malformed items leave alone

Only the items that are accepted as entries decide which entries there are.  The
others may stand anywhere and share ids and spellings with them: without these
items, the catalogue has the same entries with fewer aliases.

* `Entry.newAliases` and `Entry.addStubs_eq`: the spellings of redirects stand
  behind the aliases that an entry has already, each once.
* `onlyAccepted`: the items that are accepted as entries.  By `entryFor` and
  `map_toEntry_claimantsOf`, what they claim depends on them alone, and not on their
  indices.
* `Claimant.keepers_cons`: the first claimant is kept, and of the others those that
  claim another id.  So which entries are kept depends on the entries of the
  claimants (`Claimant.map_toEntry_keepers_congr`).
* `shadowIssue?_map`: aliases do not matter to what is reported about shadowed
  spellings.
* `normalize_onlyAccepted`: both runs, for every catalogue.
-/

namespace CLexicon

open Text Repair

/-! ## Aliases from redirects, at once -/

/-- One more alias is one more first occurrence, unless it came before. -/
theorem eraseDups_concat (aliases : List Alias) (added : Alias) :
    (aliases ++ [added]).eraseDups =
      aliases.eraseDups ++ if added ∈ aliases then [] else [added] := by
  rw [List.eraseDups_append]
  by_cases hthere : added ∈ aliases
  · simp [List.removeAll, hthere]
  · simp [List.removeAll, hthere, List.eraseDups_cons]

namespace Entry

/-- The spellings of some redirects that an entry does not carry yet, each once, in
the order in which they come first. -/
def newAliases (entry : Entry) (stubs : List Stub) : List Alias :=
  (stubs.map Stub.toAlias).eraseDups.filter fun a =>
    !entry.isSpelled a.category a.spelling && a ∉ entry.aliases

variable {entry : Entry} {stubs : List Stub} {stub : Stub}

/-- A redirect brings no alias that the entry carries already. -/
theorem newAliases_concat_of_carries
    (h : (entry.addStubs stubs).Carries stub.toAlias.category stub.toAlias.spelling) :
    entry.newAliases (stubs ++ [stub]) = entry.newAliases stubs := by
  unfold newAliases
  rw [List.map_append, List.map_singleton, eraseDups_concat, List.filter_append,
    List.append_right_eq_self, List.filter_eq_nil_iff]
  intro a ha
  split at ha
  · cases ha
  rename_i hnew
  obtain rfl := List.mem_singleton.mp ha
  rcases carries_addStubs.mp h with (hown | hthere) | ⟨other, hother, halias⟩
  · simp [hown]
  · simp [hthere]
  · exact absurd (List.mem_map.mpr ⟨other, hother, halias⟩) hnew

/-- A redirect brings an alias that the entry does not carry yet. -/
theorem newAliases_concat_of_not_carries
    (h : ¬(entry.addStubs stubs).Carries stub.toAlias.category stub.toAlias.spelling) :
    entry.newAliases (stubs ++ [stub]) = entry.newAliases stubs ++ [stub.toAlias] := by
  obtain ⟨hkept, hstubs⟩ := not_or.mp (mt carries_addStubs.mpr h)
  obtain ⟨hown, hthere⟩ := not_or.mp hkept
  have hnew : stub.toAlias ∉ stubs.map Stub.toAlias :=
    fun hmem => hstubs (List.mem_map.mp hmem)
  unfold newAliases
  rw [List.map_append, List.map_singleton, eraseDups_concat, List.filter_append,
    if_neg hnew]
  congr 1
  apply List.filter_eq_self.mpr
  intro a ha
  obtain rfl := List.mem_singleton.mp ha
  simp [hown, hthere]

/-- With the spellings of redirects, an entry has further aliases and is the same
otherwise. -/
theorem addStubs_eq :
    entry.addStubs stubs =
      { entry with aliases := entry.aliases ++ entry.newAliases stubs } := by
  induction stubs using List.reverseRecOn with
  | nil => simp [addStubs, newAliases]
  | append_singleton stubs stub ih =>
    have hstep : entry.addStubs (stubs ++ [stub]) =
        (entry.addStubs stubs).addAlias stub.toAlias := List.foldl_append
    rw [hstep]
    by_cases hthere :
        (entry.addStubs stubs).Carries stub.toAlias.category stub.toAlias.spelling
    · rw [newAliases_concat_of_carries hthere, ← ih]
      exact if_pos hthere
    · have hadd : (entry.addStubs stubs).addAlias stub.toAlias =
          { entry.addStubs stubs with
            aliases := (entry.addStubs stubs).aliases ++ [stub.toAlias] } := if_neg hthere
      rw [newAliases_concat_of_not_carries hthere, hadd, ih, List.append_assoc]

end Entry

/-! ## Entries of the accepted items -/

section Accepted

variable (options : NormalizeOptions) (raw : List RawItem)

/-- The items that are accepted as entries, without their indices. -/
def onlyAccepted : List RawItem :=
  (acceptedItems options raw).map Prod.fst

/-- The entry of an accepted item, if it is kept. -/
def entryFor (item : RawItem) : Entry :=
  (claimantOf options raw (candidateOf options 0 item)).toEntry

variable {options raw}

/-- Whether an item is accepted as an entry does not depend on its index. -/
theorem isSome_candidate?_repair {index : Nat} {item : RawItem} (other : Nat) :
    (repair options index item).candidate?.isSome =
      (repair options other item).candidate?.isSome := by
  unfold repair
  dsimp only
  cases target? options item with
  | none => split_ifs <;> rfl
  | some target => split_ifs <;> rfl

theorem isSome_candidate?_of_mem {item : RawItem} (index : Nat)
    (h : item ∈ onlyAccepted options raw) :
    (repair options index item).candidate?.isSome := by
  obtain ⟨place, hplace, rfl⟩ := List.mem_map.mp h
  rw [isSome_candidate?_repair place.2]
  exact (List.mem_filter.mp hplace).2

/-- All items that are left are accepted again. -/
theorem onlyAccepted_idem :
    onlyAccepted options (onlyAccepted options raw) = onlyAccepted options raw := by
  have hall : acceptedItems options (onlyAccepted options raw) =
      (onlyAccepted options raw).zipIdx := by
    apply List.filter_eq_self.mpr
    intro place hplace
    have hitem := List.mem_zipIdx_iff_getElem?.mp hplace
    exact isSome_candidate?_of_mem place.2 (List.mem_of_getElem? hitem)
  conv => lhs; rw [onlyAccepted, hall]
  exact List.zipIdx_map_fst _ _

/-- No redirect is left. -/
theorem stubsOf_onlyAccepted : stubsOf options (onlyAccepted options raw) = [] := by
  rw [List.eq_nil_iff_forall_not_mem]
  intro stub hstub
  obtain ⟨item, hitem, hrepair⟩ := mem_stubsOf.mp hstub
  have haccepted := isSome_candidate?_of_mem stub.index (List.mem_of_getElem? hitem)
  rw [hrepair] at haccepted
  cases haccepted

theorem isShared_iff_exists_onlyAccepted {item : RawItem} {index : Nat} :
    Claimant.isShared (candidatesOf options raw) (candidateOf options index item) ↔
      ∃ other ∈ onlyAccepted options raw, trimmed other.id = trimmed item.id ∧
        (spellings options other).1 ≠ (spellings options item).1 := by
  rw [Claimant.isShared_iff, candidatesOf_eq_map, onlyAccepted]
  simp only [List.mem_map, exists_exists_and_eq_and]
  rfl

/-- The entry of an accepted item is the same where the accepted items are the
same. -/
theorem entryFor_onlyAccepted (item : RawItem) :
    entryFor options (onlyAccepted options raw) item = entryFor options raw item := by
  have hshared : Claimant.isShared (candidatesOf options (onlyAccepted options raw))
      (candidateOf options 0 item) =
      Claimant.isShared (candidatesOf options raw) (candidateOf options 0 item) := by
    rw [Bool.eq_iff_iff, isShared_iff_exists_onlyAccepted,
      isShared_iff_exists_onlyAccepted, onlyAccepted_idem]
  unfold entryFor claimantOf Claimant.derivedId
  rw [hshared]

/-- The claimants become the entries of the accepted items. -/
theorem map_toEntry_claimantsOf :
    (claimantsOf options raw).map Claimant.toEntry =
      (onlyAccepted options raw).map (entryFor options raw) := by
  rw [claimantsOf_eq_map, onlyAccepted, List.map_map, List.map_map]
  rfl

end Accepted

/-! ## The entries that are kept -/

namespace Claimant

/-- The first claimant is kept, and of the others those that claim another id. -/
theorem keepers_cons {claimant : Claimant} {claimants : List Claimant}
    (h : (claimant :: claimants).Nodup) :
    keepers (claimant :: claimants) =
      claimant :: (keepers claimants).filter (·.id ≠ claimant.id) := by
  have hnew : claimant ∉ claimants := (List.nodup_cons.mp h).1
  have hfirst : isFirst (claimant :: claimants) claimant := by
    simp [isFirst, first?]
  unfold keepers
  rw [List.filter_cons_of_pos hfirst, List.filter_filter]
  congr 1
  apply List.filter_congr
  intro other hother
  have hother' : claimant ≠ other := fun heq => hnew (heq ▸ hother)
  unfold isFirst first?
  by_cases hid : claimant.id = other.id
  · simp [hid, hother']
  · simp [hid, Ne.symm hid]

/-- Which entries are kept depends on the entries of the claimants alone. -/
theorem map_toEntry_keepers_congr {first second : List Claimant} (hfirst : first.Nodup)
    (hsecond : second.Nodup) (h : first.map toEntry = second.map toEntry) :
    (keepers first).map toEntry = (keepers second).map toEntry := by
  induction first generalizing second with
  | nil => rw [List.map_eq_nil_iff.mp h.symm]
  | cons claimant claimants ih =>
    cases second with
    | nil => cases h
    | cons claimant' claimants' =>
      obtain ⟨hentry, hentries⟩ := List.cons.inj h
      have hid : claimant.id = claimant'.id := congrArg Entry.id hentry
      have hkept := ih hfirst.of_cons hsecond.of_cons hentries
      have hfilter (kept : List Claimant) :
          (kept.filter (·.id ≠ claimant.id)).map toEntry =
            (kept.map toEntry).filter (·.id ≠ claimant.id) := by
        rw [List.filter_map]
        rfl
      rw [keepers_cons hfirst, keepers_cons hsecond, List.map_cons, List.map_cons, hentry,
        ← hid, hfilter, hfilter, hkept]

end Claimant

/-- The entries before the merge are the same without redirects and malformed
items. -/
theorem keptOf_onlyAccepted {options : NormalizeOptions} {raw : List RawItem} :
    keptOf options (onlyAccepted options raw) = keptOf options raw := by
  apply Claimant.map_toEntry_keepers_congr (nodup_claimantsOf _ _) (nodup_claimantsOf _ _)
  rw [map_toEntry_claimantsOf, map_toEntry_claimantsOf, onlyAccepted_idem]
  exact List.map_congr_left fun item _ => entryFor_onlyAccepted item

/-! ## Shadowed spellings -/

/-- What is reported about shadowed spellings depends on the ids, the categories and
the spellings of the entries. -/
theorem shadowIssue?_map (f : Entry → Entry) (hid : ∀ entry, (f entry).id = entry.id)
    (hcategory : ∀ entry, (f entry).category = entry.category)
    (hspelling : ∀ entry, (f entry).spelling = entry.spelling) (entries : List Entry)
    (entry : Entry) :
    shadowIssue? (entries.map f) (f entry) = shadowIssue? entries entry := by
  have hfirst : firstSpelled? (entries.map f) entry.category entry.spelling =
      (firstSpelled? entries entry.category entry.spelling).map f := by
    unfold firstSpelled?
    rw [List.find?_map]
    congr 2
    funext other
    simp [Entry.isSpelled, hcategory, hspelling]
  unfold shadowIssue?
  rw [hcategory, hspelling, hfirst]
  cases firstSpelled? entries entry.category entry.spelling with
  | none => rfl
  | some winner => simp [hid]

/-! ## Both runs -/

/-- Without the items that are redirects or malformed, the catalogue has the same
entries in the same order, with the same fields apart from the aliases.  Behind
these, each entry has the spellings of the redirects that reach it, as far as it
does not carry them already, each once in the order in which the redirects come
first.  The same is reported about shadowed spellings. -/
theorem normalize_onlyAccepted (raw : List RawItem) (options : NormalizeOptions) :
    let full := normalize raw options
    let plain := normalize (onlyAccepted options raw) options
    full.catalogue.entries =
      (plain.catalogue.entries.map fun entry =>
        { entry with aliases :=
            entry.aliases ++ entry.newAliases (mergedInto raw options entry) }) ∧
    full.report.filter (·.code = .shadowedSpelling) =
      plain.report.filter (·.code = .shadowedSpelling) := by
  intro full plain
  have hplain : plain.catalogue.entries = keptOf options raw := by
    rw [normalize_entries, stubsOf_onlyAccepted, keptOf_onlyAccepted]
    rfl
  have hfull : full.catalogue.entries = plain.catalogue.entries.map fun entry =>
      entry.addStubs (mergedInto raw options entry) := by
    rw [hplain, normalize_entries, Redirect.mergeAll_eq_map]
    rfl
  constructor
  · rw [hfull]
    exact List.map_congr_left fun _ _ => Entry.addStubs_eq
  · rw [filter_shadowedSpelling_report, filter_shadowedSpelling_report, hfull,
      List.filterMap_map]
    apply List.filterMap_congr
    intro entry _
    exact shadowIssue?_map _ (fun _ => Entry.addStubs_id _ _)
      (fun _ => by rw [Entry.addStubs_eq]) (fun _ => by rw [Entry.addStubs_eq]) _ entry

end CLexicon
