import CLexicon.Proofs.Operators.LongestMatch
import Mathlib.Data.Finset.Card

/-!
# What insertions make of a trie

A trie that is filled by insertions, whatever they are, is a finite map in which
the first value of a spelling wins.  Its nodes are the beginnings of the
spellings, each of them once.

* `insert_eq_self_iff`: an insertion changes nothing exactly if the spelling is
  not free.
* `paths` and `mem_paths_insert`: the way down to each node, and the ways that an
  insertion adds.  `Branches` is the invariant: no two nodes with one byte stand
  side by side.  `Branches.insert` is one insertion, and `branches_ofList` all of
  them.
* `nodeCount_ofList`, `isFree_ofList_iff`, `longestMatch?_ofList_eq_some_iff` and
  `toTable_ofList`: the answers of a trie after any insertions.
-/

namespace CLexicon

variable {α : Type u}

/-! ## The longest of some spellings -/

namespace OperatorTable

/-- A spelling of a list stands at the front of the input, and no longer one does.
The empty spelling does not count. -/
structure LongestOf (spellings : List (List UInt8)) (input spelling : List UInt8) :
    Prop where
  mem : spelling ∈ spellings
  ne_nil : spelling ≠ []
  begins : spelling <+: input
  longest : ∀ other ∈ spellings, other ≠ [] → other <+: input →
    other.length ≤ spelling.length

theorem longestSpelling?_eq_some_iff {spellings : List (List UInt8)} {input : List UInt8}
    {length : Nat} :
    longestSpelling? spellings input = some length ↔
      ∃ spelling, LongestOf spellings input spelling ∧ spelling.length = length := by
  rw [longestSpelling?, List.max?_eq_some_iff, List.forall_mem_map, List.mem_map]
  simp only [List.mem_filter, decide_eq_true_eq, List.isPrefixOf_iff_prefix, and_imp]
  constructor
  · rintro ⟨⟨spelling, ⟨hmem, hnonempty, hbegins⟩, rfl⟩, hlongest⟩
    exact ⟨spelling, ⟨hmem, hnonempty, hbegins, hlongest⟩, rfl⟩
  · rintro ⟨spelling, hspelling, rfl⟩
    exact ⟨⟨spelling, ⟨hspelling.mem, hspelling.ne_nil, hspelling.begins⟩, rfl⟩,
      hspelling.longest⟩

end OperatorTable

namespace Trie

/-! ## Insertions that change nothing -/

/-- A spelling that has a value keeps it, and the trie stays as it is. -/
theorem insert_of_get?_isSome (added : α) {trie : Trie α} {spelling : List UInt8}
    (h : (trie.get? spelling).isSome) : trie.insert added spelling = trie := by
  induction trie generalizing spelling with
  | empty =>
    rw [get?_empty] at h
    cases h
  | node byte value below siblings belowIH siblingsIH =>
    cases spelling with
    | nil => rfl
    | cons b rest =>
      rw [get?] at h
      rw [insert]
      by_cases hbyte : b = byte
      · rw [if_pos hbyte] at h ⊢
        by_cases hlast : rest = []
        · rw [if_pos hlast] at h ⊢
          rw [Option.or_of_isSome h]
        · rw [if_neg hlast] at h ⊢
          rw [belowIH h]
      · rw [if_neg hbyte] at h ⊢
        rw [siblingsIH h]

/-- An insertion changes the trie exactly if the spelling is free. -/
theorem insert_eq_self_iff (added : α) (trie : Trie α) (spelling : List UInt8) :
    trie.insert added spelling = trie ↔ trie.isFree spelling = false := by
  rw [isFree, Bool.and_eq_false_iff, Option.isNone_eq_false_iff, decide_eq_false_iff_not,
    not_not]
  constructor
  · intro hsame
    by_contra hfree
    obtain ⟨hnonempty, hnone⟩ := not_or.mp hfree
    have hvalue := get?_insert added trie spelling spelling
    rw [hsame, if_pos ⟨rfl, hnonempty⟩, Option.not_isSome_iff_eq_none.mp hnone] at hvalue
    cases hvalue
  · rintro (rfl | hvalue)
    · cases trie <;> rfl
    · exact insert_of_get?_isSome added hvalue

/-! ## The ways down to the nodes -/

/-- The bytes on the way down to each node. -/
def paths : Trie α → List (List UInt8)
  | empty => []
  | node byte _ below siblings =>
    [byte] :: below.paths.map (byte :: ·) ++ siblings.paths

theorem length_paths (trie : Trie α) : trie.paths.length = trie.size := by
  induction trie with
  | empty => rfl
  | node byte value below siblings belowIH siblingsIH =>
    simp only [paths, size, List.length_append, List.length_cons, List.length_map,
      belowIH, siblingsIH]
    omega

theorem nil_notMem_paths (trie : Trie α) : [] ∉ trie.paths := by
  induction trie with
  | empty => exact List.not_mem_nil
  | node byte value below siblings _ siblingsIH => simp [paths, siblingsIH]

/-- The way down to a node starts with its byte, or with that of a sibling. -/
theorem cons_mem_paths_node {byte b : UInt8} {value : Option α} {below siblings : Trie α}
    {rest : List UInt8} :
    b :: rest ∈ (node byte value below siblings).paths ↔
      b = byte ∧ (rest = [] ∨ rest ∈ below.paths) ∨ b :: rest ∈ siblings.paths := by
  simp only [paths, List.cons_append, List.mem_cons, List.mem_append, List.mem_map,
    List.cons.injEq]
  grind

/-- A spelling that has a value has a node. -/
theorem mem_paths_of_get?_isSome {trie : Trie α} {spelling : List UInt8}
    (h : (trie.get? spelling).isSome) : spelling ∈ trie.paths := by
  induction trie generalizing spelling with
  | empty =>
    rw [get?_empty] at h
    cases h
  | node byte value below siblings belowIH siblingsIH =>
    cases spelling with
    | nil =>
      rw [get?_nil] at h
      cases h
    | cons b rest =>
      rw [cons_mem_paths_node]
      rw [get?] at h
      by_cases hbyte : b = byte
      · rw [if_pos hbyte] at h
        by_cases hlast : rest = []
        · exact Or.inl ⟨hbyte, Or.inl hlast⟩
        · rw [if_neg hlast] at h
          exact Or.inl ⟨hbyte, Or.inr (belowIH h)⟩
      · rw [if_neg hbyte] at h
        exact Or.inr (siblingsIH h)

/-- A trie of one spelling has a node for each of its beginnings. -/
theorem mem_paths_single (added : α) {spelling path : List UInt8} :
    path ∈ (single added spelling).paths ↔ path ≠ [] ∧ path <+: spelling := by
  induction spelling generalizing path with
  | nil => simp [single, paths]
  | cons b rest ih =>
    cases path with
    | nil => simp [nil_notMem_paths]
    | cons c tail =>
      rw [List.cons_prefix_cons]
      cases rest with
      | nil => simp [single, paths]
      | cons d rest =>
        rw [single, cons_mem_paths_node, ih]
        · by_cases htail : tail = [] <;> simp [paths, htail]
        · simp

/-- An insertion adds nodes for the beginnings of the spelling. -/
theorem mem_paths_insert (added : α) {trie : Trie α} {spelling path : List UInt8} :
    path ∈ (trie.insert added spelling).paths ↔
      path ∈ trie.paths ∨ path ≠ [] ∧ path <+: spelling := by
  induction trie generalizing spelling path with
  | empty =>
    cases spelling with
    | nil => simp [insert, paths]
    | cons b rest =>
      rw [insert, mem_paths_single]
      · simp [paths]
      · simp
  | node byte value below siblings belowIH siblingsIH =>
    cases spelling with
    | nil => simp [insert]
    | cons b rest =>
      cases path with
      | nil => simp [nil_notMem_paths]
      | cons c tail =>
        rw [List.cons_prefix_cons, insert]
        by_cases hbyte : b = byte
        · subst hbyte
          rw [if_pos rfl]
          by_cases hlast : rest = []
          · subst hlast
            rw [if_pos rfl, cons_mem_paths_node, cons_mem_paths_node, List.prefix_nil]
            grind
          · rw [if_neg hlast, cons_mem_paths_node, cons_mem_paths_node, belowIH]
            grind
        · rw [if_neg hbyte, cons_mem_paths_node, cons_mem_paths_node, siblingsIH,
            List.cons_prefix_cons]
          grind

/-! ## No node twice -/

/-- Each byte leads down at most one way from every point of a trie. -/
def Branches : Trie α → Prop
  | empty => True
  | node byte _ below siblings =>
    (∀ rest, byte :: rest ∉ siblings.paths) ∧ below.Branches ∧ siblings.Branches

theorem branches_single (added : α) (spelling : List UInt8) :
    (single added spelling).Branches := by
  fun_induction single added spelling with
  | case1 => trivial
  | case2 b => exact ⟨fun _ => List.not_mem_nil, trivial, trivial⟩
  | case3 b rest _ ih => exact ⟨fun _ => List.not_mem_nil, ih, trivial⟩

/-- A byte gets a node of its own only where it has none. -/
theorem Branches.insert {trie : Trie α} (h : trie.Branches) (added : α)
    (spelling : List UInt8) : (trie.insert added spelling).Branches := by
  induction trie generalizing spelling with
  | empty =>
    cases spelling with
    | nil => exact h
    | cons b rest => exact branches_single added (b :: rest)
  | node byte value below siblings belowIH siblingsIH =>
    cases spelling with
    | nil => exact h
    | cons b rest =>
      obtain ⟨hother, hbelow, hsiblings⟩ := h
      rw [Trie.insert]
      by_cases hbyte : b = byte
      · rw [if_pos hbyte]
        split
        · exact ⟨hother, hbelow, hsiblings⟩
        · exact ⟨hother, belowIH hbelow rest, hsiblings⟩
      · rw [if_neg hbyte]
        refine ⟨fun tail htail => ?_, hbelow, siblingsIH hsiblings (b :: rest)⟩
        rcases (mem_paths_insert added).mp htail with hthere | ⟨-, hstarts⟩
        · exact hother tail hthere
        · exact hbyte (List.cons_prefix_cons.mp hstarts).1.symm

/-- No two nodes have the same way down. -/
theorem Branches.nodup_paths {trie : Trie α} (h : trie.Branches) : trie.paths.Nodup := by
  induction trie with
  | empty => exact List.nodup_nil
  | node byte value below siblings belowIH siblingsIH =>
    obtain ⟨hother, hbelow, hsiblings⟩ := h
    have hdown : (below.paths.map (byte :: ·)).Nodup :=
      (belowIH hbelow).map List.cons_injective
    have hhere : [byte] ∉ below.paths.map (byte :: ·) := by simp [nil_notMem_paths]
    refine (List.nodup_cons.mpr ⟨hhere, hdown⟩).append (siblingsIH hsiblings) ?_
    -- all these ways start with the byte, and none of a sibling does
    intro path hpath hsibling
    rcases List.mem_cons.mp hpath with rfl | hpath
    · exact hother [] hsibling
    · obtain ⟨rest, -, rfl⟩ := List.mem_map.mp hpath
      exact hother rest hsibling

/-! ## Tries of insertions -/

/-- The beginnings of some spellings, except the empty one. -/
def beginnings (spellings : List (List UInt8)) : Finset (List UInt8) :=
  (spellings.flatMap List.inits).toFinset.erase []

theorem mem_beginnings {spellings : List (List UInt8)} {path : List UInt8} :
    path ∈ beginnings spellings ↔ path ≠ [] ∧ ∃ s ∈ spellings, path <+: s := by
  simp [beginnings]

section OfList

variable (pairs : List (List UInt8 × α))

theorem ofList_concat (pair : List UInt8 × α) :
    ofList (pairs ++ [pair]) = (ofList pairs).insert pair.2 pair.1 := by
  rw [ofList, List.foldl_append]
  rfl

theorem branches_ofList : (ofList pairs).Branches := by
  induction pairs using List.reverseRecOn with
  | nil => trivial
  | append_singleton pairs pair ih =>
    rw [ofList_concat]
    exact ih.insert pair.2 pair.1

theorem mem_paths_ofList {path : List UInt8} :
    path ∈ (ofList pairs).paths ↔ path ∈ beginnings (pairs.map Prod.fst) := by
  induction pairs using List.reverseRecOn with
  | nil => simp [ofList, paths, mem_beginnings]
  | append_singleton pairs pair ih =>
    rw [ofList_concat, mem_paths_insert, ih, mem_beginnings, mem_beginnings, List.map_append]
    simp only [List.mem_append, List.map_singleton, List.mem_singleton, or_and_right,
      exists_or, exists_eq_left, and_or_left]

/-- Besides the point above all nodes, there is one for each beginning. -/
theorem nodeCount_ofList :
    (ofList pairs).nodeCount = 1 + (beginnings (pairs.map Prod.fst)).card := by
  have hpaths : (ofList pairs).paths.toFinset = beginnings (pairs.map Prod.fst) := by
    ext path
    rw [List.mem_toFinset, mem_paths_ofList]
  rw [← hpaths, List.toFinset_card_of_nodup (branches_ofList pairs).nodup_paths, length_paths,
    nodeCount, Nat.add_comm]

/-! ## The answers of a trie of insertions -/

variable {pairs}

/-- A trie has values for the spellings that were inserted. -/
theorem get?_ofList_isSome_iff {spelling : List UInt8} :
    ((ofList pairs).get? spelling).isSome ↔
      spelling ≠ [] ∧ spelling ∈ pairs.map Prod.fst := by
  rw [get?_ofList]
  split
  · rename_i hnil
    simp [hnil]
  · rename_i hnonempty
    rw [List.lookup_isSome_iff, List.mem_map, and_iff_right hnonempty]
    simp only [beq_iff_eq, eq_comm (a := spelling)]

/-- A spelling is free if it was not inserted. -/
theorem isFree_ofList_iff {spelling : List UInt8} :
    (ofList pairs).isFree spelling = true ↔
      spelling ≠ [] ∧ spelling ∉ pairs.map Prod.fst := by
  rw [isFree, Bool.and_eq_true, decide_eq_true_eq, Option.isNone_iff_eq_none,
    ← Option.not_isSome_iff_eq_none, get?_ofList_isSome_iff]
  exact and_congr_right fun hnonempty => not_congr (and_iff_right hnonempty)

open OperatorTable in
/-- A match is the longest of the inserted spellings that the input starts with,
and has its value. -/
theorem longestMatch?_ofList_eq_some_iff {input : List UInt8} {found : α} {length : Nat} :
    (ofList pairs).longestMatch? input = some (found, length) ↔
      ∃ spelling, LongestOf (pairs.map Prod.fst) input spelling ∧
        spelling.length = length ∧ (ofList pairs).get? spelling = some found := by
  rw [longestMatch?_eq_some_iff]
  constructor
  · rintro ⟨hle, hvalue, hlongest⟩
    have hlength := List.length_take_of_le hle
    obtain ⟨hnonempty, hmem⟩ := get?_ofList_isSome_iff.mp (Option.isSome_of_eq_some hvalue)
    refine ⟨_, ⟨hmem, hnonempty, List.take_prefix _ _, ?_⟩, hlength, hvalue⟩
    intro other hother hnonempty hbegins
    rw [hlength]
    exact hlongest other hbegins (get?_ofList_isSome_iff.mpr ⟨hnonempty, hother⟩)
  · rintro ⟨spelling, hspelling, rfl, hvalue⟩
    refine ⟨hspelling.begins.length_le, ?_, ?_⟩
    · rwa [← List.prefix_iff_eq_take.mp hspelling.begins]
    · intro other hbegins hother
      obtain ⟨hnonempty, hmem⟩ := get?_ofList_isSome_iff.mp hother
      exact hspelling.longest other hmem hnonempty hbegins

/-- Nothing is matched where the input starts with no inserted spelling. -/
theorem longestMatch?_ofList_eq_none_iff {input : List UInt8} :
    (ofList pairs).longestMatch? input = none ↔
      ∀ spelling ∈ pairs.map Prod.fst, spelling ≠ [] → ¬spelling <+: input := by
  rw [← Option.not_isSome_iff_eq_none, longestMatch?_isSome_iff, not_exists]
  refine forall_congr' fun spelling => ?_
  rw [get?_ofList_isSome_iff]
  tauto

/-- A trie and a list of the spellings that were inserted are the same table. -/
theorem toTable_ofList :
    (ofList pairs).toTable.longest? =
      (OperatorTable.ofSpellings (pairs.map Prod.fst)).longest? := by
  funext input
  apply Option.ext
  intro length
  show Option.map _ _ = _ ↔ OperatorTable.longestSpelling? _ _ = _
  rw [Option.map_eq_some_iff, OperatorTable.longestSpelling?_eq_some_iff]
  constructor
  · rintro ⟨⟨found, _⟩, hmatch, rfl⟩
    obtain ⟨spelling, hspelling, hlength, -⟩ := longestMatch?_ofList_eq_some_iff.mp hmatch
    exact ⟨spelling, hspelling, hlength⟩
  · rintro ⟨spelling, hspelling, hlength⟩
    obtain ⟨found, hvalue⟩ := Option.isSome_iff_exists.mp
      (get?_ofList_isSome_iff.mpr ⟨hspelling.ne_nil, hspelling.mem⟩)
    exact ⟨(found, length), longestMatch?_ofList_eq_some_iff.mpr
      ⟨spelling, hspelling, hlength, hvalue⟩, rfl⟩

end OfList

end Trie

end CLexicon
