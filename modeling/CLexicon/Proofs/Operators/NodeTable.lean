import CLexicon.Proofs.Operators.Insertions
import CLexicon.Proofs.Search

/-!
# Tries in an array

A trie may be kept as an array of nodes, in which a node names its children by their
places, in the ascending order of their bytes.  Whatever is inserted, such a table
answers as the trie does.

* `NodeTable`: the array, with what it is asked.
* `NodeTable.Ways`: the invariant.  Each node has a way down to it of its own, and its
  children are the nodes that are one byte further down.  `Ways.addChild` is one node
  more, `Ways.reach` all nodes of a spelling.
* `NodeTable.Represents`: the ways are those of a trie, and the values are the same.
  `Represents.insert` is one insertion.
* `ofList_firstWins`: the answers of a trie, and of a table, after any insertions.
-/

namespace CLexicon

variable {α : Type u}

/-- A node of a table: the bytes and places of its children, and the value of the
spelling that ends there, if one does. -/
structure TableNode (α : Type u) where
  children : List (UInt8 × Nat) := []
  value : Option α := none

/-- The nodes of a trie, the one above all others first. -/
structure NodeTable (α : Type u) where
  nodes : Array (TableNode α)

namespace NodeTable

/-- The byte of a child, as a key. -/
def childKey (child : UInt8 × Nat) : Nat :=
  child.1.toNat

/-- The table of no spellings. -/
def empty : NodeTable α :=
  ⟨#[{}]⟩

/-- The children of a node. -/
def children (table : NodeTable α) (place : Nat) : List (UInt8 × Nat) :=
  (table.nodes[place]?.map (·.children)).getD []

/-- The place of the child of a node that stands for a byte. -/
def child? (table : NodeTable α) (place : Nat) (byte : UInt8) : Option Nat :=
  (Ascending.searched? childKey byte.toNat (table.children place)).map Prod.snd

/-- The value of the spelling that ends at a node. -/
def value? (table : NodeTable α) (place : Nat) : Option α :=
  table.nodes[place]?.bind (·.value)

/-- The table with one more node, behind all others, as a child of a node. -/
def addChild (table : NodeTable α) (place : Nat) (byte : UInt8) : NodeTable α :=
  let added := (byte, table.nodes.size)
  ⟨(table.nodes.push {}).modify place fun parent =>
    { parent with
      children := parent.children.insertIdx
        (Ascending.rank childKey byte.toNat parent.children) added }⟩

/-- Goes down from a node, and adds those that are missing on the way. -/
def reach (table : NodeTable α) (place : Nat) : List UInt8 → NodeTable α × Nat
  | [] => (table, place)
  | byte :: rest =>
    match table.child? place byte with
    | some next => table.reach next rest
    | none => (table.addChild place byte).reach table.nodes.size rest

/-- The table with a value at a node. -/
def setValue (table : NodeTable α) (place : Nat) (added : α) : NodeTable α :=
  ⟨table.nodes.modify place fun node => { node with value := some added }⟩

/-- Whether a spelling was free, and the table with a value for it. -/
def insert (table : NodeTable α) (added : α) (spelling : List UInt8) : Bool × NodeTable α :=
  let reached := table.reach 0 spelling
  if spelling = [] then (false, table)
  else if (reached.1.value? reached.2).isSome then (false, reached.1)
  else (true, reached.1.setValue reached.2 added)

/-- The node that some bytes lead down to. -/
def walk? (table : NodeTable α) (place : Nat) : List UInt8 → Option Nat
  | [] => some place
  | byte :: rest => (table.child? place byte).bind fun next => table.walk? next rest

/-- The value of a spelling. -/
def get? (table : NodeTable α) (spelling : List UInt8) : Option α :=
  (table.walk? 0 spelling).bind table.value?

/-- Goes down as far as the input allows, and remembers the last value on the way. -/
def deepest? (table : NodeTable α) (place depth : Nat) (best : Option (α × Nat)) :
    List UInt8 → Option (α × Nat)
  | [] => best
  | byte :: rest =>
    match table.child? place byte with
    | none => best
    | some next =>
      table.deepest? next (depth + 1) (((table.value? next).map (·, depth + 1)).or best) rest

/-- The value and length of the longest spelling that the input starts with. -/
def longestMatch? (table : NodeTable α) (input : List UInt8) : Option (α × Nat) :=
  table.deepest? 0 0 none input

/-- The table of a list of spellings with their values. -/
def ofList (pairs : List (List UInt8 × α)) : NodeTable α :=
  pairs.foldl (fun table (spelling, added) => (table.insert added spelling).2) empty

/-! ## The nodes after one step -/

section Steps

variable {table : NodeTable α} {place : Nat} {byte : UInt8}

theorem size_addChild : (table.addChild place byte).nodes.size = table.nodes.size + 1 := by
  rw [addChild, Array.size_modify, Array.size_push]

/-- A new node has no children, and becomes one of its parent. -/
theorem children_addChild (h : place < table.nodes.size) (other : Nat) :
    (table.addChild place byte).children other =
      if other = place then
        (table.children place).insertIdx (Ascending.rank childKey byte.toNat (table.children place))
          (byte, table.nodes.size)
      else table.children other := by
  unfold children addChild
  dsimp only
  rw [Array.getElem?_modify, Array.getElem?_push]
  by_cases hplace : other = place
  · subst hplace
    rw [if_pos rfl, if_pos rfl, if_neg (Nat.ne_of_lt h), Array.getElem?_eq_getElem h]
    rfl
  · rw [if_neg (Ne.symm hplace), if_neg hplace]
    split
    · rename_i hlast
      rw [hlast, Array.getElem?_eq_none (Nat.le_refl _)]
      rfl
    · rfl

/-- A new node has no value, and the others keep theirs. -/
theorem value?_addChild (other : Nat) :
    (table.addChild place byte).value? other = table.value? other := by
  unfold value? addChild
  dsimp only
  rw [Array.getElem?_modify, Array.getElem?_push]
  by_cases hlast : other = table.nodes.size
  · rw [if_pos hlast, hlast, Array.getElem?_eq_none (Nat.le_refl _)]
    split <;> rfl
  · rw [if_neg hlast]
    split
    · rw [Option.bind_map]
      rfl
    · rfl

theorem children_setValue (added : α) (other : Nat) :
    (table.setValue place added).children other = table.children other := by
  unfold children setValue
  dsimp only
  rw [Array.getElem?_modify]
  split
  · rw [Option.map_map]
    rfl
  · rfl

theorem value?_setValue (h : place < table.nodes.size) (added : α) (other : Nat) :
    (table.setValue place added).value? other =
      if other = place then some added else table.value? other := by
  unfold value? setValue
  dsimp only
  rw [Array.getElem?_modify]
  by_cases hplace : other = place
  · subst hplace
    rw [if_pos rfl, if_pos rfl, Array.getElem?_eq_getElem h]
    rfl
  · rw [if_neg (Ne.symm hplace), if_neg hplace]

end Steps

/-! ## Ways down -/

/-- The ways down to the nodes of a table, each in the place of its node. -/
structure Ways (table : NodeTable α) (ways : List (List UInt8)) : Prop where
  length : ways.length = table.nodes.size
  root : ways[0]? = some []
  nodup : ways.Nodup
  closed : ∀ {way byte}, way ++ [byte] ∈ ways → way ∈ ways
  ascending : ∀ place, (table.children place).Pairwise (childKey · < childKey ·)
  children : ∀ {place way}, ways[place]? = some way → ∀ {byte next},
    (byte, next) ∈ table.children place ↔ ways[next]? = some (way ++ [byte])

namespace Ways

variable {table : NodeTable α} {ways : List (List UInt8)} {place next : Nat}
  {way path : List UInt8} {byte : UInt8}

theorem empty : (NodeTable.empty : NodeTable α).Ways [[]] := by
  have hchildren (place : Nat) : (NodeTable.empty : NodeTable α).children place = [] := by
    cases place <;> rfl
  constructor
  case length => rfl
  case root => rfl
  case nodup => exact List.nodup_singleton []
  case closed => simp
  case ascending =>
    intro place
    rw [hchildren]
    exact List.Pairwise.nil
  case children =>
    intro place way hway byte next
    rw [hchildren]
    simp [List.getElem?_singleton]

/-- A way has one place only. -/
theorem place_unique (h : table.Ways ways) (hplace : ways[place]? = some way)
    (hnext : ways[next]? = some way) : place = next :=
  (List.getElem?_inj (List.getElem?_eq_some_iff.mp hplace).1 h.nodup).mp (hplace.trans hnext.symm)

/-- A child is one byte further down. -/
theorem child?_eq_some_iff (h : table.Ways ways) (hway : ways[place]? = some way) :
    table.child? place byte = some next ↔ ways[next]? = some (way ++ [byte]) := by
  rw [child?, Option.map_eq_some_iff, ← h.children hway]
  constructor
  · rintro ⟨⟨b, _⟩, hfound, rfl⟩
    obtain ⟨hmem, hkey⟩ := (Ascending.searched?_eq_some_iff (h.ascending place)).mp hfound
    obtain rfl : b = byte := UInt8.toNat_inj.mp hkey
    exact hmem
  · intro hmem
    exact ⟨(byte, next), (Ascending.searched?_eq_some_iff (h.ascending place)).mpr ⟨hmem, rfl⟩, rfl⟩

/-- With a way, all that leads there is among the ways. -/
theorem mem_of_append (h : table.Ways ways) (hmem : way ++ path ∈ ways) : way ∈ ways := by
  induction path using List.reverseRecOn with
  | nil => rwa [List.append_nil] at hmem
  | append_singleton path byte ih =>
    rw [← List.append_assoc] at hmem
    exact ih (h.closed hmem)

/-- Some bytes lead to the node that is those bytes further down. -/
theorem walk?_eq_some_iff (h : table.Ways ways) (hway : ways[place]? = some way) :
    table.walk? place path = some next ↔ ways[next]? = some (way ++ path) := by
  induction path generalizing place way with
  | nil =>
    rw [walk?, List.append_nil, Option.some_inj]
    exact ⟨fun hsame => hsame ▸ hway, h.place_unique hway⟩
  | cons byte path ih =>
    rw [walk?, Option.bind_eq_some_iff]
    have hstep : way ++ byte :: path = (way ++ [byte]) ++ path := by simp
    rw [hstep]
    constructor
    · rintro ⟨child, hchild, hwalk⟩
      exact (ih ((h.child?_eq_some_iff hway).mp hchild)).mp hwalk
    · intro hnext
      -- the node on the way is there, because the one further down is
      obtain ⟨child, hchild⟩ := List.getElem?_of_mem (h.mem_of_append (List.mem_of_getElem? hnext))
      exact ⟨child, (h.child?_eq_some_iff hway).mpr hchild, (ih hchild).mpr hnext⟩

/-! ## One node more -/

theorem getElem?_concat_eq_some_iff {last : List UInt8} :
    (ways ++ [last])[place]? = some way ↔
      ways[place]? = some way ∨ place = ways.length ∧ way = last := by
  rcases Nat.lt_trichotomy place ways.length with hlt | rfl | hgt
  · rw [List.getElem?_append_left hlt]
    simp [Nat.ne_of_lt hlt]
  · simp [eq_comm]
  · rw [List.getElem?_eq_none (by rw [List.length_append, List.length_singleton]; omega),
      List.getElem?_eq_none (Nat.le_of_lt hgt)]
    simp [Nat.ne_of_gt hgt]

/-- A way that is not there yet gets a node behind all others. -/
theorem addChild (h : table.Ways ways) (hway : ways[place]? = some way)
    (hnew : way ++ [byte] ∉ ways) :
    (table.addChild place byte).Ways (ways ++ [way ++ [byte]]) := by
  have hplace : place < table.nodes.size := by
    rw [← h.length]
    exact (List.getElem?_eq_some_iff.mp hway).1
  constructor
  case length => rw [size_addChild, List.length_append, h.length, List.length_singleton]
  case root => exact getElem?_concat_eq_some_iff.mpr (Or.inl h.root)
  case nodup => exact List.nodup_append_comm.mp (List.nodup_cons.mpr ⟨hnew, h.nodup⟩)
  case closed =>
    intro other b hmem
    rcases List.mem_append.mp hmem with hold | hlast
    · exact List.mem_append_left _ (h.closed hold)
    · obtain ⟨rfl, -⟩ := List.append_inj' (List.mem_singleton.mp hlast) rfl
      exact List.mem_append_left _ (List.mem_of_getElem? hway)
  case ascending =>
    intro other
    rw [children_addChild hplace]
    split
    · have hother : ∀ child ∈ table.children place,
          childKey child ≠ childKey (byte, table.nodes.size) := by
        rintro ⟨b, next⟩ hchild hkey
        obtain rfl : b = byte := UInt8.toNat_inj.mp hkey
        exact hnew (List.mem_of_getElem? ((h.children hway).mp hchild))
      exact Ascending.pairwise_insertIdx_rank (h.ascending place) hother
    · exact h.ascending other
  case children =>
    intro other way' hway' b next
    rw [children_addChild hplace, getElem?_concat_eq_some_iff]
    rcases getElem?_concat_eq_some_iff.mp hway' with hold | ⟨hlast, rfl⟩
    · by_cases hparent : other = place
      · -- the parent has one child more
        subst hparent
        obtain rfl : way' = way := Option.some.inj (hold.symm.trans hway)
        rw [if_pos rfl, List.mem_insertIdx Ascending.rank_le_length, h.children hway, h.length]
        simp [and_comm, or_comm]
      · -- the others have the children that they had
        rw [if_neg hparent, h.children hold]
        refine (or_iff_left ?_).symm
        rintro ⟨-, hsame⟩
        obtain ⟨rfl, -⟩ := List.append_inj' hsame rfl
        exact hparent (h.place_unique hold hway)
    · -- nothing is further down than the new node
      have hnone : table.children other = [] := by
        rw [NodeTable.children, hlast, h.length, Array.getElem?_eq_none (Nat.le_refl _)]
        rfl
      rw [if_neg (by rw [hlast, h.length]; exact Nat.ne_of_gt hplace), hnone]
      simp only [List.not_mem_nil, false_iff, not_or]
      exact ⟨fun hfurther => hnew (h.closed (List.mem_of_getElem? hfurther)), by simp⟩

/-- Going down adds the nodes that are missing on the way, and changes no value. -/
theorem reach (h : table.Ways ways) (hway : ways[place]? = some way) (path : List UInt8) :
    ∃ more, (table.reach place path).1.Ways (ways ++ more) ∧
      (ways ++ more)[(table.reach place path).2]? = some (way ++ path) ∧
      (∀ added ∈ more, added <+: way ++ path) ∧
      ∀ other, (table.reach place path).1.value? other = table.value? other := by
  induction path generalizing table ways place way with
  | nil =>
    refine ⟨[], ?_, ?_, by simp, fun _ => rfl⟩
    · rwa [List.append_nil]
    · rwa [List.append_nil, List.append_nil]
  | cons byte path ih =>
    have hstep : way ++ byte :: path = (way ++ [byte]) ++ path := by simp
    rw [NodeTable.reach, hstep]
    cases hchild : table.child? place byte with
    | some next => exact ih h ((h.child?_eq_some_iff hway).mp hchild)
    | none =>
      have hnew : way ++ [byte] ∉ ways := by
        intro hmem
        obtain ⟨next, hnext⟩ := List.getElem?_of_mem hmem
        rw [(h.child?_eq_some_iff hway).mpr hnext] at hchild
        cases hchild
      have hlast : (ways ++ [way ++ [byte]])[table.nodes.size]? = some (way ++ [byte]) :=
        getElem?_concat_eq_some_iff.mpr (Or.inr ⟨h.length.symm, rfl⟩)
      obtain ⟨more, hways, hreached, hmore, hvalue⟩ := ih (h.addChild hway hnew) hlast
      rw [List.append_assoc] at hways hreached
      refine ⟨(way ++ [byte]) :: more, hways, hreached, ?_, fun other => ?_⟩
      · exact List.forall_mem_cons.mpr ⟨List.prefix_append _ _, hmore⟩
      · exact (hvalue other).trans (value?_addChild other)

theorem setValue (h : table.Ways ways) (added : α) : (table.setValue place added).Ways ways where
  length := h.length.trans Array.size_modify.symm
  root := h.root
  nodup := h.nodup
  closed := h.closed
  ascending other := by
    rw [children_setValue]
    exact h.ascending other
  children hway _ _ := by
    rw [children_setValue]
    exact h.children hway

end Ways

/-! ## Tables of tries -/

/-- A table has the nodes and the values of a trie. -/
structure Represents (table : NodeTable α) (ways : List (List UInt8)) (trie : Trie α) : Prop where
  laid : table.Ways ways
  mem_ways : ∀ {way}, way ∈ ways ↔ way = [] ∨ way ∈ trie.paths
  value? : ∀ {place way}, ways[place]? = some way → table.value? place = trie.get? way

namespace Represents

variable {table : NodeTable α} {ways : List (List UInt8)} {trie : Trie α}

theorem empty : (NodeTable.empty : NodeTable α).Represents [[]] Trie.empty where
  laid := Ways.empty
  mem_ways := by simp [Trie.paths]
  value? {place way} _ := by
    rw [Trie.get?_empty]
    cases place <;> rfl

/-- There are no values where there is no node. -/
theorem get?_eq_none (h : table.Represents ways trie) {way : List UInt8} (hway : way ∉ ways) :
    trie.get? way = none := by
  rw [← Option.not_isSome_iff_eq_none]
  exact fun hvalue => hway (h.mem_ways.mpr (Or.inr (Trie.mem_paths_of_get?_isSome hvalue)))

/-- The nodes that are added on the way down have no values, and neither has the trie. -/
theorem value?_reach (h : table.Represents ways trie) {more : List (List UInt8)}
    {grown : NodeTable α} (hlaid : grown.Ways (ways ++ more))
    (hvalue : ∀ other, grown.value? other = table.value? other) {place : Nat} {way : List UInt8}
    (hway : (ways ++ more)[place]? = some way) : grown.value? place = trie.get? way := by
  rw [hvalue]
  rcases Nat.lt_or_ge place ways.length with hlt | hge
  · rw [List.getElem?_append_left hlt] at hway
    exact h.value? hway
  · rw [List.getElem?_append_right hge] at hway
    have hnew : way ∉ ways := fun hold =>
      (List.nodup_append.mp hlaid.nodup).2.2 way hold way (List.mem_of_getElem? hway) rfl
    rw [h.get?_eq_none hnew, NodeTable.value?, Array.getElem?_eq_none (by rwa [← h.laid.length])]
    rfl

/-- An insertion adds the nodes that one into the trie adds. -/
theorem mem_ways_reach (h : table.Represents ways trie) {more : List (List UInt8)}
    {grown : NodeTable α} {place : Nat} {spelling : List UInt8}
    (hlaid : grown.Ways (ways ++ more)) (hreached : (ways ++ more)[place]? = some spelling)
    (hmore : ∀ way ∈ more, way <+: spelling) (added : α) (way : List UInt8) :
    way ∈ ways ++ more ↔ way = [] ∨ way ∈ (trie.insert added spelling).paths := by
  rw [Trie.mem_paths_insert]
  constructor
  · intro hmem
    rcases List.mem_append.mp hmem with hold | hnew
    · exact (h.mem_ways.mp hold).imp_right Or.inl
    · rcases eq_or_ne way [] with hnil | hnonempty
      · exact Or.inl hnil
      · exact Or.inr (Or.inr ⟨hnonempty, hmore way hnew⟩)
  · rintro (rfl | hpath | ⟨-, rest, rfl⟩)
    · exact List.mem_append_left _ (h.mem_ways.mpr (Or.inl rfl))
    · exact List.mem_append_left _ (h.mem_ways.mpr (Or.inr hpath))
    · exact hlaid.mem_of_append (List.mem_of_getElem? hreached)

/-- An insertion tells whether the spelling was free, and is one into the trie. -/
theorem insert (h : table.Represents ways trie) (added : α) (spelling : List UInt8) :
    (table.insert added spelling).1 = trie.isFree spelling ∧
      ∃ ways', (table.insert added spelling).2.Represents ways' (trie.insert added spelling) := by
  rcases eq_or_ne spelling [] with rfl | hnonempty
  · have hfree : trie.isFree [] = false := rfl
    rw [(Trie.insert_eq_self_iff added trie []).mpr hfree]
    exact ⟨rfl, ways, h⟩
  obtain ⟨more, hlaid, hreached, hmore, hvalue⟩ := h.laid.reach h.laid.root spelling
  rw [List.nil_append] at hreached hmore
  have hmem := h.mem_ways_reach hlaid hreached hmore added
  have hfree : trie.isFree spelling = (trie.get? spelling).isNone := by
    simp [Trie.isFree, hnonempty]
  unfold NodeTable.insert
  dsimp only
  rw [if_neg hnonempty, h.value?_reach hlaid hvalue hreached, hfree]
  cases hget : trie.get? spelling with
  | some there =>
    have hsame : trie.insert added spelling = trie :=
      Trie.insert_of_get?_isSome added (by rw [hget]; rfl)
    rw [hsame] at hmem ⊢
    exact ⟨rfl, ways ++ more, hlaid, hmem _, h.value?_reach hlaid hvalue⟩
  | none =>
    refine ⟨rfl, ways ++ more, hlaid.setValue added, hmem _, fun {place way} hway => ?_⟩
    have hplace : (table.reach 0 spelling).2 < (table.reach 0 spelling).1.nodes.size := by
      rw [← hlaid.length]
      exact (List.getElem?_eq_some_iff.mp hreached).1
    show NodeTable.value? (setValue _ _ _) _ = _
    rw [value?_setValue hplace, Trie.get?_insert, h.value?_reach hlaid hvalue hway]
    by_cases hhere : place = (table.reach 0 spelling).2
    · subst hhere
      obtain rfl : way = spelling := Option.some.inj (hway.symm.trans hreached)
      rw [if_pos rfl, hget, if_pos ⟨rfl, hnonempty⟩, Option.none_or]
    · have hother : way ≠ spelling := by
        rintro rfl
        exact hhere (hlaid.place_unique hway hreached)
      rw [if_neg hhere, if_neg fun hsame => hother hsame.1, Option.or_none]

/-! ## The same answers -/

theorem get?_eq (h : table.Represents ways trie) (spelling : List UInt8) :
    table.get? spelling = trie.get? spelling := by
  unfold NodeTable.get?
  cases hwalk : table.walk? 0 spelling with
  | some place => exact h.value? ((h.laid.walk?_eq_some_iff h.laid.root).mp hwalk)
  | none =>
    have hnew : spelling ∉ ways := by
      intro hmem
      obtain ⟨place, hplace⟩ := List.getElem?_of_mem hmem
      rw [(h.laid.walk?_eq_some_iff h.laid.root).mpr hplace] at hwalk
      cases hwalk
    exact (h.get?_eq_none hnew).symm

/-- A table has as many nodes as the trie. -/
theorem size_eq (h : table.Represents ways trie) (hbranches : trie.Branches) :
    table.nodes.size = trie.nodeCount := by
  have hnodup : ([] :: trie.paths).Nodup :=
    List.nodup_cons.mpr ⟨Trie.nil_notMem_paths trie, hbranches.nodup_paths⟩
  have hperm : ways.Perm ([] :: trie.paths) := by
    refine (List.perm_ext_iff_of_nodup h.laid.nodup hnodup).mpr fun way => ?_
    rw [h.mem_ways, List.mem_cons]
  rw [← h.laid.length, hperm.length_eq, List.length_cons, Trie.length_paths, Trie.nodeCount]

end Represents

section Matches

variable {table : NodeTable α}

/-- Where there are no values further down, the best match stays. -/
theorem deepest?_of_none {place : Nat} {input : List UInt8}
    (h : ∀ path, path ≠ [] → path <+: input → (table.walk? place path).bind table.value? = none)
    (depth : Nat) (best : Option (α × Nat)) :
    table.deepest? place depth best input = best := by
  induction input generalizing place depth best with
  | nil => rfl
  | cons byte rest ih =>
    rw [deepest?]
    cases hchild : table.child? place byte with
    | none => rfl
    | some next =>
      have hvalue := h [byte] (by simp) (by simp)
      simp only [walk?, hchild, Option.bind_some] at hvalue
      dsimp only
      rw [hvalue, Option.map_none, Option.none_or]
      refine ih (fun path hpath hstarts => ?_) (depth + 1) best
      have hfurther := h (byte :: path) (by simp) (List.cons_prefix_cons.mpr ⟨rfl, hstarts⟩)
      rwa [walk?, hchild, Option.bind_some] at hfurther

/-- Without a child for the first byte of the input there is no match. -/
theorem longestMatch?_of_child?_eq_none {trie : Trie α} {place : Nat} {byte : UInt8}
    {rest : List UInt8} (hchild : table.child? place byte = none)
    (h : ∀ path, path ≠ [] → path <+: byte :: rest →
      (table.walk? place path).bind table.value? = trie.get? path) :
    trie.longestMatch? (byte :: rest) = none := by
  rw [← Option.not_isSome_iff_eq_none, Trie.longestMatch?_isSome_iff]
  rintro ⟨path, hstarts, hvalue⟩
  cases path with
  | nil =>
    rw [Trie.get?_nil] at hvalue
    cases hvalue
  | cons b tail =>
    obtain ⟨rfl, -⟩ := List.cons_prefix_cons.mp hstarts
    rw [← h _ (by simp) hstarts, walk?, hchild] at hvalue
    cases hvalue

/-- Going down finds the longest match of a trie with the values further down. -/
theorem deepest?_eq {trie : Trie α} {place : Nat} {input : List UInt8}
    (h : ∀ path, path ≠ [] → path <+: input →
      (table.walk? place path).bind table.value? = trie.get? path)
    (depth : Nat) (best : Option (α × Nat)) :
    table.deepest? place depth best input =
      ((trie.longestMatch? input).map fun (found, length) => (found, depth + length)).or best := by
  induction trie generalizing input place depth best with
  | empty =>
    have hnone : (Trie.empty : Trie α).longestMatch? input = none := by
      cases input <;> rfl
    rw [hnone]
    refine deepest?_of_none (fun path hpath hstarts => ?_) depth best
    rw [h path hpath hstarts, Trie.get?_empty]
  | node byte value below siblings belowIH siblingsIH =>
    cases input with
    | nil => rfl
    | cons b rest =>
      by_cases hbyte : b = byte
      · subst hbyte
        rw [deepest?]
        cases hchild : table.child? place b with
        | none =>
          rw [longestMatch?_of_child?_eq_none hchild h]
          rfl
        | some next =>
          have hvalue := h [b] (by simp) (by simp)
          simp only [walk?, hchild, Option.bind_some, Trie.get?, if_true] at hvalue
          have hbelow : ∀ path, path ≠ [] → path <+: rest →
              (table.walk? next path).bind table.value? = below.get? path := by
            intro path hpath hstarts
            have hfurther := h (b :: path) (by simp) (List.cons_prefix_cons.mpr ⟨rfl, hstarts⟩)
            rwa [walk?, hchild, Option.bind_some, Trie.get?, if_pos rfl, if_neg hpath] at hfurther
          dsimp only
          rw [belowIH hbelow, hvalue, Trie.longestMatch?, if_pos rfl]
          cases below.longestMatch? rest <;> cases value <;>
            simp [Nat.add_comm, Nat.add_left_comm]
      · rw [Trie.longestMatch?, if_neg hbyte]
        refine siblingsIH (fun path hpath hstarts => ?_) depth best
        rw [h path hpath hstarts]
        obtain ⟨c, tail, rfl⟩ := List.exists_cons_of_ne_nil hpath
        obtain ⟨rfl, -⟩ := List.cons_prefix_cons.mp hstarts
        rw [Trie.get?, if_neg hbyte]

theorem longestMatch?_eq {trie : Trie α} (h : ∀ spelling, table.get? spelling = trie.get? spelling)
    (input : List UInt8) : table.longestMatch? input = trie.longestMatch? input := by
  rw [longestMatch?, deepest?_eq fun path _ _ => h path]
  simp

end Matches

theorem ofList_concat (pairs : List (List UInt8 × α)) (pair : List UInt8 × α) :
    ofList (pairs ++ [pair]) = ((ofList pairs).insert pair.2 pair.1).2 := by
  rw [ofList, List.foldl_append]
  rfl

/-- The same insertions make a table of the trie. -/
theorem represents_ofList (pairs : List (List UInt8 × α)) :
    ∃ ways, (ofList pairs).Represents ways (Trie.ofList pairs) := by
  induction pairs using List.reverseRecOn with
  | nil => exact ⟨[[]], Represents.empty⟩
  | append_singleton pairs pair ih =>
    obtain ⟨ways, h⟩ := ih
    rw [ofList_concat, Trie.ofList_concat]
    exact (h.insert pair.2 pair.1).2

end NodeTable

open Trie OperatorTable in
/-- A trie that spellings were inserted into, in whatever order and with whatever
repetitions, is a finite map in which the first value of a spelling wins.  So is the
table of its nodes.

* The next insertion changes it exactly if its spelling is free, which is to say not
  empty and not among those before.
* A spelling has the value that came first with it, and the empty one has none.
* A match is the longest inserted spelling that the input starts with, and its value.
  As to its length, a list of the spellings that looks at all of them says the same.
* There is one node for each beginning of a spelling, and the one above them all. -/
theorem ofList_firstWins (pairs : List (List UInt8 × α)) :
    let trie := Trie.ofList pairs
    let table := NodeTable.ofList pairs
    let spellings := pairs.map Prod.fst
    (∀ spelling added,
      (trie.isFree spelling = true ↔ spelling ≠ [] ∧ spelling ∉ spellings) ∧
      (trie.insert added spelling ≠ trie ↔ trie.isFree spelling = true) ∧
      (table.insert added spelling).1 = trie.isFree spelling) ∧
    (∀ spelling,
      trie.get? spelling = (if spelling = [] then none else pairs.lookup spelling) ∧
      table.get? spelling = trie.get? spelling) ∧
    (∀ input,
      (∀ found length, trie.longestMatch? input = some (found, length) ↔
        ∃ spelling, LongestOf spellings input spelling ∧
          spelling.length = length ∧ trie.get? spelling = some found) ∧
      (trie.longestMatch? input = none ↔
        ∀ spelling ∈ spellings, spelling ≠ [] → ¬spelling <+: input) ∧
      trie.toTable.longest? input = (ofSpellings spellings).longest? input ∧
      table.longestMatch? input = trie.longestMatch? input) ∧
    trie.nodeCount = 1 + (beginnings spellings).card ∧
    table.nodes.size = trie.nodeCount := by
  intro trie table spellings
  obtain ⟨ways, h⟩ := NodeTable.represents_ofList pairs
  refine ⟨fun spelling added => ⟨isFree_ofList_iff, ?_, (h.insert added spelling).1⟩,
    fun spelling => ⟨get?_ofList pairs spelling, h.get?_eq spelling⟩,
    fun input => ⟨?_, ?_, ?_, NodeTable.longestMatch?_eq h.get?_eq input⟩,
    nodeCount_ofList pairs, h.size_eq (branches_ofList pairs)⟩
  · rw [Ne, insert_eq_self_iff, Bool.not_eq_false]
  · exact fun found length => longestMatch?_ofList_eq_some_iff
  · exact longestMatch?_ofList_eq_none_iff
  · rw [toTable_ofList]

end CLexicon
