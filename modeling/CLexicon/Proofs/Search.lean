import Mathlib.Data.List.Basic
import Mathlib.Data.List.Pairwise

/-!
# Binary search

Items in the ascending order of their keys, and where a key is among them.

* `rank`: how many items have smaller keys, which is the place of a key.
* `search`: looks at the item in the middle, and goes on in one of the two halves.
  `search_eq` says that it finds the place of a key, and whether there is an item with it.
* `searched?_eq_some_iff` and `rank_succ`: finding an item, and counting up to one.
* `pairwise_insertIdx_rank`: an item that is put in its place keeps the order.
-/

namespace CLexicon.Ascending

variable {α : Type u}

/-- How many items have smaller keys. -/
def rank (key : α → Nat) (target : Nat) (items : List α) : Nat :=
  items.countP (key · < target)

/-- A place behind some others. -/
def shifted (offset : Nat) : Except Nat Nat → Except Nat Nat
  | .ok place => .ok (offset + place)
  | .error place => .error (offset + place)

/-- The place of an item with a key, or else the place where one would be put. -/
def search (key : α → Nat) (target : Nat) (items : List α) : Except Nat Nat :=
  let middle := items.length / 2
  match h : items[middle]? with
  | none => .error 0
  | some item =>
    have := (List.getElem?_eq_some_iff.mp h).1
    if key item = target then .ok middle
    else if key item < target then
      shifted (middle + 1) (search key target (items.drop (middle + 1)))
    else search key target (items.take middle)
termination_by items.length
decreasing_by
  · rw [List.length_drop]
    omega
  · rw [List.length_take]
    omega

/-! ## Ranks -/

section Items

variable {key : α → Nat} {target : Nat} {items before behind : List α} {item : α}

theorem rank_append : rank key target (before ++ behind) =
    rank key target before + rank key target behind :=
  List.countP_append

theorem rank_le_length : rank key target items ≤ items.length :=
  List.countP_le_length

theorem rank_cons_of_lt (h : key item < target) :
    rank key target (item :: behind) = rank key target behind + 1 :=
  List.countP_cons_of_pos (decide_eq_true h)

/-- No items from one on have smaller keys, where that one has none. -/
theorem rank_cons_of_le (h : (item :: behind).Pairwise (key · < key ·)) (hle : target ≤ key item) :
    rank key target (item :: behind) = 0 := by
  rw [rank, List.countP_eq_zero]
  intro other hother
  rw [decide_eq_true_eq, Nat.not_lt]
  rcases List.mem_cons.mp hother with rfl | hbehind
  · exact hle
  · exact Nat.le_trans hle (Nat.le_of_lt (List.rel_of_pairwise_cons h hbehind))

/-- The rank of an item is the place where it stands. -/
theorem rank_of_split (h : (before ++ item :: behind).Pairwise (key · < key ·)) :
    rank key (key item) (before ++ item :: behind) = before.length := by
  obtain ⟨-, hbehind, hacross⟩ := List.pairwise_append.mp h
  rw [rank_append, rank_cons_of_le hbehind (Nat.le_refl _), Nat.add_zero, rank,
    List.countP_eq_length]
  exact fun other hother => decide_eq_true (hacross other hother item List.mem_cons_self)

theorem getElem?_rank_of_mem (h : items.Pairwise (key · < key ·)) (hitem : item ∈ items) :
    items[rank key (key item) items]? = some item := by
  obtain ⟨before, behind, rfl⟩ := List.append_of_mem hitem
  rw [rank_of_split h, List.getElem?_append_right (Nat.le_refl _), Nat.sub_self]
  rfl

/-- All items up to one with a smaller key have smaller keys. -/
theorem rank_split_of_lt (h : (before ++ item :: behind).Pairwise (key · < key ·))
    (hlt : key item < target) :
    rank key target (before ++ item :: behind) = before.length + 1 + rank key target behind := by
  have hbefore : rank key target before = before.length := by
    rw [rank, List.countP_eq_length]
    exact fun other hother => decide_eq_true
      (Nat.lt_trans ((List.pairwise_append.mp h).2.2 other hother item List.mem_cons_self) hlt)
  rw [rank_append, rank_cons_of_lt hlt, hbefore, Nat.add_right_comm, Nat.add_assoc]

theorem rank_split_of_le (h : (before ++ item :: behind).Pairwise (key · < key ·))
    (hle : target ≤ key item) :
    rank key target (before ++ item :: behind) = rank key target before := by
  rw [rank_append, rank_cons_of_le (List.pairwise_append.mp h).2.1 hle, Nat.add_zero]

/-! ## Searching -/

theorem split_of_getElem? {place : Nat} (h : items[place]? = some item) :
    items = items.take place ++ item :: items.drop (place + 1) := by
  obtain ⟨hlt, rfl⟩ := List.getElem?_eq_some_iff.mp h
  rw [List.getElem_cons_drop, List.take_append_drop]

/-- The rank of a key, with whether an item with the key stands there. -/
def located (key : α → Nat) (target : Nat) (items : List α) : Except Nat Nat :=
  if items[rank key target items]?.any (key · = target) then .ok (rank key target items)
  else .error (rank key target items)

theorem located_split_of_eq (h : (before ++ item :: behind).Pairwise (key · < key ·))
    (heq : key item = target) :
    located key target (before ++ item :: behind) = .ok before.length := by
  subst heq
  rw [located, getElem?_rank_of_mem h (by simp), rank_of_split h]
  simp

theorem located_split_of_lt (h : (before ++ item :: behind).Pairwise (key · < key ·))
    (hlt : key item < target) :
    located key target (before ++ item :: behind) =
      shifted (before.length + 1) (located key target behind) := by
  have hplace (place : Nat) : (before ++ item :: behind)[before.length + 1 + place]? =
      behind[place]? := by
    rw [List.getElem?_append_right (by omega), Nat.add_assoc, Nat.add_sub_cancel_left,
      Nat.add_comm 1 place, List.getElem?_cons_succ]
  unfold located
  rw [rank_split_of_lt h hlt, hplace]
  split <;> rfl

theorem located_split_of_gt (h : (before ++ item :: behind).Pairwise (key · < key ·))
    (hgt : target < key item) :
    located key target (before ++ item :: behind) = located key target before := by
  unfold located
  rw [rank_split_of_le h (Nat.le_of_lt hgt)]
  have hle : rank key target before ≤ before.length := rank_le_length
  rcases Nat.lt_or_eq_of_le hle with hlt | hend
  · rw [List.getElem?_append_left hlt]
  · -- the item itself would be found, but it has another key
    rw [hend, List.getElem?_append_right (Nat.le_refl _), Nat.sub_self, List.getElem?_cons_zero,
      List.getElem?_eq_none (Nat.le_refl _)]
    simp [Nat.ne_of_gt hgt]

/-- Search finds the rank of a key, and whether there is an item with it. -/
theorem search_eq (h : items.Pairwise (key · < key ·)) :
    search key target items = located key target items := by
  fun_induction search key target items with
  | case1 items middle hnone =>
    -- only where there are no items, none is in the middle
    have hlength := List.getElem?_eq_none_iff.mp hnone
    obtain rfl : items = [] := List.length_eq_zero_iff.mp (by omega)
    rfl
  | case2 items middle item hsome hmiddle heq =>
    have hsplit := split_of_getElem? hsome
    have hfound := located_split_of_eq (hsplit ▸ h) heq
    rw [← hsplit, List.length_take_of_le (Nat.le_of_lt hmiddle)] at hfound
    exact hfound.symm
  | case3 items middle item hsome hmiddle hne hlt ih =>
    have hsplit := split_of_getElem? hsome
    have hfound := located_split_of_lt (hsplit ▸ h) hlt
    rw [← hsplit, List.length_take_of_le (Nat.le_of_lt hmiddle)] at hfound
    rw [hfound, ih (h.sublist (List.drop_sublist _ _))]
  | case4 items middle item hsome hmiddle hne hge ih =>
    have hsplit := split_of_getElem? hsome
    have hgt : target < key item := by omega
    have hfound := located_split_of_gt (hsplit ▸ h) hgt
    rw [← hsplit] at hfound
    rw [hfound, ih (h.sublist (List.take_sublist _ _))]

theorem search_of_mem (h : items.Pairwise (key · < key ·)) (hitem : item ∈ items) :
    search key (key item) items = .ok (rank key (key item) items) := by
  rw [search_eq h, located, getElem?_rank_of_mem h hitem]
  simp

theorem search_of_notMem (h : items.Pairwise (key · < key ·))
    (hnone : ∀ other ∈ items, key other ≠ target) :
    search key target items = .error (rank key target items) := by
  rw [search_eq h, located]
  cases hthere : items[rank key target items]? with
  | none => rfl
  | some other => simp [hnone other (List.mem_of_getElem? hthere)]

/-- The item with a key, if there is one. -/
def searched? (key : α → Nat) (target : Nat) (items : List α) : Option α :=
  match search key target items with
  | .ok place => items[place]?
  | .error _ => none

theorem searched?_eq_some_iff (h : items.Pairwise (key · < key ·)) :
    searched? key target items = some item ↔ item ∈ items ∧ key item = target := by
  unfold searched?
  constructor
  · intro hfound
    by_cases hkey : ∃ other ∈ items, key other = target
    · obtain ⟨other, hother, rfl⟩ := hkey
      simp only [search_of_mem h hother, getElem?_rank_of_mem h hother] at hfound
      exact Option.some.inj hfound ▸ ⟨hother, rfl⟩
    · push Not at hkey
      simp [search_of_notMem h hkey] at hfound
  · rintro ⟨hitem, rfl⟩
    simp only [search_of_mem h hitem, getElem?_rank_of_mem h hitem]

/-- An item with the key itself counts for the next key. -/
theorem rank_succ (h : items.Pairwise (key · < key ·)) :
    rank key (target + 1) items =
      match search key target items with
      | .ok place => place + 1
      | .error place => place := by
  by_cases hkey : ∃ item ∈ items, key item = target
  · obtain ⟨item, hitem, rfl⟩ := hkey
    obtain ⟨before, behind, rfl⟩ := List.append_of_mem hitem
    have hbehind : rank key (key item + 1) behind = 0 := by
      rw [rank, List.countP_eq_zero]
      intro other hother
      rw [decide_eq_true_eq, Nat.not_lt]
      exact List.rel_of_pairwise_cons (List.pairwise_append.mp h).2.1 hother
    rw [search_of_mem h hitem, rank_of_split h, rank_split_of_lt h (Nat.lt_succ_self _), hbehind]
  · push Not at hkey
    rw [search_of_notMem h hkey]
    refine List.countP_congr fun item hitem => ?_
    have hne := hkey item hitem
    simp only [decide_eq_true_eq]
    omega

/-! ## Inserting -/

/-- An item that is put at its rank keeps the order. -/
theorem pairwise_insertIdx_rank (h : items.Pairwise (key · < key ·))
    (hnew : ∀ other ∈ items, key other ≠ key item) :
    (items.insertIdx (rank key (key item) items) item).Pairwise (key · < key ·) := by
  induction items with
  | nil => exact List.pairwise_singleton _ _
  | cons first rest ih =>
    obtain ⟨hrest, hpairwise⟩ := List.pairwise_cons.mp h
    obtain ⟨hfirst, hnew⟩ := List.forall_mem_cons.mp hnew
    rcases Nat.lt_or_gt_of_ne hfirst with hlt | hgt
    · rw [rank_cons_of_lt hlt, List.insertIdx_succ_cons, List.pairwise_cons]
      refine ⟨fun other hother => ?_, ih hpairwise hnew⟩
      rcases (List.mem_insertIdx rank_le_length).mp hother with rfl | hmem
      · exact hlt
      · exact hrest other hmem
    · rw [rank_cons_of_le h (Nat.le_of_lt hgt), List.insertIdx_zero, List.pairwise_cons]
      refine ⟨fun other hother => ?_, h⟩
      rcases List.mem_cons.mp hother with rfl | hmem
      · exact hgt
      · exact Nat.lt_trans hgt (hrest other hmem)

end Items

end CLexicon.Ascending
