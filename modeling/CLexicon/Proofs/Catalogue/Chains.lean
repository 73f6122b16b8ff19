import CLexicon.Proofs.Catalogue.Redirects
import Mathlib.Data.Finset.Card
import Mathlib.Data.List.Chain

/-!
# How far the walk from a redirect goes

The walk from a redirect has no counter.  It ends because it remembers the ids where
it was, and goes on only from an id that it has not seen and that a redirect has.

* `Stub.Walked`: a walk turn by turn, with the ids that it looks at.
* `Stub.Walked.length_le`: each turn but the last uses up an id of a redirect.
* `Stub.Walked.isChain_step`, `Stub.Walked.nodup`, `Stub.Walked.eq_of_cycle`: what the
  ids are that a walk looks at, and what they have to do with the chain of a cycle.
* `redirects_terminate`: the walk from any redirect, among any redirects and entries.
-/

namespace CLexicon

open Redirect

namespace Stub

/-- A walk that has come through the ids of a chain and goes on at a target: the ids that
it looks at from there, and where it ends. -/
inductive Walked (entries : List Entry) (stubs : List Stub) :
    List String → String → List String → Resolution → Prop where
  /-- The target names an entry. -/
  | arrives {chain target entry} (hnamed : named? entries target = some entry) :
      Walked entries stubs chain target [target] (.entry entry.id)
  /-- The target names nothing. -/
  | dangles {chain target} (hnamed : named? entries target = none)
      (hstub : withId? stubs target = none) :
      Walked entries stubs chain target [target] (.dangling target)
  /-- The target names a redirect, and the walk was there before. -/
  | closes {chain target next} (hnamed : named? entries target = none)
      (hstub : withId? stubs target = some next) (hseen : target ∈ chain) :
      Walked entries stubs chain target [target] (.cycle (chain ++ [target]))
  /-- The target names a redirect, and the walk goes on at the target of that. -/
  | goesOn {chain target next looked outcome} (hnamed : named? entries target = none)
      (hstub : withId? stubs target = some next) (hnew : target ∉ chain)
      (hrest : Walked entries stubs (chain ++ [target]) next.target looked outcome) :
      Walked entries stubs chain target (target :: looked) outcome

/-- The ids of redirects, each of them once. -/
def rawIds (stubs : List Stub) : Finset String :=
  (stubs.map Stub.rawId).toFinset

/-- What is said of a redirect by the chain of ids that is reported when it never reaches
an entry. -/
structure ClosesChain (stubs : List Stub) (s : Stub) (chain : List String) : Prop where
  /-- The chain starts with the id of the redirect. -/
  first : chain[0]? = some s.rawId
  /-- The target of the redirect comes next. -/
  second : chain[1]? = some s.target
  /-- Behind that, each id is the target of the first redirect with the id before it. -/
  further : ∀ place id next, 0 < place → chain[place]? = some id →
    chain[place + 1]? = some next → ∃ stub, withId? stubs id = some stub ∧ stub.target = next
  /-- All ids but the last are distinct. -/
  distinct : chain.dropLast.Nodup
  /-- The last id is an earlier one too. -/
  repeated : ∃ last, chain.getLast? = some last ∧ last ∈ chain.dropLast

section Turns

variable {entries : List Entry} {stubs : List Stub} {chain looked : List String}
  {target : String} {outcome : Resolution}

theorem exists_walked (entries : List Entry) (stubs : List Stub) (chain : List String)
    (target : String) :
    ∃ looked, Walked entries stubs chain target looked (walk entries stubs chain target) := by
  fun_induction walk entries stubs chain target with
  | case1 chain target entry hnamed => exact ⟨_, .arrives hnamed⟩
  | case2 chain target hnamed hstub => exact ⟨_, .dangles hnamed hstub⟩
  | case3 chain target hnamed next hstub hseen => exact ⟨_, .closes hnamed hstub hseen⟩
  | case4 chain target hnamed next hstub hnew ih =>
    obtain ⟨looked, hrest⟩ := ih
    exact ⟨_, .goesOn hnamed hstub hnew hrest⟩

/-- What is looked up at an id decides the turn, so a walk takes one course only. -/
theorem Walked.unique {other : List String} {result : Resolution}
    (h : Walked entries stubs chain target looked outcome)
    (hother : Walked entries stubs chain target other result) :
    other = looked ∧ result = outcome := by
  induction h generalizing other result with
  | arrives hnamed => cases hother <;> simp_all
  | dangles hnamed hstub => cases hother <;> simp_all
  | closes hnamed hstub hseen => cases hother <;> simp_all
  | goesOn hnamed hstub hnew hrest ih =>
    cases hother with
    | arrives hnamed' => rw [hnamed] at hnamed'; cases hnamed'
    | dangles _ hstub' => rw [hstub] at hstub'; cases hstub'
    | closes _ _ hseen => exact absurd hseen hnew
    | goesOn _ hstub' _ hrest' =>
      obtain rfl := Option.some.inj (hstub.symm.trans hstub')
      obtain ⟨rfl, rfl⟩ := ih hrest'
      exact ⟨rfl, rfl⟩

/-- The first id that a walk looks at is its target. -/
theorem Walked.exists_eq_cons (h : Walked entries stubs chain target looked outcome) :
    ∃ rest, looked = target :: rest := by
  cases h <;> exact ⟨_, rfl⟩

/-- From one id that is looked at to the next the walk makes a step. -/
theorem Walked.isChain_step (h : Walked entries stubs chain target looked outcome) :
    looked.IsChain (Step entries stubs) := by
  induction h with
  | arrives | dangles | closes => exact .singleton _
  | goesOn hnamed hstub _ hrest ih =>
    obtain ⟨rest, rfl⟩ := hrest.exists_eq_cons
    exact .cons_cons ⟨hnamed, _, hstub, rfl⟩ ih

/-- No id but the last that is looked at stands in the chain before. -/
theorem Walked.nodup (h : Walked entries stubs chain target looked outcome)
    (hchain : chain.Nodup) : (chain ++ looked.dropLast).Nodup := by
  induction h with
  | arrives | dangles | closes => simpa using hchain
  | goesOn _ _ hnew hrest ih =>
    rw [← List.concat_eq_append] at ih
    have hnext := ih (hchain.concat hnew)
    obtain ⟨rest, rfl⟩ := hrest.exists_eq_cons
    rwa [List.concat_eq_append, List.append_assoc] at hnext

/-- The chain of a cycle is what was looked at, and its last id was there before. -/
theorem Walked.eq_of_cycle {cycle : List String}
    (h : Walked entries stubs chain target looked (.cycle cycle)) :
    cycle = chain ++ looked ∧
      ∃ last, looked.getLast? = some last ∧ last ∈ chain ++ looked.dropLast := by
  generalize houtcome : Resolution.cycle cycle = outcome at h
  induction h with
  | arrives | dangles => cases houtcome
  | @closes chain target _ _ _ hseen =>
    obtain rfl := Resolution.cycle.inj houtcome
    exact ⟨rfl, target, rfl, by simpa using hseen⟩
  | goesOn _ _ _ hrest ih =>
    obtain ⟨rfl, last, hlast, hmem⟩ := ih houtcome
    obtain ⟨rest, rfl⟩ := hrest.exists_eq_cons
    rw [List.append_assoc] at hmem
    exact ⟨by rw [List.append_assoc]; rfl, last, hlast, hmem⟩

/-- An id from which the walk goes on is one of a redirect, and not yet in the chain. -/
theorem card_rawIds_sdiff_lt {next : Stub} (hstub : withId? stubs target = some next)
    (hnew : target ∉ chain) :
    (rawIds stubs \ (chain ++ [target]).toFinset).card <
      (rawIds stubs \ chain.toFinset).card := by
  have hmem : target ∈ rawIds stubs \ chain.toFinset := by
    rw [Finset.mem_sdiff, rawIds, List.mem_toFinset, List.mem_toFinset]
    exact ⟨List.mem_map.mpr ⟨next, List.mem_of_find?_eq_some hstub, rawId_of_withId? hstub⟩, hnew⟩
  apply Finset.card_lt_card
  refine Finset.ssubset_iff_of_subset ?_ |>.mpr ⟨target, hmem, by simp⟩
  exact Finset.sdiff_subset_sdiff (Finset.Subset.refl _) (by simp)

/-- A walk looks at no more ids than redirects have outside of its chain, and one. -/
theorem Walked.length_le (h : Walked entries stubs chain target looked outcome) :
    looked.length ≤ (rawIds stubs \ chain.toFinset).card + 1 := by
  induction h with
  | arrives | dangles | closes => simp
  | goesOn _ hstub hnew _ ih =>
    have hless := card_rawIds_sdiff_lt hstub hnew
    rw [List.length_cons]
    omega

end Turns

/-- What is looked at on the way round closes the chain of the redirect. -/
theorem Walked.closesChain {entries : List Entry} {stubs : List Stub} {s : Stub}
    {looked cycle : List String}
    (h : Walked entries stubs [s.rawId] s.target looked (.cycle cycle)) :
    ClosesChain stubs s cycle := by
  obtain ⟨rfl, last, hlast, hmem⟩ := h.eq_of_cycle
  have hsteps := h.isChain_step
  have hnodup := h.nodup (List.nodup_singleton _)
  obtain ⟨rest, rfl⟩ := h.exists_eq_cons
  constructor
  case first => rfl
  case second => rfl
  case further =>
    intro place id next hplace hid hnext
    obtain ⟨before, rfl⟩ := Nat.exists_eq_succ_of_ne_zero hplace.ne'
    obtain ⟨_, rfl⟩ := List.getElem?_eq_some_iff.mp hid
    obtain ⟨hlt, rfl⟩ := List.getElem?_eq_some_iff.mp hnext
    exact (List.isChain_iff_getElem.mp hsteps before (Nat.lt_of_succ_lt_succ hlt)).2
  case distinct => exact hnodup
  case repeated => exact ⟨last, hlast, hmem⟩

end Stub

/-- The walk from a redirect takes one course, in which it looks at no more ids than there
are distinct ids of redirects, and one.  When it is called a cycle, the chain that is
reported goes along the redirects up to the first id that it comes to again. -/
theorem redirects_terminate (entries : List Entry) (stubs : List Stub) (s : Stub) :
    ∃ looked,
      (∀ other outcome, Stub.Walked entries stubs [s.rawId] s.target other outcome ↔
        other = looked ∧ outcome = s.resolve entries stubs) ∧
      looked.length ≤ (Stub.rawIds stubs).card + 1 ∧
      ∀ chain, s.resolve entries stubs = .cycle chain → Stub.ClosesChain stubs s chain := by
  obtain ⟨looked, hwalked⟩ := Stub.exists_walked entries stubs [s.rawId] s.target
  refine ⟨looked, fun other outcome => ⟨hwalked.unique, ?_⟩, ?_, fun chain hcycle => ?_⟩
  · rintro ⟨rfl, rfl⟩
    exact hwalked
  · calc looked.length
        ≤ (Stub.rawIds stubs \ [s.rawId].toFinset).card + 1 := hwalked.length_le
      _ ≤ (Stub.rawIds stubs).card + 1 :=
          Nat.succ_le_succ (Finset.card_le_card Finset.sdiff_subset)
  · rw [Stub.resolve] at hcycle
    rw [hcycle] at hwalked
    exact hwalked.closesChain

end CLexicon
