import CLexicon.Proofs.Catalogue.WellFormed
import CLexicon.Proofs.Catalogue.Survival
import Mathlib.Logic.Relation

/-!
# Where redirects lead

A redirect points at an id, and an id that names no entry may name a redirect
again.  `Redirect.Leads` is the walk along these ids, with no memory of where it
was.  It ends at an entry, at an id that names nothing, or never.

* `Redirect.leads_total` and `Redirect.end_unique`: there is one walk from each
  id, and it ends at one place at most.
* `Redirect.neverEnds_of_loop`: a walk that comes back goes round forever.
* `Stub.exists_cycle_walk_iff`: when `Stub.walk`, which remembers the ids where
  it was, calls a redirect a cycle.
* `redirects_resolved`: what becomes of each redirect.  Its walk decides, but
  for a redirect that `Returns`: it comes back to its own id, which an earlier
  redirect has too.  The walk goes on from there with the earlier one and may
  well reach an entry, and the redirect is still called a cycle, as
  `shared_id_loses_redirect` shows.
-/

namespace CLexicon

open Relation

/-! ## Walks along ids -/

namespace Redirect

section Walks

variable (entries : List Entry) (stubs : List Stub)

/-- One step of a walk: from an id that names no entry to the target of the
first redirect that has it. -/
def Step (id next : String) : Prop :=
  named? entries id = none ∧
    ∃ stub, Stub.withId? stubs id = some stub ∧ stub.target = next

/-- The walk from one id comes to another. -/
def Leads : String → String → Prop :=
  ReflTransGen (Step entries stubs)

/-- The walk from an id ends at an entry. -/
def ArrivesAt (start : String) (entry : Entry) : Prop :=
  ∃ id, Leads entries stubs start id ∧ named? entries id = some entry

/-- The walk from an id ends at an id that names nothing. -/
def DanglesAt (start id : String) : Prop :=
  Leads entries stubs start id ∧ named? entries id = none ∧
    Stub.withId? stubs id = none

/-- The walk from an id goes on wherever it comes. -/
def NeverEnds (start : String) : Prop :=
  ∀ id, Leads entries stubs start id → ∃ next, Step entries stubs id next

end Walks

section Ends

variable {entries : List Entry} {stubs : List Stub} {start id next : String}
  {entry : Entry}

theorem step_unique : Relator.RightUnique (Step entries stubs) := by
  intro id next other hnext hother
  obtain ⟨-, stub, hstub, rfl⟩ := hnext
  obtain ⟨-, stub', hstub', rfl⟩ := hother
  rw [hstub] at hstub'
  rw [Option.some.inj hstub']

/-- Of two ids that a walk comes to, one comes first. -/
theorem leads_total {first second : String} (hfirst : Leads entries stubs start first)
    (hsecond : Leads entries stubs start second) :
    Leads entries stubs first second ∨ Leads entries stubs second first :=
  ReflTransGen.total_of_right_unique step_unique hfirst hsecond

/-- A walk stays at its start or goes on with the first step. -/
theorem leads_iff_of_step (hstep : Step entries stubs start next) :
    Leads entries stubs start id ↔ start = id ∨ Leads entries stubs next id := by
  constructor
  · intro hleads
    rcases hleads.cases_head with hsame | ⟨other, hother, hrest⟩
    · exact Or.inl hsame
    · obtain rfl := step_unique hstep hother
      exact Or.inr hrest
  · intro hgiven
    rcases hgiven with rfl | hrest
    · exact .refl
    · exact .head hstep hrest

theorem eq_of_leads_of_no_step (hleads : Leads entries stubs start id)
    (hend : ∀ next, ¬Step entries stubs start next) : start = id := by
  rcases hleads.cases_head with hsame | ⟨next, hstep, -⟩
  · exact hsame
  · exact absurd hstep (hend next)

theorem no_step_of_named (hnamed : named? entries id = some entry) (next : String) :
    ¬Step entries stubs id next := by
  intro hstep
  rw [hstep.1] at hnamed
  cases hnamed

theorem no_step_of_withId? (hstub : Stub.withId? stubs id = none) (next : String) :
    ¬Step entries stubs id next := by
  intro hstep
  obtain ⟨-, stub, hsome, -⟩ := hstep
  rw [hstub] at hsome
  cases hsome

/-- A walk ends at one place at most. -/
theorem end_unique {first second : String} (hfirst : Leads entries stubs start first)
    (hsecond : Leads entries stubs start second)
    (hfirstEnd : ∀ next, ¬Step entries stubs first next)
    (hsecondEnd : ∀ next, ¬Step entries stubs second next) : first = second := by
  rcases leads_total hfirst hsecond with hleads | hleads
  · exact eq_of_leads_of_no_step hleads hfirstEnd
  · exact (eq_of_leads_of_no_step hleads hsecondEnd).symm

theorem ArrivesAt.unique {other : Entry} (hentry : ArrivesAt entries stubs start entry)
    (hother : ArrivesAt entries stubs start other) : entry = other := by
  obtain ⟨id, hid, hnamed⟩ := hentry
  obtain ⟨id', hid', hnamed'⟩ := hother
  obtain rfl := end_unique hid hid' (no_step_of_named hnamed) (no_step_of_named hnamed')
  rw [hnamed] at hnamed'
  exact Option.some.inj hnamed'

theorem DanglesAt.unique {other : String} (hid : DanglesAt entries stubs start id)
    (hother : DanglesAt entries stubs start other) : id = other :=
  end_unique hid.1 hother.1 (no_step_of_withId? hid.2.2) (no_step_of_withId? hother.2.2)

theorem ArrivesAt.not_danglesAt (hentry : ArrivesAt entries stubs start entry) :
    ¬DanglesAt entries stubs start id := by
  intro hid
  obtain ⟨id', hid', hnamed⟩ := hentry
  obtain rfl := end_unique hid' hid.1 (no_step_of_named hnamed) (no_step_of_withId? hid.2.2)
  rw [hid.2.1] at hnamed
  cases hnamed

theorem NeverEnds.not_arrivesAt (hforever : NeverEnds entries stubs start) :
    ¬ArrivesAt entries stubs start entry := by
  intro hentry
  obtain ⟨id, hid, hnamed⟩ := hentry
  obtain ⟨next, hstep⟩ := hforever id hid
  exact no_step_of_named hnamed next hstep

theorem NeverEnds.not_danglesAt (hforever : NeverEnds entries stubs start) :
    ¬DanglesAt entries stubs start id := by
  intro hid
  obtain ⟨next, hstep⟩ := hforever id hid.1
  exact no_step_of_withId? hid.2.2 next hstep

/-! ### One step further -/

theorem arrivesAt_of_step (hstep : Step entries stubs start next) :
    ArrivesAt entries stubs start entry ↔ ArrivesAt entries stubs next entry := by
  unfold ArrivesAt
  simp only [leads_iff_of_step hstep, or_and_right, exists_or, exists_eq_left']
  exact or_iff_right fun hnamed => no_step_of_named hnamed next hstep

theorem danglesAt_of_step (hstep : Step entries stubs start next) :
    DanglesAt entries stubs start id ↔ DanglesAt entries stubs next id := by
  unfold DanglesAt
  rw [leads_iff_of_step hstep, or_and_right]
  refine or_iff_right fun hgiven => ?_
  obtain ⟨rfl, -, hstub⟩ := hgiven
  exact no_step_of_withId? hstub next hstep

theorem neverEnds_of_step (hstep : Step entries stubs start next) :
    NeverEnds entries stubs start ↔ NeverEnds entries stubs next := by
  unfold NeverEnds
  simp only [leads_iff_of_step hstep, or_imp, forall_and, forall_eq']
  exact and_iff_right ⟨next, hstep⟩

/-- A walk that comes back to its start goes round forever. -/
theorem neverEnds_of_loop (hstep : Step entries stubs start next)
    (hback : Leads entries stubs next start) : NeverEnds entries stubs start := by
  -- wherever the walk comes, it comes back to the start from there
  have hround : ∀ id, Leads entries stubs start id → Leads entries stubs id start := by
    intro id hid
    induction hid with
    | refl => exact .refl
    | tail _ hlast ih =>
      rcases (leads_iff_of_step hlast).mp ih with rfl | hrest
      · obtain rfl := step_unique hstep hlast
        exact hback
      · exact hrest
  intro id hid
  rcases (hround id hid).cases_head with rfl | ⟨other, hother, -⟩
  · exact ⟨next, hstep⟩
  · exact ⟨other, hother⟩

end Ends

end Redirect

/-! ## The walk that remembers -/

open Redirect

namespace Stub

section Walk

variable {entries : List Entry} {stubs : List Stub} {chain : List String}
  {target : String}

theorem arrivesAt_of_walk {id : String} (h : walk entries stubs chain target = .entry id) :
    ∃ entry, ArrivesAt entries stubs target entry ∧ entry.id = id := by
  fun_induction walk entries stubs chain target with
  | case1 chain target entry hnamed =>
    exact ⟨entry, ⟨target, .refl, hnamed⟩, Resolution.entry.inj h⟩
  | case2 => cases h
  | case3 => cases h
  | case4 chain target hnamed stub hstub hnew ih =>
    obtain ⟨entry, hentry, hid⟩ := ih h
    exact ⟨entry, (arrivesAt_of_step ⟨hnamed, stub, hstub, rfl⟩).mpr hentry, hid⟩

theorem danglesAt_of_walk {id : String} (h : walk entries stubs chain target = .dangling id) :
    DanglesAt entries stubs target id := by
  fun_induction walk entries stubs chain target with
  | case1 => cases h
  | case2 chain target hnamed hstub =>
    obtain rfl := Resolution.dangling.inj h
    exact ⟨.refl, hnamed, hstub⟩
  | case3 => cases h
  | case4 chain target hnamed stub hstub hnew ih =>
    exact (danglesAt_of_step ⟨hnamed, stub, hstub, rfl⟩).mpr (ih h)

/-- The walk that remembers calls a cycle what comes to an id of the chain that
it can leave again, and what never ends. -/
theorem exists_cycle_walk_iff :
    (∃ cycle, walk entries stubs chain target = .cycle cycle) ↔
      (∃ id ∈ chain, (∃ next, Step entries stubs id next) ∧
        Leads entries stubs target id) ∨
      NeverEnds entries stubs target := by
  fun_induction walk entries stubs chain target with
  | case1 chain target entry hnamed =>
    refine iff_of_false (fun hgiven => by obtain ⟨_, h⟩ := hgiven; cases h) ?_
    intro hgiven
    rcases hgiven with ⟨id, -, ⟨next, hstep⟩, hleads⟩ | hforever
    · obtain rfl := eq_of_leads_of_no_step hleads (no_step_of_named hnamed)
      exact no_step_of_named hnamed next hstep
    · exact hforever.not_arrivesAt ⟨target, .refl, hnamed⟩
  | case2 chain target hnamed hstub =>
    refine iff_of_false (fun hgiven => by obtain ⟨_, h⟩ := hgiven; cases h) ?_
    intro hgiven
    rcases hgiven with ⟨id, -, ⟨next, hstep⟩, hleads⟩ | hforever
    · obtain rfl := eq_of_leads_of_no_step hleads (no_step_of_withId? hstub)
      exact no_step_of_withId? hstub next hstep
    · exact hforever.not_danglesAt ⟨.refl, hnamed, hstub⟩
  | case3 chain target hnamed stub hstub hseen =>
    refine iff_of_true ⟨_, rfl⟩ (Or.inl ⟨target, hseen, ?_, .refl⟩)
    exact ⟨stub.target, hnamed, stub, hstub, rfl⟩
  | case4 chain target hnamed stub hstub hnew ih =>
    have hstep : Step entries stubs target stub.target := ⟨hnamed, stub, hstub, rfl⟩
    rw [ih, neverEnds_of_step hstep]
    constructor
    · intro hgiven
      rcases hgiven with ⟨id, hid, hnext, hleads⟩ | hforever
      · rcases List.mem_append.mp hid with hchain | hlast
        · exact Or.inl ⟨id, hchain, hnext, (leads_iff_of_step hstep).mpr (Or.inr hleads)⟩
        · -- the walk from the target comes back to it
          obtain rfl := List.mem_singleton.mp hlast
          exact Or.inr ((neverEnds_of_step hstep).mp (neverEnds_of_loop hstep hleads))
      · exact Or.inr hforever
    · intro hgiven
      rcases hgiven with ⟨id, hid, hnext, hleads⟩ | hforever
      · rcases (leads_iff_of_step hstep).mp hleads with rfl | hrest
        · exact absurd hid hnew
        · exact Or.inl ⟨id, List.mem_append_left _ hid, hnext, hrest⟩
      · exact Or.inr hforever

end Walk

/-! ## The walk from a redirect -/

/-- The walk from a redirect comes to the id of the redirect, which names no
entry. -/
def Returns (entries : List Entry) (stubs : List Stub) (s : Stub) : Prop :=
  named? entries s.rawId = none ∧ Leads entries stubs s.target s.rawId

section Resolve

variable {entries : List Entry} {stubs : List Stub} {s : Stub}

/-- Each redirect has an id, so some redirect is the first with that id. -/
theorem exists_withId?_of_mem (hs : s ∈ stubs) :
    ∃ first, withId? stubs s.rawId = some first :=
  Option.isSome_iff_exists.mp (List.find?_isSome.mpr ⟨s, hs, decide_eq_true rfl⟩)

theorem rawId_of_withId? {id : String} (h : withId? stubs id = some s) : s.rawId = id := by
  simpa using List.find?_some h

theorem resolve_cycle_iff (hs : s ∈ stubs) :
    (∃ chain, s.resolve entries stubs = .cycle chain) ↔
      s.Returns entries stubs ∨ NeverEnds entries stubs s.target := by
  obtain ⟨first, hfirst⟩ := exists_withId?_of_mem hs
  unfold resolve
  rw [exists_cycle_walk_iff]
  apply or_congr_left
  constructor
  · intro hgiven
    obtain ⟨id, hid, ⟨next, hstep⟩, hleads⟩ := hgiven
    obtain rfl := List.mem_singleton.mp hid
    exact ⟨hstep.1, hleads⟩
  · intro hreturns
    exact ⟨s.rawId, List.mem_singleton.mpr rfl,
      ⟨first.target, hreturns.1, first, hfirst, rfl⟩, hreturns.2⟩

/-- A redirect that comes back to its own id is called a cycle and nothing else. -/
theorem not_returns_of_resolve (hs : s ∈ stubs)
    (h : ∀ chain, s.resolve entries stubs ≠ .cycle chain) : ¬s.Returns entries stubs := by
  intro hreturns
  obtain ⟨chain, hchain⟩ := (resolve_cycle_iff hs).mpr (Or.inl hreturns)
  exact h chain hchain

theorem resolve_entry_iff (hids : (entries.map Entry.id).Nodup) (hs : s ∈ stubs)
    {entry : Entry} (hentry : entry ∈ entries) :
    s.resolve entries stubs = .entry entry.id ↔
      ¬s.Returns entries stubs ∧ ArrivesAt entries stubs s.target entry := by
  constructor
  · intro hresolve
    obtain ⟨found, hfound, hid⟩ := arrivesAt_of_walk hresolve
    have hmem : found ∈ entries := by
      obtain ⟨id, -, hnamed⟩ := hfound
      exact mem_of_named? hnamed
    obtain rfl := List.inj_on_of_nodup_map hids hmem hentry hid
    exact ⟨not_returns_of_resolve hs (by simp [hresolve]), hfound⟩
  · intro hgiven
    obtain ⟨hreturns, harrives⟩ := hgiven
    cases hresolve : s.resolve entries stubs with
    | entry id =>
      obtain ⟨found, hfound, rfl⟩ := arrivesAt_of_walk hresolve
      rw [harrives.unique hfound]
    | dangling id => exact absurd (danglesAt_of_walk hresolve) harrives.not_danglesAt
    | cycle chain =>
      rcases (resolve_cycle_iff hs).mp ⟨chain, hresolve⟩ with h | hforever
      · exact absurd h hreturns
      · exact absurd harrives hforever.not_arrivesAt

theorem resolve_dangling_iff (hs : s ∈ stubs) {id : String} :
    s.resolve entries stubs = .dangling id ↔
      ¬s.Returns entries stubs ∧ DanglesAt entries stubs s.target id := by
  constructor
  · intro hresolve
    exact ⟨not_returns_of_resolve hs (by simp [hresolve]), danglesAt_of_walk hresolve⟩
  · intro hgiven
    obtain ⟨hreturns, hdangles⟩ := hgiven
    cases hresolve : s.resolve entries stubs with
    | entry id =>
      obtain ⟨found, hfound, -⟩ := arrivesAt_of_walk hresolve
      exact absurd hdangles hfound.not_danglesAt
    | dangling other => rw [hdangles.unique (danglesAt_of_walk hresolve)]
    | cycle chain =>
      rcases (resolve_cycle_iff hs).mp ⟨chain, hresolve⟩ with h | hforever
      · exact absurd h hreturns
      · exact absurd hdangles hforever.not_danglesAt

/-- The first redirect of an id goes round if it comes back to the id. -/
theorem Returns.neverEnds (hreturns : s.Returns entries stubs)
    (hfirst : withId? stubs s.rawId = some s) : NeverEnds entries stubs s.target := by
  have hstep : Step entries stubs s.rawId s.target := ⟨hreturns.1, s, hfirst, rfl⟩
  exact (neverEnds_of_step hstep).mp (neverEnds_of_loop hstep hreturns.2)

end Resolve

end Stub

/-! ## What becomes of the redirects of a catalogue -/

section Catalogue

variable (raw : List RawItem) (options : NormalizeOptions)

/-- The redirects whose spellings an entry gets, in their order. -/
def mergedInto (kept : Entry) : List Stub :=
  (stubsOf options raw).filter fun s =>
    s.resolve (keptOf options raw) (stubsOf options raw) = .entry kept.id

/-- A redirect is reported as one that ends at an id that names nothing. -/
def ReportsDangling (s : Stub) (id : String) : Prop :=
  .danglingRedirect s.index s.rawId s.spelling id ∈ (normalize raw options).report

/-- A redirect is reported as one that never reaches an entry. -/
def ReportsCycle (s : Stub) : Prop :=
  ∃ chain, .redirectCycle s.index s.spelling chain ∈ (normalize raw options).report

variable {raw options}

theorem nodup_map_id_keptOf : ((keptOf options raw).map Entry.id).Nodup := by
  rw [keptOf, List.map_map]
  exact Claimant.nodup_map_id_keepers (nodup_claimantsOf options raw)

/-- The issue of a redirect is reported, and no other one names it. -/
theorem mem_report_iff_of_mem_stubsOf {s : Stub} {issue : Issue}
    (hs : s ∈ stubsOf options raw) (hindex : issue.dropped? = some s.index) :
    issue ∈ (normalize raw options).report ↔
      Redirect.issue? s (s.resolve (keptOf options raw) (stubsOf options raw)) =
        some issue := by
  obtain ⟨item, hitem, hrepair⟩ := mem_stubsOf.mp hs
  constructor
  · intro hissue
    obtain ⟨other, hother, hdrop⟩ := exists_dropIssue?_of_mem_report hissue hindex
    rw [hitem] at hother
    obtain rfl := Option.some.inj hother
    rw [hrepair] at hdrop
    exact hdrop
  · intro hissue
    refine (mem_report_of_dropIssue? hitem ?_).1
    rw [hrepair]
    exact hissue

theorem mem_mergedInto_iff {s : Stub} (hs : s ∈ stubsOf options raw) {entry : Entry}
    (hentry : entry ∈ keptOf options raw) :
    s ∈ mergedInto raw options entry ↔
      ¬s.Returns (keptOf options raw) (stubsOf options raw) ∧
        ArrivesAt (keptOf options raw) (stubsOf options raw) s.target entry := by
  rw [mergedInto, List.mem_filter, and_iff_right hs, decide_eq_true_iff,
    Stub.resolve_entry_iff nodup_map_id_keptOf hs hentry]

theorem reportsDangling_iff {s : Stub} (hs : s ∈ stubsOf options raw) {id : String} :
    ReportsDangling raw options s id ↔
      ¬s.Returns (keptOf options raw) (stubsOf options raw) ∧
        DanglesAt (keptOf options raw) (stubsOf options raw) s.target id := by
  rw [← Stub.resolve_dangling_iff hs, ReportsDangling, mem_report_iff_of_mem_stubsOf hs rfl]
  cases s.resolve (keptOf options raw) (stubsOf options raw) <;> simp [Redirect.issue?]

theorem reportsCycle_iff {s : Stub} (hs : s ∈ stubsOf options raw) :
    ReportsCycle raw options s ↔
      s.Returns (keptOf options raw) (stubsOf options raw) ∨
        NeverEnds (keptOf options raw) (stubsOf options raw) s.target := by
  rw [← Stub.resolve_cycle_iff hs, ReportsCycle]
  apply exists_congr
  intro chain
  rw [mem_report_iff_of_mem_stubsOf hs rfl]
  cases s.resolve (keptOf options raw) (stubsOf options raw) <;> simp [Redirect.issue?]

/-- The entries are the kept ones with the spellings of redirects.  The walk
from the target of a redirect decides what becomes of it, unless it comes back
to the id of the redirect: then the redirect is called a cycle.  That is right
where the redirect is the first one with its id.  A redirect that does not come
back shares the fate of the redirect that its target names. -/
theorem redirects_resolved (raw : List RawItem) (options : NormalizeOptions) :
    let kept := keptOf options raw
    let stubs := stubsOf options raw
    (normalize raw options).catalogue.entries =
      (kept.map fun entry => entry.addStubs (mergedInto raw options entry)) ∧
    ∀ s ∈ stubs,
      (∀ entry ∈ kept, s ∈ mergedInto raw options entry ↔
        ¬s.Returns kept stubs ∧ ArrivesAt kept stubs s.target entry) ∧
      (∀ id, ReportsDangling raw options s id ↔
        ¬s.Returns kept stubs ∧ DanglesAt kept stubs s.target id) ∧
      (ReportsCycle raw options s ↔
        s.Returns kept stubs ∨ NeverEnds kept stubs s.target) ∧
      (Stub.withId? stubs s.rawId = some s → s.Returns kept stubs →
        NeverEnds kept stubs s.target) ∧
      ∀ t, named? kept s.target = none → Stub.withId? stubs s.target = some t →
        ¬s.Returns kept stubs →
          (∀ entry ∈ kept, s ∈ mergedInto raw options entry ↔
            t ∈ mergedInto raw options entry) ∧
          (∀ id, ReportsDangling raw options s id ↔ ReportsDangling raw options t id) ∧
          (ReportsCycle raw options s ↔ ReportsCycle raw options t) := by
  intro kept stubs
  refine ⟨Redirect.mergeAll_eq_map kept stubs, fun s hs =>
    ⟨fun entry hentry => mem_mergedInto_iff hs hentry, fun id => reportsDangling_iff hs,
      reportsCycle_iff hs, fun hfirst hreturns => hreturns.neverEnds hfirst, ?_⟩⟩
  intro t hnamed ht hreturns
  have hstep : Step kept stubs s.target t.target := ⟨hnamed, t, ht, rfl⟩
  have hmem : t ∈ stubs := List.mem_of_find?_eq_some ht
  have hid : t.rawId = s.target := Stub.rawId_of_withId? ht
  -- the named redirect is the first with its id, so it comes back only to go round
  have hround : t.Returns kept stubs → NeverEnds kept stubs t.target :=
    fun h => h.neverEnds (hid.symm ▸ ht)
  refine ⟨fun entry hentry => ?_, fun id => ?_, ?_⟩
  · rw [mem_mergedInto_iff hs hentry, mem_mergedInto_iff hmem hentry,
      and_iff_right hreturns, arrivesAt_of_step hstep]
    exact (and_iff_right_of_imp fun h hback => (hround hback).not_arrivesAt h).symm
  · rw [reportsDangling_iff hs, reportsDangling_iff hmem, and_iff_right hreturns,
      danglesAt_of_step hstep]
    exact (and_iff_right_of_imp fun h hback => (hround hback).not_danglesAt h).symm
  · rw [reportsCycle_iff hs, reportsCycle_iff hmem, or_iff_right hreturns,
      neverEnds_of_step hstep]
    exact (or_iff_right_of_imp hround).symm

/-- An entry and three redirects.  The first two redirects share an id, and the
second of them comes back to it. -/
def sharedRedirectId : List RawItem :=
  [{ id := "x", token := "alpha", category := .identifier, description := "An entry." },
   { id := "a", token := "beta", category := .identifier,
     description := "<a id=\"x\"></a>" },
   { id := "a", token := "gamma", category := .identifier,
     description := "<a id=\"b\"></a>" },
   { id := "b", token := "delta", category := .identifier,
     description := "<a id=\"a\"></a>" }]

/-- The redirect of `gamma` leads over `b` and `a` to the entry, and so the
redirect of `delta`, which it names, is merged into the entry.  But it comes by
its own id `a` on the way, so it is called a cycle and its spelling is lost. -/
theorem shared_id_loses_redirect :
    let kept := keptOf {} sharedRedirectId
    let stubs := stubsOf {} sharedRedirectId
    ∃ gamma ∈ stubs, ∃ delta ∈ stubs, ∃ entry ∈ kept,
      gamma.spelling = "gamma" ∧ Stub.withId? stubs gamma.target = some delta ∧
      ArrivesAt kept stubs gamma.target entry ∧
      delta ∈ mergedInto sharedRedirectId {} entry ∧
      gamma ∉ mergedInto sharedRedirectId {} entry ∧
      ReportsCycle sharedRedirectId {} gamma ∧
      (normalize sharedRedirectId).catalogue.entries.all fun entry =>
        !entry.answersTo "gamma" := by
  intro kept stubs
  let beta : Stub := ⟨1, "a", "beta", .identifier, "x"⟩
  let gamma : Stub := ⟨2, "a", "gamma", .identifier, "b"⟩
  let delta : Stub := ⟨3, "b", "delta", .identifier, "a"⟩
  let entry : Entry := ⟨"x", "x", "alpha", .identifier, "An entry.", none, []⟩
  have hkept : kept = [entry] := by decide +kernel
  have hstubs : stubs = [beta, gamma, delta] := by decide +kernel
  have hfirst : Step kept stubs "b" "a" := by
    rw [hkept, hstubs]
    exact ⟨rfl, delta, rfl, rfl⟩
  have hsecond : Step kept stubs "a" "x" := by
    rw [hkept, hstubs]
    exact ⟨rfl, beta, rfl, rfl⟩
  refine ⟨gamma, by simp [hstubs], delta, by simp [hstubs], entry, by simp [hkept], rfl, ?_,
    ⟨"x", (ReflTransGen.single hsecond).head hfirst, ?_⟩, ?_, ?_, ⟨["a", "b", "a"], ?_⟩, ?_⟩
  · rw [hstubs]; rfl
  · rw [hkept]; rfl
  all_goals decide +kernel

end Catalogue

end CLexicon
