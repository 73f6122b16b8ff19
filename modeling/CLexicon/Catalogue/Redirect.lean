import CLexicon.Catalogue.Repair

/-!
# Redirects

A stub points at an id, and may reach an entry through other stubs.

* `named?`: the entry that an id names, by its own id before raw ids;
* `Stub.resolve`: where the walk from a stub ends. It moves from id to id
  until it comes to an entry, to an id that nothing has, or back to an id
  where it was before;
* `Redirect.mergeAll`: the entries with the spellings of the stubs that reach
  them;
* `Redirect.issues`: an issue for each stub that reaches none.
-/

namespace CLexicon

/-- The entry that an id names: the one that has it as its id, or else the
first that has it as its raw id. -/
def named? (entries : List Entry) (id : String) : Option Entry :=
  (entries.find? (·.id = id)).or (entries.find? (·.rawId = id))

/-- Where the walk from a stub ends. -/
inductive Resolution where
  /-- At the entry with this id. -/
  | entry (id : String)
  /-- At an id that neither an entry nor a stub has. -/
  | dangling (target : String)
  /-- Nowhere: the last id of the chain stands in it before. -/
  | cycle (chain : List String)
  deriving DecidableEq, Repr

namespace Stub

/-- The first stub with an id. -/
def withId? (stubs : List Stub) (id : String) : Option Stub :=
  stubs.find? (·.rawId = id)

/-- The walk that has come through the ids of `chain` and goes on at
`target`. Each turn adds the id of another stub to the chain, so the number of
stubs outside of it bounds the walk. -/
def walk (entries : List Entry) (stubs : List Stub) (chain : List String)
    (target : String) : Resolution :=
  match named? entries target with
  | some entry => .entry entry.id
  | none =>
    match _found : withId? stubs target with
    | none => .dangling target
    | some next =>
      if _seen : target ∈ chain then .cycle (chain ++ [target])
      else walk entries stubs (chain ++ [target]) next.target
termination_by (stubs.filter (·.rawId ∉ chain)).length
decreasing_by
  have isNext : next ∈ stubs := List.mem_of_find?_eq_some _found
  have hasTarget : next.rawId = target := by
    simpa using List.find?_some _found
  have split : stubs.filter (·.rawId ∉ chain ++ [target]) =
      (stubs.filter (·.rawId ∉ chain)).filter (·.rawId ≠ target) := by
    rw [List.filter_filter]
    congr 1
    funext stub
    simp [Bool.and_comm]
  rw [split]
  apply List.length_filter_lt_length_iff_exists.mpr
  exact ⟨next, by simp [isNext, hasTarget, _seen], by simp [hasTarget]⟩

/-- Where the walk from a stub ends. -/
def resolve (entries : List Entry) (stubs : List Stub) (stub : Stub) :
    Resolution :=
  walk entries stubs [stub.rawId] stub.target

/-- The spelling of a stub as an alias. It keeps the category of the stub. -/
def toAlias (stub : Stub) : Alias :=
  ⟨stub.spelling, stub.category⟩

end Stub

/-- An entry with one more alias, unless that is its own spelling or one of
its aliases already. -/
def Entry.addAlias (entry : Entry) (added : Alias) : Entry :=
  if entry.isSpelled added.category added.spelling ∨ added ∈ entry.aliases then
    entry
  else
    { entry with aliases := entry.aliases ++ [added] }

namespace Redirect

/-- The entries with the spelling of one stub merged into the entry that it
reaches. -/
def merge (entries : List Entry) (stub : Stub) (resolution : Resolution) :
    List Entry :=
  match resolution with
  | .entry id =>
    entries.map fun entry =>
      if entry.id = id then entry.addAlias stub.toAlias else entry
  | _ => entries

/-- The entries with the spellings of all stubs merged into the entries that
they reach, stub by stub. -/
def mergeAll (entries : List Entry) (stubs : List Stub) : List Entry :=
  stubs.foldl
    (fun merged stub => merge merged stub (stub.resolve entries stubs)) entries

/-- What there is to report about a stub: nothing if it reaches an entry. -/
def issue? (stub : Stub) (resolution : Resolution) : Option Issue :=
  match resolution with
  | .entry _ => none
  | .dangling target =>
    some (.danglingRedirect stub.index stub.rawId stub.spelling target)
  | .cycle chain => some (.redirectCycle stub.index stub.spelling chain)

/-- An issue for each stub that reaches no entry, in order. -/
def issues (entries : List Entry) (stubs : List Stub) : List Issue :=
  stubs.filterMap fun stub => issue? stub (stub.resolve entries stubs)

end Redirect

end CLexicon
