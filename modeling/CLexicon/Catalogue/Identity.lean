import CLexicon.Catalogue.Repair

/-!
# Ids of entries

Items may share an id. Each accepted item derives an id of its own, and the
first item to derive an id keeps it.

* `derivedId`: the item's id, joined with its spelling where an item of
  another spelling has the same id;
* `keepers`: the candidates that are first to derive their id;
* `duplicates`: an issue for each candidate that comes too late.
-/

namespace CLexicon

/-- A candidate with the id that it derives. -/
structure Claimant where
  id : String
  candidate : Candidate
  deriving DecidableEq, Repr

namespace Claimant

/-- Whether some candidate has the same raw id and another spelling. -/
def isShared (candidates : List Candidate) (candidate : Candidate) : Bool :=
  candidates.any fun other =>
    other.rawId = candidate.rawId && other.spelling ≠ candidate.spelling

/-- The id that a candidate derives among all candidates. -/
def derivedId (separator : Char) (candidates : List Candidate)
    (candidate : Candidate) : String :=
  if isShared candidates candidate then
    candidate.rawId ++ separator.toString ++ candidate.spelling
  else
    candidate.rawId

/-- All candidates with the ids that they derive. -/
def ofCandidates (separator : Char) (candidates : List Candidate) :
    List Claimant :=
  candidates.map fun candidate =>
    ⟨derivedId separator candidates candidate, candidate⟩

/-- The first claimant of an id. -/
def first? (claimants : List Claimant) (id : String) : Option Claimant :=
  claimants.find? (·.id = id)

/-- Whether a claimant is the first of its id. -/
def isFirst (claimants : List Claimant) (claimant : Claimant) : Bool :=
  first? claimants claimant.id = some claimant

/-- The claimants that are the first of their id, in order. -/
def keepers (claimants : List Claimant) : List Claimant :=
  claimants.filter (isFirst claimants)

/-- What there is to report about a claimant: nothing if it is the first of
its id. -/
def duplicate? (claimants : List Claimant) (claimant : Claimant) :
    Option Issue := do
  let kept ← first? claimants claimant.id
  if kept = claimant then none
  else
    some (.conflictingDuplicate claimant.candidate.index kept.candidate.index
      claimant.id claimant.candidate.spelling kept.candidate.spelling)

/-- An issue for each claimant whose id an earlier one has, in order. -/
def duplicates (claimants : List Claimant) : List Issue :=
  claimants.filterMap (duplicate? claimants)

/-- The entry that a claimant becomes. -/
def toEntry (claimant : Claimant) : Entry :=
  { id := claimant.id
    rawId := claimant.candidate.rawId
    spelling := claimant.candidate.spelling
    category := claimant.candidate.category
    description := claimant.candidate.description
    sample := claimant.candidate.sample
    aliases := claimant.candidate.aliases }

end Claimant

end CLexicon
