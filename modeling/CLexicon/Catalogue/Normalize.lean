import CLexicon.Catalogue.Identity
import CLexicon.Catalogue.Redirect

/-!
# Putting a catalogue in order

`normalize` turns raw items into a catalogue and a report of what was wrong
with them. It never fails: what cannot be mended is dropped and reported.

The report lists the malformed items, then the items that repeat an id, then
the redirects that reach no entry, each in the order of the items, and last
the entries that share the spelling of an earlier entry.
-/

namespace CLexicon

/-- A catalogue, and the issues that were found on the way to it. -/
structure Normalized where
  catalogue : Catalogue
  report : List Issue
  deriving DecidableEq, Repr

namespace Repaired

/-- The candidate that an item became. -/
def candidate? : Repaired → Option Candidate
  | candidate c => some c
  | _ => none

/-- The stub that an item became. -/
def stub? : Repaired → Option Stub
  | stub s => some s
  | _ => none

/-- The issue for an item that is malformed. -/
def issue? : Repaired → Option Issue
  | malformed index rawId spelling defect =>
    some (.malformedEntry index rawId spelling defect)
  | _ => none

end Repaired

/-- The first entry that spells itself this way in this category. -/
def firstSpelled? (entries : List Entry) (category : Category)
    (spelling : String) : Option Entry :=
  entries.find? (·.isSpelled category spelling)

/-- What there is to report about an entry: nothing if it is the first of its
category and spelling. -/
def shadowIssue? (entries : List Entry) (entry : Entry) : Option Issue := do
  let winner ← firstSpelled? entries entry.category entry.spelling
  if winner.id = entry.id then none
  else
    some (.shadowedSpelling entry.category entry.spelling winner.id entry.id)

/-- All items of a raw catalogue, each looked at alone. -/
def repairAll (options : NormalizeOptions) (raw : List RawItem) :
    List Repaired :=
  raw.zipIdx.map fun (item, index) => repair options index item

/-- The catalogue of the raw items, and what was wrong with them. -/
def normalize (raw : List RawItem) (options : NormalizeOptions := {}) :
    Normalized :=
  let repaired := repairAll options raw
  let stubs := repaired.filterMap Repaired.stub?
  let claimants :=
    Claimant.ofCandidates options.idSeparator
      (repaired.filterMap Repaired.candidate?)
  let kept := (Claimant.keepers claimants).map Claimant.toEntry
  let entries := Redirect.mergeAll kept stubs
  { catalogue := ⟨entries⟩
    report :=
      repaired.filterMap Repaired.issue? ++
      Claimant.duplicates claimants ++
      Redirect.issues kept stubs ++
      entries.filterMap (shadowIssue? entries) }

/-- The report as warnings, in its order. -/
def Normalized.diagnostics (normalized : Normalized) : List Diagnostic :=
  normalized.report.map Issue.toDiagnostic

end CLexicon
