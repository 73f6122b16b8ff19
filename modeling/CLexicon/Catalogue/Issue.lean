import CLexicon.Catalogue.Category
import CLexicon.Report.Diagnostic

/-!
# Issues of a catalogue

An `Issue` is a defect that was found, and mended or dropped, while the items
of a catalogue were put in order. It says what is wrong as data;
`Issue.toDiagnostic` puts it into words. Indices count the raw items from
zero.
-/

namespace CLexicon

/-- Why an item cannot become an entry. -/
inductive Defect where
  /-- The id is blank. -/
  | missingId
  /-- Nothing is left of the token without blanks and backticks. -/
  | emptySpelling
  /-- The spelling is none of its category. -/
  | invalidSpelling
  /-- The description is blank. -/
  | emptyDescription
  deriving DecidableEq, Repr

/-- The words for a defect. -/
def Defect.message : Defect → String
  | .missingId => "the entry has no id"
  | .emptySpelling => "the spelling is empty"
  | .invalidSpelling => "the spelling is not valid for its category"
  | .emptyDescription => "the description is empty"

/-- A defect of a catalogue. -/
inductive Issue where
  /-- A redirect whose walk of targets ends at an id that nothing has. -/
  | danglingRedirect (index : Nat) (stubId spelling target : String)
  /-- A redirect whose walk of targets comes back to where it was. -/
  | redirectCycle (index : Nat) (spelling : String) (chain : List String)
  /-- An item whose id an earlier item has taken. -/
  | conflictingDuplicate (index keptIndex : Nat)
      (id spelling keptSpelling : String)
  /-- A later entry with the category and spelling of an earlier one. -/
  | shadowedSpelling (category : Category) (spelling winner shadowed : String)
  /-- An item that cannot become an entry. -/
  | malformedEntry (index : Nat) (rawId spelling : String) (defect : Defect)
  deriving DecidableEq, Repr

namespace Issue

/-- The code of an issue. -/
def code : Issue → Code
  | danglingRedirect .. => .danglingRedirect
  | redirectCycle .. => .redirectCycle
  | conflictingDuplicate .. => .conflictingDuplicate
  | shadowedSpelling .. => .shadowedSpelling
  | malformedEntry .. => .malformedEntry

/-- A text between backticks. -/
def ticked (text : String) : String :=
  "`" ++ text ++ "`"

/-- How a raw item is named in a note. -/
def rawItem (index : Nat) : String :=
  "raw item #" ++ toString index

/-- What an issue says. -/
def message : Issue → String
  | danglingRedirect _ stubId spelling target =>
    "redirect " ++ ticked spelling ++ " (" ++ stubId ++
      ") points at missing entry " ++ ticked target
  | redirectCycle _ spelling _ =>
    "redirect " ++ ticked spelling ++ " never reaches an entry"
  | conflictingDuplicate _ _ id spelling _ =>
    "duplicate entry " ++ ticked id ++ " for " ++ ticked spelling
  | shadowedSpelling category spelling winner shadowed =>
    category.name ++ " " ++ ticked spelling ++ " is defined by both " ++
      ticked winner ++ " and " ++ ticked shadowed
  | malformedEntry _ rawId spelling defect =>
    "malformed entry " ++ ticked rawId ++ " (" ++ ticked spelling ++ "): " ++
      defect.message

/-- What an issue adds: what became of the item, and why. -/
def notes : Issue → List String
  | danglingRedirect index .. => [rawItem index ++ " was dropped"]
  | redirectCycle index _ chain =>
    ["cycle: " ++ String.intercalate " -> " chain,
     rawItem index ++ " was dropped"]
  | conflictingDuplicate index keptIndex _ spelling keptSpelling =>
    if spelling = keptSpelling then
      [rawItem index ++ " repeats " ++ rawItem keptIndex ++ " and was dropped"]
    else
      [rawItem index ++ " collides with " ++ ticked keptSpelling ++ " (" ++
        rawItem keptIndex ++ ") and was dropped"]
  | shadowedSpelling _ spelling winner _ =>
    ["lookups of " ++ ticked spelling ++ " resolve to " ++ ticked winner]
  | malformedEntry index .. => [rawItem index ++ " was dropped"]

/-- An issue as a warning. It is about no place of a source text. -/
def toDiagnostic (issue : Issue) : Diagnostic :=
  { code := issue.code, message := issue.message, notes := issue.notes }

end Issue

end CLexicon
