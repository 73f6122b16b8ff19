import CLexicon.Catalogue.Document
import CLexicon.CommandLine.Arguments
import CLexicon.Dictionary
import CLexicon.Edition
import CLexicon.Json.Writer
import CLexicon.Text.Quoted

/-!
# Commands

What the program writes when it is asked something. Files are read through a
function, so nothing here acts on the world.

* `run`: what is written, and the exit code, for the arguments of the program;
* `spanRow`, `spanRecord`: a classified span as a row of text and as JSON.
-/

namespace CLexicon.CommandLine

/-- Why a file cannot be read as text. -/
inductive FileError where
  | notFound
  | isDirectory
  | notText
  | other (description : String)
  deriving DecidableEq, Repr

/-- The words for a file error. -/
def FileError.message : FileError → String
  | notFound => "No such file or directory (os error 2)"
  | isDirectory => "Is a directory (os error 21)"
  | notText => "stream did not contain valid UTF-8"
  | other description => description

/-- The files that can be read: the bytes at each path. -/
abbrev Files := String → Except FileError (List UInt8)

/-- The text of a file. -/
def Files.text (files : Files) (path : String) : Except FileError String := do
  match Text.ofBytes? (← files path) with
  | some text => pure text
  | none => .error .notText

/-- Why a command fails. -/
inductive Failure where
  | usage (error : UsageError)
  | source (path : String) (error : FileError)
  | catalogueFile (path : String) (error : FileError)
  | catalogue (error : DocumentError)
  | noEntry (spelling : String)
  deriving DecidableEq, Repr

/-- What is said about a failure. -/
def Failure.message : Failure → String
  | usage error => error.message
  | source path error =>
    "error: cannot read '" ++ path ++ "': " ++ error.message ++ "\n"
  | catalogueFile path error =>
    "error: cannot read catalogue " ++ path ++ ": " ++ error.message ++ "\n"
  | catalogue error => "error: " ++ error.message ++ "\n"
  | noEntry spelling => "no entry for `" ++ spelling ++ "`\n"

/-- The exit code for a failure. -/
def Failure.exitCode : Failure → Nat
  | usage _ => 2
  | _ => 1

/-- What a run of the program leaves behind. -/
structure Outcome where
  exitCode : Nat := 0
  stdout : String := ""
  stderr : String := ""
  deriving DecidableEq, Repr

/-- A run that fails after it has written something. -/
def Outcome.fail (outcome : Outcome) (failure : Failure) : Outcome :=
  { outcome with
    exitCode := failure.exitCode
    stderr := outcome.stderr ++ failure.message }

/-- What all commands have in common: the catalogue and the colours. -/
structure Setting where
  files : Files
  catalogue : Option String
  useColor : Bool

namespace Setting

/-- The raw items of the catalogue, or of the dictionary of C if none is
named. -/
def items (setting : Setting) : Except Failure (List RawItem) :=
  match setting.catalogue with
  | none => .ok dictionary
  | some path =>
    match setting.files.text path with
    | .error error => .error (.catalogueFile path error)
    | .ok text => (Document.read text).mapError .catalogue

/-- The edition of the catalogue. -/
def edition (setting : Setting) : Except Failure Edition := do
  return .ofNormalized (normalize (← setting.items))

/-- Diagnostics as they are written, with their number below. -/
def reportText (setting : Setting) (source : Option Report.Source)
    (diagnostics : List Diagnostic) : String :=
  Report.render setting.useColor
    (Report.allPieces source diagnostics ++ Report.summaryPieces diagnostics)

/-- What is written about the catalogue before a command looks at it. Nothing
is written about the dictionary of C. -/
def catalogueReport (setting : Setting) (edition : Edition) : String :=
  if setting.catalogue.isSome then setting.reportText none edition.diagnostics
  else ""

end Setting

/-- A text with blanks behind it up to a width. -/
def padEnd (width : Nat) (text : String) : String :=
  text.pushn ' ' (width - text.length)

/-- A text with blanks before it up to a width. -/
def padStart (width : Nat) (text : String) : String :=
  "".pushn ' ' (width - text.length) ++ text

/-- A classified span as a row of text. -/
def spanRow (source : String) (classified : ClassifiedSpan) : String :=
  padStart 6 (toString classified.span.start) ++ ".." ++
    padEnd 6 (toString classified.span.stop) ++ " " ++
    classified.kind.name ++ " " ++
    padEnd 24 (classified.entryId?.getD "-") ++ " " ++
    Text.quoted (classified.text source) ++ "\n"

/-- A classified span as JSON. The id is left off where there is no entry. -/
def spanRecord (classified : ClassifiedSpan) : Json :=
  .object <|
    [("start", .number (toString classified.span.start)),
     ("end", .number (toString classified.span.stop)),
     ("kind", .string classified.kind.name)] ++
    (classified.entryId?.map fun id => ("entry_id", Json.string id)).toList

/-- Classifies a file. -/
def classifyFile (setting : Setting) (file : String) (json : Bool)
    (options : ScanOptions) : Outcome :=
  match setting.files.text file with
  | .error error => Outcome.fail {} (.source file error)
  | .ok source =>
    match setting.edition with
    | .error failure => Outcome.fail {} failure
    | .ok edition =>
      let found := edition.classify source options
      let sourceReport :=
        if found.hasWarnings then
          setting.reportText (some (.ofText file source)) found.diagnostics
        else
          ""
      { stdout :=
          if json then
            Json.write (.array (found.spans.map spanRecord)) ++ "\n"
          else
            String.join (found.spans.map (spanRow source))
        stderr := setting.catalogueReport edition ++ sourceReport }

/-- An entry with all that is known of it. -/
def entryText (entry : Entry) : String :=
  let sampleLines :=
    match entry.sample with
    | none => []
    | some sample =>
      "  example:" :: (Text.textLines sample).map fun line => "    " ++ line
  let aliasLines :=
    if entry.aliases = [] then []
    else
      ["  also spelled: " ++
        String.intercalate ", " (entry.aliases.map Alias.spelling)]
  let lines :=
    [entry.headline, "  " ++ entry.description] ++ sampleLines ++ aliasLines
  String.join (lines.map (· ++ "\n"))

/-- Looks a spelling up. -/
def lookupSpelling (setting : Setting) (spelling : String)
    (category : Option Category) : Outcome :=
  match setting.edition with
  | .error failure => Outcome.fail {} failure
  | .ok edition =>
    let found :=
      match category with
      | some category => edition.lexicon.lookupIn? category spelling
      | none => edition.lexicon.lookup? spelling
    let report := setting.catalogueReport edition
    match found with
    | none => Outcome.fail { stderr := report } (.noEntry spelling)
    | some entry => { stdout := entryText entry, stderr := report }

/-- Tells what is in the catalogue, and what is wrong with it. -/
def checkCatalogue (setting : Setting) (denyWarnings : Bool) : Outcome :=
  match setting.edition with
  | .error failure => Outcome.fail {} failure
  | .ok edition =>
    let diagnostics :=
      if denyWarnings then edition.diagnostics.map Diagnostic.asError
      else edition.diagnostics
    let countLines := Category.all.map fun category =>
      let count := (edition.lexicon.catalogue.ofCategory category).length
      category.name ++ ": " ++ toString count ++ " entries\n"
    { exitCode := if denyWarnings ∧ edition.issues ≠ [] then 1 else 0
      stdout :=
        String.join countLines ++ toString edition.issues.length ++
          " warnings\n"
      stderr := setting.reportText none diagnostics }

/-- What the program writes for its arguments, and its exit code. -/
def run (files : Files) (isTerminal : Bool) (arguments : List String) :
    Outcome :=
  match Arguments.parse arguments with
  | .error error => Outcome.fail {} (.usage error)
  | .ok arguments =>
    let setting : Setting :=
      { files, catalogue := arguments.catalogue
        useColor := arguments.color.usesColor isTerminal }
    match arguments.command with
    | .classify file json significant foldDirectives =>
      classifyFile setting file json
        { foldDirectives, keepWhitespace := !significant }
    | .lookup spelling category => lookupSpelling setting spelling category
    | .check denyWarnings => checkCatalogue setting denyWarnings

end CLexicon.CommandLine
