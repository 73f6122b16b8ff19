import CLexicon.Operators.Table
import CLexicon.Scan.Byte
import CLexicon.Scan.Tag
import CLexicon.Text.Encoding

/-!
# Lexemes

How far a token reaches from the front of the bytes that are left. Each
function here looks at nothing but those bytes.

* `blankLength`, `wordLength`, `numberLength`, `lineLength`, `commentEnd?`:
  the pieces of simple shape;
* `literalBody`: a string or character literal behind its opening quote;
* `bodyLength`: the text of a directive;
* `lexeme`: the token at the front, of whichever kind.
-/

namespace CLexicon

/-! ## Blanks, words, numbers, comments -/

/-- The length of the blanks at the front: blank bytes, and carriage returns
that no line feed follows. -/
def blankLength : List UInt8 → Nat
  | [] => 0
  | b :: rest =>
    if Byte.isBlank b ∨
        b = Byte.carriageReturn ∧ rest.head? ≠ some Byte.lineFeed then
      blankLength rest + 1
    else
      0

/-- The length of the word bytes at the front. -/
def wordLength (input : List UInt8) : Nat :=
  (input.takeWhile Byte.isWord).length

/-- How far a number goes on behind its first byte: word bytes and dots, and
signs that follow an exponent letter. -/
def numberLength : List UInt8 → Nat
  | [] => 0
  | [b] => if Byte.isNumber b then 1 else 0
  | b :: sign :: rest =>
    if Byte.isExponent b ∧ Byte.isSign sign then numberLength rest + 2
    else if Byte.isNumber b then numberLength (sign :: rest) + 1
    else 0

/-- The length of the line at the front, without the line feed. -/
def lineLength (input : List UInt8) : Nat :=
  (input.takeWhile (· ≠ Byte.lineFeed)).length

/-- Where the first `*/` ends, if there is one. -/
def commentEnd? : List UInt8 → Option Nat
  | [] => none
  | b :: rest =>
    if b = Byte.star ∧ rest.head? = some Byte.slash then some 2
    else (commentEnd? rest).map (· + 1)

/-- The comment at the front, which starts with `/*`. -/
def blockComment (input : List UInt8) : Token :=
  match commentEnd? (input.drop 2) with
  | some length => ⟨.blockComment, length + 2⟩
  | none => ⟨.openComment, input.length⟩

/-! ## Literals -/

/-- The length of the character at the front. -/
def charLength (input : List UInt8) : Nat :=
  match input with
  | [] => 0
  | b :: _ => (input.take (Text.charWidth b)).length

/-- The length of what a backslash escapes: a carriage return with its line
feed, or one character, or nothing at the end of the text. -/
def escapedLength (input : List UInt8) : Nat :=
  if input.take 2 = [Byte.carriageReturn, Byte.lineFeed] then 2
  else charLength input

/-- A literal without its opening quote: its length, and whether it is closed.
-/
structure LiteralBody where
  length : Nat
  closed : Bool
  deriving DecidableEq, Repr

/-- The literal goes on `distance` bytes further left. -/
def LiteralBody.extend (body : LiteralBody) (distance : Nat) : LiteralBody :=
  { body with length := body.length + distance }

/-- The length of the front of a literal in which nothing needs a closer look.
-/
def plainLength (quote : UInt8) (input : List UInt8) : Nat :=
  (input.takeWhile fun b => !Byte.stopsLiteral quote b).length

private theorem length_drop_le (count : Nat) (input : List UInt8) :
    (input.drop count).length ≤ input.length := by
  rw [List.length_drop]
  exact Nat.sub_le _ _

private theorem length_lt_of_drop_eq_cons {count : Nat} {b : UInt8}
    {input rest : List UInt8} (h : input.drop count = b :: rest) :
    rest.length < input.length := by
  have shorter := length_drop_le count input
  rw [h] at shorter
  exact shorter

/-- The literal body at the front. A backslash takes what it escapes with it,
the first quote that is not escaped closes the literal, and the end of the
line or of the text leaves it open. -/
def literalBody (quote : UInt8) (input : List UInt8) : LiteralBody :=
  let plain := plainLength quote input
  match _stop : input.drop plain with
  | [] => ⟨plain, false⟩
  | b :: rest =>
    if b = Byte.backslash then
      let taken := escapedLength rest
      (literalBody quote (rest.drop taken)).extend (plain + 1 + taken)
    else if b = Byte.lineFeed then
      ⟨plain, false⟩
    else if b = Byte.carriageReturn then
      if rest.head? = some Byte.lineFeed then ⟨plain, false⟩
      else (literalBody quote rest).extend (plain + 1)
    else
      ⟨plain + 1, true⟩
termination_by input.length
decreasing_by
  · exact Nat.lt_of_le_of_lt (length_drop_le _ _)
      (length_lt_of_drop_eq_cons _stop)
  · exact length_lt_of_drop_eq_cons _stop

/-- The literal at the front, which starts with a quote. -/
def literal (input : List UInt8) : Token :=
  match input with
  | [] => ⟨.endOfText, 0⟩
  | quote :: rest =>
    let body := literalBody quote rest
    let tag :=
      if quote = Byte.doubleQuote then
        if body.closed then Tag.string else .openString
      else
        if body.closed then .char else .openChar
    ⟨tag, body.length + 1⟩

/-- The words that belong to a literal when they stand right before it: `L`,
`u`, `U` and `u8`. -/
def encodingMarks : List (List UInt8) :=
  [[0x4C], [0x75], [0x55], [0x75, 0x38]]

/-- The word at the front, or the literal of which it is the encoding mark. -/
def wordOrLiteral (input : List UInt8) : Token :=
  let length := wordLength input
  let rest := input.drop length
  if input.take length ∈ encodingMarks ∧ rest.head?.any Byte.isQuote then
    let marked := literal rest
    ⟨marked.tag, length + marked.length⟩
  else
    ⟨.word, length⟩

/-! ## Directives -/

/-- Where the text of a directive stops: at the end of the line and before a
comment. -/
def stopsBody (b : UInt8) (next : Option UInt8) : Bool :=
  b = Byte.lineFeed ||
  b = Byte.carriageReturn && next = some Byte.lineFeed ||
  b = Byte.slash && (next = some Byte.slash || next = some Byte.star)

/-- The length of the piece at the front of a directive that must not be cut:
a continued line end, a closed literal, or one character. There is none for a
literal that is not closed. -/
def pieceLength? (input : List UInt8) : Option Nat :=
  match input with
  | [] => none
  | b :: rest =>
    if b = Byte.backslash ∧ rest.head? = some Byte.lineFeed then some 2
    else if b = Byte.backslash ∧
        rest.take 2 = [Byte.carriageReturn, Byte.lineFeed] then some 3
    else if Byte.isQuote b then
      let body := literalBody b rest
      if body.closed then some (body.length + 1) else none
    else some (charLength input)

/-- The length of the directive text at the front. It reaches up to the last
piece before the directive stops, so the blanks behind that do not belong to
it. It is zero where a literal that is not closed comes first. -/
def bodyLength (input : List UInt8) : Nat :=
  match input with
  | [] => 0
  | b :: rest =>
    if stopsBody b rest.head? then 0
    else if Byte.isBlank b ∨ b = Byte.carriageReturn then
      match bodyLength rest with
      | 0 => 0
      | length + 1 => length + 2
    else
      match pieceLength? (b :: rest) with
      | none => 0
      | some length => length + bodyLength (rest.drop (length - 1))
termination_by input.length
decreasing_by
  · exact Nat.lt_succ_self _
  · exact Nat.lt_succ_of_le (length_drop_le _ _)

/-- The token at the front of what is left of a directive. -/
def directiveText (input : List UInt8) : Token :=
  match bodyLength input with
  | 0 => literal input
  | length + 1 => ⟨.directiveBody, length + 1⟩

/-! ## Tokens -/

/-- The longest operator at the front, or one byte that starts no token. -/
def operatorLexeme (table : OperatorTable) (input : List UInt8) : Token :=
  match table.longest? input with
  | some length => ⟨.operator, length⟩
  | none => ⟨.unknown, 1⟩

/-- The token at the front. Within a directive, only blanks, line ends and
comments are told apart from its text. -/
def lexeme (table : OperatorTable) (inDirective : Bool) (input : List UInt8) :
    Token :=
  match input with
  | [] => ⟨.endOfText, 0⟩
  | b :: rest =>
    let next := rest.head?
    let blanks := blankLength input
    if 0 < blanks then ⟨.blank, blanks⟩
    else if b = Byte.carriageReturn then ⟨.newline, 2⟩
    else if b = Byte.lineFeed then ⟨.newline, 1⟩
    else if b = Byte.slash ∧ next = some Byte.slash then
      ⟨.lineComment, lineLength input⟩
    else if b = Byte.slash ∧ next = some Byte.star then blockComment input
    else if inDirective then directiveText input
    else if Byte.isWordStart b then wordOrLiteral input
    else if Byte.isDigit b ∨ b = Byte.dot ∧ next.any Byte.isDigit then
      ⟨.number, numberLength rest + 1⟩
    else if Byte.isQuote b then literal input
    else if 0x80 ≤ b then ⟨.unknown, charLength input⟩
    else operatorLexeme table input

end CLexicon
