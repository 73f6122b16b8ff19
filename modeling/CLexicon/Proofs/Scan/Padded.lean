import CLexicon.Proofs.Scan.Literals
import CLexicon.Scan.Cursor
import Mathlib.Data.List.Forall2
import Mathlib.Data.List.Infix

/-!
# Cursors over a padded buffer

A source text may be kept in a buffer with zeros behind it, and a cursor as a 32-bit
offset into the buffer.  Reading outside of the buffer and a sum that does not fit are
then ways to fail, and some of the moves test for neither: they rely on the zeros.  Here
both are `none`, so that a move that gives a cursor has done nothing of the kind.

* `PaddedSource` and `PaddedCursor`: the buffer and the cursor, with all its moves.
* `PaddedCursor.At`: the invariant.  The cursor stands in its source where a `Cursor`
  stands.  `At.byteAt?` and `At.rest?` are what it reads there.
* `At.perform?`: each move succeeds, and goes where the `Cursor` goes.
* `Reading`: moves in any order, with cursors that are kept and gone back to.
  `Reading.SameAs.acts?` is a whole run.
* `cursor_stays_inside`: what holds after any run.
-/

namespace CLexicon

open Text

/-! ## The buffer -/

/-- The length of the longest source whose offsets fit 32 bits. -/
def PaddedSource.maxLength : Nat :=
  UInt32.size - 1

/-- The size that a buffer is a multiple of. -/
def PaddedSource.blockSize : Nat :=
  64

/-- A source in a buffer, with zeros behind it. -/
structure PaddedSource where
  bytes : List UInt8
  length : UInt32

namespace PaddedSource

/-- The buffer for a source: a zero and one block behind it at least, and whole blocks in
all.  Of a source that is too long it holds what fits. -/
def ofBytes (source : List UInt8) : PaddedSource :=
  let content := source.take maxLength
  let size := (content.length + 1 + blockSize + blockSize - 1) / blockSize * blockSize
  ⟨content ++ List.replicate (size - content.length) 0, UInt32.ofNat content.length⟩

variable {source : List UInt8}

theorem maxLength_succ : maxLength + 1 = UInt32.size :=
  rfl

theorem bytes_ofBytes (h : source.length ≤ maxLength) :
    ∃ zeros, 3 ≤ zeros ∧ (ofBytes source).bytes = source ++ List.replicate zeros 0 := by
  refine ⟨_, ?_, by rw [ofBytes, List.take_of_length_le h]⟩
  rw [show blockSize = 64 from rfl]
  omega

theorem toNat_length_ofBytes (h : source.length ≤ maxLength) :
    (ofBytes source).length.toNat = source.length := by
  have hmax := maxLength_succ
  simp only [ofBytes]
  rw [List.take_of_length_le h, UInt32.toNat_ofNat_of_lt' (by omega)]

/-- Up to two places behind the end, the buffer holds the source and then zeros. -/
theorem getElem?_ofBytes (h : source.length ≤ maxLength) {place : Nat}
    (hplace : place ≤ source.length + 2) :
    (ofBytes source).bytes[place]? = some (source[place]?.getD 0) := by
  obtain ⟨zeros, hzeros, hbytes⟩ := bytes_ofBytes h
  rw [hbytes, List.getElem?_append]
  split
  · rename_i hinside
    rw [List.getElem?_eq_getElem hinside]
    rfl
  · rename_i hbehind
    rw [List.getElem?_replicate_of_lt (by omega), List.getElem?_eq_none (by omega)]
    rfl

end PaddedSource

/-! ## The cursor -/

/-- The sum of two words, if it is one. -/
def checkedAdd? (first second : UInt32) : Option UInt32 :=
  if first.toNat + second.toNat < UInt32.size then some (first + second) else none

/-- The sum of two words, or the greatest word if that is less. -/
def saturatingAdd (first second : UInt32) : UInt32 :=
  (checkedAdd? first second).getD (UInt32.ofNat (UInt32.size - 1))

theorem toNat_saturatingAdd (first second : UInt32) :
    (saturatingAdd first second).toNat =
      min (first.toNat + second.toNat) PaddedSource.maxLength := by
  have hmax := PaddedSource.maxLength_succ
  unfold saturatingAdd checkedAdd?
  split
  · rename_i hfits
    rw [Option.getD_some, UInt32.toNat_add, Nat.mod_eq_of_lt hfits]
    omega
  · rename_i hover
    rw [Option.getD_none, UInt32.toNat_ofNat_of_lt' (by decide)]
    omega

/-- The place where some bytes are first found. -/
def occurrence? (needle input : List UInt8) : Option Nat :=
  input.tails.findIdx? needle.isPrefixOf

/-- An offset into a buffer. -/
structure PaddedCursor where
  source : PaddedSource
  position : UInt32

namespace PaddedCursor

/-- The cursor at the start of a buffer. -/
def start (source : PaddedSource) : PaddedCursor :=
  ⟨source, 0⟩

/-- Reads the byte so many places behind the cursor. -/
def byteAt? (held : PaddedCursor) (distance : Nat) : Option UInt8 :=
  held.source.bytes[held.position.toNat + distance]?

/-- Cuts what is left of the source out of the buffer. -/
def rest? (held : PaddedCursor) : Option (List UInt8) :=
  let start := held.position.toNat
  let stop := held.source.length.toNat
  if start ≤ stop ∧ stop ≤ held.source.bytes.length then
    some ((held.source.bytes.drop start).take (stop - start))
  else none

/-- The cursor so many bytes further on. -/
def moveBy? (held : PaddedCursor) (distance : UInt32) : Option PaddedCursor :=
  (checkedAdd? held.position distance).map fun position => { held with position }

/-- The cursor at the end of the source. -/
def toEnd (held : PaddedCursor) : PaddedCursor :=
  { held with position := held.source.length }

/-- The cursor at a place that was looked for in what is left, or at the end. -/
def moveTo? (held : PaddedCursor) : Option Nat → Option PaddedCursor
  | some distance => held.moveBy? (UInt32.ofNat distance)
  | none => some held.toEnd

def advance? (held : PaddedCursor) : Option PaddedCursor :=
  if held.position < held.source.length then held.moveBy? 1 else some held

def advanceBy (held : PaddedCursor) (distance : UInt32) : PaddedCursor :=
  let position := saturatingAdd held.position distance
  if position < held.source.length then { held with position } else held.toEnd

def advanceChar? (held : PaddedCursor) : Option PaddedCursor := do
  let first ← held.byteAt? 0
  return held.advanceBy (UInt32.ofNat (charWidth first))

theorem eq_of_moveBy? {held next : PaddedCursor} {distance : UInt32}
    (h : held.moveBy? distance = some next) :
    next.source = held.source ∧
      next.position.toNat = held.position.toNat + distance.toNat := by
  obtain ⟨position, hsum, rfl⟩ := Option.map_eq_some_iff.mp h
  unfold checkedAdd? at hsum
  split at hsum
  · rename_i hfits
    obtain rfl := Option.some.inj hsum
    exact ⟨rfl, by rw [UInt32.toNat_add]; exact Nat.mod_eq_of_lt hfits⟩
  · cases hsum

/-- Goes on byte by byte before the end, while the bytes are of a class. -/
def skipWhile? (held : PaddedCursor) (isMember : UInt8 → Bool) : Option PaddedCursor :=
  if _before : held.position < held.source.length then
    match held.byteAt? 0 with
    | none => none
    | some b =>
      if isMember b then
        match _next : held.moveBy? 1 with
        | none => none
        | some next => next.skipWhile? isMember
      else some held
  else some held
termination_by held.source.length.toNat - held.position.toNat
decreasing_by
  obtain ⟨hsource, hposition⟩ := eq_of_moveBy? _next
  rw [UInt32.lt_iff_toNat_lt] at _before
  rw [hsource, hposition, UInt32.toNat_one]
  omega

theorem skipWhile?_eq (held : PaddedCursor) (isMember : UInt8 → Bool) :
    held.skipWhile? isMember =
      if held.position < held.source.length then
        (held.byteAt? 0).bind fun b =>
          if isMember b then (held.moveBy? 1).bind (skipWhile? · isMember) else some held
      else some held := by
  rw [skipWhile?]
  by_cases hbefore : held.position < held.source.length
  · rw [dif_pos hbefore, if_pos hbefore]
    cases held.byteAt? 0 with
    | none => rfl
    | some b =>
      dsimp only [Option.bind_some]
      split
      · split
        · rename_i hnone
          rw [hnone]
          rfl
        · rename_i hnext
          rw [hnext]
          rfl
      · rfl
  · rw [dif_neg hbefore, if_neg hbefore]

def skipLine? (held : PaddedCursor) : Option PaddedCursor := do
  let rest ← held.rest?
  held.moveTo? (rest.findIdx? (· = Byte.lineFeed))

/-- The byte at the cursor if it was found, and zero if the cursor is at the end. -/
def stop? (held : PaddedCursor) (found : Option Nat) : Option UInt8 :=
  if found.isSome then held.byteAt? 0 else some 0

def skipPlain? (held : PaddedCursor) (quote : UInt8) : Option (UInt8 × PaddedCursor) := do
  let rest ← held.rest?
  let next ← held.moveTo? (literalStop? quote rest)
  let stop ← next.stop? (literalStop? quote rest)
  return (stop, next)

/-- The cursor behind two bytes that were looked for in what is left, or at the end, and
whether they were found.  The length of the two is added to their distance first. -/
def moveBehind? (held : PaddedCursor) : Option Nat → Option (Bool × PaddedCursor)
  | some distance => do
    let length ← checkedAdd? (UInt32.ofNat distance) 2
    let next ← held.moveBy? length
    return (true, next)
  | none => some (false, held.toEnd)

def skipComment? (held : PaddedCursor) : Option (Bool × PaddedCursor) := do
  let rest ← held.rest?
  held.moveBehind? (occurrence? [Byte.star, Byte.slash] rest)

/-- Whether a blank is at the cursor.  Only for a carriage return there is a test for the
end. -/
def atBlank? (held : PaddedCursor) : Option Bool := do
  let b ← held.byteAt? 0
  if Byte.isBlank b then return true
  else if b = Byte.carriageReturn then
    let next ← held.byteAt? 1
    return next ≠ Byte.lineFeed && held.position < held.source.length
  else return false

theorem lt_of_atBlank? {held : PaddedCursor} {blank : Bool} (h : held.atBlank? = some blank) :
    held.position.toNat < held.source.bytes.length := by
  obtain ⟨b, hb, -⟩ := Option.bind_eq_some_iff.mp h
  exact (List.getElem?_eq_some_iff.mp hb).1

/-- Goes on byte by byte while there are blanks. -/
def skipBlanks? (held : PaddedCursor) : Option PaddedCursor :=
  match _blank : held.atBlank? with
  | none => none
  | some false => some held
  | some true =>
    match _next : held.moveBy? 1 with
    | none => none
    | some next => next.skipBlanks?
termination_by held.source.bytes.length - held.position.toNat
decreasing_by
  obtain ⟨hsource, hposition⟩ := eq_of_moveBy? _next
  have := lt_of_atBlank? _blank
  rw [hsource, hposition, UInt32.toNat_one]
  omega

theorem skipBlanks?_eq (held : PaddedCursor) :
    held.skipBlanks? =
      held.atBlank?.bind fun blank =>
        if blank then (held.moveBy? 1).bind skipBlanks? else some held := by
  rw [skipBlanks?]
  split
  · rename_i hnone
    rw [hnone]
    rfl
  · rename_i hfalse
    rw [hfalse]
    rfl
  · rename_i htrue
    rw [htrue]
    split
    · rename_i hnone
      rw [hnone]
      rfl
    · rename_i hnext
      rw [hnext]
      rfl

end PaddedCursor

/-- A move of a cursor. -/
inductive Move where
  | advance
  | advanceBy (distance : UInt32)
  | advanceChar
  | skipWhile (isMember : UInt8 → Bool)
  | skipLine
  | skipPlain (quote : UInt8)
  | skipComment
  | skipBlanks

/-- The cursor after a move. -/
def Move.perform : Move → Cursor → Cursor
  | advance, cursor => cursor.advance
  | advanceBy distance, cursor => cursor.advanceBy distance.toNat
  | advanceChar, cursor => cursor.advanceChar
  | skipWhile isMember, cursor => cursor.skipWhile isMember
  | skipLine, cursor => cursor.skipLine
  | skipPlain quote, cursor => cursor.skipPlain quote
  | skipComment, cursor => cursor.skipComment.2
  | skipBlanks, cursor => cursor.skipBlanks

/-- The cursor over a buffer after a move, if nothing went wrong. -/
def Move.perform? : Move → PaddedCursor → Option PaddedCursor
  | advance, held => held.advance?
  | advanceBy distance, held => some (held.advanceBy distance)
  | advanceChar, held => held.advanceChar?
  | skipWhile isMember, held => held.skipWhile? isMember
  | skipLine, held => held.skipLine?
  | skipPlain quote, held => (held.skipPlain? quote).map Prod.snd
  | skipComment, held => held.skipComment?.map Prod.snd
  | skipBlanks, held => held.skipBlanks?

/-! ## The same place -/

theorem Cursor.advanceBy_succ (position : Nat) (b : UInt8) (rest : List UInt8)
    (distance : Nat) :
    advanceBy ⟨position, b :: rest⟩ (distance + 1) = advanceBy ⟨position + 1, rest⟩ distance := by
  simp only [advanceBy, List.take_succ_cons, List.length_cons, List.drop_succ_cons, mk.injEq,
    and_true]
  omega

/-- A comment ends two bytes behind the place where its end is first found. -/
theorem commentEnd?_eq_occurrence? (input : List UInt8) :
    commentEnd? input = (occurrence? [Byte.star, Byte.slash] input).map (· + 2) := by
  induction input with
  | nil => rfl
  | cons b rest ih =>
    have hhere : [Byte.star, Byte.slash].isPrefixOf (b :: rest) = true ↔
        b = Byte.star ∧ rest.head? = some Byte.slash := by
      rw [List.isPrefixOf_iff_prefix, List.cons_prefix_cons,
        List.singleton_prefix_iff_head?_eq_some, eq_comm (a := b)]
    rw [commentEnd?, ih, occurrence?, occurrence?, List.tails_cons, List.findIdx?_cons]
    by_cases h : b = Byte.star ∧ rest.head? = some Byte.slash
    · rw [if_pos h, if_pos (hhere.mpr h)]
      rfl
    · rw [if_neg h, if_neg (mt hhere.mp h), Option.map_map, Option.map_map]
      rfl

/-- A line ends where the first line feed is found. -/
theorem lineLength_eq_findIdx? (input : List UInt8) :
    lineLength input = (input.findIdx? (· = Byte.lineFeed)).getD input.length := by
  rw [lineLength, List.takeWhile_eq_take_findIdx_not, List.length_take_of_le List.findIdx_le_length,
    List.findIdx_eq_getD_findIdx?]
  simp

namespace PaddedCursor

/-- A cursor over a buffer stands in a source where another cursor stands. -/
structure At (source : List UInt8) (held : PaddedCursor) (cursor : Cursor) : Prop where
  fits : source.length ≤ PaddedSource.maxLength
  source_eq : held.source = .ofBytes source
  position : held.position.toNat = cursor.position
  le_length : cursor.position ≤ source.length
  rest : cursor.rest = source.drop cursor.position

/-- A move has gone well, and the cursor is where another cursor is. -/
def Lands (source : List UInt8) (result : Option PaddedCursor) (cursor : Cursor) : Prop :=
  ∃ next, result = some next ∧ At source next cursor

namespace At

variable {source : List UInt8} {held : PaddedCursor} {cursor : Cursor}

theorem start {text : String} (h : (bytes text).length ≤ PaddedSource.maxLength) :
    At (bytes text) (PaddedCursor.start (.ofBytes (bytes text))) (.ofText text) where
  fits := h
  source_eq := rfl
  position := rfl
  le_length := Nat.zero_le _
  rest := rfl

theorem length (h : At source held cursor) : held.source.length.toNat = source.length := by
  rw [h.source_eq, PaddedSource.toNat_length_ofBytes h.fits]

theorem length_rest (h : At source held cursor) :
    cursor.position + cursor.rest.length = source.length := by
  have := h.le_length
  rw [h.rest, List.length_drop]
  omega

theorem lt_iff (h : At source held cursor) :
    held.position < held.source.length ↔ cursor.rest ≠ [] := by
  have := h.length_rest
  rw [UInt32.lt_iff_toNat_lt, h.length, h.position, ← List.length_pos_iff]
  omega

/-! ### Reads -/

/-- A read at the cursor or up to two places behind it stays inside the buffer. -/
theorem byteAt? (h : At source held cursor) {distance : Nat} (hdistance : distance ≤ 2) :
    held.byteAt? distance = some (cursor.ahead distance) := by
  have := h.le_length
  rw [PaddedCursor.byteAt?, h.source_eq, h.position,
    PaddedSource.getElem?_ofBytes h.fits (by omega), Cursor.ahead, h.rest, List.getElem?_drop]

theorem rest? (h : At source held cursor) : held.rest? = some cursor.rest := by
  obtain ⟨zeros, -, hbytes⟩ := PaddedSource.bytes_ofBytes h.fits
  have := h.le_length
  unfold PaddedCursor.rest?
  dsimp only
  rw [h.length, h.position, h.source_eq, hbytes, if_pos (by simp; omega),
    List.drop_append_of_le_length h.le_length, List.take_left' (by simp), h.rest]

/-! ### Moves -/

/-- The offset alone tells where a cursor has moved. -/
theorem moved (h : At source held cursor) {position : UInt32} {distance : Nat}
    (hposition : position.toNat = min (cursor.position + distance) source.length) :
    At source ⟨held.source, position⟩ (cursor.advanceBy distance) := by
  have hlength := h.length_rest
  have hplace : (cursor.advanceBy distance).position =
      min (cursor.position + distance) source.length := by
    show cursor.position + (cursor.rest.take distance).length = _
    rw [List.length_take]
    omega
  refine ⟨h.fits, h.source_eq, hposition.trans hplace.symm, hplace ▸ Nat.min_le_right _ _, ?_⟩
  show cursor.rest.drop distance = _
  rw [hplace, h.rest, List.drop_drop]
  by_cases hinside : cursor.position + distance ≤ source.length
  · rw [Nat.min_eq_left hinside]
  · have hpast : source.length ≤ cursor.position + distance := Nat.le_of_not_le hinside
    rw [Nat.min_eq_right hpast, List.drop_length, List.drop_eq_nil_of_le hpast]

/-- A move by no more than what is left does not overflow. -/
theorem moveBy? (h : At source held cursor) (distance : UInt32)
    (hdistance : distance.toNat ≤ cursor.rest.length) :
    Lands source (held.moveBy? distance) (cursor.advanceBy distance.toNat) := by
  have hlength := h.length_rest
  have hfits : held.position.toNat + distance.toNat < UInt32.size := by
    have := h.fits
    have hmax := PaddedSource.maxLength_succ
    rw [h.position]
    omega
  refine ⟨⟨held.source, held.position + distance⟩, ?_, h.moved ?_⟩
  · rw [PaddedCursor.moveBy?, checkedAdd?, if_pos hfits]
    rfl
  · rw [UInt32.toNat_add, Nat.mod_eq_of_lt hfits, h.position]
    omega

theorem toEnd (h : At source held cursor) :
    At source held.toEnd (cursor.advanceBy cursor.rest.length) :=
  h.moved (by rw [h.length, h.length_rest, Nat.min_self])

/-- The offset is compared with the end only after a sum that does not overflow. -/
theorem advanceBy (h : At source held cursor) (distance : UInt32) :
    At source (held.advanceBy distance) (cursor.advanceBy distance.toNat) := by
  have hfits := h.fits
  have hmax := PaddedSource.maxLength_succ
  have hsum := toNat_saturatingAdd held.position distance
  rw [h.position] at hsum
  unfold PaddedCursor.advanceBy
  dsimp only
  split
  · rename_i hinside
    rw [UInt32.lt_iff_toNat_lt, h.length] at hinside
    exact h.moved (by omega)
  · rename_i hpast
    rw [UInt32.lt_iff_toNat_lt, h.length] at hpast
    exact h.moved (by rw [h.length]; omega)

/-- What a search found in what is left, as a move. -/
theorem moveTo? (h : At source held cursor) (found : Option Nat)
    (hfound : found.getD cursor.rest.length ≤ cursor.rest.length) :
    Lands source (held.moveTo? found) (cursor.advanceBy (found.getD cursor.rest.length)) := by
  cases found with
  | none => exact ⟨_, rfl, h.toEnd⟩
  | some distance =>
    have hlength := h.length_rest
    have hfits := h.fits
    have hmax := PaddedSource.maxLength_succ
    rw [Option.getD_some] at hfound ⊢
    have hword : (UInt32.ofNat distance).toNat = distance :=
      UInt32.toNat_ofNat_of_lt' (by omega)
    have hmove := h.moveBy? (UInt32.ofNat distance) (by rwa [hword])
    rwa [hword] at hmove

theorem advance? (h : At source held cursor) : Lands source held.advance? cursor.advance := by
  unfold PaddedCursor.advance?
  split
  · rename_i hinside
    exact h.moveBy? 1 (List.length_pos_iff.mpr (h.lt_iff.mp hinside))
  · rename_i hpast
    have hdone : cursor.rest = [] := by simpa [h.lt_iff] using hpast
    refine ⟨held, rfl, h.moved ?_⟩
    have hlength := h.length_rest
    rw [hdone, List.length_nil] at hlength
    rw [h.position]
    omega

theorem advanceChar? (h : At source held cursor) :
    Lands source held.advanceChar? cursor.advanceChar := by
  have hwidth : (UInt32.ofNat (charWidth cursor.current)).toNat =
      charWidth cursor.current := by
    apply UInt32.toNat_ofNat_of_lt'
    unfold charWidth
    repeat' split
    all_goals decide
  have hmove := h.advanceBy (UInt32.ofNat (charWidth cursor.current))
  rw [hwidth] at hmove
  refine ⟨_, ?_, hmove⟩
  rw [PaddedCursor.advanceChar?, h.byteAt? (by decide)]
  rfl

theorem skipLine? (h : At source held cursor) : Lands source held.skipLine? cursor.skipLine := by
  have hline := lineLength_eq_findIdx? cursor.rest
  have hmove := h.moveTo? (cursor.rest.findIdx? (· = Byte.lineFeed)) (by
    rw [← hline, lineLength]
    exact (List.takeWhile_prefix _).length_le)
  rw [← hline] at hmove
  rw [PaddedCursor.skipLine?, h.rest?]
  exact hmove

/-- The byte that stops the move is the one at the cursor, which is zero at the end. -/
theorem skipPlain? (h : At source held cursor) (quote : UInt8) :
    ∃ next, held.skipPlain? quote = some ((cursor.skipPlain quote).current, next) ∧
      At source next (cursor.skipPlain quote) := by
  have hplain := plainLength_eq_literalStop? quote cursor.rest
  have hle : plainLength quote cursor.rest ≤ cursor.rest.length :=
    (List.takeWhile_prefix _).length_le
  obtain ⟨next, hnext, hat⟩ := h.moveTo? _ (hplain ▸ hle)
  rw [← hplain] at hat
  -- the end is where nothing is found, and there the byte at the cursor is zero
  have hstop : next.stop? (literalStop? quote cursor.rest) =
      some (cursor.skipPlain quote).current := by
    unfold PaddedCursor.stop?
    split
    · exact hat.byteAt? (Nat.zero_le 2)
    · rename_i hnone
      rw [Option.not_isSome_iff_eq_none.mp hnone, Option.getD_none] at hplain
      rw [Cursor.skipPlain, hplain]
      simp [Cursor.current, Cursor.ahead, Cursor.advanceBy]
  refine ⟨next, ?_, hat⟩
  rw [PaddedCursor.skipPlain?, h.rest?]
  simp only [Option.bind_eq_bind, Option.bind_some, hnext, hstop]
  rfl

/-- Behind the two bytes that are found the source is not over, so their length fits. -/
theorem moveBehind? (h : At source held cursor) {distance : Nat}
    (hdistance : distance + 2 ≤ cursor.rest.length) :
    ∃ next, held.moveBehind? (some distance) = some (true, next) ∧
      At source next (cursor.advanceBy (distance + 2)) := by
  have hlength := h.length_rest
  have hfits := h.fits
  have hmax := PaddedSource.maxLength_succ
  have hword : (UInt32.ofNat distance).toNat = distance := UInt32.toNat_ofNat_of_lt' (by omega)
  have htwo : (2 : UInt32).toNat = 2 := rfl
  have hless : (UInt32.ofNat distance).toNat + (2 : UInt32).toNat < UInt32.size := by
    rw [hword, htwo]
    omega
  have hvalue : (UInt32.ofNat distance + 2).toNat = distance + 2 := by
    rw [UInt32.toNat_add, Nat.mod_eq_of_lt hless, hword, htwo]
  obtain ⟨next, hnext, hat⟩ := h.moveBy? (UInt32.ofNat distance + 2) (by omega)
  rw [hvalue] at hat
  refine ⟨next, ?_, hat⟩
  simp only [PaddedCursor.moveBehind?, checkedAdd?, if_pos hless, Option.bind_eq_bind,
    Option.bind_some, hnext]
  rfl

theorem skipComment? (h : At source held cursor) :
    ∃ next, held.skipComment? = some (cursor.skipComment.1, next) ∧
      At source next cursor.skipComment.2 := by
  have hend := commentEnd?_eq_occurrence? cursor.rest
  rw [PaddedCursor.skipComment?, h.rest?, Cursor.skipComment, Option.bind_eq_bind,
    Option.bind_some]
  cases hfound : occurrence? [Byte.star, Byte.slash] cursor.rest with
  | none =>
    rw [hend, hfound]
    exact ⟨_, rfl, h.toEnd⟩
  | some distance =>
    rw [hfound] at hend
    rw [hend]
    exact h.moveBehind? (commentEnd?_le hend)

/-- One byte further on, as a step of a loop. -/
theorem moveBy?_one {b : UInt8} {rest : List UInt8} {position : Nat}
    (h : At source held ⟨position, b :: rest⟩) :
    Lands source (held.moveBy? 1) ⟨position + 1, rest⟩ := by
  have hmove := h.moveBy? 1 (by simp)
  exact hmove

/-- The loop stops where the class ends, or at the end of the source. -/
theorem skipWhile? (h : At source held cursor) (isMember : UInt8 → Bool) :
    Lands source (held.skipWhile? isMember) (cursor.skipWhile isMember) := by
  obtain ⟨position, rest⟩ := cursor
  induction rest generalizing held position with
  | nil =>
    rw [skipWhile?_eq, if_neg (by simp [h.lt_iff])]
    exact ⟨held, rfl, h⟩
  | cons b rest ih =>
    rw [skipWhile?_eq, if_pos (h.lt_iff.mpr (List.cons_ne_nil _ _)), h.byteAt? (Nat.zero_le 2),
      Option.bind_some]
    show Lands source (if isMember b then _ else _) _
    by_cases hmember : isMember b
    · obtain ⟨next, hnext, hat⟩ := h.moveBy?_one
      have hrest := ih _ hat
      rw [Cursor.skipWhile, ← Cursor.advanceBy_succ position b] at hrest
      rwa [if_pos hmember, hnext, Option.bind_some, Cursor.skipWhile,
        List.takeWhile_cons_of_pos hmember, List.length_cons]
    · rw [if_neg hmember]
      refine ⟨held, rfl, ?_⟩
      rw [Cursor.skipWhile, List.takeWhile_cons_of_neg hmember]
      exact h

/-- At the end the zero there is no blank. -/
theorem atBlank?_nil {position : Nat} (h : At source held ⟨position, []⟩) :
    held.atBlank? = some false := by
  rw [PaddedCursor.atBlank?, h.byteAt? (Nat.zero_le 2)]
  rfl

theorem atBlank?_cons {b : UInt8} {rest : List UInt8} {position : Nat}
    (h : At source held ⟨position, b :: rest⟩) :
    held.atBlank? = some (decide (Byte.isBlank b ∨
      b = Byte.carriageReturn ∧ rest.head? ≠ some Byte.lineFeed)) := by
  have hinside : held.position < held.source.length := h.lt_iff.mpr (List.cons_ne_nil _ _)
  have hhere : (⟨position, b :: rest⟩ : Cursor).ahead 0 = b := rfl
  -- past the end, the zero there is no line feed
  have hnext : (⟨position, b :: rest⟩ : Cursor).ahead 1 ≠ Byte.lineFeed ↔
      rest.head? ≠ some Byte.lineFeed := by
    cases rest with
    | nil => exact iff_of_true (by decide : (0 : UInt8) ≠ Byte.lineFeed) (by simp)
    | cons c rest => simp [Cursor.ahead]
  rw [PaddedCursor.atBlank?, h.byteAt? (Nat.zero_le 2), hhere, Option.bind_eq_bind,
    Option.bind_some]
  by_cases hblank : Byte.isBlank b
  · rw [if_pos hblank]
    simp [hblank]
  · rw [if_neg hblank]
    by_cases hreturn : b = Byte.carriageReturn
    · subst hreturn
      rw [if_pos rfl, h.byteAt? (by decide)]
      simp only [hblank, hinside, ← hnext, Option.bind_some, decide_true, Bool.and_true,
        Bool.false_eq_true, true_and, false_or]
      rfl
    · rw [if_neg hreturn]
      simp [hblank, hreturn]

/-- The loop stops at the end because of the zero there, as it tests for the end only at a
carriage return. -/
theorem skipBlanks? (h : At source held cursor) :
    Lands source held.skipBlanks? cursor.skipBlanks := by
  obtain ⟨position, rest⟩ := cursor
  induction rest generalizing held position with
  | nil =>
    rw [skipBlanks?_eq, h.atBlank?_nil]
    exact ⟨held, rfl, h⟩
  | cons b rest ih =>
    rw [skipBlanks?_eq, h.atBlank?_cons, Option.bind_some, Cursor.skipBlanks, blankLength]
    by_cases hblank : Byte.isBlank b ∨
        b = Byte.carriageReturn ∧ rest.head? ≠ some Byte.lineFeed
    · obtain ⟨next, hnext, hat⟩ := h.moveBy?_one
      have hrest := ih _ hat
      rw [Cursor.skipBlanks, ← Cursor.advanceBy_succ position b] at hrest
      rwa [if_pos (decide_eq_true hblank), if_pos hblank, hnext, Option.bind_some]
    · rw [if_neg (by simpa using hblank), if_neg hblank]
      exact ⟨held, rfl, h⟩

/-! ### All moves -/

/-- Each move succeeds, and goes where it is said to go. -/
theorem perform? (h : At source held cursor) (move : Move) :
    Lands source (move.perform? held) (move.perform cursor) := by
  cases move with
  | advance => exact h.advance?
  | advanceBy distance => exact ⟨_, rfl, h.advanceBy distance⟩
  | advanceChar => exact h.advanceChar?
  | skipWhile isMember => exact h.skipWhile? isMember
  | skipLine => exact h.skipLine?
  | skipPlain quote =>
    obtain ⟨next, hnext, hat⟩ := h.skipPlain? quote
    exact ⟨next, by rw [Move.perform?, hnext]; rfl, hat⟩
  | skipComment =>
    obtain ⟨next, hnext, hat⟩ := h.skipComment?
    exact ⟨next, by rw [Move.perform?, hnext]; rfl, hat⟩
  | skipBlanks => exact h.skipBlanks?

end At

end PaddedCursor

/-- No move goes back. -/
theorem Move.position_le_perform (move : Move) (cursor : Cursor) :
    cursor.position ≤ (move.perform cursor).position := by
  cases move with
  | skipComment =>
    rw [perform, Cursor.skipComment]
    split <;> exact Nat.le_add_right _ _
  | advance | advanceBy | advanceChar | skipWhile | skipLine | skipPlain | skipBlanks =>
    exact Nat.le_add_right _ _

/-! ## Runs -/

/-- What is done with a cursor. -/
inductive Act where
  /-- It is moved. -/
  | move (move : Move)
  /-- A copy of it is kept. -/
  | save
  /-- The copy that was kept so many times ago takes its place. -/
  | restore (which : Nat)

/-- A cursor, with the copies that are kept, the last first. -/
structure Reading (κ : Type) where
  now : κ
  saved : List κ

namespace Reading

variable {κ : Type}

/-- The reading in which only the first cursor is kept. -/
def start (cursor : κ) : Reading κ :=
  ⟨cursor, [cursor]⟩

/-- The reading after an act, given what the moves do.  Where no copy is left to go back
to, the cursor stays where it is. -/
def act? (perform? : Move → κ → Option κ) (reading : Reading κ) : Act → Option (Reading κ)
  | .move move => (perform? move reading.now).map fun next => { reading with now := next }
  | .save => some { reading with saved := reading.now :: reading.saved }
  | .restore which => some { reading with now := (reading.saved[which]?).getD reading.now }

/-- The reading after some acts. -/
def acts? (perform? : Move → κ → Option κ) (reading : Reading κ) (acts : List Act) :
    Option (Reading κ) :=
  acts.foldlM (act? perform?) reading

/-- Two readings of a source, one of them over a buffer, that are at the same place and keep
the same places. -/
structure SameAs (source : List UInt8) (held : Reading PaddedCursor) (plain : Reading Cursor) :
    Prop where
  now : held.now.At source plain.now
  saved : List.Forall₂ (PaddedCursor.At source) held.saved plain.saved

/-- Copies that were kept at the same time are at the same place. -/
theorem forall₂_getD {source : List UInt8} {held : List PaddedCursor} {plain : List Cursor}
    (h : List.Forall₂ (PaddedCursor.At source) held plain) {now : PaddedCursor}
    {cursor : Cursor} (hnow : now.At source cursor) (which : Nat) :
    PaddedCursor.At source ((held[which]?).getD now) ((plain[which]?).getD cursor) := by
  induction h generalizing which with
  | nil => exact hnow
  | cons hfirst _ ih =>
    cases which with
    | zero => exact hfirst
    | succ which => exact ih which

namespace SameAs

variable {source : List UInt8} {held : Reading PaddedCursor} {plain : Reading Cursor}

/-- One act keeps the two readings at the same places, and succeeds. -/
theorem act? (h : SameAs source held plain) (act : Act) :
    ∃ held' plain', held.act? Move.perform? act = some held' ∧
      plain.act? (fun move cursor => some (move.perform cursor)) act = some plain' ∧
      SameAs source held' plain' := by
  cases act with
  | move move =>
    obtain ⟨next, hnext, hat⟩ := h.now.perform? move
    exact ⟨{ held with now := next }, { plain with now := move.perform plain.now },
      by rw [Reading.act?, hnext]; rfl, rfl, hat, h.saved⟩
  | save => exact ⟨_, _, rfl, rfl, h.now, .cons h.now h.saved⟩
  | restore which => exact ⟨_, _, rfl, rfl, forall₂_getD h.saved h.now which, h.saved⟩

/-- So do any acts. -/
theorem acts? (h : SameAs source held plain) (acts : List Act) :
    ∃ held' plain', held.acts? Move.perform? acts = some held' ∧
      plain.acts? (fun move cursor => some (move.perform cursor)) acts = some plain' ∧
      SameAs source held' plain' := by
  induction acts generalizing held plain with
  | nil => exact ⟨held, plain, rfl, rfl, h⟩
  | cons act acts ih =>
    obtain ⟨held', plain', hheld, hplain, hsame⟩ := h.act? act
    obtain ⟨last, plainLast, hlast, hplainLast, hsameLast⟩ := ih hsame
    refine ⟨last, plainLast, ?_, ?_, hsameLast⟩
    · rw [Reading.acts?, List.foldlM_cons, hheld]
      exact hlast
    · rw [Reading.acts?, List.foldlM_cons, hplain]
      exact hplainLast

/-- Only an act that goes back to a copy moves the cursor back. -/
theorem position_le (h : SameAs source held plain) {act : Act}
    (hact : ∀ which, act ≠ .restore which) {after : Reading PaddedCursor}
    (hafter : held.act? Move.perform? act = some after) :
    held.now.position ≤ after.now.position := by
  cases act with
  | move move =>
    obtain ⟨next, hnext, hat⟩ := h.now.perform? move
    rw [Reading.act?, hnext] at hafter
    obtain rfl := Option.some.inj hafter
    rw [UInt32.le_iff_toNat_le, h.now.position, hat.position]
    exact move.position_le_perform plain.now
  | save =>
    obtain rfl := Option.some.inj hafter
    exact UInt32.le_refl _
  | restore which => exact absurd rfl (hact which)

end SameAs

end Reading

/-- Whatever is done with a cursor over the buffer of a source whose offsets fit 32 bits, no
sum overflows and nothing outside of the buffer is read.  The cursor stays within the source
and is where a `Cursor` is to which the same is done.  It reads what stands in the source at
the cursor and up to two places behind it, and zero past the end; what is left is what stands
in the source from the cursor on.  It goes back only to a copy. -/
theorem cursor_stays_inside (text : String)
    (h : (bytes text).length ≤ PaddedSource.maxLength) (acts : List Act) :
    ∃ held plain,
      (Reading.start (PaddedCursor.start (.ofBytes (bytes text)))).acts? Move.perform? acts =
        some held ∧
      (Reading.start (Cursor.ofText text)).acts? (fun move cursor => some (move.perform cursor))
        acts = some plain ∧
      held.now.position.toNat = plain.now.position ∧
      held.now.position ≤ held.now.source.length ∧
      held.now.source.length.toNat = (bytes text).length ∧
      (∀ distance ≤ 2, ∃ b, held.now.byteAt? distance = some b ∧
        b = ((bytes text)[held.now.position.toNat + distance]?).getD 0 ∧
        b = plain.now.ahead distance) ∧
      held.now.rest? = some ((bytes text).drop held.now.position.toNat) ∧
      held.now.rest? = some plain.now.rest ∧
      ∀ act after, held.act? Move.perform? act = some after → (∀ which, act ≠ .restore which) →
        held.now.position ≤ after.now.position := by
  have hstart : Reading.SameAs (bytes text)
      (.start (PaddedCursor.start (.ofBytes (bytes text)))) (.start (Cursor.ofText text)) :=
    ⟨.start h, .cons (.start h) .nil⟩
  obtain ⟨held, plain, hheld, hplain, hsame⟩ := hstart.acts? acts
  have hat := hsame.now
  refine ⟨held, plain, hheld, hplain, hat.position, ?_, hat.length, fun distance hdistance => ?_,
    ?_, hat.rest?, fun act after hafter hact => hsame.position_le hact hafter⟩
  · rw [UInt32.le_iff_toNat_le, hat.length, hat.position]
    exact hat.le_length
  · refine ⟨_, hat.byteAt? hdistance, ?_, rfl⟩
    rw [Cursor.ahead, hat.rest, hat.position, List.getElem?_drop]
  · rw [hat.rest?, hat.rest, hat.position]

/-- A word, a zero byte within the source, and a line end behind blanks. -/
def zeroInside : String :=
  "ab\x00 \t\r\n"

/-- Moves up to the zero byte, over the blanks and past the end, and back to the copies of
the two places. -/
def leapingActs : List Act :=
  [.move (.skipWhile (· ≠ 0)), .save, .move .advance, .move .skipBlanks, .save,
   .move (.advanceBy 4294967295), .move .skipBlanks, .restore 0, .move .skipLine, .restore 1]

/-- The last copy is the one at the zero byte, which reads as the zeros behind the end do. -/
theorem cursor_at_inner_zero :
    (bytes zeroInside).length ≤ PaddedSource.maxLength ∧
    ∃ held,
      (Reading.start (PaddedCursor.start (.ofBytes (bytes zeroInside)))).acts? Move.perform?
        leapingActs = some held ∧
      held.now.position.toNat = 2 ∧ held.now.byteAt? 0 = some 0 ∧
      held.now.rest? = some [0, 0x20, 0x09, 0x0D, 0x0A] := by
  have hfits : (bytes zeroInside).length ≤ PaddedSource.maxLength := by decide +kernel
  obtain ⟨held, plain, hheld, hplain, hposition, -, -, hreads, hrest, -⟩ :=
    cursor_stays_inside zeroInside hfits leapingActs
  have hplace : ((Reading.start (Cursor.ofText zeroInside)).acts?
      (fun move cursor => some (move.perform cursor)) leapingActs).map (·.now.position) =
        some 2 := by
    decide +kernel
  rw [hplain] at hplace
  have hat : held.now.position.toNat = 2 := hposition.trans (Option.some.inj hplace)
  obtain ⟨b, hb, hvalue, -⟩ := hreads 0 (by decide)
  rw [hat] at hvalue hrest
  refine ⟨hfits, held, hheld, hat, ?_, ?_⟩
  · rw [hb, hvalue]
    decide +kernel
  · rw [hrest]
    decide +kernel

end CLexicon
