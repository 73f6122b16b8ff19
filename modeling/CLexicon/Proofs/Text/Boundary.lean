import CLexicon.Text.Encoding

/-!
# Where an encoded text may be cut

A text is scanned as the bytes of its UTF-8 encoding.  This module says which
places of the bytes lie between two characters, so that the bytes before and
behind such a place are encoded texts again.

* `IsEncoding` and `CutsAt`: some bytes encode a text, and so do both parts
  that a place cuts them into.  `CutsAt.add` and `CutsAt.isValid` use one cut
  behind another, and a cut as a position of the text.
* `cutsAt_of_besideAscii`: the end of the bytes and every place with an ASCII
  byte at one of its sides are cuts.  Nearly all tokens end at such a place,
  so their ends need no look at the characters inside.
* `cutsAt_charWidth`: the width that is read off the first byte of a character
  leads to a cut as well.
-/

namespace CLexicon.Text

/-! ## The bytes of one character -/

/-- A byte that holds six bits of a character is not ASCII. -/
theorem high_of_continuation (v : Nat) : 0x80 ≤ UInt8.ofNat (v % 0x40 + 0x80) := by
  rw [UInt8.le_iff_toNat_le, UInt8.toNat_ofNat']
  show 128 ≤ _
  omega

/-- The first byte of a character is not ASCII, where it starts at or above
`0xC0`. -/
theorem high_of_le {v : Nat} (hlow : 0xC0 ≤ v) (hhigh : v < 0x100) :
    0x80 ≤ UInt8.ofNat v := by
  rw [UInt8.le_iff_toNat_le, UInt8.toNat_ofNat']
  show 128 ≤ _
  omega

/-- The width of a character by the value of its first byte. -/
theorem charWidth_ofNat {v : Nat} (hv : v < 0x100) :
    charWidth (UInt8.ofNat v) =
      if 0xC0 ≤ v ∧ v ≤ 0xDF then 2
      else if 0xE0 ≤ v ∧ v ≤ 0xEF then 3
      else if 0xF0 ≤ v ∧ v ≤ 0xF7 then 4
      else 1 := by
  have hnat : (UInt8.ofNat v).toNat = v := by
    rw [UInt8.toNat_ofNat']; omega
  simp only [charWidth, UInt8.le_iff_toNat_le, hnat]
  rfl

/-- A character is one ASCII byte, or several bytes none of which is ASCII and
the first of which tells their number. -/
theorem utf8EncodeChar_cases (c : Char) :
    (∃ b, String.utf8EncodeChar c = [b] ∧ b < 0x80) ∨
      ∃ b rest, String.utf8EncodeChar c = b :: rest ∧
        charWidth b = rest.length + 1 ∧ ∀ x ∈ b :: rest, 0x80 ≤ x := by
  unfold String.utf8EncodeChar
  dsimp only
  split
  · refine Or.inl ⟨_, rfl, ?_⟩
    rw [UInt8.lt_iff_toNat_lt, UInt8.toNat_ofNat']
    show _ < 128
    omega
  right
  split
  · refine ⟨_, _, rfl, ?_, ?_⟩
    · rw [charWidth_ofNat (by omega), if_pos (by omega)]; rfl
    · simp only [List.forall_mem_cons]
      exact ⟨high_of_le (by omega) (by omega), high_of_continuation _, by simp⟩
  split
  · refine ⟨_, _, rfl, ?_, ?_⟩
    · rw [charWidth_ofNat (by omega), if_neg (by omega), if_pos (by omega)]; rfl
    · simp only [List.forall_mem_cons]
      exact ⟨high_of_le (by omega) (by omega), high_of_continuation _,
        high_of_continuation _, by simp⟩
  · refine ⟨_, _, rfl, ?_, ?_⟩
    · rw [charWidth_ofNat (by omega), if_neg (by omega), if_neg (by omega),
        if_pos (by omega)]
      rfl
    · simp only [List.forall_mem_cons]
      exact ⟨high_of_le (by omega) (by omega), high_of_continuation _,
        high_of_continuation _, high_of_continuation _, by simp⟩

/-- An ASCII character is one ASCII byte. -/
theorem utf8EncodeChar_of_ascii {c : Char} (h : c.toNat < 0x80) :
    ∃ b, String.utf8EncodeChar c = [b] ∧ b < 0x80 := by
  have hle : c.val.toNat < 128 := h
  unfold String.utf8EncodeChar
  dsimp only
  rw [if_pos (by omega)]
  refine ⟨_, rfl, ?_⟩
  rw [UInt8.lt_iff_toNat_lt, UInt8.toNat_ofNat']
  show _ < 128
  omega

/-! ## Encoded texts and their cuts -/

/-- The bytes are the encoding of some characters. -/
def IsEncoding (input : List UInt8) : Prop :=
  ∃ chars : List Char, input = chars.flatMap String.utf8EncodeChar

theorem isEncoding_nil : IsEncoding [] :=
  ⟨[], rfl⟩

theorem isEncoding_bytes (text : String) : IsEncoding (bytes text) :=
  ⟨text.toList, rfl⟩

theorem isEncoding_utf8EncodeChar (c : Char) :
    IsEncoding (String.utf8EncodeChar c) :=
  ⟨[c], by simp⟩

theorem IsEncoding.append {front back : List UInt8}
    (hfront : IsEncoding front) (hback : IsEncoding back) :
    IsEncoding (front ++ back) := by
  obtain ⟨chars, rfl⟩ := hfront
  obtain ⟨more, rfl⟩ := hback
  exact ⟨chars ++ more, by rw [List.flatMap_append]⟩

/-- The bytes before a place and those behind it encode texts. -/
structure CutsAt (input : List UInt8) (place : Nat) : Prop where
  le_length : place ≤ input.length
  front : IsEncoding (input.take place)
  back : IsEncoding (input.drop place)

theorem CutsAt.zero {input : List UInt8} (hinput : IsEncoding input) :
    CutsAt input 0 :=
  ⟨Nat.zero_le _, isEncoding_nil, hinput⟩

theorem CutsAt.length {input : List UInt8} (hinput : IsEncoding input) :
    CutsAt input input.length := by
  refine ⟨Nat.le_refl _, ?_, ?_⟩
  · rwa [List.take_length]
  · rw [List.drop_length]
    exact isEncoding_nil

/-- A cut stays one behind an encoded text. -/
theorem CutsAt.append {front input : List UInt8} {place : Nat}
    (hfront : IsEncoding front) (hcut : CutsAt input place) :
    CutsAt (front ++ input) (front.length + place) := by
  refine ⟨?_, ?_, ?_⟩
  · rw [List.length_append]
    exact Nat.add_le_add_left hcut.le_length _
  · rw [List.take_length_add_append]
    exact hfront.append hcut.front
  · rw [List.drop_length_add_append]
    exact hcut.back

/-- A cut of what lies behind a cut. -/
theorem CutsAt.add {input : List UInt8} {first second : Nat}
    (hfirst : CutsAt input first) (hsecond : CutsAt (input.drop first) second) :
    CutsAt input (first + second) := by
  have hcut := CutsAt.append hfirst.front hsecond
  rwa [List.take_append_drop, List.length_take_of_le hfirst.le_length] at hcut

/-! ## Cuts beside ASCII bytes -/

/-- A place is the end of the bytes, or an ASCII byte stands at one of its
sides. -/
def BesideAscii (input : List UInt8) (place : Nat) : Prop :=
  place = input.length ∨
    (∃ b, input[place]? = some b ∧ b < 0x80) ∨
    ∃ before b, place = before + 1 ∧ input[before]? = some b ∧ b < 0x80

/-- A place beside an ASCII byte stays one when bytes are put in front. -/
theorem BesideAscii.append {input : List UInt8} {place : Nat}
    (front : List UInt8) (h : BesideAscii input place) :
    BesideAscii (front ++ input) (front.length + place) := by
  rcases h with rfl | ⟨b, hb, hascii⟩ | ⟨before, b, rfl, hb, hascii⟩
  · exact Or.inl (List.length_append).symm
  · refine Or.inr (Or.inl ⟨b, ?_, hascii⟩)
    rwa [List.getElem?_append_right (Nat.le_add_right _ _), Nat.add_sub_cancel_left]
  · refine Or.inr (Or.inr ⟨front.length + before, b, rfl, ?_, hascii⟩)
    rwa [List.getElem?_append_right (Nat.le_add_right _ _), Nat.add_sub_cancel_left]

/-- A place beside an ASCII byte in what lies behind another place. -/
theorem BesideAscii.of_drop {input : List UInt8} {first second : Nat}
    (hfirst : first ≤ input.length) (h : BesideAscii (input.drop first) second) :
    BesideAscii input (first + second) := by
  have hwhole := h.append (input.take first)
  rwa [List.take_append_drop, List.length_take_of_le hfirst] at hwhole

/-- The place behind bytes that are all ASCII. -/
theorem besideAscii_of_forall_take {input : List UInt8} {place : Nat}
    (hpos : 0 < place) (hle : place ≤ input.length)
    (hascii : ∀ b ∈ input.take place, b < 0x80) : BesideAscii input place := by
  have hbefore : place - 1 < input.length := by omega
  refine Or.inr (Or.inr ⟨place - 1, input[place - 1], by omega,
    List.getElem?_eq_getElem hbefore, hascii _ ?_⟩)
  have hmem : (input.take place)[place - 1]? = some input[place - 1] := by
    rw [List.getElem?_take_of_lt (by omega), List.getElem?_eq_getElem hbefore]
  exact List.mem_of_getElem? hmem

/-- In bytes that start with a character, a place beside an ASCII byte is not
inside the character. -/
private theorem besideAscii_char {c : Char} {rest : List UInt8} {place : Nat}
    (h : BesideAscii (String.utf8EncodeChar c ++ rest) place) :
    place = 0 ∨ ∃ place', place = (String.utf8EncodeChar c).length + place' ∧
      (place' = 0 ∨ BesideAscii rest place') := by
  have hchar := utf8EncodeChar_cases c
  generalize String.utf8EncodeChar c = char at h hchar ⊢
  -- a byte of the character that is ASCII is all of it
  have hsingle : ∀ {i : Nat} {b : UInt8}, char[i]? = some b → b < 0x80 →
      char.length = 1 := by
    intro i b hb hascii
    rcases hchar with ⟨_, rfl, _⟩ | ⟨_, _, rfl, _, hhigh⟩
    · rfl
    · exact absurd hascii (UInt8.not_lt.mpr (hhigh b (List.mem_of_getElem? hb)))
  rcases h with rfl | ⟨b, hb, hascii⟩ | ⟨before, b, rfl, hb, hascii⟩
  · exact Or.inr ⟨rest.length, List.length_append, Or.inr (Or.inl rfl)⟩
  · by_cases hin : place < char.length
    · rw [List.getElem?_append_left hin] at hb
      have := hsingle hb hascii
      exact Or.inl (by omega)
    · rw [List.getElem?_append_right (by omega)] at hb
      exact Or.inr ⟨place - char.length, by omega, Or.inr (Or.inr (Or.inl ⟨b, hb, hascii⟩))⟩
  · by_cases hin : before < char.length
    · rw [List.getElem?_append_left hin] at hb
      have := hsingle hb hascii
      exact Or.inr ⟨0, by omega, Or.inl rfl⟩
    · rw [List.getElem?_append_right (by omega)] at hb
      refine Or.inr ⟨before - char.length + 1, by omega, Or.inr (Or.inr (Or.inr ?_))⟩
      exact ⟨_, b, rfl, hb, hascii⟩

/-- A place beside an ASCII byte lies between two characters. -/
theorem cutsAt_of_besideAscii {input : List UInt8} {place : Nat}
    (hinput : IsEncoding input) (h : BesideAscii input place) :
    CutsAt input place := by
  obtain ⟨chars, rfl⟩ := hinput
  induction chars generalizing place with
  | nil =>
    rcases h with rfl | ⟨b, hb, _⟩ | ⟨before, b, _, hb, _⟩
    · exact CutsAt.zero isEncoding_nil
    · simp at hb
    · simp at hb
  | cons c rest ih =>
    rw [List.flatMap_cons] at h ⊢
    have hrest : IsEncoding (rest.flatMap String.utf8EncodeChar) := ⟨rest, rfl⟩
    rcases besideAscii_char h with rfl | ⟨place, rfl, rfl | hplace⟩
    · exact CutsAt.zero ((isEncoding_utf8EncodeChar c).append hrest)
    · exact CutsAt.append (isEncoding_utf8EncodeChar c) (CutsAt.zero hrest)
    · exact CutsAt.append (isEncoding_utf8EncodeChar c) (ih hplace)

/-! ## Cuts behind a character -/

/-- An encoded text that is not empty starts with the encoding of a
character. -/
theorem IsEncoding.cons_cases {b : UInt8} {rest : List UInt8}
    (h : IsEncoding (b :: rest)) :
    ∃ c tail, b :: rest = String.utf8EncodeChar c ++ tail ∧ IsEncoding tail := by
  obtain ⟨chars, hchars⟩ := h
  cases chars with
  | nil => cases hchars
  | cons c chars =>
    rw [List.flatMap_cons] at hchars
    exact ⟨c, _, hchars, chars, rfl⟩

/-- The width of a character, read off its first byte, is its length. -/
theorem charWidth_eq_length {c : Char} {b : UInt8} {rest tail : List UInt8}
    (h : b :: rest = String.utf8EncodeChar c ++ tail) :
    charWidth b = (String.utf8EncodeChar c).length := by
  rcases utf8EncodeChar_cases c with ⟨first, hc, hascii⟩ | ⟨first, more, hc, hwidth, _⟩
  · rw [hc] at h ⊢
    obtain ⟨rfl, _⟩ := List.cons.inj h
    rw [UInt8.lt_iff_toNat_lt] at hascii
    have hlt : b.toNat < 128 := hascii
    have hnat : b = UInt8.ofNat b.toNat := by simp
    rw [hnat, charWidth_ofNat (by omega), if_neg (by omega), if_neg (by omega),
      if_neg (by omega)]
    rfl
  · rw [hc] at h ⊢
    obtain ⟨rfl, _⟩ := List.cons.inj h
    exact hwidth

/-- A text may be cut behind its first character. -/
theorem cutsAt_charWidth {b : UInt8} {rest : List UInt8}
    (h : IsEncoding (b :: rest)) : CutsAt (b :: rest) (charWidth b) := by
  obtain ⟨c, tail, hsplit, htail⟩ := h.cons_cases
  rw [charWidth_eq_length hsplit, hsplit]
  exact CutsAt.append (isEncoding_utf8EncodeChar c) (CutsAt.zero htail)

/-- A character has one first byte, and it comes first. -/
theorem isUTF8FirstByte_utf8EncodeChar {c : Char} {first : UInt8} {more : List UInt8}
    (h : String.utf8EncodeChar c = first :: more) :
    first.IsUTF8FirstByte ∧ ∀ b ∈ more, ¬b.IsUTF8FirstByte := by
  have hbytes {place : Nat} (hplace : place < (first :: more).length) :
      (first :: more)[place].IsUTF8FirstByte ↔ place = 0 := by
    simp only [← h]
    exact UInt8.isUTF8FirstByte_getElem_utf8EncodeChar
  refine ⟨(hbytes (Nat.succ_pos _)).mpr rfl, fun b hb => ?_⟩
  obtain ⟨place, hplace, rfl⟩ := List.getElem_of_mem hb
  exact fun hfirst => absurd ((hbytes (Nat.succ_lt_succ hplace)).mp hfirst) (Nat.succ_ne_zero _)

/-- An encoded text starts with the first byte of a character. -/
theorem IsEncoding.isUTF8FirstByte {b : UInt8} {rest : List UInt8}
    (h : IsEncoding (b :: rest)) : b.IsUTF8FirstByte := by
  obtain ⟨c, tail, hsplit, -⟩ := h.cons_cases
  cases hc : String.utf8EncodeChar c with
  | nil => exact absurd hc String.utf8EncodeChar_ne_nil
  | cons first more =>
    rw [hc, List.cons_append] at hsplit
    rw [(List.cons.inj hsplit).1]
    exact (isUTF8FirstByte_utf8EncodeChar hc).1

/-- Behind an ASCII byte, an encoded text goes on as one. -/
theorem IsEncoding.tail_of_ascii {b : UInt8} {rest : List UInt8} (h : IsEncoding (b :: rest))
    (hascii : b < 0x80) : IsEncoding rest :=
  (cutsAt_of_besideAscii h (Or.inr (Or.inr ⟨0, b, rfl, rfl, hascii⟩))).back

theorem IsEncoding.behind_ascii {before rest : List UInt8} {b : UInt8}
    (h : IsEncoding (before ++ b :: rest)) (hascii : b < 0x80) : IsEncoding rest := by
  have hcut : CutsAt (before ++ b :: rest) before.length :=
    cutsAt_of_besideAscii h (Or.inr (Or.inl ⟨b, by simp, hascii⟩))
  have hback := hcut.back
  rw [List.drop_left] at hback
  exact hback.tail_of_ascii hascii

/-! ## Cuts as positions of a text -/

theorem bytes_append (first second : String) :
    bytes (first ++ second) = bytes first ++ bytes second := by
  simp [bytes]

theorem bytes_ofList (chars : List Char) :
    bytes (String.ofList chars) = chars.flatMap String.utf8EncodeChar := by
  simp [bytes]

theorem bytes_injective {first second : String} (h : bytes first = bytes second) :
    first = second := by
  have hfirst := ofBytes?_eq_some_iff.mpr (rfl : bytes first = bytes first)
  rw [h, ofBytes?_eq_some_iff.mpr rfl] at hfirst
  exact (Option.some.inj hfirst).symm

/-- An encoded text decodes to a text that encodes to it. -/
theorem IsEncoding.bytes_ofBytes {input : List UInt8} (h : IsEncoding input) :
    bytes (ofBytes input) = input := by
  obtain ⟨chars, rfl⟩ := h
  rw [← bytes_ofList, ofBytes, ofBytes?_eq_some_iff.mpr rfl]
  rfl

theorem ofBytes_bytes (text : String) : ofBytes (bytes text) = text :=
  bytes_injective (isEncoding_bytes text).bytes_ofBytes

theorem bytes_singleton (c : Char) :
    bytes (String.singleton c) = String.utf8EncodeChar c := by
  rw [String.singleton_eq_ofList, bytes_ofList, List.flatMap_singleton]

/-- Bytes that stand in a source are what lies between their start and stop. -/
theorem slice?_of_split {source : String} {before middle behind : List UInt8}
    (hsplit : bytes source = before ++ middle ++ behind) (hmiddle : IsEncoding middle) :
    slice? source before.length (before.length + middle.length) = some (ofBytes middle) := by
  have hlength := congrArg List.length hsplit
  rw [List.length_append, List.length_append] at hlength
  rw [slice?_eq, if_pos ⟨Nat.le_add_right _ _, by omega⟩, Nat.add_sub_cancel_left, hsplit,
    List.append_assoc, List.drop_left, List.take_left]
  exact ofBytes?_eq_some_iff.mpr hmiddle.bytes_ofBytes.symm

/-- A part of a text lies between the ends of what stands before it and of itself. -/
theorem slice?_append (before middle behind : String) :
    slice? (before ++ middle ++ behind) before.utf8ByteSize
      (before.utf8ByteSize + middle.utf8ByteSize) = some middle := by
  have hsplit : bytes (before ++ middle ++ behind) =
      bytes before ++ bytes middle ++ bytes behind := by
    rw [bytes_append, bytes_append]
  have hslice := slice?_of_split hsplit (isEncoding_bytes middle)
  rwa [length_bytes, length_bytes, ofBytes_bytes] at hslice

/-- A cut of the bytes of a text is a position of the text. -/
theorem CutsAt.isValid {source : String} {place : Nat}
    (hcut : CutsAt (bytes source) place) :
    (String.Pos.Raw.mk place).IsValid source := by
  rw [String.Pos.Raw.isValid_iff_exists_append]
  refine ⟨ofBytes ((bytes source).take place), ofBytes ((bytes source).drop place),
    ?_, ?_⟩
  · apply bytes_injective
    rw [bytes_append, hcut.front.bytes_ofBytes, hcut.back.bytes_ofBytes,
      List.take_append_drop]
  · rw [String.Pos.Raw.ext_iff, String.byteIdx_rawEndPos, ← length_bytes,
      hcut.front.bytes_ofBytes, List.length_take_of_le hcut.le_length]

/-- A cut of the bytes of a text makes two texts of it. -/
theorem CutsAt.exists_slices {source : String} {place : Nat}
    (hcut : CutsAt (bytes source) place) :
    ∃ first second, slice? source 0 place = some first ∧
      slice? source place source.utf8ByteSize = some second ∧
      bytes first = (bytes source).take place ∧ bytes second = (bytes source).drop place := by
  have hfront := hcut.front.bytes_ofBytes
  have hback := hcut.back.bytes_ofBytes
  refine ⟨_, _, ?_, ?_, hfront, hback⟩
  · rw [slice?_eq, if_pos ⟨Nat.zero_le _, hcut.le_length⟩, List.drop_zero, Nat.sub_zero]
    exact ofBytes?_eq_some_iff.mpr hfront.symm
  · rw [← length_bytes, slice?_eq, if_pos ⟨hcut.le_length, Nat.le_refl _⟩,
      List.take_of_length_le (Nat.le_of_eq List.length_drop)]
    exact ofBytes?_eq_some_iff.mpr hback.symm

end CLexicon.Text
