/-!
# The bytes of a text

Source texts are scanned as bytes, and every offset and length counts bytes of
the UTF-8 encoding.

* `bytes`: the encoding of a text;
* `ofBytes?`: the text that some bytes encode, if they encode one;
* `slice?`: the part of a text between two byte offsets;
* `charWidth`: how long a character is, read off its first byte.
-/

namespace CLexicon.Text

/-- The UTF-8 encoding of a text. -/
def bytes (text : String) : List UInt8 :=
  text.toList.flatMap String.utf8EncodeChar

/-- The text whose UTF-8 encoding the bytes are. -/
def ofBytes? (encoded : List UInt8) : Option String :=
  String.fromUTF8? (ByteArray.mk encoded.toArray)

/-- The text that some bytes encode, and the empty text for bytes that encode
none. -/
def ofBytes (encoded : List UInt8) : String :=
  (ofBytes? encoded).getD ""

/-- The part of a text from byte `start` to byte `stop`. There is none when
the offsets are out of order, lie past the end, or cut a character. -/
def slice? (text : String) (start stop : Nat) : Option String :=
  if start ≤ stop ∧ stop ≤ text.utf8ByteSize then
    String.fromUTF8? (text.toByteArray.extract start stop)
  else
    none

/-- The number of bytes of the character that starts with this byte. A byte
that starts no character counts as one. -/
def charWidth (first : UInt8) : Nat :=
  if 0xC0 ≤ first ∧ first ≤ 0xDF then 2
  else if 0xE0 ≤ first ∧ first ≤ 0xEF then 3
  else if 0xF0 ≤ first ∧ first ≤ 0xF7 then 4
  else 1

/-! ## Laws -/

theorem charWidth_pos (first : UInt8) : 0 < charWidth first := by
  unfold charWidth
  split
  · decide
  split
  · decide
  split <;> decide

private theorem toByteArray_eq_bytes (text : String) :
    text.toByteArray = ByteArray.mk (bytes text).toArray := by
  conv => lhs; rw [← String.ofList_toList (s := text), String.toByteArray_ofList]
  apply ByteArray.ext
  simp [List.utf8Encode, bytes]

/-- Decoding gives back the text that was encoded, and nothing else decodes to
it. -/
theorem ofBytes?_eq_some_iff {encoded : List UInt8} {text : String} :
    ofBytes? encoded = some text ↔ encoded = bytes text := by
  unfold ofBytes? String.fromUTF8?
  constructor
  · intro h
    split at h
    · next valid =>
      have same : (ByteArray.mk encoded.toArray) = text.toByteArray := by
        rw [← Option.some.inj h]
        rfl
      rw [toByteArray_eq_bytes] at same
      simpa using same
    · cases h
  · rintro rfl
    have valid : (ByteArray.mk (bytes text).toArray).IsValidUTF8 :=
      toByteArray_eq_bytes text ▸ text.isValidUTF8
    rw [dif_pos valid]
    congr 1
    exact String.toByteArray_inj.mp (toByteArray_eq_bytes text).symm

theorem length_bytes (text : String) :
    (bytes text).length = text.utf8ByteSize := by
  rw [← String.size_toByteArray, toByteArray_eq_bytes]
  rfl

/-- A part of a text is what its bytes encode. -/
theorem slice?_eq (text : String) (start stop : Nat) :
    slice? text start stop =
      if start ≤ stop ∧ stop ≤ (bytes text).length then
        ofBytes? (((bytes text).drop start).take (stop - start))
      else none := by
  have extract_eq : text.toByteArray.extract start stop =
      ByteArray.mk (((bytes text).drop start).take (stop - start)).toArray := by
    apply ByteArray.ext
    rw [ByteArray.data_extract, toByteArray_eq_bytes, List.extract_toArray,
      List.extract_eq_take_drop]
  rw [slice?, length_bytes, extract_eq]
  rfl

end CLexicon.Text
