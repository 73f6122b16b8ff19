import CLexicon.Proofs.Lexicon.Lookup
import CLexicon.Proofs.Operators.LongestMatch
import CLexicon.Proofs.Text.Boundary

/-!
# Operators of a lexicon

A lexicon holds its operator spellings twice: in the table of the category
operator, and in a trie that is filled entry by entry.  The two are asked in
different places, so they have to agree.

* `get?_trie`: the trie has for a spelling the entry that the table leads to.
* `operatorAt?_isLongest`: the operator that is found at a place of some bytes
  is the longest operator spelling that stands there, with the entry that the
  table leads to.
* `exists_of_longest?`: what a scanner reads as an operator is one.  For a
  catalogue that was put in order it is ASCII (`ascii_of_longest?`).
-/

namespace CLexicon

open Text

/-- The operator spellings of a catalogue, entry by entry. -/
def Catalogue.operatorSpellings (catalogue : Catalogue) : List String :=
  catalogue.entries.flatMap Lexicon.operatorSpellings

/-- An operator spelling stands at the front of some bytes, and no longer one
does. -/
structure IsLongestOperator (catalogue : Catalogue) (input : List UInt8)
    (spelling : String) : Prop where
  mem : spelling ∈ catalogue.operatorSpellings
  begins : bytes spelling <+: input
  longest : ∀ other ∈ catalogue.operatorSpellings, bytes other <+: input →
    (bytes other).length ≤ (bytes spelling).length

namespace Lexicon

variable {catalogue : Catalogue}

/-! ## Operator spellings -/

theorem mem_operatorSpellings_entry {entry : Entry} {spelling : String} :
    spelling ∈ operatorSpellings entry ↔ entry.Carries .operator spelling := by
  unfold operatorSpellings Entry.Carries
  rw [List.mem_append, Entry.isSpelled_iff, Entry.mem_aliasesIn]
  apply or_congr_left
  split
  · rename_i hcategory
    rw [List.mem_singleton, eq_comm]
    exact (and_iff_right hcategory).symm
  · rename_i hcategory
    simp [hcategory]

theorem mem_operatorSpellings {spelling : String} :
    spelling ∈ catalogue.operatorSpellings ↔
      ∃ entry ∈ catalogue.entries, entry.Carries .operator spelling := by
  unfold Catalogue.operatorSpellings
  rw [List.mem_flatMap]
  exact exists_congr fun _ => and_congr_right fun _ => mem_operatorSpellings_entry

/-- The operator spellings are what the table of operators is filled with. -/
theorem lookupIn?_operator_isSome_iff {spelling : String} :
    ((ofCatalogue catalogue).lookupIn? .operator spelling).isSome ↔
      spelling ∈ catalogue.operatorSpellings :=
  lookupIn?_isSome_iff.trans mem_operatorSpellings.symm

/-! ## The trie and the table -/

/-- The trie is filled with the operator spellings and the entries that the
table leads to. -/
theorem mem_operatorPairs {key : List UInt8} {entry : Entry} :
    (key, entry) ∈ operatorPairs catalogue (ofCatalogue catalogue).operators ↔
      ∃ spelling, key = bytes spelling ∧
        (ofCatalogue catalogue).lookupIn? .operator spelling = some entry := by
  unfold operatorPairs
  rw [List.mem_flatMap]
  constructor
  · intro hgiven
    obtain ⟨owner, howner, hpair⟩ := hgiven
    obtain ⟨spelling, hspelling, heq⟩ := List.mem_map.mp hpair
    obtain ⟨rfl, rfl⟩ := Prod.mk.inj heq
    refine ⟨spelling, rfl, ?_⟩
    have hsome : ((ofCatalogue catalogue).operators[spelling]?).isSome :=
      lookupIn?_isSome_iff.mpr ⟨owner, howner, mem_operatorSpellings_entry.mp hspelling⟩
    show (ofCatalogue catalogue).operators[spelling]? = _
    obtain ⟨found, hfound⟩ := Option.isSome_iff_exists.mp hsome
    rw [hfound]
    rfl
  · intro hgiven
    obtain ⟨spelling, rfl, hlookup⟩ := hgiven
    obtain ⟨hentry, hcarries⟩ := carries_of_lookupIn? hlookup
    refine ⟨entry, hentry, List.mem_map.mpr ⟨spelling, ?_, ?_⟩⟩
    · exact mem_operatorSpellings_entry.mpr hcarries
    · have htable : (ofCatalogue catalogue).operators[spelling]? = some entry := hlookup
      rw [htable]
      rfl

/-- What the trie has for some bytes is the entry that the table has for the
spelling that they encode. -/
theorem get?_trie_eq_some_iff {key : List UInt8} {entry : Entry} :
    (ofCatalogue catalogue).trie.get? key = some entry ↔
      ∃ spelling, spelling ≠ "" ∧ key = bytes spelling ∧
        (ofCatalogue catalogue).lookupIn? .operator spelling = some entry := by
  show (Trie.ofList (operatorPairs catalogue
    (ofCatalogue catalogue).operators)).get? key = some entry ↔ _
  rw [Trie.get?_ofList]
  constructor
  · intro h
    split at h
    · cases h
    rename_i hkey
    obtain ⟨spelling, rfl, hentry⟩ := mem_operatorPairs.mp (mem_of_lookup_eq_some h)
    refine ⟨spelling, ?_, rfl, hentry⟩
    intro heq
    subst heq
    exact hkey rfl
  · intro hgiven
    obtain ⟨spelling, hspelling, rfl, hentry⟩ := hgiven
    rw [if_neg fun hnil => hspelling (bytes_injective (hnil.trans rfl))]
    have hsome : ((operatorPairs catalogue (ofCatalogue catalogue).operators).lookup
        (bytes spelling)).isSome := by
      rw [List.lookup_isSome_iff]
      exact ⟨_, mem_operatorPairs.mpr ⟨spelling, rfl, hentry⟩, beq_self_eq_true _⟩
    obtain ⟨found, hfound⟩ := Option.isSome_iff_exists.mp hsome
    -- all pairs of a spelling hold the entry of the table, so the first one does
    obtain ⟨other, hbytes, hother⟩ := mem_operatorPairs.mp (mem_of_lookup_eq_some hfound)
    rw [hfound, ← hentry, bytes_injective hbytes, hother]

/-- The trie has for each spelling but the empty one what the table has. -/
theorem get?_trie (spelling : String) :
    (ofCatalogue catalogue).trie.get? (bytes spelling) =
      if spelling = "" then none
      else (ofCatalogue catalogue).lookupIn? .operator spelling := by
  apply Option.ext
  intro entry
  rw [get?_trie_eq_some_iff]
  split
  · rename_i hempty
    subst hempty
    constructor
    · intro hgiven
      obtain ⟨other, hother, hbytes, -⟩ := hgiven
      exact absurd (bytes_injective hbytes).symm hother
    · intro h
      cases h
  · rename_i hspelling
    constructor
    · intro hgiven
      obtain ⟨other, -, hbytes, hlookup⟩ := hgiven
      rwa [bytes_injective hbytes]
    · intro hlookup
      exact ⟨spelling, hspelling, rfl, hlookup⟩

/-- What is read as an operator is the encoding of an operator spelling. -/
theorem exists_of_longest? {input : List UInt8} {length : Nat}
    (h : (ofCatalogue catalogue).operatorTable.longest? input = some length) :
    ∃ spelling ∈ catalogue.operatorSpellings, input.take length = bytes spelling := by
  obtain ⟨⟨entry, _⟩, hmatch, rfl⟩ := Option.map_eq_some_iff.mp h
  obtain ⟨spelling, -, hbytes, hlookup⟩ :=
    get?_trie_eq_some_iff.mp (Trie.get?_take_of_longestMatch? hmatch)
  refine ⟨spelling, lookupIn?_operator_isSome_iff.mp ?_, hbytes⟩
  rw [hlookup]
  rfl

/-! ## Catalogues that were put in order -/

/-- ASCII punctuation is encoded as one byte, which is ASCII and prints. -/
theorem graphic_of_isPunctuation {c : Char} (h : Category.isPunctuation c) :
    ∀ b ∈ String.utf8EncodeChar c, 0x21 ≤ b ∧ b ≤ 0x7E := by
  simp only [Category.isPunctuation, Bool.and_eq_true, decide_eq_true_eq] at h
  have hge : 33 ≤ c.val.toNat := h.1.1
  have hle : c.val.toNat ≤ 126 := h.1.2
  have hbyte : (UInt8.ofNat c.val.toNat).toNat = c.val.toNat :=
    UInt8.toNat_ofNat_of_lt' (by show _ < 256; omega)
  unfold String.utf8EncodeChar
  dsimp only
  rw [if_pos (by omega), List.forall_mem_singleton, UInt8.le_iff_toNat_le,
    UInt8.le_iff_toNat_le, hbyte]
  exact ⟨hge, hle⟩

section Normalized

variable {raw : List RawItem} {options : NormalizeOptions}

theorem accepts_of_mem_operatorSpellings {spelling : String}
    (h : spelling ∈ (normalize raw options).catalogue.operatorSpellings) :
    Category.operator.accepts spelling := by
  obtain ⟨entry, hentry, hcarries⟩ := mem_operatorSpellings.mp h
  exact accepts_of_carries hentry hcarries

/-- The bytes of operator spellings are ASCII and print. -/
theorem graphic_of_mem_operatorSpellings {spelling : String}
    (h : spelling ∈ (normalize raw options).catalogue.operatorSpellings) :
    ∀ b ∈ bytes spelling, 0x21 ≤ b ∧ b ≤ 0x7E := by
  have haccepts := accepts_of_mem_operatorSpellings h
  simp only [Category.accepts, Category.isPunctuationRun, Bool.and_eq_true,
    List.all_eq_true] at haccepts
  intro b hb
  obtain ⟨c, hc, hb⟩ := List.mem_flatMap.mp hb
  exact graphic_of_isPunctuation (haccepts.2 c hc) b hb

theorem ascii_of_mem_operatorSpellings {spelling : String}
    (h : spelling ∈ (normalize raw options).catalogue.operatorSpellings) :
    ∀ b ∈ bytes spelling, b < 0x80 := fun b hb =>
  UInt8.lt_of_le_of_lt (graphic_of_mem_operatorSpellings h b hb).2 (by decide)

/-- What is read as an operator is ASCII and prints. -/
theorem graphic_of_longest? {input : List UInt8} {length : Nat}
    (h : (ofCatalogue (normalize raw options).catalogue).operatorTable.longest? input =
      some length) : ∀ b ∈ input.take length, 0x21 ≤ b ∧ b ≤ 0x7E := by
  obtain ⟨spelling, hspelling, hbytes⟩ := exists_of_longest? h
  rw [hbytes]
  exact graphic_of_mem_operatorSpellings hspelling

theorem ascii_of_longest? {input : List UInt8} {length : Nat}
    (h : (ofCatalogue (normalize raw options).catalogue).operatorTable.longest? input =
      some length) : ∀ b ∈ input.take length, b < 0x80 := fun b hb =>
  UInt8.lt_of_le_of_lt (graphic_of_longest? h b hb).2 (by decide)

theorem ne_empty_of_mem_operatorSpellings {spelling : String}
    (h : spelling ∈ (normalize raw options).catalogue.operatorSpellings) :
    spelling ≠ "" := by
  intro heq
  subst heq
  have := accepts_of_mem_operatorSpellings h
  simp [Category.accepts, Category.isPunctuationRun] at this

/-- No operator spelling is empty, so the trie and the table agree on all
spellings. -/
theorem get?_trie_eq_lookupIn? (spelling : String) :
    (ofCatalogue (normalize raw options).catalogue).trie.get? (bytes spelling) =
      (ofCatalogue (normalize raw options).catalogue).lookupIn? .operator spelling := by
  rw [get?_trie]
  split
  · rename_i hempty
    subst hempty
    symm
    rw [← Option.not_isSome_iff_eq_none, lookupIn?_operator_isSome_iff]
    exact fun hmem => ne_empty_of_mem_operatorSpellings hmem rfl
  · rfl

/-- A match of the trie is the longest operator at the front of the input, with
the entry that the table leads to. -/
theorem longestMatch?_trie_eq_some_iff {input : List UInt8} {entry : Entry}
    {length : Nat} :
    (ofCatalogue (normalize raw options).catalogue).trie.longestMatch? input =
        some (entry, length) ↔
      ∃ spelling, IsLongestOperator (normalize raw options).catalogue input spelling ∧
        length = (bytes spelling).length ∧
        (ofCatalogue (normalize raw options).catalogue).lookupIn? .operator spelling =
          some entry := by
  rw [Trie.longestMatch?_eq_some_iff]
  constructor
  · intro hgiven
    obtain ⟨hle, hvalue, hlongest⟩ := hgiven
    obtain ⟨spelling, -, hbytes, hlookup⟩ := get?_trie_eq_some_iff.mp hvalue
    have hlength : (bytes spelling).length = length := by
      rw [← hbytes, List.length_take_of_le hle]
    refine ⟨spelling, ⟨?_, ?_, ?_⟩, hlength.symm, hlookup⟩
    · rw [← lookupIn?_operator_isSome_iff, hlookup]
      rfl
    · rw [← hbytes]
      exact List.take_prefix _ _
    · intro other hother hbegins
      rw [hlength]
      apply hlongest _ hbegins
      rwa [get?_trie_eq_lookupIn?, lookupIn?_operator_isSome_iff]
  · intro hgiven
    obtain ⟨spelling, hlongest, rfl, hlookup⟩ := hgiven
    have htake : input.take (bytes spelling).length = bytes spelling :=
      (List.prefix_iff_eq_take.mp hlongest.begins).symm
    refine ⟨hlongest.begins.length_le, ?_, ?_⟩
    · rw [htake, get?_trie_eq_lookupIn?, hlookup]
    · intro key hbegins hsome
      obtain ⟨value, hvalue⟩ := Option.isSome_iff_exists.mp hsome
      obtain ⟨other, -, rfl, hother⟩ := get?_trie_eq_some_iff.mp hvalue
      refine hlongest.longest other (lookupIn?_operator_isSome_iff.mp ?_) hbegins
      rw [hother]
      rfl

/-- What a scanner sees of the operators is the length of the longest one. -/
theorem longest?_eq_some_iff {input : List UInt8} {length : Nat} :
    (ofCatalogue (normalize raw options).catalogue).operatorTable.longest? input = some length ↔
      ∃ spelling, IsLongestOperator (normalize raw options).catalogue input spelling ∧
        length = (bytes spelling).length := by
  constructor
  · intro h
    obtain ⟨⟨entry, _⟩, hmatch, rfl⟩ := Option.map_eq_some_iff.mp h
    obtain ⟨spelling, hspelling, hlength, -⟩ := longestMatch?_trie_eq_some_iff.mp hmatch
    exact ⟨spelling, hspelling, hlength⟩
  · intro hgiven
    obtain ⟨spelling, hspelling, hlength⟩ := hgiven
    obtain ⟨entry, hentry⟩ := Option.isSome_iff_exists.mp
      (lookupIn?_operator_isSome_iff.mpr hspelling.mem)
    exact Option.map_eq_some_iff.mpr ⟨(entry, length),
      longestMatch?_trie_eq_some_iff.mpr ⟨spelling, hspelling, hlength, hentry⟩, rfl⟩

/-- How long an operator is read depends only on which operator spellings stand
at the front. -/
theorem longest?_congr {input other : List UInt8}
    (h : ∀ spelling ∈ (normalize raw options).catalogue.operatorSpellings,
      (bytes spelling <+: input ↔ bytes spelling <+: other)) :
    (ofCatalogue (normalize raw options).catalogue).operatorTable.longest? input =
      (ofCatalogue (normalize raw options).catalogue).operatorTable.longest? other := by
  have hlongest (spelling : String) :
      IsLongestOperator (normalize raw options).catalogue input spelling ↔
        IsLongestOperator (normalize raw options).catalogue other spelling := by
    constructor
    · intro hgiven
      exact ⟨hgiven.mem, (h _ hgiven.mem).mp hgiven.begins,
        fun longer hmem hbegins => hgiven.longest longer hmem ((h _ hmem).mpr hbegins)⟩
    · intro hgiven
      exact ⟨hgiven.mem, (h _ hgiven.mem).mpr hgiven.begins,
        fun longer hmem hbegins => hgiven.longest longer hmem ((h _ hmem).mp hbegins)⟩
  apply Option.ext
  intro length
  rw [longest?_eq_some_iff, longest?_eq_some_iff]
  exact exists_congr fun spelling => and_congr_left fun _ => hlongest spelling

theorem longestMatch?_trie_isSome_iff {input : List UInt8} :
    ((ofCatalogue (normalize raw options).catalogue).trie.longestMatch? input).isSome ↔
      ∃ spelling ∈ (normalize raw options).catalogue.operatorSpellings,
        bytes spelling <+: input := by
  rw [Trie.longestMatch?_isSome_iff]
  constructor
  · intro hgiven
    obtain ⟨key, hbegins, hsome⟩ := hgiven
    obtain ⟨entry, hentry⟩ := Option.isSome_iff_exists.mp hsome
    obtain ⟨spelling, -, rfl, hlookup⟩ := get?_trie_eq_some_iff.mp hentry
    refine ⟨spelling, lookupIn?_operator_isSome_iff.mp ?_, hbegins⟩
    rw [hlookup]
    rfl
  · intro hgiven
    obtain ⟨spelling, hmem, hbegins⟩ := hgiven
    refine ⟨bytes spelling, hbegins, ?_⟩
    rwa [get?_trie_eq_lookupIn?, lookupIn?_operator_isSome_iff]

theorem operatorAt?_eq_longestMatch? (lexicon : Lexicon) (buffer : List UInt8)
    (offset : Nat) :
    lexicon.operatorAt? buffer offset =
      lexicon.trie.longestMatch? (buffer.drop offset) := by
  unfold operatorAt?
  split
  · rfl
  · rename_i hpast
    rw [List.drop_eq_nil_of_le (by omega)]
    cases lexicon.trie <;> rfl

/-- The operator at an offset of some bytes is the longest operator spelling
that stands there.  Its entry is the one that the table leads to, a scanner
sees the same length, and there is none past the end.  The trie has a spelling
exactly if the table leads somewhere from it, and has the same entry for it. -/
theorem operatorAt?_isLongest (raw : List RawItem) (options : NormalizeOptions)
    (buffer : List UInt8) (offset : Nat) :
    let catalogue := (normalize raw options).catalogue
    let lexicon := ofCatalogue catalogue
    (∀ entry length, lexicon.operatorAt? buffer offset = some (entry, length) ↔
      ∃ spelling, IsLongestOperator catalogue (buffer.drop offset) spelling ∧
        length = (bytes spelling).length ∧
        lexicon.lookupIn? .operator spelling = some entry) ∧
    ((lexicon.operatorAt? buffer offset).isSome ↔
      ∃ spelling ∈ catalogue.operatorSpellings,
        bytes spelling <+: buffer.drop offset) ∧
    lexicon.operatorTable.longest? (buffer.drop offset) =
      (lexicon.operatorAt? buffer offset).map Prod.snd ∧
    (lexicon.operatorAt? buffer offset = none ∨ offset ≤ buffer.length) ∧
    (∀ spelling, lexicon.trie.get? (bytes spelling) =
      lexicon.lookupIn? .operator spelling) ∧
    ∀ spelling, (lexicon.lookupIn? .operator spelling).isSome ↔
      spelling ≠ "" ∧ (lexicon.trie.get? (bytes spelling)).isSome := by
  intro catalogue lexicon
  refine ⟨?_, ?_, ?_, ?_, get?_trie_eq_lookupIn?, ?_⟩
  · intro entry length
    rw [operatorAt?_eq_longestMatch?]
    exact longestMatch?_trie_eq_some_iff
  · rw [operatorAt?_eq_longestMatch?]
    exact longestMatch?_trie_isSome_iff
  · rw [operatorAt?_eq_longestMatch?]
    rfl
  · by_cases hoffset : offset ≤ buffer.length
    · exact Or.inr hoffset
    · exact Or.inl (if_neg hoffset)
  · intro spelling
    rw [get?_trie_eq_lookupIn?]
    refine ⟨fun hsome => ⟨?_, hsome⟩, And.right⟩
    exact ne_empty_of_mem_operatorSpellings (lookupIn?_operator_isSome_iff.mp hsome)

end Normalized

end Lexicon

end CLexicon
