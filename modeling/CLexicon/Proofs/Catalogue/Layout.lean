import CLexicon.Catalogue.Document
import Mathlib.Data.List.Forall2
import Mathlib.Data.List.Permutation
import Mathlib.Logic.Relation

/-!
# The layout of a catalogue document

The same items can be written as documents that look different: in sections or without, with
the members of an object in any order, with members that nothing reads, and with defaults
written out or left off.  None of this changes what is read, and none of it makes a document
of wrong items a right one.

* `Json.MembersChange`: what may be done to the members of an object.
* `RawItem.Change`, `Document.SectionChange` and `Document.Change`: what may be done to an
  item, to a section and to a document.  `Document.Sectioned` is one of the last: values are
  cut into sections.
* `RawItem.ofJson?_eq_of_change`, `Document.sectionItems?_eq_of_change` and
  `Document.items?_eq_of_change`: no such change is seen by the function that reads it.
* `Document.read_eq_of_sameUpToLayout`: any number of changes, in texts.
-/

namespace CLexicon

/-- A function that no step changes has one value on all that steps lead to. -/
theorem eq_of_eqvGen {α β : Type} {step : α → α → Prop} {f : α → β}
    (hstep : ∀ x y, step x y → f x = f y) {first second : α}
    (h : Relation.EqvGen step first second) : f first = f second :=
  congrArg (Quot.lift f hstep) (Quot.eqvGen_sound h)

/-! ## Reading every value of a list -/

section Lists

variable {α β : Type} {f : α → Option β}

theorem mapM_eq_of_map_eq {xs ys : List α} (h : xs.map f = ys.map f) : xs.mapM f = ys.mapM f := by
  have hmap : ∀ values : List α, (values.map f).mapM id = values.mapM f :=
    fun values => List.mapM_map
  rw [← hmap, ← hmap, h]

theorem mapM_eq_of_forall₂ {step : α → α → Prop} (hstep : ∀ x y, step x y → f x = f y)
    {xs ys : List α} (h : List.Forall₂ (Relation.EqvGen step) xs ys) :
    xs.mapM f = ys.mapM f := by
  have hsame : List.Forall₂ (· = ·) (xs.map f) (ys.map f) :=
    List.forall₂_map_left_iff.mpr <| List.forall₂_map_right_iff.mpr <|
      h.imp fun _ _ hxy => eq_of_eqvGen hstep hxy
  exact mapM_eq_of_map_eq (List.forall₂_eq_eq_eq ▸ hsame)

theorem mapM_eq_some_iff {xs : List α} {ys : List β} :
    xs.mapM f = some ys ↔ xs.map f = ys.map some := by
  induction xs generalizing ys with
  | nil => cases ys <;> simp
  | cons x xs ih =>
    rw [List.mapM_cons, List.map_cons]
    cases ys with
    | nil => cases f x <;> cases xs.mapM f <;> simp
    | cons y ys =>
      rw [List.map_cons, List.cons.injEq, ← ih]
      cases f x <;> cases xs.mapM f <;> simp

theorem map_flatten_mapM (groups : List (List α)) :
    (groups.mapM (List.mapM f)).map List.flatten = groups.flatten.mapM f := by
  induction groups with
  | nil => rfl
  | cons group groups ih =>
    rw [List.mapM_cons, List.flatten_cons, List.mapM_append, ← ih]
    cases group.mapM f <;> cases groups.mapM (List.mapM f) <;> rfl

end Lists

namespace Json

/-- A text that is a JSON value, with nothing but white space around it. -/
def IsText (value : Json) (text : String) : Prop :=
  ∃ rest, read? text.toList = some (value, rest) ∧ isDone rest

/-! ## Members -/

/-- What may be done to the members of an object where some names are known: they are written
in another order, or a member of another name comes in. -/
inductive MembersChange (known : List String) :
    List (String × Json) → List (String × Json) → Prop where
  | permute {first second : List (String × Json)} (hperm : first.Perm second) :
      MembersChange known first second
  | unknown {name : String} (hname : name ∉ known) (value : Json)
      (members : List (String × Json)) :
      MembersChange known members ((name, value) :: members)

section Members

variable {α : Type} {reader : Json → Option α} {absent : α} {name other : String}
  {value first second : Json} {members front behind : List (String × Json)}

theorem membersNamed_cons_of_ne (h : other ≠ name) (value : Json)
    (members : List (String × Json)) :
    membersNamed ((other, value) :: members) name = membersNamed members name := by
  rw [membersNamed, List.filter_cons_of_neg (by simpa using h)]
  rfl

theorem membersNamed_cons_self (name : String) (value : Json)
    (members : List (String × Json)) :
    membersNamed ((name, value) :: members) name = value :: membersNamed members name := by
  rw [membersNamed, List.filter_cons_of_pos (by simp)]
  rfl

theorem membersNamed_append (front behind : List (String × Json)) (name : String) :
    membersNamed (front ++ behind) name = membersNamed front name ++ membersNamed behind name := by
  rw [membersNamed, List.filter_append, List.map_append]
  rfl

/-- The members of a known name stay, up to their order. -/
theorem MembersChange.perm {known : List String} {before after : List (String × Json)}
    (h : MembersChange known before after) (hname : name ∈ known) :
    (membersNamed before name).Perm (membersNamed after name) := by
  cases h with
  | permute hperm => exact (hperm.filter _).map _
  | @unknown other hother value =>
    have hne : other ≠ name := fun hsame => hother (hsame ▸ hname)
    rw [membersNamed_cons_of_ne hne]

theorem required?_of_repeated (h : 2 ≤ (membersNamed members name).length) :
    required? members name reader = none := by
  unfold required?
  match membersNamed members name, h with
  | _ :: _ :: _, _ => rfl

theorem optional?_of_repeated (h : 2 ≤ (membersNamed members name).length) :
    optional? members name reader absent = none := by
  unfold optional?
  match membersNamed members name, h with
  | _ :: _ :: _, _ => rfl

/-- Members of a name that differ in their order only are the same, or too many to be read. -/
theorem membersNamed_eq_or_repeated {before after : List (String × Json)}
    (h : (membersNamed before name).Perm (membersNamed after name)) :
    membersNamed before name = membersNamed after name ∨
      2 ≤ (membersNamed before name).length ∧ 2 ≤ (membersNamed after name).length := by
  match membersNamed before name, h with
  | [], h => exact .inl h.nil_eq
  | [_], h => exact .inl (List.singleton_perm.mp h)
  | _ :: _ :: _, h => exact .inr ⟨by simp, by simp [← h.length_eq]⟩

theorem required?_eq_of_perm {before after : List (String × Json)}
    (h : (membersNamed before name).Perm (membersNamed after name)) :
    required? before name reader = required? after name reader := by
  rcases membersNamed_eq_or_repeated h with hsame | ⟨hbefore, hafter⟩
  · rw [required?, required?, hsame]
  · rw [required?_of_repeated hbefore, required?_of_repeated hafter]

theorem optional?_eq_of_perm {before after : List (String × Json)}
    (h : (membersNamed before name).Perm (membersNamed after name)) :
    optional? before name reader absent = optional? after name reader absent := by
  rcases membersNamed_eq_or_repeated h with hsame | ⟨hbefore, hafter⟩
  · rw [optional?, optional?, hsame]
  · rw [optional?_of_repeated hbefore, optional?_of_repeated hafter]

theorem required?_cons_of_ne (h : other ≠ name) :
    required? ((other, value) :: members) name reader = required? members name reader :=
  required?_eq_of_perm (.of_eq (membersNamed_cons_of_ne h value members))

theorem optional?_cons_of_ne (h : other ≠ name) :
    optional? ((other, value) :: members) name reader absent =
      optional? members name reader absent :=
  optional?_eq_of_perm (.of_eq (membersNamed_cons_of_ne h value members))

/-- A default may be written out. -/
theorem optional?_cons_default (hnone : membersNamed members name = [])
    (hread : reader value = some absent) :
    optional? ((name, value) :: members) name reader absent =
      optional? members name reader absent := by
  simp only [optional?, membersNamed_cons_self, hnone, hread]

/-- The value of a member may be put in place of another one that reads the same. -/
theorem required?_eq_of_reader_eq (h : reader first = reader second) :
    required? (front ++ (name, first) :: behind) name reader =
      required? (front ++ (name, second) :: behind) name reader := by
  simp only [required?, membersNamed_append, membersNamed_cons_self]
  -- with another member of the name on either side, neither of the two is read
  cases membersNamed front name with
  | nil =>
    cases membersNamed behind name with
    | nil => exact h
    | cons => rfl
  | cons _ others => cases others <;> rfl

theorem optional?_replace (h : other ≠ name) :
    optional? (front ++ (other, first) :: behind) name reader absent =
      optional? (front ++ (other, second) :: behind) name reader absent := by
  simp only [optional?, membersNamed_append, membersNamed_cons_of_ne h]

end Members

end Json

open Json

/-! ## Items -/

namespace RawItem

/-- The names of the members of an item. -/
def memberNames : List String :=
  ["id", "token", "type", "description", "example"]

/-- What may be done to an item: a change of its members, or a default that is written out.
The defaults are the last fields of an array. -/
inductive Change : Json → Json → Prop where
  | members {before after : List (String × Json)} (h : MembersChange memberNames before after) :
      Change (.object before) (.object after)
  | description {members : List (String × Json)}
      (hnone : membersNamed members "description" = []) :
      Change (.object members) (.object (("description", .string "") :: members))
  | sample {members : List (String × Json)} (hnone : membersNamed members "example" = []) :
      Change (.object members) (.object (("example", .null) :: members))
  | descriptionField (id token category : Json) :
      Change (.array [id, token, category]) (.array [id, token, category, .string ""])
  | sampleField (id token category description : Json) :
      Change (.array [id, token, category, description])
        (.array [id, token, category, description, .null])

theorem ofMembers?_congr {before after : List (String × Json)}
    (hid : required? before "id" text? = required? after "id" text?)
    (htoken : required? before "token" text? = required? after "token" text?)
    (hcategory : required? before "type" Category.ofJson? =
      required? after "type" Category.ofJson?)
    (hdescription : optional? before "description" text? "" =
      optional? after "description" text? "")
    (hsample : optional? before "example" nullableText? none =
      optional? after "example" nullableText? none) :
    ofMembers? before = ofMembers? after := by
  rw [ofMembers?, ofMembers?, hid, htoken, hcategory, hdescription, hsample]

theorem ofJson?_eq_of_change {before after : Json} (h : Change before after) :
    ofJson? before = ofJson? after := by
  cases h with
  | members h =>
    exact ofMembers?_congr (required?_eq_of_perm (h.perm (by decide)))
      (required?_eq_of_perm (h.perm (by decide))) (required?_eq_of_perm (h.perm (by decide)))
      (optional?_eq_of_perm (h.perm (by decide))) (optional?_eq_of_perm (h.perm (by decide)))
  | description hnone =>
    exact (ofMembers?_congr (required?_cons_of_ne (by decide)) (required?_cons_of_ne (by decide))
      (required?_cons_of_ne (by decide)) (optional?_cons_default hnone rfl)
      (optional?_cons_of_ne (by decide))).symm
  | sample hnone =>
    exact (ofMembers?_congr (required?_cons_of_ne (by decide)) (required?_cons_of_ne (by decide))
      (required?_cons_of_ne (by decide)) (optional?_cons_of_ne (by decide))
      (optional?_cons_default hnone rfl)).symm
  | descriptionField => rfl
  | sampleField => rfl

/-- Values of which each stands for the same item as its counterpart. -/
def SameItems : List Json → List Json → Prop :=
  List.Forall₂ (Relation.EqvGen Change)

theorem mapM_ofJson?_eq {before after : List Json} (h : SameItems before after) :
    before.mapM ofJson? = after.mapM ofJson? :=
  mapM_eq_of_forall₂ (fun _ _ hchange => ofJson?_eq_of_change hchange) h

theorem listOfJson?_eq {before after : List Json} (h : SameItems before after) :
    listOfJson? (.array before) = listOfJson? (.array after) :=
  mapM_ofJson?_eq h

end RawItem

namespace Document

/-! ## Sections -/

/-- What may be done to a section: a change of its members, or of its items. -/
inductive SectionChange : Json → Json → Prop where
  | members {before after : List (String × Json)}
      (h : MembersChange ["title", "items"] before after) :
      SectionChange (.object before) (.object after)
  | items (front behind : List (String × Json)) {before after : List Json}
      (h : RawItem.SameItems before after) :
      SectionChange (.object (front ++ ("items", .array before) :: behind))
        (.object (front ++ ("items", .array after) :: behind))
  | itemsField (title : Json) {before after : List Json} (h : RawItem.SameItems before after) :
      SectionChange (.array [title, .array before]) (.array [title, .array after])

theorem sectionItems?_eq_of_change {before after : Json} (h : SectionChange before after) :
    sectionItems? before = sectionItems? after := by
  cases h with
  | members h =>
    rw [sectionItems?, sectionItems?, optional?_eq_of_perm (h.perm (by decide)),
      required?_eq_of_perm (h.perm (by decide))]
  | items front behind h =>
    have hitems := RawItem.listOfJson?_eq h
    rw [sectionItems?, sectionItems?, required?_eq_of_reader_eq hitems,
      optional?_replace (by decide)]
  | itemsField title h => rw [sectionItems?, sectionItems?, RawItem.listOfJson?_eq h]

/-- Sections of which each has the same items as its counterpart. -/
def SameSections : List Json → List Json → Prop :=
  List.Forall₂ (Relation.EqvGen SectionChange)

theorem sectionsItems?_eq {before after : List Json} (h : SameSections before after) :
    sectionsItems? (.array before) = sectionsItems? (.array after) := by
  have hsections := mapM_eq_of_forall₂ (fun _ _ hchange => sectionItems?_eq_of_change hchange) h
  simp only [sectionsItems?, Json.items?, Option.bind_eq_bind, Option.bind_some, hsections]

/-! ## Documents -/

/-- No title, or one that is a text. -/
def IsTitled (members : List (String × Json)) : Prop :=
  membersNamed members "title" = [] ∨ ∃ title, membersNamed members "title" = [.string title]

/-- A section with these items, with any title or none. -/
inductive IsSection (group : List Json) : Json → Prop where
  | object {members : List (String × Json)} (htitle : IsTitled members)
      (hitems : membersNamed members "items" = [.array group]) :
      IsSection group (.object members)
  | array (title : String) : IsSection group (.array [.string title, .array group])

/-- A document with a section for each of these groups, in order. -/
inductive Sectioned (groups : List (List Json)) : Json → Prop where
  | object {members : List (String × Json)} {sections : List Json} (htitle : IsTitled members)
      (hsections : membersNamed members "sections" = [.array sections])
      (hgroups : List.Forall₂ IsSection groups sections) :
      Sectioned groups (.object members)

/-- What may be done to a document: a change of its members, its items or its sections, and the
cutting of its items into groups. -/
inductive Change : Json → Json → Prop where
  | members {before after : List (String × Json)}
      (h : MembersChange ["title", "sections"] before after) :
      Change (.object before) (.object after)
  | items {before after : List Json} (h : RawItem.SameItems before after) :
      Change (.array before) (.array after)
  | sections (front behind : List (String × Json)) {before after : List Json}
      (h : SameSections before after) :
      Change (.object (front ++ ("sections", .array before) :: behind))
        (.object (front ++ ("sections", .array after) :: behind))
  | cut {groups : List (List Json)} {document : Json} (h : Sectioned groups document) :
      Change (.array groups.flatten) document

theorem optional?_title {members : List (String × Json)} (h : IsTitled members) :
    ∃ title, optional? members "title" text? "" = some title := by
  rcases h with hnone | ⟨title, htitle⟩
  · exact ⟨"", by rw [optional?, hnone]⟩
  · exact ⟨title, by rw [optional?, htitle]; rfl⟩

theorem sectionItems?_of_isSection {group : List Json} {value : Json}
    (h : IsSection group value) : sectionItems? value = group.mapM RawItem.ofJson? := by
  cases h with
  | object htitle hitems =>
    obtain ⟨title, htitle⟩ := optional?_title htitle
    rw [sectionItems?, htitle, required?, hitems]
    rfl
  | array title => rfl

/-- What is read of sections is what is read of all their items together. -/
theorem sectionsItems?_of_forall₂ {groups : List (List Json)} {sections : List Json}
    (h : List.Forall₂ IsSection groups sections) :
    sectionsItems? (.array sections) = groups.flatten.mapM RawItem.ofJson? := by
  have hsections : sections.mapM sectionItems? = groups.mapM (List.mapM RawItem.ofJson?) := by
    induction h with
    | nil => rfl
    | cons hsection _ ih =>
      rw [List.mapM_cons, List.mapM_cons, ih, sectionItems?_of_isSection hsection]
  rw [← map_flatten_mapM, ← hsections]
  exact Option.map_eq_bind.symm

theorem items?_of_sectioned {groups : List (List Json)} {document : Json}
    (h : Sectioned groups document) :
    items? document = groups.flatten.mapM RawItem.ofJson? := by
  cases h with
  | object htitle hsections hgroups =>
    obtain ⟨title, htitle⟩ := optional?_title htitle
    rw [items?, htitle, required?, hsections]
    exact sectionsItems?_of_forall₂ hgroups

theorem items?_eq_of_change {before after : Json} (h : Change before after) :
    items? before = items? after := by
  cases h with
  | members h =>
    rw [items?, items?, optional?_eq_of_perm (h.perm (by decide)),
      required?_eq_of_perm (h.perm (by decide))]
  | items h => exact RawItem.mapM_ofJson?_eq h
  | sections front behind h =>
    rw [items?, items?, required?_eq_of_reader_eq (sectionsItems?_eq h),
      optional?_replace (by decide)]
  | cut h => exact (items?_of_sectioned h).symm

/-! ## Texts -/

/-- Documents that are the same but for their layout. -/
def SameUpToLayout : Json → Json → Prop :=
  Relation.EqvGen Change

theorem read_eq_of_isText {value : Json} {text : String} (h : value.IsText text) :
    read text = (items? value).elim (.error .unknownShape) .ok := by
  obtain ⟨rest, hread, hdone⟩ := h
  simp only [read, hread]
  cases items? value with
  | none => rfl
  | some items => exact if_pos hdone

/-- The layout of a document does not matter: texts of documents that are the same but for
their layout are both refused, or give the same items in the same order.  Where one of these
documents is an array of values, the items are what the values stand for, one for each. -/
theorem read_eq_of_sameUpToLayout {first second : Json} {firstText secondText : String}
    (hfirst : first.IsText firstText) (hsecond : second.IsText secondText)
    (hsame : SameUpToLayout first second) :
    read firstText = read secondText ∧
    ∀ values, SameUpToLayout first (.array values) → ∀ items,
      read firstText = .ok items ↔ values.map RawItem.ofJson? = items.map some := by
  have hitems : ∀ {other}, SameUpToLayout first other → items? first = items? other :=
    fun h => eq_of_eqvGen (fun _ _ hchange => items?_eq_of_change hchange) h
  refine ⟨?_, fun values hvalues items => ?_⟩
  · rw [read_eq_of_isText hfirst, read_eq_of_isText hsecond, hitems hsame]
  · have hread : items? first = values.mapM RawItem.ofJson? := hitems hvalues
    rw [read_eq_of_isText hfirst, ← mapM_eq_some_iff, ← hread]
    cases items? first <;> simp

/-- An item with its members. -/
def plainPlus : Json :=
  .object [("id", .string "1"), ("token", .string "+"), ("type", .string "operator")]

/-- An item with its fields. -/
def plainAbs : Json :=
  .array [.string "2", .string "abs", .string "identifier"]

/-- The first item with its members in another order, and with no sample as a member. -/
def longPlus : Json :=
  .object [("example", .null), ("type", .string "operator"), ("token", .string "+"),
    ("id", .string "1")]

/-- The second item with its empty description. -/
def longAbs : Json :=
  .array [.string "2", .string "abs", .string "identifier", .string ""]

/-- The items in three sections, of which one is empty and has no title. -/
def threeSections : Json :=
  .object [
    ("page", .bool true),
    ("sections", .array [
      .array [.string "a", .array [longPlus]],
      .object [("items", .array [])],
      .array [.string "b", .array [longAbs]]])]

theorem sameUpToLayout_threeSections :
    SameUpToLayout (.array [plainPlus, plainAbs]) threeSections := by
  have hplus : Relation.EqvGen RawItem.Change plainPlus longPlus :=
    .trans _ _ _ (.rel _ _ (.members (.permute (List.reverse_perm _).symm)))
      (.rel _ _ (.sample rfl))
  have habs : Relation.EqvGen RawItem.Change plainAbs longAbs := .rel _ _ (.descriptionField _ _ _)
  have hsections : Sectioned [[longPlus], [], [longAbs]] threeSections :=
    .object (.inl rfl) rfl
      (.cons (.array "a") (.cons (.object (.inl rfl) rfl) (.cons (.array "b") .nil)))
  exact .trans _ _ _ (.rel _ _ (.items (.cons hplus (.cons habs .nil))))
    (.rel _ _ (.cut hsections))

/-- The items as a text. -/
def plainText : String :=
  "[\x7b\"id\": \"1\", \"token\": \"+\", \"type\": \"operator\"\x7d, " ++
    "[\"2\", \"abs\", \"identifier\"]]"

/-- The three sections as a text. -/
def threeSectionsText : String :=
  "\x7b\"page\": true, \"sections\": [" ++
    "[\"a\", [\x7b\"example\": null, \"type\": \"operator\", \"token\": \"+\", " ++
    "\"id\": \"1\"\x7d]], \x7b\"items\": []\x7d, " ++
    "[\"b\", [[\"2\", \"abs\", \"identifier\", \"\"]]]]\x7d"

theorem read_threeSections :
    (Json.array [plainPlus, plainAbs]).IsText plainText ∧
    threeSections.IsText threeSectionsText ∧
    SameUpToLayout (.array [plainPlus, plainAbs]) threeSections ∧
    read plainText = read threeSectionsText ∧
    read threeSectionsText = .ok
      [{ id := "1", token := "+", category := .operator },
       { id := "2", token := "abs", category := .identifier }] := by
  have hplain : (Json.array [plainPlus, plainAbs]).IsText plainText := ⟨[], by cbv, rfl⟩
  have hsections : threeSections.IsText threeSectionsText := ⟨[], by cbv, rfl⟩
  obtain ⟨hread, hitems⟩ :=
    read_eq_of_sameUpToLayout hplain hsections sameUpToLayout_threeSections
  exact ⟨hplain, hsections, sameUpToLayout_threeSections, hread,
    hread ▸ (hitems _ (.refl _) _).mpr rfl⟩

end Document

end CLexicon
