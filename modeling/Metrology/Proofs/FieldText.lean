import Mathlib.Data.List.GetD
import Mathlib.Data.List.TakeWhile
import Metrology.Parameter.Record
import Metrology.Proofs.UnitText

/-!
# Fields read back

A line of fields is split into the fields that it was joined from, whatever
characters they hold, and empty fields at its end may be left out.  Joining the
fields of any line keeps them, and drops the backslashes that were not needed.
A field that holds a source is read as that source exactly when the source
cannot be taken for anything else.
-/

namespace Metrology

namespace Fields

/-! ## Splitting -/

/-- Putting characters before the first field one by one puts a word before it. -/
theorem foldr_pushFront (word field : List Char) (rest : List (List Char)) :
    word.foldr pushFront (field :: rest) = (word ++ field) :: rest := by
  induction word with
  | nil => rfl
  | cons character word ih => rw [List.foldr_cons, ih, pushFront, List.cons_append]

/-- A character that is escaped where it has to be is read as itself. -/
theorem split_escapeOne (character : Char) (rest : List Char) :
    split (escapeOne character ++ rest) = pushFront character (split rest) := by
  unfold escapeOne
  split
  · cases rest <;> rfl
  · next plain =>
      obtain ⟨notSeparator, notEscape⟩ := not_or.1 plain
      rw [List.singleton_append, split.eq_4 _ _ (fun escape _ => notEscape escape)
        (fun _ _ escape _ => notEscape escape), if_neg notSeparator]

theorem split_escape (field rest : List Char) :
    split (escape field ++ rest) = field.foldr pushFront (split rest) := by
  induction field with
  | nil => rfl
  | cons character field ih =>
      rw [escape, List.flatMap_cons, List.append_assoc, split_escapeOne,
        List.foldr_cons, ← ih, escape]

/-- The fields of a line are those that it was joined from. -/
theorem split_join {fields : List (List Char)} (filled : fields ≠ []) :
    split (join fields) = fields := by
  induction fields with
  | nil => exact absurd rfl filled
  | cons field rest ih =>
      cases rest with
      | nil =>
          have whole := split_escape field []
          rwa [List.append_nil, split, foldr_pushFront, List.append_nil] at whole
      | cons next later =>
          have separated : split (';' :: join (next :: later)) =
              [] :: split (join (next :: later)) := by
            rw [split, if_pos rfl] <;> exact nofun
          rw [join, split_escape, separated, foldr_pushFront, List.append_nil,
            ih (List.cons_ne_nil _ _)]
          exact nofun

theorem splitLine_joinLine {fields : List String} (filled : fields ≠ []) :
    splitLine (joinLine fields) = fields := by
  have mapped : fields.map String.toList ≠ [] := by simpa using filled
  rw [splitLine, joinLine, String.toList_ofList, split_join mapped, List.map_map]
  exact List.map_id'' (fun _ => String.ofList_toList) fields

theorem pushFront_ne_nil (character : Char) (fields : List (List Char)) :
    pushFront character fields ≠ [] := by
  cases fields <;> exact List.cons_ne_nil _ _

/-- A line has a field, even if there is nothing in it. -/
theorem split_ne_nil (line : List Char) : split line ≠ [] := by
  fun_cases split line with
  | case1 => exact List.cons_ne_nil _ _
  | case2 => exact List.cons_ne_nil _ _
  | case3 => exact pushFront_ne_nil _ _
  | case4 => exact List.cons_ne_nil _ _
  | case5 => exact pushFront_ne_nil _ _

theorem splitLine_ne_nil (line : String) : splitLine line ≠ [] := by
  simpa [splitLine] using split_ne_nil line.toList

/-! ## Lines that are joined from fields -/

/-- Every backslash stands before a semicolon or a backslash that it makes part of a field. -/
def Tidy : List Char → Prop
  | [] => True
  | ['\\'] => False
  | '\\' :: character :: rest => (character = ';' ∨ character = '\\') ∧ Tidy rest
  | _ :: rest => Tidy rest

theorem join_pushFront (character : Char) {fields : List (List Char)} (filled : fields ≠ []) :
    join (pushFront character fields) = escapeOne character ++ join fields := by
  cases fields with
  | nil => exact absurd rfl filled
  | cons field rest =>
      cases rest with
      | nil => exact List.flatMap_cons
      | cons next later => exact List.append_assoc (escapeOne character) (escape field) _

theorem join_nil_cons {fields : List (List Char)} (filled : fields ≠ []) :
    join ([] :: fields) = ';' :: join fields := by
  cases fields with
  | nil => exact absurd rfl filled
  | cons field rest => rfl

/-- Joining the fields of a line gives the line again just when it is tidy. -/
theorem join_split_eq_iff (line : List Char) : join (split line) = line ↔ Tidy line := by
  fun_induction split line with
  | case1 => exact iff_of_true rfl trivial
  | case2 => exact iff_of_false (by decide) id
  | case3 character rest ih =>
      rw [join_pushFront _ (split_ne_nil rest), Tidy, ← ih, escapeOne]
      split
      · next special => simp [special]
      · next plain =>
          -- Only the character is written, so the line would have to start with it.
          refine iff_of_false (fun same => ?_) fun both => plain both.1
          exact plain (.inr (List.cons.inj same).1)
  | case4 rest single paired ih =>
      rw [join_nil_cons (split_ne_nil rest), Tidy.eq_4 _ _ single paired, ← ih, List.cons.injEq]
      exact and_iff_right rfl
  | case5 character rest single paired notSeparator ih =>
      have notEscape : character ≠ '\\' := by
        rintro rfl
        cases rest with
        | nil => exact single rfl rfl
        | cons next later => exact paired next later rfl rfl
      have plain : escapeOne character = [character] :=
        if_neg (not_or.2 ⟨notSeparator, notEscape⟩)
      rw [join_pushFront _ (split_ne_nil rest), plain, Tidy.eq_4 _ _ single paired, ← ih,
        List.singleton_append, List.cons.injEq]
      exact and_iff_right rfl

/-- All fields can be read back from the line that they are joined to, if there are any.  Taking a
line apart and joining its fields keeps the fields, and leaves the line as it is just when its
backslashes are needed. -/
theorem joined_fields_split (fields : List String) (line : String) :
    (splitLine (joinLine fields) = fields ↔ fields ≠ []) ∧
      splitLine (joinLine (splitLine line)) = splitLine line ∧
      (joinLine (splitLine line) = line ↔ Tidy line.toList) := by
  refine ⟨⟨fun same => ?_, splitLine_joinLine⟩, splitLine_joinLine (splitLine_ne_nil line), ?_⟩
  · rw [← same]
    exact splitLine_ne_nil _
  · rw [← join_split_eq_iff, joinLine, splitLine, List.map_map, String.ext_iff,
      String.toList_ofList]
    have kept : List.map (String.toList ∘ String.ofList) (split line.toList) = split line.toList :=
      List.map_id'' (fun _ => String.toList_ofList) _
    rw [kept]

example : splitLine "a\\;b;;c\\\\;\\" = ["a;b", "", "c\\", "\\"] := by decide

end Fields

/-! ## Empty fields at the end -/

namespace Parameter

/-- What is left out at the end is empty. -/
theorem exists_withoutTrailing (fields : List String) :
    ∃ empties : List String, (∀ field ∈ empties, field = "") ∧
      fields = withoutTrailing fields ++ empties := by
  refine ⟨(fields.reverse.takeWhile (·.isEmpty)).reverse, ?_, ?_⟩
  · intro field member
    have empty := List.mem_takeWhile_imp (List.mem_reverse.1 member)
    exact String.isEmpty_iff.1 empty
  · rw [withoutTrailing, ← List.reverse_append, List.takeWhile_append_dropWhile,
      List.reverse_reverse]

/-- Leaving out empty fields at the end changes no field. -/
theorem getD_withoutTrailing (fields : List String) (index : Nat) :
    (withoutTrailing fields).getD index "" = fields.getD index "" := by
  obtain ⟨empties, empty, same⟩ := exists_withoutTrailing fields
  have whole : fields.getD index "" = (withoutTrailing fields ++ empties).getD index "" :=
    congrArg (·.getD index "") same
  rw [whole]
  rcases Nat.lt_or_ge index (withoutTrailing fields).length with inside | outside
  · rw [List.getD_append _ _ _ _ inside]
  · rw [List.getD_append_right _ _ _ _ outside, List.getD_eq_default _ _ outside]
    cases found : empties[index - (withoutTrailing fields).length]? with
    | none => rw [List.getD_eq_getElem?_getD, found, Option.getD_none]
    | some field =>
        rw [List.getD_eq_getElem?_getD, found, Option.getD_some,
          empty field (List.mem_of_getElem? found)]

/-- A field with something in it is not left out. -/
theorem withoutTrailing_ne_nil {fields : List String} {field : String}
    (member : field ∈ fields) (filled : field ≠ "") : withoutTrailing fields ≠ [] := by
  obtain ⟨empties, empty, same⟩ := exists_withoutTrailing fields
  intro nothing
  rw [same, nothing, List.nil_append] at member
  exact filled (empty field member)

end Parameter

/-! ## Texts of numbers -/

namespace Text

/-- Trimming takes away blanks only. -/
theorem mem_trim_iff {character : Char} (solid : isBlank character = false)
    {text : List Char} : character ∈ trim text ↔ character ∈ text := by
  have kept (word : List Char) : character ∈ word.dropWhile isBlank ↔ character ∈ word := by
    constructor
    · exact fun member => (List.dropWhile_sublist _).subset member
    · intro member
      rw [← List.takeWhile_append_dropWhile (p := isBlank) (l := word)] at member
      rcases List.mem_append.1 member with front | back
      · rw [List.mem_takeWhile_imp front] at solid
        cases solid
      · exact back
  rw [trim, trimEnd, List.mem_reverse, kept, List.mem_reverse, trimStart, kept]

end Text

namespace Layout

/-- The characters of readable numbers. -/
def IsPlain (character : Char) : Prop :=
  character.isDigit = true ∨ character ∈ ['-', '.', 'N', 'a', 'i', 'n', 'f']

theorem IsPlain.solid {character : Char} (written : IsPlain character) :
    Text.isBlank character = false := by
  rcases written with digit | mark
  · exact UnitExpression.isBlank_of_isDigit digit
  · have solid : (['-', '.', 'N', 'a', 'i', 'n', 'f'].all (!Text.isBlank ·)) = true := by
      decide
    simpa using List.all_eq_true.1 solid character mark

theorem IsPlain.ne_bracket {character : Char} (written : IsPlain character) :
    character ≠ '[' := by
  rintro rfl
  revert written
  unfold IsPlain
  decide

theorem isPlain_of_mem_places {word : List Char} (digits : ∀ digit ∈ word, IsPlain digit)
    {exponent : Int} {character : Char} (member : character ∈ plain.places word exponent) :
    IsPlain character := by
  have zero : IsPlain '0' := .inl rfl
  have point : IsPlain '.' := .inr (by decide)
  have zeros {count : Nat} (inside : character ∈ List.replicate count '0') :
      IsPlain character := by
    rwa [List.eq_of_mem_replicate inside]
  unfold places at member
  split at member
  · simp only [plain, Bool.false_eq_true, if_false, List.append_nil, List.mem_append] at member
    exact member.elim (digits _) zeros
  · dsimp only at member
    split at member
    · rcases List.mem_append.1 member with front | back
      · exact digits _ (List.mem_of_mem_take front)
      · rcases List.mem_cons.1 back with rfl | back
        · exact point
        · exact digits _ (List.mem_of_mem_drop back)
    · simp only [List.cons_append, List.mem_cons, List.mem_append] at member
      rcases member with rfl | rfl | front | back
      · exact zero
      · exact point
      · exact zeros front
      · exact digits _ back

/-- Readable numbers are written with these characters only. -/
theorem isPlain_of_mem_write {numeral : Numeral} {character : Char}
    (member : character ∈ plain.write numeral) : IsPlain character := by
  have marks : ∀ mark ∈ "NaN".toList ++ "inf".toList ++ ['-'], IsPlain mark := by
    have listed : (("NaN".toList ++ "inf".toList ++ ['-']).all
        (['-', '.', 'N', 'a', 'i', 'n', 'f'].contains ·)) = true := by decide
    intro mark inside
    exact .inr (List.contains_iff_mem.1 (List.all_eq_true.1 listed mark inside))
  have signed {negative : Bool} (inside : character ∈ sign negative) : IsPlain character := by
    cases negative with
    | false => exact absurd inside List.not_mem_nil
    | true => exact marks _ (List.mem_append_right _ inside)
  cases numeral with
  | undefined => exact marks _ (List.mem_append_left _ (List.mem_append_left _ member))
  | infinite negative =>
      rcases List.mem_append.1 member with front | back
      · exact signed front
      · exact marks _ (List.mem_append_left _ (List.mem_append_right _ back))
  | finite negative digits exponent =>
      rcases List.mem_append.1 member with front | back
      · exact signed front
      · split at back
        · exact isPlain_of_mem_places (by simp [IsPlain]) back
        · rw [writesPlaces, plain, if_pos rfl] at back
          refine isPlain_of_mem_places (fun digit inside => ?_) back
          exact .inl (Nat.isDigit_of_mem_toDigits (by decide) (by decide) inside)

end Layout

namespace Scalar

variable {α : Type} [Scalar α]

/-- A number is what its readable text is read as. -/
def ReadsBack (value : α) : Prop :=
  read? (plainText value).toList = some value

theorem isPlain_of_mem_plainText {value : α} {character : Char}
    (member : character ∈ (plainText value).toList) : Layout.IsPlain character := by
  rw [plainText, Layout.text, String.toList_ofList] at member
  exact Layout.isPlain_of_mem_write member

/-- The text of a number that reads back has no blanks around it. -/
theorem ReadsBack.bare {value : α} (reads : ReadsBack value) :
    Text.Bare (plainText value).toList := by
  refine ⟨?_, ?_, ?_⟩
  · intro empty
    rw [ReadsBack, empty] at reads
    cases reads
  · exact fun _ first => (isPlain_of_mem_plainText (List.mem_of_mem_head? first)).solid
  · exact fun _ last => (isPlain_of_mem_plainText (List.mem_of_getLast? last)).solid

end Scalar

/-! ## Sources in their fields -/

namespace Source

variable {α : Type} [Scalar α]

/-- The number of a literal reads back. -/
def Readable : Source α → Prop
  | .literal value _ => Scalar.ReadsBack value
  | .formula _ _ => True

/-- A formula cannot be taken for anything else: there is something in it, and it
has a bracket or is no number. -/
def Telling : Source α → Prop
  | .literal _ _ => True
  | .formula text _ =>
      Parameter.isBlankText text = false ∧
        ('[' ∈ text.toList ∨ (Scalar.read? (Text.trim text.toList) : Option α) = none)

theorem contains_bracket_iff (text : List Char) :
    (Text.trim text).contains '[' = true ↔ '[' ∈ text := by
  rw [List.contains_iff_mem, Text.mem_trim_iff (by decide)]

theorem ofField_of_readable {value : α} (reads : Scalar.ReadsBack value) (unit : String) :
    ofField (Scalar.plainText value) unit = .literal value unit := by
  have free : '[' ∉ (Scalar.plainText value).toList := fun member =>
    (Scalar.isPlain_of_mem_plainText member).ne_bracket rfl
  rw [ofField, if_neg (by rwa [contains_bracket_iff]), reads.bare.trim, reads]

/-- A formula is read from its field exactly when it has a bracket or is no
number. -/
theorem ofField_eq_formula_iff {text unit : String} :
    (ofField text unit : Source α) = .formula text unit ↔
      '[' ∈ text.toList ∨ (Scalar.read? (Text.trim text.toList) : Option α) = none := by
  rw [ofField]
  by_cases bracket : '[' ∈ text.toList
  · rw [if_pos ((contains_bracket_iff _).2 bracket)]
    exact ⟨fun _ => .inl bracket, fun _ => rfl⟩
  · rw [if_neg (by rwa [contains_bracket_iff])]
    cases (Scalar.read? (Text.trim text.toList) : Option α) <;> simp [bracket]

theorem isBlankText_of_readable {value : α} (reads : Scalar.ReadsBack value) :
    Parameter.isBlankText (Scalar.plainText value) = false := by
  rw [Parameter.isBlankText, reads.bare.trim, List.isEmpty_eq_false_iff]
  exact reads.bare.filled

/-- A source is read from its field exactly when it is telling. -/
theorem ofField_toField_iff {source : Source α} (readable : source.Readable) :
    Parameter.isBlankText source.toField = false ∧
        ofField source.toField source.unit = source ↔ source.Telling := by
  cases source with
  | literal value unit =>
      exact iff_of_true ⟨isBlankText_of_readable readable, ofField_of_readable readable unit⟩
        trivial
  | formula text unit => exact and_congr_right' ofField_eq_formula_iff

/-- The default track is read back exactly when its source is telling. -/
theorem defaultSource_eq_iff {source : Source α} (readable : source.Readable) :
    Parameter.defaultSource source.toField source.unit = source ↔ source.Telling := by
  rw [← ofField_toField_iff readable, Parameter.defaultSource]
  cases blank : Parameter.isBlankText source.toField with
  | false => simp
  | true =>
      -- Only a formula can be blank, and a blank field is read as zero.
      cases source with
      | literal value unit =>
          rw [toField, isBlankText_of_readable readable] at blank
          cases blank
      | formula text unit => simp

/-- The override track is read back exactly when its source is telling. -/
theorem overrideState?_eq_iff {source : Source α} (readable : source.Readable) :
    (Parameter.overrideState? source.toField source.unit).map (·.source) = some source ↔
      source.Telling := by
  rw [← ofField_toField_iff readable, Parameter.overrideState?]
  cases Parameter.isBlankText source.toField <;> simp [TrackState.unbuffered]

end Source

end Metrology
