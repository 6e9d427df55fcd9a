import Metrology.Proofs.Growth
import Metrology.Proofs.Saving

/-!
# Lines written anew

What a line describes can be written in many ways, and writing it down picks one of them.
The line that is written is read as the very parameter that it was written for, so a line
that has been written anew stays as it is.
-/

namespace Metrology

variable {α : Type} [Scalar α]

/-! ## Sources that are read -/

namespace Source

/-- What is read from a field that is not blank cannot be taken for anything else. -/
theorem telling_ofField {field : String} (filled : Parameter.isBlankText field = false)
    (unit : String) : (ofField field unit : Source α).Telling := by
  unfold ofField
  dsimp only
  split
  · next bracket => exact ⟨filled, .inl ((contains_bracket_iff _).1 bracket)⟩
  · split
    · trivial
    · next noNumber => exact ⟨filled, .inr noNumber⟩

/-- A blank default is zero, so the default that is read is always telling. -/
theorem telling_defaultSource (field unit : String) :
    (Parameter.defaultSource field unit : Source α).Telling := by
  unfold Parameter.defaultSource
  split
  · trivial
  · next filled => exact telling_ofField (Bool.eq_false_iff.2 filled) unit

end Source

namespace Parameter

/-! ## Parameters that are read -/

/-- An override track that is read is telling, and nothing is buffered on it. -/
theorem of_overrideState? {field unit : String} {state : TrackState α}
    (held : overrideState? field unit = some state) :
    state = .unbuffered state.source ∧ state.source.Telling := by
  unfold overrideState? at held
  split at held
  · cases held
  · next filled =>
      cases held
      exact ⟨rfl, Source.telling_ofField (Bool.eq_false_iff.2 filled) unit⟩

/-- A parameter as a line describes it: no name is empty, the override track is there if
it is read from, all sources are telling, and there is nothing that a line does not tell. -/
structure Described (parameter : Parameter α) : Prop where
  sensible : parameter.Sensible
  telling : ∀ source ∈ parameter.sources, source.Telling
  bare : parameter =
    { id := parameter.id
      name := parameter.name
      notes := parameter.notes
      modifiedBy := parameter.modifiedBy
      modifiedOn := parameter.modifiedOn
      defaultTrack := .unbuffered parameter.defaultTrack.source
      overrideTrack := parameter.overrideTrack.map (.unbuffered ·.source)
      active := parameter.active }

theorem described_of_ofFields {fields : List String} {parameter : Parameter α}
    (reads : ofFields fields = .ok parameter) : parameter.Described := by
  unfold ofFields at reads
  obtain ⟨overridden, _, made⟩ := exists_of_bind_eq_ok reads
  split at made
  · cases made
  next kept =>
  cases made
  refine ⟨⟨?overridden, ?named⟩, ?telling, ?bare⟩
  case overridden =>
    intro reads
    cases overridden with
    | false => cases reads
    | true =>
        rwa [Bool.true_and, ← Option.not_isSome, Bool.not_eq_true', Bool.not_eq_false] at kept
  case named =>
    dsimp only
    split
    · exact nofun
    · next filled => exact fun empty => filled (String.isEmpty_iff.2 (Option.some.inj empty))
  case telling =>
    intro source member
    rcases List.mem_cons.1 member with rfl | member
    · exact Source.telling_defaultSource _ _
    · obtain ⟨state, held, rfl⟩ := Option.map_eq_some_iff.1 (Option.mem_toList.1 member)
      exact (of_overrideState? held).2
  case bare =>
    dsimp only
    congr 1
    cases held : (overrideState? (fields.getD 2 "") (fields.getD 3 "") :
        Option (TrackState α)) with
    | none => rfl
    | some state => exact congrArg some (of_overrideState? held).1

/-- What a line tells of a parameter as it describes one is all there is to it. -/
theorem Described.eq_of_sameRecord {left right : Parameter α} (first : left.Described)
    (second : right.Described) (same : left.SameRecord right) : left = right := by
  have overrides : left.overrideTrack.map (TrackState.unbuffered ·.source) =
      right.overrideTrack.map (.unbuffered ·.source) := by
    have mapped := congrArg (Option.map TrackState.unbuffered) same.overrideSource
    rwa [Option.map_map, Option.map_map] at mapped
  rw [first.bare, second.bare, same.id, same.name, same.notes, same.modifiedBy,
    same.modifiedOn, same.active, same.defaultSource, overrides]

/-! ## Main results -/

/-- The line that is written for what is read from a line. -/
def rewriteLine (α : Type) [Scalar α] (line : String) : Except Error String :=
  (ofLine line : Except Error (Parameter α)).map toLine

/-- A parameter that is read from a line and whose numbers read back is read again, just as
it is, from the line that is written for it.  Writing that line anew changes nothing. -/
theorem written_line_stands {line : String} {parameter : Parameter α}
    (reads : ofLine line = .ok parameter)
    (readable : ∀ source ∈ parameter.sources, source.Readable) :
    ofLine parameter.toLine = .ok parameter ∧
      rewriteLine α line = .ok parameter.toLine ∧
      rewriteLine α parameter.toLine = .ok parameter.toLine := by
  have described := described_of_ofFields reads
  obtain ⟨again, readsAgain, same⟩ :=
    (reads_toLine_iff described.sensible readable).2 described.telling
  have stands : again = parameter :=
    (described_of_ofFields readsAgain).eq_of_sameRecord described same
  rw [stands] at readsAgain
  refine ⟨readsAgain, ?_, ?_⟩
  · rw [rewriteLine, reads]
    rfl
  · rw [rewriteLine, readsAgain]
    rfl

/-- A line with blanks, an exponent, a flag in words, fields too many and a backslash at
its end. -/
def looseLine : String :=
  " 1.2e1 ;kg;2*[base] ;g; TRUE ;a\\;b;p-1;;;name;;left over\\"

/-- What the line describes. -/
def looseParameter : Parameter ℚ :=
  { id := "p-1"
    name := some "name"
    notes := "a;b"
    defaultTrack := .unbuffered (.literal 12 "kg")
    overrideTrack := some (.unbuffered (.formula "2*[base] " "g"))
    active := .override }

theorem written_line_stands_loose :
    ofLine looseLine = .ok looseParameter ∧
      (∀ source ∈ looseParameter.sources, source.Readable) ∧
      looseParameter.toLine = "12;kg;2*[base] ;g;1;a\\;b;p-1;;;name" ∧
      ofLine looseParameter.toLine = .ok looseParameter := by
  have reads : ofLine looseLine = .ok looseParameter := by decide +kernel
  have readable : ∀ source ∈ looseParameter.sources, source.Readable := by
    intro source member
    simp only [sources, looseParameter, Option.map_some, Option.toList_some, List.mem_cons,
      List.not_mem_nil, or_false] at member
    rcases member with rfl | rfl
    · change Scalar.read? (Scalar.plainText (12 : ℚ)).toList = some 12
      decide +kernel
    · trivial
  exact ⟨reads, readable, by decide +kernel, (written_line_stands reads readable).1⟩

end Parameter

end Metrology
