import Metrology.Number.Binary64
import Metrology.Proofs.Editing
import Metrology.Proofs.Exact
import Metrology.Proofs.FieldText
import Metrology.Proofs.Refresh

/-!
# Parameters read back

A stored line keeps no mark of what is a literal and what is a formula: its
reader decides by the text of the value.  So a parameter is read back as it was
exactly when its formulas do not look like anything else; whatever was done to
it before makes no difference.
-/

namespace Metrology

/-! ## Parameters and their lines -/

namespace Parameter

variable {α : Type}

/-- Everything but the sources is the same. -/
structure SameHead (left right : Parameter α) : Prop where
  id : left.id = right.id
  name : left.name = right.name
  notes : left.notes = right.notes
  modifiedBy : left.modifiedBy = right.modifiedBy
  modifiedOn : left.modifiedOn = right.modifiedOn
  active : left.active = right.active

/-- All that a line tells of a parameter is the same. -/
structure SameRecord (left right : Parameter α) : Prop extends SameHead left right where
  defaultSource : left.defaultTrack.source = right.defaultTrack.source
  overrideSource :
    left.overrideTrack.map (·.source) = right.overrideTrack.map (·.source)

/-- All but the sources that are not telling is the same. -/
structure Resembles [Scalar α] (left right : Parameter α) : Prop
    extends SameHead left right where
  defaultSource : right.defaultTrack.source.Telling →
    left.defaultTrack.source = right.defaultTrack.source
  overrideSource : (∀ state ∈ right.overrideTrack, state.source.Telling) →
    left.overrideTrack.map (·.source) = right.overrideTrack.map (·.source)

/-- The override track is read from, and has a blank formula. -/
def HidesOverride [Scalar α] (parameter : Parameter α) : Prop :=
  parameter.active = .override ∧
    ∃ state ∈ parameter.overrideTrack, isBlankText state.source.toField = true

/-- The sources of both tracks. -/
def sources (parameter : Parameter α) : List (Source α) :=
  parameter.defaultTrack.source :: (parameter.overrideTrack.map (·.source)).toList

/-- The override track is there if it is read from, and no name is empty. -/
structure Sensible (parameter : Parameter α) : Prop where
  overridden : parameter.active = .override → parameter.overrideTrack.isSome = true
  named : parameter.name ≠ some ""

section Lines

variable [Scalar α]

theorem ofFields_congr {left right : List String}
    (same : ∀ index, left.getD index "" = right.getD index "") :
    (ofFields left : Except Error (Parameter α)) = ofFields right := by
  unfold ofFields
  simp only [same]

/-- A line is read as the fields that it was made from. -/
theorem ofLine_toLine_eq (parameter : Parameter α) :
    ofLine parameter.toLine = (ofFields parameter.allFields : Except Error (Parameter α)) := by
  have flag : (if parameter.active = .override then "1" else "0") ∈ parameter.allFields := by
    simp [allFields]
  have filled : (if parameter.active = .override then "1" else "0") ≠ "" := by
    split <;> decide
  rw [ofLine, toLine, Fields.splitLine_joinLine (withoutTrailing_ne_nil flag filled)]
  exact ofFields_congr (getD_withoutTrailing parameter.allFields)

/-- The override track that is read from the fields of one. -/
def rereadOverride (track : Option (TrackState α)) : Option (TrackState α) :=
  track.bind fun state => overrideState? state.source.toField state.source.unit

theorem overrideState?_overrideFields (track : Option (TrackState α)) :
    overrideState? ((overrideFields track).getD 0 "") ((overrideFields track).getD 1 "") =
      rereadOverride track := by
  cases track with
  | none => rfl
  | some state => rfl

theorem readFlag_active (active : Track) :
    readFlag (if active = .override then "1" else "0") = .ok (active == .override) := by
  cases active <;> decide

theorem named_eq {name : Option String} (named : name ≠ some "") :
    (if (name.getD "").isEmpty then none else some (name.getD "")) = name := by
  cases name with
  | none => rfl
  | some text =>
      have filled : text.isEmpty = false := by
        rw [← Bool.not_eq_true, String.isEmpty_iff]
        exact fun empty => named (congrArg some empty)
      rw [Option.getD_some, filled]
      rfl

/-- What is read from the fields of a parameter. -/
theorem ofFields_allFields {parameter : Parameter α} (sensible : parameter.Sensible) :
    (ofFields parameter.allFields : Except Error (Parameter α)) =
      if parameter.active = .override ∧
          (rereadOverride parameter.overrideTrack).isNone = true then
        .error (.parse (s!"parameter '{parameter.id}' selects an override track" ++
          " it does not have"))
      else
        .ok
          { id := parameter.id
            name := parameter.name
            notes := parameter.notes
            modifiedBy := parameter.modifiedBy
            modifiedOn := parameter.modifiedOn
            defaultTrack := .unbuffered (defaultSource parameter.defaultTrack.source.toField
              parameter.defaultTrack.source.unit)
            overrideTrack := rereadOverride parameter.overrideTrack
            active := parameter.active } := by
  obtain ⟨first, second, pair⟩ : ∃ first second,
      overrideFields parameter.overrideTrack = [first, second] := by
    cases parameter.overrideTrack <;> exact ⟨_, _, rfl⟩
  have override := overrideState?_overrideFields parameter.overrideTrack
  rw [pair] at override
  change overrideState? first second = _ at override
  unfold ofFields allFields
  rw [pair]
  simp only [List.cons_append, List.nil_append, List.getD_cons_zero, List.getD_cons_succ,
    override, readFlag_active, named_eq sensible.named]
  cases parameter.active with
  | default => rfl
  | override =>
      cases rereadOverride parameter.overrideTrack <;> rfl

variable {parameter : Parameter α}

theorem isNone_rereadOverride_iff (track : Option (TrackState α)) :
    (rereadOverride track).isNone = true ↔
      track = none ∨ ∃ state ∈ track, isBlankText state.source.toField = true := by
  cases track with
  | none => simp [rereadOverride]
  | some state => simp [rereadOverride, overrideState?]

/-- The override track is read back exactly when its source is telling. -/
theorem rereadOverride_iff (readable : ∀ source ∈ parameter.sources, source.Readable) :
    (rereadOverride parameter.overrideTrack).map (·.source) =
        parameter.overrideTrack.map (·.source) ↔
      ∀ state ∈ parameter.overrideTrack, state.source.Telling := by
  cases track : parameter.overrideTrack with
  | none => simp [rereadOverride]
  | some state =>
      have member : state.source ∈ parameter.sources := by simp [sources, track]
      simpa [rereadOverride] using Source.overrideState?_eq_iff (readable _ member)

/-- A line is refused only if it loses the override track that is read from. -/
theorem exists_ofLine_iff (sensible : parameter.Sensible) :
    (∃ loaded, (ofLine parameter.toLine : Except Error (Parameter α)) = .ok loaded) ↔
      ¬parameter.HidesOverride := by
  rw [ofLine_toLine_eq, ofFields_allFields sensible]
  split
  · next lost =>
      obtain ⟨overridden, nothing⟩ := lost
      have hides : parameter.HidesOverride := by
        rcases (isNone_rereadOverride_iff _).1 nothing with missing | hidden
        · have present := sensible.overridden overridden
          rw [missing] at present
          cases present
        · exact ⟨overridden, hidden⟩
      constructor
      · rintro ⟨loaded, read⟩
        cases read
      · exact fun shown => absurd hides shown
  · next kept =>
      constructor
      · rintro - ⟨overridden, hidden⟩
        exact kept ⟨overridden, (isNone_rereadOverride_iff _).2 (.inr hidden)⟩
      · exact fun _ => ⟨_, rfl⟩

/-- What is read from a line differs from what was written only where a formula is
not telling. -/
theorem resembles_of_ofLine (sensible : parameter.Sensible)
    (readable : ∀ source ∈ parameter.sources, source.Readable) {loaded : Parameter α}
    (read : ofLine parameter.toLine = .ok loaded) : loaded.Resembles parameter := by
  rw [ofLine_toLine_eq, ofFields_allFields sensible] at read
  split at read
  · cases read
  · cases read
    exact ⟨⟨rfl, rfl, rfl, rfl, rfl, rfl⟩,
      (Source.defaultSource_eq_iff (readable _ List.mem_cons_self)).2,
      (rereadOverride_iff readable).2⟩

/-- A parameter whose numbers read back is read from its line as it was exactly
when all its formulas are telling. -/
theorem reads_toLine_iff (sensible : parameter.Sensible)
    (readable : ∀ source ∈ parameter.sources, source.Readable) :
    (∃ loaded, ofLine parameter.toLine = .ok loaded ∧ loaded.SameRecord parameter) ↔
      ∀ source ∈ parameter.sources, source.Telling := by
  have defaultRead := Source.defaultSource_eq_iff (readable _ List.mem_cons_self)
  have overrideRead := rereadOverride_iff readable
  have both : (∀ source ∈ parameter.sources, source.Telling) ↔
      parameter.defaultTrack.source.Telling ∧
        ∀ state ∈ parameter.overrideTrack, state.source.Telling := by
    simp [sources]
  rw [both]
  constructor
  · rintro ⟨loaded, read, same⟩
    rw [ofLine_toLine_eq, ofFields_allFields sensible] at read
    split at read
    · cases read
    · cases read
      exact ⟨defaultRead.1 same.defaultSource, overrideRead.1 same.overrideSource⟩
  · rintro ⟨defaultTelling, overrideTelling⟩
    have shown : ¬parameter.HidesOverride := by
      rintro ⟨_, state, present, blank⟩
      have member : state.source ∈ parameter.sources := by
        simp [sources, Option.mem_def.1 present]
      have filled := ((Source.ofField_toField_iff (readable _ member)).2
        (overrideTelling state present)).1
      rw [blank] at filled
      cases filled
    obtain ⟨loaded, read⟩ := (exists_ofLine_iff sensible).2 shown
    have like := resembles_of_ofLine sensible readable read
    exact ⟨loaded, read, like.toSameHead, like.defaultSource defaultTelling,
      like.overrideSource overrideTelling⟩

end Lines

/-! ## Made parameters -/

section Making

theorem Sensible.of_kept {before after : Parameter α} (sensible : before.Sensible)
    (name : after.name = before.name) (active : after.active = before.active)
    (kept : before.overrideTrack.isSome = true → after.overrideTrack.isSome = true) :
    after.Sensible where
  overridden reads := kept (sensible.overridden (active ▸ reads))
  named := name ▸ sensible.named

theorem Sensible.setState {parameter : Parameter α} (sensible : parameter.Sensible)
    (state : TrackState α) (track : Track) : (parameter.setState state track).Sensible := by
  cases track with
  | default => exact sensible.of_kept rfl rfl (fun held => held)
  | override => exact sensible.of_kept rfl rfl fun _ => rfl

theorem Sensible.setActiveState {parameter : Parameter α} (sensible : parameter.Sensible)
    (state : TrackState α) : (parameter.setActiveState state).Sensible := by
  unfold Parameter.setActiveState
  split <;> exact sensible.setState state _

theorem Sensible.forget {parameter : Parameter α} (sensible : parameter.Sensible) :
    parameter.forget.Sensible :=
  sensible.of_kept rfl rfl (fun held => held)

theorem Sensible.markStale {parameter : Parameter α} (sensible : parameter.Sensible) :
    parameter.markStale.Sensible :=
  sensible.forget.setActiveState _

theorem Sensible.setActive {parameter changed : Parameter α} (sensible : parameter.Sensible)
    {track : Track} (changes : parameter.setActive track = .ok changed) :
    changed.Sensible := by
  rcases setActive_cases changes with rfl | ⟨_, present, rfl⟩
  · exact sensible
  · exact Sensible.markStale ⟨present, sensible.named⟩

variable [Scalar α]

theorem Sensible.setLiteral {parameter changed : Parameter α} (sensible : parameter.Sensible)
    {track : Track} {value : α} {unit : String} {told : List (Notification α)}
    {registry : Registry α}
    (changes : ((parameter.setLiteral track value unit).start registry).1 =
      .ok (changed, told)) : changed.Sensible := by
  obtain ⟨amount, rfl, _⟩ := setLiteral_eq_ok changes
  exact (sensible.setState _ _).forget

/-- Changes that are made in place keep a parameter sensible. -/
theorem Sensible.edit {parameter changed : Parameter α} (sensible : parameter.Sensible)
    {change : Edit α} {told : List (Notification α)} {registry : Registry α}
    (changes : ((parameter.edit change).start registry).1 = .ok (changed, told)) :
    changed.Sensible := by
  cases change with
  | literal track value unit => exact sensible.setLiteral changes
  | active track => exact sensible.setActive (edit_active_eq_ok changes).1
  | formula track text unit =>
      cases changes
      exact (sensible.setState _ _).forget
  | clearOverride =>
      cases changes
      exact Sensible.markStale ⟨nofun, sensible.named⟩
  | markStale =>
      cases changes
      exact sensible.markStale
  | notes text =>
      cases changes
      exact sensible.of_kept rfl rfl (fun held => held)
  | modified author date =>
      cases changes
      exact sensible.of_kept rfl rfl (fun held => held)
  | listen listener =>
      cases changes
      exact sensible.of_kept rfl rfl (fun held => held)
  | look =>
      cases changes
      exact sensible

/-- Refreshing keeps a parameter sensible. -/
theorem Sensible.refresh {parameter : Parameter α} (sensible : parameter.Sensible) {σ : Type}
    (table : Formula.FunctionTable α) (pass : PassToken) (resolve : Formula.Resolver α σ)
    (state : Registry α × σ) :
    (parameter.refresh table pass resolve state).1.parameter.Sensible :=
  refresh_induction table pass resolve state sensible
    (fun _ _ kept => kept.of_kept rfl rfl (fun held => held))
    (fun _ _ kept => kept.of_kept rfl rfl (fun held => held))
    fun _ track kept => kept.setActiveState track

/-- The parameters that can be made: with a literal or a formula, and then named,
changed and refreshed. -/
inductive Made : Parameter α → Prop where
  | literal {id : String} {value : α} {unit : String} {registry : Registry α}
      {parameter : Parameter α}
      (buffers : ((Parameter.literal id value unit).start registry).1 = .ok parameter) :
      Made parameter
  | formula (id text unit : String) : Made (.formula id text unit)
  | named {parameter : Parameter α} (made : Made parameter) {name : String}
      (filled : name ≠ "") : Made { parameter with name := some name }
  | edited {parameter : Parameter α} (made : Made parameter) {change : Edit α}
      {registry : Registry α} {changed : Parameter α} {told : List (Notification α)}
      (changes : ((parameter.edit change).start registry).1 = .ok (changed, told)) :
      Made changed
  | refreshed {parameter : Parameter α} (made : Made parameter) {σ : Type}
      (table : Formula.FunctionTable α) (pass : PassToken) (resolve : Formula.Resolver α σ)
      (state : Registry α × σ) :
      Made (parameter.refresh table pass resolve state).1.parameter

theorem Made.sensible {parameter : Parameter α} (made : Made parameter) :
    parameter.Sensible := by
  induction made with
  | literal buffers =>
      obtain ⟨amount, _, rfl⟩ := literal_eq_ok buffers
      exact ⟨nofun, nofun⟩
  | formula id text unit => exact ⟨nofun, nofun⟩
  | named made filled sensible =>
      exact ⟨sensible.overridden, fun empty => filled (Option.some.inj empty)⟩
  | edited made changes sensible => exact sensible.edit changes
  | refreshed made table pass resolve state sensible =>
      exact sensible.refresh table pass resolve state

/-- Whatever was done to a parameter whose numbers read back: its line is read back
as the same record exactly when its formulas are telling.  It is refused only if it
loses the override track that is read from, and otherwise all is the same but the
sources that are not telling. -/
theorem saved_parameter_reads_back_iff {parameter : Parameter α} (made : Made parameter)
    (readable : ∀ source ∈ parameter.sources, source.Readable) :
    ((∃ loaded, ofLine parameter.toLine = .ok loaded ∧ loaded.SameRecord parameter) ↔
        ∀ source ∈ parameter.sources, source.Telling) ∧
      ((∃ loaded, (ofLine parameter.toLine : Except Error (Parameter α)) = .ok loaded) ↔
        ¬parameter.HidesOverride) ∧
      ∀ loaded, ofLine parameter.toLine = .ok loaded → loaded.Resembles parameter :=
  ⟨reads_toLine_iff made.sensible readable, exists_ofLine_iff made.sensible,
    fun _ => resembles_of_ofLine made.sensible readable⟩

end Making

/-- The registry of pure numbers. -/
def pureNumbers : Registry ℚ :=
  { quantities := [⟨"ratio", "r", .ratio, [.proportional "" "ratio" 1], 0, by decide, .base⟩]
    legacy := []
    growth := false
    stepLimit := 1 }

/-- A formula that needs escaping, overridden by a number. -/
def share : Parameter ℚ :=
  { id := "share"
    name := some "share; in \\"
    defaultTrack := .unbuffered (.formula "[whole]; \\1" "")
    overrideTrack := some ⟨.literal (-7) "", some (.ratio (-7)), true⟩
    active := .override }

theorem made_share : Made share := by
  have buffered : (((Parameter.formula "share" "[whole]; \\1" "" : Parameter ℚ).edit
        (.literal .override (-7) "")).start pureNumbers).1.toOption =
      some ({ share with
        name := none
        overrideTrack := some ⟨.literal (-7) "", some (.ratio (-7)), false⟩
        active := .default }, []) := by decide +kernel
  cases outcome : (((Parameter.formula "share" "[whole]; \\1" "" : Parameter ℚ).edit
      (.literal .override (-7) "")).start pureNumbers).1 with
  | error failure =>
      rw [outcome] at buffered
      cases buffered
  | ok changed =>
      rw [outcome] at buffered
      cases Option.some.inj buffered
      have overridden := @Made.edited ℚ _ _ ((Made.formula _ _ _).edited outcome)
        (.active .override) pureNumbers _ _ rfl
      exact overridden.named (by decide)

/-- The number and the formula are read back beside each other. -/
theorem saved_parameter_reads_back_share :
    Made share ∧ (∀ source ∈ share.sources, source.Readable) ∧
      ∃ loaded, ofLine share.toLine = .ok loaded ∧ loaded.SameRecord share := by
  have readable : ∀ source ∈ share.sources, source.Readable := by
    intro source member
    simp only [sources, share, Option.map_some, Option.toList_some, List.mem_cons,
      List.not_mem_nil, or_false] at member
    rcases member with rfl | rfl
    · trivial
    · change Scalar.read? (Scalar.plainText (-7 : ℚ)).toList = some (-7)
      decide +kernel
  refine ⟨made_share, readable, (saved_parameter_reads_back_iff made_share readable).1.2 ?_⟩
  intro source member
  simp only [sources, share, Option.map_some, Option.toList_some, List.mem_cons,
    List.not_mem_nil, or_false] at member
  rcases member with rfl | rfl
  · exact ⟨by decide +kernel, .inl (by decide)⟩
  · trivial

/-- A formula that is written like a number is read as that number. -/
theorem not_forall_saved_parameter_reads_back :
    ¬∀ parameter : Parameter Float, Made parameter →
      (∀ source ∈ parameter.sources, source.Readable) →
        ∃ loaded, ofLine parameter.toLine = .ok loaded ∧ loaded.SameRecord parameter := by
  intro always
  have made : Made (.formula "p" "5" "kg" : Parameter Float) := .formula _ _ _
  have readable : ∀ source ∈ (Parameter.formula "p" "5" "kg" : Parameter Float).sources,
      source.Readable := by
    intro source member
    cases List.mem_singleton.1 member
    trivial
  obtain ⟨_, plain⟩ := (reads_toLine_iff made.sensible readable).1 (always _ made readable) _
    List.mem_cons_self
  rcases plain with bracket | noNumber
  · exact absurd bracket (by decide)
  · rw [Scalar.read?, Option.map_eq_none_iff] at noNumber
    exact absurd noNumber (by decide +kernel)

end Parameter

end Metrology
