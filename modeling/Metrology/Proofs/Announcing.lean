import Metrology.Proofs.Exact
import Metrology.Proofs.Saving
import Metrology.Proofs.Turns

/-!
# Announced changes

A listener is told of an amount when the track that is read from gets one that differs
from what that same track had buffered.  So a change between two moments is announced
unless it comes from switching to a track where the new amount is buffered already.
-/

namespace Metrology

open Formula

/-! ## Comparing equal -/

/-- Numbers that compare equal may stand for each other. -/
class Scalar.Comparable (α : Type) [Scalar α] : Prop where
  same_symm : ∀ left right : α, Scalar.same left right = true → Scalar.same right left = true
  same_trans : ∀ left middle right : α, Scalar.same left middle = true →
    Scalar.same middle right = true → Scalar.same left right = true

instance exactComparable {α : Type} [Field α] [LinearOrder α] [Elementary α] :
    Scalar.Comparable α where
  same_symm _ _ same := decide_eq_true (of_decide_eq_true same).symm
  same_trans _ _ _ first second :=
    decide_eq_true ((of_decide_eq_true first).trans (of_decide_eq_true second))

namespace Amount

variable {α : Type} [Scalar α]

theorem same_iff {left right : Amount α} : left.same right = true ↔
    Scalar.same left.magnitude right.magnitude = true ∧ left.dimension = right.dimension := by
  rw [same, Bool.and_eq_true, beq_iff_eq]

/-- Two amounts are the same amount, be it an undefined one, or compare equal. -/
def Matches (left right : Amount α) : Prop :=
  left = right ∨ left.same right = true

/-- A defined amount that differs from another does not match it. -/
theorem not_matches {left right : Amount α} (changed : left.same right = false)
    (defined : right.same right = true) : ¬left.Matches right := by
  rintro (rfl | same)
  · exact Bool.eq_false_iff.1 changed defined
  · exact Bool.eq_false_iff.1 changed same

variable [Scalar.Comparable α]

theorem same_symm {left right : Amount α} (same : left.same right = true) :
    right.same left = true := by
  rw [same_iff] at same ⊢
  exact ⟨Scalar.Comparable.same_symm _ _ same.1, same.2.symm⟩

theorem same_trans {left middle right : Amount α} (first : left.same middle = true)
    (second : middle.same right = true) : left.same right = true := by
  rw [same_iff] at first second ⊢
  exact ⟨Scalar.Comparable.same_trans _ _ _ first.1 second.1, first.2.trans second.2⟩

theorem Matches.symm {left right : Amount α} (alike : left.Matches right) :
    right.Matches left :=
  alike.imp Eq.symm same_symm

theorem Matches.same_of_same {left middle right : Amount α} (first : left.same middle = true)
    (second : middle.Matches right) : left.same right = true := by
  rcases second with rfl | second
  · exact first
  · exact same_trans first second

theorem Matches.trans {left middle right : Amount α} (first : left.Matches middle)
    (second : middle.Matches right) : left.Matches right := by
  rcases first with rfl | first
  · exact second
  · exact .inr (same_of_same first second)

/-- What matches a defined amount is defined. -/
theorem Matches.defined {left right : Amount α} (alike : left.Matches right)
    (defined : right.same right = true) : left.same left = true := by
  rcases alike with rfl | alike
  · exact defined
  · exact same_trans alike (same_symm alike)

end Amount

namespace Parameter

variable {α : Type} [Scalar α]

/-! ## What one turn tells -/

section Telling

/-- The amount that can be read after a turn is what every listener was told, or
nothing was told and it compares equal with the one before, unless the track that is
read from changed. -/
def Accounted (before after : Parameter α) (told : List (Notification α)) : Prop :=
  (∃ old new, told = before.notices old new ∧ after.activeState.cached = some new) ∨
    (told = [] ∧ (after.active = before.active →
      ∀ new, after.activeState.cached = some new →
        ∃ old, before.activeState.cached = some old ∧ old.Matches new))

variable {parameter : Parameter α}

/-- Nothing is told of an amount that stays. -/
theorem accounted_of_kept {after : Parameter α}
    (kept : after.active = parameter.active →
      after.activeState.cached = parameter.activeState.cached) :
    parameter.Accounted after [] :=
  .inr ⟨rfl, fun active new cached => ⟨new, (kept active).symm.trans cached, .inl rfl⟩⟩

/-- What differs from the amount before is told to every listener. -/
theorem accounted_of_cached {after : Parameter α} {old : Option (Amount α)} {new : Amount α}
    (cached : after.activeState.cached = some new)
    (held : ∀ amount, old = some amount → parameter.activeState.cached = some amount) :
    parameter.Accounted after
      (if differs old new = true then parameter.notices old new else []) := by
  split
  · exact .inl ⟨old, new, rfl, cached⟩
  · next alike =>
      refine .inr ⟨rfl, fun _ other buffered => ?_⟩
      cases cached.symm.trans buffered
      cases old with
      | none => exact absurd rfl alike
      | some amount =>
          refine ⟨amount, held amount rfl, .inr ?_⟩
          rw [differs, Bool.not_eq_true', Bool.not_eq_false] at alike
          exact alike

omit [Scalar α] in
theorem activeState_setState_of_active (state : TrackState α) {track : Track}
    (active : track = parameter.active) :
    (parameter.setState state track).activeState = state := by
  cases track <;> simp [activeState, setState, track?, ← active]

omit [Scalar α] in
theorem activeState_setState_of_inactive (overridden : parameter.Overridden)
    (state : TrackState α) {track : Track} (inactive : track ≠ parameter.active) :
    (parameter.setState state track).activeState = parameter.activeState := by
  cases track with
  | default =>
      cases active : parameter.active with
      | default => exact absurd active.symm inactive
      | override =>
          obtain ⟨held, present⟩ := Option.isSome_iff_exists.1 (overridden active)
          simp [activeState, setState, track?, active, present]
  | override =>
      cases active : parameter.active with
      | default => simp [activeState, setState, track?, active]
      | override => exact absurd active.symm inactive

omit [Scalar α] in
/-- What the active track had buffered is what was read. -/
theorem cached_written {source : Source α} {track : Track} (active : track = parameter.active)
    {amount : Amount α} (cached : (parameter.written source track).cached = some amount) :
    parameter.activeState.cached = some amount := by
  subst active
  unfold written at cached
  unfold activeState
  cases held : parameter.track? parameter.active with
  | none =>
      rw [held] at cached
      cases cached
  | some state =>
      rw [held] at cached
      exact cached

omit [Scalar α] in
theorem active_setActiveState (parameter : Parameter α) (state : TrackState α) :
    (parameter.setActiveState state).active = parameter.active := by
  unfold setActiveState
  split <;> rfl

omit [Scalar α] in
theorem markStale_eq (parameter : Parameter α) :
    parameter.markStale.active = parameter.active ∧
      parameter.markStale.activeState.cached = parameter.activeState.cached := by
  constructor
  · exact active_setActiveState _ _
  · rw [markStale, activeState_setActiveState]
    rfl

theorem accounted_setLiteral (overridden : parameter.Overridden) {changed : Parameter α}
    {track : Track} {value : α} {unit : String} {told : List (Notification α)}
    {registry : Registry α}
    (changes : ((parameter.setLiteral track value unit).start registry).1 =
      .ok (changed, told)) : parameter.Accounted changed told := by
  obtain ⟨amount, rfl, rfl⟩ := setLiteral_eq_ok changes
  by_cases active : track = parameter.active
  · have read := activeState_setState_of_active { parameter.written (.literal value unit) track
      with cached := some amount, stale := false } active
    simp only [active, true_and]
    rw [← active]
    exact accounted_of_cached (congrArg TrackState.cached read)
      fun old cached => cached_written active cached
  · rw [if_neg fun both => active both.1]
    exact accounted_of_kept fun _ =>
      congrArg TrackState.cached (activeState_setState_of_inactive overridden _ active)

theorem accounted_setFormula (overridden : parameter.Overridden) (track : Track)
    (text unit : String) : parameter.Accounted (parameter.setFormula track text unit) [] := by
  by_cases active : track = parameter.active
  · refine .inr ⟨rfl, fun _ new cached => ⟨new, ?_, .inl rfl⟩⟩
    have read := activeState_setState_of_active
      { parameter.written (.formula text unit) track with stale := true } active
    exact cached_written active ((congrArg TrackState.cached read).symm.trans cached)
  · exact accounted_of_kept fun _ =>
      congrArg TrackState.cached (activeState_setState_of_inactive overridden _ active)

theorem accounted_setActive {changed : Parameter α} {track : Track}
    (changes : parameter.setActive track = .ok changed) : parameter.Accounted changed [] := by
  rcases setActive_cases changes with rfl | ⟨other, _, rfl⟩
  · exact accounted_of_kept fun _ => rfl
  · refine accounted_of_kept fun active => absurd ?_ other
    exact active.symm.trans (markStale_eq _).1

theorem accounted_clearOverride (parameter : Parameter α) :
    parameter.Accounted parameter.clearOverride [] := by
  refine accounted_of_kept fun active => ?_
  have default : Track.default = parameter.active := (markStale_eq _).1.symm.trans active
  refine (markStale_eq _).2.trans ?_
  simp [activeState, track?, ← default]

/-- An edit tells of the amount that it leaves, unless it switches tracks. -/
theorem accounted_edit (overridden : parameter.Overridden) {changed : Parameter α}
    {change : Edit α} {told : List (Notification α)} {registry : Registry α}
    (changes : ((parameter.edit change).start registry).1 = .ok (changed, told)) :
    parameter.Accounted changed told := by
  cases change with
  | literal track value unit => exact accounted_setLiteral overridden changes
  | formula track text unit =>
      cases changes
      exact accounted_setFormula overridden track text unit
  | active track =>
      obtain ⟨chosen, rfl⟩ := edit_active_eq_ok changes
      exact accounted_setActive chosen
  | clearOverride =>
      cases changes
      exact parameter.accounted_clearOverride
  | markStale =>
      cases changes
      exact accounted_of_kept fun _ => parameter.markStale_eq.2
  | notes text | modified author date | listen listener | look =>
      cases changes
      exact accounted_of_kept fun _ => rfl

/-- A refresh tells of the amount that it leaves. -/
theorem accounted_refresh (parameter : Parameter α) {σ : Type} (table : FunctionTable α)
    (pass : PassToken) (resolve : Resolver α σ) (state : Registry α × σ) :
    parameter.Accounted (parameter.refresh table pass resolve state).1.parameter
      (parameter.refresh table pass resolve state).1.notifications := by
  rcases parameter.refresh_cases table pass resolve state with stands | ⟨recomputed, taken⟩
  · rw [stands]
    exact accounted_of_kept fun _ => rfl
  have counted : parameter.counted.activeState = parameter.activeState :=
    parameter.counted_eq.2.1
  have notices : parameter.counted.notices = parameter.notices := by
    unfold Parameter.counted
    split <;> rfl
  rw [taken]
  match recomputed with
  | .ok none => exact accounted_of_kept fun _ => congrArg TrackState.cached counted
  | .ok (some fresh) =>
      simp only [takeUp]
      rw [notices]
      refine accounted_of_cached ?_ fun old held => counted ▸ held
      rw [activeState_setActiveState]
  | .error failure =>
      refine .inr ⟨rfl, fun _ new cached => ?_⟩
      rw [takeUp, activeState_setActiveState] at cached
      cases cached

theorem accounted_take (overridden : parameter.Overridden) (turn : Turn α) :
    parameter.Accounted (parameter.take turn).1 (parameter.take turn).2 := by
  refine take_induction parameter.Accounted ?_ ?_ ?_ turn
  · exact accounted_of_kept fun _ => rfl
  · intro change registry changed told changes
    exact accounted_edit overridden changes
  · intro σ table pass resolve state
    exact parameter.accounted_refresh table pass resolve state

end Telling

/-! ## What a run tells -/

section Reports

/-- A listener was told of an amount, and of no other one later. -/
def Reported (listener : String) (amount : Amount α) (told : List (Notification α)) : Prop :=
  ∃ notice, (told.filter (·.listener == listener)).getLast? = some notice ∧
    notice.new.same amount = true

/-- The early turns leave a listener without knowledge of an amount, the next one
switches to the other track, where that amount is buffered already, and the late ones
tell nothing. -/
structure Overlooks (parameter : Parameter α) (listener : String) (amount : Amount α)
    (early : List (Turn α)) (switch : Turn α) (late : List (Turn α)) : Prop where
  unknown : ¬Reported listener amount (parameter.told early)
  switches : (parameter.after (early ++ [switch])).active ≠ (parameter.after early).active
  buffered : ∃ found, (parameter.after (early ++ [switch])).amount = .ok found ∧
    found.Matches amount
  silent : parameter.told (early ++ switch :: late) = parameter.told early

variable {parameter : Parameter α} {listener : String} {old new : Amount α}

omit [Scalar α] in
theorem amount_eq_ok : parameter.amount = .ok new ↔ parameter.activeState.cached = some new := by
  unfold amount
  cases parameter.activeState.cached <;> simp

/-- What is told to all is the last that each of them hears. -/
theorem reported_notices (listening : listener ∈ parameter.listeners)
    (defined : new.same new = true) (told : List (Notification α)) (old : Option (Amount α)) :
    Reported listener new (told ++ parameter.notices old new) := by
  have heard : ({ listener, id := parameter.id, old, new } : Notification α) ∈
      (parameter.notices old new).filter (·.listener == listener) :=
    List.mem_filter.2 ⟨List.mem_map.2 ⟨listener, listening, rfl⟩, beq_self_eq_true _⟩
  have some := List.ne_nil_of_mem heard
  refine ⟨((parameter.notices old new).filter (·.listener == listener)).getLast some, ?_, ?_⟩
  · rw [List.filter_append, List.getLast?_append_of_ne_nil _ some,
      List.getLast?_eq_getLast_of_ne_nil some]
  · obtain ⟨_, _, told⟩ := List.mem_map.1 (List.mem_filter.1 (List.getLast_mem some)).1
    rw [← told]
    exact defined

variable [Scalar.Comparable α]

theorem Reported.of_matches {told : List (Notification α)} (reported : Reported listener old told)
    (alike : old.Matches new) : Reported listener new told := by
  obtain ⟨notice, last, same⟩ := reported
  exact ⟨notice, last, Amount.Matches.same_of_same same alike⟩

/-- However a parameter came to its amount: a listener was told of it last, or nothing
was told since the start and the amount is still that one, or a switch of tracks was
overlooked. -/
theorem reported_or_overlooked (obtained : parameter.Obtained)
    (listening : listener ∈ parameter.listeners) (turns : List (Turn α))
    (read : (parameter.after turns).amount = .ok new) (defined : new.same new = true) :
    Reported listener new (parameter.told turns) ∨
      (∃ old, parameter.amount = .ok old ∧ old.Matches new) ∨
      ∃ early switch late, turns = early ++ switch :: late ∧
        parameter.Overlooks listener new early switch late := by
  induction turns using List.reverseRecOn generalizing new with
  | nil => exact .inr (.inl ⟨new, read, .inl rfl⟩)
  | append_singleton turns turn ih =>
      rw [after_snoc, amount_eq_ok] at read
      rcases accounted_take (obtained.after turns).overridden turn with
        ⟨old, fresh, heard, cached⟩ | ⟨quiet, kept⟩
      · cases cached.symm.trans read
        left
        rw [told_snoc, heard]
        exact reported_notices (listening_after listening turns) defined _ _
      have same : parameter.told (turns ++ [turn]) = parameter.told turns := by
        rw [told_snoc, quiet, List.append_nil]
      rw [same]
      by_cases active : ((parameter.after turns).take turn).1.active =
          (parameter.after turns).active
      · obtain ⟨old, cached, alike⟩ := kept active new read
        rcases ih (amount_eq_ok.2 cached) (alike.defined defined) with
          reported | ⟨first, start, chain⟩ | ⟨early, switch, late, rfl, overlooks⟩
        · exact .inl (reported.of_matches alike)
        · exact .inr (.inl ⟨first, start, chain.trans alike⟩)
        · obtain ⟨found, buffered, chain⟩ := overlooks.buffered
          refine .inr (.inr ⟨early, switch, late ++ [turn], by simp, ?_⟩)
          refine ⟨fun reported => overlooks.unknown (reported.of_matches alike.symm),
            overlooks.switches, ⟨found, buffered, chain.trans alike⟩, ?_⟩
          rw [← List.cons_append, ← List.append_assoc, same]
          exact overlooks.silent
      · by_cases reported : Reported listener new (parameter.told turns)
        · exact .inl reported
        · refine .inr (.inr ⟨turns, turn, [], rfl, reported, ?_, ⟨new, ?_, .inl rfl⟩, same⟩)
          · rw [after_snoc]
            exact active
          · rw [after_snoc, amount_eq_ok]
            exact read

/-- As long as the same track is read from, a change between two moments is reported. -/
theorem reported_of_unswitched (obtained : parameter.Obtained)
    (listening : listener ∈ parameter.listeners) {turns : List (Turn α)}
    (unswitched : ∀ early late, turns = early ++ late →
      (parameter.after early).active = parameter.active)
    (first : parameter.amount = .ok old) (last : (parameter.after turns).amount = .ok new)
    (changed : old.same new = false) (defined : new.same new = true) :
    Reported listener new (parameter.told turns) := by
  rcases reported_or_overlooked obtained listening turns last defined with
    reported | ⟨other, start, alike⟩ | ⟨early, switch, late, rfl, overlooks⟩
  · exact reported
  · cases first.symm.trans start
    exact absurd alike (Amount.not_matches changed defined)
  · refine absurd ?_ overlooks.switches
    rw [unswitched early _ rfl, unswitched (early ++ [switch]) late (by simp)]

/-- A change between two moments is reported exactly if no switch of tracks since then
was overlooked. -/
theorem change_reported_iff (obtained : parameter.Obtained)
    (listening : listener ∈ parameter.listeners) {turns : List (Turn α)}
    (first : parameter.amount = .ok old) (last : (parameter.after turns).amount = .ok new)
    (changed : old.same new = false) (defined : new.same new = true) :
    Reported listener new (parameter.told turns) ↔
      ¬∃ early switch late, turns = early ++ switch :: late ∧
        parameter.Overlooks listener new early switch late := by
  constructor
  · rintro reported ⟨early, switch, late, rfl, overlooks⟩
    rw [overlooks.silent] at reported
    exact overlooks.unknown reported
  · intro none
    rcases reported_or_overlooked obtained listening turns last defined with
      reported | ⟨other, start, alike⟩ | overlooked
    · exact reported
    · cases first.symm.trans start
      exact absurd alike (Amount.not_matches changed defined)
    · exact absurd overlooked none

end Reports

/-- A refresh of pure numbers in a pass. -/
def refreshing (pass : UInt64) : Turn ℚ :=
  .refresh .standard ⟨pass⟩ (Resolver.none : Resolver ℚ Unit) (pureNumbers, ())

/-- A formula that was overridden by another one, with both in the buffer. -/
def overruled : Parameter ℚ :=
  (Parameter.formula "rate" "1" "").after
    [.change (.listen "log") pureNumbers, refreshing 1,
      .change (.formula .override "5" "") pureNumbers,
      .change (.active .override) pureNumbers, refreshing 2]

/-- Reading from the default track again changes the amount and tells nothing. -/
theorem change_reported_iff_overruled :
    overruled.amount = .ok (.ratio 5) ∧
      (overruled.after [.change (.active .default) pureNumbers, refreshing 3]).amount =
        .ok (.ratio 1) ∧
      overruled.told [.change (.active .default) pureNumbers, refreshing 3] = [] ∧
      ∃ early switch late,
        [.change (.active .default) pureNumbers, refreshing 3] = early ++ switch :: late ∧
          overruled.Overlooks "log" (.ratio 1) early switch late := by
  have first : overruled.amount = .ok (.ratio 5) :=
    amount_eq_ok.2 (by decide +kernel)
  have last : (overruled.after [.change (.active .default) pureNumbers, refreshing 3]).amount =
      .ok (.ratio 1) := amount_eq_ok.2 (by decide +kernel)
  have silent : overruled.told [.change (.active .default) pureNumbers, refreshing 3] = [] := by
    decide +kernel
  refine ⟨first, last, silent, ?_⟩
  have obtained : overruled.Obtained := (Obtained.formula _ _ _).after _
  by_contra noticed
  obtain ⟨notice, heard, _⟩ := (change_reported_iff obtained (by decide +kernel) first last
    (by decide +kernel) (by decide +kernel)).2 noticed
  rw [silent] at heard
  cases heard

end Parameter

end Metrology
