import Metrology.Parameter.Edit
import Metrology.Proofs.Coupling

/-!
# What an edit leaves

Making a parameter with a literal may fail, and so may writing a literal to one or choosing its
track.  Where they succeed they leave one of a few parameters, and what edits keep is proved
from these.
-/

namespace Metrology.Parameter

variable {α : Type} {parameter changed : Parameter α} {track : Track}

/-- The track is read from already, or it exists and the parameter turns to it. -/
theorem setActive_cases (changes : parameter.setActive track = .ok changed) :
    changed = parameter ∨ parameter.active ≠ track ∧
      (track = .override → parameter.overrideTrack.isSome = true) ∧
      changed = ({ parameter with active := track } : Parameter α).markStale := by
  unfold setActive at changes
  split at changes
  · cases changes
  · next allowed =>
      split at changes
      · cases changes
        exact .inl rfl
      · next other =>
          cases changes
          refine .inr ⟨other, fun reads => ?_, rfl⟩
          by_contra missing
          exact allowed ⟨reads, by simpa using missing⟩

variable [Scalar α] {told : List (Notification α)} {registry : Registry α}

theorem start_edit_active (parameter : Parameter α) (track : Track) (registry : Registry α) :
    (parameter.edit (.active track)).start registry =
      ((parameter.setActive track).map (·, []), registry) := by
  change ((fun changed => (changed, [])) <$> Attempt.ofExcept (parameter.setActive track)).start
    registry = _
  rw [Attempt.start_map, Attempt.start_ofExcept]

theorem edit_active_eq_ok
    (changes : ((parameter.edit (.active track)).start registry).1 = .ok (changed, told)) :
    parameter.setActive track = .ok changed ∧ told = [] := by
  rw [start_edit_active] at changes
  cases chosen : parameter.setActive track with
  | error failure =>
      rw [chosen] at changes
      cases changes
  | ok other =>
      rw [chosen] at changes
      cases changes
      exact ⟨rfl, rfl⟩

section Literal

variable {value : α} {unit : String}

theorem literal_eq_ok {id : String}
    (buffers : ((Parameter.literal id value unit).start registry).1 = .ok parameter) :
    ∃ amount, ((Amount.ofUnit value unit).start registry).1 = .ok amount ∧
      parameter = { id, defaultTrack := ⟨.literal value unit, some amount, false⟩ } := by
  unfold Parameter.literal at buffers
  cases converted : ((Amount.ofUnit value unit).start registry).1 with
  | error failure =>
      rw [Attempt.start_bind_of_error converted] at buffers
      cases buffers
  | ok amount =>
      rw [Attempt.start_bind_of_ok converted] at buffers
      cases buffers
      exact ⟨amount, rfl, rfl⟩

theorem start_setLiteral_of_error {failure : Error}
    (failed : ((Amount.ofUnit value unit).start registry).1 = .error failure) :
    ((parameter.setLiteral track value unit).start registry).1 = .error failure := by
  rw [setLiteral, Attempt.start_bind_of_error failed]

/-- What is written in place of a literal once it has an amount, and who is told. -/
theorem start_setLiteral_of_ok {amount : Amount α}
    (buffered : ((Amount.ofUnit value unit).start registry).1 = .ok amount) :
    ((parameter.setLiteral track value unit).start registry).1 =
      .ok ((parameter.setState { parameter.written (.literal value unit) track with
          cached := some amount, stale := false } track).forget,
        if track = parameter.active ∧
            differs (parameter.written (.literal value unit) track).cached amount = true
          then parameter.notices (parameter.written (.literal value unit) track).cached amount
          else []) := by
  rw [setLiteral, Attempt.start_bind_of_ok buffered]
  dsimp only
  split
  · cases track <;> rfl
  · rfl

theorem setLiteral_eq_ok
    (changes : ((parameter.setLiteral track value unit).start registry).1 =
      .ok (changed, told)) :
    ∃ amount, changed = (parameter.setState { parameter.written (.literal value unit) track with
          cached := some amount, stale := false } track).forget ∧
      told = if track = parameter.active ∧
          differs (parameter.written (.literal value unit) track).cached amount = true
        then parameter.notices (parameter.written (.literal value unit) track).cached amount
        else [] := by
  cases buffered : ((Amount.ofUnit value unit).start registry).1 with
  | error failure =>
      rw [start_setLiteral_of_error buffered] at changes
      cases changes
  | ok amount =>
      rw [start_setLiteral_of_ok buffered] at changes
      cases changes
      exact ⟨amount, rfl, rfl⟩

end Literal

end Metrology.Parameter
