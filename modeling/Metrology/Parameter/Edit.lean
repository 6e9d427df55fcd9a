import Metrology.Parameter

/-!
# Editing parameters

The changes that are made to a parameter in place.
-/

namespace Metrology.Parameter

/-- A change that is made to a parameter in place. -/
inductive Edit (α : Type) where
  | literal (track : Track) (value : α) (unit : String)
  | formula (track : Track) (text unit : String)
  | active (track : Track)
  | clearOverride
  | markStale
  | notes (text : String)
  | modified (author date : String)
  | listen (listener : String)
  | look
  deriving DecidableEq, Repr

variable {α : Type} [Scalar α]

/-- Make a change.  A change that fails leaves the parameter as it was. -/
def edit (parameter : Parameter α) :
    Edit α → Attempt (Registry α) (Parameter α × List (Notification α))
  | .literal track value unit => parameter.setLiteral track value unit
  | .formula track text unit => return (parameter.setFormula track text unit, [])
  | .active track => do
      let changed ← Attempt.ofExcept (parameter.setActive track)
      return (changed, [])
  | .clearOverride => return (parameter.clearOverride, [])
  | .markStale => return (parameter.markStale, [])
  | .notes text => return ({ parameter with notes := text }, [])
  | .modified author date =>
      return ({ parameter with modifiedBy := author, modifiedOn := date }, [])
  | .listen listener =>
      return ({ parameter with listeners := parameter.listeners ++ [listener] }, [])
  | .look => return (parameter, [])

end Metrology.Parameter
