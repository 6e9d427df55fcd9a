import Metrology.Main
import Metrology.Parameter.Ranking
import Metrology.Proofs.Coupling
import Metrology.Proofs.Dimension
import Metrology.Proofs.Evaluation
import Metrology.Proofs.Exact
import Metrology.Proofs.Rescaling
import Metrology.Proofs.Alike
import Metrology.Proofs.Consistency
import Metrology.Proofs.Growth
import Metrology.Proofs.Renormalizing
import Metrology.Proofs.Accepting
import Metrology.Proofs.Newcomers
import Metrology.Proofs.BuiltinUnits
import Metrology.Proofs.Saving
import Metrology.Proofs.OncePerPass
import Metrology.Proofs.Calls
import Metrology.Proofs.Circles
import Metrology.Proofs.Reporting
import Metrology.Proofs.Shadowing
import Metrology.Proofs.Canonical
import Metrology.Proofs.Announcing
import Metrology.Proofs.Nesting
import Metrology.Proofs.ReadingBack
import Metrology.Proofs.Atomicity
import Metrology.Proofs.Representable
import Metrology.Proofs.Ranking
import Metrology.Proofs.TrackStates
import Metrology.Proofs.Kinds
import Metrology.Proofs.Products
import Metrology.Proofs.Splitting
import Metrology.Proofs.Settling
import Metrology.Proofs.Graded
import Metrology.Proofs.Crossing
import Metrology.Proofs.Vectors
import Metrology.Proofs.Asking
import Metrology.Proofs.Reloading
import Metrology.Proofs.FaultPositions
import Metrology.Proofs.Views
import Metrology.Proofs.UnitAlgebra
import Metrology.Proofs.Functions
