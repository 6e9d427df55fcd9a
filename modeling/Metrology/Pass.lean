/-!
# Calculation passes

A calculation pass is known by its token.  What has been evaluated under a
token is not evaluated again under the same one; the empty token stands for no
pass at all.
-/

namespace Metrology

/-- The mark of one calculation pass. -/
structure PassToken where
  raw : UInt64
  deriving DecidableEq, Repr

namespace PassToken

/-- The token of no pass. -/
def empty : PassToken :=
  ⟨0⟩

def isEmpty (token : PassToken) : Bool :=
  token == empty

def text (token : PassToken) : String :=
  "pass#" ++ token.raw.toNat.repr

end PassToken

/-- Where new tokens come from: the word of the next one. -/
structure TokenSource where
  next : UInt64
  deriving DecidableEq, Repr

namespace TokenSource

/-- The source that has given out no token. -/
def initial : TokenSource :=
  ⟨1⟩

/-- A token that was not given out before, and the source after it. -/
def mint (source : TokenSource) : PassToken × TokenSource :=
  (⟨source.next⟩, ⟨source.next + 1⟩)

end TokenSource

end Metrology
