import FeatureFlags.Context.Reading
import FeatureFlags.Edge.Basic
import FeatureFlags.Hash.Sha256

/-!
# Contexts

A context carries the attributes of one user or request. Where features are evaluated locally,
its attributes count at once. Where the server evaluates them, the context has to be built: the
server is told of the header, and until it has answered for another header than before, features
cannot be relied on.
-/

set_option autoImplicit false

namespace FeatureFlags

/-- The attributes of one user or request, and how features are evaluated for it. -/
structure Context where
  /-- The attributes. -/
  attributes : Attributes
  /-- Whether the server evaluates features. -/
  isServerEvaluated : Bool
  /-- The header that was built last. -/
  lastHeader : Option String
deriving Repr

namespace Context

/-- A context that nothing is known about. -/
def new (isServerEvaluated : Bool) : Context := ⟨.empty, isServerEvaluated, none⟩

/-- Changes the attributes. -/
def modify (c : Context) (f : Attributes → Attributes) : Context :=
  { c with attributes := f c.attributes }

/-- The digest that stands for no header. -/
def noDigest : String := "0"

/-- The digest of a header. -/
def digest (header : Option String) : String := header.elim noDigest Sha256.hexHash

variable {σ : Type} [Edge σ]

/-- Tells the edge of a context that the server evaluates. -/
def buildOnServer (c : Context) (e : σ) : Context × σ × Ticket :=
  let header := c.attributes.header
  let e := if c.lastHeader = header then e else Edge.modifyRepository e Repository.notReady
  let (e, t) := Edge.changeContext e header (digest header)
  ({ c with lastHeader := header }, e, t)

/-- Tells the edge of the attributes, as far as it has to know them. -/
def build (c : Context) (e : σ) : Context × σ × Ticket :=
  if c.isServerEvaluated then c.buildOnServer e
  else
    let (e, t) := Edge.changeContext e none noDigest
    (c, e, t)

/-- The attributes that strategies are tried with, if they are tried locally. -/
def localAttributes (c : Context) : Option Attributes :=
  if c.isServerEvaluated then none else some c.attributes

/-- Looks up a feature, of which the edge is told. -/
def feature (c : Context) (e : σ) (vars : Variables) (now : Rollout.Moment) (key : String) :
    σ × FeatureReading :=
  let e := Edge.featureUsed e
  let (repository, id) := (Edge.repository e).getFeature key
  let entry := repository.entry id
  (Edge.modifyRepository e fun _ => repository,
    ⟨entry, fun expected => repository.resolve vars now entry expected c.localAttributes⟩)

end Context

end FeatureFlags
