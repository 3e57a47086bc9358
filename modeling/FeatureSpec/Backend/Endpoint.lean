import FeatureSpec.Backend.Url
import FeatureSpec.Json.Basic
/-!
The operations of a backend and the requests that ask for them.
-/
namespace FeatureSpec

inductive Endpoint where
  | features
  | feature (name : String)
  | checksum (name : String)
  | backend (name : String)
  | frontend (name : String)
  | mappings (name : String)
  | query (name id : String)
  | action (name id : String)
  deriving DecidableEq, Repr

inductive Method where
  | get
  | post
  deriving DecidableEq, Repr

structure Request where
  method : Method
  url : String
  body : Option Json := none
  deriving DecidableEq, Repr

inductive Delivery where
  | timedOut
  | failed (reason : String)
  | response (status : Int) (body : Octets)
  deriving DecidableEq, Repr

namespace Delivery

def isResponse : Delivery → Bool
  | .response .. => true
  | _ => false

end Delivery

namespace Method

def name : Method → String
  | .get => "GET"
  | .post => "POST"

end Method

namespace Endpoint

def segments : Endpoint → List String
  | .features => []
  | .feature name => [name]
  | .checksum name => [name, "checksum"]
  | .backend name => [name, "backend"]
  | .frontend name => [name, "frontend"]
  | .mappings name => [name, "mappings"]
  | .query name id => [name, "queries", id]
  | .action name id => [name, "actions", id]

def method : Endpoint → Method
  | .query .. | .action .. => .post
  | _ => .get

def url (base : String) (e : Endpoint) : String := Url.below (base ++ "/xfeatures") e.segments

end Endpoint
end FeatureSpec
