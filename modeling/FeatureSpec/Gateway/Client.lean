import FeatureSpec.Backend.Address
import FeatureSpec.Backend.Delivery
import FeatureSpec.Gateway.Run
import FeatureSpec.Json.Writable
import FeatureSpec.Number.Shortest
/-!
The client of a backend. Every operation sends one request.
-/
namespace FeatureSpec

open Payload

inductive Timeout where
  | whole (seconds : Int)
  | fraction (seconds : Binary64)
  deriving DecidableEq, Repr

structure Client where
  baseUrl : String
  timeout : Timeout
  /-- The transport belongs to the client, which then closes it. -/
  owned : Bool
  closed : Bool := false
  deriving DecidableEq, Repr

namespace Timeout

def text : Timeout → String
  | .whole n => toString n
  | .fraction x => x.text

end Timeout

namespace Client

def make (baseUrl : String) (timeout : Timeout) (owned : Bool) : Client :=
  { baseUrl := Url.withoutSlashes baseUrl, timeout, owned }

def close (c : Client) : Client := { c with closed := c.closed || c.owned }

/-- The payload that an operation is answered with. A response is of no use unless it is known by
scheme and host where it came from. -/
def payload (c : Client) (e : Endpoint) (body : Option Json) : Run Json := do
  let url := e.url c.baseUrl
  Run.log (Log.note Log.debug .client s!"{e.method.name} {url}")
  let address ← Run.ofExcept ((Address.ofString url).mapError .address)
  match body.bind Json.unwritable? with
  | some fault => Run.fail (.value fault)
  | none =>
    if c.closed then Run.fail (.state .clientClosed)
    else
      let d ← Run.deliver { method := e.method, url := address.text, body }
      if d.isResponse && !address.isAbsolute then
        Run.fail (.value (.unknownAddressType address.text))
      else Run.ofExcept (Delivery.payload c.timeout.text url d)

def request {α : Type} (c : Client) (e : Endpoint) (body : Option Json) (title : String)
    (codec : Codec α) (adapt : Json → Json) : Run α := do
  let v ← c.payload e body
  Run.ofExcept (Delivery.reply title (e.url c.baseUrl) codec (adapt v))

def listFeatures (c : Client) : Run (List String) := do
  let v ← c.payload .features none
  Run.ofExcept (Delivery.featureNames (Endpoint.url c.baseUrl .features) v)

def feature (c : Client) (name : String) : Run Feature :=
  c.request (.feature name) none Feature.title Feature.codec id

def checksum (c : Client) (name : String) : Run Checksum :=
  c.request (.checksum name) none Checksum.title Checksum.codec (Delivery.checksumPayload name)

def backend (c : Client) (name : String) : Run Backend :=
  c.request (.backend name) none Backend.title Backend.codec Delivery.sectionPayload

def frontend (c : Client) (name : String) : Run FrontendReply :=
  c.request (.frontend name) none FrontendReply.title FrontendReply.codec id

def mappings (c : Client) (name : String) : Run MappingsReply :=
  c.request (.mappings name) none MappingsReply.title MappingsReply.codec id

def executeQuery (c : Client) (name query : String) (params : Entries Json) : Run QueryReply :=
  c.request (.query name query) (some (.object params)) QueryReply.title QueryReply.codec id

def executeAction (c : Client) (name action : String) (params : Entries Json) :
    Run ActionReply :=
  c.request (.action name action) (some (.object params)) ActionReply.title ActionReply.codec id

end Client
end FeatureSpec
