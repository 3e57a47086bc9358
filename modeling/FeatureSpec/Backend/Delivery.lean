import FeatureSpec.Backend.Endpoint
import FeatureSpec.Failure
import FeatureSpec.Json.Display
import FeatureSpec.Json.Octets
import FeatureSpec.Model.Reply
/-!
From what comes of a request to the reply that it stands for. Every other outcome is a failure
of the backend, and names the address that was asked.
-/
namespace FeatureSpec.Delivery

open Payload

def reasonPhrase : Int → String
  | 400 => "Bad Request"
  | 401 => "Unauthorized"
  | 402 => "Payment Required"
  | 403 => "Forbidden"
  | 404 => "Not Found"
  | 405 => "Method Not Allowed"
  | 406 => "Not Acceptable"
  | 407 => "Proxy Authentication Required"
  | 408 => "Request Timeout"
  | 409 => "Conflict"
  | 410 => "Gone"
  | 411 => "Length Required"
  | 412 => "Precondition Failed"
  | 413 => "Request Entity Too Large"
  | 414 => "Request-URI Too Long"
  | 415 => "Unsupported Media Type"
  | 416 => "Requested Range Not Satisfiable"
  | 417 => "Expectation Failed"
  | 418 => "I'm a teapot"
  | 421 => "Misdirected Request"
  | 422 => "Unprocessable Entity"
  | 423 => "Locked"
  | 424 => "Failed Dependency"
  | 425 => "Too Early"
  | 426 => "Upgrade Required"
  | 428 => "Precondition Required"
  | 429 => "Too Many Requests"
  | 431 => "Request Header Fields Too Large"
  | 451 => "Unavailable For Legal Reasons"
  | 500 => "Internal Server Error"
  | 501 => "Not Implemented"
  | 502 => "Bad Gateway"
  | 503 => "Service Unavailable"
  | 504 => "Gateway Timeout"
  | 505 => "HTTP Version Not Supported"
  | 506 => "Variant Also Negotiates"
  | 507 => "Insufficient Storage"
  | 508 => "Loop Detected"
  | 510 => "Not Extended"
  | 511 => "Network Authentication Required"
  | _ => ""

def isErrorStatus (status : Int) : Bool := 400 ≤ status && status ≤ 599

/-- What a response with an error status says: its own words, if its body is an object that has
some, and otherwise the status. -/
def refusal (status : Int) (body : Octets) : String :=
  let byStatus := Text.trim s!"HTTP {status} {reasonPhrase status}"
  match Json.readOctets body with
  | .ok (.object members) =>
    match Entries.get? members "error" with
    | some v => if v.isTruthy then v.display else byStatus
    | none => byStatus
  | _ => byStatus

/-- The payload of a delivery; `after` is the time after which requests are given up. -/
def payload (after url : String) : Delivery → Except Failure Json
  | .timedOut => .error (.backend (.timedOut after) none (some url))
  | .failed reason => .error (.backend (.unreachable reason) none (some url))
  | .response status body =>
    if isErrorStatus status then
      .error (.backend (.refused (refusal status body)) (some status) (some url))
    else
      match Json.readOctets body with
      | .ok v => .ok v
      | .error _ => .error (.backend .notJson (some status) (some url))

def reply {α : Type} (title url : String) (codec : Codec α) (v : Json) : Except Failure α :=
  match codec.decode v with
  | .ok a => .ok a
  | .error faults => .error (.backend (.unexpected title faults.length) none (some url))

/-- The names of all features: a list, or the list that an object has as its features. -/
def featureNames (url : String) (v : Json) : Except Failure (List String) :=
  let listed :=
    match v with
    | .object members => (Entries.get? members "features").getD (.array [])
    | v => v
  match listed with
  | .array items => .ok (items.map Json.display)
  | _ => .error (.backend .notFeatureList none (some url))

def checksumPayload (name : String) : Json → Json
  | .object members =>
    if Entries.contains members "feature" then .object members
    else .object (members ++ [("feature", .string name)])
  | v => v

/-- A backend payload, in which `actions` may stand for `actionQueries`. -/
def sectionPayload : Json → Json
  | .object members =>
    if Entries.contains members "actionQueries" then .object members
    else
      match Entries.get? members "actions" with
      | some actions => .object (members ++ [("actionQueries", actions)])
      | none => .object members
  | v => v

end FeatureSpec.Delivery
