import FeatureSpec.Number.Literal
import FeatureSpec.Payload.Checked
/-!
Everything that can go wrong, by cause, with the wording and the name of each failure.
-/
namespace FeatureSpec

structure Location where
  source : Option String := none
  element : Option String := none
  attr : Option String := none
  deriving DecidableEq, Repr

inductive DocumentFault where
  | stated (text : String)
  | malformed
  | empty
  | wrongRoot (tag : String)
  | missingAttribute (tag : String)
  | unknownWord (title word : String)
  deriving DecidableEq, Repr

inductive BackendFault where
  | stated (text : String)
  | timedOut (after : String)
  | unreachable (reason : String)
  | refused (reason : String)
  | notJson
  | notFeatureList
  | unexpected (title : String) (faults : Nat)
  deriving DecidableEq, Repr

inductive ConfigFault where
  | stated (text : String)
  | malformed (path : String)
  | notTable (table : String)
  | wrongType (key shown : String)
  | unknownLevel (level : String)
  | timeoutText (text : String)
  | bundle (path : String)
  deriving DecidableEq, Repr

inductive ValueFault where
  | stated (text : String)
  | tooManyDigits (count : Nat)
  /-- An integer with more digits than are written. -/
  | tooManyDigitsToShow
  | wideCharset
  | noBackend
  | notJsonNumber
  | nulInPath
  | cutTemplate
  | cutName
  | unknownConversion (conversion : Char) (place : Nat)
  | oversized (what : String)
  | notNumberAsInteger
  | notNumberAsTime
  | yearOutOfRange (year : Int)
  | unknownLevel (name : String)
  | tooDeep
  | unknownAddressType (address : String)
  deriving DecidableEq, Repr

inductive StateFault where
  | stated (text : String)
  | storeClosed
  | clientClosed
  deriving DecidableEq, Repr

inductive AddressFault where
  | tooLong
  | partTooLong (part : String)
  | control (c : Char) (place : Nat)
  | octets (host : String)
  | groups (host : String)
  | hostName (host : String)
  | service (text : String)
  | doubleSlash
  | leadingColon
  deriving DecidableEq, Repr

inductive FileFault where
  | notFound
  | isDirectory
  | notDirectory
  | exists
  deriving DecidableEq, Repr

inductive TemplateFault where
  | tooFew
  | tooMany
  | notNumber (conversion : Char) (typeName : String)
  | notInteger (conversion : Char) (typeName : String)
  | notReal (typeName : String)
  | notCharacter
  | notSize
  | unnamed
  | noSuchName (name : String)
  deriving DecidableEq, Repr

inductive Failure where
  | general (text : String) (place : Option Location)
  | document (fault : DocumentFault) (place : Option Location)
  | reference (kind ref text : String)
  | backend (fault : BackendFault) (status : Option Int) (url : Option String)
  | config (fault : ConfigFault) (place : Option Location)
  | value (fault : ValueFault)
  | state (fault : StateFault)
  | address (fault : AddressFault)
  | lookup (text : String)
  | payload (title : String) (faults : List Payload.Fault)
  | undecodable
  | undefinedCharset
  | file (fault : FileFault)
  | overflow
  | oversizedTime
  | notLevel
  | noAttribute (typeName attr : String)
  | template (fault : TemplateFault)
  deriving DecidableEq, Repr

namespace Location

def format (l : Location) : String :=
  let parts := (l.source.toList ++ l.element.toList).filter (· ≠ "")
  let place := if parts.isEmpty then "<spec>" else ": ".intercalate parts
  match l.attr with
  | none => place
  | some attr => if attr = "" then place else s!"{place} [{attr}]"

def known? (l : Location) : Option Location :=
  if (l.source.toList ++ l.element.toList ++ l.attr.toList).all (· = "") then none
  else some l

end Location

/-- What a message gives in place of the particulars of malformed input. -/
def particulars : String := "<detail>"

namespace DocumentFault

def message : DocumentFault → String
  | .stated text => text
  | .malformed => "Malformed XML: " ++ particulars
  | .empty => "Empty specification document"
  | .wrongRoot tag => s!"Expected <Feature> root element, found <{tag}>"
  | .missingAttribute tag => s!"<{tag}> is missing required attribute"
  | .unknownWord title word => s!"Unknown {title} value '{word}'"

end DocumentFault

namespace BackendFault

def message : BackendFault → String
  | .stated text => text
  | .timedOut after => s!"Request timed out after {after}s"
  | .unreachable reason => s!"Request failed: {reason}"
  | .refused reason => reason
  | .notJson => "Response is not valid JSON"
  | .notFeatureList => "Unexpected feature list payload"
  | .unexpected title faults => s!"Unexpected {title} payload: {faults} validation error(s)"

end BackendFault

namespace ConfigFault

def levelNames : List String := ["DEBUG", "INFO", "WARNING", "ERROR", "CRITICAL"]

def message : ConfigFault → String
  | .stated text => text
  | .malformed path => s!"Invalid TOML in {path}: {particulars}"
  | .notTable table => s!"[{table}] must be a table"
  | .wrongType key shown => s!"Invalid value for '{key}': {shown}"
  | .unknownLevel level =>
    s!"Invalid log level '{level}'; expected one of " ++ ", ".intercalate levelNames
  | .timeoutText text => s!"Invalid XFEATURE_API_TIMEOUT: {Text.quoted text}"
  | .bundle path => s!"Invalid mock bundle {path}: {particulars}"

end ConfigFault

namespace ValueFault

def message : ValueFault → String
  | .stated text => text
  | .tooManyDigits count => Number.digitLimitMessage count
  | .tooManyDigitsToShow => Number.shownLimitMessage
  | .wideCharset => "multi-byte encodings are not supported"
  | .noBackend => "create_gateway needs a BackendClient or a MockBundle"
  | .notJsonNumber => "Out of range float values are not JSON compliant"
  | .nulInPath => "embedded null byte"
  | .cutTemplate => "incomplete format"
  | .cutName => "incomplete format key"
  | .oversized what => s!"{what} too big"
  | .notNumberAsInteger => "cannot convert float NaN to integer"
  | .notNumberAsTime => "Invalid value NaN (not a number)"
  | .yearOutOfRange year => s!"year {year} is out of range"
  | .unknownLevel name => s!"Unknown level: {Text.quoted name}"
  | .tooDeep => "Maximum serialization depth exceeded"
  | .unknownAddressType address => s!"unknown url type: {Text.quoted address}"
  | .unknownConversion conversion place =>
    let shown := if 31 ≤ conversion.toNat ∧ conversion.toNat ≤ 126 then conversion else '?'
    let code := String.ofList (Nat.toDigits 16 conversion.toNat)
    s!"unsupported format character \x27{shown}\x27 (0x{code}) at index {place}"

end ValueFault

namespace StateFault

def message : StateFault → String
  | .stated text => text
  | .storeClosed => "DefinitionStore is closed"
  | .clientClosed => "Cannot send a request, as the client has been closed."

end StateFault

namespace AddressFault

def message : AddressFault → String
  | .tooLong => "URL too long"
  | .partTooLong part => s!"URL component '{part}' too long"
  | .control c place =>
    let shown := Text.quoted (String.singleton c)
    s!"Invalid non-printable ASCII character in URL, {shown} at position {place}."
  | .octets host => s!"Invalid IPv4 address: {Text.quoted host}"
  | .groups host => s!"Invalid IPv6 address: {Text.quoted host}"
  | .hostName host => s!"Invalid IDNA hostname: {Text.quoted host}"
  | .service text => s!"Invalid port: {Text.quoted text}"
  | .doubleSlash => "Relative URLs cannot have a path starting with '//'"
  | .leadingColon => "Relative URLs cannot have a path starting with ':'"

end AddressFault

namespace TemplateFault

def message : TemplateFault → String
  | .tooFew => "not enough arguments for format string"
  | .tooMany => "not all arguments converted during string formatting"
  | .notNumber conversion typeName =>
    s!"%{conversion} format: a real number is required, not {typeName}"
  | .notInteger conversion typeName =>
    s!"%{conversion} format: an integer is required, not {typeName}"
  | .notReal typeName => s!"must be real number, not {typeName}"
  | .notCharacter => "%c requires int or char"
  | .notSize => "* wants int"
  | .unnamed => "format requires a mapping"
  | .noSuchName name => Text.quoted name

end TemplateFault

namespace Failure

def inDocument (fault : DocumentFault) (place : Location) : Failure :=
  .document fault place.known?

def notFound (kind ref : String) (text : String) : Failure :=
  .reference kind ref (if text = "" then s!"{kind} not found: {ref}" else text)

def name : Failure → String
  | .general .. => "XFeatureError"
  | .document .. => "ParseError"
  | .reference .. => "ReferenceNotFoundError"
  | .backend .. => "BackendError"
  | .config .. => "ConfigError"
  | .value _ => "ValueError"
  | .state _ => "RuntimeError"
  | .address _ => "InvalidURL"
  | .lookup _ => "LookupError"
  | .payload .. => "ValidationError"
  | .undecodable => "UnicodeDecodeError"
  | .undefinedCharset => "UnicodeError"
  | .file .notFound => "FileNotFoundError"
  | .file .isDirectory => "IsADirectoryError"
  | .file .notDirectory => "NotADirectoryError"
  | .file .exists => "FileExistsError"
  | .overflow => "OverflowError"
  | .oversizedTime => "OSError"
  | .notLevel => "TypeError"
  | .noAttribute .. => "AttributeError"
  | .template (.noSuchName _) => "KeyError"
  | .template _ => "TypeError"

def place? : Failure → Option Location
  | .general _ place | .document _ place | .config _ place => place
  | _ => none

def bareMessage : Failure → String
  | .general text _ => text
  | .document fault _ => fault.message
  | .reference _ _ text => text
  | .backend fault _ _ => fault.message
  | .config fault _ => fault.message
  | .value fault => fault.message
  | .state fault => fault.message
  | .address fault => fault.message
  | .lookup text => text
  | .payload title faults => Payload.Fault.reportAll title faults
  | .undecodable => "undecodable octets"
  | .undefinedCharset => "undefined encoding"
  | .file .notFound => "no such file or directory"
  | .file .isDirectory => "is a directory"
  | .file .notDirectory => "not a directory"
  | .file .exists => "file exists"
  | .overflow => "number out of range"
  | .oversizedTime => "Value too large for defined data type"
  | .notLevel => "Level not an integer or a valid string"
  | .noAttribute typeName attr => s!"'{typeName}' object has no attribute '{attr}'"
  | .template fault => fault.message

def message (f : Failure) : String :=
  match f.place? with
  | some place => s!"{place.format}: {f.bareMessage}"
  | none => f.bareMessage

/-- One of the failures that the library itself reports; all others escape from below it. -/
def isOwn : Failure → Bool
  | .general .. | .document .. | .reference .. | .backend .. | .config .. => true
  | _ => false

def isLookup : Failure → Bool
  | .reference .. | .lookup _ => true
  | _ => false

end Failure
end FeatureSpec
