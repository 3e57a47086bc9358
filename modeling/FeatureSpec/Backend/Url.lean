import FeatureSpec.Backend.Escape
/-!
Addresses below a base. A path segment is percent-encoded octet by octet, all but letters, digits
and four signs; so a segment never holds a slash.
-/
namespace FeatureSpec.Url

def encodeOctet (o : UInt8) : List Char :=
  let c := Char.ofNat o.toNat
  if Escape.isUnreserved c then [c] else Escape.octet o

def encodeSegment (s : String) : String :=
  String.ofList ((Octets.ofString s).flatMap encodeOctet)

def withoutSlashes (url : String) : String :=
  String.ofList ((url.toList.reverse.dropWhile (· == '/')).reverse)

/-- Segments below a base. A path that comes out empty adds nothing. -/
def below (base : String) (segments : List String) : String :=
  let path := "/".intercalate (segments.map encodeSegment)
  if path = "" then base else base ++ "/" ++ path

end FeatureSpec.Url
