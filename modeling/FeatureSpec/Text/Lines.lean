/-!
Line breaks: a carriage return, a line feed, or the first right before the second.
-/
namespace FeatureSpec.Text

def normalizeLines : List Char → List Char
  | [] => []
  | '\r' :: '\n' :: rest => '\n' :: normalizeLines rest
  | '\r' :: rest => '\n' :: normalizeLines rest
  | c :: rest => c :: normalizeLines rest

end FeatureSpec.Text
