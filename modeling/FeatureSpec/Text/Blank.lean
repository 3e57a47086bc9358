/-!
Blank characters and trimming. Two sets of blanks occur: the White_Space property of Unicode,
and that set together with the four information separators U+001C to U+001F.
-/
namespace FeatureSpec.Text

def isWhiteSpace (c : Char) : Bool :=
  let n := c.toNat
  (9 ≤ n && n ≤ 13) || n == 0x20 || n == 0x85 || n == 0xA0 || n == 0x1680 ||
    (0x2000 ≤ n && n ≤ 0x200A) || n == 0x2028 || n == 0x2029 || n == 0x202F || n == 0x205F ||
    n == 0x3000

/-- White space and the information separators: what trimming a text removes. -/
def isBlank (c : Char) : Bool :=
  isWhiteSpace c || (0x1C ≤ c.toNat && c.toNat ≤ 0x1F)

/-- White space of ASCII: what trimming octets removes. -/
def isAsciiBlank (n : UInt8) : Bool := (9 ≤ n && n ≤ 13) || n == 32

def trimBy {α : Type} (p : α → Bool) (xs : List α) : List α :=
  ((xs.dropWhile p).reverse.dropWhile p).reverse

def trimChars (cs : List Char) : List Char := trimBy isBlank cs

def trim (s : String) : String := String.ofList (trimChars s.toList)

def isBlankText (s : String) : Bool := s.toList.all isBlank

theorem trimBy_sublist {α : Type} (p : α → Bool) (xs : List α) : (trimBy p xs).Sublist xs := by
  have inner : (trimBy p xs).Sublist (xs.dropWhile p).reverse.reverse :=
    (List.dropWhile_sublist p).reverse
  rw [List.reverse_reverse] at inner
  exact inner.trans (List.dropWhile_sublist p)

end FeatureSpec.Text
