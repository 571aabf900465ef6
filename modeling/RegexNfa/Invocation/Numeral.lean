import RegexNfa.Text.NamePart

namespace RegexNfa.Invocation

def announcedBase : List Char → Nat × List Char
  | '0' :: 'x' :: rest => (16, rest)
  | '0' :: 'o' :: rest => (8, rest)
  | '0' :: 'b' :: rest => (2, rest)
  | cs => (10, cs)

def isHexLetter (c : Char) : Bool := 'a' ≤ c && c ≤ 'f' || 'A' ≤ c && c ≤ 'F'

def isFigure (base : Nat) (c : Char) : Bool :=
  c.isDigit || c == '_' || base == 16 && isHexLetter c

def exceeds (base : Nat) (c : Char) : Bool := c.isDigit && '0'.toNat + base ≤ c.toNat

def isNumeral (cs : List Char) : Bool :=
  let (base, rest) := announcedBase cs
  let figures := rest.takeWhile (isFigure base)
  figures.any (· ≠ '_') && !figures.any (exceeds base) &&
    (rest.dropWhile (isFigure base)).head?.all Text.startsName

end RegexNfa.Invocation
