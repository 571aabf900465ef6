namespace RegexNfa.Text

def unlines (lines : List String) : String := String.join (lines.map (· ++ "\n"))

theorem unlines_singleton (line : String) : unlines [line] = line ++ "\n" := by
  simp [unlines]

inductive Line where
  | text (content : String)
  | undecodable
  deriving DecidableEq

namespace Line

def lineFeed : UInt8 := 10

def carriageReturn : UInt8 := 13

def decode? (bytes : List UInt8) : Option String := String.fromUTF8? (ByteArray.mk bytes.toArray)

def ofBytes (bytes : List UInt8) : Line :=
  match decode? bytes with
  | some content => .text content
  | none => .undecodable

def dropReturn (bytes : List UInt8) : List UInt8 :=
  if bytes.getLast? = some carriageReturn then bytes.dropLast else bytes

def ofTerminated (bytes : List UInt8) : Line := ofBytes (dropReturn bytes)

/-- The lines of a byte sequence, `pending` having been read since the last line feed. -/
def split (pending : List UInt8) : List UInt8 → List Line
  | [] => if pending.isEmpty then [] else [ofBytes pending.reverse]
  | b :: rest =>
    if b = lineFeed then ofTerminated pending.reverse :: split [] rest
    else split (b :: pending) rest

def ofInput (bytes : List UInt8) : List Line := split [] bytes

end Line

end RegexNfa.Text
