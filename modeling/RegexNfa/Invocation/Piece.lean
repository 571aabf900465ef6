import RegexNfa.Invocation.Numeral
import RegexNfa.Text.Blank

namespace RegexNfa.Invocation

inductive Piece where
  | text (content : String)
  | constant
  | name (content : String)
  | mark (c : Char)
  deriving DecidableEq

inductive Quotation where
  | plain
  | raw
  | bytes
  | terminated
  deriving DecidableEq

namespace Quotation

def ofLetters? (letters : List Char) : Option Quotation :=
  if letters = ['r'] then some .raw
  else if letters = ['b'] ∨ letters = ['b', 'r'] then some .bytes
  else if letters = ['c'] ∨ letters = ['c', 'r'] then some .terminated
  else none

def admits : Quotation → Char → Bool
  | .plain, c => c ≠ '\\'
  | .raw, _ => true
  | .bytes, c => c.toNat < 0x80
  | .terminated, c => c ≠ '\x00'

def joinLineEnds? : List Char → Option (List Char)
  | [] => some []
  | c :: rest =>
    if c = '\r' then if rest.head? = some '\n' then joinLineEnds? rest else none
    else (joinLineEnds? rest).map (c :: ·)

def read? (q : Quotation) (content : List Char) : Option Piece :=
  if content.all q.admits then
    (joinLineEnds? content).map fun joined =>
      match q with
      | .plain => .text (String.ofList joined)
      | .raw => .text (String.ofList content)
      | .bytes | .terminated => .constant
  else none

end Quotation

namespace Piece

/-- White space of program text, which includes the two marks of writing direction. -/
def isSpace (c : Char) : Bool := Text.isBlank c || c == '\u200e' || c == '\u200f'

def marks : List Char := "~!@#$%^&*-=+|;:,<.>/?".toList

def isQuote (c : Char) : Bool := c == '"'

/-- What follows a closing quote: a name that touches it is a mere suffix. -/
def afterQuote (cs : List Char) : List Char :=
  if cs.head?.any Text.startsName then cs.dropWhile Text.continuesName else cs

def quoted? (q : Quotation) (cs : List Char) : Option (Piece × List Char) :=
  match cs.dropWhile (!isQuote ·) with
  | [] => none
  | _ :: after => (q.read? (cs.takeWhile (!isQuote ·))).map (·, afterQuote after)

def named? (letters after : List Char) : Option (Piece × List Char) :=
  match Quotation.ofLetters? letters, after.head?.any isQuote with
  | some q, true => quoted? q after.tail
  | _, _ => some (.name (String.ofList letters), after)

def next? (c : Char) (rest : List Char) : Option (Piece × List Char) :=
  if isQuote c then quoted? .plain rest
  else if Text.startsName c then
    named? (c :: rest.takeWhile Text.continuesName) (rest.dropWhile Text.continuesName)
  else if c.isDigit then
    if isNumeral (c :: rest.takeWhile Text.continuesName) then
      some (.constant, rest.dropWhile Text.continuesName)
    else none
  else if c ∈ marks then some (.mark c, rest)
  else none

theorem length_dropWhile_le (p : Char → Bool) (cs : List Char) :
    (cs.dropWhile p).length ≤ cs.length :=
  (List.dropWhile_sublist p).length_le

theorem length_afterQuote_le (cs : List Char) : (afterQuote cs).length ≤ cs.length := by
  unfold afterQuote
  split
  · exact length_dropWhile_le _ cs
  · exact Nat.le_refl _

theorem length_quoted?_le {q : Quotation} {cs after : List Char} {piece : Piece}
    (h : quoted? q cs = some (piece, after)) : after.length ≤ cs.length := by
  have hd := length_dropWhile_le (!isQuote ·) cs
  unfold quoted? at h
  split at h
  · cases h
  · next _ rest hr =>
    obtain ⟨_, _, he⟩ := Option.map_eq_some_iff.1 h
    have ha := length_afterQuote_le rest
    simp only [Prod.mk.injEq] at he
    rw [hr, List.length_cons] at hd
    rw [← he.2]
    omega

theorem length_named?_le {letters cs after : List Char} {piece : Piece}
    (h : named? letters cs = some (piece, after)) : after.length ≤ cs.length := by
  unfold named? at h
  split at h
  · have hq := length_quoted?_le h
    rw [List.length_tail] at hq
    omega
  · cases h
    exact Nat.le_refl _

theorem length_next?_le {c : Char} {rest after : List Char} {piece : Piece}
    (h : next? c rest = some (piece, after)) : after.length ≤ rest.length := by
  have hd := length_dropWhile_le Text.continuesName rest
  unfold next? at h
  split at h
  · exact length_quoted?_le h
  · split at h
    · exact Nat.le_trans (length_named?_le h) hd
    · split at h
      · split at h
        · cases h
          exact hd
        · cases h
      · split at h
        · cases h
          exact Nat.le_refl _
        · cases h

def ofChars? : List Char → Option (List Piece)
  | [] => some []
  | c :: rest =>
    if isSpace c then ofChars? rest
    else
      match _h : next? c rest with
      | none => none
      | some (piece, after) => (ofChars? after).map (piece :: ·)
  termination_by cs => cs.length
  decreasing_by
    · simp
    · have := length_next?_le _h
      simp only [List.length_cons]
      omega

def ofText? (text : String) : Option (List Piece) :=
  match text.toList with
  | '\ufeff' :: rest => ofChars? rest
  | cs => ofChars? cs

end Piece

end RegexNfa.Invocation
