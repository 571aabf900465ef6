import RegexNfa.Text.Hidden

namespace RegexNfa.Text

def escapeLetter? (c : Char) : Option Char :=
  if c = '\n' then some 'n'
  else if c = '\r' then some 'r'
  else if c = '\t' then some 't'
  else if c = '\x00' then some '0'
  else none

def ofEscapeLetter? (e : Char) : Option Char :=
  if e = 'n' then some '\n'
  else if e = 'r' then some '\r'
  else if e = 't' then some '\t'
  else if e = '0' then some '\x00'
  else none

def escape (quote c : Char) : List Char :=
  if c = quote ∨ c = '\\' then ['\\', c]
  else
    match escapeLetter? c with
    | some e => ['\\', e]
    | none =>
      if isHidden c then ['\\', 'u', '\x7b'] ++ Nat.toDigits 16 c.toNat ++ ['\x7d'] else [c]

def quoted (text : String) : String :=
  String.ofList ('"' :: text.toList.flatMap (escape '"') ++ ['"'])

def apostrophe : Char := '\x27'

def quotedChar (c : Char) : List Char := apostrophe :: escape apostrophe c ++ [apostrophe]

def hexDigit? (c : Char) : Option Nat :=
  if c.isDigit then some (c.toNat - '0'.toNat)
  else if 'a' ≤ c ∧ c ≤ 'f' then some (c.toNat - 'a'.toNat + 10)
  else if 'A' ≤ c ∧ c ≤ 'F' then some (c.toNat - 'A'.toNat + 10)
  else none

def readHex? (digits : List Char) : Option Nat :=
  digits.foldlM (fun n c => (hexDigit? c).map (16 * n + ·)) 0

def ofCodePoint? (digits : List Char) : Option Char :=
  if digits ≠ [] ∧ digits.length ≤ 6 then
    (readHex? digits).bind fun n => if n.isValidChar then some (Char.ofNat n) else none
  else none

def unescape? : List Char → Option Char
  | [] => none
  | [c] => if c ∈ [apostrophe, '\\', '\n', '\r', '\t'] then none else some c
  | [s, e] =>
    if s = '\\' then if e ∈ [apostrophe, '"', '\\'] then some e else ofEscapeLetter? e else none
  | s :: u :: b :: rest =>
    if s = '\\' ∧ u = 'u' ∧ b = '\x7b' ∧ rest.getLast? = some '\x7d' then ofCodePoint? rest.dropLast
    else none

def readQuotedChar? (cs : List Char) : Option Char :=
  if cs.head? = some apostrophe ∧ cs.getLast? = some apostrophe then unescape? cs.tail.dropLast
  else none

end RegexNfa.Text
