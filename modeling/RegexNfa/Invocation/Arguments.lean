import RegexNfa.Invocation.Piece
import RegexNfa.Invocation.Reserved

namespace RegexNfa.Invocation

structure Arguments where
  expression : String
  graph : Option String
  deriving DecidableEq

inductive ArgumentError where
  | unreadable
  | expectedLiteral
  | endBeforeLiteral
  | expectedName
  | endBeforeName
  | reserved (word : String)
  | expectedGraph
  | expectedEquals
  | leftover
  deriving DecidableEq

def ArgumentError.message : ArgumentError → String
  | .unreadable => "cannot parse string into token stream"
  | .expectedLiteral => "expected string literal"
  | .endBeforeLiteral => "unexpected end of input, expected string literal"
  | .expectedName => "expected identifier"
  | .endBeforeName => "unexpected end of input, expected identifier"
  | .reserved word => "expected identifier, found keyword `" ++ word ++ "`"
  | .expectedGraph => "expected `graph = \"path\"`"
  | .expectedEquals => "expected `=`"
  | .leftover => "unexpected token"

namespace Arguments

def readLiteral : List Piece → Except ArgumentError (String × List Piece)
  | .text content :: rest => .ok (content, rest)
  | [] => .error .endBeforeLiteral
  | _ :: _ => .error .expectedLiteral

def readGraph : List Piece → Except ArgumentError (String × List Piece)
  | .name content :: rest =>
    if isReserved content then .error (.reserved content)
    else if content = "graph" then
      if rest.head? = some (.mark '=') then readLiteral rest.tail else .error .expectedEquals
    else .error .expectedGraph
  | [] => .error .endBeforeName
  | _ :: _ => .error .expectedName

def ofPieces (pieces : List Piece) : Except ArgumentError Arguments := do
  let (expression, rest) ← readLiteral pieces
  let (graph, rest) ←
    if rest.head? = some (.mark ',') then
      let (path, rest) ← readGraph rest.tail
      pure (some path, rest)
    else pure (none, rest)
  if rest.isEmpty then pure ⟨expression, graph⟩ else .error .leftover

def parse (input : String) : Except ArgumentError Arguments :=
  match Piece.ofText? input with
  | some pieces => ofPieces pieces
  | none => .error .unreadable

end Arguments

end RegexNfa.Invocation
