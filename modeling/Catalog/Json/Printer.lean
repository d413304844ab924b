import Catalog.Json.Token

namespace Catalog.Json

def charText (c : Char) : List Char :=
  if c = '"' then ['\\', '"']
  else if c = '\\' then ['\\', '\\']
  else if c = '\x08' then ['\\', 'b']
  else if c = '\x0c' then ['\\', 'f']
  else if c = '\n' then ['\\', 'n']
  else if c = '\r' then ['\\', 'r']
  else if c = '\t' then ['\\', 't']
  else if c < ' ' then
    ['\\', 'u', '0', '0', Nat.digitChar (c.toNat / 16), Nat.digitChar (c.toNat % 16)]
  else [c]

/-- A string between its quotes. One without a text is written as half of a surrogate pair. -/
def stringText : Option String → List Char
  | some s => '"' :: s.toList.flatMap charText ++ ['"']
  | none => "\"\\ud800\"".toList

def Token.text : Token → List Char
  | .openArr => ['[']
  | .closeArr => [']']
  | .openObj => ['\x7b']
  | .closeObj => ['\x7d']
  | .comma => [',']
  | .colon => [':']
  | .null => "null".toList
  | .bool true => "true".toList
  | .bool false => "false".toList
  | .num n => n
  | .str s => stringText s

mutual

def tokens : Json → List Token
  | .null => [.null]
  | .bool b => [.bool b]
  | .num n => [.num n]
  | .str s => [.str s]
  | .arr [] => [.openArr, .closeArr]
  | .arr (v :: vs) => .openArr :: tokens v ++ itemTokens vs ++ [.closeArr]
  | .obj [] => [.openObj, .closeObj]
  | .obj ((k, v) :: ms) => .openObj :: .str k :: .colon :: tokens v ++ memberTokens ms ++ [.closeObj]

def itemTokens : List Json → List Token
  | [] => []
  | v :: vs => .comma :: tokens v ++ itemTokens vs

def memberTokens : List (Option String × Json) → List Token
  | [] => []
  | (k, v) :: ms => .comma :: .str k :: .colon :: tokens v ++ memberTokens ms

end

def compact (v : Json) : String :=
  .ofList (v.tokens.flatMap Token.text)

def newline (depth : Nat) : List Char :=
  '\n' :: List.replicate (2 * depth) ' '

mutual

/-- A document inside `depth` containers, with each item and member on a line of its own. -/
def indented (depth : Nat) : Json → List Char
  | .null => "null".toList
  | .bool true => "true".toList
  | .bool false => "false".toList
  | .num n => n
  | .str s => stringText s
  | .arr [] => "[]".toList
  | .arr (v :: vs) =>
    '[' :: newline (depth + 1) ++ indented (depth + 1) v ++ indentedItems (depth + 1) vs ++
      newline depth ++ [']']
  | .obj [] => ['\x7b', '\x7d']
  | .obj ((k, v) :: ms) =>
    '\x7b' :: newline (depth + 1) ++ stringText k ++ [':', ' '] ++ indented (depth + 1) v ++
      indentedMembers (depth + 1) ms ++ newline depth ++ ['\x7d']

def indentedItems (depth : Nat) : List Json → List Char
  | [] => []
  | v :: vs => ',' :: newline depth ++ indented depth v ++ indentedItems depth vs

def indentedMembers (depth : Nat) : List (Option String × Json) → List Char
  | [] => []
  | (k, v) :: ms =>
    ',' :: newline depth ++ stringText k ++ [':', ' '] ++ indented depth v ++
      indentedMembers depth ms

end

def pretty (v : Json) : String :=
  .ofList (indented 0 v)

end Catalog.Json
