import AnswerStream.Json.Value

/-!
Writing values: `compact` without any space, `pretty` with one member or item a line, two blanks of
indentation a level. Members are written in the order in which the value holds them.
-/

namespace AnswerStream.Json

/-- What stands for a character inside a string: quote, backslash and control characters are
escaped. -/
def escape (c : Char) : List Char :=
  match c with
  | '"' => ['\\', '"']
  | '\\' => ['\\', '\\']
  | '\x08' => ['\\', 'b']
  | '\x0C' => ['\\', 'f']
  | '\n' => ['\\', 'n']
  | '\r' => ['\\', 'r']
  | '\t' => ['\\', 't']
  | c =>
    if c.toNat < 0x20 then
      ['\\', 'u', '0', '0', Text.hexDigit (c.toNat / 16), Text.hexDigit (c.toNat % 16)]
    else [c]

def quoted (s : String) : List Char := '"' :: s.toList.flatMap escape ++ ['"']

namespace Value

/-- Joins the parts with a separator between them. -/
def separated (sep : List Char) : List (List Char) → List Char
  | [] => []
  | [part] => part
  | part :: rest => part ++ sep ++ separated sep rest

mutual

def compactChars : Value → List Char
  | .null => "null".toList
  | .bool b => (if b then "true" else "false").toList
  | .number n => n.render
  | .text s => quoted s
  | .array items => '[' :: separated [','] (compactItems items) ++ [']']
  | .object members => '{' :: separated [','] (compactMembers members) ++ ['}']

def compactItems : List Value → List (List Char)
  | [] => []
  | v :: rest => compactChars v :: compactItems rest

def compactMembers : List (String × Value) → List (List Char)
  | [] => []
  | (key, v) :: rest => (quoted key ++ ':' :: compactChars v) :: compactMembers rest

end

def compact (v : Value) : String := String.ofList v.compactChars

/-- A line break and the indentation of a level. -/
def lineBreak (level : Nat) : List Char := '\n' :: List.replicate (2 * level) ' '

/-- Brackets around parts that stand on lines of their own. -/
def bracketed (level : Nat) (left right : Char) (parts : List (List Char)) : List Char :=
  if parts.isEmpty then [left, right]
  else
    left :: lineBreak (level + 1) ++ separated (',' :: lineBreak (level + 1)) parts ++
      lineBreak level ++ [right]

mutual

def prettyChars (level : Nat) : Value → List Char
  | .null => "null".toList
  | .bool b => (if b then "true" else "false").toList
  | .number n => n.render
  | .text s => quoted s
  | .array items => bracketed level '[' ']' (prettyItems (level + 1) items)
  | .object members => bracketed level '{' '}' (prettyMembers (level + 1) members)

def prettyItems (level : Nat) : List Value → List (List Char)
  | [] => []
  | v :: rest => prettyChars level v :: prettyItems level rest

def prettyMembers (level : Nat) : List (String × Value) → List (List Char)
  | [] => []
  | (key, v) :: rest =>
    (quoted key ++ ": ".toList ++ prettyChars level v) :: prettyMembers level rest

end

def pretty (v : Value) : String := String.ofList (v.prettyChars 0)

end Value
end AnswerStream.Json
