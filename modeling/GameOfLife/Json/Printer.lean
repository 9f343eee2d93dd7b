import GameOfLife.Json.Basic

/-!
The text of a JSON value, laid out for readers: every element and member on a line of its own, two
spaces deeper than the value that holds it, and nothing between the brackets of an empty one.
-/

set_option autoImplicit false
set_option relaxedAutoImplicit false

namespace GameOfLife.Json

/-- A character inside a string: quotes and backslashes are escaped, and so are the characters below
the space, those that have one by their letter and the others by their number. -/
def escape (c : Char) : List Char :=
  if c = '"' then ['\\', '"']
  else if c = '\\' then ['\\', '\\']
  else if c = '\x08' then ['\\', 'b']
  else if c = '\t' then ['\\', 't']
  else if c = '\n' then ['\\', 'n']
  else if c = '\x0c' then ['\\', 'f']
  else if c = '\r' then ['\\', 'r']
  else if c < ' ' then
    ['\\', 'u', '0', '0', Nat.digitChar (c.toNat / 16), Nat.digitChar (c.toNat % 16)]
  else [c]

def quote (text : String) : List Char :=
  '"' :: text.toList.flatMap escape ++ ['"']

def newline (level : Nat) : List Char :=
  '\n' :: List.replicate (2 * level) ' '

namespace Value

mutual

def printAt (level : Nat) : Value → List Char
  | null => ['n', 'u', 'l', 'l']
  | bool true => ['t', 'r', 'u', 'e']
  | bool false => ['f', 'a', 'l', 's', 'e']
  | number value => Nat.toDigits 10 value
  | string text => quote text
  | array [] => ['[', ']']
  | array (element :: rest) =>
    '[' :: (newline (level + 1) ++ printAt (level + 1) element ++
      (printElements (level + 1) rest ++ newline level ++ [']']))
  | object [] => ['{', '}']
  | object ((key, value) :: rest) =>
    '{' :: (newline (level + 1) ++ quote key ++ ':' :: ' ' :: printAt (level + 1) value ++
      (printMembers (level + 1) rest ++ newline level ++ ['}']))

def printElements (level : Nat) : List Value → List Char
  | [] => []
  | element :: rest =>
    ',' :: (newline level ++ printAt level element ++ printElements level rest)

def printMembers (level : Nat) : List (String × Value) → List Char
  | [] => []
  | (key, value) :: rest =>
    ',' :: (newline level ++ quote key ++ ':' :: ' ' :: printAt level value ++
      printMembers level rest)

end

def print (value : Value) : String :=
  String.ofList (value.printAt 0)

end Value

end GameOfLife.Json
