/-
**Documents.**

Tables and readings are exchanged as JSON documents.  A number in a document is either an integer
or a floating point number; an object keeps its members in the order in which they were given.  A
document is written in one of two ways: compactly, without any space, or on many lines, with two
spaces of indentation for every level and one element or member to a line.  In a string only the
quote, the backslash and the control characters below U+0020 are escaped.

Main definitions:

* `DeviceProperty.Document` — a document;
* `DeviceProperty.Document.kindText` — how a message names what a document is;
* `DeviceProperty.Document.compact`, `DeviceProperty.Document.pretty` — the two texts.
-/

import DeviceProperty.Number.Float
import DeviceProperty.Text

set_option relaxedAutoImplicit false
set_option autoImplicit false

namespace DeviceProperty

/-- A JSON document. -/
inductive Document where
  | null
  | boolean (value : Bool)
  | integer (value : Int)
  | float (value : Float)
  | string (value : String)
  | array (elements : List Document)
  | object (members : List (String × Document))

namespace Document

def ofNat (n : Nat) : Document := .integer n

/-- What a document is, in a message that finds it in the wrong place. -/
def kindText : Document → String
  | null => "null"
  | boolean value => "boolean `" ++ (if value then "true" else "false") ++ "`"
  | integer value => "integer `" ++ toString value ++ "`"
  | float value => "floating point `" ++ shortestText value ++ "`"
  | string value => "string " ++ quoted value
  | array _ => "sequence"
  | object _ => "map"

/-! ### Strings and numbers -/

/-- A character as it stands inside a string. -/
def escapeString (c : Char) : List Char :=
  if c = '"' then ['\\', '"']
  else if c = '\\' then ['\\', '\\']
  else if c = '\n' then ['\\', 'n']
  else if c = '\r' then ['\\', 'r']
  else if c = '\t' then ['\\', 't']
  else if c = '\x08' then ['\\', 'b']
  else if c = '\x0c' then ['\\', 'f']
  else if c.toNat < 0x20 then
    ['\\', 'u'] ++ List.leftpad 4 '0' (Nat.toDigits 16 c.toNat)
  else [c]

/-- A string with its quotes. -/
def stringText (value : String) : String :=
  String.ofList ('"' :: value.toList.flatMap escapeString ++ ['"'])

/-- The text of a document without elements or members, or of an empty one. -/
def leafText : Document → String
  | null => "null"
  | boolean value => if value then "true" else "false"
  | integer value => toString value
  | float value => shortestText value
  | string value => stringText value
  | array _ => "[]"
  | object _ => "\x7b\x7d"

/-! ### Without spaces -/

mutual

/-- A document without any space. -/
def compact : Document → String
  | array (first :: rest) => "[" ++ compact first ++ compactElements rest ++ "]"
  | object ((key, first) :: rest) =>
      "\x7b" ++ stringText key ++ ":" ++ compact first ++ compactMembers rest ++ "\x7d"
  | leaf => leaf.leafText

/-- The elements of an array after the first. -/
def compactElements : List Document → String
  | [] => ""
  | next :: rest => "," ++ compact next ++ compactElements rest

/-- The members of an object after the first. -/
def compactMembers : List (String × Document) → String
  | [] => ""
  | (key, next) :: rest => "," ++ stringText key ++ ":" ++ compact next ++ compactMembers rest

end

/-! ### On many lines -/

/-- The start of a new line at a depth. -/
def newLine (depth : Nat) : String := "\n" ++ String.ofList (List.replicate (2 * depth) ' ')

mutual

/-- A document that stands at a depth, on many lines. -/
def prettyAt (depth : Nat) : Document → String
  | array (first :: rest) =>
      "[" ++ newLine (depth + 1) ++ prettyAt (depth + 1) first ++
        prettyElements (depth + 1) rest ++ newLine depth ++ "]"
  | object ((key, first) :: rest) =>
      "\x7b" ++ newLine (depth + 1) ++ stringText key ++ ": " ++ prettyAt (depth + 1) first ++
        prettyMembers (depth + 1) rest ++ newLine depth ++ "\x7d"
  | leaf => leaf.leafText

/-- The elements of an array after the first, each on a line of its own. -/
def prettyElements (depth : Nat) : List Document → String
  | [] => ""
  | next :: rest => "," ++ newLine depth ++ prettyAt depth next ++ prettyElements depth rest

/-- The members of an object after the first, each on a line of its own. -/
def prettyMembers (depth : Nat) : List (String × Document) → String
  | [] => ""
  | (key, next) :: rest =>
      "," ++ newLine depth ++ stringText key ++ ": " ++ prettyAt depth next ++
        prettyMembers depth rest

end

def pretty (document : Document) : String := prettyAt 0 document

end Document

end DeviceProperty
