import Pairwise.Json.Double
import Pairwise.Text.Utf8
/-!
# JSON values

The values that messages, documents and records are written as. An object keeps its members in the
order they were given: a typed record writes its fields in the order of its declaration, and
`Json.sorted` gives the form in which members are in the order of their names, the form in which
two values that differ only in that order are the same.

`Json.chars` is the compact text of a value, without blanks.
-/
namespace Pairwise

/-- A JSON value. Whole numbers from `-2^63` to `2^64 - 1` are kept as such, all others as
doubles. -/
inductive Json where
  | null
  | bool (b : Bool)
  | int (n : Int)
  | real (x : Double)
  | str (s : String)
  | arr (items : List Json)
  | obj (members : List (String × Json))
  deriving Repr, BEq, Inhabited

namespace Json

/-! ## Members -/

/-- Puts a member into a list that is sorted by name, in place of one of the same name. -/
def putMember {α : Type} (name : String) (value : α) : List (String × α) → List (String × α)
  | [] => [(name, value)]
  | (n, v) :: rest =>
    if name < n then (name, value) :: (n, v) :: rest
    else if name = n then (name, value) :: rest
    else (n, v) :: putMember name value rest

/-- The members in the order of their names; of several with one name the last stays. -/
def sortMembers {α : Type} (members : List (String × α)) : List (String × α) :=
  members.foldl (fun sorted m => putMember m.1 m.2 sorted) []

mutual

/-- The same value with the members of every object in the order of their names. -/
def sorted : Json → Json
  | .arr items => .arr (sortedItems items)
  | .obj members => .obj (sortMembers (sortedMembers members))
  | v => v
termination_by structural v => v

/-- `sorted` on the items of an array. -/
def sortedItems : List Json → List Json
  | [] => []
  | v :: rest => v.sorted :: sortedItems rest
termination_by structural items => items

/-- `sorted` on the values of members. -/
def sortedMembers : List (String × Json) → List (String × Json)
  | [] => []
  | (name, v) :: rest => (name, v.sorted) :: sortedMembers rest
termination_by structural members => members

end

/-- The value of a member. -/
def get? (name : String) : Json → Option Json
  | .obj members => members.lookup name
  | _ => none

/-- The text of a string value. -/
def str? : Json → Option String
  | .str s => some s
  | _ => none

/-- Adds a member unless there is nothing to write. -/
def optional (name : String) (value : Option Json) : List (String × Json) :=
  match value with
  | some v => [(name, v)]
  | none => []

/-- Adds a member that holds a list unless the list is empty. -/
def unlessEmpty (name : String) (items : List Json) : List (String × Json) :=
  if items.isEmpty then [] else [(name, .arr items)]

/-- An absent value is written as `null`. -/
def ofOption {α : Type} (write : α → Json) : Option α → Json
  | some a => write a
  | none => .null

/-- A list of strings. -/
def strings (items : List String) : Json := .arr (items.map .str)

/-! ## Compact text -/

/-- A character inside a string: the quote, the backslash and the control characters are
escaped. -/
def escapeChar (c : Char) : List Char :=
  if c = '"' then ['\\', '"']
  else if c = '\\' then ['\\', '\\']
  else if c.toNat = 8 then ['\\', 'b']
  else if c.toNat = 9 then ['\\', 't']
  else if c.toNat = 10 then ['\\', 'n']
  else if c.toNat = 12 then ['\\', 'f']
  else if c.toNat = 13 then ['\\', 'r']
  else if c.toNat < 32 then
    ['\\', 'u', '0', '0', Bytes.hexDigit (c.toNat / 16), Bytes.hexDigit (c.toNat % 16)]
  else [c]

/-- A string in quotes. -/
def quoted (s : String) : List Char := '"' :: (s.toList.flatMap escapeChar ++ ['"'])

/-- The decimal digits of a whole number. -/
def intChars (n : Int) : List Char :=
  if n < 0 then '-' :: Nat.toDigits 10 n.natAbs else Nat.toDigits 10 n.natAbs

mutual

/-- The compact text of a value. -/
def chars : Json → List Char
  | .null => ['n', 'u', 'l', 'l']
  | .bool true => ['t', 'r', 'u', 'e']
  | .bool false => ['f', 'a', 'l', 's', 'e']
  | .int n => intChars n
  | .real x => x.text
  | .str s => quoted s
  | .arr [] => ['[', ']']
  | .arr (v :: rest) => '[' :: (v.chars ++ itemsChars rest)
  | .obj [] => ['{', '}']
  | .obj ((name, v) :: rest) => '{' :: (quoted name ++ ':' :: (v.chars ++ membersChars rest))
termination_by structural v => v

/-- The text after the first item of an array. -/
def itemsChars : List Json → List Char
  | [] => [']']
  | v :: rest => ',' :: (v.chars ++ itemsChars rest)
termination_by structural items => items

/-- The text after the first member of an object. -/
def membersChars : List (String × Json) → List Char
  | [] => ['}']
  | (name, v) :: rest => ',' :: (quoted name ++ ':' :: (v.chars ++ membersChars rest))
termination_by structural members => members

end

/-- The compact text of a value as a string. -/
def text (v : Json) : String := String.ofList v.chars

/-- The compact text of a value as bytes. -/
def bytes (v : Json) : Bytes := Utf8.encode v.chars

/-- The text that is hashed and signed: compact, members in the order of their names. -/
def canonicalText (v : Json) : String := v.sorted.text

/-- The bytes of the canonical text. -/
def canonicalBytes (v : Json) : Bytes := v.sorted.bytes

end Json

end Pairwise
