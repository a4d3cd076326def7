import Pairwise.Json.Reader
import Pairwise.Text.Quoted
/-!
# Tags and queries

Stored records carry tags, and a query asks for records by the values of tags. A list matches when
it holds every value asked for.
-/
namespace Pairwise

/-- The value of a tag. -/
inductive TagValue where
  | str (s : String)
  | bool (b : Bool)
  | list (items : List String)
  deriving DecidableEq, Repr

namespace TagValue

/-- Whether a stored value answers to the value asked for. -/
def answers : (stored wanted : TagValue) → Bool
  | list items, list wanted => wanted.all items.contains
  | list items, str wanted => items.contains wanted
  | stored, wanted => stored = wanted

def reader : Json.Reader TagValue :=
  .orElse (fun s => str <$> Json.Reader.string s)
    (.orElse (fun s => bool <$> Json.Reader.bool s)
      (fun s => list <$> Json.Reader.list Json.Reader.string s))

def toJson : TagValue → Json
  | str s => .str s
  | bool b => .bool b
  | list items => Json.strings items

/-- The value as it is shown in messages. -/
def label : TagValue → String
  | str s => "String(" ++ Text.quote s ++ ")"
  | bool true => "Bool(true)"
  | bool false => "Bool(false)"
  | list items => "Array(" ++ Text.bracketed (items.map Text.quote) ++ ")"

end TagValue

/-- Tags by name, sorted. -/
abbrev Tags := List (String × TagValue)

namespace Tags

/-- Sets a tag, in place of one of the same name. -/
def set (tags : Tags) (name : String) (value : TagValue) : Tags := Json.putMember name value tags

/-- Sets a tag if there is a value. -/
def setSome (tags : Tags) (name : String) : Option String → Tags
  | some s => tags.set name (.str s)
  | none => tags

def reader : Json.Reader Tags := Json.Reader.table TagValue.reader

def toJson (tags : Tags) : Json := .obj (tags.map fun (name, v) => (name, v.toJson))

end Tags

/-- Conditions on tags, all of which must hold. -/
structure Query where
  conditions : List (String × TagValue)
  deriving DecidableEq, Repr

namespace Query

/-- One condition on a string. -/
def on (name value : String) : Query := ⟨[(name, .str value)]⟩

/-- One more condition on a string. -/
def and (q : Query) (name value : String) : Query := ⟨q.conditions ++ [(name, .str value)]⟩

/-- Whether tags satisfy all conditions. -/
def accepts (q : Query) (tags : Tags) : Bool :=
  q.conditions.all fun (name, wanted) =>
    match tags.lookup name with
    | some stored => stored.answers wanted
    | none => false

/-- The query as it is shown in messages. -/
def label (q : Query) : String :=
  let show_ (c : String × TagValue) := "(" ++ Text.quote c.1 ++ ", " ++ c.2.label ++ ")"
  "Query \x7b conditions: " ++ Text.bracketed (q.conditions.map show_) ++ " \x7d"

end Query

end Pairwise
