import Pairwise.Json.Source
/-!
# Typed readers

A reader takes a `Source` to a typed value or the fault that stands first in it. Records are
described field by field: `Record.field`, `Record.optional` and `Record.withDefault` say how the
members of one name are read and what stands for an absent one, and `<*>` puts fields together in
the order of their declaration. A record is read from an object, whose unknown members are passed
over and whose known ones may stand once, or from a list of its fields in order.

`Reader.ofText`, `Reader.ofBytes` and `Reader.ofJson` apply a reader to a text and to a value that
is already there.
-/
namespace Pairwise

namespace Json

/-- Reads a typed value. -/
abbrev Reader (α : Type) := Source → Except Fault α

namespace Reader

variable {α β : Type}

/-- Reads any value. -/
def json : Reader Json := Source.json

def string : Reader String
  | .str s => .ok s
  | s => .error s.mismatch

def bool : Reader Bool
  | .bool b => .ok b
  | s => .error s.mismatch

/-- A whole number from zero to a limit. -/
def natUpTo (limit : Nat) : Reader Nat
  | .int n => if 0 ≤ n ∧ n ≤ limit then .ok n.toNat else .error .mismatched
  | s => .error s.mismatch

/-- A whole number of 64 bits. -/
def word : Reader UInt64 := fun s => UInt64.ofNat <$> natUpTo (UInt64.size - 1) s

/-- `null` stands for an absent value. -/
def nullable (read : Reader α) : Reader (Option α)
  | .null => .ok none
  | s => return some (← read s)

/-- Reads a value and refuses it when it means nothing. -/
def refine (read : Reader α) (make : α → Option β) : Reader β := fun s => do
  match make (← read s) with
  | some b => return b
  | none => .error .mismatched

/-- The items of a list in order. -/
def items (read : Reader α) : List Source → Except Fault (List α)
  | [] => .ok []
  | v :: rest => do
    let a ← read v
    let rest ← items read rest
    return a :: rest

/-- A list of values of one type. -/
def list (read : Reader α) : Reader (List α)
  | .arr vs stop => do
    let as ← items read vs
    match stop with
    | some b => .error b.reading
    | none => return as
  | s => .error s.mismatch

/-- The members of an object in the order of the text. -/
def members (read : Reader α) :
    List (Except Fault String × Source) → Except Fault (List (String × α))
  | [] => .ok []
  | (name, v) :: rest => do
    let name ← name
    let a ← read v
    let rest ← members read rest
    return (name, a) :: rest

/-- An object as a table, sorted by name; of several members with one name the last stays. -/
def table (read : Reader α) : Reader (List (String × α))
  | .obj ms stop => do
    let ms ← members read ms
    match stop with
    | some b => .error b.reading
    | none => return sortMembers ms
  | s => .error s.mismatch

/-- A choice among names: a string, or an object with the name as its only member, of value
`null`. -/
def choice (pick : String → Option α) : Reader α
  | .str s => match pick s with
    | some a => .ok a
    | none => .error .mismatched
  | .obj [] stop => .error ((stop.map (·.choosing)).getD .malformed)
  | .obj ((name, v) :: rest) stop => do
    match pick (← name) with
    | none => .error .mismatched
    | some a =>
      match v, rest, stop with
      | .null, [], none => return a
      | .null, [], some b => .error b.choosing
      | .null, _, _ => .error .malformed
      | v, _, _ => .error v.mismatch
  | .broken b => .error b.choosing
  | _ => .error .malformed

/-- The first of two readers that accepts. The value must be sound JSON whatever it is, and it is a
mismatch when neither accepts. -/
def orElse (first second : Reader α) : Reader α := fun s => do
  let _ ← s.json
  match first s with
  | .ok a => return a
  | .error _ =>
    match second s with
    | .ok a => return a
    | .error _ => .error .mismatched

end Reader

/-! ## Records -/

/-- Where the fields of a record come from: the values by name, and whether they were given as a
list. -/
structure Given where
  find? : String → Option Source
  listed : Bool

/-- The names of a field, the first of which it is written under, and the fault of a value for it,
if there is one. -/
structure Field where
  names : List String
  fault? : Source → Option Fault

/-- How a record is read: its fields in order, and the record made from the values given. -/
structure Record (α : Type) where
  fields : List Field
  build : Given → Except Fault α

namespace Record

variable {α β : Type}

/-- A record without fields. -/
protected def pure (a : α) : Record α := ⟨[], fun _ => .ok a⟩

/-- Fields put together in order. -/
protected def seq (f : Record (α → β)) (x : Record α) : Record β :=
  ⟨f.fields ++ x.fields, fun given => do
    let f ← f.build given
    let a ← x.build given
    return f a⟩

instance : Applicative Record where
  pure := Record.pure
  seq f x := Record.seq f (x ())

/-- The fault of a reader, if there is one. -/
def faultOf (read : Reader α) (s : Source) : Option Fault :=
  match read s with
  | .ok _ => none
  | .error f => some f

/-- The value given under one of the names. -/
def Given.findAny? (given : Given) (names : List String) : Option Source :=
  names.findSome? given.find?

/-- A field with a value for its absence from an object and one for its absence from a list. -/
def general (names : List String) (read : Reader α) (absent unlisted : Option α) : Record α :=
  ⟨[⟨names, faultOf read⟩], fun given =>
    match Given.findAny? given names with
    | some s => read s
    | none =>
      match if given.listed then unlisted else absent with
      | some a => .ok a
      | none => .error .mismatched⟩

/-- A field that must be there. -/
def field (name : String) (read : Reader α) : Record α := general [name] read none none

/-- A field that must be there, under one of two names. -/
def fieldAlso (name other : String) (read : Reader α) : Record α :=
  general [name, other] read none none

/-- A field whose absence and `null` both mean that there is no value; a list must have it. -/
def optional (name : String) (read : Reader α) : Record (Option α) :=
  general [name] (Reader.nullable read) (some none) none

/-- A field with a default, which must not be `null`. -/
def withDefault (name : String) (read : Reader α) (default : α) : Record α :=
  general [name] read (some default) (some default)

/-- A field that may be absent from objects and lists, or `null`. -/
def nullable (name : String) (read : Reader α) : Record (Option α) :=
  withDefault name (Reader.nullable read) none

/-- The field of a name. -/
def field? (r : Record α) (name : String) : Option Field :=
  r.fields.find? fun f => f.names.contains name

/-- The first fault among the members of an object: a bad name, a field given twice, a bad value of
a field, or a break in a member that is passed over. -/
def memberFault? (r : Record α) (seen : List String) :
    List (Except Fault String × Source) → Option Fault
  | [] => none
  | (.error f, _) :: _ => some f
  | (.ok name, v) :: rest =>
    match r.field? name with
    | none => v.skip?.or (memberFault? r seen rest)
    | some field =>
      if field.names.any seen.contains then some .mismatched
      else (field.fault? v).or (memberFault? r (name :: seen) rest)

/-- Whether the members can be taken as they stand, their values apart. -/
def membersStand (r : Record α) (seen : List String) :
    List (Except Fault String × Source) → Bool
  | [] => true
  | (.error _, _) :: _ => false
  | (.ok name, v) :: rest =>
    match r.field? name with
    | none => v.skip?.isNone && membersStand r seen rest
    | some field => !field.names.any seen.contains && membersStand r (name :: seen) rest

/-- The first fault among the items of a list, one for every field in order. -/
def itemFault? : List Field → List Source → Option Fault
  | f :: fields, v :: rest => (f.fault? v).or (itemFault? fields rest)
  | [], _ :: _ => some .malformed
  | _, [] => none

/-- The value of a member. -/
def lookup? (name : String) : List (Except Fault String × Source) → Option Source
  | [] => none
  | (.ok n, v) :: rest => if n = name then some v else lookup? name rest
  | _ :: rest => lookup? name rest

/-- The fields of a record by the items of a list. -/
def zipItems : List Field → List Source → List (String × Source)
  | f :: fields, v :: rest => (f.names.headD "", v) :: zipItems fields rest
  | _, _ => []

/-- Reads a record. Where it cannot be read, the fault that stands first is given. -/
def read (r : Record α) : Reader α
  | .obj members stop =>
    let built := r.build ⟨fun name => lookup? name members, false⟩
    match built, r.membersStand [] members, stop with
    | .ok a, true, none => .ok a
    | _, _, _ =>
      let late := match built with
        | .ok _ => .malformed
        | .error f => f
      .error (((r.memberFault? [] members).or (stop.map (·.reading))).getD late)
  | .arr items stop =>
    let given := zipItems r.fields items
    let built := r.build ⟨fun name => given.lookup name, true⟩
    match built, decide (items.length ≤ r.fields.length), stop with
    | .ok a, true, none => .ok a
    | _, _, _ =>
      let late := match built with
        | .ok _ => .malformed
        | .error f => f
      .error (((itemFault? r.fields items).or (stop.map (·.reading))).getD late)
  | s => .error s.mismatch

end Record

namespace Reader

variable {α : Type}

/-- Reads a whole text given as units. -/
def ofUnits (read : Reader α) (units : Source.Units) : Except Fault α := do
  let (source, trailing) := Source.read units
  let a ← read source
  if trailing then .error .malformed else return a

/-- Reads a whole text given as bytes. -/
def ofBytes (read : Reader α) (bytes : Bytes) : Except Fault α := ofUnits read (Utf8.units bytes)

/-- Reads a whole text. -/
def ofText (read : Reader α) (text : String) : Except Fault α :=
  ofUnits read (text.toList.map some)

/-- Reads a value that is already there; all that can be wrong with it is its form. -/
def ofJson (read : Reader α) (v : Json) : Except Fault α :=
  match read (Source.ofJson v) with
  | .ok a => .ok a
  | .error _ => .error .mismatched

end Reader

/-- Reads the text of any value. -/
def ofText (text : String) : Except Fault Json := Reader.ofText Reader.json text

/-- Reads the text of any value, given as bytes. -/
def ofBytes (bytes : Bytes) : Except Fault Json := Reader.ofBytes Reader.json bytes

end Json

end Pairwise
