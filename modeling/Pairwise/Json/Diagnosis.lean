import Pairwise.Json.Source
import Pairwise.Text.Quoted
import Pairwise.Text.Utf8
/-!
# What is wrong with a text, in words

A reader says of which kind the fault of a text is. Where a counterparty is told about the text, the
fault is put into words, with the line and the column where it was found. `Form.diagnose` looks at
the text once more for that, byte by byte, with the `Form` that was expected of it.

A complaint about what a text holds, such as a missing member, has no place of its own: it gets the
place that is reached when the value around it is closed (`Look.placed`, `Look.andClose`).
-/
namespace Pairwise

namespace Json

/-- What is expected of a value. -/
inductive Form where
  | text
  /-- A text, or `null`. In an object it may be absent. -/
  | optionalText
  /-- An object of some members, or the list of their values in order. -/
  | record (title : String) (fields : List (String × Form))

/-- A place in a text: its line, and the bytes before it on that line. -/
structure Place where
  line : Nat
  column : Nat

/-- The place after one more byte. -/
def Place.after (p : Place) (b : UInt8) : Place :=
  if b = 10 then ⟨p.line + 1, 0⟩ else ⟨p.line, p.column + 1⟩

/-- What is wrong, and where. -/
structure Complaint where
  what : String
  place : Option Place

/-- The wording of a complaint. -/
def Complaint.message (c : Complaint) : String :=
  match c.place with
  | some p => s!"{c.what} at line {p.line} column {p.column}"
  | none => c.what

/-- What is left of a text, and where that begins. -/
structure Cursor where
  rest : Bytes
  place : Place

/-- A look at a text: it goes on in the text, and may end in a complaint. -/
abbrev Look := ExceptT Complaint (StateM Cursor)

namespace Look

/-! ## Steps -/

/-- The next byte, as the character of its number. -/
def peek : Look (Option Char) := do
  return (← get).rest.head?.map fun b => Char.ofNat b.toNat

/-- Passes over one byte. -/
def eat : Look Unit := modify fun c =>
  match c.rest with
  | [] => c
  | b :: rest => ⟨rest, c.place.after b⟩

/-- The next byte, which is passed over. -/
def next : Look (Option Char) := do
  let c ← peek
  eat
  return c

/-- Complains about what has been passed over. -/
def refuse {α : Type} (what : String) : Look α := do
  throw ⟨what, some (← get).place⟩

/-- Complains about the next byte. -/
def refuseNext {α : Type} (what : String) : Look α := do
  let c ← get
  throw ⟨what, some (c.rest.head?.elim c.place c.place.after)⟩

/-- Complains about what the text holds. -/
def complain {α : Type} (what : String) : Look α := throw ⟨what, none⟩

/-- Gives a complaint without a place the place that is reached. -/
def placed {α : Type} (x : Look α) : Look α := fun c =>
  match x c with
  | (.error ⟨what, none⟩, c) => (.error ⟨what, some c.place⟩, c)
  | result => result

/-- Closes a value after what is in it has been looked at, also when there is a complaint about
that. The first of two complaints counts. -/
def andClose (x close : Look Unit) : Look Unit := fun c =>
  match x c with
  | (.ok _, c) => close c
  | (.error e, c) => (.error e, (close c).2)

/-- Passes over some bytes. -/
def pass (n : Nat) : Look Unit := modify fun c =>
  ⟨c.rest.drop n, (c.rest.take n).foldl Place.after c.place⟩

/-- Passes over the bytes at the front that are of a kind, and counts them. -/
def skipWhile (isKind : Char → Bool) : Look Nat := do
  let n := ((← get).rest.takeWhile fun b => isKind (Char.ofNat b.toNat)).length
  pass n
  return n

/-- The bytes that a look has passed over. -/
def passedBy (x : Look Unit) : Look Bytes := do
  let start := (← get).rest
  x
  return start.take (start.length - (← get).rest.length)

/-- The next byte after blanks. -/
def token : Look (Option Char) := do
  let _ ← skipWhile Source.isBlank
  peek

/-! ## Words, numbers and strings -/

def valueEnds : String := "EOF while parsing a value"

def stringEnds : String := "EOF while parsing a string"

def objectEnds : String := "EOF while parsing an object"

def listEnds : String := "EOF while parsing a list"

def badNumber : String := "invalid number"

def outOfRange : String := "number out of range"

/-- The rest of a word whose first letter is passed over. -/
def word : List Char → Look Unit
  | [] => return
  | c :: letters => do
    match ← next with
    | none => refuse valueEnds
    | some d => if d = c then word letters else refuse "expected ident"

/-- The digits of a number before its exponent. Where it stops early, `ended` is the complaint. -/
def mantissa (ended : String) : Look Unit := do
  match ← next with
  | none => refuse ended
  | some '0' => if (← peek).any Char.isDigit then refuseNext badNumber
  | some c =>
    if c.isDigit then
      let _ ← skipWhile Char.isDigit
    else refuse badNumber
  if (← peek) = some '.' then
    eat
    if (← skipWhile Char.isDigit) = 0 then
      refuseNext (if (← peek).isNone then ended else badNumber)

/-- How many of some digits it takes for an exponent to grow too large to be read out. -/
def outgrown? (e : Nat) : List Nat → Option Nat
  | [] => none
  | d :: rest =>
    if Source.exponentLimit < e * 10 + d then some 1
    else (outgrown? (e * 10 + d) rest).map (· + 1)

/-- The exponent of a number, after its letter. Where it makes a number that is read too large, it is
not read to its end. -/
def exponent (isRead : Bool) (ended : String) (isZero : Bool) : Look Unit := do
  let sign ← peek
  if sign.any fun c => c = '+' || c = '-' then eat
  if !(← peek).any Char.isDigit then
    if (← next).isNone then refuse ended else refuse badNumber
  let digits := (Source.takeDigits (Utf8.units (← get).rest)).1
  match outgrown? 0 digits with
  | some n =>
    if isRead && !isZero && sign ≠ some '-' then
      pass n
      refuse outOfRange
    else pass digits.length
  | none => pass digits.length

/-- A number after its sign, read or passed over. -/
def number (isRead : Bool) : Look Unit := do
  let ended := if isRead then valueEnds else badNumber
  let digits ← passedBy (mantissa ended)
  if (← peek).any fun c => c = 'e' || c = 'E' then
    eat
    let isZero := digits.all fun b => !('1'.toNat ≤ b.toNat && b.toNat ≤ '9'.toNat)
    exponent isRead ended isZero

/-- Four hexadecimal digits. -/
def hexUnit : Look Nat := do
  let digits := (← get).rest.take 4
  pass 4
  if digits.length < 4 then refuse stringEnds
  else match digits.mapM fun b => Bytes.hexValue? (Char.ofNat b.toNat) with
    | some values => return values.foldl (fun n d => n * 16 + d) 0
    | none => refuse "invalid escape"

/-- The next byte inside of an escape for half of a surrogate pair, which must be `c`. -/
def pairMark (c : Char) : Look Unit := do
  match ← next with
  | none => refuse stringEnds
  | some d => if d ≠ c then refuse "unexpected end of hex escape"

/-- An escape after its backslash: the bytes of the character that it stands for. Only in a string
that is read do the halves of surrogate pairs have to match. -/
def escape (isRead : Bool) : Look Bytes := do
  match ← next with
  | none => refuse stringEnds
  | some 'u' =>
    let n ← hexUnit
    if !isRead then return []
    else if Source.isLow n then refuse "lone leading surrogate in hex escape"
    else if Source.isHigh n then
      pairMark '\\'
      pairMark 'u'
      let m ← hexUnit
      if Source.isLow m then
        return Utf8.encodeChar (Char.ofNat ((n - 0xD800) * 1024 + (m - 0xDC00) + 0x10000))
      else refuse "lone leading surrogate in hex escape"
    else return Utf8.encodeChar (Char.ofNat n)
  | some c =>
    match Source.shortEscape? c with
    | some x => return Utf8.encodeChar x
    | none => refuse "invalid escape"

/-- The bytes of a string up to its closing quote. -/
def stringBytes (isRead : Bool) : (fuel : Nat) → Look Bytes
  | 0 => refuse stringEnds
  | fuel + 1 => do
    match ← peek with
    | none => refuse stringEnds
    | some '"' =>
      eat
      return []
    | some '\\' =>
      eat
      let bytes ← escape isRead
      return bytes ++ (← stringBytes isRead fuel)
    | some c =>
      if c.toNat < 32 then
        if isRead then eat
        refuse "control character (\\u0000-\\u001F) found while parsing a string"
      else
        eat
        return UInt8.ofNat c.toNat :: (← stringBytes isRead fuel)

/-- A string after its opening quote. Bytes that are no characters are complained about where the
first of them stands, once the string is closed. -/
def string : Look String := do
  let start ← get
  let bytes ← stringBytes true (start.rest.length + 1)
  match Utf8.decode? bytes with
  | some chars => return String.ofList chars
  | none =>
    let sound := Source.byteLength ((Utf8.units start.rest).takeWhile Option.isSome)
    throw ⟨"invalid unicode code point",
      some ((start.rest.take (sound + 1)).foldl Place.after start.place)⟩

/-- Passes over a string after its opening quote. -/
def skipString : Look Unit := do
  let _ ← stringBytes false ((← get).rest.length + 1)

/-! ## Values -/

/-- The mark between the name of a member and its value. -/
def colon : Look Unit := do
  match ← token with
  | some ':' => eat
  | some _ => refuseNext "expected \x60:\x60"
  | none => refuseNext objectEnds

mutual

/-- Passes over a value. -/
def skipValue : (fuel : Nat) → Look Unit
  | 0 => refuse valueEnds
  | fuel + 1 => do
    match ← token with
    | none => refuseNext valueEnds
    | some 'n' => do eat; word ['u', 'l', 'l']
    | some 't' => do eat; word ['r', 'u', 'e']
    | some 'f' => do eat; word ['a', 'l', 's', 'e']
    | some '"' => do eat; skipString
    | some '-' => do eat; number false
    | some '[' => do eat; skipItems fuel true
    | some '{' => do eat; skipMembers fuel true
    | some c => if c.isDigit then number false else refuseNext "expected value"

/-- Passes over the items of a list, from the first or a later one on. -/
def skipItems : (fuel : Nat) → (isFirst : Bool) → Look Unit
  | 0, _ => refuse listEnds
  | fuel + 1, isFirst => do
    match ← token with
    | none => refuseNext listEnds
    | some ']' => eat
    | some c =>
      if !isFirst then
        if c = ',' then eat else refuseNext "expected \x60,\x60 or \x60]\x60"
      skipValue fuel
      skipItems fuel false

/-- Passes over the members of an object, from the first or a later one on. -/
def skipMembers : (fuel : Nat) → (isFirst : Bool) → Look Unit
  | 0, _ => refuse objectEnds
  | fuel + 1, isFirst => do
    match ← token with
    | none => refuseNext objectEnds
    | some '}' => eat
    | some c =>
      if !isFirst then
        if c = ',' then eat else refuseNext "expected \x60,\x60 or \x60\x7d\x60"
      match ← token with
      | some '"' =>
        eat
        skipString
        colon
        skipValue fuel
        skipMembers fuel false
      | some _ => refuseNext "key must be a string"
      | none => refuseNext objectEnds

end

/-- The end of an object. -/
def closeObject : Look Unit := do
  match ← token with
  | some '}' => eat
  | some ',' => refuseNext "trailing comma"
  | some _ => refuseNext "trailing characters"
  | none => refuseNext objectEnds

/-- The end of a list. -/
def closeList : Look Unit := do
  match ← token with
  | some ']' => eat
  | some ',' =>
    eat
    refuseNext (if (← token) = some ']' then "trailing comma" else "trailing characters")
  | some _ => refuseNext "trailing characters"
  | none => refuseNext listEnds

/-- What a number is, in words. -/
def numberName (bytes : Bytes) : Look String :=
  match (Source.read (Utf8.units bytes)).1 with
  | .int n => return s!"integer \x60{n}\x60"
  | .real x => return "floating point \x60" ++ String.ofList x.text ++ "\x60"
  | _ => refuse outOfRange

/-- What the next value is, in words. -/
def valueName : Look String := do
  match ← peek with
  | some 'n' => do eat; word ['u', 'l', 'l']; return "null"
  | some 't' => do eat; word ['r', 'u', 'e']; return "boolean \x60true\x60"
  | some 'f' => do eat; word ['a', 'l', 's', 'e']; return "boolean \x60false\x60"
  | some '"' => do eat; return "string " ++ Text.quote (← string)
  | some '[' => return "sequence"
  | some '{' => return "map"
  | some '-' => do numberName (← passedBy do eat; number true)
  | some c =>
    if c.isDigit then do numberName (← passedBy (number true)) else refuseNext "expected value"
  | none => refuseNext valueEnds

/-- Complains that the next value is not of the form that is expected. -/
def mismatch (expected : String) : Look Unit := placed do
  complain s!"invalid type: {← valueName}, expected {expected}"

/-- A text. -/
def text : Look Unit := do
  match ← token with
  | none => refuseNext valueEnds
  | some '"' =>
    eat
    let _ ← string
  | some _ => mismatch "a string"

/-- The first field that an object must have and has not. -/
def missing? (seen : List String) (fields : List (String × Form)) : Option String :=
  (fields.find? fun (name, form) =>
    !seen.contains name && !(form matches .optionalText)).map (·.1)

mutual

/-- A value of a form. -/
def value : (fuel : Nat) → Form → Look Unit
  | 0, _ => refuse valueEnds
  | _, .text => text
  | _, .optionalText => do
    match ← token with
    | some 'n' => do eat; word ['u', 'l', 'l']
    | _ => text
  | fuel + 1, .record title fields => do
    match ← token with
    | none => refuseNext valueEnds
    | some '[' => do
      eat
      placed (andClose (items fuel (title, fields.length) fields true) closeList)
    | some '{' => do
      eat
      placed (andClose (members fuel fields [] true) closeObject)
    | some _ => mismatch s!"struct {title}"

/-- The items of a list, one for each field. -/
def items : (fuel : Nat) → (whole : String × Nat) → List (String × Form) → (isFirst : Bool) →
    Look Unit
  | 0, _, _, _ => refuse listEnds
  | _, _, [], _ => return
  | fuel + 1, (title, count), (_, form) :: fields, isFirst => do
    match ← token with
    | none => refuseNext listEnds
    | some ']' =>
      complain (s!"invalid length {count - fields.length - 1}, expected struct {title} with "
        ++ s!"{count} elements")
    | some c =>
      if !isFirst then
        if c ≠ ',' then refuseNext "expected \x60,\x60 or \x60]\x60"
        eat
        match ← token with
        | some ']' => refuseNext "trailing comma"
        | some _ => pure ()
        | none => refuseNext valueEnds
      value fuel form
      items fuel (title, count) fields false

/-- The members of an object up to its end. -/
def members : (fuel : Nat) → List (String × Form) → (seen : List String) → (isFirst : Bool) →
    Look Unit
  | 0, _, _, _ => refuse objectEnds
  | fuel + 1, fields, seen, isFirst => do
    match ← token with
    | none => refuseNext objectEnds
    | some '}' =>
      if let some name := missing? seen fields then complain s!"missing field \x60{name}\x60"
    | some c =>
      if !isFirst then
        if c ≠ ',' then refuseNext "expected \x60,\x60 or \x60\x7d\x60"
        eat
      match ← token with
      | some '"' => eat
      | some '}' => refuseNext "trailing comma"
      | some _ => refuseNext "key must be a string"
      | none => refuseNext valueEnds
      let name ← string
      match fields.lookup name with
      | none =>
        colon
        skipValue fuel
      | some form =>
        if seen.contains name then complain s!"duplicate field \x60{name}\x60"
        colon
        value fuel form
      members fuel fields (name :: seen) false

end

/-- A whole text. -/
def whole (form : Form) : Look Unit := do
  value (2 * (← get).rest.length + 2) form
  if (← token).isSome then refuseNext "trailing characters"

end Look

/-- What is wrong with a text of which a form is expected, in words. -/
def Form.diagnose (form : Form) (bytes : Bytes) : String :=
  match Look.whole form ⟨bytes, ⟨1, 0⟩⟩ with
  | (.error complaint, _) => complaint.message
  | (.ok _, _) => ""

end Json

end Pairwise
