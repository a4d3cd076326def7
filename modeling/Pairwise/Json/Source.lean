import Pairwise.Json.Value
/-!
# JSON texts

A text is first read into a `Source`, a tree that keeps all that a reader may care about: members
that occur twice, numbers out of range, strings that are no text, nesting that is too deep, and the
place where the text stops being JSON. What is wrong with a text depends on what is expected of it,
so a `Source` is never refused here: a part that nobody asks for may hold a number out of range,
and of two faults the one that stands first is reported.

`Source.read` reads a text given as units (`Utf8.units`), `Source.ofJson` is the source of a value
that is already there, `Source.skip?` passes over a part, and `Source.json` asks for any value.
-/
namespace Pairwise

namespace Json

/-- What is wrong with a text. -/
inductive Fault where
  /-- The text stops early. -/
  | ended
  /-- The text is not JSON, or holds a number or a string that stands for no value. -/
  | malformed
  /-- A value is not of the form that is expected. -/
  | mismatched
  deriving DecidableEq, Repr, Inhabited

/-- Where a text stops being JSON: the fault when the part is read, when it is passed over, and when
it is read as a choice among names. A choice looks for a quote or a brace first, and for a closing
brace right after its only member; all else in their place is malformed to it, even when it stops
early. -/
structure Break where
  reading : Fault
  skipping : Fault
  choosing : Fault
  deriving DecidableEq, Repr, Inhabited

/-- The same fault in every case. -/
def Break.every (fault : Fault) : Break := ⟨fault, fault, fault⟩

/-- A break that a choice does not get to. -/
def Break.unchosen (b : Break) : Break := { b with choosing := .malformed }

/-- A JSON text as it stands. An array or object that is not closed carries the fault that stands
in place of the next comma or bracket. -/
inductive Source where
  | null
  | bool (b : Bool)
  | int (n : Int)
  | real (x : Double)
  | str (s : String)
  | arr (items : List Source) (stop : Option Break)
  | obj (members : List (Except Fault String × Source)) (stop : Option Break)
  /-- Well formed, yet it stands for no value. -/
  | flawed
  /-- The text ends or goes wrong here. -/
  | broken (at' : Break)
  deriving Inhabited

namespace Source

/-- What a reader sees of a text: characters, and bytes that are none. -/
abbrev Units := List (Option Char)

/-! ## Blanks and words -/

/-- Blanks between tokens. -/
def isBlank (c : Char) : Bool := c = ' ' || c = '\n' || c = '\t' || c = '\r'

/-- Drops blanks from the front. -/
def trim : Units → Units
  | some c :: rest => if isBlank c then trim rest else some c :: rest
  | units => units

/-- The rest of a word whose first letter is read. -/
def word (value : Source) : (letters : List Char) → Units → Source × Units
  | [], units => (value, units)
  | _ :: _, [] => (.broken (Break.every .ended).unchosen, [])
  | c :: letters, u :: units =>
    if u = some c then word value letters units else (.broken (.every .malformed), [])

/-! ## Numbers -/

/-- The digits at the front. -/
def takeDigits : Units → List Nat × Units
  | some c :: rest =>
    if c.isDigit then
      let (ds, rest) := takeDigits rest
      ((c.toNat - 48) :: ds, rest)
    else ([], some c :: rest)
  | units => ([], units)

/-- A number as it is written: the digits before the point, those after it, and the exponent. -/
structure Decimal where
  negative : Bool
  whole : List Nat
  fraction : Option (List Nat) := none
  exponent : Option (Bool × List Nat) := none

/-- The largest significand kept while reading. -/
def significandLimit : Nat := UInt64.size - 1

/-- The largest exponent that is read out. -/
def exponentLimit : Nat := Nat.pow 2 31 - 1

/-- Adds digits to a significand up to its limit; what comes after is dropped. Gives the
significand and the number of digits added and dropped. -/
def addDigits (significand : Nat) : List Nat → Nat × Nat × Nat
  | [] => (significand, 0, 0)
  | d :: rest =>
    if significandLimit < significand * 10 + d then (significand, 0, rest.length + 1)
    else
      let (s, added, dropped) := addDigits (significand * 10 + d) rest
      (s, added + 1, dropped)

/-- Divides a double by a power of ten, at most `10 ^ 308` at a time. -/
def scaleDown (x : Double) (k : Nat) : Double :=
  if k ≤ 308 then (x.over? (.powerOfTen k)).getD .zero
  else if x.isZero then x
  else scaleDown ((x.over? (.powerOfTen 308)).getD .zero) (k - 308)
termination_by k

/-- The double of `significand * 10 ^ exponent`, in two roundings: of the significand, then of the
product or quotient. `none` when it is too large. -/
def scale (significand : Nat) (exponent : Int) : Option Double := do
  let x ← Double.ofNat? significand
  if exponent < 0 then return scaleDown x exponent.natAbs
  else if exponent ≤ 308 then x.times? (.powerOfTen exponent.natAbs)
  else if x.isZero then return x
  else none

/-- The value of a number: whole numbers that fit into 64 bits, signed or not, stay whole; minus
zero and all others are doubles; a number beyond the doubles is no value. -/
def Decimal.value (d : Decimal) : Source :=
  let signed (x : Double) : Source := .real (if d.negative then x.negate else x)
  let (significand, _, dropped) := addDigits 0 d.whole
  match d.fraction, d.exponent with
  | none, none =>
    if dropped = 0 then
      if !d.negative then .int significand
      else if significand = 0 then signed .zero
      else if significand ≤ Nat.pow 2 63 then .int (-(significand : Int))
      else ((Double.ofNat? significand).map signed).getD .flawed
    else ((scale significand dropped).map signed).getD .flawed
  | fraction, exponent =>
    let (significand, added, _) := addDigits significand (fraction.getD [])
    let start : Int := (dropped : Int) - (added : Int)
    match exponent with
    | none => ((scale significand start).map signed).getD .flawed
    | some (below, digits) =>
      let e := digits.foldl (fun e d => e * 10 + d) 0
      if exponentLimit < e then
        if significand ≠ 0 ∧ below = false then .flawed else signed .zero
      else
        let e : Int := if below then start - e else start + e
        ((scale significand e).map signed).getD .flawed

/-- A number that stops early. Only when it is read does it count as such. -/
def cutNumber : Source × Units := (.broken ⟨.ended, .malformed, .malformed⟩, [])

def malformed : Source × Units := (.broken (.every .malformed), [])

/-- The exponent, after its letter. -/
def readExponent (d : Decimal) (units : Units) : Source × Units :=
  let (below, units) := match units with
    | some '-' :: rest => (true, rest)
    | some '+' :: rest => (false, rest)
    | units => (false, units)
  match takeDigits units with
  | ([], []) => cutNumber
  | ([], _) => malformed
  | (digits, rest) => (Decimal.value { d with exponent := some (below, digits) }, rest)

/-- What follows the digits before the point. -/
def readFraction (d : Decimal) (units : Units) : Source × Units :=
  match units with
  | some '.' :: rest =>
    match takeDigits rest with
    | ([], []) => cutNumber
    | ([], _) => malformed
    | (digits, rest) =>
      let d := { d with fraction := some digits }
      match rest with
      | some 'e' :: rest => readExponent d rest
      | some 'E' :: rest => readExponent d rest
      | rest => (d.value, rest)
  | some 'e' :: rest => readExponent d rest
  | some 'E' :: rest => readExponent d rest
  | rest => (d.value, rest)

/-- A number after its sign: no zero stands before another digit. -/
def readNumber (negative : Bool) (units : Units) : Source × Units :=
  match takeDigits units with
  | ([], []) => cutNumber
  | ([], _) => malformed
  | (0 :: _ :: _, _) => malformed
  | (digits, rest) => readFraction { negative, whole := digits } rest

/-! ## Strings -/

/-- The bytes that a part of a text takes. -/
def byteLength (units : Units) : Nat :=
  units.foldl (fun n u => n + ((u.map fun c => (Utf8.encodeChar c).length).getD 1)) 0

/-- Four hexadecimal digits, or what stands in their place: less than four bytes are a text that
stops early. -/
def hexUnit (units : Units) : Except Fault (Nat × Units) :=
  match units with
  | a :: b :: c :: d :: rest =>
    let digit (u : Option Char) := u.bind Bytes.hexValue?
    match digit a, digit b, digit c, digit d with
    | some a, some b, some c, some d => .ok (((a * 16 + b) * 16 + c) * 16 + d, rest)
    | _, _, _, _ => .error .malformed
  | units => .error (if byteLength units < 4 then .ended else .malformed)

/-- The character that a short escape stands for. -/
def shortEscape? (c : Char) : Option Char :=
  if c = '"' ∨ c = '\\' ∨ c = '/' then some c
  else if c = 'b' then some '\x08'
  else if c = 'f' then some '\x0c'
  else if c = 'n' then some '\n'
  else if c = 'r' then some '\r'
  else if c = 't' then some '\t'
  else none

/-- A string as read: its characters unless it is none, and where the text goes on; or the fault
that ends it. -/
inductive Body where
  | closed (chars : Option (List Char)) (rest : Units)
  | cut (fault : Fault)

/-- Puts a character in front. -/
def Body.push (c : Char) : Body → Body
  | .closed chars rest => .closed (chars.map (c :: ·)) rest
  | .cut f => .cut f

/-- Marks a string as none, and goes on. -/
def Body.spoil : Body → Body
  | .closed _ rest => .closed none rest
  | .cut f => .cut f

/-- The high half of a surrogate pair. -/
def isHigh (n : Nat) : Bool := 0xD800 ≤ n && n < 0xDC00

/-- The low half of a surrogate pair. -/
def isLow (n : Nat) : Bool := 0xDC00 ≤ n && n < 0xE000

/-- A string after its opening quote, passed over: escapes must be known ones, control characters
must not stand in it, and halves of surrogate pairs do not matter. -/
def skipString : (fuel : Nat) → Units → Except Fault Units
  | 0, _ => .error .ended
  | _, [] => .error .ended
  | fuel + 1, some c :: rest =>
    if c = '"' then .ok rest
    else if c = '\\' then
      match rest with
      | [] => .error .ended
      | some 'u' :: rest => do
        let (_, rest) ← hexUnit rest
        skipString fuel rest
      | some e :: rest =>
        if (shortEscape? e).isSome then skipString fuel rest else .error .malformed
      | none :: _ => .error .malformed
    else if c.toNat < 32 then .error .malformed
    else skipString fuel rest
  | fuel + 1, none :: rest => skipString fuel rest

/-- A string after its opening quote. A lone half of a surrogate pair ends the reading; a byte that
belongs to no character only spoils the string. -/
def readString : (fuel : Nat) → Units → Body
  | 0, _ => .cut .ended
  | _, [] => .cut .ended
  | fuel + 1, some c :: rest =>
    if c = '"' then .closed (some []) rest
    else if c = '\\' then
      match rest with
      | [] => .cut .ended
      | some 'u' :: rest =>
        match hexUnit rest with
        | .error f => .cut f
        | .ok (n, rest) =>
          if isLow n then .cut .malformed
          else if isHigh n then
            match rest with
            | [] => .cut .ended
            | some '\\' :: rest =>
              match rest with
              | [] => .cut .ended
              | some 'u' :: rest =>
                match hexUnit rest with
                | .error f => .cut f
                | .ok (m, rest) =>
                  if isLow m then
                    let code := (n - 0xD800) * 1024 + (m - 0xDC00) + 0x10000
                    (readString fuel rest).push (Char.ofNat code)
                  else .cut .malformed
              | _ :: _ => .cut .malformed
            | _ :: _ => .cut .malformed
          else (readString fuel rest).push (Char.ofNat n)
      | some e :: rest =>
        match shortEscape? e with
        | some x => (readString fuel rest).push x
        | none => .cut .malformed
      | none :: _ => .cut .malformed
    else if c.toNat < 32 then .cut .malformed
    else (readString fuel rest).push c
  | fuel + 1, none :: rest => (readString fuel rest).spoil

/-- A string after its opening quote, read and passed over: its text, a flaw, or the place where
both go wrong. -/
def stringToken (units : Units) : Except Break (Except Fault String × Units) :=
  let fuel := units.length + 1
  match readString fuel units, skipString fuel units with
  | .closed (some chars) _, .ok rest => .ok (.ok (String.ofList chars), rest)
  | .closed none _, .ok rest => .ok (.error .malformed, rest)
  | .cut f, .ok rest => .ok (.error f, rest)
  | .cut f, .error g => .error ⟨f, g, f⟩
  | .closed _ _, .error g => .error (.every g)

/-! ## Values -/

mutual

/-- The fault that is found when a value is passed over: only a break is one. -/
def skip? : Source → Option Fault
  | .arr items stop => (skipItems? items).or (stop.map (·.skipping))
  | .obj members stop => (skipMembers? members).or (stop.map (·.skipping))
  | .broken b => some b.skipping
  | _ => none
termination_by structural s => s

/-- `skip?` over the items of an array. -/
def skipItems? : List Source → Option Fault
  | [] => none
  | v :: rest => v.skip?.or (skipItems? rest)
termination_by structural items => items

/-- `skip?` over the members of an object. -/
def skipMembers? : List (Except Fault String × Source) → Option Fault
  | [] => none
  | (_, v) :: rest => v.skip?.or (skipMembers? rest)
termination_by structural members => members

end

/-- Arrays and objects may be nested this deep. -/
def depthLimit : Nat := 127

/-- A container beyond the depth limit stands for no value. -/
def bounded (depth : Nat) (v : Source) : Source :=
  if depth ≤ depthLimit then v
  else match v.skip? with
    | none => .flawed
    | some f => .broken ⟨.malformed, f, .malformed⟩

mutual

/-- One value; `depth` counts the containers around it, and `fuel` is more than the text is
long. -/
def readValue : (fuel depth : Nat) → Units → Source × Units
  | 0, _, _ => (.broken (.every .ended), [])
  | fuel + 1, depth, units =>
    match trim units with
    | [] => (.broken (.every .ended), [])
    | some 'n' :: rest => word .null ['u', 'l', 'l'] rest
    | some 't' :: rest => word (.bool true) ['r', 'u', 'e'] rest
    | some 'f' :: rest => word (.bool false) ['a', 'l', 's', 'e'] rest
    | some '"' :: rest =>
      match stringToken rest with
      | .ok (.ok s, rest) => (.str s, rest)
      | .ok (.error _, rest) => (.flawed, rest)
      | .error b => (.broken b, [])
    | some '-' :: rest => readNumber true rest
    | some '[' :: rest =>
      match trim rest with
      | some ']' :: rest => (bounded (depth + 1) (.arr [] none), rest)
      | [] => (bounded (depth + 1) (.arr [] (some (.every .ended))), [])
      | rest =>
        let (items, stop, rest) := readItems fuel (depth + 1) rest
        (bounded (depth + 1) (.arr items stop), rest)
    | some '{' :: rest =>
      match trim rest with
      | some '}' :: rest => (bounded (depth + 1) (.obj [] none), rest)
      | [] => (bounded (depth + 1) (.obj [] (some (.every .ended))), [])
      | rest =>
        let (members, stop, rest) := readMembers fuel (depth + 1) rest
        (bounded (depth + 1) (.obj members stop), rest)
    | some c :: rest =>
      if c.isDigit then readNumber false (some c :: rest) else malformed
    | none :: _ => malformed

/-- The items of an array from the next one on. -/
def readItems : (fuel depth : Nat) → Units → List Source × Option Break × Units
  | 0, _, _ => ([], some (.every .ended), [])
  | fuel + 1, depth, units =>
    match readValue fuel depth units with
    | (.broken b, _) => ([.broken b], none, [])
    | (v, rest) =>
      match trim rest with
      | some ',' :: rest =>
        match trim rest with
        | some ']' :: _ => ([v, .broken (.every .malformed)], none, [])
        | rest =>
          let (items, stop, rest) := readItems fuel depth rest
          (v :: items, stop, rest)
      | some ']' :: rest => ([v], none, rest)
      | [] => ([v], some (.every .ended), [])
      | _ => ([v], some (.every .malformed), [])

/-- The members of an object from the next one on. -/
def readMembers : (fuel depth : Nat) → Units →
    List (Except Fault String × Source) × Option Break × Units
  | 0, _, _ => ([], some (.every .ended), [])
  | fuel + 1, depth, units =>
    match trim units with
    | [] => ([], some (.every .ended), [])
    | some '"' :: rest =>
      match stringToken rest with
      | .error b => ([], some b, [])
      | .ok (name, rest) =>
        match trim rest with
        | [] => ([(name, .broken (.every .ended))], none, [])
        | some ':' :: rest =>
          match readValue fuel depth rest with
          | (.broken b, _) => ([(name, .broken b)], none, [])
          | (v, rest) =>
            match trim rest with
            | some ',' :: rest =>
              let (members, stop, rest) := readMembers fuel depth rest
              ((name, v) :: members, stop.map Break.unchosen, rest)
            | some '}' :: rest => ([(name, v)], none, rest)
            | [] => ([(name, v)], some (.every .ended), [])
            | _ => ([(name, v)], some (.every .malformed), [])
        | _ => ([(name, .broken (.every .malformed))], none, [])
    | _ => ([], some (.every .malformed), [])

end

/-- A whole text: its value, and whether anything but blanks follows. -/
def read (units : Units) : Source × Bool :=
  let (v, rest) := readValue (2 * units.length + 2) 0 units
  (v, !(trim rest).isEmpty)

mutual

/-- The source of a value that is already there. -/
def ofJson : Json → Source
  | .null => .null
  | .bool b => .bool b
  | .int n => .int n
  | .real x => .real x
  | .str s => .str s
  | .arr items => .arr (ofItems items) none
  | .obj members => .obj (ofMembers members) none
termination_by structural v => v

/-- `ofJson` on the items of an array. -/
def ofItems : List Json → List Source
  | [] => []
  | v :: rest => ofJson v :: ofItems rest
termination_by structural items => items

/-- `ofJson` on the members of an object. -/
def ofMembers : List (String × Json) → List (Except Fault String × Source)
  | [] => []
  | (name, v) :: rest => (.ok name, ofJson v) :: ofMembers rest
termination_by structural members => members

end

mutual

/-- Any value, with the members of every object sorted by name; of several members with one name
the last stays. -/
def json : Source → Except Fault Json
  | .null => .ok .null
  | .bool b => .ok (.bool b)
  | .int n => .ok (.int n)
  | .real x => .ok (.real x)
  | .str s => .ok (.str s)
  | .arr items stop => do
    let items ← jsonItems items
    match stop with
    | some b => .error b.reading
    | none => .ok (.arr items)
  | .obj members stop => do
    let members ← jsonMembers members
    match stop with
    | some b => .error b.reading
    | none => .ok (.obj (sortMembers members))
  | .flawed => .error .malformed
  | .broken b => .error b.reading
termination_by structural s => s

/-- `json` on the items of an array. -/
def jsonItems : List Source → Except Fault (List Json)
  | [] => .ok []
  | v :: rest => do
    let v ← json v
    let rest ← jsonItems rest
    return v :: rest
termination_by structural items => items

/-- `json` on the members of an object. -/
def jsonMembers : List (Except Fault String × Source) → Except Fault (List (String × Json))
  | [] => .ok []
  | (name, v) :: rest => do
    let name ← name
    let v ← json v
    let rest ← jsonMembers rest
    return (name, v) :: rest
termination_by structural members => members

end

/-- The fault of a value that is not of the form expected: a word, number or string is read before
it is refused. -/
def mismatch : Source → Fault
  | .flawed => .malformed
  | .broken b => b.reading
  | _ => .mismatched

end Source

end Json

end Pairwise
