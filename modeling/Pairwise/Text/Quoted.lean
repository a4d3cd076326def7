import Pairwise.Text.Hidden
/-!
# Quoted texts in messages

Texts and characters as they are shown inside error messages: in quotes, with characters that
cannot be seen (`Text.isHidden`) written by their number.
-/
namespace Pairwise

namespace Text

/-- A number by its lower-case hexadecimal digits. -/
def hexNumber (n : Nat) : List Char := Nat.toDigits 16 n

/-- A character inside quotes of the given kind. -/
def quotedChar (quote : Char) (c : Char) : List Char :=
  if c = quote ∨ c = '\\' then ['\\', c]
  else if c = '\n' then ['\\', 'n']
  else if c = '\r' then ['\\', 'r']
  else if c = '\t' then ['\\', 't']
  else if c.toNat = 0 then ['\\', '0']
  else if isHidden c then ['\\', 'u', '{'] ++ hexNumber c.toNat ++ ['}']
  else [c]

/-- A character in single quotes. -/
def quoteChar (c : Char) : String := String.ofList ('\'' :: (quotedChar '\'' c ++ ['\'']))

/-- A text in double quotes. -/
def quote (s : String) : String :=
  String.ofList ('"' :: (s.toList.flatMap (quotedChar '"') ++ ['"']))

/-- Items in square brackets. -/
def bracketed (items : List String) : String := "[" ++ ", ".intercalate items ++ "]"

end Text

end Pairwise
