import LabelRules.Unicode.Visible

set_option autoImplicit false

/-! # Quoted text

How a text or a character is shown inside a message: between quotes, with a backslash before a
backslash and before the closing quote, short escapes for NUL, tab, line feed and carriage return,
and the code point in hexadecimal for any other character that is not visible.
-/

namespace LabelRules

/-- The lower-case hexadecimal digits of a number, without leading zeros. -/
def hexDigits (n : Nat) : List Char := Nat.toDigits 16 n

namespace Quoted

/-- One character of a text that ends at the character `close`. -/
def escape (close : Char) (c : Char) : List Char :=
  if c = '\x00' then ['\\', '0']
  else if c = '\t' then ['\\', 't']
  else if c = '\n' then ['\\', 'n']
  else if c = '\r' then ['\\', 'r']
  else if c = '\\' then ['\\', '\\']
  else if c = close then ['\\', c]
  else if isVisible c then [c]
  else ['\\', 'u', '\x7b'] ++ hexDigits c.toNat ++ ['\x7d']

/-- A text between double quotes. -/
def text (s : String) : String :=
  String.ofList ('"' :: s.toList.flatMap (escape '"') ++ ['"'])

/-- A character between single quotes. -/
def char (c : Char) : String :=
  String.ofList ('\x27' :: escape '\x27' c ++ ['\x27'])

/-- Several texts between double quotes, set apart by commas. -/
def texts (ss : List String) : String := ", ".intercalate (ss.map text)

end Quoted

end LabelRules
