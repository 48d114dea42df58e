import LabelRules.Document.Place

set_option autoImplicit false

/-! # Writing documents

A mapping of keys to lists of texts is written with a line for each key and for each text. The texts
stand in double quotes, with escapes for the characters that could be read in another way.
-/

namespace LabelRules.Document

/-- A character that stands for itself in double quotes. -/
def isPlainInQuotes (c : Char) : Bool :=
  isAllowed c && !isBreak c && c ≠ '\t' && c ≠ '\r' && c ≠ nextLine && c ≠ byteOrderMark &&
    c ≠ '"' && c ≠ '\\'

/-- The digit of a number below 16. -/
def hexDigit (n : Nat) : Char := Nat.digitChar n

/-- The last digits of a number in base 16. -/
def hexDigits (width n : Nat) : List Char :=
  (List.range width).map fun i => hexDigit (n / Nat.pow 16 (width - 1 - i) % 16)

/-- A character in double quotes. -/
def quoteCharacter (c : Char) : List Char :=
  if isPlainInQuotes c then [c]
  else if c = '"' || c = '\\' then ['\\', c]
  else '\\' :: 'U' :: hexDigits 8 c.toNat

/-- A text in double quotes. -/
def quote (text : String) : String :=
  String.ofList ('"' :: text.toList.flatMap quoteCharacter ++ ['"'])

/-- An entry: a key and the lines of its texts. -/
def writeEntry (key : String) (texts : List String) : String :=
  if texts.isEmpty then key ++ ": []\n"
  else key ++ ":\n" ++ String.join (texts.map fun text => "- " ++ quote text ++ "\n")

/-- The text of a document that maps keys to lists of texts. -/
def write (entries : List (String × List String)) : String :=
  String.join (entries.map fun (key, texts) => writeEntry key texts)

end LabelRules.Document
