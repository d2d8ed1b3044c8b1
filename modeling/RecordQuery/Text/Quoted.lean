import RecordQuery.Unicode.Printable

/-!
# Quoted text

A text between double quotes. A quote, a backslash and the usual control characters are written
with a backslash; a character that cannot be shown, or that would join the one before it, is
written by its code point in hexadecimal.
-/

namespace RecordQuery.Text

/-- The letter that stands for a character behind a backslash. -/
def escapeLetter? : Char → Option Char
  | '\x00' => some '0'
  | '\t' => some 't'
  | '\r' => some 'r'
  | '\n' => some 'n'
  | '\\' => some '\\'
  | '"' => some '"'
  | _ => none

def quoteChar (c : Char) : List Char :=
  match escapeLetter? c with
  | some letter => ['\\', letter]
  | none =>
    if Unicode.extendsGrapheme c || !Unicode.isPrintable c then
      ['\\', 'u', '{'] ++ Nat.toDigits 16 c.toNat ++ ['}']
    else [c]

def quoted (s : String) : String :=
  String.ofList (['"'] ++ s.toList.flatMap quoteChar ++ ['"'])

end RecordQuery.Text
