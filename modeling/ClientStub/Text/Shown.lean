import ClientStub.Text.Letters

/-!
# Texts as error messages show them

An error message quotes a text it did not expect between double quotes, with the marks, the line
controls and every hidden character escaped.
-/

namespace ClientStub.Text

/-- The hexadecimal digits of a number, in lower case and without leading zeros. -/
def hexDigits (n : Nat) : List Char := Nat.toDigits 16 n

def showChar (c : Char) : List Char :=
  match c with
  | '\x00' => ['\\', '0']
  | '\t' => ['\\', 't']
  | '\r' => ['\\', 'r']
  | '\n' => ['\\', 'n']
  | '"' => ['\\', '"']
  | '\\' => ['\\', '\\']
  | c => if isHidden c then ['\\', 'u', '\x7b'] ++ hexDigits c.toNat ++ ['\x7d'] else [c]

/-- A text between double quotes. -/
def shown (text : String) : String := String.ofList ('"' :: text.toList.flatMap showChar ++ ['"'])

end ClientStub.Text
