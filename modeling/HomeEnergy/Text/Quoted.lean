import HomeEnergy.Text.Unseen

/-!
# Quoted texts

Messages show a foreign text between double quotes, with an escape for each character that would
otherwise end the quotation, break the line or stay invisible.

## Main results

* `Text.escape` — how one character is written.
* `Text.quoted` — the text between its quotes.
-/

namespace HomeEnergy.Text

/-- The lower-case hexadecimal digits of a number, without leading zeros. -/
def hexDigits (n : Nat) : List Char := Nat.toDigits 16 n

/-- Whether a character of a quoted text is written by its number. -/
def isNumbered (c : Char) : Bool :=
  if c.toNat < 128 then c.toNat < 32 || c.toNat = 127 else isUnseen c

/-- How one character is written inside double quotes. -/
def escape (c : Char) : List Char :=
  match c with
  | '\x00' => ['\\', '0']
  | '\t' => ['\\', 't']
  | '\n' => ['\\', 'n']
  | '\r' => ['\\', 'r']
  | '\\' => ['\\', '\\']
  | '"' => ['\\', '"']
  | c => if isNumbered c then ['\\', 'u', '\x7b'] ++ hexDigits c.toNat ++ ['\x7d'] else [c]

/-- The text between double quotes. -/
def quoted (s : String) : String :=
  String.ofList ('"' :: s.toList.flatMap escape ++ ['"'])

end HomeEnergy.Text
