import PacketRing.Text.Printable

/-!
# Quoted text

The form in which error messages show a text they were given.

* `escape` : one character between the quotes;
* `quoted` : the whole text, quotes included.
-/

namespace PacketRing.Text

/-- Lower-case hexadecimal digits of `n`, without leading zeros. -/
def hexDigits (n : Nat) : List Char := Nat.toDigits 16 n

/-- A quote, a backslash and the four named controls take a backslash; a character that cannot
be shown takes its code point in hexadecimal. -/
def escape (c : Char) : List Char :=
  match c with
  | '\x00' => ['\\', '0']
  | '\t' => ['\\', 't']
  | '\n' => ['\\', 'n']
  | '\r' => ['\\', 'r']
  | '"' => ['\\', '"']
  | '\\' => ['\\', '\\']
  | c => if isPlain c then [c] else ['\\', 'u', '\x7b'] ++ hexDigits c.toNat ++ ['\x7d']

/-- `s` between double quotes, each character escaped as it needs. -/
def quoted (s : String) : String :=
  String.ofList ('"' :: s.toList.flatMap escape ++ ['"'])

end PacketRing.Text
