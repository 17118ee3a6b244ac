import RunConditions.Text.Hidden

/-!
# Quoted texts

Messages show a text value between double quotes. Quotes and backslashes get a
backslash, the common controls their letter, and any other hidden character
its number in braces. A single quote stands for itself.
-/

set_option autoImplicit false

namespace RunConditions.Text

def quoteChar (c : Char) : List Char :=
  match c with
  | '\x00' => ['\\', '0']
  | '\t' => ['\\', 't']
  | '\n' => ['\\', 'n']
  | '\r' => ['\\', 'r']
  | '"' => ['\\', '"']
  | '\\' => ['\\', '\\']
  | c =>
    if isHidden c then ['\\', 'u', '\x7b'] ++ Nat.toDigits 16 c.toNat ++ ['\x7d'] else [c]

def quoted (s : String) : String :=
  String.ofList (['"'] ++ s.toList.flatMap quoteChar ++ ['"'])

end RunConditions.Text
