import ClusterProbe.Text.Printable

/-!
# Quoted text

A text in double quotes, for messages and log fields: tab, line ends, NUL, the quote and the
backslash have short escapes, and every character without a visible form of its own is written by
its code point. Single quotes stay as they are.
-/
namespace ClusterProbe.Text

/-- Lower-case hexadecimal digits without leading zeros. -/
def hexText (n : Nat) : List Char :=
  Nat.toDigits 16 n

def quoteChar (c : Char) : List Char :=
  match c with
  | '\t' => ['\\', 't']
  | '\r' => ['\\', 'r']
  | '\n' => ['\\', 'n']
  | '\x00' => ['\\', '0']
  | '"' => ['\\', '"']
  | '\\' => ['\\', '\\']
  | _ =>
    if isPrintable c && !isGraphemeExtend c then [c]
    else ['\\', 'u', '\x7b'] ++ hexText c.toNat ++ ['\x7d']

def quoted (s : String) : String :=
  String.ofList ('"' :: s.toList.flatMap quoteChar ++ ['"'])

end ClusterProbe.Text
