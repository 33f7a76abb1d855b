import ConstraintDirectives.Text.Printable

namespace ConstraintDirectives.Text

private def codePoint (c : Char) : String :=
  "\\u\x7b" ++ String.ofList (Nat.toDigits 16 c.toNat) ++ "\x7d"

private def escape (c : Char) : String :=
  match c with
  | '\x00' => "\\0"
  | '\t' => "\\t"
  | '\r' => "\\r"
  | '\n' => "\\n"
  | '"' => "\\\""
  | '\\' => "\\\\"
  | c => if isPlain c then c.toString else codePoint c

def quoted (s : String) : String := "\"" ++ String.join (s.toList.map escape) ++ "\""

end ConstraintDirectives.Text
