import ConstraintDirectives.Binary64.Shortest

/-! JSON documents and their compact text. Members stay in written order, repeats included. -/
namespace ConstraintDirectives

inductive Json where
  | null
  | bool (b : Bool)
  | integer (i : Int)
  | real (x : Binary64)
  | string (s : String)
  | array (items : List Json)
  | object (members : List (String × Json))
  /-- A number that is too large, half of a character, or containers nested too deeply. -/
  | unreadable
  deriving Inhabited

namespace Json

def hexDigit (n : Nat) : Char := if n < 10 then .ofNat (48 + n) else .ofNat (87 + n)

def escape (c : Char) : List Char :=
  match c with
  | '"' => ['\\', '"']
  | '\\' => ['\\', '\\']
  | '\x08' => ['\\', 'b']
  | '\x0c' => ['\\', 'f']
  | '\n' => ['\\', 'n']
  | '\r' => ['\\', 'r']
  | '\t' => ['\\', 't']
  | c =>
    if c.toNat < 0x20 then ['\\', 'u', '0', '0', hexDigit (c.toNat / 16), hexDigit (c.toNat % 16)]
    else [c]

def quoted (s : String) : String := "\"" ++ String.ofList (s.toList.flatMap escape) ++ "\""

/-- JSON writes no infinity and no NaN; null takes their place. -/
def ofNumber (x : Binary64) : Json := if x.isFinite then .real x else .null

mutual
def render : Json → String
  | .null | .unreadable => "null"
  | .bool b => if b then "true" else "false"
  | .integer i => toString i
  | .real x => NumberLayout.json.text x
  | .string s => quoted s
  | .array items => "[" ++ ",".intercalate (renderItems items) ++ "]"
  | .object members => "\x7b" ++ ",".intercalate (renderMembers members) ++ "\x7d"

def renderItems : List Json → List String
  | [] => []
  | x :: xs => x.render :: renderItems xs

def renderMembers : List (String × Json) → List String
  | [] => []
  | (k, x) :: xs => (quoted k ++ ":" ++ x.render) :: renderMembers xs
end

end Json
end ConstraintDirectives
