import ConstraintDirectives.Value.Basic

namespace ConstraintDirectives

inductive PathStep where
  | key (name : String)
  | index (i : Nat)
  deriving DecidableEq

abbrev ValuePath := List PathStep

namespace ValuePath

def root : ValuePath := []

def argument (name : String) : ValuePath := [.key name]

def push (path : ValuePath) (s : PathStep) : ValuePath := path ++ [s]

def pop (path : ValuePath) : ValuePath := path.dropLast

@[simp] theorem pop_push (path : ValuePath) (s : PathStep) : (path.push s).pop = path := by
  simp [push, pop]

def segmentText : PathStep → String
  | .key name => "." ++ name
  | .index i => "[" ++ toString i ++ "]"

/-- A key that comes first stands without its point. -/
def text : ValuePath → String
  | [] => "$"
  | .key name :: rest => name ++ String.join (rest.map segmentText)
  | segments => String.join (segments.map segmentText)

end ValuePath
end ConstraintDirectives
