import ConstraintDirectives.Json.Basic

/-! The order-free form of a document: members sorted by name, the last of a repeated name kept. -/
namespace ConstraintDirectives.Json

/-- Stores a member in its place; a member of the same name is replaced. -/
def insertSorted (k : String) (j : Json) : List (String × Json) → List (String × Json)
  | [] => [(k, j)]
  | (k', j') :: ms =>
    if k = k' then (k, j) :: ms
    else if k < k' then (k, j) :: (k', j') :: ms
    else (k', j') :: insertSorted k j ms

mutual
def sorted : Json → Json
  | .array items => .array (sortedItems items)
  | .object members => .object (sortedMembers [] members)
  | j => j

def sortedItems : List Json → List Json
  | [] => []
  | x :: xs => x.sorted :: sortedItems xs

/-- Stores members one by one into those already sorted. -/
def sortedMembers (done : List (String × Json)) : List (String × Json) → List (String × Json)
  | [] => done
  | (k, x) :: ms => sortedMembers (insertSorted k x.sorted done) ms
end

end ConstraintDirectives.Json
