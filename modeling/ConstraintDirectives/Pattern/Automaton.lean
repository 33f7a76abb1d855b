import ConstraintDirectives.Pattern.Expression
import ConstraintDirectives.Text.Utf8
import Std.Data.HashMap

/-! How large the automata of an expression are. A pattern is refused if one of them takes more than ten
megabytes. -/
namespace ConstraintDirectives.Automaton
open Text

/-- The states of an automaton under construction, numbered from zero, and the space they take. -/
structure Size where
  states : Nat
  bytes : Nat

def limit : Nat := 10 * 1024 * 1024

def stateBytes : Nat := 32

/-- For each range of bytes that a state distinguishes. -/
def rangeBytes : Nat := 8

/-- For each state that another one leads to without reading. -/
def branchBytes : Nat := 4

inductive Direction where
  | forward
  | backward
  deriving DecidableEq

namespace Size

def empty : Size := ⟨0, 0⟩

/-- Adds a state that takes some space beyond its own, unless the limit is passed. -/
def addWith? (s : Size) (extra : Nat) : Option Size :=
  let bytes := s.bytes + stateBytes + extra
  if bytes ≤ limit then some ⟨s.states + 1, bytes⟩ else none

def add? (s : Size) : Option Size := s.addWith? 0

/-- Adds some space to states that are there. -/
def grow? (s : Size) (extra : Nat) : Option Size :=
  let bytes := s.bytes + extra
  if bytes ≤ limit then some { s with bytes } else none

def addAll? (s : Size) (n : Nat) : Option Size :=
  let bytes := s.bytes + n * stateBytes
  if bytes ≤ limit then some ⟨s.states + n, bytes⟩ else none

def addBranching? (s : Size) (branches : Nat) : Option Size := s.addWith? (branches * branchBytes)

def addRanges? (s : Size) (ranges : Nat) : Option Size := s.addWith? (ranges * rangeBytes)

end Size

/-- A hash of some numbers. -/
def hash (ns : List Nat) : UInt64 :=
  ns.foldl (fun h n => (h ^^^ .ofNat n) * 1099511628211) 14695981039346656037

/-- The states that were made for some keys. There is a limited number of slots, and a new entry
takes the place of an older one in its slot. -/
structure Memo where
  slots : Nat
  entries : Std.HashMap UInt64 (List Nat × Nat) := {}

namespace Memo

def slot (m : Memo) (key : List Nat) : UInt64 := hash key % .ofNat m.slots

def get? (m : Memo) (key : List Nat) : Option Nat :=
  match m.entries[m.slot key]? with
  | some (k, state) => if k = key then some state else none
  | none => none

def insert (m : Memo) (key : List Nat) (state : Nat) : Memo :=
  { m with entries := m.entries.insert (m.slot key) (key, state) }

end Memo

private def choice? (edges : List (Utf8.ByteRange × Nat)) :
    (Size × Memo) → Option (Nat × Size × Memo)
  | (s, memo) =>
    let key := edges.flatMap fun ((lo, hi), next) => [lo, hi, next]
    -- an equal state that is still known serves again
    match memo.get? key with
    | some state => some (state, s, memo)
    | none => (s.addRanges? edges.length).map fun s' => (s.states, s', memo.insert key s.states)

private def forwardState? (target : Nat) :
    (depth : Nat) → List (List Utf8.ByteRange) → (Size × Memo) → Option (Nat × Size × Memo)
  | 0, _, (s, memo) => some (target, s, memo)
  | depth + 1, sequences, made => do
    let groups := sequences.splitBy fun a b => a.head? == b.head?
    let (edges, made) ← groups.foldlM (fun (edges, made) group => do
      match group with
      | (range :: first :: rest) :: others =>
        let backs := (first :: rest) :: others.map (·.drop 1)
        let (state, made) ← forwardState? target depth backs made
        return ((range, state) :: edges, made)
      | [range] :: _ => return ((range, target) :: edges, made)
      | _ => return (edges, made)) ([], made)
    choice? edges.reverse made

def forwardSet? (sequences : List (List Utf8.ByteRange)) (s : Size) : Option Size := do
  let (_, s, _) ← forwardState? s.states 4 sequences (← s.add?, ⟨10000, {}⟩)
  return s

private def backwardSequence? (target : Nat) (sequence : List Utf8.ByteRange)
    (made : Size × Memo) : Option (Size × Memo) := do
  let (_, s, memo) ← sequence.foldlM (fun (next, s, memo) (lo, hi) =>
    let key := [next, lo, hi]
    match memo.get? key with
    | some state => some (state, s, memo)
    | none => s.add?.map fun s' => (s.states, s', memo.insert key s.states)) (target, made)
  return (← s.grow? branchBytes, memo)

def backwardSet? (sequences : List (List Utf8.ByteRange)) (s : Size) : Option Size := do
  let s ← s.add?
  let made ← sequences.foldlM (fun made sequence => backwardSequence? s.states sequence made)
    (← s.add?, ⟨1000, {}⟩)
  return made.1

/-- The states that read one character of a set. -/
def set? (d : Direction) (set : CodeRanges) (s : Size) : Option Size :=
  if set.isAscii then do (← s.add?).addRanges? set.length
  else
    let sequences := set.flatMap fun (lo, hi) => Utf8.sequences lo hi
    match d with
    | .forward => forwardSet? sequences s
    | .backward => backwardSet? sequences s

private def segments : List (List Nat) → List (List (List Nat)) × Nat
  | [] => ([[]], 0)
  | [] :: words =>
    let (found, empties) := segments words
    ([] :: found, empties + 1)
  | word :: words =>
    match segments words with
    | (segment :: found, empties) => ((word :: segment) :: found, empties)
    | ([], empties) => ([[word]], empties)

private def withoutRepeats : List (List Nat) → List (List Nat)
  | [] :: words => [] :: words.dropWhile (·.isEmpty)
  | words => words

private def words? : (depth : Nat) → List (List Nat) → Size → Option Size
  | 0, _, s => some s
  | depth + 1, words, s => do
    -- words that go on after another word has ended are told apart anew
    let (found, ends) := segments (withoutRepeats words)
    let found := found.filter (!·.isEmpty)
    let s ← found.foldlM (fun s segment => do
      let firsts := (segment.filterMap (·.head?)).eraseDups
      let s ← firsts.foldlM (fun s b =>
        let backs := (segment.filter (·.head? == some b)).map (·.drop 1)
        if backs.all (·.isEmpty) then some s else words? depth backs s) s
      if firsts.length = 1 then s.add? else s.addRanges? firsts.length) s
    s.addBranching? (found.length + ends)

private def literal? : Expression → Option (List Nat)
  | .literal cs => some (cs.flatMap Utf8.bytes)
  | _ => none

/-- Alternatives that are all literals share their fronts. -/
def literals? (d : Direction) (literals : List (List Nat)) (s : Size) : Option Size := do
  let words := match d with
    | .forward => literals
    | .backward => literals.map (·.reverse)
  words? ((words.map (·.length)).foldl max 0) words (← s.add?)

private def times? (step : Size → Option Size) : Nat → Size → Option Size
  | 0, s => some s
  | n + 1, s =>
    match step s with
    | some s => times? step n s
    | none => none

private def exactly? (step : Size → Option Size) (n : Nat) (s : Size) : Option Size :=
  if n = 0 then s.add? else times? step n s

private def repeated? (step : Size → Option Size) (mayBeEmpty : Bool) (s : Size) :
    (least : Nat) → (most : Option Nat) → Option Size
  | 0, some 1 => do (← step (← s.addBranching? 2)).add?
  | 0, none =>
    if mayBeEmpty then do (← (← (← step s).addBranching? 2).addBranching? 2).add?
    else do step (← s.addBranching? 2)
  | 1, none => do (← step s).addBranching? 2
  | least + 2, none => do (← step (← times? step (least + 1) s)).addBranching? 2
  | least, some most => do
    let s ← exactly? step least s
    if least = most then return s
    else times? (fun s => do step (← s.addBranching? 2)) (most - least) (← s.add?)

mutual
/-- Adds the states of an expression. -/
def build? (d : Direction) : Expression → Size → Option Size
  | .empty, s | .anchor _, s => s.add?
  | .literal cs, s => s.addAll? (cs.flatMap Utf8.bytes).length
  | .oneOf set, s => set? d set s
  | .repeated r least most _, s =>
    repeated? (build? d r) (!r.shortest?.any (0 < ·)) s least most
  | .group r, s =>
    match d with
    | .forward => do (← build? d r (← s.add?)).add?
    | .backward => build? d r s
  | .sequence rs, s => buildSequence? d rs s
  | .alternatives rs, s =>
    match rs.mapM literal? with
    | some literals => literals? d literals s
    | none => buildBranches? d rs.length 0 rs s

/-- Adds the parts of a sequence in the order in which they are read. -/
def buildSequence? (d : Direction) : List Expression → Size → Option Size
  | [], s => some s
  | r :: rs, s =>
    match d with
    | .forward => do buildSequence? d rs (← build? d r s)
    | .backward => do build? d r (← buildSequence? d rs s)

/-- Adds branches, and after the second one the states where `count` branches part and meet. -/
def buildBranches? (d : Direction) (count done : Nat) : List Expression → Size → Option Size
  | [], s => some s
  | r :: rs, s => do
    let s ← build? d r s
    let s ← if done = 1 then (← s.addBranching? count).add? else some s
    buildBranches? d count (done + 1) rs s
end

private def lead? (isAnchored : Bool) (s : Size) : Option Size :=
  if isAnchored then s.add? else do (← (← s.addBranching? 2).add?).addRanges? 1

/-- The whole automaton for matches anywhere in a text. -/
def whole? (d : Direction) (r : Expression) : Option Size := do
  match d with
  | .forward => (← build? d (.group r) (← lead? r.isStartAnchored .empty)).add?
  | .backward => (← build? d r (← lead? r.isEndAnchored .empty)).add?

/-- Whether both automata of an expression are small enough. -/
def fits (r : Expression) : Bool := (whole? .forward r).isSome && (whole? .backward r).isSome

end ConstraintDirectives.Automaton
