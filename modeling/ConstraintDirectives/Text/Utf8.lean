namespace ConstraintDirectives.Text.Utf8

abbrev ByteRange := Nat × Nat

private def span (k : Nat) : Nat := 1 <<< (6 * k)

/-- The numbers from `lo` to `hi` in base 64, with `k` digits after the first: as few sequences of
digit ranges as hold them, in ascending order. -/
def digitRanges : (k : Nat) → (lo hi : Nat) → List (List ByteRange)
  | 0, lo, hi => [[(lo, hi)]]
  | k + 1, lo, hi =>
    let s := span (k + 1)
    let first := lo / s
    let last := hi / s
    if first = last then
      (digitRanges k (lo % s) (hi % s)).map ((first, first) :: ·)
    else
      let fullFrom := if lo % s = 0 then first else first + 1
      let fullUpTo := if hi % s = s - 1 then last + 1 else last
      (if lo % s = 0 then [] else (digitRanges k (lo % s) (s - 1)).map ((first, first) :: ·)) ++
        (if fullFrom < fullUpTo then
          [(fullFrom, fullUpTo - 1) :: List.replicate (k + 1) (0, 0x3F)] else []) ++
        (if hi % s = s - 1 then [] else (digitRanges k 0 (hi % s)).map ((last, last) :: ·))

/-- The code points with `k` bytes after the first, and what their first byte adds to its digit. -/
def forms : List (Nat × Nat × Nat × Nat) :=
  [(0, 0, 0x7F, 0), (1, 0x80, 0x7FF, 0xC0), (2, 0x800, 0xFFFF, 0xE0), (3, 0x10000, 0x10FFFF, 0xF0)]

private def marked (leader : Nat) : List ByteRange → List ByteRange
  | [] => []
  | (lo, hi) :: rest => (lo + leader, hi + leader) :: rest.map fun (a, b) => (a + 0x80, b + 0x80)

/-- The byte sequences of a range of characters, in ascending order. -/
def sequences (lo hi : Nat) : List (List ByteRange) :=
  forms.flatMap fun (k, least, greatest, leader) =>
    if max lo least ≤ min hi greatest then
      (digitRanges k (max lo least) (min hi greatest)).map (marked leader)
    else []

/-- The bytes of one character. -/
def bytes (c : Char) : List Nat := (sequences c.toNat c.toNat).flatten.map (·.1)

end ConstraintDirectives.Text.Utf8
