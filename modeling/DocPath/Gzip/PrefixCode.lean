import DocPath.Gzip.BitReader

/-!
# Canonical prefix codes

A prefix code is given by the length of the code word of each symbol, zero for those without one. Code words
of one length are consecutive in the order of their symbols, and shorter words come first.
-/

namespace DocPath.Gzip

/-- How many words there are of each length from one on, and the symbols in the order of their words. -/
structure PrefixCode where
  counts : List Nat
  symbols : Array Nat

namespace PrefixCode

/-- The longest word of a code. -/
def maxLength : Nat := 15

/-- The share of all words of `maxLength` bits that start with a word of a code. -/
def coverage (counts : List Nat) : Nat := counts.foldl (fun total n => 2 * total + n) 0

/-- The code of the given lengths. Every row of bits has to start with exactly one word; a code of at most
one word is excepted where `mayBeSparse` holds. -/
def ofLengths? (mayBeSparse : Bool) (lengths : List Nat) : Option PrefixCode :=
  let counts := (List.range maxLength).map fun n => lengths.count (n + 1)
  let numbered := lengths.zipIdx
  let symbols := (List.range maxLength).flatMap fun n =>
    (numbered.filter (·.1 == n + 1)).map (·.2)
  if coverage counts == Nat.pow 2 maxLength || (mayBeSparse && symbols.length ≤ 1) then
    some ⟨counts, symbols.toArray⟩
  else none

/-- Looks for the word of which `word` has been read. `first` is the first word of the length reached, and
`before` the number of shorter words. -/
def readFrom (symbols : Array Nat) : (counts : List Nat) → (word first before : Nat) → BitReader →
    Option (Nat × BitReader)
  | [], _, _, _, _ => none
  | count :: counts, word, first, before, r => do
    let (bit, r) ← r.bit?
    let word := 2 * word + bit
    if word < first + count then
      let symbol ← symbols[before + (word - first)]?
      return (symbol, r)
    else readFrom symbols counts word (2 * (first + count)) (before + count) r

/-- Reads one symbol. -/
def read? (code : PrefixCode) (r : BitReader) : Option (Nat × BitReader) :=
  readFrom code.symbols code.counts 0 0 0 r

end PrefixCode

end DocPath.Gzip
