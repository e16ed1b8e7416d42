import DocPath.Gzip.PrefixCode

/-!
# Decompression

Compressed data is a row of blocks, stored as they are or as literals and copies of earlier bytes under two
prefix codes. The codes are fixed ones or come with the block.
-/

namespace DocPath.Gzip

/-- The least length or distance of each class, and the number of further bits that are added to it. -/
abbrev Classes := List (Nat × Nat)

/-- The classes of copy lengths, for the symbols from 257 on. -/
def lengthClasses : Classes :=
  [(3, 0), (4, 0), (5, 0), (6, 0), (7, 0), (8, 0), (9, 0), (10, 0), (11, 1), (13, 1), (15, 1), (17, 1), (19, 2),
    (23, 2), (27, 2), (31, 2), (35, 3), (43, 3), (51, 3), (59, 3), (67, 4), (83, 4), (99, 4), (115, 4), (131, 5),
    (163, 5), (195, 5), (227, 5), (258, 0)]

/-- The classes of copy distances. -/
def distanceClasses : Classes :=
  [(1, 0), (2, 0), (3, 0), (4, 0), (5, 1), (7, 1), (9, 2), (13, 2), (17, 3), (25, 3), (33, 4), (49, 4), (65, 5),
    (97, 5), (129, 6), (193, 6), (257, 7), (385, 7), (513, 8), (769, 8), (1025, 9), (1537, 9), (2049, 10),
    (3073, 10), (4097, 11), (6145, 11), (8193, 12), (12289, 12), (16385, 13), (24577, 13)]

/-- Reads the rest of a length or distance of which the class is known. -/
def readClass? (classes : Classes) (symbol : Nat) (r : BitReader) : Option (Nat × BitReader) := do
  let (least, width) ← classes[symbol]?
  let (more, r) ← r.bits? width
  return (least + more, r)

/-- The code of literals and lengths, and the code of distances. -/
structure BlockCodes where
  literals : PrefixCode
  distances : PrefixCode

/-- The codes of blocks that bring none. -/
def fixedCodes? : Option BlockCodes := do
  let lengths :=
    List.replicate 144 8 ++ List.replicate 112 9 ++ List.replicate 24 7 ++ List.replicate 8 8
  return ⟨← PrefixCode.ofLengths? true lengths, ← PrefixCode.ofLengths? true (List.replicate 32 5)⟩

/-- The order in which the lengths for the code of code lengths are given. -/
def lengthOrder : List Nat := [16, 17, 18, 0, 8, 7, 9, 6, 10, 5, 11, 4, 12, 3, 13, 2, 14, 1, 15]

/-- Reads numbers of three bits. -/
def readTriples? : (count : Nat) → BitReader → Option (List Nat × BitReader)
  | 0, r => some ([], r)
  | count + 1, r => do
    let (first, r) ← r.bits? 3
    let (rest, r) ← readTriples? count r
    return (first :: rest, r)

/-- Reads `count` code lengths under a code of their own, in which three symbols repeat the last length or
zero. `done` are those read so far, the last one first. -/
def readLengths? (code : PrefixCode) (count : Nat) : (fuel : Nat) → (done : List Nat) → BitReader →
    Option (List Nat × BitReader)
  | 0, _, _ => none
  | fuel + 1, done, r =>
    if count < done.length then none
    else if done.length == count then some (done.reverse, r)
    else do
      let (symbol, r) ← code.read? r
      match symbol with
      | 16 => do
        let (n, r) ← r.bits? 2
        let last ← done.head?
        readLengths? code count fuel (List.replicate (n + 3) last ++ done) r
      | 17 => do
        let (n, r) ← r.bits? 3
        readLengths? code count fuel (List.replicate (n + 3) 0 ++ done) r
      | 18 => do
        let (n, r) ← r.bits? 7
        readLengths? code count fuel (List.replicate (n + 11) 0 ++ done) r
      | length => readLengths? code count fuel (length :: done) r

/-- Reads the codes that a block brings. -/
def readCodes? (r : BitReader) : Option (BlockCodes × BitReader) := do
  let (literals, r) ← r.bits? 5
  let (distances, r) ← r.bits? 5
  let (given, r) ← r.bits? 4
  let (triples, r) ← readTriples? (given + 4) r
  let assigned := lengthOrder.zip triples
  let lengths := (List.range 19).map fun symbol => (assigned.lookup symbol).getD 0
  let code ← PrefixCode.ofLengths? false lengths
  let first := literals + 257
  let total := first + (distances + 1)
  let (lengths, r) ← readLengths? code total (total + 1) [] r
  let literalCode ← PrefixCode.ofLengths? true (lengths.take first)
  let distanceCode ← PrefixCode.ofLengths? true (lengths.drop first)
  return (⟨literalCode, distanceCode⟩, r)

/-- Appends `count` bytes, each a copy of the one `distance` before it. -/
def copyBytes (distance : Nat) : (count : Nat) → ByteArray → ByteArray
  | 0, out => out
  | count + 1, out => copyBytes distance count (out.push (out[out.size - distance]?.getD 0))

/-- Reads symbols up to the end of a block. -/
def readSymbols? (codes : BlockCodes) : (fuel : Nat) → ByteArray → BitReader →
    Option (ByteArray × BitReader)
  | 0, _, _ => none
  | fuel + 1, out, r => do
    let (symbol, r) ← codes.literals.read? r
    if symbol < 256 then readSymbols? codes fuel (out.push (UInt8.ofNat symbol)) r
    else if symbol == 256 then return (out, r)
    else
      let (length, r) ← readClass? lengthClasses (symbol - 257) r
      let (symbol, r) ← codes.distances.read? r
      let (distance, r) ← readClass? distanceClasses symbol r
      if out.size < distance then none
      else readSymbols? codes fuel (copyBytes distance length out) r

/-- Reads a stored block: its length twice, the second time with all bits changed, and its bytes. -/
def readStored? (out : ByteArray) (r : BitReader) : Option (ByteArray × BitReader) := do
  let (length, r) ← r.align.bits? 16
  let (complement, r) ← r.bits? 16
  if length + complement != 0xFFFF then none
  let (bytes, r) ← r.bytes? length
  return (out ++ bytes, r)

/-- Reads one block of the given type. -/
def readBlock? (type : Nat) (out : ByteArray) (r : BitReader) : Option (ByteArray × BitReader) :=
  let fuel := r.data.size * 8 + 1
  match type with
  | 0 => readStored? out r
  | 1 => do readSymbols? (← fixedCodes?) fuel out r
  | 2 => do
    let (codes, r) ← readCodes? r
    readSymbols? codes fuel out r
  | _ => none

/-- Reads blocks up to the one that is marked as the last. -/
def readBlocks? : (fuel : Nat) → ByteArray → BitReader → Option (ByteArray × BitReader)
  | 0, _, _ => none
  | fuel + 1, out, r => do
    let (last, r) ← r.bit?
    let (type, r) ← r.bits? 2
    let (out, r) ← readBlock? type out r
    if last == 1 then return (out, r) else readBlocks? fuel out r

/-- Decompresses data; the reader is left behind its last bit. -/
def inflate? (r : BitReader) : Option (ByteArray × BitReader) :=
  readBlocks? (r.data.size * 8 + 1) .empty r

end DocPath.Gzip
