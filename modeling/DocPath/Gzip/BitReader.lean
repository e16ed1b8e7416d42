/-!
# Reading bits

Bytes as a sequence of bits, the lowest bit of each byte first. Numbers have their lowest bit first.
-/

namespace DocPath.Gzip

/-- Bytes and the number of bits read from them. -/
structure BitReader where
  data : ByteArray
  position : Nat

namespace BitReader

/-- Reads one bit. -/
def bit? (r : BitReader) : Option (Nat × BitReader) :=
  match r.data[r.position / 8]? with
  | none => none
  | some byte => some ((byte.toNat >>> (r.position % 8)) % 2, { r with position := r.position + 1 })

/-- Reads a number of `width` bits. -/
def bits? : (width : Nat) → BitReader → Option (Nat × BitReader)
  | 0, r => some (0, r)
  | width + 1, r => do
    let (low, r) ← r.bit?
    let (high, r) ← bits? width r
    return (low + 2 * high, r)

/-- Moves on to the start of a byte. -/
def align (r : BitReader) : BitReader := { r with position := (r.position + 7) / 8 * 8 }

/-- Reads whole bytes from the start of a byte. -/
def bytes? (count : Nat) (r : BitReader) : Option (ByteArray × BitReader) :=
  let first := r.position / 8
  if first + count ≤ r.data.size then
    some (r.data.extract first (first + count), { r with position := (first + count) * 8 })
  else none

end BitReader

end DocPath.Gzip
