import DocPath.Gzip.Inflate

/-!
# Gzip members

A member is a header, compressed data, and the checksum and size of what it decompresses to. Bytes after it
do not matter.
-/

namespace DocPath.Gzip

/-- Shifts bits out of a checksum, reducing it by the polynomial for each one that is set. -/
def crcBits : (count : Nat) → UInt32 → UInt32
  | 0, crc => crc
  | count + 1, crc =>
    crcBits count (if crc &&& 1 == 1 then (crc >>> 1) ^^^ 0xEDB88320 else crc >>> 1)

/-- The cyclic redundancy checksum of bytes. -/
def crc32 (data : ByteArray) : UInt32 :=
  (data.foldl (fun crc byte => crcBits 8 (crc ^^^ byte.toUInt32)) 0xFFFFFFFF) ^^^ 0xFFFFFFFF

/-- The two bytes with which a member starts. -/
def hasMagic (data : ByteArray) : Bool := data[0]? == some 0x1F && data[1]? == some 0x8B

/-- Moves over bytes up to and with a zero. -/
def skipText? : (fuel : Nat) → BitReader → Option BitReader
  | 0, _ => none
  | fuel + 1, r => do
    let (byte, r) ← r.bits? 8
    if byte == 0 then return r else skipText? fuel r

/-- Reads a header: the magic bytes, the only method, and flags for the parts that may follow. These are
extra data, a name, a comment and a checksum of the header. -/
def readHeader? (r : BitReader) : Option BitReader := do
  if !hasMagic r.data then none
  let (fixed, r) ← r.bytes? 10
  let flags := (fixed[3]?.getD 0).toNat
  let has (flag : Nat) : Bool := flags / flag % 2 == 1
  if fixed[2]? != some 8 || flags ≥ 32 then none
  let r ←
    if has 4 then do
      let (length, r) ← r.bits? 16
      let (_, r) ← r.bytes? length
      some r
    else some r
  let r ← if has 8 then skipText? (r.data.size + 1) r else some r
  let r ← if has 16 then skipText? (r.data.size + 1) r else some r
  if has 2 then do
    let sum := (crc32 (r.data.extract 0 (r.position / 8))).toNat % 0x10000
    let (given, r) ← r.bits? 16
    if given == sum then some r else none
  else some r

/-- The content of the first member of some data. -/
def decompress? (data : ByteArray) : Option ByteArray := do
  let r ← readHeader? ⟨data, 0⟩
  let (content, r) ← inflate? r
  let (sum, r) ← r.align.bits? 32
  let (size, _) ← r.bits? 32
  if sum == (crc32 content).toNat && size == content.size % 0x100000000 then some content else none

end DocPath.Gzip
