/-!
# Checksums

* `crc32` — the cyclic checksum of a list of bytes, with its usual polynomial.
* `adler32` — the sum of the bytes, and the sum of those sums.
-/

namespace Montage.Coding

/-- The polynomial, lowest power first. -/
def crcPolynomial : UInt32 := 0xEDB88320

/-- One bit on. -/
def crcShift (r : UInt32) : UInt32 :=
  if r &&& 1 = 1 then (r >>> 1).xor crcPolynomial else r >>> 1

/-- One byte on. -/
def crcStep (r : UInt32) (b : UInt8) : UInt32 :=
  crcShift (crcShift (crcShift (crcShift (crcShift (crcShift (crcShift (crcShift
    (r.xor b.toUInt32))))))))

/-- The checksum at the end of a gzip body. -/
def crc32 (bytes : ByteArray) : Nat :=
  ((bytes.foldl crcStep 0xFFFFFFFF).xor 0xFFFFFFFF).toNat

/-- The greatest prime below 65536. -/
def adlerModulus : Nat := 65521

/-- Both sums, one byte on. -/
def adlerStep (sums : Nat × Nat) (b : UInt8) : Nat × Nat :=
  let plain := (sums.1 + b.toNat) % adlerModulus
  (plain, (sums.2 + plain) % adlerModulus)

/-- The checksum at the end of a zlib body. -/
def adler32 (bytes : ByteArray) : Nat :=
  let sums := bytes.foldl adlerStep (1, 0)
  sums.2 * 65536 + sums.1

end Montage.Coding
