/-!
# SHA-256

`Sha256.digest` gives the 32 bytes of the digest of some bytes.
-/

namespace ClusterMonitor.Sha256

/-- The constants of the 64 rounds: fractions of the cube roots of the first primes. -/
def roundConstants : List UInt32 := [
  0x428a2f98, 0x71374491, 0xb5c0fbcf, 0xe9b5dba5, 0x3956c25b, 0x59f111f1,
  0x923f82a4, 0xab1c5ed5, 0xd807aa98, 0x12835b01, 0x243185be, 0x550c7dc3,
  0x72be5d74, 0x80deb1fe, 0x9bdc06a7, 0xc19bf174, 0xe49b69c1, 0xefbe4786,
  0x0fc19dc6, 0x240ca1cc, 0x2de92c6f, 0x4a7484aa, 0x5cb0a9dc, 0x76f988da,
  0x983e5152, 0xa831c66d, 0xb00327c8, 0xbf597fc7, 0xc6e00bf3, 0xd5a79147,
  0x06ca6351, 0x14292967, 0x27b70a85, 0x2e1b2138, 0x4d2c6dfc, 0x53380d13,
  0x650a7354, 0x766a0abb, 0x81c2c92e, 0x92722c85, 0xa2bfe8a1, 0xa81a664b,
  0xc24b8b70, 0xc76c51a3, 0xd192e819, 0xd6990624, 0xf40e3585, 0x106aa070,
  0x19a4c116, 0x1e376c08, 0x2748774c, 0x34b0bcb5, 0x391c0cb3, 0x4ed8aa4a,
  0x5b9cca4f, 0x682e6ff3, 0x748f82ee, 0x78a5636f, 0x84c87814, 0x8cc70208,
  0x90befffa, 0xa4506ceb, 0xbef9a3f7, 0xc67178f2]

/-- The eight working words. -/
structure Words where
  a : UInt32
  b : UInt32
  c : UInt32
  d : UInt32
  e : UInt32
  f : UInt32
  g : UInt32
  h : UInt32

/-- The words that a digest starts from: fractions of the square roots of the first primes. -/
def initial : Words :=
  ⟨0x6a09e667, 0xbb67ae85, 0x3c6ef372, 0xa54ff53a,
    0x510e527f, 0x9b05688c, 0x1f83d9ab, 0x5be0cd19⟩

/-- The bits of a word turned to the right. -/
def rotate (x : UInt32) (n : UInt32) : UInt32 := (x >>> n) ||| (x <<< (32 - n))

/-- Bytes as words, four bytes a word. -/
def wordsOf : List UInt8 → List UInt32
  | a :: b :: c :: d :: rest =>
    (a.toUInt32 <<< 24 ||| b.toUInt32 <<< 16 ||| c.toUInt32 <<< 8 ||| d.toUInt32) :: wordsOf rest
  | _ => []

/-- The bytes of a word. -/
def bytesOf (w : UInt32) : List UInt8 :=
  [(w >>> 24).toUInt8, (w >>> 16).toUInt8, (w >>> 8).toUInt8, w.toUInt8]

/-- Further words of a schedule. The last sixteen words are kept, the newest first. -/
def extend : Nat → List UInt32 → List UInt32
  | 0, _ => []
  | n + 1, last =>
    let x := last.getD 14 0
    let y := last.getD 1 0
    let s0 := rotate x 7 ^^^ rotate x 18 ^^^ (x >>> 3)
    let s1 := rotate y 17 ^^^ rotate y 19 ^^^ (y >>> 10)
    let w := last.getD 15 0 + s0 + last.getD 6 0 + s1
    w :: extend n (w :: last.take 15)

/-- The 64 words of a block's schedule. -/
def schedule (block : List UInt32) : List UInt32 := block ++ extend 48 block.reverse

/-- One round. -/
def Words.round (v : Words) (kw : UInt32) : Words :=
  let s1 := rotate v.e 6 ^^^ rotate v.e 11 ^^^ rotate v.e 25
  let ch := (v.e &&& v.f) ^^^ ((~~~v.e) &&& v.g)
  let t1 := v.h + s1 + ch + kw
  let s0 := rotate v.a 2 ^^^ rotate v.a 13 ^^^ rotate v.a 22
  let maj := (v.a &&& v.b) ^^^ (v.a &&& v.c) ^^^ (v.b &&& v.c)
  ⟨t1 + (s0 + maj), v.a, v.b, v.c, v.d + t1, v.e, v.f, v.g⟩

def Words.add (v w : Words) : Words :=
  ⟨v.a + w.a, v.b + w.b, v.c + w.c, v.d + w.d, v.e + w.e, v.f + w.f, v.g + w.g, v.h + w.h⟩

/-- Takes in one block of sixteen words. -/
def Words.block (v : Words) (block : List UInt32) : Words :=
  v.add ((roundConstants.zipWith (· + ·) (schedule block)).foldl Words.round v)

/-- Takes in blocks; `count` of them. -/
def Words.blocks : Nat → Words → List UInt32 → Words
  | 0, v, _ => v
  | n + 1, v, ws => Words.blocks n (v.block (ws.take 16)) (ws.drop 16)

/-- The bytes with a one bit, zeros, and their length in bits, up to whole blocks. -/
def padded (bytes : List UInt8) : List UInt8 :=
  let length := bytes.length
  let zeros := (119 - length % 64) % 64
  let bits := 8 * length
  bytes ++ [0x80] ++ List.replicate zeros 0 ++
    (List.range 8).map fun i => (bits / Nat.pow 256 (7 - i)).toUInt8

/-- The digest of some bytes. -/
def digest (bytes : List UInt8) : List UInt8 :=
  let ws := wordsOf (padded bytes)
  let v := Words.blocks (ws.length / 16) initial ws
  [v.a, v.b, v.c, v.d, v.e, v.f, v.g, v.h].flatMap bytesOf

end ClusterMonitor.Sha256
