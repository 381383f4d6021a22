/-!
# Lenient UTF-8

`decodeLossy` reads bytes as UTF-8 and never fails: each maximal invalid part becomes one
replacement character. A part is maximal when it is the longest start of some valid sequence, and
else a single byte.

`encode` writes characters as bytes.
-/

namespace ClusterMonitor.Text

/-- The character that stands for an invalid part. -/
def replacementChar : Char := '\uFFFD'

/-- Is the byte between two bounds? -/
def isBetween (low high : Nat) (b : UInt8) : Bool := low ≤ b.toNat && b.toNat ≤ high

/-- May the byte continue a sequence? -/
def isContinuation (b : UInt8) : Bool := isBetween 0x80 0xBF b

/-- The bounds of the second byte after a first byte, and how many bytes follow the second; nothing
for a byte that starts no longer sequence. -/
def sequenceShape? (first : UInt8) : Option (Nat × Nat × Nat) :=
  let n := first.toNat
  if 0xC2 ≤ n ∧ n ≤ 0xDF then some (0x80, 0xBF, 0)
  else if n = 0xE0 then some (0xA0, 0xBF, 1)
  else if n = 0xED then some (0x80, 0x9F, 1)
  else if 0xE1 ≤ n ∧ n ≤ 0xEF then some (0x80, 0xBF, 1)
  else if n = 0xF0 then some (0x90, 0xBF, 2)
  else if 0xF1 ≤ n ∧ n ≤ 0xF3 then some (0x80, 0xBF, 2)
  else if n = 0xF4 then some (0x80, 0x8F, 2)
  else none

/-- The low six bits of a continuation byte. -/
def payload (b : UInt8) : Nat := b.toNat % 64

/-- Reads bytes as UTF-8, with a replacement character for each maximal invalid part. -/
def decodeLossy : List UInt8 → List Char
  | [] => []
  | a :: rest =>
    if a.toNat < 0x80 then Char.ofNat a.toNat :: decodeLossy rest
    else
      match sequenceShape? a with
      | none => replacementChar :: decodeLossy rest
      | some (low, high, more) =>
        match rest with
        | [] => [replacementChar]
        | b :: rest' =>
          if !isBetween low high b then replacementChar :: decodeLossy (b :: rest')
          else if more = 0 then
            Char.ofNat (a.toNat % 32 * 64 + payload b) :: decodeLossy rest'
          else
            match rest' with
            | [] => [replacementChar]
            | c :: rest'' =>
              if !isContinuation c then replacementChar :: decodeLossy (c :: rest'')
              else if more = 1 then
                Char.ofNat (a.toNat % 16 * 4096 + payload b * 64 + payload c) :: decodeLossy rest''
              else
                match rest'' with
                | [] => [replacementChar]
                | d :: rest''' =>
                  if !isContinuation d then replacementChar :: decodeLossy (d :: rest''')
                  else
                    Char.ofNat (a.toNat % 8 * 262144 + payload b * 4096 + payload c * 64 +
                      payload d) :: decodeLossy rest'''
termination_by bytes => bytes.length

/-- The bytes of a character. -/
def encodeChar (c : Char) : List UInt8 :=
  let n := c.toNat
  if n < 0x80 then [n.toUInt8]
  else if n < 0x800 then [(0xC0 + n / 64).toUInt8, (0x80 + n % 64).toUInt8]
  else if n < 0x10000 then
    [(0xE0 + n / 4096).toUInt8, (0x80 + n / 64 % 64).toUInt8, (0x80 + n % 64).toUInt8]
  else
    [(0xF0 + n / 262144).toUInt8, (0x80 + n / 4096 % 64).toUInt8, (0x80 + n / 64 % 64).toUInt8,
      (0x80 + n % 64).toUInt8]

/-- The bytes of a text. -/
def encode (s : String) : List UInt8 := s.toList.flatMap encodeChar

/-- The text of bytes that are valid UTF-8. -/
def decode? (bytes : List UInt8) : Option String :=
  let cs := decodeLossy bytes
  if cs.flatMap encodeChar = bytes then some (String.ofList cs) else none

end ClusterMonitor.Text
