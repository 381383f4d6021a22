import ClusterMonitor.Text.Lines
import ClusterMonitor.Text.Number
import ClusterMonitor.Text.Utf8
import ClusterMonitor.Url.DomainName

/-!
# Hosts

The host of a URL: a domain name, or an address of either kind.

* `Ipv4.read?` — addresses with one to four parts, each decimal, octal or hexadecimal.
* `Ipv6.read?` — eight pieces, one run of zeros left out, the last two pieces as an address of four
  parts if wanted; `Ipv6.text` leaves out the longest run of zeros.
* `Host.ofText?` — the host that a text names, and `Host.text` its usual form.
-/

namespace ClusterMonitor

/-- Why a text is no URL that can be used. -/
inductive UrlFault where
  | relative
  | emptyHost
  | invalidDomain
  | invalidDomainCharacter
  | invalidIpv4
  | invalidIpv6
  | invalidPort
  /-- A URL of a scheme that is not spoken here. -/
  | foreignScheme (scheme : String)
deriving DecidableEq, Repr

namespace Ipv4

/-- A part of an address: hexadecimal after `0x`, octal after `0`, else decimal. -/
def part? : List Char → Option Nat
  | [] => none
  | '0' :: 'x' :: cs => Text.numberInBase? 16 cs
  | '0' :: 'X' :: cs => Text.numberInBase? 16 cs
  | '0' :: c :: cs => Text.numberInBase? 8 (c :: cs)
  | cs => Text.numberInBase? 10 cs

/-- The parts of a name, without an empty one at the end. -/
def partsOf (cs : List Char) : List (List Char) :=
  let parts := Text.splitAt '.' cs
  if parts.length > 1 ∧ parts.getLast? = some [] then parts.dropLast else parts

/-- Does a name end in a number, so that it has to be an address? -/
def isMeant (cs : List Char) : Bool :=
  match (partsOf cs).getLast? with
  | none => false
  | some [] => false
  | some part => part.all Char.isDigit || (part? part).isSome

/-- An address as a number: the last part fills all places that the others leave. -/
def read? (cs : List Char) : Option Nat := do
  let parts := partsOf cs
  if 4 < parts.length then none
  let numbers ← parts.mapM part?
  let last ← numbers.getLast?
  let front := numbers.dropLast
  if Nat.pow 256 (4 - front.length) ≤ last ∨ front.any (255 < ·) then none
  return front.zipIdx.foldl (fun sum (n, i) => sum + n * Nat.pow 256 (3 - i)) last

/-- The address with four decimal parts. -/
def text (address : Nat) : String :=
  ".".intercalate <|
    [3, 2, 1, 0].map fun i => toString (address / Nat.pow 256 i % 256)

end Ipv4

namespace Ipv6

/-- A piece of up to four hexadecimal digits, and what follows it. -/
def takePiece (cs : List Char) : List Char × List Char :=
  let digits := (cs.take 4).takeWhile fun c => (Text.hexValue? c).isSome
  (digits, cs.drop digits.length)

def pieceValue (digits : List Char) : Nat :=
  digits.foldl (fun n c => n * 16 + (Text.hexValue? c).getD 0) 0

/-- A decimal part up to 255 that starts with no superfluous zero. -/
def decimalPart? (cs : List Char) : Option Nat :=
  if cs.isEmpty ∨ !cs.all Char.isDigit ∨ (1 < cs.length ∧ cs.head? = some '0') then none
  else
    match Text.numberInBase? 10 cs with
    | some n => if n ≤ 255 then some n else none
    | none => none

/-- The two pieces that an address of four decimal parts stands for. -/
def decimalPieces? (cs : List Char) : Option (List Nat) :=
  match (Text.splitAt '.' cs).mapM decimalPart? with
  | some [a, b, c, d] => some [a * 256 + b, c * 256 + d]
  | _ => none

/-- The pieces before and after the run that is left out, if one is. -/
structure Pieces where
  front : List Nat
  back : Option (List Nat)
deriving DecidableEq, Repr

namespace Pieces

def count (p : Pieces) : Nat := p.front.length + (p.back.getD []).length + p.back.toList.length

/-- Adds pieces at the end. -/
def add (p : Pieces) (pieces : List Nat) : Pieces :=
  match p.back with
  | none => { p with front := p.front ++ pieces }
  | some back => { p with back := some (back ++ pieces) }

/-- All eight pieces. -/
def all? (p : Pieces) : Option (List Nat) :=
  match p.back with
  | none => if p.front.length = 8 then some p.front else none
  | some back =>
    some (p.front ++ List.replicate (8 - p.front.length - back.length) 0 ++ back)

end Pieces

/-- Reads pieces up to the end of the text; a run that is left out takes the room of one piece. -/
def readPieces (fuel : Nat) (p : Pieces) (cs : List Char) : Option Pieces :=
  match fuel, cs with
  | _, [] => some p
  | 0, _ => none
  | fuel + 1, cs =>
    if p.count = 8 then none
    else
      match cs with
      | ':' :: rest => if p.back.isSome then none else readPieces fuel { p with back := some [] } rest
      | _ =>
        let (digits, rest) := takePiece cs
        match rest with
        | '.' :: _ =>
          if digits.isEmpty ∨ 6 < p.count then none else (decimalPieces? cs).map p.add
        | ':' :: [] => none
        | ':' :: rest => readPieces fuel (p.add [pieceValue digits]) rest
        | [] => some (p.add [pieceValue digits])
        | _ => none

/-- The eight pieces of an address. -/
def read? (cs : List Char) : Option (List Nat) :=
  match cs with
  | ':' :: ':' :: rest => (readPieces cs.length ⟨[], some []⟩ rest).bind Pieces.all?
  | ':' :: _ => none
  | _ :: _ :: _ => (readPieces cs.length ⟨[], none⟩ cs).bind Pieces.all?
  | _ => none

/-- How many zeros a list starts with. -/
def leadingZeros (pieces : List Nat) : Nat := (pieces.takeWhile (· = 0)).length

/-- Start and length of the first longest run of zeros, from an index on. -/
def longestZeros : Nat → List Nat → Nat × Nat
  | _, [] => (0, 0)
  | i, p :: rest =>
    let here := leadingZeros (p :: rest)
    let (start, length) := longestZeros (i + 1) rest
    if length ≤ here then (i, here) else (start, length)

def pieceText (n : Nat) : String := String.ofList (Nat.toDigits 16 n)

/-- The usual form: the first longest run of two or more zeros is left out. -/
def text (pieces : List Nat) : String :=
  let joined (ps : List Nat) := ":".intercalate (ps.map pieceText)
  let (start, length) := longestZeros 0 pieces
  if 2 ≤ length then joined (pieces.take start) ++ "::" ++ joined (pieces.drop (start + length))
  else joined pieces

end Ipv6

/-- A host. -/
inductive Host where
  | domain (name : String)
  | ipv4 (address : Nat)
  | ipv6 (pieces : List Nat)
deriving DecidableEq, Repr

namespace Host

/-- The usual form. -/
def text : Host → String
  | .domain name => name
  | .ipv4 address => Ipv4.text address
  | .ipv6 pieces => "[" ++ Ipv6.text pieces ++ "]"

/-- Replaces each percent sign before two hexadecimal digits by the byte that they spell. -/
def unescape : List UInt8 → List UInt8
  | 0x25 :: a :: b :: rest =>
    match Text.hexValue? (Char.ofNat a.toNat), Text.hexValue? (Char.ofNat b.toNat) with
    | some high, some low => UInt8.ofNat (high * 16 + low) :: unescape rest
    | _, _ => 0x25 :: unescape (a :: b :: rest)
  | b :: rest => b :: unescape rest
  | [] => []
termination_by bytes => bytes.length

/-- The address inside brackets. -/
def bracketed? (cs : List Char) : Except UrlFault Host :=
  if cs.getLast? = some ']' then
    match Ipv6.read? (cs.drop 1).dropLast with
    | some pieces => .ok (.ipv6 pieces)
    | none => .error .invalidIpv6
  else .error .invalidIpv6

/-- The host that a text names: an address in brackets, else what the unescaped text is the domain
name of. A name that ends in a number has to be an address. -/
def ofText? (cs : List Char) : Except UrlFault Host :=
  if cs.head? = some '[' then bracketed? cs
  else
    let unescaped := Text.decodeLossy (unescape (Text.encode (String.ofList cs)))
    match DomainName.toAscii? unescaped with
    | none => .error .invalidDomain
    | some [] => .error .emptyHost
    | some name =>
      if Ipv4.isMeant name then
        match Ipv4.read? name with
        | some address => .ok (.ipv4 address)
        | none => .error .invalidIpv4
      else .ok (.domain (String.ofList name))

/-- The characters that no host may hold, where any name is a host. -/
def opaqueForbidden : List Char := "\x00\t\n\r #/:<>?@[\\]^|".toList

/-- Is the text a host where any name is one? -/
def checkOpaque (cs : List Char) : Except UrlFault Unit :=
  if cs.head? = some '[' then (bracketed? cs).map fun _ => ()
  else if cs.any opaqueForbidden.contains then .error .invalidDomainCharacter
  else .ok ()

end Host

end ClusterMonitor
