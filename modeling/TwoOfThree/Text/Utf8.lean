-- SUMMARY: UTF-8: writing characters as bytes, and cutting any byte string into characters and faults.
import TwoOfThree.Bytes

/-!
# UTF-8

`encode` writes characters as bytes. Reading is one pass of a small state
machine that cuts any byte string into segments: a character, a malformed
stretch (a beginning that the byte after it cannot continue), or a beginning
that the input ends in. From the segments come both readings: `decode` accepts
only characters and reports where the first fault begins, and `decodeLossy`
puts one replacement character for each fault.
-/

namespace TwoOfThree.Utf8

/-! ## Writing -/

def encodeChar (c : Char) : Bytes :=
  let n := c.toNat
  let continuation (k : Nat) : UInt8 := UInt8.ofNat (0x80 + k % 64)
  if n < 0x80 then [UInt8.ofNat n]
  else if n < 0x800 then [UInt8.ofNat (0xC0 + n / 64), continuation n]
  else if n < 0x10000 then
    [UInt8.ofNat (0xE0 + n / 4096), continuation (n / 64), continuation n]
  else
    [UInt8.ofNat (0xF0 + n / 262144), continuation (n / 4096), continuation (n / 64),
      continuation n]

def encodeChars (chars : List Char) : Bytes := chars.flatMap encodeChar

def encode (text : String) : Bytes := encodeChars text.toList

/-! ## The reading machine -/

/-- A sequence that has begun and still needs bytes. -/
structure Pending where
  /-- The bytes read so far. -/
  bytes : Bytes
  /-- The number that their payload bits write. -/
  value : Nat
  /-- The next byte must lie between these two. -/
  low : UInt8
  high : UInt8
  /-- How many bytes are needed after the next one. -/
  more : Nat
deriving DecidableEq, Repr

/-- A stretch of a byte string. -/
inductive Segment where
  | char (c : Char)
  | malformed (bytes : Bytes)
  | truncated (bytes : Bytes)
deriving DecidableEq, Repr

/-- Read a byte where a sequence may begin. The ranges for the second byte
leave out overlong forms, surrogates and numbers above U+10FFFF. -/
def start (byte : UInt8) : List Segment × Option Pending :=
  let n := byte.toNat
  if byte < 0x80 then ([.char (Char.ofNat n)], none)
  else if byte < 0xC2 then ([.malformed [byte]], none)
  else if byte < 0xE0 then ([], some ⟨[byte], n - 0xC0, 0x80, 0xBF, 0⟩)
  else if byte < 0xF0 then
    let low := if byte = 0xE0 then 0xA0 else 0x80
    let high := if byte = 0xED then 0x9F else 0xBF
    ([], some ⟨[byte], n - 0xE0, low, high, 1⟩)
  else if byte < 0xF5 then
    let low := if byte = 0xF0 then 0x90 else 0x80
    let high := if byte = 0xF4 then 0x8F else 0xBF
    ([], some ⟨[byte], n - 0xF0, low, high, 2⟩)
  else ([.malformed [byte]], none)

/-- Read one byte: the segments it completes, and what is pending after it. A
byte that cannot continue a sequence ends it as malformed and is read afresh. -/
def feed : Option Pending → UInt8 → List Segment × Option Pending
  | none, byte => start byte
  | some p, byte =>
    if p.low ≤ byte ∧ byte ≤ p.high then
      let value := p.value * 64 + (byte.toNat - 0x80)
      match p.more with
      | 0 => ([.char (Char.ofNat value)], none)
      | more + 1 => ([], some ⟨p.bytes ++ [byte], value, 0x80, 0xBF, more⟩)
    else
      let (segments, pending) := start byte
      (.malformed p.bytes :: segments, pending)

def segmentsFrom : Option Pending → Bytes → List Segment
  | none, [] => []
  | some p, [] => [.truncated p.bytes]
  | pending, byte :: rest =>
    let (segments, pending) := feed pending byte
    segments ++ segmentsFrom pending rest

/-- The byte string, cut into characters and faults. -/
def segments (bytes : Bytes) : List Segment := segmentsFrom none bytes

def Segment.bytes : Segment → Bytes
  | .char c => encodeChar c
  | .malformed bytes => bytes
  | .truncated bytes => bytes

/-! ## Strict reading -/

/-- Why a byte string is not UTF-8. -/
structure Fault where
  /-- How many bytes before the fault are valid. -/
  validUpTo : Nat
  /-- The length of the malformed stretch, or nothing if the input ends inside a sequence. -/
  length? : Option Nat
deriving DecidableEq, Repr

def Fault.message (fault : Fault) : String :=
  match fault.length? with
  | some length => s!"invalid utf-8 sequence of {length} bytes from index {fault.validUpTo}"
  | none => s!"incomplete utf-8 byte sequence from index {fault.validUpTo}"

/-- The characters of segments that begin at `index`, or the first fault. -/
def charsFrom (index : Nat) : List Segment → Except Fault (List Char)
  | [] => .ok []
  | .char c :: rest => (charsFrom (index + c.utf8Size) rest).map (c :: ·)
  | .malformed bytes :: _ => .error ⟨index, some bytes.length⟩
  | .truncated _ :: _ => .error ⟨index, none⟩

def decode (bytes : Bytes) : Except Fault String :=
  (charsFrom 0 (segments bytes)).map String.ofList

/-! ## Lossy reading -/

def Segment.lossyChar : Segment → Char
  | .char c => c
  | .malformed _ => '\uFFFD'
  | .truncated _ => '\uFFFD'

def decodeLossy (bytes : Bytes) : String :=
  String.ofList ((segments bytes).map Segment.lossyChar)

end TwoOfThree.Utf8
