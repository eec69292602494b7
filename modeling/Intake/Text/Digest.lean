/-!
# Digests

The 256-bit digest of a row of octets, and of a text by its octets in UTF-8.  The octets are
padded to blocks of 64, and each block is stirred into eight words of state in 64 rounds.

`digest` gives the digest of a text in hexadecimal.
-/

namespace Intake.Text

namespace Digest

/-- The constants of the rounds. -/
def roundConstants : Array UInt32 := #[
  0x428a2f98, 0x71374491, 0xb5c0fbcf, 0xe9b5dba5, 0x3956c25b, 0x59f111f1, 0x923f82a4, 0xab1c5ed5,
  0xd807aa98, 0x12835b01, 0x243185be, 0x550c7dc3, 0x72be5d74, 0x80deb1fe, 0x9bdc06a7, 0xc19bf174,
  0xe49b69c1, 0xefbe4786, 0x0fc19dc6, 0x240ca1cc, 0x2de92c6f, 0x4a7484aa, 0x5cb0a9dc, 0x76f988da,
  0x983e5152, 0xa831c66d, 0xb00327c8, 0xbf597fc7, 0xc6e00bf3, 0xd5a79147, 0x06ca6351, 0x14292967,
  0x27b70a85, 0x2e1b2138, 0x4d2c6dfc, 0x53380d13, 0x650a7354, 0x766a0abb, 0x81c2c92e, 0x92722c85,
  0xa2bfe8a1, 0xa81a664b, 0xc24b8b70, 0xc76c51a3, 0xd192e819, 0xd6990624, 0xf40e3585, 0x106aa070,
  0x19a4c116, 0x1e376c08, 0x2748774c, 0x34b0bcb5, 0x391c0cb3, 0x4ed8aa4a, 0x5b9cca4f, 0x682e6ff3,
  0x748f82ee, 0x78a5636f, 0x84c87814, 0x8cc70208, 0x90befffa, 0xa4506ceb, 0xbef9a3f7, 0xc67178f2]

/-- The words of state. -/
structure State where
  a : UInt32
  b : UInt32
  c : UInt32
  d : UInt32
  e : UInt32
  f : UInt32
  g : UInt32
  h : UInt32

/-- The state before the first block. -/
def start : State :=
  ⟨0x6a09e667, 0xbb67ae85, 0x3c6ef372, 0xa54ff53a,
   0x510e527f, 0x9b05688c, 0x1f83d9ab, 0x5be0cd19⟩

/-- A word turned to the right. -/
def turn (x : UInt32) (n : UInt32) : UInt32 := (x >>> n) ||| (x <<< (32 - n))

/-- One round, with its word of the block and its constant. -/
def round (s : State) (word constant : UInt32) : State :=
  let big1 := turn s.e 6 ^^^ turn s.e 11 ^^^ turn s.e 25
  let choice := (s.e &&& s.f) ^^^ ((~~~s.e) &&& s.g)
  let t1 := s.h + big1 + choice + constant + word
  let big0 := turn s.a 2 ^^^ turn s.a 13 ^^^ turn s.a 22
  let majority := (s.a &&& s.b) ^^^ (s.a &&& s.c) ^^^ (s.b &&& s.c)
  ⟨t1 + (big0 + majority), s.a, s.b, s.c, s.d + t1, s.e, s.f, s.g⟩

/-- The next word of a block's schedule, made of earlier ones. -/
def nextWord (words : Array UInt32) (i : Nat) : UInt32 :=
  let at_ (back : Nat) : UInt32 := words.getD (i - back) 0
  let x := at_ 15
  let y := at_ 2
  let small0 := turn x 7 ^^^ turn x 18 ^^^ (x >>> 3)
  let small1 := turn y 17 ^^^ turn y 19 ^^^ (y >>> 10)
  at_ 16 + small0 + at_ 7 + small1

/-- The word at index `i` of a row of octets. -/
def wordAt (octets : Array UInt8) (i : Nat) : UInt32 :=
  let at_ (k : Nat) : UInt32 := (octets.getD (4 * i + k) 0).toUInt32
  (at_ 0 <<< 24) ||| (at_ 1 <<< 16) ||| (at_ 2 <<< 8) ||| at_ 3

/-- The schedule of the block at an index: its sixteen words, and those made of them. -/
def schedule (octets : Array UInt8) (block : Nat) : Array UInt32 :=
  let words := (List.range 16).foldl (fun ws i => ws.push (wordAt octets (16 * block + i))) #[]
  (List.range 48).foldl (fun ws i => ws.push (nextWord ws (i + 16))) words

/-- Stirs a block into the state. -/
def stir (octets : Array UInt8) (s : State) (block : Nat) : State :=
  let words := schedule octets block
  let t := (List.range 64).foldl
    (fun t i => round t (words.getD i 0) (roundConstants.getD i 0)) s
  ⟨s.a + t.a, s.b + t.b, s.c + t.c, s.d + t.d, s.e + t.e, s.f + t.f, s.g + t.g, s.h + t.h⟩

/-- The octets of a number, `count` of them, the greatest first. -/
def octetsOf (count n : Nat) : List UInt8 :=
  match count with
  | 0 => []
  | count + 1 => UInt8.ofNat (n >>> (8 * count)) :: octetsOf count n

/-- The octets filled up to whole blocks: a mark, zeros, and the number of bits. -/
def padded (octets : List UInt8) : List UInt8 :=
  let size := octets.length
  octets ++ 0x80 :: (List.replicate ((119 - size % 64) % 64) 0 ++ octetsOf 8 (8 * size))

/-- The state after all blocks. -/
def finish (octets : List UInt8) : State :=
  let row := (padded octets).toArray
  (List.range (row.size / 64)).foldl (stir row) start

/-- A hexadecimal digit. -/
def digit (n : Nat) : Char :=
  Char.ofNat (if n < 10 then '0'.toNat + n else 'a'.toNat + (n - 10))

/-- A word in hexadecimal. -/
def wordText (w : UInt32) : List Char :=
  (List.range 8).map fun i => digit ((w.toNat >>> (4 * (7 - i))) % 16)

end Digest

/-- The digest of a text, in hexadecimal. -/
def digest (s : String) : String :=
  let t := Digest.finish s.toUTF8.toList
  String.ofList ([t.a, t.b, t.c, t.d, t.e, t.f, t.g, t.h].flatMap Digest.wordText)

end Intake.Text
