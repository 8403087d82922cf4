import LinksBinding.Shell.Octets

/-!
# Digests

Short texts that tell long data apart: the digests MD5, SHA-1 and SHA-256, which go through the data
in blocks of 64 bytes, and the cyclic redundancy check.
-/

namespace LinksBinding.Shell.Digest

/-- A word turned to the left. -/
def turnLeft (x n : UInt32) : UInt32 := (x <<< n) ||| (x >>> (32 - n))

/-- A word turned to the right. -/
def turnRight (x n : UInt32) : UInt32 := (x >>> n) ||| (x <<< (32 - n))

/-- The octets of a number, the least one last. -/
def bigEndian (count n : Nat) : Octets :=
  (List.range count).reverse.map fun i => Char.ofNat (n >>> (8 * i) % 256)

/-- The number of octets, the least one last. -/
def numberOf (data : Octets) : Nat := data.foldl (fun n c => n * 256 + c.toNat) 0

/-- Data that is filled up to whole blocks: an octet that marks its end, zeros and its length in
bits. -/
def padded (lengthLast : Nat → Octets) (data : Octets) : Octets :=
  let zeros := (119 - data.length % 64) % 64
  data ++ Char.ofNat 128 :: List.replicate zeros (Char.ofNat 0) ++ lengthLast (8 * data.length)

/-- Pieces of one length. -/
def piecesOf (size : Nat) : (fuel : Nat) → Octets → List Octets
  | 0, _ | _, [] => []
  | fuel + 1, data => data.take size :: piecesOf size fuel (data.drop size)

/-- The words of the blocks of data. -/
def blocks (wordOf : Octets → UInt32) (data : Octets) : List (Array UInt32) :=
  (piecesOf 64 (data.length / 64 + 1) data).map fun block =>
    ((piecesOf 4 17 block).map wordOf).toArray

/-- Octets in hexadecimal figures. -/
def hexadecimal (data : Octets) : Octets :=
  data.flatMap fun c =>
    let figures := digitsIn 16 c.toNat
    if figures.length == 1 then '0' :: figures else figures

/-! ## MD5 -/

/-- What is added in each round of MD5. -/
def sines : Array UInt32 :=
  #[0xd76aa478, 0xe8c7b756, 0x242070db, 0xc1bdceee, 0xf57c0faf, 0x4787c62a, 0xa8304613,
    0xfd469501, 0x698098d8, 0x8b44f7af, 0xffff5bb1, 0x895cd7be, 0x6b901122, 0xfd987193,
    0xa679438e, 0x49b40821, 0xf61e2562, 0xc040b340, 0x265e5a51, 0xe9b6c7aa, 0xd62f105d,
    0x02441453, 0xd8a1e681, 0xe7d3fbc8, 0x21e1cde6, 0xc33707d6, 0xf4d50d87, 0x455a14ed,
    0xa9e3e905, 0xfcefa3f8, 0x676f02d9, 0x8d2a4c8a, 0xfffa3942, 0x8771f681, 0x6d9d6122,
    0xfde5380c, 0xa4beea44, 0x4bdecfa9, 0xf6bb4b60, 0xbebfbc70, 0x289b7ec6, 0xeaa127fa,
    0xd4ef3085, 0x04881d05, 0xd9d4d039, 0xe6db99e5, 0x1fa27cf8, 0xc4ac5665, 0xf4292244,
    0x432aff97, 0xab9423a7, 0xfc93a039, 0x655b59c3, 0x8f0ccc92, 0xffeff47d, 0x85845dd1,
    0x6fa87e4f, 0xfe2ce6e0, 0xa3014314, 0x4e0811a1, 0xf7537e82, 0xbd3af235, 0x2ad7d2bb,
    0xeb86d391]

/-- How far words are turned in each round of MD5. -/
def md5Turns : Array UInt32 := #[7, 12, 17, 22, 5, 9, 14, 20, 4, 11, 16, 23, 6, 10, 15, 21]

/-- The state of MD5 behind a block. -/
def md5Block (state : UInt32 × UInt32 × UInt32 × UInt32) (block : Array UInt32) :
    UInt32 × UInt32 × UInt32 × UInt32 :=
  let (a, b, c, d) := (List.range 64).foldl
    (fun (a, b, c, d) i =>
      let (mixed, index) := match i / 16 with
        | 0 => ((b &&& c) ||| (~~~b &&& d), i)
        | 1 => ((d &&& b) ||| (~~~d &&& c), 5 * i + 1)
        | 2 => (b ^^^ c ^^^ d, 3 * i + 5)
        | _ => (c ^^^ (b ||| ~~~d), 7 * i)
      let sum := a + mixed + sines.getD i 0 + block.getD (index % 16) 0
      (d, b + turnLeft sum (md5Turns.getD (i / 16 * 4 + i % 4) 0), b, c))
    state
  (state.1 + a, state.2.1 + b, state.2.2.1 + c, state.2.2.2 + d)

/-- The digest MD5. -/
def md5 (data : Octets) : Octets :=
  let data := padded (fun n => (bigEndian 8 n).reverse) data
  let (a, b, c, d) :=
    (blocks (fun word => .ofNat (numberOf word.reverse)) data).foldl md5Block
      (0x67452301, 0xefcdab89, 0x98badcfe, 0x10325476)
  hexadecimal ([a, b, c, d].flatMap fun word => (bigEndian 4 word.toNat).reverse)

/-! ## SHA -/

/-- A block that is drawn out to more words. -/
def drawnOut (count : Nat) (next : Array UInt32 → Nat → UInt32) (block : Array UInt32) :
    Array UInt32 :=
  (List.range (count - 16)).foldl (fun words i => words.push (next words (i + 16))) block

/-- The state of SHA-1 behind a block. -/
def sha1Block (state : List UInt32) (block : Array UInt32) : List UInt32 :=
  let words := drawnOut 80
    (fun words i =>
      turnLeft (words.getD (i - 3) 0 ^^^ words.getD (i - 8) 0 ^^^ words.getD (i - 14) 0 ^^^
        words.getD (i - 16) 0) 1)
    block
  let after := (List.range 80).foldl
    (fun state i =>
      match state with
      | [a, b, c, d, e] =>
        let (mixed, constant) : UInt32 × UInt32 := match i / 20 with
          | 0 => ((b &&& c) ||| (~~~b &&& d), 0x5a827999)
          | 1 => (b ^^^ c ^^^ d, 0x6ed9eba1)
          | 2 => ((b &&& c) ||| (b &&& d) ||| (c &&& d), 0x8f1bbcdc)
          | _ => (b ^^^ c ^^^ d, 0xca62c1d6)
        [turnLeft a 5 + mixed + e + constant + words.getD i 0, a, turnLeft b 30, c, d]
      | state => state)
    state
  List.zipWith (· + ·) state after

/-- The digest SHA-1. -/
def sha1 (data : Octets) : Octets :=
  let state := (blocks (fun word => .ofNat (numberOf word)) (padded (bigEndian 8) data)).foldl
    sha1Block [0x67452301, 0xefcdab89, 0x98badcfe, 0x10325476, 0xc3d2e1f0]
  hexadecimal (state.flatMap fun word => bigEndian 4 word.toNat)

/-- What is added in each round of SHA-256. -/
def cubeRoots : Array UInt32 :=
  #[0x428a2f98, 0x71374491, 0xb5c0fbcf, 0xe9b5dba5, 0x3956c25b, 0x59f111f1, 0x923f82a4,
    0xab1c5ed5, 0xd807aa98, 0x12835b01, 0x243185be, 0x550c7dc3, 0x72be5d74, 0x80deb1fe,
    0x9bdc06a7, 0xc19bf174, 0xe49b69c1, 0xefbe4786, 0x0fc19dc6, 0x240ca1cc, 0x2de92c6f,
    0x4a7484aa, 0x5cb0a9dc, 0x76f988da, 0x983e5152, 0xa831c66d, 0xb00327c8, 0xbf597fc7,
    0xc6e00bf3, 0xd5a79147, 0x06ca6351, 0x14292967, 0x27b70a85, 0x2e1b2138, 0x4d2c6dfc,
    0x53380d13, 0x650a7354, 0x766a0abb, 0x81c2c92e, 0x92722c85, 0xa2bfe8a1, 0xa81a664b,
    0xc24b8b70, 0xc76c51a3, 0xd192e819, 0xd6990624, 0xf40e3585, 0x106aa070, 0x19a4c116,
    0x1e376c08, 0x2748774c, 0x34b0bcb5, 0x391c0cb3, 0x4ed8aa4a, 0x5b9cca4f, 0x682e6ff3,
    0x748f82ee, 0x78a5636f, 0x84c87814, 0x8cc70208, 0x90befffa, 0xa4506ceb, 0xbef9a3f7,
    0xc67178f2]

/-- The state of SHA-256 behind a block. -/
def sha256Block (state : List UInt32) (block : Array UInt32) : List UInt32 :=
  let words := drawnOut 64
    (fun words i =>
      let (x, y) := (words.getD (i - 15) 0, words.getD (i - 2) 0)
      words.getD (i - 16) 0 + (turnRight x 7 ^^^ turnRight x 18 ^^^ (x >>> 3)) +
        words.getD (i - 7) 0 + (turnRight y 17 ^^^ turnRight y 19 ^^^ (y >>> 10)))
    block
  let after := (List.range 64).foldl
    (fun state i =>
      match state with
      | [a, b, c, d, e, f, g, h] =>
        let first := h + (turnRight e 6 ^^^ turnRight e 11 ^^^ turnRight e 25) +
          ((e &&& f) ^^^ (~~~e &&& g)) + cubeRoots.getD i 0 + words.getD i 0
        let second := (turnRight a 2 ^^^ turnRight a 13 ^^^ turnRight a 22) +
          ((a &&& b) ^^^ (a &&& c) ^^^ (b &&& c))
        [first + second, a, b, c, d + first, e, f, g]
      | state => state)
    state
  List.zipWith (· + ·) state after

/-- The digest SHA-256. -/
def sha256 (data : Octets) : Octets :=
  let state := (blocks (fun word => .ofNat (numberOf word)) (padded (bigEndian 8) data)).foldl
    sha256Block
    [0x6a09e667, 0xbb67ae85, 0x3c6ef372, 0xa54ff53a, 0x510e527f, 0x9b05688c, 0x1f83d9ab,
      0x5be0cd19]
  hexadecimal (state.flatMap fun word => bigEndian 4 word.toNat)

/-! ## The cyclic redundancy check -/

/-- The remainder behind a bit. -/
def crcBit (remainder : UInt32) : UInt32 :=
  if remainder &&& 0x80000000 != 0 then (remainder <<< 1) ^^^ 0x04c11db7 else remainder <<< 1

/-- The remainder behind an octet. -/
def crcOctet (remainder : UInt32) (c : Char) : UInt32 :=
  (List.range 8).foldl (fun remainder _ => crcBit remainder)
    (remainder ^^^ (UInt32.ofNat c.toNat <<< 24))

/-- The cyclic redundancy check of data and its length. -/
def crc (data : Octets) : Nat :=
  let length := (bigEndian 8 data.length).dropWhile (· == Char.ofNat 0)
  (~~~((data ++ length.reverse).foldl crcOctet 0)).toNat

end LinksBinding.Shell.Digest
