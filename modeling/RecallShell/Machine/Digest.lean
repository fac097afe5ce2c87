import RecallShell.Numeral
import RecallShell.Text.Utf8

/-!
# Digests

A digest is a short value that depends on every byte of a text. The common ones cut the text, with
its length behind it, into blocks of sixteen words and stir each of them into a state; the simple ones
add up bytes. Words are natural numbers below a power of two.
-/

namespace RecallShell.Machine

open Text

namespace Digest

/-! ## Words and blocks -/

/-- A word turned to the left. -/
def turned (width count n : Nat) : Nat := ((n <<< count) ||| (n >>> (width - count))) % 2 ^ width

/-- A word turned to the right. -/
def turnedRight (width count n : Nat) : Nat := turned width (width - count) n

/-- The word with the other bits. -/
def flipped (width n : Nat) : Nat := n ^^^ (2 ^ width - 1)

/-- The number that bytes write, the greatest first. -/
def ofBytes (bs : Bytes) : Nat := bs.foldl (fun n b => n * 256 + b.toNat) 0

/-- A number in so many bytes, the greatest first. -/
def toBytes : Nat → Nat → Bytes
  | 0, _ => []
  | count + 1, n => toBytes count (n / 256) ++ [UInt8.ofNat (n % 256)]

/-- The number of zeros that complete a block behind so many bytes, a mark and a length. -/
def gapSize (block lengthSize size : Nat) : Nat :=
  (block - (size + 1 + lengthSize) % block) % block

/-- Bytes with a mark, zeros and their length behind them, so that they fill blocks. -/
def padded (block lengthSize : Nat) (greatestFirst : Bool) (data : Bytes) : Bytes :=
  let size := toBytes lengthSize (data.length * 8)
  data ++ 0x80 :: List.replicate (gapSize block lengthSize data.length) 0 ++
    (if greatestFirst then size else size.reverse)

/-- Cuts a list into pieces of a size. -/
def pieces {α : Type} (size : Nat) : Nat → List α → List (List α)
  | 0, _ | _, [] => []
  | fuel + 1, list => list.take size :: pieces size fuel (list.drop size)

/-- The words of a block. -/
def wordsOf (size : Nat) (greatestFirst : Bool) (block : Bytes) : Array Nat :=
  ((pieces size block.length block).map fun w =>
    ofBytes (if greatestFirst then w else w.reverse)).toArray

/-- The text of bytes in hexadecimal digits. -/
def inHex (bs : Bytes) : String :=
  String.ofList (bs.flatMap fun b => [Nat.digitChar (b.toNat / 16), Nat.digitChar (b.toNat % 16)])

/-- What blocks make of a state, one after the other. -/
def stir (stirOne : Array Nat → Array Nat → Array Nat) (block : Nat) (size : Nat)
    (greatestFirst : Bool) (start : List Nat) (data : Bytes) : List Nat :=
  ((pieces block data.length data).foldl
    (fun state b => stirOne state (wordsOf size greatestFirst b)) start.toArray).toList

/-! ## The fifth message digest -/

/-- The constants of the rounds: the sines of the first numbers, in words. -/
def sines : Array Nat :=
  #[
    0xd76aa478, 0xe8c7b756, 0x242070db, 0xc1bdceee, 0xf57c0faf, 0x4787c62a, 0xa8304613, 0xfd469501,
    0x698098d8, 0x8b44f7af, 0xffff5bb1, 0x895cd7be, 0x6b901122, 0xfd987193, 0xa679438e, 0x49b40821,
    0xf61e2562, 0xc040b340, 0x265e5a51, 0xe9b6c7aa, 0xd62f105d, 0x02441453, 0xd8a1e681, 0xe7d3fbc8,
    0x21e1cde6, 0xc33707d6, 0xf4d50d87, 0x455a14ed, 0xa9e3e905, 0xfcefa3f8, 0x676f02d9, 0x8d2a4c8a,
    0xfffa3942, 0x8771f681, 0x6d9d6122, 0xfde5380c, 0xa4beea44, 0x4bdecfa9, 0xf6bb4b60, 0xbebfbc70,
    0x289b7ec6, 0xeaa127fa, 0xd4ef3085, 0x04881d05, 0xd9d4d039, 0xe6db99e5, 0x1fa27cf8, 0xc4ac5665,
    0xf4292244, 0x432aff97, 0xab9423a7, 0xfc93a039, 0x655b59c3, 0x8f0ccc92, 0xffeff47d, 0x85845dd1,
    0x6fa87e4f, 0xfe2ce6e0, 0xa3014314, 0x4e0811a1, 0xf7537e82, 0xbd3af235, 0x2ad7d2bb, 0xeb86d391]

/-- How far words are turned in each group of rounds. -/
def turns : Array (Array Nat) := #[#[7, 12, 17, 22], #[5, 9, 14, 20], #[4, 11, 16, 23], #[6, 10, 15, 21]]

/-- Stirs a block into a state of four words. -/
def stirMd5 (state words : Array Nat) : Array Nat :=
  let get (i : Nat) : Nat := state.getD i 0
  let round (s : Nat × Nat × Nat × Nat) (i : Nat) : Nat × Nat × Nat × Nat :=
    let (a, b, c, d) := s
    let (f, g) := match i / 16 with
      | 0 => ((b &&& c) ||| (flipped 32 b &&& d), i)
      | 1 => ((d &&& b) ||| (flipped 32 d &&& c), (5 * i + 1) % 16)
      | 2 => (b ^^^ c ^^^ d, (3 * i + 5) % 16)
      | _ => (c ^^^ (b ||| flipped 32 d), 7 * i % 16)
    let sum := (a + f + sines.getD i 0 + words.getD g 0) % 2 ^ 32
    (d, (b + turned 32 ((turns.getD (i / 16) #[]).getD (i % 4) 0) sum) % 2 ^ 32, b, c)
  let (a, b, c, d) := (List.range 64).foldl round (get 0, get 1, get 2, get 3)
  #[(get 0 + a) % 2 ^ 32, (get 1 + b) % 2 ^ 32, (get 2 + c) % 2 ^ 32, (get 3 + d) % 2 ^ 32]

/-- The four words that a state begins with. -/
def beginning : List Nat := [0x67452301, 0xefcdab89, 0x98badcfe, 0x10325476]

/-- The fifth message digest. -/
def md5 (data : Bytes) : Bytes :=
  (stir stirMd5 64 4 false beginning (padded 64 8 false data)).flatMap fun w =>
    (toBytes 4 w).reverse

/-! ## Secure hashes -/

/-- The greatest number whose power does not exceed a number, from its bits on downward. -/
def rootFrom (power n : Nat) : Nat → Nat → Nat
  | 0, root => root
  | bits + 1, root =>
    let more := root + 2 ^ bits
    rootFrom power n bits (if more ^ power ≤ n then more else root)

/-- The first bits behind the point of a root of a number. -/
def rootBits (power width n : Nat) : Nat :=
  rootFrom power (n * 2 ^ (power * width)) (width + 5) 0 % 2 ^ width

/-- The first primes. -/
def primes : List Nat :=
  (List.range 410).filter fun n => 2 ≤ n && (List.range 21).all fun d => d < 2 || n ≤ d || n % d != 0

/-- A family of hashes with words of one width. -/
structure Family where
  /-- The width of a word in bits. -/
  width : Nat
  /-- The constants of the rounds. -/
  constants : Array Nat
  /-- How far words are turned, thrice for each of four sums; the last one of two shifts. -/
  sums : List (Nat × Nat × Nat)

namespace Family

/-- One of the sums, by its number; the last word of some is shifted and not turned. -/
def sum (f : Family) (number : Nat) (shifts : Bool) (n : Nat) : Nat :=
  let (a, b, c) := f.sums.getD number (0, 0, 0)
  turnedRight f.width a n ^^^ turnedRight f.width b n
    ^^^ (if shifts then n >>> c else turnedRight f.width c n)

/-- Stirs a block into a state of eight words. -/
def stirOne (f : Family) (state words : Array Nat) : Array Nat :=
  let get (i : Nat) : Nat := state.getD i 0
  let rounds := f.constants.size
  let schedule := (List.range (rounds - 16)).foldl (fun (w : Array Nat) i =>
    let at_ (back : Nat) : Nat := w.getD (i + 16 - back) 0
    w.push ((at_ 16 + f.sum 2 true (at_ 15) + at_ 7 + f.sum 3 true (at_ 2)) % 2 ^ f.width)) words
  let round (s : List Nat) (i : Nat) : List Nat :=
    match s with
    | [a, b, c, d, e, g, h, k] =>
      let chosen := (e &&& g) ^^^ (flipped f.width e &&& h)
      let most := (a &&& b) ^^^ (a &&& c) ^^^ (b &&& c)
      let first := k + f.sum 1 false e + chosen + f.constants.getD i 0 + schedule.getD i 0
      let second := f.sum 0 false a + most
      [(first + second) % 2 ^ f.width, a, b, c, (d + first) % 2 ^ f.width, e, g, h]
    | s => s
  let final := (List.range rounds).foldl round ((List.range 8).map get)
  (final.zipIdx.map fun p => (p.1 + get p.2) % 2 ^ f.width).toArray

/-- A hash of the family, of so many bytes, from a state that it begins with. -/
def hash (f : Family) (start : List Nat) (size : Nat) (data : Bytes) : Bytes :=
  let word := f.width / 8
  ((stir f.stirOne (16 * word) word true start (padded (16 * word) (2 * word) true data)).flatMap
    (toBytes word)).take size

end Family

/-- The family with words of 32 bits. -/
def narrow : Family :=
  ⟨32, ((primes.take 64).map (rootBits 3 32)).toArray,
    [(2, 13, 22), (6, 11, 25), (7, 18, 3), (17, 19, 10)]⟩

/-- The secure hash of 32 bytes. -/
def sha256 : Bytes → Bytes := narrow.hash ((primes.take 8).map (rootBits 2 32)) 32

/-! ## Sums -/

/-- One step of a cyclic sum by a byte. -/
def cyclicStep (sum byte : Nat) : Nat :=
  (List.range 8).foldl (fun s _ =>
    if s / 2 ^ 31 % 2 == 1 then (s * 2 % 2 ^ 32) ^^^ 0x04c11db7 else s * 2 % 2 ^ 32)
    (sum ^^^ (byte * 2 ^ 24))

/-- The bytes of a length, the least first and none that is not needed. -/
def lengthBytes : Nat → Nat → List Nat
  | 0, _ => []
  | fuel + 1, n => if n == 0 then [] else n % 256 :: lengthBytes fuel (n / 256)

/-- The cyclic sum of bytes and of their number. -/
def cyclic (data : Bytes) : Nat :=
  let all := data.map (·.toNat) ++ lengthBytes 20 data.length
  flipped 32 (all.foldl cyclicStep 0)

end Digest

end RecallShell.Machine
