/-!
# Digests

A digest is a number of a fixed size that depends on every byte. Most digests pad the bytes, cut them
into blocks and stir each block into a state of a few words. The numbers that start the stirring are
the first binary places of roots of the first primes.
-/

namespace PolicyGate

namespace Host.Digest

/-! ## Words -/

/-- The size of words in bits. -/
abbrev Bits := Nat

def bound (w : Bits) : Nat := Nat.pow 2 w

def cut (w : Bits) (n : Nat) : Nat := n % bound w

def flip (w : Bits) (n : Nat) : Nat := bound w - 1 - n

/-- Turns a word to the right by some bits. -/
def turn (w : Bits) (by_ n : Nat) : Nat := cut w (n >>> by_ ||| n <<< (w - by_))

/-- The number whose digits in base 256 are some bytes. -/
def ofBytes (bytes : List UInt8) : Nat := bytes.foldl (fun n b => n * 256 + b.toNat) 0

/-- The last `count` bytes of a number. -/
def toBytes (count n : Nat) : List UInt8 :=
  (List.range count).map fun i => UInt8.ofNat (n >>> (8 * (count - 1 - i)) % 256)

/-- Words of some bytes each. -/
def words (size : Nat) (lowFirst : Bool) (count : Nat) (bytes : List UInt8) : Array Nat :=
  ((List.range count).map fun i =>
    let b := (bytes.drop (size * i)).take size
    ofBytes (if lowFirst then b.reverse else b)).toArray

/-- The blocks of some bytes. -/
def blocks (size : Nat) : Nat → List UInt8 → List (List UInt8)
  | 0, _ => []
  | fuel + 1, bytes =>
    if bytes.isEmpty then [] else bytes.take size :: blocks size fuel (bytes.drop size)

/-- Pads bytes to whole blocks, with their number of bits at the end. -/
def padded (block lengthBytes : Nat) (lowFirst : Bool) (bytes : List UInt8) : List UInt8 :=
  let n := bytes.length
  let zeros := (block - (n + 1 + lengthBytes) % block) % block
  let size := toBytes lengthBytes (8 * n)
  bytes ++ 0x80 :: List.replicate zeros 0 ++ (if lowFirst then size.reverse else size)

/-! ## Roots of primes -/

def isPrime (n : Nat) : Bool := 2 ≤ n && (List.range n).all fun d => d < 2 || n % d != 0

/-- The first eighty primes. -/
def primes : List Nat := (List.range 410).filter isPrime

/-- The largest number whose power does not pass `n`, found bit by bit. -/
def root (degree n : Nat) : Nat → Nat → Nat
  | 0, low => low
  | bit + 1, low =>
    let next := low + Nat.pow 2 bit
    root degree n bit (if Nat.pow next degree ≤ n then next else low)

/-- The first `w` binary places of a root. -/
def rootPlaces (degree : Nat) (w : Bits) (n : Nat) : Nat :=
  cut w (root degree (n <<< (degree * w)) (w + 5) 0)

/-! ## The second family of secure hashes -/

structure Secure where
  bits : Bits
  rounds : Nat
  keys : Array Nat
  /-- How far words are turned for the two large and the two small stirrings. The last step of a small
  one is a shift. -/
  large0 : List Nat
  large1 : List Nat
  small0 : List Nat
  small1 : List Nat

def secure256 : Secure :=
  ⟨32, 64, ((primes.take 64).map (rootPlaces 3 32)).toArray, [2, 13, 22], [6, 11, 25], [7, 18, 3],
    [17, 19, 10]⟩

def secure512 : Secure :=
  ⟨64, 80, (primes.map (rootPlaces 3 64)).toArray, [28, 34, 39], [14, 18, 41], [1, 8, 7], [19, 61, 6]⟩

namespace Secure

def large (s : Secure) (by_ : List Nat) (n : Nat) : Nat :=
  by_.foldl (fun acc k => acc ^^^ turn s.bits k n) 0

def small (s : Secure) (by_ : List Nat) (n : Nat) : Nat :=
  s.large (by_.take 2) n ^^^ (n >>> (by_.getD 2 0))

/-- The words of a block and those that follow from them. -/
def schedule (s : Secure) (block : Array Nat) : Array Nat :=
  (List.range (s.rounds - 16)).foldl (fun w i =>
    w.push (cut s.bits (s.small s.small1 (w.getD (i + 14) 0) + w.getD (i + 9) 0 +
      s.small s.small0 (w.getD (i + 1) 0) + w.getD i 0))) block

def round (s : Secure) (w : Array Nat) (v : List Nat) (i : Nat) : List Nat :=
  match v with
  | [a, b, c, d, e, f, g, h] =>
    let chosen := (e &&& f) ^^^ (flip s.bits e &&& g)
    let t1 := h + s.large s.large1 e + chosen + s.keys.getD i 0 + w.getD i 0
    let t2 := s.large s.large0 a + ((a &&& b) ^^^ (a &&& c) ^^^ (b &&& c))
    [cut s.bits (t1 + t2), a, b, c, cut s.bits (d + t1), e, f, g]
  | v => v

def stir (s : Secure) (state : List Nat) (block : List UInt8) : List Nat :=
  let w := s.schedule (words (s.bits / 8) false 16 block)
  let v := (List.range s.rounds).foldl (s.round w) state
  state.zipWith (fun a b => cut s.bits (a + b)) v

def digest (s : Secure) (start : List Nat) (bytes : List UInt8) : List UInt8 :=
  let size := s.bits * 2
  let all := padded size (s.bits / 4) false bytes
  ((blocks size (all.length + 1) all).foldl s.stir start).flatMap (toBytes (s.bits / 8))

end Secure

def start512 : List Nat := (primes.take 8).map (rootPlaces 2 64)

/-- The state for 384 bits starts from the next eight primes, and that for 224 bits from the second
halves of the same words. -/
def start384 : List Nat := ((primes.drop 8).take 8).map (rootPlaces 2 64)

def sha256 (bytes : List UInt8) : List UInt8 :=
  secure256.digest ((primes.take 8).map (rootPlaces 2 32)) bytes

def sha224 (bytes : List UInt8) : List UInt8 :=
  (secure256.digest (start384.map (cut 32)) bytes).take 28

def sha512 (bytes : List UInt8) : List UInt8 := secure512.digest start512 bytes

def sha384 (bytes : List UInt8) : List UInt8 := (secure512.digest start384 bytes).take 48

/-! ## The first secure hash -/

def sha1Round (w : Array Nat) (v : List Nat) (i : Nat) : List Nat :=
  match v with
  | [a, b, c, d, e] =>
    let (f, k) :=
      if i < 20 then ((b &&& c) ||| (flip 32 b &&& d), 0x5A827999)
      else if i < 40 then (b ^^^ c ^^^ d, 0x6ED9EBA1)
      else if i < 60 then ((b &&& c) ||| (b &&& d) ||| (c &&& d), 0x8F1BBCDC)
      else (b ^^^ c ^^^ d, 0xCA62C1D6)
    [cut 32 (turn 32 27 a + f + e + k + w.getD i 0), a, turn 32 2 b, c, d]
  | v => v

def sha1Start : List Nat := [0x67452301, 0xEFCDAB89, 0x98BADCFE, 0x10325476, 0xC3D2E1F0]

def sha1 (bytes : List UInt8) : List UInt8 :=
  let all := padded 64 8 false bytes
  let stir (state : List Nat) (block : List UInt8) : List Nat :=
    let w := (List.range 64).foldl (fun (w : Array Nat) i =>
      w.push (turn 32 31 (w.getD (i + 13) 0 ^^^ w.getD (i + 8) 0 ^^^ w.getD (i + 2) 0 ^^^ w.getD i 0)))
      (words 4 false 16 block)
    state.zipWith (fun a b => cut 32 (a + b)) ((List.range 80).foldl (sha1Round w) state)
  ((blocks 64 (all.length + 1) all).foldl stir sha1Start).flatMap (toBytes 4)

/-! ## The fifth message digest -/

/-- The first binary places of sines. -/
def sinePlaces (i : Nat) : Nat :=
  ((Float.sin (Float.ofNat (i + 1))).abs * 4294967296.0).floor.toUInt64.toNat

def sines : Array Nat := ((List.range 64).map sinePlaces).toArray

def md5Turns : List (List Nat) := [[7, 12, 17, 22], [5, 9, 14, 20], [4, 11, 16, 23], [6, 10, 15, 21]]

def md5Round (w : Array Nat) (v : List Nat) (i : Nat) : List Nat :=
  match v with
  | [a, b, c, d] =>
    let (f, k) :=
      if i < 16 then ((b &&& c) ||| (flip 32 b &&& d), i)
      else if i < 32 then ((d &&& b) ||| (flip 32 d &&& c), (5 * i + 1) % 16)
      else if i < 48 then (b ^^^ c ^^^ d, (3 * i + 5) % 16)
      else (c ^^^ (b ||| flip 32 d), 7 * i % 16)
    let by_ := ((md5Turns.getD (i / 16) []).getD (i % 4) 0)
    [d, cut 32 (b + turn 32 (32 - by_) (cut 32 (a + f + sines.getD i 0 + w.getD k 0))), b, c]
  | v => v

def md5 (bytes : List UInt8) : List UInt8 :=
  let all := padded 64 8 true bytes
  let stir (state : List Nat) (block : List UInt8) : List Nat :=
    state.zipWith (fun a b => cut 32 (a + b))
      ((List.range 64).foldl (md5Round (words 4 true 16 block)) state)
  ((blocks 64 (all.length + 1) all).foldl stir (sha1Start.take 4)).flatMap fun n =>
    (toBytes 4 n).reverse

/-! ## The second digest of the Blake family -/

def blakeOrders : List (List Nat) :=
  [[0, 1, 2, 3, 4, 5, 6, 7, 8, 9, 10, 11, 12, 13, 14, 15],
    [14, 10, 4, 8, 9, 15, 13, 6, 1, 12, 0, 2, 11, 7, 5, 3],
    [11, 8, 12, 0, 5, 2, 15, 13, 10, 14, 3, 6, 7, 1, 9, 4],
    [7, 9, 3, 1, 13, 12, 11, 14, 2, 6, 5, 10, 4, 0, 15, 8],
    [9, 0, 5, 7, 2, 4, 10, 15, 14, 1, 11, 12, 6, 8, 3, 13],
    [2, 12, 6, 10, 0, 11, 8, 3, 4, 13, 7, 5, 15, 14, 1, 9],
    [12, 5, 1, 15, 14, 13, 4, 10, 0, 7, 6, 3, 9, 2, 8, 11],
    [13, 11, 7, 14, 12, 1, 3, 9, 5, 0, 15, 4, 8, 6, 2, 10],
    [6, 15, 14, 9, 11, 3, 0, 8, 12, 2, 13, 7, 1, 4, 10, 5],
    [10, 2, 8, 4, 7, 6, 1, 5, 15, 11, 9, 14, 3, 12, 13, 0]]

/-- The columns and the diagonals of the state. -/
def blakeLines : List (Nat × Nat × Nat × Nat) :=
  [(0, 4, 8, 12), (1, 5, 9, 13), (2, 6, 10, 14), (3, 7, 11, 15), (0, 5, 10, 15), (1, 6, 11, 12),
    (2, 7, 8, 13), (3, 4, 9, 14)]

def blakeMix (v : Array Nat) (l : Nat × Nat × Nat × Nat) (x y : Nat) : Array Nat :=
  let (i, j, k, m) := l
  let a := cut 64 (v.getD i 0 + v.getD j 0 + x)
  let d := turn 64 32 (v.getD m 0 ^^^ a)
  let c := cut 64 (v.getD k 0 + d)
  let b := turn 64 24 (v.getD j 0 ^^^ c)
  let a := cut 64 (a + b + y)
  let d := turn 64 16 (d ^^^ a)
  let c := cut 64 (c + d)
  let b := turn 64 63 (b ^^^ c)
  (((v.setIfInBounds i a).setIfInBounds j b).setIfInBounds k c).setIfInBounds m d

def blakeStir (h : List Nat) (block : List UInt8) (count : Nat) (last : Bool) : List Nat :=
  let m := words 8 true 16 (block ++ List.replicate (128 - block.length) 0)
  let counted := start512.mapIdx fun i x =>
    if i = 4 then x ^^^ cut 64 count
    else if i = 6 && last then flip 64 x
    else x
  let v := (List.range 12).foldl (fun v r =>
    let order := blakeOrders.getD (r % 10) []
    (blakeLines.zipIdx).foldl (fun v (l, i) =>
      blakeMix v l (m.getD (order.getD (2 * i) 0) 0) (m.getD (order.getD (2 * i + 1) 0) 0)) v)
    (h ++ counted).toArray
  h.mapIdx fun i x => x ^^^ v.getD i 0 ^^^ v.getD (i + 8) 0

/-- The digest of some size in bytes. -/
def blake2b (size : Nat) (bytes : List UInt8) : List UInt8 :=
  let start := start512.mapIdx fun i x => if i = 0 then x ^^^ 0x01010000 ^^^ size else x
  let all := blocks 128 (bytes.length + 1) bytes
  let all := if all.isEmpty then [[]] else all
  let (h, _) := all.zipIdx.foldl (fun ((h, n) : List Nat × Nat) (block, i) =>
    let n := n + block.length
    (blakeStir h block n (i + 1 == all.length), n)) (start, 0)
  (h.flatMap fun n => (toBytes 8 n).reverse).take size

/-! ## Sums -/

/-- The remainder of a byte in front of thirty-two bits. -/
def redundancyStep (crc : Nat) (b : UInt8) : Nat :=
  (List.range 8).foldl (fun (c : Nat) _ =>
    if c / 0x80000000 = 1 then cut 32 (2 * c) ^^^ 0x04C11DB7 else 2 * c) (crc ^^^ b.toNat <<< 24)

/-- The bytes of a length, the least weighty first, without zeros at the end. -/
def lengthBytes : Nat → Nat → List UInt8
  | 0, _ => []
  | fuel + 1, n => if n = 0 then [] else UInt8.ofNat (n % 256) :: lengthBytes fuel (n / 256)

/-- The remainder of the bytes and their number. -/
def redundancy (bytes : List UInt8) : Nat :=
  flip 32 ((bytes ++ lengthBytes 8 bytes.length).foldl redundancyStep 0)

/-- A sum that is turned by a bit before each byte. -/
def turnedSum (bytes : List UInt8) : Nat :=
  bytes.foldl (fun s b => cut 16 (turn 16 1 s + b.toNat)) 0

/-- The sum of all bytes, folded to sixteen bits. -/
def foldedSum (bytes : List UInt8) : Nat :=
  let s := cut 32 (bytes.foldl (fun s b => s + b.toNat) 0)
  let r := s % 0x10000 + s / 0x10000
  r % 0x10000 + r / 0x10000

/-! ## Writing -/

def hexDigit (n : Nat) : Char := if n < 10 then Char.ofNat (48 + n) else Char.ofNat (87 + n)

def hexText (bytes : List UInt8) : String :=
  String.ofList (bytes.flatMap fun b => [hexDigit (b.toNat / 16), hexDigit (b.toNat % 16)])

end Host.Digest

end PolicyGate
