import PrizeDraw.Generator

namespace PrizeDraw

namespace ChaCha

abbrev Block := Vector UInt32 16

def rotateLeft (x n : UInt32) : UInt32 := x <<< n ||| x >>> (32 - n)

def rotateRight (x n : UInt32) : UInt32 := x >>> (n % 32) ||| x <<< ((32 - n) % 32)

def mix (s : Block) (a b d : Fin 16) (n : UInt32) : Block :=
  let s := s.set a.val (s[a] + s[b]) a.isLt
  s.set d.val (rotateLeft (s[d] ^^^ s[a]) n) d.isLt

def quarterRound (s : Block) (a b c d : Fin 16) : Block :=
  let s := mix s a b d 16
  let s := mix s c d b 12
  let s := mix s a b d 8
  mix s c d b 7

def doubleRound (s : Block) : Block :=
  let s := quarterRound s 0 4 8 12
  let s := quarterRound s 1 5 9 13
  let s := quarterRound s 2 6 10 14
  let s := quarterRound s 3 7 11 15
  let s := quarterRound s 0 5 10 15
  let s := quarterRound s 1 6 11 12
  let s := quarterRound s 2 7 8 13
  quarterRound s 3 4 9 14

def rounds : Nat → Block → Block
  | 0, s => s
  | n + 1, s => rounds n (doubleRound s)

structure Key where
  words : Vector UInt32 8
  deriving DecidableEq, Repr

def start (key : Key) (counter : UInt64) : Block :=
  let k := key.words
  #v[0x61707865, 0x3320646e, 0x79622d32, 0x6b206574,
    k[0], k[1], k[2], k[3], k[4], k[5], k[6], k[7],
    counter.toUInt32, (counter >>> 32).toUInt32, 0, 0]

def block (key : Key) (counter : UInt64) : Block :=
  let s := start key counter
  Vector.zipWith (· + ·) (rounds 6 s) s

def word (key : Key) (n : Nat) : UInt32 :=
  (block key (UInt64.ofNat (n / 16))).get ⟨n % 16, Nat.mod_lt n (by decide)⟩

def stretchStep (state : UInt64) : UInt64 × UInt32 :=
  let state := state * 6364136223846793005 + 11634580027462260723
  let folded := ((state >>> 18) ^^^ state) >>> 27
  (state, rotateRight folded.toUInt32 (state >>> 59).toUInt32)

def stretch : Nat → UInt64 → List UInt32
  | 0, _ => []
  | n + 1, state =>
      let (state, w) := stretchStep state
      w :: stretch n state

def Key.ofSeed (seed : UInt64) : Key :=
  let words := (stretch 8 seed).toArray
  ⟨Vector.ofFn fun i : Fin 8 => words.getD i.val 0⟩

end ChaCha

namespace Generator

def seeded (seed : UInt64) : Generator :=
  let key := ChaCha.Key.ofSeed seed
  { stream := ChaCha.word key }

end Generator

end PrizeDraw
