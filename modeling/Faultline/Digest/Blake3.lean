import Faultline.Bytes

namespace Faultline

namespace Blake3

/-- Eight words that stand for everything hashed so far. -/
abbrev Chaining := Vector UInt32 8

abbrev Words := Vector UInt32 16

def initial : Chaining :=
  #v[0x6A09E667, 0xBB67AE85, 0x3C6EF372, 0xA54FF53A, 0x510E527F, 0x9B05688C, 0x1F83D9AB, 0x5BE0CD19]

def rotateRight (x n : UInt32) : UInt32 := (x >>> n) ||| (x <<< (32 - n))

/-- Mixes two message words into four words of the state. -/
def quarter (v : Words) (a b c d : Fin 16) (x y : UInt32) : Words :=
  let va := v[a] + v[b] + x
  let vd := rotateRight (v[d] ^^^ va) 16
  let vc := v[c] + vd
  let vb := rotateRight (v[b] ^^^ vc) 12
  let va := va + vb + y
  let vd := rotateRight (vd ^^^ va) 8
  let vc := vc + vd
  let vb := rotateRight (vb ^^^ vc) 7
  (((v.set a va).set b vb).set c vc).set d vd

/-- Mixes the columns of the state and then its diagonals. -/
def round (v m : Words) : Words :=
  let v := quarter v 0 4 8 12 m[0] m[1]
  let v := quarter v 1 5 9 13 m[2] m[3]
  let v := quarter v 2 6 10 14 m[4] m[5]
  let v := quarter v 3 7 11 15 m[6] m[7]
  let v := quarter v 0 5 10 15 m[8] m[9]
  let v := quarter v 1 6 11 12 m[10] m[11]
  let v := quarter v 2 7 8 13 m[12] m[13]
  quarter v 3 4 9 14 m[14] m[15]

def order : Vector (Fin 16) 16 := #v[2, 6, 3, 10, 7, 0, 4, 13, 1, 11, 12, 5, 9, 14, 15, 8]

/-- The message words in the order of the next round. -/
def permute (m : Words) : Words := order.map fun i => m[i]

def rounds : Nat → Words → Words → Words
  | 0, v, _ => v
  | n + 1, v, m => rounds n (round v m) (permute m)

/-- A compression that is still to be done: its last flag depends on whether it is the root. -/
structure Node where
  chaining : Chaining
  block : Words
  counter : Nat
  length : Nat
  flags : UInt32

def compress (node : Node) (flags : UInt32) : Chaining :=
  let h := node.chaining
  let start : Words :=
    #v[h[0], h[1], h[2], h[3], h[4], h[5], h[6], h[7], initial[0], initial[1], initial[2], initial[3],
      UInt32.ofNat node.counter, UInt32.ofNat (node.counter >>> 32), UInt32.ofNat node.length,
      node.flags ||| flags]
  let v := rounds 7 start node.block
  Vector.ofFn fun i : Fin 8 => v[i.val] ^^^ v[i.val + 8]

def chunkStart : UInt32 := 1
def chunkEnd : UInt32 := 2
def parent : UInt32 := 4
def root : UInt32 := 8

/-- Sixteen little-endian words, with zeros where the bytes end. -/
def words (block : Bytes) : Words :=
  Vector.ofFn fun i => UInt32.ofNat (ofLittleEndian ((block.drop (4 * i)).take 4))

/-- Hashes a chunk's blocks of 64 bytes one after the other, up to the last one. -/
def chunkNode (counter : Nat) (chaining : Chaining) (flags : UInt32) (bytes : Bytes) : Node :=
  if more : 64 < bytes.length then
    have : (bytes.drop 64).length < bytes.length := by simp; omega
    let block : Node := ⟨chaining, words (bytes.take 64), counter, 64, flags⟩
    chunkNode counter (compress block 0) 0 (bytes.drop 64)
  else ⟨chaining, words bytes, counter, bytes.length, flags ||| chunkEnd⟩
termination_by bytes.length

def parentNode (left right : Chaining) : Node :=
  ⟨initial, left ++ right, 0, 64, parent⟩

/-- The greatest power of two below a number of chunks. -/
def leftSize (count : Nat) : Nat := Nat.pow 2 (count - 1).log2

theorem leftSize_pos (count : Nat) : 0 < leftSize count := Nat.two_pow_pos _

theorem leftSize_lt {count : Nat} (several : 1 < count) : leftSize count < count := by
  have : leftSize count ≤ count - 1 := Nat.log2_self_le (by omega)
  omega

/-- The tree over `count` chunks of 1024 bytes that start with chunk `first`: the left half is as large as
a full binary tree can be. -/
def treeNode (first count : Nat) (bytes : Bytes) : Node :=
  if several : 1 < count then
    let size := leftSize count
    let left := treeNode first size (bytes.take (1024 * size))
    let right := treeNode (first + size) (count - size) (bytes.drop (1024 * size))
    parentNode (compress left 0) (compress right 0)
  else chunkNode first initial chunkStart bytes
termination_by count
decreasing_by
  · exact leftSize_lt several
  · exact Nat.sub_lt (Nat.lt_trans Nat.one_pos several) (leftSize_pos count)

end Blake3

/-- The BLAKE3 digest of 32 bytes. -/
def blake3 (bytes : Bytes) : Bytes :=
  let node := Blake3.treeNode 0 (max 1 ((bytes.length + 1023) / 1024)) bytes
  (Blake3.compress { node with counter := 0 } Blake3.root).toList.flatMap fun word => littleEndian 4 word.toNat

end Faultline
