/-!
The BLAKE3 hash of a sequence of bytes.

The bytes are cut into chunks of 1024, each chunk into blocks of 64. The chunks are the leaves of a
binary tree whose left subtrees are full, and the root of the tree is hashed with a mark of its own.
-/

namespace DiscountTables.Digest

abbrev Words := Array UInt32

def initial : Words := #[
  0x6A09E667, 0xBB67AE85, 0x3C6EF372, 0xA54FF53A, 0x510E527F, 0x9B05688C, 0x1F83D9AB, 0x5BE0CD19]

def permutation : List Nat := [2, 6, 3, 10, 7, 0, 4, 13, 1, 11, 12, 5, 9, 14, 15, 8]

def chunkStart : UInt32 := 1
def chunkEnd : UInt32 := 2
def parent : UInt32 := 4
def root : UInt32 := 8

def word (ws : Words) (i : Nat) : UInt32 := ws.getD i 0

def rotateRight (x : UInt32) (n : UInt32) : UInt32 := (x >>> n) ||| (x <<< (32 - n))

def mix (v : Words) (a b c d : Nat) (x y : UInt32) : Words :=
  let va := word v a + word v b + x
  let vd := rotateRight (word v d ^^^ va) 16
  let vc := word v c + vd
  let vb := rotateRight (word v b ^^^ vc) 12
  let va := va + vb + y
  let vd := rotateRight (vd ^^^ va) 8
  let vc := vc + vd
  let vb := rotateRight (vb ^^^ vc) 7
  (((v.set! a va).set! b vb).set! c vc).set! d vd

def round (v m : Words) : Words :=
  let v := mix v 0 4 8 12 (word m 0) (word m 1)
  let v := mix v 1 5 9 13 (word m 2) (word m 3)
  let v := mix v 2 6 10 14 (word m 4) (word m 5)
  let v := mix v 3 7 11 15 (word m 6) (word m 7)
  let v := mix v 0 5 10 15 (word m 8) (word m 9)
  let v := mix v 1 6 11 12 (word m 10) (word m 11)
  let v := mix v 2 7 8 13 (word m 12) (word m 13)
  mix v 3 4 9 14 (word m 14) (word m 15)

def permute (m : Words) : Words := (permutation.map (word m)).toArray

def rounds : Nat → Words → Words → Words
  | 0, v, _ => v
  | n + 1, v, m => rounds n (round v m) (permute m)

structure Node where
  chaining : Words
  block : Words
  counter : Nat
  length : Nat
  flags : UInt32

def Node.compress (n : Node) : Words :=
  let start := n.chaining ++ initial.take 4 ++
    #[n.counter.toUInt32, (n.counter >>> 32).toUInt32, n.length.toUInt32, n.flags]
  let v := rounds 7 start n.block
  ((List.range 8).map fun i => word v i ^^^ word v (i + 8)).toArray

def bytesToWords : Nat → List UInt8 → List UInt32
  | 0, _ => []
  | n + 1, bytes =>
    let b := fun i => (bytes.getD i 0).toUInt32
    (b 0 ||| b 1 <<< 8 ||| b 2 <<< 16 ||| b 3 <<< 24) :: bytesToWords n (bytes.drop 4)

def chunkNode (counter : Nat) : Nat → Words → UInt32 → List UInt8 → Node
  | fuel, chaining, flags, bytes =>
    let block := bytes.take 64
    let rest := bytes.drop 64
    let node : Node := ⟨chaining, (bytesToWords 16 block).toArray, counter, block.length, flags⟩
    match fuel, rest with
    | 0, _ | _, [] => { node with flags := flags ||| chunkEnd }
    | fuel + 1, rest => chunkNode counter fuel node.compress 0 rest

def parentNode (left right : Words) : Node := ⟨initial, left ++ right, 0, 64, parent⟩

def chunkSize : Nat := 1024

/-- The node of the tree over `count` chunks, the first of which has number `counter`. The left subtree
has as many chunks as the greatest power of two below `count`. -/
def treeNode : Nat → Nat → Nat → List UInt8 → Node
  | 0, counter, _, bytes => chunkNode counter 15 initial chunkStart bytes
  | fuel + 1, counter, count, bytes =>
    if count ≤ 1 then chunkNode counter 15 initial chunkStart bytes
    else
      let left := 1 <<< (count - 1).log2
      parentNode
        (treeNode fuel counter left (bytes.take (left * chunkSize))).compress
        (treeNode fuel (counter + left) (count - left) (bytes.drop (left * chunkSize))).compress

def chunkCount (bytes : List UInt8) : Nat := max 1 ((bytes.length + chunkSize - 1) / chunkSize)

def hash (bytes : List UInt8) : List UInt8 :=
  let node := treeNode (chunkCount bytes) 0 (chunkCount bytes) bytes
  ({ node with flags := node.flags ||| root }.compress.toList).flatMap fun (w : UInt32) =>
    [w.toUInt8, (w >>> 8).toUInt8, (w >>> 16).toUInt8, (w >>> 24).toUInt8]

def hexByte (b : UInt8) : List Char := [Nat.digitChar (b.toNat / 16), Nat.digitChar (b.toNat % 16)]

def hexHash (bytes : List UInt8) : String := String.ofList ((hash bytes).flatMap hexByte)

end DiscountTables.Digest
