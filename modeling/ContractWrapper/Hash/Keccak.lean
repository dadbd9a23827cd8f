/-! The Keccak-256 hash: the sponge over the 1600-bit permutation with a rate of 136
bytes and the padding byte 0x01.

The state is a grid of five by five lanes; lane (x, y) stands at position x + 5 * y.
-/

set_option autoImplicit false

namespace ContractWrapper.Keccak

abbrev Lanes := Vector UInt64 25

def rate : Nat := 136

def roundConstants : List UInt64 :=
  [0x0000000000000001, 0x0000000000008082, 0x800000000000808a, 0x8000000080008000,
    0x000000000000808b, 0x0000000080000001, 0x8000000080008081, 0x8000000000008009,
    0x000000000000008a, 0x0000000000000088, 0x0000000080008009, 0x000000008000000a,
    0x000000008000808b, 0x800000000000008b, 0x8000000000008089, 0x8000000000008003,
    0x8000000000008002, 0x8000000000000080, 0x000000000000800a, 0x800000008000000a,
    0x8000000080008081, 0x8000000000008080, 0x0000000080000001, 0x8000000080008008]

/-- How far each lane is rotated before it moves. -/
def rotations : Vector UInt64 25 :=
  #v[0, 1, 62, 28, 27,
    36, 44, 6, 55, 20,
    3, 10, 43, 25, 39,
    41, 45, 15, 21, 8,
    18, 2, 61, 56, 14]

/-- The amount is below 64. A shift takes its amount modulo 64, so that no rotation at all
also comes out right. -/
def rotateLeft (lane amount : UInt64) : UInt64 :=
  (lane <<< amount) ||| (lane >>> (64 - amount))

def lane (lanes : Lanes) (x y : Nat) : UInt64 :=
  lanes[x % 5 + 5 * (y % 5)]

def ofLanes (value : Nat → Nat → UInt64) : Lanes :=
  Vector.ofFn fun position => value (position.val % 5) (position.val / 5)

def columnParity (lanes : Lanes) (x : Nat) : UInt64 :=
  lane lanes x 0 ^^^ lane lanes x 1 ^^^ lane lanes x 2 ^^^ lane lanes x 3 ^^^ lane lanes x 4

/-- Add to each lane the parities of the two columns beside it. -/
def mixColumns (lanes : Lanes) : Lanes :=
  let parity : Vector UInt64 5 := Vector.ofFn fun x => columnParity lanes x.val
  ofLanes fun x y =>
    lane lanes x y ^^^ parity.get ⟨(x + 4) % 5, Nat.mod_lt _ (by decide)⟩ ^^^
      rotateLeft (parity.get ⟨(x + 1) % 5, Nat.mod_lt _ (by decide)⟩) 1

/-- Lane (x, y) of the result is the rotated lane (x + 3 * y, x). -/
def moveLanes (lanes : Lanes) : Lanes :=
  ofLanes fun x y => rotateLeft (lane lanes (x + 3 * y) x) (lane rotations (x + 3 * y) x)

-- The only step that is not linear; it works along the rows.
def combineRows (lanes : Lanes) : Lanes :=
  ofLanes fun x y => lane lanes x y ^^^ (~~~ lane lanes (x + 1) y &&& lane lanes (x + 2) y)

def round (lanes : Lanes) (constant : UInt64) : Lanes :=
  let mixed := combineRows (moveLanes (mixColumns lanes))
  mixed.set 0 (mixed[0] ^^^ constant)

def permute (lanes : Lanes) : Lanes :=
  roundConstants.foldl round lanes

def laneOfBytes (bytes : List UInt8) : UInt64 :=
  bytes.foldr (fun byte value => value <<< 8 ||| byte.toUInt64) 0

def absorbBlock (lanes : Lanes) (block : List UInt8) : Lanes :=
  permute (Vector.ofFn fun position =>
    lanes[position] ^^^ laneOfBytes ((block.drop (8 * position.val)).take 8))

/-- At least one byte is added, and the result fills whole blocks. The first added bit and
the last one are set; with a single added byte they share it. -/
def pad (message : List UInt8) : List UInt8 :=
  match rate - message.length % rate with
  | 1 => message ++ [0x81]
  | missing => message ++ 0x01 :: List.replicate (missing - 2) 0 ++ [0x80]

def blocks : Nat → List UInt8 → List (List UInt8)
  | 0, _ => []
  | count + 1, bytes => bytes.take rate :: blocks count (bytes.drop rate)

def bytesOfLane (value : UInt64) : List UInt8 :=
  (List.range 8).map fun position => (value >>> (8 * position).toUInt64).toUInt8

def hash256 (message : List UInt8) : List UInt8 :=
  let padded := pad message
  let final := (blocks (padded.length / rate) padded).foldl absorbBlock (Vector.replicate 25 0)
  (final.toList.take 4).flatMap bytesOfLane

theorem length_hash256 (message : List UInt8) : (hash256 message).length = 32 := by
  simp [hash256, bytesOfLane, List.length_flatMap, List.map_const']

end ContractWrapper.Keccak
