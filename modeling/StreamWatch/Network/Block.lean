import StreamWatch.Network.Address
import StreamWatch.Text.Blank

namespace StreamWatch.Network

/-! # Blocks of addresses

A block holds the addresses that agree with a given one in their first bits:

* `Block.covers`: membership in a block;
* `inBlockText`: membership in a block given as an address, a slash and a mask;
* `isPrivate`: is an address set aside for local use?
-/

/-- The addresses that agree with `base` in their first `length` bits. -/
structure Block (width : Nat) where
  base : BitVec width
  length : Nat

/-- Does an address agree with the base of a block in the block's first bits? -/
def Block.covers {width : Nat} (block : Block width) (address : BitVec width) : Bool :=
  address >>> (width - block.length) == block.base >>> (width - block.length)

/-! ### Blocks in text -/

/-- The mask of 32 bits whose first `length` bits are set. -/
def netmask (length : Nat) : IPv4 := BitVec.allOnes 32 <<< (32 - length)

/-- The number of leading ones of a mask that has no one after a zero. -/
def netmaskLength? (mask : IPv4) : Option Nat :=
  (List.range 33).find? fun length => netmask length == mask

/-- The length that a mask stands for: a number from 0 to 32, a dotted network mask, or
    the complement of one. -/
def maskLength? (mask : List Char) : Option Nat :=
  let number := if mask.length ≤ Text.maxIntegerLength then Text.decimal? mask else none
  match number.filter fun length => decide (length ≤ 32) with
  | some length => some length
  | none => do
    let bits ← IPv4.parse? mask
    (netmaskLength? bits).or (netmaskLength? (~~~bits))

/-- The block that an address, a slash and a mask stand for. -/
def blockOfText? (cs : List Char) : Option (Block 32) :=
  match Text.fields '/' cs with
  | [base, mask] => do
    return ⟨← IPv4.parse? base, ← maskLength? mask⟩
  | _ => none

/-- Is an address, as a text, in a block, as a text? What cannot be read is in no block,
    and without a slash there is no block. -/
def inBlockText (address block : String) : Bool :=
  match IPv4.parse? address.toList, blockOfText? block.toList with
  | some a, some b => b.covers a
  | _, _ => false

/-! ### Addresses for local use -/

/-- The block of four octets and a length. -/
def block4 (a b c d length : Nat) : Block 32 := ⟨IPv4.ofOctets a b c d, length⟩

/-- The block of leading groups and a length. -/
def block6 (groups : List Nat) (length : Nat) : Block 128 := ⟨IPv6.ofGroups groups, length⟩

/-- The blocks of short addresses set aside for local use. -/
def privateBlocks4 : List (Block 32) :=
  [block4 0 0 0 0 8, block4 10 0 0 0 8, block4 127 0 0 0 8, block4 169 254 0 0 16,
   block4 172 16 0 0 12, block4 192 0 0 0 24, block4 192 0 2 0 24, block4 192 168 0 0 16,
   block4 198 18 0 0 15, block4 198 51 100 0 24, block4 203 0 113 0 24, block4 240 0 0 0 4]

/-- The short addresses inside those blocks that are reachable from everywhere. -/
def publicBlocks4 : List (Block 32) := [block4 192 0 0 9 32, block4 192 0 0 10 32]

/-- Is a short address set aside for local use? -/
def IPv4.isPrivate (address : IPv4) : Bool :=
  privateBlocks4.any (·.covers address) && !publicBlocks4.any (·.covers address)

/-- The blocks of long addresses set aside for local use. -/
def privateBlocks6 : List (Block 128) :=
  [block6 [0, 0, 0, 0, 0, 0, 0, 1] 128, block6 [] 128, block6 [0x64, 0xff9b, 1] 48,
   block6 [0x100] 64, block6 [0x2001] 23, block6 [0x2001, 0xdb8] 32, block6 [0x2002] 16,
   block6 [0xfc00] 7, block6 [0xfe80] 10]

/-- The long addresses inside those blocks that are reachable from everywhere. -/
def publicBlocks6 : List (Block 128) :=
  [block6 [0x2001, 1, 0, 0, 0, 0, 0, 1] 128, block6 [0x2001, 1, 0, 0, 0, 0, 0, 2] 128,
   block6 [0x2001, 3] 32, block6 [0x2001, 4, 0x112] 48, block6 [0x2001, 0x20] 28,
   block6 [0x2001, 0x30] 28]

/-- The block of long addresses that stand for short ones. -/
def mappedBlock : Block 128 := block6 [0, 0, 0, 0, 0, 0xffff] 96

/-- Is a long address set aside for local use? One that stands for a short address is as
    private as that one. -/
def IPv6.isPrivate (address : IPv6) : Bool :=
  if mappedBlock.covers address then IPv4.isPrivate (address.setWidth 32)
  else privateBlocks6.any (·.covers address) && !publicBlocks6.any (·.covers address)

/-- Is an address, as a text, set aside for local use? White space around it does not
    count, and what cannot be read is not private. -/
def isPrivate (text : Option String) : Bool :=
  let cs := Text.trim Text.isMargin (text.getD "").toList
  match IPv4.parse? cs with
  | some address => IPv4.isPrivate address
  | none =>
    match IPv6.parse? cs with
    | some address => IPv6.isPrivate address
    | none => false

end StreamWatch.Network
