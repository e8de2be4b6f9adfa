import LeaseRoster.Network.Address

/-!
# Private addresses

A block of addresses of one version holds those that agree in their leading bits.
Private addresses are those of the blocks that are set aside for use inside a
site, on one host or in documentation.
-/

namespace LeaseRoster

namespace IpAddress

/-- Whether two numbers of `width` bits agree in their first `length` bits. -/
def agreeInFirst (width length left right : Nat) : Bool :=
  left / Nat.pow 2 (width - length) == right / Nat.pow 2 (width - length)

/-- A block of addresses: its first address and the number of its leading bits. -/
structure Block where
  base : Nat
  length : Nat

def Block.contains (block : Block) (width bits : Nat) : Bool :=
  agreeInFirst width block.length bits block.base

/-- The bits of an address of version 4 from its four numbers. -/
def dotted (first second third fourth : Nat) : Nat :=
  Text.ofDigits 256 [first, second, third, fourth]

/-- The bits of an address of version 6 from its leading groups. -/
def leading (groups : List Nat) : Nat :=
  Text.ofDigits 0x10000 (groups ++ List.replicate (8 - groups.length) 0)

def privateBlocks4 : List Block :=
  [⟨dotted 0 0 0 0, 8⟩, ⟨dotted 10 0 0 0, 8⟩, ⟨dotted 127 0 0 0, 8⟩,
   ⟨dotted 169 254 0 0, 16⟩, ⟨dotted 172 16 0 0, 12⟩, ⟨dotted 192 0 0 0, 24⟩,
   ⟨dotted 192 0 0 170, 31⟩, ⟨dotted 192 0 2 0, 24⟩, ⟨dotted 192 168 0 0, 16⟩,
   ⟨dotted 198 18 0 0, 15⟩, ⟨dotted 198 51 100 0, 24⟩, ⟨dotted 203 0 113 0, 24⟩,
   ⟨dotted 240 0 0 0, 4⟩]

/-- Addresses of version 4 inside private blocks that are public all the same. -/
def publicBlocks4 : List Block :=
  [⟨dotted 192 0 0 9, 32⟩, ⟨dotted 192 0 0 10, 32⟩]

def privateBlocks6 : List Block :=
  [⟨1, 128⟩, ⟨0, 128⟩, ⟨leading [0x64, 0xff9b, 1], 48⟩, ⟨leading [0x100], 64⟩,
   ⟨leading [0x2001], 23⟩, ⟨leading [0x2001, 0xdb8], 32⟩, ⟨leading [0x2002], 16⟩,
   ⟨leading [0xfc00], 7⟩, ⟨leading [0xfe80], 10⟩]

/-- Blocks of version 6 inside private ones that are public all the same. -/
def publicBlocks6 : List Block :=
  [⟨leading [0x2001, 1] + 1, 128⟩, ⟨leading [0x2001, 1] + 2, 128⟩,
   ⟨leading [0x2001, 3], 32⟩, ⟨leading [0x2001, 4, 0x112], 48⟩,
   ⟨leading [0x2001, 0x20], 28⟩, ⟨leading [0x2001, 0x30], 28⟩]

/-- Whether bits lie in a private block and in none of the exceptions. -/
def inPrivateBlocks (width : Nat) (blocks exceptions : List Block) (bits : Nat) :
    Bool :=
  blocks.any (·.contains width bits) && !exceptions.any (·.contains width bits)

/-- Whether the bits of an address of version 4 are private. -/
def isPrivate4 (bits : Nat) : Bool :=
  inPrivateBlocks 32 privateBlocks4 publicBlocks4 bits

/-- Whether an address is private.  An address of version 6 that stands for one of
version 4 is judged as that. -/
def isPrivate : IpAddress → Bool
  | .v4 bits => isPrivate4 bits
  | .v6 bits _ =>
    if bits.val / addressCount4 == 0xffff then isPrivate4 (bits.val % addressCount4)
    else inPrivateBlocks 128 privateBlocks6 publicBlocks6 bits

end IpAddress

end LeaseRoster
