-- Addresses and networks of the two families, as their bits.
namespace Ip

inductive Address where
  | v4 (bits : BitVec 32)
  | v6 (bits : BitVec 128) (zone : Option String)
  deriving DecidableEq

def mask (w length : Nat) : BitVec w := BitVec.allOnes w <<< (w - length)

structure Block (w : Nat) where
  base : BitVec w
  length : Nat
  fits : length ≤ w
  clean : base &&& mask w length = base
  deriving DecidableEq

def Block.has (b : Block w) (bits : BitVec w) : Bool := bits &&& mask w b.length = b.base

def Block.around (bits : BitVec w) (length : Nat) (fits : length ≤ w) : Block w :=
  ⟨bits &&& mask w length,length,fits,by rw [BitVec.and_assoc,BitVec.and_self]⟩

inductive Network where
  | v4 (block : Block 32)
  | v6 (block : Block 128)
  deriving DecidableEq

def Network.has : Network → Address → Bool
  | .v4 block,.v4 bits => block.has bits
  | .v6 block,.v6 bits _ => block.has bits
  | _,_ => false

def listed (networks : List Network) (addr : Address) : Bool := networks.any (·.has addr)

-- ::ffff:0:0/96
def Address.ipv4Mapped : Address → Option Address
  | .v4 _ => none
  | .v6 bits _ => if bits >>> 32 = 0xFFFF#128 then some (.v4 (bits.setWidth 32)) else none

def Address.unmapped (addr : Address) : Address := addr.ipv4Mapped.getD addr

def mapped (bits : BitVec 32) : BitVec 128 := BitVec.append 0xFFFF#96 bits

theorem mapped_high (bits : BitVec 32) : mapped bits >>> 32 = 0xFFFF#128 := by
  apply BitVec.eq_of_toNat_eq
  have whole : (mapped bits).toNat = 0xFFFF <<< 32 ||| bits.toNat := BitVec.toNat_append 0xFFFF#96 bits
  rw [BitVec.toNat_ushiftRight,whole,← Nat.shiftLeft_add_eq_or_of_lt bits.isLt,Nat.shiftLeft_eq,Nat.shiftRight_eq_div_pow]
  have small := bits.isLt
  have value : (0xFFFF#128).toNat = 0xFFFF := rfl
  omega

theorem mapped_low (bits : BitVec 32) : (mapped bits).setWidth 32 = bits := BitVec.setWidth_append_eq_right

theorem unmapped_mapped (bits : BitVec 32) (zone : Option String) : (Address.v6 (mapped bits) zone).unmapped = .v4 bits := by
  unfold Address.unmapped Address.ipv4Mapped
  dsimp only
  rw [if_pos (mapped_high bits),mapped_low]
  rfl

end Ip
