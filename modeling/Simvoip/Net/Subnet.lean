import Mathlib.Tactic.Common
import Simvoip.Net.Forwarding

namespace Simvoip.Net

/-! # Subnets -/

/-- A network address, whose host part is zero. -/
structure Subnet where
  base : Ipv4Address
  length : Nat
  aligned : 2 ^ (32 - length) ∣ base.toNat

namespace Subnet

variable (subnet : Subnet)

def size : Nat := 2 ^ (32 - subnet.length)

def host (number : Nat) : Ipv4Address := subnet.base + BitVec.ofNat 32 number

def broadcast : Ipv4Address := subnet.host (subnet.size - 1)

def Contains (address : Ipv4Address) : Prop :=
  network address subnet.length = network subnet.base subnet.length

/-- An address that an interface in the subnet may have. -/
def Usable (address : Ipv4Address) : Prop :=
  subnet.Contains address ∧ address ≠ subnet.broadcast

variable {subnet} {number other : Nat} {address : Ipv4Address}

theorem size_pos : 0 < subnet.size := Nat.two_pow_pos _

theorem fits : subnet.base.toNat + subnet.size ≤ 2 ^ 32 := by
  have whole : subnet.size ∣ 2 ^ 32 := Nat.pow_dvd_pow 2 (Nat.sub_le _ _)
  obtain ⟨blocks, all⟩ := whole
  obtain ⟨before, base⟩ : subnet.size ∣ subnet.base.toNat := subnet.aligned
  have below := subnet.base.isLt
  rw [all, base] at below
  have later : before + 1 ≤ blocks := Nat.lt_of_mul_lt_mul_left below
  rw [all, base, ← Nat.mul_succ]
  exact Nat.mul_le_mul_left _ later

/-- The addresses of a subnet are one after the other. -/
theorem contains_iff : subnet.Contains address ↔
    subnet.base.toNat ≤ address.toNat ∧ address.toNat < subnet.base.toNat + subnet.size := by
  obtain ⟨before, base⟩ : subnet.size ∣ subnet.base.toNat := subnet.aligned
  have positive := @size_pos subnet
  rw [Contains, ← BitVec.toNat_inj, network, network, BitVec.toNat_ushiftRight,
    BitVec.toNat_ushiftRight, Nat.shiftRight_eq_div_pow, Nat.shiftRight_eq_div_pow]
  change address.toNat / subnet.size = subnet.base.toNat / subnet.size ↔ _
  rw [base, Nat.mul_div_cancel_left _ positive, Nat.div_eq_iff positive, Nat.mul_comm before]
  omega

theorem toNat_host (bounded : subnet.base.toNat + number < 2 ^ 32) :
    (subnet.host number).toNat = subnet.base.toNat + number := by
  rw [host, BitVec.toNat_add, BitVec.toNat_ofNat, Nat.mod_eq_of_lt (show number < 2 ^ 32 by omega),
    Nat.mod_eq_of_lt bounded]

theorem contains_host_iff (bounded : subnet.base.toNat + number < 2 ^ 32) :
    subnet.Contains (subnet.host number) ↔ number < subnet.size := by
  rw [contains_iff, toNat_host bounded]
  omega

theorem host_inj (bounded : subnet.base.toNat + number < 2 ^ 32)
    (bounded' : subnet.base.toNat + other < 2 ^ 32)
    (same : subnet.host number = subnet.host other) : number = other := by
  have value := congrArg BitVec.toNat same
  rw [toNat_host bounded, toNat_host bounded'] at value
  omega

/-- Only the last host is lost to the broadcast. -/
theorem usable_host_iff (bounded : subnet.base.toNat + number < 2 ^ 32) :
    subnet.Usable (subnet.host number) ↔ number + 1 < subnet.size := by
  have positive := @size_pos subnet
  have last : subnet.base.toNat + (subnet.size - 1) < 2 ^ 32 := by
    have fits := @fits subnet
    omega
  rw [Usable, contains_host_iff bounded]
  constructor
  · rintro ⟨inside, different⟩
    have before : number ≠ subnet.size - 1 := fun same => different (by rw [same, broadcast])
    omega
  · intro before
    refine ⟨by omega, fun same => ?_⟩
    have numbers := host_inj bounded last same
    omega

/-- No address lies in two subnets one of which ends where the other begins or
before. -/
theorem disjoint {first second : Subnet}
    (apart : first.base.toNat + first.size ≤ second.base.toNat)
    {one two : Ipv4Address} (inside : first.Contains one) (inside' : second.Contains two) :
    one ≠ two := by
  rintro rfl
  have upper := (contains_iff.mp inside).2
  have lower := (contains_iff.mp inside').1
  omega

end Subnet

end Simvoip.Net
