import Mathlib.Data.BitVec

namespace Simvoip.Net

/-- `ns3::Ipv4Address`, in host order. -/
abbrev Ipv4Address := BitVec 32

/-- The polymorphic `ns3::Address`, in the two shapes this program builds. -/
inductive Address where
  | ipv4 (address : Ipv4Address)
  | inetSocket (address : Ipv4Address) (port : Nat)
deriving DecidableEq

/-- What ns-3 fixes in sources outside this repository.  Nothing below depends on
what it is. -/
structure Ns3 where
  /-- `Ipv4Address ()`, the mapped default of an address map. -/
  emptyAddress : Ipv4Address

end Simvoip.Net
