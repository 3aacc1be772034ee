import BindTrace.Wire.Basic

/-!
# Socket addresses

The address that a thread passes to `bind(2)`, with one shape per family.  A header stores an
address as its family tag and the fields that the family owns, and tells it back by the tag alone.
-/

namespace BindTrace

inductive SocketAddress where
  | ipv4 (address : Block 4) (port : UInt16)
  | ipv6 (address : Block 16) (port : UInt16)
  | unix (path : Block unixPathSize)
  | familyOnly (family : UInt16)
deriving DecidableEq

def familyUnix : UInt16 := 1

def familyIpv4 : UInt16 := 2

def familyIpv6 : UInt16 := 10

namespace SocketAddress

def family : SocketAddress → UInt16
  | ipv4 _ _ => familyIpv4
  | ipv6 _ _ => familyIpv6
  | unix _ => familyUnix
  | familyOnly family => family

end SocketAddress

namespace Header

/-- Stores an address: its family tag, and the fields that its shape owns. -/
def setAddress (header : Header) : SocketAddress → Header
  | .ipv4 address port => { header with family := familyIpv4, v4 := address, port := port }
  | .ipv6 address port => { header with family := familyIpv6, v6 := address, port := port }
  | .unix path => { header with family := familyUnix, unixPath := path }
  | .familyOnly family => { header with family := family }

/--
The address that the family tag selects.  A known family whose body could not be read has left its
tag only, so its address is made of whatever the fields hold.
-/
def address (header : Header) : SocketAddress :=
  if header.family = familyIpv4 then .ipv4 header.v4 header.port
  else if header.family = familyIpv6 then .ipv6 header.v6 header.port
  else if header.family = familyUnix then .unix header.unixPath
  else .familyOnly header.family

@[simp]
theorem family_setAddress (header : Header) (address : SocketAddress) :
    (header.setAddress address).family = address.family := by
  cases address <;> rfl

end Header

end BindTrace
