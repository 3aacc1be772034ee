import BindTrace.Address.Basic
import BindTrace.Text.Padding
import BindTrace.Text.Utf8

/-!
# Addresses as text

How an address is shown in the log: an IP address with its port, a UNIX path after `unix:`, a dash
where nothing was read, and the bare family otherwise.
-/

namespace BindTrace

namespace Ipv4

def text (address : Block 4) : String :=
  ".".intercalate (address.toList.map fun byte => toString byte.toNat)

end Ipv4

namespace Ipv6

def groups (address : Block 16) : List Nat :=
  (List.range 8).map fun i =>
    256 * (address[2 * i]?.getD 0).toNat + (address[2 * i + 1]?.getD 0).toNat

def zeroRun (groups : List Nat) : Nat :=
  (groups.takeWhile (· == 0)).length

/-- The start and the length of the longest run of zero groups, the first of equal ones. -/
def longestZeroRun : List Nat → Nat × Nat
  | [] => (0, 0)
  | group :: rest =>
      let here := zeroRun (group :: rest)
      let later := longestZeroRun rest
      if later.2 ≤ here then (0, here) else (later.1 + 1, later.2)

def hex (group : Nat) : String :=
  String.ofList (Nat.toDigits 16 group)

def joined (groups : List Nat) : String :=
  ":".intercalate (groups.map hex)

/--
The shortest usual form: the longest run of two or more zero groups is left out, and an address that
maps an IPv4 address ends in its decimal form.
-/
def text (address : Block 16) : String :=
  let all := groups address
  if all.take 6 = [0, 0, 0, 0, 0, 0xFFFF] then
    "::ffff:" ++ Ipv4.text (address.slice 12 4)
  else
    let run := longestZeroRun all
    if run.2 ≤ 1 then joined all
    else joined (all.take run.1) ++ "::" ++ joined (all.drop (run.1 + run.2))

end Ipv6

inductive ShownAddress where
  | ipv4 (address : Block 4) (port : UInt16)
  | ipv6 (address : Block 16) (port : UInt16)
  | unix (name : String)
  | family (family : UInt16)
deriving DecidableEq

/--
The name of a UNIX socket.  An abstract name starts with a NUL and runs to the padding; it is shown
with a leading at sign.  A path ends at its first NUL.
-/
def unixName (path : List UInt8) : String :=
  match path with
  | 0 :: rest => "@" ++ Utf8.text (Text.dropPadding rest)
  | _ => Utf8.text (Text.untilNul path)

namespace SocketAddress

def shown : SocketAddress → ShownAddress
  | ipv4 address port => .ipv4 address port
  | ipv6 address port => .ipv6 address port
  | unix path => .unix (unixName path.toList)
  | familyOnly family => .family family

end SocketAddress

namespace ShownAddress

def ipText? : ShownAddress → Option String
  | ipv4 address _ => some (Ipv4.text address)
  | ipv6 address _ => some (Ipv6.text address)
  | unix _ => none
  | family _ => none

def text : ShownAddress → String
  | ipv4 address port => Ipv4.text address ++ ":" ++ toString port.toNat
  | ipv6 address port => "[" ++ Ipv6.text address ++ "]:" ++ toString port.toNat
  | unix name => "unix:" ++ name
  | family number => if number = 0 then "-" else "family:" ++ toString number.toNat

end ShownAddress

end BindTrace
