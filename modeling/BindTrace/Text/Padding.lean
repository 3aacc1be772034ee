/-!
# NUL-padded names

The kernel keeps names in fixed fields padded with NUL bytes.  A name that ends at its first NUL
and a name that may hold NULs and ends before the padding are cut differently.
-/

namespace BindTrace

namespace Text

def untilNul (bytes : List UInt8) : List UInt8 :=
  bytes.takeWhile (· != 0)

def dropPadding (bytes : List UInt8) : List UInt8 :=
  (bytes.reverse.dropWhile (· == 0)).reverse

end Text

end BindTrace
