/-! # Numbers of limited width

The largest and the smallest numbers that fit into 32 or 64 bits. -/

namespace Entitlement.Width

def max32 : Nat := 4294967295

def max64 : Nat := 18446744073709551615

def minSigned64 : Int := -9223372036854775808

def maxSigned64 : Int := 9223372036854775807

def signed64 (value : Int) : Int := value.bmod (max64 + 1)

end Entitlement.Width
