/-!
# Sift.Text.Hex

Hexadecimal digits in letters of either case.
-/

namespace Sift.Text

def hexDigit? (c : Char) : Option Nat :=
  if c.isDigit then some (c.toNat - 48)
  else if 'a' ≤ c && c ≤ 'f' then some (c.toNat - 87)
  else if 'A' ≤ c && c ≤ 'F' then some (c.toNat - 55)
  else none

def ofHex? (digits : List Char) : Option Nat :=
  digits.foldlM (fun n d => return 16 * n + (← hexDigit? d)) 0

end Sift.Text
