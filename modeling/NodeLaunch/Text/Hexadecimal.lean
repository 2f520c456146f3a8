/-!
# Hexadecimal digits

Written in lowercase, read in both cases.
-/

namespace NodeLaunch.Text

def hexDigits (n : Nat) : List Char := Nat.toDigits 16 n

def hexDigit (n : Nat) : Char := (hexDigits n).headD '0'

def hexValue? (c : Char) : Option Nat :=
  if '0' ≤ c ∧ c ≤ '9' then some (c.toNat - 48)
  else if 'a' ≤ c ∧ c ≤ 'f' then some (c.toNat - 87)
  else if 'A' ≤ c ∧ c ≤ 'F' then some (c.toNat - 55)
  else none

/-- The character of a number, if it is one: no surrogate, none past the last. -/
def charOf? (n : Nat) : Option Char :=
  if n < 0xD800 ∨ (0xDFFF < n ∧ n ≤ 0x10FFFF) then some (Char.ofNat n) else none

theorem hexValue?_hexDigit : ∀ n < 16, hexValue? (hexDigit n) = some n := by decide

end NodeLaunch.Text
