/-! Numbers and byte strings in lower-case hexadecimal. -/
namespace ManagedRuntime.Text

/-- Shortest digits behind `0x`; zero is `0x0`. -/
def hexadecimal (value : Nat) : String :=
  "0x" ++ String.ofList (Nat.toDigits 16 value)

/-- At least `width` digits behind `0x`, filled with zeros on the left. -/
def paddedHexadecimal (width value : Nat) : String :=
  let digits := Nat.toDigits 16 value
  "0x" ++ String.ofList (List.replicate (width - digits.length) '0' ++ digits)

def hexDigit (value : Nat) : Char :=
  if value < 10 then Char.ofNat (0x30 + value) else Char.ofNat (0x57 + value)

def isHexDigit (c : Char) : Bool :=
  c.isDigit || ('a' ≤ c && c ≤ 'f') || ('A' ≤ c && c ≤ 'F')

/-- Two digits a byte, without separators. -/
def hexBytes (bytes : List UInt8) : String :=
  String.ofList (bytes.flatMap fun byte => [hexDigit (byte.toNat / 16), hexDigit (byte.toNat % 16)])

end ManagedRuntime.Text
