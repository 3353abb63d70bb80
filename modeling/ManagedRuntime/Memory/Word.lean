/-! Arithmetic on 64-bit words that refuses to wrap, and numbers as little-endian bytes. -/
namespace ManagedRuntime.Memory

def checkedAdd? (a b : UInt64) : Option UInt64 :=
  if a.toNat + b.toNat < UInt64.size then some (a + b) else none

def checkedMul? (a b : UInt64) : Option UInt64 :=
  if a.toNat * b.toNat < UInt64.size then some (a * b) else none

theorem checkedAdd?_eq_some_iff {a b c : UInt64} :
    checkedAdd? a b = some c ↔ c.toNat = a.toNat + b.toNat := by
  have bound := c.toNat_lt
  simp only [checkedAdd?, UInt64.size]
  split
  case isTrue fits =>
    have exact : (a + b).toNat = a.toNat + b.toNat := by
      rw [UInt64.toNat_add]; omega
    simp only [Option.some.injEq, ← UInt64.toNat_inj, exact]
    exact eq_comm
  case isFalse wraps => simp only [reduceCtorEq, false_iff]; omega

theorem checkedMul?_eq_some_iff {a b c : UInt64} :
    checkedMul? a b = some c ↔ c.toNat = a.toNat * b.toNat := by
  have bound := c.toNat_lt
  simp only [checkedMul?, UInt64.size]
  split
  case isTrue fits =>
    have exact : (a * b).toNat = a.toNat * b.toNat := by
      rw [UInt64.toNat_mul]; exact Nat.mod_eq_of_lt fits
    simp only [Option.some.injEq, ← UInt64.toNat_inj, exact]
    exact eq_comm
  case isFalse wraps => simp only [reduceCtorEq, false_iff]; omega

/-- The low `count` base-256 digits, least significant first. -/
def encodeLE : Nat → Nat → List UInt8
  | 0, _ => []
  | count + 1, value => UInt8.ofNat value :: encodeLE count (value / 256)

def decodeLE : List UInt8 → Nat
  | [] => 0
  | byte :: rest => byte.toNat + 256 * decodeLE rest

@[simp] theorem length_encodeLE (count value : Nat) : (encodeLE count value).length = count := by
  induction count generalizing value with
  | zero => rfl
  | succ count ih => simp [encodeLE, ih]

theorem decodeLE_encodeLE (count value : Nat) :
    decodeLE (encodeLE count value) = value % (1 <<< (8 * count)) := by
  induction count generalizing value with
  | zero => simp [encodeLE, decodeLE, Nat.mod_one]
  | succ count ih =>
    have digit : (UInt8.ofNat value).toNat = value % 256 := UInt8.toNat_ofNat'
    have shifted : 1 <<< (8 * (count + 1)) = 256 * (1 <<< (8 * count)) := by
      rw [Nat.one_shiftLeft, Nat.one_shiftLeft, Nat.mul_add, Nat.pow_add, Nat.mul_comm]
    rw [encodeLE, decodeLE, ih, digit, shifted, Nat.mod_mul]

end ManagedRuntime.Memory
