/-
# Hexadecimal digits

| digit | value |
| --- | --- |
| `0` to `9` | 0 to 9 |
| `a` to `f`, `A` to `F` | 10 to 15 |
-/

namespace CommandGrammar
namespace Text

/-- The value of a hexadecimal digit. -/
def hexDigit? (c : Char) : Option Nat :=
  if '0' ≤ c ∧ c ≤ '9' then some (c.toNat - '0'.toNat)
  else if 'a' ≤ c ∧ c ≤ 'f' then some (c.toNat - 'a'.toNat + 10)
  else if 'A' ≤ c ∧ c ≤ 'F' then some (c.toNat - 'A'.toNat + 10)
  else none

/-- The number that digits of a base up to sixteen write. -/
def basedNumber? (base : Nat) (cs : List Char) : Option Nat :=
  cs.foldlM (fun n c => do
    let d ← hexDigit? c
    if d < base then some (base * n + d) else none) 0

/-- The number that hexadecimal digits write. -/
def hexNumber? (cs : List Char) : Option Nat := basedNumber? 16 cs

/-- **A digit is below sixteen.** -/
theorem hexDigit?_lt {c : Char} {d : Nat} (h : hexDigit? c = some d) : d < 16 := by
  simp only [hexDigit?, Char.le_def, UInt32.le_iff_toNat_le] at h
  split at h
  · rename_i hc
    have : '0'.toNat = 48 := rfl
    have h9 : '9'.val.toNat = 57 := rfl
    have : c.toNat = c.val.toNat := rfl
    simp only [Option.some.injEq] at h
    omega
  · split at h
    · rename_i hc
      have : 'a'.toNat = 97 := rfl
      have hf : 'f'.val.toNat = 102 := rfl
      have : c.toNat = c.val.toNat := rfl
      simp only [Option.some.injEq] at h
      omega
    · split at h
      · rename_i hc
        have : 'A'.toNat = 65 := rfl
        have hf : 'F'.val.toNat = 70 := rfl
        have : c.toNat = c.val.toNat := rfl
        simp only [Option.some.injEq] at h
        omega
      · simp at h

end Text
end CommandGrammar
