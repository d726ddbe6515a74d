/-!
# Hexadecimal bytes

A byte string is shown as pairs of uppercase digits with one space between two pairs. The pairs
are read back by `Hex.read?`, which takes nothing but what `Hex.dump` writes.
-/

namespace SubtitleExchange
namespace Hex

def digit (n : Nat) : Char :=
  if n < 10 then Char.ofNat ('0'.toNat + n) else Char.ofNat ('A'.toNat + (n - 10))

def pair (b : UInt8) : String :=
  String.ofList [digit (b.toNat / 16), digit (b.toNat % 16)]

def dump (bytes : List UInt8) : String :=
  " ".intercalate (bytes.map pair)

/-!
# Reading

Only the digits that the writer uses have a value, so lowercase letters are refused.
-/

def value? (c : Char) : Option Nat :=
  if '0' ≤ c ∧ c ≤ '9' then some (c.toNat - '0'.toNat)
  else if 'A' ≤ c ∧ c ≤ 'F' then some (c.toNat - 'A'.toNat + 10)
  else none

def byte? (high low : Char) : Option UInt8 := do
  let h ← value? high
  let l ← value? low
  return UInt8.ofNat (16 * h + l)

/-- The pairs of a nonempty dump. -/
def readPairs? : List Char → Option (List UInt8)
  | [high, low] => do
      let b ← byte? high low
      return [b]
  | high :: low :: ' ' :: rest => do
      let b ← byte? high low
      let bs ← readPairs? rest
      return b :: bs
  | _ => none

def read? (text : String) : Option (List UInt8) :=
  match text.toList with
  | [] => some []
  | cs => readPairs? cs

theorem value?_digit : ∀ n < 16, value? (digit n) = some n := by
  decide

theorem byte?_digit (b : UInt8) :
    byte? (digit (b.toNat / 16)) (digit (b.toNat % 16)) = some b := by
  have hb : b.toNat < 256 := b.toNat_lt
  have hhigh := value?_digit (b.toNat / 16) (by omega)
  have hlow := value?_digit (b.toNat % 16) (by omega)
  have hsplit : UInt8.ofNat (16 * (b.toNat / 16) + b.toNat % 16) = b := by
    rw [Nat.div_add_mod, UInt8.ofNat_toNat]
  rw [byte?, hhigh, hlow]
  exact congrArg some hsplit

theorem readPairs?_dump (b : UInt8) (rest : List UInt8) :
    readPairs? (dump (b :: rest)).toList = some (b :: rest) := by
  induction rest generalizing b with
  | nil =>
      simp [dump, pair, readPairs?, byte?_digit]
  | cons c rest ih =>
      have hstep : (dump (b :: c :: rest)).toList =
          digit (b.toNat / 16) :: digit (b.toNat % 16) :: ' ' :: (dump (c :: rest)).toList := by
        simp [dump, pair, String.intercalate_cons_cons]
      rw [hstep, readPairs?, byte?_digit, ih c]
      rfl

theorem read?_dump (bytes : List UInt8) : read? (dump bytes) = some bytes := by
  cases bytes with
  | nil =>
      rfl
  | cons b rest =>
      have h := readPairs?_dump b rest
      unfold read?
      split
      · rename_i hnil
        rw [hnil] at h
        simp [readPairs?] at h
      · exact h

end Hex
end SubtitleExchange
