import SubtitleExchange.Decimal
import SubtitleExchange.Proofs.Text.Image
import SubtitleExchange.Text.Physical

/-!
# Texts without control characters

A plain text stands on one physical line. Numerals are plain, joining keeps texts plain, and so are
all lines of a text field, whatever bytes the field holds.
-/

namespace SubtitleExchange
namespace Physical

/-- No character stands before the space, so there is no line feed, carriage return or tab. -/
def IsPlain (text : String) : Prop :=
  ∀ c ∈ text.toList, 0x20 ≤ c.toNat

instance (text : String) : Decidable (IsPlain text) :=
  List.decidableBAll (fun c : Char => 0x20 ≤ c.toNat) text.toList

theorem IsPlain.lineFeed_not_mem {text : String} (h : IsPlain text) : '\n' ∉ text.toList := by
  intro hmem
  have hle := h '\n' hmem
  exact absurd hle (by decide)

theorem IsPlain.append {front back : String} (hfront : IsPlain front) (hback : IsPlain back) :
    IsPlain (front ++ back) := by
  intro c hc
  rw [String.toList_append, List.mem_append] at hc
  cases hc with
  | inl hmem =>
      exact hfront c hmem
  | inr hmem =>
      exact hback c hmem

theorem isPlain_intercalate {joint : String} {parts : List String} (hjoint : IsPlain joint)
    (hparts : ∀ part ∈ parts, IsPlain part) : IsPlain (joint.intercalate parts) := by
  rw [IsPlain, String.toList_intercalate]
  apply Cut.forall_mem_intercalate hjoint
  intro cs hcs
  obtain ⟨part, hpart, rfl⟩ := List.mem_map.mp hcs
  exact hparts part hpart

/-!
# Numerals
-/

theorem le_toNat_of_isDigit {c : Char} (h : c.isDigit = true) : 0x20 ≤ c.toNat := by
  have hzero : '0'.toNat ≤ c.toNat := (Char.isDigit_iff_toNat.mp h).1
  exact Nat.le_trans (by decide) hzero

theorem isPlain_toString (n : Nat) : IsPlain (toString n) := by
  intro c hc
  rw [Nat.toString_eq_repr, Nat.toList_repr] at hc
  exact le_toNat_of_isDigit (Nat.isDigit_of_mem_toDigits (by decide) (by decide) hc)

theorem isPlain_padded (width n : Nat) : IsPlain (Decimal.padded width n) := by
  intro c hc
  rw [Decimal.toList_padded] at hc
  exact le_toNat_of_isDigit (Decimal.isDigit_of_mem_digits hc)

/-!
# Lines of a field
-/

theorem isPlain_of_mem_lines {field : List UInt8} {line : Line} (h : line ∈ Field.lines field) :
    IsPlain line.text := by
  have hexpressible := Field.isExpressible_of_mem_lines h
  intro c hc
  exact ((Repertoire.isExpressible_iff _).mp hexpressible).1 c hc |>.1

end Physical
end SubtitleExchange
