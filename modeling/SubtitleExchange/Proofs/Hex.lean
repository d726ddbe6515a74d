import Mathlib.Data.List.Forall2
import SubtitleExchange.Hex

/-!
# Dumps are read in one way

A dump is cut at its spaces into one pair of digits for each byte. A pair shows one byte only and a
byte has one pair only, so a dump determines the bytes, and the bytes determine every text that cuts
into pairs for them.
-/

namespace SubtitleExchange
namespace Hex

/-!
# One pair

The reader of digits undoes the writer, and nothing else has a value.
-/

/-- Two uppercase digits, the high one first, that make the number of the byte. -/
def Shows (part : List Char) (b : UInt8) : Prop :=
  ∃ high low h l, part = [high, low] ∧ value? high = some h ∧ value? low = some l ∧
    b.toNat = 16 * h + l

theorem digit_of_value? {c : Char} {n : Nat} (h : value? c = some n) : n < 16 ∧ digit n = c := by
  unfold value? at h
  split at h
  · rename_i hdecimal
    have hlow : '0'.toNat ≤ c.toNat := hdecimal.1
    have hhigh : c.toNat ≤ '0'.toNat + 9 := hdecimal.2
    have hn : c.toNat - '0'.toNat = n := Option.some.inj h
    refine ⟨by omega, ?_⟩
    rw [digit, if_pos (by omega), ← hn, Nat.add_sub_cancel' hlow, Char.ofNat_toNat]
  · split at h
    · rename_i hletter
      have hlow : 'A'.toNat ≤ c.toNat := hletter.1
      have hhigh : c.toNat ≤ 'A'.toNat + 5 := hletter.2
      have hn : c.toNat - 'A'.toNat + 10 = n := Option.some.inj h
      refine ⟨by omega, ?_⟩
      rw [digit, if_neg (by omega), ← hn, Nat.add_sub_cancel, Nat.add_sub_cancel' hlow,
        Char.ofNat_toNat]
    · contradiction

theorem shows_iff {part : List Char} {b : UInt8} : Shows part b ↔ part = (pair b).toList := by
  have hb : b.toNat < 256 := b.toNat_lt
  rw [pair, String.toList_ofList]
  constructor
  · rintro ⟨high, low, h, l, rfl, hhigh, hlow, hsum⟩
    obtain ⟨hh, rfl⟩ := digit_of_value? hhigh
    obtain ⟨hl, rfl⟩ := digit_of_value? hlow
    have hdiv : b.toNat / 16 = h := by omega
    have hmod : b.toNat % 16 = l := by omega
    rw [hdiv, hmod]
  · rintro rfl
    exact ⟨_, _, _, _, rfl, value?_digit _ (by omega), value?_digit _ (by omega),
      (Nat.div_add_mod b.toNat 16).symm⟩

theorem length_pair (b : UInt8) : (pair b).toList.length = 2 := by
  rw [pair, String.toList_ofList]
  rfl

theorem blank_not_mem_pair (b : UInt8) : ' ' ∉ (pair b).toList := by
  obtain ⟨high, low, h, l, hpart, hhigh, hlow, _⟩ := shows_iff.mpr (Eq.refl (pair b).toList)
  have hblank : value? ' ' = none := by decide
  rw [hpart]
  intro hmem
  rcases List.mem_pair.mp hmem with rfl | rfl
  · rw [hblank] at hhigh
    contradiction
  · rw [hblank] at hlow
    contradiction

/-!
# All pairs

No pair has a space, so the spaces of a dump are those between its pairs.
-/

def pairs (bytes : List UInt8) : List (List Char) :=
  bytes.map fun b => (pair b).toList

theorem forall₂_shows_iff {parts : List (List Char)} {bytes : List UInt8} :
    List.Forall₂ Shows parts bytes ↔ parts = pairs bytes := by
  have hshows : Shows = fun part b => part = (pair b).toList :=
    funext fun _ => funext fun _ => propext shows_iff
  rw [hshows, pairs, ← List.forall₂_map_right_iff, List.forall₂_eq_eq_eq]

theorem toList_dump (bytes : List UInt8) : (dump bytes).toList = [' '].intercalate (pairs bytes) := by
  rw [dump, String.toList_intercalate, List.map_map]
  rfl

theorem splitOn_dump {bytes : List UInt8} (h : bytes ≠ []) :
    (dump bytes).toList.splitOn ' ' = pairs bytes := by
  rw [toList_dump]
  apply List.splitOn_intercalate
  · intro part hpart
    obtain ⟨b, _, rfl⟩ := List.mem_map.mp hpart
    exact blank_not_mem_pair b
  · exact fun hnil => h (List.map_eq_nil_iff.mp hnil)

/-- A text that cuts into the pairs of some bytes is their dump. -/
theorem eq_dump_iff {bytes : List UInt8} (h : bytes ≠ []) (text : String) :
    text = dump bytes ↔ List.Forall₂ Shows (text.toList.splitOn ' ') bytes := by
  rw [forall₂_shows_iff]
  constructor
  · rintro rfl
    exact splitOn_dump h
  · intro hparts
    apply String.toList_injective
    rw [toList_dump, ← hparts, List.intercalate_splitOn]

theorem length_dump_cons (b : UInt8) (rest : List UInt8) :
    (dump (b :: rest)).length = 3 * rest.length + 2 := by
  rw [← String.length_toList, toList_dump]
  induction rest generalizing b with
  | nil =>
      rw [pairs, List.map_singleton, List.intercalate_singleton]
      exact length_pair b
  | cons c rest ih =>
      have hrest := ih c
      simp only [pairs, List.map_cons] at hrest ⊢
      rw [List.intercalate_cons_cons, List.length_append, List.length_append, hrest, length_pair,
        List.length_singleton, List.length_cons]
      omega

theorem dump_injective : Function.Injective dump := by
  intro front back h
  have hread := read?_dump front
  rw [h, read?_dump] at hread
  exact (Option.some.inj hread).symm

/-- The dump of no bytes is empty. Any other dump has three characters for each byte but the last,
which has two, and is the one text that cuts at its spaces into pairs that show the bytes. So no two
byte strings have one dump. -/
theorem pairs_of_dump (bytes : List UInt8) :
    (dump bytes = "" ↔ bytes = []) ∧
      (dump bytes).length = 3 * bytes.length - 1 ∧
      (bytes ≠ [] → ∀ text : String,
        text = dump bytes ↔ List.Forall₂ Shows (text.toList.splitOn ' ') bytes) ∧
      ∀ other, dump other = dump bytes ↔ other = bytes := by
  refine ⟨?_, ?_, fun h text => eq_dump_iff h text, fun other => dump_injective.eq_iff⟩
  · exact dump_injective.eq_iff (b := [])
  · cases bytes with
    | nil =>
        rfl
    | cons b rest =>
        rw [length_dump_cons, List.length_cons]
        omega

theorem pairs_of_threeByteDump :
    [0x00, 0x8A, 0xFF] ≠ ([] : List UInt8) ∧ dump [0x00, 0x8A, 0xFF] = "00 8A FF" ∧
      List.Forall₂ Shows ["00".toList, "8A".toList, "FF".toList] [0x00, 0x8A, 0xFF] ∧
      ∀ text : String, List.Forall₂ Shows (text.toList.splitOn ' ') [0x00, 0x8A, 0xFF] →
        text = "00 8A FF" := by
  have hne : [0x00, 0x8A, 0xFF] ≠ ([] : List UInt8) := by decide
  have hdump : dump [0x00, 0x8A, 0xFF] = "00 8A FF" := by decide
  have hpairs := (pairs_of_dump [0x00, 0x8A, 0xFF]).2.2.1 hne
  rw [hdump] at hpairs
  exact ⟨hne, hdump, (hpairs _).mp rfl, fun text => (hpairs text).mpr⟩

end Hex
end SubtitleExchange
