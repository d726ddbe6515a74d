import SubtitleExchange.Proofs.Text.Plain
import SubtitleExchange.Text.Quoted

/-!
# Quoted texts are plain and read back

Whatever characters a text holds, it is quoted without control characters, and the quote that closes
it is the first one that is not escaped.
-/

namespace SubtitleExchange
namespace Quoted

open Physical

/-!
# Numbers of characters

The number of a hidden character is written in digits of the base sixteen.
-/

theorem digitChar_facts : ∀ d < 16, digitValue (Nat.digitChar d) = d ∧
    0x20 ≤ (Nat.digitChar d).toNat ∧ Nat.digitChar d ≠ '\x7d' := by
  decide

theorem exists_digit_of_mem {n : Nat} {c : Char} (h : c ∈ Nat.toDigits 16 n) :
    ∃ d < 16, c = Nat.digitChar d := by
  induction n using Nat.strongRecOn with
  | ind n ih =>
      rw [Nat.toDigits_eq_if (by decide)] at h
      split at h
      · rename_i hlt
        exact ⟨n, hlt, List.mem_singleton.mp h⟩
      · rename_i hge
        rcases List.mem_append.mp h with hfront | hlast
        · exact ih (n / 16) (Nat.div_lt_self (by omega) (by decide)) hfront
        · exact ⟨n % 16, Nat.mod_lt n (by decide), List.mem_singleton.mp hlast⟩

theorem codeValue_toDigits (n : Nat) : codeValue (Nat.toDigits 16 n) = n := by
  induction n using Nat.strongRecOn with
  | ind n ih =>
      rw [Nat.toDigits_eq_if (by decide)]
      split
      · rename_i hlt
        simpa [codeValue] using (digitChar_facts n hlt).1
      · rename_i hge
        have hfront := ih (n / 16) (Nat.div_lt_self (by omega) (by decide))
        have hlast := (digitChar_facts (n % 16) (Nat.mod_lt n (by decide))).1
        rw [codeValue] at hfront ⊢
        rw [List.foldl_append, hfront, List.foldl_cons, List.foldl_nil, hlast]
        exact Nat.div_add_mod n 16

theorem isPlain_toDigits (n : Nat) : ∀ c ∈ Nat.toDigits 16 n, 0x20 ≤ c.toNat := by
  intro c hc
  obtain ⟨d, hd, rfl⟩ := exists_digit_of_mem hc
  exact (digitChar_facts d hd).2.1

theorem closing_not_mem_toDigits (n : Nat) : '\x7d' ∉ Nat.toDigits 16 n := by
  intro hmem
  obtain ⟨d, hd, hclosing⟩ := exists_digit_of_mem hmem
  exact (digitChar_facts d hd).2.2 hclosing.symm

/-!
# One character

A character is written as a mark behind a backslash, as its number, or as it is.
-/

/-- How a character is written. -/
inductive Form (c : Char) : Prop where
  | marked (mark : Char) (hlookup : escapes.lookup mark = some c) (hmark : 0x20 ≤ mark.toNat)
      (hform : escape c = ['\\', mark])
  | numbered (hform : escape c = codePoint c)
  | plain (hquote : c ≠ '\x22') (hbackslash : c ≠ '\\') (hseen : 0x20 ≤ c.toNat)
      (hform : escape c = [c])

theorem form (c : Char) : Form c := by
  by_cases hquote : c = '\x22'
  · exact .marked '\x22' (by rw [hquote]; rfl) (by decide) (by rw [hquote]; rfl)
  by_cases hbackslash : c = '\\'
  · exact .marked '\\' (by rw [hbackslash]; rfl) (by decide) (by rw [hbackslash]; rfl)
  by_cases htab : c = '\t'
  · exact .marked 't' (by rw [htab]; rfl) (by decide) (by rw [htab]; rfl)
  by_cases hfeed : c = '\n'
  · exact .marked 'n' (by rw [hfeed]; rfl) (by decide) (by rw [hfeed]; rfl)
  by_cases hreturn : c = '\r'
  · exact .marked 'r' (by rw [hreturn]; rfl) (by decide) (by rw [hreturn]; rfl)
  by_cases hzero : c = '\x00'
  · exact .marked '0' (by rw [hzero]; rfl) (by decide) (by rw [hzero]; rfl)
  have hform : escape c = if isHidden c then codePoint c else [c] := by
    rw [escape, if_neg hquote, if_neg hbackslash, if_neg htab, if_neg hfeed, if_neg hreturn,
      if_neg hzero]
  cases hhidden : isHidden c with
  | true =>
      rw [hhidden] at hform
      exact .numbered hform
  | false =>
      rw [hhidden] at hform
      have hseen : 0x20 ≤ c.toNat := by
        simp only [isHidden, Bool.or_eq_false_iff, decide_eq_false_iff_not] at hhidden
        omega
      exact .plain hquote hbackslash hseen hform

theorem isPlain_escape (c : Char) : ∀ d ∈ escape c, 0x20 ≤ d.toNat := by
  cases form c with
  | marked mark hlookup hmark hform =>
      rw [hform]
      simpa using hmark
  | numbered hform =>
      have hfront : IsPlain "\\u\x7b" := by decide
      have hback : IsPlain "\x7d" := by decide
      rw [hform, codePoint]
      intro d hd
      rcases List.mem_append.mp hd with hd | hd
      · rcases List.mem_append.mp hd with hd | hd
        · exact hfront d hd
        · exact isPlain_toDigits c.toNat d hd
      · exact hback d hd
  | plain hquote hslash hseen hform =>
      rw [hform]
      simpa using hseen

theorem unescape?_marked {mark c : Char} (h : escapes.lookup mark = some c) (rest : List Char) :
    unescape? (mark :: rest) = some (c, rest) := by
  have hmark : mark ≠ 'u' := by
    rintro rfl
    cases h
  rw [unescape?.eq_2]
  · rw [h]
    rfl
  · intro cs hu
    exact absurd hu hmark

theorem unescape?_numbered (c : Char) (rest : List Char) :
    unescape? ('u' :: '\x7b' :: (Nat.toDigits 16 c.toNat ++ '\x7d' :: rest)) = some (c, rest) := by
  rw [unescape?, Cut.first_append rest (closing_not_mem_toDigits c.toNat), Option.map_some]
  dsimp only
  rw [codeValue_toDigits, Char.ofNat_toNat]

theorem readFrom?_unescape {cs rest : List Char} {c : Char} (h : unescape? cs = some (c, rest)) :
    readFrom? ('\\' :: cs) = (readFrom? rest).map fun (text, after) => (c :: text, after) := by
  rw [readFrom?, if_neg (by decide), if_pos rfl]
  split
  · rename_i hcs
    rw [h] at hcs
    cases hcs
    rfl
  · rename_i hcs
    rw [h] at hcs
    cases hcs

theorem readFrom?_escape (c : Char) (cs : List Char) :
    readFrom? (escape c ++ cs) = (readFrom? cs).map fun (text, after) => (c :: text, after) := by
  cases form c with
  | marked mark hlookup hmark hform =>
      rw [hform]
      exact readFrom?_unescape (unescape?_marked hlookup cs)
  | numbered hform =>
      have hnumber : escape c ++ cs =
          '\\' :: 'u' :: '\x7b' :: (Nat.toDigits 16 c.toNat ++ '\x7d' :: cs) := by
        simp [hform, codePoint]
      rw [hnumber]
      exact readFrom?_unescape (unescape?_numbered c cs)
  | plain hquote hslash hseen hform =>
      rw [hform, List.singleton_append, readFrom?, if_neg hquote, if_neg hslash]

/-!
# Whole texts
-/

theorem toList_quote (text : String) :
    (quote text).toList = '\x22' :: (text.toList.flatMap escape ++ ['\x22']) := by
  rw [quote, String.toList_ofList, List.cons_append]

theorem isPlain_quote (text : String) : IsPlain (quote text) := by
  have hquote : 0x20 ≤ ('\x22').toNat := by decide
  intro c hc
  rw [toList_quote, List.mem_cons, List.mem_append, List.mem_singleton] at hc
  rcases hc with rfl | hc | rfl
  · exact hquote
  · obtain ⟨d, _, hd⟩ := List.mem_flatMap.mp hc
    exact isPlain_escape d c hd
  · exact hquote

theorem readFrom?_flatMap_escape (cs rest : List Char) :
    readFrom? (cs.flatMap escape ++ '\x22' :: rest) = some (cs, rest) := by
  induction cs with
  | nil =>
      rw [List.flatMap_nil, List.nil_append, readFrom?, if_pos rfl]
  | cons c cs ih =>
      rw [List.flatMap_cons, List.append_assoc, readFrom?_escape, ih]
      rfl

theorem read?_quote (text : String) (rest : List Char) :
    read? ((quote text).toList ++ rest) = some (text.toList, rest) := by
  rw [toList_quote, List.cons_append, List.append_assoc, List.singleton_append]
  exact readFrom?_flatMap_escape text.toList rest

end Quoted
end SubtitleExchange
