import Mathlib.Data.List.Forall2
import SubtitleExchange.Proofs.Text.Repertoire

/-!
# Where text can be cut

A cut between two bytes changes the decoded text only if it parts a marker from its base letter. No
base letter is a marker, so no two pairs share a byte, and every byte has its part in one character.
-/

namespace SubtitleExchange

/-!
# Pairs

Each of the four markers goes with each of the ten base letters, and with nothing else.
-/

def Accent.markers : List UInt8 :=
  [0xC1, 0xC2, 0xC3, 0xC8]

namespace Diacritic

theorem combine_isSome_iff (marker base : UInt8) :
    (combine marker base).isSome = true ↔ marker ∈ Accent.markers ∧ base ∈ Accent.bases := by
  constructor
  · intro h
    obtain ⟨letter, hpair⟩ := Option.isSome_iff_exists.mp h
    obtain ⟨accent, hmarker, hbase, _⟩ := combine_eq_some hpair
    refine ⟨?_, hbase⟩
    rw [← hmarker]
    cases accent <;> decide
  · rintro ⟨hmarker, hbase⟩
    have hall : Accent.markers.all (fun marker =>
        Accent.bases.all fun base => (combine marker base).isSome) = true := by decide
    exact List.all_eq_true.mp (List.all_eq_true.mp hall marker hmarker) base hbase

theorem combine_eq_none_iff (marker base : UInt8) :
    combine marker base = none ↔ ¬ (marker ∈ Accent.markers ∧ base ∈ Accent.bases) := by
  rw [← combine_isSome_iff, Option.not_isSome_iff_eq_none]

theorem combine_of_not_mem_bases (marker : UInt8) {base : UInt8} (h : base ∉ Accent.bases) :
    combine marker base = none :=
  (combine_eq_none_iff marker base).mpr fun hboth => h hboth.2

theorem combine_of_mem_bases {base : UInt8} (h : base ∈ Accent.bases) (next : UInt8) :
    combine base next = none := by
  rw [combine, Accent.ofMarker?_of_mem_bases h]
  rfl

theorem not_mem_bases_of_mem_markers {marker : UInt8} (h : marker ∈ Accent.markers) :
    marker ∉ Accent.bases := by
  have hall : Accent.markers.all (fun marker => decide (marker ∉ Accent.bases)) = true := by
    decide
  exact of_decide_eq_true (List.all_eq_true.mp hall marker h)

end Diacritic

namespace Repertoire

/-!
# Cuts

The front of a text that ends in a marker decodes the marker as a letter of its own, and the back
that starts with a base letter decodes that letter alone. Joined again, the two are one character.
-/

theorem decode_concat (front : List UInt8) {marker : UInt8} (h : marker ∈ Accent.markers) :
    decode (front ++ [marker]) = decode front ++ [character marker] := by
  rw [decode_append, decode]
  rintro last _ next hnext
  cases hnext
  exact Diacritic.combine_of_not_mem_bases last (Diacritic.not_mem_bases_of_mem_markers h)

theorem decode_cons_base {base : UInt8} (h : base ∈ Accent.bases) (back : List UInt8) :
    decode (base :: back) = character base :: decode back := by
  cases back with
  | nil =>
      rfl
  | cons next rest =>
      exact decode_single (Diacritic.combine_of_mem_bases h next) rest

theorem decode_joined {marker base : UInt8} {letter : Char}
    (h : Diacritic.combine marker base = some letter) (front back : List UInt8) :
    decode (front ++ marker :: base :: back) = decode front ++ letter :: decode back := by
  have hpair := (Diacritic.combine_isSome_iff marker base).mp (Option.isSome_of_eq_some h)
  rw [decode_append, decode_pair h]
  rintro last _ next hnext
  cases hnext
  exact Diacritic.combine_of_not_mem_bases last
    (Diacritic.not_mem_bases_of_mem_markers hpair.1)

/-- A marker stands at the end of the front and a base letter at the start of the back. -/
def CutsPair (front back : List UInt8) : Prop :=
  ∃ rest marker base others, front = rest ++ [marker] ∧ back = base :: others ∧
    marker ∈ Accent.markers ∧ base ∈ Accent.bases

theorem combine_eq_none_of_not_cutsPair {front back : List UInt8} (h : ¬ CutsPair front back) :
    ∀ marker ∈ front.getLast?, ∀ base ∈ back.head?, Diacritic.combine marker base = none := by
  intro marker hmarker base hbase
  rw [Diacritic.combine_eq_none_iff]
  rintro ⟨hmark, hvowel⟩
  obtain ⟨rest, hfront⟩ := List.getLast?_eq_some_iff.mp hmarker
  obtain ⟨others, hback⟩ := List.head?_eq_some_iff.mp hbase
  exact h ⟨rest, marker, base, others, hfront, hback, hmark, hvowel⟩

/-- The halves of a pair are two characters, the pair is one. -/
theorem decode_append_ne_of_cutsPair {front back : List UInt8} (h : CutsPair front back) :
    decode (front ++ back) ≠ decode front ++ decode back := by
  obtain ⟨rest, marker, base, others, rfl, rfl, hmarker, hbase⟩ := h
  have hsome := (Diacritic.combine_isSome_iff marker base).mpr ⟨hmarker, hbase⟩
  obtain ⟨letter, hpair⟩ := Option.isSome_iff_exists.mp hsome
  intro heq
  rw [List.append_assoc, List.singleton_append, decode_joined hpair, decode_concat rest hmarker,
    decode_cons_base hbase] at heq
  have hlength := congrArg List.length heq
  simp only [List.length_append, List.length_cons, List.length_nil] at hlength
  omega

theorem decode_append_iff (front back : List UInt8) :
    decode (front ++ back) = decode front ++ decode back ↔ ¬ CutsPair front back := by
  constructor
  · exact fun heq hcut => decode_append_ne_of_cutsPair hcut heq
  · exact fun hwhole => decode_append (combine_eq_none_of_not_cutsPair hwhole)

/-!
# Bytes and characters

Each pair makes the text one character shorter than its bytes.
-/

/-- The accented letter of the bytes at a place and at the next one. -/
def pairAt? (bytes : List UInt8) (i : Nat) : Option Char := do
  let marker ← bytes[i]?
  let base ← bytes[i + 1]?
  Diacritic.combine marker base

def countPairs (bytes : List UInt8) : Nat :=
  (List.range bytes.length).countP fun i => (pairAt? bytes i).isSome

theorem countPairs_cons (a : UInt8) (rest : List UInt8) :
    countPairs (a :: rest) =
      countPairs rest + if (pairAt? (a :: rest) 0).isSome = true then 1 else 0 := by
  rw [countPairs, List.length_cons, List.range_succ_eq_map, List.countP_cons, List.countP_map]
  rfl

theorem countPairs_cons_base {base : UInt8} (h : base ∈ Accent.bases) (rest : List UInt8) :
    countPairs (base :: rest) = countPairs rest := by
  have hnone : pairAt? (base :: rest) 0 = none := by
    cases rest with
    | nil =>
        rfl
    | cons next others =>
        exact Diacritic.combine_of_mem_bases h next
  rw [countPairs_cons, hnone]
  rfl

theorem length_decode_add_countPairs (bytes : List UInt8) :
    (decode bytes).length + countPairs bytes = bytes.length := by
  fun_induction decode bytes with
  | case1 =>
      rfl
  | case2 b =>
      rfl
  | case3 a b rest letter hpair ih =>
      -- The recursion goes on behind the base letter, which opens no pair of its own.
      have hfirst : pairAt? (a :: b :: rest) 0 = some letter := hpair
      have hbase := ((Diacritic.combine_isSome_iff a b).mp (Option.isSome_of_eq_some hpair)).2
      rw [countPairs_cons, hfirst, countPairs_cons_base hbase, if_pos Option.isSome_some,
        List.length_cons, List.length_cons, List.length_cons]
      omega
  | case4 a b rest hpair ih =>
      have hfirst : pairAt? (a :: b :: rest) 0 = none := hpair
      rw [countPairs_cons, hfirst, if_neg (by simp), List.length_cons, List.length_cons]
      omega

/-- The bytes that one character is written with. -/
inductive Spells : List UInt8 → Char → Prop where
  | single (b : UInt8) : Spells [b] (character b)
  | pair {marker base : UInt8} {letter : Char} (h : Diacritic.combine marker base = some letter) :
      Spells [marker, base] letter

theorem exists_spelling (bytes : List UInt8) :
    ∃ spelling, spelling.flatten = bytes ∧ List.Forall₂ Spells spelling (decode bytes) := by
  fun_induction decode bytes with
  | case1 =>
      exact ⟨[], rfl, .nil⟩
  | case2 b =>
      exact ⟨[[b]], rfl, .cons (.single b) .nil⟩
  | case3 a b rest letter hpair ih =>
      obtain ⟨spelling, hbytes, hspells⟩ := ih
      refine ⟨[a, b] :: spelling, ?_, .cons (.pair hpair) hspells⟩
      rw [List.flatten_cons, hbytes]
      rfl
  | case4 a b rest hpair ih =>
      obtain ⟨spelling, hbytes, hspells⟩ := ih
      refine ⟨[a] :: spelling, ?_, .cons (.single a) hspells⟩
      rw [List.flatten_cons, hbytes]
      rfl

/-!
# Texts
-/

theorem text_append_iff_decode (front back : List UInt8) :
    text (front ++ back) = text front ++ text back ↔
      decode (front ++ back) = decode front ++ decode back := by
  rw [← String.toList_inj, String.toList_append, toList_text, toList_text, toList_text]

/-- Text is the text of its two parts, unless the cut goes through a pair, and then it is one letter
with the text on either side. Characters and pairs together are as many as the bytes, and the bytes
are the spellings of the characters in order. -/
theorem text_append_iff (front back : List UInt8) :
    (text (front ++ back) = text front ++ text back ↔ ¬ CutsPair front back) ∧
    (∀ marker ∈ Accent.markers, ∀ base ∈ Accent.bases, ∃ letter,
      Diacritic.combine marker base = some letter ∧
        text (front ++ [marker] ++ base :: back) =
          text front ++ String.singleton letter ++ text back) ∧
    ∀ bytes, (text bytes).length + countPairs bytes = bytes.length ∧
      ∃ spelling, spelling.flatten = bytes ∧ List.Forall₂ Spells spelling (text bytes).toList := by
  refine ⟨?_, ?_, ?_⟩
  · rw [text_append_iff_decode]
    exact decode_append_iff front back
  · intro marker hmarker base hbase
    have hsome := (Diacritic.combine_isSome_iff marker base).mpr ⟨hmarker, hbase⟩
    obtain ⟨letter, hpair⟩ := Option.isSome_iff_exists.mp hsome
    refine ⟨letter, hpair, ?_⟩
    rw [← String.toList_inj, String.toList_append, String.toList_append, toList_text, toList_text,
      toList_text, String.toList_singleton, List.append_assoc, List.singleton_append,
      decode_joined hpair, List.append_assoc, List.singleton_append]
  · intro bytes
    rw [← String.length_toList, toList_text]
    exact ⟨length_decode_add_countPairs bytes, exists_spelling bytes⟩

/-- Two markers in a row before a vowel: the first stands alone, the second takes the vowel. -/
theorem text_of_markerRun :
    (0xC2 : UInt8) ∈ Accent.markers ∧ (0x65 : UInt8) ∈ Accent.bases ∧
      text ([0x78, 0xC1] ++ [0xC2] ++ 0x65 :: [0x79]) = "xÁéy" ∧
      CutsPair [0x78, 0xC1, 0xC2] [0x65, 0x79] ∧
      text ([0x78, 0xC1, 0xC2] ++ [0x65, 0x79]) ≠ text [0x78, 0xC1, 0xC2] ++ text [0x65, 0x79] := by
  have hmarker : (0xC2 : UInt8) ∈ Accent.markers := by decide
  have hbase : (0x65 : UInt8) ∈ Accent.bases := by decide
  have hcut : CutsPair [0x78, 0xC1, 0xC2] [0x65, 0x79] :=
    ⟨[0x78, 0xC1], 0xC2, 0x65, [0x79], rfl, rfl, hmarker, hbase⟩
  obtain ⟨happend, _, _⟩ := text_append_iff [0x78, 0xC1, 0xC2] [0x65, 0x79]
  obtain ⟨_, hpair, _⟩ := text_append_iff [0x78, 0xC1] [0x79]
  obtain ⟨letter, hletter, hjoined⟩ := hpair 0xC2 hmarker 0x65 hbase
  refine ⟨hmarker, hbase, ?_, hcut, fun heq => happend.mp heq hcut⟩
  rw [hjoined]
  cases hletter
  decide

end Repertoire
end SubtitleExchange
