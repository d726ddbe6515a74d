import SubtitleExchange.Text.Encoding

/-!
# Texts that bytes can say

Decoded text never holds the letter of the circumflex marker before a base letter, since the two
bytes would have been combined. All other texts over the repertoire are written in a way that is
decoded back.
-/

namespace SubtitleExchange

/-!
# Markers, base letters and forms

The bytes of markers are no base letters. A form of an accent is a letter of its own: it can be
shown, and takes part in no pair.
-/

namespace Accent

theorem ofMarker?_of_mem_bases {b : UInt8} (h : b ∈ bases) : ofMarker? b = none := by
  have hall : bases.all (fun b => decide (ofMarker? b = none)) = true := by decide
  exact of_decide_eq_true (List.all_eq_true.mp hall b h)

theorem marker_of_ofMarker? {b : UInt8} {accent : Accent} (h : ofMarker? b = some accent) :
    accent.marker = b := by
  simpa using List.find?_some h

theorem mem_of_letter? {accent : Accent} {base : UInt8} {c : Char}
    (h : accent.letter? base = some c) : base ∈ bases ∧ c ∈ accent.forms := by
  obtain ⟨i, hi, hc⟩ := Option.bind_eq_some_iff.mp h
  exact ⟨List.isSome_idxOf?.mp (Option.isSome_of_eq_some hi), List.mem_of_getElem? hc⟩

end Accent

namespace Diacritic

theorem combine_eq_some {marker base : UInt8} {c : Char} (h : combine marker base = some c) :
    ∃ accent : Accent, accent.marker = marker ∧ base ∈ Accent.bases ∧ c ∈ accent.forms := by
  obtain ⟨accent, haccent, hletter⟩ := Option.bind_eq_some_iff.mp h
  exact ⟨accent, Accent.marker_of_ofMarker? haccent, Accent.mem_of_letter? hletter⟩

/-- Only bytes in the range of markers combine, so nothing has to be asked about that range first. -/
theorem isMarker_of_combine {marker base : UInt8} {c : Char} (h : combine marker base = some c) :
    isMarker marker = true := by
  obtain ⟨accent, rfl, _, _⟩ := combine_eq_some h
  cases accent <;> decide

theorem combine_circumflex_ne_none {base : UInt8} (h : base ∈ Accent.bases) :
    combine Accent.circumflex.marker base ≠ none := by
  have hall : Accent.bases.all
      (fun base => decide (combine Accent.circumflex.marker base ≠ none)) = true := by decide
  exact of_decide_eq_true (List.all_eq_true.mp hall base h)

end Diacritic

namespace Repertoire

theorem of_mem_forms {accent : Accent} {c : Char} (h : c ∈ accent.forms) :
    isShown c = true ∧ isLoneMarker c = false ∧ isBase c = false := by
  have hall : accent.forms.all (fun c =>
      decide (isShown c = true ∧ isLoneMarker c = false ∧ isBase c = false)) = true := by
    cases accent <;> decide
  exact of_decide_eq_true (List.all_eq_true.mp hall c h)

/-!
# Characters of one byte
-/

theorem toNat_character (b : UInt8) : (character b).toNat = b.toNat := by
  have hvalid : b.toNat.isValidChar := Or.inl (by have := b.toNat_lt; omega)
  rw [character, Char.ofNat, dif_pos hvalid]
  rfl

theorem character_ofNat_toNat {c : Char} (h : isShown c = true) :
    character (UInt8.ofNat c.toNat) = c := by
  have hle : c.toNat ≤ 0xFF := by
    simp only [isShown, Bool.and_eq_true, decide_eq_true_eq] at h
    exact h.1.1.2
  rw [character, UInt8.toNat_ofNat', Nat.mod_eq_of_lt (by omega), Char.ofNat_toNat]

theorem isBase_iff (c : Char) : isBase c = true ↔ ∃ b ∈ Accent.bases, b.toNat = c.toNat := by
  simp [isBase]

theorem isBase_character (b : UInt8) : isBase (character b) = true ↔ b ∈ Accent.bases := by
  simp only [isBase_iff, toNat_character, UInt8.toNat_inj]
  simp

/-!
# Decoding

No decoded character stands for more than a pair, so what is decoded in front of a place where no
pair lies is not touched by what comes behind.
-/

/-- A byte outside the range of markers stands for itself, whatever follows. -/
theorem decode_of_not_isMarker {b : UInt8} (h : Diacritic.isMarker b = false) (rest : List UInt8) :
    decode (b :: rest) = character b :: decode rest := by
  cases rest with
  | nil =>
      rfl
  | cons next others =>
      apply decode_single
      cases hpair : Diacritic.combine b next with
      | none =>
          rfl
      | some letter =>
          rw [Diacritic.isMarker_of_combine hpair] at h
          cases h

theorem decode_append {front back : List UInt8}
    (h : ∀ marker ∈ front.getLast?, ∀ base ∈ back.head?, Diacritic.combine marker base = none) :
    decode (front ++ back) = decode front ++ decode back := by
  fun_induction decode front with
  | case1 =>
      rfl
  | case2 b =>
      cases back with
      | nil =>
          rfl
      | cons next rest =>
          exact decode_single (h b rfl next rfl) rest
  | case3 a b rest c hpair ih =>
      have hrest := ih (by
        intro marker hmarker
        cases rest with
        | nil =>
            cases hmarker
        | cons next others =>
            exact h marker hmarker)
      rw [List.cons_append, List.cons_append, decode_pair hpair, hrest, List.cons_append]
  | case4 a b rest hpair ih =>
      have hrest := ih h
      rw [List.cons_append] at hrest
      rw [List.cons_append, List.cons_append, decode_single hpair, hrest, List.cons_append]

theorem isShown_of_mem_decode {bytes : List UInt8}
    (h : ∀ b ∈ bytes, isShown (character b) = true) : ∀ c ∈ decode bytes, isShown c = true := by
  fun_induction decode bytes with
  | case1 =>
      intro c hc
      cases hc
  | case2 b =>
      intro c hc
      rw [List.mem_singleton.mp hc]
      exact h b List.mem_cons_self
  | case3 a b rest letter hpair ih =>
      intro c hc
      rcases List.mem_cons.mp hc with rfl | hrest
      · obtain ⟨_, _, _, hform⟩ := Diacritic.combine_eq_some hpair
        exact (of_mem_forms hform).1
      · exact ih (fun d hd => h d (List.mem_cons_of_mem _ (List.mem_cons_of_mem _ hd))) c hrest
  | case4 a b rest hpair ih =>
      intro c hc
      rcases List.mem_cons.mp hc with rfl | hrest
      · exact h a List.mem_cons_self
      · exact ih (fun d hd => h d (List.mem_cons_of_mem _ hd)) c hrest

theorem unmarked_cons {a : Char} {cs : List Char}
    (h : isLoneMarker a = true → ∀ b ∈ cs.head?, isBase b = false) (hcs : unmarked cs = true) :
    unmarked (a :: cs) = true := by
  cases cs with
  | nil =>
      rfl
  | cons b rest =>
      have hpair : (isLoneMarker a && isBase b) = false := by
        cases hmarker : isLoneMarker a with
        | false =>
            rfl
        | true =>
            exact h hmarker b rfl
      rw [unmarked, hpair, hcs]
      rfl

/-- Text begins with the character of the first byte or with an accented letter. -/
theorem mem_head?_decode {b : UInt8} {rest : List UInt8} {c : Char}
    (h : c ∈ (decode (b :: rest)).head?) : c = character b ∨ isBase c = false := by
  cases rest with
  | nil =>
      cases h
      exact Or.inl rfl
  | cons next others =>
      cases hpair : Diacritic.combine b next with
      | none =>
          rw [decode_single hpair] at h
          cases h
          exact Or.inl rfl
      | some letter =>
          rw [decode_pair hpair] at h
          cases h
          obtain ⟨_, _, _, hform⟩ := Diacritic.combine_eq_some hpair
          exact Or.inr (of_mem_forms hform).2.2

theorem unmarked_decode (bytes : List UInt8) : unmarked (decode bytes) = true := by
  fun_induction decode bytes with
  | case1 =>
      rfl
  | case2 b =>
      rfl
  | case3 a b rest letter hpair ih =>
      obtain ⟨_, _, _, hform⟩ := Diacritic.combine_eq_some hpair
      apply unmarked_cons _ ih
      intro hmarker
      rw [(of_mem_forms hform).2.1] at hmarker
      cases hmarker
  | case4 a b rest hpair ih =>
      apply unmarked_cons _ ih
      intro hmarker c hc
      rcases mem_head?_decode hc with rfl | hother
      · rw [isLoneMarker, toNat_character, beq_iff_eq, UInt8.toNat_inj] at hmarker
        rw [← Bool.not_eq_true, isBase_character]
        intro hbase
        rw [hmarker] at hpair
        exact Diacritic.combine_circumflex_ne_none hbase hpair
      · exact hother

theorem isExpressible_decode {bytes : List UInt8}
    (h : ∀ b ∈ bytes, isShown (character b) = true) : isExpressible (decode bytes) = true := by
  rw [isExpressible, Bool.and_eq_true, List.all_eq_true]
  exact ⟨isShown_of_mem_decode h, unmarked_decode bytes⟩

/-!
# Encoding

A letter with a form is written as a pair, so a marker stands last only for the letter without one,
and a base letter stands first only for itself.
-/

theorem combine_of_pairOf? {c : Char} {marker base : UInt8}
    (h : pairOf? c = some (marker, base)) : Diacritic.combine marker base = some c := by
  obtain ⟨accent, _, hpair⟩ := List.exists_of_findSome?_eq_some h
  obtain ⟨i, hi, _⟩ := Option.bind_eq_some_iff.mp hpair
  have hform : c ∈ accent.forms := List.isSome_idxOf?.mp (Option.isSome_of_eq_some hi)
  have hall : accent.forms.all (fun c => (pairOf? c).all fun pair =>
      decide (Diacritic.combine pair.1 pair.2 = some c)) = true := by
    cases accent <;> decide
  have hc := List.all_eq_true.mp hall c hform
  rw [h] at hc
  exact of_decide_eq_true hc

theorem decode_encodeCharacter {c : Char} (h : isShown c = true) :
    decode (encodeCharacter c) = [c] := by
  rw [encodeCharacter]
  split
  · rename_i marker base hpair
    exact decode_pair (combine_of_pairOf? hpair) []
  · exact congrArg (fun d => [d]) (character_ofNat_toNat h)

theorem isLoneMarker_of_last {c : Char} {marker : UInt8} {accent : Accent} (h : isShown c = true)
    (hlast : marker ∈ (encodeCharacter c).getLast?) (hmarker : accent.marker = marker) :
    isLoneMarker c = true := by
  rw [encodeCharacter] at hlast
  split at hlast
  · rename_i first base hpair
    cases hlast
    obtain ⟨_, _, hbase, _⟩ := Diacritic.combine_eq_some (combine_of_pairOf? hpair)
    have hnone : ∀ accent : Accent, accent.marker ∉ Accent.bases := by
      intro accent
      cases accent <;> decide
    exact absurd (hmarker ▸ hbase) (hnone accent)
  · rename_i hnone
    have hbyte : UInt8.ofNat c.toNat = marker := by simpa using hlast
    have hc : c = character accent.marker := by
      rw [hmarker, ← hbyte, character_ofNat_toNat h]
    rw [hc] at hnone ⊢
    cases accent with
    | circumflex =>
        rfl
    | grave =>
        cases hnone
    | acute =>
        cases hnone
    | diaeresis =>
        cases hnone

theorem isBase_of_head {c : Char} {base : UInt8} (h : isShown c = true)
    (hhead : base ∈ (encodeCharacter c).head?) (hbase : base ∈ Accent.bases) :
    isBase c = true := by
  rw [encodeCharacter] at hhead
  split at hhead
  · rename_i marker other hpair
    cases hhead
    obtain ⟨accent, hmarker, _, _⟩ := Diacritic.combine_eq_some (combine_of_pairOf? hpair)
    have hnone := Accent.ofMarker?_of_mem_bases hbase
    rw [← hmarker] at hnone
    cases accent <;> cases hnone
  · cases hhead
    rw [← character_ofNat_toNat h, isBase_character]
    exact hbase

theorem encode_cons (c : Char) (cs : List Char) :
    encode (c :: cs) = encodeCharacter c ++ encode cs :=
  List.flatMap_cons

theorem head?_encode_cons (c : Char) (cs : List Char) :
    (encode (c :: cs)).head? = (encodeCharacter c).head? := by
  rw [encode_cons, encodeCharacter]
  split <;> rfl

theorem unmarked_of_cons {c : Char} {cs : List Char} (h : unmarked (c :: cs) = true) :
    unmarked cs = true := by
  cases cs with
  | nil =>
      rfl
  | cons d rest =>
      rw [unmarked, Bool.and_eq_true] at h
      exact h.2

/-- No pair lies across the border between two characters. -/
theorem combine_eq_none_of_unmarked {c : Char} {cs : List Char} (hc : isShown c = true)
    (hcs : ∀ d ∈ cs, isShown d = true) (h : unmarked (c :: cs) = true) :
    ∀ marker ∈ (encodeCharacter c).getLast?, ∀ base ∈ (encode cs).head?,
      Diacritic.combine marker base = none := by
  intro marker hlast base hhead
  cases hpair : Diacritic.combine marker base with
  | none =>
      rfl
  | some letter =>
      obtain ⟨accent, hmarker, hbase, _⟩ := Diacritic.combine_eq_some hpair
      have hlone := isLoneMarker_of_last hc hlast hmarker
      cases cs with
      | nil =>
          cases hhead
      | cons d rest =>
          rw [head?_encode_cons] at hhead
          have hd := isBase_of_head (hcs d List.mem_cons_self) hhead hbase
          rw [unmarked, hlone, hd] at h
          cases h

theorem decode_encode {cs : List Char} (h : isExpressible cs = true) :
    decode (encode cs) = cs := by
  rw [isExpressible, Bool.and_eq_true, List.all_eq_true] at h
  obtain ⟨hshown, hunmarked⟩ := h
  induction cs with
  | nil =>
      rfl
  | cons c rest ih =>
      have hc := hshown c List.mem_cons_self
      have hrest : ∀ d ∈ rest, isShown d = true :=
        fun d hd => hshown d (List.mem_cons_of_mem c hd)
      rw [encode_cons, decode_append (combine_eq_none_of_unmarked hc hrest hunmarked),
        decode_encodeCharacter hc, ih hrest (unmarked_of_cons hunmarked), List.singleton_append]

theorem isShown_character_of_mem_encode {cs : List Char} (h : ∀ c ∈ cs, isShown c = true)
    {b : UInt8} (hb : b ∈ encode cs) : isShown (character b) = true := by
  obtain ⟨c, hc, hmem⟩ := List.mem_flatMap.mp hb
  rw [encodeCharacter] at hmem
  split at hmem
  · rename_i marker base hpair
    obtain ⟨accent, rfl, hbase, _⟩ := Diacritic.combine_eq_some (combine_of_pairOf? hpair)
    rw [List.mem_cons, List.mem_singleton] at hmem
    rcases hmem with rfl | rfl
    · cases accent <;> decide
    · have hall : Accent.bases.all (fun base => isShown (character base)) = true := by decide
      exact List.all_eq_true.mp hall b hbase
  · rw [List.mem_singleton.mp hmem, character_ofNat_toNat (h c hc)]
    exact h c hc

/-!
# Expressible texts

In words: all characters are in the repertoire, and no vowel follows the lone marker.
-/

theorem isShown_iff (c : Char) :
    isShown c = true ↔ 0x20 ≤ c.toNat ∧ c.toNat ≤ 0xFF ∧ c.toNat ≠ 0x8A ∧ c.toNat ≠ 0x8F := by
  simp only [isShown, Bool.and_eq_true, decide_eq_true_eq, bne_iff_ne, and_assoc]
  rfl

theorem isLoneMarker_iff (c : Char) : isLoneMarker c = true ↔ c = 'Ã' := by
  rw [isLoneMarker, beq_iff_eq, ← Char.toNat_inj]
  rfl

/-- The letters that take an accent. -/
def vowels : List Char :=
  "AEIOUaeiou".toList

theorem isBase_iff_mem (c : Char) : isBase c = true ↔ c ∈ vowels := by
  constructor
  · intro h
    obtain ⟨b, hb, hc⟩ := (isBase_iff c).mp h
    have hcharacter : character b = c := by
      rw [← Char.toNat_inj, toNat_character, hc]
    have hall : Accent.bases.all (fun b => vowels.elem (character b)) = true := by decide
    exact hcharacter ▸ List.elem_iff.mp (List.all_eq_true.mp hall b hb)
  · intro h
    have hall : vowels.all isBase = true := by decide
    exact List.all_eq_true.mp hall c h

theorem unmarked_iff (cs : List Char) :
    unmarked cs = true ↔ ∀ vowel ∈ vowels, ¬ ['Ã', vowel] <:+: cs := by
  fun_induction unmarked cs with
  | case1 a b rest ih =>
      have hpair : (!(isLoneMarker a && isBase b)) = true ↔
          ∀ vowel ∈ vowels, ¬ ['Ã', vowel] <+: a :: b :: rest := by
        rw [Bool.not_eq_true', ← Bool.not_eq_true, Bool.and_eq_true, isLoneMarker_iff,
          isBase_iff_mem]
        constructor
        · rintro hnot vowel hvowel ⟨more, hmore⟩
          cases hmore
          exact hnot ⟨rfl, hvowel⟩
        · rintro hnone ⟨rfl, hb⟩
          exact hnone b hb ⟨rest, rfl⟩
      have hcons : ∀ vowel, ['Ã', vowel] <:+: a :: b :: rest ↔
          ['Ã', vowel] <+: a :: b :: rest ∨ ['Ã', vowel] <:+: b :: rest :=
        fun _ => List.infix_cons_iff
      simp only [Bool.and_eq_true, hpair, ih, hcons, not_or, forall_and]
  | case2 cs hshort =>
      constructor
      · rintro _ vowel _ ⟨front, back, hinfix⟩
        rcases front with _ | ⟨first, _ | ⟨second, more⟩⟩ <;> exact hshort _ _ _ hinfix.symm
      · intro _
        rfl

theorem isExpressible_iff (cs : List Char) :
    isExpressible cs = true ↔
      (∀ c ∈ cs, 0x20 ≤ c.toNat ∧ c.toNat ≤ 0xFF ∧ c.toNat ≠ 0x8A ∧ c.toNat ≠ 0x8F) ∧
        ∀ vowel ∈ vowels, ¬ ['Ã', vowel] <:+: cs := by
  rw [isExpressible, Bool.and_eq_true, List.all_eq_true, unmarked_iff]
  simp only [isShown_iff]

end Repertoire
end SubtitleExchange
