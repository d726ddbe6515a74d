import SubtitleExchange.Proofs.Text.Reading
import SubtitleExchange.Proofs.Text.Repertoire
import SubtitleExchange.Text.Cut

/-!
# The lines that fields can hold

A field holds at least one line, and every line has an expressible text in any two colours. Each list
of such lines is held by the field that it is written as.
-/

namespace SubtitleExchange
namespace Field

/-!
# Lines of a field

The bytes of a segment stand before the terminator and between line breaks.
-/

theorem mem_of_mem_segments {field segment : List UInt8} {b : UInt8}
    (hsegment : segment ∈ segments (content field)) (hb : b ∈ segment) :
    b ≠ Code.lineBreakByte ∧ b ≠ Code.terminatorByte := by
  have hany : ((segments (content field)).any fun segment => segment.any (· == b)) = true := by
    rw [List.any_eq_true]
    exact ⟨segment, hsegment, List.any_eq_true.mpr ⟨b, hb, beq_self_eq_true b⟩⟩
  rw [any_segments, List.any_eq_true] at hany
  obtain ⟨c, hc, hboth⟩ := hany
  rw [Bool.and_eq_true, beq_iff_eq, bne_iff_ne] at hboth
  obtain ⟨rfl, hbreak⟩ := hboth
  constructor
  · exact hbreak
  · rintro rfl
    exact terminator_not_mem_content field hc

theorem isShown_character_iff (b : UInt8) :
    Repertoire.isShown (Repertoire.character b) = true ↔
      isPrintable b = true ∧ b ≠ Code.lineBreakByte ∧ b ≠ Code.terminatorByte := by
  have hlt := b.toNat_lt
  simp only [Repertoire.isShown_iff, Repertoire.toNat_character, isPrintable, Code.firstPrintable,
    Code.lineBreakByte, Code.terminatorByte, decide_eq_true_eq, UInt8.le_iff_toNat_le, ne_eq,
    ← UInt8.toNat_inj, UInt8.reduceToNat]
  omega

theorem isExpressible_of_mem_lines {field : List UInt8} {line : Line} (h : line ∈ lines field) :
    Repertoire.isExpressible line.text.toList = true := by
  rw [lines_eq_map_segmentLine] at h
  obtain ⟨segment, hsegment, rfl⟩ := List.mem_map.mp h
  rw [segmentLine, Repertoire.toList_text]
  apply Repertoire.isExpressible_decode
  intro b hb
  obtain ⟨hmem, hprintable⟩ := List.mem_filter.mp hb
  exact (isShown_character_iff b).mpr ⟨hprintable, mem_of_mem_segments hsegment hmem⟩

/-!
# Writing a line

The two colour codes come first and the text holds no other, so both colours are read back.
-/

theorem not_color_of_printable {b : UInt8} (h : isPrintable b = true) :
    isForeground b = false ∧ isBackground b = false := by
  simp only [isForeground, isBackground, isPrintable, Code.firstPrintable, UInt8.le_iff_toNat_le,
    UInt8.reduceToNat, Bool.and_eq_false_iff, decide_eq_true_eq, decide_eq_false_iff_not] at h ⊢
  omega

theorem lastColor_of_none {kind : UInt8 → Bool} {segment : List UInt8}
    (h : ∀ b ∈ segment, kind b = false) (color : Color) : lastColor kind color segment = color := by
  have hnone : segment.filter kind = [] := by
    rw [List.filter_eq_nil_iff]
    intro b hb
    simp [h b hb]
  rw [lastColor, hnone]
  rfl

theorem kinds_foregroundCode (color : Color) :
    isForeground color.code = true ∧ isBackground color.code = false ∧
      isPrintable color.code = false := by
  cases color <;> decide

theorem kinds_backgroundCode (color : Color) :
    isForeground (0x10 ||| color.code) = false ∧ isBackground (0x10 ||| color.code) = true ∧
      isPrintable (0x10 ||| color.code) = false ∧ Color.ofCode (0x10 ||| color.code) = color := by
  cases color <;> decide

theorem printable_of_mem_encode {cs : List Char} (h : Repertoire.isExpressible cs = true)
    {b : UInt8} (hb : b ∈ Repertoire.encode cs) :
    isPrintable b = true ∧ b ≠ Code.lineBreakByte ∧ b ≠ Code.terminatorByte := by
  have hshown := List.all_eq_true.mp (Bool.and_eq_true_iff.mp h).1
  exact (isShown_character_iff b).mp (Repertoire.isShown_character_of_mem_encode hshown hb)

theorem segmentLine_encodeLine {line : Line}
    (h : Repertoire.isExpressible line.text.toList = true) :
    segmentLine (encodeLine line) = line := by
  obtain ⟨hfore, hforeBack, hforeText⟩ := kinds_foregroundCode line.foreground
  obtain ⟨hbackFore, hback, hbackText, hcode⟩ := kinds_backgroundCode line.background
  have hprintable : ∀ b ∈ Repertoire.encode line.text.toList, isPrintable b = true :=
    fun b hb => (printable_of_mem_encode h hb).1
  have htext : (encodeLine line).filter isPrintable = Repertoire.encode line.text.toList := by
    rw [encodeLine, List.filter_cons_of_neg (by simp [hforeText]),
      List.filter_cons_of_neg (by simp [hbackText]), List.filter_eq_self]
    exact hprintable
  have hforeground : lastColor isForeground .white (encodeLine line) = line.foreground := by
    rw [encodeLine, lastColor_cons, lastColor_cons, if_pos hfore, if_neg (by simp [hbackFore]),
      Color.ofCode_code]
    exact lastColor_of_none (fun b hb => (not_color_of_printable (hprintable b hb)).1) _
  have hbackground : lastColor isBackground .black (encodeLine line) = line.background := by
    rw [encodeLine, lastColor_cons, lastColor_cons, if_pos hback, hcode]
    exact lastColor_of_none (fun b hb => (not_color_of_printable (hprintable b hb)).2) _
  rw [segmentLine, htext, hforeground, hbackground, Repertoire.text, Repertoire.decode_encode h,
    String.ofList_toList]

/-!
# Writing a field

A written line holds neither a line break nor a terminator, so the field is cut where one line ends
and the next begins.
-/

theorem not_control_of_mem_encodeLine {line : Line}
    (h : Repertoire.isExpressible line.text.toList = true) {b : UInt8} (hb : b ∈ encodeLine line) :
    b ≠ Code.lineBreakByte ∧ b ≠ Code.terminatorByte := by
  rw [encodeLine, List.mem_cons, List.mem_cons] at hb
  rcases hb with rfl | rfl | hb
  · cases line.foreground <;> decide
  · cases line.background <;> decide
  · exact (printable_of_mem_encode h hb).2

theorem content_encode {expected : List Line}
    (h : ∀ line ∈ expected, Repertoire.isExpressible line.text.toList = true) :
    content (encode expected) = encode expected := by
  have hbytes : ∀ b ∈ encode expected, b ≠ Code.terminatorByte := by
    apply Cut.forall_mem_intercalate
    · intro b hb
      rw [List.mem_singleton.mp hb]
      decide
    · intro bytes hmem b hb
      obtain ⟨line, hline, rfl⟩ := List.mem_map.mp hmem
      exact (not_control_of_mem_encodeLine (h line hline) hb).2
  have hcut := content_append (fun hmem => hbytes _ hmem rfl) []
  have hnil : content [] = [] := rfl
  rwa [List.append_nil, hnil, List.append_nil] at hcut

theorem lines_encode {expected : List Line} (hne : expected ≠ [])
    (h : ∀ line ∈ expected, Repertoire.isExpressible line.text.toList = true) :
    lines (encode expected) = expected := by
  have hsegments : segments (encode expected) = expected.map encodeLine := by
    apply List.splitOn_intercalate
    · intro bytes hbytes hbreak
      obtain ⟨line, hline, rfl⟩ := List.mem_map.mp hbytes
      exact (not_control_of_mem_encodeLine (h line hline) hbreak).1 rfl
    · simpa using hne
  have hself : ∀ line ∈ expected, segmentLine (encodeLine line) = line :=
    fun line hline => segmentLine_encodeLine (h line hline)
  rw [lines_eq_map_segmentLine, content_encode h, hsegments, List.map_map]
  exact (List.map_congr_left hself).trans (List.map_id expected)

/-- A list of lines is held by a field exactly if it is not empty and its texts are expressible, and
then it is held by the field that it is written as. -/
theorem exists_lines_eq_iff (expected : List Line) :
    ((∃ field, lines field = expected) ↔
      expected ≠ [] ∧ ∀ line ∈ expected,
        (∀ c ∈ line.text.toList,
          0x20 ≤ c.toNat ∧ c.toNat ≤ 0xFF ∧ c.toNat ≠ 0x8A ∧ c.toNat ≠ 0x8F) ∧
        ∀ vowel ∈ "AEIOUaeiou".toList, ¬ ['Ã', vowel] <:+: line.text.toList) ∧
    ((∃ field, lines field = expected) ↔ lines (encode expected) = expected) := by
  have hheld : (∃ field, lines field = expected) → expected ≠ [] ∧
      ∀ line ∈ expected, Repertoire.isExpressible line.text.toList = true := by
    rintro ⟨field, rfl⟩
    exact ⟨scan_ne_nil Pending.start field, fun line hline => isExpressible_of_mem_lines hline⟩
  have hwritten : (expected ≠ [] ∧
      ∀ line ∈ expected, Repertoire.isExpressible line.text.toList = true) →
        lines (encode expected) = expected :=
    fun h => lines_encode h.1 h.2
  simp only [Repertoire.isExpressible_iff] at hheld hwritten
  constructor
  · constructor
    · exact hheld
    · exact fun h => ⟨encode expected, hwritten h⟩
  · constructor
    · exact fun h => hwritten (hheld h)
    · exact fun h => ⟨encode expected, h⟩

end Field
end SubtitleExchange
