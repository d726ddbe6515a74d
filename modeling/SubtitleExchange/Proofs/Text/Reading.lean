import SubtitleExchange.Text.Segment

/-!
# The scan of a text field gives its reading

The scan gathers a line byte by byte, and forgets what it gathered at a line break. What it hands
over at the end of a segment is what the whole segment says, so the lines of a field are its
segments, each read on its own.
-/

namespace SubtitleExchange
namespace Field

/-!
# Gathering by ranges

The scan looks at the code of a byte, the reading at the range in which the byte lies. The three
ranges exclude each other.
-/

namespace Pending

/-- The pending line after a byte that neither breaks the line nor ends the field. -/
def gather (pending : Pending) (b : UInt8) : Pending where
  latest := if isPrintable b then b :: pending.latest else pending.latest
  foreground := if isForeground b then Color.ofCode b else pending.foreground
  background := if isBackground b then Color.ofCode b else pending.background

/-- The line that is handed over if the bytes of a segment come next. -/
def finish (pending : Pending) (segment : List UInt8) : Line where
  text := Repertoire.text (pending.latest.reverse ++ segment.filter isPrintable)
  foreground := lastColor isForeground pending.foreground segment
  background := lastColor isBackground pending.background segment

theorem finish_nil (pending : Pending) : pending.finish [] = pending.line := by
  simp [finish, line, lastColor]

end Pending

theorem lastColor_cons (kind : UInt8 → Bool) (color : Color) (b : UInt8) (segment : List UInt8) :
    lastColor kind color (b :: segment) =
      lastColor kind (if kind b then Color.ofCode b else color) segment := by
  unfold lastColor
  cases hkind : kind b with
  | false =>
      simp [hkind]
  | true =>
      rw [List.filter_cons_of_pos hkind, List.getLast?_cons]
      cases (segment.filter kind).getLast? <;> rfl

theorem finish_cons (pending : Pending) (b : UInt8) (segment : List UInt8) :
    pending.finish (b :: segment) = (pending.gather b).finish segment := by
  have htext : pending.latest.reverse ++ (b :: segment).filter isPrintable =
      (pending.gather b).latest.reverse ++ segment.filter isPrintable := by
    cases hprintable : isPrintable b <;> simp [Pending.gather, hprintable]
  simp only [Pending.finish, htext, lastColor_cons]
  rfl

theorem scan_cons {b : UInt8} (hbreak : b ≠ Code.lineBreakByte)
    (hterminator : b ≠ Code.terminatorByte) (pending : Pending) (rest : List UInt8) :
    scan pending (b :: rest) = scan (pending.gather b) rest := by
  have hcode : Code.ofByte b =
      if isForeground b then .foreground (Color.ofCode b)
      else if isBackground b then .background (Color.ofCode b)
      else if isPrintable b then .printable b
      else .ignored := by
    simp [Code.ofByte, hbreak, hterminator, isForeground, isBackground, isPrintable]
  have hranges : (isForeground b = true → isBackground b = false ∧ isPrintable b = false) ∧
      (isBackground b = true → isPrintable b = false) := by
    simp only [isForeground, isBackground, isPrintable, Code.firstPrintable,
      UInt8.le_iff_toNat_le, UInt8.reduceToNat, Bool.and_eq_true, Bool.and_eq_false_iff,
      decide_eq_true_eq, decide_eq_false_iff_not]
    omega
  rw [scan, hcode]
  cases hforeground : isForeground b with
  | true =>
      have hothers := hranges.1 hforeground
      simp [Pending.gather, hforeground, hothers]
  | false =>
      cases hbackground : isBackground b with
      | true =>
          have hother := hranges.2 hbackground
          simp [Pending.gather, hforeground, hbackground, hother]
      | false =>
          cases hprintable : isPrintable b <;>
            simp [Pending.gather, hforeground, hbackground, hprintable]

/-!
# Segments

Splitting at line breaks follows the bytes, as the scan does.
-/

theorem content_cons_terminator (rest : List UInt8) :
    content (Code.terminatorByte :: rest) = [] := by
  simp [content]

theorem content_cons {b : UInt8} (hterminator : b ≠ Code.terminatorByte) (rest : List UInt8) :
    content (b :: rest) = b :: content rest := by
  simp [content, hterminator]

theorem terminator_not_mem_content (field : List UInt8) :
    Code.terminatorByte ∉ content field := by
  intro hmem
  have hall : (content field).all (· != Code.terminatorByte) = true := List.all_takeWhile
  simpa using List.all_eq_true.mp hall Code.terminatorByte hmem

theorem content_append {front : List UInt8} (h : Code.terminatorByte ∉ front)
    (back : List UInt8) : content (front ++ back) = front ++ content back := by
  apply List.takeWhile_append_of_pos
  intro b hb
  simp only [bne_iff_ne, ne_eq]
  exact fun heq => h (heq ▸ hb)

/-- The first segment goes to the line that is being gathered, the others start afresh. -/
def linesFrom (pending : Pending) : List (List UInt8) → List Line
  | [] => []
  | segment :: others => pending.finish segment :: others.map segmentLine

theorem linesFrom_start (parts : List (List UInt8)) :
    linesFrom Pending.start parts = parts.map segmentLine := by
  cases parts with
  | nil => rfl
  | cons segment others => rfl

theorem linesFrom_modifyHead (pending : Pending) (b : UInt8) (parts : List (List UInt8)) :
    linesFrom pending (parts.modifyHead (List.cons b)) = linesFrom (pending.gather b) parts := by
  cases parts with
  | nil => rfl
  | cons segment others =>
      simp only [List.modifyHead_cons, linesFrom, finish_cons]

theorem scan_eq_linesFrom (pending : Pending) (field : List UInt8) :
    scan pending field = linesFrom pending (segments (content field)) := by
  induction field generalizing pending with
  | nil =>
      simp [scan, content, segments, linesFrom, Pending.finish_nil]
  | cons b rest ih =>
      by_cases hterminator : b = Code.terminatorByte
      · subst hterminator
        have hcode : Code.ofByte Code.terminatorByte = .terminator := rfl
        rw [content_cons_terminator, scan, hcode]
        simp [segments, linesFrom, Pending.finish_nil]
      · rw [content_cons hterminator, segments, List.splitOn_cons_eq_if_modifyHead]
        by_cases hbreak : b = Code.lineBreakByte
        · subst hbreak
          have hcode : Code.ofByte Code.lineBreakByte = .lineBreak := rfl
          rw [scan, hcode, if_pos (beq_self_eq_true _)]
          simp only [linesFrom, Pending.finish_nil]
          rw [ih Pending.start, linesFrom_start]
          rfl
        · rw [if_neg (by simpa using hbreak), linesFrom_modifyHead]
          rw [scan_cons hbreak hterminator, ih]
          rfl

theorem lines_eq_map_segmentLine (field : List UInt8) :
    lines field = (segments (content field)).map segmentLine := by
  rw [lines, scan_eq_linesFrom, linesFrom_start]

theorem length_segments (content : List UInt8) :
    (segments content).length = content.count Code.lineBreakByte + 1 := by
  induction content with
  | nil =>
      rfl
  | cons b rest ih =>
      rw [segments] at ih
      rw [segments, List.splitOn_cons_eq_if_modifyHead, List.count_cons]
      split
      · rw [List.length_cons, ih]
      · rw [List.length_modifyHead, ih]

theorem segments_append_lineBreak (front back : List UInt8) :
    segments (front ++ Code.lineBreakByte :: back) = segments front ++ segments back :=
  List.splitOn_append_cons_self front back

/-- The lines on the two sides of a line break have nothing to do with each other, and what stands
behind the terminator has nothing to do with any line. -/
theorem lines_eq_reading (field : List UInt8) :
    lines field = reading field ∧
      (reading field).length = (content field).count Code.lineBreakByte + 1 ∧
      (∀ back, lines (content field ++ Code.lineBreakByte :: back) =
        lines field ++ lines back) ∧
      (∀ back, lines (content field ++ Code.terminatorByte :: back) = lines field) := by
  have hfield := terminator_not_mem_content field
  refine ⟨lines_eq_map_segmentLine field, ?_, ?_, ?_⟩
  · rw [reading, List.length_map, length_segments]
  · intro back
    have hbreak : content (Code.lineBreakByte :: back) = Code.lineBreakByte :: content back :=
      content_cons (by decide) back
    simp only [lines_eq_map_segmentLine]
    rw [content_append hfield, hbreak, segments_append_lineBreak, List.map_append]
  · intro back
    simp only [lines_eq_map_segmentLine]
    rw [content_append hfield, content_cons_terminator, List.append_nil]

/-!
# Visible text

A line is shown when its text is not empty, and decoding leaves no text empty that had bytes.
-/

theorem decode_eq_nil_iff (bytes : List UInt8) : Repertoire.decode bytes = [] ↔ bytes = [] := by
  constructor
  · intro h
    cases bytes with
    | nil =>
        rfl
    | cons a rest =>
        cases rest with
        | nil =>
            cases h
        | cons b rest =>
            rw [Repertoire.decode] at h
            split at h <;> cases h
  · rintro rfl
    rfl

theorem segmentLine_isEmpty (segment : List UInt8) :
    (segmentLine segment).isEmpty = !segment.any isPrintable := by
  rw [Bool.eq_iff_iff, Line.isEmpty, segmentLine, String.isEmpty_iff, ← String.toList_eq_nil_iff,
    Repertoire.toList_text, decode_eq_nil_iff]
  simp

theorem any_segments (kind : UInt8 → Bool) (content : List UInt8) :
    ((segments content).any fun segment => segment.any kind) =
      content.any fun b => kind b && b != Code.lineBreakByte := by
  induction content with
  | nil =>
      rfl
  | cons b rest ih =>
      rw [segments] at ih
      rw [segments, List.splitOn_cons_eq_if_modifyHead, List.any_cons, ← ih]
      by_cases hbreak : b = Code.lineBreakByte
      · simp [hbreak]
      · cases hsplit : rest.splitOn Code.lineBreakByte with
        | nil =>
            exact absurd hsplit (List.splitOn_ne_nil _ _)
        | cons segment others =>
            have hbyte : (b != Code.lineBreakByte) = true := bne_iff_ne.mpr hbreak
            simp [hbreak, hbyte, Bool.or_assoc]

theorem hasVisible_lines (field : List UInt8) : Line.hasVisible (lines field) = hasText field := by
  rw [lines_eq_map_segmentLine, Line.hasVisible, List.any_map, hasText, ← any_segments]
  congr 1
  funext segment
  simp [segmentLine_isEmpty]

end Field
end SubtitleExchange
