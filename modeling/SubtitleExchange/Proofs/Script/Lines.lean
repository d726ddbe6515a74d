import SubtitleExchange.Proofs.Conversion
import SubtitleExchange.Proofs.Cue.Shown
import SubtitleExchange.Proofs.Text.Plain

/-!
# The physical lines of a script

Whatever bytes a file holds, its texts are plain, and all that is written around them is. So every
rectangle takes up one physical line of the script, and a cue can be cut back into its texts.
-/

namespace SubtitleExchange

open Physical

/-!
# Cues

Tags are made of letters, digits and a few signs.
-/

namespace Markup

theorem isPlain_line {line : Line} (h : IsPlain line.text) : IsPlain (Markup.line line) := by
  have hfill : IsPlain (fillTag line.foreground) := by
    cases line.foreground <;> decide
  have houtline : IsPlain (outlineTag line.background) := by
    cases line.background <;> decide
  have hopen : IsPlain "\x7b" := by decide
  have hclose : IsPlain "\x7d" := by decide
  exact ((hopen.append (hfill.append houtline)).append hclose).append h

theorem isPlain_opening (alignment : Alignment) : IsPlain (opening alignment) := by
  obtain ⟨horizontal, vertical⟩ := alignment
  cases horizontal <;> cases vertical <;> decide

theorem isPlain_markup {cue : Cue} (h : ∀ line ∈ cue.lines, IsPlain line.text) :
    IsPlain cue.markup := by
  apply (isPlain_opening cue.alignment).append
  apply isPlain_intercalate (by decide)
  intro part hpart
  obtain ⟨line, hline, rfl⟩ := List.mem_map.mp hpart
  exact isPlain_line (h line (List.mem_of_mem_filter hline))

end Markup

theorem Cue.parts_plainText {cue : Cue} (hvisible : Line.hasVisible cue.lines = true)
    (h : ∀ line ∈ cue.lines, IsPlain line.text) :
    parts cue.plainText = cue.visibleLines.map fun line => line.text.toList := by
  rw [parts, Markup.toList_plainText]
  apply List.splitOn_intercalate
  · intro cs hcs
    obtain ⟨line, hline, rfl⟩ := List.mem_map.mp hcs
    exact (h line (List.mem_of_mem_filter hline)).lineFeed_not_mem
  · intro hnil
    exact (Line.hasVisible_iff cue.lines).mp hvisible (List.map_eq_nil_iff.mp hnil)

/-!
# Scripts
-/

namespace Script

theorem isPlain_timeText (millis : Int64) : IsPlain (timeText millis) := by
  have hcolon : IsPlain ":" := by decide
  have hpoint : IsPlain "." := by decide
  have hminutes := ((isPlain_toString (centiseconds millis / 360000)).append hcolon).append
    (isPlain_padded 2 (centiseconds millis / 6000 % 60))
  have hseconds := (hminutes.append hcolon).append (isPlain_padded 2 (centiseconds millis / 100 % 60))
  exact (hseconds.append hpoint).append (isPlain_padded 2 (centiseconds millis % 100))

theorem isPlain_dialogue (start stop : Int64) {text : String} (h : IsPlain text) :
    IsPlain (dialogue start stop text) := by
  have hkind : IsPlain "Dialogue: " := by decide
  have hzero : IsPlain "0" := by decide
  have hempty : IsPlain "" := by decide
  have hstyle : IsPlain styleName := by decide
  apply hkind.append
  apply isPlain_intercalate (by decide)
  simp only [List.forall_mem_cons]
  exact ⟨hzero, isPlain_timeText start, isPlain_timeText stop, hstyle, hempty, hzero, hzero,
    hzero, hempty, h, fun _ hnone => nomatch hnone⟩

theorem isPlain_of_mem_headerLines (width height : UInt32) :
    ∀ line ∈ headerLines width height, IsPlain line := by
  have hcomma : IsPlain "," := by decide
  have hspaced : IsPlain ", " := by decide
  have hstyleFields : ∀ field ∈ styleFields, IsPlain field := by decide
  have hstyleValues : ∀ value ∈ styleValues, IsPlain value := by decide
  have heventFields : ∀ field ∈ eventFields, IsPlain field := by decide
  have hformat : IsPlain "Format: " := by decide
  have hstyle : IsPlain "Style: " := by decide
  have hwidth : IsPlain "PlayResX: " := by decide
  have hheight : IsPlain "PlayResY: " := by decide
  have hempty : IsPlain "" := by decide
  simp only [headerLines, List.forall_mem_cons]
  exact ⟨by decide, by decide, by decide,
    hwidth.append (isPlain_toString _), hheight.append (isPlain_toString _),
    by decide, by decide, hempty, by decide,
    hformat.append (isPlain_intercalate hspaced hstyleFields),
    hstyle.append (isPlain_intercalate hcomma hstyleValues), hempty, by decide,
    hformat.append (isPlain_intercalate hspaced heventFields), fun _ hnone => nomatch hnone⟩

/-- A script is cut into the lines of its header and its dialogue lines, with nothing behind the
last line feed. -/
theorem parts_header_append (width height : UInt32) {dialogues : List String}
    (h : ∀ dialogue ∈ dialogues, IsPlain dialogue) :
    parts (header width height ++ Physical.text dialogues) =
      (headerLines width height).map String.toList ++ dialogues.map String.toList ++ [[]] := by
  rw [header, ← text_append, parts_text, List.map_append]
  intro line hline
  apply IsPlain.lineFeed_not_mem
  rcases List.mem_append.mp hline with hmem | hmem
  · exact isPlain_of_mem_headerLines width height line hmem
  · exact h line hmem

end Script

/-!
# Rectangles

A conversion writes one line for each rectangle that the packets of its reader give in one session.
-/

namespace Conversion

theorem of_mem_rectanglesOf {session : Session} {steps : List Reader.Step} {rectangle : Rectangle}
    (h : rectangle ∈ rectanglesOf session steps) :
    rectangle.text = rectangle.cue.markup ∧ (∃ field, rectangle.cue.lines = Field.lines field) ∧
      Line.hasVisible rectangle.cue.lines = true := by
  rw [rectanglesOf, Session.rectangles_run] at h
  obtain ⟨hcue, htext⟩ := Session.of_mem_numbered h
  obtain ⟨request, _, hmem⟩ := List.mem_flatMap.mp hcue
  exact ⟨htext, Session.of_mem_cues hmem⟩

theorem of_rectanglesOf {session : Session} {steps : List Reader.Step} {rectangle : Rectangle}
    (h : rectangle ∈ rectanglesOf session steps) :
    IsPlain rectangle.text ∧ (∀ line ∈ rectangle.cue.lines, IsPlain line.text) ∧
      parts rectangle.cue.plainText =
        rectangle.cue.visibleLines.map fun line => line.text.toList := by
  obtain ⟨htext, ⟨field, hfield⟩, hvisible⟩ := of_mem_rectanglesOf h
  have hlines : ∀ line ∈ rectangle.cue.lines, IsPlain line.text := by
    intro line hline
    rw [hfield] at hline
    exact isPlain_of_mem_lines hline
  refine ⟨?_, hlines, Cue.parts_plainText hvisible hlines⟩
  rw [htext]
  exact Markup.isPlain_markup hlines

variable (file : List UInt8) (rate : FrameRate) (settings : Session.Settings)

theorem rectangles_ofFile_eq :
    (ofFile file rate settings).rectangles =
      rectanglesOf (Session.start settings).session (readerOf file rate).steps :=
  rectangles_follow _ _

theorem isPlain_of_mem_dialogues {dialogue : String}
    (h : dialogue ∈ (ofFile file rate settings).dialogues) : IsPlain dialogue := by
  rw [dialogues, rectangles_ofFile_eq] at h
  obtain ⟨rectangle, hrectangle, rfl⟩ := List.mem_map.mp h
  exact Script.isPlain_dialogue _ _ (of_rectanglesOf hrectangle).1

theorem parts_script_ofFile (width height : UInt32) :
    parts (Script.header width height ++
        Physical.text (ofFile file rate settings).dialogues) =
      (Script.headerLines width height).map String.toList ++
        (ofFile file rate settings).dialogues.map String.toList ++ [[]] :=
  Script.parts_header_append width height fun _ hdialogue =>
    isPlain_of_mem_dialogues file rate settings hdialogue

/-- The texts of a file never break a line: a script with any header has as many lines behind it as
there are rectangles, and each is the dialogue line of its rectangle. -/
theorem parts_script_of_file (position : Nat) :
    ∃ reader opened conversion,
      Reader.openAt rate (.memory file.toArray position) = .ok (reader, opened) ∧
      ofSource (.memory file.toArray position) rate settings = .ok conversion ∧
      let rectangles := rectanglesOf (Session.start settings).session reader.steps
      (∀ rectangle ∈ rectangles, IsPlain rectangle.text ∧
        (∀ line ∈ rectangle.cue.lines, IsPlain line.text) ∧
        parts rectangle.cue.plainText =
          rectangle.cue.visibleLines.map fun line => line.text.toList) ∧
      (∀ dialogue ∈ conversion.dialogues, IsPlain dialogue) ∧
      ∀ width height,
        parts (Script.header width height ++ Physical.text conversion.dialogues) =
          (Script.headerLines width height).map String.toList ++
            rectangles.map (fun rectangle => (dialogueOf rectangle).toList) ++ [[]] := by
  refine ⟨readerOf file rate, _, ofFile file rate settings, rfl,
    ofSource_memory file position rate settings, ?_, ?_, ?_⟩
  · intro rectangle hrectangle
    exact of_rectanglesOf hrectangle
  · intro dialogue hdialogue
    exact isPlain_of_mem_dialogues file rate settings hdialogue
  · intro width height
    rw [parts_script_ofFile, dialogues, rectangles_ofFile_eq, List.map_map]
    rfl

end Conversion
end SubtitleExchange
