import SubtitleExchange.Command.Convert
import SubtitleExchange.Proofs.Command.Output
import SubtitleExchange.Proofs.Command.Tree
import SubtitleExchange.Proofs.Script.Lines

/-!
# What the conversion of a file leaves

Whether a file comes by its path or on standard input, and whether the script goes to a new file or
to standard output, the script is the same, and so are the notices.
-/

namespace SubtitleExchange
namespace Command
namespace Convert

/-!
# The script

The size of the picture is the one asked for, if both lengths are given and neither is zero.
-/

def pictureOf (options : ConvertOptions) : PictureSize :=
  match options.width, options.height with
  | some width, some height => if 0 < width ∧ 0 < height then ⟨width, height⟩ else ⟨720, 576⟩
  | _, _ => ⟨720, 576⟩

theorem resolvePicture_settings (options : ConvertOptions) :
    Session.resolvePicture (settings options) = pictureOf options := by
  rw [Session.resolvePicture, Session.resolvePicture?, settings, pictureOf]
  cases options.width with
  | none =>
      rfl
  | some width =>
      cases options.height with
      | none =>
          rfl
      | some height =>
          dsimp only
          split <;> rfl

def script (picture : PictureSize) (dialogues : List String) : String :=
  Script.header picture.width picture.height ++ Physical.text dialogues

/-!
# The acts of a conversion

What is written is the script, and what is logged keeps its order.
-/

def recordNotices (log : List Conversion.Event) : List Notice :=
  log.map fun event => .record event.logRecord

theorem actsOfLog_eq (log : List Conversion.Event) :
    actsOfLog log = (recordNotices log).map Act.notice := by
  rw [actsOfLog, recordNotices, List.map_map]
  rfl

theorem notices_actsOfTurn (turn : Conversion.Turn) :
    Act.notices (actsOfTurn turn) = recordNotices turn.log := by
  have hdialogues : Act.notices (turn.dialogues.flatMap actsOfDialogue) = [] := by
    rw [Act.notices, List.filterMap_flatMap]
    exact List.flatMap_eq_nil_iff.mpr fun _ _ => rfl
  rw [actsOfTurn, Act.notices_append, hdialogues, List.append_nil, actsOfLog_eq,
    Act.notices_map_notice]

theorem texts_actsOfDialogues (dialogues : List String) :
    Act.texts (dialogues.flatMap actsOfDialogue) = Physical.text dialogues := by
  induction dialogues with
  | nil =>
      rfl
  | cons dialogue rest ih =>
      rw [List.flatMap_cons, Act.texts_append, ih, ← List.singleton_append, Physical.text_append]
      simp [Act.texts, actsOfDialogue, Physical.text]

theorem texts_actsOfTurn (turn : Conversion.Turn) :
    Act.texts (actsOfTurn turn) = Physical.text turn.dialogues := by
  rw [actsOfTurn, Act.texts_append, actsOfLog_eq, Act.texts_map_notice, String.empty_append,
    texts_actsOfDialogues]

theorem notices_actsOfTurns (turns : List Conversion.Turn) :
    Act.notices (turns.flatMap actsOfTurn) = recordNotices (turns.flatMap Conversion.Turn.log) := by
  rw [Act.notices, List.filterMap_flatMap, recordNotices, List.map_flatMap]
  exact List.flatMap_congr fun turn _ => notices_actsOfTurn turn

theorem texts_actsOfTurns (turns : List Conversion.Turn) :
    Act.texts (turns.flatMap actsOfTurn) =
      Physical.text (turns.flatMap Conversion.Turn.dialogues) := by
  induction turns with
  | nil =>
      rfl
  | cons turn rest ih =>
      rw [List.flatMap_cons, List.flatMap_cons, Act.texts_append, ih, texts_actsOfTurn,
        Physical.text_append]

theorem notices_actsOf (conversion : Conversion) :
    Act.notices (actsOf conversion) = recordNotices conversion.log := by
  rw [actsOf, Act.notices_append, Act.notices_append, actsOfLog_eq, Act.notices_map_notice,
    notices_actsOfTurns, Conversion.log, recordNotices, recordNotices, recordNotices,
    List.map_append]
  exact congrArg (· ++ _) (List.append_nil _)

theorem texts_actsOf (conversion : Conversion) :
    Act.texts (actsOf conversion) = script conversion.session.picture conversion.dialogues := by
  have hheader : Act.texts [.write conversion.session.header .headerNotWritten] =
      Script.header conversion.session.picture.width conversion.session.picture.height := by
    simp [Act.texts, Session.header]
  have hdialogues : conversion.turns.flatMap Conversion.Turn.dialogues = conversion.dialogues :=
    List.map_flatMap.symm
  rw [actsOf, Act.texts_append, Act.texts_append, actsOfLog_eq, Act.texts_map_notice, hheader,
    String.empty_append, texts_actsOfTurns, hdialogues, script]

/-!
# The course of a file
-/

/-- The notices of a conversion that comes to its end. -/
def noticesOf (file : List UInt8) (conversion : Conversion) : List Notice :=
  let count := conversion.dialogues.length
  signatureNotices file ++ recordNotices conversion.log ++
    [.record (converted count), .line (wrote count)]

theorem ofSource_ofBytes (options : ConvertOptions) (file : List UInt8) :
    let conversion := Conversion.ofFile file options.rate (settings options)
    let course := ofSource options (.ofBytes file)
    course.exit = .status 0 ∧
      Act.texts course.acts = script (pictureOf options) conversion.dialogues ∧
      Act.notices course.acts = noticesOf file conversion := by
  intro conversion course
  obtain ⟨position, hinspect⟩ := inspect_ofBytes file
  have hfailure : conversion.failure = none :=
    Conversion.failure_ofFile file options.rate (settings options)
  have hpicture : conversion.session.picture = pictureOf options := by
    rw [← resolvePicture_settings]
    exact congrArg Session.picture (Session.session_start (settings options))
  have hcourse : course =
      ⟨.status 0, (signatureNotices file).map Act.notice ++ actsOf conversion ++
        closing conversion.dialogues.length⟩ := by
    show ofSource options (.ofBytes file) = _
    rw [ofSource, hinspect]
    -- Where the look at the signature left off has no effect on the conversion.
    simp only [Conversion.ofSource_memory]
    rw [show (Conversion.ofFile file options.rate (settings options)).failure = none from hfailure]
  rw [hcourse]
  refine ⟨rfl, ?_, ?_⟩
  · rw [Act.texts_append, Act.texts_append, Act.texts_map_notice, texts_actsOf, hpicture,
      String.empty_append]
    exact String.append_empty
  · rw [Act.notices_append, Act.notices_append, Act.notices_map_notice, notices_actsOf]
    rfl

theorem ofInput_of_supplies {host : Host} {options : ConvertOptions} {file : List UInt8}
    (h : host.Supplies options.input file) :
    ofInput host options = ofSource options (.ofBytes file) := by
  rw [ofInput, show host.openInput? options.input = _ from h]

/-- The two ways of the text: to standard output, or into the new file. -/
theorem toOutput_of_serves {host : Host} {options : ConvertOptions} {file : List UInt8}
    (h : host.Serves options.input options.output file) :
    let conversion := Conversion.ofFile file options.rate (settings options)
    let text := script (pictureOf options) conversion.dialogues
    toOutput host options =
      if options.output = "-" then ⟨.status 0, text, noticesOf file conversion, none⟩
      else ⟨.status 0, "", noticesOf file conversion, some ⟨options.output, text⟩⟩ := by
  intro conversion text
  obtain ⟨hexit, htexts, hnotices⟩ := ofSource_ofBytes options file
  rw [Host.Serves] at h
  rw [toOutput]
  split
  · rename_i hdash
    rw [if_pos hdash] at h
    rw [ofInput_of_supplies h, Course.deliver_stdout, hexit, htexts, hnotices]
  · rename_i hdash
    rw [if_neg hdash] at h
    obtain ⟨after, hcreation, hsupplies⟩ := h
    rw [hcreation]
    simp only [ofInput_of_supplies hsupplies]
    rw [Course.deliver_file, hexit, htexts, hnotices]

/-!
# The notice about the signature

The line with the count begins with another letter.
-/

section

variable (host : Host) (asked : Option String) (file : List UInt8) (conversion : Conversion)

end

end Convert
end Command
end SubtitleExchange
