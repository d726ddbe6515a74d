import SubtitleExchange.Proofs.Script.Lines
import SubtitleExchange.Proofs.Time.Written

/-!
# Event lines are read back

An event line has the fields that the format line of its script names. Only the last one can hold
commas, so the line is cut into its fields again, and its times are read from them.
-/

namespace SubtitleExchange
namespace Script

/-!
# The format line

The header of a script tells how its event lines are to be read.
-/

/-- The fields of an event, as the format line behind the title of the events names them. -/
def formatOf? (script : String) : Option (List (List Char)) := do
  let (_, events) ← Cut.first "[Events]".toList (Physical.parts script)
  let line ← events.head?
  let names ← line.dropPrefix? "Format: ".toList
  return (names.splitOn ',').map fun name => name.dropWhile (· = ' ')

theorem parts_header (width height : UInt32) :
    Physical.parts (header width height) =
      (headerLines width height).map String.toList ++ [[]] :=
  Physical.parts_text fun line hline =>
    (isPlain_of_mem_headerLines width height line hline).lineFeed_not_mem

theorem title_not_mem_headerLines (width height : UInt32) :
    "[Events]".toList ∉ ((headerLines width height).take 12).map String.toList := by
  simp [headerLines]

theorem formatOf?_header (width height : UInt32) :
    formatOf? (header width height) = some (eventFields.map String.toList) := by
  have hlines : (headerLines width height).map String.toList ++ [[]] =
      ((headerLines width height).take 12).map String.toList ++ "[Events]".toList ::
        ["Format: ".toList ++ (", ".intercalate eventFields).toList, []] := by
    simp [headerLines]
  rw [formatOf?, parts_header, hlines,
    Cut.first_append _ (title_not_mem_headerLines width height)]
  simp only [Option.bind_eq_bind, Option.bind_some, List.head?_cons,
    List.dropPrefix?_append_of_beq _ (beq_self_eq_true _), String.toList_intercalate]
  rfl

/-!
# Times

The time in a field is read as the hundredths of a second that it shows.
-/

theorem readTime?_chars {p : Clock.Parts} (hp : p.IsProper 100) :
    readTime? (p.chars 1 2) = some (p.count 100) := by
  have hcolon : ':'.isDigit = false := by decide
  have hpoint : '.'.isDigit = false := by decide
  have hlength {n : Nat} (hn : n < 100) : (Decimal.digits 2 n).length = 2 :=
    Decimal.length_digits_of_lt (by decide) hn
  have hcount : p.count 100 =
      p.hours * 360000 + p.minutes * 6000 + p.seconds * 100 + p.fraction := by
    rw [Clock.Parts.count]
    omega
  have hminutes := hp.minutes_lt
  have hseconds := hp.seconds_lt
  rw [readTime?, Clock.Parts.chars]
  simp only [Option.bind_eq_bind, Option.bind_some, Decimal.first_digits hcolon,
    Decimal.first_digits hpoint, Decimal.value?_digits]
  rw [if_pos, hcount]
  · rfl
  · exact ⟨hlength (by omega), hminutes, hlength (by omega), hseconds, hlength hp.fraction_lt⟩

/-- What is shown of a time. -/
def shown (time : Int64) : Clock.Parts :=
  Clock.Parts.ofCount 100 (centiseconds time)

theorem isProper_shown (time : Int64) : (shown time).IsProper 100 :=
  Clock.Parts.isProper_ofCount (by decide) (centiseconds time)

theorem count_shown (time : Int64) : (shown time).count 100 = centiseconds time :=
  Clock.Parts.count_ofCount 100 (centiseconds time)

/-- A later time is not shown as an earlier one. -/
theorem not_shown_lt {start stop : Int64} (h : start ≤ stop) :
    ¬ (shown stop).hours :: (shown stop).below < (shown start).hours :: (shown start).below := by
  rw [← Clock.Parts.count_lt_iff (isProper_shown stop) (isProper_shown start),
    count_shown, count_shown, centiseconds, centiseconds]
  rw [Int64.le_iff_toInt_le] at h
  omega

/-- `field` shows `time` as `H:MM:SS.cc`, with nothing before zero and no thousandths. -/
structure ShowsTime (field : List Char) (p : Clock.Parts) (time : Int64) : Prop where
  isWritten : p.IsWritten 1 2 field
  count_eq : p.hours * 360000 + p.minutes * 6000 + p.seconds * 100 + p.fraction =
    max time.toInt 0 / 10
  readTime?_eq : readTime? field = some (p.count 100)

theorem showsTime_timeText (time : Int64) :
    ShowsTime (timeText time).toList (shown time) time where
  isWritten := isWritten_centisecondsText (centiseconds time)
  count_eq := by
    have hcount := count_shown time
    rw [Clock.Parts.count, centiseconds] at hcount
    omega
  readTime?_eq := by
    rw [timeText, chars_centisecondsText]
    exact readTime?_chars (isProper_shown time)

/-!
# The fields of an event line
-/

/-- What stands before the text. -/
def frontFields (start stop : Int64) : List (List Char) :=
  ["Dialogue: 0".toList, (timeText start).toList, (timeText stop).toList, styleName.toList, [],
    ['0'], ['0'], ['0'], []]

theorem length_frontFields (start stop : Int64) : (frontFields start stop).length = 9 :=
  rfl

theorem comma_not_mem_frontFields (start stop : Int64) :
    ∀ field ∈ frontFields start stop, ',' ∉ field := by
  have htime (time : Int64) : ',' ∉ (timeText time).toList := by
    rw [timeText, chars_centisecondsText]
    exact Clock.Parts.not_mem_chars (by decide) (by decide) (by decide) 1 2 _
  simp only [frontFields, List.forall_mem_cons]
  exact ⟨by decide, htime start, htime stop, by decide, by decide, by decide, by decide, by decide,
    by decide, List.forall_mem_nil _⟩

theorem toList_dialogue (start stop : Int64) (text : String) :
    (dialogue start stop text).toList =
      [','].intercalate (frontFields start stop ++ [text.toList]) := by
  simp [dialogue, frontFields, String.toList_append, List.intercalate_cons_cons]

theorem fieldsOf_dialogue (start stop : Int64) (text : String) :
    fieldsOf (dialogue start stop text).toList = frontFields start stop ++ [text.toList] := by
  rw [toList_dialogue]
  exact Cut.upTo_intercalate (comma_not_mem_frontFields start stop) text.toList

/-- An event line is cut into as many fields as its format line names: no comma stands in any of them
but the last, which is the text. Its times are those of the event in hundredths of a second. -/
theorem fields_of_dialogue (start stop : Int64) (text : String) :
    let line := (dialogue start stop text).toList
    let fields := fieldsOf line
    (fields = Cut.upTo ',' 9 line ∧ [','].intercalate fields = line ∧
      ∀ field ∈ fields.dropLast, ',' ∉ field) ∧
      fields.length = 10 ∧
      (∀ width height, (formatOf? (header width height)).map List.length = some fields.length) ∧
      fields.getLast? = some text.toList ∧
      ∃ (first second : List Char) (p q : Clock.Parts),
        fields[1]? = some first ∧ fields[2]? = some second ∧
        ShowsTime first p start ∧ ShowsTime second q stop ∧
        (start ≤ stop → ¬ [q.hours, q.minutes, q.seconds, q.fraction] <
          [p.hours, p.minutes, p.seconds, p.fraction]) := by
  intro line fields
  have hfields : fields = frontFields start stop ++ [text.toList] :=
    fieldsOf_dialogue start stop text
  have hlength : fields.length = 10 := by
    rw [hfields, List.length_append, length_frontFields, List.length_singleton]
  refine ⟨⟨rfl, ?_, ?_⟩, hlength, ?_, ?_, ?_⟩
  · rw [hfields]
    exact (toList_dialogue start stop text).symm
  · rw [hfields, List.dropLast_concat]
    exact comma_not_mem_frontFields start stop
  · intro width height
    rw [formatOf?_header, Option.map_some, List.length_map, hlength]
    rfl
  · rw [hfields, List.getLast?_concat]
  · rw [hfields]
    exact ⟨_, _, _, _, rfl, rfl, showsTime_timeText start, showsTime_timeText stop,
      not_shown_lt⟩

end Script
end SubtitleExchange
