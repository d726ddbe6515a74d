import SubtitleExchange.Proofs.Command.Convert
import SubtitleExchange.Proofs.Command.Dump

/-!
# What a dump tells about a script

A dump is read back record by record. The times, the place and the lines of a record are those of
the dialogue line that a conversion writes for the same block.
-/

namespace SubtitleExchange

/-!
# Times

No bracket stands in a time.
-/

theorem Clock.closing_not_mem_text (millis : Int64) : ')' ∉ (text millis).toList := by
  have hdigits (width n : Nat) : ')' ∉ Decimal.digits width n :=
    Decimal.not_mem_digits (by decide) width n
  have hmagnitude : ')' ∉ (magnitudeText millis.toInt.natAbs).toList := by
    rw [toList_magnitudeText]
    simp [hdigits]
  rw [text, String.toList_append, List.mem_append]
  rintro (hsign | hmem)
  · revert hsign
    split <;> decide
  · exact hmagnitude hmem

namespace Command
namespace Listing

open Dump

/-!
# Fields
-/

theorem field?_field {name : String} (hname : IsName name) (value : String) :
    field? (field name value).toList = some (name.toList, value.toList) := by
  have hindent : (field name value).toList.dropPrefix? "  ".toList =
      some (name.toList ++ ' ' :: '=' :: ' ' :: value.toList) := by
    rw [toList_field]
    exact List.dropPrefix?_append_of_beq _ (beq_self_eq_true "  ".toList)
  have hsign : ('=' :: ' ' :: value.toList).dropPrefix? "= ".toList = some value.toList :=
    List.dropPrefix?_append_of_beq _ (beq_self_eq_true "= ".toList)
  rw [field?, hindent]
  simp only [Option.bind_eq_bind, Option.bind_some, Cut.first_append _ hname.blank_not_mem, hsign]
  rfl

theorem headingTime?_heading (record : Record) :
    headingTime? record.heading.toList = some record.packet.start.toInt := by
  have hheading : record.heading.toList =
      "tti_block(".toList ++ ((Clock.text record.packet.start).toList ++ ')' :: []) := by
    simp [Record.heading, String.toList_append]
  rw [headingTime?, hheading, List.dropPrefix?_append_of_beq _ (beq_self_eq_true _)]
  simp only [Option.bind_eq_bind, Option.bind_some,
    Cut.first_append _ (Clock.closing_not_mem_text record.packet.start), String.ofList_toList,
    Clock.read?_text]

theorem duration?_text (millis : Int64) :
    duration? (Clock.text millis).toList = some millis.toInt := by
  rw [duration?, String.ofList_toList, Clock.read?_text]

theorem grid?_alignmentText (alignment : Alignment) :
    grid? (alignmentText alignment).toList = some alignment.grid := by
  obtain ⟨horizontal, vertical⟩ := alignment
  cases horizontal <;> cases vertical <;> decide

theorem not_mem_colorName (color : Color) :
    ' ' ∉ color.name.toList ∧ ')' ∉ color.name.toList := by
  cases color <;> decide

theorem line?_lineText (line : Line) : line? (lineText line).toList = some line := by
  have hline : (lineText line).toList = (Quoted.quote line.text).toList ++
      (" (".toList ++ (line.foreground.name.toList ++ ' ' :: ("on ".toList ++
        (line.background.name.toList ++ ')' :: [])))) := by
    simp [lineText, String.toList_append]
  have hfront := (not_mem_colorName line.foreground).1
  have hback := (not_mem_colorName line.background).2
  rw [line?, hline, Quoted.read?_quote]
  simp only [Option.bind_eq_bind, Option.bind_some,
    List.dropPrefix?_append_of_beq _ (beq_self_eq_true _), Cut.first_append _ hfront,
    Cut.first_append _ hback, Color.named?_name, String.ofList_toList]
  rfl

/-!
# Records
-/

/-- The name and the value of a field as they are read. -/
def inChars (entry : String × String) : List Char × List Char :=
  (entry.1.toList, entry.2.toList)

theorem filterMap_field?_shownFields (hex : Bool) (record : Record) :
    (((record.shownFields hex).map fun entry => field entry.1 entry.2).map
      String.toList).filterMap field? = (record.shownFields hex).map inChars := by
  rw [List.map_map, List.filterMap_map, ← List.filterMap_eq_map]
  apply List.filterMap_congr
  intro entry hentry
  exact field?_field (isEntry_of_mem_shownFields hentry).name entry.2

theorem lookup_inChars (name : String) (entries : List (String × String)) :
    (entries.map inChars).lookup name.toList = (entries.lookup name).map String.toList := by
  induction entries with
  | nil =>
      rfl
  | cons entry rest ih =>
      obtain ⟨other, value⟩ := entry
      rw [List.map_cons, inChars, List.lookup_cons, List.lookup_cons]
      by_cases hname : name = other
      · simp [hname]
      · have hchars : name.toList ≠ other.toList := fun heq => hname (String.toList_inj.mp heq)
        rw [beq_eq_false_iff_ne.mpr hname, beq_eq_false_iff_ne.mpr hchars]
        exact ih

theorem lookup_duration (hex : Bool) (record : Record) :
    ((record.shownFields hex).map inChars).lookup "duration".toList =
      some (Clock.text record.packet.duration).toList := by
  rw [lookup_inChars]
  simp [Record.shownFields, Record.fields, Record.fixedFields, List.lookup_cons]

theorem lookup_alignment (hex : Bool) (record : Record) :
    ((record.shownFields hex).map inChars).lookup "alignment".toList =
      some (alignmentText record.block.alignment).toList := by
  rw [lookup_inChars]
  simp [Record.shownFields, Record.fields, Record.fixedFields, List.lookup_cons]

theorem isTextLine_inChars (name value : String) :
    isTextLine (inChars (name, value)) = "line[".toList.isPrefixOf name.toList :=
  rfl

theorem isTextLine_of_mem_textFields {lines : List Line} {entry : String × String}
    (h : entry ∈ textFields lines) : isTextLine (inChars entry) = true := by
  obtain ⟨numbered, _, rfl⟩ := List.mem_map.mp h
  rw [textField, isTextLine_inChars, String.append_assoc, String.toList_append,
    List.isPrefixOf_iff_prefix]
  exact List.prefix_append _ _

theorem isTextLine_of_mem_fixedFields {record : Record} {entry : String × String}
    (h : entry ∈ record.fixedFields) : isTextLine (inChars entry) = false := by
  have hnames : ∀ name ∈ Record.fixedNames, "line[".toList.isPrefixOf name.toList = false := by
    decide
  exact hnames entry.1 (Record.name_mem_fixedNames h)

theorem filter_isTextLine_shownFields (hex : Bool) (record : Record) :
    ((record.shownFields hex).map inChars).filter isTextLine =
      (textFields record.block.lines).map inChars := by
  have hfixed : (record.fixedFields.map inChars).filter isTextLine = [] := by
    rw [List.filter_map, List.map_eq_nil_iff, List.filter_eq_nil_iff]
    intro entry hentry
    simp [isTextLine_of_mem_fixedFields hentry]
  have htext : ((textFields record.block.lines).map inChars).filter isTextLine =
      (textFields record.block.lines).map inChars := by
    rw [List.filter_map]
    exact congrArg _ (List.filter_eq_self.mpr fun entry hentry =>
      isTextLine_of_mem_textFields hentry)
  have hbytes : ((if hex then [record.bytesField] else []).map inChars).filter isTextLine = [] := by
    cases hex with
    | false =>
        rfl
    | true =>
        have hname : "line[".toList.isPrefixOf "hex".toList = false := by decide
        rw [if_pos rfl, List.map_singleton, List.filter_singleton, Record.bytesField,
          isTextLine_inChars, hname]
        rfl
  rw [Record.shownFields, Record.fields, List.map_append, List.map_append, List.filter_append,
    List.filter_append, hfixed, htext, hbytes, List.nil_append, List.append_nil]

theorem mapM_line?_textFields (lines : List Line) :
    ((textFields lines).map inChars).mapM (fun field => line? field.2) = some lines := by
  have hread : ((fun field => line? field.2) ∘ inChars) ∘ textField = fun entry => pure entry.1 := by
    funext entry
    rw [Function.comp_apply, Function.comp_apply, inChars, textField, line?_lineText]
    rfl
  rw [textFields, List.mapM_map, List.mapM_map, hread, List.mapM_pure, List.zipIdx_map_fst]
  rfl

theorem read?_shown (hex : Bool) (record : Record) :
    read? ((record.shown hex).map String.toList) = some (ofRecord record) := by
  rw [Record.shown, List.map_cons, read?]
  simp only [filterMap_field?_shownFields, headingTime?_heading, lookup_duration, lookup_alignment,
    filter_isTextLine_shownFields, mapM_line?_textFields, duration?_text, grid?_alignmentText,
    Option.bind_eq_bind, Option.bind_some]
  rfl

theorem readAll?_print (hex : Bool) (records : List Record) :
    readAll? (print hex records) = some (records.map ofRecord) := by
  have hread : read? ∘ (fun record : Record => (record.shown hex).map String.toList) =
      fun record => pure (ofRecord record) :=
    funext fun record => read?_shown hex record
  rw [readAll?, paragraphs_print, List.mapM_map, hread, List.mapM_pure]
  rfl

/-!
# Dialogue lines

The listing of a block has the lines and the place of its cue, and stands for the same times.
-/

theorem hasText_ofBlock (data : Octets Layout.blockLength) (rate : FrameRate) :
    (ofRecord (.ofBlock data rate)).hasText =
      Field.hasText (Block.textOf data).bytes :=
  Field.hasVisible_lines (Block.textOf data).bytes

theorem start_ofBlock (data : Octets Layout.blockLength) (rate : FrameRate) :
    Int64.ofInt (ofRecord (.ofBlock data rate)).start =
      (Conversion.cueOf data rate).start := by
  rw [ofRecord, Int64.ofInt_toInt]
  exact Packet.start_ofBlock data rate

theorem stop_ofBlock (data : Octets Layout.blockLength) (rate : FrameRate) :
    let listing := ofRecord (.ofBlock data rate)
    Int64.ofInt (listing.start + listing.duration) = (Conversion.cueOf data rate).stop := by
  have hstop := Packet.toInt_start_add_duration data rate
  exact congrArg Int64.ofInt hstop

theorem dialogues_ofBlock (data : Octets Layout.blockLength) (rate : FrameRate) :
    (ofRecord (.ofBlock data rate)).dialogues =
      Conversion.dialoguesOfBlock rate data := by
  rw [dialogues, hasText_ofBlock, Conversion.dialoguesOfBlock, dialogue, start_ofBlock,
    stop_ofBlock]
  rfl

/-- No time of a record is cut off at the ends of the 64-bit range. -/
theorem toInt_times_ofBlock (data : Octets Layout.blockLength) (rate : FrameRate) :
    let listing := ofRecord (.ofBlock data rate)
    (Int64.ofInt listing.start).toInt = listing.start ∧
      (Int64.ofInt (listing.start + listing.duration)).toInt =
        listing.start + listing.duration := by
  have hstop : (ofRecord (.ofBlock data rate)).start +
      (ofRecord (.ofBlock data rate)).duration =
        (Block.timecodeAt data Layout.timeOutOffset).offset rate :=
    Packet.toInt_start_add_duration data rate
  refine ⟨congrArg Int64.toInt (Int64.ofInt_toInt _), ?_⟩
  rw [stop_ofBlock, hstop]
  exact Timecode.toInt_millisAt _ rate

theorem map_dialogue_filter (listings : List Listing) :
    (listings.filter hasText).map dialogue = listings.flatMap dialogues := by
  induction listings with
  | nil =>
      rfl
  | cons listing rest ih =>
      rw [List.flatMap_cons, dialogues, ← ih]
      cases htext : listing.hasText with
      | true =>
          rw [List.filter_cons_of_pos htext]
          rfl
      | false =>
          rw [List.filter_cons_of_neg (by simp [htext])]
          rfl

/-- The listings in a dump of a file. -/
def ofFile (file : List UInt8) (rate : FrameRate) : List Listing :=
  List.ofFn fun k => ofRecord (.ofBlock (Conversion.blockAt file k) rate)

theorem map_ofRecord_recordsOf (file : List UInt8) (rate : FrameRate) :
    (recordsOf file rate).map ofRecord = ofFile file rate := by
  rw [recordsOf, List.map_ofFn]
  rfl

theorem flatMap_dialogues_ofFile (file : List UInt8) (rate : FrameRate) :
    (ofFile file rate).flatMap dialogues =
      (List.ofFn (Conversion.blockAt file)).flatMap (Conversion.dialoguesOfBlock rate) := by
  have hblocks : (dialogues ∘ fun k => ofRecord (.ofBlock (Conversion.blockAt file k) rate)) =
      Conversion.dialoguesOfBlock rate ∘ Conversion.blockAt file :=
    funext fun k => dialogues_ofBlock (Conversion.blockAt file k) rate
  rw [ofFile, List.flatMap_def, List.flatMap_def, List.map_ofFn, List.map_ofFn, hblocks]

/-- Read back, the dump of a file tells the script of the same file: the records with text have the
dialogue lines, in their order, with their place, lines and times. -/
theorem script_of_listings {host other : Host} {dump : DumpOptions} {convert : ConvertOptions}
    {file : List UInt8} (hrate : dump.rate = convert.rate)
    (hdump : host.Supplies dump.input file)
    (hconvert : other.Serves convert.input convert.output file) :
    ∃ listings,
      let dumped := Dump.run host dump
      let converted := Convert.run other convert
      let script := Convert.script (Convert.pictureOf convert)
        ((listings.filter hasText).map dialogue)
      dumped.exit = .status 0 ∧ readAll? dumped.stdout = some listings ∧
      converted.exit = .status 0 ∧
      (if convert.output = "-" then converted.stdout = script
        else converted.written = some ⟨convert.output, script⟩) ∧
      listings.length = Conversion.blockCount file ∧
      (∀ k : Fin (Conversion.blockCount file), ∃ listing, listings[k.val]? = some listing ∧
        ∀ session : Session, Conversion.dialoguesOf
          (session.decodePacket (.ofBlock (Conversion.blockAt file k) convert.rate)).value =
            if listing.hasText then [listing.dialogue] else []) ∧
      ∀ listing ∈ listings,
        (Int64.ofInt listing.start).toInt = listing.start ∧
          (Int64.ofInt (listing.start + listing.duration)).toInt =
            listing.start + listing.duration := by
  have hdialogues : (Conversion.ofFile file convert.rate (Convert.settings convert)).dialogues =
      ((ofFile file convert.rate).filter hasText).map dialogue := by
    rw [Conversion.dialogues_ofFile, ← flatMap_dialogues_ofFile, ← map_dialogue_filter]
  refine ⟨ofFile file convert.rate, ?_⟩
  dsimp only
  rw [Dump.run_of_supplies _ hdump, hrate, Convert.run, Convert.toOutput_of_serves hconvert, hdialogues]
  refine ⟨rfl, ?_, ?_, ?_, List.length_ofFn, ?_, ?_⟩
  · rw [readAll?_print, map_ofRecord_recordsOf]
  · split <;> rfl
  · split <;> rfl
  · intro k
    refine ⟨_, List.getElem?_ofFn.trans (dif_pos k.isLt), ?_⟩
    intro session
    rw [Conversion.dialoguesOf_decodePacket]
    exact (dialogues_ofBlock (Conversion.blockAt file k) convert.rate).symm
  · intro listing hlisting
    obtain ⟨k, rfl⟩ := List.mem_ofFn.mp hlisting
    exact toInt_times_ofBlock (Conversion.blockAt file k) convert.rate

/-- A block without text, and one with two lines at the top right. -/
def twoBlocks : List UInt8 :=
  List.replicate Layout.textOffset 0 ++ List.replicate Layout.textLength Code.terminatorByte ++
    (List.replicate Layout.timeInOffset 0 ++ [10, 0, 1, 0, 10, 0, 3, 12, 20, 3, 0] ++
      [0x58, Code.lineBreakByte, 0x02, 0x59] ++ List.replicate 108 Code.terminatorByte)

def twoBlockFile : List UInt8 :=
  List.replicate Layout.headerLength 0 ++ twoBlocks

/-- The same file by its path and on standard input. -/
def twoBlockTree : Tree where
  items := [([], .directory true), (["in.stl"], .file twoBlockFile)]
  working := []
  stdin := twoBlockFile
  logVariable := none

def twoBlockDump : DumpOptions where
  rate := FrameRate.standard
  hex := true
  logFilter := none
  input := "in.stl"

def twoBlockConvert : ConvertOptions where
  rate := FrameRate.standard
  width := none
  height := none
  logFilter := none
  input := "-"
  output := "-"

def twoListings : List Listing :=
  [⟨-36000000, 0, 8, [⟨"", .white, .black⟩]⟩,
    ⟨1000, 2480, 3, [⟨"X", .white, .black⟩, ⟨"Y", .green, .black⟩]⟩]

/-- The one dialogue line belongs to the second record. -/
def secondDialogue : String :=
  "Dialogue: 0,0:00:01.00,0:00:03.48,Default,,0,0,0,,\x7b\\an3\\bord3\x7d" ++
    "\x7b\\c&HFFFFFF&\\3c&H000000&\x7dX\\N\x7b\\c&H00FF00&\\3c&H000000&\x7dY"

theorem script_of_twoBlockFile :
    twoBlockDump.rate = twoBlockConvert.rate ∧
    twoBlockTree.host.Supplies twoBlockDump.input twoBlockFile ∧
    twoBlockTree.host.Serves twoBlockConvert.input twoBlockConvert.output twoBlockFile ∧
    readAll? (Dump.run twoBlockTree.host twoBlockDump).stdout = some twoListings ∧
    (Convert.run twoBlockTree.host twoBlockConvert).stdout =
      Convert.script (Convert.pictureOf twoBlockConvert) [secondDialogue] := by
  have hdump : twoBlockTree.host.Supplies twoBlockDump.input twoBlockFile := by
    apply Tree.supplies_host
    rw [Tree.Supplies, if_neg (by decide)]
    decide +kernel
  have hdash : twoBlockConvert.output = "-" := rfl
  have hconvert : twoBlockTree.host.Serves twoBlockConvert.input twoBlockConvert.output
      twoBlockFile := by
    apply Tree.serves_host _ (.inl hdash)
    rw [Tree.Supplies, if_pos (by decide)]
    rfl
  have hfile : ofFile twoBlockFile twoBlockDump.rate = twoListings := by
    decide +kernel
  have hread : readAll? (Dump.run twoBlockTree.host twoBlockDump).stdout = some twoListings := by
    rw [Dump.run_of_supplies _ hdump, readAll?_print, map_ofRecord_recordsOf, hfile]
  have hdialogues : (twoListings.filter hasText).map dialogue = [secondDialogue] := by
    decide +kernel
  have hrate : twoBlockDump.rate = twoBlockConvert.rate := rfl
  obtain ⟨listings, _, hlistings, _, hscript, _⟩ := script_of_listings hrate hdump hconvert
  rw [hread] at hlistings
  rw [if_pos hdash, ← Option.some.inj hlistings, hdialogues] at hscript
  exact ⟨hrate, hdump, hconvert, hread, hscript⟩

end Listing
end Command
end SubtitleExchange
