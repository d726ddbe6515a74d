import Mathlib.Data.List.Basic
import SubtitleExchange.Command.Listing
import SubtitleExchange.Proofs.Command.Tree
import SubtitleExchange.Proofs.Conversion
import SubtitleExchange.Proofs.Text.Quoted
import SubtitleExchange.Proofs.Time.Clock

/-!
# A dump shows every block and its bytes

A record takes up one physical line for its heading and for each of its fields, and an empty line.
The name of a field ends at the first blank, so no text of a block can pass for the bytes of a block.
-/

namespace SubtitleExchange

open Physical

namespace Command
namespace Dump

/-!
# The records of a file

There is one record for each whole block behind the header.
-/

/-- The record of a block with the timing of its timecodes. -/
def Record.ofBlock (data : Octets Layout.blockLength) (rate : FrameRate) : Record :=
  ⟨.ofBlock data rate, .ofOctets data⟩

theorem Record.ofPacket_ofBlock (data : Octets Layout.blockLength) (rate : FrameRate) :
    ofPacket (.ofBlock data rate) = ofBlock data rate := by
  have hblock := Block.ofBytes_octets (Packet.ofBlock data rate).data
  rw [ofPacket]
  split
  · rename_i block h
    rw [Except.ok.inj (h.symm.trans hblock)]
    rfl
  · rename_i error h
    cases h.symm.trans hblock

def recordsOf (file : List UInt8) (rate : FrameRate) : List Record :=
  List.ofFn fun k => .ofBlock (Conversion.blockAt file k) rate

theorem length_recordsOf (file : List UInt8) (rate : FrameRate) :
    (recordsOf file rate).length = Conversion.blockCount file :=
  List.length_ofFn

theorem bytes_recordsOf (file : List UInt8) (rate : FrameRate) :
    ((recordsOf file rate).flatMap fun record => record.packet.data.bytes) =
      (file.drop Layout.headerLength).take (Layout.blockLength * Conversion.blockCount file) := by
  have hblocks : ((recordsOf file rate).flatMap fun record => record.packet.data.bytes) =
      (List.ofFn (Conversion.blockAt file)).flatMap Octets.bytes := by
    rw [recordsOf, List.flatMap_def, List.flatMap_def, List.map_ofFn, List.map_ofFn]
    rfl
  rw [hblocks, ← Conversion.pieces_eq_ofFn_blockAt, Octets.flatMap_bytes_pieces (by decide),
    List.length_drop, Conversion.blockCount]

theorem records_readerOf (file : List UInt8) (rate : FrameRate) :
    records (Conversion.readerOf file rate).steps = recordsOf file rate := by
  rw [records, Conversion.packetsOf_readerOf, List.map_map, List.map_ofFn]
  exact congrArg List.ofFn (funext fun k => Record.ofPacket_ofBlock _ rate)

/-- The notices of a dump that comes to its end. -/
def noticesOf (file : List UInt8) (rate : FrameRate) : List Notice :=
  signatureNotices file ++ noticesOfLog [.opened rate] ++ [.line started] ++
    noticesOfLog ((Conversion.readerOf file rate).steps.flatMap Reader.Step.log) ++
      [.record (dumped (Conversion.blockCount file))]

theorem ofSource_ofBytes (options : DumpOptions) (file : List UInt8) :
    ofSource options (.ofBytes file) =
      ⟨.status 0, print options.hex (recordsOf file options.rate), noticesOf file options.rate,
        none⟩ := by
  obtain ⟨position, hinspect⟩ := inspect_ofBytes file
  have hopen : Reader.openAt options.rate (.memory file.toArray position) =
      .ok (Conversion.readerOf file options.rate, [.opened options.rate]) := rfl
  rw [ofSource, hinspect]
  simp only [hopen, Conversion.failureOf_readerOf, records_readerOf, length_recordsOf]
  rfl

theorem run_of_supplies {host : Host} (options : DumpOptions) {file : List UInt8}
    (h : host.Supplies options.input file) :
    run host options =
      ⟨.status 0, print options.hex (recordsOf file options.rate),
        host.filterNotice options.logFilter :: noticesOf file options.rate, none⟩ := by
  rw [run, ofInput, show host.openInput? options.input = _ from h]
  simp only [ofSource_ofBytes]
  rfl

/-!
# The fields of a record

Names of fields hold no blank. All names and values are plain, whatever text a block holds.
-/

/-- All characters of the name of a field stand behind the blank. -/
def IsName (name : String) : Prop :=
  ∀ c ∈ name.toList, 0x20 < c.toNat

instance (name : String) : Decidable (IsName name) :=
  List.decidableBAll (fun c : Char => 0x20 < c.toNat) name.toList

theorem IsName.isPlain {name : String} (h : IsName name) : IsPlain name :=
  fun c hc => Nat.le_of_lt (h c hc)

theorem IsName.blank_not_mem {name : String} (h : IsName name) : ' ' ∉ name.toList :=
  fun hmem => absurd (h ' ' hmem) (by decide)

/-- The field of a line of text with its number. -/
def textField (entry : Line × Nat) : String × String :=
  ("line[" ++ toString entry.2 ++ "]", lineText entry.1)

def textFields (lines : List Line) : List (String × String) :=
  lines.zipIdx.map textField

namespace Record

def heading (record : Record) : String :=
  "tti_block(" ++ Clock.text record.packet.start ++ ")"

/-- The names and values of the fields that every record has. -/
def fixedFields (record : Record) : List (String × String) :=
  let block := record.block
  [("subtitle_group_number", toString block.groupNumber.toNat),
    ("subtitle_number", toString block.subtitleNumber.toNat),
    ("extension_block_number", toString block.extensionNumber.toNat),
    ("cumulative_status", toString block.cumulativeStatus.toNat),
    ("time_code_in", block.timeIn.text),
    ("time_code_out", block.timeOut.text),
    ("duration", Clock.text record.packet.duration),
    ("vertical_position", toString block.verticalPosition.toNat),
    ("justification_code", toString block.justification.toNat),
    ("comment_flag", toString block.commentFlag.toNat),
    ("alignment", alignmentText block.alignment)]

def fixedNames : List String :=
  ["subtitle_group_number", "subtitle_number", "extension_block_number", "cumulative_status",
    "time_code_in", "time_code_out", "duration", "vertical_position", "justification_code",
    "comment_flag", "alignment"]

theorem name_mem_fixedNames {record : Record} {entry : String × String}
    (h : entry ∈ record.fixedFields) : entry.1 ∈ fixedNames := by
  have hnames : record.fixedFields.map Prod.fst = fixedNames := rfl
  rw [← hnames]
  exact List.mem_map_of_mem h

/-- All fields but the bytes of the block. -/
def fields (record : Record) : List (String × String) :=
  record.fixedFields ++ textFields record.block.lines

def bytesField (record : Record) : String × String :=
  ("hex", Hex.dump record.packet.data.bytes)

def shownFields (hex : Bool) (record : Record) : List (String × String) :=
  record.fields ++ if hex then [record.bytesField] else []

/-- The lines of a record before the empty line. -/
def shown (hex : Bool) (record : Record) : List String :=
  record.heading :: (record.shownFields hex).map fun entry => field entry.1 entry.2

theorem body_eq (record : Record) :
    record.body = record.heading :: record.fields.map fun entry => field entry.1 entry.2 := by
  rw [body, fields, List.map_append, textLines, textFields, List.mapIdx_eq_zipIdx_map,
    List.map_map]
  rfl

theorem shown_eq (hex : Bool) (record : Record) :
    record.shown hex = record.body ++ if hex then [record.bytesLine] else [] := by
  rw [shown, shownFields, body_eq, List.map_append]
  cases hex with
  | false =>
      rfl
  | true =>
      rfl

theorem lines_eq (hex : Bool) (record : Record) : record.lines hex = record.shown hex ++ [""] := by
  rw [lines, shown_eq]

end Record

/-- A field that takes up one line, on which its name ends at the first blank. -/
structure IsEntry (entry : String × String) : Prop where
  name : IsName entry.1
  value : IsPlain entry.2

theorem IsEntry.of {name value : String} (hname : IsName name) (hvalue : IsPlain value) :
    IsEntry (name, value) :=
  ⟨hname, hvalue⟩

theorem isPlain_alignmentText (alignment : Alignment) : IsPlain (alignmentText alignment) := by
  obtain ⟨horizontal, vertical⟩ := alignment
  cases horizontal <;> cases vertical <;> decide

theorem isPlain_colorName (color : Color) : IsPlain color.name := by
  cases color <;> decide

theorem isPlain_lineText (line : Line) : IsPlain (lineText line) := by
  have hopen : IsPlain " (" := by decide
  have hjoint : IsPlain " on " := by decide
  have hclose : IsPlain ")" := by decide
  exact (((((Quoted.isPlain_quote line.text).append hopen).append
    (isPlain_colorName line.foreground)).append hjoint).append
      (isPlain_colorName line.background)).append hclose

theorem isPlain_hexDump (bytes : List UInt8) : IsPlain (Hex.dump bytes) := by
  have hdigit : ∀ n < 16, 0x20 ≤ (Hex.digit n).toNat := by decide
  apply isPlain_intercalate (by decide)
  intro part hpart
  obtain ⟨b, _, rfl⟩ := List.mem_map.mp hpart
  have hb := b.toNat_lt
  intro c hc
  rw [Hex.pair, String.toList_ofList] at hc
  simp only [List.mem_cons, List.not_mem_nil, or_false] at hc
  rcases hc with rfl | rfl
  · exact hdigit _ (by omega)
  · exact hdigit _ (by omega)

theorem isName_textLine (index : Nat) : IsName ("line[" ++ toString index ++ "]") := by
  have hfront : IsName "line[" := by decide
  have hback : IsName "]" := by decide
  intro c hc
  rw [String.toList_append, String.toList_append, List.mem_append, List.mem_append] at hc
  rcases hc with (hc | hc) | hc
  · exact hfront c hc
  · rw [Nat.toString_eq_repr, Nat.toList_repr] at hc
    have hdigit := Nat.isDigit_of_mem_toDigits (by decide) (by decide) hc
    exact Nat.lt_of_lt_of_le (by decide) (Char.isDigit_iff_toNat.mp hdigit).1
  · exact hback c hc

theorem isEntry_of_mem_fixedFields (record : Record) :
    ∀ entry ∈ record.fixedFields, IsEntry entry := by
  simp only [Record.fixedFields, List.forall_mem_cons]
  exact ⟨.of (by decide) (isPlain_toString _), .of (by decide) (isPlain_toString _),
    .of (by decide) (isPlain_toString _), .of (by decide) (isPlain_toString _),
    .of (by decide) record.block.timeIn.isPlain_text,
    .of (by decide) record.block.timeOut.isPlain_text,
    .of (by decide) (Clock.isPlain_text record.packet.duration),
    .of (by decide) (isPlain_toString _), .of (by decide) (isPlain_toString _),
    .of (by decide) (isPlain_toString _),
    .of (by decide) (isPlain_alignmentText record.block.alignment), fun _ hnone => nomatch hnone⟩

theorem isEntry_of_mem_textFields {lines : List Line} {entry : String × String}
    (h : entry ∈ textFields lines) : IsEntry entry := by
  obtain ⟨⟨line, index⟩, _, rfl⟩ := List.mem_map.mp h
  exact .of (isName_textLine index) (isPlain_lineText line)

theorem isEntry_of_mem_fields {record : Record} {entry : String × String}
    (h : entry ∈ record.fields) : IsEntry entry := by
  rcases List.mem_append.mp h with hfixed | htext
  · exact isEntry_of_mem_fixedFields record entry hfixed
  · exact isEntry_of_mem_textFields htext

theorem isEntry_of_mem_shownFields {hex : Bool} {record : Record} {entry : String × String}
    (h : entry ∈ record.shownFields hex) : IsEntry entry := by
  rcases List.mem_append.mp h with hfield | hbytes
  · exact isEntry_of_mem_fields hfield
  · cases hex with
    | false =>
        cases hbytes
    | true =>
        rw [List.mem_singleton.mp hbytes]
        exact .of (by decide) (isPlain_hexDump record.packet.data.bytes)

/-- The bytes of a block have a name that no other field has. -/
theorem name_ne_of_mem_fields {record : Record} {entry : String × String}
    (h : entry ∈ record.fields) : entry.1 ≠ "hex" := by
  rcases List.mem_append.mp h with hfixed | htext
  · have hnames : ∀ name ∈ Record.fixedNames, name ≠ "hex" := by decide
    exact hnames entry.1 (Record.name_mem_fixedNames hfixed)
  · obtain ⟨numbered, _, rfl⟩ := List.mem_map.mp htext
    intro hname
    have hfirst := congrArg (fun name => name.toList.head?) hname
    rw [textField, String.append_assoc] at hfirst
    simp [String.toList_append] at hfirst

/-!
# The lines of a dump

A field is found again in its line, so what begins like a line with bytes is one.
-/

theorem toList_field (name value : String) :
    (field name value).toList = ' ' :: ' ' :: (name.toList ++ ' ' :: '=' :: ' ' :: value.toList) := by
  simp [field, String.toList_append]

theorem shownBytes?_field {name : String} (hname : IsName name) (value : String) :
    shownBytes? (field name value).toList = if name = "hex" then some value.toList else none := by
  split
  · rename_i hhex
    rw [hhex, toList_field]
    exact List.dropPrefix?_append_of_beq value.toList (beq_self_eq_true "  hex = ".toList)
  · rename_i hhex
    cases hshown : shownBytes? (field name value).toList with
    | none =>
        rfl
    | some shown =>
        obtain ⟨front, hline, hfront⟩ := List.dropPrefix?_eq_some_iff.mp hshown
        have hbytes : "  hex = ".toList ++ shown =
            ' ' :: ' ' :: ("hex".toList ++ ' ' :: '=' :: ' ' :: shown) := rfl
        rw [toList_field, eq_of_beq hfront, hbytes, List.cons.injEq, List.cons.injEq] at hline
        -- Behind the indent, both lines are cut at their first blank.
        have hcut := congrArg (Cut.first ' ') hline.2.2
        rw [Cut.first_append _ hname.blank_not_mem, Cut.first_append _ (by decide)] at hcut
        exact absurd (String.toList_inj.mp (congrArg Prod.fst (Option.some.inj hcut))) hhex

theorem shownBytes?_heading (record : Record) : shownBytes? record.heading.toList = none := by
  rw [Record.heading, String.append_assoc, String.toList_append]
  rfl

theorem shownBytes?_of_mem_body {record : Record} {line : String} (h : line ∈ record.body) :
    shownBytes? line.toList = none := by
  rw [Record.body_eq] at h
  rcases List.mem_cons.mp h with rfl | hfield
  · exact shownBytes?_heading record
  · obtain ⟨entry, hentry, rfl⟩ := List.mem_map.mp hfield
    have hname := (isEntry_of_mem_fields hentry).name
    rw [shownBytes?_field hname, if_neg (name_ne_of_mem_fields hentry)]

theorem shownBytes?_bytesLine (record : Record) :
    shownBytes? record.bytesLine.toList = some (Hex.dump record.packet.data.bytes).toList := by
  rw [Record.bytesLine, shownBytes?_field (by decide), if_pos rfl]

theorem filterMap_shownBytes?_lines (record : Record) :
    ((record.lines true).map String.toList).filterMap shownBytes? =
      [(Hex.dump record.packet.data.bytes).toList] := by
  have hbody : (record.body.map String.toList).filterMap shownBytes? = [] := by
    rw [List.filterMap_map]
    exact List.filterMap_eq_nil_iff.mpr fun line hline => shownBytes?_of_mem_body hline
  rw [Record.lines, if_pos rfl, List.map_append, List.map_append, List.filterMap_append,
    List.filterMap_append, hbody, List.map_singleton, List.map_singleton, List.filterMap_cons,
    shownBytes?_bytesLine]
  rfl

theorem filter_shownBytes?_lines (record : Record) :
    ((record.lines true).map String.toList).filter (fun line => (shownBytes? line).isNone) =
      (record.lines false).map String.toList := by
  have hbody : (record.body.map String.toList).filter (fun line => (shownBytes? line).isNone) =
      record.body.map String.toList := by
    apply List.filter_eq_self.mpr
    intro line hline
    obtain ⟨source, hsource, rfl⟩ := List.mem_map.mp hline
    rw [shownBytes?_of_mem_body hsource]
    rfl
  rw [Record.lines, if_pos rfl, List.map_append, List.map_append, List.filter_append,
    List.filter_append, hbody, List.map_singleton, List.map_singleton, List.filter_singleton,
    shownBytes?_bytesLine, Record.lines, List.map_append, List.map_append]
  rfl

/-!
# A whole dump

Read at its line feeds, a dump falls into the lines of its records and nothing else.
-/

theorem isPlain_field {entry : String × String} (h : IsEntry entry) :
    IsPlain (field entry.1 entry.2) := by
  have hindent : IsPlain "  " := by decide
  have hsign : IsPlain " = " := by decide
  exact ((hindent.append h.name.isPlain).append hsign).append h.value

theorem isPlain_of_mem_shown {hex : Bool} {record : Record} {line : String}
    (h : line ∈ record.shown hex) : IsPlain line := by
  rcases List.mem_cons.mp h with rfl | hfield
  · exact (IsPlain.append (by decide) (Clock.isPlain_text record.packet.start)).append (by decide)
  · obtain ⟨entry, hentry, rfl⟩ := List.mem_map.mp hfield
    exact isPlain_field (isEntry_of_mem_shownFields hentry)

theorem ne_empty_of_mem_shown {hex : Bool} {record : Record} {line : String}
    (h : line ∈ record.shown hex) : line ≠ "" := by
  intro hempty
  have hchars := congrArg String.toList hempty
  rcases List.mem_cons.mp h with rfl | hfield
  · rw [Record.heading, String.append_assoc, String.toList_append] at hchars
    cases hchars
  · obtain ⟨entry, _, rfl⟩ := List.mem_map.mp hfield
    rw [toList_field] at hchars
    cases hchars

theorem paragraphs_print (hex : Bool) (records : List Record) :
    paragraphs (print hex records) =
      records.map fun record => (record.shown hex).map String.toList := by
  have hlines : records.flatMap (Record.lines hex) =
      (records.map (Record.shown hex)).flatMap fun lines => lines ++ [""] := by
    rw [List.flatMap_map]
    simp only [← Record.lines_eq]
  rw [print, hlines, paragraphs_text, List.map_map]
  · rfl
  · intro lines hlines
    obtain ⟨record, _, rfl⟩ := List.mem_map.mp hlines
    exact List.cons_ne_nil _ _
  · intro lines hlines line hline
    obtain ⟨record, _, rfl⟩ := List.mem_map.mp hlines
    exact ⟨ne_empty_of_mem_shown hline, (isPlain_of_mem_shown hline).lineFeed_not_mem⟩

theorem parts_print (hex : Bool) (records : List Record) :
    parts (print hex records) =
      (records.flatMap fun record => (record.lines hex).map String.toList) ++ [[]] := by
  rw [print, parts_text, List.map_flatMap]
  intro line hline
  obtain ⟨record, _, hmem⟩ := List.mem_flatMap.mp hline
  rw [Record.lines_eq] at hmem
  rcases List.mem_append.mp hmem with hshown | hempty
  · exact (isPlain_of_mem_shown hshown).lineFeed_not_mem
  · rw [List.mem_singleton.mp hempty]
    exact List.not_mem_nil

theorem withoutBytes_print (records : List Record) :
    withoutBytes (print true records) = print false records := by
  have hparts : (parts (print true records)).filter (fun line => (shownBytes? line).isNone) =
      parts (print false records) := by
    rw [parts_print, parts_print, List.filter_append, List.filter_flatMap]
    simp only [filter_shownBytes?_lines]
    rfl
  rw [withoutBytes, hparts, parts, List.intercalate_splitOn, String.ofList_toList]

theorem filterMap_shownBytes?_print (records : List Record) :
    (parts (print true records)).filterMap shownBytes? =
      records.map fun record => (Hex.dump record.packet.data.bytes).toList := by
  rw [parts_print, List.filterMap_append, List.filterMap_flatMap]
  simp only [filterMap_shownBytes?_lines, ← List.map_eq_flatMap]
  exact List.append_nil _

theorem bytes?_print (records : List Record) :
    bytes? (print true records) =
      some (records.flatMap fun record => record.packet.data.bytes) := by
  have hread : (fun pairs => Hex.read? (String.ofList pairs)) ∘
      (fun record : Record => (Hex.dump record.packet.data.bytes).toList) =
        fun record => pure record.packet.data.bytes := by
    funext record
    rw [Function.comp_apply, String.ofList_toList, Hex.read?_dump]
    rfl
  rw [bytes?, filterMap_shownBytes?_print, List.mapM_map, hread, List.mapM_pure, List.flatMap_def]
  rfl

/-- A dump with bytes has a record for each whole block behind the header, in their order, and each
record keeps to its own lines, whatever text its block holds. Without the lines with bytes it is the
other dump, and these lines give back the blocks. -/
theorem blocks_of_dump {host : Host} {options : DumpOptions} {file : List UInt8}
    (h : host.Supplies options.input file) :
    let shown := run host { options with hex := true }
    let plain := run host { options with hex := false }
    let records := recordsOf file options.rate
    shown.exit = .status 0 ∧ plain.exit = .status 0 ∧
      records.length = Conversion.blockCount file ∧
      (∀ k, k < Conversion.blockCount file ↔
        Layout.headerLength + Layout.blockLength * (k + 1) ≤ file.length) ∧
      paragraphs shown.stdout = records.map (fun record =>
        (record.body ++ [record.bytesLine]).map String.toList) ∧
      parts shown.stdout = (records.flatMap fun record =>
        (record.body ++ [record.bytesLine, ""]).map String.toList) ++ [[]] ∧
      withoutBytes shown.stdout = plain.stdout ∧
      (parts shown.stdout).filterMap shownBytes? = records.map (fun record =>
        (Hex.dump record.packet.data.bytes).toList) ∧
      bytes? shown.stdout =
        some ((file.drop Layout.headerLength).take
          (Layout.blockLength * Conversion.blockCount file)) := by
  have hshown := run_of_supplies { options with hex := true } h
  have hplain := run_of_supplies { options with hex := false } h
  have hparagraphs := paragraphs_print true (recordsOf file options.rate)
  have hparts := parts_print true (recordsOf file options.rate)
  have hlines (record : Record) : record.lines true = record.body ++ [record.bytesLine, ""] := by
    rw [Record.lines, if_pos rfl, List.append_assoc]
    rfl
  simp only [Record.shown_eq, if_pos] at hparagraphs
  simp only [hlines] at hparts
  rw [hshown, hplain]
  refine ⟨rfl, rfl, length_recordsOf file options.rate, Conversion.lt_blockCount_iff file,
    hparagraphs, hparts, withoutBytes_print _, filterMap_shownBytes?_print _, ?_⟩
  exact (bytes?_print _).trans (congrArg some (bytes_recordsOf file options.rate))

/-- A block whose text tries to end its quotes and its line, and to go on with bytes. -/
def forgedBlock : List UInt8 :=
  List.replicate Layout.textOffset 0 ++ [0x22, 0x0A, 0x0D, 0x5C, Code.lineBreakByte] ++
    "  hex = 41".toUTF8.toList ++ List.replicate 97 Code.terminatorByte

/-- A file with that block and the start of another block. -/
def forgedFile : List UInt8 :=
  List.replicate Layout.headerLength 0 ++ forgedBlock ++ [1, 2, 3]

def forgedTree : Tree where
  items := []
  working := []
  stdin := forgedFile
  logVariable := none

def forgedOptions : DumpOptions where
  rate := FrameRate.standard
  hex := true
  logFilter := none
  input := "-"

/-- The lines of its record before the bytes. -/
def forgedBody : List String :=
  ["tti_block(-10:00:00.000)",
    "  subtitle_group_number = 0",
    "  subtitle_number = 0",
    "  extension_block_number = 0",
    "  cumulative_status = 0",
    "  time_code_in = 00:00:00:00",
    "  time_code_out = 00:00:00:00",
    "  duration = 00:00:00.000",
    "  vertical_position = 0",
    "  justification_code = 0",
    "  comment_flag = 0",
    "  alignment = Bottom Center (8)",
    "  line[0] = \"\\\"\\\\\" (White on Black)",
    "  line[1] = \"  hex = 41\" (White on Black)"]

theorem blocks_of_forgedFile :
    forgedTree.host.Supplies forgedOptions.input forgedFile ∧
    let shown := run forgedTree.host forgedOptions
    let plain := run forgedTree.host { forgedOptions with hex := false }
    paragraphs shown.stdout =
        [(forgedBody ++ [field "hex" (Hex.dump forgedBlock)]).map String.toList] ∧
      withoutBytes shown.stdout = plain.stdout ∧
      bytes? shown.stdout = some forgedBlock := by
  have hsupplies : forgedTree.host.Supplies forgedOptions.input forgedFile := by
    apply Tree.supplies_host
    rw [Tree.Supplies, if_pos (by decide)]
    rfl
  have hrecords : (recordsOf forgedFile forgedOptions.rate).map
      (fun record => (record.body, record.packet.data.bytes)) = [(forgedBody, forgedBlock)] := by
    decide +kernel
  have hblock : (forgedFile.drop Layout.headerLength).take
      (Layout.blockLength * Conversion.blockCount forgedFile) = forgedBlock := by
    decide +kernel
  obtain ⟨_, _, _, _, hparagraphs, _, hwithout, _, hbytes⟩ := blocks_of_dump hsupplies
  obtain ⟨record, hrecord, hfacts⟩ := List.map_eq_singleton_iff.mp hrecords
  obtain ⟨hbody, hdata⟩ := Prod.mk.inj hfacts
  rw [hrecord, List.map_singleton, hbody, Record.bytesLine, hdata] at hparagraphs
  rw [hblock] at hbytes
  exact ⟨hsupplies, hparagraphs, hwithout, hbytes⟩

end Dump
end Command
end SubtitleExchange
