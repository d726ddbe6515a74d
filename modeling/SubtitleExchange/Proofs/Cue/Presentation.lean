import SubtitleExchange.Proofs.Cue.Shown

/-!
# What markup tells about a cue

The tags before a text have a fixed length, and a text without a backslash ends where the next
separator begins. So a markup is read in one way only, and two cues have the same markup just when
they show the same lines at the same place.
-/

namespace SubtitleExchange

theorem Cut.append_inj_of_not_mem {α : Type} {c : α} {front other back rest : List α}
    (hfront : c ∉ front) (hother : c ∉ other) (hback : ∀ d ∈ back.head?, d = c)
    (hrest : ∀ d ∈ rest.head?, d = c) (h : front ++ back = other ++ rest) :
    front = other ∧ back = rest := by
  induction front generalizing other with
  | nil =>
      cases other with
      | nil =>
          exact ⟨rfl, h⟩
      | cons d more =>
          have hd : d = c := hback d (by rw [show back = d :: (more ++ rest) from h]; rfl)
          exact absurd (hd ▸ List.mem_cons_self) hother
  | cons d more ih =>
      cases other with
      | nil =>
          have hd : d = c := hrest d (by rw [← show d :: (more ++ back) = rest from h]; rfl)
          exact absurd (hd ▸ List.mem_cons_self) hfront
      | cons e others =>
          injection h with hhead htail
          have hmore := ih (fun hmem => hfront (List.mem_cons_of_mem d hmem))
            (fun hmem => hother (List.mem_cons_of_mem e hmem)) htail
          rw [hhead, hmore.1]
          exact ⟨rfl, hmore.2⟩

theorem Decimal.toString_injective {m n : Nat} (h : toString m = toString n) : m = n := by
  have hdigits : Nat.toDigits 10 m = Nat.toDigits 10 n := by
    rw [← Nat.toList_repr, ← Nat.toList_repr, ← Nat.toString_eq_repr, ← Nat.toString_eq_repr, h]
  calc m
      = Nat.ofDigitChars 10 (Nat.toDigits 10 m) 0 := Nat.ofDigitChars_ten_toDigits.symm
    _ = Nat.ofDigitChars 10 (Nat.toDigits 10 n) 0 := by rw [hdigits]
    _ = n := Nat.ofDigitChars_ten_toDigits

namespace Color

theorem mem_all (color : Color) : color ∈ all := by
  cases color <;> decide

end Color

namespace Markup

/-!
# Tags

All colours are written with the same number of characters, so tags can be told apart by position.
-/

theorem length_colorValue (color : Color) : (colorValue color).toList.length = 9 := by
  cases color <;> decide

theorem colorValue_injective {a b : Color} (h : colorValue a = colorValue b) : a = b := by
  have hall : ∀ a ∈ Color.all, ∀ b ∈ Color.all, colorValue a = colorValue b → a = b := by
    decide
  exact hall a (Color.mem_all a) b (Color.mem_all b) h

/-- The override block before a line. -/
def tags (line : Line) : List Char :=
  (override (fillTag line.foreground ++ outlineTag line.background)).toList

theorem tags_eq (line : Line) :
    tags line = "\x7b\\c".toList ++ ((colorValue line.foreground).toList ++
      ("\\3c".toList ++ ((colorValue line.background).toList ++ "\x7d".toList))) := by
  simp [tags, toList_override, fillTag, outlineTag]

theorem length_tags (line : Line) : (tags line).length = 25 := by
  simp [tags_eq, length_colorValue]

theorem colors_of_tags {a b : Line} (h : tags a = tags b) :
    a.foreground = b.foreground ∧ a.background = b.background := by
  rw [tags_eq, tags_eq] at h
  have hcolors := List.append_cancel_left h
  have hfill := List.append_inj hcolors (by rw [length_colorValue, length_colorValue])
  have hrest := List.append_cancel_left hfill.2
  have houtline := List.append_inj hrest (by rw [length_colorValue, length_colorValue])
  constructor
  · exact colorValue_injective (String.toList_inj.mp hfill.1)
  · exact colorValue_injective (String.toList_inj.mp houtline.1)

theorem length_opening (alignment : Alignment) : (opening alignment).toList.length = 12 := by
  obtain ⟨horizontal, vertical⟩ := alignment
  cases horizontal <;> cases vertical <;> decide

theorem opening_injective {a b : Alignment} (h : opening a = opening b) : a = b := by
  have hlist := congrArg String.toList h
  simp only [opening, toList_override, String.toList_append, List.cons.injEq, true_and,
    List.append_assoc] at hlist
  have hgrid := List.append_cancel_right (List.append_cancel_left hlist)
  exact Alignment.grid_injective (Decimal.toString_injective (String.toList_inj.mp hgrid))

/-!
# Lines

Behind a text there is nothing, or a separator and the next line.
-/

theorem toList_line (line : Line) : (Markup.line line).toList = tags line ++ line.text.toList := by
  rw [Markup.line, String.toList_append]
  rfl

/-- What stands behind a line. -/
def behind : List Line → List Char
  | [] => []
  | line :: rest => separator.toList ++ body (line :: rest)

theorem body_cons (line : Line) (rest : List Line) :
    body (line :: rest) = tags line ++ (line.text.toList ++ behind rest) := by
  cases rest with
  | nil =>
      rw [body, List.map_singleton, List.intercalate_singleton, toList_line, behind,
        List.append_nil]
  | cons next others =>
      rw [behind, body, body, List.map_cons, List.map_cons, List.intercalate_cons_cons,
        toList_line, List.append_assoc, List.append_assoc]

theorem body_cons_ne_nil (line : Line) (rest : List Line) : body (line :: rest) ≠ [] := by
  intro hnil
  have hlength := congrArg List.length hnil
  rw [body_cons, List.length_append, length_tags, List.length_nil] at hlength
  omega

theorem eq_backslash_of_head?_behind (lines : List Line) :
    ∀ c ∈ (behind lines).head?, c = '\\' := by
  intro c hc
  cases lines with
  | nil =>
      cases hc
  | cons line rest =>
      rw [behind, toList_separator] at hc
      cases hc
      rfl

theorem body_of_behind {a b : List Line} (h : behind a = behind b) : body a = body b := by
  cases a with
  | nil =>
      cases b with
      | nil =>
          rfl
      | cons line rest =>
          rw [behind, behind, toList_separator] at h
          cases h
  | cons line rest =>
      cases b with
      | nil =>
          rw [behind, behind, toList_separator] at h
          cases h
      | cons other others =>
          exact List.append_cancel_left h

/-- The lines are read off one after the other: the tags by their length, and the text up to the next
backslash. -/
theorem body_injective {a b : List Line} (ha : ∀ line ∈ a, '\\' ∉ line.text.toList)
    (hb : ∀ line ∈ b, '\\' ∉ line.text.toList) (h : body a = body b) : a = b := by
  induction a generalizing b with
  | nil =>
      cases b with
      | nil =>
          rfl
      | cons other others =>
          exact absurd h.symm (body_cons_ne_nil other others)
  | cons line rest ih =>
      cases b with
      | nil =>
          exact absurd h (body_cons_ne_nil line rest)
      | cons other others =>
          rw [body_cons, body_cons] at h
          have htags := List.append_inj h (by rw [length_tags, length_tags])
          have htext := Cut.append_inj_of_not_mem (ha line List.mem_cons_self)
            (hb other List.mem_cons_self) (eq_backslash_of_head?_behind rest)
            (eq_backslash_of_head?_behind others) htags.2
          have hcolors := colors_of_tags htags.1
          have hline : line = other := by
            cases line
            cases other
            rw [Line.mk.injEq]
            exact ⟨String.toList_inj.mp htext.1, hcolors⟩
          have hrest : rest = others :=
            ih (fun next hnext => ha next (List.mem_cons_of_mem line hnext))
              (fun next hnext => hb next (List.mem_cons_of_mem other hnext))
              (body_of_behind htext.2)
          rw [hline, hrest]

theorem toList_markup (cue : Cue) :
    cue.markup.toList = (opening cue.alignment).toList ++ body cue.visibleLines := by
  rw [Cue.markup, String.toList_append, String.toList_intercalate, List.map_map]
  rfl

/-- As long as no text holds a backslash, the markup of a cue is its place and the lines that it
shows, in another form. -/
theorem markup_eq_iff {a b : Cue} (ha : ∀ line ∈ a.lines, '\\' ∉ line.text.toList)
    (hb : ∀ line ∈ b.lines, '\\' ∉ line.text.toList) :
    a.markup = b.markup ↔ a.alignment = b.alignment ∧ a.visibleLines = b.visibleLines := by
  constructor
  · intro h
    have hlist := congrArg String.toList h
    rw [toList_markup, toList_markup] at hlist
    have hparts := List.append_inj hlist (by rw [length_opening, length_opening])
    constructor
    · exact opening_injective (String.toList_inj.mp hparts.1)
    · apply body_injective _ _ hparts.2
      · intro line hline
        exact ha line (List.mem_of_mem_filter hline)
      · intro line hline
        exact hb line (List.mem_of_mem_filter hline)
  · rintro ⟨halignment, hlines⟩
    rw [Cue.markup, Cue.markup, halignment, hlines]

/-- Two texts that look like tags, with an empty line between them. -/
def bracedCue : Cue where
  start := 0
  stop := 1000
  lines := [⟨"\x7bc&HFFFFFF&\x7d", .red, .black⟩, ⟨"", .green, .white⟩, ⟨"\x7d", .white, .blue⟩]
  alignment := Alignment.centered

/-- The same texts at another time, with empty lines around them. -/
def paddedCue : Cue where
  start := 2000
  stop := -1
  lines := [⟨"", .cyan, .cyan⟩, ⟨"\x7bc&HFFFFFF&\x7d", .red, .black⟩, ⟨"\x7d", .white, .blue⟩,
    ⟨"", .white, .black⟩]
  alignment := Alignment.centered

theorem markup_paddedCue :
    (∀ line ∈ bracedCue.lines, '\\' ∉ line.text.toList) ∧
      (∀ line ∈ paddedCue.lines, '\\' ∉ line.text.toList) ∧
      bracedCue.markup = paddedCue.markup ∧
      ({ paddedCue with lines := paddedCue.lines.reverse } : Cue).markup ≠ bracedCue.markup := by
  have hbraced : ∀ line ∈ bracedCue.lines, '\\' ∉ line.text.toList := by decide
  have hpadded : ∀ line ∈ paddedCue.lines, '\\' ∉ line.text.toList := by decide
  refine ⟨hbraced, hpadded, (markup_eq_iff hbraced hpadded).mpr (by decide), ?_⟩
  intro hsame
  have hreversed : ∀ line ∈ paddedCue.lines.reverse, '\\' ∉ line.text.toList := by decide
  exact absurd ((markup_eq_iff hreversed hbraced).mp hsame).2 (by decide)

end Markup
end SubtitleExchange
