import Mathlib.Data.List.DropRight
import SubtitleExchange.Block.Bytes
import SubtitleExchange.Cue.Shown

/-!
# When markup shows the text of a cue

Texts stand between tags in one sequence of characters, without any escape. A brace or a line
separator in a text is therefore taken for markup. This module says for which texts that makes no
difference, and shows that it makes one for all others.
-/

namespace SubtitleExchange
namespace Markup

/-!
# Taking overrides out

An override goes from an opening brace to the next closing brace. Text without an opening brace is
kept, and so is an opening brace that is never closed.
-/

theorem withoutOverrides_cons {c : Char} (hc : c ≠ '\x7b') (rest : List Char) :
    withoutOverrides (c :: rest) = c :: withoutOverrides rest := by
  rw [withoutOverrides, if_neg hc]

theorem withoutOverrides_override {tags : List Char} (h : '\x7d' ∉ tags) (rest : List Char) :
    withoutOverrides ('\x7b' :: (tags ++ '\x7d' :: rest)) = withoutOverrides rest := by
  rw [withoutOverrides, if_pos rfl]
  have hcut := Cut.first_append rest h
  split
  · rename_i before after hafter
    rw [hcut, Option.some.injEq, Prod.mk.injEq] at hafter
    rw [hafter.2]
  · rename_i hnone
    rw [hcut] at hnone
    cases hnone

theorem withoutOverrides_unclosed {rest : List Char} (h : '\x7d' ∉ rest) :
    withoutOverrides ('\x7b' :: rest) = '\x7b' :: withoutOverrides rest := by
  rw [withoutOverrides, if_pos rfl]
  have hcut := Cut.first_eq_none_iff.mpr h
  split
  · rename_i hafter
    rw [hcut] at hafter
    cases hafter
  · rfl

theorem withoutOverrides_append {text : List Char} (h : '\x7b' ∉ text) (rest : List Char) :
    withoutOverrides (text ++ rest) = text ++ withoutOverrides rest := by
  induction text with
  | nil =>
      rfl
  | cons c more ih =>
      have hc : c ≠ '\x7b' := fun heq => h (heq ▸ List.mem_cons_self)
      have hmore : '\x7b' ∉ more := fun hmem => h (List.mem_cons_of_mem c hmem)
      rw [List.cons_append, withoutOverrides_cons hc, ih hmore, List.cons_append]

theorem withoutOverrides_of_no_span {cs : List Char}
    (h : '\x7d' ∉ cs.dropWhile (· != '\x7b')) : withoutOverrides cs = cs := by
  induction cs with
  | nil =>
      simp [withoutOverrides]
  | cons c rest ih =>
      by_cases hc : c = '\x7b'
      · subst hc
        have hrest : '\x7d' ∉ rest := by simpa using h
        have hspan : '\x7d' ∉ rest.dropWhile (· != '\x7b') :=
          fun hmem => hrest ((List.dropWhile_sublist _).subset hmem)
        rw [withoutOverrides_unclosed hrest, ih hspan]
      · have hspan : '\x7d' ∉ rest.dropWhile (· != '\x7b') := by simpa [hc] using h
        rw [withoutOverrides_cons hc, ih hspan]

/-!
# Opening braces that are left

An opening brace is left only behind the last closing brace.
-/

theorem rtakeWhile_append_cons {c : Char} (front back : List Char) :
    (front ++ c :: back).rtakeWhile (· != c) = back.rtakeWhile (· != c) := by
  unfold List.rtakeWhile
  rw [List.reverse_append, List.reverse_cons, List.append_assoc, List.singleton_append,
    List.takeWhile_append]
  split
  · rename_i hlength
    rw [(List.takeWhile_prefix _).eq_of_length hlength]
    simp
  · rfl

theorem rtakeWhile_suffix_cons (p : Char → Bool) (c : Char) (rest : List Char) :
    rest.rtakeWhile p <:+ (c :: rest).rtakeWhile p := by
  unfold List.rtakeWhile
  rw [List.reverse_suffix, List.reverse_cons, List.takeWhile_append]
  split
  · rename_i hlength
    rw [(List.takeWhile_prefix _).eq_of_length hlength]
    exact List.prefix_append _ _
  · exact List.prefix_refl _

theorem count_withoutOverrides_le (cs : List Char) :
    (withoutOverrides cs).count '\x7b' ≤ (cs.rtakeWhile (· != '\x7d')).count '\x7b' := by
  fun_induction withoutOverrides cs with
  | case1 =>
      exact Nat.le_refl 0
  | case2 rest before after hcut ih =>
      rw [Cut.eq_append_of_first hcut, ← List.cons_append, rtakeWhile_append_cons]
      exact ih
  | case3 rest hcut ih =>
      have hrest := Cut.first_eq_none_iff.mp hcut
      have hkept : ∀ c ∈ '\x7b' :: rest, (c != '\x7d') = true := by
        intro c hc
        rcases List.mem_cons.mp hc with rfl | hmem
        · decide
        · exact bne_iff_ne.mpr fun heq => hrest (heq ▸ hmem)
      have hkeptRest := fun c hc => hkept c (List.mem_cons_of_mem _ hc)
      rw [List.rtakeWhile_eq_self_iff.mpr hkeptRest] at ih
      rw [List.rtakeWhile_eq_self_iff.mpr hkept, List.count_cons_self, List.count_cons_self]
      exact Nat.succ_le_succ ih
  | case4 c rest hc ih =>
      have hsuffix := rtakeWhile_suffix_cons (· != '\x7d') c rest
      rw [List.count_cons_of_ne hc]
      exact Nat.le_trans ih (hsuffix.sublist.count_le _)

/-- If all opening braces stand behind the last closing brace, then none of them is ever closed. -/
theorem no_span_of_count_le {cs : List Char}
    (h : cs.count '\x7b' ≤ (cs.rtakeWhile (· != '\x7d')).count '\x7b') :
    '\x7d' ∉ cs.dropWhile (· != '\x7b') := by
  have hsplit := List.rdropWhile_append_rtakeWhile (p := (· != '\x7d')) (l := cs)
  have hfront : '\x7b' ∉ cs.rdropWhile (· != '\x7d') := by
    have hcount := congrArg (List.count '\x7b') hsplit
    rw [List.count_append] at hcount
    exact List.count_eq_zero.mp (by omega)
  have hback : '\x7d' ∉ cs.rtakeWhile (· != '\x7d') := by
    intro hmem
    simpa using List.mem_rtakeWhile_imp hmem
  rw [← hsplit, List.dropWhile_append_of_pos]
  · exact fun hmem => hback ((List.dropWhile_sublist _).subset hmem)
  · intro c hc
    exact bne_iff_ne.mpr fun heq => hfront (heq ▸ hc)

/-!
# Separators

Every separator that is left becomes a line feed. A text cannot form a separator with the one behind
it, so texts between separators are turned one by one.
-/

theorem toList_separator : separator.toList = ['\\', 'N'] := by
  decide

theorem withLineFeeds_append_separator (text rest : List Char) :
    withLineFeeds (text ++ '\\' :: 'N' :: rest) =
      withLineFeeds text ++ '\n' :: withLineFeeds rest := by
  fun_induction withLineFeeds text with
  | case1 more ih =>
      simp only [List.cons_append, withLineFeeds, ih]
  | case2 c more hpair ih =>
      have hnext : ∀ after, c = '\\' → more ++ '\\' :: 'N' :: rest = 'N' :: after → False := by
        intro after hc hafter
        cases more with
        | nil =>
            cases hafter
        | cons d others =>
            rw [List.cons_append, List.cons.injEq] at hafter
            exact hpair others hc (by rw [hafter.1])
      rw [List.cons_append, withLineFeeds.eq_2 _ _ hnext, ih, List.cons_append]
  | case3 =>
      rfl

theorem count_withLineFeeds (cs : List Char) :
    (withLineFeeds cs).count '\x7b' = cs.count '\x7b' := by
  fun_induction withLineFeeds cs with
  | case1 more ih =>
      simp [ih]
  | case2 c more hpair ih =>
      rw [List.count_cons, List.count_cons, ih]
  | case3 =>
      rfl

theorem length_withLineFeeds_le (cs : List Char) : (withLineFeeds cs).length ≤ cs.length := by
  fun_induction withLineFeeds cs with
  | case1 more ih =>
      simp only [List.length_cons]
      omega
  | case2 c more hpair ih =>
      exact Nat.succ_le_succ ih
  | case3 =>
      exact Nat.le_refl 0

theorem withLineFeeds_eq_self_iff (cs : List Char) :
    withLineFeeds cs = cs ↔ ¬ separator.toList <:+: cs := by
  rw [toList_separator]
  fun_induction withLineFeeds cs with
  | case1 more ih =>
      constructor
      · intro h
        cases h
      · intro h
        exact absurd ⟨[], more, rfl⟩ h
  | case2 c more hpair ih =>
      simp only [List.cons.injEq, true_and, ih, List.infix_cons_iff, not_or]
      constructor
      · intro h
        refine ⟨?_, h⟩
        rintro ⟨after, hafter⟩
        cases hafter
        exact hpair after rfl rfl
      · exact fun h => h.2
  | case3 =>
      simp

theorem withLineFeeds_intercalate (texts : List (List Char)) :
    withLineFeeds (separator.toList.intercalate texts) =
      ['\n'].intercalate (texts.map withLineFeeds) := by
  induction texts with
  | nil =>
      rfl
  | cons text rest ih =>
      cases rest with
      | nil =>
          simp
      | cons next others =>
          rw [toList_separator] at ih ⊢
          rw [List.intercalate_cons_cons, List.append_assoc, List.cons_append,
            List.cons_append, List.nil_append, withLineFeeds_append_separator, ih,
            List.map_cons, List.map_cons, List.map_cons, List.intercalate_cons_cons,
            List.append_assoc]
          rfl

theorem length_intercalate_map_le {f : List Char → List Char}
    (hle : ∀ text, (f text).length ≤ text.length) (joint : List Char)
    (texts : List (List Char)) :
    (joint.intercalate (texts.map f)).length ≤ (joint.intercalate texts).length := by
  induction texts with
  | nil =>
      exact Nat.le_refl 0
  | cons text rest ih =>
      have htext := hle text
      cases rest with
      | nil =>
          simpa using htext
      | cons next others =>
          rw [List.map_cons] at ih ⊢
          rw [List.map_cons, List.intercalate_cons_cons, List.intercalate_cons_cons]
          simp only [List.length_append]
          omega

/-- Where no text gets longer, the texts cannot make up for each other. -/
theorem eq_self_of_intercalate_map {f : List Char → List Char}
    (hle : ∀ text, (f text).length ≤ text.length) {joint : List Char}
    {texts : List (List Char)} (h : joint.intercalate (texts.map f) = joint.intercalate texts) :
    ∀ text ∈ texts, f text = text := by
  induction texts with
  | nil =>
      intro text htext
      cases htext
  | cons text rest ih =>
      cases rest with
      | nil =>
          intro other hother
          rw [List.mem_singleton.mp hother]
          simpa using h
      | cons next others =>
          have htext := hle text
          have hrest := length_intercalate_map_le hle joint (next :: others)
          rw [List.map_cons] at h hrest ih
          rw [List.map_cons, List.intercalate_cons_cons, List.intercalate_cons_cons,
            List.append_assoc, List.append_assoc] at h
          have hlength := congrArg List.length h
          simp only [List.length_append] at hlength
          have hparts := List.append_inj h (by omega)
          intro other hother
          rcases List.mem_cons.mp hother with rfl | hmem
          · exact hparts.1
          · exact ih (List.append_cancel_left hparts.2) other hmem

/-!
# Tags and texts

Tags hold no closing brace, so every override ends where it was meant to end.
-/

theorem toList_override (tags : String) :
    (override tags).toList = '\x7b' :: (tags.toList ++ ['\x7d']) := by
  simp [override, String.toList_append]

theorem closing_not_mem_fillTag (color : Color) : '\x7d' ∉ (fillTag color).toList := by
  cases color <;> decide

theorem closing_not_mem_outlineTag (color : Color) : '\x7d' ∉ (outlineTag color).toList := by
  cases color <;> decide

theorem exists_toList_opening (alignment : Alignment) :
    ∃ tags, '\x7d' ∉ tags ∧ (opening alignment).toList = '\x7b' :: (tags ++ ['\x7d']) := by
  refine ⟨_, ?_, toList_override _⟩
  obtain ⟨horizontal, vertical⟩ := alignment
  cases horizontal <;> cases vertical <;> decide

theorem exists_toList_line (line : Line) :
    ∃ tags, '\x7d' ∉ tags ∧
      (Markup.line line).toList = '\x7b' :: (tags ++ '\x7d' :: line.text.toList) := by
  refine ⟨(fillTag line.foreground ++ outlineTag line.background).toList, ?_, ?_⟩
  · rw [String.toList_append, List.mem_append]
    rintro (hfill | houtline)
    · exact closing_not_mem_fillTag line.foreground hfill
    · exact closing_not_mem_outlineTag line.background houtline
  · rw [Markup.line, String.toList_append, toList_override, List.cons_append, List.append_assoc]
    rfl

/-- The lines of a cue with their tags and the separators between them. -/
def body (lines : List Line) : List Char :=
  separator.toList.intercalate (lines.map fun line => (Markup.line line).toList)

theorem withoutOverrides_markup (cue : Cue) :
    withoutOverrides cue.markup.toList = withoutOverrides (body cue.visibleLines) := by
  obtain ⟨tags, htags, hopening⟩ := exists_toList_opening cue.alignment
  rw [Cue.markup, String.toList_append, hopening, String.toList_intercalate, List.map_map,
    List.cons_append, List.append_assoc, List.singleton_append, withoutOverrides_override htags]
  rfl

theorem withoutOverrides_line (line : Line) (rest : List Char) :
    withoutOverrides ((Markup.line line).toList ++ rest) =
      withoutOverrides (line.text.toList ++ rest) := by
  obtain ⟨tags, htags, hline⟩ := exists_toList_line line
  rw [hline, List.cons_append, List.append_assoc, List.cons_append,
    withoutOverrides_override htags]

theorem toList_plainText (cue : Cue) :
    cue.plainText.toList =
      ['\n'].intercalate (cue.visibleLines.map fun line => line.text.toList) := by
  rw [Cue.plainText, String.toList_intercalate, List.map_map]
  rfl

/-!
# Literal texts

What a renderer leaves as it is.
-/

/-- No text holds a separator, and no opening brace in a text meets a closing brace later on: behind
every text but the last there are tags, so an opening brace there would always be closed. -/
structure IsLiteral (texts : List (List Char)) : Prop where
  noSeparator : ∀ text ∈ texts, ¬ separator.toList <:+: text
  noOpening : ∀ text ∈ texts.dropLast, '\x7b' ∉ text
  noSpan : ∀ text ∈ texts.getLast?, '\x7d' ∉ text.dropWhile (· != '\x7b')

theorem withoutOverrides_body {lines : List Line}
    (hopening : ∀ text ∈ (lines.map fun line => line.text.toList).dropLast, '\x7b' ∉ text)
    (hspan : ∀ text ∈ (lines.map fun line => line.text.toList).getLast?,
      '\x7d' ∉ text.dropWhile (· != '\x7b')) :
    withoutOverrides (body lines) =
      separator.toList.intercalate (lines.map fun line => line.text.toList) := by
  induction lines with
  | nil =>
      simp [body, withoutOverrides]
  | cons line rest ih =>
      cases rest with
      | nil =>
          have htext := withoutOverrides_line line []
          rw [List.append_nil, List.append_nil] at htext
          rw [body, List.map_singleton, List.intercalate_singleton, htext, List.map_singleton,
            List.intercalate_singleton]
          exact withoutOverrides_of_no_span (hspan _ rfl)
      | cons next others =>
          have htext : '\x7b' ∉ line.text.toList := hopening _ List.mem_cons_self
          have hseparator : '\x7b' ∉ separator.toList := by decide
          have hrest := ih (fun text hmem => hopening text (List.mem_cons_of_mem _ hmem)) hspan
          rw [body, List.map_cons, List.map_cons, List.intercalate_cons_cons, List.append_assoc,
            withoutOverrides_line, withoutOverrides_append htext,
            withoutOverrides_append hseparator]
          rw [body, List.map_cons] at hrest
          rw [hrest, List.map_cons, List.map_cons, List.map_cons, List.intercalate_cons_cons,
            List.append_assoc]

theorem exists_intercalate_concat (joint last : List Char) (texts : List (List Char)) :
    ∃ front, joint.intercalate (texts ++ [last]) = front ++ last := by
  induction texts with
  | nil =>
      exact ⟨[], by simp⟩
  | cons text rest ih =>
      obtain ⟨front, hfront⟩ := ih
      refine ⟨text ++ joint ++ front, ?_⟩
      rw [List.cons_append, List.intercalate_cons_of_ne_nil (by simp), hfront]
      simp

/-- Of the opening braces, only those of the last text can be left. -/
theorem count_withoutOverrides_body_le (lines : List Line) (last : Line) :
    (withoutOverrides (body (lines ++ [last]))).count '\x7b' ≤
      (last.text.toList.rtakeWhile (· != '\x7d')).count '\x7b' := by
  obtain ⟨tags, _, hlast⟩ := exists_toList_line last
  obtain ⟨front, hfront⟩ := exists_intercalate_concat separator.toList
    (Markup.line last).toList (lines.map fun line => (Markup.line line).toList)
  have hbody : body (lines ++ [last]) =
      (front ++ '\x7b' :: tags) ++ '\x7d' :: last.text.toList := by
    rw [body, List.map_append, List.map_singleton, hfront, hlast]
    simp
  have hcount := count_withoutOverrides_le (body (lines ++ [last]))
  rw [hbody, rtakeWhile_append_cons] at hcount
  rw [hbody]
  exact hcount

theorem count_intercalate {c : Char} {joint : List Char} (h : c ∉ joint)
    (texts : List (List Char)) :
    (joint.intercalate texts).count c = texts.flatten.count c := by
  induction texts with
  | nil =>
      rfl
  | cons text rest ih =>
      cases rest with
      | nil =>
          simp
      | cons next others =>
          have hflatten : (text :: next :: others).flatten = text ++ (next :: others).flatten :=
            List.flatten_cons
          rw [List.intercalate_cons_cons, List.count_append, List.count_append, ih,
            List.count_eq_zero.mpr h, hflatten, List.count_append, Nat.add_zero]

theorem no_brace_of_count_le {texts : List (List Char)} {last : List Char}
    (h : (['\n'].intercalate (texts ++ [last])).count '\x7b' ≤
      (last.rtakeWhile (· != '\x7d')).count '\x7b') :
    (∀ text ∈ texts, '\x7b' ∉ text) ∧ '\x7d' ∉ last.dropWhile (· != '\x7b') := by
  have hkept := (List.rtakeWhile_suffix (· != '\x7d') last).sublist.count_le '\x7b'
  rw [count_intercalate (by decide), List.flatten_append, List.count_append,
    List.flatten_singleton] at h
  constructor
  · intro text htext hmem
    have hnone : '\x7b' ∉ texts.flatten := List.count_eq_zero.mp (by omega)
    exact hnone (List.mem_flatten.mpr ⟨text, htext, hmem⟩)
  · exact no_span_of_count_le (by omega)

theorem no_brace_of_shown {lines : List Line}
    (h : withLineFeeds (withoutOverrides (body lines)) =
      ['\n'].intercalate (lines.map fun line => line.text.toList)) :
    (∀ text ∈ (lines.map fun line => line.text.toList).dropLast, '\x7b' ∉ text) ∧
      ∀ text ∈ (lines.map fun line => line.text.toList).getLast?,
        '\x7d' ∉ text.dropWhile (· != '\x7b') := by
  rcases List.eq_nil_or_concat' lines with rfl | ⟨front, last, rfl⟩
  · simp
  · have hcount := count_withoutOverrides_body_le front last
    rw [← count_withLineFeeds, h, List.map_append] at hcount
    have hnone := no_brace_of_count_le hcount
    rw [List.map_append, List.map_singleton, List.dropLast_concat, List.getLast?_concat]
    refine ⟨hnone.1, ?_⟩
    rintro text ⟨rfl⟩
    exact hnone.2

theorem shown_eq_plainText_iff (cue : Cue) :
    shown cue.markup = cue.plainText ↔
      withLineFeeds (withoutOverrides (body cue.visibleLines)) =
        ['\n'].intercalate (cue.visibleLines.map fun line => line.text.toList) := by
  rw [← String.toList_inj, shown, String.toList_ofList, withoutOverrides_markup,
    toList_plainText]

/-- A cue is shown as its plain text exactly if its visible texts are literal. -/
theorem shown_markup_iff_isLiteral (cue : Cue) :
    shown cue.markup = cue.plainText ↔
      IsLiteral (cue.visibleLines.map fun line => line.text.toList) := by
  rw [shown_eq_plainText_iff]
  constructor
  · intro h
    obtain ⟨hopening, hspan⟩ := no_brace_of_shown h
    rw [withoutOverrides_body hopening hspan, withLineFeeds_intercalate] at h
    have hself := eq_self_of_intercalate_map length_withLineFeeds_le h
    exact ⟨fun text htext => (withLineFeeds_eq_self_iff text).mp (hself text htext),
      hopening, hspan⟩
  · intro h
    have hself : ∀ text ∈ cue.visibleLines.map fun line => line.text.toList,
        withLineFeeds text = text :=
      fun text htext => (withLineFeeds_eq_self_iff text).mpr (h.noSeparator text htext)
    rw [withoutOverrides_body h.noOpening h.noSpan, withLineFeeds_intercalate,
      List.map_congr_left hself, List.map_id']

/-- A block with one line, a letter between braces and one letter more. -/
def bracedBlock : Octets Layout.blockLength where
  bytes := List.replicate Layout.textOffset 0 ++ [0x7B, 0x61, 0x7D, 0x62] ++
    List.replicate 108 Code.terminatorByte
  length_eq := rfl

/-- The letter between the braces is taken for a tag. -/
theorem shown_ne_plainText_of_braces :
    ∃ cue, (Block.ofOctets bracedBlock).cue? 0 1 = some cue ∧
      shown cue.markup ≠ cue.plainText := by
  refine ⟨_, rfl, ?_⟩
  rw [ne_eq, shown_eq_plainText_iff]
  intro h
  exact (no_brace_of_shown h).2 _ rfl (by decide)

end Markup
end SubtitleExchange
