/-!
# Physical lines

Output is a sequence of physical lines, each ended by a line feed. Cut at its line feeds, it gives
its lines back, as long as none of them holds one.
-/

namespace SubtitleExchange
namespace Physical

def text (lines : List String) : String :=
  String.join (lines.map (· ++ "\n"))

/-- What follows the last line feed is a part as well, which is empty in written output. -/
def parts (text : String) : List (List Char) :=
  text.toList.splitOn '\n'

/-- The groups of lines that empty lines keep apart. -/
def paragraphs (text : String) : List (List (List Char)) :=
  ((parts text).splitOn []).filter fun paragraph => !paragraph.isEmpty

theorem toList_text (lines : List String) :
    (text lines).toList = lines.flatMap fun line => line.toList ++ ['\n'] := by
  simp [text, String.toList_join, List.flatMap_map]

theorem text_append (front back : List String) :
    text (front ++ back) = text front ++ text back := by
  simp [text]

theorem parts_text {lines : List String} (h : ∀ line ∈ lines, '\n' ∉ line.toList) :
    parts (text lines) = lines.map String.toList ++ [[]] := by
  induction lines with
  | nil =>
      rfl
  | cons line rest ih =>
      have hline : ∀ c ∈ line.toList, (c == '\n') = false := by
        intro c hc
        exact beq_eq_false_iff_ne.mpr fun heq => h line List.mem_cons_self (heq ▸ hc)
      have hrest := ih fun other hother => h other (List.mem_cons_of_mem line hother)
      have hsplit : (text (line :: rest)).toList = line.toList ++ '\n' :: (text rest).toList := by
        simp [toList_text]
      rw [parts, hsplit, List.splitOn,
        List.splitOnP_append_cons_of_forall_mem hline '\n' (beq_self_eq_true _)]
      exact congrArg (line.toList :: ·) hrest

/-!
# Paragraphs

A line is cut off by the empty line behind it only if it is not empty itself.
-/

theorem filter_splitOn_flatMap {groups : List (List (List Char))}
    (hgroups : ∀ group ∈ groups, group ≠ []) (hlines : ∀ group ∈ groups, [] ∉ group) :
    (((groups.flatMap fun group => group ++ [[]]) ++ [[]]).splitOn []).filter
      (fun paragraph => !paragraph.isEmpty) = groups := by
  induction groups with
  | nil =>
      rfl
  | cons group rest ih =>
      have hgroup : ∀ line ∈ group, (line == []) = false := by
        intro line hline
        exact beq_eq_false_iff_ne.mpr fun heq =>
          hlines group List.mem_cons_self (heq ▸ hline)
      have hkept : (!group.isEmpty) = true := by
        simpa using hgroups group List.mem_cons_self
      have hrest := ih (fun other hother => hgroups other (List.mem_cons_of_mem group hother))
        (fun other hother => hlines other (List.mem_cons_of_mem group hother))
      rw [List.flatMap_cons, List.append_assoc, List.append_assoc, List.singleton_append,
        List.splitOn, List.splitOnP_append_cons_of_forall_mem hgroup [] (beq_self_eq_true _),
        List.filter_cons, if_pos hkept]
      exact congrArg (List.cons group) hrest

theorem paragraphs_text {groups : List (List String)} (hgroups : ∀ group ∈ groups, group ≠ [])
    (hlines : ∀ group ∈ groups, ∀ line ∈ group, line ≠ "" ∧ '\n' ∉ line.toList) :
    paragraphs (text (groups.flatMap fun group => group ++ [""])) =
      groups.map (List.map String.toList) := by
  have hbreaks : ∀ line ∈ groups.flatMap fun group => group ++ [""], '\n' ∉ line.toList := by
    intro line hline
    obtain ⟨group, hgroup, hmem⟩ := List.mem_flatMap.mp hline
    rcases List.mem_append.mp hmem with hinner | hlast
    · exact (hlines group hgroup line hinner).2
    · rw [List.mem_singleton.mp hlast]
      exact List.not_mem_nil
  have hlists : (groups.flatMap fun group => group ++ [""]).map String.toList =
      (groups.map (List.map String.toList)).flatMap fun group => group ++ [[]] := by
    simp [List.map_flatMap, List.flatMap_map]
  rw [paragraphs, parts_text hbreaks, hlists, filter_splitOn_flatMap]
  · intro group hgroup
    obtain ⟨lines, hmem, rfl⟩ := List.mem_map.mp hgroup
    exact fun hnil => hgroups lines hmem (List.map_eq_nil_iff.mp hnil)
  · intro group hgroup hempty
    obtain ⟨lines, hmem, rfl⟩ := List.mem_map.mp hgroup
    obtain ⟨line, hline, hnil⟩ := List.mem_map.mp hempty
    exact (hlines lines hmem line hline).1 (String.toList_eq_nil_iff.mp hnil)

end Physical
end SubtitleExchange
