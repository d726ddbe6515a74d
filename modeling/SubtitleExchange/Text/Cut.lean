/-!
# Cutting lists at an element

A list is cut at the first place where an element stands, or at several such places in turn. The
element itself is left out.
-/

namespace SubtitleExchange
namespace Cut

variable {α : Type} [DecidableEq α]

def first (c : α) : List α → Option (List α × List α)
  | [] => none
  | d :: rest =>
      if d = c then
        some ([], rest)
      else
        (first c rest).map fun (before, after) => (d :: before, after)

/-- At most `count` cuts, so at most one part more. -/
def upTo (c : α) : Nat → List α → List (List α)
  | 0, cs => [cs]
  | count + 1, cs =>
      match first c cs with
      | none => [cs]
      | some (before, after) => before :: upTo c count after

theorem first_append {c : α} {before : List α} (after : List α) (h : c ∉ before) :
    first c (before ++ c :: after) = some (before, after) := by
  induction before with
  | nil =>
      simp [first]
  | cons d rest ih =>
      have hd : d ≠ c := fun heq => h (heq ▸ List.mem_cons_self)
      have hrest : c ∉ rest := fun hmem => h (List.mem_cons_of_mem d hmem)
      simp [first, hd, ih hrest]

theorem first_eq_none_iff {c : α} {cs : List α} : first c cs = none ↔ c ∉ cs := by
  induction cs with
  | nil =>
      simp [first]
  | cons d rest ih =>
      by_cases hd : d = c
      · simp [first, hd]
      · simp [first, hd, ih, Ne.symm hd]

theorem eq_append_of_first {c : α} {cs before after : List α}
    (h : first c cs = some (before, after)) : cs = before ++ c :: after := by
  induction cs generalizing before with
  | nil =>
      simp [first] at h
  | cons d rest ih =>
      unfold first at h
      split at h
      · rename_i hd
        simp only [Option.some.injEq, Prod.mk.injEq] at h
        obtain ⟨rfl, rfl⟩ := h
        rw [hd, List.nil_append]
      · simp only [Option.map_eq_some_iff, Prod.mk.injEq, Prod.exists] at h
        obtain ⟨front, back, hfirst, rfl, rfl⟩ := h
        rw [List.cons_append, ← ih hfirst]

theorem length_of_first {c : α} {cs before after : List α}
    (h : first c cs = some (before, after)) : before.length + after.length + 1 = cs.length := by
  rw [eq_append_of_first h, List.length_append, List.length_cons]
  omega

/-- Parts without the element are cut apart again. The last part may hold it. -/
theorem upTo_intercalate {c : α} {parts : List (List α)} (h : ∀ part ∈ parts, c ∉ part)
    (last : List α) :
    upTo c parts.length ([c].intercalate (parts ++ [last])) = parts ++ [last] := by
  induction parts with
  | nil =>
      rw [List.nil_append, List.intercalate_singleton]
      rfl
  | cons part rest ih =>
      have hpart := h part List.mem_cons_self
      have hrest := ih fun other hother => h other (List.mem_cons_of_mem part hother)
      have hsome : rest ++ [last] ≠ [] := List.append_ne_nil_of_right_ne_nil _ (List.cons_ne_nil _ _)
      rw [List.cons_append, List.intercalate_cons_of_ne_nil hsome, List.append_assoc,
        List.singleton_append, List.length_cons, upTo, first_append _ hpart]
      exact congrArg (List.cons part) hrest

/-!
# Joined parts

A joined list has the elements of its parts and of what stands between them.
-/

theorem forall_mem_intercalate {α : Type} {P : α → Prop} {joint : List α} {parts : List (List α)}
    (hjoint : ∀ a ∈ joint, P a) (hparts : ∀ part ∈ parts, ∀ a ∈ part, P a) :
    ∀ a ∈ joint.intercalate parts, P a := by
  induction parts with
  | nil =>
      intro a ha
      cases ha
  | cons part rest ih =>
      have hpart := hparts part List.mem_cons_self
      have hrest := ih fun other hother => hparts other (List.mem_cons_of_mem part hother)
      cases rest with
      | nil =>
          rw [List.intercalate_singleton]
          exact hpart
      | cons next others =>
          intro a ha
          rw [List.intercalate_cons_cons, List.mem_append, List.mem_append] at ha
          rcases ha with (ha | ha) | ha
          · exact hpart a ha
          · exact hjoint a ha
          · exact hrest a ha

end Cut
end SubtitleExchange
