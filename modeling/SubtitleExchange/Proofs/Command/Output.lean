import Mathlib.Data.List.Basic
import SubtitleExchange.Command.Output

/-!
# What a buffer leaves alone

A buffer decides when text goes out, and nothing else: all of it goes out in its order, and no notice
is lost or moved past another one.
-/

namespace SubtitleExchange
namespace Command

namespace Act

def notices (acts : List Act) : List Notice :=
  acts.filterMap fun
    | notice given => some given
    | _ => none

def texts (acts : List Act) : String :=
  String.join (acts.map fun
    | write text _ => text
    | _ => "")

theorem notices_append (front back : List Act) :
    notices (front ++ back) = notices front ++ notices back :=
  List.filterMap_append

theorem texts_append (front back : List Act) :
    texts (front ++ back) = texts front ++ texts back := by
  simp [texts]

theorem notices_map_notice (given : List Notice) : notices (given.map notice) = given := by
  rw [notices, List.filterMap_map]
  exact List.filterMap_some

theorem texts_map_notice (given : List Notice) : texts (given.map notice) = "" := by
  induction given with
  | nil =>
      rfl
  | cons first rest ih =>
      simp only [List.map_cons, texts] at ih ⊢
      simpa using ih

end Act

namespace Buffer

theorem notices_run (held : String) (acts : List Act) :
    Effect.notices (run held acts).effects = Act.notices acts := by
  induction acts generalizing held with
  | nil =>
      rfl
  | cons act rest ih =>
      cases act with
      | notice given =>
          exact congrArg (List.cons given) (ih held)
      | flush refused =>
          exact ih ""
      | write text refused =>
          rw [run]
          split
          · exact ih ""
          · split
            · exact ih text
            · exact ih (held ++ text)

/-- What has gone out together with what is held is what was written. -/
theorem texts_run (held : String) (acts : List Act) :
    Effect.texts (run held acts).effects ++ (run held acts).held = held ++ Act.texts acts := by
  -- Each way of letting text out puts it in front of all that goes out later.
  have hout (effects : List Effect) (later : Run) :
      Effect.texts (later.after effects).effects ++ (later.after effects).held =
        Effect.texts effects ++ (Effect.texts later.effects ++ later.held) := by
    simp [Run.after, Effect.texts, String.append_assoc]
  induction acts generalizing held with
  | nil =>
      simp [run, Effect.texts, Act.texts]
  | cons act rest ih =>
      cases act with
      | notice given =>
          rw [run, hout, ih]
          simp [Effect.texts, Act.texts]
      | flush refused =>
          rw [run, hout, ih]
          simp [Effect.texts, Act.texts]
      | write text refused =>
          have hwrite : Act.texts (.write text refused :: rest) = text ++ Act.texts rest := by
            simp [Act.texts]
          rw [run, hwrite]
          split
          · rw [hout, ih]
            simp [Effect.texts, String.append_assoc]
          · split
            · rw [hout, ih]
              simp [Effect.texts]
            · rw [ih, String.append_assoc]

/-- No more is ever held than there is room for. -/
theorem utf8ByteSize_held_run_le {held : String} (h : held.utf8ByteSize ≤ capacity)
    (acts : List Act) : (run held acts).held.utf8ByteSize ≤ capacity := by
  induction acts generalizing held with
  | nil =>
      exact h
  | cons act rest ih =>
      cases act with
      | notice given =>
          exact ih h
      | flush refused =>
          exact ih (Nat.zero_le capacity)
      | write text refused =>
          rw [run]
          split
          · exact ih (Nat.zero_le capacity)
          · rename_i hshort
            split
            · exact ih (Nat.le_of_not_le hshort)
            · rename_i hfits
              apply ih
              rw [String.utf8ByteSize_append]
              exact Nat.le_of_not_lt hfits

end Buffer

namespace Course

theorem deliver_file (course : Course) (path : String) :
    course.deliver path .file =
      ⟨course.exit, "", Act.notices course.acts, some ⟨path, Act.texts course.acts⟩⟩ := by
  have htexts := Buffer.texts_run "" course.acts
  rw [String.empty_append] at htexts
  rw [deliver, htexts, Buffer.notices_run]

theorem deliver_stdout (course : Course) (path : String) :
    course.deliver path .stdout =
      ⟨course.exit, Act.texts course.acts, Act.notices course.acts, none⟩ := by
  have htexts := Buffer.texts_run "" course.acts
  rw [String.empty_append] at htexts
  rw [deliver, htexts, Buffer.notices_run]

end Course
end Command
end SubtitleExchange
