import SubtitleExchange.Command.Host

/-!
# Buffered output

What a command writes to its output is held back until there is more of it than fits, or until the
command asks for it to go out. Notices are not held back.
-/

namespace SubtitleExchange
namespace Command

/-- What a command does, one thing at a time. Writing and flushing have the cause to abort for if the
output takes nothing. -/
inductive Act where
  | notice (notice : Notice)
  | write (text : String) (refused : Abort)
  | flush (refused : Abort)
deriving DecidableEq

/-- All acts of a command and how it ends, before it is known what becomes of its text. -/
structure Course where
  exit : Exit
  acts : List Act
deriving DecidableEq

/-- What shows outside: a notice, or text that goes out with the cause to abort for. -/
inductive Effect where
  | notice (notice : Notice)
  | text (text : String) (refused : Abort)
deriving DecidableEq

namespace Effect

def notices (effects : List Effect) : List Notice :=
  effects.filterMap fun
    | notice given => some given
    | text _ _ => none

def texts (effects : List Effect) : String :=
  String.join (effects.map fun
    | notice _ => ""
    | text written _ => written)

/-- Text among the notices. -/
def among : Effect → Notice
  | notice given => given
  | text written _ => .piece written

/-- The cause to abort for if no text is accepted. Nothing is no text. -/
def refusal? : Effect → Option Abort
  | notice _ => none
  | text written refused => if written = "" then none else some refused

end Effect

/-!
# The buffer

Text that would overfill the buffer lets out what is held. Text that would fill it alone goes out at
once.
-/

namespace Buffer

def capacity : Nat := 8192

/-- The effects of acts, and what is held at the end. -/
structure Run where
  effects : List Effect
  held : String
deriving DecidableEq

def Run.after (run : Run) (effects : List Effect) : Run :=
  { run with effects := effects ++ run.effects }

def run (held : String) : List Act → Run
  | [] => ⟨[], held⟩
  | .notice notice :: rest => (run held rest).after [.notice notice]
  | .flush refused :: rest => (run "" rest).after [.text held refused]
  | .write text refused :: rest =>
      if capacity ≤ text.utf8ByteSize then
        (run "" rest).after [.text held refused, .text text refused]
      else if capacity < held.utf8ByteSize + text.utf8ByteSize then
        (run text rest).after [.text held refused]
      else
        run (held ++ text) rest

end Buffer

/-!
# Where text goes

What is still held when a command ends goes the same way, after everything else. A command that gets
no text rid of is aborted at the first attempt.
-/

namespace Course

/-- The outcome if the output takes no text. -/
def refused (course : Course) (effects : List Effect) : Outcome :=
  match effects.findSome? Effect.refusal? with
  | none => ⟨course.exit, "", Effect.notices effects, none⟩
  | some cause =>
      let before := effects.takeWhile fun effect => effect.refusal?.isNone
      ⟨.aborted cause, "", Effect.notices before, none⟩

/-- Among notices, what is held when a command is aborted is too late to be one of them. -/
def deliver (course : Course) (path : String) (sink : Sink) : Outcome :=
  let run := Buffer.run "" course.acts
  let notices := Effect.notices run.effects
  let text := Effect.texts run.effects ++ run.held
  match sink with
  | .file => ⟨course.exit, "", notices, some ⟨path, text⟩⟩
  | .stdout => ⟨course.exit, text, notices, none⟩
  | .stderr => ⟨course.exit, "", run.effects.map Effect.among, none⟩
  | .nowhere => ⟨course.exit, "", notices, none⟩
  | .full => course.refused run.effects

end Course
end Command
end SubtitleExchange
