import SubtitleExchange.Log
import SubtitleExchange.Pattern
import SubtitleExchange.Text.Blank

/-!
# Log filters

A log filter is a list of rules between commas, and perhaps a pattern after a slash. A rule names a
target or a level, or both around an equals sign, where blanks around the level do not count and an
empty level is every level. A rule that cannot be read is passed over, and so is a pattern that is
refused. A filter with two slashes has no rules. The program has a logger that tells the user so; the
commands work with any logger.
-/

namespace SubtitleExchange
namespace LogFilter

inductive Problem where
  | unreadableRule (text : String)
  | twoSlashes (filter : String)
  | refusedPattern (pattern : List Char) (refusal : Pattern.Refusal)
deriving DecidableEq

namespace Problem

def message : Problem → String
  | unreadableRule text => "warning: invalid logging spec '" ++ text ++ "', ignoring it"
  | twoSlashes filter =>
      "warning: invalid logging spec '" ++ filter ++ "', ignoring it (too many '/'s)"
  | refusedPattern pattern refusal =>
      "warning: invalid regex filter - " ++ refusal.message pattern

end Problem

def levelNames : List String :=
  ["OFF", "ERROR", "WARN", "INFO", "DEBUG", "TRACE"]

/-- Levels are named in letters of either case. -/
def isLevel (cs : List Char) : Bool :=
  levelNames.contains (String.ofList (cs.map Char.toUpper))

/-- A rule without an equals sign is a level or a target, whatever it says. -/
def problemOfRule (rule : List Char) : Option Problem :=
  match rule.splitOn '=' with
  | [_] => none
  | [_, level] =>
      let level := Blank.trim level
      if level.isEmpty || isLevel level then none else some (.unreadableRule (String.ofList level))
  | _ => some (.unreadableRule (String.ofList rule))

def problemOfPattern (pattern : List Char) : Option Problem :=
  (Pattern.refusal? pattern).map fun refusal => .refusedPattern pattern refusal

/-- The problems of a filter in the order in which they are met. -/
def problems (filter : String) : List Problem :=
  match filter.toList.splitOn '/' with
  | [rules] => (rules.splitOn ',').filterMap problemOfRule
  | [rules, pattern] =>
      (rules.splitOn ',').filterMap problemOfRule ++ (problemOfPattern pattern).toList
  | _ => [.twoSlashes filter]

/-!
# A logger

It prints the problems of its filter. Records are left out, which are printed with the time of day.
-/

def logger : Logger where
  print _ call :=
    match call with
    | .filter text => (problems text).map fun problem => problem.message ++ "\n"
    | .record _ => []

end LogFilter
end SubtitleExchange
