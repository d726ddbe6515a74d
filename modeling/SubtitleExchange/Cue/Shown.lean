import SubtitleExchange.Cue.Markup
import SubtitleExchange.Text.Cut

/-!
# What a renderer shows

A renderer takes every span from an opening brace through the next closing brace for tags, which are
not shown, and every separator that is left for a line feed.
-/

namespace SubtitleExchange
namespace Markup

/-- An opening brace that is never closed is kept. -/
def withoutOverrides (cs : List Char) : List Char :=
  match cs with
  | [] => []
  | c :: rest =>
      if c = '\x7b' then
        match _hcut : Cut.first '\x7d' rest with
        | some (_, after) => withoutOverrides after
        | none => c :: withoutOverrides rest
      else
        c :: withoutOverrides rest
termination_by cs.length
decreasing_by
  · have hlength := Cut.length_of_first _hcut
    simp only [List.length_cons]
    omega
  · simp
  · simp

def withLineFeeds : List Char → List Char
  | '\\' :: 'N' :: rest => '\n' :: withLineFeeds rest
  | c :: rest => c :: withLineFeeds rest
  | [] => []

def shown (text : String) : String :=
  String.ofList (withLineFeeds (withoutOverrides text.toList))

end Markup
end SubtitleExchange
