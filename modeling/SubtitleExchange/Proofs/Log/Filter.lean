import SubtitleExchange.Log.Filter
import SubtitleExchange.Proofs.Command.Host

/-!
# What is printed for a filter

Every problem of a filter is told by a warning, so nothing else a command prints can be mistaken for
one.
-/

namespace SubtitleExchange
namespace LogFilter

def isWarning (text : String) : Bool :=
  "warning: ".toList.isPrefixOf text.toList

theorem isWarning_append {front : String} (h : isWarning front = true) (back : String) :
    isWarning (front ++ back) = true := by
  rw [isWarning, List.isPrefixOf_iff_prefix] at h ⊢
  rw [String.toList_append]
  exact h.trans (List.prefix_append _ _)

theorem isWarning_message (problem : Problem) : isWarning problem.message = true := by
  cases problem with
  | unreadableRule text =>
      exact isWarning_append (isWarning_append (by decide) _) _
  | twoSlashes filter =>
      exact isWarning_append (isWarning_append (by decide) _) _
  | refusedPattern pattern refusal =>
      exact isWarning_append (by decide) _

theorem isWarning_of_mem_print {place : Nat} {call : LogCall} {text : String}
    (h : text ∈ logger.print place call) : isWarning text = true := by
  cases call with
  | filter filter =>
      obtain ⟨problem, _, rfl⟩ := List.mem_map.mp h
      exact isWarning_append (isWarning_message problem) _
  | record record =>
      cases h

theorem logger_spares {text : String} (h : isWarning text = false) : logger.Spares text := by
  intro place call hmem
  rw [isWarning_of_mem_print hmem] at h
  cases h

theorem logger_spares_missingSignature :
    logger.Spares (Command.Notice.ended Command.missingSignature) :=
  logger_spares (by decide)

end LogFilter
end SubtitleExchange
