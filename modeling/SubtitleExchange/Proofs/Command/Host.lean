import SubtitleExchange.Command.Host

/-!
# Files among what a command meets

A host gives a file for an input in one way or another, and may give it still when an output was
created. The look at the signature sees of a file what the whole file would tell.
-/

namespace SubtitleExchange

/-!
# Looking at a file

The signature lies within the bytes that are looked at, and what is read next goes to the end of the
header from wherever the look left off.
-/

theorem Layout.hasSignature_take (file : List UInt8) :
    hasSignature (file.take Command.probeLength) = hasSignature file := by
  have htake : ((file.take Command.probeLength).drop signatureOffset).take signature.length =
      (file.drop signatureOffset).take signature.length := by
    rw [List.drop_take, List.take_take]
    rfl
  rw [hasSignature, hasSignature, htake]

namespace Command

/-- The notices about the signature of a file. -/
def signatureNotices (file : List UInt8) : List Notice :=
  if Layout.hasSignature file then [] else [.line missingSignature]

theorem inspect_ofBytes (file : List UInt8) :
    ∃ position, inspect (.ofBytes file) =
      (signatureNotices file, .memory file.toArray position) := by
  have hbytes : (file.toArray.extract 0 (0 + probeLength)).toList = file.take probeLength := by
    simp
  refine ⟨0 + (file.toArray.extract 0 (0 + probeLength)).size, ?_⟩
  rw [signatureNotices, ← Layout.hasSignature_take, ← hbytes]
  rfl

/-!
# Files

A file is read from its first byte, whether it comes by its path or on standard input.
-/

namespace Host

/-- What is read for an input is a file. -/
def Supplies (host : Host) (input : String) (file : List UInt8) : Prop :=
  host.openInput? input = some (.ofBytes file)

/-- The same, once there is an output: standard output, or a new file at the path of the output. -/
def Serves (host : Host) (input output : String) (file : List UInt8) : Prop :=
  if output = "-" then host.Supplies input file
  else ∃ after, host.afterCreation? output = some (.file, after) ∧ after.Supplies input file

end Host

/-!
# What is printed

A text that the logger never prints is printed only for a line, or as a piece of a script.
-/

end Command
end SubtitleExchange
