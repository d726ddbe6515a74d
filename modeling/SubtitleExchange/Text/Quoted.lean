import SubtitleExchange.Text.Cut

/-!
# Quoted text

A text is shown between double quotes on one line. Quotes and backslashes are escaped, and so is
every Latin character that cannot be seen: the controls, the no-break space and the soft hyphen.
-/

namespace SubtitleExchange
namespace Quoted

def isHidden (c : Char) : Bool :=
  c.toNat < 0x20 || (0x7F ≤ c.toNat && c.toNat ≤ 0xA0) || c.toNat = 0xAD

def codePoint (c : Char) : List Char :=
  "\\u\x7b".toList ++ Nat.toDigits 16 c.toNat ++ "\x7d".toList

def escape (c : Char) : List Char :=
  if c = '\x22' then "\\\"".toList
  else if c = '\\' then "\\\\".toList
  else if c = '\t' then "\\t".toList
  else if c = '\n' then "\\n".toList
  else if c = '\r' then "\\r".toList
  else if c = '\x00' then "\\0".toList
  else if isHidden c then codePoint c
  else [c]

def quote (text : String) : String :=
  String.ofList ('\x22' :: text.toList.flatMap escape ++ ['\x22'])

/-!
# Reading

A quoted text is read up to the quote that closes it. A backslash and what belongs to it stand for
one character.
-/

def digitValue (c : Char) : Nat :=
  if c ≤ '9' then c.toNat - '0'.toNat else c.toNat - 'a'.toNat + 10

def codeValue (digits : List Char) : Nat :=
  digits.foldl (fun n c => 16 * n + digitValue c) 0

/-- What stands behind a backslash, and for which character. -/
def escapes : List (Char × Char) :=
  [('\x22', '\x22'), ('\\', '\\'), ('t', '\t'), ('n', '\n'), ('r', '\r'), ('0', '\x00')]

/-- The character that is meant behind a backslash, and what follows it. -/
def unescape? : List Char → Option (Char × List Char)
  | 'u' :: '\x7b' :: cs =>
      (Cut.first '\x7d' cs).map fun (digits, rest) => (Char.ofNat (codeValue digits), rest)
  | mark :: rest => (escapes.lookup mark).map fun c => (c, rest)
  | [] => none

theorem length_of_unescape? {cs rest : List Char} {c : Char} (h : unescape? cs = some (c, rest)) :
    rest.length ≤ cs.length := by
  unfold unescape? at h
  split at h
  · simp only [Option.map_eq_some_iff, Prod.mk.injEq, Prod.exists] at h
    obtain ⟨digits, after, hcut, _, rfl⟩ := h
    have hlength := Cut.length_of_first hcut
    simp only [List.length_cons]
    omega
  · simp only [Option.map_eq_some_iff, Prod.mk.injEq] at h
    obtain ⟨_, _, _, rfl⟩ := h
    exact Nat.le_succ _
  · cases h

/-- The text before the closing quote, and what follows the quote. -/
def readFrom? : List Char → Option (List Char × List Char)
  | [] => none
  | c :: cs =>
      if c = '\x22' then
        some ([], cs)
      else if c = '\\' then
        match _hcs : unescape? cs with
        | some (d, rest) => (readFrom? rest).map fun (text, after) => (d :: text, after)
        | none => none
      else
        (readFrom? cs).map fun (text, after) => (c :: text, after)
termination_by cs => cs.length
decreasing_by
  · have hlength := length_of_unescape? _hcs
    simp only [List.length_cons]
    omega
  · simp

/-- A quoted text at the front of a list, and what follows it. -/
def read? (cs : List Char) : Option (List Char × List Char) :=
  match cs with
  | '\x22' :: rest => readFrom? rest
  | _ => none

end Quoted
end SubtitleExchange
