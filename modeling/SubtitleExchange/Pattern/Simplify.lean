import SubtitleExchange.Pattern.Form

/-!
# Simple forms

Forms are put together so that nothing in them is needless: texts side by side are one text, single
characters between bars are one set, and what all choices begin with stands before them once.
-/

namespace SubtitleExchange
namespace Pattern
namespace Form

/-!
# Sets
-/

/-- A set of one character is a text, and one of none never matches. -/
def ofSet (other : CharSet → Form) (set : CharSet) : Form :=
  match set.ranges with
  | [] => never
  | [range] => if range.first = range.last then .text [Char.ofNat range.first] else other set
  | _ => other set

def ofChars (set : CharSet) : Form := ofSet .chars set

def ofBytes (set : CharSet) : Form := ofSet .bytes set

/-!
# Repetitions

What takes no bytes is there at most once.
-/

def effectiveCount (body : Form) (count : Count) : Count :=
  if body.takesNone then ⟨min count.least 1, some (min (count.most.getD 1) 1)⟩ else count

def repeated (count : Count) ( isLazy : Bool) (body : Form) : Form :=
  match effectiveCount body count with
  | ⟨0, some 0⟩ => .empty
  | ⟨1, some 1⟩ => body
  | effective => .repetition effective isLazy body

/-!
# Sequences
-/

/-- The parts of a form that is put into a sequence. -/
def sequenceParts : Form → List Form
  | .empty => []
  | .sequence parts => parts
  | form => [form]

/-- Texts side by side become one. -/
def joinTexts (parts : List Form) : List Form :=
  (parts.splitBy fun a b => a.isText && b.isText).flatMap fun run =>
    if run.all isText then [.text (run.flatMap textChars)] else run

def inSequence (parts : List Form) : Form :=
  match joinTexts (parts.flatMap sequenceParts) with
  | [] => .empty
  | [part] => part
  | parts => .sequence parts

/-!
# Choices
-/

def choiceParts : Form → List Form
  | .choice parts => parts
  | form => [form]

def onlyChar? : Form → Option Char
  | .text [c] => some c
  | _ => none

/-- A choice between characters or between sets is a set. -/
def asSet? (parts : List Form) : Option Form :=
  match parts.mapM onlyChar?, parts.mapM set? with
  | some cs, _ => some (ofChars (.unionAll (cs.map fun c => .single c.toNat)))
  | none, some sets => some (ofChars (.unionAll sets))
  | none, none => none

/-- How many parts all of several sequences begin with. -/
def sharedCount : List (List Form) → Nat
  | [] => 0
  | first :: others =>
      others.foldl (fun count other => min count (alikeCount first other)) first.length

/-- A choice between forms. What their sequences begin with is taken out as long as rounds are left, of
which each takes some parts out. -/
def inChoiceFor : Nat → List Form → Form
  | rounds, parts =>
      match parts.flatMap choiceParts with
      | [] => never
      | [part] => part
      | parts =>
          match asSet? parts, parts.mapM parts?, rounds with
          | some set, _, _ => set
          | none, some sequences, rounds + 1 =>
              let count := sharedCount sequences
              if count = 0 then
                .choice parts
              else
                let start := (sequences.headD []).take count
                let rests := sequences.map fun parts => inSequence (parts.drop count)
                inSequence (start ++ [inChoiceFor rounds rests])
          | none, _, _ => .choice parts

def inChoice (parts : List Form) : Form :=
  inChoiceFor (weightOfAll parts) parts

end Form
end Pattern
end SubtitleExchange
