/-!
# Command line arguments

Options have a long name and perhaps a letter, and stand anywhere among the operands. The value of
an option is the rest of its word or the next word. If the next word is an option itself, the first
one has no value and counts as given nonetheless. Letters of options that take no value can share a
word. A lone dash is an operand. Two dashes make operands of all words after them but further pairs
of dashes.
-/

namespace SubtitleExchange
namespace Command

inductive UsageError where
  | unknownOption (word : String)
  | repeatedOption (name : String)
  | missingValue (name : String)
  | invalidNumber (name value : String)
  | missingOperand (name : String)
  | surplusOperand (word : String)
deriving DecidableEq

namespace UsageError

def message : UsageError → String
  | unknownOption word => "unknown option " ++ word
  | repeatedOption name => "option " ++ name ++ " was given twice"
  | missingValue name => "option " ++ name ++ " needs a value"
  | invalidNumber name value => "invalid value " ++ value ++ " for " ++ name
  | missingOperand name => "missing " ++ name
  | surplusOperand word => "unexpected " ++ word

end UsageError

/-- Whether an option has a value, and whether there is one to fall back on. -/
inductive ValueRule where
  | noValue
  | value
  | valueOrDefault
deriving DecidableEq

structure OptionSpec where
  name : String
  letter : Option Char
  rule : ValueRule
deriving DecidableEq

/-- An option as it was given, with the value that was given for it. -/
structure GivenOption where
  name : String
  value : Option String
deriving DecidableEq

structure Arguments where
  options : List GivenOption
  operands : List String
deriving DecidableEq

namespace Arguments

def empty : Arguments := ⟨[], []⟩

/-!
# Kinds of words

A long option may have any number of dashes from two on, and any number of equals signs before the
value in the same word. A value that is nothing but equals signs is kept as it is.
-/

inductive OptionWord where
  | long (name : List Char) (inlineValue : Option (List Char))
  | letters (letters : List Char)
deriving DecidableEq

inductive Word where
  | operand
  | endOfOptions
  | option (word : OptionWord)
deriving DecidableEq

def dropEquals (cs : List Char) : List Char :=
  match cs.dropWhile (· == '=') with
  | [] => cs
  | value => value

def classify : List Char → Word
  | ['-', '-'] => .endOfOptions
  | '-' :: '-' :: rest =>
      let body := rest.dropWhile (· == '-')
      let name := body.takeWhile (· != '=')
      match body.dropWhile (· != '=') with
      | [] => .option (.long name none)
      | _ :: value => .option (.long name (some (dropEquals value)))
  | '-' :: c :: rest => .option (.letters (c :: rest))
  | _ => .operand

/-!
# Scanning

The option that a word ends with may still want its value from the next word.
-/

/-- What a word adds: options that are complete, and perhaps one that waits for its value. -/
structure Scanned where
  options : List GivenOption
  waiting : Option OptionSpec
deriving DecidableEq

def scanLong (specs : List OptionSpec) (name : List Char) (inlineValue : Option (List Char)) :
    Except UsageError Scanned :=
  match specs.find? fun spec => spec.name == String.ofList name with
  | none => .error (.unknownOption (String.ofList name))
  | some spec =>
      if spec.rule = .noValue then
        .ok ⟨[⟨spec.name, none⟩], none⟩
      else
        match inlineValue with
        | none => .ok ⟨[], some spec⟩
        | some value => .ok ⟨[⟨spec.name, some (String.ofList value)⟩], none⟩

def scanLetters (specs : List OptionSpec) : List Char → Except UsageError Scanned
  | [] => .ok ⟨[], none⟩
  | c :: rest =>
      match specs.find? fun spec => spec.letter == some c with
      | none => .error (.unknownOption (String.singleton c))
      | some spec =>
          if spec.rule = .noValue then do
            let others ← scanLetters specs rest
            return { others with options := ⟨spec.name, none⟩ :: others.options }
          else
            match rest with
            | [] => .ok ⟨[], some spec⟩
            | value => .ok ⟨[⟨spec.name, some (String.ofList (dropEquals value))⟩], none⟩

def scanOption (specs : List OptionSpec) : OptionWord → Except UsageError Scanned
  | .long name inlineValue => scanLong specs name inlineValue
  | .letters letters => scanLetters specs letters

def addOptions (given : Arguments) (options : List GivenOption) : Arguments :=
  { given with options := given.options ++ options }

def addOperands (given : Arguments) (operands : List String) : Arguments :=
  { given with operands := given.operands ++ operands }

/-- The option that still waits gets the value, if it has any. -/
def settle (given : Arguments) (waiting : Option OptionSpec) (value : Option String) : Arguments :=
  given.addOptions (waiting.toList.map fun spec => ⟨spec.name, value⟩)

/-- No option may wait after the last word, unless there is a value to fall back on. -/
def finish (given : Arguments) (waiting : Option OptionSpec) : Except UsageError Arguments :=
  match waiting with
  | some ⟨name, _, .value⟩ => .error (.missingValue name)
  | _ => .ok (given.settle waiting none)

def scan (specs : List OptionSpec) (given : Arguments) (waiting : Option OptionSpec) :
    List String → Except UsageError Arguments
  | [] => given.finish waiting
  | word :: rest =>
      match classify word.toList with
      | .operand =>
          match waiting with
          | some _ => scan specs (given.settle waiting (some word)) none rest
          | none => scan specs (given.addOperands [word]) none rest
      | .endOfOptions => (given.addOperands (rest.filter (· != "--"))).finish waiting
      | .option optionWord =>
          match scanOption specs optionWord with
          | .error error => .error error
          | .ok ⟨options, next⟩ =>
              scan specs ((given.settle waiting none).addOptions options) next rest

/-!
# Repetitions

No option is given twice, with or without a value.
-/

def repeated? : List GivenOption → Option String
  | [] => none
  | option :: rest =>
      if rest.any fun other => other.name == option.name then
        some option.name
      else
        repeated? rest

def checked (given : Arguments) : Except UsageError Arguments :=
  match repeated? given.options with
  | some name => .error (.repeatedOption name)
  | none => .ok given

def parse (specs : List OptionSpec) (words : List String) : Except UsageError Arguments :=
  (scan specs empty none words).bind checked

def given (arguments : Arguments) (name : String) : Bool :=
  arguments.options.any fun option => option.name == name

def value? (arguments : Arguments) (name : String) : Option String :=
  (arguments.options.find? fun option => option.name == name).bind GivenOption.value

end Arguments
end Command
end SubtitleExchange
