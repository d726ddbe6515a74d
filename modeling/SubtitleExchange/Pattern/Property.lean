import SubtitleExchange.Character.Age
import SubtitleExchange.Character.Property
import SubtitleExchange.Pattern.Fault
import SubtitleExchange.Pattern.Node
import SubtitleExchange.Pattern.PropertyNames

/-!
# Properties of characters

Names are compared loosely: case does not count, nor do spaces, dashes and underscores, nor the word
"is" at the start. A property by its name alone is a binary one, or stands for a general category or
a script.
-/

namespace SubtitleExchange
namespace Pattern
namespace Property

def startsWithIs : List Char → Bool
  | i :: s :: _ => i.toLower == 'i' && s.toLower == 's'
  | _ => false

def isIgnored (c : Char) : Bool :=
  c == ' ' || c == '_' || c == '-' || 0x80 ≤ c.toNat

/-- The form of a name in which names are compared. One name is short for a property although it
starts as if it were another one. -/
def loosened (name : String) : List Char :=
  let cs := name.toList
  let proper := if startsWithIs cs then cs.drop 2 else cs
  let kept := (proper.filter fun c => !isIgnored c).map Char.toLower
  if startsWithIs cs && kept == ['c'] then ['i', 's', 'c'] else kept

/-- The name is one of several, loosely compared. -/
def isOneOf (names : List String) (name : String) : Bool :=
  (names.map loosened).contains (loosened name)

/-- Sets by their names in the form in which names are compared. -/
abbrev Index := List (List Char × CharSet)

def indexOf (sets : List NamedSet) : Index :=
  sets.flatMap fun set => set.names.map fun name => (loosened name, set.chars)

def categories : Index := indexOf CharSet.categories

def properties : Index := indexOf CharSet.properties

def scripts : Index := indexOf Script.sets

def extendedScripts : Index := indexOf Script.extendedSets

def ages : Index := indexOf Age.sets

def graphemeBreaks : Index := indexOf GraphemeBreak.sets

def sentenceBreaks : Index := indexOf SentenceBreak.sets

def wordBreaks : Index := indexOf WordBreak.sets

def find? (index : Index) (name : String) : Option CharSet :=
  index.lookup (loosened name)

/-!
# Queries

A query finds a set of characters, or it is at fault for the property or for the value.
-/

def category (name : String) (otherwise : Except FaultKind CharSet) : Except FaultKind CharSet :=
  match find? categories name with
  | some set => .ok set
  | none =>
      if isOneOf PropertyNames.surrogates name then .error .propertyValueUnknown else otherwise

/-- A script, by its own characters or by all that are used in it. -/
def script (index : Index) (name : String) (otherwise : Except FaultKind CharSet) :
    Except FaultKind CharSet :=
  match find? index name with
  | some set => .ok set
  | none =>
      if isOneOf PropertyNames.emptyScripts name then .error .propertyValueUnknown else otherwise

/-- Short names that are those of a category and not of the property that has them too. -/
def categoryFirst : List String := ["cf", "sc", "lc"]

def looseOthers : List (List Char) := PropertyNames.others.map loosened

/-- The name is one of a property that cannot be asked for. -/
def isOther (name : String) : Bool :=
  looseOthers.contains (loosened name)

def byName (name : String) : Except FaultKind CharSet :=
  let others := category name (script scripts name (.error .propertyUnknown))
  if isOneOf categoryFirst name then
    others
  else
    match find? properties name with
    | some set => .ok set
    | none =>
        if isOther name then .error .propertyUnknown else others

def oneOf (index : Index) (value : String) : Except FaultKind CharSet :=
  match find? index value with
  | some set => .ok set
  | none => .error .propertyValueUnknown

def byValue (name value : String) : Except FaultKind CharSet :=
  let unknown : Except FaultKind CharSet := .error .propertyValueUnknown
  if isOneOf PropertyNames.generalCategory name then category value unknown
  else if isOneOf PropertyNames.script name then script scripts value unknown
  else if isOneOf PropertyNames.scriptExtensions name then script extendedScripts value unknown
  else if isOneOf PropertyNames.age name then oneOf ages value
  else if isOneOf PropertyNames.graphemeBreak name then oneOf graphemeBreaks value
  else if isOneOf PropertyNames.sentenceBreak name then oneOf sentenceBreaks value
  else if isOneOf PropertyNames.wordBreak name then oneOf wordBreaks value
  else if isOther name || (find? properties name).isSome then unknown
  else .error .propertyUnknown

def resolve (query : PropertyQuery) : Except FaultKind CharSet :=
  match query.value with
  | none => byName query.name
  | some value => byValue query.name value

end Property
end Pattern
end SubtitleExchange
