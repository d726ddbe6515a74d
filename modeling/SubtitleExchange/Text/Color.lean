/-!
# Colours

The eight colours of teletext, numbered in the order of their control codes.
-/

namespace SubtitleExchange

inductive Color where
  | white
  | red
  | green
  | yellow
  | blue
  | magenta
  | cyan
  | black
deriving DecidableEq

namespace Color

def all : List Color :=
  [white, red, green, yellow, blue, magenta, cyan, black]

def code : Color → UInt8
  | white => 0
  | red => 1
  | green => 2
  | yellow => 3
  | blue => 4
  | magenta => 5
  | cyan => 6
  | black => 7

/-- Only the low three bits of a control code name the colour. -/
def ofCode (b : UInt8) : Color :=
  match b &&& 7 with
  | 0 => white
  | 1 => red
  | 2 => green
  | 3 => yellow
  | 4 => blue
  | 5 => magenta
  | 6 => cyan
  | _ => black

def name : Color → String
  | white => "White"
  | red => "Red"
  | green => "Green"
  | yellow => "Yellow"
  | blue => "Blue"
  | magenta => "Magenta"
  | cyan => "Cyan"
  | black => "Black"

def named? (name : List Char) : Option Color :=
  all.find? fun color => color.name.toList = name

/-- Red, green and blue parts. -/
def rgb : Color → UInt8 × UInt8 × UInt8
  | white => (255, 255, 255)
  | red => (255, 0, 0)
  | green => (0, 255, 0)
  | yellow => (255, 255, 0)
  | blue => (0, 0, 255)
  | magenta => (255, 0, 255)
  | cyan => (0, 255, 255)
  | black => (0, 0, 0)

theorem ofCode_code (c : Color) : ofCode c.code = c := by
  cases c <;> rfl

theorem named?_name (c : Color) : named? c.name.toList = some c := by
  cases c <;> decide

instance : Ord Color where
  compare a b := compare a.code b.code

end Color
end SubtitleExchange
