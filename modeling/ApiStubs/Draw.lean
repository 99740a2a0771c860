import ApiStubs.Calendar
import ApiStubs.Settings
import ApiStubs.Text.Hex

/- Draws of example values. A generator is its locale and the number of the next draw, which starts at
   the seed; a draw is a function of that number, and the generator then counts one further. -/

set_option autoImplicit false

namespace ApiStubs

open ApiStubs.Decimal ApiStubs.Text

structure Generator where
  locale : String
  next : Int
deriving DecidableEq, Inhabited

namespace Generator

-- Without a seed the first draw is that of seed 0.
def start (settings : Settings) : Generator :=
  ⟨settings.locale, settings.seed.getD 0⟩

def advance (g : Generator) : Generator :=
  { g with next := g.next + 1 }

def place (g : Generator) (count : Nat) : Nat :=
  (g.next.emod count).toNat

def element (g : Generator) (first : Value) (rest : List Value) : Value :=
  (first :: rest).getD (g.place (rest.length + 1)) first

def identifier (g : Generator) : String :=
  String.ofList (hexDigits 8 (g.place 0x100000000)) ++ "-0000-4000-8000-000000000000"

def moment (g : Generator) : DateTime :=
  ⟨⟨2000 + g.place 30, 1 + g.place 12, 1 + g.place 28⟩, g.place 24, g.place 60,
    ((7 * g.next).emod 60).toNat, 0, none⟩

def momentText (g : Generator) (pattern : String) : String :=
  g.moment.format pattern

def sentence (g : Generator) : String :=
  "Sentence " ++ intText g.next ++ " " ++ g.locale ++ "."

-- A whole number from `least` to `greatest`.
def number (g : Generator) (least greatest : Nat) : Int :=
  least + (37 * g.next).emod (greatest - least + 1 : Nat)

def coin (g : Generator) : Bool :=
  g.next.emod 2 == 1

end Generator

end ApiStubs
