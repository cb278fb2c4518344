import DevConsole.Numeral
import DevConsole.Text.Case

/-! # Colors

A color has four channels of eight bits.  It can be given by name, in any ASCII case,
or in hexadecimal after a number sign, with or without the alpha channel.
-/
namespace DevConsole

/-- A color: red, green, blue and alpha. -/
structure Color where
  r : UInt8
  g : UInt8
  b : UInt8
  a : UInt8
deriving DecidableEq

namespace Color

/-- The color of three channels without any transparency. -/
def solid (r g b : UInt8) : Color := ⟨r, g, b, 255⟩

/-- The same color with another alpha channel. -/
def withAlpha (c : Color) (a : UInt8) : Color := { c with a }

def black : Color := solid 0 0 0
def white : Color := solid 255 255 255
def gray : Color := solid 128 128 128
def red : Color := solid 255 0 0
def lime : Color := solid 0 255 0
def yellow : Color := solid 255 255 0
def gold : Color := solid 255 215 0
def aqua : Color := solid 0 255 255
def transparent : Color := ⟨0, 0, 0, 0⟩

/-- The named colors, in the order in which they are listed. -/
def named : List (String × Color) := [
  ("Transparent", .transparent), ("AliceBlue", .solid 240 248 255),
  ("AntiqueWhite", .solid 250 235 215), ("Aqua", .aqua), ("Aquamarine", .solid 127 255 212),
  ("Azure", .solid 240 255 255), ("Beige", .solid 245 245 220), ("Black", .black),
  ("Blue", .solid 0 0 255), ("BlueViolet", .solid 138 43 226), ("Brown", .solid 165 42 42),
  ("CadetBlue", .solid 95 158 160), ("Chartreuse", .solid 127 255 0),
  ("Chocolate", .solid 210 105 30), ("Coral", .solid 255 127 80),
  ("CornflowerBlue", .solid 100 149 237), ("Crimson", .solid 220 20 60),
  ("Cyan", .solid 0 255 255), ("DarkBlue", .solid 0 0 139), ("DarkCyan", .solid 0 139 139),
  ("DarkGoldenrod", .solid 184 134 11), ("DarkGray", .solid 169 169 169),
  ("DarkGreen", .solid 0 100 0), ("DarkMagenta", .solid 139 0 139),
  ("DarkOrange", .solid 255 140 0), ("DarkRed", .solid 139 0 0),
  ("DarkViolet", .solid 148 0 211), ("DeepPink", .solid 255 20 147),
  ("DeepSkyBlue", .solid 0 191 255), ("DimGray", .solid 105 105 105),
  ("DodgerBlue", .solid 30 144 255), ("Firebrick", .solid 178 34 34),
  ("ForestGreen", .solid 34 139 34), ("Fuchsia", .solid 255 0 255), ("Gold", .gold),
  ("Goldenrod", .solid 218 165 32), ("Gray", .gray), ("Green", .solid 0 128 0),
  ("GreenYellow", .solid 173 255 47), ("HotPink", .solid 255 105 180),
  ("IndianRed", .solid 205 92 92), ("Indigo", .solid 75 0 130), ("Ivory", .solid 255 255 240),
  ("Khaki", .solid 240 230 140), ("Lavender", .solid 230 230 250),
  ("LawnGreen", .solid 124 252 0), ("LightBlue", .solid 173 216 230),
  ("LightCoral", .solid 240 128 128), ("LightGray", .solid 211 211 211),
  ("LightGreen", .solid 144 238 144), ("LightPink", .solid 255 182 193),
  ("LightSkyBlue", .solid 135 206 250), ("LightYellow", .solid 255 255 224), ("Lime", .lime),
  ("LimeGreen", .solid 50 205 50), ("Magenta", .solid 255 0 255), ("Maroon", .solid 128 0 0),
  ("MediumPurple", .solid 147 112 219), ("MidnightBlue", .solid 25 25 112),
  ("Navy", .solid 0 0 128), ("Olive", .solid 128 128 0), ("Orange", .solid 255 165 0),
  ("OrangeRed", .solid 255 69 0), ("Orchid", .solid 218 112 214), ("Pink", .solid 255 192 203),
  ("Plum", .solid 221 160 221), ("Purple", .solid 128 0 128), ("Red", .red),
  ("RoyalBlue", .solid 65 105 225), ("Salmon", .solid 250 128 114),
  ("SeaGreen", .solid 46 139 87), ("Silver", .solid 192 192 192),
  ("SkyBlue", .solid 135 206 235), ("SlateGray", .solid 112 128 144),
  ("SpringGreen", .solid 0 255 127), ("SteelBlue", .solid 70 130 180),
  ("Tan", .solid 210 180 140), ("Teal", .solid 0 128 128), ("Tomato", .solid 255 99 71),
  ("Turquoise", .solid 64 224 208), ("Violet", .solid 238 130 238),
  ("Wheat", .solid 245 222 179), ("White", .white), ("WhiteSmoke", .solid 245 245 245),
  ("Yellow", .yellow), ("YellowGreen", .solid 154 205 50)]

/-- The names of the named colors. -/
def names : List String := named.map Prod.fst

/-- The color of a name, in any ASCII case. -/
def ofName? (name : String) : Option Color :=
  (named.find? fun entry => Text.sameIgnoringAsciiCase entry.1 name).map Prod.snd

/-- The color that `#RRGGBB` or `#RRGGBBAA` writes. -/
def ofHex? (s : String) : Option Color :=
  match s.toList with
  | ['#', r, r', g, g', b, b'] => do
    return solid (← Numeral.hexByte? r r') (← Numeral.hexByte? g g') (← Numeral.hexByte? b b')
  | ['#', r, r', g, g', b, b', a, a'] => do
    return ⟨← Numeral.hexByte? r r', ← Numeral.hexByte? g g', ← Numeral.hexByte? b b',
      ← Numeral.hexByte? a a'⟩
  | _ => none

end Color

end DevConsole
