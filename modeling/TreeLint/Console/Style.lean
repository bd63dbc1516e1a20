/-
  TreeLint/Console/Style.lean
  ===========================
  **Names of styles**, as rich reads them.  A style is named by words: attributes, some of which have
  short names, `not` with an attribute, a colour, `on` with a colour for the background, and `link` with
  an address.  Names that mean the same have the same normal form: attributes in a fixed order, then the
  colour, the background and the link, of each of which the last one counts.  A name that cannot be read
  that way is a name of its own, without blanks around it and in lower case.

  A colour given by three parts of which one is empty, or has too many digits, is neither a colour nor a
  name but an error.
-/
import TreeLint.Text.Blank
import TreeLint.Text.Lowercase
import TreeLint.Text.Word

namespace TreeLint.Console.Style

open Text

/-! ### Attributes -/

/-- What can be switched on or off, in the order in which a normal form has them. -/
inductive Attribute where
  | bold
  | dim
  | italic
  | underline
  | blink
  | fastBlink
  | reverse
  | conceal
  | strike
  | doubleUnderline
  | frame
  | encircle
  | overline
  deriving DecidableEq, Repr

/-- The names of attributes; the first name of each is its name in a normal form. -/
def attributeNames : List (Attribute × List String) :=
  [(.bold, ["bold", "b"]), (.dim, ["dim", "d"]), (.italic, ["italic", "i"]),
   (.underline, ["underline", "u"]), (.blink, ["blink"]), (.fastBlink, ["blink2"]),
   (.reverse, ["reverse", "r"]), (.conceal, ["conceal", "c"]), (.strike, ["strike", "s"]),
   (.doubleUnderline, ["underline2", "uu"]), (.frame, ["frame"]), (.encircle, ["encircle"]),
   (.overline, ["overline", "o"])]

def Attribute.ofWord? (word : List Char) : Option Attribute :=
  (attributeNames.find? fun (_, names) => names.any (·.toList == word)).map (·.1)

/-! ### Colours -/

def colourNames : List String :=
  ["black", "red", "green", "yellow", "blue", "magenta", "cyan", "white", "bright_black",
   "bright_red", "bright_green", "bright_yellow", "bright_blue", "bright_magenta", "bright_cyan",
   "bright_white", "grey0", "gray0", "navy_blue", "dark_blue", "blue3", "blue1", "dark_green",
   "deep_sky_blue4", "dodger_blue3", "dodger_blue2", "green4", "spring_green4", "turquoise4",
   "deep_sky_blue3", "dodger_blue1", "green3", "spring_green3", "dark_cyan", "light_sea_green",
   "deep_sky_blue2", "deep_sky_blue1", "spring_green2", "cyan3", "dark_turquoise", "turquoise2",
   "green1", "spring_green1", "medium_spring_green", "cyan2", "cyan1", "dark_red", "deep_pink4",
   "purple4", "purple3", "blue_violet", "orange4", "grey37", "gray37", "medium_purple4",
   "slate_blue3", "royal_blue1", "chartreuse4", "dark_sea_green4", "pale_turquoise4", "steel_blue",
   "steel_blue3", "cornflower_blue", "chartreuse3", "cadet_blue", "sky_blue3", "steel_blue1",
   "pale_green3", "sea_green3", "aquamarine3", "medium_turquoise", "chartreuse2", "sea_green2",
   "sea_green1", "aquamarine1", "dark_slate_gray2", "dark_magenta", "dark_violet", "purple",
   "light_pink4", "plum4", "medium_purple3", "slate_blue1", "yellow4", "wheat4", "grey53",
   "gray53", "light_slate_grey", "light_slate_gray", "medium_purple", "light_slate_blue",
   "dark_olive_green3", "dark_sea_green", "light_sky_blue3", "sky_blue2", "dark_sea_green3",
   "dark_slate_gray3", "sky_blue1", "chartreuse1", "light_green", "pale_green1",
   "dark_slate_gray1", "red3", "medium_violet_red", "magenta3", "dark_orange3", "indian_red",
   "hot_pink3", "medium_orchid3", "medium_orchid", "medium_purple2", "dark_goldenrod",
   "light_salmon3", "rosy_brown", "grey63", "gray63", "medium_purple1", "gold3", "dark_khaki",
   "navajo_white3", "grey69", "gray69", "light_steel_blue3", "light_steel_blue", "yellow3",
   "dark_sea_green2", "light_cyan3", "light_sky_blue1", "green_yellow", "dark_olive_green2",
   "dark_sea_green1", "pale_turquoise1", "deep_pink3", "magenta2", "hot_pink2", "orchid",
   "medium_orchid1", "orange3", "light_pink3", "pink3", "plum3", "violet", "light_goldenrod3",
   "tan", "misty_rose3", "thistle3", "plum2", "khaki3", "light_goldenrod2", "light_yellow3",
   "grey84", "gray84", "light_steel_blue1", "yellow2", "dark_olive_green1", "honeydew2",
   "light_cyan1", "red1", "deep_pink2", "deep_pink1", "magenta1", "orange_red1", "indian_red1",
   "hot_pink", "dark_orange", "salmon1", "light_coral", "pale_violet_red1", "orchid2", "orchid1",
   "orange1", "sandy_brown", "light_salmon1", "light_pink1", "pink1", "plum1", "gold1",
   "navajo_white1", "misty_rose1", "thistle1", "yellow1", "light_goldenrod1", "khaki1", "wheat1",
   "cornsilk1", "grey100", "gray100", "grey3", "gray3", "grey7", "gray7", "grey11", "gray11",
   "grey15", "gray15", "grey19", "gray19", "grey23", "gray23", "grey27", "gray27", "grey30",
   "gray30", "grey35", "gray35", "grey39", "gray39", "grey42", "gray42", "grey46", "gray46",
   "grey50", "gray50", "grey54", "gray54", "grey58", "gray58", "grey62", "gray62", "grey66",
   "gray66", "grey70", "gray70", "grey74", "gray74", "grey78", "gray78", "grey82", "gray82",
   "grey85", "gray85", "grey89", "gray89", "grey93", "gray93"]

/-- A hexadecimal digit, letters in lower case. -/
def isHexDigit (c : Char) : Bool := c.isDigit || ('a' ≤ c && c ≤ 'f')

/-- A part of a colour that is no number. -/
inductive ColourError where
  | emptyPart
  | longPart (digits : Nat)
  deriving DecidableEq, Repr

def partLimit : Nat := 4300

def ColourError.message : ColourError → String
  | .emptyPart => "invalid literal for int() with base 10: ''"
  | .longPart digits =>
    "Exceeds the limit (" ++ toString partLimit
      ++ " digits) for integer string conversion: value has " ++ toString digits
      ++ " digits; use sys.set_int_max_str_digits() to increase the limit"

/-- The number that decimal digits of any script spell. -/
def decimalValue (digits : List Char) : Nat :=
  digits.foldl (fun n c => n * 10 + (digitValue? c).getD 0) 0

def partValue (digits : List Char) : Except ColourError Nat :=
  if digits.isEmpty then .error .emptyPart
  else if partLimit < digits.length then .error (.longPart digits.length)
  else .ok (decimalValue digits)

def argument? (word : String) (cs : List Char) : Option (List Char) :=
  let opening := word.toList ++ ['(']
  if opening.isPrefixOf cs && cs.getLast? == some ')' then some (cs.drop opening.length).dropLast
  else none

def isColourIndex (digits : List Char) : Bool :=
  !digits.isEmpty && digits.length ≤ 3 && digits.all Char.isDigit && decimalValue digits ≤ 255

/-- Whether a text is the three parts of a colour, each up to 255. -/
def isTriple (cs : List Char) : Except ColourError Bool :=
  let parts := divide ',' cs
  if (cs.all fun c => c == ',' || isDecimalDigit c) && !cs.isEmpty && parts.length == 3 then
    (parts.mapM partValue).map fun values => values.all (· ≤ 255)
  else .ok false

/-- Whether a text is a colour given by numbers: six hexadecimal digits, an index, or three parts. -/
def isNumericColour (cs : List Char) : Except ColourError Bool :=
  match cs with
  | '#' :: digits => .ok (digits.length == 6 && digits.all isHexDigit)
  | _ =>
    match argument? "color" cs, argument? "rgb" cs with
    | some index, _ => .ok (isColourIndex index)
    | none, some parts => isTriple parts
    | none, none => .ok false

def isColour (cs : List Char) : Except ColourError Bool :=
  if cs == "default".toList || colourNames.any (·.toList == cs) then .ok true else isNumericColour cs

/-! ### Reading names -/

def blankSeparated (cs : List Char) : List (List Char) :=
  (cs.splitBy fun a b => isBlank a == isBlank b).filter fun word => !word.all isBlank

structure Parts where
  switches : List (Attribute × Bool) := []
  colour : Option (List Char) := none
  background : Option (List Char) := none
  link : Option (List Char) := none
  deriving DecidableEq, Repr

def Parts.switch (parts : Parts) (a : Attribute) (on : Bool) : Parts :=
  { parts with switches := (a, on) :: parts.switches }

/-- Reads the words of a name, after what has been read already; `none` for words that are no style. -/
def Parts.read (parts : Parts) : List (List Char) → Except ColourError (Option Parts)
  | [] => .ok (some parts)
  | word :: rest =>
    let name := lower word
    if name = "on".toList then
      match rest with
      | [] => .ok none
      | colour :: others =>
        match isColour (lower colour) with
        | .error e => .error e
        | .ok false => .ok none
        | .ok true => Parts.read { parts with background := some (lower colour) } others
    else if name = "not".toList then
      match rest with
      | [] => .ok none
      | target :: others =>
        match Attribute.ofWord? target with
        | some a => Parts.read (parts.switch a false) others
        | none => .ok none
    else if name = "link".toList then
      match rest with
      | [] => .ok none
      | address :: others => Parts.read { parts with link := some address } others
    else match Attribute.ofWord? name with
      | some a => Parts.read (parts.switch a true) rest
      | none =>
        match isColour name with
        | .error e => .error e
        | .ok false => .ok none
        | .ok true => Parts.read { parts with colour := some name } rest

/-! ### Normal forms -/

/-- The words for an attribute: none unless it was switched. -/
def Parts.attributeWords (parts : Parts) : Attribute × List String → List (List Char)
  | (a, names) =>
    match parts.switches.find? (·.1 == a) with
    | none => []
    | some (_, true) => (names.head?.map String.toList).toList
    | some (_, false) => "not".toList :: (names.head?.map String.toList).toList

def Parts.words (parts : Parts) : List (List Char) :=
  attributeNames.flatMap parts.attributeWords ++ parts.colour.toList
    ++ (parts.background.toList.flatMap fun c => ["on".toList, c])
    ++ (parts.link.toList.flatMap fun c => ["link".toList, c])

def normalForm (cs : List Char) : Except ColourError (List Char) :=
  (Parts.read {} (blankSeparated cs)).map fun
    | some parts => [' '].intercalate parts.words
    | none => lower (trim cs)

end TreeLint.Console.Style
