import LinkShot.Text.CharSet

/-!
The direction in which the characters of a domain name are written. A name with a character that is
written from right to left has to keep every label readable.
-/
namespace LinkShot.Domain

open Text (CharSet)

inductive Direction where
  | left
  | right
  | arabic
  | arabicNumber
  | number
  | sign
  | separator
  | unit
  | neutral
  | boundary
  | mark
  deriving DecidableEq, Repr

/-- Characters of right-to-left scripts. -/
def rightTable : String :=
  "1470,1 1,1 2,1 2,1 9,37 459,43 9,2 4,1 3,24 4,1 9,1 3,1 7,41 5,1 65441,284 4,225 15,38 10,165
    6,75 10,448 64,80 240,42 3,5 78,40 72,18 4,113 55305,208 82,34 7,21"

/-- Letters of Arabic script and its relatives. -/
def arabicTable : String :=
  "1544,1 2,1 1,1 13,48 34,3 1,101 15,2 7,2 10,23 1,30 29,89 11,1 174,56 8,42 62184,33 445,63
    164,1 3724,36 414,59 51,22 11,9 56599,205"

/-- Numbers within right-to-left text. -/
def arabicNumberTable : String :=
  "1632,10 1,2 67267,10 294,31"

/-- European numbers. -/
def numberTable : String :=
  "48,10 1718,10 64487,27"

/-- Signs of European numbers. -/
def signTable : String :=
  "43,1 1,1 8676,1"

/-- Separators of numbers. -/
def separatorTable : String :=
  "44,1 1,2 10,1 1489,1 6711,1"

/-- Units of European numbers. -/
def unitTable : String :=
  "35,3 124,4 10,2 1245,1 121,2 95,1 903,2 7,1 245,1 263,1 581,1 2459,1 2132,3 109,34 108,1 228,1
    34340,2 30627,4 49950,1"

/-- Neutral characters. -/
def neutralTable : String :=
  "33,2 3,5 16,38 26,4 34,1 4,9 7,34 31,1 449,2 7,14 2,28 1,17 117,1 128,1 403,5 119,2 6,2 206,1
    10,1 268,4 1017,6 1,1 125,7 699,4 1106,10 102,1 666,2 339,27 309,6 152,34 1552,24 13,15 1,26
    165,38 16,20 60,136 2,290 69,26 1,145 25,620 1,339 256,662 1,105 229,6 14,7 256,517 3,25 15,1
    6,1 5,3 96,1 90,1 196,36 7132,64 22160,55 326,3 99,1 10,2 128,34 102,1 159,4 72,4 754,2
    20946,18 127,49 69,2 698,1 62,77 3,17 1918,1 537,7 1298,20 1530,13 2408,8 4,17 20464,1
    25094,89 3,1 186,87 7065,576 61,3 61,1 178,1144 4,155 4,311 78,340 12,41 7,46 1,7 8,14 4,9
    7,219"

/-- Characters without a direction of their own. -/
def boundaryTable : String :=
  "0,9 5,14 99,1 8076,2"

/-- Marks, which take the direction of what they stand on. -/
def markTable : String :=
  "768,112 275,7 263,45 1,1 1,2 1,2 1,1 72,11 48,21 16,1 101,7 2,6 2,2 1,4 35,1 30,27 91,11 58,9
    9,1 24,4 1,9 1,3 1,5 43,3 60,8 42,57 55,1 1,1 4,8 4,1 3,7 10,2 29,1 58,1 4,4 8,1 20,2 26,5
    57,1 4,17 30,2 3,1 11,2 57,1 4,8 4,1 20,2 22,8 58,1 2,1 1,4 8,10 11,2 30,1 61,1 12,1 50,1 3,1
    55,1 1,3 5,17 11,2 29,1 58,1 15,2 20,2 28,2 57,2 4,4 8,1 20,2 29,1 72,1 7,5 90,1 2,7 12,8 98,1
    2,9 11,7 73,2 27,1 1,1 1,1 55,14 1,5 1,2 5,48 9,1 102,4 1,6 1,2 2,2 25,2 4,3 16,4 13,1 2,2 6,1
    15,1 703,3 946,3 29,2 30,2 30,2 67,7 8,1 2,11 9,1 167,2 34,1 118,3 4,2 9,1 6,3 219,2 2,1 58,1
    1,9 1,1 2,8 6,13 48,31 49,4 48,1 1,5 1,1 5,1 40,9 12,2 32,4 2,2 1,3 56,1 1,2 3,1 1,3 58,8 2,2
    152,3 1,13 1,7 4,1 6,1 3,2 198,64 720,33 3070,3 141,1 96,32 554,4 107,2 30164,4 1,10 32,2 80,2
    272,1 3,1 4,1 25,2 5,1 151,2 26,18 13,1 38,8 25,11 46,3 48,1 2,4 2,2 39,1 67,6 2,2 2,2 12,1
    8,1 47,1 51,1 1,3 2,2 5,2 1,1 42,2 8,1 238,1 2,1 4,1 20272,1 769,16 973,1 226,1 149,5 1670,15
    40,8 165,2 573,4 387,2 80,3 70,11 49,4 123,1 54,15 41,1 2,2 10,3 49,4 2,2 7,1 61,3 36,5 1,8
    62,1 12,2 52,9 10,4 2,1 95,3 2,1 1,2 6,1 2,1 157,1 3,8 21,2 57,2 3,1 37,15 195,8 2,3 1,1 23,1
    84,6 1,1 4,2 1,2 238,4 6,2 1,2 27,2 85,8 2,1 1,2 106,1 1,1 2,6 1,1 101,3 2,4 1,5 259,9 1,2
    256,2 1,1 4,1 144,8 4,1 32,6 2,2 40,6 2,4 8,1 9,6 2,3 46,13 1,2 406,14 84,22 2,7 1,2 1,2
    122,21 1,1 72,2 3,1 1,1 347,2 11,2 52,5 5,1 1,1 5373,1 6,15 13978,5 59,7 1048,1 63,4 81,1
    19640,2 4705,71 544,3 17,8 2,7 30,4 148,3 1979,55 4,50 8,1 14,1 22,21 1360,144 160,7 375,1
    61,4 508,4 992,7 109,7"

/-- All directions but the usual one, each with its characters. -/
def directionSets : List (Direction × CharSet) :=
  [(.right, .ofGaps rightTable), (.arabic, .ofGaps arabicTable),
    (.arabicNumber, .ofGaps arabicNumberTable), (.number, .ofGaps numberTable),
    (.sign, .ofGaps signTable), (.separator, .ofGaps separatorTable), (.unit, .ofGaps unitTable),
    (.neutral, .ofGaps neutralTable), (.boundary, .ofGaps boundaryTable),
    (.mark, .ofGaps markTable)]

def direction (c : Char) : Direction :=
  match directionSets.find? (·.2.has c) with
  | some (d, _) => d
  | none => .left

/-- The directions that make a name one with right-to-left text. -/
def Direction.turns (d : Direction) : Bool := d == .right || d == .arabic || d == .arabicNumber

/-- Directions that a label may have besides its own. -/
def Direction.goesAlong (d : Direction) : Bool :=
  d == .number || d == .sign || d == .separator || d == .unit || d == .neutral || d == .boundary ||
    d == .mark

/-- The directions of a label without the marks at its end, reversed. -/
def endingOf (ds : List Direction) : List Direction := ds.reverse.dropWhile (· == .mark)

def endsWith (ends : Direction → Bool) (ds : List Direction) : Bool :=
  match endingOf ds with
  | d :: _ => ends d
  | [] => false

def isRightToLeft (ds : List Direction) : Bool :=
  ds.all (fun d => d.turns || d.goesAlong) &&
    endsWith (fun d => d.turns || d == .number) ds &&
    !(ds.contains .number && ds.contains .arabicNumber)

def isLeftToRight (ds : List Direction) : Bool :=
  ds.all (fun d => d == .left || d.goesAlong) && endsWith (fun d => d == .left || d == .number) ds

/-- A label goes in the direction of its first character, which has one of its own. -/
def isOneWay (label : List Char) : Bool :=
  match label.map direction with
  | [] => true
  | .left :: rest => isLeftToRight (.left :: rest)
  | .right :: rest => isRightToLeft (.right :: rest)
  | .arabic :: rest => isRightToLeft (.arabic :: rest)
  | _ => false

/-- Whether the labels of a name are readable. -/
def areReadable (labels : List (List Char)) : Bool :=
  if labels.any (·.any (direction · |>.turns)) then labels.all isOneWay else true

end LinkShot.Domain
