import LinkShot.Domain.Composed

/-!
Joiners: two invisible characters that ask for joined or separate forms of their neighbours. A
domain name may have them only where they make a difference.
-/
namespace LinkShot.Domain

open Text (CharSet)

/-- Characters that join the one before them. -/
def joinsBeforeTable : String :=
  "1570,4 1,1 1,1 5,4 21,1 40,3 1,3 16,18 38,1 2,9 1,1 1,1 2,2 1,1 24,2 32,1 4,5 4,1 9,1 1,1 1,1
    2,1 29,1 11,3 15,2 4,1 1,2 3,2 198,1 5,2 1,1 10,1 1,3 14,1 1,2 5,19 11,1 27,3 1,1 2,2 6,1
    66059,1 1,1 1,2 3,5 10,1 3,1 2,1 10,1 145,1 1,3 3,1 2,1 1,2 1,1 23,4 373,1 415,1 112,1 32,1
    31,2 62,3 2,2 2,1 4,2 5,1"

/-- Characters that join the one after them. -/
def joinsAfterTable : String :=
  "43122,1 25178,1 9,1 552,1 714,1"

/-- Characters that join both. -/
def joinsBothTable : String :=
  "1568,1 5,1 1,1 1,5 4,13 1,7 1,2 35,2 8,16 18,38 1,2 9,1 1,1 1,2 40,3 2,1 18,3 5,4 1,9 1,1 1,1
    1,2 31,11 3,15 2,4 1,1 2,3 2,6 74,33 86,5 2,1 1,10 1,1 10,1 1,4 2,1 29,1 2,5 1,1 16,10 5,2 2,6
    1,15 3902,1 24,89 14,34 1,1 36757,50 25166,5 14,4 1,5 1,3 10,4 145,1 1,1 3,3 1,2 1,1 2,1 28,2
    338,33 1,1 415,2 1,2 104,3 1,17 12,3 28,4 2,12 46,1 1,2 4,1 2,2 1,2 1,1 2,1 5,1 55605,68"

/-- Characters that joining looks through. -/
def transparentTable : String :=
  "173,1 594,112 275,7 263,45 1,1 1,2 1,2 1,1 72,11 1,1 46,21 16,1 101,7 2,6 2,2 1,4 33,1 1,1
    30,27 91,11 58,9 9,1 24,4 1,9 1,3 1,5 43,3 59,9 42,24 1,32 55,1 1,1 4,8 4,1 3,7 10,2 29,1 58,1
    4,4 8,1 20,2 26,1 2,2 57,1 4,2 4,2 2,3 3,1 30,2 3,1 11,2 57,1 4,5 1,2 4,1 20,2 22,6 1,1 58,1
    2,1 1,4 8,1 7,2 11,2 30,1 61,1 12,1 50,1 3,1 55,1 1,3 5,3 1,4 7,2 11,2 29,1 58,1 2,1 6,1 5,2
    20,2 28,2 57,2 4,4 8,1 20,2 29,1 72,1 7,3 1,1 90,1 2,7 12,8 98,1 2,9 11,7 73,2 27,1 1,1 1,1
    55,14 1,5 1,2 5,11 1,36 9,1 102,4 1,6 1,2 2,2 25,2 4,3 16,4 13,1 2,2 6,1 15,1 703,3 946,3 29,2
    30,2 30,2 64,2 1,7 8,1 2,11 9,1 45,3 1,1 117,2 34,1 118,3 4,2 9,1 6,3 219,2 2,1 58,1 1,7 1,1
    1,1 2,8 6,10 2,1 48,46 2,12 20,4 48,1 1,5 1,1 5,1 40,9 12,2 32,4 2,2 1,3 56,1 1,2 3,1 1,3 58,8
    2,2 152,3 1,13 1,7 4,1 6,1 3,2 198,64 523,1 2,2 26,5 49,5 5,6 96,33 3070,3 141,1 96,32 554,4
    107,2 30164,4 1,10 32,2 80,2 272,1 3,1 4,1 25,2 5,1 151,2 26,18 13,1 38,8 25,11 46,3 48,1 2,4
    2,2 39,1 67,6 2,2 2,2 12,1 8,1 47,1 51,1 1,3 2,2 5,2 1,1 42,2 8,1 238,1 2,1 4,1 20272,1 737,16
    16,16 207,1 249,3 513,1 226,1 149,5 1670,3 1,2 5,4 40,3 4,1 165,2 573,4 65,5 317,2 77,6 70,11
    49,4 123,1 54,15 41,1 2,2 10,3 49,4 2,2 7,1 61,3 36,5 1,8 62,1 12,2 52,9 10,4 2,1 95,3 2,1 1,2
    6,1 2,1 157,1 3,8 21,2 57,2 3,1 37,7 3,5 70,6 13,1 1,1 1,1 14,2 85,8 2,3 1,1 23,1 84,6 1,1 4,2
    1,2 238,4 6,2 1,2 27,2 85,8 2,1 1,2 106,1 1,1 2,6 1,1 101,1 1,1 2,4 1,5 259,9 1,2 256,2 1,1
    4,1 144,4 2,2 4,1 32,10 40,6 2,4 8,1 9,6 2,3 46,13 1,2 198,1 1,3 1,1 201,7 1,6 1,1 82,22 2,7
    1,2 1,2 122,6 3,1 1,2 1,7 1,1 72,2 3,1 1,1 347,2 11,2 52,5 5,1 1,1 23,1 5333,17 6,15 11464,12
    3,3 2496,5 59,7 1048,1 63,4 81,1 19640,2 1,4 4700,46 2,23 544,3 9,16 2,7 30,4 148,3 1979,55
    4,50 8,1 14,1 22,5 1,15 1360,7 1,17 2,7 1,2 1,5 100,1 160,7 375,1 61,4 508,4 254,2 243,1 2,1
    7,2 5,1 474,7 109,8 792245,1 30,96 128,240"

def joinsBefore : CharSet := .union (.ofGaps joinsBeforeTable) (.ofGaps joinsBothTable)

def joinsAfter : CharSet := .union (.ofGaps joinsAfterTable) (.ofGaps joinsBothTable)

def transparent : CharSet := .ofGaps transparentTable

/-- The class of the marks that take a consonant's vowel away. -/
def vowelKillerClass : Nat := 9

/-- Whether the first character that is not looked through is one of a set. -/
def meets (s : CharSet) (cs : List Char) : Bool :=
  match cs.dropWhile transparent.has with
  | c :: _ => s.has c
  | [] => false

def afterKiller : List Char → Bool
  | c :: _ => markClass c == vowelKillerClass
  | [] => false

/-- Whether the joiners of a label stand where they may; `before` is what precedes, reversed. -/
def joinersFit (before : List Char) : List Char → Bool
  | [] => true
  | c :: rest =>
    let fits :=
      if c.toNat = 0x200C then
        afterKiller before || (meets joinsAfter before && meets joinsBefore rest)
      else if c.toNat = 0x200D then afterKiller before
      else true
    fits && joinersFit (c :: before) rest

end LinkShot.Domain
