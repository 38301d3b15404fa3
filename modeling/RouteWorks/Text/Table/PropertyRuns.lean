/-!
# Contributory property runs

The code points that a derived property adds to the general categories it is made of. Each table
is a list of pairs: how many code points to skip, and how many then have the property.
-/

namespace RouteWorks.Text.Table

/-- Alphabetic code points that are neither letters nor letter numbers. -/
def otherAlphabetic : String := String.join [
    "837 1 618 14 1 1 1 2 1 2 1 1 72 11 48 13 1 7 16 1 101 7 4 4 2 2 4 1 35 1 30 16 102 11 101 ",
    "2 3 9 1 3 1 4 106 1 60 12 3 7 6 20 54 2 2 15 1 2 5 3 10 2 29 3 58 7 2 2 2 2 10 1 10 2 29 3 ",
    "58 5 4 2 2 2 4 1 30 2 3 1 11 3 58 8 1 3 1 2 21 2 22 3 4 3 58 7 2 2 2 2 9 2 10 2 30 1 59 5 ",
    "3 3 1 3 10 1 40 5 57 7 1 3 1 3 8 2 11 2 29 3 58 7 1 3 1 3 8 2 11 2 15 1 12 4 58 7 1 3 1 3 ",
    "10 1 10 2 29 3 75 6 1 1 1 8 18 2 61 1 2 7 18 1 99 1 2 6 1 2 16 1 163 19 9 11 1 36 110 12 1 ",
    "1 2 4 23 4 4 3 1 3 2 7 3 4 13 12 1 1 10 4 1652 2 30 2 30 2 30 2 66 19 188 2 34 1 118 12 4 ",
    "9 222 5 57 10 2 20 74 2 11 3 49 5 48 15 60 3 30 9 2 2 57 11 50 19 432 14 1729 52 2294 32 ",
    "30836 8 34 2 354 1 8 1 23 5 88 2 50 16 1 1 57 1 38 5 28 12 45 4 48 12 37 1 67 14 12 1 8 2 ",
    "45 3 50 1 1 3 2 2 5 1 44 5 5 1 237 8 20275 1 2135 5 1670 3 1 2 5 4 788 4 65 1 321 2 339 3 ",
    "53 14 45 2 11 3 45 9 9 1 61 3 36 12 18 2 57 3 48 13 14 2 92 9 2 1 6 4 157 10 23 4 58 7 2 2 ",
    "2 2 10 1 10 2 84 9 1 1 2 1 1 4 1 2 103 13 1 3 106 18 237 7 2 7 29 2 82 15 1 1 106 11 103 ",
    "14 257 13 247 6 1 2 2 2 3 1 1 1 142 7 2 6 4 1 28 10 42 5 1 4 18 11 46 14 407 8 1 7 83 22 1 ",
    "14 122 6 3 1 1 2 1 3 1 1 3 1 66 5 1 2 1 4 348 4 9 17 1 41 3 3 5358 1 17 6 11479 17 3616 1 ",
    "1 55 7 4 93 2 16704 1 34 1 2888 1 8838 6 213 7 1 17 2 7 1 2 1 5 5 62 33 1 1088 28 1115 1 ",
    "2024 26 6 26 6 26 50607 1 23574 4192"]

/-- Uppercase code points outside the category of uppercase letters. -/
def otherUppercase : String := String.join [
    "8544 16 838 26 117856 26 6 26 6 26"]

/-- Lowercase code points outside the category of lowercase letters. -/
def otherLowercase : String := String.join [
    "170 1 15 1 501 9 7 2 30 5 96 1 52 1 6577 63 13 1 34 37 689 1 13 1 16 13 211 16 848 26 1938 ",
    "2 31262 2 210 1 135 2 866 4 23584 1 2 3 1 42 1 9"]

/-- Grapheme extenders that are neither nonspacing nor enclosing marks. -/
def otherGraphemeExtend : String := String.join [
    "2494 1 24 1 358 1 24 1 102 1 24 1 232 1 1 1 4 2 1 2 9 2 103 1 24 1 119 1 15 1 238 1 3174 1 ",
    "5 1 1 1 5 2 101 1 71 2 1048 1 4129 2 31011 1 108 1 21981 2 3933 3 704 1 116 1 11 1 252 1 ",
    "14 1 9 1 96 1 9 1 2 1 1 3 5 1 224 1 12 1 241 1 896 1 1487 2 52 5 5 3 5373 1 6 15 40207 1 8 ",
    "5 3868 1 1116 4 793392 96"]

end RouteWorks.Text.Table
