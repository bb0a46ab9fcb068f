/-
# Joiners

In some scripts the letters of a word are joined. Two invisible code points force or forbid
the joining. They make a difference in certain places only, and have no place in a name
elsewhere: behind a mark that takes the vowel from a consonant, and, where joining is
forbidden, between letters that would be joined.
-/

import MeterSignals.Url.Name.Composition
import MeterSignals.Url.Name.Direction

namespace MeterSignals.Url.Name

/-- The code point that forbids joining. -/
def nonJoiner : Nat := 0x200C

/-- The code point that forces joining. -/
def joiner : Nat := 0x200D

/-- Whether a code point is a mark that takes the vowel from a consonant. Class 9 is theirs,
but for marks that are too recent. -/
def takesVowel (c : Nat) : Bool := markClass c == 9 && !Row.anyHolds recent c

/-- The letters that are joined on both sides. -/
def joinedOnBothSides : List Row := Row.readAll
  [ "620 626 628 62A-62E 633-63F 641-647 649-64A 66E-66F 679-687 69A-6BF 6C1-6C2 6CC 6CE",
    "6D0-6D1 6FA-6FC 6FF 712-714 71A-71D 71F-727 729 72B 72D-72E 74E-758 75C-766 850-853 855",
    "8A0 8A2-8A9 1807 1820-1877 1887-18A8 18AA A840-A871" ]

/-- The letters that are joined to the one before them only. -/
def joinedOnTheRight : List Row := Row.readAll
  [ "622-625 627 629 62F-632 648 671-673 688-699 6C0 6C3-6CB 6CD 6CF 6D2-6D3 6D5 6EE-6EF 710",
    "715-719 71E 728 72A 72C 72F 74D 759-75B 854 8AA-8AC" ]

/-- The letters that are joined to the one after them only. -/
def joinedOnTheLeft : List Row := Row.readAll ["A872"]

/-- Whether a letter is joined to the one after it. -/
def joinsNext (c : Nat) : Bool :=
  Row.anyHolds joinedOnBothSides c || Row.anyHolds joinedOnTheLeft c

/-- Whether a letter is joined to the one before it. -/
def joinsPrevious (c : Nat) : Bool :=
  Row.anyHolds joinedOnBothSides c || Row.anyHolds joinedOnTheRight c

/-- Whether the first joiner of a part of a name has its place there; none if there is no
joiner. What stands in front of it is given, the last one first. -/
def joinerFits? (before : List Nat) : List Nat → Option Bool
  | [] => none
  | c :: rest =>
    let behindMark := before.head?.any takesVowel
    if c = nonJoiner then
      some (behindMark || (before.any joinsNext && rest.any joinsPrevious))
    else if c = joiner then some behindMark
    else joinerFits? (c :: before) rest

end MeterSignals.Url.Name
