/-
# Directions of writing

Letters are written from the left to the right or from the right to the left. Numbers have
a direction of their own, signs take that of their neighbours, and marks that of what they
stand on. A part of a name in which something runs from the right to the left is refused if
it could be read in more than one order.

The tables are those for the code points that may be in a name, for version 13.0 of the
character set. What came later has no direction, and no place beside anything that runs
from the right to the left.
-/

import MeterSignals.Url.Row

namespace MeterSignals.Url.Name

/-- The direction of a code point. -/
inductive Direction
  | left
  | right
  | number
  /-- A number in the digits that go with letters from the right to the left. -/
  | arabicNumber
  | neutral
  | mark
  | unknown
  deriving DecidableEq

/-- The letters from the right to the left. -/
def rightToLeft : List Row := Row.readAll
  [ "5BE 5C0 5C3 5C6 5D0-5F4 608 60B 60D 61B 61E-64A 66D-66F 671-6D5 6E5-6E6 6EE-6EF 6FA-710",
    "712-72F 74D-7A5 7B1-7EA 7F4-7F5 7FA 7FE-815 81A 824 828 830-858 85E-86A 8A0-8B4 8B6-8C7",
    "FBB2-FBC1 FE73 10800-1091B 10920-10A00 10A10-10A35 10A40-10AE4 10AEB-10B35 10B40-10D23",
    "10E80-10EA9 10EAD-10EB1 10F00-10F45 10F51-10F59 10FB0-10FF6 1E800-1E8CF 1E922-1E943",
    "1E94B-1ED3D" ]

/-- The digits that go with letters from the right to the left. -/
def arabicDigits : List Row := Row.readAll ["660-669 66B-66C 10D30-10E7E"]

/-- All other digits beyond ASCII that have the direction of numbers. -/
def furtherDigits : List Row := Row.readAll ["6F0-6F9 102E1-102FB"]

/-- The signs beyond ASCII that take the direction of their neighbours. -/
def signs : List Row := Row.readAll
  [ "A1-D7 F7 2B9-2BA 2C2-2CF 2D2-2ED 2EF-2FF 375 3F6 58A-58F 606-607 609-60A 60C 60E-60F 66A",
    "6DE 6E9 7F6-7F9 9F2-9F3 9FB AF1 BF3-BFA C78-C7E E3F F3A-F3D 1390-1399 1400 169B-169C 17DB",
    "17F0-180A 1940-1945 19DE-19FF 200C-20BF 2104-214D 218A-2335 237B-2394 2396-26AB 26AD-27FF",
    "2900-2BFF 2CE5-2CEA 2CF9-2CFF 2E00-2E52 2E80-3004 3008-3020 3030 3037 303D-303F 30A0 30FB",
    "31C0-31E3 4DC0-4DFF A490-A4C6 A60D-A60F A673 A67E-A67F A700-A721 A788 A828-A82B A838-A839",
    "A874-A877 AB6A-AB6B FD3E-FD3F FDFD FE45-FE46 10101 10140-1018C 10190-101A0 1091F",
    "10B39-10B3F 11052-11065 11660-1166C 11FD5-11FF1 16FE2 1D200-1D241 1D245 1D300-1D356 1E2FF",
    "1EEF0-1F12F 1F16D-1F16F 1F1AD 1F260-1F6D7 1F6E0-1F773 1F780-1F7D8 1F7E0-1F7EB 1F800-1F978",
    "1F97A-1F9CB 1F9CD-1FA74 1FA78-1FA7A 1FA80-1FA86 1FA90-1FAA8 1FAB0-1FAB6 1FAC0-1FAC2",
    "1FAD0-1FAD6 1FB00-1FBCA" ]

/-- The marks that take no room of their own. -/
def flatMarks : List Row := Row.readAll
  [ "300-36F 483-489 591-5BD 5BF 5C1-5C2 5C4-5C5 5C7 610-61A 64B-65F 670 6D6-6DC 6DF-6E4",
    "6E7-6E8 6EA-6ED 711 730-74A 7A6-7B0 7EB-7F3 7FD 816-819 81B-823 825-827 829-82D 859-85B",
    "8D3-902 93A 93C 941-948 94D 951-957 962-963 981 9BC 9C1-9C4 9CD 9E2-9E3 9FE-A02 A3C",
    "A41-A51 A70-A71 A75 A81-A82 ABC AC1-AC8 ACD AE2-AE3 AFA-B01 B3C B3F B41-B44 B4D-B56",
    "B62-B63 B82 BC0 BCD C00 C04 C3E-C40 C46-C56 C62-C63 C81 CBC CCC-CCD CE2-CE3 D00-D01",
    "D3B-D3C D41-D44 D4D D62-D63 D81 DCA DD2-DD6 E31 E34-E3A E47-E4E EB1 EB4-EBC EC8-ECD",
    "F18-F19 F35 F37 F39 F71-F7E F80-F84 F86-F87 F8D-FBC FC6 102D-1030 1032-1037 1039-103A",
    "103D-103E 1058-1059 105E-1060 1071-1074 1082 1085-1086 108D 109D 135D-135F 1712-1714",
    "1732-1734 1752-1753 1772-1773 17B7-17BD 17C6 17C9-17D3 17DD 1885-1886 18A9 1920-1922",
    "1927-1928 1932 1939-193B 1A17-1A18 1A1B 1A56 1A58-1A60 1A62 1A65-1A6C 1A73-1A7F 1AB0-1AC0",
    "1B00-1B03 1B34 1B36-1B3A 1B3C 1B42 1B6B-1B73 1B80-1B81 1BA2-1BA5 1BA8-1BA9 1BAB-1BAD 1BE6",
    "1BE8-1BE9 1BED 1BEF-1BF1 1C2C-1C33 1C36-1C37 1CD0-1CD2 1CD4-1CE0 1CE2-1CE8 1CED 1CF4",
    "1CF8-1CF9 1DC0-1DF9 1DFB-1DFF 20D0-20F0 2CEF-2CF1 2D7F 2DE0-2DFF 302A-302D 3099-309A",
    "A66F-A672 A674-A67D A69E-A69F A6F0-A6F1 A802 A806 A80B A825-A826 A82C A8C4-A8C5 A8E0-A8F1",
    "A8FF A926-A92D A947-A951 A980-A982 A9B3 A9B6-A9B9 A9BC-A9BD A9E5 AA29-AA2E AA31-AA32",
    "AA35-AA36 AA43 AA4C AA7C AAB0 AAB2-AAB4 AAB7-AAB8 AABE-AABF AAC1 AAEC-AAED AAF6 ABE5 ABE8",
    "ABED FB1E FE20-FE2F 101FD 102E0 10376-1037A 10A01-10A0F 10A38-10A3F 10AE5-10AE6",
    "10D24-10D27 10EAB-10EAC 10F46-10F50 11001 11038-11046 1107F-11081 110B3-110B6 110B9-110BA",
    "11100-11102 11127-1112B 1112D-11134 11173 11180-11181 111B6-111BE 111C9-111CC 111CF",
    "1122F-11231 11234 11236-11237 1123E 112DF 112E3-112EA 11300-11301 1133B-1133C 11340",
    "11366-11374 11438-1143F 11442-11444 11446 1145E 114B3-114B8 114BA 114BF-114C0 114C2-114C3",
    "115B2-115B5 115BC-115BD 115BF-115C0 115DC-115DD 11633-1163A 1163D 1163F-11640 116AB 116AD",
    "116B0-116B5 116B7 1171D-1171F 11722-11725 11727-1172B 1182F-11837 11839-1183A 1193B-1193C",
    "1193E 11943 119D4-119DB 119E0 11A01-11A06 11A09-11A0A 11A33-11A38 11A3B-11A3E 11A47",
    "11A51-11A56 11A59-11A5B 11A8A-11A96 11A98-11A99 11C30-11C3D 11C92-11CA7 11CAA-11CB0",
    "11CB2-11CB3 11CB5-11CB6 11D31-11D45 11D47 11D90-11D91 11D95 11D97 11EF3-11EF4 16AF0-16AF4",
    "16B30-16B36 16F4F 16F8F-16F92 16FE4 1BC9D-1BC9E 1D167-1D169 1D17B-1D182 1D185-1D18B",
    "1D1AA-1D1AD 1D242-1D244 1DA00-1DA36 1DA3B-1DA6C 1DA75 1DA84 1DA9B-1DAAF 1E000-1E02A",
    "1E130-1E136 1E2EC-1E2EF 1E8D0-1E8D6 1E944-1E94A" ]

/-- The marks that take room of their own; they run from the left to the right. -/
def spacingMarks : List Row := Row.readAll
  [ "903 93B 93E-940 949-94C 94E-94F 982-983 9BE-9C0 9C7-9CC 9D7 A03 A3E-A40 A83 ABE-AC0",
    "AC9-ACC B02-B03 B3E B40 B47-B4C B57 BBE-BBF BC1-BCC BD7 C01-C03 C41-C44 C82-C83 CBE-CCB",
    "CD5-CD6 D02-D03 D3E-D40 D46-D4C D57 D82-D83 DCF-DD1 DD8-DDF DF2-DF3 F3E-F3F F7F 102B-102C",
    "1031 1038 103B-103C 1056-1057 1062-1064 1067-106D 1083-1084 1087-108C 108F 109A-109C 17B6",
    "17BE-17C5 17C7-17C8 1923-1926 1929-1931 1933-1938 1A19-1A1A 1A55 1A57 1A61 1A63-1A64",
    "1A6D-1A72 1B04 1B35 1B3B 1B3D-1B41 1B43-1B44 1B82 1BA1 1BA6-1BA7 1BAA 1BE7 1BEA-1BEC 1BEE",
    "1BF2-1BF3 1C24-1C2B 1C34-1C35 1CE1 1CF7 302E-302F A823-A824 A827 A880-A881 A8B4-A8C3",
    "A952-A953 A983 A9B4-A9B5 A9BA-A9BB A9BE-A9C0 AA2F-AA30 AA33-AA34 AA4D AA7B AA7D AAEB",
    "AAEE-AAEF AAF5 ABE3-ABE4 ABE6-ABE7 ABE9-ABEA ABEC 11000 11002 11082 110B0-110B2",
    "110B7-110B8 1112C 11145-11146 11182 111B3-111B5 111BF-111C0 111CE 1122C-1122E 11232-11233",
    "11235 112E0-112E2 11302-11303 1133E-1133F 11341-1134D 11357 11362-11363 11435-11437",
    "11440-11441 11445 114B0-114B2 114B9 114BB-114BE 114C1 115AF-115B1 115B8-115BB 115BE",
    "11630-11632 1163B-1163C 1163E 116AC 116AE-116AF 116B6 11720-11721 11726 1182C-1182E 11838",
    "11930-11938 1193D 11940 11942 119D1-119D3 119DC-119DF 119E4 11A07-11A08 11A39 11A57-11A58",
    "11A97 11C2F 11C3E-11C3F 11CA9 11CB1 11CB4 11D8A-11D8E 11D93-11D94 11D96 11EF5-11EF6",
    "16F51-16F87 16FF0-16FF1 1D165-1D166 1D16D-1D172" ]

/-- The code points that have no direction because they are too recent. -/
def recent : List Row := Row.readAll
  [ "61D 870-89F 8B5 8C8-8D2 C3C C5D CDD CF3 ECE 170D 1715-171F 1AC1-1ACE 1B4C 1B7D-1B7E 1DFA",
    "20C0 2C5F 2E53-2E5D 9FFD-9FFF A7C1 A7D1-A7D9 FBC2 FD40-FDCF FDFE-FDFF 10597-105BC 10780",
    "10EFD-10EFF 10F70-10F89 11070-11075 110C2 1123F-11241 116B9 11740-11746 11AB0-11ABF",
    "11B00-11B09 11F00-11F59 12F90-12FF2 1342F-13455 16A70-16AC9 1AFF0-1AFFE 1B11F-1B132 1B155",
    "1CF00-1CFC3 1D1E9-1D1EA 1D2C0-1D2D3 1DF00-1DF2A 1E08F 1E290-1E2AE 1E4D0-1E7FE 1F6DC-1F6DF",
    "1F774-1F77F 1F7D9 1F7F0 1F979 1F9CC 1FA75-1FA77 1FA7B-1FA7C 1FA87-1FA88 1FAA9-1FAAF",
    "1FAB7-1FABF 1FAC3-1FACF 1FAD7-1FAF8 2A6DE-2A6DF 2B735-2B739 31350-323AF" ]

/-- The direction of a code point of a name. -/
def direction (c : Nat) : Direction :=
  if c < 0x80 then
    if 0x30 ≤ c && c ≤ 0x39 then .number
    else if (0x41 ≤ c && c ≤ 0x5A) || (0x61 ≤ c && c ≤ 0x7A) then .left
    else .neutral
  else if Row.anyHolds rightToLeft c then .right
  else if Row.anyHolds arabicDigits c then .arabicNumber
  else if Row.anyHolds furtherDigits c then .number
  else if Row.anyHolds flatMarks c then .mark
  else if Row.anyHolds signs c then .neutral
  else if Row.anyHolds recent c then .unknown
  else .left

/-- Whether a code point is a mark, which cannot be the first of its part of a name. -/
def isMark (c : Nat) : Bool := Row.anyHolds flatMarks c || Row.anyHolds spacingMarks c

/-- Whether something with this direction makes a part of a name run from the right to the
left. -/
def Direction.turns (d : Direction) : Bool := d = .right || d = .arabicNumber

/-- Whether the directions of a part of a name leave one order of reading it. The marks at
its end do not count. A part that starts from the left has nothing from the right, and
nothing unknown, in front of its last code point. Any other part has nothing from the left
or unknown at all and digits of one kind only, and ends in a letter or a digit. -/
def isReadable (part : List Nat) : Bool :=
  let directions := part.map direction
  let body := (directions.reverse.dropWhile (· = .mark)).reverse
  if !directions.any (·.turns) then true
  else if directions.head? = some .left then
    !body.dropLast.any fun d => d.turns || d = .unknown
  else
    !body.contains .left && !body.contains .unknown &&
      !(body.contains .number && body.contains .arabicNumber) &&
      body.getLast?.any fun d => d.turns || d = .number

end MeterSignals.Url.Name
