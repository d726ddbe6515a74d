import SubtitleExchange.Character.Set

/-!
# Forms of letters

Characters that differ in case alone are forms of each other, as simple case folding has them. Most
have one other form, at a distance that many letters share. The others are listed in groups, and all
members of a group are forms of each other.
-/

namespace SubtitleExchange
namespace CharSet

/-- Distances between two forms, and the lower forms of the characters with forms this far apart. -/
def distances : List (Nat × CharSet) :=
  [(0x1,
      .ofTable
        ["100:12E 132:136 139:147 14A:176 179:17D 182 184 187 18B 191 198 1A0:1A4 1A7 1AC 1AF",
          "1B3 1B5 1B8 1BC 1CD:1DB 1DE:1EE 1F4 1F8:21E 222:232 23B 241 246:24E 370 372 376",
          "3D8:3EE 3F7 3FA 460 464:480 48A:4BE 4C1:4CD 4D0:52E 1C89 1E00:1E5E 1E62:1E94 1EA0:1EFE",
          "2183 2C60 2C67:2C6B 2C72 2C75 2C80:2CE2 2CEB 2CED 2CF2 A640:A648 A64C:A66C A680:A69A",
          "A722:A72E A732:A76E A779 A77B A77E:A786 A78B A790 A792 A796:A7A8 A7B4:A7C2 A7C7 A7C9",
          "A7CC A7D0 A7D6:A7DA A7F5 FB05"]),
    (0x8,
      .ofTable
        ["3CF 13F0-13F5 1F00-1F07 1F10-1F15 1F20-1F27 1F30-1F37 1F40-1F45 1F51:1F57 1F60-1F67",
          "1F80-1F87 1F90-1F97 1FA0-1FA7 1FB0-1FB1 1FD0-1FD1 1FE0-1FE1"]),
    (0x10, .ofTable ["2160-216F"]),
    (0x1A, .ofTable ["24B6-24CF"]),
    (0x20,
      .ofTable
        ["41-4A 4C-52 54-5A C0-C4 C6-D6 D8-DE 391 393-394 396-397 39B 39D-39F 3A4-3A5 3A7-3A8",
          "3AA-3AB 410-411 413 415-41D 41F-420 423-429 42B-42F FF21-FF3A 10D50-10D65 118A0-118BF",
          "16E40-16E5F"]),
    (0x22, .ofTable ["1E900-1E921"]),
    (0x27, .ofTable ["10570-1057A 1057C-1058A 1058C-10592 10594-10595"]),
    (0x28, .ofTable ["10400-10427 104B0-104D3"]),
    (0x30, .ofTable ["531-556 2C00-2C2F A794"]),
    (0x40, .ofTable ["38C 10C80-10CB2"]),
    (0x50, .ofTable ["400-40F"]),
    (0xBC0, .ofTable ["10D0-10FA 10FD-10FF"]),
    (0x1C60, .ofTable ["10A0-10C5 10C7 10CD"]),
    (0x97D0, .ofTable ["13A0-13EF"])]

/-- Characters with several other forms, or with one at a distance of its own. -/
def formGroups : List CharSet :=
  ["4B 6B 212A", "53 73 17F", "B5 39C 3BC", "C5 E5 212B", "DF 1E9E", "FF 178", "180 243",
    "181 253", "186 254", "189 256", "18A 257", "18E 1DD", "18F 259", "190 25B", "193 260",
    "194 263", "195 1F6", "196 269", "197 268", "19A 23D", "19B A7DC", "19C 26F", "19D 272",
    "19E 220", "19F 275", "1A6 280", "1A9 283", "1AE 288", "1B1 28A", "1B2 28B", "1B7 292",
    "1BF 1F7", "1C4 1C5 1C6", "1C7 1C8 1C9", "1CA 1CB 1CC", "1F1 1F2 1F3", "23A 2C65", "23E 2C66",
    "23F 2C7E", "240 2C7F", "244 289", "245 28C", "250 2C6F", "251 2C6D", "252 2C70", "25C A7AB",
    "261 A7AC", "264 A7CB", "265 A78D", "266 A7AA", "26A A7AE", "26B 2C62", "26C A7AD",
    "271 2C6E", "27D 2C64", "282 A7C5", "287 A7B1", "29D A7B2", "29E A7B0", "345 399 3B9 1FBE",
    "37B 3FD", "37C 3FE", "37D 3FF", "37F 3F3", "386 3AC", "388 3AD", "389 3AE", "38A 3AF",
    "38E 3CD", "38F 3CE", "390 1FD3", "392 3B2 3D0", "395 3B5 3F5", "398 3B8 3D1 3F4",
    "39A 3BA 3F0", "3A0 3C0 3D6", "3A1 3C1 3F1", "3A3 3C2 3C3", "3A6 3C6 3D5", "3A9 3C9 2126",
    "3B0 1FE3", "3F2 3F9", "412 432 1C80", "414 434 1C81", "41E 43E 1C82", "421 441 1C83",
    "422 442 1C84 1C85", "42A 44A 1C86", "462 463 1C87", "4C0 4CF", "1C88 A64A A64B", "1D79 A77D",
    "1D7D 2C63", "1D8E A7C6", "1E60 1E61 1E9B", "1F70 1FBA", "1F71 1FBB", "1F72 1FC8",
    "1F73 1FC9", "1F74 1FCA", "1F75 1FCB", "1F76 1FDA", "1F77 1FDB", "1F78 1FF8", "1F79 1FF9",
    "1F7A 1FEA", "1F7B 1FEB", "1F7C 1FFA", "1F7D 1FFB", "1FB3 1FBC", "1FC3 1FCC", "1FE5 1FEC",
    "1FF3 1FFC", "2132 214E", "A7B3 AB53"].map fun members => .ofTable [members]

def shiftUp (distance : Nat) (set : CharSet) : CharSet :=
  ⟨set.ranges.map (CharRange.shiftUp distance)⟩

def shiftDown (distance : Nat) (set : CharSet) : CharSet :=
  ⟨set.ranges.map (CharRange.shiftDown distance)⟩

/-- The other forms, at a distance, of the characters of a set. -/
def formsAt (set : CharSet) (distance : Nat) (lower : CharSet) : List CharSet :=
  [(set.intersection lower).shiftUp distance,
    (set.intersection (lower.shiftUp distance)).shiftDown distance]

/-- A set together with all forms of its characters. -/
def foldCase (set : CharSet) : CharSet :=
  let near := distances.flatMap fun entry => set.formsAt entry.1 entry.2
  let far := formGroups.filter fun group => !(set.intersection group).isEmpty
  unionAll (set :: near ++ far)

/-- The characters that have another form. -/
def manyFormed : CharSet :=
  unionAll (formGroups ++ distances.flatMap fun entry => [entry.2, entry.2.shiftUp entry.1])

/-!
# Forms of ASCII letters
-/

def asciiUpper : CharSet := .ofTable ["41-5A"]

def asciiLower : CharSet := .ofTable ["61-7A"]

/-- A set together with the other forms of its ASCII letters among the ASCII letters. -/
def foldAsciiCase (set : CharSet) : CharSet :=
  unionAll
    [set, (set.intersection asciiUpper).shiftUp 0x20, (set.intersection asciiLower).shiftDown 0x20]

end CharSet
end SubtitleExchange
