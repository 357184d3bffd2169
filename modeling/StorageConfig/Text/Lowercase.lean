import StorageConfig.Text.Cased

/-! The lower case of a text of any script, after version 17.0 of Unicode. -/

namespace StorageConfig

/-- A stretch of capitals whose small letters stand in the same order, at the same distance from each other. -/
structure CapitalRun where
  /-- The code point of the first capital. -/
  first : Nat
  /-- The code point of the last capital. -/
  last : Nat
  /-- The distance from one capital to the next: where it is two, small letters mostly stand in between. -/
  step : Nat
  /-- The code point of the first small letter. -/
  small : Nat
  /-- The small letters are characters. -/
  isValid : small + (last - first) < 0xD800 ∨ 0xDFFF < small ∧ small + (last - first) < 0x110000

namespace CapitalRun

/-- Capitals that stand side by side. -/
def each (first last small : Nat)
    (isValid : small + (last - first) < 0xD800 ∨ 0xDFFF < small ∧ small + (last - first) < 0x110000 := by decide) :
    CapitalRun :=
  ⟨first, last, 1, small, isValid⟩

/-- Capitals at every other code point. -/
def everyOther (first last small : Nat)
    (isValid : small + (last - first) < 0xD800 ∨ 0xDFFF < small ∧ small + (last - first) < 0x110000 := by decide) :
    CapitalRun :=
  ⟨first, last, 2, small, isValid⟩

/-- Whether a character is among the capitals. -/
def holds (run : CapitalRun) (c : Char) : Bool :=
  run.first ≤ c.toNat && c.toNat ≤ run.last && (c.toNat - run.first) % run.step == 0

/-- The small letter of one of the capitals. -/
def smallOf (run : CapitalRun) (c : Char) : Char := Char.ofNat (run.small + (c.toNat - run.first))

end CapitalRun

/-- The capitals of all scripts that have a single small letter, those of ASCII first. -/
def capitalRuns : List CapitalRun := [
  .each 0x41 0x5A 0x61, .each 0xC0 0xD6 0xE0, .each 0xD8 0xDE 0xF8, .everyOther 0x100 0x12E 0x101,
  .everyOther 0x132 0x136 0x133, .everyOther 0x139 0x147 0x13A, .everyOther 0x14A 0x176 0x14B,
  .each 0x178 0x178 0xFF, .everyOther 0x179 0x17D 0x17A, .each 0x181 0x181 0x253,
  .everyOther 0x182 0x184 0x183, .each 0x186 0x186 0x254, .each 0x187 0x187 0x188,
  .each 0x189 0x18A 0x256, .each 0x18B 0x18B 0x18C, .each 0x18E 0x18E 0x1DD, .each 0x18F 0x18F 0x259,
  .each 0x190 0x190 0x25B, .each 0x191 0x191 0x192, .each 0x193 0x193 0x260, .each 0x194 0x194 0x263,
  .each 0x196 0x196 0x269, .each 0x197 0x197 0x268, .each 0x198 0x198 0x199, .each 0x19C 0x19C 0x26F,
  .each 0x19D 0x19D 0x272, .each 0x19F 0x19F 0x275, .everyOther 0x1A0 0x1A4 0x1A1,
  .each 0x1A6 0x1A6 0x280, .each 0x1A7 0x1A7 0x1A8, .each 0x1A9 0x1A9 0x283, .each 0x1AC 0x1AC 0x1AD,
  .each 0x1AE 0x1AE 0x288, .each 0x1AF 0x1AF 0x1B0, .each 0x1B1 0x1B2 0x28A,
  .everyOther 0x1B3 0x1B5 0x1B4, .each 0x1B7 0x1B7 0x292, .each 0x1B8 0x1B8 0x1B9,
  .each 0x1BC 0x1BC 0x1BD, .each 0x1C4 0x1C4 0x1C6, .each 0x1C5 0x1C5 0x1C6, .each 0x1C7 0x1C7 0x1C9,
  .each 0x1C8 0x1C8 0x1C9, .each 0x1CA 0x1CA 0x1CC, .everyOther 0x1CB 0x1DB 0x1CC,
  .everyOther 0x1DE 0x1EE 0x1DF, .each 0x1F1 0x1F1 0x1F3, .everyOther 0x1F2 0x1F4 0x1F3,
  .each 0x1F6 0x1F6 0x195, .each 0x1F7 0x1F7 0x1BF, .everyOther 0x1F8 0x21E 0x1F9,
  .each 0x220 0x220 0x19E, .everyOther 0x222 0x232 0x223, .each 0x23A 0x23A 0x2C65,
  .each 0x23B 0x23B 0x23C, .each 0x23D 0x23D 0x19A, .each 0x23E 0x23E 0x2C66, .each 0x241 0x241 0x242,
  .each 0x243 0x243 0x180, .each 0x244 0x244 0x289, .each 0x245 0x245 0x28C,
  .everyOther 0x246 0x24E 0x247, .everyOther 0x370 0x372 0x371, .each 0x376 0x376 0x377,
  .each 0x37F 0x37F 0x3F3, .each 0x386 0x386 0x3AC, .each 0x388 0x38A 0x3AD, .each 0x38C 0x38C 0x3CC,
  .each 0x38E 0x38F 0x3CD, .each 0x391 0x3A1 0x3B1, .each 0x3A3 0x3AB 0x3C3, .each 0x3CF 0x3CF 0x3D7,
  .everyOther 0x3D8 0x3EE 0x3D9, .each 0x3F4 0x3F4 0x3B8, .each 0x3F7 0x3F7 0x3F8,
  .each 0x3F9 0x3F9 0x3F2, .each 0x3FA 0x3FA 0x3FB, .each 0x3FD 0x3FF 0x37B, .each 0x400 0x40F 0x450,
  .each 0x410 0x42F 0x430, .everyOther 0x460 0x480 0x461, .everyOther 0x48A 0x4BE 0x48B,
  .each 0x4C0 0x4C0 0x4CF, .everyOther 0x4C1 0x4CD 0x4C2, .everyOther 0x4D0 0x52E 0x4D1,
  .each 0x531 0x556 0x561, .each 0x10A0 0x10C5 0x2D00, .each 0x10C7 0x10C7 0x2D27,
  .each 0x10CD 0x10CD 0x2D2D, .each 0x13A0 0x13EF 0xAB70, .each 0x13F0 0x13F5 0x13F8,
  .each 0x1C89 0x1C89 0x1C8A, .each 0x1C90 0x1CBA 0x10D0, .each 0x1CBD 0x1CBF 0x10FD,
  .everyOther 0x1E00 0x1E94 0x1E01, .each 0x1E9E 0x1E9E 0xDF, .everyOther 0x1EA0 0x1EFE 0x1EA1,
  .each 0x1F08 0x1F0F 0x1F00, .each 0x1F18 0x1F1D 0x1F10, .each 0x1F28 0x1F2F 0x1F20,
  .each 0x1F38 0x1F3F 0x1F30, .each 0x1F48 0x1F4D 0x1F40, .everyOther 0x1F59 0x1F5F 0x1F51,
  .each 0x1F68 0x1F6F 0x1F60, .each 0x1F88 0x1F8F 0x1F80, .each 0x1F98 0x1F9F 0x1F90,
  .each 0x1FA8 0x1FAF 0x1FA0, .each 0x1FB8 0x1FB9 0x1FB0, .each 0x1FBA 0x1FBB 0x1F70,
  .each 0x1FBC 0x1FBC 0x1FB3, .each 0x1FC8 0x1FCB 0x1F72, .each 0x1FCC 0x1FCC 0x1FC3,
  .each 0x1FD8 0x1FD9 0x1FD0, .each 0x1FDA 0x1FDB 0x1F76, .each 0x1FE8 0x1FE9 0x1FE0,
  .each 0x1FEA 0x1FEB 0x1F7A, .each 0x1FEC 0x1FEC 0x1FE5, .each 0x1FF8 0x1FF9 0x1F78,
  .each 0x1FFA 0x1FFB 0x1F7C, .each 0x1FFC 0x1FFC 0x1FF3, .each 0x2126 0x2126 0x3C9,
  .each 0x212A 0x212A 0x6B, .each 0x212B 0x212B 0xE5, .each 0x2132 0x2132 0x214E,
  .each 0x2160 0x216F 0x2170, .each 0x2183 0x2183 0x2184, .each 0x24B6 0x24CF 0x24D0,
  .each 0x2C00 0x2C2F 0x2C30, .each 0x2C60 0x2C60 0x2C61, .each 0x2C62 0x2C62 0x26B,
  .each 0x2C63 0x2C63 0x1D7D, .each 0x2C64 0x2C64 0x27D, .everyOther 0x2C67 0x2C6B 0x2C68,
  .each 0x2C6D 0x2C6D 0x251, .each 0x2C6E 0x2C6E 0x271, .each 0x2C6F 0x2C6F 0x250,
  .each 0x2C70 0x2C70 0x252, .each 0x2C72 0x2C72 0x2C73, .each 0x2C75 0x2C75 0x2C76,
  .each 0x2C7E 0x2C7F 0x23F, .everyOther 0x2C80 0x2CE2 0x2C81, .everyOther 0x2CEB 0x2CED 0x2CEC,
  .each 0x2CF2 0x2CF2 0x2CF3, .everyOther 0xA640 0xA66C 0xA641, .everyOther 0xA680 0xA69A 0xA681,
  .everyOther 0xA722 0xA72E 0xA723, .everyOther 0xA732 0xA76E 0xA733, .everyOther 0xA779 0xA77B 0xA77A,
  .each 0xA77D 0xA77D 0x1D79, .everyOther 0xA77E 0xA786 0xA77F, .each 0xA78B 0xA78B 0xA78C,
  .each 0xA78D 0xA78D 0x265, .everyOther 0xA790 0xA792 0xA791, .everyOther 0xA796 0xA7A8 0xA797,
  .each 0xA7AA 0xA7AA 0x266, .each 0xA7AB 0xA7AB 0x25C, .each 0xA7AC 0xA7AC 0x261,
  .each 0xA7AD 0xA7AD 0x26C, .each 0xA7AE 0xA7AE 0x26A, .each 0xA7B0 0xA7B0 0x29E,
  .each 0xA7B1 0xA7B1 0x287, .each 0xA7B2 0xA7B2 0x29D, .each 0xA7B3 0xA7B3 0xAB53,
  .everyOther 0xA7B4 0xA7C2 0xA7B5, .each 0xA7C4 0xA7C4 0xA794, .each 0xA7C5 0xA7C5 0x282,
  .each 0xA7C6 0xA7C6 0x1D8E, .everyOther 0xA7C7 0xA7C9 0xA7C8, .each 0xA7CB 0xA7CB 0x264,
  .everyOther 0xA7CC 0xA7DA 0xA7CD, .each 0xA7DC 0xA7DC 0x19B, .each 0xA7F5 0xA7F5 0xA7F6,
  .each 0xFF21 0xFF3A 0xFF41, .each 0x10400 0x10427 0x10428, .each 0x104B0 0x104D3 0x104D8,
  .each 0x10570 0x1057A 0x10597, .each 0x1057C 0x1058A 0x105A3, .each 0x1058C 0x10592 0x105B3,
  .each 0x10594 0x10595 0x105BB, .each 0x10C80 0x10CB2 0x10CC0, .each 0x10D50 0x10D65 0x10D70,
  .each 0x118A0 0x118BF 0x118C0, .each 0x16E40 0x16E5F 0x16E60, .each 0x16EA0 0x16EB8 0x16EBB,
  .each 0x1E900 0x1E921 0x1E922]

/-- The small letter of a capital, and any other character itself. -/
def smallLetter (c : Char) : Char :=
  match capitalRuns.find? (·.holds c) with
  | some run => run.smallOf c
  | none => c

/-- Whether the first character that is not passed over has a case. -/
def startsCased (text : List Char) : Bool :=
  (text.dropWhile isCaseIgnorable).head?.any isCased

/--
The lower case of a character, between the reversed text before it and the text after it.

A capital sigma at the end of a word has a small letter of its own, and a dotted capital I keeps its dot as a mark.
-/
def lowerBetween (before : List Char) (c : Char) (after : List Char) : List Char :=
  if c = '\u03a3' then [if startsCased before && !startsCased after then '\u03c2' else '\u03c3']
  else if c = '\u0130' then ['i', '\u0307']
  else [smallLetter c]

/-- The lower case of the rest of a text, after the reversed text before it. -/
def lowerAfter (before : List Char) : List Char → List Char
  | [] => []
  | c :: rest => lowerBetween before c rest ++ lowerAfter (c :: before) rest

/-- The lower case of a text. -/
def lowercase (text : String) : String := String.ofList (lowerAfter [] text.toList)

end StorageConfig
