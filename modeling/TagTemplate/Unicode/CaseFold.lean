/-! Simple case folding: which characters differ only in case. -/

namespace TagTemplate.Unicode

/-- Runs of case pairs `(first, last, step, distance)`: every `step`-th character from `first` to
`last` pairs with the one `distance` after it. -/
def casePairs : List (Nat × Nat × Nat × Nat) :=
  [
    (0x0041, 0x004A, 1, 32), (0x004C, 0x005A, 2, 32), (0x004D, 0x0051, 2, 32),
    (0x0055, 0x0059, 2, 32), (0x00C0, 0x00DE, 2, 32), (0x00C1, 0x00C3, 2, 32),
    (0x00C7, 0x00D5, 2, 32), (0x00D9, 0x00DD, 2, 32), (0x00DF, 0x00DF, 1, 7615),
    (0x00FF, 0x00FF, 1, 121), (0x0100, 0x012E, 2, 1), (0x0132, 0x0136, 2, 1),
    (0x0139, 0x0147, 2, 1), (0x014A, 0x0176, 2, 1), (0x0179, 0x017D, 2, 1),
    (0x0180, 0x0180, 1, 195), (0x0181, 0x0181, 1, 210), (0x0182, 0x0184, 2, 1),
    (0x0186, 0x0186, 1, 206), (0x0187, 0x0187, 1, 1), (0x0189, 0x018A, 1, 205),
    (0x018B, 0x018B, 1, 1), (0x018E, 0x018E, 1, 79), (0x018F, 0x018F, 1, 202),
    (0x0190, 0x0190, 1, 203), (0x0191, 0x0191, 1, 1), (0x0193, 0x0193, 1, 205),
    (0x0194, 0x0194, 1, 207), (0x0195, 0x0195, 1, 97), (0x0196, 0x0196, 1, 211),
    (0x0197, 0x0197, 1, 209), (0x0198, 0x0198, 1, 1), (0x019A, 0x019A, 1, 163),
    (0x019B, 0x019B, 1, 42561), (0x019C, 0x019C, 1, 211), (0x019D, 0x019D, 1, 213),
    (0x019E, 0x019E, 1, 130), (0x019F, 0x019F, 1, 214), (0x01A0, 0x01A4, 2, 1),
    (0x01A6, 0x01A6, 1, 218), (0x01A7, 0x01A7, 1, 1), (0x01A9, 0x01A9, 1, 218),
    (0x01AC, 0x01AC, 1, 1), (0x01AE, 0x01AE, 1, 218), (0x01AF, 0x01AF, 1, 1),
    (0x01B1, 0x01B2, 1, 217), (0x01B3, 0x01B5, 2, 1), (0x01B7, 0x01B7, 1, 219),
    (0x01B8, 0x01B8, 1, 1), (0x01BC, 0x01BC, 1, 1), (0x01BF, 0x01BF, 1, 56), (0x01CD, 0x01DB, 2, 1),
    (0x01DE, 0x01EE, 2, 1), (0x01F4, 0x01F4, 1, 1), (0x01F8, 0x021E, 2, 1), (0x0222, 0x0232, 2, 1),
    (0x023A, 0x023A, 1, 10795), (0x023B, 0x023B, 1, 1), (0x023E, 0x023E, 1, 10792),
    (0x023F, 0x0240, 1, 10815), (0x0241, 0x0241, 1, 1), (0x0244, 0x0244, 1, 69),
    (0x0245, 0x0245, 1, 71), (0x0246, 0x024E, 2, 1), (0x0250, 0x0250, 1, 10783),
    (0x0251, 0x0251, 1, 10780), (0x0252, 0x0252, 1, 10782), (0x025C, 0x025C, 1, 42319),
    (0x0261, 0x0261, 1, 42315), (0x0264, 0x0264, 1, 42343), (0x0265, 0x0265, 1, 42280),
    (0x0266, 0x0266, 1, 42308), (0x026A, 0x026A, 1, 42308), (0x026B, 0x026B, 1, 10743),
    (0x026C, 0x026C, 1, 42305), (0x0271, 0x0271, 1, 10749), (0x027D, 0x027D, 1, 10727),
    (0x0282, 0x0282, 1, 42307), (0x0287, 0x0287, 1, 42282), (0x029D, 0x029D, 1, 42261),
    (0x029E, 0x029E, 1, 42258), (0x0370, 0x0372, 2, 1), (0x0376, 0x0376, 1, 1),
    (0x037B, 0x037D, 1, 130), (0x037F, 0x037F, 1, 116), (0x0386, 0x0386, 1, 38),
    (0x0388, 0x038A, 1, 37), (0x038C, 0x038C, 1, 64), (0x038E, 0x038F, 1, 63),
    (0x0390, 0x0390, 1, 7235), (0x0391, 0x0393, 2, 32), (0x0394, 0x0396, 2, 32),
    (0x0397, 0x0397, 1, 32), (0x039B, 0x039F, 2, 32), (0x039E, 0x039E, 1, 32),
    (0x03A4, 0x03A5, 1, 32), (0x03A7, 0x03A8, 1, 32), (0x03AA, 0x03AB, 1, 32),
    (0x03B0, 0x03B0, 1, 7219), (0x03CF, 0x03CF, 1, 8), (0x03D8, 0x03EE, 2, 1),
    (0x03F2, 0x03F2, 1, 7), (0x03F7, 0x03F7, 1, 1), (0x03FA, 0x03FA, 1, 1), (0x0400, 0x040F, 1, 80),
    (0x0410, 0x0411, 1, 32), (0x0413, 0x041F, 2, 32), (0x0416, 0x041C, 2, 32),
    (0x0420, 0x0420, 1, 32), (0x0423, 0x0429, 1, 32), (0x042B, 0x042F, 1, 32),
    (0x0460, 0x0460, 1, 1), (0x0464, 0x0480, 2, 1), (0x048A, 0x04BE, 2, 1), (0x04C0, 0x04C0, 1, 15),
    (0x04C1, 0x04CD, 2, 1), (0x04D0, 0x052E, 2, 1), (0x0531, 0x0556, 1, 48),
    (0x10A0, 0x10C5, 1, 7264), (0x10C7, 0x10C7, 1, 7264), (0x10CD, 0x10CD, 1, 7264),
    (0x10D0, 0x10FA, 1, 3008), (0x10FD, 0x10FF, 1, 3008), (0x13A0, 0x13EF, 1, 38864),
    (0x13F0, 0x13F5, 1, 8), (0x1C89, 0x1C89, 1, 1), (0x1D79, 0x1D79, 1, 35332),
    (0x1D7D, 0x1D7D, 1, 3814), (0x1D8E, 0x1D8E, 1, 35384), (0x1E00, 0x1E5E, 2, 1),
    (0x1E62, 0x1E94, 2, 1), (0x1EA0, 0x1EFE, 2, 1), (0x1F00, 0x1F07, 1, 8), (0x1F10, 0x1F15, 1, 8),
    (0x1F20, 0x1F27, 1, 8), (0x1F30, 0x1F37, 1, 8), (0x1F40, 0x1F45, 1, 8), (0x1F51, 0x1F57, 2, 8),
    (0x1F60, 0x1F67, 1, 8), (0x1F70, 0x1F71, 1, 74), (0x1F72, 0x1F75, 1, 86),
    (0x1F76, 0x1F77, 1, 100), (0x1F78, 0x1F79, 1, 128), (0x1F7A, 0x1F7B, 1, 112),
    (0x1F7C, 0x1F7D, 1, 126), (0x1F80, 0x1F87, 1, 8), (0x1F90, 0x1F97, 1, 8),
    (0x1FA0, 0x1FA7, 1, 8), (0x1FB0, 0x1FB1, 1, 8), (0x1FB3, 0x1FB3, 1, 9), (0x1FC3, 0x1FC3, 1, 9),
    (0x1FD0, 0x1FD1, 1, 8), (0x1FE0, 0x1FE1, 1, 8), (0x1FE5, 0x1FE5, 1, 7), (0x1FF3, 0x1FF3, 1, 9),
    (0x2132, 0x2132, 1, 28), (0x2160, 0x216F, 1, 16), (0x2183, 0x2183, 1, 1),
    (0x24B6, 0x24CF, 1, 26), (0x2C00, 0x2C2F, 1, 48), (0x2C60, 0x2C60, 1, 1),
    (0x2C67, 0x2C6B, 2, 1), (0x2C72, 0x2C72, 1, 1), (0x2C75, 0x2C75, 1, 1), (0x2C80, 0x2CE2, 2, 1),
    (0x2CEB, 0x2CED, 2, 1), (0x2CF2, 0x2CF2, 1, 1), (0xA640, 0xA648, 2, 1), (0xA64C, 0xA66C, 2, 1),
    (0xA680, 0xA69A, 2, 1), (0xA722, 0xA72E, 2, 1), (0xA732, 0xA76E, 2, 1), (0xA779, 0xA77B, 2, 1),
    (0xA77E, 0xA786, 2, 1), (0xA78B, 0xA78B, 1, 1), (0xA790, 0xA792, 2, 1), (0xA794, 0xA794, 1, 48),
    (0xA796, 0xA7A8, 2, 1), (0xA7B3, 0xA7B3, 1, 928), (0xA7B4, 0xA7C2, 2, 1),
    (0xA7C7, 0xA7C9, 2, 1), (0xA7CC, 0xA7DA, 2, 1), (0xA7F5, 0xA7F5, 1, 1), (0xFB05, 0xFB05, 1, 1),
    (0xFF21, 0xFF3A, 1, 32), (0x10400, 0x10427, 1, 40), (0x104B0, 0x104D3, 1, 40),
    (0x10570, 0x10594, 2, 39), (0x10571, 0x10579, 2, 39), (0x1057D, 0x10589, 2, 39),
    (0x1058D, 0x10591, 2, 39), (0x10595, 0x10595, 1, 39), (0x10C80, 0x10CB2, 1, 64),
    (0x10D50, 0x10D65, 1, 32), (0x118A0, 0x118BF, 1, 32), (0x16E40, 0x16E5F, 1, 32),
    (0x16EA0, 0x16EB8, 1, 27), (0x1E900, 0x1E921, 1, 34)
  ]

/-- Characters that share their case with more than one other. -/
def caseFamilies : List (List Nat) :=
  [
    [0x004B, 0x006B, 0x212A], [0x0053, 0x0073, 0x017F], [0x00B5, 0x039C, 0x03BC],
    [0x00C5, 0x00E5, 0x212B], [0x01C4, 0x01C5, 0x01C6], [0x01C7, 0x01C8, 0x01C9],
    [0x01CA, 0x01CB, 0x01CC], [0x01F1, 0x01F2, 0x01F3], [0x0345, 0x0399, 0x03B9, 0x1FBE],
    [0x0392, 0x03B2, 0x03D0], [0x0395, 0x03B5, 0x03F5], [0x0398, 0x03B8, 0x03D1, 0x03F4],
    [0x039A, 0x03BA, 0x03F0], [0x03A0, 0x03C0, 0x03D6], [0x03A1, 0x03C1, 0x03F1],
    [0x03A3, 0x03C2, 0x03C3], [0x03A6, 0x03C6, 0x03D5], [0x03A9, 0x03C9, 0x2126],
    [0x0412, 0x0432, 0x1C80], [0x0414, 0x0434, 0x1C81], [0x041E, 0x043E, 0x1C82],
    [0x0421, 0x0441, 0x1C83], [0x0422, 0x0442, 0x1C84, 0x1C85], [0x042A, 0x044A, 0x1C86],
    [0x0462, 0x0463, 0x1C87], [0x1C88, 0xA64A, 0xA64B], [0x1E60, 0x1E61, 0x1E9B]
  ]

/-- The other characters that differ from `code` only in case, by the runs of pairs. -/
def casePartners (code : Nat) : List Nat :=
  casePairs.flatMap fun (first, last, step, distance) =>
    let below :=
      if first ≤ code && code ≤ last && (code - first) % step == 0 then [code + distance] else []
    let above :=
      if first + distance ≤ code && code ≤ last + distance && (code - distance - first) % step == 0
      then [code - distance] else []
    below ++ above

/-- All characters that differ from `c` only in case, `c` itself first. -/
def caseVariants (c : Char) : List Char :=
  let family := (caseFamilies.filter (·.contains c.toNat)).flatten
  c :: ((family ++ casePartners c.toNat).filter (· != c.toNat)).map Char.ofNat

end TagTemplate.Unicode
