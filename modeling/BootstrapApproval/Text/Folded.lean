import BootstrapApproval.Text.Ranges

/-! # Folded characters

Characters that differ only in letter case, in width, in place or in typeface have one folded form,
the plain small letter or the plain sign. Ligatures and characters for several letters fold to these
letters, and some characters vanish altogether.
-/

namespace BootstrapApproval.Folded

/-- The characters that vanish: soft hyphens, fillers, joiners, selectors of variants and signs that
are never seen. -/
def vanishing : List (Nat × Nat) :=
  [(0xAD, 0xAD), (0x34F, 0x34F), (0x115F, 0x1160), (0x17B4, 0x17B5), (0x1806, 0x1806),
   (0x180B, 0x180F), (0x200B, 0x200D), (0x2060, 0x2064), (0x206A, 0x206F), (0x3164, 0x3164),
   (0xFE00, 0xFE0F), (0xFEFF, 0xFEFF), (0xFFA0, 0xFFA0), (0x1BCA0, 0x1BCA3), (0x1D173, 0x1D17A),
   (0xE0100, 0xE01EF)]

/-- Runs of characters whose folded forms stand in a row too: the first, the last, the step from
one to the next, and the folded form of the first. -/
def runs : List (Nat × Nat × Nat × Nat) :=
  [(0xB2, 0xB3, 1, 0x32), (0xC0, 0xD6, 1, 0xE0), (0xD8, 0xDE, 1, 0xF8), (0x100, 0x12E, 2, 0x101),
   (0x134, 0x136, 2, 0x135), (0x139, 0x13D, 2, 0x13A), (0x141, 0x147, 2, 0x142),
   (0x14A, 0x176, 2, 0x14B), (0x179, 0x17D, 2, 0x17A), (0x182, 0x184, 2, 0x183),
   (0x189, 0x18A, 1, 0x256), (0x1A0, 0x1A4, 2, 0x1A1), (0x1B1, 0x1B2, 1, 0x28A),
   (0x1B3, 0x1B5, 2, 0x1B4), (0x1CD, 0x1DB, 2, 0x1CE), (0x1DE, 0x1EE, 2, 0x1DF),
   (0x1F8, 0x21E, 2, 0x1F9), (0x222, 0x232, 2, 0x223), (0x246, 0x24E, 2, 0x247),
   (0x340, 0x341, 1, 0x300), (0x370, 0x372, 2, 0x371), (0x388, 0x38A, 1, 0x3AD),
   (0x38E, 0x38F, 1, 0x3CD), (0x391, 0x3A1, 1, 0x3B1), (0x3A3, 0x3AB, 1, 0x3C3),
   (0x3D8, 0x3EE, 2, 0x3D9), (0x3FD, 0x3FF, 1, 0x37B), (0x400, 0x40F, 1, 0x450),
   (0x410, 0x42F, 1, 0x430), (0x460, 0x480, 2, 0x461), (0x48A, 0x4BE, 2, 0x48B),
   (0x4C1, 0x4CD, 2, 0x4C2), (0x4D0, 0x52E, 2, 0x4D1), (0x531, 0x556, 1, 0x561),
   (0x10A0, 0x10C5, 1, 0x2D00), (0x13A0, 0x13EF, 1, 0xAB70), (0x13F0, 0x13F5, 1, 0x13F8),
   (0x1C90, 0x1CBA, 1, 0x10D0), (0x1CBD, 0x1CBF, 1, 0x10FD), (0x1E00, 0x1E94, 2, 0x1E01),
   (0x1EA0, 0x1EFE, 2, 0x1EA1), (0x1F08, 0x1F0F, 1, 0x1F00), (0x1F18, 0x1F1D, 1, 0x1F10),
   (0x1F28, 0x1F2F, 1, 0x1F20), (0x1F38, 0x1F3F, 1, 0x1F30), (0x1F48, 0x1F4D, 1, 0x1F40),
   (0x1F59, 0x1F5F, 2, 0x1F51), (0x1F68, 0x1F6F, 1, 0x1F60), (0x1FB8, 0x1FB9, 1, 0x1FB0),
   (0x1FD8, 0x1FD9, 1, 0x1FD0), (0x1FE8, 0x1FE9, 1, 0x1FE0), (0x2074, 0x2079, 1, 0x34),
   (0x207D, 0x207E, 1, 0x28), (0x2080, 0x2089, 1, 0x30), (0x208D, 0x208E, 1, 0x28),
   (0x210A, 0x210B, 1, 0x67), (0x2113, 0x2115, 2, 0x6C), (0x2119, 0x211B, 1, 0x70),
   (0x212C, 0x212D, 1, 0x62), (0x2130, 0x2131, 1, 0x65), (0x2135, 0x2138, 1, 0x5D0),
   (0x2146, 0x2147, 1, 0x64), (0x2148, 0x2149, 1, 0x69), (0x216D, 0x216E, 1, 0x63),
   (0x217D, 0x217E, 1, 0x63), (0x2460, 0x2468, 1, 0x31), (0x24B6, 0x24CF, 1, 0x61),
   (0x24D0, 0x24E9, 1, 0x61), (0x2C00, 0x2C2F, 1, 0x2C30), (0x2C67, 0x2C6B, 2, 0x2C68),
   (0x2C7E, 0x2C7F, 1, 0x23F), (0x2C80, 0x2CE2, 2, 0x2C81), (0x2CEB, 0x2CED, 2, 0x2CEC),
   (0xA640, 0xA66C, 2, 0xA641), (0xA680, 0xA69A, 2, 0xA681), (0xA722, 0xA72E, 2, 0xA723),
   (0xA732, 0xA76E, 2, 0xA733), (0xA779, 0xA77B, 2, 0xA77A), (0xA77E, 0xA786, 2, 0xA77F),
   (0xA790, 0xA792, 2, 0xA791), (0xA796, 0xA7A8, 2, 0xA797), (0xA7B4, 0xA7C2, 2, 0xA7B5),
   (0xA7C7, 0xA7C9, 2, 0xA7C8), (0xA7D6, 0xA7D8, 2, 0xA7D7), (0xFB22, 0xFB23, 1, 0x5D3),
   (0xFB24, 0xFB26, 1, 0x5DB), (0xFF01, 0xFF20, 1, 0x21), (0xFF21, 0xFF3A, 1, 0x61),
   (0xFF3B, 0xFF5E, 1, 0x5B), (0xFF5F, 0xFF60, 1, 0x2985), (0xFF62, 0xFF63, 1, 0x300C),
   (0x10400, 0x10427, 1, 0x10428), (0x104B0, 0x104D3, 1, 0x104D8), (0x10570, 0x1057A, 1, 0x10597),
   (0x1057C, 0x1058A, 1, 0x105A3), (0x1058C, 0x10592, 1, 0x105B3), (0x10594, 0x10595, 1, 0x105BB),
   (0x10C80, 0x10CB2, 1, 0x10CC0), (0x118A0, 0x118BF, 1, 0x118C0), (0x16E40, 0x16E5F, 1, 0x16E60),
   (0x1E900, 0x1E921, 1, 0x1E922)]

def pairs : List (Nat × Nat) :=
  [(0xA0, 0x20), (0xAA, 0x61), (0xB5, 0x3BC), (0xB9, 0x31), (0xBA, 0x6F), (0x178, 0xFF),
   (0x17F, 0x73), (0x181, 0x253), (0x186, 0x254), (0x187, 0x188), (0x18B, 0x18C), (0x18E, 0x1DD),
   (0x18F, 0x259), (0x190, 0x25B), (0x191, 0x192), (0x193, 0x260), (0x194, 0x263), (0x196, 0x269),
   (0x197, 0x268), (0x198, 0x199), (0x19C, 0x26F), (0x19D, 0x272), (0x19F, 0x275), (0x1A6, 0x280),
   (0x1A7, 0x1A8), (0x1A9, 0x283), (0x1AC, 0x1AD), (0x1AE, 0x288), (0x1AF, 0x1B0), (0x1B7, 0x292),
   (0x1B8, 0x1B9), (0x1BC, 0x1BD), (0x1F4, 0x1F5), (0x1F6, 0x195), (0x1F7, 0x1BF), (0x220, 0x19E),
   (0x23A, 0x2C65), (0x23B, 0x23C), (0x23D, 0x19A), (0x23E, 0x2C66), (0x241, 0x242), (0x243, 0x180),
   (0x244, 0x289), (0x245, 0x28C), (0x2B0, 0x68), (0x2B1, 0x266), (0x2B2, 0x6A), (0x2B3, 0x72),
   (0x2B4, 0x279), (0x2B5, 0x27B), (0x2B6, 0x281), (0x2B7, 0x77), (0x2B8, 0x79), (0x2E0, 0x263),
   (0x2E1, 0x6C), (0x2E2, 0x73), (0x2E3, 0x78), (0x2E4, 0x295), (0x343, 0x313), (0x345, 0x3B9),
   (0x374, 0x2B9), (0x376, 0x377), (0x37E, 0x3B), (0x37F, 0x3F3), (0x386, 0x3AC), (0x387, 0xB7),
   (0x38C, 0x3CC), (0x3C2, 0x3C3), (0x3CF, 0x3D7), (0x3D0, 0x3B2), (0x3D1, 0x3B8), (0x3D2, 0x3C5),
   (0x3D3, 0x3CD), (0x3D4, 0x3CB), (0x3D5, 0x3C6), (0x3D6, 0x3C0), (0x3F0, 0x3BA), (0x3F1, 0x3C1),
   (0x3F2, 0x3C3), (0x3F4, 0x3B8), (0x3F5, 0x3B5), (0x3F7, 0x3F8), (0x3F9, 0x3C3), (0x3FA, 0x3FB),
   (0x4C0, 0x4CF), (0x10C7, 0x2D27), (0x10CD, 0x2D2D), (0x1E9B, 0x1E61), (0x1F71, 0x3AC),
   (0x1F73, 0x3AD), (0x1F75, 0x3AE), (0x1F77, 0x3AF), (0x1F79, 0x3CC), (0x1F7B, 0x3CD),
   (0x1F7D, 0x3CE), (0x1FBA, 0x1F70), (0x1FBB, 0x3AC), (0x1FBE, 0x3B9), (0x1FC8, 0x1F72),
   (0x1FC9, 0x3AD), (0x1FCA, 0x1F74), (0x1FCB, 0x3AE), (0x1FD3, 0x390), (0x1FDA, 0x1F76),
   (0x1FDB, 0x3AF), (0x1FE3, 0x3B0), (0x1FEA, 0x1F7A), (0x1FEB, 0x3CD), (0x1FEC, 0x1FE5),
   (0x1FEF, 0x60), (0x1FF8, 0x1F78), (0x1FF9, 0x3CC), (0x1FFA, 0x1F7C), (0x1FFB, 0x3CE),
   (0x2000, 0x20), (0x2001, 0x20), (0x2002, 0x20), (0x2003, 0x20), (0x2004, 0x20), (0x2005, 0x20),
   (0x2006, 0x20), (0x2007, 0x20), (0x2008, 0x20), (0x2009, 0x20), (0x200A, 0x20), (0x2011, 0x2010),
   (0x2024, 0x2E), (0x202F, 0x20), (0x205F, 0x20), (0x2070, 0x30), (0x2071, 0x69), (0x207A, 0x2B),
   (0x207B, 0x2212), (0x207C, 0x3D), (0x207F, 0x6E), (0x208A, 0x2B), (0x208B, 0x2212),
   (0x208C, 0x3D), (0x2102, 0x63), (0x2107, 0x25B), (0x210C, 0x68), (0x210D, 0x68), (0x210E, 0x68),
   (0x210F, 0x127), (0x2110, 0x69), (0x2111, 0x69), (0x2112, 0x6C), (0x211C, 0x72), (0x211D, 0x72),
   (0x2124, 0x7A), (0x2126, 0x3C9), (0x2128, 0x7A), (0x212A, 0x6B), (0x212B, 0xE5), (0x212F, 0x65),
   (0x2132, 0x214E), (0x2133, 0x6D), (0x2134, 0x6F), (0x2139, 0x69), (0x213D, 0x3B3),
   (0x213E, 0x3B3), (0x213F, 0x3C0), (0x2140, 0x2211), (0x2145, 0x64), (0x2160, 0x69),
   (0x2164, 0x76), (0x2169, 0x78), (0x216C, 0x6C), (0x216F, 0x6D), (0x2170, 0x69), (0x2174, 0x76),
   (0x2179, 0x78), (0x217C, 0x6C), (0x217F, 0x6D), (0x2183, 0x2184), (0x24EA, 0x30),
   (0x2C60, 0x2C61), (0x2C62, 0x26B), (0x2C63, 0x1D7D), (0x2C64, 0x27D), (0x2C6D, 0x251),
   (0x2C6E, 0x271), (0x2C6F, 0x250), (0x2C70, 0x252), (0x2C72, 0x2C73), (0x2C75, 0x2C76),
   (0x2CF2, 0x2CF3), (0xA77D, 0x1D79), (0xA78B, 0xA78C), (0xA78D, 0x265), (0xA7AA, 0x266),
   (0xA7AB, 0x25C), (0xA7AC, 0x261), (0xA7AD, 0x26C), (0xA7AE, 0x26A), (0xA7B0, 0x29E),
   (0xA7B1, 0x287), (0xA7B2, 0x29D), (0xA7B3, 0xAB53), (0xA7C4, 0xA794), (0xA7C5, 0x282),
   (0xA7C6, 0x1D8E), (0xA7D0, 0xA7D1), (0xA7F5, 0xA7F6), (0xFB20, 0x5E2), (0xFB21, 0x5D0),
   (0xFB27, 0x5E8), (0xFB28, 0x5EA), (0xFB29, 0x2B), (0xFF61, 0x3002), (0xFF64, 0x3001)]

def sequences : List (Nat × String) :=
  [(0xBC, "1\u20444"), (0xBD, "1\u20442"), (0xBE, "3\u20444"), (0xDF, "ss"), (0x130, "i\u0307"),
   (0x132, "ij"), (0x133, "ij"), (0x13F, "l\u00B7"), (0x140, "l\u00B7"), (0x149, "\u02BCn"),
   (0x1C4, "d\u017E"), (0x1C5, "d\u017E"), (0x1C6, "d\u017E"), (0x1C7, "lj"), (0x1C8, "lj"),
   (0x1C9, "lj"), (0x1CA, "nj"), (0x1CB, "nj"), (0x1CC, "nj"), (0x1F1, "dz"), (0x1F2, "dz"),
   (0x1F3, "dz"), (0x344, "\u0308\u0301"), (0x587, "\u0565\u0582"), (0x675, "\u0627\u0674"),
   (0x676, "\u0648\u0674"), (0x677, "\u06C7\u0674"), (0x678, "\u064A\u0674"), (0x1E9A, "a\u02BE"),
   (0x1E9E, "ss"), (0x2025, ".."), (0x2026, "..."), (0x203C, "!!"), (0x20A8, "rs"), (0x2100, "a/c"),
   (0x2101, "a/s"), (0x2103, "\u00B0c"), (0x2105, "c/o"), (0x2106, "c/u"), (0x2109, "\u00B0f"),
   (0x2116, "no"), (0x2120, "sm"), (0x2121, "tel"), (0x2122, "tm"), (0x2153, "1\u20443"),
   (0x2154, "2\u20443"), (0x2155, "1\u20445"), (0x2156, "2\u20445"), (0x2157, "3\u20445"),
   (0x2158, "4\u20445"), (0x2159, "1\u20446"), (0x215A, "5\u20446"), (0x215B, "1\u20448"),
   (0x215C, "3\u20448"), (0x215D, "5\u20448"), (0x215E, "7\u20448"), (0x215F, "1\u2044"),
   (0x2161, "ii"), (0x2162, "iii"), (0x2163, "iv"), (0x2165, "vi"), (0x2166, "vii"),
   (0x2167, "viii"), (0x2168, "ix"), (0x216A, "xi"), (0x216B, "xii"), (0x2171, "ii"),
   (0x2172, "iii"), (0x2173, "iv"), (0x2175, "vi"), (0x2176, "vii"), (0x2177, "viii"),
   (0x2178, "ix"), (0x217A, "xi"), (0x217B, "xii"), (0x2469, "10"), (0x246A, "11"), (0x246B, "12"),
   (0x246C, "13"), (0x246D, "14"), (0x246E, "15"), (0x246F, "16"), (0x2470, "17"), (0x2471, "18"),
   (0x2472, "19"), (0x2473, "20"), (0xFB00, "ff"), (0xFB01, "fi"), (0xFB02, "fl"), (0xFB03, "ffi"),
   (0xFB04, "ffl"), (0xFB05, "st"), (0xFB06, "st"), (0xFB13, "\u0574\u0576"),
   (0xFB14, "\u0574\u0565"), (0xFB15, "\u0574\u056B"), (0xFB16, "\u057E\u0576"),
   (0xFB17, "\u0574\u056D"), (0xFB1D, "\u05D9\u05B4"), (0xFB1F, "\u05F2\u05B7"),
   (0xFB2A, "\u05E9\u05C1"), (0xFB2B, "\u05E9\u05C2"), (0xFB2C, "\u05E9\u05BC\u05C1"),
   (0xFB2D, "\u05E9\u05BC\u05C2"), (0xFB2E, "\u05D0\u05B7"), (0xFB2F, "\u05D0\u05B8"),
   (0xFB30, "\u05D0\u05BC"), (0xFB31, "\u05D1\u05BC"), (0xFB32, "\u05D2\u05BC"),
   (0xFB33, "\u05D3\u05BC"), (0xFB34, "\u05D4\u05BC"), (0xFB35, "\u05D5\u05BC"),
   (0xFB36, "\u05D6\u05BC"), (0xFB38, "\u05D8\u05BC"), (0xFB39, "\u05D9\u05BC"),
   (0xFB3A, "\u05DA\u05BC"), (0xFB3B, "\u05DB\u05BC"), (0xFB3C, "\u05DC\u05BC"),
   (0xFB3E, "\u05DE\u05BC"), (0xFB40, "\u05E0\u05BC"), (0xFB41, "\u05E1\u05BC"),
   (0xFB43, "\u05E3\u05BC"), (0xFB44, "\u05E4\u05BC"), (0xFB46, "\u05E6\u05BC"),
   (0xFB47, "\u05E7\u05BC"), (0xFB48, "\u05E8\u05BC"), (0xFB49, "\u05E9\u05BC"),
   (0xFB4A, "\u05EA\u05BC"), (0xFB4B, "\u05D5\u05B9"), (0xFB4C, "\u05D1\u05BF"),
   (0xFB4D, "\u05DB\u05BF"), (0xFB4E, "\u05E4\u05BF"), (0xFB4F, "\u05D0\u05DC"),
   (0xFDFA, "\u0635\u0644\u0649 \u0627\u0644\u0644\u0647 " ++
    "\u0639\u0644\u064A\u0647 \u0648\u0633\u0644\u0645"),
   (0xFDFB, "\u062C\u0644 \u062C\u0644\u0627\u0644\u0647")]

/-- Letters and digits of mathematical typefaces. The alphabets follow one another without a gap:
the first character, the last, the length of an alphabet, and its first letter. -/
def typefaces : List (Nat × Nat × Nat × Nat) :=
  [(0x1D400, 0x1D6A3, 26, 0x61), (0x1D7CE, 0x1D7FF, 10, 0x30)]

def inRun? (n : Nat) : Option Nat :=
  runs.findSome? fun (first, last, step, image) =>
    if first ≤ n ∧ n ≤ last ∧ (n - first) % step = 0 then some (image + (n - first))
    else none

/-- The folded form of a character of a typeface. -/
def inTypeface? (n : Nat) : Option Nat :=
  typefaces.findSome? fun (first, last, length, image) =>
    if first ≤ n ∧ n ≤ last then some (image + (n - first) % length) else none

end BootstrapApproval.Folded

namespace BootstrapApproval

def vanishes (c : Char) : Bool := Ranges.holds c.toNat Folded.vanishing

def folded (c : Char) : List Char :=
  let n := c.toNat
  if n < 0x80 then [c.toLower]
  else if vanishes c then []
  else
    match Folded.sequences.lookup n with
    | some s => s.toList
    | none =>
        let image := ((Folded.pairs.lookup n).or (Folded.inRun? n)).or (Folded.inTypeface? n)
        [(image.map Char.ofNat).getD c]

example : Ranges.ascend Folded.vanishing = true := by decide +kernel

example : folded '\u00C9' = ['\u00E9'] := by decide +kernel

end BootstrapApproval
