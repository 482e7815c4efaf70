import PageBinding.Text.Basic
import PageBinding.Text.Blank

/-!
The general categories of characters, as of Unicode 17.0.
-/
namespace PageBinding.Text

/-- A set of numbers: some by themselves, some in rows of neighbours, and some in rows of every second
number. A row is given by its first number and its length. -/
structure Table where
  single : List Nat := []
  rows : List (Nat × Nat) := []
  alternate : List (Nat × Nat) := []
  deriving DecidableEq, Repr

def Table.has (t : Table) (n : Nat) : Bool :=
  t.single.contains n || t.rows.any (fun row => row.1 ≤ n && n - row.1 < row.2) ||
    t.alternate.any fun row => row.1 ≤ n && (n - row.1) % 2 == 0 && (n - row.1) / 2 < row.2

/-- A table as words: a number by itself, a row as its first number and, after a plus sign, its
length, and a row of every second number with a star in place of the plus sign. -/
def Table.ofWords (words : List (List Char)) : Table :=
  words.foldr add {}
where
  add (word : List Char) (t : Table) : Table :=
    match splitOn '+' word, splitOn '*' word with
    | [first, length], _ => { t with rows := (hexNumber first, decimalValue length) :: t.rows }
    | _, [first, length] =>
        { t with alternate := (hexNumber first, decimalValue length) :: t.alternate }
    | _, _ => { t with single := hexNumber word :: t.single }

def Table.ofText (text : String) : Table :=
  .ofWords (words text.toList)

namespace Category

def controlChars : Table where
  rows := [(0x0, 32), (0x7f, 33)]

def formatChars : Table where
  single := [0xad, 0x61c, 0x6dd, 0x70f, 0x8e2, 0x180e, 0xfeff, 0x110bd, 0x110cd, 0xe0001]
  rows := [(0x600, 6), (0x890, 2), (0x200b, 5), (0x202a, 5), (0x2060, 5), (0x2066, 10), (0xfff9, 3),
    (0x13430, 16), (0x1bca0, 4), (0x1d173, 8), (0xe0020, 96)]

def privateUse : Table where
  rows := [(0xe000, 6400), (0xf0000, 65534), (0x100000, 65534)]

def surrogates : Table where
  rows := [(0xd800, 2048)]

def lowerLetters : Table where
  single := [0xb5, 0x17a, 0x17c, 0x183, 0x185, 0x188, 0x192, 0x195, 0x19e, 0x1a8, 0x1ad, 0x1b0,
    0x1b4, 0x1b6, 0x1c6, 0x1c9, 0x1f3, 0x1f5, 0x23c, 0x242, 0x371, 0x373, 0x377, 0x390, 0x3f5,
    0x3f8, 0x1c8a, 0x1fbe, 0x210a, 0x2113, 0x212f, 0x2134, 0x2139, 0x214e, 0x2184, 0x2c61, 0x2c71,
    0x2cec, 0x2cee, 0x2cf3, 0x2d27, 0x2d2d, 0xa77a, 0xa77c, 0xa78c, 0xa78e, 0xa791, 0xa7af, 0xa7c8,
    0xa7ca, 0xa7f6, 0xa7fa, 0x1d4bb, 0x1d7cb]
  rows := [(0x61, 26), (0xdf, 24), (0xf8, 8), (0x137, 2), (0x148, 2), (0x17e, 3), (0x18c, 2),
    (0x199, 3), (0x1aa, 2), (0x1b9, 2), (0x1bd, 3), (0x1dc, 2), (0x1ef, 2), (0x233, 7), (0x23f, 2),
    (0x24f, 69), (0x295, 27), (0x37b, 3), (0x3ac, 35), (0x3d0, 2), (0x3d5, 3), (0x3ef, 5),
    (0x3fb, 2), (0x430, 48), (0x4ce, 2), (0x560, 41), (0x10d0, 43), (0x10fd, 3), (0x13f8, 6),
    (0x1c80, 9), (0x1d00, 44), (0x1d6b, 13), (0x1d79, 34), (0x1e95, 9), (0x1eff, 9), (0x1f10, 6),
    (0x1f20, 8), (0x1f30, 8), (0x1f40, 6), (0x1f50, 8), (0x1f60, 8), (0x1f70, 14), (0x1f80, 8),
    (0x1f90, 8), (0x1fa0, 8), (0x1fb0, 5), (0x1fb6, 2), (0x1fc2, 3), (0x1fc6, 2), (0x1fd0, 4),
    (0x1fd6, 2), (0x1fe0, 8), (0x1ff2, 3), (0x1ff6, 2), (0x210e, 2), (0x213c, 2), (0x2146, 4),
    (0x2c30, 48), (0x2c65, 2), (0x2c73, 2), (0x2c76, 6), (0x2ce3, 2), (0x2d00, 38), (0xa72f, 3),
    (0xa771, 8), (0xa793, 3), (0xab30, 43), (0xab60, 9), (0xab70, 80), (0xfb00, 7), (0xfb13, 5),
    (0xff41, 26), (0x10428, 40), (0x104d8, 36), (0x10597, 11), (0x105a3, 15), (0x105b3, 7),
    (0x105bb, 2), (0x10cc0, 51), (0x10d70, 22), (0x118c0, 32), (0x16e60, 32), (0x16ebb, 25),
    (0x1d41a, 26), (0x1d44e, 7), (0x1d456, 18), (0x1d482, 26), (0x1d4b6, 4), (0x1d4bd, 7),
    (0x1d4c5, 11), (0x1d4ea, 26), (0x1d51e, 26), (0x1d552, 26), (0x1d586, 26), (0x1d5ba, 26),
    (0x1d5ee, 26), (0x1d622, 26), (0x1d656, 26), (0x1d68a, 28), (0x1d6c2, 25), (0x1d6dc, 6),
    (0x1d6fc, 25), (0x1d716, 6), (0x1d736, 25), (0x1d750, 6), (0x1d770, 25), (0x1d78a, 6),
    (0x1d7aa, 25), (0x1d7c4, 6), (0x1df00, 10), (0x1df0b, 20), (0x1df25, 6), (0x1e922, 34)]
  alternate := [(0x101, 27), (0x13a, 7), (0x14b, 23), (0x1a1, 3), (0x1cc, 8), (0x1df, 8),
    (0x1f9, 29), (0x247, 4), (0x3d9, 11), (0x461, 17), (0x48b, 27), (0x4c2, 6), (0x4d1, 48),
    (0x1e01, 74), (0x1e9f, 48), (0x2c68, 3), (0x2c81, 49), (0xa641, 23), (0xa681, 14), (0xa723, 6),
    (0xa733, 31), (0xa77f, 5), (0xa797, 10), (0xa7b5, 8), (0xa7cd, 8)]

def modifierLetters : Table where
  single := [0x2ec, 0x2ee, 0x374, 0x37a, 0x559, 0x640, 0x7fa, 0x81a, 0x824, 0x828, 0x8c9, 0x971,
    0xe46, 0xec6, 0x10fc, 0x17d7, 0x1843, 0x1aa7, 0x1d78, 0x2071, 0x207f, 0x2d6f, 0x2e2f, 0x3005,
    0x303b, 0xa015, 0xa60c, 0xa67f, 0xa770, 0xa788, 0xa9cf, 0xa9e6, 0xaa70, 0xaadd, 0xab69, 0xff70,
    0x10d4e, 0x10d6f, 0x10ec5, 0x11dd9, 0x16fe3, 0x1e4eb, 0x1e6ff, 0x1e94b]
  rows := [(0x2b0, 18), (0x2c6, 12), (0x2e0, 5), (0x6e5, 2), (0x7f4, 2), (0x1c78, 6), (0x1d2c, 63),
    (0x1d9b, 37), (0x2090, 13), (0x2c7c, 2), (0x3031, 5), (0x309d, 2), (0x30fc, 3), (0xa4f8, 6),
    (0xa69c, 2), (0xa717, 9), (0xa7f1, 4), (0xa7f8, 2), (0xaaf3, 2), (0xab5c, 4), (0xff9e, 2),
    (0x10780, 6), (0x10787, 42), (0x107b2, 9), (0x16b40, 4), (0x16d40, 3), (0x16d6b, 2),
    (0x16f93, 13), (0x16fe0, 2), (0x16ff2, 2), (0x1aff0, 4), (0x1aff5, 7), (0x1affd, 2),
    (0x1e030, 62), (0x1e137, 7)]

def otherLetters : Table where
  single := [0xaa, 0xba, 0x1bb, 0x294, 0x6d5, 0x6ff, 0x710, 0x7b1, 0x93d, 0x950, 0x9b2, 0x9bd,
    0x9ce, 0x9fc, 0xa5e, 0xabd, 0xad0, 0xaf9, 0xb3d, 0xb71, 0xb83, 0xb9c, 0xbd0, 0xc3d, 0xc80,
    0xcbd, 0xd3d, 0xd4e, 0xdbd, 0xe84, 0xea5, 0xebd, 0xf00, 0x103f, 0x1061, 0x108e, 0x1258, 0x12c0,
    0x17dc, 0x18aa, 0x1cfa, 0x3006, 0x303c, 0x309f, 0x30ff, 0xa66e, 0xa78f, 0xa7f7, 0xa8fb, 0xaa7a,
    0xaab1, 0xaac0, 0xaac2, 0xaaf2, 0xfb1d, 0xfb3e, 0x10808, 0x1083c, 0x10a00, 0x10d4f, 0x10f27,
    0x11075, 0x11144, 0x11147, 0x11176, 0x111da, 0x111dc, 0x11288, 0x1133d, 0x11350, 0x1138b,
    0x1138e, 0x113b7, 0x113d1, 0x113d3, 0x114c7, 0x11644, 0x116b8, 0x11909, 0x1193f, 0x11941,
    0x119e1, 0x119e3, 0x11a00, 0x11a3a, 0x11a50, 0x11a9d, 0x11c40, 0x11d46, 0x11d98, 0x11f02,
    0x11fb0, 0x16f50, 0x1b132, 0x1b155, 0x1df0a, 0x1e14e, 0x1e5f0, 0x1e6fe, 0x1ee24, 0x1ee27,
    0x1ee39, 0x1ee3b, 0x1ee42, 0x1ee54, 0x1ee64, 0x1ee7e]
  rows := [(0x1c0, 4), (0x5d0, 27), (0x5ef, 4), (0x620, 32), (0x641, 10), (0x66e, 2), (0x671, 99),
    (0x6ee, 2), (0x6fa, 3), (0x712, 30), (0x74d, 89), (0x7ca, 33), (0x800, 22), (0x840, 25),
    (0x860, 11), (0x870, 24), (0x889, 7), (0x8a0, 41), (0x904, 54), (0x958, 10), (0x972, 15),
    (0x985, 8), (0x98f, 2), (0x993, 22), (0x9aa, 7), (0x9b6, 4), (0x9dc, 2), (0x9df, 3), (0x9f0, 2),
    (0xa05, 6), (0xa0f, 2), (0xa13, 22), (0xa2a, 7), (0xa32, 2), (0xa35, 2), (0xa38, 2), (0xa59, 4),
    (0xa72, 3), (0xa85, 9), (0xa8f, 3), (0xa93, 22), (0xaaa, 7), (0xab2, 2), (0xab5, 5), (0xae0, 2),
    (0xb05, 8), (0xb0f, 2), (0xb13, 22), (0xb2a, 7), (0xb32, 2), (0xb35, 5), (0xb5c, 2), (0xb5f, 3),
    (0xb85, 6), (0xb8e, 3), (0xb92, 4), (0xb99, 2), (0xb9e, 2), (0xba3, 2), (0xba8, 3), (0xbae, 12),
    (0xc05, 8), (0xc0e, 3), (0xc12, 23), (0xc2a, 16), (0xc58, 3), (0xc5c, 2), (0xc60, 2),
    (0xc85, 8), (0xc8e, 3), (0xc92, 23), (0xcaa, 10), (0xcb5, 5), (0xcdc, 3), (0xce0, 2),
    (0xcf1, 2), (0xd04, 9), (0xd0e, 3), (0xd12, 41), (0xd54, 3), (0xd5f, 3), (0xd7a, 6),
    (0xd85, 18), (0xd9a, 24), (0xdb3, 9), (0xdc0, 7), (0xe01, 48), (0xe32, 2), (0xe40, 6),
    (0xe81, 2), (0xe86, 5), (0xe8c, 24), (0xea7, 10), (0xeb2, 2), (0xec0, 5), (0xedc, 4),
    (0xf40, 8), (0xf49, 36), (0xf88, 5), (0x1000, 43), (0x1050, 6), (0x105a, 4), (0x1065, 2),
    (0x106e, 3), (0x1075, 13), (0x1100, 329), (0x124a, 4), (0x1250, 7), (0x125a, 4), (0x1260, 41),
    (0x128a, 4), (0x1290, 33), (0x12b2, 4), (0x12b8, 7), (0x12c2, 4), (0x12c8, 15), (0x12d8, 57),
    (0x1312, 4), (0x1318, 67), (0x1380, 16), (0x1401, 620), (0x166f, 17), (0x1681, 26),
    (0x16a0, 75), (0x16f1, 8), (0x1700, 18), (0x171f, 19), (0x1740, 18), (0x1760, 13), (0x176e, 3),
    (0x1780, 52), (0x1820, 35), (0x1844, 53), (0x1880, 5), (0x1887, 34), (0x18b0, 70), (0x1900, 31),
    (0x1950, 30), (0x1970, 5), (0x1980, 44), (0x19b0, 26), (0x1a00, 23), (0x1a20, 53), (0x1b05, 47),
    (0x1b45, 8), (0x1b83, 30), (0x1bae, 2), (0x1bba, 44), (0x1c00, 36), (0x1c4d, 3), (0x1c5a, 30),
    (0x1ce9, 4), (0x1cee, 6), (0x1cf5, 2), (0x2135, 4), (0x2d30, 56), (0x2d80, 23), (0x2da0, 7),
    (0x2da8, 7), (0x2db0, 7), (0x2db8, 7), (0x2dc0, 7), (0x2dc8, 7), (0x2dd0, 7), (0x2dd8, 7),
    (0x3041, 86), (0x30a1, 90), (0x3105, 43), (0x3131, 94), (0x31a0, 32), (0x31f0, 16),
    (0x3400, 6592), (0x4e00, 21013), (0xa016, 1143), (0xa4d0, 40), (0xa500, 268), (0xa610, 16),
    (0xa62a, 2), (0xa6a0, 70), (0xa7fb, 7), (0xa803, 3), (0xa807, 4), (0xa80c, 23), (0xa840, 52),
    (0xa882, 50), (0xa8f2, 6), (0xa8fd, 2), (0xa90a, 28), (0xa930, 23), (0xa960, 29), (0xa984, 47),
    (0xa9e0, 5), (0xa9e7, 9), (0xa9fa, 5), (0xaa00, 41), (0xaa40, 3), (0xaa44, 8), (0xaa60, 16),
    (0xaa71, 6), (0xaa7e, 50), (0xaab5, 2), (0xaab9, 5), (0xaadb, 2), (0xaae0, 11), (0xab01, 6),
    (0xab09, 6), (0xab11, 6), (0xab20, 7), (0xab28, 7), (0xabc0, 35), (0xac00, 11172), (0xd7b0, 23),
    (0xd7cb, 49), (0xf900, 366), (0xfa70, 106), (0xfb1f, 10), (0xfb2a, 13), (0xfb38, 5),
    (0xfb40, 2), (0xfb43, 2), (0xfb46, 108), (0xfbd3, 363), (0xfd50, 64), (0xfd92, 54),
    (0xfdf0, 12), (0xfe70, 5), (0xfe76, 135), (0xff66, 10), (0xff71, 45), (0xffa0, 31), (0xffc2, 6),
    (0xffca, 6), (0xffd2, 6), (0xffda, 3), (0x10000, 12), (0x1000d, 26), (0x10028, 19),
    (0x1003c, 2), (0x1003f, 15), (0x10050, 14), (0x10080, 123), (0x10280, 29), (0x102a0, 49),
    (0x10300, 32), (0x1032d, 20), (0x10342, 8), (0x10350, 38), (0x10380, 30), (0x103a0, 36),
    (0x103c8, 8), (0x10450, 78), (0x10500, 40), (0x10530, 52), (0x105c0, 52), (0x10600, 311),
    (0x10740, 22), (0x10760, 8), (0x10800, 6), (0x1080a, 44), (0x10837, 2), (0x1083f, 23),
    (0x10860, 23), (0x10880, 31), (0x108e0, 19), (0x108f4, 2), (0x10900, 22), (0x10920, 26),
    (0x10940, 26), (0x10980, 56), (0x109be, 2), (0x10a10, 4), (0x10a15, 3), (0x10a19, 29),
    (0x10a60, 29), (0x10a80, 29), (0x10ac0, 8), (0x10ac9, 28), (0x10b00, 54), (0x10b40, 22),
    (0x10b60, 19), (0x10b80, 18), (0x10c00, 73), (0x10d00, 36), (0x10d4a, 4), (0x10e80, 42),
    (0x10eb0, 2), (0x10ec2, 3), (0x10ec6, 2), (0x10f00, 29), (0x10f30, 22), (0x10f70, 18),
    (0x10fb0, 21), (0x10fe0, 23), (0x11003, 53), (0x11071, 2), (0x11083, 45), (0x110d0, 25),
    (0x11103, 36), (0x11150, 35), (0x11183, 48), (0x111c1, 4), (0x11200, 18), (0x11213, 25),
    (0x1123f, 2), (0x11280, 7), (0x1128a, 4), (0x1128f, 15), (0x1129f, 10), (0x112b0, 47),
    (0x11305, 8), (0x1130f, 2), (0x11313, 22), (0x1132a, 7), (0x11332, 2), (0x11335, 5),
    (0x1135d, 5), (0x11380, 10), (0x11390, 38), (0x11400, 53), (0x11447, 4), (0x1145f, 3),
    (0x11480, 48), (0x114c4, 2), (0x11580, 47), (0x115d8, 4), (0x11600, 48), (0x11680, 43),
    (0x11700, 27), (0x11740, 7), (0x11800, 44), (0x118ff, 8), (0x1190c, 8), (0x11915, 2),
    (0x11918, 24), (0x119a0, 8), (0x119aa, 39), (0x11a0b, 40), (0x11a5c, 46), (0x11ab0, 73),
    (0x11bc0, 33), (0x11c00, 9), (0x11c0a, 37), (0x11c72, 30), (0x11d00, 7), (0x11d08, 2),
    (0x11d0b, 38), (0x11d60, 6), (0x11d67, 2), (0x11d6a, 32), (0x11db0, 41), (0x11dda, 2),
    (0x11ee0, 19), (0x11f04, 13), (0x11f12, 34), (0x12000, 922), (0x12480, 196), (0x12f90, 97),
    (0x13000, 1072), (0x13441, 6), (0x13460, 3995), (0x14400, 583), (0x16100, 30), (0x16800, 569),
    (0x16a40, 31), (0x16a70, 79), (0x16ad0, 30), (0x16b00, 48), (0x16b63, 21), (0x16b7d, 19),
    (0x16d43, 40), (0x16f00, 75), (0x17000, 7382), (0x18cff, 32), (0x18d80, 115), (0x1b000, 291),
    (0x1b150, 3), (0x1b164, 4), (0x1b170, 396), (0x1bc00, 107), (0x1bc70, 13), (0x1bc80, 9),
    (0x1bc90, 10), (0x1e100, 45), (0x1e290, 30), (0x1e2c0, 44), (0x1e4d0, 27), (0x1e5d0, 30),
    (0x1e6c0, 31), (0x1e6e0, 3), (0x1e6e4, 2), (0x1e6e7, 7), (0x1e6f0, 5), (0x1e7e0, 7),
    (0x1e7e8, 4), (0x1e7ed, 2), (0x1e7f0, 15), (0x1e800, 197), (0x1ee00, 4), (0x1ee05, 27),
    (0x1ee21, 2), (0x1ee29, 10), (0x1ee34, 4), (0x1ee4d, 3), (0x1ee51, 2), (0x1ee61, 2),
    (0x1ee67, 4), (0x1ee6c, 7), (0x1ee74, 4), (0x1ee79, 4), (0x1ee80, 10), (0x1ee8b, 17),
    (0x1eea1, 3), (0x1eea5, 5), (0x1eeab, 17), (0x20000, 42720), (0x2a700, 4382), (0x2b820, 5774),
    (0x2ceb0, 7473), (0x2ebf0, 622), (0x2f800, 542), (0x30000, 4939), (0x31350, 8490)]
  alternate := [(0x1ee47, 3), (0x1ee57, 5)]

def titleLetters : Table where
  single := [0x1c5, 0x1c8, 0x1cb, 0x1f2, 0x1fbc, 0x1fcc, 0x1ffc]
  rows := [(0x1f88, 8), (0x1f98, 8), (0x1fa8, 8)]

def upperLetters : Table where
  single := [0x17b, 0x17d, 0x184, 0x1a2, 0x1a4, 0x1a9, 0x1ac, 0x1b5, 0x1bc, 0x1c4, 0x1c7, 0x1ca,
    0x1f1, 0x1f4, 0x241, 0x370, 0x372, 0x376, 0x37f, 0x386, 0x38c, 0x3cf, 0x3f4, 0x3f7, 0x10c7,
    0x10cd, 0x1c89, 0x2102, 0x2107, 0x2115, 0x2145, 0x2183, 0x2c60, 0x2c72, 0x2c75, 0x2ceb, 0x2ced,
    0x2cf2, 0xa779, 0xa77b, 0xa78b, 0xa78d, 0xa790, 0xa792, 0xa7c9, 0xa7f5, 0x1d49c, 0x1d4a2,
    0x1d546, 0x1d7ca]
  rows := [(0x41, 26), (0xc0, 23), (0xd8, 7), (0x178, 2), (0x181, 2), (0x186, 2), (0x189, 3),
    (0x18e, 4), (0x193, 2), (0x196, 3), (0x19c, 2), (0x19f, 2), (0x1a6, 2), (0x1ae, 2), (0x1b1, 3),
    (0x1b7, 2), (0x1f6, 3), (0x23a, 2), (0x23d, 2), (0x243, 4), (0x388, 3), (0x38e, 2), (0x391, 17),
    (0x3a3, 9), (0x3d2, 3), (0x3f9, 2), (0x3fd, 51), (0x4c0, 2), (0x531, 38), (0x10a0, 38),
    (0x13a0, 86), (0x1c90, 43), (0x1cbd, 3), (0x1f08, 8), (0x1f18, 6), (0x1f28, 8), (0x1f38, 8),
    (0x1f48, 6), (0x1f68, 8), (0x1fb8, 4), (0x1fc8, 4), (0x1fd8, 4), (0x1fe8, 5), (0x1ff8, 4),
    (0x210b, 3), (0x2110, 3), (0x2119, 5), (0x212a, 4), (0x2130, 4), (0x213e, 2), (0x2c00, 48),
    (0x2c62, 3), (0x2c6d, 4), (0x2c7e, 3), (0xa77d, 2), (0xa7aa, 5), (0xa7b0, 5), (0xa7c4, 4),
    (0xa7cb, 2), (0xff21, 26), (0x10400, 40), (0x104b0, 36), (0x10570, 11), (0x1057c, 15),
    (0x1058c, 7), (0x10594, 2), (0x10c80, 51), (0x10d50, 22), (0x118a0, 32), (0x16e40, 32),
    (0x16ea0, 25), (0x1d400, 26), (0x1d434, 26), (0x1d468, 26), (0x1d49e, 2), (0x1d4a5, 2),
    (0x1d4a9, 4), (0x1d4ae, 8), (0x1d4d0, 26), (0x1d504, 2), (0x1d507, 4), (0x1d50d, 8),
    (0x1d516, 7), (0x1d538, 2), (0x1d53b, 4), (0x1d540, 5), (0x1d54a, 7), (0x1d56c, 26),
    (0x1d5a0, 26), (0x1d5d4, 26), (0x1d608, 26), (0x1d63c, 26), (0x1d670, 26), (0x1d6a8, 25),
    (0x1d6e2, 25), (0x1d71c, 25), (0x1d756, 25), (0x1d790, 25), (0x1e900, 34)]
  alternate := [(0x100, 28), (0x139, 8), (0x14a, 23), (0x1cd, 8), (0x1de, 9), (0x1fa, 29),
    (0x248, 4), (0x3d8, 12), (0x460, 17), (0x48a, 27), (0x4c3, 6), (0x4d0, 48), (0x1e00, 75),
    (0x1e9e, 49), (0x1f59, 4), (0x2124, 3), (0x2c67, 3), (0x2c82, 49), (0xa640, 23), (0xa680, 14),
    (0xa722, 7), (0xa732, 31), (0xa780, 4), (0xa796, 10), (0xa7b6, 7), (0xa7ce, 8)]

def spacingMarks : Table := .ofText "
  903 93b 9d7 a03 a83 ac9 b3e b40 b57 bd7 cbe cf3 d57 f7f 1031 1038 108f 1715 1734 17b6 1a55 1a57
  1a61 1b04 1b35 1b3b 1b82 1ba1 1baa 1be7 1bee 1ce1 1cf7 a827 a983 aa4d aa7b aa7d aaeb aaf5 abec
  11000 11002 11082 1112c 11182 111ce 11235 11357 113c2 113c5 113cf 11445 114b9 114c1 115be 1163e
  116ac 116b6 1171e 11726 11838 1193d 11940 11942 119e4 11a39 11a97 11b61 11b65 11b67 11c2f 11c3e
  11ca9 11cb1 11cb4 11d96 11f03 11f41 93e+3 949+4 94e+2 982+2 9be+3 9c7+2 9cb+2 a3e+3 abe+3 acb+2
  b02+2 b47+2 b4b+2 bbe+2 bc1+2 bc6+3 bca+3 c01+3 c41+4 c82+2 cc0+5 cc7+2 cca+2 cd5+2 d02+2 d3e+3
  d46+3 d4a+3 d82+2 dcf+3 dd8+8 df2+2 f3e+2 102b+2 103b+2 1056+2 1062+3 1067+7 1083+2 1087+6
  109a+3 17be+8 17c7+2 1923+4 1929+3 1930+2 1933+6 1a19+2 1a63+2 1a6d+6 1b3d+5 1b43+2 1ba6+2
  1bea+3 1bf2+2 1c24+8 1c34+2 302e+2 a823+2 a880+2 a8b4+16 a952+2 a9b4+2 a9ba+2 a9be+3 aa2f+2
  aa33+2 aaee+2 abe3+2 abe6+2 abe9+2 110b0+3 110b7+2 11145+2 111b3+3 111bf+2 1122c+3 11232+2
  112e0+3 11302+2 1133e+2 11341+4 11347+2 1134b+3 11362+2 113b8+3 113c7+4 113cc+2 11435+3 11440+2
  114b0+3 114bb+4 115af+3 115b8+4 11630+3 1163b+2 116ae+2 11720+2 1182c+3 11930+6 11937+2 119d1+3
  119dc+4 11a57+2 11d8a+5 11d93+2 11ef5+2 11f34+2 11f3e+2 1612a+3 16f51+55 16ff0+2 1d165+2 1d16d+6"

def enclosingMarks : Table := .ofText "1abe 488+2 20dd+4 20e2+3 a670+3"

def nonspacingMarks : Table := .ofText "
  5bf 5c7 670 711 7fd 93a 93c 94d 981 9bc 9cd 9fe a3c a51 a75 abc acd b01 b3c b3f b4d b82 bc0 bcd
  c00 c04 c3c c81 cbc cbf cc6 d4d d81 dca dd6 e31 eb1 fc6 1082 108d 109d 17c6 17dd 180f 18a9 1932
  1a1b 1a56 1a60 1a62 1a7f 1b34 1b3c 1b42 1be6 1bed 1ced 1cf4 20e1 2d7f a66f a802 a806 a80b a82c
  a8ff a9b3 a9e5 aa43 aa4c aa7c aab0 aac1 aaf6 abe5 abe8 abed fb1e 101fd 102e0 10a3f 11001 11070
  110c2 11173 111cf 11234 1123e 11241 112df 11340 11446 1145e 114ba 1163d 116ab 116ad 116b7 1171d
  1171f 1193e 11943 119e0 11a47 11b60 11b66 11c3f 11d3a 11d47 11d95 11d97 11f40 11f42 11f5a 13440
  16f4f 16fe4 1da75 1da84 1e08f 1e2ae 1e6e3 1e6e6 1e6f5 300+112 483+5 591+45 5c1+2 5c4+2 610+11
  64b+21 6d6+7 6df+6 6e7+2 6ea+4 730+27 7a6+11 7eb+9 816+4 81b+9 825+3 829+5 859+3 897+9 8ca+24
  8e3+32 941+8 951+7 962+2 9c1+4 9e2+2 a01+2 a41+2 a47+2 a4b+3 a70+2 a81+2 ac1+5 ac7+2 ae2+2 afa+6
  b41+4 b55+2 b62+2 c3e+3 c46+3 c4a+4 c55+2 c62+2 ccc+2 ce2+2 d00+2 d3b+2 d41+4 d62+2 dd2+3 e34+7
  e47+8 eb4+9 ec8+7 f18+2 f71+14 f80+5 f86+2 f8d+11 f99+36 102d+4 1032+6 1039+2 103d+2 1058+2
  105e+3 1071+4 1085+2 135d+3 1712+3 1732+2 1752+2 1772+2 17b4+2 17b7+7 17c9+11 180b+3 1885+2
  1920+3 1927+2 1939+3 1a17+2 1a58+7 1a65+8 1a73+10 1ab0+14 1abf+31 1ae0+12 1b00+4 1b36+5 1b6b+9
  1b80+2 1ba2+4 1ba8+2 1bab+3 1be8+2 1bef+3 1c2c+8 1c36+2 1cd0+3 1cd4+13 1ce2+7 1cf8+2 1dc0+64
  20d0+13 20e5+12 2cef+3 2de0+32 302a+4 3099+2 a674+10 a69e+2 a6f0+2 a825+2 a8c4+2 a8e0+18 a926+8
  a947+11 a980+3 a9b6+4 a9bc+2 aa29+6 aa31+2 aa35+2 aab2+3 aab7+2 aabe+2 aaec+2 fe00+16 fe20+16
  10376+5 10a01+3 10a05+2 10a0c+4 10a38+3 10ae5+2 10d24+4 10d69+5 10eab+2 10efa+6 10f46+11 10f82+4
  11038+15 11073+2 1107f+3 110b3+4 110b9+2 11100+3 11127+5 1112d+8 11180+2 111b6+9 111c9+4 1122f+3
  11236+2 112e3+8 11300+2 1133b+2 11366+7 11370+5 113bb+6 113e1+2 11438+8 11442+3 114b3+6 114bf+2
  114c2+2 115b2+4 115bc+2 115bf+2 115dc+2 11633+8 1163f+2 116b0+6 11722+4 11727+5 1182f+9 11839+2
  1193b+2 119d4+4 119da+2 11a01+10 11a33+6 11a3b+4 11a51+6 11a59+3 11a8a+13 11a98+2 11b62+3
  11c30+7 11c38+6 11c92+22 11caa+7 11cb2+2 11cb5+2 11d31+6 11d3c+2 11d3f+7 11d90+2 11ef3+2 11f00+2
  11f36+5 13447+15 1611e+12 1612d+3 16af0+5 16b30+7 16f8f+4 1bc9d+2 1cf00+46 1cf30+23 1d167+3
  1d17b+8 1d185+7 1d1aa+4 1d242+3 1da00+55 1da3b+50 1da9b+5 1daa1+15 1e000+7 1e008+17 1e01b+7
  1e023+2 1e026+5 1e130+7 1e2ec+4 1e4ec+4 1e5ee+2 1e6ee+2 1e8d0+7 1e944+7 e0100+240 f35*3 113ce*3"

def decimalDigits : Table where
  rows := [(0x30, 10), (0x660, 10), (0x6f0, 10), (0x7c0, 10), (0x966, 10), (0x9e6, 10), (0xa66, 10),
    (0xae6, 10), (0xb66, 10), (0xbe6, 10), (0xc66, 10), (0xce6, 10), (0xd66, 10), (0xde6, 10),
    (0xe50, 10), (0xed0, 10), (0xf20, 10), (0x1040, 10), (0x1090, 10), (0x17e0, 10), (0x1810, 10),
    (0x1946, 10), (0x19d0, 10), (0x1a80, 10), (0x1a90, 10), (0x1b50, 10), (0x1bb0, 10),
    (0x1c40, 10), (0x1c50, 10), (0xa620, 10), (0xa8d0, 10), (0xa900, 10), (0xa9d0, 10),
    (0xa9f0, 10), (0xaa50, 10), (0xabf0, 10), (0xff10, 10), (0x104a0, 10), (0x10d30, 10),
    (0x10d40, 10), (0x11066, 10), (0x110f0, 10), (0x11136, 10), (0x111d0, 10), (0x112f0, 10),
    (0x11450, 10), (0x114d0, 10), (0x11650, 10), (0x116c0, 10), (0x116d0, 20), (0x11730, 10),
    (0x118e0, 10), (0x11950, 10), (0x11bf0, 10), (0x11c50, 10), (0x11d50, 10), (0x11da0, 10),
    (0x11de0, 10), (0x11f50, 10), (0x16130, 10), (0x16a60, 10), (0x16ac0, 10), (0x16b50, 10),
    (0x16d70, 10), (0x1ccf0, 10), (0x1d7ce, 50), (0x1e140, 10), (0x1e2f0, 10), (0x1e4f0, 10),
    (0x1e5f1, 10), (0x1e950, 10), (0x1fbf0, 10)]

def letterNumbers : Table := .ofText "
  3007 10341 1034a 16ee+3 2160+35 2185+4 3021+9 3038+3 a6e6+10 10140+53 103d1+5 12400+111 16ff4+3"

def otherNumbers : Table := .ofText "
  b9 19da 2070 2189 2cfd b2+2 bc+3 9f4+6 b72+6 bf0+3 c78+7 d58+7 d70+9 f2a+10 1369+20 17f0+10
  2074+6 2080+10 2150+16 2460+60 24ea+22 2776+30 3192+4 3220+10 3248+8 3251+15 3280+10 32b1+15
  a830+6 10107+45 10175+4 1018a+2 102e1+27 10320+4 10858+8 10879+7 108a7+9 108fb+5 10916+6 109bc+2
  109c0+16 109d2+46 10a40+9 10a7d+2 10a9d+3 10aeb+5 10b58+8 10b78+8 10ba9+7 10cfa+6 10e60+31
  10f1d+10 10f51+4 10fc5+7 11052+20 111e1+20 1173a+2 118ea+9 11c5a+19 11fc0+21 16b5b+7 16e80+23
  1d2c0+20 1d2e0+20 1d360+25 1e8c7+9 1ec71+59 1ecad+3 1ecb1+4 1ed01+45 1ed2f+15 1f100+13"

def connectors : Table := .ofText "5f 2054 ff3f 203f+2 fe33+2 fe4d+3"

def dashes : Table := .ofText "
  2d 58a 5be 1400 1806 2e17 2e1a 2e40 2e5d 301c 3030 30a0 fe58 fe63 ff0d 10d6e 10ead 2010+6 2e3a+2
  fe31+2"

def closers : Table := .ofText "
  29 5d 7d f3b f3d 169c 2046 207e 208e 2309 230b 232a 27c6 29d9 29db 29fd fd3e fe18 fe48 ff09 ff3d
  ff5d ff60 ff63 301e+2 2769*7 27e7*5 2984*11 2e23*4 2e56*4 3009*5 3015*4 fe36*8 fe5a*3"

def finalQuotes : Table := .ofText "bb 2019 201d 203a 2e03 2e05 2e0a 2e0d 2e1d 2e21"

def initialQuotes : Table := .ofText "ab 2018 201f 2039 2e02 2e04 2e09 2e0c 2e1c 2e20 201b+2"

def otherPunctuation : Table := .ofText "
  2a 2c 5c a1 a7 bf 37e 387 589 5c0 5c3 5c6 61b 6d4 85e 970 9fd a76 af0 c77 c84 df4 e4f f14 f85
  10fb 166e 1cd3 2053 2d70 2e0b 2e1b 2e41 303d 30fb a673 a67e a8fc a95f abeb fe19 fe30 fe68 ff0a
  ff0c ff3c ff61 1039f 103d0 1056f 10857 1091f 1093f 10a7f 10ed0 111cd 111db 112a9 1145d 114c6
  116b9 1183b 119e2 11be1 11fff 16af5 16b44 16fe2 1bc9f 1e5ff 21+3 25+3 2e+2 3a+2 3f+2 b6+2 55a+6
  5f3+2 609+2 60c+2 61d+3 66a+4 700+14 7f7+3 830+15 964+2 e5a+2 f04+15 fd0+5 fd9+2 104a+6 1360+9
  16eb+3 1735+2 17d4+3 17d8+3 1800+6 1807+4 1944+2 1a1e+2 1aa0+7 1aa8+6 1b4e+2 1b5a+7 1b7d+3
  1bfc+4 1c3b+5 1c7e+2 1cc0+8 2016+2 2020+8 2030+9 203b+4 2041+3 2047+11 2055+10 2cf9+4 2cfe+2
  2e00+2 2e06+3 2e0e+9 2e18+2 2e1e+2 2e2a+5 2e30+10 2e3c+4 2e43+13 2e52+3 3001+3 a4fe+2 a60d+3
  a6f2+6 a874+4 a8ce+2 a8f8+3 a92e+2 a9c1+13 a9de+2 aa5c+4 aade+2 aaf0+2 fe10+7 fe45+2 fe49+4
  fe50+3 fe54+4 fe5f+3 fe6a+2 ff01+3 ff05+3 ff0e+2 ff1a+2 ff1f+2 ff64+2 10100+3 10a50+9 10af0+7
  10b39+7 10b99+4 10f55+5 10f86+4 11047+7 110bb+2 110be+4 11140+4 11174+2 111c5+4 111dd+3 11238+6
  113d4+2 113d7+2 1144b+5 1145a+2 115c1+23 11641+3 11660+13 1173c+3 11944+3 11a3f+8 11a9a+3
  11a9e+5 11b00+10 11c41+5 11c70+2 11ef7+2 11f43+13 12470+5 12ff1+2 16a6e+2 16b37+5 16d6d+3
  16e97+4 1da87+5 1e95e+2"

def openers : Table := .ofText "
  28 5b 7b f3a f3c 169b 201a 201e 2045 207d 208d 2308 230a 2329 27c5 29d8 29da 29fc 2e42 301d fd3f
  fe17 fe47 ff08 ff3b ff5b ff5f ff62 2768*7 27e6*5 2983*11 2e22*4 2e55*4 3008*5 3014*4 fe35*8
  fe59*3"

def currencySymbols : Table := .ofText "
  24 58f 60b 9fb af1 bf9 e3f 17db a838 fdfc fe69 ff04 1e2ff 1ecb0 a2+4 7fe+2 9f2+2 20a0+34 ffe0+2
  ffe5+2 11fdd+4"

def modifierSymbols : Table := .ofText "
  5e 60 a8 af b4 b8 2ed 375 888 1fbd ab5b ff3e ff40 ffe3 2c2+4 2d2+14 2e5+7 2ef+17 384+2 1fbf+3
  1fcd+3 1fdd+3 1fed+3 1ffd+2 309b+2 a700+23 a720+2 a789+2 ab6a+2 fbb2+17 1f3fb+5"

def mathSymbols : Table := .ofText "
  2b 7c 7e ac b1 d7 f7 3f6 2044 2052 2118 214b 21a0 21a3 21a6 21ae 21d2 21d4 237c 25b7 25c1 266f
  fb29 fe62 ff0b ff5c ff5e ffe2 1cef0 1d6c1 1d6db 1d6fb 1d715 1d735 1d74f 1d76f 1d789 1d7a9 1d7c3
  3c+3 606+3 207a+3 208a+3 2140+5 2190+5 219a+2 21ce+2 21f4+268 2320+2 239b+25 23dc+6 25f8+8
  27c0+5 27c7+31 27f0+16 2900+131 2999+63 29dc+32 29fe+258 2b30+21 2b47+6 fe64+3 ff1c+3 ffe9+4
  10d8e+2 1eef0+2 1f8d0+9"

def otherSymbols : Table := .ofText "
  a6 a9 ae b0 482 6de 6e9 7f6 9fa b70 bfa c7f d4f d79 f13 166d 1940 2114 212e 214a 214f 21d3 3004
  3020 31ef 3250 a839 ffe4 ffe8 101a0 10ac8 1173f 16b45 1bc9c 1d245 1e14f 1ecac 1ed2e 1f7f0 1fac8
  1fbfa 58d+2 60e+2 6fd+2 bf3+6 f01+3 f15+3 f1a+6 fbe+8 fc7+6 fce+2 fd5+4 109e+2 1390+10 19de+34
  1b61+10 1b74+9 2100+2 2103+4 2108+2 2116+2 211e+6 213a+2 214c+2 218a+2 2195+5 219c+4 21a1+2
  21a4+2 21a7+7 21af+31 21d0+2 21d5+31 2300+8 230c+20 2322+7 232b+81 237d+30 23b4+40 23e2+72
  2440+11 249c+78 2500+183 25b8+9 25c2+54 2600+111 2670+248 2794+44 2800+256 2b00+48 2b45+2
  2b4d+39 2b76+138 2ce5+6 2e50+2 2e80+26 2e9b+89 2f00+214 2ff0+16 3012+2 3036+2 303e+2 3190+2
  3196+10 31c0+38 3200+31 322a+30 3260+32 328a+39 32c0+320 4dc0+64 a490+55 a828+4 a836+2 aa77+3
  fbc3+16 fd40+16 fd90+2 fdc8+8 fdfd+3 ffed+2 fffc+2 10137+9 10179+17 1018c+3 10190+13 101d0+45
  10877+2 10ed1+8 11fd5+8 11fe1+17 16b3c+4 1cc00+240 1ccfa+3 1cd00+436 1ceba+23 1cee0+16 1cf50+116
  1d000+246 1d100+39 1d129+60 1d16a+3 1d183+2 1d18c+30 1d1ae+61 1d200+66 1d300+87 1d800+512
  1da37+4 1da6d+8 1da76+14 1da85+2 1f000+44 1f030+100 1f0a0+15 1f0b1+15 1f0c1+15 1f0d1+37
  1f10d+161 1f1e6+29 1f210+44 1f240+9 1f250+2 1f260+6 1f300+251 1f400+729 1f6dc+17 1f6f0+13
  1f700+218 1f7e0+12 1f800+12 1f810+56 1f850+10 1f860+40 1f890+30 1f8b0+12 1f8c0+2 1f900+344
  1fa60+14 1fa70+13 1fa80+11 1fa8e+57 1facd+16 1fadf+12 1faef+10 1fb00+147 1fb94+92 f34*3 2125*3"

def lineSeparators : Table where
  single := [0x2028]

def paragraphSeparators : Table where
  single := [0x2029]

def spaces : Table where
  single := [0x20, 0xa0, 0x1680, 0x202f, 0x205f, 0x3000]
  rows := [(0x2000, 11)]

def tables : List (String × Table) := [
  ("Cc", controlChars), ("Cf", formatChars), ("Co", privateUse), ("Cs", surrogates),
  ("Ll", lowerLetters), ("Lm", modifierLetters), ("Lo", otherLetters), ("Lt", titleLetters),
  ("Lu", upperLetters), ("Mc", spacingMarks), ("Me", enclosingMarks), ("Mn", nonspacingMarks),
  ("Nd", decimalDigits), ("Nl", letterNumbers), ("No", otherNumbers), ("Pc", connectors),
  ("Pd", dashes), ("Pe", closers), ("Pf", finalQuotes), ("Pi", initialQuotes),
  ("Po", otherPunctuation), ("Ps", openers), ("Sc", currencySymbols), ("Sk", modifierSymbols),
  ("Sm", mathSymbols), ("So", otherSymbols), ("Zl", lineSeparators), ("Zp", paragraphSeparators),
  ("Zs", spaces)]

def letters : List Table :=
  [lowerLetters, modifierLetters, otherLetters, titleLetters, upperLetters]

def signs : List Table :=
  [spacingMarks, enclosingMarks, nonspacingMarks, decimalDigits, letterNumbers, otherNumbers,
    connectors, dashes, closers, finalQuotes, initialQuotes, otherPunctuation, openers,
    currencySymbols, modifierSymbols, mathSymbols, otherSymbols]

def assigned (n : Nat) : Bool :=
  tables.any fun entry => entry.2.has n

/-- Whether the category of a character has a name. A name of one letter stands for all categories
that begin with it, `LC` for the letters that have case, and `Cn` for no category at all. -/
def has (name : String) (n : Nat) : Bool :=
  let meant (entry : String × Table) : Bool :=
    if name = "LC" then ["Lu", "Ll", "Lt"].contains entry.1
    else entry.1 == name || [entry.1.toList.headD ' '] == name.toList
  tables.any (fun entry => meant entry && entry.2.has n) ||
    ((name = "Cn" || name = "C") && !assigned n)

def names : List String :=
  tables.map (·.1) ++ ["C", "Cn", "L", "LC", "M", "N", "P", "S", "Z"]

def longNames : List (String × String) := [
  ("Other", "C"), ("Control", "Cc"), ("cntrl", "Cc"), ("Format", "Cf"), ("Unassigned", "Cn"),
  ("Private_Use", "Co"), ("Surrogate", "Cs"), ("Letter", "L"), ("Cased_Letter", "LC"),
  ("Lowercase_Letter", "Ll"), ("Modifier_Letter", "Lm"), ("Other_Letter", "Lo"),
  ("Titlecase_Letter", "Lt"), ("Uppercase_Letter", "Lu"), ("Mark", "M"), ("Combining_Mark", "M"),
  ("Spacing_Mark", "Mc"), ("Enclosing_Mark", "Me"), ("Nonspacing_Mark", "Mn"), ("Number", "N"),
  ("Decimal_Number", "Nd"), ("digit", "Nd"), ("Letter_Number", "Nl"), ("Other_Number", "No"),
  ("Punctuation", "P"), ("punct", "P"), ("Connector_Punctuation", "Pc"), ("Dash_Punctuation", "Pd"),
  ("Close_Punctuation", "Pe"), ("Final_Punctuation", "Pf"), ("Initial_Punctuation", "Pi"),
  ("Other_Punctuation", "Po"), ("Open_Punctuation", "Ps"), ("Symbol", "S"),
  ("Currency_Symbol", "Sc"), ("Modifier_Symbol", "Sk"), ("Math_Symbol", "Sm"),
  ("Other_Symbol", "So"), ("Separator", "Z"), ("Line_Separator", "Zl"),
  ("Paragraph_Separator", "Zp"), ("Space_Separator", "Zs")]

end Category

end PageBinding.Text
