import ScopedAnalytics.Text.Mark

/-! Small letters of all scripts. The capital sigma alone has two of them: one for the end of a
word and one for all other places. -/
namespace ScopedAnalytics.Text

/-- The code points of capital letters, as runs with equal steps: the first and the last of a run,
the step, and the small letter of the first. Within a run letters and small letters advance
together. -/
def capitals : List (Nat × Nat × Nat × Nat) :=
  [(0x41,0x5A,1,0x61),(0xC0,0xD6,1,0xE0),(0xD8,0xDE,1,0xF8),(0x100,0x12E,2,0x101),
    (0x132,0x136,2,0x133),(0x139,0x147,2,0x13A),(0x14A,0x176,2,0x14B),(0x178,0x178,1,0xFF),
    (0x179,0x17D,2,0x17A),(0x181,0x181,1,0x253),(0x182,0x184,2,0x183),(0x186,0x186,1,0x254),
    (0x187,0x187,1,0x188),(0x189,0x18A,1,0x256),(0x18B,0x18B,1,0x18C),(0x18E,0x18E,1,0x1DD),
    (0x18F,0x18F,1,0x259),(0x190,0x190,1,0x25B),(0x191,0x191,1,0x192),(0x193,0x193,1,0x260),
    (0x194,0x194,1,0x263),(0x196,0x196,1,0x269),(0x197,0x197,1,0x268),(0x198,0x198,1,0x199),
    (0x19C,0x19C,1,0x26F),(0x19D,0x19D,1,0x272),(0x19F,0x19F,1,0x275),(0x1A0,0x1A4,2,0x1A1),
    (0x1A6,0x1A6,1,0x280),(0x1A7,0x1A7,1,0x1A8),(0x1A9,0x1A9,1,0x283),(0x1AC,0x1AC,1,0x1AD),
    (0x1AE,0x1AE,1,0x288),(0x1AF,0x1AF,1,0x1B0),(0x1B1,0x1B2,1,0x28A),(0x1B3,0x1B5,2,0x1B4),
    (0x1B7,0x1B7,1,0x292),(0x1B8,0x1B8,1,0x1B9),(0x1BC,0x1BC,1,0x1BD),(0x1C4,0x1C4,1,0x1C6),
    (0x1C5,0x1C5,1,0x1C6),(0x1C7,0x1C7,1,0x1C9),(0x1C8,0x1C8,1,0x1C9),(0x1CA,0x1CA,1,0x1CC),
    (0x1CB,0x1DB,2,0x1CC),(0x1DE,0x1EE,2,0x1DF),(0x1F1,0x1F1,1,0x1F3),(0x1F2,0x1F4,2,0x1F3),
    (0x1F6,0x1F6,1,0x195),(0x1F7,0x1F7,1,0x1BF),(0x1F8,0x21E,2,0x1F9),(0x220,0x220,1,0x19E),
    (0x222,0x232,2,0x223),(0x23A,0x23A,1,0x2C65),(0x23B,0x23B,1,0x23C),(0x23D,0x23D,1,0x19A),
    (0x23E,0x23E,1,0x2C66),(0x241,0x241,1,0x242),(0x243,0x243,1,0x180),(0x244,0x244,1,0x289),
    (0x245,0x245,1,0x28C),(0x246,0x24E,2,0x247),(0x370,0x372,2,0x371),(0x376,0x376,1,0x377),
    (0x37F,0x37F,1,0x3F3),(0x386,0x386,1,0x3AC),(0x388,0x38A,1,0x3AD),(0x38C,0x38C,1,0x3CC),
    (0x38E,0x38F,1,0x3CD),(0x391,0x3A1,1,0x3B1),(0x3A3,0x3AB,1,0x3C3),(0x3CF,0x3CF,1,0x3D7),
    (0x3D8,0x3EE,2,0x3D9),(0x3F4,0x3F4,1,0x3B8),(0x3F7,0x3F7,1,0x3F8),(0x3F9,0x3F9,1,0x3F2),
    (0x3FA,0x3FA,1,0x3FB),(0x3FD,0x3FF,1,0x37B),(0x400,0x40F,1,0x450),(0x410,0x42F,1,0x430),
    (0x460,0x480,2,0x461),(0x48A,0x4BE,2,0x48B),(0x4C0,0x4C0,1,0x4CF),(0x4C1,0x4CD,2,0x4C2),
    (0x4D0,0x52E,2,0x4D1),(0x531,0x556,1,0x561),(0x10A0,0x10C5,1,0x2D00),(0x10C7,0x10C7,1,0x2D27),
    (0x10CD,0x10CD,1,0x2D2D),(0x13A0,0x13EF,1,0xAB70),(0x13F0,0x13F5,1,0x13F8),
    (0x1C90,0x1CBA,1,0x10D0),(0x1CBD,0x1CBF,1,0x10FD),(0x1E00,0x1E94,2,0x1E01),
    (0x1E9E,0x1E9E,1,0xDF),(0x1EA0,0x1EFE,2,0x1EA1),(0x1F08,0x1F0F,1,0x1F00),
    (0x1F18,0x1F1D,1,0x1F10),(0x1F28,0x1F2F,1,0x1F20),(0x1F38,0x1F3F,1,0x1F30),
    (0x1F48,0x1F4D,1,0x1F40),(0x1F59,0x1F5F,2,0x1F51),(0x1F68,0x1F6F,1,0x1F60),
    (0x1F88,0x1F8F,1,0x1F80),(0x1F98,0x1F9F,1,0x1F90),(0x1FA8,0x1FAF,1,0x1FA0),
    (0x1FB8,0x1FB9,1,0x1FB0),(0x1FBA,0x1FBB,1,0x1F70),(0x1FBC,0x1FBC,1,0x1FB3),
    (0x1FC8,0x1FCB,1,0x1F72),(0x1FCC,0x1FCC,1,0x1FC3),(0x1FD8,0x1FD9,1,0x1FD0),
    (0x1FDA,0x1FDB,1,0x1F76),(0x1FE8,0x1FE9,1,0x1FE0),(0x1FEA,0x1FEB,1,0x1F7A),
    (0x1FEC,0x1FEC,1,0x1FE5),(0x1FF8,0x1FF9,1,0x1F78),(0x1FFA,0x1FFB,1,0x1F7C),
    (0x1FFC,0x1FFC,1,0x1FF3),(0x2126,0x2126,1,0x3C9),(0x212A,0x212A,1,0x6B),(0x212B,0x212B,1,0xE5),
    (0x2132,0x2132,1,0x214E),(0x2160,0x216F,1,0x2170),(0x2183,0x2183,1,0x2184),
    (0x24B6,0x24CF,1,0x24D0),(0x2C00,0x2C2F,1,0x2C30),(0x2C60,0x2C60,1,0x2C61),
    (0x2C62,0x2C62,1,0x26B),(0x2C63,0x2C63,1,0x1D7D),(0x2C64,0x2C64,1,0x27D),
    (0x2C67,0x2C6B,2,0x2C68),(0x2C6D,0x2C6D,1,0x251),(0x2C6E,0x2C6E,1,0x271),
    (0x2C6F,0x2C6F,1,0x250),(0x2C70,0x2C70,1,0x252),(0x2C72,0x2C72,1,0x2C73),
    (0x2C75,0x2C75,1,0x2C76),(0x2C7E,0x2C7F,1,0x23F),(0x2C80,0x2CE2,2,0x2C81),
    (0x2CEB,0x2CED,2,0x2CEC),(0x2CF2,0x2CF2,1,0x2CF3),(0xA640,0xA66C,2,0xA641),
    (0xA680,0xA69A,2,0xA681),(0xA722,0xA72E,2,0xA723),(0xA732,0xA76E,2,0xA733),
    (0xA779,0xA77B,2,0xA77A),(0xA77D,0xA77D,1,0x1D79),(0xA77E,0xA786,2,0xA77F),
    (0xA78B,0xA78B,1,0xA78C),(0xA78D,0xA78D,1,0x265),(0xA790,0xA792,2,0xA791),
    (0xA796,0xA7A8,2,0xA797),(0xA7AA,0xA7AA,1,0x266),(0xA7AB,0xA7AB,1,0x25C),
    (0xA7AC,0xA7AC,1,0x261),(0xA7AD,0xA7AD,1,0x26C),(0xA7AE,0xA7AE,1,0x26A),
    (0xA7B0,0xA7B0,1,0x29E),(0xA7B1,0xA7B1,1,0x287),(0xA7B2,0xA7B2,1,0x29D),
    (0xA7B3,0xA7B3,1,0xAB53),(0xA7B4,0xA7C2,2,0xA7B5),(0xA7C4,0xA7C4,1,0xA794),
    (0xA7C5,0xA7C5,1,0x282),(0xA7C6,0xA7C6,1,0x1D8E),(0xA7C7,0xA7C9,2,0xA7C8),
    (0xA7D0,0xA7D0,1,0xA7D1),(0xA7D6,0xA7D8,2,0xA7D7),(0xA7F5,0xA7F5,1,0xA7F6),
    (0xFF21,0xFF3A,1,0xFF41),(0x10400,0x10427,1,0x10428),(0x104B0,0x104D3,1,0x104D8),
    (0x10570,0x1057A,1,0x10597),(0x1057C,0x1058A,1,0x105A3),(0x1058C,0x10592,1,0x105B3),
    (0x10594,0x10595,1,0x105BB),(0x10C80,0x10CB2,1,0x10CC0),(0x118A0,0x118BF,1,0x118C0),
    (0x16E40,0x16E5F,1,0x16E60),(0x1E900,0x1E921,1,0x1E922)]

/-- Code points of letters that are capital or small, as inclusive ranges. -/
def casedLetters : List (Nat × Nat) :=
  [(0x41,0x5A),(0x61,0x7A),(0xAA,0xAA),(0xB5,0xB5),(0xBA,0xBA),(0xC0,0xD6),(0xD8,0xF6),
    (0xF8,0x1BA),(0x1BC,0x1BF),(0x1C4,0x293),(0x295,0x2AF),(0x370,0x373),(0x376,0x377),
    (0x37B,0x37D),(0x37F,0x37F),(0x386,0x386),(0x388,0x38A),(0x38C,0x38C),(0x38E,0x3A1),
    (0x3A3,0x3F5),(0x3F7,0x481),(0x48A,0x52F),(0x531,0x556),(0x560,0x588),(0x10A0,0x10C5),
    (0x10C7,0x10C7),(0x10CD,0x10CD),(0x10D0,0x10FA),(0x10FD,0x10FF),(0x13A0,0x13F5),
    (0x13F8,0x13FD),(0x1C80,0x1C88),(0x1C90,0x1CBA),(0x1CBD,0x1CBF),(0x1D00,0x1D2B),
    (0x1D6B,0x1D77),(0x1D79,0x1D9A),(0x1E00,0x1F15),(0x1F18,0x1F1D),(0x1F20,0x1F45),
    (0x1F48,0x1F4D),(0x1F50,0x1F57),(0x1F59,0x1F59),(0x1F5B,0x1F5B),(0x1F5D,0x1F5D),
    (0x1F5F,0x1F7D),(0x1F80,0x1FB4),(0x1FB6,0x1FBC),(0x1FBE,0x1FBE),(0x1FC2,0x1FC4),
    (0x1FC6,0x1FCC),(0x1FD0,0x1FD3),(0x1FD6,0x1FDB),(0x1FE0,0x1FEC),(0x1FF2,0x1FF4),
    (0x1FF6,0x1FFC),(0x2102,0x2102),(0x2107,0x2107),(0x210A,0x2113),(0x2115,0x2115),
    (0x2119,0x211D),(0x2124,0x2124),(0x2126,0x2126),(0x2128,0x2128),(0x212A,0x212D),
    (0x212F,0x2134),(0x2139,0x2139),(0x213C,0x213F),(0x2145,0x2149),(0x214E,0x214E),
    (0x2160,0x217F),(0x2183,0x2184),(0x24B6,0x24E9),(0x2C00,0x2C7B),(0x2C7E,0x2CE4),
    (0x2CEB,0x2CEE),(0x2CF2,0x2CF3),(0x2D00,0x2D25),(0x2D27,0x2D27),(0x2D2D,0x2D2D),
    (0xA640,0xA66D),(0xA680,0xA69B),(0xA722,0xA76F),(0xA771,0xA787),(0xA78B,0xA78E),
    (0xA790,0xA7CA),(0xA7D0,0xA7D1),(0xA7D3,0xA7D3),(0xA7D5,0xA7D9),(0xA7F5,0xA7F6),
    (0xA7FA,0xA7FA),(0xAB30,0xAB5A),(0xAB60,0xAB68),(0xAB70,0xABBF),(0xFB00,0xFB06),
    (0xFB13,0xFB17),(0xFF21,0xFF3A),(0xFF41,0xFF5A),(0x10400,0x1044F),(0x104B0,0x104D3),
    (0x104D8,0x104FB),(0x10570,0x1057A),(0x1057C,0x1058A),(0x1058C,0x10592),(0x10594,0x10595),
    (0x10597,0x105A1),(0x105A3,0x105B1),(0x105B3,0x105B9),(0x105BB,0x105BC),(0x10C80,0x10CB2),
    (0x10CC0,0x10CF2),(0x118A0,0x118DF),(0x16E40,0x16E7F),(0x1D400,0x1D454),(0x1D456,0x1D49C),
    (0x1D49E,0x1D49F),(0x1D4A2,0x1D4A2),(0x1D4A5,0x1D4A6),(0x1D4A9,0x1D4AC),(0x1D4AE,0x1D4B9),
    (0x1D4BB,0x1D4BB),(0x1D4BD,0x1D4C3),(0x1D4C5,0x1D505),(0x1D507,0x1D50A),(0x1D50D,0x1D514),
    (0x1D516,0x1D51C),(0x1D51E,0x1D539),(0x1D53B,0x1D53E),(0x1D540,0x1D544),(0x1D546,0x1D546),
    (0x1D54A,0x1D550),(0x1D552,0x1D6A5),(0x1D6A8,0x1D6C0),(0x1D6C2,0x1D6DA),(0x1D6DC,0x1D6FA),
    (0x1D6FC,0x1D714),(0x1D716,0x1D734),(0x1D736,0x1D74E),(0x1D750,0x1D76E),(0x1D770,0x1D788),
    (0x1D78A,0x1D7A8),(0x1D7AA,0x1D7C2),(0x1D7C4,0x1D7CB),(0x1DF00,0x1DF09),(0x1DF0B,0x1DF1E),
    (0x1E900,0x1E943),(0x1F130,0x1F149),(0x1F150,0x1F169),(0x1F170,0x1F189)]

/-- Code points, beside those of nonspacing marks, that do not count where the end of a word is
looked for, as inclusive ranges. -/
def wordFillers : List (Nat × Nat) :=
  [(0x27,0x27),(0x2E,0x2E),(0x3A,0x3A),(0x5E,0x5E),(0x60,0x60),(0xA8,0xA8),(0xAD,0xAD),(0xAF,0xAF),
    (0xB4,0xB4),(0xB7,0xB8),(0x2B0,0x2FF),(0x374,0x375),(0x37A,0x37A),(0x384,0x385),(0x387,0x387),
    (0x559,0x559),(0x55F,0x55F),(0x5F4,0x5F4),(0x600,0x605),(0x61C,0x61C),(0x640,0x640),
    (0x6DD,0x6DD),(0x6E5,0x6E6),(0x70F,0x70F),(0x7F4,0x7F5),(0x7FA,0x7FA),(0x81A,0x81A),
    (0x824,0x824),(0x828,0x828),(0x888,0x888),(0x890,0x891),(0x8C9,0x8C9),(0x8E2,0x8E2),
    (0x971,0x971),(0xE46,0xE46),(0xEC6,0xEC6),(0x10FC,0x10FC),(0x17D7,0x17D7),(0x180E,0x180E),
    (0x1843,0x1843),(0x1AA7,0x1AA7),(0x1C78,0x1C7D),(0x1D2C,0x1D6A),(0x1D78,0x1D78),
    (0x1D9B,0x1DBF),(0x1FBD,0x1FBD),(0x1FBF,0x1FC1),(0x1FCD,0x1FCF),(0x1FDD,0x1FDF),
    (0x1FED,0x1FEF),(0x1FFD,0x1FFE),(0x200B,0x200F),(0x2018,0x2019),(0x2024,0x2024),
    (0x2027,0x2027),(0x202A,0x202E),(0x2060,0x2064),(0x2066,0x206F),(0x2071,0x2071),
    (0x207F,0x207F),(0x2090,0x209C),(0x2C7C,0x2C7D),(0x2D6F,0x2D6F),(0x2E2F,0x2E2F),
    (0x3005,0x3005),(0x3031,0x3035),(0x303B,0x303B),(0x309B,0x309E),(0x30FC,0x30FE),
    (0xA015,0xA015),(0xA4F8,0xA4FD),(0xA60C,0xA60C),(0xA67F,0xA67F),(0xA69C,0xA69D),
    (0xA700,0xA721),(0xA770,0xA770),(0xA788,0xA78A),(0xA7F2,0xA7F4),(0xA7F8,0xA7F9),
    (0xA9CF,0xA9CF),(0xA9E6,0xA9E6),(0xAA70,0xAA70),(0xAADD,0xAADD),(0xAAF3,0xAAF4),
    (0xAB5B,0xAB5F),(0xAB69,0xAB6B),(0xFBB2,0xFBC2),(0xFE13,0xFE13),(0xFE52,0xFE52),
    (0xFE55,0xFE55),(0xFEFF,0xFEFF),(0xFF07,0xFF07),(0xFF0E,0xFF0E),(0xFF1A,0xFF1A),
    (0xFF3E,0xFF3E),(0xFF40,0xFF40),(0xFF70,0xFF70),(0xFF9E,0xFF9F),(0xFFE3,0xFFE3),
    (0xFFF9,0xFFFB),(0x10780,0x10785),(0x10787,0x107B0),(0x107B2,0x107BA),(0x110BD,0x110BD),
    (0x110CD,0x110CD),(0x13430,0x13438),(0x16B40,0x16B43),(0x16F93,0x16F9F),(0x16FE0,0x16FE1),
    (0x16FE3,0x16FE3),(0x1AFF0,0x1AFF3),(0x1AFF5,0x1AFFB),(0x1AFFD,0x1AFFE),(0x1BCA0,0x1BCA3),
    (0x1D173,0x1D17A),(0x1E137,0x1E13D),(0x1E94B,0x1E94B),(0x1F3FB,0x1F3FF),(0xE0001,0xE0001),
    (0xE0020,0xE007F)]

def isCased (c : Char) : Bool := inRanges casedLetters c.toNat

/-- Whether a character does not count where the end of a word is looked for. -/
def isWordFiller (c : Char) : Bool := isNonspacing c.toNat || inRanges wordFillers c.toNat

def meetsCased (cs : List Char) : Bool := ((cs.find? fun c => !isWordFiller c).map isCased).getD false

def smallCode (code : Nat) : Nat :=
  match capitals.find? fun (first,last,step,_) =>
      first ≤ code && code ≤ last && (code - first) % step == 0 with
  | some (first,_,_,small) => small + (code - first)
  | none => code

/-- The small form of a character that stands after some and before others, the ones before in
reverse order. The capital I with a dot above keeps its dot. -/
def smallForm (before : List Char) (c : Char) (after : List Char) : List Char :=
  if c = 'Σ' then [if meetsCased before && !meetsCased after then 'ς' else 'σ']
  else if c = 'İ' then ['i','\u0307']
  else [Char.ofNat (smallCode c.toNat)]

/-- The small form of the rest of a text, after the given characters in reverse order. -/
def smallAfter (before : List Char) : List Char → List Char
  | [] => []
  | c :: rest => smallForm before c rest ++ smallAfter (c :: before) rest

def small (cs : List Char) : List Char := smallAfter [] cs

end ScopedAnalytics.Text
