/-!
# General categories, as written data

A run of characters of one general category is written as its first code point and the category. It
ends where the next run begins. Each list holds the runs that begin from the code point in its name on.
-/

namespace Hypermedia.Text

/-- The general categories: letters, marks, numbers, punctuation, symbols, separators, others. -/
inductive Category where
  | lu | ll | lt | lm | lo | mn | mc | me | nd | nl | no | pc | pd | ps | pe | pi | pf | po
  | sm | sc | sk | so | zs | zl | zp | cc | cf | cs | co | cn
  deriving DecidableEq, Inhabited

def categoriesFrom0000 : List (Nat × Category) := [
  (0x0, .cc), (0x20, .zs), (0x21, .po), (0x24, .sc), (0x25, .po), (0x28, .ps), (0x29, .pe),
  (0x2A, .po), (0x2B, .sm), (0x2C, .po), (0x2D, .pd), (0x2E, .po), (0x30, .nd), (0x3A, .po),
  (0x3C, .sm), (0x3F, .po), (0x41, .lu), (0x5B, .ps), (0x5C, .po), (0x5D, .pe), (0x5E, .sk),
  (0x5F, .pc), (0x60, .sk), (0x61, .ll), (0x7B, .ps), (0x7C, .sm), (0x7D, .pe), (0x7E, .sm),
  (0x7F, .cc), (0xA0, .zs), (0xA1, .po), (0xA2, .sc), (0xA6, .so), (0xA7, .po), (0xA8, .sk),
  (0xA9, .so), (0xAA, .lo), (0xAB, .pi), (0xAC, .sm), (0xAD, .cf), (0xAE, .so), (0xAF, .sk),
  (0xB0, .so), (0xB1, .sm), (0xB2, .no), (0xB4, .sk), (0xB5, .ll), (0xB6, .po), (0xB8, .sk),
  (0xB9, .no), (0xBA, .lo), (0xBB, .pf), (0xBC, .no), (0xBF, .po), (0xC0, .lu), (0xD7, .sm),
  (0xD8, .lu), (0xDF, .ll), (0xF7, .sm), (0xF8, .ll), (0x100, .lu), (0x101, .ll), (0x102, .lu),
  (0x103, .ll), (0x104, .lu), (0x105, .ll), (0x106, .lu), (0x107, .ll), (0x108, .lu), (0x109, .ll),
  (0x10A, .lu), (0x10B, .ll), (0x10C, .lu), (0x10D, .ll), (0x10E, .lu), (0x10F, .ll), (0x110, .lu),
  (0x111, .ll), (0x112, .lu), (0x113, .ll), (0x114, .lu), (0x115, .ll), (0x116, .lu), (0x117, .ll),
  (0x118, .lu), (0x119, .ll), (0x11A, .lu), (0x11B, .ll), (0x11C, .lu), (0x11D, .ll), (0x11E, .lu),
  (0x11F, .ll), (0x120, .lu), (0x121, .ll), (0x122, .lu), (0x123, .ll), (0x124, .lu), (0x125, .ll),
  (0x126, .lu), (0x127, .ll), (0x128, .lu), (0x129, .ll), (0x12A, .lu), (0x12B, .ll), (0x12C, .lu),
  (0x12D, .ll), (0x12E, .lu), (0x12F, .ll), (0x130, .lu), (0x131, .ll), (0x132, .lu), (0x133, .ll),
  (0x134, .lu), (0x135, .ll), (0x136, .lu), (0x137, .ll), (0x139, .lu), (0x13A, .ll), (0x13B, .lu),
  (0x13C, .ll), (0x13D, .lu), (0x13E, .ll), (0x13F, .lu), (0x140, .ll), (0x141, .lu), (0x142, .ll),
  (0x143, .lu), (0x144, .ll), (0x145, .lu), (0x146, .ll), (0x147, .lu), (0x148, .ll), (0x14A, .lu),
  (0x14B, .ll), (0x14C, .lu), (0x14D, .ll), (0x14E, .lu), (0x14F, .ll), (0x150, .lu), (0x151, .ll),
  (0x152, .lu), (0x153, .ll), (0x154, .lu), (0x155, .ll), (0x156, .lu), (0x157, .ll), (0x158, .lu),
  (0x159, .ll), (0x15A, .lu), (0x15B, .ll), (0x15C, .lu), (0x15D, .ll), (0x15E, .lu), (0x15F, .ll),
  (0x160, .lu), (0x161, .ll), (0x162, .lu), (0x163, .ll), (0x164, .lu), (0x165, .ll), (0x166, .lu),
  (0x167, .ll), (0x168, .lu), (0x169, .ll), (0x16A, .lu), (0x16B, .ll), (0x16C, .lu), (0x16D, .ll),
  (0x16E, .lu), (0x16F, .ll), (0x170, .lu), (0x171, .ll), (0x172, .lu), (0x173, .ll), (0x174, .lu),
  (0x175, .ll), (0x176, .lu), (0x177, .ll), (0x178, .lu), (0x17A, .ll), (0x17B, .lu), (0x17C, .ll),
  (0x17D, .lu), (0x17E, .ll)]

def categoriesFrom0180 : List (Nat × Category) := [
  (0x181, .lu), (0x183, .ll), (0x184, .lu), (0x185, .ll), (0x186, .lu), (0x188, .ll), (0x189, .lu),
  (0x18C, .ll), (0x18E, .lu), (0x192, .ll), (0x193, .lu), (0x195, .ll), (0x196, .lu), (0x199, .ll),
  (0x19C, .lu), (0x19E, .ll), (0x19F, .lu), (0x1A1, .ll), (0x1A2, .lu), (0x1A3, .ll), (0x1A4, .lu),
  (0x1A5, .ll), (0x1A6, .lu), (0x1A8, .ll), (0x1A9, .lu), (0x1AA, .ll), (0x1AC, .lu), (0x1AD, .ll),
  (0x1AE, .lu), (0x1B0, .ll), (0x1B1, .lu), (0x1B4, .ll), (0x1B5, .lu), (0x1B6, .ll), (0x1B7, .lu),
  (0x1B9, .ll), (0x1BB, .lo), (0x1BC, .lu), (0x1BD, .ll), (0x1C0, .lo), (0x1C4, .lu), (0x1C5, .lt),
  (0x1C6, .ll), (0x1C7, .lu), (0x1C8, .lt), (0x1C9, .ll), (0x1CA, .lu), (0x1CB, .lt), (0x1CC, .ll),
  (0x1CD, .lu), (0x1CE, .ll), (0x1CF, .lu), (0x1D0, .ll), (0x1D1, .lu), (0x1D2, .ll), (0x1D3, .lu),
  (0x1D4, .ll), (0x1D5, .lu), (0x1D6, .ll), (0x1D7, .lu), (0x1D8, .ll), (0x1D9, .lu), (0x1DA, .ll),
  (0x1DB, .lu), (0x1DC, .ll), (0x1DE, .lu), (0x1DF, .ll), (0x1E0, .lu), (0x1E1, .ll), (0x1E2, .lu),
  (0x1E3, .ll), (0x1E4, .lu), (0x1E5, .ll), (0x1E6, .lu), (0x1E7, .ll), (0x1E8, .lu), (0x1E9, .ll),
  (0x1EA, .lu), (0x1EB, .ll), (0x1EC, .lu), (0x1ED, .ll), (0x1EE, .lu), (0x1EF, .ll), (0x1F1, .lu),
  (0x1F2, .lt), (0x1F3, .ll), (0x1F4, .lu), (0x1F5, .ll), (0x1F6, .lu), (0x1F9, .ll), (0x1FA, .lu),
  (0x1FB, .ll), (0x1FC, .lu), (0x1FD, .ll), (0x1FE, .lu), (0x1FF, .ll), (0x200, .lu), (0x201, .ll),
  (0x202, .lu), (0x203, .ll), (0x204, .lu), (0x205, .ll), (0x206, .lu), (0x207, .ll), (0x208, .lu),
  (0x209, .ll), (0x20A, .lu), (0x20B, .ll), (0x20C, .lu), (0x20D, .ll), (0x20E, .lu), (0x20F, .ll),
  (0x210, .lu), (0x211, .ll), (0x212, .lu), (0x213, .ll), (0x214, .lu), (0x215, .ll), (0x216, .lu),
  (0x217, .ll), (0x218, .lu), (0x219, .ll), (0x21A, .lu), (0x21B, .ll), (0x21C, .lu), (0x21D, .ll),
  (0x21E, .lu), (0x21F, .ll), (0x220, .lu), (0x221, .ll), (0x222, .lu), (0x223, .ll), (0x224, .lu),
  (0x225, .ll), (0x226, .lu), (0x227, .ll), (0x228, .lu), (0x229, .ll), (0x22A, .lu), (0x22B, .ll),
  (0x22C, .lu), (0x22D, .ll), (0x22E, .lu), (0x22F, .ll), (0x230, .lu), (0x231, .ll), (0x232, .lu),
  (0x233, .ll), (0x23A, .lu), (0x23C, .ll), (0x23D, .lu), (0x23F, .ll), (0x241, .lu), (0x242, .ll),
  (0x243, .lu), (0x247, .ll), (0x248, .lu), (0x249, .ll), (0x24A, .lu), (0x24B, .ll), (0x24C, .lu),
  (0x24D, .ll), (0x24E, .lu), (0x24F, .ll), (0x294, .lo), (0x295, .ll), (0x2B0, .lm), (0x2C2, .sk),
  (0x2C6, .lm), (0x2D2, .sk), (0x2E0, .lm), (0x2E5, .sk), (0x2EC, .lm), (0x2ED, .sk), (0x2EE, .lm),
  (0x2EF, .sk)]

def categoriesFrom0300 : List (Nat × Category) := [
  (0x300, .mn), (0x370, .lu), (0x371, .ll), (0x372, .lu), (0x373, .ll), (0x374, .lm), (0x375, .sk),
  (0x376, .lu), (0x377, .ll), (0x378, .cn), (0x37A, .lm), (0x37B, .ll), (0x37E, .po), (0x37F, .lu),
  (0x380, .cn), (0x384, .sk), (0x386, .lu), (0x387, .po), (0x388, .lu), (0x38B, .cn), (0x38C, .lu),
  (0x38D, .cn), (0x38E, .lu), (0x390, .ll), (0x391, .lu), (0x3A2, .cn), (0x3A3, .lu), (0x3AC, .ll),
  (0x3CF, .lu), (0x3D0, .ll), (0x3D2, .lu), (0x3D5, .ll), (0x3D8, .lu), (0x3D9, .ll), (0x3DA, .lu),
  (0x3DB, .ll), (0x3DC, .lu), (0x3DD, .ll), (0x3DE, .lu), (0x3DF, .ll), (0x3E0, .lu), (0x3E1, .ll),
  (0x3E2, .lu), (0x3E3, .ll), (0x3E4, .lu), (0x3E5, .ll), (0x3E6, .lu), (0x3E7, .ll), (0x3E8, .lu),
  (0x3E9, .ll), (0x3EA, .lu), (0x3EB, .ll), (0x3EC, .lu), (0x3ED, .ll), (0x3EE, .lu), (0x3EF, .ll),
  (0x3F4, .lu), (0x3F5, .ll), (0x3F6, .sm), (0x3F7, .lu), (0x3F8, .ll), (0x3F9, .lu), (0x3FB, .ll),
  (0x3FD, .lu), (0x430, .ll), (0x460, .lu), (0x461, .ll), (0x462, .lu), (0x463, .ll), (0x464, .lu),
  (0x465, .ll), (0x466, .lu), (0x467, .ll), (0x468, .lu), (0x469, .ll), (0x46A, .lu), (0x46B, .ll),
  (0x46C, .lu), (0x46D, .ll), (0x46E, .lu), (0x46F, .ll), (0x470, .lu), (0x471, .ll), (0x472, .lu),
  (0x473, .ll), (0x474, .lu), (0x475, .ll), (0x476, .lu), (0x477, .ll), (0x478, .lu), (0x479, .ll),
  (0x47A, .lu), (0x47B, .ll), (0x47C, .lu), (0x47D, .ll), (0x47E, .lu), (0x47F, .ll), (0x480, .lu),
  (0x481, .ll), (0x482, .so), (0x483, .mn), (0x488, .me), (0x48A, .lu), (0x48B, .ll), (0x48C, .lu),
  (0x48D, .ll), (0x48E, .lu), (0x48F, .ll), (0x490, .lu), (0x491, .ll), (0x492, .lu), (0x493, .ll),
  (0x494, .lu), (0x495, .ll), (0x496, .lu), (0x497, .ll), (0x498, .lu), (0x499, .ll), (0x49A, .lu),
  (0x49B, .ll), (0x49C, .lu), (0x49D, .ll), (0x49E, .lu), (0x49F, .ll), (0x4A0, .lu), (0x4A1, .ll),
  (0x4A2, .lu), (0x4A3, .ll), (0x4A4, .lu), (0x4A5, .ll), (0x4A6, .lu), (0x4A7, .ll), (0x4A8, .lu),
  (0x4A9, .ll), (0x4AA, .lu), (0x4AB, .ll), (0x4AC, .lu), (0x4AD, .ll), (0x4AE, .lu), (0x4AF, .ll),
  (0x4B0, .lu), (0x4B1, .ll), (0x4B2, .lu), (0x4B3, .ll), (0x4B4, .lu), (0x4B5, .ll), (0x4B6, .lu),
  (0x4B7, .ll), (0x4B8, .lu), (0x4B9, .ll), (0x4BA, .lu), (0x4BB, .ll), (0x4BC, .lu), (0x4BD, .ll),
  (0x4BE, .lu), (0x4BF, .ll), (0x4C0, .lu), (0x4C2, .ll), (0x4C3, .lu), (0x4C4, .ll), (0x4C5, .lu),
  (0x4C6, .ll), (0x4C7, .lu), (0x4C8, .ll), (0x4C9, .lu), (0x4CA, .ll), (0x4CB, .lu), (0x4CC, .ll),
  (0x4CD, .lu), (0x4CE, .ll), (0x4D0, .lu), (0x4D1, .ll), (0x4D2, .lu), (0x4D3, .ll), (0x4D4, .lu),
  (0x4D5, .ll), (0x4D6, .lu), (0x4D7, .ll), (0x4D8, .lu), (0x4D9, .ll), (0x4DA, .lu), (0x4DB, .ll),
  (0x4DC, .lu), (0x4DD, .ll), (0x4DE, .lu), (0x4DF, .ll), (0x4E0, .lu), (0x4E1, .ll), (0x4E2, .lu),
  (0x4E3, .ll), (0x4E4, .lu), (0x4E5, .ll), (0x4E6, .lu), (0x4E7, .ll), (0x4E8, .lu), (0x4E9, .ll),
  (0x4EA, .lu), (0x4EB, .ll), (0x4EC, .lu), (0x4ED, .ll), (0x4EE, .lu), (0x4EF, .ll), (0x4F0, .lu),
  (0x4F1, .ll), (0x4F2, .lu), (0x4F3, .ll), (0x4F4, .lu), (0x4F5, .ll), (0x4F6, .lu), (0x4F7, .ll),
  (0x4F8, .lu), (0x4F9, .ll), (0x4FA, .lu), (0x4FB, .ll), (0x4FC, .lu), (0x4FD, .ll), (0x4FE, .lu),
  (0x4FF, .ll)]

def categoriesFrom0500 : List (Nat × Category) := [
  (0x500, .lu), (0x501, .ll), (0x502, .lu), (0x503, .ll), (0x504, .lu), (0x505, .ll), (0x506, .lu),
  (0x507, .ll), (0x508, .lu), (0x509, .ll), (0x50A, .lu), (0x50B, .ll), (0x50C, .lu), (0x50D, .ll),
  (0x50E, .lu), (0x50F, .ll), (0x510, .lu), (0x511, .ll), (0x512, .lu), (0x513, .ll), (0x514, .lu),
  (0x515, .ll), (0x516, .lu), (0x517, .ll), (0x518, .lu), (0x519, .ll), (0x51A, .lu), (0x51B, .ll),
  (0x51C, .lu), (0x51D, .ll), (0x51E, .lu), (0x51F, .ll), (0x520, .lu), (0x521, .ll), (0x522, .lu),
  (0x523, .ll), (0x524, .lu), (0x525, .ll), (0x526, .lu), (0x527, .ll), (0x528, .lu), (0x529, .ll),
  (0x52A, .lu), (0x52B, .ll), (0x52C, .lu), (0x52D, .ll), (0x52E, .lu), (0x52F, .ll), (0x530, .cn),
  (0x531, .lu), (0x557, .cn), (0x559, .lm), (0x55A, .po), (0x560, .ll), (0x589, .po), (0x58A, .pd),
  (0x58B, .cn), (0x58D, .so), (0x58F, .sc), (0x590, .cn), (0x591, .mn), (0x5BE, .pd), (0x5BF, .mn),
  (0x5C0, .po), (0x5C1, .mn), (0x5C3, .po), (0x5C4, .mn), (0x5C6, .po), (0x5C7, .mn), (0x5C8, .cn),
  (0x5D0, .lo), (0x5EB, .cn), (0x5EF, .lo), (0x5F3, .po), (0x5F5, .cn), (0x600, .cf), (0x606, .sm),
  (0x609, .po), (0x60B, .sc), (0x60C, .po), (0x60E, .so), (0x610, .mn), (0x61B, .po), (0x61C, .cf),
  (0x61D, .po), (0x620, .lo), (0x640, .lm), (0x641, .lo), (0x64B, .mn), (0x660, .nd), (0x66A, .po),
  (0x66E, .lo), (0x670, .mn), (0x671, .lo), (0x6D4, .po), (0x6D5, .lo), (0x6D6, .mn), (0x6DD, .cf),
  (0x6DE, .so), (0x6DF, .mn), (0x6E5, .lm), (0x6E7, .mn), (0x6E9, .so), (0x6EA, .mn), (0x6EE, .lo),
  (0x6F0, .nd), (0x6FA, .lo), (0x6FD, .so), (0x6FF, .lo), (0x700, .po), (0x70E, .cn), (0x70F, .cf),
  (0x710, .lo), (0x711, .mn), (0x712, .lo), (0x730, .mn), (0x74B, .cn), (0x74D, .lo), (0x7A6, .mn),
  (0x7B1, .lo), (0x7B2, .cn), (0x7C0, .nd), (0x7CA, .lo), (0x7EB, .mn), (0x7F4, .lm), (0x7F6, .so),
  (0x7F7, .po), (0x7FA, .lm), (0x7FB, .cn), (0x7FD, .mn), (0x7FE, .sc), (0x800, .lo), (0x816, .mn),
  (0x81A, .lm), (0x81B, .mn), (0x824, .lm), (0x825, .mn), (0x828, .lm), (0x829, .mn), (0x82E, .cn),
  (0x830, .po), (0x83F, .cn), (0x840, .lo), (0x859, .mn), (0x85C, .cn), (0x85E, .po), (0x85F, .cn),
  (0x860, .lo), (0x86B, .cn), (0x870, .lo), (0x888, .sk), (0x889, .lo), (0x88F, .cn), (0x890, .cf),
  (0x892, .cn), (0x898, .mn), (0x8A0, .lo), (0x8C9, .lm), (0x8CA, .mn), (0x8E2, .cf), (0x8E3, .mn)]

def categoriesFrom0900 : List (Nat × Category) := [
  (0x903, .mc), (0x904, .lo), (0x93A, .mn), (0x93B, .mc), (0x93C, .mn), (0x93D, .lo), (0x93E, .mc),
  (0x941, .mn), (0x949, .mc), (0x94D, .mn), (0x94E, .mc), (0x950, .lo), (0x951, .mn), (0x958, .lo),
  (0x962, .mn), (0x964, .po), (0x966, .nd), (0x970, .po), (0x971, .lm), (0x972, .lo), (0x981, .mn),
  (0x982, .mc), (0x984, .cn), (0x985, .lo), (0x98D, .cn), (0x98F, .lo), (0x991, .cn), (0x993, .lo),
  (0x9A9, .cn), (0x9AA, .lo), (0x9B1, .cn), (0x9B2, .lo), (0x9B3, .cn), (0x9B6, .lo), (0x9BA, .cn),
  (0x9BC, .mn), (0x9BD, .lo), (0x9BE, .mc), (0x9C1, .mn), (0x9C5, .cn), (0x9C7, .mc), (0x9C9, .cn),
  (0x9CB, .mc), (0x9CD, .mn), (0x9CE, .lo), (0x9CF, .cn), (0x9D7, .mc), (0x9D8, .cn), (0x9DC, .lo),
  (0x9DE, .cn), (0x9DF, .lo), (0x9E2, .mn), (0x9E4, .cn), (0x9E6, .nd), (0x9F0, .lo), (0x9F2, .sc),
  (0x9F4, .no), (0x9FA, .so), (0x9FB, .sc), (0x9FC, .lo), (0x9FD, .po), (0x9FE, .mn), (0x9FF, .cn),
  (0xA01, .mn), (0xA03, .mc), (0xA04, .cn), (0xA05, .lo), (0xA0B, .cn), (0xA0F, .lo), (0xA11, .cn),
  (0xA13, .lo), (0xA29, .cn), (0xA2A, .lo), (0xA31, .cn), (0xA32, .lo), (0xA34, .cn), (0xA35, .lo),
  (0xA37, .cn), (0xA38, .lo), (0xA3A, .cn), (0xA3C, .mn), (0xA3D, .cn), (0xA3E, .mc), (0xA41, .mn),
  (0xA43, .cn), (0xA47, .mn), (0xA49, .cn), (0xA4B, .mn), (0xA4E, .cn), (0xA51, .mn), (0xA52, .cn),
  (0xA59, .lo), (0xA5D, .cn), (0xA5E, .lo), (0xA5F, .cn), (0xA66, .nd), (0xA70, .mn), (0xA72, .lo),
  (0xA75, .mn), (0xA76, .po), (0xA77, .cn), (0xA81, .mn), (0xA83, .mc), (0xA84, .cn), (0xA85, .lo),
  (0xA8E, .cn), (0xA8F, .lo), (0xA92, .cn), (0xA93, .lo), (0xAA9, .cn), (0xAAA, .lo), (0xAB1, .cn),
  (0xAB2, .lo), (0xAB4, .cn), (0xAB5, .lo), (0xABA, .cn), (0xABC, .mn), (0xABD, .lo), (0xABE, .mc),
  (0xAC1, .mn), (0xAC6, .cn), (0xAC7, .mn), (0xAC9, .mc), (0xACA, .cn), (0xACB, .mc), (0xACD, .mn),
  (0xACE, .cn), (0xAD0, .lo), (0xAD1, .cn), (0xAE0, .lo), (0xAE2, .mn), (0xAE4, .cn), (0xAE6, .nd),
  (0xAF0, .po), (0xAF1, .sc), (0xAF2, .cn), (0xAF9, .lo), (0xAFA, .mn), (0xB00, .cn), (0xB01, .mn),
  (0xB02, .mc), (0xB04, .cn), (0xB05, .lo), (0xB0D, .cn), (0xB0F, .lo), (0xB11, .cn), (0xB13, .lo),
  (0xB29, .cn), (0xB2A, .lo), (0xB31, .cn), (0xB32, .lo), (0xB34, .cn), (0xB35, .lo), (0xB3A, .cn),
  (0xB3C, .mn), (0xB3D, .lo), (0xB3E, .mc), (0xB3F, .mn), (0xB40, .mc), (0xB41, .mn), (0xB45, .cn),
  (0xB47, .mc), (0xB49, .cn), (0xB4B, .mc), (0xB4D, .mn), (0xB4E, .cn), (0xB55, .mn), (0xB57, .mc),
  (0xB58, .cn), (0xB5C, .lo), (0xB5E, .cn), (0xB5F, .lo), (0xB62, .mn), (0xB64, .cn), (0xB66, .nd),
  (0xB70, .so), (0xB71, .lo), (0xB72, .no), (0xB78, .cn), (0xB82, .mn), (0xB83, .lo), (0xB84, .cn),
  (0xB85, .lo), (0xB8B, .cn), (0xB8E, .lo), (0xB91, .cn), (0xB92, .lo), (0xB96, .cn), (0xB99, .lo),
  (0xB9B, .cn), (0xB9C, .lo), (0xB9D, .cn), (0xB9E, .lo), (0xBA0, .cn), (0xBA3, .lo), (0xBA5, .cn),
  (0xBA8, .lo), (0xBAB, .cn), (0xBAE, .lo), (0xBBA, .cn), (0xBBE, .mc), (0xBC0, .mn), (0xBC1, .mc),
  (0xBC3, .cn), (0xBC6, .mc), (0xBC9, .cn), (0xBCA, .mc), (0xBCD, .mn), (0xBCE, .cn), (0xBD0, .lo),
  (0xBD1, .cn), (0xBD7, .mc), (0xBD8, .cn), (0xBE6, .nd), (0xBF0, .no), (0xBF3, .so), (0xBF9, .sc),
  (0xBFA, .so), (0xBFB, .cn)]

def categoriesFrom0C00 : List (Nat × Category) := [
  (0xC00, .mn), (0xC01, .mc), (0xC04, .mn), (0xC05, .lo), (0xC0D, .cn), (0xC0E, .lo), (0xC11, .cn),
  (0xC12, .lo), (0xC29, .cn), (0xC2A, .lo), (0xC3A, .cn), (0xC3C, .mn), (0xC3D, .lo), (0xC3E, .mn),
  (0xC41, .mc), (0xC45, .cn), (0xC46, .mn), (0xC49, .cn), (0xC4A, .mn), (0xC4E, .cn), (0xC55, .mn),
  (0xC57, .cn), (0xC58, .lo), (0xC5B, .cn), (0xC5D, .lo), (0xC5E, .cn), (0xC60, .lo), (0xC62, .mn),
  (0xC64, .cn), (0xC66, .nd), (0xC70, .cn), (0xC77, .po), (0xC78, .no), (0xC7F, .so), (0xC80, .lo),
  (0xC81, .mn), (0xC82, .mc), (0xC84, .po), (0xC85, .lo), (0xC8D, .cn), (0xC8E, .lo), (0xC91, .cn),
  (0xC92, .lo), (0xCA9, .cn), (0xCAA, .lo), (0xCB4, .cn), (0xCB5, .lo), (0xCBA, .cn), (0xCBC, .mn),
  (0xCBD, .lo), (0xCBE, .mc), (0xCBF, .mn), (0xCC0, .mc), (0xCC5, .cn), (0xCC6, .mn), (0xCC7, .mc),
  (0xCC9, .cn), (0xCCA, .mc), (0xCCC, .mn), (0xCCE, .cn), (0xCD5, .mc), (0xCD7, .cn), (0xCDD, .lo),
  (0xCDF, .cn), (0xCE0, .lo), (0xCE2, .mn), (0xCE4, .cn), (0xCE6, .nd), (0xCF0, .cn), (0xCF1, .lo),
  (0xCF3, .mc), (0xCF4, .cn), (0xD00, .mn), (0xD02, .mc), (0xD04, .lo), (0xD0D, .cn), (0xD0E, .lo),
  (0xD11, .cn), (0xD12, .lo), (0xD3B, .mn), (0xD3D, .lo), (0xD3E, .mc), (0xD41, .mn), (0xD45, .cn),
  (0xD46, .mc), (0xD49, .cn), (0xD4A, .mc), (0xD4D, .mn), (0xD4E, .lo), (0xD4F, .so), (0xD50, .cn),
  (0xD54, .lo), (0xD57, .mc), (0xD58, .no), (0xD5F, .lo), (0xD62, .mn), (0xD64, .cn), (0xD66, .nd),
  (0xD70, .no), (0xD79, .so), (0xD7A, .lo), (0xD80, .cn), (0xD81, .mn), (0xD82, .mc), (0xD84, .cn),
  (0xD85, .lo), (0xD97, .cn), (0xD9A, .lo), (0xDB2, .cn), (0xDB3, .lo), (0xDBC, .cn), (0xDBD, .lo),
  (0xDBE, .cn), (0xDC0, .lo), (0xDC7, .cn), (0xDCA, .mn), (0xDCB, .cn), (0xDCF, .mc), (0xDD2, .mn),
  (0xDD5, .cn), (0xDD6, .mn), (0xDD7, .cn), (0xDD8, .mc), (0xDE0, .cn), (0xDE6, .nd), (0xDF0, .cn),
  (0xDF2, .mc), (0xDF4, .po), (0xDF5, .cn), (0xE01, .lo), (0xE31, .mn), (0xE32, .lo), (0xE34, .mn),
  (0xE3B, .cn), (0xE3F, .sc), (0xE40, .lo), (0xE46, .lm), (0xE47, .mn), (0xE4F, .po), (0xE50, .nd),
  (0xE5A, .po), (0xE5C, .cn), (0xE81, .lo), (0xE83, .cn), (0xE84, .lo), (0xE85, .cn), (0xE86, .lo),
  (0xE8B, .cn), (0xE8C, .lo), (0xEA4, .cn), (0xEA5, .lo), (0xEA6, .cn), (0xEA7, .lo), (0xEB1, .mn),
  (0xEB2, .lo), (0xEB4, .mn), (0xEBD, .lo), (0xEBE, .cn), (0xEC0, .lo), (0xEC5, .cn), (0xEC6, .lm),
  (0xEC7, .cn), (0xEC8, .mn), (0xECF, .cn), (0xED0, .nd), (0xEDA, .cn), (0xEDC, .lo), (0xEE0, .cn),
  (0xF00, .lo), (0xF01, .so), (0xF04, .po), (0xF13, .so), (0xF14, .po), (0xF15, .so), (0xF18, .mn),
  (0xF1A, .so), (0xF20, .nd), (0xF2A, .no), (0xF34, .so), (0xF35, .mn), (0xF36, .so), (0xF37, .mn),
  (0xF38, .so), (0xF39, .mn), (0xF3A, .ps), (0xF3B, .pe), (0xF3C, .ps), (0xF3D, .pe), (0xF3E, .mc),
  (0xF40, .lo), (0xF48, .cn), (0xF49, .lo), (0xF6D, .cn), (0xF71, .mn), (0xF7F, .mc), (0xF80, .mn),
  (0xF85, .po), (0xF86, .mn), (0xF88, .lo), (0xF8D, .mn), (0xF98, .cn), (0xF99, .mn), (0xFBD, .cn),
  (0xFBE, .so), (0xFC6, .mn), (0xFC7, .so), (0xFCD, .cn), (0xFCE, .so), (0xFD0, .po), (0xFD5, .so),
  (0xFD9, .po), (0xFDB, .cn)]

def categoriesFrom1000 : List (Nat × Category) := [
  (0x1000, .lo), (0x102B, .mc), (0x102D, .mn), (0x1031, .mc), (0x1032, .mn), (0x1038, .mc),
  (0x1039, .mn), (0x103B, .mc), (0x103D, .mn), (0x103F, .lo), (0x1040, .nd), (0x104A, .po),
  (0x1050, .lo), (0x1056, .mc), (0x1058, .mn), (0x105A, .lo), (0x105E, .mn), (0x1061, .lo),
  (0x1062, .mc), (0x1065, .lo), (0x1067, .mc), (0x106E, .lo), (0x1071, .mn), (0x1075, .lo),
  (0x1082, .mn), (0x1083, .mc), (0x1085, .mn), (0x1087, .mc), (0x108D, .mn), (0x108E, .lo),
  (0x108F, .mc), (0x1090, .nd), (0x109A, .mc), (0x109D, .mn), (0x109E, .so), (0x10A0, .lu),
  (0x10C6, .cn), (0x10C7, .lu), (0x10C8, .cn), (0x10CD, .lu), (0x10CE, .cn), (0x10D0, .ll),
  (0x10FB, .po), (0x10FC, .lm), (0x10FD, .ll), (0x1100, .lo), (0x1249, .cn), (0x124A, .lo),
  (0x124E, .cn), (0x1250, .lo), (0x1257, .cn), (0x1258, .lo), (0x1259, .cn), (0x125A, .lo),
  (0x125E, .cn), (0x1260, .lo), (0x1289, .cn), (0x128A, .lo), (0x128E, .cn), (0x1290, .lo),
  (0x12B1, .cn), (0x12B2, .lo), (0x12B6, .cn), (0x12B8, .lo), (0x12BF, .cn), (0x12C0, .lo),
  (0x12C1, .cn), (0x12C2, .lo), (0x12C6, .cn), (0x12C8, .lo), (0x12D7, .cn), (0x12D8, .lo),
  (0x1311, .cn), (0x1312, .lo), (0x1316, .cn), (0x1318, .lo), (0x135B, .cn), (0x135D, .mn),
  (0x1360, .po), (0x1369, .no), (0x137D, .cn), (0x1380, .lo), (0x1390, .so), (0x139A, .cn),
  (0x13A0, .lu), (0x13F6, .cn), (0x13F8, .ll), (0x13FE, .cn), (0x1400, .pd), (0x1401, .lo),
  (0x166D, .so), (0x166E, .po), (0x166F, .lo), (0x1680, .zs), (0x1681, .lo), (0x169B, .ps),
  (0x169C, .pe), (0x169D, .cn), (0x16A0, .lo), (0x16EB, .po), (0x16EE, .nl), (0x16F1, .lo),
  (0x16F9, .cn), (0x1700, .lo), (0x1712, .mn), (0x1715, .mc), (0x1716, .cn), (0x171F, .lo),
  (0x1732, .mn), (0x1734, .mc), (0x1735, .po), (0x1737, .cn), (0x1740, .lo), (0x1752, .mn),
  (0x1754, .cn), (0x1760, .lo), (0x176D, .cn), (0x176E, .lo), (0x1771, .cn), (0x1772, .mn),
  (0x1774, .cn), (0x1780, .lo), (0x17B4, .mn), (0x17B6, .mc), (0x17B7, .mn), (0x17BE, .mc),
  (0x17C6, .mn), (0x17C7, .mc), (0x17C9, .mn), (0x17D4, .po), (0x17D7, .lm), (0x17D8, .po),
  (0x17DB, .sc), (0x17DC, .lo), (0x17DD, .mn), (0x17DE, .cn), (0x17E0, .nd), (0x17EA, .cn),
  (0x17F0, .no), (0x17FA, .cn), (0x1800, .po), (0x1806, .pd), (0x1807, .po), (0x180B, .mn),
  (0x180E, .cf), (0x180F, .mn), (0x1810, .nd), (0x181A, .cn), (0x1820, .lo), (0x1843, .lm),
  (0x1844, .lo), (0x1879, .cn), (0x1880, .lo), (0x1885, .mn), (0x1887, .lo), (0x18A9, .mn),
  (0x18AA, .lo), (0x18AB, .cn), (0x18B0, .lo), (0x18F6, .cn), (0x1900, .lo), (0x191F, .cn),
  (0x1920, .mn), (0x1923, .mc), (0x1927, .mn), (0x1929, .mc), (0x192C, .cn), (0x1930, .mc),
  (0x1932, .mn), (0x1933, .mc), (0x1939, .mn), (0x193C, .cn), (0x1940, .so), (0x1941, .cn),
  (0x1944, .po), (0x1946, .nd), (0x1950, .lo), (0x196E, .cn), (0x1970, .lo), (0x1975, .cn),
  (0x1980, .lo), (0x19AC, .cn), (0x19B0, .lo), (0x19CA, .cn), (0x19D0, .nd), (0x19DA, .no),
  (0x19DB, .cn), (0x19DE, .so), (0x1A00, .lo), (0x1A17, .mn), (0x1A19, .mc), (0x1A1B, .mn),
  (0x1A1C, .cn), (0x1A1E, .po), (0x1A20, .lo), (0x1A55, .mc), (0x1A56, .mn), (0x1A57, .mc),
  (0x1A58, .mn), (0x1A5F, .cn), (0x1A60, .mn), (0x1A61, .mc), (0x1A62, .mn), (0x1A63, .mc),
  (0x1A65, .mn), (0x1A6D, .mc), (0x1A73, .mn), (0x1A7D, .cn), (0x1A7F, .mn), (0x1A80, .nd),
  (0x1A8A, .cn), (0x1A90, .nd), (0x1A9A, .cn), (0x1AA0, .po), (0x1AA7, .lm), (0x1AA8, .po),
  (0x1AAE, .cn), (0x1AB0, .mn), (0x1ABE, .me), (0x1ABF, .mn), (0x1ACF, .cn), (0x1B00, .mn),
  (0x1B04, .mc), (0x1B05, .lo), (0x1B34, .mn), (0x1B35, .mc), (0x1B36, .mn), (0x1B3B, .mc),
  (0x1B3C, .mn), (0x1B3D, .mc), (0x1B42, .mn), (0x1B43, .mc), (0x1B45, .lo), (0x1B4D, .cn),
  (0x1B50, .nd), (0x1B5A, .po), (0x1B61, .so), (0x1B6B, .mn), (0x1B74, .so), (0x1B7D, .po),
  (0x1B7F, .cn), (0x1B80, .mn), (0x1B82, .mc), (0x1B83, .lo), (0x1BA1, .mc), (0x1BA2, .mn),
  (0x1BA6, .mc), (0x1BA8, .mn), (0x1BAA, .mc), (0x1BAB, .mn), (0x1BAE, .lo), (0x1BB0, .nd),
  (0x1BBA, .lo), (0x1BE6, .mn), (0x1BE7, .mc), (0x1BE8, .mn), (0x1BEA, .mc), (0x1BED, .mn),
  (0x1BEE, .mc), (0x1BEF, .mn), (0x1BF2, .mc), (0x1BF4, .cn), (0x1BFC, .po), (0x1C00, .lo),
  (0x1C24, .mc), (0x1C2C, .mn), (0x1C34, .mc), (0x1C36, .mn), (0x1C38, .cn), (0x1C3B, .po),
  (0x1C40, .nd), (0x1C4A, .cn), (0x1C4D, .lo), (0x1C50, .nd), (0x1C5A, .lo), (0x1C78, .lm),
  (0x1C7E, .po), (0x1C80, .ll), (0x1C89, .cn), (0x1C90, .lu), (0x1CBB, .cn), (0x1CBD, .lu),
  (0x1CC0, .po), (0x1CC8, .cn), (0x1CD0, .mn), (0x1CD3, .po), (0x1CD4, .mn), (0x1CE1, .mc),
  (0x1CE2, .mn), (0x1CE9, .lo), (0x1CED, .mn), (0x1CEE, .lo), (0x1CF4, .mn), (0x1CF5, .lo),
  (0x1CF7, .mc), (0x1CF8, .mn), (0x1CFA, .lo), (0x1CFB, .cn), (0x1D00, .ll), (0x1D2C, .lm),
  (0x1D6B, .ll), (0x1D78, .lm), (0x1D79, .ll), (0x1D9B, .lm), (0x1DC0, .mn)]

def categoriesFrom1E00 : List (Nat × Category) := [
  (0x1E00, .lu), (0x1E01, .ll), (0x1E02, .lu), (0x1E03, .ll), (0x1E04, .lu), (0x1E05, .ll),
  (0x1E06, .lu), (0x1E07, .ll), (0x1E08, .lu), (0x1E09, .ll), (0x1E0A, .lu), (0x1E0B, .ll),
  (0x1E0C, .lu), (0x1E0D, .ll), (0x1E0E, .lu), (0x1E0F, .ll), (0x1E10, .lu), (0x1E11, .ll),
  (0x1E12, .lu), (0x1E13, .ll), (0x1E14, .lu), (0x1E15, .ll), (0x1E16, .lu), (0x1E17, .ll),
  (0x1E18, .lu), (0x1E19, .ll), (0x1E1A, .lu), (0x1E1B, .ll), (0x1E1C, .lu), (0x1E1D, .ll),
  (0x1E1E, .lu), (0x1E1F, .ll), (0x1E20, .lu), (0x1E21, .ll), (0x1E22, .lu), (0x1E23, .ll),
  (0x1E24, .lu), (0x1E25, .ll), (0x1E26, .lu), (0x1E27, .ll), (0x1E28, .lu), (0x1E29, .ll),
  (0x1E2A, .lu), (0x1E2B, .ll), (0x1E2C, .lu), (0x1E2D, .ll), (0x1E2E, .lu), (0x1E2F, .ll),
  (0x1E30, .lu), (0x1E31, .ll), (0x1E32, .lu), (0x1E33, .ll), (0x1E34, .lu), (0x1E35, .ll),
  (0x1E36, .lu), (0x1E37, .ll), (0x1E38, .lu), (0x1E39, .ll), (0x1E3A, .lu), (0x1E3B, .ll),
  (0x1E3C, .lu), (0x1E3D, .ll), (0x1E3E, .lu), (0x1E3F, .ll), (0x1E40, .lu), (0x1E41, .ll),
  (0x1E42, .lu), (0x1E43, .ll), (0x1E44, .lu), (0x1E45, .ll), (0x1E46, .lu), (0x1E47, .ll),
  (0x1E48, .lu), (0x1E49, .ll), (0x1E4A, .lu), (0x1E4B, .ll), (0x1E4C, .lu), (0x1E4D, .ll),
  (0x1E4E, .lu), (0x1E4F, .ll), (0x1E50, .lu), (0x1E51, .ll), (0x1E52, .lu), (0x1E53, .ll),
  (0x1E54, .lu), (0x1E55, .ll), (0x1E56, .lu), (0x1E57, .ll), (0x1E58, .lu), (0x1E59, .ll),
  (0x1E5A, .lu), (0x1E5B, .ll), (0x1E5C, .lu), (0x1E5D, .ll), (0x1E5E, .lu), (0x1E5F, .ll),
  (0x1E60, .lu), (0x1E61, .ll), (0x1E62, .lu), (0x1E63, .ll), (0x1E64, .lu), (0x1E65, .ll),
  (0x1E66, .lu), (0x1E67, .ll), (0x1E68, .lu), (0x1E69, .ll), (0x1E6A, .lu), (0x1E6B, .ll),
  (0x1E6C, .lu), (0x1E6D, .ll), (0x1E6E, .lu), (0x1E6F, .ll), (0x1E70, .lu), (0x1E71, .ll),
  (0x1E72, .lu), (0x1E73, .ll), (0x1E74, .lu), (0x1E75, .ll), (0x1E76, .lu), (0x1E77, .ll),
  (0x1E78, .lu), (0x1E79, .ll), (0x1E7A, .lu), (0x1E7B, .ll), (0x1E7C, .lu), (0x1E7D, .ll),
  (0x1E7E, .lu), (0x1E7F, .ll), (0x1E80, .lu), (0x1E81, .ll), (0x1E82, .lu), (0x1E83, .ll),
  (0x1E84, .lu), (0x1E85, .ll), (0x1E86, .lu), (0x1E87, .ll), (0x1E88, .lu), (0x1E89, .ll),
  (0x1E8A, .lu), (0x1E8B, .ll), (0x1E8C, .lu), (0x1E8D, .ll), (0x1E8E, .lu), (0x1E8F, .ll),
  (0x1E90, .lu), (0x1E91, .ll), (0x1E92, .lu), (0x1E93, .ll), (0x1E94, .lu), (0x1E95, .ll),
  (0x1E9E, .lu), (0x1E9F, .ll), (0x1EA0, .lu), (0x1EA1, .ll), (0x1EA2, .lu), (0x1EA3, .ll),
  (0x1EA4, .lu), (0x1EA5, .ll), (0x1EA6, .lu), (0x1EA7, .ll), (0x1EA8, .lu), (0x1EA9, .ll),
  (0x1EAA, .lu), (0x1EAB, .ll), (0x1EAC, .lu), (0x1EAD, .ll), (0x1EAE, .lu), (0x1EAF, .ll),
  (0x1EB0, .lu), (0x1EB1, .ll), (0x1EB2, .lu), (0x1EB3, .ll), (0x1EB4, .lu), (0x1EB5, .ll),
  (0x1EB6, .lu), (0x1EB7, .ll), (0x1EB8, .lu), (0x1EB9, .ll), (0x1EBA, .lu), (0x1EBB, .ll),
  (0x1EBC, .lu), (0x1EBD, .ll), (0x1EBE, .lu), (0x1EBF, .ll), (0x1EC0, .lu), (0x1EC1, .ll),
  (0x1EC2, .lu), (0x1EC3, .ll), (0x1EC4, .lu), (0x1EC5, .ll), (0x1EC6, .lu), (0x1EC7, .ll),
  (0x1EC8, .lu), (0x1EC9, .ll), (0x1ECA, .lu), (0x1ECB, .ll), (0x1ECC, .lu), (0x1ECD, .ll),
  (0x1ECE, .lu), (0x1ECF, .ll), (0x1ED0, .lu), (0x1ED1, .ll), (0x1ED2, .lu), (0x1ED3, .ll),
  (0x1ED4, .lu), (0x1ED5, .ll), (0x1ED6, .lu), (0x1ED7, .ll), (0x1ED8, .lu), (0x1ED9, .ll),
  (0x1EDA, .lu), (0x1EDB, .ll), (0x1EDC, .lu), (0x1EDD, .ll), (0x1EDE, .lu), (0x1EDF, .ll),
  (0x1EE0, .lu), (0x1EE1, .ll), (0x1EE2, .lu), (0x1EE3, .ll), (0x1EE4, .lu), (0x1EE5, .ll),
  (0x1EE6, .lu), (0x1EE7, .ll), (0x1EE8, .lu), (0x1EE9, .ll), (0x1EEA, .lu), (0x1EEB, .ll),
  (0x1EEC, .lu), (0x1EED, .ll), (0x1EEE, .lu), (0x1EEF, .ll), (0x1EF0, .lu), (0x1EF1, .ll),
  (0x1EF2, .lu), (0x1EF3, .ll), (0x1EF4, .lu), (0x1EF5, .ll), (0x1EF6, .lu), (0x1EF7, .ll),
  (0x1EF8, .lu), (0x1EF9, .ll), (0x1EFA, .lu), (0x1EFB, .ll), (0x1EFC, .lu), (0x1EFD, .ll),
  (0x1EFE, .lu), (0x1EFF, .ll), (0x1F08, .lu), (0x1F10, .ll), (0x1F16, .cn), (0x1F18, .lu),
  (0x1F1E, .cn), (0x1F20, .ll), (0x1F28, .lu), (0x1F30, .ll), (0x1F38, .lu), (0x1F40, .ll),
  (0x1F46, .cn), (0x1F48, .lu), (0x1F4E, .cn), (0x1F50, .ll), (0x1F58, .cn), (0x1F59, .lu),
  (0x1F5A, .cn), (0x1F5B, .lu), (0x1F5C, .cn), (0x1F5D, .lu), (0x1F5E, .cn), (0x1F5F, .lu),
  (0x1F60, .ll), (0x1F68, .lu), (0x1F70, .ll), (0x1F7E, .cn), (0x1F80, .ll), (0x1F88, .lt),
  (0x1F90, .ll), (0x1F98, .lt), (0x1FA0, .ll), (0x1FA8, .lt), (0x1FB0, .ll), (0x1FB5, .cn),
  (0x1FB6, .ll), (0x1FB8, .lu), (0x1FBC, .lt), (0x1FBD, .sk), (0x1FBE, .ll), (0x1FBF, .sk),
  (0x1FC2, .ll), (0x1FC5, .cn), (0x1FC6, .ll), (0x1FC8, .lu), (0x1FCC, .lt), (0x1FCD, .sk),
  (0x1FD0, .ll), (0x1FD4, .cn), (0x1FD6, .ll), (0x1FD8, .lu), (0x1FDC, .cn), (0x1FDD, .sk),
  (0x1FE0, .ll), (0x1FE8, .lu), (0x1FED, .sk), (0x1FF0, .cn), (0x1FF2, .ll), (0x1FF5, .cn),
  (0x1FF6, .ll), (0x1FF8, .lu), (0x1FFC, .lt), (0x1FFD, .sk), (0x1FFF, .cn)]

def categoriesFrom2000 : List (Nat × Category) := [
  (0x2000, .zs), (0x200B, .cf), (0x2010, .pd), (0x2016, .po), (0x2018, .pi), (0x2019, .pf),
  (0x201A, .ps), (0x201B, .pi), (0x201D, .pf), (0x201E, .ps), (0x201F, .pi), (0x2020, .po),
  (0x2028, .zl), (0x2029, .zp), (0x202A, .cf), (0x202F, .zs), (0x2030, .po), (0x2039, .pi),
  (0x203A, .pf), (0x203B, .po), (0x203F, .pc), (0x2041, .po), (0x2044, .sm), (0x2045, .ps),
  (0x2046, .pe), (0x2047, .po), (0x2052, .sm), (0x2053, .po), (0x2054, .pc), (0x2055, .po),
  (0x205F, .zs), (0x2060, .cf), (0x2065, .cn), (0x2066, .cf), (0x2070, .no), (0x2071, .lm),
  (0x2072, .cn), (0x2074, .no), (0x207A, .sm), (0x207D, .ps), (0x207E, .pe), (0x207F, .lm),
  (0x2080, .no), (0x208A, .sm), (0x208D, .ps), (0x208E, .pe), (0x208F, .cn), (0x2090, .lm),
  (0x209D, .cn), (0x20A0, .sc), (0x20C1, .cn), (0x20D0, .mn), (0x20DD, .me), (0x20E1, .mn),
  (0x20E2, .me), (0x20E5, .mn), (0x20F1, .cn), (0x2100, .so), (0x2102, .lu), (0x2103, .so),
  (0x2107, .lu), (0x2108, .so), (0x210A, .ll), (0x210B, .lu), (0x210E, .ll), (0x2110, .lu),
  (0x2113, .ll), (0x2114, .so), (0x2115, .lu), (0x2116, .so), (0x2118, .sm), (0x2119, .lu),
  (0x211E, .so), (0x2124, .lu), (0x2125, .so), (0x2126, .lu), (0x2127, .so), (0x2128, .lu),
  (0x2129, .so), (0x212A, .lu), (0x212E, .so), (0x212F, .ll), (0x2130, .lu), (0x2134, .ll),
  (0x2135, .lo), (0x2139, .ll), (0x213A, .so), (0x213C, .ll), (0x213E, .lu), (0x2140, .sm),
  (0x2145, .lu), (0x2146, .ll), (0x214A, .so), (0x214B, .sm), (0x214C, .so), (0x214E, .ll),
  (0x214F, .so), (0x2150, .no), (0x2160, .nl), (0x2183, .lu), (0x2184, .ll), (0x2185, .nl),
  (0x2189, .no), (0x218A, .so), (0x218C, .cn), (0x2190, .sm), (0x2195, .so), (0x219A, .sm),
  (0x219C, .so), (0x21A0, .sm), (0x21A1, .so), (0x21A3, .sm), (0x21A4, .so), (0x21A6, .sm),
  (0x21A7, .so), (0x21AE, .sm), (0x21AF, .so), (0x21CE, .sm), (0x21D0, .so), (0x21D2, .sm),
  (0x21D3, .so), (0x21D4, .sm), (0x21D5, .so), (0x21F4, .sm), (0x2300, .so), (0x2308, .ps),
  (0x2309, .pe), (0x230A, .ps), (0x230B, .pe), (0x230C, .so), (0x2320, .sm), (0x2322, .so),
  (0x2329, .ps), (0x232A, .pe), (0x232B, .so), (0x237C, .sm), (0x237D, .so), (0x239B, .sm),
  (0x23B4, .so), (0x23DC, .sm), (0x23E2, .so), (0x2427, .cn), (0x2440, .so), (0x244B, .cn),
  (0x2460, .no), (0x249C, .so), (0x24EA, .no), (0x2500, .so), (0x25B7, .sm), (0x25B8, .so),
  (0x25C1, .sm), (0x25C2, .so), (0x25F8, .sm), (0x2600, .so), (0x266F, .sm), (0x2670, .so),
  (0x2768, .ps), (0x2769, .pe), (0x276A, .ps), (0x276B, .pe), (0x276C, .ps), (0x276D, .pe),
  (0x276E, .ps), (0x276F, .pe), (0x2770, .ps), (0x2771, .pe), (0x2772, .ps), (0x2773, .pe),
  (0x2774, .ps), (0x2775, .pe), (0x2776, .no), (0x2794, .so), (0x27C0, .sm), (0x27C5, .ps),
  (0x27C6, .pe), (0x27C7, .sm), (0x27E6, .ps), (0x27E7, .pe), (0x27E8, .ps), (0x27E9, .pe),
  (0x27EA, .ps), (0x27EB, .pe), (0x27EC, .ps), (0x27ED, .pe), (0x27EE, .ps), (0x27EF, .pe),
  (0x27F0, .sm), (0x2800, .so), (0x2900, .sm), (0x2983, .ps), (0x2984, .pe), (0x2985, .ps),
  (0x2986, .pe), (0x2987, .ps), (0x2988, .pe), (0x2989, .ps), (0x298A, .pe), (0x298B, .ps),
  (0x298C, .pe), (0x298D, .ps), (0x298E, .pe), (0x298F, .ps), (0x2990, .pe), (0x2991, .ps),
  (0x2992, .pe), (0x2993, .ps), (0x2994, .pe), (0x2995, .ps), (0x2996, .pe), (0x2997, .ps),
  (0x2998, .pe), (0x2999, .sm), (0x29D8, .ps), (0x29D9, .pe), (0x29DA, .ps), (0x29DB, .pe),
  (0x29DC, .sm), (0x29FC, .ps), (0x29FD, .pe), (0x29FE, .sm), (0x2B00, .so), (0x2B30, .sm),
  (0x2B45, .so), (0x2B47, .sm), (0x2B4D, .so), (0x2B74, .cn), (0x2B76, .so), (0x2B96, .cn),
  (0x2B97, .so)]

def categoriesFrom2C00 : List (Nat × Category) := [
  (0x2C00, .lu), (0x2C30, .ll), (0x2C60, .lu), (0x2C61, .ll), (0x2C62, .lu), (0x2C65, .ll),
  (0x2C67, .lu), (0x2C68, .ll), (0x2C69, .lu), (0x2C6A, .ll), (0x2C6B, .lu), (0x2C6C, .ll),
  (0x2C6D, .lu), (0x2C71, .ll), (0x2C72, .lu), (0x2C73, .ll), (0x2C75, .lu), (0x2C76, .ll),
  (0x2C7C, .lm), (0x2C7E, .lu), (0x2C81, .ll), (0x2C82, .lu), (0x2C83, .ll), (0x2C84, .lu),
  (0x2C85, .ll), (0x2C86, .lu), (0x2C87, .ll), (0x2C88, .lu), (0x2C89, .ll), (0x2C8A, .lu),
  (0x2C8B, .ll), (0x2C8C, .lu), (0x2C8D, .ll), (0x2C8E, .lu), (0x2C8F, .ll), (0x2C90, .lu),
  (0x2C91, .ll), (0x2C92, .lu), (0x2C93, .ll), (0x2C94, .lu), (0x2C95, .ll), (0x2C96, .lu),
  (0x2C97, .ll), (0x2C98, .lu), (0x2C99, .ll), (0x2C9A, .lu), (0x2C9B, .ll), (0x2C9C, .lu),
  (0x2C9D, .ll), (0x2C9E, .lu), (0x2C9F, .ll), (0x2CA0, .lu), (0x2CA1, .ll), (0x2CA2, .lu),
  (0x2CA3, .ll), (0x2CA4, .lu), (0x2CA5, .ll), (0x2CA6, .lu), (0x2CA7, .ll), (0x2CA8, .lu),
  (0x2CA9, .ll), (0x2CAA, .lu), (0x2CAB, .ll), (0x2CAC, .lu), (0x2CAD, .ll), (0x2CAE, .lu),
  (0x2CAF, .ll), (0x2CB0, .lu), (0x2CB1, .ll), (0x2CB2, .lu), (0x2CB3, .ll), (0x2CB4, .lu),
  (0x2CB5, .ll), (0x2CB6, .lu), (0x2CB7, .ll), (0x2CB8, .lu), (0x2CB9, .ll), (0x2CBA, .lu),
  (0x2CBB, .ll), (0x2CBC, .lu), (0x2CBD, .ll), (0x2CBE, .lu), (0x2CBF, .ll), (0x2CC0, .lu),
  (0x2CC1, .ll), (0x2CC2, .lu), (0x2CC3, .ll), (0x2CC4, .lu), (0x2CC5, .ll), (0x2CC6, .lu),
  (0x2CC7, .ll), (0x2CC8, .lu), (0x2CC9, .ll), (0x2CCA, .lu), (0x2CCB, .ll), (0x2CCC, .lu),
  (0x2CCD, .ll), (0x2CCE, .lu), (0x2CCF, .ll), (0x2CD0, .lu), (0x2CD1, .ll), (0x2CD2, .lu),
  (0x2CD3, .ll), (0x2CD4, .lu), (0x2CD5, .ll), (0x2CD6, .lu), (0x2CD7, .ll), (0x2CD8, .lu),
  (0x2CD9, .ll), (0x2CDA, .lu), (0x2CDB, .ll), (0x2CDC, .lu), (0x2CDD, .ll), (0x2CDE, .lu),
  (0x2CDF, .ll), (0x2CE0, .lu), (0x2CE1, .ll), (0x2CE2, .lu), (0x2CE3, .ll), (0x2CE5, .so),
  (0x2CEB, .lu), (0x2CEC, .ll), (0x2CED, .lu), (0x2CEE, .ll), (0x2CEF, .mn), (0x2CF2, .lu),
  (0x2CF3, .ll), (0x2CF4, .cn), (0x2CF9, .po), (0x2CFD, .no), (0x2CFE, .po), (0x2D00, .ll),
  (0x2D26, .cn), (0x2D27, .ll), (0x2D28, .cn), (0x2D2D, .ll), (0x2D2E, .cn), (0x2D30, .lo),
  (0x2D68, .cn), (0x2D6F, .lm), (0x2D70, .po), (0x2D71, .cn), (0x2D7F, .mn), (0x2D80, .lo),
  (0x2D97, .cn), (0x2DA0, .lo), (0x2DA7, .cn), (0x2DA8, .lo), (0x2DAF, .cn), (0x2DB0, .lo),
  (0x2DB7, .cn), (0x2DB8, .lo), (0x2DBF, .cn), (0x2DC0, .lo), (0x2DC7, .cn), (0x2DC8, .lo),
  (0x2DCF, .cn), (0x2DD0, .lo), (0x2DD7, .cn), (0x2DD8, .lo), (0x2DDF, .cn), (0x2DE0, .mn),
  (0x2E00, .po), (0x2E02, .pi), (0x2E03, .pf), (0x2E04, .pi), (0x2E05, .pf), (0x2E06, .po),
  (0x2E09, .pi), (0x2E0A, .pf), (0x2E0B, .po), (0x2E0C, .pi), (0x2E0D, .pf), (0x2E0E, .po),
  (0x2E17, .pd), (0x2E18, .po), (0x2E1A, .pd), (0x2E1B, .po), (0x2E1C, .pi), (0x2E1D, .pf),
  (0x2E1E, .po), (0x2E20, .pi), (0x2E21, .pf), (0x2E22, .ps), (0x2E23, .pe), (0x2E24, .ps),
  (0x2E25, .pe), (0x2E26, .ps), (0x2E27, .pe), (0x2E28, .ps), (0x2E29, .pe), (0x2E2A, .po),
  (0x2E2F, .lm), (0x2E30, .po), (0x2E3A, .pd), (0x2E3C, .po), (0x2E40, .pd), (0x2E41, .po),
  (0x2E42, .ps), (0x2E43, .po), (0x2E50, .so), (0x2E52, .po), (0x2E55, .ps), (0x2E56, .pe),
  (0x2E57, .ps), (0x2E58, .pe), (0x2E59, .ps), (0x2E5A, .pe), (0x2E5B, .ps), (0x2E5C, .pe),
  (0x2E5D, .pd), (0x2E5E, .cn), (0x2E80, .so), (0x2E9A, .cn), (0x2E9B, .so), (0x2EF4, .cn),
  (0x2F00, .so), (0x2FD6, .cn), (0x2FF0, .so), (0x2FFC, .cn), (0x3000, .zs), (0x3001, .po),
  (0x3004, .so), (0x3005, .lm), (0x3006, .lo), (0x3007, .nl), (0x3008, .ps), (0x3009, .pe),
  (0x300A, .ps), (0x300B, .pe), (0x300C, .ps), (0x300D, .pe), (0x300E, .ps), (0x300F, .pe),
  (0x3010, .ps), (0x3011, .pe), (0x3012, .so), (0x3014, .ps), (0x3015, .pe), (0x3016, .ps),
  (0x3017, .pe), (0x3018, .ps), (0x3019, .pe), (0x301A, .ps), (0x301B, .pe), (0x301C, .pd),
  (0x301D, .ps), (0x301E, .pe), (0x3020, .so), (0x3021, .nl), (0x302A, .mn), (0x302E, .mc),
  (0x3030, .pd), (0x3031, .lm), (0x3036, .so), (0x3038, .nl), (0x303B, .lm), (0x303C, .lo),
  (0x303D, .po), (0x303E, .so), (0x3040, .cn), (0x3041, .lo), (0x3097, .cn), (0x3099, .mn),
  (0x309B, .sk), (0x309D, .lm), (0x309F, .lo), (0x30A0, .pd), (0x30A1, .lo), (0x30FB, .po),
  (0x30FC, .lm), (0x30FF, .lo), (0x3100, .cn), (0x3105, .lo), (0x3130, .cn), (0x3131, .lo),
  (0x318F, .cn), (0x3190, .so), (0x3192, .no), (0x3196, .so), (0x31A0, .lo), (0x31C0, .so),
  (0x31E4, .cn), (0x31F0, .lo), (0x3200, .so), (0x321F, .cn), (0x3220, .no), (0x322A, .so),
  (0x3248, .no), (0x3250, .so), (0x3251, .no), (0x3260, .so), (0x3280, .no), (0x328A, .so),
  (0x32B1, .no), (0x32C0, .so), (0x3400, .lo), (0x4DC0, .so), (0x4E00, .lo)]

def categoriesFromA000 : List (Nat × Category) := [
  (0xA015, .lm), (0xA016, .lo), (0xA48D, .cn), (0xA490, .so), (0xA4C7, .cn), (0xA4D0, .lo),
  (0xA4F8, .lm), (0xA4FE, .po), (0xA500, .lo), (0xA60C, .lm), (0xA60D, .po), (0xA610, .lo),
  (0xA620, .nd), (0xA62A, .lo), (0xA62C, .cn), (0xA640, .lu), (0xA641, .ll), (0xA642, .lu),
  (0xA643, .ll), (0xA644, .lu), (0xA645, .ll), (0xA646, .lu), (0xA647, .ll), (0xA648, .lu),
  (0xA649, .ll), (0xA64A, .lu), (0xA64B, .ll), (0xA64C, .lu), (0xA64D, .ll), (0xA64E, .lu),
  (0xA64F, .ll), (0xA650, .lu), (0xA651, .ll), (0xA652, .lu), (0xA653, .ll), (0xA654, .lu),
  (0xA655, .ll), (0xA656, .lu), (0xA657, .ll), (0xA658, .lu), (0xA659, .ll), (0xA65A, .lu),
  (0xA65B, .ll), (0xA65C, .lu), (0xA65D, .ll), (0xA65E, .lu), (0xA65F, .ll), (0xA660, .lu),
  (0xA661, .ll), (0xA662, .lu), (0xA663, .ll), (0xA664, .lu), (0xA665, .ll), (0xA666, .lu),
  (0xA667, .ll), (0xA668, .lu), (0xA669, .ll), (0xA66A, .lu), (0xA66B, .ll), (0xA66C, .lu),
  (0xA66D, .ll), (0xA66E, .lo), (0xA66F, .mn), (0xA670, .me), (0xA673, .po), (0xA674, .mn),
  (0xA67E, .po), (0xA67F, .lm), (0xA680, .lu), (0xA681, .ll), (0xA682, .lu), (0xA683, .ll),
  (0xA684, .lu), (0xA685, .ll), (0xA686, .lu), (0xA687, .ll), (0xA688, .lu), (0xA689, .ll),
  (0xA68A, .lu), (0xA68B, .ll), (0xA68C, .lu), (0xA68D, .ll), (0xA68E, .lu), (0xA68F, .ll),
  (0xA690, .lu), (0xA691, .ll), (0xA692, .lu), (0xA693, .ll), (0xA694, .lu), (0xA695, .ll),
  (0xA696, .lu), (0xA697, .ll), (0xA698, .lu), (0xA699, .ll), (0xA69A, .lu), (0xA69B, .ll),
  (0xA69C, .lm), (0xA69E, .mn), (0xA6A0, .lo), (0xA6E6, .nl), (0xA6F0, .mn), (0xA6F2, .po),
  (0xA6F8, .cn), (0xA700, .sk), (0xA717, .lm), (0xA720, .sk), (0xA722, .lu), (0xA723, .ll),
  (0xA724, .lu), (0xA725, .ll), (0xA726, .lu), (0xA727, .ll), (0xA728, .lu), (0xA729, .ll),
  (0xA72A, .lu), (0xA72B, .ll), (0xA72C, .lu), (0xA72D, .ll), (0xA72E, .lu), (0xA72F, .ll),
  (0xA732, .lu), (0xA733, .ll), (0xA734, .lu), (0xA735, .ll), (0xA736, .lu), (0xA737, .ll),
  (0xA738, .lu), (0xA739, .ll), (0xA73A, .lu), (0xA73B, .ll), (0xA73C, .lu), (0xA73D, .ll),
  (0xA73E, .lu), (0xA73F, .ll), (0xA740, .lu), (0xA741, .ll), (0xA742, .lu), (0xA743, .ll),
  (0xA744, .lu), (0xA745, .ll), (0xA746, .lu), (0xA747, .ll), (0xA748, .lu), (0xA749, .ll),
  (0xA74A, .lu), (0xA74B, .ll), (0xA74C, .lu), (0xA74D, .ll), (0xA74E, .lu), (0xA74F, .ll),
  (0xA750, .lu), (0xA751, .ll), (0xA752, .lu), (0xA753, .ll), (0xA754, .lu), (0xA755, .ll),
  (0xA756, .lu), (0xA757, .ll), (0xA758, .lu), (0xA759, .ll), (0xA75A, .lu), (0xA75B, .ll),
  (0xA75C, .lu), (0xA75D, .ll), (0xA75E, .lu), (0xA75F, .ll), (0xA760, .lu), (0xA761, .ll),
  (0xA762, .lu), (0xA763, .ll), (0xA764, .lu), (0xA765, .ll), (0xA766, .lu), (0xA767, .ll),
  (0xA768, .lu), (0xA769, .ll), (0xA76A, .lu), (0xA76B, .ll), (0xA76C, .lu), (0xA76D, .ll),
  (0xA76E, .lu), (0xA76F, .ll), (0xA770, .lm), (0xA771, .ll), (0xA779, .lu), (0xA77A, .ll),
  (0xA77B, .lu), (0xA77C, .ll), (0xA77D, .lu), (0xA77F, .ll), (0xA780, .lu), (0xA781, .ll),
  (0xA782, .lu), (0xA783, .ll), (0xA784, .lu), (0xA785, .ll), (0xA786, .lu), (0xA787, .ll),
  (0xA788, .lm), (0xA789, .sk), (0xA78B, .lu), (0xA78C, .ll), (0xA78D, .lu), (0xA78E, .ll),
  (0xA78F, .lo), (0xA790, .lu), (0xA791, .ll), (0xA792, .lu), (0xA793, .ll), (0xA796, .lu),
  (0xA797, .ll), (0xA798, .lu), (0xA799, .ll), (0xA79A, .lu), (0xA79B, .ll), (0xA79C, .lu),
  (0xA79D, .ll), (0xA79E, .lu), (0xA79F, .ll), (0xA7A0, .lu), (0xA7A1, .ll), (0xA7A2, .lu),
  (0xA7A3, .ll), (0xA7A4, .lu), (0xA7A5, .ll), (0xA7A6, .lu), (0xA7A7, .ll), (0xA7A8, .lu),
  (0xA7A9, .ll), (0xA7AA, .lu), (0xA7AF, .ll), (0xA7B0, .lu), (0xA7B5, .ll), (0xA7B6, .lu),
  (0xA7B7, .ll), (0xA7B8, .lu), (0xA7B9, .ll), (0xA7BA, .lu), (0xA7BB, .ll), (0xA7BC, .lu),
  (0xA7BD, .ll), (0xA7BE, .lu), (0xA7BF, .ll), (0xA7C0, .lu), (0xA7C1, .ll), (0xA7C2, .lu),
  (0xA7C3, .ll), (0xA7C4, .lu), (0xA7C8, .ll), (0xA7C9, .lu), (0xA7CA, .ll), (0xA7CB, .cn),
  (0xA7D0, .lu), (0xA7D1, .ll), (0xA7D2, .cn), (0xA7D3, .ll), (0xA7D4, .cn), (0xA7D5, .ll),
  (0xA7D6, .lu), (0xA7D7, .ll), (0xA7D8, .lu), (0xA7D9, .ll), (0xA7DA, .cn), (0xA7F2, .lm),
  (0xA7F5, .lu), (0xA7F6, .ll), (0xA7F7, .lo), (0xA7F8, .lm), (0xA7FA, .ll), (0xA7FB, .lo),
  (0xA802, .mn), (0xA803, .lo), (0xA806, .mn), (0xA807, .lo), (0xA80B, .mn), (0xA80C, .lo),
  (0xA823, .mc), (0xA825, .mn), (0xA827, .mc), (0xA828, .so), (0xA82C, .mn), (0xA82D, .cn),
  (0xA830, .no), (0xA836, .so), (0xA838, .sc), (0xA839, .so), (0xA83A, .cn), (0xA840, .lo),
  (0xA874, .po), (0xA878, .cn), (0xA880, .mc), (0xA882, .lo), (0xA8B4, .mc), (0xA8C4, .mn),
  (0xA8C6, .cn), (0xA8CE, .po), (0xA8D0, .nd), (0xA8DA, .cn), (0xA8E0, .mn), (0xA8F2, .lo),
  (0xA8F8, .po), (0xA8FB, .lo), (0xA8FC, .po), (0xA8FD, .lo), (0xA8FF, .mn), (0xA900, .nd),
  (0xA90A, .lo), (0xA926, .mn), (0xA92E, .po), (0xA930, .lo), (0xA947, .mn), (0xA952, .mc),
  (0xA954, .cn), (0xA95F, .po), (0xA960, .lo), (0xA97D, .cn), (0xA980, .mn), (0xA983, .mc),
  (0xA984, .lo), (0xA9B3, .mn), (0xA9B4, .mc), (0xA9B6, .mn), (0xA9BA, .mc), (0xA9BC, .mn),
  (0xA9BE, .mc), (0xA9C1, .po), (0xA9CE, .cn), (0xA9CF, .lm), (0xA9D0, .nd), (0xA9DA, .cn),
  (0xA9DE, .po), (0xA9E0, .lo), (0xA9E5, .mn), (0xA9E6, .lm), (0xA9E7, .lo), (0xA9F0, .nd),
  (0xA9FA, .lo), (0xA9FF, .cn), (0xAA00, .lo), (0xAA29, .mn), (0xAA2F, .mc), (0xAA31, .mn),
  (0xAA33, .mc), (0xAA35, .mn), (0xAA37, .cn), (0xAA40, .lo), (0xAA43, .mn), (0xAA44, .lo),
  (0xAA4C, .mn), (0xAA4D, .mc), (0xAA4E, .cn), (0xAA50, .nd), (0xAA5A, .cn), (0xAA5C, .po),
  (0xAA60, .lo), (0xAA70, .lm), (0xAA71, .lo), (0xAA77, .so), (0xAA7A, .lo), (0xAA7B, .mc),
  (0xAA7C, .mn), (0xAA7D, .mc), (0xAA7E, .lo), (0xAAB0, .mn), (0xAAB1, .lo), (0xAAB2, .mn),
  (0xAAB5, .lo), (0xAAB7, .mn), (0xAAB9, .lo), (0xAABE, .mn), (0xAAC0, .lo), (0xAAC1, .mn),
  (0xAAC2, .lo), (0xAAC3, .cn), (0xAADB, .lo), (0xAADD, .lm), (0xAADE, .po), (0xAAE0, .lo),
  (0xAAEB, .mc), (0xAAEC, .mn), (0xAAEE, .mc), (0xAAF0, .po), (0xAAF2, .lo), (0xAAF3, .lm),
  (0xAAF5, .mc), (0xAAF6, .mn), (0xAAF7, .cn), (0xAB01, .lo), (0xAB07, .cn), (0xAB09, .lo),
  (0xAB0F, .cn), (0xAB11, .lo), (0xAB17, .cn), (0xAB20, .lo), (0xAB27, .cn), (0xAB28, .lo),
  (0xAB2F, .cn), (0xAB30, .ll), (0xAB5B, .sk), (0xAB5C, .lm), (0xAB60, .ll), (0xAB69, .lm),
  (0xAB6A, .sk), (0xAB6C, .cn), (0xAB70, .ll), (0xABC0, .lo), (0xABE3, .mc), (0xABE5, .mn),
  (0xABE6, .mc), (0xABE8, .mn), (0xABE9, .mc), (0xABEB, .po), (0xABEC, .mc), (0xABED, .mn),
  (0xABEE, .cn), (0xABF0, .nd), (0xABFA, .cn), (0xAC00, .lo), (0xD7A4, .cn), (0xD7B0, .lo),
  (0xD7C7, .cn), (0xD7CB, .lo), (0xD7FC, .cn), (0xD800, .cs), (0xE000, .co), (0xF900, .lo),
  (0xFA6E, .cn), (0xFA70, .lo), (0xFADA, .cn)]

def categoriesFromFB00 : List (Nat × Category) := [
  (0xFB00, .ll), (0xFB07, .cn), (0xFB13, .ll), (0xFB18, .cn), (0xFB1D, .lo), (0xFB1E, .mn),
  (0xFB1F, .lo), (0xFB29, .sm), (0xFB2A, .lo), (0xFB37, .cn), (0xFB38, .lo), (0xFB3D, .cn),
  (0xFB3E, .lo), (0xFB3F, .cn), (0xFB40, .lo), (0xFB42, .cn), (0xFB43, .lo), (0xFB45, .cn),
  (0xFB46, .lo), (0xFBB2, .sk), (0xFBC3, .cn), (0xFBD3, .lo), (0xFD3E, .pe), (0xFD3F, .ps),
  (0xFD40, .so), (0xFD50, .lo), (0xFD90, .cn), (0xFD92, .lo), (0xFDC8, .cn), (0xFDCF, .so),
  (0xFDD0, .cn), (0xFDF0, .lo), (0xFDFC, .sc), (0xFDFD, .so), (0xFE00, .mn), (0xFE10, .po),
  (0xFE17, .ps), (0xFE18, .pe), (0xFE19, .po), (0xFE1A, .cn), (0xFE20, .mn), (0xFE30, .po),
  (0xFE31, .pd), (0xFE33, .pc), (0xFE35, .ps), (0xFE36, .pe), (0xFE37, .ps), (0xFE38, .pe),
  (0xFE39, .ps), (0xFE3A, .pe), (0xFE3B, .ps), (0xFE3C, .pe), (0xFE3D, .ps), (0xFE3E, .pe),
  (0xFE3F, .ps), (0xFE40, .pe), (0xFE41, .ps), (0xFE42, .pe), (0xFE43, .ps), (0xFE44, .pe),
  (0xFE45, .po), (0xFE47, .ps), (0xFE48, .pe), (0xFE49, .po), (0xFE4D, .pc), (0xFE50, .po),
  (0xFE53, .cn), (0xFE54, .po), (0xFE58, .pd), (0xFE59, .ps), (0xFE5A, .pe), (0xFE5B, .ps),
  (0xFE5C, .pe), (0xFE5D, .ps), (0xFE5E, .pe), (0xFE5F, .po), (0xFE62, .sm), (0xFE63, .pd),
  (0xFE64, .sm), (0xFE67, .cn), (0xFE68, .po), (0xFE69, .sc), (0xFE6A, .po), (0xFE6C, .cn),
  (0xFE70, .lo), (0xFE75, .cn), (0xFE76, .lo), (0xFEFD, .cn), (0xFEFF, .cf), (0xFF00, .cn),
  (0xFF01, .po), (0xFF04, .sc), (0xFF05, .po), (0xFF08, .ps), (0xFF09, .pe), (0xFF0A, .po),
  (0xFF0B, .sm), (0xFF0C, .po), (0xFF0D, .pd), (0xFF0E, .po), (0xFF10, .nd), (0xFF1A, .po),
  (0xFF1C, .sm), (0xFF1F, .po), (0xFF21, .lu), (0xFF3B, .ps), (0xFF3C, .po), (0xFF3D, .pe),
  (0xFF3E, .sk), (0xFF3F, .pc), (0xFF40, .sk), (0xFF41, .ll), (0xFF5B, .ps), (0xFF5C, .sm),
  (0xFF5D, .pe), (0xFF5E, .sm), (0xFF5F, .ps), (0xFF60, .pe), (0xFF61, .po), (0xFF62, .ps),
  (0xFF63, .pe), (0xFF64, .po), (0xFF66, .lo), (0xFF70, .lm), (0xFF71, .lo), (0xFF9E, .lm),
  (0xFFA0, .lo), (0xFFBF, .cn), (0xFFC2, .lo), (0xFFC8, .cn), (0xFFCA, .lo), (0xFFD0, .cn),
  (0xFFD2, .lo), (0xFFD8, .cn), (0xFFDA, .lo), (0xFFDD, .cn), (0xFFE0, .sc), (0xFFE2, .sm),
  (0xFFE3, .sk), (0xFFE4, .so), (0xFFE5, .sc), (0xFFE7, .cn), (0xFFE8, .so), (0xFFE9, .sm),
  (0xFFED, .so), (0xFFEF, .cn), (0xFFF9, .cf), (0xFFFC, .so), (0xFFFE, .cn), (0x10000, .lo),
  (0x1000C, .cn), (0x1000D, .lo), (0x10027, .cn), (0x10028, .lo), (0x1003B, .cn), (0x1003C, .lo),
  (0x1003E, .cn), (0x1003F, .lo), (0x1004E, .cn), (0x10050, .lo), (0x1005E, .cn), (0x10080, .lo),
  (0x100FB, .cn), (0x10100, .po), (0x10103, .cn), (0x10107, .no), (0x10134, .cn), (0x10137, .so),
  (0x10140, .nl), (0x10175, .no), (0x10179, .so), (0x1018A, .no), (0x1018C, .so), (0x1018F, .cn),
  (0x10190, .so), (0x1019D, .cn), (0x101A0, .so), (0x101A1, .cn), (0x101D0, .so), (0x101FD, .mn),
  (0x101FE, .cn), (0x10280, .lo), (0x1029D, .cn), (0x102A0, .lo), (0x102D1, .cn), (0x102E0, .mn),
  (0x102E1, .no), (0x102FC, .cn), (0x10300, .lo), (0x10320, .no), (0x10324, .cn), (0x1032D, .lo),
  (0x10341, .nl), (0x10342, .lo), (0x1034A, .nl), (0x1034B, .cn), (0x10350, .lo), (0x10376, .mn),
  (0x1037B, .cn), (0x10380, .lo), (0x1039E, .cn), (0x1039F, .po), (0x103A0, .lo), (0x103C4, .cn),
  (0x103C8, .lo), (0x103D0, .po), (0x103D1, .nl), (0x103D6, .cn), (0x10400, .lu), (0x10428, .ll),
  (0x10450, .lo), (0x1049E, .cn), (0x104A0, .nd), (0x104AA, .cn), (0x104B0, .lu), (0x104D4, .cn),
  (0x104D8, .ll), (0x104FC, .cn), (0x10500, .lo), (0x10528, .cn), (0x10530, .lo), (0x10564, .cn),
  (0x1056F, .po), (0x10570, .lu), (0x1057B, .cn), (0x1057C, .lu), (0x1058B, .cn), (0x1058C, .lu),
  (0x10593, .cn), (0x10594, .lu), (0x10596, .cn), (0x10597, .ll), (0x105A2, .cn), (0x105A3, .ll),
  (0x105B2, .cn), (0x105B3, .ll), (0x105BA, .cn), (0x105BB, .ll), (0x105BD, .cn), (0x10600, .lo),
  (0x10737, .cn), (0x10740, .lo), (0x10756, .cn), (0x10760, .lo), (0x10768, .cn), (0x10780, .lm),
  (0x10786, .cn), (0x10787, .lm), (0x107B1, .cn), (0x107B2, .lm), (0x107BB, .cn), (0x10800, .lo),
  (0x10806, .cn), (0x10808, .lo), (0x10809, .cn), (0x1080A, .lo), (0x10836, .cn), (0x10837, .lo),
  (0x10839, .cn), (0x1083C, .lo), (0x1083D, .cn), (0x1083F, .lo), (0x10856, .cn), (0x10857, .po),
  (0x10858, .no), (0x10860, .lo), (0x10877, .so), (0x10879, .no), (0x10880, .lo), (0x1089F, .cn),
  (0x108A7, .no), (0x108B0, .cn), (0x108E0, .lo), (0x108F3, .cn), (0x108F4, .lo), (0x108F6, .cn),
  (0x108FB, .no), (0x10900, .lo), (0x10916, .no), (0x1091C, .cn), (0x1091F, .po), (0x10920, .lo),
  (0x1093A, .cn), (0x1093F, .po), (0x10940, .cn), (0x10980, .lo), (0x109B8, .cn), (0x109BC, .no),
  (0x109BE, .lo), (0x109C0, .no), (0x109D0, .cn), (0x109D2, .no)]

def categoriesFrom10A00 : List (Nat × Category) := [
  (0x10A00, .lo), (0x10A01, .mn), (0x10A04, .cn), (0x10A05, .mn), (0x10A07, .cn), (0x10A0C, .mn),
  (0x10A10, .lo), (0x10A14, .cn), (0x10A15, .lo), (0x10A18, .cn), (0x10A19, .lo), (0x10A36, .cn),
  (0x10A38, .mn), (0x10A3B, .cn), (0x10A3F, .mn), (0x10A40, .no), (0x10A49, .cn), (0x10A50, .po),
  (0x10A59, .cn), (0x10A60, .lo), (0x10A7D, .no), (0x10A7F, .po), (0x10A80, .lo), (0x10A9D, .no),
  (0x10AA0, .cn), (0x10AC0, .lo), (0x10AC8, .so), (0x10AC9, .lo), (0x10AE5, .mn), (0x10AE7, .cn),
  (0x10AEB, .no), (0x10AF0, .po), (0x10AF7, .cn), (0x10B00, .lo), (0x10B36, .cn), (0x10B39, .po),
  (0x10B40, .lo), (0x10B56, .cn), (0x10B58, .no), (0x10B60, .lo), (0x10B73, .cn), (0x10B78, .no),
  (0x10B80, .lo), (0x10B92, .cn), (0x10B99, .po), (0x10B9D, .cn), (0x10BA9, .no), (0x10BB0, .cn),
  (0x10C00, .lo), (0x10C49, .cn), (0x10C80, .lu), (0x10CB3, .cn), (0x10CC0, .ll), (0x10CF3, .cn),
  (0x10CFA, .no), (0x10D00, .lo), (0x10D24, .mn), (0x10D28, .cn), (0x10D30, .nd), (0x10D3A, .cn),
  (0x10E60, .no), (0x10E7F, .cn), (0x10E80, .lo), (0x10EAA, .cn), (0x10EAB, .mn), (0x10EAD, .pd),
  (0x10EAE, .cn), (0x10EB0, .lo), (0x10EB2, .cn), (0x10EFD, .mn), (0x10F00, .lo), (0x10F1D, .no),
  (0x10F27, .lo), (0x10F28, .cn), (0x10F30, .lo), (0x10F46, .mn), (0x10F51, .no), (0x10F55, .po),
  (0x10F5A, .cn), (0x10F70, .lo), (0x10F82, .mn), (0x10F86, .po), (0x10F8A, .cn), (0x10FB0, .lo),
  (0x10FC5, .no), (0x10FCC, .cn), (0x10FE0, .lo), (0x10FF7, .cn), (0x11000, .mc), (0x11001, .mn),
  (0x11002, .mc), (0x11003, .lo), (0x11038, .mn), (0x11047, .po), (0x1104E, .cn), (0x11052, .no),
  (0x11066, .nd), (0x11070, .mn), (0x11071, .lo), (0x11073, .mn), (0x11075, .lo), (0x11076, .cn),
  (0x1107F, .mn), (0x11082, .mc), (0x11083, .lo), (0x110B0, .mc), (0x110B3, .mn), (0x110B7, .mc),
  (0x110B9, .mn), (0x110BB, .po), (0x110BD, .cf), (0x110BE, .po), (0x110C2, .mn), (0x110C3, .cn),
  (0x110CD, .cf), (0x110CE, .cn), (0x110D0, .lo), (0x110E9, .cn), (0x110F0, .nd), (0x110FA, .cn),
  (0x11100, .mn), (0x11103, .lo), (0x11127, .mn), (0x1112C, .mc), (0x1112D, .mn), (0x11135, .cn),
  (0x11136, .nd), (0x11140, .po), (0x11144, .lo), (0x11145, .mc), (0x11147, .lo), (0x11148, .cn),
  (0x11150, .lo), (0x11173, .mn), (0x11174, .po), (0x11176, .lo), (0x11177, .cn), (0x11180, .mn),
  (0x11182, .mc), (0x11183, .lo), (0x111B3, .mc), (0x111B6, .mn), (0x111BF, .mc), (0x111C1, .lo),
  (0x111C5, .po), (0x111C9, .mn), (0x111CD, .po), (0x111CE, .mc), (0x111CF, .mn), (0x111D0, .nd),
  (0x111DA, .lo), (0x111DB, .po), (0x111DC, .lo), (0x111DD, .po), (0x111E0, .cn), (0x111E1, .no),
  (0x111F5, .cn), (0x11200, .lo), (0x11212, .cn), (0x11213, .lo), (0x1122C, .mc), (0x1122F, .mn),
  (0x11232, .mc), (0x11234, .mn), (0x11235, .mc), (0x11236, .mn), (0x11238, .po), (0x1123E, .mn),
  (0x1123F, .lo), (0x11241, .mn), (0x11242, .cn), (0x11280, .lo), (0x11287, .cn), (0x11288, .lo),
  (0x11289, .cn), (0x1128A, .lo), (0x1128E, .cn), (0x1128F, .lo), (0x1129E, .cn), (0x1129F, .lo),
  (0x112A9, .po), (0x112AA, .cn), (0x112B0, .lo), (0x112DF, .mn), (0x112E0, .mc), (0x112E3, .mn),
  (0x112EB, .cn), (0x112F0, .nd), (0x112FA, .cn), (0x11300, .mn), (0x11302, .mc), (0x11304, .cn),
  (0x11305, .lo), (0x1130D, .cn), (0x1130F, .lo), (0x11311, .cn), (0x11313, .lo), (0x11329, .cn),
  (0x1132A, .lo), (0x11331, .cn), (0x11332, .lo), (0x11334, .cn), (0x11335, .lo), (0x1133A, .cn),
  (0x1133B, .mn), (0x1133D, .lo), (0x1133E, .mc), (0x11340, .mn), (0x11341, .mc), (0x11345, .cn),
  (0x11347, .mc), (0x11349, .cn), (0x1134B, .mc), (0x1134E, .cn), (0x11350, .lo), (0x11351, .cn),
  (0x11357, .mc), (0x11358, .cn), (0x1135D, .lo), (0x11362, .mc), (0x11364, .cn), (0x11366, .mn),
  (0x1136D, .cn), (0x11370, .mn), (0x11375, .cn), (0x11400, .lo), (0x11435, .mc), (0x11438, .mn),
  (0x11440, .mc), (0x11442, .mn), (0x11445, .mc), (0x11446, .mn), (0x11447, .lo), (0x1144B, .po),
  (0x11450, .nd), (0x1145A, .po), (0x1145C, .cn), (0x1145D, .po), (0x1145E, .mn), (0x1145F, .lo),
  (0x11462, .cn), (0x11480, .lo), (0x114B0, .mc), (0x114B3, .mn), (0x114B9, .mc), (0x114BA, .mn),
  (0x114BB, .mc), (0x114BF, .mn), (0x114C1, .mc), (0x114C2, .mn), (0x114C4, .lo), (0x114C6, .po),
  (0x114C7, .lo), (0x114C8, .cn), (0x114D0, .nd), (0x114DA, .cn), (0x11580, .lo), (0x115AF, .mc),
  (0x115B2, .mn), (0x115B6, .cn), (0x115B8, .mc), (0x115BC, .mn), (0x115BE, .mc), (0x115BF, .mn),
  (0x115C1, .po), (0x115D8, .lo), (0x115DC, .mn), (0x115DE, .cn), (0x11600, .lo), (0x11630, .mc),
  (0x11633, .mn), (0x1163B, .mc), (0x1163D, .mn), (0x1163E, .mc), (0x1163F, .mn), (0x11641, .po),
  (0x11644, .lo), (0x11645, .cn), (0x11650, .nd), (0x1165A, .cn), (0x11660, .po), (0x1166D, .cn),
  (0x11680, .lo), (0x116AB, .mn), (0x116AC, .mc), (0x116AD, .mn), (0x116AE, .mc), (0x116B0, .mn),
  (0x116B6, .mc), (0x116B7, .mn), (0x116B8, .lo), (0x116B9, .po), (0x116BA, .cn), (0x116C0, .nd),
  (0x116CA, .cn), (0x11700, .lo), (0x1171B, .cn), (0x1171D, .mn), (0x11720, .mc), (0x11722, .mn),
  (0x11726, .mc), (0x11727, .mn), (0x1172C, .cn), (0x11730, .nd), (0x1173A, .no), (0x1173C, .po),
  (0x1173F, .so), (0x11740, .lo), (0x11747, .cn), (0x11800, .lo), (0x1182C, .mc), (0x1182F, .mn),
  (0x11838, .mc), (0x11839, .mn), (0x1183B, .po), (0x1183C, .cn), (0x118A0, .lu), (0x118C0, .ll),
  (0x118E0, .nd), (0x118EA, .no), (0x118F3, .cn), (0x118FF, .lo), (0x11907, .cn), (0x11909, .lo),
  (0x1190A, .cn), (0x1190C, .lo), (0x11914, .cn), (0x11915, .lo), (0x11917, .cn), (0x11918, .lo),
  (0x11930, .mc), (0x11936, .cn), (0x11937, .mc), (0x11939, .cn), (0x1193B, .mn), (0x1193D, .mc),
  (0x1193E, .mn), (0x1193F, .lo), (0x11940, .mc), (0x11941, .lo), (0x11942, .mc), (0x11943, .mn),
  (0x11944, .po), (0x11947, .cn), (0x11950, .nd), (0x1195A, .cn), (0x119A0, .lo), (0x119A8, .cn),
  (0x119AA, .lo), (0x119D1, .mc), (0x119D4, .mn), (0x119D8, .cn), (0x119DA, .mn), (0x119DC, .mc),
  (0x119E0, .mn), (0x119E1, .lo), (0x119E2, .po), (0x119E3, .lo), (0x119E4, .mc), (0x119E5, .cn)]

def categoriesFrom11A00 : List (Nat × Category) := [
  (0x11A00, .lo), (0x11A01, .mn), (0x11A0B, .lo), (0x11A33, .mn), (0x11A39, .mc), (0x11A3A, .lo),
  (0x11A3B, .mn), (0x11A3F, .po), (0x11A47, .mn), (0x11A48, .cn), (0x11A50, .lo), (0x11A51, .mn),
  (0x11A57, .mc), (0x11A59, .mn), (0x11A5C, .lo), (0x11A8A, .mn), (0x11A97, .mc), (0x11A98, .mn),
  (0x11A9A, .po), (0x11A9D, .lo), (0x11A9E, .po), (0x11AA3, .cn), (0x11AB0, .lo), (0x11AF9, .cn),
  (0x11B00, .po), (0x11B0A, .cn), (0x11C00, .lo), (0x11C09, .cn), (0x11C0A, .lo), (0x11C2F, .mc),
  (0x11C30, .mn), (0x11C37, .cn), (0x11C38, .mn), (0x11C3E, .mc), (0x11C3F, .mn), (0x11C40, .lo),
  (0x11C41, .po), (0x11C46, .cn), (0x11C50, .nd), (0x11C5A, .no), (0x11C6D, .cn), (0x11C70, .po),
  (0x11C72, .lo), (0x11C90, .cn), (0x11C92, .mn), (0x11CA8, .cn), (0x11CA9, .mc), (0x11CAA, .mn),
  (0x11CB1, .mc), (0x11CB2, .mn), (0x11CB4, .mc), (0x11CB5, .mn), (0x11CB7, .cn), (0x11D00, .lo),
  (0x11D07, .cn), (0x11D08, .lo), (0x11D0A, .cn), (0x11D0B, .lo), (0x11D31, .mn), (0x11D37, .cn),
  (0x11D3A, .mn), (0x11D3B, .cn), (0x11D3C, .mn), (0x11D3E, .cn), (0x11D3F, .mn), (0x11D46, .lo),
  (0x11D47, .mn), (0x11D48, .cn), (0x11D50, .nd), (0x11D5A, .cn), (0x11D60, .lo), (0x11D66, .cn),
  (0x11D67, .lo), (0x11D69, .cn), (0x11D6A, .lo), (0x11D8A, .mc), (0x11D8F, .cn), (0x11D90, .mn),
  (0x11D92, .cn), (0x11D93, .mc), (0x11D95, .mn), (0x11D96, .mc), (0x11D97, .mn), (0x11D98, .lo),
  (0x11D99, .cn), (0x11DA0, .nd), (0x11DAA, .cn), (0x11EE0, .lo), (0x11EF3, .mn), (0x11EF5, .mc),
  (0x11EF7, .po), (0x11EF9, .cn), (0x11F00, .mn), (0x11F02, .lo), (0x11F03, .mc), (0x11F04, .lo),
  (0x11F11, .cn), (0x11F12, .lo), (0x11F34, .mc), (0x11F36, .mn), (0x11F3B, .cn), (0x11F3E, .mc),
  (0x11F40, .mn), (0x11F41, .mc), (0x11F42, .mn), (0x11F43, .po), (0x11F50, .nd), (0x11F5A, .cn),
  (0x11FB0, .lo), (0x11FB1, .cn), (0x11FC0, .no), (0x11FD5, .so), (0x11FDD, .sc), (0x11FE1, .so),
  (0x11FF2, .cn), (0x11FFF, .po), (0x12000, .lo), (0x1239A, .cn), (0x12400, .nl), (0x1246F, .cn),
  (0x12470, .po), (0x12475, .cn), (0x12480, .lo), (0x12544, .cn), (0x12F90, .lo), (0x12FF1, .po),
  (0x12FF3, .cn), (0x13000, .lo), (0x13430, .cf), (0x13440, .mn), (0x13441, .lo), (0x13447, .mn),
  (0x13456, .cn), (0x14400, .lo), (0x14647, .cn), (0x16800, .lo), (0x16A39, .cn), (0x16A40, .lo),
  (0x16A5F, .cn), (0x16A60, .nd), (0x16A6A, .cn), (0x16A6E, .po), (0x16A70, .lo), (0x16ABF, .cn),
  (0x16AC0, .nd), (0x16ACA, .cn), (0x16AD0, .lo), (0x16AEE, .cn), (0x16AF0, .mn), (0x16AF5, .po),
  (0x16AF6, .cn), (0x16B00, .lo), (0x16B30, .mn), (0x16B37, .po), (0x16B3C, .so), (0x16B40, .lm),
  (0x16B44, .po), (0x16B45, .so), (0x16B46, .cn), (0x16B50, .nd), (0x16B5A, .cn), (0x16B5B, .no),
  (0x16B62, .cn), (0x16B63, .lo), (0x16B78, .cn), (0x16B7D, .lo), (0x16B90, .cn), (0x16E40, .lu),
  (0x16E60, .ll), (0x16E80, .no), (0x16E97, .po), (0x16E9B, .cn), (0x16F00, .lo), (0x16F4B, .cn),
  (0x16F4F, .mn), (0x16F50, .lo), (0x16F51, .mc), (0x16F88, .cn), (0x16F8F, .mn), (0x16F93, .lm),
  (0x16FA0, .cn), (0x16FE0, .lm), (0x16FE2, .po), (0x16FE3, .lm), (0x16FE4, .mn), (0x16FE5, .cn),
  (0x16FF0, .mc), (0x16FF2, .cn), (0x17000, .lo), (0x187F8, .cn), (0x18800, .lo), (0x18CD6, .cn),
  (0x18D00, .lo), (0x18D09, .cn), (0x1AFF0, .lm), (0x1AFF4, .cn), (0x1AFF5, .lm), (0x1AFFC, .cn),
  (0x1AFFD, .lm), (0x1AFFF, .cn), (0x1B000, .lo), (0x1B123, .cn), (0x1B132, .lo), (0x1B133, .cn),
  (0x1B150, .lo), (0x1B153, .cn), (0x1B155, .lo), (0x1B156, .cn), (0x1B164, .lo), (0x1B168, .cn),
  (0x1B170, .lo), (0x1B2FC, .cn), (0x1BC00, .lo), (0x1BC6B, .cn), (0x1BC70, .lo), (0x1BC7D, .cn),
  (0x1BC80, .lo), (0x1BC89, .cn), (0x1BC90, .lo), (0x1BC9A, .cn), (0x1BC9C, .so), (0x1BC9D, .mn),
  (0x1BC9F, .po), (0x1BCA0, .cf), (0x1BCA4, .cn), (0x1CF00, .mn), (0x1CF2E, .cn), (0x1CF30, .mn),
  (0x1CF47, .cn), (0x1CF50, .so), (0x1CFC4, .cn), (0x1D000, .so), (0x1D0F6, .cn), (0x1D100, .so),
  (0x1D127, .cn), (0x1D129, .so), (0x1D165, .mc), (0x1D167, .mn), (0x1D16A, .so), (0x1D16D, .mc),
  (0x1D173, .cf), (0x1D17B, .mn), (0x1D183, .so), (0x1D185, .mn), (0x1D18C, .so), (0x1D1AA, .mn),
  (0x1D1AE, .so), (0x1D1EB, .cn), (0x1D200, .so), (0x1D242, .mn), (0x1D245, .so), (0x1D246, .cn),
  (0x1D2C0, .no), (0x1D2D4, .cn), (0x1D2E0, .no), (0x1D2F4, .cn), (0x1D300, .so), (0x1D357, .cn),
  (0x1D360, .no), (0x1D379, .cn)]

def categoriesFrom1D400 : List (Nat × Category) := [
  (0x1D400, .lu), (0x1D41A, .ll), (0x1D434, .lu), (0x1D44E, .ll), (0x1D455, .cn), (0x1D456, .ll),
  (0x1D468, .lu), (0x1D482, .ll), (0x1D49C, .lu), (0x1D49D, .cn), (0x1D49E, .lu), (0x1D4A0, .cn),
  (0x1D4A2, .lu), (0x1D4A3, .cn), (0x1D4A5, .lu), (0x1D4A7, .cn), (0x1D4A9, .lu), (0x1D4AD, .cn),
  (0x1D4AE, .lu), (0x1D4B6, .ll), (0x1D4BA, .cn), (0x1D4BB, .ll), (0x1D4BC, .cn), (0x1D4BD, .ll),
  (0x1D4C4, .cn), (0x1D4C5, .ll), (0x1D4D0, .lu), (0x1D4EA, .ll), (0x1D504, .lu), (0x1D506, .cn),
  (0x1D507, .lu), (0x1D50B, .cn), (0x1D50D, .lu), (0x1D515, .cn), (0x1D516, .lu), (0x1D51D, .cn),
  (0x1D51E, .ll), (0x1D538, .lu), (0x1D53A, .cn), (0x1D53B, .lu), (0x1D53F, .cn), (0x1D540, .lu),
  (0x1D545, .cn), (0x1D546, .lu), (0x1D547, .cn), (0x1D54A, .lu), (0x1D551, .cn), (0x1D552, .ll),
  (0x1D56C, .lu), (0x1D586, .ll), (0x1D5A0, .lu), (0x1D5BA, .ll), (0x1D5D4, .lu), (0x1D5EE, .ll),
  (0x1D608, .lu), (0x1D622, .ll), (0x1D63C, .lu), (0x1D656, .ll), (0x1D670, .lu), (0x1D68A, .ll),
  (0x1D6A6, .cn), (0x1D6A8, .lu), (0x1D6C1, .sm), (0x1D6C2, .ll), (0x1D6DB, .sm), (0x1D6DC, .ll),
  (0x1D6E2, .lu), (0x1D6FB, .sm), (0x1D6FC, .ll), (0x1D715, .sm), (0x1D716, .ll), (0x1D71C, .lu),
  (0x1D735, .sm), (0x1D736, .ll), (0x1D74F, .sm), (0x1D750, .ll), (0x1D756, .lu), (0x1D76F, .sm),
  (0x1D770, .ll), (0x1D789, .sm), (0x1D78A, .ll), (0x1D790, .lu), (0x1D7A9, .sm), (0x1D7AA, .ll),
  (0x1D7C3, .sm), (0x1D7C4, .ll), (0x1D7CA, .lu), (0x1D7CB, .ll), (0x1D7CC, .cn), (0x1D7CE, .nd),
  (0x1D800, .so), (0x1DA00, .mn), (0x1DA37, .so), (0x1DA3B, .mn), (0x1DA6D, .so), (0x1DA75, .mn),
  (0x1DA76, .so), (0x1DA84, .mn), (0x1DA85, .so), (0x1DA87, .po), (0x1DA8C, .cn), (0x1DA9B, .mn),
  (0x1DAA0, .cn), (0x1DAA1, .mn), (0x1DAB0, .cn), (0x1DF00, .ll), (0x1DF0A, .lo), (0x1DF0B, .ll),
  (0x1DF1F, .cn), (0x1DF25, .ll), (0x1DF2B, .cn), (0x1E000, .mn), (0x1E007, .cn), (0x1E008, .mn),
  (0x1E019, .cn), (0x1E01B, .mn), (0x1E022, .cn), (0x1E023, .mn), (0x1E025, .cn), (0x1E026, .mn),
  (0x1E02B, .cn), (0x1E030, .lm), (0x1E06E, .cn), (0x1E08F, .mn), (0x1E090, .cn), (0x1E100, .lo),
  (0x1E12D, .cn), (0x1E130, .mn), (0x1E137, .lm), (0x1E13E, .cn), (0x1E140, .nd), (0x1E14A, .cn),
  (0x1E14E, .lo), (0x1E14F, .so), (0x1E150, .cn), (0x1E290, .lo), (0x1E2AE, .mn), (0x1E2AF, .cn),
  (0x1E2C0, .lo), (0x1E2EC, .mn), (0x1E2F0, .nd), (0x1E2FA, .cn), (0x1E2FF, .sc), (0x1E300, .cn),
  (0x1E4D0, .lo), (0x1E4EB, .lm), (0x1E4EC, .mn), (0x1E4F0, .nd), (0x1E4FA, .cn), (0x1E7E0, .lo),
  (0x1E7E7, .cn), (0x1E7E8, .lo), (0x1E7EC, .cn), (0x1E7ED, .lo), (0x1E7EF, .cn), (0x1E7F0, .lo),
  (0x1E7FF, .cn), (0x1E800, .lo), (0x1E8C5, .cn), (0x1E8C7, .no), (0x1E8D0, .mn), (0x1E8D7, .cn),
  (0x1E900, .lu), (0x1E922, .ll), (0x1E944, .mn), (0x1E94B, .lm), (0x1E94C, .cn), (0x1E950, .nd),
  (0x1E95A, .cn), (0x1E95E, .po), (0x1E960, .cn), (0x1EC71, .no), (0x1ECAC, .so), (0x1ECAD, .no),
  (0x1ECB0, .sc), (0x1ECB1, .no), (0x1ECB5, .cn), (0x1ED01, .no), (0x1ED2E, .so), (0x1ED2F, .no),
  (0x1ED3E, .cn)]

def categoriesFrom1EE00 : List (Nat × Category) := [
  (0x1EE00, .lo), (0x1EE04, .cn), (0x1EE05, .lo), (0x1EE20, .cn), (0x1EE21, .lo), (0x1EE23, .cn),
  (0x1EE24, .lo), (0x1EE25, .cn), (0x1EE27, .lo), (0x1EE28, .cn), (0x1EE29, .lo), (0x1EE33, .cn),
  (0x1EE34, .lo), (0x1EE38, .cn), (0x1EE39, .lo), (0x1EE3A, .cn), (0x1EE3B, .lo), (0x1EE3C, .cn),
  (0x1EE42, .lo), (0x1EE43, .cn), (0x1EE47, .lo), (0x1EE48, .cn), (0x1EE49, .lo), (0x1EE4A, .cn),
  (0x1EE4B, .lo), (0x1EE4C, .cn), (0x1EE4D, .lo), (0x1EE50, .cn), (0x1EE51, .lo), (0x1EE53, .cn),
  (0x1EE54, .lo), (0x1EE55, .cn), (0x1EE57, .lo), (0x1EE58, .cn), (0x1EE59, .lo), (0x1EE5A, .cn),
  (0x1EE5B, .lo), (0x1EE5C, .cn), (0x1EE5D, .lo), (0x1EE5E, .cn), (0x1EE5F, .lo), (0x1EE60, .cn),
  (0x1EE61, .lo), (0x1EE63, .cn), (0x1EE64, .lo), (0x1EE65, .cn), (0x1EE67, .lo), (0x1EE6B, .cn),
  (0x1EE6C, .lo), (0x1EE73, .cn), (0x1EE74, .lo), (0x1EE78, .cn), (0x1EE79, .lo), (0x1EE7D, .cn),
  (0x1EE7E, .lo), (0x1EE7F, .cn), (0x1EE80, .lo), (0x1EE8A, .cn), (0x1EE8B, .lo), (0x1EE9C, .cn),
  (0x1EEA1, .lo), (0x1EEA4, .cn), (0x1EEA5, .lo), (0x1EEAA, .cn), (0x1EEAB, .lo), (0x1EEBC, .cn),
  (0x1EEF0, .sm), (0x1EEF2, .cn), (0x1F000, .so), (0x1F02C, .cn), (0x1F030, .so), (0x1F094, .cn),
  (0x1F0A0, .so), (0x1F0AF, .cn), (0x1F0B1, .so), (0x1F0C0, .cn), (0x1F0C1, .so), (0x1F0D0, .cn),
  (0x1F0D1, .so), (0x1F0F6, .cn), (0x1F100, .no), (0x1F10D, .so), (0x1F1AE, .cn), (0x1F1E6, .so),
  (0x1F203, .cn), (0x1F210, .so), (0x1F23C, .cn), (0x1F240, .so), (0x1F249, .cn), (0x1F250, .so),
  (0x1F252, .cn), (0x1F260, .so), (0x1F266, .cn), (0x1F300, .so), (0x1F3FB, .sk), (0x1F400, .so),
  (0x1F6D8, .cn), (0x1F6DC, .so), (0x1F6ED, .cn), (0x1F6F0, .so), (0x1F6FD, .cn), (0x1F700, .so),
  (0x1F777, .cn), (0x1F77B, .so), (0x1F7DA, .cn), (0x1F7E0, .so), (0x1F7EC, .cn), (0x1F7F0, .so),
  (0x1F7F1, .cn), (0x1F800, .so), (0x1F80C, .cn), (0x1F810, .so), (0x1F848, .cn), (0x1F850, .so),
  (0x1F85A, .cn), (0x1F860, .so), (0x1F888, .cn), (0x1F890, .so), (0x1F8AE, .cn), (0x1F8B0, .so),
  (0x1F8B2, .cn), (0x1F900, .so), (0x1FA54, .cn), (0x1FA60, .so), (0x1FA6E, .cn), (0x1FA70, .so),
  (0x1FA7D, .cn), (0x1FA80, .so), (0x1FA89, .cn), (0x1FA90, .so), (0x1FABE, .cn), (0x1FABF, .so),
  (0x1FAC6, .cn), (0x1FACE, .so), (0x1FADC, .cn), (0x1FAE0, .so), (0x1FAE9, .cn), (0x1FAF0, .so),
  (0x1FAF9, .cn), (0x1FB00, .so), (0x1FB93, .cn), (0x1FB94, .so), (0x1FBCB, .cn), (0x1FBF0, .nd),
  (0x1FBFA, .cn), (0x20000, .lo), (0x2A6E0, .cn), (0x2A700, .lo), (0x2B73A, .cn), (0x2B740, .lo),
  (0x2B81E, .cn), (0x2B820, .lo), (0x2CEA2, .cn), (0x2CEB0, .lo), (0x2EBE1, .cn), (0x2F800, .lo),
  (0x2FA1E, .cn), (0x30000, .lo), (0x3134B, .cn), (0x31350, .lo), (0x323B0, .cn), (0xE0001, .cf),
  (0xE0002, .cn), (0xE0020, .cf), (0xE0080, .cn), (0xE0100, .mn), (0xE01F0, .cn), (0xF0000, .co),
  (0xFFFFE, .cn), (0x100000, .co), (0x10FFFE, .cn), (0x110000, .cn)]

/-- The runs of equal general category, in order of code point. -/
def categoryList : List (Nat × Category) := [
  categoriesFrom0000, categoriesFrom0180, categoriesFrom0300, categoriesFrom0500,
  categoriesFrom0900, categoriesFrom0C00, categoriesFrom1000, categoriesFrom1E00,
  categoriesFrom2000, categoriesFrom2C00, categoriesFromA000, categoriesFromFB00,
  categoriesFrom10A00, categoriesFrom11A00, categoriesFrom1D400, categoriesFrom1EE00].flatten

end Hypermedia.Text
