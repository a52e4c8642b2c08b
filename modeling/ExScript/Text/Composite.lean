/-!
Characters that stand for others. A composite is a character with a mark on it, which can be put
together again; what a compatibility character stands for cannot.
-/

namespace ExScript.Text

structure CodeBlock where
  first : Nat
  width : Nat
  codes : Array Nat

def CodeBlock.codesOf? (block : CodeBlock) (code : Nat) : Option (List Nat) :=
  let start := (code - block.first) * block.width
  if block.first ≤ code && start < block.codes.size then
    some (block.codes.extract start (start + block.width)).toList
  else none

def codesIn? (blocks : Array CodeBlock) (code : Nat) : Option (List Nat) :=
  blocks.findSome? (·.codesOf? code)

def composites : Array CodeBlock := #[
  ⟨0xC0, 2, #[0x41, 0x300, 0x41, 0x301, 0x41, 0x302, 0x41, 0x303, 0x41, 0x308, 0x41, 0x30A]⟩,
  ⟨0xC7, 2, #[
    0x43, 0x327, 0x45, 0x300, 0x45, 0x301, 0x45, 0x302, 0x45, 0x308, 0x49, 0x300, 0x49, 0x301, 0x49,
    0x302, 0x49, 0x308]⟩,
  ⟨0xD1, 2, #[0x4E, 0x303, 0x4F, 0x300, 0x4F, 0x301, 0x4F, 0x302, 0x4F, 0x303, 0x4F, 0x308]⟩,
  ⟨0xD9, 2, #[0x55, 0x300, 0x55, 0x301, 0x55, 0x302, 0x55, 0x308, 0x59, 0x301]⟩,
  ⟨0xE0, 2, #[0x61, 0x300, 0x61, 0x301, 0x61, 0x302, 0x61, 0x303, 0x61, 0x308, 0x61, 0x30A]⟩,
  ⟨0xE7, 2, #[
    0x63, 0x327, 0x65, 0x300, 0x65, 0x301, 0x65, 0x302, 0x65, 0x308, 0x69, 0x300, 0x69, 0x301, 0x69,
    0x302, 0x69, 0x308]⟩,
  ⟨0xF1, 2, #[0x6E, 0x303, 0x6F, 0x300, 0x6F, 0x301, 0x6F, 0x302, 0x6F, 0x303, 0x6F, 0x308]⟩,
  ⟨0xF9, 2, #[0x75, 0x300, 0x75, 0x301, 0x75, 0x302, 0x75, 0x308, 0x79, 0x301]⟩,
  ⟨0xFF, 2, #[
    0x79, 0x308, 0x41, 0x304, 0x61, 0x304, 0x41, 0x306, 0x61, 0x306, 0x41, 0x328, 0x61, 0x328, 0x43,
    0x301, 0x63, 0x301, 0x43, 0x302, 0x63, 0x302, 0x43, 0x307, 0x63, 0x307, 0x43, 0x30C, 0x63,
    0x30C, 0x44, 0x30C, 0x64, 0x30C]⟩,
  ⟨0x112, 2, #[
    0x45, 0x304, 0x65, 0x304, 0x45, 0x306, 0x65, 0x306, 0x45, 0x307, 0x65, 0x307, 0x45, 0x328, 0x65,
    0x328, 0x45, 0x30C, 0x65, 0x30C, 0x47, 0x302, 0x67, 0x302, 0x47, 0x306, 0x67, 0x306, 0x47,
    0x307, 0x67, 0x307, 0x47, 0x327, 0x67, 0x327, 0x48, 0x302, 0x68, 0x302]⟩,
  ⟨0x128, 2, #[
    0x49, 0x303, 0x69, 0x303, 0x49, 0x304, 0x69, 0x304, 0x49, 0x306, 0x69, 0x306, 0x49, 0x328, 0x69,
    0x328, 0x49, 0x307]⟩,
  ⟨0x134, 2, #[0x4A, 0x302, 0x6A, 0x302, 0x4B, 0x327, 0x6B, 0x327]⟩,
  ⟨0x139, 2, #[0x4C, 0x301, 0x6C, 0x301, 0x4C, 0x327, 0x6C, 0x327, 0x4C, 0x30C, 0x6C, 0x30C]⟩,
  ⟨0x143, 2, #[0x4E, 0x301, 0x6E, 0x301, 0x4E, 0x327, 0x6E, 0x327, 0x4E, 0x30C, 0x6E, 0x30C]⟩,
  ⟨0x14C, 2, #[0x4F, 0x304, 0x6F, 0x304, 0x4F, 0x306, 0x6F, 0x306, 0x4F, 0x30B, 0x6F, 0x30B]⟩,
  ⟨0x154, 2, #[
    0x52, 0x301, 0x72, 0x301, 0x52, 0x327, 0x72, 0x327, 0x52, 0x30C, 0x72, 0x30C, 0x53, 0x301, 0x73,
    0x301, 0x53, 0x302, 0x73, 0x302, 0x53, 0x327, 0x73, 0x327, 0x53, 0x30C, 0x73, 0x30C, 0x54,
    0x327, 0x74, 0x327, 0x54, 0x30C, 0x74, 0x30C]⟩,
  ⟨0x168, 2, #[
    0x55, 0x303, 0x75, 0x303, 0x55, 0x304, 0x75, 0x304, 0x55, 0x306, 0x75, 0x306, 0x55, 0x30A, 0x75,
    0x30A, 0x55, 0x30B, 0x75, 0x30B, 0x55, 0x328, 0x75, 0x328, 0x57, 0x302, 0x77, 0x302, 0x59,
    0x302, 0x79, 0x302, 0x59, 0x308, 0x5A, 0x301, 0x7A, 0x301, 0x5A, 0x307, 0x7A, 0x307, 0x5A,
    0x30C, 0x7A, 0x30C]⟩,
  ⟨0x1A0, 2, #[0x4F, 0x31B, 0x6F, 0x31B]⟩, ⟨0x1AF, 2, #[0x55, 0x31B, 0x75, 0x31B]⟩,
  ⟨0x1CD, 2, #[
    0x41, 0x30C, 0x61, 0x30C, 0x49, 0x30C, 0x69, 0x30C, 0x4F, 0x30C, 0x6F, 0x30C, 0x55, 0x30C, 0x75,
    0x30C, 0xDC, 0x304, 0xFC, 0x304, 0xDC, 0x301, 0xFC, 0x301, 0xDC, 0x30C, 0xFC, 0x30C, 0xDC,
    0x300, 0xFC, 0x300]⟩,
  ⟨0x1DE, 2, #[0xC4, 0x304, 0xE4, 0x304, 0x226, 0x304, 0x227, 0x304, 0xC6, 0x304, 0xE6, 0x304]⟩,
  ⟨0x1E6, 2, #[
    0x47, 0x30C, 0x67, 0x30C, 0x4B, 0x30C, 0x6B, 0x30C, 0x4F, 0x328, 0x6F, 0x328, 0x1EA, 0x304,
    0x1EB, 0x304, 0x1B7, 0x30C, 0x292, 0x30C, 0x6A, 0x30C]⟩,
  ⟨0x1F4, 2, #[0x47, 0x301, 0x67, 0x301]⟩,
  ⟨0x1F8, 2, #[
    0x4E, 0x300, 0x6E, 0x300, 0xC5, 0x301, 0xE5, 0x301, 0xC6, 0x301, 0xE6, 0x301, 0xD8, 0x301, 0xF8,
    0x301, 0x41, 0x30F, 0x61, 0x30F, 0x41, 0x311, 0x61, 0x311, 0x45, 0x30F, 0x65, 0x30F, 0x45,
    0x311, 0x65, 0x311, 0x49, 0x30F, 0x69, 0x30F, 0x49, 0x311, 0x69, 0x311, 0x4F, 0x30F, 0x6F,
    0x30F, 0x4F, 0x311, 0x6F, 0x311, 0x52, 0x30F, 0x72, 0x30F, 0x52, 0x311, 0x72, 0x311, 0x55,
    0x30F, 0x75, 0x30F, 0x55, 0x311, 0x75, 0x311, 0x53, 0x326, 0x73, 0x326, 0x54, 0x326, 0x74,
    0x326]⟩,
  ⟨0x21E, 2, #[0x48, 0x30C, 0x68, 0x30C]⟩,
  ⟨0x226, 2, #[
    0x41, 0x307, 0x61, 0x307, 0x45, 0x327, 0x65, 0x327, 0xD6, 0x304, 0xF6, 0x304, 0xD5, 0x304, 0xF5,
    0x304, 0x4F, 0x307, 0x6F, 0x307, 0x22E, 0x304, 0x22F, 0x304, 0x59, 0x304, 0x79, 0x304]⟩,
  ⟨0x386, 2, #[0x391, 0x301]⟩, ⟨0x388, 2, #[0x395, 0x301, 0x397, 0x301, 0x399, 0x301]⟩,
  ⟨0x38C, 2, #[0x39F, 0x301]⟩, ⟨0x38E, 2, #[0x3A5, 0x301, 0x3A9, 0x301, 0x3CA, 0x301]⟩,
  ⟨0x3AA, 2, #[
    0x399, 0x308, 0x3A5, 0x308, 0x3B1, 0x301, 0x3B5, 0x301, 0x3B7, 0x301, 0x3B9, 0x301, 0x3CB,
    0x301]⟩,
  ⟨0x3CA, 2, #[0x3B9, 0x308, 0x3C5, 0x308, 0x3BF, 0x301, 0x3C5, 0x301, 0x3C9, 0x301]⟩,
  ⟨0x3D3, 2, #[0x3D2, 0x301, 0x3D2, 0x308]⟩, ⟨0x400, 2, #[0x415, 0x300, 0x415, 0x308]⟩,
  ⟨0x403, 2, #[0x413, 0x301]⟩, ⟨0x407, 2, #[0x406, 0x308]⟩,
  ⟨0x40C, 2, #[0x41A, 0x301, 0x418, 0x300, 0x423, 0x306]⟩, ⟨0x419, 2, #[0x418, 0x306]⟩,
  ⟨0x439, 2, #[0x438, 0x306]⟩, ⟨0x450, 2, #[0x435, 0x300, 0x435, 0x308]⟩,
  ⟨0x453, 2, #[0x433, 0x301]⟩, ⟨0x457, 2, #[0x456, 0x308]⟩,
  ⟨0x45C, 2, #[0x43A, 0x301, 0x438, 0x300, 0x443, 0x306]⟩,
  ⟨0x476, 2, #[0x474, 0x30F, 0x475, 0x30F]⟩, ⟨0x4C1, 2, #[0x416, 0x306, 0x436, 0x306]⟩,
  ⟨0x4D0, 2, #[0x410, 0x306, 0x430, 0x306, 0x410, 0x308, 0x430, 0x308]⟩,
  ⟨0x4D6, 2, #[0x415, 0x306, 0x435, 0x306]⟩,
  ⟨0x4DA, 2, #[0x4D8, 0x308, 0x4D9, 0x308, 0x416, 0x308, 0x436, 0x308, 0x417, 0x308, 0x437, 0x308]⟩,
  ⟨0x4E2, 2, #[0x418, 0x304, 0x438, 0x304, 0x418, 0x308, 0x438, 0x308, 0x41E, 0x308, 0x43E, 0x308]⟩,
  ⟨0x4EA, 2, #[
    0x4E8, 0x308, 0x4E9, 0x308, 0x42D, 0x308, 0x44D, 0x308, 0x423, 0x304, 0x443, 0x304, 0x423,
    0x308, 0x443, 0x308, 0x423, 0x30B, 0x443, 0x30B, 0x427, 0x308, 0x447, 0x308]⟩,
  ⟨0x4F8, 2, #[0x42B, 0x308, 0x44B, 0x308]⟩,
  ⟨0x622, 2, #[0x627, 0x653, 0x627, 0x654, 0x648, 0x654, 0x627, 0x655, 0x64A, 0x654]⟩,
  ⟨0x6C0, 2, #[0x6D5, 0x654]⟩, ⟨0x6C2, 2, #[0x6C1, 0x654]⟩, ⟨0x6D3, 2, #[0x6D2, 0x654]⟩,
  ⟨0x929, 2, #[0x928, 0x93C]⟩, ⟨0x931, 2, #[0x930, 0x93C]⟩, ⟨0x934, 2, #[0x933, 0x93C]⟩,
  ⟨0x9CB, 2, #[0x9C7, 0x9BE, 0x9C7, 0x9D7]⟩, ⟨0xB48, 2, #[0xB47, 0xB56]⟩,
  ⟨0xB4B, 2, #[0xB47, 0xB3E, 0xB47, 0xB57]⟩, ⟨0xB94, 2, #[0xB92, 0xBD7]⟩,
  ⟨0xBCA, 2, #[0xBC6, 0xBBE, 0xBC7, 0xBBE, 0xBC6, 0xBD7]⟩, ⟨0xC48, 2, #[0xC46, 0xC56]⟩,
  ⟨0xCC0, 2, #[0xCBF, 0xCD5]⟩, ⟨0xCC7, 2, #[0xCC6, 0xCD5, 0xCC6, 0xCD6]⟩,
  ⟨0xCCA, 2, #[0xCC6, 0xCC2, 0xCCA, 0xCD5]⟩,
  ⟨0xD4A, 2, #[0xD46, 0xD3E, 0xD47, 0xD3E, 0xD46, 0xD57]⟩, ⟨0xDDA, 2, #[0xDD9, 0xDCA]⟩,
  ⟨0xDDC, 2, #[0xDD9, 0xDCF, 0xDDC, 0xDCA, 0xDD9, 0xDDF]⟩, ⟨0x1026, 2, #[0x1025, 0x102E]⟩,
  ⟨0x1B06, 2, #[0x1B05, 0x1B35]⟩, ⟨0x1B08, 2, #[0x1B07, 0x1B35]⟩, ⟨0x1B0A, 2, #[0x1B09, 0x1B35]⟩,
  ⟨0x1B0C, 2, #[0x1B0B, 0x1B35]⟩, ⟨0x1B0E, 2, #[0x1B0D, 0x1B35]⟩, ⟨0x1B12, 2, #[0x1B11, 0x1B35]⟩,
  ⟨0x1B3B, 2, #[0x1B3A, 0x1B35]⟩, ⟨0x1B3D, 2, #[0x1B3C, 0x1B35]⟩,
  ⟨0x1B40, 2, #[0x1B3E, 0x1B35, 0x1B3F, 0x1B35]⟩, ⟨0x1B43, 2, #[0x1B42, 0x1B35]⟩,
  ⟨0x1E00, 2, #[
    0x41, 0x325, 0x61, 0x325, 0x42, 0x307, 0x62, 0x307, 0x42, 0x323, 0x62, 0x323, 0x42, 0x331, 0x62,
    0x331, 0xC7, 0x301, 0xE7, 0x301, 0x44, 0x307, 0x64, 0x307, 0x44, 0x323, 0x64, 0x323, 0x44,
    0x331, 0x64, 0x331, 0x44, 0x327, 0x64, 0x327, 0x44, 0x32D, 0x64, 0x32D, 0x112, 0x300, 0x113,
    0x300, 0x112, 0x301, 0x113, 0x301, 0x45, 0x32D, 0x65, 0x32D, 0x45, 0x330, 0x65, 0x330, 0x228,
    0x306, 0x229, 0x306, 0x46, 0x307, 0x66, 0x307, 0x47, 0x304, 0x67, 0x304, 0x48, 0x307, 0x68,
    0x307, 0x48, 0x323, 0x68, 0x323, 0x48, 0x308, 0x68, 0x308, 0x48, 0x327, 0x68, 0x327, 0x48,
    0x32E, 0x68, 0x32E, 0x49, 0x330, 0x69, 0x330, 0xCF, 0x301, 0xEF, 0x301, 0x4B, 0x301, 0x6B,
    0x301, 0x4B, 0x323, 0x6B, 0x323, 0x4B, 0x331, 0x6B, 0x331, 0x4C, 0x323, 0x6C, 0x323, 0x1E36,
    0x304, 0x1E37, 0x304, 0x4C, 0x331, 0x6C, 0x331, 0x4C, 0x32D, 0x6C, 0x32D, 0x4D, 0x301, 0x6D,
    0x301, 0x4D, 0x307, 0x6D, 0x307, 0x4D, 0x323, 0x6D, 0x323, 0x4E, 0x307, 0x6E, 0x307, 0x4E,
    0x323, 0x6E, 0x323, 0x4E, 0x331, 0x6E, 0x331, 0x4E, 0x32D, 0x6E, 0x32D, 0xD5, 0x301, 0xF5,
    0x301, 0xD5, 0x308, 0xF5, 0x308, 0x14C, 0x300, 0x14D, 0x300, 0x14C, 0x301, 0x14D, 0x301, 0x50,
    0x301, 0x70, 0x301, 0x50, 0x307, 0x70, 0x307, 0x52, 0x307, 0x72, 0x307, 0x52, 0x323, 0x72,
    0x323, 0x1E5A, 0x304, 0x1E5B, 0x304, 0x52, 0x331, 0x72, 0x331, 0x53, 0x307, 0x73, 0x307, 0x53,
    0x323, 0x73, 0x323, 0x15A, 0x307, 0x15B, 0x307, 0x160, 0x307, 0x161, 0x307, 0x1E62, 0x307,
    0x1E63, 0x307, 0x54, 0x307, 0x74, 0x307, 0x54, 0x323, 0x74, 0x323, 0x54, 0x331, 0x74, 0x331,
    0x54, 0x32D, 0x74, 0x32D, 0x55, 0x324, 0x75, 0x324, 0x55, 0x330, 0x75, 0x330, 0x55, 0x32D, 0x75,
    0x32D, 0x168, 0x301, 0x169, 0x301, 0x16A, 0x308, 0x16B, 0x308, 0x56, 0x303, 0x76, 0x303, 0x56,
    0x323, 0x76, 0x323, 0x57, 0x300, 0x77, 0x300, 0x57, 0x301, 0x77, 0x301, 0x57, 0x308, 0x77,
    0x308, 0x57, 0x307, 0x77, 0x307, 0x57, 0x323, 0x77, 0x323, 0x58, 0x307, 0x78, 0x307, 0x58,
    0x308, 0x78, 0x308, 0x59, 0x307, 0x79, 0x307, 0x5A, 0x302, 0x7A, 0x302, 0x5A, 0x323, 0x7A,
    0x323, 0x5A, 0x331, 0x7A, 0x331, 0x68, 0x331, 0x74, 0x308, 0x77, 0x30A, 0x79, 0x30A]⟩,
  ⟨0x1E9B, 2, #[0x17F, 0x307]⟩,
  ⟨0x1EA0, 2, #[
    0x41, 0x323, 0x61, 0x323, 0x41, 0x309, 0x61, 0x309, 0xC2, 0x301, 0xE2, 0x301, 0xC2, 0x300, 0xE2,
    0x300, 0xC2, 0x309, 0xE2, 0x309, 0xC2, 0x303, 0xE2, 0x303, 0x1EA0, 0x302, 0x1EA1, 0x302, 0x102,
    0x301, 0x103, 0x301, 0x102, 0x300, 0x103, 0x300, 0x102, 0x309, 0x103, 0x309, 0x102, 0x303,
    0x103, 0x303, 0x1EA0, 0x306, 0x1EA1, 0x306, 0x45, 0x323, 0x65, 0x323, 0x45, 0x309, 0x65, 0x309,
    0x45, 0x303, 0x65, 0x303, 0xCA, 0x301, 0xEA, 0x301, 0xCA, 0x300, 0xEA, 0x300, 0xCA, 0x309, 0xEA,
    0x309, 0xCA, 0x303, 0xEA, 0x303, 0x1EB8, 0x302, 0x1EB9, 0x302, 0x49, 0x309, 0x69, 0x309, 0x49,
    0x323, 0x69, 0x323, 0x4F, 0x323, 0x6F, 0x323, 0x4F, 0x309, 0x6F, 0x309, 0xD4, 0x301, 0xF4,
    0x301, 0xD4, 0x300, 0xF4, 0x300, 0xD4, 0x309, 0xF4, 0x309, 0xD4, 0x303, 0xF4, 0x303, 0x1ECC,
    0x302, 0x1ECD, 0x302, 0x1A0, 0x301, 0x1A1, 0x301, 0x1A0, 0x300, 0x1A1, 0x300, 0x1A0, 0x309,
    0x1A1, 0x309, 0x1A0, 0x303, 0x1A1, 0x303, 0x1A0, 0x323, 0x1A1, 0x323, 0x55, 0x323, 0x75, 0x323,
    0x55, 0x309, 0x75, 0x309, 0x1AF, 0x301, 0x1B0, 0x301, 0x1AF, 0x300, 0x1B0, 0x300, 0x1AF, 0x309,
    0x1B0, 0x309, 0x1AF, 0x303, 0x1B0, 0x303, 0x1AF, 0x323, 0x1B0, 0x323, 0x59, 0x300, 0x79, 0x300,
    0x59, 0x323, 0x79, 0x323, 0x59, 0x309, 0x79, 0x309, 0x59, 0x303, 0x79, 0x303]⟩,
  ⟨0x1F00, 2, #[
    0x3B1, 0x313, 0x3B1, 0x314, 0x1F00, 0x300, 0x1F01, 0x300, 0x1F00, 0x301, 0x1F01, 0x301, 0x1F00,
    0x342, 0x1F01, 0x342, 0x391, 0x313, 0x391, 0x314, 0x1F08, 0x300, 0x1F09, 0x300, 0x1F08, 0x301,
    0x1F09, 0x301, 0x1F08, 0x342, 0x1F09, 0x342, 0x3B5, 0x313, 0x3B5, 0x314, 0x1F10, 0x300, 0x1F11,
    0x300, 0x1F10, 0x301, 0x1F11, 0x301]⟩,
  ⟨0x1F18, 2, #[
    0x395, 0x313, 0x395, 0x314, 0x1F18, 0x300, 0x1F19, 0x300, 0x1F18, 0x301, 0x1F19, 0x301]⟩,
  ⟨0x1F20, 2, #[
    0x3B7, 0x313, 0x3B7, 0x314, 0x1F20, 0x300, 0x1F21, 0x300, 0x1F20, 0x301, 0x1F21, 0x301, 0x1F20,
    0x342, 0x1F21, 0x342, 0x397, 0x313, 0x397, 0x314, 0x1F28, 0x300, 0x1F29, 0x300, 0x1F28, 0x301,
    0x1F29, 0x301, 0x1F28, 0x342, 0x1F29, 0x342, 0x3B9, 0x313, 0x3B9, 0x314, 0x1F30, 0x300, 0x1F31,
    0x300, 0x1F30, 0x301, 0x1F31, 0x301, 0x1F30, 0x342, 0x1F31, 0x342, 0x399, 0x313, 0x399, 0x314,
    0x1F38, 0x300, 0x1F39, 0x300, 0x1F38, 0x301, 0x1F39, 0x301, 0x1F38, 0x342, 0x1F39, 0x342, 0x3BF,
    0x313, 0x3BF, 0x314, 0x1F40, 0x300, 0x1F41, 0x300, 0x1F40, 0x301, 0x1F41, 0x301]⟩,
  ⟨0x1F48, 2, #[
    0x39F, 0x313, 0x39F, 0x314, 0x1F48, 0x300, 0x1F49, 0x300, 0x1F48, 0x301, 0x1F49, 0x301]⟩,
  ⟨0x1F50, 2, #[
    0x3C5, 0x313, 0x3C5, 0x314, 0x1F50, 0x300, 0x1F51, 0x300, 0x1F50, 0x301, 0x1F51, 0x301, 0x1F50,
    0x342, 0x1F51, 0x342]⟩,
  ⟨0x1F59, 2, #[0x3A5, 0x314]⟩, ⟨0x1F5B, 2, #[0x1F59, 0x300]⟩, ⟨0x1F5D, 2, #[0x1F59, 0x301]⟩,
  ⟨0x1F5F, 2, #[
    0x1F59, 0x342, 0x3C9, 0x313, 0x3C9, 0x314, 0x1F60, 0x300, 0x1F61, 0x300, 0x1F60, 0x301, 0x1F61,
    0x301, 0x1F60, 0x342, 0x1F61, 0x342, 0x3A9, 0x313, 0x3A9, 0x314, 0x1F68, 0x300, 0x1F69, 0x300,
    0x1F68, 0x301, 0x1F69, 0x301, 0x1F68, 0x342, 0x1F69, 0x342, 0x3B1, 0x300]⟩,
  ⟨0x1F72, 2, #[0x3B5, 0x300]⟩, ⟨0x1F74, 2, #[0x3B7, 0x300]⟩, ⟨0x1F76, 2, #[0x3B9, 0x300]⟩,
  ⟨0x1F78, 2, #[0x3BF, 0x300]⟩, ⟨0x1F7A, 2, #[0x3C5, 0x300]⟩, ⟨0x1F7C, 2, #[0x3C9, 0x300]⟩,
  ⟨0x1F80, 2, #[
    0x1F00, 0x345, 0x1F01, 0x345, 0x1F02, 0x345, 0x1F03, 0x345, 0x1F04, 0x345, 0x1F05, 0x345,
    0x1F06, 0x345, 0x1F07, 0x345, 0x1F08, 0x345, 0x1F09, 0x345, 0x1F0A, 0x345, 0x1F0B, 0x345,
    0x1F0C, 0x345, 0x1F0D, 0x345, 0x1F0E, 0x345, 0x1F0F, 0x345, 0x1F20, 0x345, 0x1F21, 0x345,
    0x1F22, 0x345, 0x1F23, 0x345, 0x1F24, 0x345, 0x1F25, 0x345, 0x1F26, 0x345, 0x1F27, 0x345,
    0x1F28, 0x345, 0x1F29, 0x345, 0x1F2A, 0x345, 0x1F2B, 0x345, 0x1F2C, 0x345, 0x1F2D, 0x345,
    0x1F2E, 0x345, 0x1F2F, 0x345, 0x1F60, 0x345, 0x1F61, 0x345, 0x1F62, 0x345, 0x1F63, 0x345,
    0x1F64, 0x345, 0x1F65, 0x345, 0x1F66, 0x345, 0x1F67, 0x345, 0x1F68, 0x345, 0x1F69, 0x345,
    0x1F6A, 0x345, 0x1F6B, 0x345, 0x1F6C, 0x345, 0x1F6D, 0x345, 0x1F6E, 0x345, 0x1F6F, 0x345, 0x3B1,
    0x306, 0x3B1, 0x304, 0x1F70, 0x345, 0x3B1, 0x345, 0x3AC, 0x345]⟩,
  ⟨0x1FB6, 2, #[0x3B1, 0x342, 0x1FB6, 0x345, 0x391, 0x306, 0x391, 0x304, 0x391, 0x300]⟩,
  ⟨0x1FBC, 2, #[0x391, 0x345]⟩, ⟨0x1FC2, 2, #[0x1F74, 0x345, 0x3B7, 0x345, 0x3AE, 0x345]⟩,
  ⟨0x1FC6, 2, #[0x3B7, 0x342, 0x1FC6, 0x345, 0x395, 0x300]⟩, ⟨0x1FCA, 2, #[0x397, 0x300]⟩,
  ⟨0x1FCC, 2, #[0x397, 0x345]⟩, ⟨0x1FD0, 2, #[0x3B9, 0x306, 0x3B9, 0x304, 0x3CA, 0x300]⟩,
  ⟨0x1FD6, 2, #[0x3B9, 0x342, 0x3CA, 0x342, 0x399, 0x306, 0x399, 0x304, 0x399, 0x300]⟩,
  ⟨0x1FE0, 2, #[0x3C5, 0x306, 0x3C5, 0x304, 0x3CB, 0x300]⟩,
  ⟨0x1FE4, 2, #[
    0x3C1, 0x313, 0x3C1, 0x314, 0x3C5, 0x342, 0x3CB, 0x342, 0x3A5, 0x306, 0x3A5, 0x304, 0x3A5,
    0x300]⟩,
  ⟨0x1FEC, 2, #[0x3A1, 0x314]⟩, ⟨0x1FF2, 2, #[0x1F7C, 0x345, 0x3C9, 0x345, 0x3CE, 0x345]⟩,
  ⟨0x1FF6, 2, #[0x3C9, 0x342, 0x1FF6, 0x345, 0x39F, 0x300]⟩, ⟨0x1FFA, 2, #[0x3A9, 0x300]⟩,
  ⟨0x1FFC, 2, #[0x3A9, 0x345]⟩, ⟨0x304C, 2, #[0x304B, 0x3099]⟩, ⟨0x304E, 2, #[0x304D, 0x3099]⟩,
  ⟨0x3050, 2, #[0x304F, 0x3099]⟩, ⟨0x3052, 2, #[0x3051, 0x3099]⟩, ⟨0x3054, 2, #[0x3053, 0x3099]⟩,
  ⟨0x3056, 2, #[0x3055, 0x3099]⟩, ⟨0x3058, 2, #[0x3057, 0x3099]⟩, ⟨0x305A, 2, #[0x3059, 0x3099]⟩,
  ⟨0x305C, 2, #[0x305B, 0x3099]⟩, ⟨0x305E, 2, #[0x305D, 0x3099]⟩, ⟨0x3060, 2, #[0x305F, 0x3099]⟩,
  ⟨0x3062, 2, #[0x3061, 0x3099]⟩, ⟨0x3065, 2, #[0x3064, 0x3099]⟩, ⟨0x3067, 2, #[0x3066, 0x3099]⟩,
  ⟨0x3069, 2, #[0x3068, 0x3099]⟩, ⟨0x3070, 2, #[0x306F, 0x3099, 0x306F, 0x309A]⟩,
  ⟨0x3073, 2, #[0x3072, 0x3099, 0x3072, 0x309A]⟩, ⟨0x3076, 2, #[0x3075, 0x3099, 0x3075, 0x309A]⟩,
  ⟨0x3079, 2, #[0x3078, 0x3099, 0x3078, 0x309A]⟩, ⟨0x307C, 2, #[0x307B, 0x3099, 0x307B, 0x309A]⟩,
  ⟨0x3094, 2, #[0x3046, 0x3099]⟩, ⟨0x309E, 2, #[0x309D, 0x3099]⟩, ⟨0x30AC, 2, #[0x30AB, 0x3099]⟩,
  ⟨0x30AE, 2, #[0x30AD, 0x3099]⟩, ⟨0x30B0, 2, #[0x30AF, 0x3099]⟩, ⟨0x30B2, 2, #[0x30B1, 0x3099]⟩,
  ⟨0x30B4, 2, #[0x30B3, 0x3099]⟩, ⟨0x30B6, 2, #[0x30B5, 0x3099]⟩, ⟨0x30B8, 2, #[0x30B7, 0x3099]⟩,
  ⟨0x30BA, 2, #[0x30B9, 0x3099]⟩, ⟨0x30BC, 2, #[0x30BB, 0x3099]⟩, ⟨0x30BE, 2, #[0x30BD, 0x3099]⟩,
  ⟨0x30C0, 2, #[0x30BF, 0x3099]⟩, ⟨0x30C2, 2, #[0x30C1, 0x3099]⟩, ⟨0x30C5, 2, #[0x30C4, 0x3099]⟩,
  ⟨0x30C7, 2, #[0x30C6, 0x3099]⟩, ⟨0x30C9, 2, #[0x30C8, 0x3099]⟩,
  ⟨0x30D0, 2, #[0x30CF, 0x3099, 0x30CF, 0x309A]⟩, ⟨0x30D3, 2, #[0x30D2, 0x3099, 0x30D2, 0x309A]⟩,
  ⟨0x30D6, 2, #[0x30D5, 0x3099, 0x30D5, 0x309A]⟩, ⟨0x30D9, 2, #[0x30D8, 0x3099, 0x30D8, 0x309A]⟩,
  ⟨0x30DC, 2, #[0x30DB, 0x3099, 0x30DB, 0x309A]⟩, ⟨0x30F4, 2, #[0x30A6, 0x3099]⟩,
  ⟨0x30F7, 2, #[0x30EF, 0x3099, 0x30F0, 0x3099, 0x30F1, 0x3099, 0x30F2, 0x3099]⟩,
  ⟨0x30FE, 2, #[0x30FD, 0x3099]⟩, ⟨0x1109A, 2, #[0x11099, 0x110BA]⟩,
  ⟨0x1109C, 2, #[0x1109B, 0x110BA]⟩, ⟨0x110AB, 2, #[0x110A5, 0x110BA]⟩,
  ⟨0x1112E, 2, #[0x11131, 0x11127, 0x11132, 0x11127]⟩,
  ⟨0x1134B, 2, #[0x11347, 0x1133E, 0x11347, 0x11357]⟩,
  ⟨0x114BB, 2, #[0x114B9, 0x114BA, 0x114B9, 0x114B0]⟩, ⟨0x114BE, 2, #[0x114B9, 0x114BD]⟩,
  ⟨0x115BA, 2, #[0x115B8, 0x115AF, 0x115B9, 0x115AF]⟩, ⟨0x11938, 2, #[0x11935, 0x11930]⟩]

def compositeParts? (code : Nat) : Option (List Nat) :=
  codesIn? composites code

def pairIndex? (first second : Nat) : (index : Nat) → List Nat → Option Nat
  | index, one :: other :: rest =>
      if one = first && other = second then some index
      else pairIndex? first second (index + 1) rest
  | _, _ => none

def compositeOf? (first second : Nat) : Option Nat :=
  composites.findSome? fun block =>
    (pairIndex? first second 0 block.codes.toList).map (block.first + ·)

end ExScript.Text
