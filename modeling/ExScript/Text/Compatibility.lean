import ExScript.Text.Case
import ExScript.Text.Composite

/-!
Characters that are kept for compatibility: forms, widths and positions of others, and ligatures.
-/

namespace ExScript.Text

def shiftedForms : Array CaseRun := #[
  ⟨0x1D33, 0x1D3A, 1, -7404⟩, ⟨0x1D5D, 0x1D5F, 1, -6571⟩, ⟨0x1DA4, 0x1DA6, 1, -6972⟩,
  ⟨0x1DAE, 0x1DB1, 1, -6972⟩, ⟨0x1DBC, 0x1DBE, 1, -6956⟩, ⟨0x2096, 0x2099, 1, -8235⟩,
  ⟨0x2119, 0x211B, 1, -8393⟩, ⟨0x2135, 0x2138, 1, -7013⟩, ⟨0x3137, 0x3139, 1, -8244⟩,
  ⟨0x313A, 0x313F, 1, -8074⟩, ⟨0x3141, 0x3143, 1, -8251⟩, ⟨0x3145, 0x314E, 1, -8252⟩,
  ⟨0x314F, 0x3163, 1, -8174⟩, ⟨0x3178, 0x317C, 1, -8269⟩, ⟨0x3184, 0x3186, 1, -8237⟩,
  ⟨0xFB24, 0xFB26, 1, -62793⟩, ⟨0xFF10, 0xFF19, 1, -65248⟩, ⟨0xFF21, 0xFF3A, 1, -65248⟩,
  ⟨0xFF41, 0xFF5A, 1, -65248⟩, ⟨0xFF85, 0xFF8A, 1, -52923⟩, ⟨0xFF8F, 0xFF93, 1, -52913⟩,
  ⟨0xFF96, 0xFF9B, 1, -52910⟩, ⟨0xFFA7, 0xFFA9, 1, -61092⟩, ⟨0xFFAA, 0xFFAF, 1, -60922⟩,
  ⟨0xFFB1, 0xFFB3, 1, -61099⟩, ⟨0xFFB5, 0xFFBE, 1, -61100⟩, ⟨0xFFC2, 0xFFC7, 1, -61025⟩,
  ⟨0xFFCA, 0xFFCF, 1, -61027⟩, ⟨0xFFD2, 0xFFD7, 1, -61029⟩, ⟨0xFFDA, 0xFFDC, 1, -61031⟩,
  ⟨0x107B6, 0x107B8, 1, -67062⟩, ⟨0x1D400, 0x1D419, 1, -119743⟩, ⟨0x1D41A, 0x1D433, 1, -119737⟩,
  ⟨0x1D434, 0x1D44D, 1, -119795⟩, ⟨0x1D44E, 0x1D454, 1, -119789⟩, ⟨0x1D456, 0x1D467, 1, -119789⟩,
  ⟨0x1D468, 0x1D481, 1, -119847⟩, ⟨0x1D482, 0x1D49B, 1, -119841⟩, ⟨0x1D4A9, 0x1D4AC, 1, -119899⟩,
  ⟨0x1D4AE, 0x1D4B5, 1, -119899⟩, ⟨0x1D4B6, 0x1D4B9, 1, -119893⟩, ⟨0x1D4BD, 0x1D4C3, 1, -119893⟩,
  ⟨0x1D4C5, 0x1D4CF, 1, -119893⟩, ⟨0x1D4D0, 0x1D4E9, 1, -119951⟩, ⟨0x1D4EA, 0x1D503, 1, -119945⟩,
  ⟨0x1D507, 0x1D50A, 1, -120003⟩, ⟨0x1D50D, 0x1D514, 1, -120003⟩, ⟨0x1D516, 0x1D51C, 1, -120003⟩,
  ⟨0x1D51E, 0x1D537, 1, -119997⟩, ⟨0x1D53B, 0x1D53E, 1, -120055⟩, ⟨0x1D540, 0x1D544, 1, -120055⟩,
  ⟨0x1D54A, 0x1D550, 1, -120055⟩, ⟨0x1D552, 0x1D56B, 1, -120049⟩, ⟨0x1D56C, 0x1D585, 1, -120107⟩,
  ⟨0x1D586, 0x1D59F, 1, -120101⟩, ⟨0x1D5A0, 0x1D5B9, 1, -120159⟩, ⟨0x1D5BA, 0x1D5D3, 1, -120153⟩,
  ⟨0x1D5D4, 0x1D5ED, 1, -120211⟩, ⟨0x1D5EE, 0x1D607, 1, -120205⟩, ⟨0x1D608, 0x1D621, 1, -120263⟩,
  ⟨0x1D622, 0x1D63B, 1, -120257⟩, ⟨0x1D63C, 0x1D655, 1, -120315⟩, ⟨0x1D656, 0x1D66F, 1, -120309⟩,
  ⟨0x1D670, 0x1D689, 1, -120367⟩, ⟨0x1D68A, 0x1D6A3, 1, -120361⟩, ⟨0x1D6A8, 0x1D6B8, 1, -119575⟩,
  ⟨0x1D6BA, 0x1D6C0, 1, -119575⟩, ⟨0x1D6C2, 0x1D6DA, 1, -119569⟩, ⟨0x1D6E2, 0x1D6F2, 1, -119633⟩,
  ⟨0x1D6F4, 0x1D6FA, 1, -119633⟩, ⟨0x1D6FC, 0x1D714, 1, -119627⟩, ⟨0x1D71C, 0x1D72C, 1, -119691⟩,
  ⟨0x1D72E, 0x1D734, 1, -119691⟩, ⟨0x1D736, 0x1D74E, 1, -119685⟩, ⟨0x1D756, 0x1D766, 1, -119749⟩,
  ⟨0x1D768, 0x1D76E, 1, -119749⟩, ⟨0x1D770, 0x1D788, 1, -119743⟩, ⟨0x1D790, 0x1D7A0, 1, -119807⟩,
  ⟨0x1D7A2, 0x1D7A8, 1, -119807⟩, ⟨0x1D7AA, 0x1D7C2, 1, -119801⟩, ⟨0x1D7CE, 0x1D7D7, 1, -120734⟩,
  ⟨0x1D7D8, 0x1D7E1, 1, -120744⟩, ⟨0x1D7E2, 0x1D7EB, 1, -120754⟩, ⟨0x1D7EC, 0x1D7F5, 1, -120764⟩,
  ⟨0x1D7F6, 0x1D7FF, 1, -120774⟩, ⟨0x1E030, 0x1E038, 1, -121856⟩, ⟨0x1E039, 0x1E03B, 1, -121855⟩,
  ⟨0x1E03C, 0x1E046, 1, -121854⟩, ⟨0x1E051, 0x1E059, 1, -121889⟩, ⟨0x1E05F, 0x1E064, 1, -121884⟩,
  ⟨0x1EE0A, 0x1EE0D, 1, -124871⟩, ⟨0x1EE2A, 0x1EE2D, 1, -124903⟩, ⟨0x1EE8B, 0x1EE8D, 1, -124999⟩,
  ⟨0x1EEAB, 0x1EEAD, 1, -125031⟩, ⟨0x1FBF0, 0x1FBF9, 1, -129984⟩]

def letterForms : Array CodeBlock := #[
  ⟨0xAA, 1, #[0x61]⟩, ⟨0xB5, 1, #[0x3BC]⟩, ⟨0xBA, 1, #[0x6F]⟩,
  ⟨0x132, 2, #[0x49, 0x4A, 0x69, 0x6A]⟩, ⟨0x13F, 2, #[0x4C, 0xB7, 0x6C, 0xB7]⟩,
  ⟨0x149, 2, #[0x2BC, 0x6E]⟩, ⟨0x17F, 1, #[0x73]⟩,
  ⟨0x1C4, 3, #[0x44, 0x5A, 0x30C, 0x44, 0x7A, 0x30C, 0x64, 0x7A, 0x30C]⟩,
  ⟨0x1C7, 2, #[0x4C, 0x4A, 0x4C, 0x6A, 0x6C, 0x6A, 0x4E, 0x4A, 0x4E, 0x6A, 0x6E, 0x6A]⟩,
  ⟨0x1F1, 2, #[0x44, 0x5A, 0x44, 0x7A, 0x64, 0x7A]⟩,
  ⟨0x2B0, 1, #[0x68, 0x266, 0x6A, 0x72, 0x279, 0x27B, 0x281, 0x77, 0x79]⟩,
  ⟨0x2E0, 1, #[0x263, 0x6C, 0x73, 0x78, 0x295]⟩, ⟨0x340, 1, #[0x300, 0x301, 0x342, 0x313]⟩,
  ⟨0x344, 2, #[0x308, 0x301]⟩, ⟨0x374, 1, #[0x2B9]⟩, ⟨0x387, 1, #[0xB7]⟩,
  ⟨0x3D0, 1, #[0x3B2, 0x3B8, 0x3A5]⟩, ⟨0x3D5, 1, #[0x3C6, 0x3C0]⟩,
  ⟨0x3F0, 1, #[0x3BA, 0x3C1, 0x3C2, 0x3F3, 0x398, 0x3B5]⟩, ⟨0x3F9, 1, #[0x3A3]⟩,
  ⟨0x587, 2, #[0x565, 0x582]⟩,
  ⟨0x675, 2, #[0x627, 0x674, 0x648, 0x674, 0x6C7, 0x674, 0x64A, 0x674]⟩,
  ⟨0x958, 2, #[
    0x915, 0x93C, 0x916, 0x93C, 0x917, 0x93C, 0x91C, 0x93C, 0x921, 0x93C, 0x922, 0x93C, 0x92B,
    0x93C, 0x92F, 0x93C]⟩,
  ⟨0x9DC, 2, #[0x9A1, 0x9BC, 0x9A2, 0x9BC]⟩, ⟨0x9DF, 2, #[0x9AF, 0x9BC]⟩,
  ⟨0xA33, 2, #[0xA32, 0xA3C]⟩, ⟨0xA36, 2, #[0xA38, 0xA3C]⟩,
  ⟨0xA59, 2, #[0xA16, 0xA3C, 0xA17, 0xA3C, 0xA1C, 0xA3C]⟩, ⟨0xA5E, 2, #[0xA2B, 0xA3C]⟩,
  ⟨0xB5C, 2, #[0xB21, 0xB3C, 0xB22, 0xB3C]⟩, ⟨0xE33, 2, #[0xE4D, 0xE32]⟩,
  ⟨0xEB3, 2, #[0xECD, 0xEB2]⟩, ⟨0xEDC, 2, #[0xEAB, 0xE99, 0xEAB, 0xEA1]⟩,
  ⟨0xF43, 2, #[0xF42, 0xFB7]⟩, ⟨0xF4D, 2, #[0xF4C, 0xFB7]⟩, ⟨0xF52, 2, #[0xF51, 0xFB7]⟩,
  ⟨0xF57, 2, #[0xF56, 0xFB7]⟩, ⟨0xF5C, 2, #[0xF5B, 0xFB7]⟩, ⟨0xF69, 2, #[0xF40, 0xFB5]⟩,
  ⟨0xF73, 2, #[0xF71, 0xF72]⟩, ⟨0xF75, 2, #[0xF71, 0xF74, 0xFB2, 0xF80]⟩,
  ⟨0xF77, 3, #[0xFB2, 0xF71, 0xF80]⟩, ⟨0xF78, 2, #[0xFB3, 0xF80]⟩,
  ⟨0xF79, 3, #[0xFB3, 0xF71, 0xF80]⟩, ⟨0xF81, 2, #[0xF71, 0xF80]⟩, ⟨0xF93, 2, #[0xF92, 0xFB7]⟩,
  ⟨0xF9D, 2, #[0xF9C, 0xFB7]⟩, ⟨0xFA2, 2, #[0xFA1, 0xFB7]⟩, ⟨0xFA7, 2, #[0xFA6, 0xFB7]⟩,
  ⟨0xFAC, 2, #[0xFAB, 0xFB7]⟩, ⟨0xFB9, 2, #[0xF90, 0xFB5]⟩, ⟨0x10FC, 1, #[0x10DC]⟩,
  ⟨0x1D2C, 1, #[0x41, 0xC6, 0x42, 0x1D2F, 0x44, 0x45, 0x18E]⟩,
  ⟨0x1D3C, 1, #[
    0x4F, 0x222, 0x50, 0x52, 0x54, 0x55, 0x57, 0x61, 0x250, 0x251, 0x1D02, 0x62, 0x64, 0x65, 0x259,
    0x25B, 0x25C, 0x67, 0x1D4E, 0x6B, 0x6D, 0x14B, 0x6F, 0x254, 0x1D16, 0x1D17, 0x70, 0x74, 0x75,
    0x1D1D, 0x26F, 0x76, 0x1D25]⟩,
  ⟨0x1D60, 1, #[0x3C6, 0x3C7, 0x69, 0x72, 0x75, 0x76, 0x3B2, 0x3B3, 0x3C1, 0x3C6, 0x3C7]⟩,
  ⟨0x1D78, 1, #[0x43D]⟩, ⟨0x1D9B, 1, #[0x252, 0x63, 0x255, 0xF0, 0x25C, 0x66, 0x25F, 0x261, 0x265]⟩,
  ⟨0x1DA7, 1, #[0x1D7B, 0x29D, 0x26D, 0x1D85, 0x29F, 0x271, 0x270]⟩,
  ⟨0x1DB2, 1, #[0x278, 0x282, 0x283, 0x1AB, 0x289, 0x28A, 0x1D1C, 0x28B, 0x28C, 0x7A]⟩,
  ⟨0x1DBF, 1, #[0x3B8]⟩, ⟨0x1E9A, 2, #[0x61, 0x2BE]⟩, ⟨0x1F71, 2, #[0x3B1, 0x301]⟩,
  ⟨0x1F73, 2, #[0x3B5, 0x301]⟩, ⟨0x1F75, 2, #[0x3B7, 0x301]⟩, ⟨0x1F77, 2, #[0x3B9, 0x301]⟩,
  ⟨0x1F79, 2, #[0x3BF, 0x301]⟩, ⟨0x1F7B, 2, #[0x3C5, 0x301]⟩, ⟨0x1F7D, 2, #[0x3C9, 0x301]⟩,
  ⟨0x1FBB, 2, #[0x391, 0x301]⟩, ⟨0x1FBE, 1, #[0x3B9]⟩, ⟨0x1FC9, 2, #[0x395, 0x301]⟩,
  ⟨0x1FCB, 2, #[0x397, 0x301]⟩, ⟨0x1FD3, 3, #[0x3B9, 0x308, 0x301]⟩, ⟨0x1FDB, 2, #[0x399, 0x301]⟩,
  ⟨0x1FE3, 3, #[0x3C5, 0x308, 0x301]⟩, ⟨0x1FEB, 2, #[0x3A5, 0x301]⟩, ⟨0x1FF9, 2, #[0x39F, 0x301]⟩,
  ⟨0x1FFB, 2, #[0x3A9, 0x301]⟩, ⟨0x2071, 1, #[0x69]⟩, ⟨0x207F, 1, #[0x6E]⟩,
  ⟨0x2090, 1, #[0x61, 0x65, 0x6F, 0x78, 0x259, 0x68]⟩, ⟨0x209A, 1, #[0x70, 0x73, 0x74]⟩,
  ⟨0x2102, 1, #[0x43]⟩,
  ⟨0x2107, 1, #[
    0x190, 0x2108, 0x2109, 0x67, 0x48, 0x48, 0x48, 0x68, 0x127, 0x49, 0x49, 0x4C, 0x6C, 0x2114,
    0x4E]⟩,
  ⟨0x211C, 1, #[0x52, 0x52]⟩, ⟨0x2124, 1, #[0x5A, 0x2125, 0x3A9, 0x2127, 0x5A, 0x2129, 0x4B]⟩,
  ⟨0x212B, 2, #[0x41, 0x30A]⟩,
  ⟨0x212C, 1, #[0x42, 0x43, 0x212E, 0x65, 0x45, 0x46, 0x2132, 0x4D, 0x6F]⟩,
  ⟨0x2139, 1, #[0x69, 0x213A, 0x213B, 0x3C0, 0x3B3, 0x393, 0x3A0]⟩,
  ⟨0x2145, 1, #[0x44, 0x64, 0x65, 0x69, 0x6A]⟩, ⟨0x2160, 1, #[0x49]⟩, ⟨0x2161, 2, #[0x49, 0x49]⟩,
  ⟨0x2162, 3, #[0x49, 0x49, 0x49]⟩, ⟨0x2163, 2, #[0x49, 0x56]⟩, ⟨0x2164, 1, #[0x56]⟩,
  ⟨0x2165, 2, #[0x56, 0x49]⟩, ⟨0x2166, 3, #[0x56, 0x49, 0x49]⟩,
  ⟨0x2167, 4, #[0x56, 0x49, 0x49, 0x49]⟩, ⟨0x2168, 2, #[0x49, 0x58]⟩, ⟨0x2169, 1, #[0x58]⟩,
  ⟨0x216A, 2, #[0x58, 0x49]⟩, ⟨0x216B, 3, #[0x58, 0x49, 0x49]⟩,
  ⟨0x216C, 1, #[0x4C, 0x43, 0x44, 0x4D, 0x69]⟩, ⟨0x2171, 2, #[0x69, 0x69]⟩,
  ⟨0x2172, 3, #[0x69, 0x69, 0x69]⟩, ⟨0x2173, 2, #[0x69, 0x76]⟩, ⟨0x2174, 1, #[0x76]⟩,
  ⟨0x2175, 2, #[0x76, 0x69]⟩, ⟨0x2176, 3, #[0x76, 0x69, 0x69]⟩,
  ⟨0x2177, 4, #[0x76, 0x69, 0x69, 0x69]⟩, ⟨0x2178, 2, #[0x69, 0x78]⟩, ⟨0x2179, 1, #[0x78]⟩,
  ⟨0x217A, 2, #[0x78, 0x69]⟩, ⟨0x217B, 3, #[0x78, 0x69, 0x69]⟩,
  ⟨0x217C, 1, #[0x6C, 0x63, 0x64, 0x6D]⟩, ⟨0x2C7C, 1, #[0x6A, 0x56]⟩, ⟨0x2D6F, 1, #[0x2D61]⟩,
  ⟨0x3038, 1, #[0x5341, 0x5344, 0x5345]⟩, ⟨0x309F, 2, #[0x3088, 0x308A]⟩,
  ⟨0x30FF, 2, #[0x30B3, 0x30C8]⟩, ⟨0x3131, 1, #[0x1100, 0x1101, 0x11AA, 0x1102, 0x11AC, 0x11AD]⟩,
  ⟨0x3140, 1, #[0x111A]⟩, ⟨0x3144, 1, #[0x1121]⟩,
  ⟨0x3164, 1, #[
    0x1160, 0x1114, 0x1115, 0x11C7, 0x11C8, 0x11CC, 0x11CE, 0x11D3, 0x11D7, 0x11D9, 0x111C, 0x11DD,
    0x11DF, 0x111D, 0x111E, 0x1120, 0x1122, 0x1123, 0x1127, 0x1129]⟩,
  ⟨0x317D, 1, #[0x1132, 0x1136, 0x1140, 0x1147, 0x114C, 0x11F1, 0x11F2]⟩,
  ⟨0x3187, 1, #[0x1184, 0x1185, 0x1188, 0x1191, 0x1192, 0x1194, 0x119E, 0x11A1]⟩,
  ⟨0xA69C, 1, #[0x44A, 0x44C]⟩, ⟨0xA770, 1, #[0xA76F]⟩, ⟨0xA7F2, 1, #[0x43, 0x46, 0x51]⟩,
  ⟨0xA7F8, 1, #[0x126, 0x153]⟩, ⟨0xAB5C, 1, #[0xA727, 0xAB37, 0x26B, 0xAB52]⟩,
  ⟨0xAB69, 1, #[0x28D]⟩]

def ideographForms : Array CodeBlock := #[
  ⟨0xF900, 1, #[
    0x8C48, 0x66F4, 0x8ECA, 0x8CC8, 0x6ED1, 0x4E32, 0x53E5, 0x9F9C, 0x9F9C, 0x5951, 0x91D1, 0x5587,
    0x5948, 0x61F6, 0x7669, 0x7F85, 0x863F, 0x87BA, 0x88F8, 0x908F, 0x6A02, 0x6D1B, 0x70D9, 0x73DE,
    0x843D, 0x916A, 0x99F1, 0x4E82, 0x5375, 0x6B04, 0x721B, 0x862D, 0x9E1E, 0x5D50, 0x6FEB, 0x85CD,
    0x8964, 0x62C9, 0x81D8, 0x881F, 0x5ECA, 0x6717, 0x6D6A, 0x72FC, 0x90CE, 0x4F86, 0x51B7, 0x52DE,
    0x64C4, 0x6AD3, 0x7210, 0x76E7, 0x8001, 0x8606, 0x865C, 0x8DEF, 0x9732, 0x9B6F, 0x9DFA, 0x788C,
    0x797F, 0x7DA0, 0x83C9, 0x9304, 0x9E7F, 0x8AD6, 0x58DF, 0x5F04, 0x7C60, 0x807E, 0x7262, 0x78CA,
    0x8CC2, 0x96F7, 0x58D8, 0x5C62, 0x6A13, 0x6DDA, 0x6F0F, 0x7D2F, 0x7E37, 0x964B, 0x52D2, 0x808B,
    0x51DC, 0x51CC, 0x7A1C, 0x7DBE, 0x83F1, 0x9675, 0x8B80, 0x62CF, 0x6A02, 0x8AFE, 0x4E39, 0x5BE7,
    0x6012, 0x7387, 0x7570, 0x5317, 0x78FB, 0x4FBF, 0x5FA9, 0x4E0D, 0x6CCC, 0x6578, 0x7D22, 0x53C3,
    0x585E, 0x7701, 0x8449, 0x8AAA, 0x6BBA, 0x8FB0, 0x6C88, 0x62FE, 0x82E5, 0x63A0, 0x7565, 0x4EAE,
    0x5169, 0x51C9, 0x6881, 0x7CE7, 0x826F, 0x8AD2, 0x91CF, 0x52F5, 0x5442, 0x5973, 0x5EEC, 0x65C5,
    0x6FFE, 0x792A, 0x95AD, 0x9A6A, 0x9E97, 0x9ECE, 0x529B, 0x66C6, 0x6B77, 0x8F62, 0x5E74, 0x6190,
    0x6200, 0x649A, 0x6F23, 0x7149, 0x7489, 0x79CA, 0x7DF4, 0x806F, 0x8F26, 0x84EE, 0x9023, 0x934A,
    0x5217, 0x52A3, 0x54BD, 0x70C8, 0x88C2, 0x8AAA, 0x5EC9, 0x5FF5, 0x637B, 0x6BAE, 0x7C3E, 0x7375,
    0x4EE4, 0x56F9, 0x5BE7, 0x5DBA, 0x601C, 0x73B2, 0x7469, 0x7F9A, 0x8046, 0x9234, 0x96F6, 0x9748,
    0x9818, 0x4F8B, 0x79AE, 0x91B4, 0x96B8, 0x60E1, 0x4E86, 0x50DA, 0x5BEE, 0x5C3F, 0x6599, 0x6A02,
    0x71CE, 0x7642, 0x84FC, 0x907C, 0x9F8D, 0x6688, 0x962E, 0x5289, 0x677B, 0x67F3, 0x6D41, 0x6E9C,
    0x7409, 0x7559, 0x786B, 0x7D10, 0x985E, 0x516D, 0x622E, 0x9678, 0x502B, 0x5D19, 0x6DEA, 0x8F2A,
    0x5F8B, 0x6144, 0x6817, 0x7387, 0x9686, 0x5229, 0x540F, 0x5C65, 0x6613, 0x674E, 0x68A8, 0x6CE5,
    0x7406, 0x75E2, 0x7F79, 0x88CF, 0x88E1, 0x91CC, 0x96E2, 0x533F, 0x6EBA, 0x541D, 0x71D0, 0x7498,
    0x85FA, 0x96A3, 0x9C57, 0x9E9F, 0x6797, 0x6DCB, 0x81E8, 0x7ACB, 0x7B20, 0x7C92, 0x72C0, 0x7099,
    0x8B58, 0x4EC0, 0x8336, 0x523A, 0x5207, 0x5EA6, 0x62D3, 0x7CD6, 0x5B85, 0x6D1E, 0x66B4, 0x8F3B,
    0x884C, 0x964D, 0x898B, 0x5ED3, 0x5140, 0x55C0, 0xFA0E, 0xFA0F, 0x585A, 0xFA11, 0x6674, 0xFA13,
    0xFA14, 0x51DE, 0x732A, 0x76CA, 0x793C, 0x795E, 0x7965, 0x798F, 0x9756, 0x7CBE, 0x7FBD, 0xFA1F,
    0x8612, 0xFA21, 0x8AF8, 0xFA23, 0xFA24, 0x9038, 0x90FD]⟩,
  ⟨0xFA2A, 1, #[
    0x98EF, 0x98FC, 0x9928, 0x9DB4, 0x90DE, 0x96B7, 0x4FAE, 0x50E7, 0x514D, 0x52C9, 0x52E4, 0x5351,
    0x559D, 0x5606, 0x5668, 0x5840, 0x58A8, 0x5C64, 0x5C6E, 0x6094, 0x6168, 0x618E, 0x61F2, 0x654F,
    0x65E2, 0x6691, 0x6885, 0x6D77, 0x6E1A, 0x6F22, 0x716E, 0x722B, 0x7422, 0x7891, 0x793E, 0x7949,
    0x7948, 0x7950, 0x7956, 0x795D, 0x798D, 0x798E, 0x7A40, 0x7A81, 0x7BC0, 0x7DF4, 0x7E09, 0x7E41,
    0x7F72, 0x8005, 0x81ED, 0x8279, 0x8279, 0x8457, 0x8910, 0x8996, 0x8B01, 0x8B39, 0x8CD3, 0x8D08,
    0x8FB6, 0x9038, 0x96E3, 0x97FF, 0x983B, 0x6075, 0x242EE, 0x8218, 0xFA6E, 0xFA6F, 0x4E26, 0x51B5,
    0x5168, 0x4F80, 0x5145, 0x5180, 0x52C7, 0x52FA, 0x559D, 0x5555, 0x5599, 0x55E2, 0x585A, 0x58B3,
    0x5944, 0x5954, 0x5A62, 0x5B28, 0x5ED2, 0x5ED9, 0x5F69, 0x5FAD, 0x60D8, 0x614E, 0x6108, 0x618E,
    0x6160, 0x61F2, 0x6234, 0x63C4, 0x641C, 0x6452, 0x6556, 0x6674, 0x6717, 0x671B, 0x6756, 0x6B79,
    0x6BBA, 0x6D41, 0x6EDB, 0x6ECB, 0x6F22, 0x701E, 0x716E, 0x77A7, 0x7235, 0x72AF, 0x732A, 0x7471,
    0x7506, 0x753B, 0x761D, 0x761F, 0x76CA, 0x76DB, 0x76F4, 0x774A, 0x7740, 0x78CC, 0x7AB1, 0x7BC0,
    0x7C7B, 0x7D5B, 0x7DF4, 0x7F3E, 0x8005, 0x8352, 0x83EF, 0x8779, 0x8941, 0x8986, 0x8996, 0x8ABF,
    0x8AF8, 0x8ACB, 0x8B01, 0x8AFE, 0x8AED, 0x8B39, 0x8B8A, 0x8D08, 0x8F38, 0x9072, 0x9199, 0x9276,
    0x967C, 0x96E3, 0x9756, 0x97DB, 0x97FF, 0x980B, 0x983B, 0x9B12, 0x9F9C, 0x2284A, 0x22844,
    0x233D5, 0x3B9D, 0x4018, 0x4039, 0x25249, 0x25CD0, 0x27ED3, 0x9F43, 0x9F8E]⟩,
  ⟨0x2F800, 1, #[
    0x4E3D, 0x4E38, 0x4E41, 0x20122, 0x4F60, 0x4FAE, 0x4FBB, 0x5002, 0x507A, 0x5099, 0x50E7, 0x50CF,
    0x349E, 0x2063A, 0x514D, 0x5154, 0x5164, 0x5177, 0x2051C, 0x34B9, 0x5167, 0x518D, 0x2054B,
    0x5197, 0x51A4, 0x4ECC, 0x51AC, 0x51B5, 0x291DF, 0x51F5, 0x5203, 0x34DF, 0x523B, 0x5246, 0x5272,
    0x5277, 0x3515, 0x52C7, 0x52C9, 0x52E4, 0x52FA, 0x5305, 0x5306, 0x5317, 0x5349, 0x5351, 0x535A,
    0x5373, 0x537D, 0x537F, 0x537F, 0x537F, 0x20A2C, 0x7070, 0x53CA, 0x53DF, 0x20B63, 0x53EB,
    0x53F1, 0x5406, 0x549E, 0x5438, 0x5448, 0x5468, 0x54A2, 0x54F6, 0x5510, 0x5553, 0x5563, 0x5584,
    0x5584, 0x5599, 0x55AB, 0x55B3, 0x55C2, 0x5716, 0x5606, 0x5717, 0x5651, 0x5674, 0x5207, 0x58EE,
    0x57CE, 0x57F4, 0x580D, 0x578B, 0x5832, 0x5831, 0x58AC, 0x214E4, 0x58F2, 0x58F7, 0x5906, 0x591A,
    0x5922, 0x5962, 0x216A8, 0x216EA, 0x59EC, 0x5A1B, 0x5A27, 0x59D8, 0x5A66, 0x36EE, 0x36FC,
    0x5B08, 0x5B3E, 0x5B3E, 0x219C8, 0x5BC3, 0x5BD8, 0x5BE7, 0x5BF3, 0x21B18, 0x5BFF, 0x5C06,
    0x5F53, 0x5C22, 0x3781, 0x5C60, 0x5C6E, 0x5CC0, 0x5C8D, 0x21DE4, 0x5D43, 0x21DE6, 0x5D6E,
    0x5D6B, 0x5D7C, 0x5DE1, 0x5DE2, 0x382F, 0x5DFD, 0x5E28, 0x5E3D, 0x5E69, 0x3862, 0x22183, 0x387C,
    0x5EB0, 0x5EB3, 0x5EB6, 0x5ECA, 0x2A392, 0x5EFE, 0x22331, 0x22331, 0x8201, 0x5F22, 0x5F22,
    0x38C7, 0x232B8, 0x261DA, 0x5F62, 0x5F6B, 0x38E3, 0x5F9A, 0x5FCD, 0x5FD7, 0x5FF9, 0x6081,
    0x393A, 0x391C, 0x6094, 0x226D4, 0x60C7, 0x6148, 0x614C, 0x614E, 0x614C, 0x617A, 0x618E, 0x61B2,
    0x61A4, 0x61AF, 0x61DE, 0x61F2, 0x61F6, 0x6210, 0x621B, 0x625D, 0x62B1, 0x62D4, 0x6350, 0x22B0C,
    0x633D, 0x62FC, 0x6368, 0x6383, 0x63E4, 0x22BF1, 0x6422, 0x63C5, 0x63A9, 0x3A2E, 0x6469, 0x647E,
    0x649D, 0x6477, 0x3A6C, 0x654F, 0x656C, 0x2300A, 0x65E3, 0x66F8, 0x6649, 0x3B19, 0x6691, 0x3B08,
    0x3AE4, 0x5192, 0x5195, 0x6700, 0x669C, 0x80AD, 0x43D9, 0x6717, 0x671B, 0x6721, 0x675E, 0x6753,
    0x233C3, 0x3B49, 0x67FA, 0x6785, 0x6852, 0x6885, 0x2346D, 0x688E, 0x681F, 0x6914, 0x3B9D,
    0x6942, 0x69A3, 0x69EA, 0x6AA8, 0x236A3, 0x6ADB, 0x3C18, 0x6B21, 0x238A7, 0x6B54, 0x3C4E,
    0x6B72, 0x6B9F, 0x6BBA, 0x6BBB, 0x23A8D, 0x21D0B, 0x23AFA, 0x6C4E, 0x23CBC, 0x6CBF, 0x6CCD,
    0x6C67, 0x6D16, 0x6D3E, 0x6D77, 0x6D41, 0x6D69, 0x6D78, 0x6D85, 0x23D1E, 0x6D34, 0x6E2F, 0x6E6E,
    0x3D33, 0x6ECB, 0x6EC7, 0x23ED1, 0x6DF9, 0x6F6E, 0x23F5E, 0x23F8E, 0x6FC6, 0x7039, 0x701E,
    0x701B, 0x3D96, 0x704A, 0x707D, 0x7077, 0x70AD, 0x20525, 0x7145, 0x24263, 0x719C, 0x243AB,
    0x7228, 0x7235, 0x7250, 0x24608, 0x7280, 0x7295, 0x24735, 0x24814, 0x737A, 0x738B, 0x3EAC,
    0x73A5, 0x3EB8, 0x3EB8, 0x7447, 0x745C, 0x7471, 0x7485, 0x74CA, 0x3F1B, 0x7524, 0x24C36, 0x753E,
    0x24C92, 0x7570, 0x2219F, 0x7610, 0x24FA1, 0x24FB8, 0x25044, 0x3FFC, 0x4008, 0x76F4, 0x250F3,
    0x250F2, 0x25119, 0x25133, 0x771E, 0x771F, 0x771F, 0x774A, 0x4039, 0x778B, 0x4046, 0x4096,
    0x2541D, 0x784E, 0x788C, 0x78CC, 0x40E3, 0x25626, 0x7956, 0x2569A, 0x256C5, 0x798F, 0x79EB,
    0x412F, 0x7A40, 0x7A4A, 0x7A4F, 0x2597C, 0x25AA7, 0x25AA7, 0x7AEE, 0x4202, 0x25BAB, 0x7BC6,
    0x7BC9, 0x4227, 0x25C80, 0x7CD2, 0x42A0, 0x7CE8, 0x7CE3, 0x7D00, 0x25F86, 0x7D63, 0x4301,
    0x7DC7, 0x7E02, 0x7E45, 0x4334, 0x26228, 0x26247, 0x4359, 0x262D9, 0x7F7A, 0x2633E, 0x7F95,
    0x7FFA, 0x8005, 0x264DA, 0x26523, 0x8060, 0x265A8, 0x8070, 0x2335F, 0x43D5, 0x80B2, 0x8103,
    0x440B, 0x813E, 0x5AB5, 0x267A7, 0x267B5, 0x23393, 0x2339C, 0x8201, 0x8204, 0x8F9E, 0x446B,
    0x8291, 0x828B, 0x829D, 0x52B3, 0x82B1, 0x82B3, 0x82BD, 0x82E6, 0x26B3C, 0x82E5, 0x831D, 0x8363,
    0x83AD, 0x8323, 0x83BD, 0x83E7, 0x8457, 0x8353, 0x83CA, 0x83CC, 0x83DC, 0x26C36, 0x26D6B,
    0x26CD5, 0x452B, 0x84F1, 0x84F3, 0x8516, 0x273CA, 0x8564, 0x26F2C, 0x455D, 0x4561, 0x26FB1,
    0x270D2, 0x456B, 0x8650, 0x865C, 0x8667, 0x8669, 0x86A9, 0x8688, 0x870E, 0x86E2, 0x8779, 0x8728,
    0x876B, 0x8786, 0x45D7, 0x87E1, 0x8801, 0x45F9, 0x8860, 0x8863, 0x27667, 0x88D7, 0x88DE, 0x4635,
    0x88FA, 0x34BB, 0x278AE, 0x27966, 0x46BE, 0x46C7, 0x8AA0, 0x8AED, 0x8B8A, 0x8C55, 0x27CA8,
    0x8CAB, 0x8CC1, 0x8D1B, 0x8D77, 0x27F2F, 0x20804, 0x8DCB, 0x8DBC, 0x8DF0, 0x208DE, 0x8ED4,
    0x8F38, 0x285D2, 0x285ED, 0x9094, 0x90F1, 0x9111, 0x2872E, 0x911B, 0x9238, 0x92D7, 0x92D8,
    0x927C, 0x93F9, 0x9415, 0x28BFA, 0x958B, 0x4995, 0x95B7, 0x28D77, 0x49E6, 0x96C3, 0x5DB2,
    0x9723, 0x29145, 0x2921A, 0x4A6E, 0x4A76, 0x97E0, 0x2940A, 0x4AB2, 0x29496, 0x980B, 0x980B,
    0x9829, 0x295B6, 0x98E2, 0x4B33, 0x9929, 0x99A7, 0x99C2, 0x99FE, 0x4BCE, 0x29B30, 0x9B12,
    0x9C40, 0x9CFD, 0x4CCE, 0x4CED, 0x9D67, 0x2A0CE, 0x4CF8, 0x2A105, 0x2A20E, 0x2A291, 0x9EBB,
    0x4D56, 0x9EF9, 0x9EFE, 0x9F05, 0x9F0F, 0x9F16, 0x9F3B, 0x2A600]⟩]

def presentationForms : Array CodeBlock := #[
  ⟨0xFB00, 2, #[0x66, 0x66, 0x66, 0x69, 0x66, 0x6C]⟩,
  ⟨0xFB03, 3, #[0x66, 0x66, 0x69, 0x66, 0x66, 0x6C]⟩, ⟨0xFB05, 2, #[0x73, 0x74, 0x73, 0x74]⟩,
  ⟨0xFB13, 2, #[0x574, 0x576, 0x574, 0x565, 0x574, 0x56B, 0x57E, 0x576, 0x574, 0x56D]⟩,
  ⟨0xFB1D, 2, #[0x5D9, 0x5B4]⟩, ⟨0xFB1F, 2, #[0x5F2, 0x5B7]⟩,
  ⟨0xFB20, 1, #[0x5E2, 0x5D0, 0x5D3, 0x5D4]⟩, ⟨0xFB27, 1, #[0x5E8, 0x5EA]⟩,
  ⟨0xFB2A, 2, #[0x5E9, 0x5C1, 0x5E9, 0x5C2]⟩,
  ⟨0xFB2C, 3, #[0x5E9, 0x5BC, 0x5C1, 0x5E9, 0x5BC, 0x5C2]⟩,
  ⟨0xFB2E, 2, #[
    0x5D0, 0x5B7, 0x5D0, 0x5B8, 0x5D0, 0x5BC, 0x5D1, 0x5BC, 0x5D2, 0x5BC, 0x5D3, 0x5BC, 0x5D4,
    0x5BC, 0x5D5, 0x5BC, 0x5D6, 0x5BC]⟩,
  ⟨0xFB38, 2, #[0x5D8, 0x5BC, 0x5D9, 0x5BC, 0x5DA, 0x5BC, 0x5DB, 0x5BC, 0x5DC, 0x5BC]⟩,
  ⟨0xFB3E, 2, #[0x5DE, 0x5BC]⟩, ⟨0xFB40, 2, #[0x5E0, 0x5BC, 0x5E1, 0x5BC]⟩,
  ⟨0xFB43, 2, #[0x5E3, 0x5BC, 0x5E4, 0x5BC]⟩,
  ⟨0xFB46, 2, #[
    0x5E6, 0x5BC, 0x5E7, 0x5BC, 0x5E8, 0x5BC, 0x5E9, 0x5BC, 0x5EA, 0x5BC, 0x5D5, 0x5B9, 0x5D1,
    0x5BF, 0x5DB, 0x5BF, 0x5E4, 0x5BF, 0x5D0, 0x5DC]⟩,
  ⟨0xFB50, 1, #[
    0x671, 0x671, 0x67B, 0x67B, 0x67B, 0x67B, 0x67E, 0x67E, 0x67E, 0x67E, 0x680, 0x680, 0x680,
    0x680, 0x67A, 0x67A, 0x67A, 0x67A, 0x67F, 0x67F, 0x67F, 0x67F, 0x679, 0x679, 0x679, 0x679,
    0x6A4, 0x6A4, 0x6A4, 0x6A4, 0x6A6, 0x6A6, 0x6A6, 0x6A6, 0x684, 0x684, 0x684, 0x684, 0x683,
    0x683, 0x683, 0x683, 0x686, 0x686, 0x686, 0x686, 0x687, 0x687, 0x687, 0x687, 0x68D, 0x68D,
    0x68C, 0x68C, 0x68E, 0x68E, 0x688, 0x688, 0x698, 0x698, 0x691, 0x691, 0x6A9, 0x6A9, 0x6A9,
    0x6A9, 0x6AF, 0x6AF, 0x6AF, 0x6AF, 0x6B3, 0x6B3, 0x6B3, 0x6B3, 0x6B1, 0x6B1, 0x6B1, 0x6B1,
    0x6BA, 0x6BA, 0x6BB, 0x6BB, 0x6BB, 0x6BB]⟩,
  ⟨0xFBA4, 2, #[0x6D5, 0x654, 0x6D5, 0x654]⟩,
  ⟨0xFBA6, 1, #[0x6C1, 0x6C1, 0x6C1, 0x6C1, 0x6BE, 0x6BE, 0x6BE, 0x6BE, 0x6D2, 0x6D2]⟩,
  ⟨0xFBB0, 2, #[0x6D2, 0x654, 0x6D2, 0x654]⟩,
  ⟨0xFBD3, 1, #[0x6AD, 0x6AD, 0x6AD, 0x6AD, 0x6C7, 0x6C7, 0x6C6, 0x6C6, 0x6C8, 0x6C8]⟩,
  ⟨0xFBDD, 2, #[0x6C7, 0x674]⟩,
  ⟨0xFBDE, 1, #[
    0x6CB, 0x6CB, 0x6C5, 0x6C5, 0x6C9, 0x6C9, 0x6D0, 0x6D0, 0x6D0, 0x6D0, 0x649, 0x649]⟩,
  ⟨0xFBEA, 3, #[
    0x64A, 0x654, 0x627, 0x64A, 0x654, 0x627, 0x64A, 0x654, 0x6D5, 0x64A, 0x654, 0x6D5, 0x64A,
    0x654, 0x648, 0x64A, 0x654, 0x648, 0x64A, 0x654, 0x6C7, 0x64A, 0x654, 0x6C7, 0x64A, 0x654,
    0x6C6, 0x64A, 0x654, 0x6C6, 0x64A, 0x654, 0x6C8, 0x64A, 0x654, 0x6C8, 0x64A, 0x654, 0x6D0,
    0x64A, 0x654, 0x6D0, 0x64A, 0x654, 0x6D0, 0x64A, 0x654, 0x649, 0x64A, 0x654, 0x649, 0x64A,
    0x654, 0x649]⟩,
  ⟨0xFBFC, 1, #[0x6CC, 0x6CC, 0x6CC, 0x6CC]⟩,
  ⟨0xFC00, 3, #[
    0x64A, 0x654, 0x62C, 0x64A, 0x654, 0x62D, 0x64A, 0x654, 0x645, 0x64A, 0x654, 0x649, 0x64A,
    0x654, 0x64A]⟩,
  ⟨0xFC05, 2, #[
    0x628, 0x62C, 0x628, 0x62D, 0x628, 0x62E, 0x628, 0x645, 0x628, 0x649, 0x628, 0x64A, 0x62A,
    0x62C, 0x62A, 0x62D, 0x62A, 0x62E, 0x62A, 0x645, 0x62A, 0x649, 0x62A, 0x64A, 0x62B, 0x62C,
    0x62B, 0x645, 0x62B, 0x649, 0x62B, 0x64A, 0x62C, 0x62D, 0x62C, 0x645, 0x62D, 0x62C, 0x62D,
    0x645, 0x62E, 0x62C, 0x62E, 0x62D, 0x62E, 0x645, 0x633, 0x62C, 0x633, 0x62D, 0x633, 0x62E,
    0x633, 0x645, 0x635, 0x62D, 0x635, 0x645, 0x636, 0x62C, 0x636, 0x62D, 0x636, 0x62E, 0x636,
    0x645, 0x637, 0x62D, 0x637, 0x645, 0x638, 0x645, 0x639, 0x62C, 0x639, 0x645, 0x63A, 0x62C,
    0x63A, 0x645, 0x641, 0x62C, 0x641, 0x62D, 0x641, 0x62E, 0x641, 0x645, 0x641, 0x649, 0x641,
    0x64A, 0x642, 0x62D, 0x642, 0x645, 0x642, 0x649, 0x642, 0x64A, 0x643, 0x627, 0x643, 0x62C,
    0x643, 0x62D, 0x643, 0x62E, 0x643, 0x644, 0x643, 0x645, 0x643, 0x649, 0x643, 0x64A, 0x644,
    0x62C, 0x644, 0x62D, 0x644, 0x62E, 0x644, 0x645, 0x644, 0x649, 0x644, 0x64A, 0x645, 0x62C,
    0x645, 0x62D, 0x645, 0x62E, 0x645, 0x645, 0x645, 0x649, 0x645, 0x64A, 0x646, 0x62C, 0x646,
    0x62D, 0x646, 0x62E, 0x646, 0x645, 0x646, 0x649, 0x646, 0x64A, 0x647, 0x62C, 0x647, 0x645,
    0x647, 0x649, 0x647, 0x64A, 0x64A, 0x62C, 0x64A, 0x62D, 0x64A, 0x62E, 0x64A, 0x645, 0x64A,
    0x649, 0x64A, 0x64A, 0x630, 0x670, 0x631, 0x670, 0x649, 0x670]⟩,
  ⟨0xFC64, 3, #[
    0x64A, 0x654, 0x631, 0x64A, 0x654, 0x632, 0x64A, 0x654, 0x645, 0x64A, 0x654, 0x646, 0x64A,
    0x654, 0x649, 0x64A, 0x654, 0x64A]⟩,
  ⟨0xFC6A, 2, #[
    0x628, 0x631, 0x628, 0x632, 0x628, 0x645, 0x628, 0x646, 0x628, 0x649, 0x628, 0x64A, 0x62A,
    0x631, 0x62A, 0x632, 0x62A, 0x645, 0x62A, 0x646, 0x62A, 0x649, 0x62A, 0x64A, 0x62B, 0x631,
    0x62B, 0x632, 0x62B, 0x645, 0x62B, 0x646, 0x62B, 0x649, 0x62B, 0x64A, 0x641, 0x649, 0x641,
    0x64A, 0x642, 0x649, 0x642, 0x64A, 0x643, 0x627, 0x643, 0x644, 0x643, 0x645, 0x643, 0x649,
    0x643, 0x64A, 0x644, 0x645, 0x644, 0x649, 0x644, 0x64A, 0x645, 0x627, 0x645, 0x645, 0x646,
    0x631, 0x646, 0x632, 0x646, 0x645, 0x646, 0x646, 0x646, 0x649, 0x646, 0x64A, 0x649, 0x670,
    0x64A, 0x631, 0x64A, 0x632, 0x64A, 0x645, 0x64A, 0x646, 0x64A, 0x649, 0x64A, 0x64A]⟩,
  ⟨0xFC97, 3, #[
    0x64A, 0x654, 0x62C, 0x64A, 0x654, 0x62D, 0x64A, 0x654, 0x62E, 0x64A, 0x654, 0x645, 0x64A,
    0x654, 0x647]⟩,
  ⟨0xFC9C, 2, #[
    0x628, 0x62C, 0x628, 0x62D, 0x628, 0x62E, 0x628, 0x645, 0x628, 0x647, 0x62A, 0x62C, 0x62A,
    0x62D, 0x62A, 0x62E, 0x62A, 0x645, 0x62A, 0x647, 0x62B, 0x645, 0x62C, 0x62D, 0x62C, 0x645,
    0x62D, 0x62C, 0x62D, 0x645, 0x62E, 0x62C, 0x62E, 0x645, 0x633, 0x62C, 0x633, 0x62D, 0x633,
    0x62E, 0x633, 0x645, 0x635, 0x62D, 0x635, 0x62E, 0x635, 0x645, 0x636, 0x62C, 0x636, 0x62D,
    0x636, 0x62E, 0x636, 0x645, 0x637, 0x62D, 0x638, 0x645, 0x639, 0x62C, 0x639, 0x645, 0x63A,
    0x62C, 0x63A, 0x645, 0x641, 0x62C, 0x641, 0x62D, 0x641, 0x62E, 0x641, 0x645, 0x642, 0x62D,
    0x642, 0x645, 0x643, 0x62C, 0x643, 0x62D, 0x643, 0x62E, 0x643, 0x644, 0x643, 0x645, 0x644,
    0x62C, 0x644, 0x62D, 0x644, 0x62E, 0x644, 0x645, 0x644, 0x647, 0x645, 0x62C, 0x645, 0x62D,
    0x645, 0x62E, 0x645, 0x645, 0x646, 0x62C, 0x646, 0x62D, 0x646, 0x62E, 0x646, 0x645, 0x646,
    0x647, 0x647, 0x62C, 0x647, 0x645, 0x647, 0x670, 0x64A, 0x62C, 0x64A, 0x62D, 0x64A, 0x62E,
    0x64A, 0x645, 0x64A, 0x647]⟩,
  ⟨0xFCDF, 3, #[0x64A, 0x654, 0x645, 0x64A, 0x654, 0x647]⟩,
  ⟨0xFCE1, 2, #[
    0x628, 0x645, 0x628, 0x647, 0x62A, 0x645, 0x62A, 0x647, 0x62B, 0x645, 0x62B, 0x647, 0x633,
    0x645, 0x633, 0x647, 0x634, 0x645, 0x634, 0x647, 0x643, 0x644, 0x643, 0x645, 0x644, 0x645,
    0x646, 0x645, 0x646, 0x647, 0x64A, 0x645, 0x64A, 0x647]⟩,
  ⟨0xFCF2, 3, #[0x640, 0x64E, 0x651, 0x640, 0x64F, 0x651, 0x640, 0x650, 0x651]⟩,
  ⟨0xFCF5, 2, #[
    0x637, 0x649, 0x637, 0x64A, 0x639, 0x649, 0x639, 0x64A, 0x63A, 0x649, 0x63A, 0x64A, 0x633,
    0x649, 0x633, 0x64A, 0x634, 0x649, 0x634, 0x64A, 0x62D, 0x649, 0x62D, 0x64A, 0x62C, 0x649,
    0x62C, 0x64A, 0x62E, 0x649, 0x62E, 0x64A, 0x635, 0x649, 0x635, 0x64A, 0x636, 0x649, 0x636,
    0x64A, 0x634, 0x62C, 0x634, 0x62D, 0x634, 0x62E, 0x634, 0x645, 0x634, 0x631, 0x633, 0x631,
    0x635, 0x631, 0x636, 0x631, 0x637, 0x649, 0x637, 0x64A, 0x639, 0x649, 0x639, 0x64A, 0x63A,
    0x649, 0x63A, 0x64A, 0x633, 0x649, 0x633, 0x64A, 0x634, 0x649, 0x634, 0x64A, 0x62D, 0x649,
    0x62D, 0x64A, 0x62C, 0x649, 0x62C, 0x64A, 0x62E, 0x649, 0x62E, 0x64A, 0x635, 0x649, 0x635,
    0x64A, 0x636, 0x649, 0x636, 0x64A, 0x634, 0x62C, 0x634, 0x62D, 0x634, 0x62E, 0x634, 0x645,
    0x634, 0x631, 0x633, 0x631, 0x635, 0x631, 0x636, 0x631, 0x634, 0x62C, 0x634, 0x62D, 0x634,
    0x62E, 0x634, 0x645, 0x633, 0x647, 0x634, 0x647, 0x637, 0x645, 0x633, 0x62C, 0x633, 0x62D,
    0x633, 0x62E, 0x634, 0x62C, 0x634, 0x62D, 0x634, 0x62E, 0x637, 0x645, 0x638, 0x645, 0x627,
    0x64B, 0x627, 0x64B]⟩,
  ⟨0xFD50, 3, #[
    0x62A, 0x62C, 0x645, 0x62A, 0x62D, 0x62C, 0x62A, 0x62D, 0x62C, 0x62A, 0x62D, 0x645, 0x62A,
    0x62E, 0x645, 0x62A, 0x645, 0x62C, 0x62A, 0x645, 0x62D, 0x62A, 0x645, 0x62E, 0x62C, 0x645,
    0x62D, 0x62C, 0x645, 0x62D, 0x62D, 0x645, 0x64A, 0x62D, 0x645, 0x649, 0x633, 0x62D, 0x62C,
    0x633, 0x62C, 0x62D, 0x633, 0x62C, 0x649, 0x633, 0x645, 0x62D, 0x633, 0x645, 0x62D, 0x633,
    0x645, 0x62C, 0x633, 0x645, 0x645, 0x633, 0x645, 0x645, 0x635, 0x62D, 0x62D, 0x635, 0x62D,
    0x62D, 0x635, 0x645, 0x645, 0x634, 0x62D, 0x645, 0x634, 0x62D, 0x645, 0x634, 0x62C, 0x64A,
    0x634, 0x645, 0x62E, 0x634, 0x645, 0x62E, 0x634, 0x645, 0x645, 0x634, 0x645, 0x645, 0x636,
    0x62D, 0x649, 0x636, 0x62E, 0x645, 0x636, 0x62E, 0x645, 0x637, 0x645, 0x62D, 0x637, 0x645,
    0x62D, 0x637, 0x645, 0x645, 0x637, 0x645, 0x64A, 0x639, 0x62C, 0x645, 0x639, 0x645, 0x645,
    0x639, 0x645, 0x645, 0x639, 0x645, 0x649, 0x63A, 0x645, 0x645, 0x63A, 0x645, 0x64A, 0x63A,
    0x645, 0x649, 0x641, 0x62E, 0x645, 0x641, 0x62E, 0x645, 0x642, 0x645, 0x62D, 0x642, 0x645,
    0x645, 0x644, 0x62D, 0x645, 0x644, 0x62D, 0x64A, 0x644, 0x62D, 0x649, 0x644, 0x62C, 0x62C,
    0x644, 0x62C, 0x62C, 0x644, 0x62E, 0x645, 0x644, 0x62E, 0x645, 0x644, 0x645, 0x62D, 0x644,
    0x645, 0x62D, 0x645, 0x62D, 0x62C, 0x645, 0x62D, 0x645, 0x645, 0x62D, 0x64A, 0x645, 0x62C,
    0x62D, 0x645, 0x62C, 0x645, 0x645, 0x62E, 0x62C, 0x645, 0x62E, 0x645]⟩,
  ⟨0xFD92, 3, #[
    0x645, 0x62C, 0x62E, 0x647, 0x645, 0x62C, 0x647, 0x645, 0x645, 0x646, 0x62D, 0x645, 0x646,
    0x62D, 0x649, 0x646, 0x62C, 0x645, 0x646, 0x62C, 0x645, 0x646, 0x62C, 0x649, 0x646, 0x645,
    0x64A, 0x646, 0x645, 0x649, 0x64A, 0x645, 0x645, 0x64A, 0x645, 0x645, 0x628, 0x62E, 0x64A,
    0x62A, 0x62C, 0x64A, 0x62A, 0x62C, 0x649, 0x62A, 0x62E, 0x64A, 0x62A, 0x62E, 0x649, 0x62A,
    0x645, 0x64A, 0x62A, 0x645, 0x649, 0x62C, 0x645, 0x64A, 0x62C, 0x62D, 0x649, 0x62C, 0x645,
    0x649, 0x633, 0x62E, 0x649, 0x635, 0x62D, 0x64A, 0x634, 0x62D, 0x64A, 0x636, 0x62D, 0x64A,
    0x644, 0x62C, 0x64A, 0x644, 0x645, 0x64A, 0x64A, 0x62D, 0x64A, 0x64A, 0x62C, 0x64A, 0x64A,
    0x645, 0x64A, 0x645, 0x645, 0x64A, 0x642, 0x645, 0x64A, 0x646, 0x62D, 0x64A, 0x642, 0x645,
    0x62D, 0x644, 0x62D, 0x645, 0x639, 0x645, 0x64A, 0x643, 0x645, 0x64A, 0x646, 0x62C, 0x62D,
    0x645, 0x62E, 0x64A, 0x644, 0x62C, 0x645, 0x643, 0x645, 0x645, 0x644, 0x62C, 0x645, 0x646,
    0x62C, 0x62D, 0x62C, 0x62D, 0x64A, 0x62D, 0x62C, 0x64A, 0x645, 0x62C, 0x64A, 0x641, 0x645,
    0x64A, 0x628, 0x62D, 0x64A, 0x643, 0x645, 0x645, 0x639, 0x62C, 0x645, 0x635, 0x645, 0x645,
    0x633, 0x62E, 0x64A, 0x646, 0x62C, 0x64A]⟩,
  ⟨0xFDF0, 3, #[0x635, 0x644, 0x6D2, 0x642, 0x644, 0x6D2]⟩,
  ⟨0xFDF2, 4, #[
    0x627, 0x644, 0x644, 0x647, 0x627, 0x643, 0x628, 0x631, 0x645, 0x62D, 0x645, 0x62F, 0x635,
    0x644, 0x639, 0x645, 0x631, 0x633, 0x648, 0x644, 0x639, 0x644, 0x64A, 0x647, 0x648, 0x633,
    0x644, 0x645]⟩,
  ⟨0xFDF9, 3, #[0x635, 0x644, 0x649]⟩, ⟨0xFE33, 1, #[0x5F, 0x5F]⟩, ⟨0xFE4D, 1, #[0x5F, 0x5F, 0x5F]⟩,
  ⟨0xFE71, 2, #[0x640, 0x64B]⟩, ⟨0xFE77, 2, #[0x640, 0x64E]⟩, ⟨0xFE79, 2, #[0x640, 0x64F]⟩,
  ⟨0xFE7B, 2, #[0x640, 0x650]⟩, ⟨0xFE7D, 2, #[0x640, 0x651]⟩, ⟨0xFE7F, 2, #[0x640, 0x652]⟩,
  ⟨0xFE80, 1, #[0x621]⟩,
  ⟨0xFE81, 2, #[
    0x627, 0x653, 0x627, 0x653, 0x627, 0x654, 0x627, 0x654, 0x648, 0x654, 0x648, 0x654, 0x627,
    0x655, 0x627, 0x655, 0x64A, 0x654, 0x64A, 0x654, 0x64A, 0x654, 0x64A, 0x654]⟩,
  ⟨0xFE8D, 1, #[
    0x627, 0x627, 0x628, 0x628, 0x628, 0x628, 0x629, 0x629, 0x62A, 0x62A, 0x62A, 0x62A, 0x62B,
    0x62B, 0x62B, 0x62B, 0x62C, 0x62C, 0x62C, 0x62C, 0x62D, 0x62D, 0x62D, 0x62D, 0x62E, 0x62E,
    0x62E, 0x62E, 0x62F, 0x62F, 0x630, 0x630, 0x631, 0x631, 0x632, 0x632, 0x633, 0x633, 0x633,
    0x633, 0x634, 0x634, 0x634, 0x634, 0x635, 0x635, 0x635, 0x635, 0x636, 0x636, 0x636, 0x636,
    0x637, 0x637, 0x637, 0x637, 0x638, 0x638, 0x638, 0x638, 0x639, 0x639, 0x639, 0x639, 0x63A,
    0x63A, 0x63A, 0x63A, 0x641, 0x641, 0x641, 0x641, 0x642, 0x642, 0x642, 0x642, 0x643, 0x643,
    0x643, 0x643, 0x644, 0x644, 0x644, 0x644, 0x645, 0x645, 0x645, 0x645, 0x646, 0x646, 0x646,
    0x646, 0x647, 0x647, 0x647, 0x647, 0x648, 0x648, 0x649, 0x649, 0x64A, 0x64A, 0x64A, 0x64A]⟩,
  ⟨0xFEF5, 3, #[
    0x644, 0x627, 0x653, 0x644, 0x627, 0x653, 0x644, 0x627, 0x654, 0x644, 0x627, 0x654, 0x644,
    0x627, 0x655, 0x644, 0x627, 0x655]⟩,
  ⟨0xFEFB, 2, #[0x644, 0x627, 0x644, 0x627]⟩, ⟨0xFF3F, 1, #[0x5F]⟩,
  ⟨0xFF66, 1, #[
    0x30F2, 0x30A1, 0x30A3, 0x30A5, 0x30A7, 0x30A9, 0x30E3, 0x30E5, 0x30E7, 0x30C3, 0x30FC, 0x30A2,
    0x30A4, 0x30A6, 0x30A8, 0x30AA, 0x30AB, 0x30AD, 0x30AF, 0x30B1, 0x30B3, 0x30B5, 0x30B7, 0x30B9,
    0x30BB, 0x30BD, 0x30BF, 0x30C1, 0x30C4, 0x30C6, 0x30C8]⟩,
  ⟨0xFF8B, 1, #[0x30D2, 0x30D5, 0x30D8, 0x30DB]⟩, ⟨0xFF94, 1, #[0x30E4, 0x30E6]⟩,
  ⟨0xFF9C, 1, #[
    0x30EF, 0x30F3, 0x3099, 0x309A, 0x1160, 0x1100, 0x1101, 0x11AA, 0x1102, 0x11AC, 0x11AD]⟩,
  ⟨0xFFB0, 1, #[0x111A]⟩, ⟨0xFFB4, 1, #[0x1121]⟩,
  ⟨0x10781, 1, #[
    0x2D0, 0x2D1, 0xE6, 0x299, 0x253, 0x10786, 0x2A3, 0xAB66, 0x2A5, 0x2A4, 0x256, 0x257, 0x1D91,
    0x258, 0x25E, 0x2A9, 0x264, 0x262, 0x260, 0x29B, 0x127, 0x29C, 0x267, 0x284, 0x2AA, 0x2AB,
    0x26C, 0x1DF04, 0xA78E, 0x26E, 0x1DF05, 0x28E, 0x1DF06, 0xF8, 0x276, 0x277, 0x71, 0x27A,
    0x1DF08, 0x27D, 0x27E, 0x280, 0x2A8, 0x2A6, 0xAB67, 0x2A7, 0x288, 0x2C71, 0x107B1, 0x28F, 0x2A1,
    0x2A2, 0x298]⟩,
  ⟨0x107B9, 1, #[0x1DF0A, 0x1DF1E]⟩,
  ⟨0x1D49C, 1, #[0x41, 0x1D49D, 0x43, 0x44, 0x1D4A0, 0x1D4A1, 0x47, 0x1D4A3, 0x1D4A4, 0x4A, 0x4B]⟩,
  ⟨0x1D4BB, 1, #[0x66]⟩, ⟨0x1D504, 1, #[0x41, 0x42]⟩, ⟨0x1D538, 1, #[0x41, 0x42]⟩,
  ⟨0x1D546, 1, #[0x4F]⟩, ⟨0x1D6A4, 1, #[0x131, 0x237]⟩, ⟨0x1D6B9, 1, #[0x398]⟩,
  ⟨0x1D6DC, 1, #[0x3B5, 0x3B8, 0x3BA, 0x3C6, 0x3C1, 0x3C0]⟩, ⟨0x1D6F3, 1, #[0x398]⟩,
  ⟨0x1D716, 1, #[0x3B5, 0x3B8, 0x3BA, 0x3C6, 0x3C1, 0x3C0]⟩, ⟨0x1D72D, 1, #[0x398]⟩,
  ⟨0x1D750, 1, #[0x3B5, 0x3B8, 0x3BA, 0x3C6, 0x3C1, 0x3C0]⟩, ⟨0x1D767, 1, #[0x398]⟩,
  ⟨0x1D78A, 1, #[0x3B5, 0x3B8, 0x3BA, 0x3C6, 0x3C1, 0x3C0]⟩, ⟨0x1D7A1, 1, #[0x398]⟩,
  ⟨0x1D7C4, 1, #[0x3B5, 0x3B8, 0x3BA, 0x3C6, 0x3C1, 0x3C0, 0x3DC, 0x3DD]⟩,
  ⟨0x1E047, 1, #[0x44B, 0x44D, 0x44E, 0xA689, 0x4D9, 0x456, 0x458, 0x4E9, 0x4AF, 0x4CF]⟩,
  ⟨0x1E05A, 1, #[0x43A, 0x43B, 0x43E, 0x43F, 0x441]⟩,
  ⟨0x1E065, 1, #[0x44A, 0x44B, 0x491, 0x456, 0x455, 0x45F, 0x4AB, 0xA651, 0x4B1]⟩,
  ⟨0x1EE00, 1, #[0x627, 0x628, 0x62C, 0x62F, 0x1EE04, 0x648, 0x632, 0x62D, 0x637, 0x64A]⟩,
  ⟨0x1EE0E, 1, #[
    0x633, 0x639, 0x641, 0x635, 0x642, 0x631, 0x634, 0x62A, 0x62B, 0x62E, 0x630, 0x636, 0x638,
    0x63A, 0x66E, 0x6BA, 0x6A1, 0x66F, 0x1EE20, 0x628, 0x62C, 0x1EE23, 0x647, 0x1EE25, 0x1EE26,
    0x62D, 0x1EE28, 0x64A]⟩,
  ⟨0x1EE2E, 1, #[
    0x633, 0x639, 0x641, 0x635, 0x642, 0x1EE33, 0x634, 0x62A, 0x62B, 0x62E, 0x1EE38, 0x636, 0x1EE3A,
    0x63A]⟩,
  ⟨0x1EE42, 1, #[0x62C]⟩,
  ⟨0x1EE47, 1, #[
    0x62D, 0x1EE48, 0x64A, 0x1EE4A, 0x644, 0x1EE4C, 0x646, 0x633, 0x639, 0x1EE50, 0x635, 0x642,
    0x1EE53, 0x634, 0x1EE55, 0x1EE56, 0x62E, 0x1EE58, 0x636, 0x1EE5A, 0x63A, 0x1EE5C, 0x6BA,
    0x1EE5E, 0x66F, 0x1EE60, 0x628, 0x62C, 0x1EE63, 0x647, 0x1EE65, 0x1EE66, 0x62D, 0x637, 0x64A,
    0x643, 0x1EE6B, 0x645, 0x646, 0x633, 0x639, 0x641, 0x635, 0x642, 0x1EE73, 0x634, 0x62A, 0x62B,
    0x62E, 0x1EE78, 0x636, 0x638, 0x63A, 0x66E, 0x1EE7D, 0x6A1, 0x1EE7F, 0x627, 0x628, 0x62C, 0x62F,
    0x647, 0x648, 0x632, 0x62D, 0x637, 0x64A]⟩,
  ⟨0x1EE8E, 1, #[
    0x633, 0x639, 0x641, 0x635, 0x642, 0x631, 0x634, 0x62A, 0x62B, 0x62E, 0x630, 0x636, 0x638,
    0x63A]⟩,
  ⟨0x1EEA1, 1, #[0x628, 0x62C, 0x62F, 0x1EEA4, 0x648, 0x632, 0x62D, 0x637, 0x64A]⟩,
  ⟨0x1EEAE, 1, #[
    0x633, 0x639, 0x641, 0x635, 0x642, 0x631, 0x634, 0x62A, 0x62B, 0x62E, 0x630, 0x636, 0x638,
    0x63A]⟩]

def formCodes (code : Nat) : List Nat :=
  match [letterForms, ideographForms, presentationForms].findSome? (codesIn? · code) with
  | some codes => codes
  | none => [(shiftBy shiftedForms (Char.ofNat code)).toNat]

end ExScript.Text
