import ActorFacade.Text.DecimalDigit
import ActorFacade.Text.Printable

/-! # Code points of words

Words are made of letters and digits of all scripts, of other signs that stand for numbers, and of
the low line.  Among the printable code points these are all but marks, punctuation and symbols.
-/

namespace ActorFacade.Text

/-- The ranges of marks, punctuation and symbols beyond ASCII, in ascending order.  A range may hold
code points that are not printable. -/
def symbolRanges : List (CodePoint × CodePoint) :=
  [
   (0x00A1, 0x00A9), (0x00AB, 0x00B1), (0x00B4, 0x00B4), (0x00B6, 0x00B8),
   (0x00BB, 0x00BB), (0x00BF, 0x00BF), (0x00D7, 0x00D7), (0x00F7, 0x00F7),
   (0x02C2, 0x02C5), (0x02D2, 0x02DF), (0x02E5, 0x02EB), (0x02ED, 0x02ED),
   (0x02EF, 0x036F), (0x0375, 0x0375), (0x037E, 0x037E), (0x0384, 0x0385),
   (0x0387, 0x0387), (0x03F6, 0x03F6), (0x0482, 0x0489), (0x055A, 0x055F),
   (0x0589, 0x05C7), (0x05F3, 0x061F), (0x064B, 0x065F), (0x066A, 0x066D),
   (0x0670, 0x0670), (0x06D4, 0x06D4), (0x06D6, 0x06E4), (0x06E7, 0x06ED),
   (0x06FD, 0x06FE), (0x0700, 0x070D), (0x0711, 0x0711), (0x0730, 0x074A),
   (0x07A6, 0x07B0), (0x07EB, 0x07F3), (0x07F6, 0x07F9), (0x07FD, 0x07FF),
   (0x0816, 0x0819), (0x081B, 0x0823), (0x0825, 0x0827), (0x0829, 0x083E),
   (0x0859, 0x085E), (0x0888, 0x0888), (0x0898, 0x089F), (0x08CA, 0x0903),
   (0x093A, 0x093C), (0x093E, 0x094F), (0x0951, 0x0957), (0x0962, 0x0965),
   (0x0970, 0x0970), (0x0981, 0x0983), (0x09BC, 0x09BC), (0x09BE, 0x09CD),
   (0x09D7, 0x09D7), (0x09E2, 0x09E3), (0x09F2, 0x09F3), (0x09FA, 0x09FB),
   (0x09FD, 0x0A03), (0x0A3C, 0x0A51), (0x0A70, 0x0A71), (0x0A75, 0x0A83),
   (0x0ABC, 0x0ABC), (0x0ABE, 0x0ACD), (0x0AE2, 0x0AE3), (0x0AF0, 0x0AF1),
   (0x0AFA, 0x0B03), (0x0B3C, 0x0B3C), (0x0B3E, 0x0B57), (0x0B62, 0x0B63),
   (0x0B70, 0x0B70), (0x0B82, 0x0B82), (0x0BBE, 0x0BCD), (0x0BD7, 0x0BD7),
   (0x0BF3, 0x0C04), (0x0C3C, 0x0C3C), (0x0C3E, 0x0C56), (0x0C62, 0x0C63),
   (0x0C77, 0x0C77), (0x0C7F, 0x0C7F), (0x0C81, 0x0C84), (0x0CBC, 0x0CBC),
   (0x0CBE, 0x0CD6), (0x0CE2, 0x0CE3), (0x0D00, 0x0D03), (0x0D3B, 0x0D3C),
   (0x0D3E, 0x0D4D), (0x0D4F, 0x0D4F), (0x0D57, 0x0D57), (0x0D62, 0x0D63),
   (0x0D79, 0x0D79), (0x0D81, 0x0D83), (0x0DCA, 0x0DDF), (0x0DF2, 0x0DF4),
   (0x0E31, 0x0E31), (0x0E34, 0x0E3F), (0x0E47, 0x0E4F), (0x0E5A, 0x0E5B),
   (0x0EB1, 0x0EB1), (0x0EB4, 0x0EBC), (0x0EC8, 0x0ECD), (0x0F01, 0x0F1F),
   (0x0F34, 0x0F3F), (0x0F71, 0x0F87), (0x0F8D, 0x0FDA), (0x102B, 0x103E),
   (0x104A, 0x104F), (0x1056, 0x1059), (0x105E, 0x1060), (0x1062, 0x1064),
   (0x1067, 0x106D), (0x1071, 0x1074), (0x1082, 0x108D), (0x108F, 0x108F),
   (0x109A, 0x109F), (0x10FB, 0x10FB), (0x135D, 0x1368), (0x1390, 0x1399),
   (0x1400, 0x1400), (0x166D, 0x166E), (0x169B, 0x169C), (0x16EB, 0x16ED),
   (0x1712, 0x1715), (0x1732, 0x1736), (0x1752, 0x1753), (0x1772, 0x1773),
   (0x17B4, 0x17D6), (0x17D8, 0x17DB), (0x17DD, 0x17DD), (0x1800, 0x180F),
   (0x1885, 0x1886), (0x18A9, 0x18A9), (0x1920, 0x1945), (0x19DE, 0x19FF),
   (0x1A17, 0x1A1F), (0x1A55, 0x1A7F), (0x1AA0, 0x1AA6), (0x1AA8, 0x1B04),
   (0x1B34, 0x1B44), (0x1B5A, 0x1B82), (0x1BA1, 0x1BAD), (0x1BE6, 0x1BFF),
   (0x1C24, 0x1C3F), (0x1C7E, 0x1C7F), (0x1CC0, 0x1CE8), (0x1CED, 0x1CED),
   (0x1CF4, 0x1CF4), (0x1CF7, 0x1CF9), (0x1DC0, 0x1DFF), (0x1FBD, 0x1FBD),
   (0x1FBF, 0x1FC1), (0x1FCD, 0x1FCF), (0x1FDD, 0x1FDF), (0x1FED, 0x1FEF),
   (0x1FFD, 0x205E), (0x207A, 0x207E), (0x208A, 0x208E), (0x20A0, 0x2101),
   (0x2103, 0x2106), (0x2108, 0x2109), (0x2114, 0x2114), (0x2116, 0x2118),
   (0x211E, 0x2123), (0x2125, 0x2125), (0x2127, 0x2127), (0x2129, 0x2129),
   (0x212E, 0x212E), (0x213A, 0x213B), (0x2140, 0x2144), (0x214A, 0x214D),
   (0x214F, 0x214F), (0x218A, 0x244A), (0x249C, 0x24E9), (0x2500, 0x2775),
   (0x2794, 0x2BFF), (0x2CE5, 0x2CEA), (0x2CEF, 0x2CF1), (0x2CF9, 0x2CFC),
   (0x2CFE, 0x2CFF), (0x2D70, 0x2D7F), (0x2DE0, 0x2E2E), (0x2E30, 0x3004),
   (0x3008, 0x3020), (0x302A, 0x3030), (0x3036, 0x3037), (0x303D, 0x303F),
   (0x3099, 0x309C), (0x30A0, 0x30A0), (0x30FB, 0x30FB), (0x3190, 0x3191),
   (0x3196, 0x319F), (0x31C0, 0x31E3), (0x3200, 0x321E), (0x322A, 0x3247),
   (0x3250, 0x3250), (0x3260, 0x327F), (0x328A, 0x32B0), (0x32C0, 0x33FF),
   (0x4DC0, 0x4DFF), (0xA490, 0xA4C6), (0xA4FE, 0xA4FF), (0xA60D, 0xA60F),
   (0xA66F, 0xA67E), (0xA69E, 0xA69F), (0xA6F0, 0xA716), (0xA720, 0xA721),
   (0xA789, 0xA78A), (0xA802, 0xA802), (0xA806, 0xA806), (0xA80B, 0xA80B),
   (0xA823, 0xA82C), (0xA836, 0xA839), (0xA874, 0xA881), (0xA8B4, 0xA8CF),
   (0xA8E0, 0xA8F1), (0xA8F8, 0xA8FA), (0xA8FC, 0xA8FC), (0xA8FF, 0xA8FF),
   (0xA926, 0xA92F), (0xA947, 0xA95F), (0xA980, 0xA983), (0xA9B3, 0xA9CD),
   (0xA9DE, 0xA9DF), (0xA9E5, 0xA9E5), (0xAA29, 0xAA36), (0xAA43, 0xAA43),
   (0xAA4C, 0xAA4D), (0xAA5C, 0xAA5F), (0xAA77, 0xAA79), (0xAA7B, 0xAA7D),
   (0xAAB0, 0xAAB0), (0xAAB2, 0xAAB4), (0xAAB7, 0xAAB8), (0xAABE, 0xAABF),
   (0xAAC1, 0xAAC1), (0xAADE, 0xAADF), (0xAAEB, 0xAAF1), (0xAAF5, 0xAAF6),
   (0xAB5B, 0xAB5B), (0xAB6A, 0xAB6B), (0xABE3, 0xABED), (0xFB1E, 0xFB1E),
   (0xFB29, 0xFB29), (0xFBB2, 0xFBC2), (0xFD3E, 0xFD4F), (0xFDCF, 0xFDCF),
   (0xFDFC, 0xFE6B), (0xFF01, 0xFF0F), (0xFF1A, 0xFF20), (0xFF3B, 0xFF40),
   (0xFF5B, 0xFF65), (0xFFE0, 0xFFFD), (0x10100, 0x10102), (0x10137, 0x1013F),
   (0x10179, 0x10189), (0x1018C, 0x101FD), (0x102E0, 0x102E0), (0x10376, 0x1037A),
   (0x1039F, 0x1039F), (0x103D0, 0x103D0), (0x1056F, 0x1056F), (0x10857, 0x10857),
   (0x10877, 0x10878), (0x1091F, 0x1091F), (0x1093F, 0x1093F), (0x10A01, 0x10A0F),
   (0x10A38, 0x10A3F), (0x10A50, 0x10A58), (0x10A7F, 0x10A7F), (0x10AC8, 0x10AC8),
   (0x10AE5, 0x10AE6), (0x10AF0, 0x10AF6), (0x10B39, 0x10B3F), (0x10B99, 0x10B9C),
   (0x10D24, 0x10D27), (0x10EAB, 0x10EAD), (0x10F46, 0x10F50), (0x10F55, 0x10F59),
   (0x10F82, 0x10F89), (0x11000, 0x11002), (0x11038, 0x1104D), (0x11070, 0x11070),
   (0x11073, 0x11074), (0x1107F, 0x11082), (0x110B0, 0x110C2), (0x11100, 0x11102),
   (0x11127, 0x11134), (0x11140, 0x11143), (0x11145, 0x11146), (0x11173, 0x11175),
   (0x11180, 0x11182), (0x111B3, 0x111C0), (0x111C5, 0x111CF), (0x111DB, 0x111DB),
   (0x111DD, 0x111DF), (0x1122C, 0x1123E), (0x112A9, 0x112A9), (0x112DF, 0x112EA),
   (0x11300, 0x11303), (0x1133B, 0x1133C), (0x1133E, 0x1134D), (0x11357, 0x11357),
   (0x11362, 0x11374), (0x11435, 0x11446), (0x1144B, 0x1144F), (0x1145A, 0x1145E),
   (0x114B0, 0x114C3), (0x114C6, 0x114C6), (0x115AF, 0x115D7), (0x115DC, 0x115DD),
   (0x11630, 0x11643), (0x11660, 0x1166C), (0x116AB, 0x116B7), (0x116B9, 0x116B9),
   (0x1171D, 0x1172B), (0x1173C, 0x1173F), (0x1182C, 0x1183B), (0x11930, 0x1193E),
   (0x11940, 0x11940), (0x11942, 0x11946), (0x119D1, 0x119E0), (0x119E2, 0x119E2),
   (0x119E4, 0x119E4), (0x11A01, 0x11A0A), (0x11A33, 0x11A39), (0x11A3B, 0x11A47),
   (0x11A51, 0x11A5B), (0x11A8A, 0x11A9C), (0x11A9E, 0x11AA2), (0x11C2F, 0x11C3F),
   (0x11C41, 0x11C45), (0x11C70, 0x11C71), (0x11C92, 0x11CB6), (0x11D31, 0x11D45),
   (0x11D47, 0x11D47), (0x11D8A, 0x11D97), (0x11EF3, 0x11EF8), (0x11FD5, 0x11FFF),
   (0x12470, 0x12474), (0x12FF1, 0x12FF2), (0x16A6E, 0x16A6F), (0x16AF0, 0x16AF5),
   (0x16B30, 0x16B3F), (0x16B44, 0x16B45), (0x16E97, 0x16E9A), (0x16F4F, 0x16F4F),
   (0x16F51, 0x16F92), (0x16FE2, 0x16FE2), (0x16FE4, 0x16FF1), (0x1BC9C, 0x1D245),
   (0x1D300, 0x1D356), (0x1D6C1, 0x1D6C1), (0x1D6DB, 0x1D6DB), (0x1D6FB, 0x1D6FB),
   (0x1D715, 0x1D715), (0x1D735, 0x1D735), (0x1D74F, 0x1D74F), (0x1D76F, 0x1D76F),
   (0x1D789, 0x1D789), (0x1D7A9, 0x1D7A9), (0x1D7C3, 0x1D7C3), (0x1D800, 0x1DAAF),
   (0x1E000, 0x1E02A), (0x1E130, 0x1E136), (0x1E14F, 0x1E14F), (0x1E2AE, 0x1E2AE),
   (0x1E2EC, 0x1E2EF), (0x1E2FF, 0x1E2FF), (0x1E8D0, 0x1E8D6), (0x1E944, 0x1E94A),
   (0x1E95E, 0x1E95F), (0x1ECAC, 0x1ECAC), (0x1ECB0, 0x1ECB0), (0x1ED2E, 0x1ED2E),
   (0x1EEF0, 0x1F0F5), (0x1F10D, 0x1FBCA), (0xE0100, 0xE01EF)
  ]

/-- Whether a code point can be in a word. -/
def isWordPart (c : CodePoint) : Bool :=
  if c < 0x80 then isAsciiLetter c || isAsciiDigit c || c == 0x5F
  else isPrintable c && !symbolRanges.any fun range ↦ range.1 ≤ c && c ≤ range.2

end ActorFacade.Text
