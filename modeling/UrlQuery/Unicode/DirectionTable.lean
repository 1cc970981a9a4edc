import UrlQuery.Unicode.Run

/-!
# Tables of writing directions

The property `Bidi_Class` of Unicode 17 above ASCII, for the characters that are not written from
left to right and are no marks.
-/

namespace UrlQuery.Unicode

/-- Letters written from right to left: the classes `R` and `AL`. -/
def rightToLeft : List Run :=
  [ ⟨0x5BE, 0x5BE, 1⟩, ⟨0x5C0, 0x5C0, 1⟩, ⟨0x5C3, 0x5C3, 1⟩, ⟨0x5C6, 0x5C6, 1⟩, ⟨0x5D0, 0x5F4, 1⟩,
    ⟨0x608, 0x608, 1⟩, ⟨0x60B, 0x60B, 1⟩, ⟨0x60D, 0x60D, 1⟩, ⟨0x61B, 0x64A, 1⟩, ⟨0x66D, 0x66F, 1⟩,
    ⟨0x671, 0x6D5, 1⟩, ⟨0x6E5, 0x6E6, 1⟩, ⟨0x6EE, 0x6EF, 1⟩, ⟨0x6FA, 0x710, 1⟩, ⟨0x712, 0x72F, 1⟩,
    ⟨0x74D, 0x7A5, 1⟩, ⟨0x7B1, 0x7EA, 1⟩, ⟨0x7F4, 0x7F5, 1⟩, ⟨0x7FA, 0x7FA, 1⟩, ⟨0x7FE, 0x815, 1⟩,
    ⟨0x81A, 0x81A, 1⟩, ⟨0x824, 0x824, 1⟩, ⟨0x828, 0x828, 1⟩, ⟨0x830, 0x858, 1⟩, ⟨0x85E, 0x88F, 1⟩,
    ⟨0x8A0, 0x8C9, 1⟩, ⟨0x200F, 0x200F, 1⟩, ⟨0xFB1D, 0xFB1D, 1⟩, ⟨0xFB1F, 0xFB28, 1⟩,
    ⟨0xFB2A, 0xFBC2, 1⟩, ⟨0xFBD3, 0xFD3D, 1⟩, ⟨0xFD50, 0xFD8F, 1⟩, ⟨0xFD92, 0xFDC7, 1⟩,
    ⟨0xFDF0, 0xFDFC, 1⟩, ⟨0xFE70, 0xFEFC, 1⟩, ⟨0x10800, 0x1091B, 1⟩, ⟨0x10920, 0x10A00, 1⟩,
    ⟨0x10A10, 0x10A35, 1⟩, ⟨0x10A40, 0x10AE4, 1⟩, ⟨0x10AEB, 0x10B35, 1⟩, ⟨0x10B40, 0x10D23, 1⟩,
    ⟨0x10D4A, 0x10D65, 1⟩, ⟨0x10D6F, 0x10D8F, 1⟩, ⟨0x10E80, 0x10EA9, 1⟩, ⟨0x10EAD, 0x10EC7, 1⟩,
    ⟨0x10F00, 0x10F45, 1⟩, ⟨0x10F51, 0x10F81, 1⟩, ⟨0x10F86, 0x10FF6, 1⟩, ⟨0x1E800, 0x1E8CF, 1⟩,
    ⟨0x1E900, 0x1E943, 1⟩, ⟨0x1E94B, 0x1EEBB, 1⟩ ]

/-- Arabic digits: the class `AN`. -/
def arabicNumber : List Run :=
  [ ⟨0x600, 0x605, 1⟩, ⟨0x660, 0x669, 1⟩, ⟨0x66B, 0x66C, 1⟩, ⟨0x6DD, 0x6DD, 1⟩, ⟨0x890, 0x891, 1⟩,
    ⟨0x8E2, 0x8E2, 1⟩, ⟨0x10D30, 0x10D49, 1⟩, ⟨0x10E60, 0x10E7E, 1⟩ ]

/-- European digits: the class `EN`. -/
def europeanNumber : List Run :=
  [ ⟨0xB2, 0xB3, 1⟩, ⟨0xB9, 0xB9, 1⟩, ⟨0x6F0, 0x6F9, 1⟩, ⟨0x2070, 0x2070, 1⟩, ⟨0x2074, 0x2079, 1⟩,
    ⟨0x2080, 0x2089, 1⟩, ⟨0x2488, 0x249B, 1⟩, ⟨0xFF10, 0xFF19, 1⟩, ⟨0x102E1, 0x102FB, 1⟩,
    ⟨0x1CCF0, 0x1CCF9, 1⟩, ⟨0x1D7CE, 0x1D7FF, 1⟩, ⟨0x1F100, 0x1F10A, 1⟩, ⟨0x1FBF0, 0x1FBF9, 1⟩ ]

/-- Characters that take the direction of their neighbours: the classes `ES`, `ET`, `CS`, `ON`
and `BN`. -/
def neutral : List Run :=
  [ ⟨0x80, 0x84, 1⟩, ⟨0x86, 0xA9, 1⟩, ⟨0xAB, 0xB1, 1⟩, ⟨0xB4, 0xB4, 1⟩, ⟨0xB6, 0xB8, 1⟩,
    ⟨0xBB, 0xBF, 1⟩, ⟨0xD7, 0xD7, 1⟩, ⟨0xF7, 0xF7, 1⟩, ⟨0x2B9, 0x2BA, 1⟩, ⟨0x2C2, 0x2CF, 1⟩,
    ⟨0x2D2, 0x2DF, 1⟩, ⟨0x2E5, 0x2ED, 1⟩, ⟨0x2EF, 0x2FF, 1⟩, ⟨0x374, 0x375, 1⟩, ⟨0x37E, 0x37E, 1⟩,
    ⟨0x384, 0x385, 1⟩, ⟨0x387, 0x387, 1⟩, ⟨0x3F6, 0x3F6, 1⟩, ⟨0x58A, 0x58F, 1⟩, ⟨0x606, 0x607, 1⟩,
    ⟨0x609, 0x60A, 1⟩, ⟨0x60C, 0x60C, 1⟩, ⟨0x60E, 0x60F, 1⟩, ⟨0x66A, 0x66A, 1⟩, ⟨0x6DE, 0x6DE, 1⟩,
    ⟨0x6E9, 0x6E9, 1⟩, ⟨0x7F6, 0x7F9, 1⟩, ⟨0x9F2, 0x9F3, 1⟩, ⟨0x9FB, 0x9FB, 1⟩, ⟨0xAF1, 0xAF1, 1⟩,
    ⟨0xBF3, 0xBFA, 1⟩, ⟨0xC78, 0xC7E, 1⟩, ⟨0xE3F, 0xE3F, 1⟩, ⟨0xF3A, 0xF3D, 1⟩, ⟨0x1390, 0x1399, 1⟩,
    ⟨0x1400, 0x1400, 1⟩, ⟨0x169B, 0x169C, 1⟩, ⟨0x17DB, 0x17DB, 1⟩, ⟨0x17F0, 0x180A, 1⟩,
    ⟨0x180E, 0x180E, 1⟩, ⟨0x1940, 0x1945, 1⟩, ⟨0x19DE, 0x19FF, 1⟩, ⟨0x1FBD, 0x1FBD, 1⟩,
    ⟨0x1FBF, 0x1FC1, 1⟩, ⟨0x1FCD, 0x1FCF, 1⟩, ⟨0x1FDD, 0x1FDF, 1⟩, ⟨0x1FED, 0x1FEF, 1⟩,
    ⟨0x1FFD, 0x1FFE, 1⟩, ⟨0x200B, 0x200D, 1⟩, ⟨0x2010, 0x2027, 1⟩, ⟨0x202F, 0x205E, 1⟩,
    ⟨0x2060, 0x2064, 1⟩, ⟨0x206A, 0x206F, 1⟩, ⟨0x207A, 0x207E, 1⟩, ⟨0x208A, 0x208E, 1⟩,
    ⟨0x20A0, 0x20C1, 1⟩, ⟨0x2100, 0x2101, 1⟩, ⟨0x2103, 0x2106, 1⟩, ⟨0x2108, 0x2109, 1⟩,
    ⟨0x2114, 0x2114, 1⟩, ⟨0x2116, 0x2118, 1⟩, ⟨0x211E, 0x2123, 1⟩, ⟨0x2125, 0x2125, 1⟩,
    ⟨0x2127, 0x2127, 1⟩, ⟨0x2129, 0x2129, 1⟩, ⟨0x212E, 0x212E, 1⟩, ⟨0x213A, 0x213B, 1⟩,
    ⟨0x2140, 0x2144, 1⟩, ⟨0x214A, 0x214D, 1⟩, ⟨0x2150, 0x215F, 1⟩, ⟨0x2189, 0x2335, 1⟩,
    ⟨0x237B, 0x2394, 1⟩, ⟨0x2396, 0x2487, 1⟩, ⟨0x24EA, 0x26AB, 1⟩, ⟨0x26AD, 0x27FF, 1⟩,
    ⟨0x2900, 0x2BFF, 1⟩, ⟨0x2CE5, 0x2CEA, 1⟩, ⟨0x2CF9, 0x2CFF, 1⟩, ⟨0x2E00, 0x2FFF, 1⟩,
    ⟨0x3001, 0x3004, 1⟩, ⟨0x3008, 0x3020, 1⟩, ⟨0x3030, 0x3030, 1⟩, ⟨0x3036, 0x3037, 1⟩,
    ⟨0x303D, 0x303F, 1⟩, ⟨0x309B, 0x309C, 1⟩, ⟨0x30A0, 0x30A0, 1⟩, ⟨0x30FB, 0x30FB, 1⟩,
    ⟨0x31C0, 0x31EF, 1⟩, ⟨0x321D, 0x321E, 1⟩, ⟨0x3250, 0x325F, 1⟩, ⟨0x327C, 0x327E, 1⟩,
    ⟨0x32B1, 0x32BF, 1⟩, ⟨0x32CC, 0x32CF, 1⟩, ⟨0x3377, 0x337A, 1⟩, ⟨0x33DE, 0x33DF, 1⟩,
    ⟨0x33FF, 0x33FF, 1⟩, ⟨0x4DC0, 0x4DFF, 1⟩, ⟨0xA490, 0xA4C6, 1⟩, ⟨0xA60D, 0xA60F, 1⟩,
    ⟨0xA673, 0xA673, 1⟩, ⟨0xA67E, 0xA67F, 1⟩, ⟨0xA700, 0xA721, 1⟩, ⟨0xA788, 0xA788, 1⟩,
    ⟨0xA828, 0xA82B, 1⟩, ⟨0xA838, 0xA839, 1⟩, ⟨0xA874, 0xA877, 1⟩, ⟨0xAB6A, 0xAB6B, 1⟩,
    ⟨0xFB29, 0xFB29, 1⟩, ⟨0xFBC3, 0xFBD2, 1⟩, ⟨0xFD3E, 0xFD4F, 1⟩, ⟨0xFD90, 0xFD91, 1⟩,
    ⟨0xFDC8, 0xFDCF, 1⟩, ⟨0xFDFD, 0xFDFF, 1⟩, ⟨0xFE10, 0xFE19, 1⟩, ⟨0xFE30, 0xFE6B, 1⟩,
    ⟨0xFEFF, 0xFF0F, 1⟩, ⟨0xFF1A, 0xFF20, 1⟩, ⟨0xFF3B, 0xFF40, 1⟩, ⟨0xFF5B, 0xFF65, 1⟩,
    ⟨0xFFE0, 0xFFFD, 1⟩, ⟨0x10101, 0x10101, 1⟩, ⟨0x10140, 0x1018C, 1⟩, ⟨0x10190, 0x101A0, 1⟩,
    ⟨0x1091F, 0x1091F, 1⟩, ⟨0x10B39, 0x10B3F, 1⟩, ⟨0x10D6E, 0x10D6E, 1⟩, ⟨0x10ED0, 0x10ED8, 1⟩,
    ⟨0x11052, 0x11065, 1⟩, ⟨0x11660, 0x1166C, 1⟩, ⟨0x11FD5, 0x11FF1, 1⟩, ⟨0x16FE2, 0x16FE2, 1⟩,
    ⟨0x1BCA0, 0x1CCD5, 1⟩, ⟨0x1CCFA, 0x1CEF0, 1⟩, ⟨0x1D173, 0x1D17A, 1⟩, ⟨0x1D1E9, 0x1D241, 1⟩,
    ⟨0x1D245, 0x1D245, 1⟩, ⟨0x1D300, 0x1D356, 1⟩, ⟨0x1D6C1, 0x1D6C1, 1⟩, ⟨0x1D6DB, 0x1D6DB, 1⟩,
    ⟨0x1D6FB, 0x1D6FB, 1⟩, ⟨0x1D715, 0x1D715, 1⟩, ⟨0x1D735, 0x1D735, 1⟩, ⟨0x1D74F, 0x1D74F, 1⟩,
    ⟨0x1D76F, 0x1D76F, 1⟩, ⟨0x1D789, 0x1D789, 1⟩, ⟨0x1D7A9, 0x1D7A9, 1⟩, ⟨0x1D7C3, 0x1D7C3, 1⟩,
    ⟨0x1E2FF, 0x1E2FF, 1⟩, ⟨0x1EEF0, 0x1F0F5, 1⟩, ⟨0x1F10B, 0x1F10F, 1⟩, ⟨0x1F12F, 0x1F12F, 1⟩,
    ⟨0x1F16A, 0x1F16F, 1⟩, ⟨0x1F1AD, 0x1F1AD, 1⟩, ⟨0x1F260, 0x1FBEF, 1⟩, ⟨0x1FBFA, 0x1FBFA, 1⟩,
    ⟨0xE0001, 0xE007F, 1⟩ ]

/-- Marks that are written from left to right like letters. -/
def directedMark : List Run :=
  [ ⟨0xCBF, 0xCBF, 1⟩, ⟨0xCC6, 0xCC6, 1⟩, ⟨0x11A07, 0x11A08, 1⟩, ⟨0x11C3F, 0x11C3F, 1⟩ ]

end UrlQuery.Unicode
