import UpnpAv.Url.Domain.Mark

/-!
# Direction of writing

A domain with letters written from right to left must be readable in one way
only.  Each of its labels has letters of one direction, begins with one of them,
and does not mix the two kinds of digits.
-/

namespace UpnpAv
namespace Url
namespace Domain

open Text (Ranges)

/-- What a character says about the direction of the text around it. -/
inductive Direction where
  /-- A letter written from left to right. -/
  | leftToRight
  /-- A letter written from right to left. -/
  | rightToLeft
  /-- A digit of the kind used everywhere. -/
  | commonDigit
  /-- A digit used only among letters written from right to left. -/
  | arabicDigit
  /-- A mark that takes no place of its own. -/
  | mark
  /-- A sign that says nothing. -/
  | neutral
deriving Repr, DecidableEq

/-- Letters written from right to left. -/
def rightToLeftLetters : Ranges :=
  #[
    (0x5BE, 0x5BE), (0x5C0, 0x5C0), (0x5C3, 0x5C3), (0x5C6, 0x5C6), (0x5D0, 0x5F4),
    (0x608, 0x608), (0x60B, 0x60B), (0x60D, 0x60D), (0x61B, 0x64A), (0x66D, 0x66F),
    (0x671, 0x6D5), (0x6E5, 0x6E6), (0x6EE, 0x6EF), (0x6FA, 0x710), (0x712, 0x72F),
    (0x74D, 0x7A5), (0x7B1, 0x7EA), (0x7F4, 0x7F5), (0x7FA, 0x7FA), (0x7FE, 0x815),
    (0x81A, 0x81A), (0x824, 0x824), (0x828, 0x828), (0x830, 0x858), (0x85E, 0x88F),
    (0x8A0, 0x8C9), (0x2135, 0x2138), (0xFB1D, 0xFB1D), (0xFB1F, 0xFB28), (0xFB2A, 0xFBC2),
    (0xFBD3, 0xFD3D), (0xFD50, 0xFD8F), (0xFD92, 0xFDC7), (0xFDF0, 0xFDFC), (0xFE70, 0xFEFC),
    (0x10800, 0x1091B), (0x10920, 0x10A00), (0x10A10, 0x10A35), (0x10A40, 0x10AE4),
    (0x10AEB, 0x10B35), (0x10B40, 0x10BAF), (0x10C00, 0x10D23), (0x10D4A, 0x10D65),
    (0x10D6F, 0x10D8F), (0x10E80, 0x10EA9), (0x10EAD, 0x10EC7), (0x10F00, 0x10F45),
    (0x10F51, 0x10F81), (0x10F86, 0x10FF6), (0x1E800, 0x1E8CF), (0x1E900, 0x1E943),
    (0x1E94B, 0x1E95F), (0x1EC71, 0x1ECB4), (0x1ED01, 0x1ED3D), (0x1EE00, 0x1EEBB)
  ]

/-- Digits used only among letters written from right to left. -/
def arabicDigits : Ranges :=
  #[
    (0x660, 0x669), (0x66B, 0x66C), (0x10D30, 0x10D49), (0x10E60, 0x10E7E)
  ]

/-- Digits used everywhere. -/
def commonDigits : Ranges :=
  #[
    (0x30, 0x39), (0xB2, 0xB3), (0xB9, 0xB9), (0xBC, 0xBE), (0x6F0, 0x6F9), (0x2070, 0x2070),
    (0x2074, 0x2079), (0x2080, 0x2089), (0x2150, 0x215E), (0x2189, 0x2189), (0xFF10, 0xFF19),
    (0x102E1, 0x102FB), (0x1CCF0, 0x1CCF9), (0x1D7CE, 0x1D7FF), (0x1F101, 0x1F10A),
    (0x1FBF0, 0x1FBF9)
  ]

/-- Signs that say nothing about the direction. -/
def neutralSigns : Ranges :=
  #[
    (0x21, 0x2F), (0x3A, 0x40), (0x5B, 0x60), (0x7B, 0x7E), (0xA0, 0xA9), (0xAB, 0xB1),
    (0xB4, 0xB4), (0xB6, 0xB8), (0xBB, 0xBB), (0xBF, 0xBF), (0xD7, 0xD7), (0xF7, 0xF7),
    (0x2B9, 0x2BA), (0x2C2, 0x2CF), (0x2D2, 0x2DF), (0x2E5, 0x2ED), (0x2EF, 0x2FF),
    (0x374, 0x375), (0x37E, 0x37E), (0x384, 0x385), (0x387, 0x387), (0x3F6, 0x3F6),
    (0x58A, 0x58F), (0x606, 0x607), (0x609, 0x60A), (0x60C, 0x60C), (0x60E, 0x60F),
    (0x66A, 0x66A), (0x6DE, 0x6DE), (0x6E9, 0x6E9), (0x7F6, 0x7F9), (0x9F2, 0x9F3),
    (0x9FB, 0x9FB), (0xAF1, 0xAF1), (0xBF3, 0xBFA), (0xC78, 0xC7E), (0xE3F, 0xE3F),
    (0xF3A, 0xF3D), (0x1390, 0x1399), (0x1400, 0x1400), (0x169B, 0x169C), (0x17DB, 0x17DB),
    (0x17F0, 0x180A), (0x1940, 0x1945), (0x19DE, 0x19FF), (0x1FBD, 0x1FBD), (0x1FBF, 0x1FC1),
    (0x1FCD, 0x1FCF), (0x1FDD, 0x1FDF), (0x1FED, 0x1FEF), (0x1FFD, 0x205F), (0x207A, 0x207E),
    (0x208A, 0x208E), (0x20A0, 0x20C1), (0x2100, 0x2101), (0x2103, 0x2106), (0x2108, 0x2109),
    (0x2114, 0x2114), (0x2116, 0x2118), (0x211E, 0x2123), (0x2125, 0x2125), (0x2127, 0x2127),
    (0x2129, 0x2129), (0x212E, 0x212E), (0x213A, 0x213B), (0x2140, 0x2144), (0x214A, 0x214D),
    (0x215F, 0x215F), (0x218A, 0x2335), (0x237B, 0x2394), (0x2396, 0x2487), (0x24EA, 0x26AB),
    (0x26AD, 0x27FF), (0x2900, 0x2BFF), (0x2CE5, 0x2CEA), (0x2CF9, 0x2CFF), (0x2E00, 0x2E9E),
    (0x2EA0, 0x2EF2), (0x3000, 0x3004), (0x3008, 0x3020), (0x3030, 0x3030), (0x3036, 0x3037),
    (0x303D, 0x303F), (0x309B, 0x309C), (0x30A0, 0x30A0), (0x30FB, 0x30FB), (0x31C0, 0x31E5),
    (0x321D, 0x321E), (0x3250, 0x325F), (0x32B1, 0x32BF), (0x32CC, 0x32CF), (0x3377, 0x337A),
    (0x33FF, 0x33FF), (0x4DC0, 0x4DFF), (0xA490, 0xA4C6), (0xA60D, 0xA60F), (0xA673, 0xA673),
    (0xA67E, 0xA67F), (0xA700, 0xA721), (0xA788, 0xA788), (0xA828, 0xA82B), (0xA838, 0xA839),
    (0xA874, 0xA877), (0xAB6A, 0xAB6B), (0xFB29, 0xFB29), (0xFBC3, 0xFBD2), (0xFD3E, 0xFD4F),
    (0xFD90, 0xFD91), (0xFDC8, 0xFDCF), (0xFDFD, 0xFE18), (0xFE31, 0xFE6B), (0xFF01, 0xFF0F),
    (0xFF1A, 0xFF20), (0xFF3B, 0xFF40), (0xFF5B, 0xFF65), (0xFFE0, 0xFFEE), (0x10101, 0x10101),
    (0x10140, 0x1018C), (0x10190, 0x101A0), (0x1091F, 0x1091F), (0x10B39, 0x10B3F),
    (0x10D6E, 0x10D6E), (0x10ED0, 0x10ED8), (0x11052, 0x11065), (0x11660, 0x1166C),
    (0x11FD5, 0x11FF1), (0x16FE2, 0x16FE2), (0x1CC00, 0x1CCD5), (0x1CCFA, 0x1CEF0),
    (0x1D1E9, 0x1D241), (0x1D245, 0x1D245), (0x1D300, 0x1D356), (0x1D6C1, 0x1D6C1),
    (0x1D6DB, 0x1D6DB), (0x1D6FB, 0x1D6FB), (0x1D715, 0x1D715), (0x1D735, 0x1D735),
    (0x1D74F, 0x1D74F), (0x1D76F, 0x1D76F), (0x1D789, 0x1D789), (0x1D7A9, 0x1D7A9),
    (0x1D7C3, 0x1D7C3), (0x1E2FF, 0x1E2FF), (0x1EEF0, 0x1EEF1), (0x1F000, 0x1F0F5),
    (0x1F10B, 0x1F10F), (0x1F12F, 0x1F12F), (0x1F16A, 0x1F16F), (0x1F1AD, 0x1F1AD),
    (0x1F260, 0x1F265), (0x1F300, 0x1FBEF), (0x1FBFA, 0x1FBFA)
  ]

/-- What a character says about the direction. -/
def direction (c : Char) : Direction :=
  if rightToLeftLetters.contains c then .rightToLeft
  else if arabicDigits.contains c then .arabicDigit
  else if commonDigits.contains c then .commonDigit
  else if placelessMarks.contains c then .mark
  else if neutralSigns.contains c then .neutral
  else .leftToRight

/-- The last direction of a label, apart from marks. -/
def lastDirection? (label : List Direction) : Option Direction :=
  label.reverse.find? (· ≠ .mark)

/-- Whether a label written from left to right is readable in one way. -/
def isLeftToRightLabel (label : List Direction) : Bool :=
  label.all (fun d => d ≠ .rightToLeft && d ≠ .arabicDigit) &&
    (lastDirection? label).any fun d => d == .leftToRight || d == .commonDigit

/-- Whether a label written from right to left is readable in one way. -/
def isRightToLeftLabel (label : List Direction) : Bool :=
  !label.contains .leftToRight &&
    !(label.contains .commonDigit && label.contains .arabicDigit) &&
    (lastDirection? label).any fun d => d ≠ .neutral

/-- Whether a label is readable in one way among labels written from right to left. -/
def isReadable (label : List Direction) : Bool :=
  match label with
  | [] => true
  | .leftToRight :: _ => isLeftToRightLabel label
  | .rightToLeft :: _ => isRightToLeftLabel label
  | _ :: _ => false

/-- Whether the labels of a domain are readable in one way. -/
def areReadable (labels : List (List Char)) : Bool :=
  let directions := labels.map fun label => label.map direction
  let needed := directions.any fun label =>
    label.contains .rightToLeft || label.contains .arabicDigit
  !needed || directions.all isReadable

end Domain
end Url
end UpnpAv
