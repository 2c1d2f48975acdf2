import ResourceBundle.Text.Ranges

/-! # Presentation forms

A block `(start, [s₀, s₁, …])` says that the code points `start`, `start + 1`, … are replaced by
`s₀`, `s₁`, … -/

namespace ResourceBundle.Text.Normal

/-- Ligatures and Arabic presentation forms, first part. -/
def ligatureForms : List (Nat × List (List Nat)) := [
  (0xFB00, [[0x0066, 0x0066], [0x0066, 0x0069], [0x0066, 0x006C], [0x0066, 0x0066, 0x0069],
    [0x0066, 0x0066, 0x006C], [0x0073, 0x0074], [0x0073, 0x0074]]),
  (0xFB13, [[0x0574, 0x0576], [0x0574, 0x0565], [0x0574, 0x056B], [0x057E, 0x0576], [0x0574,
    0x056D]]),
  (0xFB1D, [[0x05D9, 0x05B4]]),
  (0xFB1F, [[0x05F2, 0x05B7], [0x05E2], [0x05D0], [0x05D3], [0x05D4], [0x05DB], [0x05DC],
    [0x05DD], [0x05E8], [0x05EA], [0x002B], [0x05E9, 0x05C1], [0x05E9, 0x05C2], [0x05E9, 0x05BC,
    0x05C1], [0x05E9, 0x05BC, 0x05C2], [0x05D0, 0x05B7], [0x05D0, 0x05B8], [0x05D0, 0x05BC],
    [0x05D1, 0x05BC], [0x05D2, 0x05BC], [0x05D3, 0x05BC], [0x05D4, 0x05BC], [0x05D5, 0x05BC],
    [0x05D6, 0x05BC]]),
  (0xFB38, [[0x05D8, 0x05BC], [0x05D9, 0x05BC], [0x05DA, 0x05BC], [0x05DB, 0x05BC], [0x05DC,
    0x05BC]]),
  (0xFB3E, [[0x05DE, 0x05BC]]),
  (0xFB40, [[0x05E0, 0x05BC], [0x05E1, 0x05BC]]),
  (0xFB43, [[0x05E3, 0x05BC], [0x05E4, 0x05BC]]),
  (0xFB46, [[0x05E6, 0x05BC], [0x05E7, 0x05BC], [0x05E8, 0x05BC], [0x05E9, 0x05BC], [0x05EA,
    0x05BC], [0x05D5, 0x05B9], [0x05D1, 0x05BF], [0x05DB, 0x05BF], [0x05E4, 0x05BF], [0x05D0,
    0x05DC], [0x0671], [0x0671], [0x067B], [0x067B], [0x067B], [0x067B], [0x067E], [0x067E],
    [0x067E], [0x067E], [0x0680], [0x0680], [0x0680], [0x0680], [0x067A], [0x067A], [0x067A],
    [0x067A], [0x067F], [0x067F], [0x067F], [0x067F], [0x0679], [0x0679], [0x0679], [0x0679],
    [0x06A4], [0x06A4], [0x06A4], [0x06A4], [0x06A6], [0x06A6], [0x06A6], [0x06A6], [0x0684],
    [0x0684], [0x0684], [0x0684], [0x0683], [0x0683], [0x0683], [0x0683], [0x0686], [0x0686],
    [0x0686], [0x0686], [0x0687], [0x0687], [0x0687], [0x0687], [0x068D], [0x068D], [0x068C],
    [0x068C]]),
  (0xFB86, [[0x068E], [0x068E], [0x0688], [0x0688], [0x0698], [0x0698], [0x0691], [0x0691],
    [0x06A9], [0x06A9], [0x06A9], [0x06A9], [0x06AF], [0x06AF], [0x06AF], [0x06AF], [0x06B3],
    [0x06B3], [0x06B3], [0x06B3], [0x06B1], [0x06B1], [0x06B1], [0x06B1], [0x06BA], [0x06BA],
    [0x06BB], [0x06BB], [0x06BB], [0x06BB], [0x06D5, 0x0654], [0x06D5, 0x0654], [0x06C1],
    [0x06C1], [0x06C1], [0x06C1], [0x06BE], [0x06BE], [0x06BE], [0x06BE], [0x06D2], [0x06D2],
    [0x06D2, 0x0654], [0x06D2, 0x0654]]),
  (0xFBD3, [[0x06AD], [0x06AD], [0x06AD], [0x06AD], [0x06C7], [0x06C7], [0x06C6], [0x06C6],
    [0x06C8], [0x06C8], [0x06C7, 0x0674], [0x06CB], [0x06CB], [0x06C5], [0x06C5], [0x06C9],
    [0x06C9], [0x06D0], [0x06D0], [0x06D0], [0x06D0], [0x0649], [0x0649], [0x064A, 0x0654,
    0x0627], [0x064A, 0x0654, 0x0627], [0x064A, 0x0654, 0x06D5], [0x064A, 0x0654, 0x06D5],
    [0x064A, 0x0654, 0x0648], [0x064A, 0x0654, 0x0648], [0x064A, 0x0654, 0x06C7], [0x064A,
    0x0654, 0x06C7], [0x064A, 0x0654, 0x06C6], [0x064A, 0x0654, 0x06C6], [0x064A, 0x0654,
    0x06C8], [0x064A, 0x0654, 0x06C8], [0x064A, 0x0654, 0x06D0], [0x064A, 0x0654, 0x06D0],
    [0x064A, 0x0654, 0x06D0], [0x064A, 0x0654, 0x0649], [0x064A, 0x0654, 0x0649], [0x064A,
    0x0654, 0x0649], [0x06CC], [0x06CC], [0x06CC], [0x06CC], [0x064A, 0x0654, 0x062C], [0x064A,
    0x0654, 0x062D], [0x064A, 0x0654, 0x0645], [0x064A, 0x0654, 0x0649], [0x064A, 0x0654,
    0x064A], [0x0628, 0x062C], [0x0628, 0x062D], [0x0628, 0x062E], [0x0628, 0x0645], [0x0628,
    0x0649], [0x0628, 0x064A], [0x062A, 0x062C], [0x062A, 0x062D], [0x062A, 0x062E], [0x062A,
    0x0645], [0x062A, 0x0649], [0x062A, 0x064A], [0x062B, 0x062C], [0x062B, 0x0645]]),
  (0xFC13, [[0x062B, 0x0649], [0x062B, 0x064A], [0x062C, 0x062D], [0x062C, 0x0645], [0x062D,
    0x062C], [0x062D, 0x0645], [0x062E, 0x062C], [0x062E, 0x062D], [0x062E, 0x0645], [0x0633,
    0x062C], [0x0633, 0x062D], [0x0633, 0x062E], [0x0633, 0x0645], [0x0635, 0x062D], [0x0635,
    0x0645], [0x0636, 0x062C], [0x0636, 0x062D], [0x0636, 0x062E], [0x0636, 0x0645], [0x0637,
    0x062D], [0x0637, 0x0645], [0x0638, 0x0645], [0x0639, 0x062C], [0x0639, 0x0645], [0x063A,
    0x062C], [0x063A, 0x0645], [0x0641, 0x062C], [0x0641, 0x062D], [0x0641, 0x062E], [0x0641,
    0x0645], [0x0641, 0x0649], [0x0641, 0x064A], [0x0642, 0x062D], [0x0642, 0x0645], [0x0642,
    0x0649], [0x0642, 0x064A], [0x0643, 0x0627], [0x0643, 0x062C], [0x0643, 0x062D], [0x0643,
    0x062E], [0x0643, 0x0644], [0x0643, 0x0645], [0x0643, 0x0649], [0x0643, 0x064A], [0x0644,
    0x062C], [0x0644, 0x062D], [0x0644, 0x062E], [0x0644, 0x0645], [0x0644, 0x0649], [0x0644,
    0x064A], [0x0645, 0x062C], [0x0645, 0x062D], [0x0645, 0x062E], [0x0645, 0x0645], [0x0645,
    0x0649], [0x0645, 0x064A], [0x0646, 0x062C], [0x0646, 0x062D], [0x0646, 0x062E], [0x0646,
    0x0645], [0x0646, 0x0649], [0x0646, 0x064A], [0x0647, 0x062C], [0x0647, 0x0645]]),
  (0xFC53, [[0x0647, 0x0649], [0x0647, 0x064A], [0x064A, 0x062C], [0x064A, 0x062D], [0x064A,
    0x062E], [0x064A, 0x0645], [0x064A, 0x0649], [0x064A, 0x064A], [0x0630, 0x0670], [0x0631,
    0x0670], [0x0649, 0x0670], [0x0020, 0x064C, 0x0651], [0x0020, 0x064D, 0x0651], [0x0020,
    0x064E, 0x0651], [0x0020, 0x064F, 0x0651], [0x0020, 0x0650, 0x0651], [0x0020, 0x0651,
    0x0670], [0x064A, 0x0654, 0x0631], [0x064A, 0x0654, 0x0632], [0x064A, 0x0654, 0x0645],
    [0x064A, 0x0654, 0x0646], [0x064A, 0x0654, 0x0649], [0x064A, 0x0654, 0x064A], [0x0628,
    0x0631], [0x0628, 0x0632], [0x0628, 0x0645], [0x0628, 0x0646], [0x0628, 0x0649], [0x0628,
    0x064A], [0x062A, 0x0631], [0x062A, 0x0632], [0x062A, 0x0645], [0x062A, 0x0646], [0x062A,
    0x0649], [0x062A, 0x064A], [0x062B, 0x0631], [0x062B, 0x0632], [0x062B, 0x0645], [0x062B,
    0x0646], [0x062B, 0x0649], [0x062B, 0x064A], [0x0641, 0x0649], [0x0641, 0x064A], [0x0642,
    0x0649], [0x0642, 0x064A], [0x0643, 0x0627], [0x0643, 0x0644], [0x0643, 0x0645], [0x0643,
    0x0649], [0x0643, 0x064A], [0x0644, 0x0645], [0x0644, 0x0649], [0x0644, 0x064A], [0x0645,
    0x0627], [0x0645, 0x0645], [0x0646, 0x0631], [0x0646, 0x0632], [0x0646, 0x0645], [0x0646,
    0x0646], [0x0646, 0x0649], [0x0646, 0x064A], [0x0649, 0x0670], [0x064A, 0x0631], [0x064A,
    0x0632]]),
  (0xFC93, [[0x064A, 0x0645], [0x064A, 0x0646], [0x064A, 0x0649], [0x064A, 0x064A], [0x064A,
    0x0654, 0x062C], [0x064A, 0x0654, 0x062D], [0x064A, 0x0654, 0x062E], [0x064A, 0x0654,
    0x0645], [0x064A, 0x0654, 0x0647], [0x0628, 0x062C], [0x0628, 0x062D], [0x0628, 0x062E],
    [0x0628, 0x0645], [0x0628, 0x0647], [0x062A, 0x062C], [0x062A, 0x062D], [0x062A, 0x062E],
    [0x062A, 0x0645], [0x062A, 0x0647], [0x062B, 0x0645], [0x062C, 0x062D], [0x062C, 0x0645],
    [0x062D, 0x062C], [0x062D, 0x0645], [0x062E, 0x062C], [0x062E, 0x0645], [0x0633, 0x062C],
    [0x0633, 0x062D], [0x0633, 0x062E], [0x0633, 0x0645], [0x0635, 0x062D], [0x0635, 0x062E],
    [0x0635, 0x0645], [0x0636, 0x062C], [0x0636, 0x062D], [0x0636, 0x062E], [0x0636, 0x0645],
    [0x0637, 0x062D], [0x0638, 0x0645], [0x0639, 0x062C], [0x0639, 0x0645], [0x063A, 0x062C],
    [0x063A, 0x0645], [0x0641, 0x062C], [0x0641, 0x062D], [0x0641, 0x062E], [0x0641, 0x0645],
    [0x0642, 0x062D], [0x0642, 0x0645], [0x0643, 0x062C], [0x0643, 0x062D], [0x0643, 0x062E],
    [0x0643, 0x0644], [0x0643, 0x0645], [0x0644, 0x062C], [0x0644, 0x062D], [0x0644, 0x062E],
    [0x0644, 0x0645], [0x0644, 0x0647], [0x0645, 0x062C], [0x0645, 0x062D], [0x0645, 0x062E],
    [0x0645, 0x0645], [0x0646, 0x062C]]),
  (0xFCD3, [[0x0646, 0x062D], [0x0646, 0x062E], [0x0646, 0x0645], [0x0646, 0x0647], [0x0647,
    0x062C], [0x0647, 0x0645], [0x0647, 0x0670], [0x064A, 0x062C], [0x064A, 0x062D], [0x064A,
    0x062E], [0x064A, 0x0645], [0x064A, 0x0647], [0x064A, 0x0654, 0x0645], [0x064A, 0x0654,
    0x0647], [0x0628, 0x0645], [0x0628, 0x0647], [0x062A, 0x0645], [0x062A, 0x0647], [0x062B,
    0x0645], [0x062B, 0x0647], [0x0633, 0x0645], [0x0633, 0x0647], [0x0634, 0x0645], [0x0634,
    0x0647], [0x0643, 0x0644], [0x0643, 0x0645], [0x0644, 0x0645], [0x0646, 0x0645], [0x0646,
    0x0647], [0x064A, 0x0645], [0x064A, 0x0647], [0x0640, 0x064E, 0x0651], [0x0640, 0x064F,
    0x0651], [0x0640, 0x0650, 0x0651], [0x0637, 0x0649], [0x0637, 0x064A], [0x0639, 0x0649],
    [0x0639, 0x064A], [0x063A, 0x0649], [0x063A, 0x064A], [0x0633, 0x0649], [0x0633, 0x064A],
    [0x0634, 0x0649], [0x0634, 0x064A], [0x062D, 0x0649], [0x062D, 0x064A], [0x062C, 0x0649],
    [0x062C, 0x064A], [0x062E, 0x0649], [0x062E, 0x064A], [0x0635, 0x0649], [0x0635, 0x064A],
    [0x0636, 0x0649], [0x0636, 0x064A], [0x0634, 0x062C], [0x0634, 0x062D], [0x0634, 0x062E],
    [0x0634, 0x0645], [0x0634, 0x0631], [0x0633, 0x0631], [0x0635, 0x0631], [0x0636, 0x0631],
    [0x0637, 0x0649], [0x0637, 0x064A]]),
  (0xFD13, [[0x0639, 0x0649], [0x0639, 0x064A], [0x063A, 0x0649], [0x063A, 0x064A], [0x0633,
    0x0649], [0x0633, 0x064A], [0x0634, 0x0649], [0x0634, 0x064A], [0x062D, 0x0649], [0x062D,
    0x064A], [0x062C, 0x0649], [0x062C, 0x064A], [0x062E, 0x0649], [0x062E, 0x064A], [0x0635,
    0x0649], [0x0635, 0x064A], [0x0636, 0x0649], [0x0636, 0x064A], [0x0634, 0x062C], [0x0634,
    0x062D], [0x0634, 0x062E], [0x0634, 0x0645], [0x0634, 0x0631], [0x0633, 0x0631], [0x0635,
    0x0631], [0x0636, 0x0631], [0x0634, 0x062C], [0x0634, 0x062D], [0x0634, 0x062E], [0x0634,
    0x0645], [0x0633, 0x0647], [0x0634, 0x0647], [0x0637, 0x0645], [0x0633, 0x062C], [0x0633,
    0x062D], [0x0633, 0x062E], [0x0634, 0x062C], [0x0634, 0x062D], [0x0634, 0x062E], [0x0637,
    0x0645], [0x0638, 0x0645], [0x0627, 0x064B], [0x0627, 0x064B]])]

/-- Arabic presentation forms, second part, and vertical and halfwidth forms. -/
def presentationForms : List (Nat × List (List Nat)) := [
  (0xFD50, [[0x062A, 0x062C, 0x0645], [0x062A, 0x062D, 0x062C], [0x062A, 0x062D, 0x062C],
    [0x062A, 0x062D, 0x0645], [0x062A, 0x062E, 0x0645], [0x062A, 0x0645, 0x062C], [0x062A,
    0x0645, 0x062D], [0x062A, 0x0645, 0x062E], [0x062C, 0x0645, 0x062D], [0x062C, 0x0645,
    0x062D], [0x062D, 0x0645, 0x064A], [0x062D, 0x0645, 0x0649], [0x0633, 0x062D, 0x062C],
    [0x0633, 0x062C, 0x062D], [0x0633, 0x062C, 0x0649], [0x0633, 0x0645, 0x062D], [0x0633,
    0x0645, 0x062D], [0x0633, 0x0645, 0x062C], [0x0633, 0x0645, 0x0645], [0x0633, 0x0645,
    0x0645], [0x0635, 0x062D, 0x062D], [0x0635, 0x062D, 0x062D], [0x0635, 0x0645, 0x0645],
    [0x0634, 0x062D, 0x0645], [0x0634, 0x062D, 0x0645], [0x0634, 0x062C, 0x064A], [0x0634,
    0x0645, 0x062E], [0x0634, 0x0645, 0x062E], [0x0634, 0x0645, 0x0645], [0x0634, 0x0645,
    0x0645], [0x0636, 0x062D, 0x0649], [0x0636, 0x062E, 0x0645], [0x0636, 0x062E, 0x0645],
    [0x0637, 0x0645, 0x062D], [0x0637, 0x0645, 0x062D], [0x0637, 0x0645, 0x0645], [0x0637,
    0x0645, 0x064A], [0x0639, 0x062C, 0x0645], [0x0639, 0x0645, 0x0645], [0x0639, 0x0645,
    0x0645], [0x0639, 0x0645, 0x0649], [0x063A, 0x0645, 0x0645], [0x063A, 0x0645, 0x064A],
    [0x063A, 0x0645, 0x0649], [0x0641, 0x062E, 0x0645], [0x0641, 0x062E, 0x0645], [0x0642,
    0x0645, 0x062D], [0x0642, 0x0645, 0x0645], [0x0644, 0x062D, 0x0645], [0x0644, 0x062D,
    0x064A], [0x0644, 0x062D, 0x0649], [0x0644, 0x062C, 0x062C], [0x0644, 0x062C, 0x062C],
    [0x0644, 0x062E, 0x0645], [0x0644, 0x062E, 0x0645], [0x0644, 0x0645, 0x062D], [0x0644,
    0x0645, 0x062D], [0x0645, 0x062D, 0x062C], [0x0645, 0x062D, 0x0645], [0x0645, 0x062D,
    0x064A], [0x0645, 0x062C, 0x062D], [0x0645, 0x062C, 0x0645], [0x0645, 0x062E, 0x062C],
    [0x0645, 0x062E, 0x0645]]),
  (0xFD92, [[0x0645, 0x062C, 0x062E], [0x0647, 0x0645, 0x062C], [0x0647, 0x0645, 0x0645],
    [0x0646, 0x062D, 0x0645], [0x0646, 0x062D, 0x0649], [0x0646, 0x062C, 0x0645], [0x0646,
    0x062C, 0x0645], [0x0646, 0x062C, 0x0649], [0x0646, 0x0645, 0x064A], [0x0646, 0x0645,
    0x0649], [0x064A, 0x0645, 0x0645], [0x064A, 0x0645, 0x0645], [0x0628, 0x062E, 0x064A],
    [0x062A, 0x062C, 0x064A], [0x062A, 0x062C, 0x0649], [0x062A, 0x062E, 0x064A], [0x062A,
    0x062E, 0x0649], [0x062A, 0x0645, 0x064A], [0x062A, 0x0645, 0x0649], [0x062C, 0x0645,
    0x064A], [0x062C, 0x062D, 0x0649], [0x062C, 0x0645, 0x0649], [0x0633, 0x062E, 0x0649],
    [0x0635, 0x062D, 0x064A], [0x0634, 0x062D, 0x064A], [0x0636, 0x062D, 0x064A], [0x0644,
    0x062C, 0x064A], [0x0644, 0x0645, 0x064A], [0x064A, 0x062D, 0x064A], [0x064A, 0x062C,
    0x064A], [0x064A, 0x0645, 0x064A], [0x0645, 0x0645, 0x064A], [0x0642, 0x0645, 0x064A],
    [0x0646, 0x062D, 0x064A], [0x0642, 0x0645, 0x062D], [0x0644, 0x062D, 0x0645], [0x0639,
    0x0645, 0x064A], [0x0643, 0x0645, 0x064A], [0x0646, 0x062C, 0x062D], [0x0645, 0x062E,
    0x064A], [0x0644, 0x062C, 0x0645], [0x0643, 0x0645, 0x0645], [0x0644, 0x062C, 0x0645],
    [0x0646, 0x062C, 0x062D], [0x062C, 0x062D, 0x064A], [0x062D, 0x062C, 0x064A], [0x0645,
    0x062C, 0x064A], [0x0641, 0x0645, 0x064A], [0x0628, 0x062D, 0x064A], [0x0643, 0x0645,
    0x0645], [0x0639, 0x062C, 0x0645], [0x0635, 0x0645, 0x0645], [0x0633, 0x062E, 0x064A],
    [0x0646, 0x062C, 0x064A]]),
  (0xFDF0, [[0x0635, 0x0644, 0x06D2], [0x0642, 0x0644, 0x06D2], [0x0627, 0x0644, 0x0644, 0x0647],
    [0x0627, 0x0643, 0x0628, 0x0631], [0x0645, 0x062D, 0x0645, 0x062F], [0x0635, 0x0644, 0x0639,
    0x0645], [0x0631, 0x0633, 0x0648, 0x0644], [0x0639, 0x0644, 0x064A, 0x0647], [0x0648, 0x0633,
    0x0644, 0x0645], [0x0635, 0x0644, 0x0649], [0x0635, 0x0644, 0x0649, 0x0020, 0x0627, 0x0644,
    0x0644, 0x0647, 0x0020, 0x0639, 0x0644, 0x064A, 0x0647, 0x0020, 0x0648, 0x0633, 0x0644,
    0x0645], [0x062C, 0x0644, 0x0020, 0x062C, 0x0644, 0x0627, 0x0644, 0x0647], [0x0631, 0x06CC,
    0x0627, 0x0644]]),
  (0xFE10, [[0x002C], [0x3001], [0x3002], [0x003A], [0x003B], [0x0021], [0x003F], [0x3016],
    [0x3017], [0x002E, 0x002E, 0x002E]]),
  (0xFE30, [[0x002E, 0x002E], [0x2014], [0x2013], [0x005F], [0x005F], [0x0028], [0x0029],
    [0x007B], [0x007D], [0x3014], [0x3015], [0x3010], [0x3011], [0x300A], [0x300B], [0x3008],
    [0x3009]]),
  (0xFE47, [[0x005B], [0x005D], [0x0020, 0x0305], [0x0020, 0x0305], [0x0020, 0x0305], [0x0020,
    0x0305], [0x005F], [0x005F], [0x005F], [0x002C], [0x3001], [0x002E]]),
  (0xFE54, [[0x003B], [0x003A], [0x003F], [0x0021], [0x2014], [0x0028], [0x0029], [0x007B],
    [0x007D], [0x3014], [0x3015], [0x0023], [0x0026], [0x002A], [0x002B], [0x002D], [0x003C],
    [0x003E], [0x003D]]),
  (0xFE68, [[0x005C], [0x0024], [0x0025], [0x0040]]),
  (0xFE70, [[0x0020, 0x064B], [0x0640, 0x064B], [0x0020, 0x064C]]),
  (0xFE74, [[0x0020, 0x064D]]),
  (0xFE76, [[0x0020, 0x064E], [0x0640, 0x064E], [0x0020, 0x064F], [0x0640, 0x064F], [0x0020,
    0x0650], [0x0640, 0x0650], [0x0020, 0x0651], [0x0640, 0x0651], [0x0020, 0x0652], [0x0640,
    0x0652], [0x0621], [0x0627, 0x0653], [0x0627, 0x0653], [0x0627, 0x0654], [0x0627, 0x0654],
    [0x0648, 0x0654], [0x0648, 0x0654], [0x0627, 0x0655], [0x0627, 0x0655], [0x064A, 0x0654],
    [0x064A, 0x0654], [0x064A, 0x0654], [0x064A, 0x0654], [0x0627], [0x0627], [0x0628], [0x0628],
    [0x0628], [0x0628], [0x0629], [0x0629], [0x062A], [0x062A], [0x062A], [0x062A], [0x062B],
    [0x062B], [0x062B], [0x062B], [0x062C], [0x062C], [0x062C], [0x062C], [0x062D], [0x062D],
    [0x062D], [0x062D], [0x062E], [0x062E], [0x062E], [0x062E], [0x062F], [0x062F], [0x0630],
    [0x0630], [0x0631], [0x0631], [0x0632], [0x0632], [0x0633], [0x0633], [0x0633], [0x0633],
    [0x0634]]),
  (0xFEB6, [[0x0634], [0x0634], [0x0634], [0x0635], [0x0635], [0x0635], [0x0635], [0x0636],
    [0x0636], [0x0636], [0x0636], [0x0637], [0x0637], [0x0637], [0x0637], [0x0638], [0x0638],
    [0x0638], [0x0638], [0x0639], [0x0639], [0x0639], [0x0639], [0x063A], [0x063A], [0x063A],
    [0x063A], [0x0641], [0x0641], [0x0641], [0x0641], [0x0642], [0x0642], [0x0642], [0x0642],
    [0x0643], [0x0643], [0x0643], [0x0643], [0x0644], [0x0644], [0x0644], [0x0644], [0x0645],
    [0x0645], [0x0645], [0x0645], [0x0646], [0x0646], [0x0646], [0x0646], [0x0647], [0x0647],
    [0x0647], [0x0647], [0x0648], [0x0648], [0x0649], [0x0649], [0x064A], [0x064A], [0x064A],
    [0x064A], [0x0644, 0x0627, 0x0653]]),
  (0xFEF6, [[0x0644, 0x0627, 0x0653], [0x0644, 0x0627, 0x0654], [0x0644, 0x0627, 0x0654],
    [0x0644, 0x0627, 0x0655], [0x0644, 0x0627, 0x0655], [0x0644, 0x0627], [0x0644, 0x0627]]),
  (0xFF5F, [[0x2985], [0x2986], [0x3002], [0x300C], [0x300D], [0x3001], [0x30FB], [0x30F2],
    [0x30A1], [0x30A3], [0x30A5], [0x30A7], [0x30A9], [0x30E3], [0x30E5], [0x30E7], [0x30C3],
    [0x30FC], [0x30A2], [0x30A4], [0x30A6], [0x30A8], [0x30AA], [0x30AB], [0x30AD], [0x30AF],
    [0x30B1], [0x30B3], [0x30B5], [0x30B7], [0x30B9], [0x30BB], [0x30BD], [0x30BF], [0x30C1],
    [0x30C4], [0x30C6], [0x30C8]]),
  (0xFF8B, [[0x30D2], [0x30D5], [0x30D8], [0x30DB]]),
  (0xFF94, [[0x30E4], [0x30E6]]),
  (0xFF9C, [[0x30EF], [0x30F3], [0x3099], [0x309A], [0x1160], [0x1100], [0x1101], [0x11AA],
    [0x1102], [0x11AC], [0x11AD], [0x1103], [0x1104], [0x1105]]),
  (0xFFB0, [[0x111A], [0x1106], [0x1107], [0x1108], [0x1121]]),
  (0xFFDA, [[0x1173], [0x1174], [0x1175]]),
  (0xFFE0, [[0x00A2], [0x00A3], [0x00AC], [0x0020, 0x0304], [0x00A6], [0x00A5], [0x20A9]]),
  (0xFFE8, [[0x2502]]),
  (0xFFED, [[0x25A0], [0x25CB]])]

/-- Compatible forms of the supplementary multilingual plane. -/
def supplementaryForms : List (Nat × List (List Nat)) := [
  (0x10781, [[0x02D0], [0x02D1], [0x00E6], [0x0299], [0x0253]]),
  (0x10787, [[0x02A3], [0xAB66], [0x02A5], [0x02A4], [0x0256], [0x0257], [0x1D91], [0x0258],
    [0x025E], [0x02A9], [0x0264], [0x0262], [0x0260], [0x029B], [0x0127], [0x029C], [0x0267],
    [0x0284], [0x02AA], [0x02AB], [0x026C], [0x1DF04], [0xA78E], [0x026E], [0x1DF05], [0x028E],
    [0x1DF06], [0x00F8], [0x0276], [0x0277], [0x0071], [0x027A], [0x1DF08], [0x027D], [0x027E],
    [0x0280], [0x02A8], [0x02A6], [0xAB67], [0x02A7], [0x0288], [0x2C71]]),
  (0x107B2, [[0x028F], [0x02A1], [0x02A2], [0x0298], [0x01C0], [0x01C1], [0x01C2], [0x1DF0A],
    [0x1DF1E]]),
  (0x1D15E, [[0x1D157, 0x1D165], [0x1D158, 0x1D165], [0x1D158, 0x1D165, 0x1D16E], [0x1D158,
    0x1D165, 0x1D16F], [0x1D158, 0x1D165, 0x1D170], [0x1D158, 0x1D165, 0x1D171], [0x1D158,
    0x1D165, 0x1D172]]),
  (0x1D1BB, [[0x1D1B9, 0x1D165], [0x1D1BA, 0x1D165], [0x1D1B9, 0x1D165, 0x1D16E], [0x1D1BA,
    0x1D165, 0x1D16E], [0x1D1B9, 0x1D165, 0x1D16F], [0x1D1BA, 0x1D165, 0x1D16F]]),
  (0x1D49C, [[0x0041]]),
  (0x1D49E, [[0x0043], [0x0044]]),
  (0x1D4A2, [[0x0047]]),
  (0x1D4A5, [[0x004A], [0x004B]]),
  (0x1D4BB, [[0x0066]]),
  (0x1D4BD, [[0x0068]]),
  (0x1D504, [[0x0041], [0x0042]]),
  (0x1D538, [[0x0041], [0x0042]]),
  (0x1D546, [[0x004F]]),
  (0x1D6A4, [[0x0131], [0x0237]]),
  (0x1D6B9, [[0x0398]]),
  (0x1D6C1, [[0x2207]]),
  (0x1D6DB, [[0x2202], [0x03B5], [0x03B8], [0x03BA], [0x03C6], [0x03C1], [0x03C0]]),
  (0x1D6F3, [[0x0398]]),
  (0x1D6FB, [[0x2207]]),
  (0x1D715, [[0x2202], [0x03B5], [0x03B8], [0x03BA], [0x03C6], [0x03C1], [0x03C0]]),
  (0x1D72D, [[0x0398]]),
  (0x1D735, [[0x2207]]),
  (0x1D74F, [[0x2202], [0x03B5], [0x03B8], [0x03BA], [0x03C6], [0x03C1], [0x03C0]]),
  (0x1D767, [[0x0398]]),
  (0x1D76F, [[0x2207]]),
  (0x1D789, [[0x2202], [0x03B5], [0x03B8], [0x03BA], [0x03C6], [0x03C1], [0x03C0]]),
  (0x1D7A1, [[0x0398]]),
  (0x1D7A9, [[0x2207]]),
  (0x1D7C3, [[0x2202], [0x03B5], [0x03B8], [0x03BA], [0x03C6], [0x03C1], [0x03C0], [0x03DC],
    [0x03DD]]),
  (0x1EE00, [[0x0627], [0x0628], [0x062C], [0x062F]]),
  (0x1EE05, [[0x0648], [0x0632], [0x062D], [0x0637], [0x064A]]),
  (0x1EE0E, [[0x0633], [0x0639], [0x0641], [0x0635], [0x0642], [0x0631], [0x0634], [0x062A],
    [0x062B], [0x062E], [0x0630], [0x0636], [0x0638], [0x063A], [0x066E], [0x06BA], [0x06A1],
    [0x066F]]),
  (0x1EE21, [[0x0628], [0x062C]]),
  (0x1EE24, [[0x0647]]),
  (0x1EE27, [[0x062D]]),
  (0x1EE29, [[0x064A]]),
  (0x1EE2E, [[0x0633], [0x0639], [0x0641], [0x0635], [0x0642]]),
  (0x1EE34, [[0x0634], [0x062A], [0x062B], [0x062E]]),
  (0x1EE39, [[0x0636]]),
  (0x1EE3B, [[0x063A]]),
  (0x1EE42, [[0x062C]]),
  (0x1EE47, [[0x062D]]),
  (0x1EE49, [[0x064A]]),
  (0x1EE4B, [[0x0644]]),
  (0x1EE4D, [[0x0646], [0x0633], [0x0639]]),
  (0x1EE51, [[0x0635], [0x0642]]),
  (0x1EE54, [[0x0634]]),
  (0x1EE57, [[0x062E]]),
  (0x1EE59, [[0x0636]]),
  (0x1EE5B, [[0x063A]]),
  (0x1EE5D, [[0x06BA]]),
  (0x1EE5F, [[0x066F]]),
  (0x1EE61, [[0x0628], [0x062C]]),
  (0x1EE64, [[0x0647]]),
  (0x1EE67, [[0x062D], [0x0637], [0x064A], [0x0643]]),
  (0x1EE6C, [[0x0645], [0x0646], [0x0633], [0x0639], [0x0641], [0x0635], [0x0642]]),
  (0x1EE74, [[0x0634], [0x062A], [0x062B], [0x062E]]),
  (0x1EE79, [[0x0636], [0x0638], [0x063A], [0x066E]]),
  (0x1EE7E, [[0x06A1]]),
  (0x1EE80, [[0x0627], [0x0628], [0x062C], [0x062F], [0x0647], [0x0648], [0x0632], [0x062D],
    [0x0637], [0x064A]]),
  (0x1EE8B, [[0x0644], [0x0645], [0x0646], [0x0633], [0x0639], [0x0641], [0x0635], [0x0642],
    [0x0631], [0x0634], [0x062A], [0x062B], [0x062E], [0x0630], [0x0636], [0x0638], [0x063A]]),
  (0x1EEA1, [[0x0628], [0x062C], [0x062F]]),
  (0x1EEA5, [[0x0648], [0x0632], [0x062D], [0x0637], [0x064A]]),
  (0x1EEAB, [[0x0644], [0x0645], [0x0646], [0x0633], [0x0639], [0x0641], [0x0635], [0x0642],
    [0x0631], [0x0634], [0x062A], [0x062B], [0x062E], [0x0630], [0x0636], [0x0638], [0x063A]]),
  (0x1F100, [[0x0030, 0x002E], [0x0030, 0x002C], [0x0031, 0x002C], [0x0032, 0x002C], [0x0033,
    0x002C], [0x0034, 0x002C], [0x0035, 0x002C], [0x0036, 0x002C], [0x0037, 0x002C], [0x0038,
    0x002C], [0x0039, 0x002C]]),
  (0x1F110, [[0x0028, 0x0041, 0x0029], [0x0028, 0x0042, 0x0029], [0x0028, 0x0043, 0x0029],
    [0x0028, 0x0044, 0x0029], [0x0028, 0x0045, 0x0029], [0x0028, 0x0046, 0x0029], [0x0028,
    0x0047, 0x0029], [0x0028, 0x0048, 0x0029], [0x0028, 0x0049, 0x0029], [0x0028, 0x004A,
    0x0029], [0x0028, 0x004B, 0x0029], [0x0028, 0x004C, 0x0029], [0x0028, 0x004D, 0x0029],
    [0x0028, 0x004E, 0x0029], [0x0028, 0x004F, 0x0029], [0x0028, 0x0050, 0x0029], [0x0028,
    0x0051, 0x0029], [0x0028, 0x0052, 0x0029], [0x0028, 0x0053, 0x0029], [0x0028, 0x0054,
    0x0029], [0x0028, 0x0055, 0x0029], [0x0028, 0x0056, 0x0029], [0x0028, 0x0057, 0x0029],
    [0x0028, 0x0058, 0x0029], [0x0028, 0x0059, 0x0029], [0x0028, 0x005A, 0x0029], [0x3014,
    0x0053, 0x3015], [0x0043], [0x0052], [0x0043, 0x0044], [0x0057, 0x005A]]),
  (0x1F14A, [[0x0048, 0x0056], [0x004D, 0x0056], [0x0053, 0x0044], [0x0053, 0x0053], [0x0050,
    0x0050, 0x0056], [0x0057, 0x0043]]),
  (0x1F16A, [[0x004D, 0x0043], [0x004D, 0x0044], [0x004D, 0x0052]]),
  (0x1F190, [[0x0044, 0x004A]]),
  (0x1F200, [[0x307B, 0x304B], [0x30B3, 0x30B3], [0x30B5]]),
  (0x1F210, [[0x624B], [0x5B57], [0x53CC], [0x30C6, 0x3099], [0x4E8C], [0x591A], [0x89E3],
    [0x5929], [0x4EA4], [0x6620], [0x7121], [0x6599], [0x524D], [0x5F8C], [0x518D], [0x65B0],
    [0x521D], [0x7D42], [0x751F], [0x8CA9], [0x58F0], [0x5439], [0x6F14], [0x6295], [0x6355],
    [0x4E00], [0x4E09], [0x904A], [0x5DE6], [0x4E2D], [0x53F3], [0x6307], [0x8D70], [0x6253],
    [0x7981], [0x7A7A], [0x5408], [0x6E80], [0x6709], [0x6708], [0x7533], [0x5272], [0x55B6],
    [0x914D]]),
  (0x1F240, [[0x3014, 0x672C, 0x3015], [0x3014, 0x4E09, 0x3015], [0x3014, 0x4E8C, 0x3015],
    [0x3014, 0x5B89, 0x3015], [0x3014, 0x70B9, 0x3015], [0x3014, 0x6253, 0x3015], [0x3014,
    0x76D7, 0x3015], [0x3014, 0x52DD, 0x3015], [0x3014, 0x6557, 0x3015]]),
  (0x1F250, [[0x5F97], [0x53EF]])]

end ResourceBundle.Text.Normal
