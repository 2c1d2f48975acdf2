import ResourceBundle.Text.Ranges

/-! # Compatible forms of letters and symbols

A block `(start, [s₀, s₁, …])` says that the code points `start`, `start + 1`, … are replaced by
`s₀`, `s₁`, … -/

namespace ResourceBundle.Text.Normal

/-- Compatible forms below U+0600. -/
def latinForms : List (Nat × List (List Nat)) := [
  (0x00A0, [[0x0020]]),
  (0x00A8, [[0x0020, 0x0308]]),
  (0x00AA, [[0x0061]]),
  (0x00AF, [[0x0020, 0x0304]]),
  (0x00B2, [[0x0032], [0x0033], [0x0020, 0x0301], [0x03BC]]),
  (0x00B8, [[0x0020, 0x0327], [0x0031], [0x006F]]),
  (0x00BC, [[0x0031, 0x2044, 0x0034], [0x0031, 0x2044, 0x0032], [0x0033, 0x2044, 0x0034]]),
  (0x0132, [[0x0049, 0x004A], [0x0069, 0x006A]]),
  (0x013F, [[0x004C, 0x00B7], [0x006C, 0x00B7]]),
  (0x0149, [[0x02BC, 0x006E]]),
  (0x017F, [[0x0073]]),
  (0x01C4, [[0x0044, 0x005A, 0x030C], [0x0044, 0x007A, 0x030C], [0x0064, 0x007A, 0x030C],
    [0x004C, 0x004A], [0x004C, 0x006A], [0x006C, 0x006A], [0x004E, 0x004A], [0x004E, 0x006A],
    [0x006E, 0x006A]]),
  (0x01F1, [[0x0044, 0x005A], [0x0044, 0x007A], [0x0064, 0x007A]]),
  (0x02B0, [[0x0068], [0x0266], [0x006A], [0x0072], [0x0279], [0x027B], [0x0281], [0x0077],
    [0x0079]]),
  (0x02D8, [[0x0020, 0x0306], [0x0020, 0x0307], [0x0020, 0x030A], [0x0020, 0x0328], [0x0020,
    0x0303], [0x0020, 0x030B]]),
  (0x02E0, [[0x0263], [0x006C], [0x0073], [0x0078], [0x0295]]),
  (0x0340, [[0x0300], [0x0301]]),
  (0x0343, [[0x0313], [0x0308, 0x0301]]),
  (0x0374, [[0x02B9]]),
  (0x037A, [[0x0020, 0x0345]]),
  (0x037E, [[0x003B]]),
  (0x0384, [[0x0020, 0x0301]]),
  (0x0387, [[0x00B7]]),
  (0x03D0, [[0x03B2], [0x03B8], [0x03A5]]),
  (0x03D5, [[0x03C6], [0x03C0]]),
  (0x03F0, [[0x03BA], [0x03C1], [0x03C2]]),
  (0x03F4, [[0x0398], [0x03B5]]),
  (0x03F9, [[0x03A3]]),
  (0x0587, [[0x0565, 0x0582]])]

/-- Compatible forms of the scripts up to Greek Extended. -/
def scriptForms : List (Nat × List (List Nat)) := [
  (0x0675, [[0x0627, 0x0674], [0x0648, 0x0674], [0x06C7, 0x0674], [0x064A, 0x0674]]),
  (0x0958, [[0x0915, 0x093C], [0x0916, 0x093C], [0x0917, 0x093C], [0x091C, 0x093C], [0x0921,
    0x093C], [0x0922, 0x093C], [0x092B, 0x093C], [0x092F, 0x093C]]),
  (0x09DC, [[0x09A1, 0x09BC], [0x09A2, 0x09BC]]),
  (0x09DF, [[0x09AF, 0x09BC]]),
  (0x0A33, [[0x0A32, 0x0A3C]]),
  (0x0A36, [[0x0A38, 0x0A3C]]),
  (0x0A59, [[0x0A16, 0x0A3C], [0x0A17, 0x0A3C], [0x0A1C, 0x0A3C]]),
  (0x0A5E, [[0x0A2B, 0x0A3C]]),
  (0x0B5C, [[0x0B21, 0x0B3C], [0x0B22, 0x0B3C]]),
  (0x0E33, [[0x0E4D, 0x0E32]]),
  (0x0EB3, [[0x0ECD, 0x0EB2]]),
  (0x0EDC, [[0x0EAB, 0x0E99], [0x0EAB, 0x0EA1]]),
  (0x0F0C, [[0x0F0B]]),
  (0x0F43, [[0x0F42, 0x0FB7]]),
  (0x0F4D, [[0x0F4C, 0x0FB7]]),
  (0x0F52, [[0x0F51, 0x0FB7]]),
  (0x0F57, [[0x0F56, 0x0FB7]]),
  (0x0F5C, [[0x0F5B, 0x0FB7]]),
  (0x0F69, [[0x0F40, 0x0FB5]]),
  (0x0F73, [[0x0F71, 0x0F72]]),
  (0x0F75, [[0x0F71, 0x0F74], [0x0FB2, 0x0F80], [0x0FB2, 0x0F71, 0x0F80], [0x0FB3, 0x0F80],
    [0x0FB3, 0x0F71, 0x0F80]]),
  (0x0F81, [[0x0F71, 0x0F80]]),
  (0x0F93, [[0x0F92, 0x0FB7]]),
  (0x0F9D, [[0x0F9C, 0x0FB7]]),
  (0x0FA2, [[0x0FA1, 0x0FB7]]),
  (0x0FA7, [[0x0FA6, 0x0FB7]]),
  (0x0FAC, [[0x0FAB, 0x0FB7]]),
  (0x0FB9, [[0x0F90, 0x0FB5]]),
  (0x10FC, [[0x10DC]]),
  (0x1D2C, [[0x0041], [0x00C6], [0x0042]]),
  (0x1D30, [[0x0044], [0x0045], [0x018E], [0x0047]]),
  (0x1D3C, [[0x004F], [0x0222], [0x0050], [0x0052], [0x0054], [0x0055], [0x0057], [0x0061],
    [0x0250], [0x0251], [0x1D02], [0x0062], [0x0064], [0x0065], [0x0259], [0x025B], [0x025C],
    [0x0067]]),
  (0x1D4F, [[0x006B], [0x006D], [0x014B], [0x006F], [0x0254], [0x1D16], [0x1D17], [0x0070],
    [0x0074], [0x0075], [0x1D1D], [0x026F], [0x0076], [0x1D25], [0x03B2], [0x03B3], [0x03B4],
    [0x03C6], [0x03C7], [0x0069], [0x0072], [0x0075], [0x0076], [0x03B2], [0x03B3], [0x03C1],
    [0x03C6], [0x03C7]]),
  (0x1D78, [[0x043D]]),
  (0x1D9B, [[0x0252], [0x0063], [0x0255], [0x00F0], [0x025C], [0x0066], [0x025F], [0x0261],
    [0x0265], [0x0268], [0x0269], [0x026A], [0x1D7B], [0x029D], [0x026D], [0x1D85], [0x029F],
    [0x0271], [0x0270]]),
  (0x1DB2, [[0x0278], [0x0282], [0x0283], [0x01AB], [0x0289], [0x028A], [0x1D1C], [0x028B],
    [0x028C], [0x007A], [0x0290], [0x0291], [0x0292], [0x03B8]]),
  (0x1E9A, [[0x0061, 0x02BE]]),
  (0x1F71, [[0x03B1, 0x0301]]),
  (0x1F73, [[0x03B5, 0x0301]]),
  (0x1F75, [[0x03B7, 0x0301]]),
  (0x1F77, [[0x03B9, 0x0301]]),
  (0x1F79, [[0x03BF, 0x0301]]),
  (0x1F7B, [[0x03C5, 0x0301]]),
  (0x1F7D, [[0x03C9, 0x0301]]),
  (0x1FBB, [[0x0391, 0x0301]]),
  (0x1FBD, [[0x0020, 0x0313], [0x03B9], [0x0020, 0x0313], [0x0020, 0x0342]]),
  (0x1FC9, [[0x0395, 0x0301]]),
  (0x1FCB, [[0x0397, 0x0301]]),
  (0x1FD3, [[0x03B9, 0x0308, 0x0301]]),
  (0x1FDB, [[0x0399, 0x0301]]),
  (0x1FE3, [[0x03C5, 0x0308, 0x0301]]),
  (0x1FEB, [[0x03A5, 0x0301]]),
  (0x1FEE, [[0x0020, 0x0308, 0x0301], [0x0060]]),
  (0x1FF9, [[0x039F, 0x0301]]),
  (0x1FFB, [[0x03A9, 0x0301]]),
  (0x1FFD, [[0x0020, 0x0301], [0x0020, 0x0314]])]

/-- Compatible forms of punctuation, symbols and radicals. -/
def symbolForms : List (Nat × List (List Nat)) := [
  (0x2000, [[0x0020], [0x0020], [0x0020], [0x0020], [0x0020], [0x0020], [0x0020], [0x0020],
    [0x0020], [0x0020], [0x0020]]),
  (0x2011, [[0x2010]]),
  (0x2017, [[0x0020, 0x0333]]),
  (0x2024, [[0x002E], [0x002E, 0x002E], [0x002E, 0x002E, 0x002E]]),
  (0x202F, [[0x0020]]),
  (0x2033, [[0x2032, 0x2032], [0x2032, 0x2032, 0x2032]]),
  (0x2036, [[0x2035, 0x2035], [0x2035, 0x2035, 0x2035]]),
  (0x203C, [[0x0021, 0x0021]]),
  (0x203E, [[0x0020, 0x0305]]),
  (0x2047, [[0x003F, 0x003F], [0x003F, 0x0021], [0x0021, 0x003F]]),
  (0x2057, [[0x2032, 0x2032, 0x2032, 0x2032]]),
  (0x205F, [[0x0020]]),
  (0x2070, [[0x0030], [0x0069]]),
  (0x207A, [[0x002B], [0x2212], [0x003D], [0x0028], [0x0029], [0x006E]]),
  (0x208A, [[0x002B], [0x2212], [0x003D], [0x0028], [0x0029]]),
  (0x2090, [[0x0061], [0x0065], [0x006F], [0x0078], [0x0259], [0x0068]]),
  (0x209A, [[0x0070], [0x0073], [0x0074]]),
  (0x20A8, [[0x0052, 0x0073]]),
  (0x2100, [[0x0061, 0x002F, 0x0063], [0x0061, 0x002F, 0x0073], [0x0043], [0x00B0, 0x0043]]),
  (0x2105, [[0x0063, 0x002F, 0x006F], [0x0063, 0x002F, 0x0075], [0x0190]]),
  (0x2109, [[0x00B0, 0x0046], [0x0067], [0x0048], [0x0048], [0x0048], [0x0068], [0x0127],
    [0x0049], [0x0049], [0x004C], [0x006C]]),
  (0x2115, [[0x004E], [0x004E, 0x006F]]),
  (0x2119, [[0x0050], [0x0051], [0x0052], [0x0052], [0x0052]]),
  (0x2120, [[0x0053, 0x004D], [0x0054, 0x0045, 0x004C], [0x0054, 0x004D]]),
  (0x2124, [[0x005A]]),
  (0x2126, [[0x03A9]]),
  (0x2128, [[0x005A]]),
  (0x212A, [[0x004B], [0x0041, 0x030A], [0x0042], [0x0043]]),
  (0x212F, [[0x0065], [0x0045], [0x0046]]),
  (0x2133, [[0x004D], [0x006F]]),
  (0x2139, [[0x0069]]),
  (0x213B, [[0x0046, 0x0041, 0x0058], [0x03C0], [0x03B3], [0x0393], [0x03A0], [0x2211]]),
  (0x2145, [[0x0044], [0x0064], [0x0065], [0x0069], [0x006A]]),
  (0x2150, [[0x0031, 0x2044, 0x0037], [0x0031, 0x2044, 0x0039], [0x0031, 0x2044, 0x0031, 0x0030],
    [0x0031, 0x2044, 0x0033], [0x0032, 0x2044, 0x0033], [0x0031, 0x2044, 0x0035], [0x0032,
    0x2044, 0x0035], [0x0033, 0x2044, 0x0035], [0x0034, 0x2044, 0x0035], [0x0031, 0x2044,
    0x0036], [0x0035, 0x2044, 0x0036], [0x0031, 0x2044, 0x0038], [0x0033, 0x2044, 0x0038],
    [0x0035, 0x2044, 0x0038], [0x0037, 0x2044, 0x0038], [0x0031, 0x2044], [0x0049], [0x0049,
    0x0049], [0x0049, 0x0049, 0x0049], [0x0049, 0x0056], [0x0056], [0x0056, 0x0049], [0x0056,
    0x0049, 0x0049], [0x0056, 0x0049, 0x0049, 0x0049], [0x0049, 0x0058], [0x0058], [0x0058,
    0x0049], [0x0058, 0x0049, 0x0049], [0x004C], [0x0043], [0x0044], [0x004D], [0x0069], [0x0069,
    0x0069], [0x0069, 0x0069, 0x0069], [0x0069, 0x0076], [0x0076], [0x0076, 0x0069], [0x0076,
    0x0069, 0x0069], [0x0076, 0x0069, 0x0069, 0x0069], [0x0069, 0x0078], [0x0078], [0x0078,
    0x0069], [0x0078, 0x0069, 0x0069], [0x006C], [0x0063], [0x0064], [0x006D]]),
  (0x2189, [[0x0030, 0x2044, 0x0033]]),
  (0x222C, [[0x222B, 0x222B], [0x222B, 0x222B, 0x222B]]),
  (0x222F, [[0x222E, 0x222E], [0x222E, 0x222E, 0x222E]]),
  (0x2329, [[0x3008], [0x3009]]),
  (0x2469, [[0x0031, 0x0030], [0x0031, 0x0031], [0x0031, 0x0032], [0x0031, 0x0033], [0x0031,
    0x0034], [0x0031, 0x0035], [0x0031, 0x0036], [0x0031, 0x0037], [0x0031, 0x0038], [0x0031,
    0x0039], [0x0032, 0x0030], [0x0028, 0x0031, 0x0029], [0x0028, 0x0032, 0x0029], [0x0028,
    0x0033, 0x0029], [0x0028, 0x0034, 0x0029], [0x0028, 0x0035, 0x0029], [0x0028, 0x0036,
    0x0029], [0x0028, 0x0037, 0x0029], [0x0028, 0x0038, 0x0029], [0x0028, 0x0039, 0x0029],
    [0x0028, 0x0031, 0x0030, 0x0029], [0x0028, 0x0031, 0x0031, 0x0029], [0x0028, 0x0031, 0x0032,
    0x0029], [0x0028, 0x0031, 0x0033, 0x0029], [0x0028, 0x0031, 0x0034, 0x0029], [0x0028, 0x0031,
    0x0035, 0x0029], [0x0028, 0x0031, 0x0036, 0x0029], [0x0028, 0x0031, 0x0037, 0x0029], [0x0028,
    0x0031, 0x0038, 0x0029], [0x0028, 0x0031, 0x0039, 0x0029], [0x0028, 0x0032, 0x0030, 0x0029],
    [0x0031, 0x002E], [0x0032, 0x002E], [0x0033, 0x002E], [0x0034, 0x002E], [0x0035, 0x002E],
    [0x0036, 0x002E], [0x0037, 0x002E], [0x0038, 0x002E], [0x0039, 0x002E], [0x0031, 0x0030,
    0x002E], [0x0031, 0x0031, 0x002E], [0x0031, 0x0032, 0x002E], [0x0031, 0x0033, 0x002E],
    [0x0031, 0x0034, 0x002E], [0x0031, 0x0035, 0x002E], [0x0031, 0x0036, 0x002E], [0x0031,
    0x0037, 0x002E], [0x0031, 0x0038, 0x002E], [0x0031, 0x0039, 0x002E], [0x0032, 0x0030,
    0x002E], [0x0028, 0x0061, 0x0029], [0x0028, 0x0062, 0x0029], [0x0028, 0x0063, 0x0029],
    [0x0028, 0x0064, 0x0029], [0x0028, 0x0065, 0x0029], [0x0028, 0x0066, 0x0029], [0x0028,
    0x0067, 0x0029], [0x0028, 0x0068, 0x0029], [0x0028, 0x0069, 0x0029], [0x0028, 0x006A,
    0x0029], [0x0028, 0x006B, 0x0029], [0x0028, 0x006C, 0x0029], [0x0028, 0x006D, 0x0029]]),
  (0x24A9, [[0x0028, 0x006E, 0x0029], [0x0028, 0x006F, 0x0029], [0x0028, 0x0070, 0x0029],
    [0x0028, 0x0071, 0x0029], [0x0028, 0x0072, 0x0029], [0x0028, 0x0073, 0x0029], [0x0028,
    0x0074, 0x0029], [0x0028, 0x0075, 0x0029], [0x0028, 0x0076, 0x0029], [0x0028, 0x0077,
    0x0029], [0x0028, 0x0078, 0x0029], [0x0028, 0x0079, 0x0029], [0x0028, 0x007A, 0x0029]]),
  (0x24EA, [[0x0030]]),
  (0x2A0C, [[0x222B, 0x222B, 0x222B, 0x222B]]),
  (0x2A74, [[0x003A, 0x003A, 0x003D], [0x003D, 0x003D], [0x003D, 0x003D, 0x003D]]),
  (0x2ADC, [[0x2ADD, 0x0338]]),
  (0x2C7C, [[0x006A], [0x0056]]),
  (0x2D6F, [[0x2D61]]),
  (0x2E9F, [[0x6BCD]]),
  (0x2EF3, [[0x9F9F]]),
  (0x2F00, [[0x4E00], [0x4E28], [0x4E36], [0x4E3F], [0x4E59], [0x4E85], [0x4E8C], [0x4EA0],
    [0x4EBA], [0x513F], [0x5165], [0x516B], [0x5182], [0x5196], [0x51AB], [0x51E0], [0x51F5],
    [0x5200], [0x529B], [0x52F9], [0x5315], [0x531A], [0x5338], [0x5341], [0x535C], [0x5369],
    [0x5382], [0x53B6], [0x53C8], [0x53E3], [0x56D7], [0x571F], [0x58EB], [0x5902], [0x590A],
    [0x5915], [0x5927], [0x5973], [0x5B50], [0x5B80], [0x5BF8], [0x5C0F], [0x5C22], [0x5C38],
    [0x5C6E], [0x5C71], [0x5DDB], [0x5DE5], [0x5DF1], [0x5DFE], [0x5E72], [0x5E7A], [0x5E7F],
    [0x5EF4], [0x5EFE], [0x5F0B], [0x5F13], [0x5F50], [0x5F61], [0x5F73], [0x5FC3], [0x6208],
    [0x6236], [0x624B]]),
  (0x2F40, [[0x652F], [0x6534], [0x6587], [0x6597], [0x65A4], [0x65B9], [0x65E0], [0x65E5],
    [0x66F0], [0x6708], [0x6728], [0x6B20], [0x6B62], [0x6B79], [0x6BB3], [0x6BCB], [0x6BD4],
    [0x6BDB], [0x6C0F], [0x6C14], [0x6C34], [0x706B], [0x722A], [0x7236], [0x723B], [0x723F],
    [0x7247], [0x7259], [0x725B], [0x72AC], [0x7384], [0x7389], [0x74DC], [0x74E6], [0x7518],
    [0x751F], [0x7528], [0x7530], [0x758B], [0x7592], [0x7676], [0x767D], [0x76AE], [0x76BF],
    [0x76EE], [0x77DB], [0x77E2], [0x77F3], [0x793A], [0x79B8], [0x79BE], [0x7A74], [0x7ACB],
    [0x7AF9], [0x7C73], [0x7CF8], [0x7F36], [0x7F51], [0x7F8A], [0x7FBD], [0x8001], [0x800C],
    [0x8012], [0x8033]]),
  (0x2F80, [[0x807F], [0x8089], [0x81E3], [0x81EA], [0x81F3], [0x81FC], [0x820C], [0x821B],
    [0x821F], [0x826E], [0x8272], [0x8278], [0x864D], [0x866B], [0x8840], [0x884C], [0x8863],
    [0x897E], [0x898B], [0x89D2], [0x8A00], [0x8C37], [0x8C46], [0x8C55], [0x8C78], [0x8C9D],
    [0x8D64], [0x8D70], [0x8DB3], [0x8EAB], [0x8ECA], [0x8F9B], [0x8FB0], [0x8FB5], [0x9091],
    [0x9149], [0x91C6], [0x91CC], [0x91D1], [0x9577], [0x9580], [0x961C], [0x96B6], [0x96B9],
    [0x96E8], [0x9751], [0x975E], [0x9762], [0x9769], [0x97CB], [0x97ED], [0x97F3], [0x9801],
    [0x98A8], [0x98DB], [0x98DF], [0x9996], [0x9999], [0x99AC], [0x9AA8], [0x9AD8], [0x9ADF],
    [0x9B25], [0x9B2F]]),
  (0x2FC0, [[0x9B32], [0x9B3C], [0x9B5A], [0x9CE5], [0x9E75], [0x9E7F], [0x9EA5], [0x9EBB],
    [0x9EC3], [0x9ECD], [0x9ED1], [0x9EF9], [0x9EFD], [0x9F0E], [0x9F13], [0x9F20], [0x9F3B],
    [0x9F4A], [0x9F52], [0x9F8D], [0x9F9C], [0x9FA0]])]

/-- Compatible forms of enclosed and squared East Asian characters. -/
def squareForms : List (Nat × List (List Nat)) := [
  (0x3000, [[0x0020]]),
  (0x3036, [[0x3012]]),
  (0x3038, [[0x5341], [0x5344], [0x5345]]),
  (0x309B, [[0x0020, 0x3099], [0x0020, 0x309A]]),
  (0x309F, [[0x3088, 0x308A]]),
  (0x30FF, [[0x30B3, 0x30C8]]),
  (0x3131, [[0x1100], [0x1101], [0x11AA], [0x1102], [0x11AC], [0x11AD], [0x1103], [0x1104],
    [0x1105]]),
  (0x3140, [[0x111A], [0x1106], [0x1107], [0x1108], [0x1121]]),
  (0x3164, [[0x1160], [0x1114], [0x1115], [0x11C7], [0x11C8], [0x11CC], [0x11CE], [0x11D3],
    [0x11D7], [0x11D9], [0x111C], [0x11DD], [0x11DF], [0x111D], [0x111E], [0x1120], [0x1122],
    [0x1123], [0x1127], [0x1129]]),
  (0x317D, [[0x1132], [0x1136], [0x1140], [0x1147], [0x114C], [0x11F1], [0x11F2], [0x1157],
    [0x1158], [0x1159], [0x1184], [0x1185], [0x1188], [0x1191], [0x1192], [0x1194], [0x119E],
    [0x11A1]]),
  (0x3192, [[0x4E00], [0x4E8C], [0x4E09], [0x56DB], [0x4E0A], [0x4E2D], [0x4E0B], [0x7532],
    [0x4E59], [0x4E19], [0x4E01], [0x5929], [0x5730], [0x4EBA]]),
  (0x3200, [[0x0028, 0x1100, 0x0029], [0x0028, 0x1102, 0x0029], [0x0028, 0x1103, 0x0029],
    [0x0028, 0x1105, 0x0029], [0x0028, 0x1106, 0x0029], [0x0028, 0x1107, 0x0029], [0x0028,
    0x1109, 0x0029], [0x0028, 0x110B, 0x0029], [0x0028, 0x110C, 0x0029], [0x0028, 0x110E,
    0x0029], [0x0028, 0x110F, 0x0029], [0x0028, 0x1110, 0x0029], [0x0028, 0x1111, 0x0029],
    [0x0028, 0x1112, 0x0029], [0x0028, 0x1100, 0x1161, 0x0029], [0x0028, 0x1102, 0x1161, 0x0029],
    [0x0028, 0x1103, 0x1161, 0x0029], [0x0028, 0x1105, 0x1161, 0x0029], [0x0028, 0x1106, 0x1161,
    0x0029], [0x0028, 0x1107, 0x1161, 0x0029], [0x0028, 0x1109, 0x1161, 0x0029], [0x0028, 0x110B,
    0x1161, 0x0029], [0x0028, 0x110C, 0x1161, 0x0029], [0x0028, 0x110E, 0x1161, 0x0029], [0x0028,
    0x110F, 0x1161, 0x0029], [0x0028, 0x1110, 0x1161, 0x0029], [0x0028, 0x1111, 0x1161, 0x0029],
    [0x0028, 0x1112, 0x1161, 0x0029], [0x0028, 0x110C, 0x116E, 0x0029], [0x0028, 0x110B, 0x1169,
    0x110C, 0x1165, 0x11AB, 0x0029], [0x0028, 0x110B, 0x1169, 0x1112, 0x116E, 0x0029]]),
  (0x3220, [[0x0028, 0x4E00, 0x0029], [0x0028, 0x4E8C, 0x0029], [0x0028, 0x4E09, 0x0029],
    [0x0028, 0x56DB, 0x0029], [0x0028, 0x4E94, 0x0029], [0x0028, 0x516D, 0x0029], [0x0028,
    0x4E03, 0x0029], [0x0028, 0x516B, 0x0029], [0x0028, 0x4E5D, 0x0029], [0x0028, 0x5341,
    0x0029], [0x0028, 0x6708, 0x0029], [0x0028, 0x706B, 0x0029], [0x0028, 0x6C34, 0x0029],
    [0x0028, 0x6728, 0x0029], [0x0028, 0x91D1, 0x0029], [0x0028, 0x571F, 0x0029], [0x0028,
    0x65E5, 0x0029], [0x0028, 0x682A, 0x0029], [0x0028, 0x6709, 0x0029], [0x0028, 0x793E,
    0x0029], [0x0028, 0x540D, 0x0029], [0x0028, 0x7279, 0x0029], [0x0028, 0x8CA1, 0x0029],
    [0x0028, 0x795D, 0x0029], [0x0028, 0x52B4, 0x0029], [0x0028, 0x4EE3, 0x0029], [0x0028,
    0x547C, 0x0029], [0x0028, 0x5B66, 0x0029], [0x0028, 0x76E3, 0x0029], [0x0028, 0x4F01,
    0x0029], [0x0028, 0x8CC7, 0x0029], [0x0028, 0x5354, 0x0029], [0x0028, 0x796D, 0x0029],
    [0x0028, 0x4F11, 0x0029], [0x0028, 0x81EA, 0x0029], [0x0028, 0x81F3, 0x0029], [0x554F],
    [0x5E7C], [0x6587], [0x7B8F]]),
  (0x3250, [[0x0050, 0x0054, 0x0045], [0x0032, 0x0031], [0x0032, 0x0032], [0x0032, 0x0033],
    [0x0032, 0x0034], [0x0032, 0x0035], [0x0032, 0x0036], [0x0032, 0x0037], [0x0032, 0x0038],
    [0x0032, 0x0039], [0x0033, 0x0030], [0x0033, 0x0031], [0x0033, 0x0032], [0x0033, 0x0033],
    [0x0033, 0x0034], [0x0033, 0x0035], [0x1100], [0x1102], [0x1103], [0x1105], [0x1106],
    [0x1107], [0x1109], [0x110B], [0x110C]]),
  (0x326E, [[0x1100, 0x1161], [0x1102, 0x1161], [0x1103, 0x1161], [0x1105, 0x1161], [0x1106,
    0x1161], [0x1107, 0x1161], [0x1109, 0x1161], [0x110B, 0x1161], [0x110C, 0x1161], [0x110E,
    0x1161], [0x110F, 0x1161], [0x1110, 0x1161], [0x1111, 0x1161], [0x1112, 0x1161], [0x110E,
    0x1161, 0x11B7, 0x1100, 0x1169], [0x110C, 0x116E, 0x110B, 0x1174], [0x110B, 0x116E]]),
  (0x3280, [[0x4E00], [0x4E8C], [0x4E09], [0x56DB], [0x4E94], [0x516D], [0x4E03], [0x516B],
    [0x4E5D], [0x5341], [0x6708], [0x706B], [0x6C34], [0x6728], [0x91D1], [0x571F], [0x65E5],
    [0x682A], [0x6709], [0x793E], [0x540D], [0x7279], [0x8CA1], [0x795D], [0x52B4], [0x79D8],
    [0x7537], [0x5973], [0x9069], [0x512A], [0x5370], [0x6CE8], [0x9805], [0x4F11], [0x5199],
    [0x6B63], [0x4E0A], [0x4E2D], [0x4E0B], [0x5DE6], [0x53F3], [0x533B], [0x5B97], [0x5B66],
    [0x76E3], [0x4F01], [0x8CC7], [0x5354], [0x591C], [0x0033, 0x0036], [0x0033, 0x0037],
    [0x0033, 0x0038], [0x0033, 0x0039], [0x0034, 0x0030], [0x0034, 0x0031], [0x0034, 0x0032],
    [0x0034, 0x0033], [0x0034, 0x0034], [0x0034, 0x0035], [0x0034, 0x0036], [0x0034, 0x0037],
    [0x0034, 0x0038], [0x0034, 0x0039], [0x0035, 0x0030]]),
  (0x32C0, [[0x0031, 0x6708], [0x0032, 0x6708], [0x0033, 0x6708], [0x0034, 0x6708], [0x0035,
    0x6708], [0x0036, 0x6708], [0x0037, 0x6708], [0x0038, 0x6708], [0x0039, 0x6708], [0x0031,
    0x0030, 0x6708], [0x0031, 0x0031, 0x6708], [0x0031, 0x0032, 0x6708], [0x0048, 0x0067],
    [0x0065, 0x0072, 0x0067], [0x0065, 0x0056], [0x004C, 0x0054, 0x0044], [0x30A2], [0x30A4],
    [0x30A6], [0x30A8], [0x30AA], [0x30AB], [0x30AD], [0x30AF], [0x30B1], [0x30B3], [0x30B5],
    [0x30B7], [0x30B9], [0x30BB], [0x30BD], [0x30BF], [0x30C1], [0x30C4], [0x30C6], [0x30C8]]),
  (0x32EA, [[0x30D2], [0x30D5], [0x30D8], [0x30DB]]),
  (0x32F3, [[0x30E4], [0x30E6]]),
  (0x32FF, [[0x4EE4, 0x548C], [0x30A2, 0x30CF, 0x309A, 0x30FC, 0x30C8], [0x30A2, 0x30EB, 0x30D5,
    0x30A1], [0x30A2, 0x30F3, 0x30D8, 0x309A, 0x30A2], [0x30A2, 0x30FC, 0x30EB], [0x30A4, 0x30CB,
    0x30F3, 0x30AF, 0x3099], [0x30A4, 0x30F3, 0x30C1], [0x30A6, 0x30A9, 0x30F3], [0x30A8, 0x30B9,
    0x30AF, 0x30FC, 0x30C8, 0x3099], [0x30A8, 0x30FC, 0x30AB, 0x30FC], [0x30AA, 0x30F3, 0x30B9],
    [0x30AA, 0x30FC, 0x30E0], [0x30AB, 0x30A4, 0x30EA], [0x30AB, 0x30E9, 0x30C3, 0x30C8],
    [0x30AB, 0x30ED, 0x30EA, 0x30FC], [0x30AB, 0x3099, 0x30ED, 0x30F3], [0x30AB, 0x3099, 0x30F3,
    0x30DE], [0x30AD, 0x3099, 0x30AB, 0x3099], [0x30AD, 0x3099, 0x30CB, 0x30FC], [0x30AD, 0x30E5,
    0x30EA, 0x30FC], [0x30AD, 0x3099, 0x30EB, 0x30BF, 0x3099, 0x30FC], [0x30AD, 0x30ED], [0x30AD,
    0x30ED, 0x30AF, 0x3099, 0x30E9, 0x30E0], [0x30AD, 0x30ED, 0x30E1, 0x30FC, 0x30C8, 0x30EB],
    [0x30AD, 0x30ED, 0x30EF, 0x30C3, 0x30C8], [0x30AF, 0x3099, 0x30E9, 0x30E0], [0x30AF, 0x3099,
    0x30E9, 0x30E0, 0x30C8, 0x30F3], [0x30AF, 0x30EB, 0x30BB, 0x3099, 0x30A4, 0x30ED], [0x30AF,
    0x30ED, 0x30FC, 0x30CD], [0x30B1, 0x30FC, 0x30B9], [0x30B3, 0x30EB, 0x30CA], [0x30B3, 0x30FC,
    0x30DB, 0x309A], [0x30B5, 0x30A4, 0x30AF, 0x30EB], [0x30B5, 0x30F3, 0x30C1, 0x30FC, 0x30E0],
    [0x30B7, 0x30EA, 0x30F3, 0x30AF, 0x3099], [0x30BB, 0x30F3, 0x30C1], [0x30BB, 0x30F3, 0x30C8],
    [0x30BF, 0x3099, 0x30FC, 0x30B9], [0x30C6, 0x3099, 0x30B7], [0x30C8, 0x3099, 0x30EB],
    [0x30C8, 0x30F3], [0x30CA, 0x30CE], [0x30CE, 0x30C3, 0x30C8], [0x30CF, 0x30A4, 0x30C4],
    [0x30CF, 0x309A, 0x30FC, 0x30BB, 0x30F3, 0x30C8], [0x30CF, 0x309A, 0x30FC, 0x30C4], [0x30CF,
    0x3099, 0x30FC, 0x30EC, 0x30EB], [0x30D2, 0x309A, 0x30A2, 0x30B9, 0x30C8, 0x30EB], [0x30D2,
    0x309A, 0x30AF, 0x30EB], [0x30D2, 0x309A, 0x30B3], [0x30D2, 0x3099, 0x30EB], [0x30D5, 0x30A1,
    0x30E9, 0x30C3, 0x30C8, 0x3099], [0x30D5, 0x30A3, 0x30FC, 0x30C8], [0x30D5, 0x3099, 0x30C3,
    0x30B7, 0x30A7, 0x30EB], [0x30D5, 0x30E9, 0x30F3], [0x30D8, 0x30AF, 0x30BF, 0x30FC, 0x30EB],
    [0x30D8, 0x309A, 0x30BD], [0x30D8, 0x309A, 0x30CB, 0x30D2], [0x30D8, 0x30EB, 0x30C4],
    [0x30D8, 0x309A, 0x30F3, 0x30B9], [0x30D8, 0x309A, 0x30FC, 0x30B7, 0x3099], [0x30D8, 0x3099,
    0x30FC, 0x30BF], [0x30DB, 0x309A, 0x30A4, 0x30F3, 0x30C8], [0x30DB, 0x3099, 0x30EB, 0x30C8]]),
  (0x333F, [[0x30DB, 0x30F3], [0x30DB, 0x309A, 0x30F3, 0x30C8, 0x3099], [0x30DB, 0x30FC, 0x30EB],
    [0x30DB, 0x30FC, 0x30F3], [0x30DE, 0x30A4, 0x30AF, 0x30ED], [0x30DE, 0x30A4, 0x30EB],
    [0x30DE, 0x30C3, 0x30CF], [0x30DE, 0x30EB, 0x30AF], [0x30DE, 0x30F3, 0x30B7, 0x30E7, 0x30F3],
    [0x30DF, 0x30AF, 0x30ED, 0x30F3], [0x30DF, 0x30EA], [0x30DF, 0x30EA, 0x30CF, 0x3099, 0x30FC,
    0x30EB], [0x30E1, 0x30AB, 0x3099], [0x30E1, 0x30AB, 0x3099, 0x30C8, 0x30F3], [0x30E1, 0x30FC,
    0x30C8, 0x30EB], [0x30E4, 0x30FC, 0x30C8, 0x3099], [0x30E4, 0x30FC, 0x30EB], [0x30E6, 0x30A2,
    0x30F3], [0x30EA, 0x30C3, 0x30C8, 0x30EB], [0x30EA, 0x30E9], [0x30EB, 0x30D2, 0x309A,
    0x30FC], [0x30EB, 0x30FC, 0x30D5, 0x3099, 0x30EB], [0x30EC, 0x30E0], [0x30EC, 0x30F3, 0x30C8,
    0x30B1, 0x3099, 0x30F3], [0x30EF, 0x30C3, 0x30C8], [0x0030, 0x70B9], [0x0031, 0x70B9],
    [0x0032, 0x70B9], [0x0033, 0x70B9], [0x0034, 0x70B9], [0x0035, 0x70B9], [0x0036, 0x70B9],
    [0x0037, 0x70B9], [0x0038, 0x70B9], [0x0039, 0x70B9], [0x0031, 0x0030, 0x70B9], [0x0031,
    0x0031, 0x70B9], [0x0031, 0x0032, 0x70B9], [0x0031, 0x0033, 0x70B9], [0x0031, 0x0034,
    0x70B9], [0x0031, 0x0035, 0x70B9], [0x0031, 0x0036, 0x70B9], [0x0031, 0x0037, 0x70B9],
    [0x0031, 0x0038, 0x70B9], [0x0031, 0x0039, 0x70B9], [0x0032, 0x0030, 0x70B9], [0x0032,
    0x0031, 0x70B9], [0x0032, 0x0032, 0x70B9], [0x0032, 0x0033, 0x70B9], [0x0032, 0x0034,
    0x70B9], [0x0068, 0x0050, 0x0061], [0x0064, 0x0061], [0x0041, 0x0055], [0x0062, 0x0061,
    0x0072], [0x006F, 0x0056], [0x0070, 0x0063], [0x0064, 0x006D], [0x0064, 0x006D, 0x0032],
    [0x0064, 0x006D, 0x0033], [0x0049, 0x0055], [0x5E73, 0x6210], [0x662D, 0x548C], [0x5927,
    0x6B63], [0x660E, 0x6CBB]]),
  (0x337F, [[0x682A, 0x5F0F, 0x4F1A, 0x793E], [0x0070, 0x0041], [0x006E, 0x0041], [0x03BC,
    0x0041], [0x006D, 0x0041], [0x006B, 0x0041], [0x004B, 0x0042], [0x004D, 0x0042], [0x0047,
    0x0042], [0x0063, 0x0061, 0x006C], [0x006B, 0x0063, 0x0061, 0x006C], [0x0070, 0x0046],
    [0x006E, 0x0046], [0x03BC, 0x0046], [0x03BC, 0x0067], [0x006D, 0x0067], [0x006B, 0x0067],
    [0x0048, 0x007A], [0x006B, 0x0048, 0x007A], [0x004D, 0x0048, 0x007A], [0x0047, 0x0048,
    0x007A], [0x0054, 0x0048, 0x007A], [0x03BC, 0x006C], [0x006D, 0x006C], [0x0064, 0x006C],
    [0x006B, 0x006C], [0x0066, 0x006D], [0x006E, 0x006D], [0x03BC, 0x006D], [0x006D, 0x006D],
    [0x0063, 0x006D], [0x006B, 0x006D], [0x006D, 0x006D, 0x0032], [0x0063, 0x006D, 0x0032],
    [0x006D, 0x0032], [0x006B, 0x006D, 0x0032], [0x006D, 0x006D, 0x0033], [0x0063, 0x006D,
    0x0033], [0x006D, 0x0033], [0x006B, 0x006D, 0x0033], [0x006D, 0x2215, 0x0073], [0x006D,
    0x2215, 0x0073, 0x0032], [0x0050, 0x0061], [0x006B, 0x0050, 0x0061], [0x004D, 0x0050,
    0x0061], [0x0047, 0x0050, 0x0061], [0x0072, 0x0061, 0x0064], [0x0072, 0x0061, 0x0064, 0x2215,
    0x0073], [0x0072, 0x0061, 0x0064, 0x2215, 0x0073, 0x0032], [0x0070, 0x0073], [0x006E,
    0x0073], [0x03BC, 0x0073], [0x006D, 0x0073], [0x0070, 0x0056], [0x006E, 0x0056], [0x03BC,
    0x0056], [0x006D, 0x0056], [0x006B, 0x0056], [0x004D, 0x0056], [0x0070, 0x0057], [0x006E,
    0x0057], [0x03BC, 0x0057], [0x006D, 0x0057], [0x006B, 0x0057]]),
  (0x33BF, [[0x004D, 0x0057], [0x006B, 0x03A9], [0x004D, 0x03A9], [0x0061, 0x002E, 0x006D,
    0x002E], [0x0042, 0x0071], [0x0063, 0x0063], [0x0063, 0x0064], [0x0043, 0x2215, 0x006B,
    0x0067], [0x0043, 0x006F, 0x002E], [0x0064, 0x0042], [0x0047, 0x0079], [0x0068, 0x0061],
    [0x0048, 0x0050], [0x0069, 0x006E], [0x004B, 0x004B], [0x004B, 0x004D], [0x006B, 0x0074],
    [0x006C, 0x006D], [0x006C, 0x006E], [0x006C, 0x006F, 0x0067], [0x006C, 0x0078], [0x006D,
    0x0062], [0x006D, 0x0069, 0x006C], [0x006D, 0x006F, 0x006C], [0x0050, 0x0048], [0x0070,
    0x002E, 0x006D, 0x002E], [0x0050, 0x0050, 0x004D], [0x0050, 0x0052], [0x0073, 0x0072],
    [0x0053, 0x0076], [0x0057, 0x0062], [0x0056, 0x2215, 0x006D], [0x0041, 0x2215, 0x006D],
    [0x0031, 0x65E5], [0x0032, 0x65E5], [0x0033, 0x65E5], [0x0034, 0x65E5], [0x0035, 0x65E5],
    [0x0036, 0x65E5], [0x0037, 0x65E5], [0x0038, 0x65E5], [0x0039, 0x65E5], [0x0031, 0x0030,
    0x65E5], [0x0031, 0x0031, 0x65E5], [0x0031, 0x0032, 0x65E5], [0x0031, 0x0033, 0x65E5],
    [0x0031, 0x0034, 0x65E5], [0x0031, 0x0035, 0x65E5], [0x0031, 0x0036, 0x65E5], [0x0031,
    0x0037, 0x65E5], [0x0031, 0x0038, 0x65E5], [0x0031, 0x0039, 0x65E5], [0x0032, 0x0030,
    0x65E5], [0x0032, 0x0031, 0x65E5], [0x0032, 0x0032, 0x65E5], [0x0032, 0x0033, 0x65E5],
    [0x0032, 0x0034, 0x65E5], [0x0032, 0x0035, 0x65E5], [0x0032, 0x0036, 0x65E5], [0x0032,
    0x0037, 0x65E5], [0x0032, 0x0038, 0x65E5], [0x0032, 0x0039, 0x65E5], [0x0033, 0x0030,
    0x65E5], [0x0033, 0x0031, 0x65E5]]),
  (0x33FF, [[0x0067, 0x0061, 0x006C]])]

/-- Runs of characters that are each replaced by one character. -/
def formRuns : List Run := [
  ⟨0x1D34, 0x1D3A, 1, 0x0048⟩, ⟨0x1DAE, 0x1DB1, 1, 0x0272⟩, ⟨0x2074, 0x2079, 1, 0x0034⟩,
  ⟨0x2080, 0x2089, 1, 0x0030⟩, ⟨0x2096, 0x2099, 1, 0x006B⟩, ⟨0x2135, 0x2138, 1, 0x05D0⟩,
  ⟨0x2460, 0x2468, 1, 0x0031⟩, ⟨0x24B6, 0x24CF, 1, 0x0041⟩, ⟨0x24D0, 0x24E9, 1, 0x0061⟩,
  ⟨0x313A, 0x313F, 1, 0x11B0⟩, ⟨0x3145, 0x314E, 1, 0x1109⟩, ⟨0x314F, 0x3163, 1, 0x1161⟩,
  ⟨0x3178, 0x317C, 1, 0x112B⟩, ⟨0x3269, 0x326D, 1, 0x110E⟩, ⟨0x32E4, 0x32E9, 1, 0x30CA⟩,
  ⟨0x32EE, 0x32F2, 1, 0x30DE⟩, ⟨0x32F5, 0x32FA, 1, 0x30E8⟩, ⟨0x32FB, 0x32FE, 1, 0x30EF⟩,
  ⟨0xFE41, 0xFE44, 1, 0x300C⟩, ⟨0xFF01, 0xFF5E, 1, 0x0021⟩, ⟨0xFF85, 0xFF8A, 1, 0x30CA⟩,
  ⟨0xFF8F, 0xFF93, 1, 0x30DE⟩, ⟨0xFF96, 0xFF9B, 1, 0x30E8⟩, ⟨0xFFAA, 0xFFAF, 1, 0x11B0⟩,
  ⟨0xFFB5, 0xFFBE, 1, 0x1109⟩, ⟨0xFFC2, 0xFFC7, 1, 0x1161⟩, ⟨0xFFCA, 0xFFCF, 1, 0x1167⟩,
  ⟨0xFFD2, 0xFFD7, 1, 0x116D⟩, ⟨0xFFE9, 0xFFEC, 1, 0x2190⟩, ⟨0x1D400, 0x1D419, 1, 0x0041⟩,
  ⟨0x1D41A, 0x1D433, 1, 0x0061⟩, ⟨0x1D434, 0x1D44D, 1, 0x0041⟩, ⟨0x1D44E, 0x1D454, 1, 0x0061⟩,
  ⟨0x1D456, 0x1D467, 1, 0x0069⟩, ⟨0x1D468, 0x1D481, 1, 0x0041⟩, ⟨0x1D482, 0x1D49B, 1, 0x0061⟩,
  ⟨0x1D4A9, 0x1D4AC, 1, 0x004E⟩, ⟨0x1D4AE, 0x1D4B5, 1, 0x0053⟩, ⟨0x1D4B6, 0x1D4B9, 1, 0x0061⟩,
  ⟨0x1D4BE, 0x1D4C3, 1, 0x0069⟩, ⟨0x1D4C5, 0x1D4CF, 1, 0x0070⟩, ⟨0x1D4D0, 0x1D4E9, 1, 0x0041⟩,
  ⟨0x1D4EA, 0x1D503, 1, 0x0061⟩, ⟨0x1D507, 0x1D50A, 1, 0x0044⟩, ⟨0x1D50D, 0x1D514, 1, 0x004A⟩,
  ⟨0x1D516, 0x1D51C, 1, 0x0053⟩, ⟨0x1D51E, 0x1D537, 1, 0x0061⟩, ⟨0x1D53B, 0x1D53E, 1, 0x0044⟩,
  ⟨0x1D540, 0x1D544, 1, 0x0049⟩, ⟨0x1D54A, 0x1D550, 1, 0x0053⟩, ⟨0x1D552, 0x1D56B, 1, 0x0061⟩,
  ⟨0x1D56C, 0x1D585, 1, 0x0041⟩, ⟨0x1D586, 0x1D59F, 1, 0x0061⟩, ⟨0x1D5A0, 0x1D5B9, 1, 0x0041⟩,
  ⟨0x1D5BA, 0x1D5D3, 1, 0x0061⟩, ⟨0x1D5D4, 0x1D5ED, 1, 0x0041⟩, ⟨0x1D5EE, 0x1D607, 1, 0x0061⟩,
  ⟨0x1D608, 0x1D621, 1, 0x0041⟩, ⟨0x1D622, 0x1D63B, 1, 0x0061⟩, ⟨0x1D63C, 0x1D655, 1, 0x0041⟩,
  ⟨0x1D656, 0x1D66F, 1, 0x0061⟩, ⟨0x1D670, 0x1D689, 1, 0x0041⟩, ⟨0x1D68A, 0x1D6A3, 1, 0x0061⟩,
  ⟨0x1D6A8, 0x1D6B8, 1, 0x0391⟩, ⟨0x1D6BA, 0x1D6C0, 1, 0x03A3⟩, ⟨0x1D6C2, 0x1D6DA, 1, 0x03B1⟩,
  ⟨0x1D6E2, 0x1D6F2, 1, 0x0391⟩, ⟨0x1D6F4, 0x1D6FA, 1, 0x03A3⟩, ⟨0x1D6FC, 0x1D714, 1, 0x03B1⟩,
  ⟨0x1D71C, 0x1D72C, 1, 0x0391⟩, ⟨0x1D72E, 0x1D734, 1, 0x03A3⟩, ⟨0x1D736, 0x1D74E, 1, 0x03B1⟩,
  ⟨0x1D756, 0x1D766, 1, 0x0391⟩, ⟨0x1D768, 0x1D76E, 1, 0x03A3⟩, ⟨0x1D770, 0x1D788, 1, 0x03B1⟩,
  ⟨0x1D790, 0x1D7A0, 1, 0x0391⟩, ⟨0x1D7A2, 0x1D7A8, 1, 0x03A3⟩, ⟨0x1D7AA, 0x1D7C2, 1, 0x03B1⟩,
  ⟨0x1D7CE, 0x1D7D7, 1, 0x0030⟩, ⟨0x1D7D8, 0x1D7E1, 1, 0x0030⟩, ⟨0x1D7E2, 0x1D7EB, 1, 0x0030⟩,
  ⟨0x1D7EC, 0x1D7F5, 1, 0x0030⟩, ⟨0x1D7F6, 0x1D7FF, 1, 0x0030⟩, ⟨0x1EE0A, 0x1EE0D, 1, 0x0643⟩,
  ⟨0x1EE2A, 0x1EE2D, 1, 0x0643⟩, ⟨0x1F130, 0x1F149, 1, 0x0041⟩, ⟨0x1FBF0, 0x1FBF9, 1, 0x0030⟩]

end ResourceBundle.Text.Normal
