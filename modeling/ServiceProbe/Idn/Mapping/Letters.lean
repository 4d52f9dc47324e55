/-!
Letters, digits and signs that are mapped to one other character, as far as they
are not in a run.
-/

namespace ServiceProbe.Idn

def mappedLetters : List (Nat × Nat) :=
  [
    (0x00A0, 0x0020), (0x00AA, 0x0061), (0x00B2, 0x0032), (0x00B3, 0x0033),
    (0x00B5, 0x03BC), (0x00B9, 0x0031), (0x00BA, 0x006F), (0x0134, 0x0135),
    (0x0136, 0x0137), (0x0178, 0x00FF), (0x017F, 0x0073), (0x0181, 0x0253),
    (0x0182, 0x0183), (0x0184, 0x0185), (0x0186, 0x0254), (0x0187, 0x0188),
    (0x0189, 0x0256), (0x018A, 0x0257), (0x018B, 0x018C), (0x018E, 0x01DD),
    (0x018F, 0x0259), (0x0190, 0x025B), (0x0191, 0x0192), (0x0193, 0x0260),
    (0x0194, 0x0263), (0x0196, 0x0269), (0x0197, 0x0268), (0x0198, 0x0199),
    (0x019C, 0x026F), (0x019D, 0x0272), (0x019F, 0x0275), (0x01A6, 0x0280),
    (0x01A7, 0x01A8), (0x01A9, 0x0283), (0x01AC, 0x01AD), (0x01AE, 0x0288),
    (0x01AF, 0x01B0), (0x01B1, 0x028A), (0x01B2, 0x028B), (0x01B3, 0x01B4),
    (0x01B5, 0x01B6), (0x01B7, 0x0292), (0x01B8, 0x01B9), (0x01BC, 0x01BD),
    (0x01F4, 0x01F5), (0x01F6, 0x0195), (0x01F7, 0x01BF), (0x0220, 0x019E),
    (0x023A, 0x2C65), (0x023B, 0x023C), (0x023D, 0x019A), (0x023E, 0x2C66),
    (0x0241, 0x0242), (0x0243, 0x0180), (0x0244, 0x0289), (0x0245, 0x028C),
    (0x02B0, 0x0068), (0x02B1, 0x0266), (0x02B2, 0x006A), (0x02B3, 0x0072),
    (0x02B4, 0x0279), (0x02B5, 0x027B), (0x02B6, 0x0281), (0x02B7, 0x0077),
    (0x02B8, 0x0079), (0x02E0, 0x0263), (0x02E1, 0x006C), (0x02E2, 0x0073),
    (0x02E3, 0x0078), (0x02E4, 0x0295), (0x0340, 0x0300), (0x0341, 0x0301),
    (0x0343, 0x0313), (0x0345, 0x03B9), (0x0370, 0x0371), (0x0372, 0x0373),
    (0x0374, 0x02B9), (0x0376, 0x0377), (0x037E, 0x003B), (0x037F, 0x03F3),
    (0x0386, 0x03AC), (0x0387, 0x00B7), (0x038C, 0x03CC), (0x038E, 0x03CD),
    (0x038F, 0x03CE), (0x03CF, 0x03D7), (0x03D0, 0x03B2), (0x03D1, 0x03B8),
    (0x03D2, 0x03C5), (0x03D3, 0x03CD), (0x03D4, 0x03CB), (0x03D5, 0x03C6),
    (0x03D6, 0x03C0), (0x03F0, 0x03BA), (0x03F1, 0x03C1), (0x03F2, 0x03C3),
    (0x03F4, 0x03B8), (0x03F5, 0x03B5), (0x03F7, 0x03F8), (0x03F9, 0x03C3),
    (0x03FA, 0x03FB), (0x04C0, 0x04CF), (0x0F0C, 0x0F0B), (0x10C7, 0x2D27),
    (0x10CD, 0x2D2D), (0x10FC, 0x10DC), (0x1C80, 0x0432), (0x1C81, 0x0434),
    (0x1C82, 0x043E), (0x1C83, 0x0441), (0x1C84, 0x0442), (0x1C85, 0x0442),
    (0x1C86, 0x044A), (0x1C87, 0x0463), (0x1C88, 0xA64B), (0x1C89, 0x1C8A),
    (0x1D2C, 0x0061), (0x1D2D, 0x00E6), (0x1D2E, 0x0062), (0x1D30, 0x0064),
    (0x1D31, 0x0065), (0x1D32, 0x01DD), (0x1D3C, 0x006F), (0x1D3D, 0x0223),
    (0x1D3E, 0x0070), (0x1D3F, 0x0072), (0x1D40, 0x0074), (0x1D41, 0x0075),
    (0x1D42, 0x0077), (0x1D43, 0x0061), (0x1D44, 0x0250), (0x1D45, 0x0251),
    (0x1D46, 0x1D02), (0x1D47, 0x0062), (0x1D48, 0x0064), (0x1D49, 0x0065),
    (0x1D4A, 0x0259), (0x1D4B, 0x025B), (0x1D4C, 0x025C), (0x1D4D, 0x0067),
    (0x1D4F, 0x006B), (0x1D50, 0x006D), (0x1D51, 0x014B), (0x1D52, 0x006F),
    (0x1D53, 0x0254), (0x1D54, 0x1D16), (0x1D55, 0x1D17), (0x1D56, 0x0070),
    (0x1D57, 0x0074), (0x1D58, 0x0075), (0x1D59, 0x1D1D), (0x1D5A, 0x026F),
    (0x1D5B, 0x0076), (0x1D5C, 0x1D25), (0x1D60, 0x03C6), (0x1D61, 0x03C7),
    (0x1D62, 0x0069), (0x1D63, 0x0072), (0x1D64, 0x0075), (0x1D65, 0x0076),
    (0x1D66, 0x03B2), (0x1D67, 0x03B3), (0x1D68, 0x03C1), (0x1D69, 0x03C6),
    (0x1D6A, 0x03C7), (0x1D78, 0x043D), (0x1D9B, 0x0252), (0x1D9C, 0x0063),
    (0x1D9D, 0x0255), (0x1D9E, 0x00F0), (0x1D9F, 0x025C), (0x1DA0, 0x0066),
    (0x1DA1, 0x025F), (0x1DA2, 0x0261), (0x1DA3, 0x0265), (0x1DA7, 0x1D7B),
    (0x1DA8, 0x029D), (0x1DA9, 0x026D), (0x1DAA, 0x1D85), (0x1DAB, 0x029F),
    (0x1DAC, 0x0271), (0x1DAD, 0x0270), (0x1DB2, 0x0278), (0x1DB3, 0x0282),
    (0x1DB4, 0x0283), (0x1DB5, 0x01AB), (0x1DB6, 0x0289), (0x1DB7, 0x028A),
    (0x1DB8, 0x1D1C), (0x1DB9, 0x028B), (0x1DBA, 0x028C), (0x1DBB, 0x007A),
    (0x1DBF, 0x03B8), (0x1E9B, 0x1E61), (0x1E9E, 0x00DF), (0x1F59, 0x1F51),
    (0x1F5B, 0x1F53), (0x1F5D, 0x1F55), (0x1F5F, 0x1F57), (0x1F71, 0x03AC),
    (0x1F73, 0x03AD), (0x1F75, 0x03AE), (0x1F77, 0x03AF), (0x1F79, 0x03CC),
    (0x1F7B, 0x03CD), (0x1F7D, 0x03CE), (0x1FB8, 0x1FB0), (0x1FB9, 0x1FB1),
    (0x1FBA, 0x1F70), (0x1FBB, 0x03AC), (0x1FBE, 0x03B9), (0x1FC8, 0x1F72),
    (0x1FC9, 0x03AD), (0x1FCA, 0x1F74), (0x1FCB, 0x03AE), (0x1FD3, 0x0390),
    (0x1FD8, 0x1FD0), (0x1FD9, 0x1FD1), (0x1FDA, 0x1F76), (0x1FDB, 0x03AF),
    (0x1FE3, 0x03B0), (0x1FE8, 0x1FE0), (0x1FE9, 0x1FE1), (0x1FEA, 0x1F7A),
    (0x1FEB, 0x03CD), (0x1FEC, 0x1FE5), (0x1FEF, 0x0060), (0x1FF8, 0x1F78),
    (0x1FF9, 0x03CC), (0x1FFA, 0x1F7C), (0x1FFB, 0x03CE), (0x2000, 0x0020),
    (0x2001, 0x0020), (0x2002, 0x0020), (0x2003, 0x0020), (0x2004, 0x0020),
    (0x2005, 0x0020), (0x2006, 0x0020), (0x2007, 0x0020), (0x2008, 0x0020),
    (0x2009, 0x0020), (0x200A, 0x0020), (0x2011, 0x2010), (0x202F, 0x0020),
    (0x205F, 0x0020), (0x2070, 0x0030), (0x2071, 0x0069), (0x207A, 0x002B),
    (0x207B, 0x2212), (0x207C, 0x003D), (0x207D, 0x0028), (0x207E, 0x0029),
    (0x207F, 0x006E), (0x208A, 0x002B), (0x208B, 0x2212), (0x208C, 0x003D),
    (0x208D, 0x0028), (0x208E, 0x0029), (0x2090, 0x0061), (0x2091, 0x0065),
    (0x2092, 0x006F), (0x2093, 0x0078), (0x2094, 0x0259), (0x2095, 0x0068),
    (0x209A, 0x0070), (0x209B, 0x0073), (0x209C, 0x0074), (0x2102, 0x0063),
    (0x2107, 0x025B), (0x210A, 0x0067), (0x210B, 0x0068), (0x210C, 0x0068),
    (0x210D, 0x0068), (0x210E, 0x0068), (0x210F, 0x0127), (0x2110, 0x0069),
    (0x2111, 0x0069), (0x2112, 0x006C), (0x2113, 0x006C), (0x2115, 0x006E),
    (0x211C, 0x0072), (0x211D, 0x0072), (0x2124, 0x007A), (0x2126, 0x03C9),
    (0x2128, 0x007A), (0x212A, 0x006B), (0x212B, 0x00E5), (0x212C, 0x0062),
    (0x212D, 0x0063), (0x212F, 0x0065), (0x2130, 0x0065), (0x2131, 0x0066),
    (0x2132, 0x214E), (0x2133, 0x006D), (0x2134, 0x006F), (0x2139, 0x0069),
    (0x213C, 0x03C0), (0x213D, 0x03B3), (0x213E, 0x03B3), (0x213F, 0x03C0),
    (0x2140, 0x2211), (0x2145, 0x0064), (0x2146, 0x0064), (0x2147, 0x0065),
    (0x2148, 0x0069), (0x2149, 0x006A), (0x2160, 0x0069), (0x2164, 0x0076),
    (0x2169, 0x0078), (0x216C, 0x006C), (0x216D, 0x0063), (0x216E, 0x0064),
    (0x216F, 0x006D), (0x2170, 0x0069), (0x2174, 0x0076), (0x2179, 0x0078),
    (0x217C, 0x006C), (0x217D, 0x0063), (0x217E, 0x0064), (0x217F, 0x006D),
    (0x2183, 0x2184), (0x2329, 0x3008), (0x232A, 0x3009), (0x24EA, 0x0030),
    (0x2C60, 0x2C61), (0x2C62, 0x026B), (0x2C63, 0x1D7D), (0x2C64, 0x027D),
    (0x2C6D, 0x0251), (0x2C6E, 0x0271), (0x2C6F, 0x0250), (0x2C70, 0x0252),
    (0x2C72, 0x2C73), (0x2C75, 0x2C76), (0x2C7C, 0x006A), (0x2C7D, 0x0076),
    (0x2C7E, 0x023F), (0x2C7F, 0x0240), (0x2CEB, 0x2CEC), (0x2CED, 0x2CEE),
    (0x2CF2, 0x2CF3), (0x2D6F, 0x2D61), (0x3131, 0x1100), (0x3132, 0x1101),
    (0x3133, 0x11AA), (0x3134, 0x1102), (0x3135, 0x11AC), (0x3136, 0x11AD),
    (0x3140, 0x111A), (0x3144, 0x1121), (0x3165, 0x1114), (0x3166, 0x1115),
    (0x3167, 0x11C7), (0x3168, 0x11C8), (0x3169, 0x11CC), (0x316A, 0x11CE),
    (0x316B, 0x11D3), (0x316C, 0x11D7), (0x316D, 0x11D9), (0x316E, 0x111C),
    (0x316F, 0x11DD), (0x3170, 0x11DF), (0x3171, 0x111D), (0x3172, 0x111E),
    (0x3173, 0x1120), (0x3174, 0x1122), (0x3175, 0x1123), (0x3176, 0x1127),
    (0x3177, 0x1129), (0x317D, 0x1132), (0x317E, 0x1136), (0x317F, 0x1140),
    (0x3180, 0x1147), (0x3181, 0x114C), (0x3182, 0x11F1), (0x3183, 0x11F2),
    (0x3187, 0x1184), (0x3188, 0x1185), (0x3189, 0x1188), (0x318A, 0x1191),
    (0x318B, 0x1192), (0x318C, 0x1194), (0x318D, 0x119E), (0x318E, 0x11A1),
    (0x3192, 0x4E00), (0x3193, 0x4E8C), (0x3194, 0x4E09), (0x3195, 0x56DB),
    (0x3196, 0x4E0A), (0x3197, 0x4E2D), (0x3198, 0x4E0B), (0x3199, 0x7532),
    (0x319A, 0x4E59), (0x319B, 0x4E19), (0x319C, 0x4E01), (0x319D, 0x5929),
    (0x319E, 0x5730), (0x319F, 0x4EBA), (0xA69C, 0x044A), (0xA69D, 0x044C),
    (0xA770, 0xA76F), (0xA779, 0xA77A), (0xA77B, 0xA77C), (0xA77D, 0x1D79),
    (0xA78B, 0xA78C), (0xA78D, 0x0265), (0xA790, 0xA791), (0xA792, 0xA793),
    (0xA7AA, 0x0266), (0xA7AB, 0x025C), (0xA7AC, 0x0261), (0xA7AD, 0x026C),
    (0xA7AE, 0x026A), (0xA7B0, 0x029E), (0xA7B1, 0x0287), (0xA7B2, 0x029D),
    (0xA7B3, 0xAB53), (0xA7C4, 0xA794), (0xA7C5, 0x0282), (0xA7C6, 0x1D8E),
    (0xA7C7, 0xA7C8), (0xA7C9, 0xA7CA), (0xA7CB, 0x0264), (0xA7DC, 0x019B),
    (0xA7F1, 0x0073), (0xA7F2, 0x0063), (0xA7F3, 0x0066), (0xA7F4, 0x0071),
    (0xA7F5, 0xA7F6), (0xA7F8, 0x0127), (0xA7F9, 0x0153), (0xAB5C, 0xA727),
    (0xAB5D, 0xAB37), (0xAB5E, 0x026B), (0xAB5F, 0xAB52), (0xAB69, 0x028D),
    (0xFB20, 0x05E2), (0xFB21, 0x05D0), (0xFB22, 0x05D3), (0xFB23, 0x05D4),
    (0xFB27, 0x05E8), (0xFB28, 0x05EA), (0xFB29, 0x002B), (0xFB50, 0x0671),
    (0xFB51, 0x0671), (0xFB52, 0x067B), (0xFB53, 0x067B), (0xFB54, 0x067B),
    (0xFB55, 0x067B), (0xFB56, 0x067E), (0xFB57, 0x067E), (0xFB58, 0x067E),
    (0xFB59, 0x067E), (0xFB5A, 0x0680), (0xFB5B, 0x0680), (0xFB5C, 0x0680),
    (0xFB5D, 0x0680), (0xFB5E, 0x067A), (0xFB5F, 0x067A), (0xFB60, 0x067A),
    (0xFB61, 0x067A), (0xFB62, 0x067F), (0xFB63, 0x067F), (0xFB64, 0x067F),
    (0xFB65, 0x067F), (0xFB66, 0x0679), (0xFB67, 0x0679), (0xFB68, 0x0679),
    (0xFB69, 0x0679), (0xFB6A, 0x06A4), (0xFB6B, 0x06A4), (0xFB6C, 0x06A4),
    (0xFB6D, 0x06A4), (0xFB6E, 0x06A6), (0xFB6F, 0x06A6), (0xFB70, 0x06A6),
    (0xFB71, 0x06A6), (0xFB72, 0x0684), (0xFB73, 0x0684), (0xFB74, 0x0684),
    (0xFB75, 0x0684), (0xFB76, 0x0683), (0xFB77, 0x0683), (0xFB78, 0x0683),
    (0xFB79, 0x0683), (0xFB7A, 0x0686), (0xFB7B, 0x0686), (0xFB7C, 0x0686),
    (0xFB7D, 0x0686), (0xFB7E, 0x0687), (0xFB7F, 0x0687), (0xFB80, 0x0687),
    (0xFB81, 0x0687), (0xFB82, 0x068D), (0xFB83, 0x068D), (0xFB84, 0x068C),
    (0xFB85, 0x068C), (0xFB86, 0x068E), (0xFB87, 0x068E), (0xFB88, 0x0688),
    (0xFB89, 0x0688), (0xFB8A, 0x0698), (0xFB8B, 0x0698), (0xFB8C, 0x0691),
    (0xFB8D, 0x0691), (0xFB8E, 0x06A9), (0xFB8F, 0x06A9), (0xFB90, 0x06A9),
    (0xFB91, 0x06A9), (0xFB92, 0x06AF), (0xFB93, 0x06AF), (0xFB94, 0x06AF),
    (0xFB95, 0x06AF), (0xFB96, 0x06B3), (0xFB97, 0x06B3), (0xFB98, 0x06B3),
    (0xFB99, 0x06B3), (0xFB9A, 0x06B1), (0xFB9B, 0x06B1), (0xFB9C, 0x06B1),
    (0xFB9D, 0x06B1), (0xFB9E, 0x06BA), (0xFB9F, 0x06BA), (0xFBA0, 0x06BB),
    (0xFBA1, 0x06BB), (0xFBA2, 0x06BB), (0xFBA3, 0x06BB), (0xFBA4, 0x06C0),
    (0xFBA5, 0x06C0), (0xFBA6, 0x06C1), (0xFBA7, 0x06C1), (0xFBA8, 0x06C1),
    (0xFBA9, 0x06C1), (0xFBAA, 0x06BE), (0xFBAB, 0x06BE), (0xFBAC, 0x06BE),
    (0xFBAD, 0x06BE), (0xFBAE, 0x06D2), (0xFBAF, 0x06D2), (0xFBB0, 0x06D3),
    (0xFBB1, 0x06D3), (0xFBD3, 0x06AD), (0xFBD4, 0x06AD), (0xFBD5, 0x06AD),
    (0xFBD6, 0x06AD), (0xFBD7, 0x06C7), (0xFBD8, 0x06C7), (0xFBD9, 0x06C6),
    (0xFBDA, 0x06C6), (0xFBDB, 0x06C8), (0xFBDC, 0x06C8), (0xFBDE, 0x06CB),
    (0xFBDF, 0x06CB), (0xFBE0, 0x06C5), (0xFBE1, 0x06C5), (0xFBE2, 0x06C9),
    (0xFBE3, 0x06C9), (0xFBE4, 0x06D0), (0xFBE5, 0x06D0), (0xFBE6, 0x06D0),
    (0xFBE7, 0x06D0), (0xFBE8, 0x0649), (0xFBE9, 0x0649), (0xFBFC, 0x06CC),
    (0xFBFD, 0x06CC), (0xFBFE, 0x06CC), (0xFBFF, 0x06CC), (0xFE10, 0x002C),
    (0xFE11, 0x3001), (0xFE13, 0x003A), (0xFE14, 0x003B), (0xFE15, 0x0021),
    (0xFE16, 0x003F), (0xFE17, 0x3016), (0xFE18, 0x3017), (0xFE31, 0x2014),
    (0xFE32, 0x2013), (0xFE33, 0x005F), (0xFE34, 0x005F), (0xFE35, 0x0028),
    (0xFE36, 0x0029), (0xFE37, 0x007B), (0xFE38, 0x007D), (0xFE39, 0x3014),
    (0xFE3A, 0x3015), (0xFE3B, 0x3010), (0xFE3C, 0x3011), (0xFE3D, 0x300A),
    (0xFE3E, 0x300B), (0xFE3F, 0x3008), (0xFE40, 0x3009), (0xFE47, 0x005B),
    (0xFE48, 0x005D), (0xFE4D, 0x005F), (0xFE4E, 0x005F), (0xFE4F, 0x005F),
    (0xFE50, 0x002C), (0xFE51, 0x3001), (0xFE54, 0x003B), (0xFE55, 0x003A),
    (0xFE56, 0x003F), (0xFE57, 0x0021), (0xFE58, 0x2014), (0xFE59, 0x0028),
    (0xFE5A, 0x0029), (0xFE5B, 0x007B), (0xFE5C, 0x007D), (0xFE5D, 0x3014),
    (0xFE5E, 0x3015), (0xFE5F, 0x0023), (0xFE60, 0x0026), (0xFE61, 0x002A),
    (0xFE62, 0x002B), (0xFE63, 0x002D), (0xFE64, 0x003C), (0xFE65, 0x003E),
    (0xFE66, 0x003D), (0xFE68, 0x005C), (0xFE69, 0x0024), (0xFE6A, 0x0025),
    (0xFE6B, 0x0040), (0xFE80, 0x0621), (0xFE81, 0x0622), (0xFE82, 0x0622),
    (0xFE83, 0x0623), (0xFE84, 0x0623), (0xFE85, 0x0624), (0xFE86, 0x0624),
    (0xFE87, 0x0625), (0xFE88, 0x0625), (0xFE89, 0x0626), (0xFE8A, 0x0626),
    (0xFE8B, 0x0626), (0xFE8C, 0x0626), (0xFE8D, 0x0627), (0xFE8E, 0x0627),
    (0xFE8F, 0x0628), (0xFE90, 0x0628), (0xFE91, 0x0628), (0xFE92, 0x0628),
    (0xFE93, 0x0629), (0xFE94, 0x0629), (0xFE95, 0x062A), (0xFE96, 0x062A),
    (0xFE97, 0x062A), (0xFE98, 0x062A), (0xFE99, 0x062B), (0xFE9A, 0x062B),
    (0xFE9B, 0x062B), (0xFE9C, 0x062B), (0xFE9D, 0x062C), (0xFE9E, 0x062C),
    (0xFE9F, 0x062C), (0xFEA0, 0x062C), (0xFEA1, 0x062D), (0xFEA2, 0x062D),
    (0xFEA3, 0x062D), (0xFEA4, 0x062D), (0xFEA5, 0x062E), (0xFEA6, 0x062E),
    (0xFEA7, 0x062E), (0xFEA8, 0x062E), (0xFEA9, 0x062F), (0xFEAA, 0x062F),
    (0xFEAB, 0x0630), (0xFEAC, 0x0630), (0xFEAD, 0x0631), (0xFEAE, 0x0631),
    (0xFEAF, 0x0632), (0xFEB0, 0x0632), (0xFEB1, 0x0633), (0xFEB2, 0x0633),
    (0xFEB3, 0x0633), (0xFEB4, 0x0633), (0xFEB5, 0x0634), (0xFEB6, 0x0634),
    (0xFEB7, 0x0634), (0xFEB8, 0x0634), (0xFEB9, 0x0635), (0xFEBA, 0x0635),
    (0xFEBB, 0x0635), (0xFEBC, 0x0635), (0xFEBD, 0x0636), (0xFEBE, 0x0636),
    (0xFEBF, 0x0636), (0xFEC0, 0x0636), (0xFEC1, 0x0637), (0xFEC2, 0x0637),
    (0xFEC3, 0x0637), (0xFEC4, 0x0637), (0xFEC5, 0x0638), (0xFEC6, 0x0638),
    (0xFEC7, 0x0638), (0xFEC8, 0x0638), (0xFEC9, 0x0639), (0xFECA, 0x0639),
    (0xFECB, 0x0639), (0xFECC, 0x0639), (0xFECD, 0x063A), (0xFECE, 0x063A),
    (0xFECF, 0x063A), (0xFED0, 0x063A), (0xFED1, 0x0641), (0xFED2, 0x0641),
    (0xFED3, 0x0641), (0xFED4, 0x0641), (0xFED5, 0x0642), (0xFED6, 0x0642),
    (0xFED7, 0x0642), (0xFED8, 0x0642), (0xFED9, 0x0643), (0xFEDA, 0x0643),
    (0xFEDB, 0x0643), (0xFEDC, 0x0643), (0xFEDD, 0x0644), (0xFEDE, 0x0644),
    (0xFEDF, 0x0644), (0xFEE0, 0x0644), (0xFEE1, 0x0645), (0xFEE2, 0x0645),
    (0xFEE3, 0x0645), (0xFEE4, 0x0645), (0xFEE5, 0x0646), (0xFEE6, 0x0646),
    (0xFEE7, 0x0646), (0xFEE8, 0x0646), (0xFEE9, 0x0647), (0xFEEA, 0x0647),
    (0xFEEB, 0x0647), (0xFEEC, 0x0647), (0xFEED, 0x0648), (0xFEEE, 0x0648),
    (0xFEEF, 0x0649), (0xFEF0, 0x0649), (0xFEF1, 0x064A), (0xFEF2, 0x064A),
    (0xFEF3, 0x064A), (0xFEF4, 0x064A), (0xFF5F, 0x2985), (0xFF60, 0x2986),
    (0xFF61, 0x002E), (0xFF62, 0x300C), (0xFF63, 0x300D), (0xFF64, 0x3001),
    (0xFF65, 0x30FB), (0xFF66, 0x30F2), (0xFF67, 0x30A1), (0xFF68, 0x30A3),
    (0xFF69, 0x30A5), (0xFF6A, 0x30A7), (0xFF6B, 0x30A9), (0xFF6C, 0x30E3),
    (0xFF6D, 0x30E5), (0xFF6E, 0x30E7), (0xFF6F, 0x30C3), (0xFF70, 0x30FC),
    (0xFF71, 0x30A2), (0xFF72, 0x30A4), (0xFF73, 0x30A6), (0xFF74, 0x30A8),
    (0xFF75, 0x30AA), (0xFF76, 0x30AB), (0xFF77, 0x30AD), (0xFF78, 0x30AF),
    (0xFF79, 0x30B1), (0xFF7A, 0x30B3), (0xFF7B, 0x30B5), (0xFF7C, 0x30B7),
    (0xFF7D, 0x30B9), (0xFF7E, 0x30BB), (0xFF7F, 0x30BD), (0xFF80, 0x30BF),
    (0xFF81, 0x30C1), (0xFF82, 0x30C4), (0xFF83, 0x30C6), (0xFF84, 0x30C8),
    (0xFF8B, 0x30D2), (0xFF8C, 0x30D5), (0xFF8D, 0x30D8), (0xFF8E, 0x30DB),
    (0xFF94, 0x30E4), (0xFF95, 0x30E6), (0xFF9C, 0x30EF), (0xFF9D, 0x30F3),
    (0xFF9E, 0x3099), (0xFF9F, 0x309A), (0xFFA1, 0x1100), (0xFFA2, 0x1101),
    (0xFFA3, 0x11AA), (0xFFA4, 0x1102), (0xFFA5, 0x11AC), (0xFFA6, 0x11AD),
    (0xFFB0, 0x111A), (0xFFB4, 0x1121), (0xFFE0, 0x00A2), (0xFFE1, 0x00A3),
    (0xFFE2, 0x00AC), (0xFFE4, 0x00A6), (0xFFE5, 0x00A5), (0xFFE6, 0x20A9),
    (0xFFE8, 0x2502), (0xFFED, 0x25A0), (0xFFEE, 0x25CB), (0x10594, 0x105BB),
    (0x10595, 0x105BC), (0x10781, 0x02D0), (0x10782, 0x02D1), (0x10783, 0x00E6),
    (0x10784, 0x0299), (0x10785, 0x0253), (0x10787, 0x02A3), (0x10788, 0xAB66),
    (0x10789, 0x02A5), (0x1078A, 0x02A4), (0x1078B, 0x0256), (0x1078C, 0x0257),
    (0x1078D, 0x1D91), (0x1078E, 0x0258), (0x1078F, 0x025E), (0x10790, 0x02A9),
    (0x10791, 0x0264), (0x10792, 0x0262), (0x10793, 0x0260), (0x10794, 0x029B),
    (0x10795, 0x0127), (0x10796, 0x029C), (0x10797, 0x0267), (0x10798, 0x0284),
    (0x10799, 0x02AA), (0x1079A, 0x02AB), (0x1079B, 0x026C), (0x1079C, 0x1DF04),
    (0x1079D, 0xA78E), (0x1079E, 0x026E), (0x1079F, 0x1DF05), (0x107A0, 0x028E),
    (0x107A1, 0x1DF06), (0x107A2, 0x00F8), (0x107A3, 0x0276), (0x107A4, 0x0277),
    (0x107A5, 0x0071), (0x107A6, 0x027A), (0x107A7, 0x1DF08), (0x107A8, 0x027D),
    (0x107A9, 0x027E), (0x107AA, 0x0280), (0x107AB, 0x02A8), (0x107AC, 0x02A6),
    (0x107AD, 0xAB67), (0x107AE, 0x02A7), (0x107AF, 0x0288), (0x107B0, 0x2C71),
    (0x107B2, 0x028F), (0x107B3, 0x02A1), (0x107B4, 0x02A2), (0x107B5, 0x0298),
    (0x107B9, 0x1DF0A), (0x107BA, 0x1DF1E), (0x1D49C, 0x0061), (0x1D49E, 0x0063),
    (0x1D49F, 0x0064), (0x1D4A2, 0x0067), (0x1D4A5, 0x006A), (0x1D4A6, 0x006B),
    (0x1D4BB, 0x0066), (0x1D504, 0x0061), (0x1D505, 0x0062), (0x1D538, 0x0061),
    (0x1D539, 0x0062), (0x1D546, 0x006F), (0x1D6A4, 0x0131), (0x1D6A5, 0x0237),
    (0x1D6B9, 0x03B8), (0x1D6C1, 0x2207), (0x1D6D3, 0x03C3), (0x1D6DB, 0x2202),
    (0x1D6DC, 0x03B5), (0x1D6DD, 0x03B8), (0x1D6DE, 0x03BA), (0x1D6DF, 0x03C6),
    (0x1D6E0, 0x03C1), (0x1D6E1, 0x03C0), (0x1D6F3, 0x03B8), (0x1D6FB, 0x2207),
    (0x1D70D, 0x03C3), (0x1D715, 0x2202), (0x1D716, 0x03B5), (0x1D717, 0x03B8),
    (0x1D718, 0x03BA), (0x1D719, 0x03C6), (0x1D71A, 0x03C1), (0x1D71B, 0x03C0),
    (0x1D72D, 0x03B8), (0x1D735, 0x2207), (0x1D747, 0x03C3), (0x1D74F, 0x2202),
    (0x1D750, 0x03B5), (0x1D751, 0x03B8), (0x1D752, 0x03BA), (0x1D753, 0x03C6),
    (0x1D754, 0x03C1), (0x1D755, 0x03C0), (0x1D767, 0x03B8), (0x1D76F, 0x2207),
    (0x1D781, 0x03C3), (0x1D789, 0x2202), (0x1D78A, 0x03B5), (0x1D78B, 0x03B8),
    (0x1D78C, 0x03BA), (0x1D78D, 0x03C6), (0x1D78E, 0x03C1), (0x1D78F, 0x03C0),
    (0x1D7A1, 0x03B8), (0x1D7A9, 0x2207), (0x1D7BB, 0x03C3), (0x1D7C3, 0x2202),
    (0x1D7C4, 0x03B5), (0x1D7C5, 0x03B8), (0x1D7C6, 0x03BA), (0x1D7C7, 0x03C6),
    (0x1D7C8, 0x03C1), (0x1D7C9, 0x03C0), (0x1D7CA, 0x03DD), (0x1D7CB, 0x03DD),
    (0x1E047, 0x044B), (0x1E048, 0x044D), (0x1E049, 0x044E), (0x1E04A, 0xA689),
    (0x1E04B, 0x04D9), (0x1E04C, 0x0456), (0x1E04D, 0x0458), (0x1E04E, 0x04E9),
    (0x1E04F, 0x04AF), (0x1E050, 0x04CF), (0x1E05A, 0x043A), (0x1E05B, 0x043B),
    (0x1E05C, 0x043E), (0x1E05D, 0x043F), (0x1E05E, 0x0441), (0x1E065, 0x044A),
    (0x1E066, 0x044B), (0x1E067, 0x0491), (0x1E068, 0x0456), (0x1E069, 0x0455),
    (0x1E06A, 0x045F), (0x1E06B, 0x04AB), (0x1E06C, 0xA651), (0x1E06D, 0x04B1),
    (0x1EE00, 0x0627), (0x1EE01, 0x0628), (0x1EE02, 0x062C), (0x1EE03, 0x062F),
    (0x1EE05, 0x0648), (0x1EE06, 0x0632), (0x1EE07, 0x062D), (0x1EE08, 0x0637),
    (0x1EE09, 0x064A), (0x1EE0E, 0x0633), (0x1EE0F, 0x0639), (0x1EE10, 0x0641),
    (0x1EE11, 0x0635), (0x1EE12, 0x0642), (0x1EE13, 0x0631), (0x1EE14, 0x0634),
    (0x1EE15, 0x062A), (0x1EE16, 0x062B), (0x1EE17, 0x062E), (0x1EE18, 0x0630),
    (0x1EE19, 0x0636), (0x1EE1A, 0x0638), (0x1EE1B, 0x063A), (0x1EE1C, 0x066E),
    (0x1EE1D, 0x06BA), (0x1EE1E, 0x06A1), (0x1EE1F, 0x066F), (0x1EE21, 0x0628),
    (0x1EE22, 0x062C), (0x1EE24, 0x0647), (0x1EE27, 0x062D), (0x1EE29, 0x064A),
    (0x1EE2E, 0x0633), (0x1EE2F, 0x0639), (0x1EE30, 0x0641), (0x1EE31, 0x0635),
    (0x1EE32, 0x0642), (0x1EE34, 0x0634), (0x1EE35, 0x062A), (0x1EE36, 0x062B),
    (0x1EE37, 0x062E), (0x1EE39, 0x0636), (0x1EE3B, 0x063A), (0x1EE42, 0x062C),
    (0x1EE47, 0x062D), (0x1EE49, 0x064A), (0x1EE4B, 0x0644), (0x1EE4D, 0x0646),
    (0x1EE4E, 0x0633), (0x1EE4F, 0x0639), (0x1EE51, 0x0635), (0x1EE52, 0x0642),
    (0x1EE54, 0x0634), (0x1EE57, 0x062E), (0x1EE59, 0x0636), (0x1EE5B, 0x063A),
    (0x1EE5D, 0x06BA), (0x1EE5F, 0x066F), (0x1EE61, 0x0628), (0x1EE62, 0x062C),
    (0x1EE64, 0x0647), (0x1EE67, 0x062D), (0x1EE68, 0x0637), (0x1EE69, 0x064A),
    (0x1EE6A, 0x0643), (0x1EE6C, 0x0645), (0x1EE6D, 0x0646), (0x1EE6E, 0x0633),
    (0x1EE6F, 0x0639), (0x1EE70, 0x0641), (0x1EE71, 0x0635), (0x1EE72, 0x0642),
    (0x1EE74, 0x0634), (0x1EE75, 0x062A), (0x1EE76, 0x062B), (0x1EE77, 0x062E),
    (0x1EE79, 0x0636), (0x1EE7A, 0x0638), (0x1EE7B, 0x063A), (0x1EE7C, 0x066E),
    (0x1EE7E, 0x06A1), (0x1EE80, 0x0627), (0x1EE81, 0x0628), (0x1EE82, 0x062C),
    (0x1EE83, 0x062F), (0x1EE84, 0x0647), (0x1EE85, 0x0648), (0x1EE86, 0x0632),
    (0x1EE87, 0x062D), (0x1EE88, 0x0637), (0x1EE89, 0x064A), (0x1EE8E, 0x0633),
    (0x1EE8F, 0x0639), (0x1EE90, 0x0641), (0x1EE91, 0x0635), (0x1EE92, 0x0642),
    (0x1EE93, 0x0631), (0x1EE94, 0x0634), (0x1EE95, 0x062A), (0x1EE96, 0x062B),
    (0x1EE97, 0x062E), (0x1EE98, 0x0630), (0x1EE99, 0x0636), (0x1EE9A, 0x0638),
    (0x1EE9B, 0x063A), (0x1EEA1, 0x0628), (0x1EEA2, 0x062C), (0x1EEA3, 0x062F),
    (0x1EEA5, 0x0648), (0x1EEA6, 0x0632), (0x1EEA7, 0x062D), (0x1EEA8, 0x0637),
    (0x1EEA9, 0x064A), (0x1EEAE, 0x0633), (0x1EEAF, 0x0639), (0x1EEB0, 0x0641),
    (0x1EEB1, 0x0635), (0x1EEB2, 0x0642), (0x1EEB3, 0x0631), (0x1EEB4, 0x0634),
    (0x1EEB5, 0x062A), (0x1EEB6, 0x062B), (0x1EEB7, 0x062E), (0x1EEB8, 0x0630),
    (0x1EEB9, 0x0636), (0x1EEBA, 0x0638), (0x1EEBB, 0x063A), (0x1F12B, 0x0063),
    (0x1F12C, 0x0072)]

end ServiceProbe.Idn
