/-!
Characters that are mapped to more than one: ligatures, presentation forms,
fractions, units, and numbers and words in a frame.
-/

namespace ServiceProbe.Idn

/-- Those below FB00. -/
def mappedSequences : List (Nat × List Nat) :=
  [
    (0x00A8, [0x0020, 0x0308]), (0x00AF, [0x0020, 0x0304]), (0x00B4, [0x0020, 0x0301]),
    (0x00B8, [0x0020, 0x0327]), (0x00BC, [0x0031, 0x2044, 0x0034]),
    (0x00BD, [0x0031, 0x2044, 0x0032]), (0x00BE, [0x0033, 0x2044, 0x0034]),
    (0x0130, [0x0069, 0x0307]), (0x0132, [0x0069, 0x006A]), (0x0133, [0x0069, 0x006A]),
    (0x013F, [0x006C, 0x00B7]), (0x0140, [0x006C, 0x00B7]), (0x0149, [0x02BC, 0x006E]),
    (0x01C4, [0x0064, 0x017E]), (0x01C5, [0x0064, 0x017E]), (0x01C6, [0x0064, 0x017E]),
    (0x01C7, [0x006C, 0x006A]), (0x01C8, [0x006C, 0x006A]), (0x01C9, [0x006C, 0x006A]),
    (0x01CA, [0x006E, 0x006A]), (0x01CB, [0x006E, 0x006A]), (0x01CC, [0x006E, 0x006A]),
    (0x01F1, [0x0064, 0x007A]), (0x01F2, [0x0064, 0x007A]), (0x01F3, [0x0064, 0x007A]),
    (0x02D8, [0x0020, 0x0306]), (0x02D9, [0x0020, 0x0307]), (0x02DA, [0x0020, 0x030A]),
    (0x02DB, [0x0020, 0x0328]), (0x02DC, [0x0020, 0x0303]), (0x02DD, [0x0020, 0x030B]),
    (0x0344, [0x0308, 0x0301]), (0x037A, [0x0020, 0x03B9]), (0x0384, [0x0020, 0x0301]),
    (0x0385, [0x0020, 0x0308, 0x0301]), (0x0587, [0x0565, 0x0582]), (0x0675, [0x0627, 0x0674]),
    (0x0676, [0x0648, 0x0674]), (0x0677, [0x06C7, 0x0674]), (0x0678, [0x064A, 0x0674]),
    (0x0958, [0x0915, 0x093C]), (0x0959, [0x0916, 0x093C]), (0x095A, [0x0917, 0x093C]),
    (0x095B, [0x091C, 0x093C]), (0x095C, [0x0921, 0x093C]), (0x095D, [0x0922, 0x093C]),
    (0x095E, [0x092B, 0x093C]), (0x095F, [0x092F, 0x093C]), (0x09DC, [0x09A1, 0x09BC]),
    (0x09DD, [0x09A2, 0x09BC]), (0x09DF, [0x09AF, 0x09BC]), (0x0A33, [0x0A32, 0x0A3C]),
    (0x0A36, [0x0A38, 0x0A3C]), (0x0A59, [0x0A16, 0x0A3C]), (0x0A5A, [0x0A17, 0x0A3C]),
    (0x0A5B, [0x0A1C, 0x0A3C]), (0x0A5E, [0x0A2B, 0x0A3C]), (0x0B5C, [0x0B21, 0x0B3C]),
    (0x0B5D, [0x0B22, 0x0B3C]), (0x0E33, [0x0E4D, 0x0E32]), (0x0EB3, [0x0ECD, 0x0EB2]),
    (0x0EDC, [0x0EAB, 0x0E99]), (0x0EDD, [0x0EAB, 0x0EA1]), (0x0F43, [0x0F42, 0x0FB7]),
    (0x0F4D, [0x0F4C, 0x0FB7]), (0x0F52, [0x0F51, 0x0FB7]), (0x0F57, [0x0F56, 0x0FB7]),
    (0x0F5C, [0x0F5B, 0x0FB7]), (0x0F69, [0x0F40, 0x0FB5]), (0x0F73, [0x0F71, 0x0F72]),
    (0x0F75, [0x0F71, 0x0F74]), (0x0F76, [0x0FB2, 0x0F80]), (0x0F77, [0x0FB2, 0x0F71, 0x0F80]),
    (0x0F78, [0x0FB3, 0x0F80]), (0x0F79, [0x0FB3, 0x0F71, 0x0F80]), (0x0F81, [0x0F71, 0x0F80]),
    (0x0F93, [0x0F92, 0x0FB7]), (0x0F9D, [0x0F9C, 0x0FB7]), (0x0FA2, [0x0FA1, 0x0FB7]),
    (0x0FA7, [0x0FA6, 0x0FB7]), (0x0FAC, [0x0FAB, 0x0FB7]), (0x0FB9, [0x0F90, 0x0FB5]),
    (0x1E9A, [0x0061, 0x02BE]), (0x1F80, [0x1F00, 0x03B9]), (0x1F81, [0x1F01, 0x03B9]),
    (0x1F82, [0x1F02, 0x03B9]), (0x1F83, [0x1F03, 0x03B9]), (0x1F84, [0x1F04, 0x03B9]),
    (0x1F85, [0x1F05, 0x03B9]), (0x1F86, [0x1F06, 0x03B9]), (0x1F87, [0x1F07, 0x03B9]),
    (0x1F88, [0x1F00, 0x03B9]), (0x1F89, [0x1F01, 0x03B9]), (0x1F8A, [0x1F02, 0x03B9]),
    (0x1F8B, [0x1F03, 0x03B9]), (0x1F8C, [0x1F04, 0x03B9]), (0x1F8D, [0x1F05, 0x03B9]),
    (0x1F8E, [0x1F06, 0x03B9]), (0x1F8F, [0x1F07, 0x03B9]), (0x1F90, [0x1F20, 0x03B9]),
    (0x1F91, [0x1F21, 0x03B9]), (0x1F92, [0x1F22, 0x03B9]), (0x1F93, [0x1F23, 0x03B9]),
    (0x1F94, [0x1F24, 0x03B9]), (0x1F95, [0x1F25, 0x03B9]), (0x1F96, [0x1F26, 0x03B9]),
    (0x1F97, [0x1F27, 0x03B9]), (0x1F98, [0x1F20, 0x03B9]), (0x1F99, [0x1F21, 0x03B9]),
    (0x1F9A, [0x1F22, 0x03B9]), (0x1F9B, [0x1F23, 0x03B9]), (0x1F9C, [0x1F24, 0x03B9]),
    (0x1F9D, [0x1F25, 0x03B9]), (0x1F9E, [0x1F26, 0x03B9]), (0x1F9F, [0x1F27, 0x03B9]),
    (0x1FA0, [0x1F60, 0x03B9]), (0x1FA1, [0x1F61, 0x03B9]), (0x1FA2, [0x1F62, 0x03B9]),
    (0x1FA3, [0x1F63, 0x03B9]), (0x1FA4, [0x1F64, 0x03B9]), (0x1FA5, [0x1F65, 0x03B9]),
    (0x1FA6, [0x1F66, 0x03B9]), (0x1FA7, [0x1F67, 0x03B9]), (0x1FA8, [0x1F60, 0x03B9]),
    (0x1FA9, [0x1F61, 0x03B9]), (0x1FAA, [0x1F62, 0x03B9]), (0x1FAB, [0x1F63, 0x03B9]),
    (0x1FAC, [0x1F64, 0x03B9]), (0x1FAD, [0x1F65, 0x03B9]), (0x1FAE, [0x1F66, 0x03B9]),
    (0x1FAF, [0x1F67, 0x03B9]), (0x1FB2, [0x1F70, 0x03B9]), (0x1FB3, [0x03B1, 0x03B9]),
    (0x1FB4, [0x03AC, 0x03B9]), (0x1FB7, [0x1FB6, 0x03B9]), (0x1FBC, [0x03B1, 0x03B9]),
    (0x1FBD, [0x0020, 0x0313]), (0x1FBF, [0x0020, 0x0313]), (0x1FC0, [0x0020, 0x0342]),
    (0x1FC1, [0x0020, 0x0308, 0x0342]), (0x1FC2, [0x1F74, 0x03B9]), (0x1FC3, [0x03B7, 0x03B9]),
    (0x1FC4, [0x03AE, 0x03B9]), (0x1FC7, [0x1FC6, 0x03B9]), (0x1FCC, [0x03B7, 0x03B9]),
    (0x1FCD, [0x0020, 0x0313, 0x0300]), (0x1FCE, [0x0020, 0x0313, 0x0301]),
    (0x1FCF, [0x0020, 0x0313, 0x0342]), (0x1FDD, [0x0020, 0x0314, 0x0300]),
    (0x1FDE, [0x0020, 0x0314, 0x0301]), (0x1FDF, [0x0020, 0x0314, 0x0342]),
    (0x1FED, [0x0020, 0x0308, 0x0300]), (0x1FEE, [0x0020, 0x0308, 0x0301]),
    (0x1FF2, [0x1F7C, 0x03B9]), (0x1FF3, [0x03C9, 0x03B9]), (0x1FF4, [0x03CE, 0x03B9]),
    (0x1FF7, [0x1FF6, 0x03B9]), (0x1FFC, [0x03C9, 0x03B9]), (0x1FFD, [0x0020, 0x0301]),
    (0x1FFE, [0x0020, 0x0314]), (0x2017, [0x0020, 0x0333]), (0x2033, [0x2032, 0x2032]),
    (0x2034, [0x2032, 0x2032, 0x2032]), (0x2036, [0x2035, 0x2035]),
    (0x2037, [0x2035, 0x2035, 0x2035]), (0x203C, [0x0021, 0x0021]), (0x203E, [0x0020, 0x0305]),
    (0x2047, [0x003F, 0x003F]), (0x2048, [0x003F, 0x0021]), (0x2049, [0x0021, 0x003F]),
    (0x2057, [0x2032, 0x2032, 0x2032, 0x2032]), (0x20A8, [0x0072, 0x0073]),
    (0x2100, [0x0061, 0x002F, 0x0063]), (0x2101, [0x0061, 0x002F, 0x0073]),
    (0x2103, [0x00B0, 0x0063]), (0x2105, [0x0063, 0x002F, 0x006F]),
    (0x2106, [0x0063, 0x002F, 0x0075]), (0x2109, [0x00B0, 0x0066]), (0x2116, [0x006E, 0x006F]),
    (0x2120, [0x0073, 0x006D]), (0x2121, [0x0074, 0x0065, 0x006C]), (0x2122, [0x0074, 0x006D]),
    (0x213B, [0x0066, 0x0061, 0x0078]), (0x2150, [0x0031, 0x2044, 0x0037]),
    (0x2151, [0x0031, 0x2044, 0x0039]), (0x2152, [0x0031, 0x2044, 0x0031, 0x0030]),
    (0x2153, [0x0031, 0x2044, 0x0033]), (0x2154, [0x0032, 0x2044, 0x0033]),
    (0x2155, [0x0031, 0x2044, 0x0035]), (0x2156, [0x0032, 0x2044, 0x0035]),
    (0x2157, [0x0033, 0x2044, 0x0035]), (0x2158, [0x0034, 0x2044, 0x0035]),
    (0x2159, [0x0031, 0x2044, 0x0036]), (0x215A, [0x0035, 0x2044, 0x0036]),
    (0x215B, [0x0031, 0x2044, 0x0038]), (0x215C, [0x0033, 0x2044, 0x0038]),
    (0x215D, [0x0035, 0x2044, 0x0038]), (0x215E, [0x0037, 0x2044, 0x0038]),
    (0x215F, [0x0031, 0x2044]), (0x2161, [0x0069, 0x0069]), (0x2162, [0x0069, 0x0069, 0x0069]),
    (0x2163, [0x0069, 0x0076]), (0x2165, [0x0076, 0x0069]), (0x2166, [0x0076, 0x0069, 0x0069]),
    (0x2167, [0x0076, 0x0069, 0x0069, 0x0069]), (0x2168, [0x0069, 0x0078]),
    (0x216A, [0x0078, 0x0069]), (0x216B, [0x0078, 0x0069, 0x0069]), (0x2171, [0x0069, 0x0069]),
    (0x2172, [0x0069, 0x0069, 0x0069]), (0x2173, [0x0069, 0x0076]), (0x2175, [0x0076, 0x0069]),
    (0x2176, [0x0076, 0x0069, 0x0069]), (0x2177, [0x0076, 0x0069, 0x0069, 0x0069]),
    (0x2178, [0x0069, 0x0078]), (0x217A, [0x0078, 0x0069]), (0x217B, [0x0078, 0x0069, 0x0069]),
    (0x2189, [0x0030, 0x2044, 0x0033]), (0x222C, [0x222B, 0x222B]),
    (0x222D, [0x222B, 0x222B, 0x222B]), (0x222F, [0x222E, 0x222E]),
    (0x2230, [0x222E, 0x222E, 0x222E]), (0x2469, [0x0031, 0x0030]), (0x246A, [0x0031, 0x0031]),
    (0x246B, [0x0031, 0x0032]), (0x246C, [0x0031, 0x0033]), (0x246D, [0x0031, 0x0034]),
    (0x246E, [0x0031, 0x0035]), (0x246F, [0x0031, 0x0036]), (0x2470, [0x0031, 0x0037]),
    (0x2471, [0x0031, 0x0038]), (0x2472, [0x0031, 0x0039]), (0x2473, [0x0032, 0x0030]),
    (0x2474, [0x0028, 0x0031, 0x0029]), (0x2475, [0x0028, 0x0032, 0x0029]),
    (0x2476, [0x0028, 0x0033, 0x0029]), (0x2477, [0x0028, 0x0034, 0x0029]),
    (0x2478, [0x0028, 0x0035, 0x0029]), (0x2479, [0x0028, 0x0036, 0x0029]),
    (0x247A, [0x0028, 0x0037, 0x0029]), (0x247B, [0x0028, 0x0038, 0x0029]),
    (0x247C, [0x0028, 0x0039, 0x0029]), (0x247D, [0x0028, 0x0031, 0x0030, 0x0029]),
    (0x247E, [0x0028, 0x0031, 0x0031, 0x0029]), (0x247F, [0x0028, 0x0031, 0x0032, 0x0029]),
    (0x2480, [0x0028, 0x0031, 0x0033, 0x0029]), (0x2481, [0x0028, 0x0031, 0x0034, 0x0029]),
    (0x2482, [0x0028, 0x0031, 0x0035, 0x0029]), (0x2483, [0x0028, 0x0031, 0x0036, 0x0029]),
    (0x2484, [0x0028, 0x0031, 0x0037, 0x0029]), (0x2485, [0x0028, 0x0031, 0x0038, 0x0029]),
    (0x2486, [0x0028, 0x0031, 0x0039, 0x0029]), (0x2487, [0x0028, 0x0032, 0x0030, 0x0029]),
    (0x249C, [0x0028, 0x0061, 0x0029]), (0x249D, [0x0028, 0x0062, 0x0029]),
    (0x249E, [0x0028, 0x0063, 0x0029]), (0x249F, [0x0028, 0x0064, 0x0029]),
    (0x24A0, [0x0028, 0x0065, 0x0029]), (0x24A1, [0x0028, 0x0066, 0x0029]),
    (0x24A2, [0x0028, 0x0067, 0x0029]), (0x24A3, [0x0028, 0x0068, 0x0029]),
    (0x24A4, [0x0028, 0x0069, 0x0029]), (0x24A5, [0x0028, 0x006A, 0x0029]),
    (0x24A6, [0x0028, 0x006B, 0x0029]), (0x24A7, [0x0028, 0x006C, 0x0029]),
    (0x24A8, [0x0028, 0x006D, 0x0029]), (0x24A9, [0x0028, 0x006E, 0x0029]),
    (0x24AA, [0x0028, 0x006F, 0x0029]), (0x24AB, [0x0028, 0x0070, 0x0029]),
    (0x24AC, [0x0028, 0x0071, 0x0029]), (0x24AD, [0x0028, 0x0072, 0x0029]),
    (0x24AE, [0x0028, 0x0073, 0x0029]), (0x24AF, [0x0028, 0x0074, 0x0029]),
    (0x24B0, [0x0028, 0x0075, 0x0029]), (0x24B1, [0x0028, 0x0076, 0x0029]),
    (0x24B2, [0x0028, 0x0077, 0x0029]), (0x24B3, [0x0028, 0x0078, 0x0029]),
    (0x24B4, [0x0028, 0x0079, 0x0029]), (0x24B5, [0x0028, 0x007A, 0x0029]),
    (0x2A0C, [0x222B, 0x222B, 0x222B, 0x222B]), (0x2A74, [0x003A, 0x003A, 0x003D]),
    (0x2A75, [0x003D, 0x003D]), (0x2A76, [0x003D, 0x003D, 0x003D]), (0x2ADC, [0x2ADD, 0x0338]),
    (0x309B, [0x0020, 0x3099]), (0x309C, [0x0020, 0x309A]), (0x309F, [0x3088, 0x308A]),
    (0x30FF, [0x30B3, 0x30C8]), (0x3200, [0x0028, 0x1100, 0x0029]),
    (0x3201, [0x0028, 0x1102, 0x0029]), (0x3202, [0x0028, 0x1103, 0x0029]),
    (0x3203, [0x0028, 0x1105, 0x0029]), (0x3204, [0x0028, 0x1106, 0x0029]),
    (0x3205, [0x0028, 0x1107, 0x0029]), (0x3206, [0x0028, 0x1109, 0x0029]),
    (0x3207, [0x0028, 0x110B, 0x0029]), (0x3208, [0x0028, 0x110C, 0x0029]),
    (0x3209, [0x0028, 0x110E, 0x0029]), (0x320A, [0x0028, 0x110F, 0x0029]),
    (0x320B, [0x0028, 0x1110, 0x0029]), (0x320C, [0x0028, 0x1111, 0x0029]),
    (0x320D, [0x0028, 0x1112, 0x0029]), (0x320E, [0x0028, 0xAC00, 0x0029]),
    (0x320F, [0x0028, 0xB098, 0x0029]), (0x3210, [0x0028, 0xB2E4, 0x0029]),
    (0x3211, [0x0028, 0xB77C, 0x0029]), (0x3212, [0x0028, 0xB9C8, 0x0029]),
    (0x3213, [0x0028, 0xBC14, 0x0029]), (0x3214, [0x0028, 0xC0AC, 0x0029]),
    (0x3215, [0x0028, 0xC544, 0x0029]), (0x3216, [0x0028, 0xC790, 0x0029]),
    (0x3217, [0x0028, 0xCC28, 0x0029]), (0x3218, [0x0028, 0xCE74, 0x0029]),
    (0x3219, [0x0028, 0xD0C0, 0x0029]), (0x321A, [0x0028, 0xD30C, 0x0029]),
    (0x321B, [0x0028, 0xD558, 0x0029]), (0x321C, [0x0028, 0xC8FC, 0x0029]),
    (0x321D, [0x0028, 0xC624, 0xC804, 0x0029]), (0x321E, [0x0028, 0xC624, 0xD6C4, 0x0029]),
    (0x3220, [0x0028, 0x4E00, 0x0029]), (0x3221, [0x0028, 0x4E8C, 0x0029]),
    (0x3222, [0x0028, 0x4E09, 0x0029]), (0x3223, [0x0028, 0x56DB, 0x0029]),
    (0x3224, [0x0028, 0x4E94, 0x0029]), (0x3225, [0x0028, 0x516D, 0x0029]),
    (0x3226, [0x0028, 0x4E03, 0x0029]), (0x3227, [0x0028, 0x516B, 0x0029]),
    (0x3228, [0x0028, 0x4E5D, 0x0029]), (0x3229, [0x0028, 0x5341, 0x0029]),
    (0x322A, [0x0028, 0x6708, 0x0029]), (0x322B, [0x0028, 0x706B, 0x0029]),
    (0x322C, [0x0028, 0x6C34, 0x0029]), (0x322D, [0x0028, 0x6728, 0x0029]),
    (0x322E, [0x0028, 0x91D1, 0x0029]), (0x322F, [0x0028, 0x571F, 0x0029]),
    (0x3230, [0x0028, 0x65E5, 0x0029]), (0x3231, [0x0028, 0x682A, 0x0029]),
    (0x3232, [0x0028, 0x6709, 0x0029]), (0x3233, [0x0028, 0x793E, 0x0029]),
    (0x3234, [0x0028, 0x540D, 0x0029]), (0x3235, [0x0028, 0x7279, 0x0029]),
    (0x3236, [0x0028, 0x8CA1, 0x0029]), (0x3237, [0x0028, 0x795D, 0x0029]),
    (0x3238, [0x0028, 0x52B4, 0x0029]), (0x3239, [0x0028, 0x4EE3, 0x0029]),
    (0x323A, [0x0028, 0x547C, 0x0029]), (0x323B, [0x0028, 0x5B66, 0x0029]),
    (0x323C, [0x0028, 0x76E3, 0x0029]), (0x323D, [0x0028, 0x4F01, 0x0029]),
    (0x323E, [0x0028, 0x8CC7, 0x0029]), (0x323F, [0x0028, 0x5354, 0x0029]),
    (0x3240, [0x0028, 0x796D, 0x0029]), (0x3241, [0x0028, 0x4F11, 0x0029]),
    (0x3242, [0x0028, 0x81EA, 0x0029]), (0x3243, [0x0028, 0x81F3, 0x0029]),
    (0x3250, [0x0070, 0x0074, 0x0065]), (0x3251, [0x0032, 0x0031]), (0x3252, [0x0032, 0x0032]),
    (0x3253, [0x0032, 0x0033]), (0x3254, [0x0032, 0x0034]), (0x3255, [0x0032, 0x0035]),
    (0x3256, [0x0032, 0x0036]), (0x3257, [0x0032, 0x0037]), (0x3258, [0x0032, 0x0038]),
    (0x3259, [0x0032, 0x0039]), (0x325A, [0x0033, 0x0030]), (0x325B, [0x0033, 0x0031]),
    (0x325C, [0x0033, 0x0032]), (0x325D, [0x0033, 0x0033]), (0x325E, [0x0033, 0x0034]),
    (0x325F, [0x0033, 0x0035]), (0x327C, [0xCC38, 0xACE0]), (0x327D, [0xC8FC, 0xC758]),
    (0x32B1, [0x0033, 0x0036]), (0x32B2, [0x0033, 0x0037]), (0x32B3, [0x0033, 0x0038]),
    (0x32B4, [0x0033, 0x0039]), (0x32B5, [0x0034, 0x0030]), (0x32B6, [0x0034, 0x0031]),
    (0x32B7, [0x0034, 0x0032]), (0x32B8, [0x0034, 0x0033]), (0x32B9, [0x0034, 0x0034]),
    (0x32BA, [0x0034, 0x0035]), (0x32BB, [0x0034, 0x0036]), (0x32BC, [0x0034, 0x0037]),
    (0x32BD, [0x0034, 0x0038]), (0x32BE, [0x0034, 0x0039]), (0x32BF, [0x0035, 0x0030]),
    (0x32C0, [0x0031, 0x6708]), (0x32C1, [0x0032, 0x6708]), (0x32C2, [0x0033, 0x6708]),
    (0x32C3, [0x0034, 0x6708]), (0x32C4, [0x0035, 0x6708]), (0x32C5, [0x0036, 0x6708]),
    (0x32C6, [0x0037, 0x6708]), (0x32C7, [0x0038, 0x6708]), (0x32C8, [0x0039, 0x6708]),
    (0x32C9, [0x0031, 0x0030, 0x6708]), (0x32CA, [0x0031, 0x0031, 0x6708]),
    (0x32CB, [0x0031, 0x0032, 0x6708]), (0x32CC, [0x0068, 0x0067]),
    (0x32CD, [0x0065, 0x0072, 0x0067]), (0x32CE, [0x0065, 0x0076]),
    (0x32CF, [0x006C, 0x0074, 0x0064]), (0x32FF, [0x4EE4, 0x548C]),
    (0x3300, [0x30A2, 0x30D1, 0x30FC, 0x30C8]), (0x3301, [0x30A2, 0x30EB, 0x30D5, 0x30A1]),
    (0x3302, [0x30A2, 0x30F3, 0x30DA, 0x30A2]), (0x3303, [0x30A2, 0x30FC, 0x30EB]),
    (0x3304, [0x30A4, 0x30CB, 0x30F3, 0x30B0]), (0x3305, [0x30A4, 0x30F3, 0x30C1]),
    (0x3306, [0x30A6, 0x30A9, 0x30F3]), (0x3307, [0x30A8, 0x30B9, 0x30AF, 0x30FC, 0x30C9]),
    (0x3308, [0x30A8, 0x30FC, 0x30AB, 0x30FC]), (0x3309, [0x30AA, 0x30F3, 0x30B9]),
    (0x330A, [0x30AA, 0x30FC, 0x30E0]), (0x330B, [0x30AB, 0x30A4, 0x30EA]),
    (0x330C, [0x30AB, 0x30E9, 0x30C3, 0x30C8]), (0x330D, [0x30AB, 0x30ED, 0x30EA, 0x30FC]),
    (0x330E, [0x30AC, 0x30ED, 0x30F3]), (0x330F, [0x30AC, 0x30F3, 0x30DE]),
    (0x3310, [0x30AE, 0x30AC]), (0x3311, [0x30AE, 0x30CB, 0x30FC]),
    (0x3312, [0x30AD, 0x30E5, 0x30EA, 0x30FC]), (0x3313, [0x30AE, 0x30EB, 0x30C0, 0x30FC]),
    (0x3314, [0x30AD, 0x30ED]), (0x3315, [0x30AD, 0x30ED, 0x30B0, 0x30E9, 0x30E0]),
    (0x3316, [0x30AD, 0x30ED, 0x30E1, 0x30FC, 0x30C8, 0x30EB]),
    (0x3317, [0x30AD, 0x30ED, 0x30EF, 0x30C3, 0x30C8]), (0x3318, [0x30B0, 0x30E9, 0x30E0]),
    (0x3319, [0x30B0, 0x30E9, 0x30E0, 0x30C8, 0x30F3]),
    (0x331A, [0x30AF, 0x30EB, 0x30BC, 0x30A4, 0x30ED]),
    (0x331B, [0x30AF, 0x30ED, 0x30FC, 0x30CD]), (0x331C, [0x30B1, 0x30FC, 0x30B9]),
    (0x331D, [0x30B3, 0x30EB, 0x30CA]), (0x331E, [0x30B3, 0x30FC, 0x30DD]),
    (0x331F, [0x30B5, 0x30A4, 0x30AF, 0x30EB]),
    (0x3320, [0x30B5, 0x30F3, 0x30C1, 0x30FC, 0x30E0]),
    (0x3321, [0x30B7, 0x30EA, 0x30F3, 0x30B0]), (0x3322, [0x30BB, 0x30F3, 0x30C1]),
    (0x3323, [0x30BB, 0x30F3, 0x30C8]), (0x3324, [0x30C0, 0x30FC, 0x30B9]),
    (0x3325, [0x30C7, 0x30B7]), (0x3326, [0x30C9, 0x30EB]), (0x3327, [0x30C8, 0x30F3]),
    (0x3328, [0x30CA, 0x30CE]), (0x3329, [0x30CE, 0x30C3, 0x30C8]),
    (0x332A, [0x30CF, 0x30A4, 0x30C4]), (0x332B, [0x30D1, 0x30FC, 0x30BB, 0x30F3, 0x30C8]),
    (0x332C, [0x30D1, 0x30FC, 0x30C4]), (0x332D, [0x30D0, 0x30FC, 0x30EC, 0x30EB]),
    (0x332E, [0x30D4, 0x30A2, 0x30B9, 0x30C8, 0x30EB]), (0x332F, [0x30D4, 0x30AF, 0x30EB]),
    (0x3330, [0x30D4, 0x30B3]), (0x3331, [0x30D3, 0x30EB]),
    (0x3332, [0x30D5, 0x30A1, 0x30E9, 0x30C3, 0x30C9]),
    (0x3333, [0x30D5, 0x30A3, 0x30FC, 0x30C8]),
    (0x3334, [0x30D6, 0x30C3, 0x30B7, 0x30A7, 0x30EB]), (0x3335, [0x30D5, 0x30E9, 0x30F3]),
    (0x3336, [0x30D8, 0x30AF, 0x30BF, 0x30FC, 0x30EB]), (0x3337, [0x30DA, 0x30BD]),
    (0x3338, [0x30DA, 0x30CB, 0x30D2]), (0x3339, [0x30D8, 0x30EB, 0x30C4]),
    (0x333A, [0x30DA, 0x30F3, 0x30B9]), (0x333B, [0x30DA, 0x30FC, 0x30B8]),
    (0x333C, [0x30D9, 0x30FC, 0x30BF]), (0x333D, [0x30DD, 0x30A4, 0x30F3, 0x30C8]),
    (0x333E, [0x30DC, 0x30EB, 0x30C8]), (0x333F, [0x30DB, 0x30F3]),
    (0x3340, [0x30DD, 0x30F3, 0x30C9]), (0x3341, [0x30DB, 0x30FC, 0x30EB]),
    (0x3342, [0x30DB, 0x30FC, 0x30F3]), (0x3343, [0x30DE, 0x30A4, 0x30AF, 0x30ED]),
    (0x3344, [0x30DE, 0x30A4, 0x30EB]), (0x3345, [0x30DE, 0x30C3, 0x30CF]),
    (0x3346, [0x30DE, 0x30EB, 0x30AF]), (0x3347, [0x30DE, 0x30F3, 0x30B7, 0x30E7, 0x30F3]),
    (0x3348, [0x30DF, 0x30AF, 0x30ED, 0x30F3]), (0x3349, [0x30DF, 0x30EA]),
    (0x334A, [0x30DF, 0x30EA, 0x30D0, 0x30FC, 0x30EB]), (0x334B, [0x30E1, 0x30AC]),
    (0x334C, [0x30E1, 0x30AC, 0x30C8, 0x30F3]), (0x334D, [0x30E1, 0x30FC, 0x30C8, 0x30EB]),
    (0x334E, [0x30E4, 0x30FC, 0x30C9]), (0x334F, [0x30E4, 0x30FC, 0x30EB]),
    (0x3350, [0x30E6, 0x30A2, 0x30F3]), (0x3351, [0x30EA, 0x30C3, 0x30C8, 0x30EB]),
    (0x3352, [0x30EA, 0x30E9]), (0x3353, [0x30EB, 0x30D4, 0x30FC]),
    (0x3354, [0x30EB, 0x30FC, 0x30D6, 0x30EB]), (0x3355, [0x30EC, 0x30E0]),
    (0x3356, [0x30EC, 0x30F3, 0x30C8, 0x30B2, 0x30F3]), (0x3357, [0x30EF, 0x30C3, 0x30C8]),
    (0x3358, [0x0030, 0x70B9]), (0x3359, [0x0031, 0x70B9]), (0x335A, [0x0032, 0x70B9]),
    (0x335B, [0x0033, 0x70B9]), (0x335C, [0x0034, 0x70B9]), (0x335D, [0x0035, 0x70B9]),
    (0x335E, [0x0036, 0x70B9]), (0x335F, [0x0037, 0x70B9]), (0x3360, [0x0038, 0x70B9]),
    (0x3361, [0x0039, 0x70B9]), (0x3362, [0x0031, 0x0030, 0x70B9]),
    (0x3363, [0x0031, 0x0031, 0x70B9]), (0x3364, [0x0031, 0x0032, 0x70B9]),
    (0x3365, [0x0031, 0x0033, 0x70B9]), (0x3366, [0x0031, 0x0034, 0x70B9]),
    (0x3367, [0x0031, 0x0035, 0x70B9]), (0x3368, [0x0031, 0x0036, 0x70B9]),
    (0x3369, [0x0031, 0x0037, 0x70B9]), (0x336A, [0x0031, 0x0038, 0x70B9]),
    (0x336B, [0x0031, 0x0039, 0x70B9]), (0x336C, [0x0032, 0x0030, 0x70B9]),
    (0x336D, [0x0032, 0x0031, 0x70B9]), (0x336E, [0x0032, 0x0032, 0x70B9]),
    (0x336F, [0x0032, 0x0033, 0x70B9]), (0x3370, [0x0032, 0x0034, 0x70B9]),
    (0x3371, [0x0068, 0x0070, 0x0061]), (0x3372, [0x0064, 0x0061]), (0x3373, [0x0061, 0x0075]),
    (0x3374, [0x0062, 0x0061, 0x0072]), (0x3375, [0x006F, 0x0076]), (0x3376, [0x0070, 0x0063]),
    (0x3377, [0x0064, 0x006D]), (0x3378, [0x0064, 0x006D, 0x0032]),
    (0x3379, [0x0064, 0x006D, 0x0033]), (0x337A, [0x0069, 0x0075]), (0x337B, [0x5E73, 0x6210]),
    (0x337C, [0x662D, 0x548C]), (0x337D, [0x5927, 0x6B63]), (0x337E, [0x660E, 0x6CBB]),
    (0x337F, [0x682A, 0x5F0F, 0x4F1A, 0x793E]), (0x3380, [0x0070, 0x0061]),
    (0x3381, [0x006E, 0x0061]), (0x3382, [0x03BC, 0x0061]), (0x3383, [0x006D, 0x0061]),
    (0x3384, [0x006B, 0x0061]), (0x3385, [0x006B, 0x0062]), (0x3386, [0x006D, 0x0062]),
    (0x3387, [0x0067, 0x0062]), (0x3388, [0x0063, 0x0061, 0x006C]),
    (0x3389, [0x006B, 0x0063, 0x0061, 0x006C]), (0x338A, [0x0070, 0x0066]),
    (0x338B, [0x006E, 0x0066]), (0x338C, [0x03BC, 0x0066]), (0x338D, [0x03BC, 0x0067]),
    (0x338E, [0x006D, 0x0067]), (0x338F, [0x006B, 0x0067]), (0x3390, [0x0068, 0x007A]),
    (0x3391, [0x006B, 0x0068, 0x007A]), (0x3392, [0x006D, 0x0068, 0x007A]),
    (0x3393, [0x0067, 0x0068, 0x007A]), (0x3394, [0x0074, 0x0068, 0x007A]),
    (0x3395, [0x03BC, 0x006C]), (0x3396, [0x006D, 0x006C]), (0x3397, [0x0064, 0x006C]),
    (0x3398, [0x006B, 0x006C]), (0x3399, [0x0066, 0x006D]), (0x339A, [0x006E, 0x006D]),
    (0x339B, [0x03BC, 0x006D]), (0x339C, [0x006D, 0x006D]), (0x339D, [0x0063, 0x006D]),
    (0x339E, [0x006B, 0x006D]), (0x339F, [0x006D, 0x006D, 0x0032]),
    (0x33A0, [0x0063, 0x006D, 0x0032]), (0x33A1, [0x006D, 0x0032]),
    (0x33A2, [0x006B, 0x006D, 0x0032]), (0x33A3, [0x006D, 0x006D, 0x0033]),
    (0x33A4, [0x0063, 0x006D, 0x0033]), (0x33A5, [0x006D, 0x0033]),
    (0x33A6, [0x006B, 0x006D, 0x0033]), (0x33A7, [0x006D, 0x2215, 0x0073]),
    (0x33A8, [0x006D, 0x2215, 0x0073, 0x0032]), (0x33A9, [0x0070, 0x0061]),
    (0x33AA, [0x006B, 0x0070, 0x0061]), (0x33AB, [0x006D, 0x0070, 0x0061]),
    (0x33AC, [0x0067, 0x0070, 0x0061]), (0x33AD, [0x0072, 0x0061, 0x0064]),
    (0x33AE, [0x0072, 0x0061, 0x0064, 0x2215, 0x0073]),
    (0x33AF, [0x0072, 0x0061, 0x0064, 0x2215, 0x0073, 0x0032]), (0x33B0, [0x0070, 0x0073]),
    (0x33B1, [0x006E, 0x0073]), (0x33B2, [0x03BC, 0x0073]), (0x33B3, [0x006D, 0x0073]),
    (0x33B4, [0x0070, 0x0076]), (0x33B5, [0x006E, 0x0076]), (0x33B6, [0x03BC, 0x0076]),
    (0x33B7, [0x006D, 0x0076]), (0x33B8, [0x006B, 0x0076]), (0x33B9, [0x006D, 0x0076]),
    (0x33BA, [0x0070, 0x0077]), (0x33BB, [0x006E, 0x0077]), (0x33BC, [0x03BC, 0x0077]),
    (0x33BD, [0x006D, 0x0077]), (0x33BE, [0x006B, 0x0077]), (0x33BF, [0x006D, 0x0077]),
    (0x33C0, [0x006B, 0x03C9]), (0x33C1, [0x006D, 0x03C9]), (0x33C3, [0x0062, 0x0071]),
    (0x33C4, [0x0063, 0x0063]), (0x33C5, [0x0063, 0x0064]),
    (0x33C6, [0x0063, 0x2215, 0x006B, 0x0067]), (0x33C8, [0x0064, 0x0062]),
    (0x33C9, [0x0067, 0x0079]), (0x33CA, [0x0068, 0x0061]), (0x33CB, [0x0068, 0x0070]),
    (0x33CC, [0x0069, 0x006E]), (0x33CD, [0x006B, 0x006B]), (0x33CE, [0x006B, 0x006D]),
    (0x33CF, [0x006B, 0x0074]), (0x33D0, [0x006C, 0x006D]), (0x33D1, [0x006C, 0x006E]),
    (0x33D2, [0x006C, 0x006F, 0x0067]), (0x33D3, [0x006C, 0x0078]), (0x33D4, [0x006D, 0x0062]),
    (0x33D5, [0x006D, 0x0069, 0x006C]), (0x33D6, [0x006D, 0x006F, 0x006C]),
    (0x33D7, [0x0070, 0x0068]), (0x33D9, [0x0070, 0x0070, 0x006D]), (0x33DA, [0x0070, 0x0072]),
    (0x33DB, [0x0073, 0x0072]), (0x33DC, [0x0073, 0x0076]), (0x33DD, [0x0077, 0x0062]),
    (0x33DE, [0x0076, 0x2215, 0x006D]), (0x33DF, [0x0061, 0x2215, 0x006D]),
    (0x33E0, [0x0031, 0x65E5]), (0x33E1, [0x0032, 0x65E5]), (0x33E2, [0x0033, 0x65E5]),
    (0x33E3, [0x0034, 0x65E5]), (0x33E4, [0x0035, 0x65E5]), (0x33E5, [0x0036, 0x65E5]),
    (0x33E6, [0x0037, 0x65E5]), (0x33E7, [0x0038, 0x65E5]), (0x33E8, [0x0039, 0x65E5]),
    (0x33E9, [0x0031, 0x0030, 0x65E5]), (0x33EA, [0x0031, 0x0031, 0x65E5]),
    (0x33EB, [0x0031, 0x0032, 0x65E5]), (0x33EC, [0x0031, 0x0033, 0x65E5]),
    (0x33ED, [0x0031, 0x0034, 0x65E5]), (0x33EE, [0x0031, 0x0035, 0x65E5]),
    (0x33EF, [0x0031, 0x0036, 0x65E5]), (0x33F0, [0x0031, 0x0037, 0x65E5]),
    (0x33F1, [0x0031, 0x0038, 0x65E5]), (0x33F2, [0x0031, 0x0039, 0x65E5]),
    (0x33F3, [0x0032, 0x0030, 0x65E5]), (0x33F4, [0x0032, 0x0031, 0x65E5]),
    (0x33F5, [0x0032, 0x0032, 0x65E5]), (0x33F6, [0x0032, 0x0033, 0x65E5]),
    (0x33F7, [0x0032, 0x0034, 0x65E5]), (0x33F8, [0x0032, 0x0035, 0x65E5]),
    (0x33F9, [0x0032, 0x0036, 0x65E5]), (0x33FA, [0x0032, 0x0037, 0x65E5]),
    (0x33FB, [0x0032, 0x0038, 0x65E5]), (0x33FC, [0x0032, 0x0039, 0x65E5]),
    (0x33FD, [0x0033, 0x0030, 0x65E5]), (0x33FE, [0x0033, 0x0031, 0x65E5]),
    (0x33FF, [0x0067, 0x0061, 0x006C])]

/-- Those from FB00 on: presentation forms above all. -/
def mappedForms : List (Nat × List Nat) :=
  [
    (0xFB00, [0x0066, 0x0066]), (0xFB01, [0x0066, 0x0069]), (0xFB02, [0x0066, 0x006C]),
    (0xFB03, [0x0066, 0x0066, 0x0069]), (0xFB04, [0x0066, 0x0066, 0x006C]),
    (0xFB05, [0x0073, 0x0074]), (0xFB06, [0x0073, 0x0074]), (0xFB13, [0x0574, 0x0576]),
    (0xFB14, [0x0574, 0x0565]), (0xFB15, [0x0574, 0x056B]), (0xFB16, [0x057E, 0x0576]),
    (0xFB17, [0x0574, 0x056D]), (0xFB1D, [0x05D9, 0x05B4]), (0xFB1F, [0x05F2, 0x05B7]),
    (0xFB2A, [0x05E9, 0x05C1]), (0xFB2B, [0x05E9, 0x05C2]), (0xFB2C, [0x05E9, 0x05BC, 0x05C1]),
    (0xFB2D, [0x05E9, 0x05BC, 0x05C2]), (0xFB2E, [0x05D0, 0x05B7]), (0xFB2F, [0x05D0, 0x05B8]),
    (0xFB30, [0x05D0, 0x05BC]), (0xFB31, [0x05D1, 0x05BC]), (0xFB32, [0x05D2, 0x05BC]),
    (0xFB33, [0x05D3, 0x05BC]), (0xFB34, [0x05D4, 0x05BC]), (0xFB35, [0x05D5, 0x05BC]),
    (0xFB36, [0x05D6, 0x05BC]), (0xFB38, [0x05D8, 0x05BC]), (0xFB39, [0x05D9, 0x05BC]),
    (0xFB3A, [0x05DA, 0x05BC]), (0xFB3B, [0x05DB, 0x05BC]), (0xFB3C, [0x05DC, 0x05BC]),
    (0xFB3E, [0x05DE, 0x05BC]), (0xFB40, [0x05E0, 0x05BC]), (0xFB41, [0x05E1, 0x05BC]),
    (0xFB43, [0x05E3, 0x05BC]), (0xFB44, [0x05E4, 0x05BC]), (0xFB46, [0x05E6, 0x05BC]),
    (0xFB47, [0x05E7, 0x05BC]), (0xFB48, [0x05E8, 0x05BC]), (0xFB49, [0x05E9, 0x05BC]),
    (0xFB4A, [0x05EA, 0x05BC]), (0xFB4B, [0x05D5, 0x05B9]), (0xFB4C, [0x05D1, 0x05BF]),
    (0xFB4D, [0x05DB, 0x05BF]), (0xFB4E, [0x05E4, 0x05BF]), (0xFB4F, [0x05D0, 0x05DC]),
    (0xFBDD, [0x06C7, 0x0674]), (0xFBEA, [0x0626, 0x0627]), (0xFBEB, [0x0626, 0x0627]),
    (0xFBEC, [0x0626, 0x06D5]), (0xFBED, [0x0626, 0x06D5]), (0xFBEE, [0x0626, 0x0648]),
    (0xFBEF, [0x0626, 0x0648]), (0xFBF0, [0x0626, 0x06C7]), (0xFBF1, [0x0626, 0x06C7]),
    (0xFBF2, [0x0626, 0x06C6]), (0xFBF3, [0x0626, 0x06C6]), (0xFBF4, [0x0626, 0x06C8]),
    (0xFBF5, [0x0626, 0x06C8]), (0xFBF6, [0x0626, 0x06D0]), (0xFBF7, [0x0626, 0x06D0]),
    (0xFBF8, [0x0626, 0x06D0]), (0xFBF9, [0x0626, 0x0649]), (0xFBFA, [0x0626, 0x0649]),
    (0xFBFB, [0x0626, 0x0649]), (0xFC00, [0x0626, 0x062C]), (0xFC01, [0x0626, 0x062D]),
    (0xFC02, [0x0626, 0x0645]), (0xFC03, [0x0626, 0x0649]), (0xFC04, [0x0626, 0x064A]),
    (0xFC05, [0x0628, 0x062C]), (0xFC06, [0x0628, 0x062D]), (0xFC07, [0x0628, 0x062E]),
    (0xFC08, [0x0628, 0x0645]), (0xFC09, [0x0628, 0x0649]), (0xFC0A, [0x0628, 0x064A]),
    (0xFC0B, [0x062A, 0x062C]), (0xFC0C, [0x062A, 0x062D]), (0xFC0D, [0x062A, 0x062E]),
    (0xFC0E, [0x062A, 0x0645]), (0xFC0F, [0x062A, 0x0649]), (0xFC10, [0x062A, 0x064A]),
    (0xFC11, [0x062B, 0x062C]), (0xFC12, [0x062B, 0x0645]), (0xFC13, [0x062B, 0x0649]),
    (0xFC14, [0x062B, 0x064A]), (0xFC15, [0x062C, 0x062D]), (0xFC16, [0x062C, 0x0645]),
    (0xFC17, [0x062D, 0x062C]), (0xFC18, [0x062D, 0x0645]), (0xFC19, [0x062E, 0x062C]),
    (0xFC1A, [0x062E, 0x062D]), (0xFC1B, [0x062E, 0x0645]), (0xFC1C, [0x0633, 0x062C]),
    (0xFC1D, [0x0633, 0x062D]), (0xFC1E, [0x0633, 0x062E]), (0xFC1F, [0x0633, 0x0645]),
    (0xFC20, [0x0635, 0x062D]), (0xFC21, [0x0635, 0x0645]), (0xFC22, [0x0636, 0x062C]),
    (0xFC23, [0x0636, 0x062D]), (0xFC24, [0x0636, 0x062E]), (0xFC25, [0x0636, 0x0645]),
    (0xFC26, [0x0637, 0x062D]), (0xFC27, [0x0637, 0x0645]), (0xFC28, [0x0638, 0x0645]),
    (0xFC29, [0x0639, 0x062C]), (0xFC2A, [0x0639, 0x0645]), (0xFC2B, [0x063A, 0x062C]),
    (0xFC2C, [0x063A, 0x0645]), (0xFC2D, [0x0641, 0x062C]), (0xFC2E, [0x0641, 0x062D]),
    (0xFC2F, [0x0641, 0x062E]), (0xFC30, [0x0641, 0x0645]), (0xFC31, [0x0641, 0x0649]),
    (0xFC32, [0x0641, 0x064A]), (0xFC33, [0x0642, 0x062D]), (0xFC34, [0x0642, 0x0645]),
    (0xFC35, [0x0642, 0x0649]), (0xFC36, [0x0642, 0x064A]), (0xFC37, [0x0643, 0x0627]),
    (0xFC38, [0x0643, 0x062C]), (0xFC39, [0x0643, 0x062D]), (0xFC3A, [0x0643, 0x062E]),
    (0xFC3B, [0x0643, 0x0644]), (0xFC3C, [0x0643, 0x0645]), (0xFC3D, [0x0643, 0x0649]),
    (0xFC3E, [0x0643, 0x064A]), (0xFC3F, [0x0644, 0x062C]), (0xFC40, [0x0644, 0x062D]),
    (0xFC41, [0x0644, 0x062E]), (0xFC42, [0x0644, 0x0645]), (0xFC43, [0x0644, 0x0649]),
    (0xFC44, [0x0644, 0x064A]), (0xFC45, [0x0645, 0x062C]), (0xFC46, [0x0645, 0x062D]),
    (0xFC47, [0x0645, 0x062E]), (0xFC48, [0x0645, 0x0645]), (0xFC49, [0x0645, 0x0649]),
    (0xFC4A, [0x0645, 0x064A]), (0xFC4B, [0x0646, 0x062C]), (0xFC4C, [0x0646, 0x062D]),
    (0xFC4D, [0x0646, 0x062E]), (0xFC4E, [0x0646, 0x0645]), (0xFC4F, [0x0646, 0x0649]),
    (0xFC50, [0x0646, 0x064A]), (0xFC51, [0x0647, 0x062C]), (0xFC52, [0x0647, 0x0645]),
    (0xFC53, [0x0647, 0x0649]), (0xFC54, [0x0647, 0x064A]), (0xFC55, [0x064A, 0x062C]),
    (0xFC56, [0x064A, 0x062D]), (0xFC57, [0x064A, 0x062E]), (0xFC58, [0x064A, 0x0645]),
    (0xFC59, [0x064A, 0x0649]), (0xFC5A, [0x064A, 0x064A]), (0xFC5B, [0x0630, 0x0670]),
    (0xFC5C, [0x0631, 0x0670]), (0xFC5D, [0x0649, 0x0670]), (0xFC5E, [0x0020, 0x064C, 0x0651]),
    (0xFC5F, [0x0020, 0x064D, 0x0651]), (0xFC60, [0x0020, 0x064E, 0x0651]),
    (0xFC61, [0x0020, 0x064F, 0x0651]), (0xFC62, [0x0020, 0x0650, 0x0651]),
    (0xFC63, [0x0020, 0x0651, 0x0670]), (0xFC64, [0x0626, 0x0631]), (0xFC65, [0x0626, 0x0632]),
    (0xFC66, [0x0626, 0x0645]), (0xFC67, [0x0626, 0x0646]), (0xFC68, [0x0626, 0x0649]),
    (0xFC69, [0x0626, 0x064A]), (0xFC6A, [0x0628, 0x0631]), (0xFC6B, [0x0628, 0x0632]),
    (0xFC6C, [0x0628, 0x0645]), (0xFC6D, [0x0628, 0x0646]), (0xFC6E, [0x0628, 0x0649]),
    (0xFC6F, [0x0628, 0x064A]), (0xFC70, [0x062A, 0x0631]), (0xFC71, [0x062A, 0x0632]),
    (0xFC72, [0x062A, 0x0645]), (0xFC73, [0x062A, 0x0646]), (0xFC74, [0x062A, 0x0649]),
    (0xFC75, [0x062A, 0x064A]), (0xFC76, [0x062B, 0x0631]), (0xFC77, [0x062B, 0x0632]),
    (0xFC78, [0x062B, 0x0645]), (0xFC79, [0x062B, 0x0646]), (0xFC7A, [0x062B, 0x0649]),
    (0xFC7B, [0x062B, 0x064A]), (0xFC7C, [0x0641, 0x0649]), (0xFC7D, [0x0641, 0x064A]),
    (0xFC7E, [0x0642, 0x0649]), (0xFC7F, [0x0642, 0x064A]), (0xFC80, [0x0643, 0x0627]),
    (0xFC81, [0x0643, 0x0644]), (0xFC82, [0x0643, 0x0645]), (0xFC83, [0x0643, 0x0649]),
    (0xFC84, [0x0643, 0x064A]), (0xFC85, [0x0644, 0x0645]), (0xFC86, [0x0644, 0x0649]),
    (0xFC87, [0x0644, 0x064A]), (0xFC88, [0x0645, 0x0627]), (0xFC89, [0x0645, 0x0645]),
    (0xFC8A, [0x0646, 0x0631]), (0xFC8B, [0x0646, 0x0632]), (0xFC8C, [0x0646, 0x0645]),
    (0xFC8D, [0x0646, 0x0646]), (0xFC8E, [0x0646, 0x0649]), (0xFC8F, [0x0646, 0x064A]),
    (0xFC90, [0x0649, 0x0670]), (0xFC91, [0x064A, 0x0631]), (0xFC92, [0x064A, 0x0632]),
    (0xFC93, [0x064A, 0x0645]), (0xFC94, [0x064A, 0x0646]), (0xFC95, [0x064A, 0x0649]),
    (0xFC96, [0x064A, 0x064A]), (0xFC97, [0x0626, 0x062C]), (0xFC98, [0x0626, 0x062D]),
    (0xFC99, [0x0626, 0x062E]), (0xFC9A, [0x0626, 0x0645]), (0xFC9B, [0x0626, 0x0647]),
    (0xFC9C, [0x0628, 0x062C]), (0xFC9D, [0x0628, 0x062D]), (0xFC9E, [0x0628, 0x062E]),
    (0xFC9F, [0x0628, 0x0645]), (0xFCA0, [0x0628, 0x0647]), (0xFCA1, [0x062A, 0x062C]),
    (0xFCA2, [0x062A, 0x062D]), (0xFCA3, [0x062A, 0x062E]), (0xFCA4, [0x062A, 0x0645]),
    (0xFCA5, [0x062A, 0x0647]), (0xFCA6, [0x062B, 0x0645]), (0xFCA7, [0x062C, 0x062D]),
    (0xFCA8, [0x062C, 0x0645]), (0xFCA9, [0x062D, 0x062C]), (0xFCAA, [0x062D, 0x0645]),
    (0xFCAB, [0x062E, 0x062C]), (0xFCAC, [0x062E, 0x0645]), (0xFCAD, [0x0633, 0x062C]),
    (0xFCAE, [0x0633, 0x062D]), (0xFCAF, [0x0633, 0x062E]), (0xFCB0, [0x0633, 0x0645]),
    (0xFCB1, [0x0635, 0x062D]), (0xFCB2, [0x0635, 0x062E]), (0xFCB3, [0x0635, 0x0645]),
    (0xFCB4, [0x0636, 0x062C]), (0xFCB5, [0x0636, 0x062D]), (0xFCB6, [0x0636, 0x062E]),
    (0xFCB7, [0x0636, 0x0645]), (0xFCB8, [0x0637, 0x062D]), (0xFCB9, [0x0638, 0x0645]),
    (0xFCBA, [0x0639, 0x062C]), (0xFCBB, [0x0639, 0x0645]), (0xFCBC, [0x063A, 0x062C]),
    (0xFCBD, [0x063A, 0x0645]), (0xFCBE, [0x0641, 0x062C]), (0xFCBF, [0x0641, 0x062D]),
    (0xFCC0, [0x0641, 0x062E]), (0xFCC1, [0x0641, 0x0645]), (0xFCC2, [0x0642, 0x062D]),
    (0xFCC3, [0x0642, 0x0645]), (0xFCC4, [0x0643, 0x062C]), (0xFCC5, [0x0643, 0x062D]),
    (0xFCC6, [0x0643, 0x062E]), (0xFCC7, [0x0643, 0x0644]), (0xFCC8, [0x0643, 0x0645]),
    (0xFCC9, [0x0644, 0x062C]), (0xFCCA, [0x0644, 0x062D]), (0xFCCB, [0x0644, 0x062E]),
    (0xFCCC, [0x0644, 0x0645]), (0xFCCD, [0x0644, 0x0647]), (0xFCCE, [0x0645, 0x062C]),
    (0xFCCF, [0x0645, 0x062D]), (0xFCD0, [0x0645, 0x062E]), (0xFCD1, [0x0645, 0x0645]),
    (0xFCD2, [0x0646, 0x062C]), (0xFCD3, [0x0646, 0x062D]), (0xFCD4, [0x0646, 0x062E]),
    (0xFCD5, [0x0646, 0x0645]), (0xFCD6, [0x0646, 0x0647]), (0xFCD7, [0x0647, 0x062C]),
    (0xFCD8, [0x0647, 0x0645]), (0xFCD9, [0x0647, 0x0670]), (0xFCDA, [0x064A, 0x062C]),
    (0xFCDB, [0x064A, 0x062D]), (0xFCDC, [0x064A, 0x062E]), (0xFCDD, [0x064A, 0x0645]),
    (0xFCDE, [0x064A, 0x0647]), (0xFCDF, [0x0626, 0x0645]), (0xFCE0, [0x0626, 0x0647]),
    (0xFCE1, [0x0628, 0x0645]), (0xFCE2, [0x0628, 0x0647]), (0xFCE3, [0x062A, 0x0645]),
    (0xFCE4, [0x062A, 0x0647]), (0xFCE5, [0x062B, 0x0645]), (0xFCE6, [0x062B, 0x0647]),
    (0xFCE7, [0x0633, 0x0645]), (0xFCE8, [0x0633, 0x0647]), (0xFCE9, [0x0634, 0x0645]),
    (0xFCEA, [0x0634, 0x0647]), (0xFCEB, [0x0643, 0x0644]), (0xFCEC, [0x0643, 0x0645]),
    (0xFCED, [0x0644, 0x0645]), (0xFCEE, [0x0646, 0x0645]), (0xFCEF, [0x0646, 0x0647]),
    (0xFCF0, [0x064A, 0x0645]), (0xFCF1, [0x064A, 0x0647]), (0xFCF2, [0x0640, 0x064E, 0x0651]),
    (0xFCF3, [0x0640, 0x064F, 0x0651]), (0xFCF4, [0x0640, 0x0650, 0x0651]),
    (0xFCF5, [0x0637, 0x0649]), (0xFCF6, [0x0637, 0x064A]), (0xFCF7, [0x0639, 0x0649]),
    (0xFCF8, [0x0639, 0x064A]), (0xFCF9, [0x063A, 0x0649]), (0xFCFA, [0x063A, 0x064A]),
    (0xFCFB, [0x0633, 0x0649]), (0xFCFC, [0x0633, 0x064A]), (0xFCFD, [0x0634, 0x0649]),
    (0xFCFE, [0x0634, 0x064A]), (0xFCFF, [0x062D, 0x0649]), (0xFD00, [0x062D, 0x064A]),
    (0xFD01, [0x062C, 0x0649]), (0xFD02, [0x062C, 0x064A]), (0xFD03, [0x062E, 0x0649]),
    (0xFD04, [0x062E, 0x064A]), (0xFD05, [0x0635, 0x0649]), (0xFD06, [0x0635, 0x064A]),
    (0xFD07, [0x0636, 0x0649]), (0xFD08, [0x0636, 0x064A]), (0xFD09, [0x0634, 0x062C]),
    (0xFD0A, [0x0634, 0x062D]), (0xFD0B, [0x0634, 0x062E]), (0xFD0C, [0x0634, 0x0645]),
    (0xFD0D, [0x0634, 0x0631]), (0xFD0E, [0x0633, 0x0631]), (0xFD0F, [0x0635, 0x0631]),
    (0xFD10, [0x0636, 0x0631]), (0xFD11, [0x0637, 0x0649]), (0xFD12, [0x0637, 0x064A]),
    (0xFD13, [0x0639, 0x0649]), (0xFD14, [0x0639, 0x064A]), (0xFD15, [0x063A, 0x0649]),
    (0xFD16, [0x063A, 0x064A]), (0xFD17, [0x0633, 0x0649]), (0xFD18, [0x0633, 0x064A]),
    (0xFD19, [0x0634, 0x0649]), (0xFD1A, [0x0634, 0x064A]), (0xFD1B, [0x062D, 0x0649]),
    (0xFD1C, [0x062D, 0x064A]), (0xFD1D, [0x062C, 0x0649]), (0xFD1E, [0x062C, 0x064A]),
    (0xFD1F, [0x062E, 0x0649]), (0xFD20, [0x062E, 0x064A]), (0xFD21, [0x0635, 0x0649]),
    (0xFD22, [0x0635, 0x064A]), (0xFD23, [0x0636, 0x0649]), (0xFD24, [0x0636, 0x064A]),
    (0xFD25, [0x0634, 0x062C]), (0xFD26, [0x0634, 0x062D]), (0xFD27, [0x0634, 0x062E]),
    (0xFD28, [0x0634, 0x0645]), (0xFD29, [0x0634, 0x0631]), (0xFD2A, [0x0633, 0x0631]),
    (0xFD2B, [0x0635, 0x0631]), (0xFD2C, [0x0636, 0x0631]), (0xFD2D, [0x0634, 0x062C]),
    (0xFD2E, [0x0634, 0x062D]), (0xFD2F, [0x0634, 0x062E]), (0xFD30, [0x0634, 0x0645]),
    (0xFD31, [0x0633, 0x0647]), (0xFD32, [0x0634, 0x0647]), (0xFD33, [0x0637, 0x0645]),
    (0xFD34, [0x0633, 0x062C]), (0xFD35, [0x0633, 0x062D]), (0xFD36, [0x0633, 0x062E]),
    (0xFD37, [0x0634, 0x062C]), (0xFD38, [0x0634, 0x062D]), (0xFD39, [0x0634, 0x062E]),
    (0xFD3A, [0x0637, 0x0645]), (0xFD3B, [0x0638, 0x0645]), (0xFD3C, [0x0627, 0x064B]),
    (0xFD3D, [0x0627, 0x064B]), (0xFD50, [0x062A, 0x062C, 0x0645]),
    (0xFD51, [0x062A, 0x062D, 0x062C]), (0xFD52, [0x062A, 0x062D, 0x062C]),
    (0xFD53, [0x062A, 0x062D, 0x0645]), (0xFD54, [0x062A, 0x062E, 0x0645]),
    (0xFD55, [0x062A, 0x0645, 0x062C]), (0xFD56, [0x062A, 0x0645, 0x062D]),
    (0xFD57, [0x062A, 0x0645, 0x062E]), (0xFD58, [0x062C, 0x0645, 0x062D]),
    (0xFD59, [0x062C, 0x0645, 0x062D]), (0xFD5A, [0x062D, 0x0645, 0x064A]),
    (0xFD5B, [0x062D, 0x0645, 0x0649]), (0xFD5C, [0x0633, 0x062D, 0x062C]),
    (0xFD5D, [0x0633, 0x062C, 0x062D]), (0xFD5E, [0x0633, 0x062C, 0x0649]),
    (0xFD5F, [0x0633, 0x0645, 0x062D]), (0xFD60, [0x0633, 0x0645, 0x062D]),
    (0xFD61, [0x0633, 0x0645, 0x062C]), (0xFD62, [0x0633, 0x0645, 0x0645]),
    (0xFD63, [0x0633, 0x0645, 0x0645]), (0xFD64, [0x0635, 0x062D, 0x062D]),
    (0xFD65, [0x0635, 0x062D, 0x062D]), (0xFD66, [0x0635, 0x0645, 0x0645]),
    (0xFD67, [0x0634, 0x062D, 0x0645]), (0xFD68, [0x0634, 0x062D, 0x0645]),
    (0xFD69, [0x0634, 0x062C, 0x064A]), (0xFD6A, [0x0634, 0x0645, 0x062E]),
    (0xFD6B, [0x0634, 0x0645, 0x062E]), (0xFD6C, [0x0634, 0x0645, 0x0645]),
    (0xFD6D, [0x0634, 0x0645, 0x0645]), (0xFD6E, [0x0636, 0x062D, 0x0649]),
    (0xFD6F, [0x0636, 0x062E, 0x0645]), (0xFD70, [0x0636, 0x062E, 0x0645]),
    (0xFD71, [0x0637, 0x0645, 0x062D]), (0xFD72, [0x0637, 0x0645, 0x062D]),
    (0xFD73, [0x0637, 0x0645, 0x0645]), (0xFD74, [0x0637, 0x0645, 0x064A]),
    (0xFD75, [0x0639, 0x062C, 0x0645]), (0xFD76, [0x0639, 0x0645, 0x0645]),
    (0xFD77, [0x0639, 0x0645, 0x0645]), (0xFD78, [0x0639, 0x0645, 0x0649]),
    (0xFD79, [0x063A, 0x0645, 0x0645]), (0xFD7A, [0x063A, 0x0645, 0x064A]),
    (0xFD7B, [0x063A, 0x0645, 0x0649]), (0xFD7C, [0x0641, 0x062E, 0x0645]),
    (0xFD7D, [0x0641, 0x062E, 0x0645]), (0xFD7E, [0x0642, 0x0645, 0x062D]),
    (0xFD7F, [0x0642, 0x0645, 0x0645]), (0xFD80, [0x0644, 0x062D, 0x0645]),
    (0xFD81, [0x0644, 0x062D, 0x064A]), (0xFD82, [0x0644, 0x062D, 0x0649]),
    (0xFD83, [0x0644, 0x062C, 0x062C]), (0xFD84, [0x0644, 0x062C, 0x062C]),
    (0xFD85, [0x0644, 0x062E, 0x0645]), (0xFD86, [0x0644, 0x062E, 0x0645]),
    (0xFD87, [0x0644, 0x0645, 0x062D]), (0xFD88, [0x0644, 0x0645, 0x062D]),
    (0xFD89, [0x0645, 0x062D, 0x062C]), (0xFD8A, [0x0645, 0x062D, 0x0645]),
    (0xFD8B, [0x0645, 0x062D, 0x064A]), (0xFD8C, [0x0645, 0x062C, 0x062D]),
    (0xFD8D, [0x0645, 0x062C, 0x0645]), (0xFD8E, [0x0645, 0x062E, 0x062C]),
    (0xFD8F, [0x0645, 0x062E, 0x0645]), (0xFD92, [0x0645, 0x062C, 0x062E]),
    (0xFD93, [0x0647, 0x0645, 0x062C]), (0xFD94, [0x0647, 0x0645, 0x0645]),
    (0xFD95, [0x0646, 0x062D, 0x0645]), (0xFD96, [0x0646, 0x062D, 0x0649]),
    (0xFD97, [0x0646, 0x062C, 0x0645]), (0xFD98, [0x0646, 0x062C, 0x0645]),
    (0xFD99, [0x0646, 0x062C, 0x0649]), (0xFD9A, [0x0646, 0x0645, 0x064A]),
    (0xFD9B, [0x0646, 0x0645, 0x0649]), (0xFD9C, [0x064A, 0x0645, 0x0645]),
    (0xFD9D, [0x064A, 0x0645, 0x0645]), (0xFD9E, [0x0628, 0x062E, 0x064A]),
    (0xFD9F, [0x062A, 0x062C, 0x064A]), (0xFDA0, [0x062A, 0x062C, 0x0649]),
    (0xFDA1, [0x062A, 0x062E, 0x064A]), (0xFDA2, [0x062A, 0x062E, 0x0649]),
    (0xFDA3, [0x062A, 0x0645, 0x064A]), (0xFDA4, [0x062A, 0x0645, 0x0649]),
    (0xFDA5, [0x062C, 0x0645, 0x064A]), (0xFDA6, [0x062C, 0x062D, 0x0649]),
    (0xFDA7, [0x062C, 0x0645, 0x0649]), (0xFDA8, [0x0633, 0x062E, 0x0649]),
    (0xFDA9, [0x0635, 0x062D, 0x064A]), (0xFDAA, [0x0634, 0x062D, 0x064A]),
    (0xFDAB, [0x0636, 0x062D, 0x064A]), (0xFDAC, [0x0644, 0x062C, 0x064A]),
    (0xFDAD, [0x0644, 0x0645, 0x064A]), (0xFDAE, [0x064A, 0x062D, 0x064A]),
    (0xFDAF, [0x064A, 0x062C, 0x064A]), (0xFDB0, [0x064A, 0x0645, 0x064A]),
    (0xFDB1, [0x0645, 0x0645, 0x064A]), (0xFDB2, [0x0642, 0x0645, 0x064A]),
    (0xFDB3, [0x0646, 0x062D, 0x064A]), (0xFDB4, [0x0642, 0x0645, 0x062D]),
    (0xFDB5, [0x0644, 0x062D, 0x0645]), (0xFDB6, [0x0639, 0x0645, 0x064A]),
    (0xFDB7, [0x0643, 0x0645, 0x064A]), (0xFDB8, [0x0646, 0x062C, 0x062D]),
    (0xFDB9, [0x0645, 0x062E, 0x064A]), (0xFDBA, [0x0644, 0x062C, 0x0645]),
    (0xFDBB, [0x0643, 0x0645, 0x0645]), (0xFDBC, [0x0644, 0x062C, 0x0645]),
    (0xFDBD, [0x0646, 0x062C, 0x062D]), (0xFDBE, [0x062C, 0x062D, 0x064A]),
    (0xFDBF, [0x062D, 0x062C, 0x064A]), (0xFDC0, [0x0645, 0x062C, 0x064A]),
    (0xFDC1, [0x0641, 0x0645, 0x064A]), (0xFDC2, [0x0628, 0x062D, 0x064A]),
    (0xFDC3, [0x0643, 0x0645, 0x0645]), (0xFDC4, [0x0639, 0x062C, 0x0645]),
    (0xFDC5, [0x0635, 0x0645, 0x0645]), (0xFDC6, [0x0633, 0x062E, 0x064A]),
    (0xFDC7, [0x0646, 0x062C, 0x064A]), (0xFDF0, [0x0635, 0x0644, 0x06D2]),
    (0xFDF1, [0x0642, 0x0644, 0x06D2]), (0xFDF2, [0x0627, 0x0644, 0x0644, 0x0647]),
    (0xFDF3, [0x0627, 0x0643, 0x0628, 0x0631]), (0xFDF4, [0x0645, 0x062D, 0x0645, 0x062F]),
    (0xFDF5, [0x0635, 0x0644, 0x0639, 0x0645]), (0xFDF6, [0x0631, 0x0633, 0x0648, 0x0644]),
    (0xFDF7, [0x0639, 0x0644, 0x064A, 0x0647]), (0xFDF8, [0x0648, 0x0633, 0x0644, 0x0645]),
    (0xFDF9, [0x0635, 0x0644, 0x0649]),
    (0xFDFA, [0x0635, 0x0644, 0x0649, 0x0020, 0x0627, 0x0644, 0x0644, 0x0647, 0x0020, 0x0639,
      0x0644, 0x064A, 0x0647, 0x0020, 0x0648, 0x0633, 0x0644, 0x0645]),
    (0xFDFB, [0x062C, 0x0644, 0x0020, 0x062C, 0x0644, 0x0627, 0x0644, 0x0647]),
    (0xFDFC, [0x0631, 0x06CC, 0x0627, 0x0644]), (0xFE49, [0x0020, 0x0305]),
    (0xFE4A, [0x0020, 0x0305]), (0xFE4B, [0x0020, 0x0305]), (0xFE4C, [0x0020, 0x0305]),
    (0xFE70, [0x0020, 0x064B]), (0xFE71, [0x0640, 0x064B]), (0xFE72, [0x0020, 0x064C]),
    (0xFE74, [0x0020, 0x064D]), (0xFE76, [0x0020, 0x064E]), (0xFE77, [0x0640, 0x064E]),
    (0xFE78, [0x0020, 0x064F]), (0xFE79, [0x0640, 0x064F]), (0xFE7A, [0x0020, 0x0650]),
    (0xFE7B, [0x0640, 0x0650]), (0xFE7C, [0x0020, 0x0651]), (0xFE7D, [0x0640, 0x0651]),
    (0xFE7E, [0x0020, 0x0652]), (0xFE7F, [0x0640, 0x0652]), (0xFEF5, [0x0644, 0x0622]),
    (0xFEF6, [0x0644, 0x0622]), (0xFEF7, [0x0644, 0x0623]), (0xFEF8, [0x0644, 0x0623]),
    (0xFEF9, [0x0644, 0x0625]), (0xFEFA, [0x0644, 0x0625]), (0xFEFB, [0x0644, 0x0627]),
    (0xFEFC, [0x0644, 0x0627]), (0xFFE3, [0x0020, 0x0304]), (0x1D15E, [0x1D157, 0x1D165]),
    (0x1D15F, [0x1D158, 0x1D165]), (0x1D160, [0x1D158, 0x1D165, 0x1D16E]),
    (0x1D161, [0x1D158, 0x1D165, 0x1D16F]), (0x1D162, [0x1D158, 0x1D165, 0x1D170]),
    (0x1D163, [0x1D158, 0x1D165, 0x1D171]), (0x1D164, [0x1D158, 0x1D165, 0x1D172]),
    (0x1D1BB, [0x1D1B9, 0x1D165]), (0x1D1BC, [0x1D1BA, 0x1D165]),
    (0x1D1BD, [0x1D1B9, 0x1D165, 0x1D16E]), (0x1D1BE, [0x1D1BA, 0x1D165, 0x1D16E]),
    (0x1D1BF, [0x1D1B9, 0x1D165, 0x1D16F]), (0x1D1C0, [0x1D1BA, 0x1D165, 0x1D16F]),
    (0x1F101, [0x0030, 0x002C]), (0x1F102, [0x0031, 0x002C]), (0x1F103, [0x0032, 0x002C]),
    (0x1F104, [0x0033, 0x002C]), (0x1F105, [0x0034, 0x002C]), (0x1F106, [0x0035, 0x002C]),
    (0x1F107, [0x0036, 0x002C]), (0x1F108, [0x0037, 0x002C]), (0x1F109, [0x0038, 0x002C]),
    (0x1F10A, [0x0039, 0x002C]), (0x1F110, [0x0028, 0x0061, 0x0029]),
    (0x1F111, [0x0028, 0x0062, 0x0029]), (0x1F112, [0x0028, 0x0063, 0x0029]),
    (0x1F113, [0x0028, 0x0064, 0x0029]), (0x1F114, [0x0028, 0x0065, 0x0029]),
    (0x1F115, [0x0028, 0x0066, 0x0029]), (0x1F116, [0x0028, 0x0067, 0x0029]),
    (0x1F117, [0x0028, 0x0068, 0x0029]), (0x1F118, [0x0028, 0x0069, 0x0029]),
    (0x1F119, [0x0028, 0x006A, 0x0029]), (0x1F11A, [0x0028, 0x006B, 0x0029]),
    (0x1F11B, [0x0028, 0x006C, 0x0029]), (0x1F11C, [0x0028, 0x006D, 0x0029]),
    (0x1F11D, [0x0028, 0x006E, 0x0029]), (0x1F11E, [0x0028, 0x006F, 0x0029]),
    (0x1F11F, [0x0028, 0x0070, 0x0029]), (0x1F120, [0x0028, 0x0071, 0x0029]),
    (0x1F121, [0x0028, 0x0072, 0x0029]), (0x1F122, [0x0028, 0x0073, 0x0029]),
    (0x1F123, [0x0028, 0x0074, 0x0029]), (0x1F124, [0x0028, 0x0075, 0x0029]),
    (0x1F125, [0x0028, 0x0076, 0x0029]), (0x1F126, [0x0028, 0x0077, 0x0029]),
    (0x1F127, [0x0028, 0x0078, 0x0029]), (0x1F128, [0x0028, 0x0079, 0x0029]),
    (0x1F129, [0x0028, 0x007A, 0x0029]), (0x1F12A, [0x3014, 0x0073, 0x3015]),
    (0x1F12D, [0x0063, 0x0064]), (0x1F12E, [0x0077, 0x007A]), (0x1F14A, [0x0068, 0x0076]),
    (0x1F14B, [0x006D, 0x0076]), (0x1F14C, [0x0073, 0x0064]), (0x1F14D, [0x0073, 0x0073]),
    (0x1F14E, [0x0070, 0x0070, 0x0076]), (0x1F14F, [0x0077, 0x0063]), (0x1F16A, [0x006D, 0x0063]),
    (0x1F16B, [0x006D, 0x0064]), (0x1F16C, [0x006D, 0x0072]), (0x1F190, [0x0064, 0x006A]),
    (0x1F200, [0x307B, 0x304B]), (0x1F201, [0x30B3, 0x30B3]), (0x1F240, [0x3014, 0x672C, 0x3015]),
    (0x1F241, [0x3014, 0x4E09, 0x3015]), (0x1F242, [0x3014, 0x4E8C, 0x3015]),
    (0x1F243, [0x3014, 0x5B89, 0x3015]), (0x1F244, [0x3014, 0x70B9, 0x3015]),
    (0x1F245, [0x3014, 0x6253, 0x3015]), (0x1F246, [0x3014, 0x76D7, 0x3015]),
    (0x1F247, [0x3014, 0x52DD, 0x3015]), (0x1F248, [0x3014, 0x6557, 0x3015])]

end ServiceProbe.Idn
