/-!
# Decompositions of supplementary characters

Each row is one character and its full compatibility decomposition, in groups of six hexadecimal digits.  Rows are in
ascending order.
-/

namespace ChatModeration.Text.Decomposition

/-- Decompositions of supplementary letters and symbols, U+10000 to U+1D6FF. -/
def scriptRows : List Nat := [
  0x0105C9_0105D2_000307, 0x0105E4_0105DA_000307, 0x010783_0000E6, 0x010784_000299, 0x010785_000253,
  0x010787_0002A3, 0x010788_00AB66, 0x010789_0002A5, 0x01078A_0002A4, 0x01078D_001D91, 0x01078E_000258,
  0x01078F_00025E, 0x010790_0002A9, 0x010791_000264, 0x010792_000262, 0x010793_000260, 0x010794_00029B,
  0x010795_000127, 0x010796_00029C, 0x010797_000267, 0x010798_000284, 0x01079B_00026C, 0x01079C_01DF04,
  0x01079D_00A78E, 0x01079E_00026E, 0x01079F_01DF05, 0x0107A0_00028E, 0x0107A1_01DF06, 0x0107A2_0000F8,
  0x0107A5_000071, 0x0107A6_00027A, 0x0107A7_01DF08, 0x0107AA_000280, 0x0107AB_0002A8, 0x0107AC_0002A6,
  0x0107AD_00AB67, 0x0107AE_0002A7, 0x0107AF_000288, 0x0107B0_002C71, 0x0107B2_00028F, 0x0107B5_000298,
  0x0107B9_01DF0A, 0x0107BA_01DF1E, 0x01109A_011099_0110BA, 0x01109C_01109B_0110BA,
  0x0110AB_0110A5_0110BA, 0x01112E_011131_011127, 0x01112F_011132_011127, 0x01134B_011347_01133E,
  0x01134C_011347_011357, 0x011383_011382_0113C9, 0x011385_011384_0113BB, 0x01138E_01138B_0113C2,
  0x011391_011390_0113C9, 0x0113C5_0113C2_0113C2, 0x0113C7_0113C2_0113B8, 0x0113C8_0113C2_0113C9,
  0x0114BB_0114B9_0114BA, 0x0114BC_0114B9_0114B0, 0x0114BE_0114B9_0114BD, 0x0115BA_0115B8_0115AF,
  0x0115BB_0115B9_0115AF, 0x011938_011935_011930, 0x016121_01611E_01611E, 0x016122_01611E_016129,
  0x016123_01611E_01611F, 0x016124_016129_01611F, 0x016125_01611E_016120, 0x016126_01611E_01611E_01611F,
  0x016127_01611E_016129_01611F, 0x016128_01611E_01611E_016120, 0x016D68_016D67_016D67,
  0x016D69_016D63_016D67, 0x016D6A_016D63_016D67_016D67, 0x01D15E_01D157_01D165, 0x01D15F_01D158_01D165,
  0x01D160_01D158_01D165_01D16E, 0x01D161_01D158_01D165_01D16F, 0x01D162_01D158_01D165_01D170,
  0x01D163_01D158_01D165_01D171, 0x01D164_01D158_01D165_01D172, 0x01D1BB_01D1B9_01D165,
  0x01D1BC_01D1BA_01D165, 0x01D1BD_01D1B9_01D165_01D16E, 0x01D1BE_01D1BA_01D165_01D16E,
  0x01D1BF_01D1B9_01D165_01D16F, 0x01D1C0_01D1BA_01D165_01D16F, 0x01D49C_000041, 0x01D4A2_000047,
  0x01D4BB_000066, 0x01D546_00004F, 0x01D6A4_000131, 0x01D6A5_000237, 0x01D6B9_000398, 0x01D6C1_002207,
  0x01D6DB_002202, 0x01D6DC_0003B5, 0x01D6DD_0003B8, 0x01D6DE_0003BA, 0x01D6DF_0003C6, 0x01D6E0_0003C1,
  0x01D6E1_0003C0, 0x01D6F3_000398, 0x01D6FB_002207]

/-- Decompositions of mathematical letters and enclosed forms, U+1D700 to U+2F7FF. -/
def mathematicalRows : List Nat := [
  0x01D715_002202, 0x01D716_0003B5, 0x01D717_0003B8, 0x01D718_0003BA, 0x01D719_0003C6, 0x01D71A_0003C1,
  0x01D71B_0003C0, 0x01D72D_000398, 0x01D735_002207, 0x01D74F_002202, 0x01D750_0003B5, 0x01D751_0003B8,
  0x01D752_0003BA, 0x01D753_0003C6, 0x01D754_0003C1, 0x01D755_0003C0, 0x01D767_000398, 0x01D76F_002207,
  0x01D789_002202, 0x01D78A_0003B5, 0x01D78B_0003B8, 0x01D78C_0003BA, 0x01D78D_0003C6, 0x01D78E_0003C1,
  0x01D78F_0003C0, 0x01D7A1_000398, 0x01D7A9_002207, 0x01D7C3_002202, 0x01D7C4_0003B5, 0x01D7C5_0003B8,
  0x01D7C6_0003BA, 0x01D7C7_0003C6, 0x01D7C8_0003C1, 0x01D7C9_0003C0, 0x01E047_00044B, 0x01E04A_00A689,
  0x01E04B_0004D9, 0x01E04C_000456, 0x01E04D_000458, 0x01E04E_0004E9, 0x01E04F_0004AF, 0x01E050_0004CF,
  0x01E05E_000441, 0x01E067_000491, 0x01E068_000456, 0x01E069_000455, 0x01E06A_00045F, 0x01E06B_0004AB,
  0x01E06C_00A651, 0x01E06D_0004B1, 0x01EE02_00062C, 0x01EE03_00062F, 0x01EE05_000648, 0x01EE06_000632,
  0x01EE07_00062D, 0x01EE08_000637, 0x01EE09_00064A, 0x01EE0E_000633, 0x01EE0F_000639, 0x01EE10_000641,
  0x01EE11_000635, 0x01EE12_000642, 0x01EE13_000631, 0x01EE14_000634, 0x01EE17_00062E, 0x01EE18_000630,
  0x01EE19_000636, 0x01EE1A_000638, 0x01EE1B_00063A, 0x01EE1C_00066E, 0x01EE1D_0006BA, 0x01EE1E_0006A1,
  0x01EE1F_00066F, 0x01EE21_000628, 0x01EE22_00062C, 0x01EE24_000647, 0x01EE27_00062D, 0x01EE29_00064A,
  0x01EE2E_000633, 0x01EE2F_000639, 0x01EE30_000641, 0x01EE31_000635, 0x01EE32_000642, 0x01EE34_000634,
  0x01EE37_00062E, 0x01EE39_000636, 0x01EE3B_00063A, 0x01EE42_00062C, 0x01EE47_00062D, 0x01EE49_00064A,
  0x01EE4B_000644, 0x01EE4D_000646, 0x01EE4E_000633, 0x01EE4F_000639, 0x01EE51_000635, 0x01EE52_000642,
  0x01EE54_000634, 0x01EE57_00062E, 0x01EE59_000636, 0x01EE5B_00063A, 0x01EE5D_0006BA, 0x01EE5F_00066F,
  0x01EE61_000628, 0x01EE62_00062C, 0x01EE64_000647, 0x01EE67_00062D, 0x01EE68_000637, 0x01EE69_00064A,
  0x01EE6A_000643, 0x01EE6E_000633, 0x01EE6F_000639, 0x01EE70_000641, 0x01EE71_000635, 0x01EE72_000642,
  0x01EE74_000634, 0x01EE77_00062E, 0x01EE79_000636, 0x01EE7A_000638, 0x01EE7B_00063A, 0x01EE7C_00066E,
  0x01EE7E_0006A1, 0x01EE82_00062C, 0x01EE83_00062F, 0x01EE86_000632, 0x01EE87_00062D, 0x01EE88_000637,
  0x01EE89_00064A, 0x01EE8E_000633, 0x01EE8F_000639, 0x01EE90_000641, 0x01EE91_000635, 0x01EE92_000642,
  0x01EE93_000631, 0x01EE94_000634, 0x01EE97_00062E, 0x01EE98_000630, 0x01EE99_000636, 0x01EE9A_000638,
  0x01EE9B_00063A, 0x01EEA1_000628, 0x01EEA2_00062C, 0x01EEA3_00062F, 0x01EEA5_000648, 0x01EEA6_000632,
  0x01EEA7_00062D, 0x01EEA8_000637, 0x01EEA9_00064A, 0x01EEAE_000633, 0x01EEAF_000639, 0x01EEB0_000641,
  0x01EEB1_000635, 0x01EEB2_000642, 0x01EEB3_000631, 0x01EEB4_000634, 0x01EEB7_00062E, 0x01EEB8_000630,
  0x01EEB9_000636, 0x01EEBA_000638, 0x01EEBB_00063A, 0x01F100_000030_00002E, 0x01F101_000030_00002C,
  0x01F102_000031_00002C, 0x01F103_000032_00002C, 0x01F104_000033_00002C, 0x01F105_000034_00002C,
  0x01F106_000035_00002C, 0x01F107_000036_00002C, 0x01F108_000037_00002C, 0x01F109_000038_00002C,
  0x01F10A_000039_00002C, 0x01F110_000028_000041_000029, 0x01F111_000028_000042_000029,
  0x01F112_000028_000043_000029, 0x01F113_000028_000044_000029, 0x01F114_000028_000045_000029,
  0x01F115_000028_000046_000029, 0x01F116_000028_000047_000029, 0x01F117_000028_000048_000029,
  0x01F118_000028_000049_000029, 0x01F119_000028_00004A_000029, 0x01F11A_000028_00004B_000029,
  0x01F11B_000028_00004C_000029, 0x01F11C_000028_00004D_000029, 0x01F11D_000028_00004E_000029,
  0x01F11E_000028_00004F_000029, 0x01F11F_000028_000050_000029, 0x01F120_000028_000051_000029,
  0x01F121_000028_000052_000029, 0x01F122_000028_000053_000029, 0x01F123_000028_000054_000029,
  0x01F124_000028_000055_000029, 0x01F125_000028_000056_000029, 0x01F126_000028_000057_000029,
  0x01F127_000028_000058_000029, 0x01F128_000028_000059_000029, 0x01F129_000028_00005A_000029,
  0x01F12A_003014_000053_003015, 0x01F12B_000043, 0x01F12C_000052, 0x01F12D_000043_000044,
  0x01F12E_000057_00005A, 0x01F14A_000048_000056, 0x01F14B_00004D_000056, 0x01F14C_000053_000044,
  0x01F14D_000053_000053, 0x01F14E_000050_000050_000056, 0x01F14F_000057_000043, 0x01F16A_00004D_000043,
  0x01F16B_00004D_000044, 0x01F16C_00004D_000052, 0x01F190_000044_00004A, 0x01F200_00307B_00304B,
  0x01F201_0030B3_0030B3, 0x01F202_0030B5, 0x01F210_00624B, 0x01F211_005B57, 0x01F212_0053CC,
  0x01F213_0030C6_003099, 0x01F214_004E8C, 0x01F215_00591A, 0x01F216_0089E3, 0x01F217_005929,
  0x01F218_004EA4, 0x01F219_006620, 0x01F21A_007121, 0x01F21B_006599, 0x01F21C_00524D, 0x01F21D_005F8C,
  0x01F21E_00518D, 0x01F21F_0065B0, 0x01F220_00521D, 0x01F221_007D42, 0x01F222_00751F, 0x01F223_008CA9,
  0x01F224_0058F0, 0x01F225_005439, 0x01F226_006F14, 0x01F227_006295, 0x01F228_006355, 0x01F229_004E00,
  0x01F22A_004E09, 0x01F22B_00904A, 0x01F22C_005DE6, 0x01F22D_004E2D, 0x01F22E_0053F3, 0x01F22F_006307,
  0x01F230_008D70, 0x01F231_006253, 0x01F232_007981, 0x01F233_007A7A, 0x01F234_005408, 0x01F235_006E80,
  0x01F236_006709, 0x01F237_006708, 0x01F238_007533, 0x01F239_005272, 0x01F23A_0055B6, 0x01F23B_00914D,
  0x01F240_003014_00672C_003015, 0x01F241_003014_004E09_003015, 0x01F242_003014_004E8C_003015,
  0x01F243_003014_005B89_003015, 0x01F244_003014_0070B9_003015, 0x01F245_003014_006253_003015,
  0x01F246_003014_0076D7_003015, 0x01F247_003014_0052DD_003015, 0x01F248_003014_006557_003015,
  0x01F250_005F97, 0x01F251_0053EF]

end ChatModeration.Text.Decomposition
