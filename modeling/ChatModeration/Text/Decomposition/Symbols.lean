/-!
# Decompositions of symbols

Each row is one character and its full compatibility decomposition, in groups of six hexadecimal digits.  Rows are in
ascending order.
-/

namespace ChatModeration.Text.Decomposition

/-- Decompositions of punctuation and symbols, U+2000 to U+2DFF. -/
def symbolRows : List Nat := [
  0x002000_000020, 0x002001_000020, 0x002002_000020, 0x002003_000020, 0x002004_000020, 0x002005_000020,
  0x002006_000020, 0x002007_000020, 0x002008_000020, 0x002009_000020, 0x00200A_000020, 0x002011_002010,
  0x002017_000020_000333, 0x002024_00002E, 0x002025_00002E_00002E, 0x002026_00002E_00002E_00002E,
  0x00202F_000020, 0x002033_002032_002032, 0x002034_002032_002032_002032, 0x002036_002035_002035,
  0x002037_002035_002035_002035, 0x00203C_000021_000021, 0x00203E_000020_000305, 0x002047_00003F_00003F,
  0x002048_00003F_000021, 0x002049_000021_00003F, 0x002057_002032_002032_002032_002032, 0x00205F_000020,
  0x002070_000030, 0x002071_000069, 0x00207A_00002B, 0x00207B_002212, 0x00207C_00003D, 0x00207F_00006E,
  0x00208A_00002B, 0x00208B_002212, 0x00208C_00003D, 0x002090_000061, 0x002091_000065, 0x002092_00006F,
  0x002093_000078, 0x002094_000259, 0x002095_000068, 0x00209A_000070, 0x0020A8_000052_000073,
  0x002100_000061_00002F_000063, 0x002101_000061_00002F_000073, 0x002102_000043, 0x002103_0000B0_000043,
  0x002105_000063_00002F_00006F, 0x002106_000063_00002F_000075, 0x002107_000190, 0x002109_0000B0_000046,
  0x00210A_000067, 0x00210B_000048, 0x00210C_000048, 0x00210D_000048, 0x00210E_000068, 0x00210F_000127,
  0x002110_000049, 0x002111_000049, 0x002112_00004C, 0x002113_00006C, 0x002115_00004E,
  0x002116_00004E_00006F, 0x00211C_000052, 0x00211D_000052, 0x002120_000053_00004D,
  0x002121_000054_000045_00004C, 0x002122_000054_00004D, 0x002124_00005A, 0x002126_0003A9,
  0x002128_00005A, 0x00212A_00004B, 0x00212B_000041_00030A, 0x00212F_000065, 0x002133_00004D,
  0x002134_00006F, 0x002139_000069, 0x00213B_000046_000041_000058, 0x00213C_0003C0, 0x00213D_0003B3,
  0x00213E_000393, 0x00213F_0003A0, 0x002140_002211, 0x002145_000044, 0x002150_000031_002044_000037,
  0x002151_000031_002044_000039, 0x002152_000031_002044_000031_000030, 0x002153_000031_002044_000033,
  0x002154_000032_002044_000033, 0x002155_000031_002044_000035, 0x002156_000032_002044_000035,
  0x002157_000033_002044_000035, 0x002158_000034_002044_000035, 0x002159_000031_002044_000036,
  0x00215A_000035_002044_000036, 0x00215B_000031_002044_000038, 0x00215C_000033_002044_000038,
  0x00215D_000035_002044_000038, 0x00215E_000037_002044_000038, 0x00215F_000031_002044, 0x002160_000049,
  0x002161_000049_000049, 0x002162_000049_000049_000049, 0x002163_000049_000056, 0x002164_000056,
  0x002165_000056_000049, 0x002166_000056_000049_000049, 0x002167_000056_000049_000049_000049,
  0x002168_000049_000058, 0x002169_000058, 0x00216A_000058_000049, 0x00216B_000058_000049_000049,
  0x00216C_00004C, 0x00216F_00004D, 0x002170_000069, 0x002171_000069_000069,
  0x002172_000069_000069_000069, 0x002173_000069_000076, 0x002174_000076, 0x002175_000076_000069,
  0x002176_000076_000069_000069, 0x002177_000076_000069_000069_000069, 0x002178_000069_000078,
  0x002179_000078, 0x00217A_000078_000069, 0x00217B_000078_000069_000069, 0x00217C_00006C,
  0x00217F_00006D, 0x002189_000030_002044_000033, 0x00219A_002190_000338, 0x00219B_002192_000338,
  0x0021AE_002194_000338, 0x0021CD_0021D0_000338, 0x0021CE_0021D4_000338, 0x0021CF_0021D2_000338,
  0x002204_002203_000338, 0x002209_002208_000338, 0x00220C_00220B_000338, 0x002224_002223_000338,
  0x002226_002225_000338, 0x00222C_00222B_00222B, 0x00222D_00222B_00222B_00222B, 0x00222F_00222E_00222E,
  0x002230_00222E_00222E_00222E, 0x002241_00223C_000338, 0x002244_002243_000338, 0x002247_002245_000338,
  0x002249_002248_000338, 0x002260_00003D_000338, 0x002262_002261_000338, 0x00226D_00224D_000338,
  0x00226E_00003C_000338, 0x00226F_00003E_000338, 0x002270_002264_000338, 0x002271_002265_000338,
  0x002274_002272_000338, 0x002275_002273_000338, 0x002278_002276_000338, 0x002279_002277_000338,
  0x002280_00227A_000338, 0x002281_00227B_000338, 0x002284_002282_000338, 0x002285_002283_000338,
  0x002288_002286_000338, 0x002289_002287_000338, 0x0022AC_0022A2_000338, 0x0022AD_0022A8_000338,
  0x0022AE_0022A9_000338, 0x0022AF_0022AB_000338, 0x0022E0_00227C_000338, 0x0022E1_00227D_000338,
  0x0022E2_002291_000338, 0x0022E3_002292_000338, 0x0022EA_0022B2_000338, 0x0022EB_0022B3_000338,
  0x0022EC_0022B4_000338, 0x0022ED_0022B5_000338, 0x002469_000031_000030, 0x00246A_000031_000031,
  0x00246B_000031_000032, 0x00246C_000031_000033, 0x00246D_000031_000034, 0x00246E_000031_000035,
  0x00246F_000031_000036, 0x002470_000031_000037, 0x002471_000031_000038, 0x002472_000031_000039,
  0x002473_000032_000030, 0x002474_000028_000031_000029, 0x002475_000028_000032_000029,
  0x002476_000028_000033_000029, 0x002477_000028_000034_000029, 0x002478_000028_000035_000029,
  0x002479_000028_000036_000029, 0x00247A_000028_000037_000029, 0x00247B_000028_000038_000029,
  0x00247C_000028_000039_000029, 0x00247D_000028_000031_000030_000029,
  0x00247E_000028_000031_000031_000029, 0x00247F_000028_000031_000032_000029,
  0x002480_000028_000031_000033_000029, 0x002481_000028_000031_000034_000029,
  0x002482_000028_000031_000035_000029, 0x002483_000028_000031_000036_000029,
  0x002484_000028_000031_000037_000029, 0x002485_000028_000031_000038_000029,
  0x002486_000028_000031_000039_000029, 0x002487_000028_000032_000030_000029, 0x002488_000031_00002E,
  0x002489_000032_00002E, 0x00248A_000033_00002E, 0x00248B_000034_00002E, 0x00248C_000035_00002E,
  0x00248D_000036_00002E, 0x00248E_000037_00002E, 0x00248F_000038_00002E, 0x002490_000039_00002E,
  0x002491_000031_000030_00002E, 0x002492_000031_000031_00002E, 0x002493_000031_000032_00002E,
  0x002494_000031_000033_00002E, 0x002495_000031_000034_00002E, 0x002496_000031_000035_00002E,
  0x002497_000031_000036_00002E, 0x002498_000031_000037_00002E, 0x002499_000031_000038_00002E,
  0x00249A_000031_000039_00002E, 0x00249B_000032_000030_00002E, 0x00249C_000028_000061_000029,
  0x00249D_000028_000062_000029, 0x00249E_000028_000063_000029, 0x00249F_000028_000064_000029,
  0x0024A0_000028_000065_000029, 0x0024A1_000028_000066_000029, 0x0024A2_000028_000067_000029,
  0x0024A3_000028_000068_000029, 0x0024A4_000028_000069_000029, 0x0024A5_000028_00006A_000029,
  0x0024A6_000028_00006B_000029, 0x0024A7_000028_00006C_000029, 0x0024A8_000028_00006D_000029,
  0x0024A9_000028_00006E_000029, 0x0024AA_000028_00006F_000029, 0x0024AB_000028_000070_000029,
  0x0024AC_000028_000071_000029, 0x0024AD_000028_000072_000029, 0x0024AE_000028_000073_000029,
  0x0024AF_000028_000074_000029, 0x0024B0_000028_000075_000029, 0x0024B1_000028_000076_000029,
  0x0024B2_000028_000077_000029, 0x0024B3_000028_000078_000029, 0x0024B4_000028_000079_000029,
  0x0024B5_000028_00007A_000029, 0x0024EA_000030, 0x002A0C_00222B_00222B_00222B_00222B,
  0x002A74_00003A_00003A_00003D, 0x002A75_00003D_00003D, 0x002A76_00003D_00003D_00003D,
  0x002ADC_002ADD_000338, 0x002C7C_00006A, 0x002C7D_000056, 0x002D6F_002D61]

/-- Decompositions of radicals and kana, U+2E00 to U+31FF. -/
def radicalRows : List Nat := [
  0x002E9F_006BCD, 0x002EF3_009F9F, 0x002F00_004E00, 0x002F01_004E28, 0x002F02_004E36, 0x002F03_004E3F,
  0x002F04_004E59, 0x002F05_004E85, 0x002F06_004E8C, 0x002F07_004EA0, 0x002F08_004EBA, 0x002F09_00513F,
  0x002F0A_005165, 0x002F0B_00516B, 0x002F0C_005182, 0x002F0D_005196, 0x002F0E_0051AB, 0x002F0F_0051E0,
  0x002F10_0051F5, 0x002F11_005200, 0x002F12_00529B, 0x002F13_0052F9, 0x002F14_005315, 0x002F15_00531A,
  0x002F16_005338, 0x002F17_005341, 0x002F18_00535C, 0x002F19_005369, 0x002F1A_005382, 0x002F1B_0053B6,
  0x002F1C_0053C8, 0x002F1D_0053E3, 0x002F1E_0056D7, 0x002F1F_00571F, 0x002F20_0058EB, 0x002F21_005902,
  0x002F22_00590A, 0x002F23_005915, 0x002F24_005927, 0x002F25_005973, 0x002F26_005B50, 0x002F27_005B80,
  0x002F28_005BF8, 0x002F29_005C0F, 0x002F2A_005C22, 0x002F2B_005C38, 0x002F2C_005C6E, 0x002F2D_005C71,
  0x002F2E_005DDB, 0x002F2F_005DE5, 0x002F30_005DF1, 0x002F31_005DFE, 0x002F32_005E72, 0x002F33_005E7A,
  0x002F34_005E7F, 0x002F35_005EF4, 0x002F36_005EFE, 0x002F37_005F0B, 0x002F38_005F13, 0x002F39_005F50,
  0x002F3A_005F61, 0x002F3B_005F73, 0x002F3C_005FC3, 0x002F3D_006208, 0x002F3E_006236, 0x002F3F_00624B,
  0x002F40_00652F, 0x002F41_006534, 0x002F42_006587, 0x002F43_006597, 0x002F44_0065A4, 0x002F45_0065B9,
  0x002F46_0065E0, 0x002F47_0065E5, 0x002F48_0066F0, 0x002F49_006708, 0x002F4A_006728, 0x002F4B_006B20,
  0x002F4C_006B62, 0x002F4D_006B79, 0x002F4E_006BB3, 0x002F4F_006BCB, 0x002F50_006BD4, 0x002F51_006BDB,
  0x002F52_006C0F, 0x002F53_006C14, 0x002F54_006C34, 0x002F55_00706B, 0x002F56_00722A, 0x002F57_007236,
  0x002F58_00723B, 0x002F59_00723F, 0x002F5A_007247, 0x002F5B_007259, 0x002F5C_00725B, 0x002F5D_0072AC,
  0x002F5E_007384, 0x002F5F_007389, 0x002F60_0074DC, 0x002F61_0074E6, 0x002F62_007518, 0x002F63_00751F,
  0x002F64_007528, 0x002F65_007530, 0x002F66_00758B, 0x002F67_007592, 0x002F68_007676, 0x002F69_00767D,
  0x002F6A_0076AE, 0x002F6B_0076BF, 0x002F6C_0076EE, 0x002F6D_0077DB, 0x002F6E_0077E2, 0x002F6F_0077F3,
  0x002F70_00793A, 0x002F71_0079B8, 0x002F72_0079BE, 0x002F73_007A74, 0x002F74_007ACB, 0x002F75_007AF9,
  0x002F76_007C73, 0x002F77_007CF8, 0x002F78_007F36, 0x002F79_007F51, 0x002F7A_007F8A, 0x002F7B_007FBD,
  0x002F7C_008001, 0x002F7D_00800C, 0x002F7E_008012, 0x002F7F_008033, 0x002F80_00807F, 0x002F81_008089,
  0x002F82_0081E3, 0x002F83_0081EA, 0x002F84_0081F3, 0x002F85_0081FC, 0x002F86_00820C, 0x002F87_00821B,
  0x002F88_00821F, 0x002F89_00826E, 0x002F8A_008272, 0x002F8B_008278, 0x002F8C_00864D, 0x002F8D_00866B,
  0x002F8E_008840, 0x002F8F_00884C, 0x002F90_008863, 0x002F91_00897E, 0x002F92_00898B, 0x002F93_0089D2,
  0x002F94_008A00, 0x002F95_008C37, 0x002F96_008C46, 0x002F97_008C55, 0x002F98_008C78, 0x002F99_008C9D,
  0x002F9A_008D64, 0x002F9B_008D70, 0x002F9C_008DB3, 0x002F9D_008EAB, 0x002F9E_008ECA, 0x002F9F_008F9B,
  0x002FA0_008FB0, 0x002FA1_008FB5, 0x002FA2_009091, 0x002FA3_009149, 0x002FA4_0091C6, 0x002FA5_0091CC,
  0x002FA6_0091D1, 0x002FA7_009577, 0x002FA8_009580, 0x002FA9_00961C, 0x002FAA_0096B6, 0x002FAB_0096B9,
  0x002FAC_0096E8, 0x002FAD_009751, 0x002FAE_00975E, 0x002FAF_009762, 0x002FB0_009769, 0x002FB1_0097CB,
  0x002FB2_0097ED, 0x002FB3_0097F3, 0x002FB4_009801, 0x002FB5_0098A8, 0x002FB6_0098DB, 0x002FB7_0098DF,
  0x002FB8_009996, 0x002FB9_009999, 0x002FBA_0099AC, 0x002FBB_009AA8, 0x002FBC_009AD8, 0x002FBD_009ADF,
  0x002FBE_009B25, 0x002FBF_009B2F, 0x002FC0_009B32, 0x002FC1_009B3C, 0x002FC2_009B5A, 0x002FC3_009CE5,
  0x002FC4_009E75, 0x002FC5_009E7F, 0x002FC6_009EA5, 0x002FC7_009EBB, 0x002FC8_009EC3, 0x002FC9_009ECD,
  0x002FCA_009ED1, 0x002FCB_009EF9, 0x002FCC_009EFD, 0x002FCD_009F0E, 0x002FCE_009F13, 0x002FCF_009F20,
  0x002FD0_009F3B, 0x002FD1_009F4A, 0x002FD2_009F52, 0x002FD3_009F8D, 0x002FD4_009F9C, 0x002FD5_009FA0,
  0x003000_000020, 0x003036_003012, 0x003038_005341, 0x00304C_00304B_003099, 0x00304E_00304D_003099,
  0x003050_00304F_003099, 0x003052_003051_003099, 0x003054_003053_003099, 0x003056_003055_003099,
  0x003058_003057_003099, 0x00305A_003059_003099, 0x00305C_00305B_003099, 0x00305E_00305D_003099,
  0x003060_00305F_003099, 0x003062_003061_003099, 0x003065_003064_003099, 0x003067_003066_003099,
  0x003069_003068_003099, 0x003070_00306F_003099, 0x003071_00306F_00309A, 0x003073_003072_003099,
  0x003074_003072_00309A, 0x003076_003075_003099, 0x003077_003075_00309A, 0x003079_003078_003099,
  0x00307A_003078_00309A, 0x00307C_00307B_003099, 0x00307D_00307B_00309A, 0x003094_003046_003099,
  0x00309B_000020_003099, 0x00309C_000020_00309A, 0x00309E_00309D_003099, 0x00309F_003088_00308A,
  0x0030AC_0030AB_003099, 0x0030AE_0030AD_003099, 0x0030B0_0030AF_003099, 0x0030B2_0030B1_003099,
  0x0030B4_0030B3_003099, 0x0030B6_0030B5_003099, 0x0030B8_0030B7_003099, 0x0030BA_0030B9_003099,
  0x0030BC_0030BB_003099, 0x0030BE_0030BD_003099, 0x0030C0_0030BF_003099, 0x0030C2_0030C1_003099,
  0x0030C5_0030C4_003099, 0x0030C7_0030C6_003099, 0x0030C9_0030C8_003099, 0x0030D0_0030CF_003099,
  0x0030D1_0030CF_00309A, 0x0030D3_0030D2_003099, 0x0030D4_0030D2_00309A, 0x0030D6_0030D5_003099,
  0x0030D7_0030D5_00309A, 0x0030D9_0030D8_003099, 0x0030DA_0030D8_00309A, 0x0030DC_0030DB_003099,
  0x0030DD_0030DB_00309A, 0x0030F4_0030A6_003099, 0x0030F7_0030EF_003099, 0x0030F8_0030F0_003099,
  0x0030F9_0030F1_003099, 0x0030FA_0030F2_003099, 0x0030FE_0030FD_003099, 0x0030FF_0030B3_0030C8,
  0x003133_0011AA, 0x003134_001102, 0x003140_00111A, 0x003144_001121, 0x003164_001160, 0x003169_0011CC,
  0x00316A_0011CE, 0x00316B_0011D3, 0x00316C_0011D7, 0x00316D_0011D9, 0x00316E_00111C, 0x00316F_0011DD,
  0x003170_0011DF, 0x003173_001120, 0x003176_001127, 0x003177_001129, 0x00317D_001132, 0x00317E_001136,
  0x00317F_001140, 0x003180_001147, 0x003181_00114C, 0x003189_001188, 0x00318C_001194, 0x00318D_00119E,
  0x00318E_0011A1, 0x003192_004E00, 0x003193_004E8C, 0x003194_004E09, 0x003195_0056DB, 0x003196_004E0A,
  0x003197_004E2D, 0x003198_004E0B, 0x003199_007532, 0x00319A_004E59, 0x00319B_004E19, 0x00319C_004E01,
  0x00319D_005929, 0x00319E_005730, 0x00319F_004EBA]

/-- Decompositions of enclosed letters and months, U+3200 to U+32FF. -/
def enclosedRows : List Nat := [
  0x003200_000028_001100_000029, 0x003201_000028_001102_000029, 0x003202_000028_001103_000029,
  0x003203_000028_001105_000029, 0x003204_000028_001106_000029, 0x003205_000028_001107_000029,
  0x003206_000028_001109_000029, 0x003207_000028_00110B_000029, 0x003208_000028_00110C_000029,
  0x003209_000028_00110E_000029, 0x00320A_000028_00110F_000029, 0x00320B_000028_001110_000029,
  0x00320C_000028_001111_000029, 0x00320D_000028_001112_000029, 0x00320E_000028_001100_001161_000029,
  0x00320F_000028_001102_001161_000029, 0x003210_000028_001103_001161_000029,
  0x003211_000028_001105_001161_000029, 0x003212_000028_001106_001161_000029,
  0x003213_000028_001107_001161_000029, 0x003214_000028_001109_001161_000029,
  0x003215_000028_00110B_001161_000029, 0x003216_000028_00110C_001161_000029,
  0x003217_000028_00110E_001161_000029, 0x003218_000028_00110F_001161_000029,
  0x003219_000028_001110_001161_000029, 0x00321A_000028_001111_001161_000029,
  0x00321B_000028_001112_001161_000029, 0x00321C_000028_00110C_00116E_000029,
  0x00321D_000028_00110B_001169_00110C_001165_0011AB_000029,
  0x00321E_000028_00110B_001169_001112_00116E_000029, 0x003220_000028_004E00_000029,
  0x003221_000028_004E8C_000029, 0x003222_000028_004E09_000029, 0x003223_000028_0056DB_000029,
  0x003224_000028_004E94_000029, 0x003225_000028_00516D_000029, 0x003226_000028_004E03_000029,
  0x003227_000028_00516B_000029, 0x003228_000028_004E5D_000029, 0x003229_000028_005341_000029,
  0x00322A_000028_006708_000029, 0x00322B_000028_00706B_000029, 0x00322C_000028_006C34_000029,
  0x00322D_000028_006728_000029, 0x00322E_000028_0091D1_000029, 0x00322F_000028_00571F_000029,
  0x003230_000028_0065E5_000029, 0x003231_000028_00682A_000029, 0x003232_000028_006709_000029,
  0x003233_000028_00793E_000029, 0x003234_000028_00540D_000029, 0x003235_000028_007279_000029,
  0x003236_000028_008CA1_000029, 0x003237_000028_00795D_000029, 0x003238_000028_0052B4_000029,
  0x003239_000028_004EE3_000029, 0x00323A_000028_00547C_000029, 0x00323B_000028_005B66_000029,
  0x00323C_000028_0076E3_000029, 0x00323D_000028_004F01_000029, 0x00323E_000028_008CC7_000029,
  0x00323F_000028_005354_000029, 0x003240_000028_00796D_000029, 0x003241_000028_004F11_000029,
  0x003242_000028_0081EA_000029, 0x003243_000028_0081F3_000029, 0x003244_00554F, 0x003245_005E7C,
  0x003246_006587, 0x003247_007B8F, 0x003250_000050_000054_000045, 0x003251_000032_000031,
  0x003252_000032_000032, 0x003253_000032_000033, 0x003254_000032_000034, 0x003255_000032_000035,
  0x003256_000032_000036, 0x003257_000032_000037, 0x003258_000032_000038, 0x003259_000032_000039,
  0x00325A_000033_000030, 0x00325B_000033_000031, 0x00325C_000033_000032, 0x00325D_000033_000033,
  0x00325E_000033_000034, 0x00325F_000033_000035, 0x003260_001100, 0x003266_001109,
  0x00326E_001100_001161, 0x00326F_001102_001161, 0x003270_001103_001161, 0x003271_001105_001161,
  0x003272_001106_001161, 0x003273_001107_001161, 0x003274_001109_001161, 0x003275_00110B_001161,
  0x003276_00110C_001161, 0x003277_00110E_001161, 0x003278_00110F_001161, 0x003279_001110_001161,
  0x00327A_001111_001161, 0x00327B_001112_001161, 0x00327C_00110E_001161_0011B7_001100_001169,
  0x00327D_00110C_00116E_00110B_001174, 0x00327E_00110B_00116E, 0x003280_004E00, 0x003281_004E8C,
  0x003282_004E09, 0x003283_0056DB, 0x003284_004E94, 0x003285_00516D, 0x003286_004E03, 0x003287_00516B,
  0x003288_004E5D, 0x003289_005341, 0x00328A_006708, 0x00328B_00706B, 0x00328C_006C34, 0x00328D_006728,
  0x00328E_0091D1, 0x00328F_00571F, 0x003290_0065E5, 0x003291_00682A, 0x003292_006709, 0x003293_00793E,
  0x003294_00540D, 0x003295_007279, 0x003296_008CA1, 0x003297_00795D, 0x003298_0052B4, 0x003299_0079D8,
  0x00329A_007537, 0x00329B_005973, 0x00329C_009069, 0x00329D_00512A, 0x00329E_005370, 0x00329F_006CE8,
  0x0032A0_009805, 0x0032A1_004F11, 0x0032A2_005199, 0x0032A3_006B63, 0x0032A4_004E0A, 0x0032A5_004E2D,
  0x0032A6_004E0B, 0x0032A7_005DE6, 0x0032A8_0053F3, 0x0032A9_00533B, 0x0032AA_005B97, 0x0032AB_005B66,
  0x0032AC_0076E3, 0x0032AD_004F01, 0x0032AE_008CC7, 0x0032AF_005354, 0x0032B0_00591C,
  0x0032B1_000033_000036, 0x0032B2_000033_000037, 0x0032B3_000033_000038, 0x0032B4_000033_000039,
  0x0032B5_000034_000030, 0x0032B6_000034_000031, 0x0032B7_000034_000032, 0x0032B8_000034_000033,
  0x0032B9_000034_000034, 0x0032BA_000034_000035, 0x0032BB_000034_000036, 0x0032BC_000034_000037,
  0x0032BD_000034_000038, 0x0032BE_000034_000039, 0x0032BF_000035_000030, 0x0032C0_000031_006708,
  0x0032C1_000032_006708, 0x0032C2_000033_006708, 0x0032C3_000034_006708, 0x0032C4_000035_006708,
  0x0032C5_000036_006708, 0x0032C6_000037_006708, 0x0032C7_000038_006708, 0x0032C8_000039_006708,
  0x0032C9_000031_000030_006708, 0x0032CA_000031_000031_006708, 0x0032CB_000031_000032_006708,
  0x0032CC_000048_000067, 0x0032CD_000065_000072_000067, 0x0032CE_000065_000056,
  0x0032CF_00004C_000054_000044, 0x0032D0_0030A2, 0x0032D1_0030A4, 0x0032D2_0030A6, 0x0032D3_0030A8,
  0x0032D6_0030AD, 0x0032D7_0030AF, 0x0032D8_0030B1, 0x0032D9_0030B3, 0x0032DA_0030B5, 0x0032DB_0030B7,
  0x0032DC_0030B9, 0x0032DD_0030BB, 0x0032DE_0030BD, 0x0032DF_0030BF, 0x0032E0_0030C1, 0x0032E1_0030C4,
  0x0032E2_0030C6, 0x0032E3_0030C8, 0x0032EA_0030D2, 0x0032EB_0030D5, 0x0032EC_0030D8, 0x0032ED_0030DB,
  0x0032F3_0030E4, 0x0032F4_0030E6, 0x0032FF_004EE4_00548C]

/-- Decompositions of squared words and units, U+3300 to U+33FF. -/
def squaredRows : List Nat := [
  0x003300_0030A2_0030CF_00309A_0030FC_0030C8, 0x003301_0030A2_0030EB_0030D5_0030A1,
  0x003302_0030A2_0030F3_0030D8_00309A_0030A2, 0x003303_0030A2_0030FC_0030EB,
  0x003304_0030A4_0030CB_0030F3_0030AF_003099, 0x003305_0030A4_0030F3_0030C1,
  0x003306_0030A6_0030A9_0030F3, 0x003307_0030A8_0030B9_0030AF_0030FC_0030C8_003099,
  0x003308_0030A8_0030FC_0030AB_0030FC, 0x003309_0030AA_0030F3_0030B9, 0x00330A_0030AA_0030FC_0030E0,
  0x00330B_0030AB_0030A4_0030EA, 0x00330C_0030AB_0030E9_0030C3_0030C8,
  0x00330D_0030AB_0030ED_0030EA_0030FC, 0x00330E_0030AB_003099_0030ED_0030F3,
  0x00330F_0030AB_003099_0030F3_0030DE, 0x003310_0030AD_003099_0030AB_003099,
  0x003311_0030AD_003099_0030CB_0030FC, 0x003312_0030AD_0030E5_0030EA_0030FC,
  0x003313_0030AD_003099_0030EB_0030BF_003099_0030FC, 0x003314_0030AD_0030ED,
  0x003315_0030AD_0030ED_0030AF_003099_0030E9_0030E0,
  0x003316_0030AD_0030ED_0030E1_0030FC_0030C8_0030EB, 0x003317_0030AD_0030ED_0030EF_0030C3_0030C8,
  0x003318_0030AF_003099_0030E9_0030E0, 0x003319_0030AF_003099_0030E9_0030E0_0030C8_0030F3,
  0x00331A_0030AF_0030EB_0030BB_003099_0030A4_0030ED, 0x00331B_0030AF_0030ED_0030FC_0030CD,
  0x00331C_0030B1_0030FC_0030B9, 0x00331D_0030B3_0030EB_0030CA, 0x00331E_0030B3_0030FC_0030DB_00309A,
  0x00331F_0030B5_0030A4_0030AF_0030EB, 0x003320_0030B5_0030F3_0030C1_0030FC_0030E0,
  0x003321_0030B7_0030EA_0030F3_0030AF_003099, 0x003322_0030BB_0030F3_0030C1,
  0x003323_0030BB_0030F3_0030C8, 0x003324_0030BF_003099_0030FC_0030B9, 0x003325_0030C6_003099_0030B7,
  0x003326_0030C8_003099_0030EB, 0x003327_0030C8_0030F3, 0x003328_0030CA_0030CE,
  0x003329_0030CE_0030C3_0030C8, 0x00332A_0030CF_0030A4_0030C4,
  0x00332B_0030CF_00309A_0030FC_0030BB_0030F3_0030C8, 0x00332C_0030CF_00309A_0030FC_0030C4,
  0x00332D_0030CF_003099_0030FC_0030EC_0030EB, 0x00332E_0030D2_00309A_0030A2_0030B9_0030C8_0030EB,
  0x00332F_0030D2_00309A_0030AF_0030EB, 0x003330_0030D2_00309A_0030B3, 0x003331_0030D2_003099_0030EB,
  0x003332_0030D5_0030A1_0030E9_0030C3_0030C8_003099, 0x003333_0030D5_0030A3_0030FC_0030C8,
  0x003334_0030D5_003099_0030C3_0030B7_0030A7_0030EB, 0x003335_0030D5_0030E9_0030F3,
  0x003336_0030D8_0030AF_0030BF_0030FC_0030EB, 0x003337_0030D8_00309A_0030BD,
  0x003338_0030D8_00309A_0030CB_0030D2, 0x003339_0030D8_0030EB_0030C4,
  0x00333A_0030D8_00309A_0030F3_0030B9, 0x00333B_0030D8_00309A_0030FC_0030B7_003099,
  0x00333C_0030D8_003099_0030FC_0030BF, 0x00333D_0030DB_00309A_0030A4_0030F3_0030C8,
  0x00333E_0030DB_003099_0030EB_0030C8, 0x00333F_0030DB_0030F3,
  0x003340_0030DB_00309A_0030F3_0030C8_003099, 0x003341_0030DB_0030FC_0030EB,
  0x003342_0030DB_0030FC_0030F3, 0x003343_0030DE_0030A4_0030AF_0030ED, 0x003344_0030DE_0030A4_0030EB,
  0x003345_0030DE_0030C3_0030CF, 0x003346_0030DE_0030EB_0030AF,
  0x003347_0030DE_0030F3_0030B7_0030E7_0030F3, 0x003348_0030DF_0030AF_0030ED_0030F3,
  0x003349_0030DF_0030EA, 0x00334A_0030DF_0030EA_0030CF_003099_0030FC_0030EB,
  0x00334B_0030E1_0030AB_003099, 0x00334C_0030E1_0030AB_003099_0030C8_0030F3,
  0x00334D_0030E1_0030FC_0030C8_0030EB, 0x00334E_0030E4_0030FC_0030C8_003099,
  0x00334F_0030E4_0030FC_0030EB, 0x003350_0030E6_0030A2_0030F3, 0x003351_0030EA_0030C3_0030C8_0030EB,
  0x003352_0030EA_0030E9, 0x003353_0030EB_0030D2_00309A_0030FC,
  0x003354_0030EB_0030FC_0030D5_003099_0030EB, 0x003355_0030EC_0030E0,
  0x003356_0030EC_0030F3_0030C8_0030B1_003099_0030F3, 0x003357_0030EF_0030C3_0030C8,
  0x003358_000030_0070B9, 0x003359_000031_0070B9, 0x00335A_000032_0070B9, 0x00335B_000033_0070B9,
  0x00335C_000034_0070B9, 0x00335D_000035_0070B9, 0x00335E_000036_0070B9, 0x00335F_000037_0070B9,
  0x003360_000038_0070B9, 0x003361_000039_0070B9, 0x003362_000031_000030_0070B9,
  0x003363_000031_000031_0070B9, 0x003364_000031_000032_0070B9, 0x003365_000031_000033_0070B9,
  0x003366_000031_000034_0070B9, 0x003367_000031_000035_0070B9, 0x003368_000031_000036_0070B9,
  0x003369_000031_000037_0070B9, 0x00336A_000031_000038_0070B9, 0x00336B_000031_000039_0070B9,
  0x00336C_000032_000030_0070B9, 0x00336D_000032_000031_0070B9, 0x00336E_000032_000032_0070B9,
  0x00336F_000032_000033_0070B9, 0x003370_000032_000034_0070B9, 0x003371_000068_000050_000061,
  0x003372_000064_000061, 0x003373_000041_000055, 0x003374_000062_000061_000072, 0x003375_00006F_000056,
  0x003376_000070_000063, 0x003377_000064_00006D, 0x003378_000064_00006D_000032,
  0x003379_000064_00006D_000033, 0x00337A_000049_000055, 0x00337B_005E73_006210, 0x00337C_00662D_00548C,
  0x00337D_005927_006B63, 0x00337E_00660E_006CBB, 0x00337F_00682A_005F0F_004F1A_00793E,
  0x003380_000070_000041, 0x003381_00006E_000041, 0x003382_0003BC_000041, 0x003383_00006D_000041,
  0x003384_00006B_000041, 0x003385_00004B_000042, 0x003386_00004D_000042, 0x003387_000047_000042,
  0x003388_000063_000061_00006C, 0x003389_00006B_000063_000061_00006C, 0x00338A_000070_000046,
  0x00338B_00006E_000046, 0x00338C_0003BC_000046, 0x00338D_0003BC_000067, 0x00338E_00006D_000067,
  0x00338F_00006B_000067, 0x003390_000048_00007A, 0x003391_00006B_000048_00007A,
  0x003392_00004D_000048_00007A, 0x003393_000047_000048_00007A, 0x003394_000054_000048_00007A,
  0x003395_0003BC_00006C, 0x003396_00006D_00006C, 0x003397_000064_00006C, 0x003398_00006B_00006C,
  0x003399_000066_00006D, 0x00339A_00006E_00006D, 0x00339B_0003BC_00006D, 0x00339C_00006D_00006D,
  0x00339D_000063_00006D, 0x00339E_00006B_00006D, 0x00339F_00006D_00006D_000032,
  0x0033A0_000063_00006D_000032, 0x0033A1_00006D_000032, 0x0033A2_00006B_00006D_000032,
  0x0033A3_00006D_00006D_000033, 0x0033A4_000063_00006D_000033, 0x0033A5_00006D_000033,
  0x0033A6_00006B_00006D_000033, 0x0033A7_00006D_002215_000073, 0x0033A8_00006D_002215_000073_000032,
  0x0033A9_000050_000061, 0x0033AA_00006B_000050_000061, 0x0033AB_00004D_000050_000061,
  0x0033AC_000047_000050_000061, 0x0033AD_000072_000061_000064,
  0x0033AE_000072_000061_000064_002215_000073, 0x0033AF_000072_000061_000064_002215_000073_000032,
  0x0033B0_000070_000073, 0x0033B1_00006E_000073, 0x0033B2_0003BC_000073, 0x0033B3_00006D_000073,
  0x0033B4_000070_000056, 0x0033B5_00006E_000056, 0x0033B6_0003BC_000056, 0x0033B7_00006D_000056,
  0x0033B8_00006B_000056, 0x0033B9_00004D_000056, 0x0033BA_000070_000057, 0x0033BB_00006E_000057,
  0x0033BC_0003BC_000057, 0x0033BD_00006D_000057, 0x0033BE_00006B_000057, 0x0033BF_00004D_000057,
  0x0033C0_00006B_0003A9, 0x0033C1_00004D_0003A9, 0x0033C2_000061_00002E_00006D_00002E,
  0x0033C3_000042_000071, 0x0033C4_000063_000063, 0x0033C5_000063_000064,
  0x0033C6_000043_002215_00006B_000067, 0x0033C7_000043_00006F_00002E, 0x0033C8_000064_000042,
  0x0033C9_000047_000079, 0x0033CA_000068_000061, 0x0033CB_000048_000050, 0x0033CC_000069_00006E,
  0x0033CD_00004B_00004B, 0x0033CE_00004B_00004D, 0x0033CF_00006B_000074, 0x0033D0_00006C_00006D,
  0x0033D1_00006C_00006E, 0x0033D2_00006C_00006F_000067, 0x0033D3_00006C_000078, 0x0033D4_00006D_000062,
  0x0033D5_00006D_000069_00006C, 0x0033D6_00006D_00006F_00006C, 0x0033D7_000050_000048,
  0x0033D8_000070_00002E_00006D_00002E, 0x0033D9_000050_000050_00004D, 0x0033DA_000050_000052,
  0x0033DB_000073_000072, 0x0033DC_000053_000076, 0x0033DD_000057_000062, 0x0033DE_000056_002215_00006D,
  0x0033DF_000041_002215_00006D, 0x0033E0_000031_0065E5, 0x0033E1_000032_0065E5, 0x0033E2_000033_0065E5,
  0x0033E3_000034_0065E5, 0x0033E4_000035_0065E5, 0x0033E5_000036_0065E5, 0x0033E6_000037_0065E5,
  0x0033E7_000038_0065E5, 0x0033E8_000039_0065E5, 0x0033E9_000031_000030_0065E5,
  0x0033EA_000031_000031_0065E5, 0x0033EB_000031_000032_0065E5, 0x0033EC_000031_000033_0065E5,
  0x0033ED_000031_000034_0065E5, 0x0033EE_000031_000035_0065E5, 0x0033EF_000031_000036_0065E5,
  0x0033F0_000031_000037_0065E5, 0x0033F1_000031_000038_0065E5, 0x0033F2_000031_000039_0065E5,
  0x0033F3_000032_000030_0065E5, 0x0033F4_000032_000031_0065E5, 0x0033F5_000032_000032_0065E5,
  0x0033F6_000032_000033_0065E5, 0x0033F7_000032_000034_0065E5, 0x0033F8_000032_000035_0065E5,
  0x0033F9_000032_000036_0065E5, 0x0033FA_000032_000037_0065E5, 0x0033FB_000032_000038_0065E5,
  0x0033FC_000032_000039_0065E5, 0x0033FD_000033_000030_0065E5, 0x0033FE_000033_000031_0065E5,
  0x0033FF_000067_000061_00006C]

/-- Decompositions of modifier letters, U+3400 to U+F8FF. -/
def modifierRows : List Nat := [
  0x00A69C_00044A, 0x00A69D_00044C, 0x00A770_00A76F, 0x00A7F2_000043, 0x00A7F3_000046, 0x00A7F4_000051,
  0x00A7F8_000126, 0x00A7F9_000153, 0x00AB5C_00A727, 0x00AB5D_00AB37, 0x00AB5E_00026B, 0x00AB5F_00AB52,
  0x00AB69_00028D]

end ChatModeration.Text.Decomposition
