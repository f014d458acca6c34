/-!
# Decompositions of letters

Each row is one character and its full compatibility decomposition, in groups of six hexadecimal digits.  Rows are in
ascending order.
-/

namespace ChatModeration.Text.Decomposition

/-- Decompositions of Latin, Greek, Cyrillic and other letters below U+0590. -/
def latinRows : List Nat := [
  0x0000A0_000020, 0x0000A8_000020_000308, 0x0000AA_000061, 0x0000AF_000020_000304,
  0x0000B4_000020_000301, 0x0000B5_0003BC, 0x0000B8_000020_000327, 0x0000B9_000031, 0x0000BA_00006F,
  0x0000BC_000031_002044_000034, 0x0000BD_000031_002044_000032, 0x0000BE_000033_002044_000034,
  0x0000C0_000041_000300, 0x0000C1_000041_000301, 0x0000C2_000041_000302, 0x0000C3_000041_000303,
  0x0000C4_000041_000308, 0x0000C5_000041_00030A, 0x0000C7_000043_000327, 0x0000C8_000045_000300,
  0x0000C9_000045_000301, 0x0000CA_000045_000302, 0x0000CB_000045_000308, 0x0000CC_000049_000300,
  0x0000CD_000049_000301, 0x0000CE_000049_000302, 0x0000CF_000049_000308, 0x0000D1_00004E_000303,
  0x0000D2_00004F_000300, 0x0000D3_00004F_000301, 0x0000D4_00004F_000302, 0x0000D5_00004F_000303,
  0x0000D6_00004F_000308, 0x0000D9_000055_000300, 0x0000DA_000055_000301, 0x0000DB_000055_000302,
  0x0000DC_000055_000308, 0x0000DD_000059_000301, 0x0000E0_000061_000300, 0x0000E1_000061_000301,
  0x0000E2_000061_000302, 0x0000E3_000061_000303, 0x0000E4_000061_000308, 0x0000E5_000061_00030A,
  0x0000E7_000063_000327, 0x0000E8_000065_000300, 0x0000E9_000065_000301, 0x0000EA_000065_000302,
  0x0000EB_000065_000308, 0x0000EC_000069_000300, 0x0000ED_000069_000301, 0x0000EE_000069_000302,
  0x0000EF_000069_000308, 0x0000F1_00006E_000303, 0x0000F2_00006F_000300, 0x0000F3_00006F_000301,
  0x0000F4_00006F_000302, 0x0000F5_00006F_000303, 0x0000F6_00006F_000308, 0x0000F9_000075_000300,
  0x0000FA_000075_000301, 0x0000FB_000075_000302, 0x0000FC_000075_000308, 0x0000FD_000079_000301,
  0x0000FF_000079_000308, 0x000100_000041_000304, 0x000101_000061_000304, 0x000102_000041_000306,
  0x000103_000061_000306, 0x000104_000041_000328, 0x000105_000061_000328, 0x000106_000043_000301,
  0x000107_000063_000301, 0x000108_000043_000302, 0x000109_000063_000302, 0x00010A_000043_000307,
  0x00010B_000063_000307, 0x00010C_000043_00030C, 0x00010D_000063_00030C, 0x00010E_000044_00030C,
  0x00010F_000064_00030C, 0x000112_000045_000304, 0x000113_000065_000304, 0x000114_000045_000306,
  0x000115_000065_000306, 0x000116_000045_000307, 0x000117_000065_000307, 0x000118_000045_000328,
  0x000119_000065_000328, 0x00011A_000045_00030C, 0x00011B_000065_00030C, 0x00011C_000047_000302,
  0x00011D_000067_000302, 0x00011E_000047_000306, 0x00011F_000067_000306, 0x000120_000047_000307,
  0x000121_000067_000307, 0x000122_000047_000327, 0x000123_000067_000327, 0x000124_000048_000302,
  0x000125_000068_000302, 0x000128_000049_000303, 0x000129_000069_000303, 0x00012A_000049_000304,
  0x00012B_000069_000304, 0x00012C_000049_000306, 0x00012D_000069_000306, 0x00012E_000049_000328,
  0x00012F_000069_000328, 0x000130_000049_000307, 0x000132_000049_00004A, 0x000133_000069_00006A,
  0x000134_00004A_000302, 0x000135_00006A_000302, 0x000136_00004B_000327, 0x000137_00006B_000327,
  0x000139_00004C_000301, 0x00013A_00006C_000301, 0x00013B_00004C_000327, 0x00013C_00006C_000327,
  0x00013D_00004C_00030C, 0x00013E_00006C_00030C, 0x00013F_00004C_0000B7, 0x000140_00006C_0000B7,
  0x000143_00004E_000301, 0x000144_00006E_000301, 0x000145_00004E_000327, 0x000146_00006E_000327,
  0x000147_00004E_00030C, 0x000148_00006E_00030C, 0x000149_0002BC_00006E, 0x00014C_00004F_000304,
  0x00014D_00006F_000304, 0x00014E_00004F_000306, 0x00014F_00006F_000306, 0x000150_00004F_00030B,
  0x000151_00006F_00030B, 0x000154_000052_000301, 0x000155_000072_000301, 0x000156_000052_000327,
  0x000157_000072_000327, 0x000158_000052_00030C, 0x000159_000072_00030C, 0x00015A_000053_000301,
  0x00015B_000073_000301, 0x00015C_000053_000302, 0x00015D_000073_000302, 0x00015E_000053_000327,
  0x00015F_000073_000327, 0x000160_000053_00030C, 0x000161_000073_00030C, 0x000162_000054_000327,
  0x000163_000074_000327, 0x000164_000054_00030C, 0x000165_000074_00030C, 0x000168_000055_000303,
  0x000169_000075_000303, 0x00016A_000055_000304, 0x00016B_000075_000304, 0x00016C_000055_000306,
  0x00016D_000075_000306, 0x00016E_000055_00030A, 0x00016F_000075_00030A, 0x000170_000055_00030B,
  0x000171_000075_00030B, 0x000172_000055_000328, 0x000173_000075_000328, 0x000174_000057_000302,
  0x000175_000077_000302, 0x000176_000059_000302, 0x000177_000079_000302, 0x000178_000059_000308,
  0x000179_00005A_000301, 0x00017A_00007A_000301, 0x00017B_00005A_000307, 0x00017C_00007A_000307,
  0x00017D_00005A_00030C, 0x00017E_00007A_00030C, 0x00017F_000073, 0x0001A0_00004F_00031B,
  0x0001A1_00006F_00031B, 0x0001AF_000055_00031B, 0x0001B0_000075_00031B, 0x0001C4_000044_00005A_00030C,
  0x0001C5_000044_00007A_00030C, 0x0001C6_000064_00007A_00030C, 0x0001C7_00004C_00004A,
  0x0001C8_00004C_00006A, 0x0001C9_00006C_00006A, 0x0001CA_00004E_00004A, 0x0001CB_00004E_00006A,
  0x0001CC_00006E_00006A, 0x0001CD_000041_00030C, 0x0001CE_000061_00030C, 0x0001CF_000049_00030C,
  0x0001D0_000069_00030C, 0x0001D1_00004F_00030C, 0x0001D2_00006F_00030C, 0x0001D3_000055_00030C,
  0x0001D4_000075_00030C, 0x0001D5_000055_000308_000304, 0x0001D6_000075_000308_000304,
  0x0001D7_000055_000308_000301, 0x0001D8_000075_000308_000301, 0x0001D9_000055_000308_00030C,
  0x0001DA_000075_000308_00030C, 0x0001DB_000055_000308_000300, 0x0001DC_000075_000308_000300,
  0x0001DE_000041_000308_000304, 0x0001DF_000061_000308_000304, 0x0001E0_000041_000307_000304,
  0x0001E1_000061_000307_000304, 0x0001E2_0000C6_000304, 0x0001E3_0000E6_000304, 0x0001E6_000047_00030C,
  0x0001E7_000067_00030C, 0x0001E8_00004B_00030C, 0x0001E9_00006B_00030C, 0x0001EA_00004F_000328,
  0x0001EB_00006F_000328, 0x0001EC_00004F_000328_000304, 0x0001ED_00006F_000328_000304,
  0x0001EE_0001B7_00030C, 0x0001EF_000292_00030C, 0x0001F0_00006A_00030C, 0x0001F1_000044_00005A,
  0x0001F2_000044_00007A, 0x0001F3_000064_00007A, 0x0001F4_000047_000301, 0x0001F5_000067_000301,
  0x0001F8_00004E_000300, 0x0001F9_00006E_000300, 0x0001FA_000041_00030A_000301,
  0x0001FB_000061_00030A_000301, 0x0001FC_0000C6_000301, 0x0001FD_0000E6_000301, 0x0001FE_0000D8_000301,
  0x0001FF_0000F8_000301, 0x000200_000041_00030F, 0x000201_000061_00030F, 0x000202_000041_000311,
  0x000203_000061_000311, 0x000204_000045_00030F, 0x000205_000065_00030F, 0x000206_000045_000311,
  0x000207_000065_000311, 0x000208_000049_00030F, 0x000209_000069_00030F, 0x00020A_000049_000311,
  0x00020B_000069_000311, 0x00020C_00004F_00030F, 0x00020D_00006F_00030F, 0x00020E_00004F_000311,
  0x00020F_00006F_000311, 0x000210_000052_00030F, 0x000211_000072_00030F, 0x000212_000052_000311,
  0x000213_000072_000311, 0x000214_000055_00030F, 0x000215_000075_00030F, 0x000216_000055_000311,
  0x000217_000075_000311, 0x000218_000053_000326, 0x000219_000073_000326, 0x00021A_000054_000326,
  0x00021B_000074_000326, 0x00021E_000048_00030C, 0x00021F_000068_00030C, 0x000226_000041_000307,
  0x000227_000061_000307, 0x000228_000045_000327, 0x000229_000065_000327, 0x00022A_00004F_000308_000304,
  0x00022B_00006F_000308_000304, 0x00022C_00004F_000303_000304, 0x00022D_00006F_000303_000304,
  0x00022E_00004F_000307, 0x00022F_00006F_000307, 0x000230_00004F_000307_000304,
  0x000231_00006F_000307_000304, 0x000232_000059_000304, 0x000233_000079_000304, 0x0002B0_000068,
  0x0002B1_000266, 0x0002B2_00006A, 0x0002B3_000072, 0x0002B4_000279, 0x0002B5_00027B, 0x0002B6_000281,
  0x0002B7_000077, 0x0002B8_000079, 0x0002D8_000020_000306, 0x0002D9_000020_000307,
  0x0002DA_000020_00030A, 0x0002DB_000020_000328, 0x0002DC_000020_000303, 0x0002DD_000020_00030B,
  0x0002E0_000263, 0x0002E1_00006C, 0x0002E2_000073, 0x0002E3_000078, 0x0002E4_000295, 0x000343_000313,
  0x000344_000308_000301, 0x000374_0002B9, 0x00037A_000020_000345, 0x00037E_00003B,
  0x000384_000020_000301, 0x000385_000020_000308_000301, 0x000386_000391_000301, 0x000387_0000B7,
  0x000388_000395_000301, 0x000389_000397_000301, 0x00038A_000399_000301, 0x00038C_00039F_000301,
  0x00038E_0003A5_000301, 0x00038F_0003A9_000301, 0x000390_0003B9_000308_000301, 0x0003AA_000399_000308,
  0x0003AB_0003A5_000308, 0x0003AC_0003B1_000301, 0x0003AD_0003B5_000301, 0x0003AE_0003B7_000301,
  0x0003AF_0003B9_000301, 0x0003B0_0003C5_000308_000301, 0x0003CA_0003B9_000308, 0x0003CB_0003C5_000308,
  0x0003CC_0003BF_000301, 0x0003CD_0003C5_000301, 0x0003CE_0003C9_000301, 0x0003D0_0003B2,
  0x0003D1_0003B8, 0x0003D2_0003A5, 0x0003D3_0003A5_000301, 0x0003D4_0003A5_000308, 0x0003D5_0003C6,
  0x0003D6_0003C0, 0x0003F0_0003BA, 0x0003F4_000398, 0x0003F5_0003B5, 0x0003F9_0003A3,
  0x000400_000415_000300, 0x000401_000415_000308, 0x000403_000413_000301, 0x000407_000406_000308,
  0x00040C_00041A_000301, 0x00040D_000418_000300, 0x00040E_000423_000306, 0x000419_000418_000306,
  0x000439_000438_000306, 0x000450_000435_000300, 0x000451_000435_000308, 0x000453_000433_000301,
  0x000457_000456_000308, 0x00045C_00043A_000301, 0x00045D_000438_000300, 0x00045E_000443_000306,
  0x000476_000474_00030F, 0x000477_000475_00030F, 0x0004C1_000416_000306, 0x0004C2_000436_000306,
  0x0004D0_000410_000306, 0x0004D1_000430_000306, 0x0004D2_000410_000308, 0x0004D3_000430_000308,
  0x0004D6_000415_000306, 0x0004D7_000435_000306, 0x0004DA_0004D8_000308, 0x0004DB_0004D9_000308,
  0x0004DC_000416_000308, 0x0004DD_000436_000308, 0x0004DE_000417_000308, 0x0004DF_000437_000308,
  0x0004E2_000418_000304, 0x0004E3_000438_000304, 0x0004E4_000418_000308, 0x0004E5_000438_000308,
  0x0004E6_00041E_000308, 0x0004E7_00043E_000308, 0x0004EA_0004E8_000308, 0x0004EB_0004E9_000308,
  0x0004EC_00042D_000308, 0x0004ED_00044D_000308, 0x0004EE_000423_000304, 0x0004EF_000443_000304,
  0x0004F0_000423_000308, 0x0004F1_000443_000308, 0x0004F2_000423_00030B, 0x0004F3_000443_00030B,
  0x0004F4_000427_000308, 0x0004F5_000447_000308, 0x0004F8_00042B_000308, 0x0004F9_00044B_000308,
  0x000587_000565_000582]

/-- Decompositions of letters from U+0590 to U+1DFF. -/
def southernRows : List Nat := [
  0x000622_000627_000653, 0x000623_000627_000654, 0x000624_000648_000654, 0x000625_000627_000655,
  0x000626_00064A_000654, 0x000675_000627_000674, 0x000676_000648_000674, 0x000677_0006C7_000674,
  0x000678_00064A_000674, 0x0006C0_0006D5_000654, 0x0006C2_0006C1_000654, 0x0006D3_0006D2_000654,
  0x000929_000928_00093C, 0x000931_000930_00093C, 0x000934_000933_00093C, 0x000958_000915_00093C,
  0x000959_000916_00093C, 0x00095A_000917_00093C, 0x00095B_00091C_00093C, 0x00095C_000921_00093C,
  0x00095D_000922_00093C, 0x00095E_00092B_00093C, 0x00095F_00092F_00093C, 0x0009CB_0009C7_0009BE,
  0x0009CC_0009C7_0009D7, 0x0009DC_0009A1_0009BC, 0x0009DD_0009A2_0009BC, 0x0009DF_0009AF_0009BC,
  0x000A33_000A32_000A3C, 0x000A36_000A38_000A3C, 0x000A59_000A16_000A3C, 0x000A5A_000A17_000A3C,
  0x000A5B_000A1C_000A3C, 0x000A5E_000A2B_000A3C, 0x000B48_000B47_000B56, 0x000B4B_000B47_000B3E,
  0x000B4C_000B47_000B57, 0x000B5C_000B21_000B3C, 0x000B5D_000B22_000B3C, 0x000B94_000B92_000BD7,
  0x000BCA_000BC6_000BBE, 0x000BCB_000BC7_000BBE, 0x000BCC_000BC6_000BD7, 0x000C48_000C46_000C56,
  0x000CC0_000CBF_000CD5, 0x000CC7_000CC6_000CD5, 0x000CC8_000CC6_000CD6, 0x000CCA_000CC6_000CC2,
  0x000CCB_000CC6_000CC2_000CD5, 0x000D4A_000D46_000D3E, 0x000D4B_000D47_000D3E, 0x000D4C_000D46_000D57,
  0x000DDA_000DD9_000DCA, 0x000DDC_000DD9_000DCF, 0x000DDD_000DD9_000DCF_000DCA, 0x000DDE_000DD9_000DDF,
  0x000E33_000E4D_000E32, 0x000EB3_000ECD_000EB2, 0x000EDC_000EAB_000E99, 0x000EDD_000EAB_000EA1,
  0x000F0C_000F0B, 0x000F43_000F42_000FB7, 0x000F4D_000F4C_000FB7, 0x000F52_000F51_000FB7,
  0x000F57_000F56_000FB7, 0x000F5C_000F5B_000FB7, 0x000F69_000F40_000FB5, 0x000F73_000F71_000F72,
  0x000F75_000F71_000F74, 0x000F76_000FB2_000F80, 0x000F77_000FB2_000F71_000F80, 0x000F78_000FB3_000F80,
  0x000F79_000FB3_000F71_000F80, 0x000F81_000F71_000F80, 0x000F93_000F92_000FB7, 0x000F9D_000F9C_000FB7,
  0x000FA2_000FA1_000FB7, 0x000FA7_000FA6_000FB7, 0x000FAC_000FAB_000FB7, 0x000FB9_000F90_000FB5,
  0x001026_001025_00102E, 0x0010FC_0010DC, 0x001B06_001B05_001B35, 0x001B08_001B07_001B35,
  0x001B0A_001B09_001B35, 0x001B0C_001B0B_001B35, 0x001B0E_001B0D_001B35, 0x001B12_001B11_001B35,
  0x001B3B_001B3A_001B35, 0x001B3D_001B3C_001B35, 0x001B40_001B3E_001B35, 0x001B41_001B3F_001B35,
  0x001B43_001B42_001B35, 0x001D2C_000041, 0x001D2D_0000C6, 0x001D2E_000042, 0x001D32_00018E,
  0x001D3C_00004F, 0x001D3D_000222, 0x001D3E_000050, 0x001D3F_000052, 0x001D42_000057, 0x001D43_000061,
  0x001D46_001D02, 0x001D47_000062, 0x001D4A_000259, 0x001D4D_000067, 0x001D4F_00006B, 0x001D50_00006D,
  0x001D51_00014B, 0x001D52_00006F, 0x001D53_000254, 0x001D56_000070, 0x001D59_001D1D, 0x001D5A_00026F,
  0x001D5B_000076, 0x001D5C_001D25, 0x001D62_000069, 0x001D63_000072, 0x001D68_0003C1, 0x001D78_00043D,
  0x001D9B_000252, 0x001D9C_000063, 0x001D9D_000255, 0x001D9E_0000F0, 0x001D9F_00025C, 0x001DA0_000066,
  0x001DA1_00025F, 0x001DA2_000261, 0x001DA3_000265, 0x001DA7_001D7B, 0x001DA8_00029D, 0x001DA9_00026D,
  0x001DAA_001D85, 0x001DAB_00029F, 0x001DAC_000271, 0x001DAD_000270, 0x001DB2_000278, 0x001DB5_0001AB,
  0x001DB8_001D1C, 0x001DBB_00007A, 0x001DBF_0003B8]

/-- Decompositions of additional Latin letters, U+1E00 to U+1EFF. -/
def additionalLatinRows : List Nat := [
  0x001E00_000041_000325, 0x001E01_000061_000325, 0x001E02_000042_000307, 0x001E03_000062_000307,
  0x001E04_000042_000323, 0x001E05_000062_000323, 0x001E06_000042_000331, 0x001E07_000062_000331,
  0x001E08_000043_000327_000301, 0x001E09_000063_000327_000301, 0x001E0A_000044_000307,
  0x001E0B_000064_000307, 0x001E0C_000044_000323, 0x001E0D_000064_000323, 0x001E0E_000044_000331,
  0x001E0F_000064_000331, 0x001E10_000044_000327, 0x001E11_000064_000327, 0x001E12_000044_00032D,
  0x001E13_000064_00032D, 0x001E14_000045_000304_000300, 0x001E15_000065_000304_000300,
  0x001E16_000045_000304_000301, 0x001E17_000065_000304_000301, 0x001E18_000045_00032D,
  0x001E19_000065_00032D, 0x001E1A_000045_000330, 0x001E1B_000065_000330, 0x001E1C_000045_000327_000306,
  0x001E1D_000065_000327_000306, 0x001E1E_000046_000307, 0x001E1F_000066_000307, 0x001E20_000047_000304,
  0x001E21_000067_000304, 0x001E22_000048_000307, 0x001E23_000068_000307, 0x001E24_000048_000323,
  0x001E25_000068_000323, 0x001E26_000048_000308, 0x001E27_000068_000308, 0x001E28_000048_000327,
  0x001E29_000068_000327, 0x001E2A_000048_00032E, 0x001E2B_000068_00032E, 0x001E2C_000049_000330,
  0x001E2D_000069_000330, 0x001E2E_000049_000308_000301, 0x001E2F_000069_000308_000301,
  0x001E30_00004B_000301, 0x001E31_00006B_000301, 0x001E32_00004B_000323, 0x001E33_00006B_000323,
  0x001E34_00004B_000331, 0x001E35_00006B_000331, 0x001E36_00004C_000323, 0x001E37_00006C_000323,
  0x001E38_00004C_000323_000304, 0x001E39_00006C_000323_000304, 0x001E3A_00004C_000331,
  0x001E3B_00006C_000331, 0x001E3C_00004C_00032D, 0x001E3D_00006C_00032D, 0x001E3E_00004D_000301,
  0x001E3F_00006D_000301, 0x001E40_00004D_000307, 0x001E41_00006D_000307, 0x001E42_00004D_000323,
  0x001E43_00006D_000323, 0x001E44_00004E_000307, 0x001E45_00006E_000307, 0x001E46_00004E_000323,
  0x001E47_00006E_000323, 0x001E48_00004E_000331, 0x001E49_00006E_000331, 0x001E4A_00004E_00032D,
  0x001E4B_00006E_00032D, 0x001E4C_00004F_000303_000301, 0x001E4D_00006F_000303_000301,
  0x001E4E_00004F_000303_000308, 0x001E4F_00006F_000303_000308, 0x001E50_00004F_000304_000300,
  0x001E51_00006F_000304_000300, 0x001E52_00004F_000304_000301, 0x001E53_00006F_000304_000301,
  0x001E54_000050_000301, 0x001E55_000070_000301, 0x001E56_000050_000307, 0x001E57_000070_000307,
  0x001E58_000052_000307, 0x001E59_000072_000307, 0x001E5A_000052_000323, 0x001E5B_000072_000323,
  0x001E5C_000052_000323_000304, 0x001E5D_000072_000323_000304, 0x001E5E_000052_000331,
  0x001E5F_000072_000331, 0x001E60_000053_000307, 0x001E61_000073_000307, 0x001E62_000053_000323,
  0x001E63_000073_000323, 0x001E64_000053_000301_000307, 0x001E65_000073_000301_000307,
  0x001E66_000053_00030C_000307, 0x001E67_000073_00030C_000307, 0x001E68_000053_000323_000307,
  0x001E69_000073_000323_000307, 0x001E6A_000054_000307, 0x001E6B_000074_000307, 0x001E6C_000054_000323,
  0x001E6D_000074_000323, 0x001E6E_000054_000331, 0x001E6F_000074_000331, 0x001E70_000054_00032D,
  0x001E71_000074_00032D, 0x001E72_000055_000324, 0x001E73_000075_000324, 0x001E74_000055_000330,
  0x001E75_000075_000330, 0x001E76_000055_00032D, 0x001E77_000075_00032D, 0x001E78_000055_000303_000301,
  0x001E79_000075_000303_000301, 0x001E7A_000055_000304_000308, 0x001E7B_000075_000304_000308,
  0x001E7C_000056_000303, 0x001E7D_000076_000303, 0x001E7E_000056_000323, 0x001E7F_000076_000323,
  0x001E80_000057_000300, 0x001E81_000077_000300, 0x001E82_000057_000301, 0x001E83_000077_000301,
  0x001E84_000057_000308, 0x001E85_000077_000308, 0x001E86_000057_000307, 0x001E87_000077_000307,
  0x001E88_000057_000323, 0x001E89_000077_000323, 0x001E8A_000058_000307, 0x001E8B_000078_000307,
  0x001E8C_000058_000308, 0x001E8D_000078_000308, 0x001E8E_000059_000307, 0x001E8F_000079_000307,
  0x001E90_00005A_000302, 0x001E91_00007A_000302, 0x001E92_00005A_000323, 0x001E93_00007A_000323,
  0x001E94_00005A_000331, 0x001E95_00007A_000331, 0x001E96_000068_000331, 0x001E97_000074_000308,
  0x001E98_000077_00030A, 0x001E99_000079_00030A, 0x001E9A_000061_0002BE, 0x001E9B_000073_000307,
  0x001EA0_000041_000323, 0x001EA1_000061_000323, 0x001EA2_000041_000309, 0x001EA3_000061_000309,
  0x001EA4_000041_000302_000301, 0x001EA5_000061_000302_000301, 0x001EA6_000041_000302_000300,
  0x001EA7_000061_000302_000300, 0x001EA8_000041_000302_000309, 0x001EA9_000061_000302_000309,
  0x001EAA_000041_000302_000303, 0x001EAB_000061_000302_000303, 0x001EAC_000041_000323_000302,
  0x001EAD_000061_000323_000302, 0x001EAE_000041_000306_000301, 0x001EAF_000061_000306_000301,
  0x001EB0_000041_000306_000300, 0x001EB1_000061_000306_000300, 0x001EB2_000041_000306_000309,
  0x001EB3_000061_000306_000309, 0x001EB4_000041_000306_000303, 0x001EB5_000061_000306_000303,
  0x001EB6_000041_000323_000306, 0x001EB7_000061_000323_000306, 0x001EB8_000045_000323,
  0x001EB9_000065_000323, 0x001EBA_000045_000309, 0x001EBB_000065_000309, 0x001EBC_000045_000303,
  0x001EBD_000065_000303, 0x001EBE_000045_000302_000301, 0x001EBF_000065_000302_000301,
  0x001EC0_000045_000302_000300, 0x001EC1_000065_000302_000300, 0x001EC2_000045_000302_000309,
  0x001EC3_000065_000302_000309, 0x001EC4_000045_000302_000303, 0x001EC5_000065_000302_000303,
  0x001EC6_000045_000323_000302, 0x001EC7_000065_000323_000302, 0x001EC8_000049_000309,
  0x001EC9_000069_000309, 0x001ECA_000049_000323, 0x001ECB_000069_000323, 0x001ECC_00004F_000323,
  0x001ECD_00006F_000323, 0x001ECE_00004F_000309, 0x001ECF_00006F_000309, 0x001ED0_00004F_000302_000301,
  0x001ED1_00006F_000302_000301, 0x001ED2_00004F_000302_000300, 0x001ED3_00006F_000302_000300,
  0x001ED4_00004F_000302_000309, 0x001ED5_00006F_000302_000309, 0x001ED6_00004F_000302_000303,
  0x001ED7_00006F_000302_000303, 0x001ED8_00004F_000323_000302, 0x001ED9_00006F_000323_000302,
  0x001EDA_00004F_00031B_000301, 0x001EDB_00006F_00031B_000301, 0x001EDC_00004F_00031B_000300,
  0x001EDD_00006F_00031B_000300, 0x001EDE_00004F_00031B_000309, 0x001EDF_00006F_00031B_000309,
  0x001EE0_00004F_00031B_000303, 0x001EE1_00006F_00031B_000303, 0x001EE2_00004F_00031B_000323,
  0x001EE3_00006F_00031B_000323, 0x001EE4_000055_000323, 0x001EE5_000075_000323, 0x001EE6_000055_000309,
  0x001EE7_000075_000309, 0x001EE8_000055_00031B_000301, 0x001EE9_000075_00031B_000301,
  0x001EEA_000055_00031B_000300, 0x001EEB_000075_00031B_000300, 0x001EEC_000055_00031B_000309,
  0x001EED_000075_00031B_000309, 0x001EEE_000055_00031B_000303, 0x001EEF_000075_00031B_000303,
  0x001EF0_000055_00031B_000323, 0x001EF1_000075_00031B_000323, 0x001EF2_000059_000300,
  0x001EF3_000079_000300, 0x001EF4_000059_000323, 0x001EF5_000079_000323, 0x001EF6_000059_000309,
  0x001EF7_000079_000309, 0x001EF8_000059_000303, 0x001EF9_000079_000303]

/-- Decompositions of extended Greek letters, U+1F00 to U+1FFF. -/
def extendedGreekRows : List Nat := [
  0x001F00_0003B1_000313, 0x001F01_0003B1_000314, 0x001F02_0003B1_000313_000300,
  0x001F03_0003B1_000314_000300, 0x001F04_0003B1_000313_000301, 0x001F05_0003B1_000314_000301,
  0x001F06_0003B1_000313_000342, 0x001F07_0003B1_000314_000342, 0x001F08_000391_000313,
  0x001F09_000391_000314, 0x001F0A_000391_000313_000300, 0x001F0B_000391_000314_000300,
  0x001F0C_000391_000313_000301, 0x001F0D_000391_000314_000301, 0x001F0E_000391_000313_000342,
  0x001F0F_000391_000314_000342, 0x001F10_0003B5_000313, 0x001F11_0003B5_000314,
  0x001F12_0003B5_000313_000300, 0x001F13_0003B5_000314_000300, 0x001F14_0003B5_000313_000301,
  0x001F15_0003B5_000314_000301, 0x001F18_000395_000313, 0x001F19_000395_000314,
  0x001F1A_000395_000313_000300, 0x001F1B_000395_000314_000300, 0x001F1C_000395_000313_000301,
  0x001F1D_000395_000314_000301, 0x001F20_0003B7_000313, 0x001F21_0003B7_000314,
  0x001F22_0003B7_000313_000300, 0x001F23_0003B7_000314_000300, 0x001F24_0003B7_000313_000301,
  0x001F25_0003B7_000314_000301, 0x001F26_0003B7_000313_000342, 0x001F27_0003B7_000314_000342,
  0x001F28_000397_000313, 0x001F29_000397_000314, 0x001F2A_000397_000313_000300,
  0x001F2B_000397_000314_000300, 0x001F2C_000397_000313_000301, 0x001F2D_000397_000314_000301,
  0x001F2E_000397_000313_000342, 0x001F2F_000397_000314_000342, 0x001F30_0003B9_000313,
  0x001F31_0003B9_000314, 0x001F32_0003B9_000313_000300, 0x001F33_0003B9_000314_000300,
  0x001F34_0003B9_000313_000301, 0x001F35_0003B9_000314_000301, 0x001F36_0003B9_000313_000342,
  0x001F37_0003B9_000314_000342, 0x001F38_000399_000313, 0x001F39_000399_000314,
  0x001F3A_000399_000313_000300, 0x001F3B_000399_000314_000300, 0x001F3C_000399_000313_000301,
  0x001F3D_000399_000314_000301, 0x001F3E_000399_000313_000342, 0x001F3F_000399_000314_000342,
  0x001F40_0003BF_000313, 0x001F41_0003BF_000314, 0x001F42_0003BF_000313_000300,
  0x001F43_0003BF_000314_000300, 0x001F44_0003BF_000313_000301, 0x001F45_0003BF_000314_000301,
  0x001F48_00039F_000313, 0x001F49_00039F_000314, 0x001F4A_00039F_000313_000300,
  0x001F4B_00039F_000314_000300, 0x001F4C_00039F_000313_000301, 0x001F4D_00039F_000314_000301,
  0x001F50_0003C5_000313, 0x001F51_0003C5_000314, 0x001F52_0003C5_000313_000300,
  0x001F53_0003C5_000314_000300, 0x001F54_0003C5_000313_000301, 0x001F55_0003C5_000314_000301,
  0x001F56_0003C5_000313_000342, 0x001F57_0003C5_000314_000342, 0x001F59_0003A5_000314,
  0x001F5B_0003A5_000314_000300, 0x001F5D_0003A5_000314_000301, 0x001F5F_0003A5_000314_000342,
  0x001F60_0003C9_000313, 0x001F61_0003C9_000314, 0x001F62_0003C9_000313_000300,
  0x001F63_0003C9_000314_000300, 0x001F64_0003C9_000313_000301, 0x001F65_0003C9_000314_000301,
  0x001F66_0003C9_000313_000342, 0x001F67_0003C9_000314_000342, 0x001F68_0003A9_000313,
  0x001F69_0003A9_000314, 0x001F6A_0003A9_000313_000300, 0x001F6B_0003A9_000314_000300,
  0x001F6C_0003A9_000313_000301, 0x001F6D_0003A9_000314_000301, 0x001F6E_0003A9_000313_000342,
  0x001F6F_0003A9_000314_000342, 0x001F70_0003B1_000300, 0x001F71_0003B1_000301, 0x001F72_0003B5_000300,
  0x001F73_0003B5_000301, 0x001F74_0003B7_000300, 0x001F75_0003B7_000301, 0x001F76_0003B9_000300,
  0x001F77_0003B9_000301, 0x001F78_0003BF_000300, 0x001F79_0003BF_000301, 0x001F7A_0003C5_000300,
  0x001F7B_0003C5_000301, 0x001F7C_0003C9_000300, 0x001F7D_0003C9_000301, 0x001F80_0003B1_000313_000345,
  0x001F81_0003B1_000314_000345, 0x001F82_0003B1_000313_000300_000345,
  0x001F83_0003B1_000314_000300_000345, 0x001F84_0003B1_000313_000301_000345,
  0x001F85_0003B1_000314_000301_000345, 0x001F86_0003B1_000313_000342_000345,
  0x001F87_0003B1_000314_000342_000345, 0x001F88_000391_000313_000345, 0x001F89_000391_000314_000345,
  0x001F8A_000391_000313_000300_000345, 0x001F8B_000391_000314_000300_000345,
  0x001F8C_000391_000313_000301_000345, 0x001F8D_000391_000314_000301_000345,
  0x001F8E_000391_000313_000342_000345, 0x001F8F_000391_000314_000342_000345,
  0x001F90_0003B7_000313_000345, 0x001F91_0003B7_000314_000345, 0x001F92_0003B7_000313_000300_000345,
  0x001F93_0003B7_000314_000300_000345, 0x001F94_0003B7_000313_000301_000345,
  0x001F95_0003B7_000314_000301_000345, 0x001F96_0003B7_000313_000342_000345,
  0x001F97_0003B7_000314_000342_000345, 0x001F98_000397_000313_000345, 0x001F99_000397_000314_000345,
  0x001F9A_000397_000313_000300_000345, 0x001F9B_000397_000314_000300_000345,
  0x001F9C_000397_000313_000301_000345, 0x001F9D_000397_000314_000301_000345,
  0x001F9E_000397_000313_000342_000345, 0x001F9F_000397_000314_000342_000345,
  0x001FA0_0003C9_000313_000345, 0x001FA1_0003C9_000314_000345, 0x001FA2_0003C9_000313_000300_000345,
  0x001FA3_0003C9_000314_000300_000345, 0x001FA4_0003C9_000313_000301_000345,
  0x001FA5_0003C9_000314_000301_000345, 0x001FA6_0003C9_000313_000342_000345,
  0x001FA7_0003C9_000314_000342_000345, 0x001FA8_0003A9_000313_000345, 0x001FA9_0003A9_000314_000345,
  0x001FAA_0003A9_000313_000300_000345, 0x001FAB_0003A9_000314_000300_000345,
  0x001FAC_0003A9_000313_000301_000345, 0x001FAD_0003A9_000314_000301_000345,
  0x001FAE_0003A9_000313_000342_000345, 0x001FAF_0003A9_000314_000342_000345, 0x001FB0_0003B1_000306,
  0x001FB1_0003B1_000304, 0x001FB2_0003B1_000300_000345, 0x001FB3_0003B1_000345,
  0x001FB4_0003B1_000301_000345, 0x001FB6_0003B1_000342, 0x001FB7_0003B1_000342_000345,
  0x001FB8_000391_000306, 0x001FB9_000391_000304, 0x001FBA_000391_000300, 0x001FBB_000391_000301,
  0x001FBC_000391_000345, 0x001FBD_000020_000313, 0x001FBE_0003B9, 0x001FBF_000020_000313,
  0x001FC0_000020_000342, 0x001FC1_000020_000308_000342, 0x001FC2_0003B7_000300_000345,
  0x001FC3_0003B7_000345, 0x001FC4_0003B7_000301_000345, 0x001FC6_0003B7_000342,
  0x001FC7_0003B7_000342_000345, 0x001FC8_000395_000300, 0x001FC9_000395_000301, 0x001FCA_000397_000300,
  0x001FCB_000397_000301, 0x001FCC_000397_000345, 0x001FCD_000020_000313_000300,
  0x001FCE_000020_000313_000301, 0x001FCF_000020_000313_000342, 0x001FD0_0003B9_000306,
  0x001FD1_0003B9_000304, 0x001FD2_0003B9_000308_000300, 0x001FD3_0003B9_000308_000301,
  0x001FD6_0003B9_000342, 0x001FD7_0003B9_000308_000342, 0x001FD8_000399_000306, 0x001FD9_000399_000304,
  0x001FDA_000399_000300, 0x001FDB_000399_000301, 0x001FDD_000020_000314_000300,
  0x001FDE_000020_000314_000301, 0x001FDF_000020_000314_000342, 0x001FE0_0003C5_000306,
  0x001FE1_0003C5_000304, 0x001FE2_0003C5_000308_000300, 0x001FE3_0003C5_000308_000301,
  0x001FE4_0003C1_000313, 0x001FE5_0003C1_000314, 0x001FE6_0003C5_000342, 0x001FE7_0003C5_000308_000342,
  0x001FE8_0003A5_000306, 0x001FE9_0003A5_000304, 0x001FEA_0003A5_000300, 0x001FEB_0003A5_000301,
  0x001FEC_0003A1_000314, 0x001FED_000020_000308_000300, 0x001FEE_000020_000308_000301, 0x001FEF_000060,
  0x001FF2_0003C9_000300_000345, 0x001FF3_0003C9_000345, 0x001FF4_0003C9_000301_000345,
  0x001FF6_0003C9_000342, 0x001FF7_0003C9_000342_000345, 0x001FF8_00039F_000300, 0x001FF9_00039F_000301,
  0x001FFA_0003A9_000300, 0x001FFB_0003A9_000301, 0x001FFC_0003A9_000345, 0x001FFD_000020_000301,
  0x001FFE_000020_000314]

end ChatModeration.Text.Decomposition
