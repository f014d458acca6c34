/-!
# Canonical pairs

Each row is a pair of characters that compose and the character they compose into, in groups of six hexadecimal
digits.  Rows are in ascending order of the pair.
-/

namespace ChatModeration.Text

/-- Pairs whose first character is in ASCII. -/
def asciiPairs : List Nat := [
  0x00003C_000338_00226E, 0x00003D_000338_002260, 0x00003E_000338_00226F, 0x000041_000300_0000C0,
  0x000041_000301_0000C1, 0x000041_000302_0000C2, 0x000041_000303_0000C3, 0x000041_000304_000100,
  0x000041_000306_000102, 0x000041_000307_000226, 0x000041_000308_0000C4, 0x000041_000309_001EA2,
  0x000041_00030A_0000C5, 0x000041_00030C_0001CD, 0x000041_00030F_000200, 0x000041_000311_000202,
  0x000041_000323_001EA0, 0x000041_000325_001E00, 0x000041_000328_000104, 0x000042_000307_001E02,
  0x000042_000323_001E04, 0x000042_000331_001E06, 0x000043_000301_000106, 0x000043_000302_000108,
  0x000043_000307_00010A, 0x000043_00030C_00010C, 0x000043_000327_0000C7, 0x000044_000307_001E0A,
  0x000044_00030C_00010E, 0x000044_000323_001E0C, 0x000044_000327_001E10, 0x000044_00032D_001E12,
  0x000044_000331_001E0E, 0x000045_000300_0000C8, 0x000045_000301_0000C9, 0x000045_000302_0000CA,
  0x000045_000303_001EBC, 0x000045_000304_000112, 0x000045_000306_000114, 0x000045_000307_000116,
  0x000045_000308_0000CB, 0x000045_000309_001EBA, 0x000045_00030C_00011A, 0x000045_00030F_000204,
  0x000045_000311_000206, 0x000045_000323_001EB8, 0x000045_000327_000228, 0x000045_000328_000118,
  0x000045_00032D_001E18, 0x000045_000330_001E1A, 0x000046_000307_001E1E, 0x000047_000301_0001F4,
  0x000047_000302_00011C, 0x000047_000304_001E20, 0x000047_000306_00011E, 0x000047_000307_000120,
  0x000047_00030C_0001E6, 0x000047_000327_000122, 0x000048_000302_000124, 0x000048_000307_001E22,
  0x000048_000308_001E26, 0x000048_00030C_00021E, 0x000048_000323_001E24, 0x000048_000327_001E28,
  0x000048_00032E_001E2A, 0x000049_000300_0000CC, 0x000049_000301_0000CD, 0x000049_000302_0000CE,
  0x000049_000303_000128, 0x000049_000304_00012A, 0x000049_000306_00012C, 0x000049_000307_000130,
  0x000049_000308_0000CF, 0x000049_000309_001EC8, 0x000049_00030C_0001CF, 0x000049_00030F_000208,
  0x000049_000311_00020A, 0x000049_000323_001ECA, 0x000049_000328_00012E, 0x000049_000330_001E2C,
  0x00004A_000302_000134, 0x00004B_000301_001E30, 0x00004B_00030C_0001E8, 0x00004B_000323_001E32,
  0x00004B_000327_000136, 0x00004B_000331_001E34, 0x00004C_000301_000139, 0x00004C_00030C_00013D,
  0x00004C_000323_001E36, 0x00004C_000327_00013B, 0x00004C_00032D_001E3C, 0x00004C_000331_001E3A,
  0x00004D_000301_001E3E, 0x00004D_000307_001E40, 0x00004D_000323_001E42, 0x00004E_000300_0001F8,
  0x00004E_000301_000143, 0x00004E_000303_0000D1, 0x00004E_000307_001E44, 0x00004E_00030C_000147,
  0x00004E_000323_001E46, 0x00004E_000327_000145, 0x00004E_00032D_001E4A, 0x00004E_000331_001E48,
  0x00004F_000300_0000D2, 0x00004F_000301_0000D3, 0x00004F_000302_0000D4, 0x00004F_000303_0000D5,
  0x00004F_000304_00014C, 0x00004F_000306_00014E, 0x00004F_000307_00022E, 0x00004F_000308_0000D6,
  0x00004F_000309_001ECE, 0x00004F_00030B_000150, 0x00004F_00030C_0001D1, 0x00004F_00030F_00020C,
  0x00004F_000311_00020E, 0x00004F_00031B_0001A0, 0x00004F_000323_001ECC, 0x00004F_000328_0001EA,
  0x000050_000301_001E54, 0x000050_000307_001E56, 0x000052_000301_000154, 0x000052_000307_001E58,
  0x000052_00030C_000158, 0x000052_00030F_000210, 0x000052_000311_000212, 0x000052_000323_001E5A,
  0x000052_000327_000156, 0x000052_000331_001E5E, 0x000053_000301_00015A, 0x000053_000302_00015C,
  0x000053_000307_001E60, 0x000053_00030C_000160, 0x000053_000323_001E62, 0x000053_000326_000218,
  0x000053_000327_00015E, 0x000054_000307_001E6A, 0x000054_00030C_000164, 0x000054_000323_001E6C,
  0x000054_000326_00021A, 0x000054_000327_000162, 0x000054_00032D_001E70, 0x000054_000331_001E6E,
  0x000055_000300_0000D9, 0x000055_000301_0000DA, 0x000055_000302_0000DB, 0x000055_000303_000168,
  0x000055_000304_00016A, 0x000055_000306_00016C, 0x000055_000308_0000DC, 0x000055_000309_001EE6,
  0x000055_00030A_00016E, 0x000055_00030B_000170, 0x000055_00030C_0001D3, 0x000055_00030F_000214,
  0x000055_000311_000216, 0x000055_00031B_0001AF, 0x000055_000323_001EE4, 0x000055_000324_001E72,
  0x000055_000328_000172, 0x000055_00032D_001E76, 0x000055_000330_001E74, 0x000056_000303_001E7C,
  0x000056_000323_001E7E, 0x000057_000300_001E80, 0x000057_000301_001E82, 0x000057_000302_000174,
  0x000057_000307_001E86, 0x000057_000308_001E84, 0x000057_000323_001E88, 0x000058_000307_001E8A,
  0x000058_000308_001E8C, 0x000059_000300_001EF2, 0x000059_000301_0000DD, 0x000059_000302_000176,
  0x000059_000303_001EF8, 0x000059_000304_000232, 0x000059_000307_001E8E, 0x000059_000308_000178,
  0x000059_000309_001EF6, 0x000059_000323_001EF4, 0x00005A_000301_000179, 0x00005A_000302_001E90,
  0x00005A_000307_00017B, 0x00005A_00030C_00017D, 0x00005A_000323_001E92, 0x00005A_000331_001E94,
  0x000061_000300_0000E0, 0x000061_000301_0000E1, 0x000061_000302_0000E2, 0x000061_000303_0000E3,
  0x000061_000304_000101, 0x000061_000306_000103, 0x000061_000307_000227, 0x000061_000308_0000E4,
  0x000061_000309_001EA3, 0x000061_00030A_0000E5, 0x000061_00030C_0001CE, 0x000061_00030F_000201,
  0x000061_000311_000203, 0x000061_000323_001EA1, 0x000061_000325_001E01, 0x000061_000328_000105,
  0x000062_000307_001E03, 0x000062_000323_001E05, 0x000062_000331_001E07, 0x000063_000301_000107,
  0x000063_000302_000109, 0x000063_000307_00010B, 0x000063_00030C_00010D, 0x000063_000327_0000E7,
  0x000064_000307_001E0B, 0x000064_00030C_00010F, 0x000064_000323_001E0D, 0x000064_000327_001E11,
  0x000064_00032D_001E13, 0x000064_000331_001E0F, 0x000065_000300_0000E8, 0x000065_000301_0000E9,
  0x000065_000302_0000EA, 0x000065_000303_001EBD, 0x000065_000304_000113, 0x000065_000306_000115,
  0x000065_000307_000117, 0x000065_000308_0000EB, 0x000065_000309_001EBB, 0x000065_00030C_00011B,
  0x000065_00030F_000205, 0x000065_000311_000207, 0x000065_000323_001EB9, 0x000065_000327_000229,
  0x000065_000328_000119, 0x000065_00032D_001E19, 0x000065_000330_001E1B, 0x000066_000307_001E1F,
  0x000067_000301_0001F5, 0x000067_000302_00011D, 0x000067_000304_001E21, 0x000067_000306_00011F,
  0x000067_000307_000121, 0x000067_00030C_0001E7, 0x000067_000327_000123, 0x000068_000302_000125,
  0x000068_000307_001E23, 0x000068_000308_001E27, 0x000068_00030C_00021F, 0x000068_000323_001E25,
  0x000068_000327_001E29, 0x000068_00032E_001E2B, 0x000068_000331_001E96, 0x000069_000300_0000EC,
  0x000069_000301_0000ED, 0x000069_000302_0000EE, 0x000069_000303_000129, 0x000069_000304_00012B,
  0x000069_000306_00012D, 0x000069_000308_0000EF, 0x000069_000309_001EC9, 0x000069_00030C_0001D0,
  0x000069_00030F_000209, 0x000069_000311_00020B, 0x000069_000323_001ECB, 0x000069_000328_00012F,
  0x000069_000330_001E2D, 0x00006A_000302_000135, 0x00006A_00030C_0001F0, 0x00006B_000301_001E31,
  0x00006B_00030C_0001E9, 0x00006B_000323_001E33, 0x00006B_000327_000137, 0x00006B_000331_001E35,
  0x00006C_000301_00013A, 0x00006C_00030C_00013E, 0x00006C_000323_001E37, 0x00006C_000327_00013C,
  0x00006C_00032D_001E3D, 0x00006C_000331_001E3B, 0x00006D_000301_001E3F, 0x00006D_000307_001E41,
  0x00006D_000323_001E43, 0x00006E_000300_0001F9, 0x00006E_000301_000144, 0x00006E_000303_0000F1,
  0x00006E_000307_001E45, 0x00006E_00030C_000148, 0x00006E_000323_001E47, 0x00006E_000327_000146,
  0x00006E_00032D_001E4B, 0x00006E_000331_001E49, 0x00006F_000300_0000F2, 0x00006F_000301_0000F3,
  0x00006F_000302_0000F4, 0x00006F_000303_0000F5, 0x00006F_000304_00014D, 0x00006F_000306_00014F,
  0x00006F_000307_00022F, 0x00006F_000308_0000F6, 0x00006F_000309_001ECF, 0x00006F_00030B_000151,
  0x00006F_00030C_0001D2, 0x00006F_00030F_00020D, 0x00006F_000311_00020F, 0x00006F_00031B_0001A1,
  0x00006F_000323_001ECD, 0x00006F_000328_0001EB, 0x000070_000301_001E55, 0x000070_000307_001E57,
  0x000072_000301_000155, 0x000072_000307_001E59, 0x000072_00030C_000159, 0x000072_00030F_000211,
  0x000072_000311_000213, 0x000072_000323_001E5B, 0x000072_000327_000157, 0x000072_000331_001E5F,
  0x000073_000301_00015B, 0x000073_000302_00015D, 0x000073_000307_001E61, 0x000073_00030C_000161,
  0x000073_000323_001E63, 0x000073_000326_000219, 0x000073_000327_00015F, 0x000074_000307_001E6B,
  0x000074_000308_001E97, 0x000074_00030C_000165, 0x000074_000323_001E6D, 0x000074_000326_00021B,
  0x000074_000327_000163, 0x000074_00032D_001E71, 0x000074_000331_001E6F, 0x000075_000300_0000F9,
  0x000075_000301_0000FA, 0x000075_000302_0000FB, 0x000075_000303_000169, 0x000075_000304_00016B,
  0x000075_000306_00016D, 0x000075_000308_0000FC, 0x000075_000309_001EE7, 0x000075_00030A_00016F,
  0x000075_00030B_000171, 0x000075_00030C_0001D4, 0x000075_00030F_000215, 0x000075_000311_000217,
  0x000075_00031B_0001B0, 0x000075_000323_001EE5, 0x000075_000324_001E73, 0x000075_000328_000173,
  0x000075_00032D_001E77, 0x000075_000330_001E75, 0x000076_000303_001E7D, 0x000076_000323_001E7F,
  0x000077_000300_001E81, 0x000077_000301_001E83, 0x000077_000302_000175, 0x000077_000307_001E87,
  0x000077_000308_001E85, 0x000077_00030A_001E98, 0x000077_000323_001E89, 0x000078_000307_001E8B,
  0x000078_000308_001E8D, 0x000079_000300_001EF3, 0x000079_000301_0000FD, 0x000079_000302_000177,
  0x000079_000303_001EF9, 0x000079_000304_000233, 0x000079_000307_001E8F, 0x000079_000308_0000FF,
  0x000079_000309_001EF7, 0x000079_00030A_001E99, 0x000079_000323_001EF5, 0x00007A_000301_00017A,
  0x00007A_000302_001E91, 0x00007A_000307_00017C, 0x00007A_00030C_00017E, 0x00007A_000323_001E93,
  0x00007A_000331_001E95]

/-- Pairs whose first character is from U+0080 to U+01FF. -/
def latinPairs : List Nat := [
  0x0000A8_000300_001FED, 0x0000A8_000301_000385, 0x0000A8_000342_001FC1, 0x0000C2_000300_001EA6,
  0x0000C2_000301_001EA4, 0x0000C2_000303_001EAA, 0x0000C2_000309_001EA8, 0x0000C4_000304_0001DE,
  0x0000C5_000301_0001FA, 0x0000C6_000301_0001FC, 0x0000C6_000304_0001E2, 0x0000C7_000301_001E08,
  0x0000CA_000300_001EC0, 0x0000CA_000301_001EBE, 0x0000CA_000303_001EC4, 0x0000CA_000309_001EC2,
  0x0000CF_000301_001E2E, 0x0000D4_000300_001ED2, 0x0000D4_000301_001ED0, 0x0000D4_000303_001ED6,
  0x0000D4_000309_001ED4, 0x0000D5_000301_001E4C, 0x0000D5_000304_00022C, 0x0000D5_000308_001E4E,
  0x0000D6_000304_00022A, 0x0000D8_000301_0001FE, 0x0000DC_000300_0001DB, 0x0000DC_000301_0001D7,
  0x0000DC_000304_0001D5, 0x0000DC_00030C_0001D9, 0x0000E2_000300_001EA7, 0x0000E2_000301_001EA5,
  0x0000E2_000303_001EAB, 0x0000E2_000309_001EA9, 0x0000E4_000304_0001DF, 0x0000E5_000301_0001FB,
  0x0000E6_000301_0001FD, 0x0000E6_000304_0001E3, 0x0000E7_000301_001E09, 0x0000EA_000300_001EC1,
  0x0000EA_000301_001EBF, 0x0000EA_000303_001EC5, 0x0000EA_000309_001EC3, 0x0000EF_000301_001E2F,
  0x0000F4_000300_001ED3, 0x0000F4_000301_001ED1, 0x0000F4_000303_001ED7, 0x0000F4_000309_001ED5,
  0x0000F5_000301_001E4D, 0x0000F5_000304_00022D, 0x0000F5_000308_001E4F, 0x0000F6_000304_00022B,
  0x0000F8_000301_0001FF, 0x0000FC_000300_0001DC, 0x0000FC_000301_0001D8, 0x0000FC_000304_0001D6,
  0x0000FC_00030C_0001DA, 0x000102_000300_001EB0, 0x000102_000301_001EAE, 0x000102_000303_001EB4,
  0x000102_000309_001EB2, 0x000103_000300_001EB1, 0x000103_000301_001EAF, 0x000103_000303_001EB5,
  0x000103_000309_001EB3, 0x000112_000300_001E14, 0x000112_000301_001E16, 0x000113_000300_001E15,
  0x000113_000301_001E17, 0x00014C_000300_001E50, 0x00014C_000301_001E52, 0x00014D_000300_001E51,
  0x00014D_000301_001E53, 0x00015A_000307_001E64, 0x00015B_000307_001E65, 0x000160_000307_001E66,
  0x000161_000307_001E67, 0x000168_000301_001E78, 0x000169_000301_001E79, 0x00016A_000308_001E7A,
  0x00016B_000308_001E7B, 0x00017F_000307_001E9B, 0x0001A0_000300_001EDC, 0x0001A0_000301_001EDA,
  0x0001A0_000303_001EE0, 0x0001A0_000309_001EDE, 0x0001A0_000323_001EE2, 0x0001A1_000300_001EDD,
  0x0001A1_000301_001EDB, 0x0001A1_000303_001EE1, 0x0001A1_000309_001EDF, 0x0001A1_000323_001EE3,
  0x0001AF_000300_001EEA, 0x0001AF_000301_001EE8, 0x0001AF_000303_001EEE, 0x0001AF_000309_001EEC,
  0x0001AF_000323_001EF0, 0x0001B0_000300_001EEB, 0x0001B0_000301_001EE9, 0x0001B0_000303_001EEF,
  0x0001B0_000309_001EED, 0x0001B0_000323_001EF1, 0x0001B7_00030C_0001EE, 0x0001EA_000304_0001EC,
  0x0001EB_000304_0001ED]

/-- Pairs whose first character is from U+0200 to U+0FFF. -/
def greekPairs : List Nat := [
  0x000226_000304_0001E0, 0x000227_000304_0001E1, 0x000228_000306_001E1C, 0x000229_000306_001E1D,
  0x00022E_000304_000230, 0x00022F_000304_000231, 0x000292_00030C_0001EF, 0x000391_000300_001FBA,
  0x000391_000301_000386, 0x000391_000304_001FB9, 0x000391_000306_001FB8, 0x000391_000313_001F08,
  0x000391_000314_001F09, 0x000391_000345_001FBC, 0x000395_000300_001FC8, 0x000395_000301_000388,
  0x000395_000313_001F18, 0x000395_000314_001F19, 0x000397_000300_001FCA, 0x000397_000301_000389,
  0x000397_000313_001F28, 0x000397_000314_001F29, 0x000397_000345_001FCC, 0x000399_000300_001FDA,
  0x000399_000301_00038A, 0x000399_000304_001FD9, 0x000399_000306_001FD8, 0x000399_000308_0003AA,
  0x000399_000313_001F38, 0x000399_000314_001F39, 0x00039F_000300_001FF8, 0x00039F_000301_00038C,
  0x00039F_000313_001F48, 0x00039F_000314_001F49, 0x0003A1_000314_001FEC, 0x0003A5_000300_001FEA,
  0x0003A5_000301_00038E, 0x0003A5_000304_001FE9, 0x0003A5_000306_001FE8, 0x0003A5_000308_0003AB,
  0x0003A5_000314_001F59, 0x0003A9_000300_001FFA, 0x0003A9_000301_00038F, 0x0003A9_000313_001F68,
  0x0003A9_000314_001F69, 0x0003A9_000345_001FFC, 0x0003AC_000345_001FB4, 0x0003AE_000345_001FC4,
  0x0003B1_000300_001F70, 0x0003B1_000301_0003AC, 0x0003B1_000304_001FB1, 0x0003B1_000306_001FB0,
  0x0003B1_000313_001F00, 0x0003B1_000314_001F01, 0x0003B1_000342_001FB6, 0x0003B1_000345_001FB3,
  0x0003B5_000300_001F72, 0x0003B5_000301_0003AD, 0x0003B5_000313_001F10, 0x0003B5_000314_001F11,
  0x0003B7_000300_001F74, 0x0003B7_000301_0003AE, 0x0003B7_000313_001F20, 0x0003B7_000314_001F21,
  0x0003B7_000342_001FC6, 0x0003B7_000345_001FC3, 0x0003B9_000300_001F76, 0x0003B9_000301_0003AF,
  0x0003B9_000304_001FD1, 0x0003B9_000306_001FD0, 0x0003B9_000308_0003CA, 0x0003B9_000313_001F30,
  0x0003B9_000314_001F31, 0x0003B9_000342_001FD6, 0x0003BF_000300_001F78, 0x0003BF_000301_0003CC,
  0x0003BF_000313_001F40, 0x0003BF_000314_001F41, 0x0003C1_000313_001FE4, 0x0003C1_000314_001FE5,
  0x0003C5_000300_001F7A, 0x0003C5_000301_0003CD, 0x0003C5_000304_001FE1, 0x0003C5_000306_001FE0,
  0x0003C5_000308_0003CB, 0x0003C5_000313_001F50, 0x0003C5_000314_001F51, 0x0003C5_000342_001FE6,
  0x0003C9_000300_001F7C, 0x0003C9_000301_0003CE, 0x0003C9_000313_001F60, 0x0003C9_000314_001F61,
  0x0003C9_000342_001FF6, 0x0003C9_000345_001FF3, 0x0003CA_000300_001FD2, 0x0003CA_000301_000390,
  0x0003CA_000342_001FD7, 0x0003CB_000300_001FE2, 0x0003CB_000301_0003B0, 0x0003CB_000342_001FE7,
  0x0003CE_000345_001FF4, 0x0003D2_000301_0003D3, 0x0003D2_000308_0003D4, 0x000406_000308_000407,
  0x000410_000306_0004D0, 0x000410_000308_0004D2, 0x000413_000301_000403, 0x000415_000300_000400,
  0x000415_000306_0004D6, 0x000415_000308_000401, 0x000416_000306_0004C1, 0x000416_000308_0004DC,
  0x000417_000308_0004DE, 0x000418_000300_00040D, 0x000418_000304_0004E2, 0x000418_000306_000419,
  0x000418_000308_0004E4, 0x00041A_000301_00040C, 0x00041E_000308_0004E6, 0x000423_000304_0004EE,
  0x000423_000306_00040E, 0x000423_000308_0004F0, 0x000423_00030B_0004F2, 0x000427_000308_0004F4,
  0x00042B_000308_0004F8, 0x00042D_000308_0004EC, 0x000430_000306_0004D1, 0x000430_000308_0004D3,
  0x000433_000301_000453, 0x000435_000300_000450, 0x000435_000306_0004D7, 0x000435_000308_000451,
  0x000436_000306_0004C2, 0x000436_000308_0004DD, 0x000437_000308_0004DF, 0x000438_000300_00045D,
  0x000438_000304_0004E3, 0x000438_000306_000439, 0x000438_000308_0004E5, 0x00043A_000301_00045C,
  0x00043E_000308_0004E7, 0x000443_000304_0004EF, 0x000443_000306_00045E, 0x000443_000308_0004F1,
  0x000443_00030B_0004F3, 0x000447_000308_0004F5, 0x00044B_000308_0004F9, 0x00044D_000308_0004ED,
  0x000456_000308_000457, 0x000474_00030F_000476, 0x000475_00030F_000477, 0x0004D8_000308_0004DA,
  0x0004D9_000308_0004DB, 0x0004E8_000308_0004EA, 0x0004E9_000308_0004EB, 0x000627_000653_000622,
  0x000627_000654_000623, 0x000627_000655_000625, 0x000648_000654_000624, 0x00064A_000654_000626,
  0x0006C1_000654_0006C2, 0x0006D2_000654_0006D3, 0x0006D5_000654_0006C0, 0x000928_00093C_000929,
  0x000930_00093C_000931, 0x000933_00093C_000934, 0x0009C7_0009BE_0009CB, 0x0009C7_0009D7_0009CC,
  0x000B47_000B3E_000B4B, 0x000B47_000B56_000B48, 0x000B47_000B57_000B4C, 0x000B92_000BD7_000B94,
  0x000BC6_000BBE_000BCA, 0x000BC6_000BD7_000BCC, 0x000BC7_000BBE_000BCB, 0x000C46_000C56_000C48,
  0x000CBF_000CD5_000CC0, 0x000CC6_000CC2_000CCA, 0x000CC6_000CD5_000CC7, 0x000CC6_000CD6_000CC8,
  0x000CCA_000CD5_000CCB, 0x000D46_000D3E_000D4A, 0x000D46_000D57_000D4C, 0x000D47_000D3E_000D4B,
  0x000DD9_000DCA_000DDA, 0x000DD9_000DCF_000DDC, 0x000DD9_000DDF_000DDE, 0x000DDC_000DCA_000DDD]

/-- Pairs whose first character is above U+0FFF. -/
def furtherPairs : List Nat := [
  0x001025_00102E_001026, 0x001B05_001B35_001B06, 0x001B07_001B35_001B08, 0x001B09_001B35_001B0A,
  0x001B0B_001B35_001B0C, 0x001B0D_001B35_001B0E, 0x001B11_001B35_001B12, 0x001B3A_001B35_001B3B,
  0x001B3C_001B35_001B3D, 0x001B3E_001B35_001B40, 0x001B3F_001B35_001B41, 0x001B42_001B35_001B43,
  0x001E36_000304_001E38, 0x001E37_000304_001E39, 0x001E5A_000304_001E5C, 0x001E5B_000304_001E5D,
  0x001E62_000307_001E68, 0x001E63_000307_001E69, 0x001EA0_000302_001EAC, 0x001EA0_000306_001EB6,
  0x001EA1_000302_001EAD, 0x001EA1_000306_001EB7, 0x001EB8_000302_001EC6, 0x001EB9_000302_001EC7,
  0x001ECC_000302_001ED8, 0x001ECD_000302_001ED9, 0x001F00_000300_001F02, 0x001F00_000301_001F04,
  0x001F00_000342_001F06, 0x001F00_000345_001F80, 0x001F01_000300_001F03, 0x001F01_000301_001F05,
  0x001F01_000342_001F07, 0x001F01_000345_001F81, 0x001F02_000345_001F82, 0x001F03_000345_001F83,
  0x001F04_000345_001F84, 0x001F05_000345_001F85, 0x001F06_000345_001F86, 0x001F07_000345_001F87,
  0x001F08_000300_001F0A, 0x001F08_000301_001F0C, 0x001F08_000342_001F0E, 0x001F08_000345_001F88,
  0x001F09_000300_001F0B, 0x001F09_000301_001F0D, 0x001F09_000342_001F0F, 0x001F09_000345_001F89,
  0x001F0A_000345_001F8A, 0x001F0B_000345_001F8B, 0x001F0C_000345_001F8C, 0x001F0D_000345_001F8D,
  0x001F0E_000345_001F8E, 0x001F0F_000345_001F8F, 0x001F10_000300_001F12, 0x001F10_000301_001F14,
  0x001F11_000300_001F13, 0x001F11_000301_001F15, 0x001F18_000300_001F1A, 0x001F18_000301_001F1C,
  0x001F19_000300_001F1B, 0x001F19_000301_001F1D, 0x001F20_000300_001F22, 0x001F20_000301_001F24,
  0x001F20_000342_001F26, 0x001F20_000345_001F90, 0x001F21_000300_001F23, 0x001F21_000301_001F25,
  0x001F21_000342_001F27, 0x001F21_000345_001F91, 0x001F22_000345_001F92, 0x001F23_000345_001F93,
  0x001F24_000345_001F94, 0x001F25_000345_001F95, 0x001F26_000345_001F96, 0x001F27_000345_001F97,
  0x001F28_000300_001F2A, 0x001F28_000301_001F2C, 0x001F28_000342_001F2E, 0x001F28_000345_001F98,
  0x001F29_000300_001F2B, 0x001F29_000301_001F2D, 0x001F29_000342_001F2F, 0x001F29_000345_001F99,
  0x001F2A_000345_001F9A, 0x001F2B_000345_001F9B, 0x001F2C_000345_001F9C, 0x001F2D_000345_001F9D,
  0x001F2E_000345_001F9E, 0x001F2F_000345_001F9F, 0x001F30_000300_001F32, 0x001F30_000301_001F34,
  0x001F30_000342_001F36, 0x001F31_000300_001F33, 0x001F31_000301_001F35, 0x001F31_000342_001F37,
  0x001F38_000300_001F3A, 0x001F38_000301_001F3C, 0x001F38_000342_001F3E, 0x001F39_000300_001F3B,
  0x001F39_000301_001F3D, 0x001F39_000342_001F3F, 0x001F40_000300_001F42, 0x001F40_000301_001F44,
  0x001F41_000300_001F43, 0x001F41_000301_001F45, 0x001F48_000300_001F4A, 0x001F48_000301_001F4C,
  0x001F49_000300_001F4B, 0x001F49_000301_001F4D, 0x001F50_000300_001F52, 0x001F50_000301_001F54,
  0x001F50_000342_001F56, 0x001F51_000300_001F53, 0x001F51_000301_001F55, 0x001F51_000342_001F57,
  0x001F59_000300_001F5B, 0x001F59_000301_001F5D, 0x001F59_000342_001F5F, 0x001F60_000300_001F62,
  0x001F60_000301_001F64, 0x001F60_000342_001F66, 0x001F60_000345_001FA0, 0x001F61_000300_001F63,
  0x001F61_000301_001F65, 0x001F61_000342_001F67, 0x001F61_000345_001FA1, 0x001F62_000345_001FA2,
  0x001F63_000345_001FA3, 0x001F64_000345_001FA4, 0x001F65_000345_001FA5, 0x001F66_000345_001FA6,
  0x001F67_000345_001FA7, 0x001F68_000300_001F6A, 0x001F68_000301_001F6C, 0x001F68_000342_001F6E,
  0x001F68_000345_001FA8, 0x001F69_000300_001F6B, 0x001F69_000301_001F6D, 0x001F69_000342_001F6F,
  0x001F69_000345_001FA9, 0x001F6A_000345_001FAA, 0x001F6B_000345_001FAB, 0x001F6C_000345_001FAC,
  0x001F6D_000345_001FAD, 0x001F6E_000345_001FAE, 0x001F6F_000345_001FAF, 0x001F70_000345_001FB2,
  0x001F74_000345_001FC2, 0x001F7C_000345_001FF2, 0x001FB6_000345_001FB7, 0x001FBF_000300_001FCD,
  0x001FBF_000301_001FCE, 0x001FBF_000342_001FCF, 0x001FC6_000345_001FC7, 0x001FF6_000345_001FF7,
  0x001FFE_000300_001FDD, 0x001FFE_000301_001FDE, 0x001FFE_000342_001FDF, 0x002190_000338_00219A,
  0x002192_000338_00219B, 0x002194_000338_0021AE, 0x0021D0_000338_0021CD, 0x0021D2_000338_0021CF,
  0x0021D4_000338_0021CE, 0x002203_000338_002204, 0x002208_000338_002209, 0x00220B_000338_00220C,
  0x002223_000338_002224, 0x002225_000338_002226, 0x00223C_000338_002241, 0x002243_000338_002244,
  0x002245_000338_002247, 0x002248_000338_002249, 0x00224D_000338_00226D, 0x002261_000338_002262,
  0x002264_000338_002270, 0x002265_000338_002271, 0x002272_000338_002274, 0x002273_000338_002275,
  0x002276_000338_002278, 0x002277_000338_002279, 0x00227A_000338_002280, 0x00227B_000338_002281,
  0x00227C_000338_0022E0, 0x00227D_000338_0022E1, 0x002282_000338_002284, 0x002283_000338_002285,
  0x002286_000338_002288, 0x002287_000338_002289, 0x002291_000338_0022E2, 0x002292_000338_0022E3,
  0x0022A2_000338_0022AC, 0x0022A8_000338_0022AD, 0x0022A9_000338_0022AE, 0x0022AB_000338_0022AF,
  0x0022B2_000338_0022EA, 0x0022B3_000338_0022EB, 0x0022B4_000338_0022EC, 0x0022B5_000338_0022ED,
  0x003046_003099_003094, 0x00304B_003099_00304C, 0x00304D_003099_00304E, 0x00304F_003099_003050,
  0x003051_003099_003052, 0x003053_003099_003054, 0x003055_003099_003056, 0x003057_003099_003058,
  0x003059_003099_00305A, 0x00305B_003099_00305C, 0x00305D_003099_00305E, 0x00305F_003099_003060,
  0x003061_003099_003062, 0x003064_003099_003065, 0x003066_003099_003067, 0x003068_003099_003069,
  0x00306F_003099_003070, 0x00306F_00309A_003071, 0x003072_003099_003073, 0x003072_00309A_003074,
  0x003075_003099_003076, 0x003075_00309A_003077, 0x003078_003099_003079, 0x003078_00309A_00307A,
  0x00307B_003099_00307C, 0x00307B_00309A_00307D, 0x00309D_003099_00309E, 0x0030A6_003099_0030F4,
  0x0030AB_003099_0030AC, 0x0030AD_003099_0030AE, 0x0030AF_003099_0030B0, 0x0030B1_003099_0030B2,
  0x0030B3_003099_0030B4, 0x0030B5_003099_0030B6, 0x0030B7_003099_0030B8, 0x0030B9_003099_0030BA,
  0x0030BB_003099_0030BC, 0x0030BD_003099_0030BE, 0x0030BF_003099_0030C0, 0x0030C1_003099_0030C2,
  0x0030C4_003099_0030C5, 0x0030C6_003099_0030C7, 0x0030C8_003099_0030C9, 0x0030CF_003099_0030D0,
  0x0030CF_00309A_0030D1, 0x0030D2_003099_0030D3, 0x0030D2_00309A_0030D4, 0x0030D5_003099_0030D6,
  0x0030D5_00309A_0030D7, 0x0030D8_003099_0030D9, 0x0030D8_00309A_0030DA, 0x0030DB_003099_0030DC,
  0x0030DB_00309A_0030DD, 0x0030EF_003099_0030F7, 0x0030F0_003099_0030F8, 0x0030F1_003099_0030F9,
  0x0030F2_003099_0030FA, 0x0030FD_003099_0030FE, 0x0105D2_000307_0105C9, 0x0105DA_000307_0105E4,
  0x011099_0110BA_01109A, 0x01109B_0110BA_01109C, 0x0110A5_0110BA_0110AB, 0x011131_011127_01112E,
  0x011132_011127_01112F, 0x011347_01133E_01134B, 0x011347_011357_01134C, 0x011382_0113C9_011383,
  0x011384_0113BB_011385, 0x01138B_0113C2_01138E, 0x011390_0113C9_011391, 0x0113C2_0113B8_0113C7,
  0x0113C2_0113C2_0113C5, 0x0113C2_0113C9_0113C8, 0x0114B9_0114B0_0114BC, 0x0114B9_0114BA_0114BB,
  0x0114B9_0114BD_0114BE, 0x0115B8_0115AF_0115BA, 0x0115B9_0115AF_0115BB, 0x011935_011930_011938,
  0x01611E_01611E_016121, 0x01611E_01611F_016123, 0x01611E_016120_016125, 0x01611E_016129_016122,
  0x016121_01611F_016126, 0x016121_016120_016128, 0x016122_01611F_016127, 0x016129_01611F_016124,
  0x016D63_016D67_016D69, 0x016D67_016D67_016D68, 0x016D69_016D67_016D6A]

end ChatModeration.Text
