/-!
# Decompositions of supplementary compatibility ideographs

Each row is one character and its full compatibility decomposition, in groups of six hexadecimal digits.  Rows are in
ascending order.
-/

namespace ChatModeration.Text.Decomposition

/-- Decompositions of supplementary compatibility ideographs, U+2F800 to U+2F90F. -/
def firstRows : List Nat := [
  0x02F800_004E3D, 0x02F801_004E38, 0x02F802_004E41, 0x02F803_020122, 0x02F804_004F60, 0x02F805_004FAE,
  0x02F806_004FBB, 0x02F807_005002, 0x02F808_00507A, 0x02F809_005099, 0x02F80A_0050E7, 0x02F80B_0050CF,
  0x02F80C_00349E, 0x02F80D_02063A, 0x02F80E_00514D, 0x02F80F_005154, 0x02F810_005164, 0x02F811_005177,
  0x02F812_02051C, 0x02F813_0034B9, 0x02F814_005167, 0x02F815_00518D, 0x02F816_02054B, 0x02F817_005197,
  0x02F818_0051A4, 0x02F819_004ECC, 0x02F81A_0051AC, 0x02F81B_0051B5, 0x02F81C_0291DF, 0x02F81D_0051F5,
  0x02F81E_005203, 0x02F81F_0034DF, 0x02F820_00523B, 0x02F821_005246, 0x02F822_005272, 0x02F823_005277,
  0x02F824_003515, 0x02F825_0052C7, 0x02F826_0052C9, 0x02F827_0052E4, 0x02F828_0052FA, 0x02F82B_005317,
  0x02F82C_005349, 0x02F82D_005351, 0x02F82E_00535A, 0x02F82F_005373, 0x02F830_00537D, 0x02F831_00537F,
  0x02F832_00537F, 0x02F833_00537F, 0x02F834_020A2C, 0x02F835_007070, 0x02F836_0053CA, 0x02F837_0053DF,
  0x02F838_020B63, 0x02F839_0053EB, 0x02F83A_0053F1, 0x02F83B_005406, 0x02F83C_00549E, 0x02F83D_005438,
  0x02F83E_005448, 0x02F83F_005468, 0x02F840_0054A2, 0x02F841_0054F6, 0x02F842_005510, 0x02F843_005553,
  0x02F844_005563, 0x02F845_005584, 0x02F846_005584, 0x02F847_005599, 0x02F848_0055AB, 0x02F849_0055B3,
  0x02F84A_0055C2, 0x02F84B_005716, 0x02F84C_005606, 0x02F84D_005717, 0x02F84E_005651, 0x02F84F_005674,
  0x02F850_005207, 0x02F851_0058EE, 0x02F852_0057CE, 0x02F853_0057F4, 0x02F854_00580D, 0x02F855_00578B,
  0x02F856_005832, 0x02F857_005831, 0x02F858_0058AC, 0x02F859_0214E4, 0x02F85A_0058F2, 0x02F85B_0058F7,
  0x02F85C_005906, 0x02F85D_00591A, 0x02F85E_005922, 0x02F85F_005962, 0x02F860_0216A8, 0x02F861_0216EA,
  0x02F862_0059EC, 0x02F863_005A1B, 0x02F864_005A27, 0x02F865_0059D8, 0x02F866_005A66, 0x02F867_0036EE,
  0x02F868_0036FC, 0x02F869_005B08, 0x02F86A_005B3E, 0x02F86B_005B3E, 0x02F86C_0219C8, 0x02F86D_005BC3,
  0x02F86E_005BD8, 0x02F86F_005BE7, 0x02F870_005BF3, 0x02F871_021B18, 0x02F872_005BFF, 0x02F873_005C06,
  0x02F874_005F53, 0x02F875_005C22, 0x02F876_003781, 0x02F877_005C60, 0x02F878_005C6E, 0x02F879_005CC0,
  0x02F87A_005C8D, 0x02F87B_021DE4, 0x02F87C_005D43, 0x02F87D_021DE6, 0x02F87E_005D6E, 0x02F87F_005D6B,
  0x02F880_005D7C, 0x02F883_00382F, 0x02F884_005DFD, 0x02F885_005E28, 0x02F886_005E3D, 0x02F887_005E69,
  0x02F888_003862, 0x02F889_022183, 0x02F88A_00387C, 0x02F88B_005EB0, 0x02F88C_005EB3, 0x02F88D_005EB6,
  0x02F88E_005ECA, 0x02F88F_02A392, 0x02F890_005EFE, 0x02F891_022331, 0x02F892_022331, 0x02F893_008201,
  0x02F894_005F22, 0x02F895_005F22, 0x02F896_0038C7, 0x02F897_0232B8, 0x02F898_0261DA, 0x02F899_005F62,
  0x02F89A_005F6B, 0x02F89B_0038E3, 0x02F89C_005F9A, 0x02F89D_005FCD, 0x02F89E_005FD7, 0x02F89F_005FF9,
  0x02F8A0_006081, 0x02F8A1_00393A, 0x02F8A2_00391C, 0x02F8A3_006094, 0x02F8A4_0226D4, 0x02F8A5_0060C7,
  0x02F8A6_006148, 0x02F8A7_00614C, 0x02F8A8_00614E, 0x02F8A9_00614C, 0x02F8AA_00617A, 0x02F8AB_00618E,
  0x02F8AC_0061B2, 0x02F8AD_0061A4, 0x02F8AE_0061AF, 0x02F8AF_0061DE, 0x02F8B0_0061F2, 0x02F8B1_0061F6,
  0x02F8B2_006210, 0x02F8B3_00621B, 0x02F8B4_00625D, 0x02F8B5_0062B1, 0x02F8B6_0062D4, 0x02F8B7_006350,
  0x02F8B8_022B0C, 0x02F8B9_00633D, 0x02F8BA_0062FC, 0x02F8BB_006368, 0x02F8BC_006383, 0x02F8BD_0063E4,
  0x02F8BE_022BF1, 0x02F8BF_006422, 0x02F8C0_0063C5, 0x02F8C1_0063A9, 0x02F8C2_003A2E, 0x02F8C3_006469,
  0x02F8C4_00647E, 0x02F8C5_00649D, 0x02F8C6_006477, 0x02F8C7_003A6C, 0x02F8C8_00654F, 0x02F8C9_00656C,
  0x02F8CA_02300A, 0x02F8CB_0065E3, 0x02F8CC_0066F8, 0x02F8CD_006649, 0x02F8CE_003B19, 0x02F8CF_006691,
  0x02F8D0_003B08, 0x02F8D1_003AE4, 0x02F8D2_005192, 0x02F8D3_005195, 0x02F8D4_006700, 0x02F8D5_00669C,
  0x02F8D6_0080AD, 0x02F8D7_0043D9, 0x02F8D8_006717, 0x02F8D9_00671B, 0x02F8DA_006721, 0x02F8DB_00675E,
  0x02F8DC_006753, 0x02F8DD_0233C3, 0x02F8DE_003B49, 0x02F8DF_0067FA, 0x02F8E0_006785, 0x02F8E1_006852,
  0x02F8E2_006885, 0x02F8E3_02346D, 0x02F8E4_00688E, 0x02F8E5_00681F, 0x02F8E6_006914, 0x02F8E7_003B9D,
  0x02F8E8_006942, 0x02F8E9_0069A3, 0x02F8EA_0069EA, 0x02F8EB_006AA8, 0x02F8EC_0236A3, 0x02F8ED_006ADB,
  0x02F8EE_003C18, 0x02F8EF_006B21, 0x02F8F0_0238A7, 0x02F8F1_006B54, 0x02F8F2_003C4E, 0x02F8F3_006B72,
  0x02F8F4_006B9F, 0x02F8F7_023A8D, 0x02F8F8_021D0B, 0x02F8F9_023AFA, 0x02F8FA_006C4E, 0x02F8FB_023CBC,
  0x02F8FC_006CBF, 0x02F8FD_006CCD, 0x02F8FE_006C67, 0x02F8FF_006D16, 0x02F900_006D3E, 0x02F901_006D77,
  0x02F902_006D41, 0x02F903_006D69, 0x02F904_006D78, 0x02F905_006D85, 0x02F906_023D1E, 0x02F907_006D34,
  0x02F908_006E2F, 0x02F909_006E6E, 0x02F90A_003D33, 0x02F90B_006ECB, 0x02F90C_006EC7, 0x02F90D_023ED1,
  0x02F90E_006DF9, 0x02F90F_006F6E]

/-- Decompositions of supplementary compatibility ideographs, U+2F910 to U+2FA1F. -/
def secondRows : List Nat := [
  0x02F910_023F5E, 0x02F911_023F8E, 0x02F912_006FC6, 0x02F913_007039, 0x02F914_00701E, 0x02F915_00701B,
  0x02F916_003D96, 0x02F917_00704A, 0x02F918_00707D, 0x02F919_007077, 0x02F91A_0070AD, 0x02F91B_020525,
  0x02F91C_007145, 0x02F91D_024263, 0x02F91E_00719C, 0x02F91F_0243AB, 0x02F920_007228, 0x02F921_007235,
  0x02F922_007250, 0x02F923_024608, 0x02F924_007280, 0x02F925_007295, 0x02F926_024735, 0x02F927_024814,
  0x02F928_00737A, 0x02F929_00738B, 0x02F92A_003EAC, 0x02F92B_0073A5, 0x02F92C_003EB8, 0x02F92D_003EB8,
  0x02F92E_007447, 0x02F92F_00745C, 0x02F930_007471, 0x02F931_007485, 0x02F932_0074CA, 0x02F933_003F1B,
  0x02F934_007524, 0x02F935_024C36, 0x02F936_00753E, 0x02F937_024C92, 0x02F938_007570, 0x02F939_02219F,
  0x02F93A_007610, 0x02F93B_024FA1, 0x02F93C_024FB8, 0x02F93D_025044, 0x02F93E_003FFC, 0x02F93F_004008,
  0x02F940_0076F4, 0x02F941_0250F3, 0x02F942_0250F2, 0x02F943_025119, 0x02F944_025133, 0x02F947_00771F,
  0x02F948_00774A, 0x02F949_004039, 0x02F94A_00778B, 0x02F94B_004046, 0x02F94C_004096, 0x02F94D_02541D,
  0x02F94E_00784E, 0x02F94F_00788C, 0x02F950_0078CC, 0x02F951_0040E3, 0x02F952_025626, 0x02F953_007956,
  0x02F954_02569A, 0x02F955_0256C5, 0x02F956_00798F, 0x02F957_0079EB, 0x02F958_00412F, 0x02F959_007A40,
  0x02F95A_007A4A, 0x02F95B_007A4F, 0x02F95C_02597C, 0x02F95D_025AA7, 0x02F95E_025AA7, 0x02F95F_007AEE,
  0x02F960_004202, 0x02F961_025BAB, 0x02F962_007BC6, 0x02F963_007BC9, 0x02F964_004227, 0x02F965_025C80,
  0x02F966_007CD2, 0x02F967_0042A0, 0x02F968_007CE8, 0x02F969_007CE3, 0x02F96A_007D00, 0x02F96B_025F86,
  0x02F96C_007D63, 0x02F96D_004301, 0x02F96E_007DC7, 0x02F96F_007E02, 0x02F970_007E45, 0x02F971_004334,
  0x02F972_026228, 0x02F973_026247, 0x02F974_004359, 0x02F975_0262D9, 0x02F976_007F7A, 0x02F977_02633E,
  0x02F978_007F95, 0x02F979_007FFA, 0x02F97A_008005, 0x02F97B_0264DA, 0x02F97C_026523, 0x02F97D_008060,
  0x02F97E_0265A8, 0x02F97F_008070, 0x02F980_02335F, 0x02F981_0043D5, 0x02F982_0080B2, 0x02F983_008103,
  0x02F984_00440B, 0x02F985_00813E, 0x02F986_005AB5, 0x02F987_0267A7, 0x02F988_0267B5, 0x02F989_023393,
  0x02F98A_02339C, 0x02F98B_008201, 0x02F98C_008204, 0x02F98D_008F9E, 0x02F98E_00446B, 0x02F98F_008291,
  0x02F990_00828B, 0x02F991_00829D, 0x02F992_0052B3, 0x02F993_0082B1, 0x02F994_0082B3, 0x02F995_0082BD,
  0x02F996_0082E6, 0x02F997_026B3C, 0x02F998_0082E5, 0x02F999_00831D, 0x02F99A_008363, 0x02F99B_0083AD,
  0x02F99C_008323, 0x02F99D_0083BD, 0x02F99E_0083E7, 0x02F99F_008457, 0x02F9A0_008353, 0x02F9A1_0083CA,
  0x02F9A2_0083CC, 0x02F9A3_0083DC, 0x02F9A4_026C36, 0x02F9A5_026D6B, 0x02F9A6_026CD5, 0x02F9A7_00452B,
  0x02F9A8_0084F1, 0x02F9A9_0084F3, 0x02F9AA_008516, 0x02F9AB_0273CA, 0x02F9AC_008564, 0x02F9AD_026F2C,
  0x02F9AE_00455D, 0x02F9AF_004561, 0x02F9B0_026FB1, 0x02F9B1_0270D2, 0x02F9B2_00456B, 0x02F9B3_008650,
  0x02F9B4_00865C, 0x02F9B5_008667, 0x02F9B6_008669, 0x02F9B7_0086A9, 0x02F9B8_008688, 0x02F9B9_00870E,
  0x02F9BA_0086E2, 0x02F9BB_008779, 0x02F9BC_008728, 0x02F9BD_00876B, 0x02F9BE_008786, 0x02F9BF_0045D7,
  0x02F9C0_0087E1, 0x02F9C1_008801, 0x02F9C2_0045F9, 0x02F9C3_008860, 0x02F9C4_008863, 0x02F9C5_027667,
  0x02F9C6_0088D7, 0x02F9C7_0088DE, 0x02F9C8_004635, 0x02F9C9_0088FA, 0x02F9CA_0034BB, 0x02F9CB_0278AE,
  0x02F9CC_027966, 0x02F9CD_0046BE, 0x02F9CE_0046C7, 0x02F9CF_008AA0, 0x02F9D0_008AED, 0x02F9D1_008B8A,
  0x02F9D2_008C55, 0x02F9D3_027CA8, 0x02F9D4_008CAB, 0x02F9D5_008CC1, 0x02F9D6_008D1B, 0x02F9D7_008D77,
  0x02F9D8_027F2F, 0x02F9D9_020804, 0x02F9DA_008DCB, 0x02F9DB_008DBC, 0x02F9DC_008DF0, 0x02F9DD_0208DE,
  0x02F9DE_008ED4, 0x02F9DF_008F38, 0x02F9E0_0285D2, 0x02F9E1_0285ED, 0x02F9E2_009094, 0x02F9E3_0090F1,
  0x02F9E4_009111, 0x02F9E5_02872E, 0x02F9E6_00911B, 0x02F9E7_009238, 0x02F9EA_00927C, 0x02F9EB_0093F9,
  0x02F9EC_009415, 0x02F9ED_028BFA, 0x02F9EE_00958B, 0x02F9EF_004995, 0x02F9F0_0095B7, 0x02F9F1_028D77,
  0x02F9F2_0049E6, 0x02F9F3_0096C3, 0x02F9F4_005DB2, 0x02F9F5_009723, 0x02F9F6_029145, 0x02F9F7_02921A,
  0x02F9F8_004A6E, 0x02F9F9_004A76, 0x02F9FA_0097E0, 0x02F9FB_02940A, 0x02F9FC_004AB2, 0x02F9FD_029496,
  0x02F9FE_00980B, 0x02F9FF_00980B, 0x02FA00_009829, 0x02FA01_0295B6, 0x02FA02_0098E2, 0x02FA03_004B33,
  0x02FA04_009929, 0x02FA05_0099A7, 0x02FA06_0099C2, 0x02FA07_0099FE, 0x02FA08_004BCE, 0x02FA09_029B30,
  0x02FA0A_009B12, 0x02FA0B_009C40, 0x02FA0C_009CFD, 0x02FA0D_004CCE, 0x02FA0E_004CED, 0x02FA0F_009D67,
  0x02FA10_02A0CE, 0x02FA11_004CF8, 0x02FA12_02A105, 0x02FA13_02A20E, 0x02FA14_02A291, 0x02FA15_009EBB,
  0x02FA16_004D56, 0x02FA17_009EF9, 0x02FA18_009EFE, 0x02FA19_009F05, 0x02FA1A_009F0F, 0x02FA1B_009F16,
  0x02FA1C_009F3B, 0x02FA1D_02A600]

end ChatModeration.Text.Decomposition
