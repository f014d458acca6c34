/-!
# Decompositions of compatibility ideographs

Each row is one character and its full compatibility decomposition, in groups of six hexadecimal digits.  Rows are in
ascending order.
-/

namespace ChatModeration.Text.Decomposition

/-- Decompositions of compatibility ideographs, U+F900 to U+FA25. -/
def compatibilityRows : List Nat := [
  0x00F900_008C48, 0x00F901_0066F4, 0x00F902_008ECA, 0x00F903_008CC8, 0x00F904_006ED1, 0x00F905_004E32,
  0x00F906_0053E5, 0x00F907_009F9C, 0x00F908_009F9C, 0x00F909_005951, 0x00F90A_0091D1, 0x00F90B_005587,
  0x00F90C_005948, 0x00F90D_0061F6, 0x00F90E_007669, 0x00F90F_007F85, 0x00F910_00863F, 0x00F911_0087BA,
  0x00F912_0088F8, 0x00F913_00908F, 0x00F914_006A02, 0x00F915_006D1B, 0x00F916_0070D9, 0x00F917_0073DE,
  0x00F918_00843D, 0x00F919_00916A, 0x00F91A_0099F1, 0x00F91B_004E82, 0x00F91C_005375, 0x00F91D_006B04,
  0x00F91E_00721B, 0x00F91F_00862D, 0x00F920_009E1E, 0x00F921_005D50, 0x00F922_006FEB, 0x00F923_0085CD,
  0x00F924_008964, 0x00F925_0062C9, 0x00F926_0081D8, 0x00F927_00881F, 0x00F928_005ECA, 0x00F929_006717,
  0x00F92A_006D6A, 0x00F92B_0072FC, 0x00F92C_0090CE, 0x00F92D_004F86, 0x00F92E_0051B7, 0x00F92F_0052DE,
  0x00F930_0064C4, 0x00F931_006AD3, 0x00F932_007210, 0x00F933_0076E7, 0x00F934_008001, 0x00F935_008606,
  0x00F936_00865C, 0x00F937_008DEF, 0x00F938_009732, 0x00F939_009B6F, 0x00F93A_009DFA, 0x00F93B_00788C,
  0x00F93C_00797F, 0x00F93D_007DA0, 0x00F93E_0083C9, 0x00F93F_009304, 0x00F940_009E7F, 0x00F941_008AD6,
  0x00F942_0058DF, 0x00F943_005F04, 0x00F944_007C60, 0x00F945_00807E, 0x00F946_007262, 0x00F947_0078CA,
  0x00F948_008CC2, 0x00F949_0096F7, 0x00F94A_0058D8, 0x00F94B_005C62, 0x00F94C_006A13, 0x00F94D_006DDA,
  0x00F94E_006F0F, 0x00F94F_007D2F, 0x00F950_007E37, 0x00F951_00964B, 0x00F952_0052D2, 0x00F953_00808B,
  0x00F954_0051DC, 0x00F955_0051CC, 0x00F956_007A1C, 0x00F957_007DBE, 0x00F958_0083F1, 0x00F959_009675,
  0x00F95A_008B80, 0x00F95B_0062CF, 0x00F95C_006A02, 0x00F95D_008AFE, 0x00F95E_004E39, 0x00F95F_005BE7,
  0x00F960_006012, 0x00F961_007387, 0x00F962_007570, 0x00F963_005317, 0x00F964_0078FB, 0x00F965_004FBF,
  0x00F966_005FA9, 0x00F967_004E0D, 0x00F968_006CCC, 0x00F969_006578, 0x00F96A_007D22, 0x00F96B_0053C3,
  0x00F96C_00585E, 0x00F96D_007701, 0x00F96E_008449, 0x00F96F_008AAA, 0x00F970_006BBA, 0x00F971_008FB0,
  0x00F972_006C88, 0x00F973_0062FE, 0x00F974_0082E5, 0x00F975_0063A0, 0x00F976_007565, 0x00F977_004EAE,
  0x00F978_005169, 0x00F979_0051C9, 0x00F97A_006881, 0x00F97B_007CE7, 0x00F97C_00826F, 0x00F97D_008AD2,
  0x00F97E_0091CF, 0x00F97F_0052F5, 0x00F980_005442, 0x00F981_005973, 0x00F982_005EEC, 0x00F983_0065C5,
  0x00F984_006FFE, 0x00F985_00792A, 0x00F986_0095AD, 0x00F987_009A6A, 0x00F988_009E97, 0x00F989_009ECE,
  0x00F98A_00529B, 0x00F98B_0066C6, 0x00F98C_006B77, 0x00F98D_008F62, 0x00F98E_005E74, 0x00F98F_006190,
  0x00F990_006200, 0x00F991_00649A, 0x00F992_006F23, 0x00F993_007149, 0x00F994_007489, 0x00F995_0079CA,
  0x00F996_007DF4, 0x00F997_00806F, 0x00F998_008F26, 0x00F999_0084EE, 0x00F99A_009023, 0x00F99B_00934A,
  0x00F99C_005217, 0x00F99D_0052A3, 0x00F99E_0054BD, 0x00F99F_0070C8, 0x00F9A0_0088C2, 0x00F9A1_008AAA,
  0x00F9A2_005EC9, 0x00F9A3_005FF5, 0x00F9A4_00637B, 0x00F9A5_006BAE, 0x00F9A6_007C3E, 0x00F9A7_007375,
  0x00F9A8_004EE4, 0x00F9A9_0056F9, 0x00F9AA_005BE7, 0x00F9AB_005DBA, 0x00F9AC_00601C, 0x00F9AD_0073B2,
  0x00F9AE_007469, 0x00F9AF_007F9A, 0x00F9B0_008046, 0x00F9B1_009234, 0x00F9B2_0096F6, 0x00F9B3_009748,
  0x00F9B4_009818, 0x00F9B5_004F8B, 0x00F9B6_0079AE, 0x00F9B7_0091B4, 0x00F9B8_0096B8, 0x00F9B9_0060E1,
  0x00F9BA_004E86, 0x00F9BB_0050DA, 0x00F9BC_005BEE, 0x00F9BD_005C3F, 0x00F9BE_006599, 0x00F9BF_006A02,
  0x00F9C0_0071CE, 0x00F9C1_007642, 0x00F9C2_0084FC, 0x00F9C3_00907C, 0x00F9C4_009F8D, 0x00F9C5_006688,
  0x00F9C6_00962E, 0x00F9C7_005289, 0x00F9C8_00677B, 0x00F9C9_0067F3, 0x00F9CA_006D41, 0x00F9CB_006E9C,
  0x00F9CC_007409, 0x00F9CD_007559, 0x00F9CE_00786B, 0x00F9CF_007D10, 0x00F9D0_00985E, 0x00F9D1_00516D,
  0x00F9D2_00622E, 0x00F9D3_009678, 0x00F9D4_00502B, 0x00F9D5_005D19, 0x00F9D6_006DEA, 0x00F9D7_008F2A,
  0x00F9D8_005F8B, 0x00F9D9_006144, 0x00F9DA_006817, 0x00F9DB_007387, 0x00F9DC_009686, 0x00F9DD_005229,
  0x00F9DE_00540F, 0x00F9DF_005C65, 0x00F9E0_006613, 0x00F9E1_00674E, 0x00F9E2_0068A8, 0x00F9E3_006CE5,
  0x00F9E4_007406, 0x00F9E5_0075E2, 0x00F9E6_007F79, 0x00F9E7_0088CF, 0x00F9E8_0088E1, 0x00F9E9_0091CC,
  0x00F9EA_0096E2, 0x00F9EB_00533F, 0x00F9EC_006EBA, 0x00F9ED_00541D, 0x00F9EE_0071D0, 0x00F9EF_007498,
  0x00F9F0_0085FA, 0x00F9F1_0096A3, 0x00F9F2_009C57, 0x00F9F3_009E9F, 0x00F9F4_006797, 0x00F9F5_006DCB,
  0x00F9F6_0081E8, 0x00F9F7_007ACB, 0x00F9F8_007B20, 0x00F9F9_007C92, 0x00F9FA_0072C0, 0x00F9FB_007099,
  0x00F9FC_008B58, 0x00F9FD_004EC0, 0x00F9FE_008336, 0x00F9FF_00523A, 0x00FA00_005207, 0x00FA01_005EA6,
  0x00FA02_0062D3, 0x00FA03_007CD6, 0x00FA04_005B85, 0x00FA05_006D1E, 0x00FA06_0066B4, 0x00FA07_008F3B,
  0x00FA08_00884C, 0x00FA09_00964D, 0x00FA0A_00898B, 0x00FA0B_005ED3, 0x00FA0C_005140, 0x00FA0D_0055C0,
  0x00FA10_00585A, 0x00FA12_006674, 0x00FA15_0051DE, 0x00FA16_00732A, 0x00FA17_0076CA, 0x00FA18_00793C,
  0x00FA19_00795E, 0x00FA1A_007965, 0x00FA1B_00798F, 0x00FA1C_009756, 0x00FA1D_007CBE, 0x00FA1E_007FBD,
  0x00FA20_008612, 0x00FA22_008AF8, 0x00FA25_009038]

/-- Decompositions of compatibility ideographs, U+FA26 to U+FAFF. -/
def furtherRows : List Nat := [
  0x00FA26_0090FD, 0x00FA2A_0098EF, 0x00FA2B_0098FC, 0x00FA2C_009928, 0x00FA2D_009DB4, 0x00FA2E_0090DE,
  0x00FA2F_0096B7, 0x00FA30_004FAE, 0x00FA31_0050E7, 0x00FA32_00514D, 0x00FA33_0052C9, 0x00FA34_0052E4,
  0x00FA35_005351, 0x00FA36_00559D, 0x00FA37_005606, 0x00FA38_005668, 0x00FA39_005840, 0x00FA3A_0058A8,
  0x00FA3B_005C64, 0x00FA3C_005C6E, 0x00FA3D_006094, 0x00FA3E_006168, 0x00FA3F_00618E, 0x00FA40_0061F2,
  0x00FA41_00654F, 0x00FA42_0065E2, 0x00FA43_006691, 0x00FA44_006885, 0x00FA45_006D77, 0x00FA46_006E1A,
  0x00FA47_006F22, 0x00FA48_00716E, 0x00FA49_00722B, 0x00FA4A_007422, 0x00FA4B_007891, 0x00FA4C_00793E,
  0x00FA4D_007949, 0x00FA4E_007948, 0x00FA4F_007950, 0x00FA50_007956, 0x00FA51_00795D, 0x00FA54_007A40,
  0x00FA55_007A81, 0x00FA56_007BC0, 0x00FA57_007DF4, 0x00FA58_007E09, 0x00FA59_007E41, 0x00FA5A_007F72,
  0x00FA5B_008005, 0x00FA5C_0081ED, 0x00FA5D_008279, 0x00FA5E_008279, 0x00FA5F_008457, 0x00FA60_008910,
  0x00FA61_008996, 0x00FA62_008B01, 0x00FA63_008B39, 0x00FA64_008CD3, 0x00FA65_008D08, 0x00FA66_008FB6,
  0x00FA67_009038, 0x00FA68_0096E3, 0x00FA69_0097FF, 0x00FA6A_00983B, 0x00FA6B_006075, 0x00FA6C_0242EE,
  0x00FA6D_008218, 0x00FA70_004E26, 0x00FA71_0051B5, 0x00FA72_005168, 0x00FA73_004F80, 0x00FA74_005145,
  0x00FA75_005180, 0x00FA76_0052C7, 0x00FA77_0052FA, 0x00FA78_00559D, 0x00FA79_005555, 0x00FA7A_005599,
  0x00FA7B_0055E2, 0x00FA7C_00585A, 0x00FA7D_0058B3, 0x00FA7E_005944, 0x00FA7F_005954, 0x00FA80_005A62,
  0x00FA81_005B28, 0x00FA82_005ED2, 0x00FA83_005ED9, 0x00FA84_005F69, 0x00FA85_005FAD, 0x00FA86_0060D8,
  0x00FA87_00614E, 0x00FA88_006108, 0x00FA89_00618E, 0x00FA8A_006160, 0x00FA8B_0061F2, 0x00FA8C_006234,
  0x00FA8D_0063C4, 0x00FA8E_00641C, 0x00FA8F_006452, 0x00FA90_006556, 0x00FA91_006674, 0x00FA92_006717,
  0x00FA93_00671B, 0x00FA94_006756, 0x00FA95_006B79, 0x00FA96_006BBA, 0x00FA97_006D41, 0x00FA98_006EDB,
  0x00FA99_006ECB, 0x00FA9A_006F22, 0x00FA9B_00701E, 0x00FA9C_00716E, 0x00FA9D_0077A7, 0x00FA9E_007235,
  0x00FA9F_0072AF, 0x00FAA0_00732A, 0x00FAA1_007471, 0x00FAA2_007506, 0x00FAA3_00753B, 0x00FAA4_00761D,
  0x00FAA5_00761F, 0x00FAA6_0076CA, 0x00FAA7_0076DB, 0x00FAA8_0076F4, 0x00FAA9_00774A, 0x00FAAA_007740,
  0x00FAAB_0078CC, 0x00FAAC_007AB1, 0x00FAAD_007BC0, 0x00FAAE_007C7B, 0x00FAAF_007D5B, 0x00FAB0_007DF4,
  0x00FAB1_007F3E, 0x00FAB2_008005, 0x00FAB3_008352, 0x00FAB4_0083EF, 0x00FAB5_008779, 0x00FAB6_008941,
  0x00FAB7_008986, 0x00FAB8_008996, 0x00FAB9_008ABF, 0x00FABA_008AF8, 0x00FABB_008ACB, 0x00FABC_008B01,
  0x00FABD_008AFE, 0x00FABE_008AED, 0x00FABF_008B39, 0x00FAC0_008B8A, 0x00FAC1_008D08, 0x00FAC2_008F38,
  0x00FAC3_009072, 0x00FAC4_009199, 0x00FAC5_009276, 0x00FAC6_00967C, 0x00FAC7_0096E3, 0x00FAC8_009756,
  0x00FAC9_0097DB, 0x00FACA_0097FF, 0x00FACB_00980B, 0x00FACC_00983B, 0x00FACD_009B12, 0x00FACE_009F9C,
  0x00FACF_02284A, 0x00FAD0_022844, 0x00FAD1_0233D5, 0x00FAD2_003B9D, 0x00FAD3_004018, 0x00FAD4_004039,
  0x00FAD5_025249, 0x00FAD6_025CD0, 0x00FAD7_027ED3, 0x00FAD8_009F43, 0x00FAD9_009F8E]

end ChatModeration.Text.Decomposition
