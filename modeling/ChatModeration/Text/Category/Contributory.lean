/-!
# Contributory properties

The derived properties `Alphabetic`, `Lowercase`, `Uppercase` and `Grapheme_Extend` are some categories and a short
list of further characters.  Here are those lists, one range a row: the first code point and the last, in groups of six
hexadecimal digits, in ascending order.
-/

namespace ChatModeration.Text.ContributoryTable

/-- Marks and symbols that count as alphabetic though their category is not a letter. -/
def alphabeticRows : List Nat := [
  0x000345_000345, 0x000363_00036F, 0x0005B0_0005BD, 0x0005BF_0005BF, 0x0005C1_0005C2, 0x0005C4_0005C5,
  0x0005C7_0005C7, 0x000610_00061A, 0x00064B_000657, 0x000659_00065F, 0x000670_000670, 0x0006D6_0006DC,
  0x0006E1_0006E4, 0x0006E7_0006E8, 0x0006ED_0006ED, 0x000711_000711, 0x000730_00073F, 0x0007A6_0007B0,
  0x000816_000817, 0x00081B_000823, 0x000825_000827, 0x000829_00082C, 0x000897_000897, 0x0008D4_0008DF,
  0x0008E3_0008E9, 0x0008F0_000903, 0x00093A_00093B, 0x00093E_00094C, 0x00094E_00094F, 0x000955_000957,
  0x000962_000963, 0x000981_000983, 0x0009BE_0009C4, 0x0009C7_0009C8, 0x0009CB_0009CC, 0x0009D7_0009D7,
  0x0009E2_0009E3, 0x000A01_000A03, 0x000A3E_000A42, 0x000A47_000A48, 0x000A4B_000A4C, 0x000A51_000A51,
  0x000A70_000A71, 0x000A75_000A75, 0x000A81_000A83, 0x000ABE_000AC5, 0x000AC7_000AC9, 0x000ACB_000ACC,
  0x000AE2_000AE3, 0x000AFA_000AFC, 0x000B01_000B03, 0x000B3E_000B44, 0x000B47_000B48, 0x000B4B_000B4C,
  0x000B56_000B57, 0x000B62_000B63, 0x000B82_000B82, 0x000BBE_000BC2, 0x000BC6_000BC8, 0x000BCA_000BCC,
  0x000BD7_000BD7, 0x000C00_000C04, 0x000C3E_000C44, 0x000C46_000C48, 0x000C4A_000C4C, 0x000C55_000C56,
  0x000C62_000C63, 0x000C81_000C83, 0x000CBE_000CC4, 0x000CC6_000CC8, 0x000CCA_000CCC, 0x000CD5_000CD6,
  0x000CE2_000CE3, 0x000CF3_000CF3, 0x000D00_000D03, 0x000D3E_000D44, 0x000D46_000D48, 0x000D4A_000D4C,
  0x000D57_000D57, 0x000D62_000D63, 0x000D81_000D83, 0x000DCF_000DD4, 0x000DD6_000DD6, 0x000DD8_000DDF,
  0x000DF2_000DF3, 0x000E31_000E31, 0x000E34_000E3A, 0x000E4D_000E4D, 0x000EB1_000EB1, 0x000EB4_000EB9,
  0x000EBB_000EBC, 0x000ECD_000ECD, 0x000F71_000F83, 0x000F8D_000F97, 0x000F99_000FBC, 0x00102B_001036,
  0x001038_001038, 0x00103B_00103E, 0x001056_001059, 0x00105E_001060, 0x001062_001064, 0x001067_00106D,
  0x001071_001074, 0x001082_00108D, 0x00108F_00108F, 0x00109A_00109D, 0x001712_001713, 0x001732_001733,
  0x001752_001753, 0x001772_001773, 0x0017B6_0017C8, 0x001885_001886, 0x0018A9_0018A9, 0x001920_00192B,
  0x001930_001938, 0x001A17_001A1B, 0x001A55_001A5E, 0x001A61_001A74, 0x001ABF_001AC0, 0x001ACC_001ACE,
  0x001B00_001B04, 0x001B35_001B43, 0x001B80_001B82, 0x001BA1_001BA9, 0x001BAC_001BAD, 0x001BE7_001BF1,
  0x001C24_001C36, 0x001DD3_001DF4, 0x0024B6_0024E9, 0x002DE0_002DFF, 0x00A674_00A67B, 0x00A69E_00A69F,
  0x00A802_00A802, 0x00A80B_00A80B, 0x00A823_00A827, 0x00A880_00A881, 0x00A8B4_00A8C3, 0x00A8C5_00A8C5,
  0x00A8FF_00A8FF, 0x00A926_00A92A, 0x00A947_00A952, 0x00A980_00A983, 0x00A9B4_00A9BF, 0x00A9E5_00A9E5,
  0x00AA29_00AA36, 0x00AA43_00AA43, 0x00AA4C_00AA4D, 0x00AA7B_00AA7D, 0x00AAB0_00AAB0, 0x00AAB2_00AAB4,
  0x00AAB7_00AAB8, 0x00AABE_00AABE, 0x00AAEB_00AAEF, 0x00AAF5_00AAF5, 0x00ABE3_00ABEA, 0x00FB1E_00FB1E,
  0x010376_01037A, 0x010A01_010A03, 0x010A05_010A06, 0x010A0C_010A0F, 0x010D24_010D27, 0x010D69_010D69,
  0x010EAB_010EAC, 0x010EFC_010EFC, 0x011000_011002, 0x011038_011045, 0x011073_011074, 0x011080_011082,
  0x0110B0_0110B8, 0x0110C2_0110C2, 0x011100_011102, 0x011127_011132, 0x011145_011146, 0x011180_011182,
  0x0111B3_0111BF, 0x0111CE_0111CF, 0x01122C_011234, 0x011237_011237, 0x01123E_01123E, 0x011241_011241,
  0x0112DF_0112E8, 0x011300_011303, 0x01133E_011344, 0x011347_011348, 0x01134B_01134C, 0x011357_011357,
  0x011362_011363, 0x0113B8_0113C0, 0x0113C2_0113C2, 0x0113C5_0113C5, 0x0113C7_0113CA, 0x0113CC_0113CD,
  0x011435_011441, 0x011443_011445, 0x0114B0_0114C1, 0x0115AF_0115B5, 0x0115B8_0115BE, 0x0115DC_0115DD,
  0x011630_01163E, 0x011640_011640, 0x0116AB_0116B5, 0x01171D_01172A, 0x01182C_011838, 0x011930_011935,
  0x011937_011938, 0x01193B_01193C, 0x011940_011940, 0x011942_011942, 0x0119D1_0119D7, 0x0119DA_0119DF,
  0x0119E4_0119E4, 0x011A01_011A0A, 0x011A35_011A39, 0x011A3B_011A3E, 0x011A51_011A5B, 0x011A8A_011A97,
  0x011C2F_011C36, 0x011C38_011C3E, 0x011C92_011CA7, 0x011CA9_011CB6, 0x011D31_011D36, 0x011D3A_011D3A,
  0x011D3C_011D3D, 0x011D3F_011D41, 0x011D43_011D43, 0x011D47_011D47, 0x011D8A_011D8E, 0x011D90_011D91,
  0x011D93_011D96, 0x011EF3_011EF6, 0x011F00_011F01, 0x011F03_011F03, 0x011F34_011F3A, 0x011F3E_011F40,
  0x01611E_01612E, 0x016F4F_016F4F, 0x016F51_016F87, 0x016F8F_016F92, 0x016FF0_016FF1, 0x01BC9E_01BC9E,
  0x01E000_01E006, 0x01E008_01E018, 0x01E01B_01E021, 0x01E023_01E024, 0x01E026_01E02A, 0x01E08F_01E08F,
  0x01E947_01E947, 0x01F130_01F149, 0x01F150_01F169, 0x01F170_01F189]

/-- Lowercase characters whose category is not lowercase letter. -/
def lowercaseRows : List Nat := [
  0x0000AA_0000AA, 0x0000BA_0000BA, 0x0002B0_0002B8, 0x0002C0_0002C1, 0x0002E0_0002E4, 0x000345_000345,
  0x00037A_00037A, 0x0010FC_0010FC, 0x001D2C_001D6A, 0x001D78_001D78, 0x001D9B_001DBF, 0x002071_002071,
  0x00207F_00207F, 0x002090_00209C, 0x002170_00217F, 0x0024D0_0024E9, 0x002C7C_002C7D, 0x00A69C_00A69D,
  0x00A770_00A770, 0x00A7F2_00A7F4, 0x00A7F8_00A7F9, 0x00AB5C_00AB5F, 0x00AB69_00AB69, 0x010780_010780,
  0x010783_010785, 0x010787_0107B0, 0x0107B2_0107BA, 0x01E030_01E06D]

/-- Uppercase characters whose category is not uppercase letter. -/
def uppercaseRows : List Nat := [
  0x002160_00216F, 0x0024B6_0024CF, 0x01F130_01F149, 0x01F150_01F169, 0x01F170_01F189]

/-- Characters that extend the one before them though they are no nonspacing or enclosing marks. -/
def graphemeRows : List Nat := [
  0x0009BE_0009BE, 0x0009D7_0009D7, 0x000B3E_000B3E, 0x000B57_000B57, 0x000BBE_000BBE, 0x000BD7_000BD7,
  0x000CC0_000CC0, 0x000CC2_000CC2, 0x000CC7_000CC8, 0x000CCA_000CCB, 0x000CD5_000CD6, 0x000D3E_000D3E,
  0x000D57_000D57, 0x000DCF_000DCF, 0x000DDF_000DDF, 0x001715_001715, 0x001734_001734, 0x001B35_001B35,
  0x001B3B_001B3B, 0x001B3D_001B3D, 0x001B43_001B44, 0x001BAA_001BAA, 0x001BF2_001BF3, 0x00200C_00200C,
  0x00302E_00302F, 0x00A953_00A953, 0x00A9C0_00A9C0, 0x00FF9E_00FF9F, 0x0111C0_0111C0, 0x011235_011235,
  0x01133E_01133E, 0x01134D_01134D, 0x011357_011357, 0x0113B8_0113B8, 0x0113C2_0113C2, 0x0113C5_0113C5,
  0x0113C7_0113C9, 0x0113CF_0113CF, 0x0114B0_0114B0, 0x0114BD_0114BD, 0x0115AF_0115AF, 0x0116B6_0116B6,
  0x011930_011930, 0x01193D_01193D, 0x011F41_011F41, 0x016FF0_016FF1, 0x01D165_01D166, 0x01D16D_01D172,
  0x0E0020_0E007F]

end ChatModeration.Text.ContributoryTable
