/-!
# Ranges of the general category

Each row is written in hexadecimal groups: the first code point of a range, its last code point, and the number of
its category in the order of `Category`.  The number `0x1C` marks a range in which uppercase and lowercase letters
alternate, an uppercase letter first.  Rows are in ascending order and cover every assigned character.
-/

namespace ChatModeration.Text.CategoryTable

/-- The category ranges that start in U+0000 to U+058F. -/
def europeanRows : List Nat := [
  0x000000_00001F_19, 0x000020_000020_16, 0x000021_000023_11, 0x000024_000024_13, 0x000025_000027_11,
  0x000028_000028_0D, 0x000029_000029_0E, 0x00002A_00002A_11, 0x00002B_00002B_12, 0x00002C_00002C_11,
  0x00002D_00002D_0C, 0x00002E_00002F_11, 0x000030_000039_08, 0x00003A_00003B_11, 0x00003C_00003E_12,
  0x00003F_000040_11, 0x000041_00005A_00, 0x00005B_00005B_0D, 0x00005C_00005C_11, 0x00005D_00005D_0E,
  0x00005E_00005E_14, 0x00005F_00005F_0B, 0x000060_000060_14, 0x000061_00007A_01, 0x00007B_00007B_0D,
  0x00007C_00007C_12, 0x00007D_00007D_0E, 0x00007E_00007E_12, 0x00007F_00009F_19, 0x0000A0_0000A0_16,
  0x0000A1_0000A1_11, 0x0000A2_0000A5_13, 0x0000A6_0000A6_15, 0x0000A7_0000A7_11, 0x0000A8_0000A8_14,
  0x0000A9_0000A9_15, 0x0000AA_0000AA_04, 0x0000AB_0000AB_0F, 0x0000AC_0000AC_12, 0x0000AD_0000AD_1A,
  0x0000AE_0000AE_15, 0x0000AF_0000AF_14, 0x0000B0_0000B0_15, 0x0000B1_0000B1_12, 0x0000B2_0000B3_0A,
  0x0000B4_0000B4_14, 0x0000B5_0000B5_01, 0x0000B6_0000B7_11, 0x0000B8_0000B8_14, 0x0000B9_0000B9_0A,
  0x0000BA_0000BA_04, 0x0000BB_0000BB_10, 0x0000BC_0000BE_0A, 0x0000BF_0000BF_11, 0x0000C0_0000D6_00,
  0x0000D7_0000D7_12, 0x0000D8_0000DE_00, 0x0000DF_0000F6_01, 0x0000F7_0000F7_12, 0x0000F8_0000FF_01,
  0x000100_000137_1C, 0x000138_000138_01, 0x000139_000148_1C, 0x000149_000149_01, 0x00014A_000178_1C,
  0x000179_00017E_1C, 0x00017F_000180_01, 0x000181_000182_00, 0x000183_000183_01, 0x000184_000184_00,
  0x000185_000185_01, 0x000186_000187_00, 0x000188_000188_01, 0x000189_00018B_00, 0x00018C_00018D_01,
  0x00018E_000191_00, 0x000192_000192_01, 0x000193_000194_00, 0x000195_000195_01, 0x000196_000198_00,
  0x000199_00019B_01, 0x00019C_00019D_00, 0x00019E_00019E_01, 0x00019F_0001A0_00, 0x0001A1_0001A1_01,
  0x0001A2_0001A6_1C, 0x0001A7_0001AA_1C, 0x0001AB_0001AB_01, 0x0001AC_0001AC_00, 0x0001AD_0001AD_01,
  0x0001AE_0001AF_00, 0x0001B0_0001B0_01, 0x0001B1_0001B3_00, 0x0001B4_0001B4_01, 0x0001B5_0001B5_00,
  0x0001B6_0001B6_01, 0x0001B7_0001B8_00, 0x0001B9_0001BA_01, 0x0001BB_0001BB_04, 0x0001BC_0001BC_00,
  0x0001BD_0001BF_01, 0x0001C0_0001C3_04, 0x0001C4_0001C4_00, 0x0001C5_0001C5_02, 0x0001C6_0001C6_01,
  0x0001C7_0001C7_00, 0x0001C8_0001C8_02, 0x0001C9_0001C9_01, 0x0001CA_0001CA_00, 0x0001CB_0001CB_02,
  0x0001CC_0001CC_01, 0x0001CD_0001DC_1C, 0x0001DD_0001DD_01, 0x0001DE_0001EF_1C, 0x0001F0_0001F0_01,
  0x0001F1_0001F1_00, 0x0001F2_0001F2_02, 0x0001F3_0001F3_01, 0x0001F4_0001F4_00, 0x0001F5_0001F5_01,
  0x0001F6_0001F8_00, 0x0001F9_0001F9_01, 0x0001FA_000233_1C, 0x000234_000239_01, 0x00023A_00023B_00,
  0x00023C_00023C_01, 0x00023D_00023E_00, 0x00023F_000240_01, 0x000241_000241_00, 0x000242_000242_01,
  0x000243_000246_00, 0x000247_000247_01, 0x000248_00024F_1C, 0x000250_000293_01, 0x000294_000295_04,
  0x000296_0002AF_01, 0x0002B0_0002C1_03, 0x0002C2_0002C5_14, 0x0002C6_0002D1_03, 0x0002D2_0002DF_14,
  0x0002E0_0002E4_03, 0x0002E5_0002EB_14, 0x0002EC_0002EC_03, 0x0002ED_0002ED_14, 0x0002EE_0002EE_03,
  0x0002EF_0002FF_14, 0x000300_00036F_05, 0x000370_000373_1C, 0x000374_000374_03, 0x000375_000375_14,
  0x000376_000376_00, 0x000377_000377_01, 0x00037A_00037A_03, 0x00037B_00037D_01, 0x00037E_00037E_11,
  0x00037F_00037F_00, 0x000384_000385_14, 0x000386_000386_00, 0x000387_000387_11, 0x000388_00038A_00,
  0x00038C_00038C_00, 0x00038E_00038F_00, 0x000390_000390_01, 0x000391_0003A1_00, 0x0003A3_0003AB_00,
  0x0003AC_0003CE_01, 0x0003CF_0003CF_00, 0x0003D0_0003D1_01, 0x0003D2_0003D4_00, 0x0003D5_0003D7_01,
  0x0003D8_0003EF_1C, 0x0003F0_0003F3_01, 0x0003F4_0003F4_00, 0x0003F5_0003F5_01, 0x0003F6_0003F6_12,
  0x0003F7_0003F7_00, 0x0003F8_0003F8_01, 0x0003F9_0003FA_00, 0x0003FB_0003FC_01, 0x0003FD_00042F_00,
  0x000430_00045F_01, 0x000460_000481_1C, 0x000482_000482_15, 0x000483_000487_05, 0x000488_000489_07,
  0x00048A_0004C0_1C, 0x0004C1_0004CE_1C, 0x0004CF_0004CF_01, 0x0004D0_00052F_1C, 0x000531_000556_00,
  0x000559_000559_03, 0x00055A_00055F_11, 0x000560_000588_01, 0x000589_000589_11, 0x00058A_00058A_0C,
  0x00058D_00058E_15, 0x00058F_00058F_13]

/-- The category ranges that start in U+0590 to U+08E2. -/
def semiticRows : List Nat := [
  0x000591_0005BD_05, 0x0005BE_0005BE_0C, 0x0005BF_0005BF_05, 0x0005C0_0005C0_11, 0x0005C1_0005C2_05,
  0x0005C3_0005C3_11, 0x0005C4_0005C5_05, 0x0005C6_0005C6_11, 0x0005C7_0005C7_05, 0x0005D0_0005EA_04,
  0x0005EF_0005F2_04, 0x0005F3_0005F4_11, 0x000600_000605_1A, 0x000606_000608_12, 0x000609_00060A_11,
  0x00060B_00060B_13, 0x00060C_00060D_11, 0x00060E_00060F_15, 0x000610_00061A_05, 0x00061B_00061B_11,
  0x00061C_00061C_1A, 0x00061D_00061F_11, 0x000620_00063F_04, 0x000640_000640_03, 0x000641_00064A_04,
  0x00064B_00065F_05, 0x000660_000669_08, 0x00066A_00066D_11, 0x00066E_00066F_04, 0x000670_000670_05,
  0x000671_0006D3_04, 0x0006D4_0006D4_11, 0x0006D5_0006D5_04, 0x0006D6_0006DC_05, 0x0006DD_0006DD_1A,
  0x0006DE_0006DE_15, 0x0006DF_0006E4_05, 0x0006E5_0006E6_03, 0x0006E7_0006E8_05, 0x0006E9_0006E9_15,
  0x0006EA_0006ED_05, 0x0006EE_0006EF_04, 0x0006F0_0006F9_08, 0x0006FA_0006FC_04, 0x0006FD_0006FE_15,
  0x0006FF_0006FF_04, 0x000700_00070D_11, 0x00070F_00070F_1A, 0x000710_000710_04, 0x000711_000711_05,
  0x000712_00072F_04, 0x000730_00074A_05, 0x00074D_0007A5_04, 0x0007A6_0007B0_05, 0x0007B1_0007B1_04,
  0x0007C0_0007C9_08, 0x0007CA_0007EA_04, 0x0007EB_0007F3_05, 0x0007F4_0007F5_03, 0x0007F6_0007F6_15,
  0x0007F7_0007F9_11, 0x0007FA_0007FA_03, 0x0007FD_0007FD_05, 0x0007FE_0007FF_13, 0x000800_000815_04,
  0x000816_000819_05, 0x00081A_00081A_03, 0x00081B_000823_05, 0x000824_000824_03, 0x000825_000827_05,
  0x000828_000828_03, 0x000829_00082D_05, 0x000830_00083E_11, 0x000840_000858_04, 0x000859_00085B_05,
  0x00085E_00085E_11, 0x000860_00086A_04, 0x000870_000887_04, 0x000888_000888_14, 0x000889_00088E_04,
  0x000890_000891_1A, 0x000897_00089F_05, 0x0008A0_0008C8_04, 0x0008C9_0008C9_03, 0x0008CA_0008E1_05,
  0x0008E2_0008E2_1A]

/-- The category ranges that start in U+08E3 to U+1311. -/
def southernRows : List Nat := [
  0x0008E3_000902_05, 0x000903_000903_06, 0x000904_000939_04, 0x00093A_00093A_05, 0x00093B_00093B_06,
  0x00093C_00093C_05, 0x00093D_00093D_04, 0x00093E_000940_06, 0x000941_000948_05, 0x000949_00094C_06,
  0x00094D_00094D_05, 0x00094E_00094F_06, 0x000950_000950_04, 0x000951_000957_05, 0x000958_000961_04,
  0x000962_000963_05, 0x000964_000965_11, 0x000966_00096F_08, 0x000970_000970_11, 0x000971_000971_03,
  0x000972_000980_04, 0x000981_000981_05, 0x000982_000983_06, 0x000985_00098C_04, 0x00098F_000990_04,
  0x000993_0009A8_04, 0x0009AA_0009B0_04, 0x0009B2_0009B2_04, 0x0009B6_0009B9_04, 0x0009BC_0009BC_05,
  0x0009BD_0009BD_04, 0x0009BE_0009C0_06, 0x0009C1_0009C4_05, 0x0009C7_0009C8_06, 0x0009CB_0009CC_06,
  0x0009CD_0009CD_05, 0x0009CE_0009CE_04, 0x0009D7_0009D7_06, 0x0009DC_0009DD_04, 0x0009DF_0009E1_04,
  0x0009E2_0009E3_05, 0x0009E6_0009EF_08, 0x0009F0_0009F1_04, 0x0009F2_0009F3_13, 0x0009F4_0009F9_0A,
  0x0009FA_0009FA_15, 0x0009FB_0009FB_13, 0x0009FC_0009FC_04, 0x0009FD_0009FD_11, 0x0009FE_0009FE_05,
  0x000A01_000A02_05, 0x000A03_000A03_06, 0x000A05_000A0A_04, 0x000A0F_000A10_04, 0x000A13_000A28_04,
  0x000A2A_000A30_04, 0x000A32_000A33_04, 0x000A35_000A36_04, 0x000A38_000A39_04, 0x000A3C_000A3C_05,
  0x000A3E_000A40_06, 0x000A41_000A42_05, 0x000A47_000A48_05, 0x000A4B_000A4D_05, 0x000A51_000A51_05,
  0x000A59_000A5C_04, 0x000A5E_000A5E_04, 0x000A66_000A6F_08, 0x000A70_000A71_05, 0x000A72_000A74_04,
  0x000A75_000A75_05, 0x000A76_000A76_11, 0x000A81_000A82_05, 0x000A83_000A83_06, 0x000A85_000A8D_04,
  0x000A8F_000A91_04, 0x000A93_000AA8_04, 0x000AAA_000AB0_04, 0x000AB2_000AB3_04, 0x000AB5_000AB9_04,
  0x000ABC_000ABC_05, 0x000ABD_000ABD_04, 0x000ABE_000AC0_06, 0x000AC1_000AC5_05, 0x000AC7_000AC8_05,
  0x000AC9_000AC9_06, 0x000ACB_000ACC_06, 0x000ACD_000ACD_05, 0x000AD0_000AD0_04, 0x000AE0_000AE1_04,
  0x000AE2_000AE3_05, 0x000AE6_000AEF_08, 0x000AF0_000AF0_11, 0x000AF1_000AF1_13, 0x000AF9_000AF9_04,
  0x000AFA_000AFF_05, 0x000B01_000B01_05, 0x000B02_000B03_06, 0x000B05_000B0C_04, 0x000B0F_000B10_04,
  0x000B13_000B28_04, 0x000B2A_000B30_04, 0x000B32_000B33_04, 0x000B35_000B39_04, 0x000B3C_000B3C_05,
  0x000B3D_000B3D_04, 0x000B3E_000B3E_06, 0x000B3F_000B3F_05, 0x000B40_000B40_06, 0x000B41_000B44_05,
  0x000B47_000B48_06, 0x000B4B_000B4C_06, 0x000B4D_000B4D_05, 0x000B55_000B56_05, 0x000B57_000B57_06,
  0x000B5C_000B5D_04, 0x000B5F_000B61_04, 0x000B62_000B63_05, 0x000B66_000B6F_08, 0x000B70_000B70_15,
  0x000B71_000B71_04, 0x000B72_000B77_0A, 0x000B82_000B82_05, 0x000B83_000B83_04, 0x000B85_000B8A_04,
  0x000B8E_000B90_04, 0x000B92_000B95_04, 0x000B99_000B9A_04, 0x000B9C_000B9C_04, 0x000B9E_000B9F_04,
  0x000BA3_000BA4_04, 0x000BA8_000BAA_04, 0x000BAE_000BB9_04, 0x000BBE_000BBF_06, 0x000BC0_000BC0_05,
  0x000BC1_000BC2_06, 0x000BC6_000BC8_06, 0x000BCA_000BCC_06, 0x000BCD_000BCD_05, 0x000BD0_000BD0_04,
  0x000BD7_000BD7_06, 0x000BE6_000BEF_08, 0x000BF0_000BF2_0A, 0x000BF3_000BF8_15, 0x000BF9_000BF9_13,
  0x000BFA_000BFA_15, 0x000C00_000C00_05, 0x000C01_000C03_06, 0x000C04_000C04_05, 0x000C05_000C0C_04,
  0x000C0E_000C10_04, 0x000C12_000C28_04, 0x000C2A_000C39_04, 0x000C3C_000C3C_05, 0x000C3D_000C3D_04,
  0x000C3E_000C40_05, 0x000C41_000C44_06, 0x000C46_000C48_05, 0x000C4A_000C4D_05, 0x000C55_000C56_05,
  0x000C58_000C5A_04, 0x000C5D_000C5D_04, 0x000C60_000C61_04, 0x000C62_000C63_05, 0x000C66_000C6F_08,
  0x000C77_000C77_11, 0x000C78_000C7E_0A, 0x000C7F_000C7F_15, 0x000C80_000C80_04, 0x000C81_000C81_05,
  0x000C82_000C83_06, 0x000C84_000C84_11, 0x000C85_000C8C_04, 0x000C8E_000C90_04, 0x000C92_000CA8_04,
  0x000CAA_000CB3_04, 0x000CB5_000CB9_04, 0x000CBC_000CBC_05, 0x000CBD_000CBD_04, 0x000CBE_000CBE_06,
  0x000CBF_000CBF_05, 0x000CC0_000CC4_06, 0x000CC6_000CC6_05, 0x000CC7_000CC8_06, 0x000CCA_000CCB_06,
  0x000CCC_000CCD_05, 0x000CD5_000CD6_06, 0x000CDD_000CDE_04, 0x000CE0_000CE1_04, 0x000CE2_000CE3_05,
  0x000CE6_000CEF_08, 0x000CF1_000CF2_04, 0x000CF3_000CF3_06, 0x000D00_000D01_05, 0x000D02_000D03_06,
  0x000D04_000D0C_04, 0x000D0E_000D10_04, 0x000D12_000D3A_04, 0x000D3B_000D3C_05, 0x000D3D_000D3D_04,
  0x000D3E_000D40_06, 0x000D41_000D44_05, 0x000D46_000D48_06, 0x000D4A_000D4C_06, 0x000D4D_000D4D_05,
  0x000D4E_000D4E_04, 0x000D4F_000D4F_15, 0x000D54_000D56_04, 0x000D57_000D57_06, 0x000D58_000D5E_0A,
  0x000D5F_000D61_04, 0x000D62_000D63_05, 0x000D66_000D6F_08, 0x000D70_000D78_0A, 0x000D79_000D79_15,
  0x000D7A_000D7F_04, 0x000D81_000D81_05, 0x000D82_000D83_06, 0x000D85_000D96_04, 0x000D9A_000DB1_04,
  0x000DB3_000DBB_04, 0x000DBD_000DBD_04, 0x000DC0_000DC6_04, 0x000DCA_000DCA_05, 0x000DCF_000DD1_06,
  0x000DD2_000DD4_05, 0x000DD6_000DD6_05, 0x000DD8_000DDF_06, 0x000DE6_000DEF_08, 0x000DF2_000DF3_06,
  0x000DF4_000DF4_11, 0x000E01_000E30_04, 0x000E31_000E31_05, 0x000E32_000E33_04, 0x000E34_000E3A_05,
  0x000E3F_000E3F_13, 0x000E40_000E45_04, 0x000E46_000E46_03, 0x000E47_000E4E_05, 0x000E4F_000E4F_11,
  0x000E50_000E59_08, 0x000E5A_000E5B_11, 0x000E81_000E82_04, 0x000E84_000E84_04, 0x000E86_000E8A_04,
  0x000E8C_000EA3_04, 0x000EA5_000EA5_04, 0x000EA7_000EB0_04, 0x000EB1_000EB1_05, 0x000EB2_000EB3_04,
  0x000EB4_000EBC_05, 0x000EBD_000EBD_04, 0x000EC0_000EC4_04, 0x000EC6_000EC6_03, 0x000EC8_000ECE_05,
  0x000ED0_000ED9_08, 0x000EDC_000EDF_04, 0x000F00_000F00_04, 0x000F01_000F03_15, 0x000F04_000F12_11,
  0x000F13_000F13_15, 0x000F14_000F14_11, 0x000F15_000F17_15, 0x000F18_000F19_05, 0x000F1A_000F1F_15,
  0x000F20_000F29_08, 0x000F2A_000F33_0A, 0x000F34_000F34_15, 0x000F35_000F35_05, 0x000F36_000F36_15,
  0x000F37_000F37_05, 0x000F38_000F38_15, 0x000F39_000F39_05, 0x000F3A_000F3A_0D, 0x000F3B_000F3B_0E,
  0x000F3C_000F3C_0D, 0x000F3D_000F3D_0E, 0x000F3E_000F3F_06, 0x000F40_000F47_04, 0x000F49_000F6C_04,
  0x000F71_000F7E_05, 0x000F7F_000F7F_06, 0x000F80_000F84_05, 0x000F85_000F85_11, 0x000F86_000F87_05,
  0x000F88_000F8C_04, 0x000F8D_000F97_05, 0x000F99_000FBC_05, 0x000FBE_000FC5_15, 0x000FC6_000FC6_05,
  0x000FC7_000FCC_15, 0x000FCE_000FCF_15, 0x000FD0_000FD4_11, 0x000FD5_000FD8_15, 0x000FD9_000FDA_11,
  0x001000_00102A_04, 0x00102B_00102C_06, 0x00102D_001030_05, 0x001031_001031_06, 0x001032_001037_05,
  0x001038_001038_06, 0x001039_00103A_05, 0x00103B_00103C_06, 0x00103D_00103E_05, 0x00103F_00103F_04,
  0x001040_001049_08, 0x00104A_00104F_11, 0x001050_001055_04, 0x001056_001057_06, 0x001058_001059_05,
  0x00105A_00105D_04, 0x00105E_001060_05, 0x001061_001061_04, 0x001062_001064_06, 0x001065_001066_04,
  0x001067_00106D_06, 0x00106E_001070_04, 0x001071_001074_05, 0x001075_001081_04, 0x001082_001082_05,
  0x001083_001084_06, 0x001085_001086_05, 0x001087_00108C_06, 0x00108D_00108D_05, 0x00108E_00108E_04,
  0x00108F_00108F_06, 0x001090_001099_08, 0x00109A_00109C_06, 0x00109D_00109D_05, 0x00109E_00109F_15,
  0x0010A0_0010C5_00, 0x0010C7_0010C7_00, 0x0010CD_0010CD_00, 0x0010D0_0010FA_01, 0x0010FB_0010FB_11,
  0x0010FC_0010FC_03, 0x0010FD_0010FF_01, 0x001100_001248_04, 0x00124A_00124D_04, 0x001250_001256_04,
  0x001258_001258_04, 0x00125A_00125D_04, 0x001260_001288_04, 0x00128A_00128D_04, 0x001290_0012B0_04,
  0x0012B2_0012B5_04, 0x0012B8_0012BE_04, 0x0012C0_0012C0_04, 0x0012C2_0012C5_04, 0x0012C8_0012D6_04,
  0x0012D8_001310_04]

/-- The category ranges that start in U+1312 to U+1FFF. -/
def easternRows : List Nat := [
  0x001312_001315_04, 0x001318_00135A_04, 0x00135D_00135F_05, 0x001360_001368_11, 0x001369_00137C_0A,
  0x001380_00138F_04, 0x001390_001399_15, 0x0013A0_0013F5_00, 0x0013F8_0013FD_01, 0x001400_001400_0C,
  0x001401_00166C_04, 0x00166D_00166D_15, 0x00166E_00166E_11, 0x00166F_00167F_04, 0x001680_001680_16,
  0x001681_00169A_04, 0x00169B_00169B_0D, 0x00169C_00169C_0E, 0x0016A0_0016EA_04, 0x0016EB_0016ED_11,
  0x0016EE_0016F0_09, 0x0016F1_0016F8_04, 0x001700_001711_04, 0x001712_001714_05, 0x001715_001715_06,
  0x00171F_001731_04, 0x001732_001733_05, 0x001734_001734_06, 0x001735_001736_11, 0x001740_001751_04,
  0x001752_001753_05, 0x001760_00176C_04, 0x00176E_001770_04, 0x001772_001773_05, 0x001780_0017B3_04,
  0x0017B4_0017B5_05, 0x0017B6_0017B6_06, 0x0017B7_0017BD_05, 0x0017BE_0017C5_06, 0x0017C6_0017C6_05,
  0x0017C7_0017C8_06, 0x0017C9_0017D3_05, 0x0017D4_0017D6_11, 0x0017D7_0017D7_03, 0x0017D8_0017DA_11,
  0x0017DB_0017DB_13, 0x0017DC_0017DC_04, 0x0017DD_0017DD_05, 0x0017E0_0017E9_08, 0x0017F0_0017F9_0A,
  0x001800_001805_11, 0x001806_001806_0C, 0x001807_00180A_11, 0x00180B_00180D_05, 0x00180E_00180E_1A,
  0x00180F_00180F_05, 0x001810_001819_08, 0x001820_001842_04, 0x001843_001843_03, 0x001844_001878_04,
  0x001880_001884_04, 0x001885_001886_05, 0x001887_0018A8_04, 0x0018A9_0018A9_05, 0x0018AA_0018AA_04,
  0x0018B0_0018F5_04, 0x001900_00191E_04, 0x001920_001922_05, 0x001923_001926_06, 0x001927_001928_05,
  0x001929_00192B_06, 0x001930_001931_06, 0x001932_001932_05, 0x001933_001938_06, 0x001939_00193B_05,
  0x001940_001940_15, 0x001944_001945_11, 0x001946_00194F_08, 0x001950_00196D_04, 0x001970_001974_04,
  0x001980_0019AB_04, 0x0019B0_0019C9_04, 0x0019D0_0019D9_08, 0x0019DA_0019DA_0A, 0x0019DE_0019FF_15,
  0x001A00_001A16_04, 0x001A17_001A18_05, 0x001A19_001A1A_06, 0x001A1B_001A1B_05, 0x001A1E_001A1F_11,
  0x001A20_001A54_04, 0x001A55_001A55_06, 0x001A56_001A56_05, 0x001A57_001A57_06, 0x001A58_001A5E_05,
  0x001A60_001A60_05, 0x001A61_001A61_06, 0x001A62_001A62_05, 0x001A63_001A64_06, 0x001A65_001A6C_05,
  0x001A6D_001A72_06, 0x001A73_001A7C_05, 0x001A7F_001A7F_05, 0x001A80_001A89_08, 0x001A90_001A99_08,
  0x001AA0_001AA6_11, 0x001AA7_001AA7_03, 0x001AA8_001AAD_11, 0x001AB0_001ABD_05, 0x001ABE_001ABE_07,
  0x001ABF_001ACE_05, 0x001B00_001B03_05, 0x001B04_001B04_06, 0x001B05_001B33_04, 0x001B34_001B34_05,
  0x001B35_001B35_06, 0x001B36_001B3A_05, 0x001B3B_001B3B_06, 0x001B3C_001B3C_05, 0x001B3D_001B41_06,
  0x001B42_001B42_05, 0x001B43_001B44_06, 0x001B45_001B4C_04, 0x001B4E_001B4F_11, 0x001B50_001B59_08,
  0x001B5A_001B60_11, 0x001B61_001B6A_15, 0x001B6B_001B73_05, 0x001B74_001B7C_15, 0x001B7D_001B7F_11,
  0x001B80_001B81_05, 0x001B82_001B82_06, 0x001B83_001BA0_04, 0x001BA1_001BA1_06, 0x001BA2_001BA5_05,
  0x001BA6_001BA7_06, 0x001BA8_001BA9_05, 0x001BAA_001BAA_06, 0x001BAB_001BAD_05, 0x001BAE_001BAF_04,
  0x001BB0_001BB9_08, 0x001BBA_001BE5_04, 0x001BE6_001BE6_05, 0x001BE7_001BE7_06, 0x001BE8_001BE9_05,
  0x001BEA_001BEC_06, 0x001BED_001BED_05, 0x001BEE_001BEE_06, 0x001BEF_001BF1_05, 0x001BF2_001BF3_06,
  0x001BFC_001BFF_11, 0x001C00_001C23_04, 0x001C24_001C2B_06, 0x001C2C_001C33_05, 0x001C34_001C35_06,
  0x001C36_001C37_05, 0x001C3B_001C3F_11, 0x001C40_001C49_08, 0x001C4D_001C4F_04, 0x001C50_001C59_08,
  0x001C5A_001C77_04, 0x001C78_001C7D_03, 0x001C7E_001C7F_11, 0x001C80_001C88_01, 0x001C89_001C89_00,
  0x001C8A_001C8A_01, 0x001C90_001CBA_00, 0x001CBD_001CBF_00, 0x001CC0_001CC7_11, 0x001CD0_001CD2_05,
  0x001CD3_001CD3_11, 0x001CD4_001CE0_05, 0x001CE1_001CE1_06, 0x001CE2_001CE8_05, 0x001CE9_001CEC_04,
  0x001CED_001CED_05, 0x001CEE_001CF3_04, 0x001CF4_001CF4_05, 0x001CF5_001CF6_04, 0x001CF7_001CF7_06,
  0x001CF8_001CF9_05, 0x001CFA_001CFA_04, 0x001D00_001D2B_01, 0x001D2C_001D6A_03, 0x001D6B_001D77_01,
  0x001D78_001D78_03, 0x001D79_001D9A_01, 0x001D9B_001DBF_03, 0x001DC0_001DFF_05, 0x001E00_001E95_1C,
  0x001E96_001E9D_01, 0x001E9E_001EFF_1C, 0x001F00_001F07_01, 0x001F08_001F0F_00, 0x001F10_001F15_01,
  0x001F18_001F1D_00, 0x001F20_001F27_01, 0x001F28_001F2F_00, 0x001F30_001F37_01, 0x001F38_001F3F_00,
  0x001F40_001F45_01, 0x001F48_001F4D_00, 0x001F50_001F57_01, 0x001F59_001F59_00, 0x001F5B_001F5B_00,
  0x001F5D_001F5D_00, 0x001F5F_001F5F_00, 0x001F60_001F67_01, 0x001F68_001F6F_00, 0x001F70_001F7D_01,
  0x001F80_001F87_01, 0x001F88_001F8F_02, 0x001F90_001F97_01, 0x001F98_001F9F_02, 0x001FA0_001FA7_01,
  0x001FA8_001FAF_02, 0x001FB0_001FB4_01, 0x001FB6_001FB7_01, 0x001FB8_001FBB_00, 0x001FBC_001FBC_02,
  0x001FBD_001FBD_14, 0x001FBE_001FBE_01, 0x001FBF_001FC1_14, 0x001FC2_001FC4_01, 0x001FC6_001FC7_01,
  0x001FC8_001FCB_00, 0x001FCC_001FCC_02, 0x001FCD_001FCF_14, 0x001FD0_001FD3_01, 0x001FD6_001FD7_01,
  0x001FD8_001FDB_00, 0x001FDD_001FDF_14, 0x001FE0_001FE7_01, 0x001FE8_001FEC_00, 0x001FED_001FEF_14,
  0x001FF2_001FF4_01, 0x001FF6_001FF7_01, 0x001FF8_001FFB_00, 0x001FFC_001FFC_02, 0x001FFD_001FFE_14]

/-- The category ranges that start in U+2000 to U+2FFF. -/
def symbolRows : List Nat := [
  0x002000_00200A_16, 0x00200B_00200F_1A, 0x002010_002015_0C, 0x002016_002017_11, 0x002018_002018_0F,
  0x002019_002019_10, 0x00201A_00201A_0D, 0x00201B_00201C_0F, 0x00201D_00201D_10, 0x00201E_00201E_0D,
  0x00201F_00201F_0F, 0x002020_002027_11, 0x002028_002028_17, 0x002029_002029_18, 0x00202A_00202E_1A,
  0x00202F_00202F_16, 0x002030_002038_11, 0x002039_002039_0F, 0x00203A_00203A_10, 0x00203B_00203E_11,
  0x00203F_002040_0B, 0x002041_002043_11, 0x002044_002044_12, 0x002045_002045_0D, 0x002046_002046_0E,
  0x002047_002051_11, 0x002052_002052_12, 0x002053_002053_11, 0x002054_002054_0B, 0x002055_00205E_11,
  0x00205F_00205F_16, 0x002060_002064_1A, 0x002066_00206F_1A, 0x002070_002070_0A, 0x002071_002071_03,
  0x002074_002079_0A, 0x00207A_00207C_12, 0x00207D_00207D_0D, 0x00207E_00207E_0E, 0x00207F_00207F_03,
  0x002080_002089_0A, 0x00208A_00208C_12, 0x00208D_00208D_0D, 0x00208E_00208E_0E, 0x002090_00209C_03,
  0x0020A0_0020C0_13, 0x0020D0_0020DC_05, 0x0020DD_0020E0_07, 0x0020E1_0020E1_05, 0x0020E2_0020E4_07,
  0x0020E5_0020F0_05, 0x002100_002101_15, 0x002102_002102_00, 0x002103_002106_15, 0x002107_002107_00,
  0x002108_002109_15, 0x00210A_00210A_01, 0x00210B_00210D_00, 0x00210E_00210F_01, 0x002110_002112_00,
  0x002113_002113_01, 0x002114_002114_15, 0x002115_002115_00, 0x002116_002117_15, 0x002118_002118_12,
  0x002119_00211D_00, 0x00211E_002123_15, 0x002124_002124_00, 0x002125_002125_15, 0x002126_002126_00,
  0x002127_002127_15, 0x002128_002128_00, 0x002129_002129_15, 0x00212A_00212D_00, 0x00212E_00212E_15,
  0x00212F_00212F_01, 0x002130_002133_00, 0x002134_002134_01, 0x002135_002138_04, 0x002139_002139_01,
  0x00213A_00213B_15, 0x00213C_00213D_01, 0x00213E_00213F_00, 0x002140_002144_12, 0x002145_002145_00,
  0x002146_002149_01, 0x00214A_00214A_15, 0x00214B_00214B_12, 0x00214C_00214D_15, 0x00214E_00214E_01,
  0x00214F_00214F_15, 0x002150_00215F_0A, 0x002160_002182_09, 0x002183_002183_00, 0x002184_002184_01,
  0x002185_002188_09, 0x002189_002189_0A, 0x00218A_00218B_15, 0x002190_002194_12, 0x002195_002199_15,
  0x00219A_00219B_12, 0x00219C_00219F_15, 0x0021A0_0021A0_12, 0x0021A1_0021A2_15, 0x0021A3_0021A3_12,
  0x0021A4_0021A5_15, 0x0021A6_0021A6_12, 0x0021A7_0021AD_15, 0x0021AE_0021AE_12, 0x0021AF_0021CD_15,
  0x0021CE_0021CF_12, 0x0021D0_0021D1_15, 0x0021D2_0021D2_12, 0x0021D3_0021D3_15, 0x0021D4_0021D4_12,
  0x0021D5_0021F3_15, 0x0021F4_0022FF_12, 0x002300_002307_15, 0x002308_002308_0D, 0x002309_002309_0E,
  0x00230A_00230A_0D, 0x00230B_00230B_0E, 0x00230C_00231F_15, 0x002320_002321_12, 0x002322_002328_15,
  0x002329_002329_0D, 0x00232A_00232A_0E, 0x00232B_00237B_15, 0x00237C_00237C_12, 0x00237D_00239A_15,
  0x00239B_0023B3_12, 0x0023B4_0023DB_15, 0x0023DC_0023E1_12, 0x0023E2_002429_15, 0x002440_00244A_15,
  0x002460_00249B_0A, 0x00249C_0024E9_15, 0x0024EA_0024FF_0A, 0x002500_0025B6_15, 0x0025B7_0025B7_12,
  0x0025B8_0025C0_15, 0x0025C1_0025C1_12, 0x0025C2_0025F7_15, 0x0025F8_0025FF_12, 0x002600_00266E_15,
  0x00266F_00266F_12, 0x002670_002767_15, 0x002768_002768_0D, 0x002769_002769_0E, 0x00276A_00276A_0D,
  0x00276B_00276B_0E, 0x00276C_00276C_0D, 0x00276D_00276D_0E, 0x00276E_00276E_0D, 0x00276F_00276F_0E,
  0x002770_002770_0D, 0x002771_002771_0E, 0x002772_002772_0D, 0x002773_002773_0E, 0x002774_002774_0D,
  0x002775_002775_0E, 0x002776_002793_0A, 0x002794_0027BF_15, 0x0027C0_0027C4_12, 0x0027C5_0027C5_0D,
  0x0027C6_0027C6_0E, 0x0027C7_0027E5_12, 0x0027E6_0027E6_0D, 0x0027E7_0027E7_0E, 0x0027E8_0027E8_0D,
  0x0027E9_0027E9_0E, 0x0027EA_0027EA_0D, 0x0027EB_0027EB_0E, 0x0027EC_0027EC_0D, 0x0027ED_0027ED_0E,
  0x0027EE_0027EE_0D, 0x0027EF_0027EF_0E, 0x0027F0_0027FF_12, 0x002800_0028FF_15, 0x002900_002982_12,
  0x002983_002983_0D, 0x002984_002984_0E, 0x002985_002985_0D, 0x002986_002986_0E, 0x002987_002987_0D,
  0x002988_002988_0E, 0x002989_002989_0D, 0x00298A_00298A_0E, 0x00298B_00298B_0D, 0x00298C_00298C_0E,
  0x00298D_00298D_0D, 0x00298E_00298E_0E, 0x00298F_00298F_0D, 0x002990_002990_0E, 0x002991_002991_0D,
  0x002992_002992_0E, 0x002993_002993_0D, 0x002994_002994_0E, 0x002995_002995_0D, 0x002996_002996_0E,
  0x002997_002997_0D, 0x002998_002998_0E, 0x002999_0029D7_12, 0x0029D8_0029D8_0D, 0x0029D9_0029D9_0E,
  0x0029DA_0029DA_0D, 0x0029DB_0029DB_0E, 0x0029DC_0029FB_12, 0x0029FC_0029FC_0D, 0x0029FD_0029FD_0E,
  0x0029FE_002AFF_12, 0x002B00_002B2F_15, 0x002B30_002B44_12, 0x002B45_002B46_15, 0x002B47_002B4C_12,
  0x002B4D_002B73_15, 0x002B76_002B95_15, 0x002B97_002BFF_15, 0x002C00_002C2F_00, 0x002C30_002C5F_01,
  0x002C60_002C60_00, 0x002C61_002C61_01, 0x002C62_002C64_00, 0x002C65_002C66_01, 0x002C67_002C6D_1C,
  0x002C6E_002C70_00, 0x002C71_002C71_01, 0x002C72_002C72_00, 0x002C73_002C74_01, 0x002C75_002C75_00,
  0x002C76_002C7B_01, 0x002C7C_002C7D_03, 0x002C7E_002C80_00, 0x002C81_002C81_01, 0x002C82_002CE3_1C,
  0x002CE4_002CE4_01, 0x002CE5_002CEA_15, 0x002CEB_002CEE_1C, 0x002CEF_002CF1_05, 0x002CF2_002CF2_00,
  0x002CF3_002CF3_01, 0x002CF9_002CFC_11, 0x002CFD_002CFD_0A, 0x002CFE_002CFF_11, 0x002D00_002D25_01,
  0x002D27_002D27_01, 0x002D2D_002D2D_01, 0x002D30_002D67_04, 0x002D6F_002D6F_03, 0x002D70_002D70_11,
  0x002D7F_002D7F_05, 0x002D80_002D96_04, 0x002DA0_002DA6_04, 0x002DA8_002DAE_04, 0x002DB0_002DB6_04,
  0x002DB8_002DBE_04, 0x002DC0_002DC6_04, 0x002DC8_002DCE_04, 0x002DD0_002DD6_04, 0x002DD8_002DDE_04,
  0x002DE0_002DFF_05, 0x002E00_002E01_11, 0x002E02_002E02_0F, 0x002E03_002E03_10, 0x002E04_002E04_0F,
  0x002E05_002E05_10, 0x002E06_002E08_11, 0x002E09_002E09_0F, 0x002E0A_002E0A_10, 0x002E0B_002E0B_11,
  0x002E0C_002E0C_0F, 0x002E0D_002E0D_10, 0x002E0E_002E16_11, 0x002E17_002E17_0C, 0x002E18_002E19_11,
  0x002E1A_002E1A_0C, 0x002E1B_002E1B_11, 0x002E1C_002E1C_0F, 0x002E1D_002E1D_10, 0x002E1E_002E1F_11,
  0x002E20_002E20_0F, 0x002E21_002E21_10, 0x002E22_002E22_0D, 0x002E23_002E23_0E, 0x002E24_002E24_0D,
  0x002E25_002E25_0E, 0x002E26_002E26_0D, 0x002E27_002E27_0E, 0x002E28_002E28_0D, 0x002E29_002E29_0E,
  0x002E2A_002E2E_11, 0x002E2F_002E2F_03, 0x002E30_002E39_11, 0x002E3A_002E3B_0C, 0x002E3C_002E3F_11,
  0x002E40_002E40_0C, 0x002E41_002E41_11, 0x002E42_002E42_0D, 0x002E43_002E4F_11, 0x002E50_002E51_15,
  0x002E52_002E54_11, 0x002E55_002E55_0D, 0x002E56_002E56_0E, 0x002E57_002E57_0D, 0x002E58_002E58_0E,
  0x002E59_002E59_0D, 0x002E5A_002E5A_0E, 0x002E5B_002E5B_0D, 0x002E5C_002E5C_0E, 0x002E5D_002E5D_0C,
  0x002E80_002E99_15, 0x002E9B_002EF3_15, 0x002F00_002FD5_15, 0x002FF0_002FFF_15]

/-- The category ranges that start in U+3000 to U+FFFF. -/
def ideographRows : List Nat := [
  0x003000_003000_16, 0x003001_003003_11, 0x003004_003004_15, 0x003005_003005_03, 0x003006_003006_04,
  0x003007_003007_09, 0x003008_003008_0D, 0x003009_003009_0E, 0x00300A_00300A_0D, 0x00300B_00300B_0E,
  0x00300C_00300C_0D, 0x00300D_00300D_0E, 0x00300E_00300E_0D, 0x00300F_00300F_0E, 0x003010_003010_0D,
  0x003011_003011_0E, 0x003012_003013_15, 0x003014_003014_0D, 0x003015_003015_0E, 0x003016_003016_0D,
  0x003017_003017_0E, 0x003018_003018_0D, 0x003019_003019_0E, 0x00301A_00301A_0D, 0x00301B_00301B_0E,
  0x00301C_00301C_0C, 0x00301D_00301D_0D, 0x00301E_00301F_0E, 0x003020_003020_15, 0x003021_003029_09,
  0x00302A_00302D_05, 0x00302E_00302F_06, 0x003030_003030_0C, 0x003031_003035_03, 0x003036_003037_15,
  0x003038_00303A_09, 0x00303B_00303B_03, 0x00303C_00303C_04, 0x00303D_00303D_11, 0x00303E_00303F_15,
  0x003041_003096_04, 0x003099_00309A_05, 0x00309B_00309C_14, 0x00309D_00309E_03, 0x00309F_00309F_04,
  0x0030A0_0030A0_0C, 0x0030A1_0030FA_04, 0x0030FB_0030FB_11, 0x0030FC_0030FE_03, 0x0030FF_0030FF_04,
  0x003105_00312F_04, 0x003131_00318E_04, 0x003190_003191_15, 0x003192_003195_0A, 0x003196_00319F_15,
  0x0031A0_0031BF_04, 0x0031C0_0031E5_15, 0x0031EF_0031EF_15, 0x0031F0_0031FF_04, 0x003200_00321E_15,
  0x003220_003229_0A, 0x00322A_003247_15, 0x003248_00324F_0A, 0x003250_003250_15, 0x003251_00325F_0A,
  0x003260_00327F_15, 0x003280_003289_0A, 0x00328A_0032B0_15, 0x0032B1_0032BF_0A, 0x0032C0_0033FF_15,
  0x003400_004DBF_04, 0x004DC0_004DFF_15, 0x004E00_00A014_04, 0x00A015_00A015_03, 0x00A016_00A48C_04,
  0x00A490_00A4C6_15, 0x00A4D0_00A4F7_04, 0x00A4F8_00A4FD_03, 0x00A4FE_00A4FF_11, 0x00A500_00A60B_04,
  0x00A60C_00A60C_03, 0x00A60D_00A60F_11, 0x00A610_00A61F_04, 0x00A620_00A629_08, 0x00A62A_00A62B_04,
  0x00A640_00A66D_1C, 0x00A66E_00A66E_04, 0x00A66F_00A66F_05, 0x00A670_00A672_07, 0x00A673_00A673_11,
  0x00A674_00A67D_05, 0x00A67E_00A67E_11, 0x00A67F_00A67F_03, 0x00A680_00A69B_1C, 0x00A69C_00A69D_03,
  0x00A69E_00A69F_05, 0x00A6A0_00A6E5_04, 0x00A6E6_00A6EF_09, 0x00A6F0_00A6F1_05, 0x00A6F2_00A6F7_11,
  0x00A700_00A716_14, 0x00A717_00A71F_03, 0x00A720_00A721_14, 0x00A722_00A72F_1C, 0x00A730_00A731_01,
  0x00A732_00A76F_1C, 0x00A770_00A770_03, 0x00A771_00A778_01, 0x00A779_00A77D_1C, 0x00A77E_00A787_1C,
  0x00A788_00A788_03, 0x00A789_00A78A_14, 0x00A78B_00A78E_1C, 0x00A78F_00A78F_04, 0x00A790_00A793_1C,
  0x00A794_00A795_01, 0x00A796_00A7AA_1C, 0x00A7AB_00A7AE_00, 0x00A7AF_00A7AF_01, 0x00A7B0_00A7B4_00,
  0x00A7B5_00A7B5_01, 0x00A7B6_00A7C4_1C, 0x00A7C5_00A7C7_00, 0x00A7C8_00A7C8_01, 0x00A7C9_00A7C9_00,
  0x00A7CA_00A7CA_01, 0x00A7CB_00A7CC_00, 0x00A7CD_00A7CD_01, 0x00A7D0_00A7D0_00, 0x00A7D1_00A7D1_01,
  0x00A7D3_00A7D3_01, 0x00A7D5_00A7D5_01, 0x00A7D6_00A7DC_1C, 0x00A7F2_00A7F4_03, 0x00A7F5_00A7F5_00,
  0x00A7F6_00A7F6_01, 0x00A7F7_00A7F7_04, 0x00A7F8_00A7F9_03, 0x00A7FA_00A7FA_01, 0x00A7FB_00A801_04,
  0x00A802_00A802_05, 0x00A803_00A805_04, 0x00A806_00A806_05, 0x00A807_00A80A_04, 0x00A80B_00A80B_05,
  0x00A80C_00A822_04, 0x00A823_00A824_06, 0x00A825_00A826_05, 0x00A827_00A827_06, 0x00A828_00A82B_15,
  0x00A82C_00A82C_05, 0x00A830_00A835_0A, 0x00A836_00A837_15, 0x00A838_00A838_13, 0x00A839_00A839_15,
  0x00A840_00A873_04, 0x00A874_00A877_11, 0x00A880_00A881_06, 0x00A882_00A8B3_04, 0x00A8B4_00A8C3_06,
  0x00A8C4_00A8C5_05, 0x00A8CE_00A8CF_11, 0x00A8D0_00A8D9_08, 0x00A8E0_00A8F1_05, 0x00A8F2_00A8F7_04,
  0x00A8F8_00A8FA_11, 0x00A8FB_00A8FB_04, 0x00A8FC_00A8FC_11, 0x00A8FD_00A8FE_04, 0x00A8FF_00A8FF_05,
  0x00A900_00A909_08, 0x00A90A_00A925_04, 0x00A926_00A92D_05, 0x00A92E_00A92F_11, 0x00A930_00A946_04,
  0x00A947_00A951_05, 0x00A952_00A953_06, 0x00A95F_00A95F_11, 0x00A960_00A97C_04, 0x00A980_00A982_05,
  0x00A983_00A983_06, 0x00A984_00A9B2_04, 0x00A9B3_00A9B3_05, 0x00A9B4_00A9B5_06, 0x00A9B6_00A9B9_05,
  0x00A9BA_00A9BB_06, 0x00A9BC_00A9BD_05, 0x00A9BE_00A9C0_06, 0x00A9C1_00A9CD_11, 0x00A9CF_00A9CF_03,
  0x00A9D0_00A9D9_08, 0x00A9DE_00A9DF_11, 0x00A9E0_00A9E4_04, 0x00A9E5_00A9E5_05, 0x00A9E6_00A9E6_03,
  0x00A9E7_00A9EF_04, 0x00A9F0_00A9F9_08, 0x00A9FA_00A9FE_04, 0x00AA00_00AA28_04, 0x00AA29_00AA2E_05,
  0x00AA2F_00AA30_06, 0x00AA31_00AA32_05, 0x00AA33_00AA34_06, 0x00AA35_00AA36_05, 0x00AA40_00AA42_04,
  0x00AA43_00AA43_05, 0x00AA44_00AA4B_04, 0x00AA4C_00AA4C_05, 0x00AA4D_00AA4D_06, 0x00AA50_00AA59_08,
  0x00AA5C_00AA5F_11, 0x00AA60_00AA6F_04, 0x00AA70_00AA70_03, 0x00AA71_00AA76_04, 0x00AA77_00AA79_15,
  0x00AA7A_00AA7A_04, 0x00AA7B_00AA7B_06, 0x00AA7C_00AA7C_05, 0x00AA7D_00AA7D_06, 0x00AA7E_00AAAF_04,
  0x00AAB0_00AAB0_05, 0x00AAB1_00AAB1_04, 0x00AAB2_00AAB4_05, 0x00AAB5_00AAB6_04, 0x00AAB7_00AAB8_05,
  0x00AAB9_00AABD_04, 0x00AABE_00AABF_05, 0x00AAC0_00AAC0_04, 0x00AAC1_00AAC1_05, 0x00AAC2_00AAC2_04,
  0x00AADB_00AADC_04, 0x00AADD_00AADD_03, 0x00AADE_00AADF_11, 0x00AAE0_00AAEA_04, 0x00AAEB_00AAEB_06,
  0x00AAEC_00AAED_05, 0x00AAEE_00AAEF_06, 0x00AAF0_00AAF1_11, 0x00AAF2_00AAF2_04, 0x00AAF3_00AAF4_03,
  0x00AAF5_00AAF5_06, 0x00AAF6_00AAF6_05, 0x00AB01_00AB06_04, 0x00AB09_00AB0E_04, 0x00AB11_00AB16_04,
  0x00AB20_00AB26_04, 0x00AB28_00AB2E_04, 0x00AB30_00AB5A_01, 0x00AB5B_00AB5B_14, 0x00AB5C_00AB5F_03,
  0x00AB60_00AB68_01, 0x00AB69_00AB69_03, 0x00AB6A_00AB6B_14, 0x00AB70_00ABBF_01, 0x00ABC0_00ABE2_04,
  0x00ABE3_00ABE4_06, 0x00ABE5_00ABE5_05, 0x00ABE6_00ABE7_06, 0x00ABE8_00ABE8_05, 0x00ABE9_00ABEA_06,
  0x00ABEB_00ABEB_11, 0x00ABEC_00ABEC_06, 0x00ABED_00ABED_05, 0x00ABF0_00ABF9_08, 0x00AC00_00D7A3_04,
  0x00D7B0_00D7C6_04, 0x00D7CB_00D7FB_04, 0x00E000_00F8FF_1B, 0x00F900_00FA6D_04, 0x00FA70_00FAD9_04,
  0x00FB00_00FB06_01, 0x00FB13_00FB17_01, 0x00FB1D_00FB1D_04, 0x00FB1E_00FB1E_05, 0x00FB1F_00FB28_04,
  0x00FB29_00FB29_12, 0x00FB2A_00FB36_04, 0x00FB38_00FB3C_04, 0x00FB3E_00FB3E_04, 0x00FB40_00FB41_04,
  0x00FB43_00FB44_04, 0x00FB46_00FBB1_04, 0x00FBB2_00FBC2_14, 0x00FBD3_00FD3D_04, 0x00FD3E_00FD3E_0E,
  0x00FD3F_00FD3F_0D, 0x00FD40_00FD4F_15, 0x00FD50_00FD8F_04, 0x00FD92_00FDC7_04, 0x00FDCF_00FDCF_15,
  0x00FDF0_00FDFB_04, 0x00FDFC_00FDFC_13, 0x00FDFD_00FDFF_15, 0x00FE00_00FE0F_05, 0x00FE10_00FE16_11,
  0x00FE17_00FE17_0D, 0x00FE18_00FE18_0E, 0x00FE19_00FE19_11, 0x00FE20_00FE2F_05, 0x00FE30_00FE30_11,
  0x00FE31_00FE32_0C, 0x00FE33_00FE34_0B, 0x00FE35_00FE35_0D, 0x00FE36_00FE36_0E, 0x00FE37_00FE37_0D,
  0x00FE38_00FE38_0E, 0x00FE39_00FE39_0D, 0x00FE3A_00FE3A_0E, 0x00FE3B_00FE3B_0D, 0x00FE3C_00FE3C_0E,
  0x00FE3D_00FE3D_0D, 0x00FE3E_00FE3E_0E, 0x00FE3F_00FE3F_0D, 0x00FE40_00FE40_0E, 0x00FE41_00FE41_0D,
  0x00FE42_00FE42_0E, 0x00FE43_00FE43_0D, 0x00FE44_00FE44_0E, 0x00FE45_00FE46_11, 0x00FE47_00FE47_0D,
  0x00FE48_00FE48_0E, 0x00FE49_00FE4C_11, 0x00FE4D_00FE4F_0B, 0x00FE50_00FE52_11, 0x00FE54_00FE57_11,
  0x00FE58_00FE58_0C, 0x00FE59_00FE59_0D, 0x00FE5A_00FE5A_0E, 0x00FE5B_00FE5B_0D, 0x00FE5C_00FE5C_0E,
  0x00FE5D_00FE5D_0D, 0x00FE5E_00FE5E_0E, 0x00FE5F_00FE61_11, 0x00FE62_00FE62_12, 0x00FE63_00FE63_0C,
  0x00FE64_00FE66_12, 0x00FE68_00FE68_11, 0x00FE69_00FE69_13, 0x00FE6A_00FE6B_11, 0x00FE70_00FE74_04,
  0x00FE76_00FEFC_04, 0x00FEFF_00FEFF_1A, 0x00FF01_00FF03_11, 0x00FF04_00FF04_13, 0x00FF05_00FF07_11,
  0x00FF08_00FF08_0D, 0x00FF09_00FF09_0E, 0x00FF0A_00FF0A_11, 0x00FF0B_00FF0B_12, 0x00FF0C_00FF0C_11,
  0x00FF0D_00FF0D_0C, 0x00FF0E_00FF0F_11, 0x00FF10_00FF19_08, 0x00FF1A_00FF1B_11, 0x00FF1C_00FF1E_12,
  0x00FF1F_00FF20_11, 0x00FF21_00FF3A_00, 0x00FF3B_00FF3B_0D, 0x00FF3C_00FF3C_11, 0x00FF3D_00FF3D_0E,
  0x00FF3E_00FF3E_14, 0x00FF3F_00FF3F_0B, 0x00FF40_00FF40_14, 0x00FF41_00FF5A_01, 0x00FF5B_00FF5B_0D,
  0x00FF5C_00FF5C_12, 0x00FF5D_00FF5D_0E, 0x00FF5E_00FF5E_12, 0x00FF5F_00FF5F_0D, 0x00FF60_00FF60_0E,
  0x00FF61_00FF61_11, 0x00FF62_00FF62_0D, 0x00FF63_00FF63_0E, 0x00FF64_00FF65_11, 0x00FF66_00FF6F_04,
  0x00FF70_00FF70_03, 0x00FF71_00FF9D_04, 0x00FF9E_00FF9F_03, 0x00FFA0_00FFBE_04, 0x00FFC2_00FFC7_04,
  0x00FFCA_00FFCF_04, 0x00FFD2_00FFD7_04, 0x00FFDA_00FFDC_04, 0x00FFE0_00FFE1_13, 0x00FFE2_00FFE2_12,
  0x00FFE3_00FFE3_14, 0x00FFE4_00FFE4_15, 0x00FFE5_00FFE6_13, 0x00FFE8_00FFE8_15, 0x00FFE9_00FFEC_12,
  0x00FFED_00FFEE_15, 0x00FFF9_00FFFB_1A, 0x00FFFC_00FFFD_15]

/-- The category ranges that start in U+10000 to U+10FFF. -/
def ancientRows : List Nat := [
  0x010000_01000B_04, 0x01000D_010026_04, 0x010028_01003A_04, 0x01003C_01003D_04, 0x01003F_01004D_04,
  0x010050_01005D_04, 0x010080_0100FA_04, 0x010100_010102_11, 0x010107_010133_0A, 0x010137_01013F_15,
  0x010140_010174_09, 0x010175_010178_0A, 0x010179_010189_15, 0x01018A_01018B_0A, 0x01018C_01018E_15,
  0x010190_01019C_15, 0x0101A0_0101A0_15, 0x0101D0_0101FC_15, 0x0101FD_0101FD_05, 0x010280_01029C_04,
  0x0102A0_0102D0_04, 0x0102E0_0102E0_05, 0x0102E1_0102FB_0A, 0x010300_01031F_04, 0x010320_010323_0A,
  0x01032D_010340_04, 0x010341_010341_09, 0x010342_010349_04, 0x01034A_01034A_09, 0x010350_010375_04,
  0x010376_01037A_05, 0x010380_01039D_04, 0x01039F_01039F_11, 0x0103A0_0103C3_04, 0x0103C8_0103CF_04,
  0x0103D0_0103D0_11, 0x0103D1_0103D5_09, 0x010400_010427_00, 0x010428_01044F_01, 0x010450_01049D_04,
  0x0104A0_0104A9_08, 0x0104B0_0104D3_00, 0x0104D8_0104FB_01, 0x010500_010527_04, 0x010530_010563_04,
  0x01056F_01056F_11, 0x010570_01057A_00, 0x01057C_01058A_00, 0x01058C_010592_00, 0x010594_010595_00,
  0x010597_0105A1_01, 0x0105A3_0105B1_01, 0x0105B3_0105B9_01, 0x0105BB_0105BC_01, 0x0105C0_0105F3_04,
  0x010600_010736_04, 0x010740_010755_04, 0x010760_010767_04, 0x010780_010785_03, 0x010787_0107B0_03,
  0x0107B2_0107BA_03, 0x010800_010805_04, 0x010808_010808_04, 0x01080A_010835_04, 0x010837_010838_04,
  0x01083C_01083C_04, 0x01083F_010855_04, 0x010857_010857_11, 0x010858_01085F_0A, 0x010860_010876_04,
  0x010877_010878_15, 0x010879_01087F_0A, 0x010880_01089E_04, 0x0108A7_0108AF_0A, 0x0108E0_0108F2_04,
  0x0108F4_0108F5_04, 0x0108FB_0108FF_0A, 0x010900_010915_04, 0x010916_01091B_0A, 0x01091F_01091F_11,
  0x010920_010939_04, 0x01093F_01093F_11, 0x010980_0109B7_04, 0x0109BC_0109BD_0A, 0x0109BE_0109BF_04,
  0x0109C0_0109CF_0A, 0x0109D2_0109FF_0A, 0x010A00_010A00_04, 0x010A01_010A03_05, 0x010A05_010A06_05,
  0x010A0C_010A0F_05, 0x010A10_010A13_04, 0x010A15_010A17_04, 0x010A19_010A35_04, 0x010A38_010A3A_05,
  0x010A3F_010A3F_05, 0x010A40_010A48_0A, 0x010A50_010A58_11, 0x010A60_010A7C_04, 0x010A7D_010A7E_0A,
  0x010A7F_010A7F_11, 0x010A80_010A9C_04, 0x010A9D_010A9F_0A, 0x010AC0_010AC7_04, 0x010AC8_010AC8_15,
  0x010AC9_010AE4_04, 0x010AE5_010AE6_05, 0x010AEB_010AEF_0A, 0x010AF0_010AF6_11, 0x010B00_010B35_04,
  0x010B39_010B3F_11, 0x010B40_010B55_04, 0x010B58_010B5F_0A, 0x010B60_010B72_04, 0x010B78_010B7F_0A,
  0x010B80_010B91_04, 0x010B99_010B9C_11, 0x010BA9_010BAF_0A, 0x010C00_010C48_04, 0x010C80_010CB2_00,
  0x010CC0_010CF2_01, 0x010CFA_010CFF_0A, 0x010D00_010D23_04, 0x010D24_010D27_05, 0x010D30_010D39_08,
  0x010D40_010D49_08, 0x010D4A_010D4D_04, 0x010D4E_010D4E_03, 0x010D4F_010D4F_04, 0x010D50_010D65_00,
  0x010D69_010D6D_05, 0x010D6E_010D6E_0C, 0x010D6F_010D6F_03, 0x010D70_010D85_01, 0x010D8E_010D8F_12,
  0x010E60_010E7E_0A, 0x010E80_010EA9_04, 0x010EAB_010EAC_05, 0x010EAD_010EAD_0C, 0x010EB0_010EB1_04,
  0x010EC2_010EC4_04, 0x010EFC_010EFF_05, 0x010F00_010F1C_04, 0x010F1D_010F26_0A, 0x010F27_010F27_04,
  0x010F30_010F45_04, 0x010F46_010F50_05, 0x010F51_010F54_0A, 0x010F55_010F59_11, 0x010F70_010F81_04,
  0x010F82_010F85_05, 0x010F86_010F89_11, 0x010FB0_010FC4_04, 0x010FC5_010FCB_0A, 0x010FE0_010FF6_04]

/-- The category ranges that start in U+11000 to U+11FFF. -/
def brahmicRows : List Nat := [
  0x011000_011000_06, 0x011001_011001_05, 0x011002_011002_06, 0x011003_011037_04, 0x011038_011046_05,
  0x011047_01104D_11, 0x011052_011065_0A, 0x011066_01106F_08, 0x011070_011070_05, 0x011071_011072_04,
  0x011073_011074_05, 0x011075_011075_04, 0x01107F_011081_05, 0x011082_011082_06, 0x011083_0110AF_04,
  0x0110B0_0110B2_06, 0x0110B3_0110B6_05, 0x0110B7_0110B8_06, 0x0110B9_0110BA_05, 0x0110BB_0110BC_11,
  0x0110BD_0110BD_1A, 0x0110BE_0110C1_11, 0x0110C2_0110C2_05, 0x0110CD_0110CD_1A, 0x0110D0_0110E8_04,
  0x0110F0_0110F9_08, 0x011100_011102_05, 0x011103_011126_04, 0x011127_01112B_05, 0x01112C_01112C_06,
  0x01112D_011134_05, 0x011136_01113F_08, 0x011140_011143_11, 0x011144_011144_04, 0x011145_011146_06,
  0x011147_011147_04, 0x011150_011172_04, 0x011173_011173_05, 0x011174_011175_11, 0x011176_011176_04,
  0x011180_011181_05, 0x011182_011182_06, 0x011183_0111B2_04, 0x0111B3_0111B5_06, 0x0111B6_0111BE_05,
  0x0111BF_0111C0_06, 0x0111C1_0111C4_04, 0x0111C5_0111C8_11, 0x0111C9_0111CC_05, 0x0111CD_0111CD_11,
  0x0111CE_0111CE_06, 0x0111CF_0111CF_05, 0x0111D0_0111D9_08, 0x0111DA_0111DA_04, 0x0111DB_0111DB_11,
  0x0111DC_0111DC_04, 0x0111DD_0111DF_11, 0x0111E1_0111F4_0A, 0x011200_011211_04, 0x011213_01122B_04,
  0x01122C_01122E_06, 0x01122F_011231_05, 0x011232_011233_06, 0x011234_011234_05, 0x011235_011235_06,
  0x011236_011237_05, 0x011238_01123D_11, 0x01123E_01123E_05, 0x01123F_011240_04, 0x011241_011241_05,
  0x011280_011286_04, 0x011288_011288_04, 0x01128A_01128D_04, 0x01128F_01129D_04, 0x01129F_0112A8_04,
  0x0112A9_0112A9_11, 0x0112B0_0112DE_04, 0x0112DF_0112DF_05, 0x0112E0_0112E2_06, 0x0112E3_0112EA_05,
  0x0112F0_0112F9_08, 0x011300_011301_05, 0x011302_011303_06, 0x011305_01130C_04, 0x01130F_011310_04,
  0x011313_011328_04, 0x01132A_011330_04, 0x011332_011333_04, 0x011335_011339_04, 0x01133B_01133C_05,
  0x01133D_01133D_04, 0x01133E_01133F_06, 0x011340_011340_05, 0x011341_011344_06, 0x011347_011348_06,
  0x01134B_01134D_06, 0x011350_011350_04, 0x011357_011357_06, 0x01135D_011361_04, 0x011362_011363_06,
  0x011366_01136C_05, 0x011370_011374_05, 0x011380_011389_04, 0x01138B_01138B_04, 0x01138E_01138E_04,
  0x011390_0113B5_04, 0x0113B7_0113B7_04, 0x0113B8_0113BA_06, 0x0113BB_0113C0_05, 0x0113C2_0113C2_06,
  0x0113C5_0113C5_06, 0x0113C7_0113CA_06, 0x0113CC_0113CD_06, 0x0113CE_0113CE_05, 0x0113CF_0113CF_06,
  0x0113D0_0113D0_05, 0x0113D1_0113D1_04, 0x0113D2_0113D2_05, 0x0113D3_0113D3_04, 0x0113D4_0113D5_11,
  0x0113D7_0113D8_11, 0x0113E1_0113E2_05, 0x011400_011434_04, 0x011435_011437_06, 0x011438_01143F_05,
  0x011440_011441_06, 0x011442_011444_05, 0x011445_011445_06, 0x011446_011446_05, 0x011447_01144A_04,
  0x01144B_01144F_11, 0x011450_011459_08, 0x01145A_01145B_11, 0x01145D_01145D_11, 0x01145E_01145E_05,
  0x01145F_011461_04, 0x011480_0114AF_04, 0x0114B0_0114B2_06, 0x0114B3_0114B8_05, 0x0114B9_0114B9_06,
  0x0114BA_0114BA_05, 0x0114BB_0114BE_06, 0x0114BF_0114C0_05, 0x0114C1_0114C1_06, 0x0114C2_0114C3_05,
  0x0114C4_0114C5_04, 0x0114C6_0114C6_11, 0x0114C7_0114C7_04, 0x0114D0_0114D9_08, 0x011580_0115AE_04,
  0x0115AF_0115B1_06, 0x0115B2_0115B5_05, 0x0115B8_0115BB_06, 0x0115BC_0115BD_05, 0x0115BE_0115BE_06,
  0x0115BF_0115C0_05, 0x0115C1_0115D7_11, 0x0115D8_0115DB_04, 0x0115DC_0115DD_05, 0x011600_01162F_04,
  0x011630_011632_06, 0x011633_01163A_05, 0x01163B_01163C_06, 0x01163D_01163D_05, 0x01163E_01163E_06,
  0x01163F_011640_05, 0x011641_011643_11, 0x011644_011644_04, 0x011650_011659_08, 0x011660_01166C_11,
  0x011680_0116AA_04, 0x0116AB_0116AB_05, 0x0116AC_0116AC_06, 0x0116AD_0116AD_05, 0x0116AE_0116AF_06,
  0x0116B0_0116B5_05, 0x0116B6_0116B6_06, 0x0116B7_0116B7_05, 0x0116B8_0116B8_04, 0x0116B9_0116B9_11,
  0x0116C0_0116C9_08, 0x0116D0_0116E3_08, 0x011700_01171A_04, 0x01171D_01171D_05, 0x01171E_01171E_06,
  0x01171F_01171F_05, 0x011720_011721_06, 0x011722_011725_05, 0x011726_011726_06, 0x011727_01172B_05,
  0x011730_011739_08, 0x01173A_01173B_0A, 0x01173C_01173E_11, 0x01173F_01173F_15, 0x011740_011746_04,
  0x011800_01182B_04, 0x01182C_01182E_06, 0x01182F_011837_05, 0x011838_011838_06, 0x011839_01183A_05,
  0x01183B_01183B_11, 0x0118A0_0118BF_00, 0x0118C0_0118DF_01, 0x0118E0_0118E9_08, 0x0118EA_0118F2_0A,
  0x0118FF_011906_04, 0x011909_011909_04, 0x01190C_011913_04, 0x011915_011916_04, 0x011918_01192F_04,
  0x011930_011935_06, 0x011937_011938_06, 0x01193B_01193C_05, 0x01193D_01193D_06, 0x01193E_01193E_05,
  0x01193F_01193F_04, 0x011940_011940_06, 0x011941_011941_04, 0x011942_011942_06, 0x011943_011943_05,
  0x011944_011946_11, 0x011950_011959_08, 0x0119A0_0119A7_04, 0x0119AA_0119D0_04, 0x0119D1_0119D3_06,
  0x0119D4_0119D7_05, 0x0119DA_0119DB_05, 0x0119DC_0119DF_06, 0x0119E0_0119E0_05, 0x0119E1_0119E1_04,
  0x0119E2_0119E2_11, 0x0119E3_0119E3_04, 0x0119E4_0119E4_06, 0x011A00_011A00_04, 0x011A01_011A0A_05,
  0x011A0B_011A32_04, 0x011A33_011A38_05, 0x011A39_011A39_06, 0x011A3A_011A3A_04, 0x011A3B_011A3E_05,
  0x011A3F_011A46_11, 0x011A47_011A47_05, 0x011A50_011A50_04, 0x011A51_011A56_05, 0x011A57_011A58_06,
  0x011A59_011A5B_05, 0x011A5C_011A89_04, 0x011A8A_011A96_05, 0x011A97_011A97_06, 0x011A98_011A99_05,
  0x011A9A_011A9C_11, 0x011A9D_011A9D_04, 0x011A9E_011AA2_11, 0x011AB0_011AF8_04, 0x011B00_011B09_11,
  0x011BC0_011BE0_04, 0x011BE1_011BE1_11, 0x011BF0_011BF9_08, 0x011C00_011C08_04, 0x011C0A_011C2E_04,
  0x011C2F_011C2F_06, 0x011C30_011C36_05, 0x011C38_011C3D_05, 0x011C3E_011C3E_06, 0x011C3F_011C3F_05,
  0x011C40_011C40_04, 0x011C41_011C45_11, 0x011C50_011C59_08, 0x011C5A_011C6C_0A, 0x011C70_011C71_11,
  0x011C72_011C8F_04, 0x011C92_011CA7_05, 0x011CA9_011CA9_06, 0x011CAA_011CB0_05, 0x011CB1_011CB1_06,
  0x011CB2_011CB3_05, 0x011CB4_011CB4_06, 0x011CB5_011CB6_05, 0x011D00_011D06_04, 0x011D08_011D09_04,
  0x011D0B_011D30_04, 0x011D31_011D36_05, 0x011D3A_011D3A_05, 0x011D3C_011D3D_05, 0x011D3F_011D45_05,
  0x011D46_011D46_04, 0x011D47_011D47_05, 0x011D50_011D59_08, 0x011D60_011D65_04, 0x011D67_011D68_04,
  0x011D6A_011D89_04, 0x011D8A_011D8E_06, 0x011D90_011D91_05, 0x011D93_011D94_06, 0x011D95_011D95_05,
  0x011D96_011D96_06, 0x011D97_011D97_05, 0x011D98_011D98_04, 0x011DA0_011DA9_08, 0x011EE0_011EF2_04,
  0x011EF3_011EF4_05, 0x011EF5_011EF6_06, 0x011EF7_011EF8_11, 0x011F00_011F01_05, 0x011F02_011F02_04,
  0x011F03_011F03_06, 0x011F04_011F10_04, 0x011F12_011F33_04, 0x011F34_011F35_06, 0x011F36_011F3A_05,
  0x011F3E_011F3F_06, 0x011F40_011F40_05, 0x011F41_011F41_06, 0x011F42_011F42_05, 0x011F43_011F4F_11,
  0x011F50_011F59_08, 0x011F5A_011F5A_05, 0x011FB0_011FB0_04, 0x011FC0_011FD4_0A, 0x011FD5_011FDC_15,
  0x011FDD_011FE0_13, 0x011FE1_011FF1_15, 0x011FFF_011FFF_11]

/-- The category ranges that start in U+12000 to U+1D3FF. -/
def upperRows : List Nat := [
  0x012000_012399_04, 0x012400_01246E_09, 0x012470_012474_11, 0x012480_012543_04, 0x012F90_012FF0_04,
  0x012FF1_012FF2_11, 0x013000_01342F_04, 0x013430_01343F_1A, 0x013440_013440_05, 0x013441_013446_04,
  0x013447_013455_05, 0x013460_0143FA_04, 0x014400_014646_04, 0x016100_01611D_04, 0x01611E_016129_05,
  0x01612A_01612C_06, 0x01612D_01612F_05, 0x016130_016139_08, 0x016800_016A38_04, 0x016A40_016A5E_04,
  0x016A60_016A69_08, 0x016A6E_016A6F_11, 0x016A70_016ABE_04, 0x016AC0_016AC9_08, 0x016AD0_016AED_04,
  0x016AF0_016AF4_05, 0x016AF5_016AF5_11, 0x016B00_016B2F_04, 0x016B30_016B36_05, 0x016B37_016B3B_11,
  0x016B3C_016B3F_15, 0x016B40_016B43_03, 0x016B44_016B44_11, 0x016B45_016B45_15, 0x016B50_016B59_08,
  0x016B5B_016B61_0A, 0x016B63_016B77_04, 0x016B7D_016B8F_04, 0x016D40_016D42_03, 0x016D43_016D6A_04,
  0x016D6B_016D6C_03, 0x016D6D_016D6F_11, 0x016D70_016D79_08, 0x016E40_016E5F_00, 0x016E60_016E7F_01,
  0x016E80_016E96_0A, 0x016E97_016E9A_11, 0x016F00_016F4A_04, 0x016F4F_016F4F_05, 0x016F50_016F50_04,
  0x016F51_016F87_06, 0x016F8F_016F92_05, 0x016F93_016F9F_03, 0x016FE0_016FE1_03, 0x016FE2_016FE2_11,
  0x016FE3_016FE3_03, 0x016FE4_016FE4_05, 0x016FF0_016FF1_06, 0x017000_0187F7_04, 0x018800_018CD5_04,
  0x018CFF_018D08_04, 0x01AFF0_01AFF3_03, 0x01AFF5_01AFFB_03, 0x01AFFD_01AFFE_03, 0x01B000_01B122_04,
  0x01B132_01B132_04, 0x01B150_01B152_04, 0x01B155_01B155_04, 0x01B164_01B167_04, 0x01B170_01B2FB_04,
  0x01BC00_01BC6A_04, 0x01BC70_01BC7C_04, 0x01BC80_01BC88_04, 0x01BC90_01BC99_04, 0x01BC9C_01BC9C_15,
  0x01BC9D_01BC9E_05, 0x01BC9F_01BC9F_11, 0x01BCA0_01BCA3_1A, 0x01CC00_01CCEF_15, 0x01CCF0_01CCF9_08,
  0x01CD00_01CEB3_15, 0x01CF00_01CF2D_05, 0x01CF30_01CF46_05, 0x01CF50_01CFC3_15, 0x01D000_01D0F5_15,
  0x01D100_01D126_15, 0x01D129_01D164_15, 0x01D165_01D166_06, 0x01D167_01D169_05, 0x01D16A_01D16C_15,
  0x01D16D_01D172_06, 0x01D173_01D17A_1A, 0x01D17B_01D182_05, 0x01D183_01D184_15, 0x01D185_01D18B_05,
  0x01D18C_01D1A9_15, 0x01D1AA_01D1AD_05, 0x01D1AE_01D1EA_15, 0x01D200_01D241_15, 0x01D242_01D244_05,
  0x01D245_01D245_15, 0x01D2C0_01D2D3_0A, 0x01D2E0_01D2F3_0A, 0x01D300_01D356_15, 0x01D360_01D378_0A]

/-- The category ranges that start in U+1D400 to U+10FFFF. -/
def outerRows : List Nat := [
  0x01D400_01D419_00, 0x01D41A_01D433_01, 0x01D434_01D44D_00, 0x01D44E_01D454_01, 0x01D456_01D467_01,
  0x01D468_01D481_00, 0x01D482_01D49B_01, 0x01D49C_01D49C_00, 0x01D49E_01D49F_00, 0x01D4A2_01D4A2_00,
  0x01D4A5_01D4A6_00, 0x01D4A9_01D4AC_00, 0x01D4AE_01D4B5_00, 0x01D4B6_01D4B9_01, 0x01D4BB_01D4BB_01,
  0x01D4BD_01D4C3_01, 0x01D4C5_01D4CF_01, 0x01D4D0_01D4E9_00, 0x01D4EA_01D503_01, 0x01D504_01D505_00,
  0x01D507_01D50A_00, 0x01D50D_01D514_00, 0x01D516_01D51C_00, 0x01D51E_01D537_01, 0x01D538_01D539_00,
  0x01D53B_01D53E_00, 0x01D540_01D544_00, 0x01D546_01D546_00, 0x01D54A_01D550_00, 0x01D552_01D56B_01,
  0x01D56C_01D585_00, 0x01D586_01D59F_01, 0x01D5A0_01D5B9_00, 0x01D5BA_01D5D3_01, 0x01D5D4_01D5ED_00,
  0x01D5EE_01D607_01, 0x01D608_01D621_00, 0x01D622_01D63B_01, 0x01D63C_01D655_00, 0x01D656_01D66F_01,
  0x01D670_01D689_00, 0x01D68A_01D6A5_01, 0x01D6A8_01D6C0_00, 0x01D6C1_01D6C1_12, 0x01D6C2_01D6DA_01,
  0x01D6DB_01D6DB_12, 0x01D6DC_01D6E1_01, 0x01D6E2_01D6FA_00, 0x01D6FB_01D6FB_12, 0x01D6FC_01D714_01,
  0x01D715_01D715_12, 0x01D716_01D71B_01, 0x01D71C_01D734_00, 0x01D735_01D735_12, 0x01D736_01D74E_01,
  0x01D74F_01D74F_12, 0x01D750_01D755_01, 0x01D756_01D76E_00, 0x01D76F_01D76F_12, 0x01D770_01D788_01,
  0x01D789_01D789_12, 0x01D78A_01D78F_01, 0x01D790_01D7A8_00, 0x01D7A9_01D7A9_12, 0x01D7AA_01D7C2_01,
  0x01D7C3_01D7C3_12, 0x01D7C4_01D7C9_01, 0x01D7CA_01D7CA_00, 0x01D7CB_01D7CB_01, 0x01D7CE_01D7FF_08,
  0x01D800_01D9FF_15, 0x01DA00_01DA36_05, 0x01DA37_01DA3A_15, 0x01DA3B_01DA6C_05, 0x01DA6D_01DA74_15,
  0x01DA75_01DA75_05, 0x01DA76_01DA83_15, 0x01DA84_01DA84_05, 0x01DA85_01DA86_15, 0x01DA87_01DA8B_11,
  0x01DA9B_01DA9F_05, 0x01DAA1_01DAAF_05, 0x01DF00_01DF09_01, 0x01DF0A_01DF0A_04, 0x01DF0B_01DF1E_01,
  0x01DF25_01DF2A_01, 0x01E000_01E006_05, 0x01E008_01E018_05, 0x01E01B_01E021_05, 0x01E023_01E024_05,
  0x01E026_01E02A_05, 0x01E030_01E06D_03, 0x01E08F_01E08F_05, 0x01E100_01E12C_04, 0x01E130_01E136_05,
  0x01E137_01E13D_03, 0x01E140_01E149_08, 0x01E14E_01E14E_04, 0x01E14F_01E14F_15, 0x01E290_01E2AD_04,
  0x01E2AE_01E2AE_05, 0x01E2C0_01E2EB_04, 0x01E2EC_01E2EF_05, 0x01E2F0_01E2F9_08, 0x01E2FF_01E2FF_13,
  0x01E4D0_01E4EA_04, 0x01E4EB_01E4EB_03, 0x01E4EC_01E4EF_05, 0x01E4F0_01E4F9_08, 0x01E5D0_01E5ED_04,
  0x01E5EE_01E5EF_05, 0x01E5F0_01E5F0_04, 0x01E5F1_01E5FA_08, 0x01E5FF_01E5FF_11, 0x01E7E0_01E7E6_04,
  0x01E7E8_01E7EB_04, 0x01E7ED_01E7EE_04, 0x01E7F0_01E7FE_04, 0x01E800_01E8C4_04, 0x01E8C7_01E8CF_0A,
  0x01E8D0_01E8D6_05, 0x01E900_01E921_00, 0x01E922_01E943_01, 0x01E944_01E94A_05, 0x01E94B_01E94B_03,
  0x01E950_01E959_08, 0x01E95E_01E95F_11, 0x01EC71_01ECAB_0A, 0x01ECAC_01ECAC_15, 0x01ECAD_01ECAF_0A,
  0x01ECB0_01ECB0_13, 0x01ECB1_01ECB4_0A, 0x01ED01_01ED2D_0A, 0x01ED2E_01ED2E_15, 0x01ED2F_01ED3D_0A,
  0x01EE00_01EE03_04, 0x01EE05_01EE1F_04, 0x01EE21_01EE22_04, 0x01EE24_01EE24_04, 0x01EE27_01EE27_04,
  0x01EE29_01EE32_04, 0x01EE34_01EE37_04, 0x01EE39_01EE39_04, 0x01EE3B_01EE3B_04, 0x01EE42_01EE42_04,
  0x01EE47_01EE47_04, 0x01EE49_01EE49_04, 0x01EE4B_01EE4B_04, 0x01EE4D_01EE4F_04, 0x01EE51_01EE52_04,
  0x01EE54_01EE54_04, 0x01EE57_01EE57_04, 0x01EE59_01EE59_04, 0x01EE5B_01EE5B_04, 0x01EE5D_01EE5D_04,
  0x01EE5F_01EE5F_04, 0x01EE61_01EE62_04, 0x01EE64_01EE64_04, 0x01EE67_01EE6A_04, 0x01EE6C_01EE72_04,
  0x01EE74_01EE77_04, 0x01EE79_01EE7C_04, 0x01EE7E_01EE7E_04, 0x01EE80_01EE89_04, 0x01EE8B_01EE9B_04,
  0x01EEA1_01EEA3_04, 0x01EEA5_01EEA9_04, 0x01EEAB_01EEBB_04, 0x01EEF0_01EEF1_12, 0x01F000_01F02B_15,
  0x01F030_01F093_15, 0x01F0A0_01F0AE_15, 0x01F0B1_01F0BF_15, 0x01F0C1_01F0CF_15, 0x01F0D1_01F0F5_15,
  0x01F100_01F10C_0A, 0x01F10D_01F1AD_15, 0x01F1E6_01F202_15, 0x01F210_01F23B_15, 0x01F240_01F248_15,
  0x01F250_01F251_15, 0x01F260_01F265_15, 0x01F300_01F3FA_15, 0x01F3FB_01F3FF_14, 0x01F400_01F6D7_15,
  0x01F6DC_01F6EC_15, 0x01F6F0_01F6FC_15, 0x01F700_01F776_15, 0x01F77B_01F7D9_15, 0x01F7E0_01F7EB_15,
  0x01F7F0_01F7F0_15, 0x01F800_01F80B_15, 0x01F810_01F847_15, 0x01F850_01F859_15, 0x01F860_01F887_15,
  0x01F890_01F8AD_15, 0x01F8B0_01F8BB_15, 0x01F8C0_01F8C1_15, 0x01F900_01FA53_15, 0x01FA60_01FA6D_15,
  0x01FA70_01FA7C_15, 0x01FA80_01FA89_15, 0x01FA8F_01FAC6_15, 0x01FACE_01FADC_15, 0x01FADF_01FAE9_15,
  0x01FAF0_01FAF8_15, 0x01FB00_01FB92_15, 0x01FB94_01FBEF_15, 0x01FBF0_01FBF9_08, 0x020000_02A6DF_04,
  0x02A700_02B739_04, 0x02B740_02B81D_04, 0x02B820_02CEA1_04, 0x02CEB0_02EBE0_04, 0x02EBF0_02EE5D_04,
  0x02F800_02FA1D_04, 0x030000_03134A_04, 0x031350_0323AF_04, 0x0E0001_0E0001_1A, 0x0E0020_0E007F_1A,
  0x0E0100_0E01EF_05, 0x0F0000_0FFFFD_1B, 0x100000_10FFFD_1B]

end ChatModeration.Text.CategoryTable
