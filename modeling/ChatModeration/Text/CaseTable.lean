/-!
# Ranges of the case mappings

A row maps every character of a range at a distance of one or two code points: it holds the first code point, the
last one, the image of the first and the distance, in hexadecimal groups.  The image of the `n`-th mapped character
lies as far from the image of the first as the character lies from the first.
-/

namespace ChatModeration.Text

/-- Lowercase mappings to one character, in ascending order of the first code point. -/
def lowerRows : List Nat := [
  0x000041_00005A_000061_1, 0x0000C0_0000D6_0000E0_1, 0x0000D8_0000DE_0000F8_1,
  0x000100_00012E_000101_2, 0x000132_000136_000133_2, 0x000139_000147_00013A_2,
  0x00014A_000176_00014B_2, 0x000178_000178_0000FF_1, 0x000179_00017D_00017A_2,
  0x000181_000181_000253_1, 0x000182_000184_000183_2, 0x000186_000186_000254_1,
  0x000187_000187_000188_1, 0x000189_00018A_000256_1, 0x00018B_00018B_00018C_1,
  0x00018E_00018E_0001DD_1, 0x00018F_00018F_000259_1, 0x000190_000190_00025B_1,
  0x000191_000191_000192_1, 0x000193_000193_000260_1, 0x000194_000194_000263_1,
  0x000196_000196_000269_1, 0x000197_000197_000268_1, 0x000198_000198_000199_1,
  0x00019C_00019C_00026F_1, 0x00019D_00019D_000272_1, 0x00019F_00019F_000275_1,
  0x0001A0_0001A4_0001A1_2, 0x0001A6_0001A6_000280_1, 0x0001A7_0001A7_0001A8_1,
  0x0001A9_0001A9_000283_1, 0x0001AC_0001AC_0001AD_1, 0x0001AE_0001AE_000288_1,
  0x0001AF_0001AF_0001B0_1, 0x0001B1_0001B2_00028A_1, 0x0001B3_0001B5_0001B4_2,
  0x0001B7_0001B7_000292_1, 0x0001B8_0001B8_0001B9_1, 0x0001BC_0001BC_0001BD_1,
  0x0001C4_0001C4_0001C6_1, 0x0001C5_0001C5_0001C6_1, 0x0001C7_0001C7_0001C9_1,
  0x0001C8_0001C8_0001C9_1, 0x0001CA_0001CA_0001CC_1, 0x0001CB_0001DB_0001CC_2,
  0x0001DE_0001EE_0001DF_2, 0x0001F1_0001F1_0001F3_1, 0x0001F2_0001F4_0001F3_2,
  0x0001F6_0001F6_000195_1, 0x0001F7_0001F7_0001BF_1, 0x0001F8_00021E_0001F9_2,
  0x000220_000220_00019E_1, 0x000222_000232_000223_2, 0x00023A_00023A_002C65_1,
  0x00023B_00023B_00023C_1, 0x00023D_00023D_00019A_1, 0x00023E_00023E_002C66_1,
  0x000241_000241_000242_1, 0x000243_000243_000180_1, 0x000244_000244_000289_1,
  0x000245_000245_00028C_1, 0x000246_00024E_000247_2, 0x000370_000372_000371_2,
  0x000376_000376_000377_1, 0x00037F_00037F_0003F3_1, 0x000386_000386_0003AC_1,
  0x000388_00038A_0003AD_1, 0x00038C_00038C_0003CC_1, 0x00038E_00038F_0003CD_1,
  0x000391_0003A1_0003B1_1, 0x0003A3_0003AB_0003C3_1, 0x0003CF_0003CF_0003D7_1,
  0x0003D8_0003EE_0003D9_2, 0x0003F4_0003F4_0003B8_1, 0x0003F7_0003F7_0003F8_1,
  0x0003F9_0003F9_0003F2_1, 0x0003FA_0003FA_0003FB_1, 0x0003FD_0003FF_00037B_1,
  0x000400_00040F_000450_1, 0x000410_00042F_000430_1, 0x000460_000480_000461_2,
  0x00048A_0004BE_00048B_2, 0x0004C0_0004C0_0004CF_1, 0x0004C1_0004CD_0004C2_2,
  0x0004D0_00052E_0004D1_2, 0x000531_000556_000561_1, 0x0010A0_0010C5_002D00_1,
  0x0010C7_0010C7_002D27_1, 0x0010CD_0010CD_002D2D_1, 0x0013A0_0013EF_00AB70_1,
  0x0013F0_0013F5_0013F8_1, 0x001C89_001C89_001C8A_1, 0x001C90_001CBA_0010D0_1,
  0x001CBD_001CBF_0010FD_1, 0x001E00_001E94_001E01_2, 0x001E9E_001E9E_0000DF_1,
  0x001EA0_001EFE_001EA1_2, 0x001F08_001F0F_001F00_1, 0x001F18_001F1D_001F10_1,
  0x001F28_001F2F_001F20_1, 0x001F38_001F3F_001F30_1, 0x001F48_001F4D_001F40_1,
  0x001F59_001F5F_001F51_2, 0x001F68_001F6F_001F60_1, 0x001F88_001F8F_001F80_1,
  0x001F98_001F9F_001F90_1, 0x001FA8_001FAF_001FA0_1, 0x001FB8_001FB9_001FB0_1,
  0x001FBA_001FBB_001F70_1, 0x001FBC_001FBC_001FB3_1, 0x001FC8_001FCB_001F72_1,
  0x001FCC_001FCC_001FC3_1, 0x001FD8_001FD9_001FD0_1, 0x001FDA_001FDB_001F76_1,
  0x001FE8_001FE9_001FE0_1, 0x001FEA_001FEB_001F7A_1, 0x001FEC_001FEC_001FE5_1,
  0x001FF8_001FF9_001F78_1, 0x001FFA_001FFB_001F7C_1, 0x001FFC_001FFC_001FF3_1,
  0x002126_002126_0003C9_1, 0x00212A_00212A_00006B_1, 0x00212B_00212B_0000E5_1,
  0x002132_002132_00214E_1, 0x002160_00216F_002170_1, 0x002183_002183_002184_1,
  0x0024B6_0024CF_0024D0_1, 0x002C00_002C2F_002C30_1, 0x002C60_002C60_002C61_1,
  0x002C62_002C62_00026B_1, 0x002C63_002C63_001D7D_1, 0x002C64_002C64_00027D_1,
  0x002C67_002C6B_002C68_2, 0x002C6D_002C6D_000251_1, 0x002C6E_002C6E_000271_1,
  0x002C6F_002C6F_000250_1, 0x002C70_002C70_000252_1, 0x002C72_002C72_002C73_1,
  0x002C75_002C75_002C76_1, 0x002C7E_002C7F_00023F_1, 0x002C80_002CE2_002C81_2,
  0x002CEB_002CED_002CEC_2, 0x002CF2_002CF2_002CF3_1, 0x00A640_00A66C_00A641_2,
  0x00A680_00A69A_00A681_2, 0x00A722_00A72E_00A723_2, 0x00A732_00A76E_00A733_2,
  0x00A779_00A77B_00A77A_2, 0x00A77D_00A77D_001D79_1, 0x00A77E_00A786_00A77F_2,
  0x00A78B_00A78B_00A78C_1, 0x00A78D_00A78D_000265_1, 0x00A790_00A792_00A791_2,
  0x00A796_00A7A8_00A797_2, 0x00A7AA_00A7AA_000266_1, 0x00A7AB_00A7AB_00025C_1,
  0x00A7AC_00A7AC_000261_1, 0x00A7AD_00A7AD_00026C_1, 0x00A7AE_00A7AE_00026A_1,
  0x00A7B0_00A7B0_00029E_1, 0x00A7B1_00A7B1_000287_1, 0x00A7B2_00A7B2_00029D_1,
  0x00A7B3_00A7B3_00AB53_1, 0x00A7B4_00A7C2_00A7B5_2, 0x00A7C4_00A7C4_00A794_1,
  0x00A7C5_00A7C5_000282_1, 0x00A7C6_00A7C6_001D8E_1, 0x00A7C7_00A7C9_00A7C8_2,
  0x00A7CB_00A7CB_000264_1, 0x00A7CC_00A7CC_00A7CD_1, 0x00A7D0_00A7D0_00A7D1_1,
  0x00A7D6_00A7DA_00A7D7_2, 0x00A7DC_00A7DC_00019B_1, 0x00A7F5_00A7F5_00A7F6_1,
  0x00FF21_00FF3A_00FF41_1, 0x010400_010427_010428_1, 0x0104B0_0104D3_0104D8_1,
  0x010570_01057A_010597_1, 0x01057C_01058A_0105A3_1, 0x01058C_010592_0105B3_1,
  0x010594_010595_0105BB_1, 0x010C80_010CB2_010CC0_1, 0x010D50_010D65_010D70_1,
  0x0118A0_0118BF_0118C0_1, 0x016E40_016E5F_016E60_1, 0x01E900_01E921_01E922_1]

/-- Simple case folding, in ascending order of the first code point. -/
def foldRows : List Nat := [
  0x000041_00005A_000061_1, 0x0000B5_0000B5_0003BC_1, 0x0000C0_0000D6_0000E0_1,
  0x0000D8_0000DE_0000F8_1, 0x000100_00012E_000101_2, 0x000132_000136_000133_2,
  0x000139_000147_00013A_2, 0x00014A_000176_00014B_2, 0x000178_000178_0000FF_1,
  0x000179_00017D_00017A_2, 0x00017F_00017F_000073_1, 0x000181_000181_000253_1,
  0x000182_000184_000183_2, 0x000186_000186_000254_1, 0x000187_000187_000188_1,
  0x000189_00018A_000256_1, 0x00018B_00018B_00018C_1, 0x00018E_00018E_0001DD_1,
  0x00018F_00018F_000259_1, 0x000190_000190_00025B_1, 0x000191_000191_000192_1,
  0x000193_000193_000260_1, 0x000194_000194_000263_1, 0x000196_000196_000269_1,
  0x000197_000197_000268_1, 0x000198_000198_000199_1, 0x00019C_00019C_00026F_1,
  0x00019D_00019D_000272_1, 0x00019F_00019F_000275_1, 0x0001A0_0001A4_0001A1_2,
  0x0001A6_0001A6_000280_1, 0x0001A7_0001A7_0001A8_1, 0x0001A9_0001A9_000283_1,
  0x0001AC_0001AC_0001AD_1, 0x0001AE_0001AE_000288_1, 0x0001AF_0001AF_0001B0_1,
  0x0001B1_0001B2_00028A_1, 0x0001B3_0001B5_0001B4_2, 0x0001B7_0001B7_000292_1,
  0x0001B8_0001B8_0001B9_1, 0x0001BC_0001BC_0001BD_1, 0x0001C4_0001C4_0001C6_1,
  0x0001C5_0001C5_0001C6_1, 0x0001C7_0001C7_0001C9_1, 0x0001C8_0001C8_0001C9_1,
  0x0001CA_0001CA_0001CC_1, 0x0001CB_0001DB_0001CC_2, 0x0001DE_0001EE_0001DF_2,
  0x0001F1_0001F1_0001F3_1, 0x0001F2_0001F4_0001F3_2, 0x0001F6_0001F6_000195_1,
  0x0001F7_0001F7_0001BF_1, 0x0001F8_00021E_0001F9_2, 0x000220_000220_00019E_1,
  0x000222_000232_000223_2, 0x00023A_00023A_002C65_1, 0x00023B_00023B_00023C_1,
  0x00023D_00023D_00019A_1, 0x00023E_00023E_002C66_1, 0x000241_000241_000242_1,
  0x000243_000243_000180_1, 0x000244_000244_000289_1, 0x000245_000245_00028C_1,
  0x000246_00024E_000247_2, 0x000345_000345_0003B9_1, 0x000370_000372_000371_2,
  0x000376_000376_000377_1, 0x00037F_00037F_0003F3_1, 0x000386_000386_0003AC_1,
  0x000388_00038A_0003AD_1, 0x00038C_00038C_0003CC_1, 0x00038E_00038F_0003CD_1,
  0x000391_0003A1_0003B1_1, 0x0003A3_0003AB_0003C3_1, 0x0003C2_0003C2_0003C3_1,
  0x0003CF_0003CF_0003D7_1, 0x0003D0_0003D0_0003B2_1, 0x0003D1_0003D1_0003B8_1,
  0x0003D5_0003D5_0003C6_1, 0x0003D6_0003D6_0003C0_1, 0x0003D8_0003EE_0003D9_2,
  0x0003F0_0003F0_0003BA_1, 0x0003F1_0003F1_0003C1_1, 0x0003F4_0003F4_0003B8_1,
  0x0003F5_0003F5_0003B5_1, 0x0003F7_0003F7_0003F8_1, 0x0003F9_0003F9_0003F2_1,
  0x0003FA_0003FA_0003FB_1, 0x0003FD_0003FF_00037B_1, 0x000400_00040F_000450_1,
  0x000410_00042F_000430_1, 0x000460_000480_000461_2, 0x00048A_0004BE_00048B_2,
  0x0004C0_0004C0_0004CF_1, 0x0004C1_0004CD_0004C2_2, 0x0004D0_00052E_0004D1_2,
  0x000531_000556_000561_1, 0x0010A0_0010C5_002D00_1, 0x0010C7_0010C7_002D27_1,
  0x0010CD_0010CD_002D2D_1, 0x0013F8_0013FD_0013F0_1, 0x001C80_001C80_000432_1,
  0x001C81_001C81_000434_1, 0x001C82_001C82_00043E_1, 0x001C83_001C84_000441_1,
  0x001C85_001C85_000442_1, 0x001C86_001C86_00044A_1, 0x001C87_001C87_000463_1,
  0x001C88_001C88_00A64B_1, 0x001C89_001C89_001C8A_1, 0x001C90_001CBA_0010D0_1,
  0x001CBD_001CBF_0010FD_1, 0x001E00_001E94_001E01_2, 0x001E9B_001E9B_001E61_1,
  0x001E9E_001E9E_0000DF_1, 0x001EA0_001EFE_001EA1_2, 0x001F08_001F0F_001F00_1,
  0x001F18_001F1D_001F10_1, 0x001F28_001F2F_001F20_1, 0x001F38_001F3F_001F30_1,
  0x001F48_001F4D_001F40_1, 0x001F59_001F5F_001F51_2, 0x001F68_001F6F_001F60_1,
  0x001F88_001F8F_001F80_1, 0x001F98_001F9F_001F90_1, 0x001FA8_001FAF_001FA0_1,
  0x001FB8_001FB9_001FB0_1, 0x001FBA_001FBB_001F70_1, 0x001FBC_001FBC_001FB3_1,
  0x001FBE_001FBE_0003B9_1, 0x001FC8_001FCB_001F72_1, 0x001FCC_001FCC_001FC3_1,
  0x001FD3_001FD3_000390_1, 0x001FD8_001FD9_001FD0_1, 0x001FDA_001FDB_001F76_1,
  0x001FE3_001FE3_0003B0_1, 0x001FE8_001FE9_001FE0_1, 0x001FEA_001FEB_001F7A_1,
  0x001FEC_001FEC_001FE5_1, 0x001FF8_001FF9_001F78_1, 0x001FFA_001FFB_001F7C_1,
  0x001FFC_001FFC_001FF3_1, 0x002126_002126_0003C9_1, 0x00212A_00212A_00006B_1,
  0x00212B_00212B_0000E5_1, 0x002132_002132_00214E_1, 0x002160_00216F_002170_1,
  0x002183_002183_002184_1, 0x0024B6_0024CF_0024D0_1, 0x002C00_002C2F_002C30_1,
  0x002C60_002C60_002C61_1, 0x002C62_002C62_00026B_1, 0x002C63_002C63_001D7D_1,
  0x002C64_002C64_00027D_1, 0x002C67_002C6B_002C68_2, 0x002C6D_002C6D_000251_1,
  0x002C6E_002C6E_000271_1, 0x002C6F_002C6F_000250_1, 0x002C70_002C70_000252_1,
  0x002C72_002C72_002C73_1, 0x002C75_002C75_002C76_1, 0x002C7E_002C7F_00023F_1,
  0x002C80_002CE2_002C81_2, 0x002CEB_002CED_002CEC_2, 0x002CF2_002CF2_002CF3_1,
  0x00A640_00A66C_00A641_2, 0x00A680_00A69A_00A681_2, 0x00A722_00A72E_00A723_2,
  0x00A732_00A76E_00A733_2, 0x00A779_00A77B_00A77A_2, 0x00A77D_00A77D_001D79_1,
  0x00A77E_00A786_00A77F_2, 0x00A78B_00A78B_00A78C_1, 0x00A78D_00A78D_000265_1,
  0x00A790_00A792_00A791_2, 0x00A796_00A7A8_00A797_2, 0x00A7AA_00A7AA_000266_1,
  0x00A7AB_00A7AB_00025C_1, 0x00A7AC_00A7AC_000261_1, 0x00A7AD_00A7AD_00026C_1,
  0x00A7AE_00A7AE_00026A_1, 0x00A7B0_00A7B0_00029E_1, 0x00A7B1_00A7B1_000287_1,
  0x00A7B2_00A7B2_00029D_1, 0x00A7B3_00A7B3_00AB53_1, 0x00A7B4_00A7C2_00A7B5_2,
  0x00A7C4_00A7C4_00A794_1, 0x00A7C5_00A7C5_000282_1, 0x00A7C6_00A7C6_001D8E_1,
  0x00A7C7_00A7C9_00A7C8_2, 0x00A7CB_00A7CB_000264_1, 0x00A7CC_00A7CC_00A7CD_1,
  0x00A7D0_00A7D0_00A7D1_1, 0x00A7D6_00A7DA_00A7D7_2, 0x00A7DC_00A7DC_00019B_1,
  0x00A7F5_00A7F5_00A7F6_1, 0x00AB70_00ABBF_0013A0_1, 0x00FB05_00FB05_00FB06_1,
  0x00FF21_00FF3A_00FF41_1, 0x010400_010427_010428_1, 0x0104B0_0104D3_0104D8_1,
  0x010570_01057A_010597_1, 0x01057C_01058A_0105A3_1, 0x01058C_010592_0105B3_1,
  0x010594_010595_0105BB_1, 0x010C80_010CB2_010CC0_1, 0x010D50_010D65_010D70_1,
  0x0118A0_0118BF_0118C0_1, 0x016E40_016E5F_016E60_1, 0x01E900_01E921_01E922_1]

end ChatModeration.Text
