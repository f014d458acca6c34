/-!
# Decompositions of whole ranges

Where consecutive characters decompose into consecutive single characters, one row stands for all of them: the first
code point, the last code point and the image of the first, in groups of six hexadecimal digits.
-/

namespace ChatModeration.Text.Decomposition

/-- The ranges, in ascending order. -/
def shiftRows : List Nat := [
  0x0000B2_0000B3_000032, 0x000340_000341_000300, 0x0003F1_0003F2_0003C1, 0x001D30_001D31_000044,
  0x001D33_001D3A_000047, 0x001D40_001D41_000054, 0x001D44_001D45_000250, 0x001D48_001D49_000064,
  0x001D4B_001D4C_00025B, 0x001D54_001D55_001D16, 0x001D57_001D58_000074, 0x001D5D_001D5F_0003B2,
  0x001D60_001D61_0003C6, 0x001D64_001D65_000075, 0x001D66_001D67_0003B2, 0x001D69_001D6A_0003C6,
  0x001DA4_001DA6_000268, 0x001DAE_001DB1_000272, 0x001DB3_001DB4_000282, 0x001DB6_001DB7_000289,
  0x001DB9_001DBA_00028B, 0x001DBC_001DBE_000290, 0x002074_002079_000034, 0x00207D_00207E_000028,
  0x002080_002089_000030, 0x00208D_00208E_000028, 0x002096_002099_00006B, 0x00209B_00209C_000073,
  0x002119_00211B_000050, 0x00212C_00212D_000042, 0x002130_002131_000045, 0x002135_002138_0005D0,
  0x002146_002147_000064, 0x002148_002149_000069, 0x00216D_00216E_000043, 0x00217D_00217E_000063,
  0x002329_00232A_003008, 0x002460_002468_000031, 0x0024B6_0024CF_000041, 0x0024D0_0024E9_000061,
  0x003039_00303A_005344, 0x003131_003132_001100, 0x003135_003136_0011AC, 0x003137_003139_001103,
  0x00313A_00313F_0011B0, 0x003141_003143_001106, 0x003145_00314E_001109, 0x00314F_003163_001161,
  0x003165_003166_001114, 0x003167_003168_0011C7, 0x003171_003172_00111D, 0x003174_003175_001122,
  0x003178_00317C_00112B, 0x003182_003183_0011F1, 0x003184_003186_001157, 0x003187_003188_001184,
  0x00318A_00318B_001191, 0x003261_003262_001102, 0x003263_003265_001105, 0x003267_003268_00110B,
  0x003269_00326D_00110E, 0x0032D4_0032D5_0030AA, 0x0032E4_0032E9_0030CA, 0x0032EE_0032F2_0030DE,
  0x0032F5_0032FA_0030E8, 0x0032FB_0032FE_0030EF, 0x00FA52_00FA53_00798D, 0x00FB22_00FB23_0005D3,
  0x00FB24_00FB26_0005DB, 0x00FB7D_00FB7E_000686, 0x00FB9F_00FBA0_0006BA, 0x00FE11_00FE12_003001,
  0x00FE13_00FE14_00003A, 0x00FE17_00FE18_003016, 0x00FE35_00FE36_000028, 0x00FE39_00FE3A_003014,
  0x00FE3B_00FE3C_003010, 0x00FE3D_00FE3E_00300A, 0x00FE3F_00FE40_003008, 0x00FE41_00FE44_00300C,
  0x00FE59_00FE5A_000028, 0x00FE5D_00FE5E_003014, 0x00FE61_00FE62_00002A, 0x00FE69_00FE6A_000024,
  0x00FE8E_00FE8F_000627, 0x00FE92_00FE93_000628, 0x00FE94_00FE95_000629, 0x00FE98_00FE99_00062A,
  0x00FE9C_00FE9D_00062B, 0x00FEA0_00FEA1_00062C, 0x00FEA4_00FEA5_00062D, 0x00FEA8_00FEA9_00062E,
  0x00FEAA_00FEAB_00062F, 0x00FEAC_00FEAD_000630, 0x00FEAE_00FEAF_000631, 0x00FEB0_00FEB1_000632,
  0x00FEB4_00FEB5_000633, 0x00FEB8_00FEB9_000634, 0x00FEBC_00FEBD_000635, 0x00FEC0_00FEC1_000636,
  0x00FEC4_00FEC5_000637, 0x00FEC8_00FEC9_000638, 0x00FECC_00FECD_000639, 0x00FED4_00FED5_000641,
  0x00FED8_00FED9_000642, 0x00FEDC_00FEDD_000643, 0x00FEE0_00FEE1_000644, 0x00FEE4_00FEE5_000645,
  0x00FEE8_00FEE9_000646, 0x00FEEC_00FEED_000647, 0x00FEEE_00FEEF_000648, 0x00FEF0_00FEF1_000649,
  0x00FF01_00FF5E_000021, 0x00FF5F_00FF60_002985, 0x00FF62_00FF63_00300C, 0x00FF75_00FF76_0030AA,
  0x00FF85_00FF8A_0030CA, 0x00FF8F_00FF93_0030DE, 0x00FF96_00FF9B_0030E8, 0x00FF9E_00FF9F_003099,
  0x00FFA1_00FFA2_001100, 0x00FFA5_00FFA6_0011AC, 0x00FFA7_00FFA9_001103, 0x00FFAA_00FFAF_0011B0,
  0x00FFB1_00FFB3_001106, 0x00FFB5_00FFBE_001109, 0x00FFC2_00FFC7_001161, 0x00FFCA_00FFCF_001167,
  0x00FFD2_00FFD7_00116D, 0x00FFDA_00FFDC_001173, 0x00FFE0_00FFE1_0000A2, 0x00FFE9_00FFEC_002190,
  0x010781_010782_0002D0, 0x01078B_01078C_000256, 0x010799_01079A_0002AA, 0x0107A3_0107A4_000276,
  0x0107A8_0107A9_00027D, 0x0107B3_0107B4_0002A1, 0x0107B6_0107B8_0001C0, 0x01CCD6_01CCEF_000041,
  0x01CCF0_01CCF9_000030, 0x01D400_01D419_000041, 0x01D41A_01D433_000061, 0x01D434_01D44D_000041,
  0x01D44E_01D454_000061, 0x01D456_01D467_000069, 0x01D468_01D481_000041, 0x01D482_01D49B_000061,
  0x01D49E_01D49F_000043, 0x01D4A5_01D4A6_00004A, 0x01D4A9_01D4AC_00004E, 0x01D4AE_01D4B5_000053,
  0x01D4B6_01D4B9_000061, 0x01D4BD_01D4C3_000068, 0x01D4C5_01D4CF_000070, 0x01D4D0_01D4E9_000041,
  0x01D4EA_01D503_000061, 0x01D504_01D505_000041, 0x01D507_01D50A_000044, 0x01D50D_01D514_00004A,
  0x01D516_01D51C_000053, 0x01D51E_01D537_000061, 0x01D538_01D539_000041, 0x01D53B_01D53E_000044,
  0x01D540_01D544_000049, 0x01D54A_01D550_000053, 0x01D552_01D56B_000061, 0x01D56C_01D585_000041,
  0x01D586_01D59F_000061, 0x01D5A0_01D5B9_000041, 0x01D5BA_01D5D3_000061, 0x01D5D4_01D5ED_000041,
  0x01D5EE_01D607_000061, 0x01D608_01D621_000041, 0x01D622_01D63B_000061, 0x01D63C_01D655_000041,
  0x01D656_01D66F_000061, 0x01D670_01D689_000041, 0x01D68A_01D6A3_000061, 0x01D6A8_01D6B8_000391,
  0x01D6BA_01D6C0_0003A3, 0x01D6C2_01D6DA_0003B1, 0x01D6E2_01D6F2_000391, 0x01D6F4_01D6FA_0003A3,
  0x01D6FC_01D714_0003B1, 0x01D71C_01D72C_000391, 0x01D72E_01D734_0003A3, 0x01D736_01D74E_0003B1,
  0x01D756_01D766_000391, 0x01D768_01D76E_0003A3, 0x01D770_01D788_0003B1, 0x01D790_01D7A0_000391,
  0x01D7A2_01D7A8_0003A3, 0x01D7AA_01D7C2_0003B1, 0x01D7CA_01D7CB_0003DC, 0x01D7CE_01D7D7_000030,
  0x01D7D8_01D7E1_000030, 0x01D7E2_01D7EB_000030, 0x01D7EC_01D7F5_000030, 0x01D7F6_01D7FF_000030,
  0x01E030_01E038_000430, 0x01E039_01E03B_00043A, 0x01E03C_01E046_00043E, 0x01E048_01E049_00044D,
  0x01E051_01E059_000430, 0x01E05A_01E05B_00043A, 0x01E05C_01E05D_00043E, 0x01E05F_01E064_000443,
  0x01E065_01E066_00044A, 0x01EE00_01EE01_000627, 0x01EE0A_01EE0D_000643, 0x01EE15_01EE16_00062A,
  0x01EE2A_01EE2D_000643, 0x01EE35_01EE36_00062A, 0x01EE6C_01EE6D_000645, 0x01EE75_01EE76_00062A,
  0x01EE80_01EE81_000627, 0x01EE84_01EE85_000647, 0x01EE8B_01EE8D_000644, 0x01EE95_01EE96_00062A,
  0x01EEAB_01EEAD_000644, 0x01EEB5_01EEB6_00062A, 0x01F130_01F149_000041, 0x01FBF0_01FBF9_000030,
  0x02F829_02F82A_005305, 0x02F881_02F882_005DE1, 0x02F8F5_02F8F6_006BBA, 0x02F945_02F946_00771E,
  0x02F9E8_02F9E9_0092D7]

end ChatModeration.Text.Decomposition
