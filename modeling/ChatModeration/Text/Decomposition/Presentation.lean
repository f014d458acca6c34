/-!
# Decompositions of presentation forms

Each row is one character and its full compatibility decomposition, in groups of six hexadecimal digits.  Rows are in
ascending order.
-/

namespace ChatModeration.Text.Decomposition

/-- Decompositions of ligatures and the first Arabic presentation forms, U+FB00 to U+FC5D. -/
def ligatureRows : List Nat := [
  0x00FB00_000066_000066, 0x00FB01_000066_000069, 0x00FB02_000066_00006C, 0x00FB03_000066_000066_000069,
  0x00FB04_000066_000066_00006C, 0x00FB05_000073_000074, 0x00FB06_000073_000074, 0x00FB13_000574_000576,
  0x00FB14_000574_000565, 0x00FB15_000574_00056B, 0x00FB16_00057E_000576, 0x00FB17_000574_00056D,
  0x00FB1D_0005D9_0005B4, 0x00FB1F_0005F2_0005B7, 0x00FB20_0005E2, 0x00FB21_0005D0, 0x00FB27_0005E8,
  0x00FB28_0005EA, 0x00FB29_00002B, 0x00FB2A_0005E9_0005C1, 0x00FB2B_0005E9_0005C2,
  0x00FB2C_0005E9_0005BC_0005C1, 0x00FB2D_0005E9_0005BC_0005C2, 0x00FB2E_0005D0_0005B7,
  0x00FB2F_0005D0_0005B8, 0x00FB30_0005D0_0005BC, 0x00FB31_0005D1_0005BC, 0x00FB32_0005D2_0005BC,
  0x00FB33_0005D3_0005BC, 0x00FB34_0005D4_0005BC, 0x00FB35_0005D5_0005BC, 0x00FB36_0005D6_0005BC,
  0x00FB38_0005D8_0005BC, 0x00FB39_0005D9_0005BC, 0x00FB3A_0005DA_0005BC, 0x00FB3B_0005DB_0005BC,
  0x00FB3C_0005DC_0005BC, 0x00FB3E_0005DE_0005BC, 0x00FB40_0005E0_0005BC, 0x00FB41_0005E1_0005BC,
  0x00FB43_0005E3_0005BC, 0x00FB44_0005E4_0005BC, 0x00FB46_0005E6_0005BC, 0x00FB47_0005E7_0005BC,
  0x00FB48_0005E8_0005BC, 0x00FB49_0005E9_0005BC, 0x00FB4A_0005EA_0005BC, 0x00FB4B_0005D5_0005B9,
  0x00FB4C_0005D1_0005BF, 0x00FB4D_0005DB_0005BF, 0x00FB4E_0005E4_0005BF, 0x00FB4F_0005D0_0005DC,
  0x00FB50_000671, 0x00FB51_000671, 0x00FB52_00067B, 0x00FB53_00067B, 0x00FB54_00067B, 0x00FB55_00067B,
  0x00FB56_00067E, 0x00FB57_00067E, 0x00FB58_00067E, 0x00FB59_00067E, 0x00FB5A_000680, 0x00FB5B_000680,
  0x00FB5C_000680, 0x00FB5D_000680, 0x00FB5E_00067A, 0x00FB5F_00067A, 0x00FB60_00067A, 0x00FB61_00067A,
  0x00FB62_00067F, 0x00FB63_00067F, 0x00FB64_00067F, 0x00FB65_00067F, 0x00FB66_000679, 0x00FB67_000679,
  0x00FB68_000679, 0x00FB69_000679, 0x00FB6A_0006A4, 0x00FB6B_0006A4, 0x00FB6C_0006A4, 0x00FB6D_0006A4,
  0x00FB6E_0006A6, 0x00FB6F_0006A6, 0x00FB70_0006A6, 0x00FB71_0006A6, 0x00FB72_000684, 0x00FB73_000684,
  0x00FB74_000684, 0x00FB75_000684, 0x00FB76_000683, 0x00FB77_000683, 0x00FB78_000683, 0x00FB79_000683,
  0x00FB7A_000686, 0x00FB7B_000686, 0x00FB7C_000686, 0x00FB7F_000687, 0x00FB80_000687, 0x00FB81_000687,
  0x00FB82_00068D, 0x00FB83_00068D, 0x00FB84_00068C, 0x00FB85_00068C, 0x00FB86_00068E, 0x00FB87_00068E,
  0x00FB88_000688, 0x00FB89_000688, 0x00FB8A_000698, 0x00FB8B_000698, 0x00FB8C_000691, 0x00FB8D_000691,
  0x00FB8E_0006A9, 0x00FB8F_0006A9, 0x00FB90_0006A9, 0x00FB91_0006A9, 0x00FB92_0006AF, 0x00FB93_0006AF,
  0x00FB94_0006AF, 0x00FB95_0006AF, 0x00FB96_0006B3, 0x00FB97_0006B3, 0x00FB98_0006B3, 0x00FB99_0006B3,
  0x00FB9A_0006B1, 0x00FB9B_0006B1, 0x00FB9C_0006B1, 0x00FB9D_0006B1, 0x00FB9E_0006BA, 0x00FBA1_0006BB,
  0x00FBA2_0006BB, 0x00FBA3_0006BB, 0x00FBA4_0006D5_000654, 0x00FBA5_0006D5_000654, 0x00FBA6_0006C1,
  0x00FBA7_0006C1, 0x00FBA8_0006C1, 0x00FBA9_0006C1, 0x00FBAA_0006BE, 0x00FBAB_0006BE, 0x00FBAC_0006BE,
  0x00FBAD_0006BE, 0x00FBAE_0006D2, 0x00FBAF_0006D2, 0x00FBB0_0006D2_000654, 0x00FBB1_0006D2_000654,
  0x00FBD3_0006AD, 0x00FBD4_0006AD, 0x00FBD5_0006AD, 0x00FBD6_0006AD, 0x00FBD7_0006C7, 0x00FBD8_0006C7,
  0x00FBD9_0006C6, 0x00FBDA_0006C6, 0x00FBDB_0006C8, 0x00FBDC_0006C8, 0x00FBDD_0006C7_000674,
  0x00FBDE_0006CB, 0x00FBDF_0006CB, 0x00FBE0_0006C5, 0x00FBE1_0006C5, 0x00FBE2_0006C9, 0x00FBE3_0006C9,
  0x00FBE4_0006D0, 0x00FBE5_0006D0, 0x00FBE6_0006D0, 0x00FBE7_0006D0, 0x00FBE8_000649, 0x00FBE9_000649,
  0x00FBEA_00064A_000654_000627, 0x00FBEB_00064A_000654_000627, 0x00FBEC_00064A_000654_0006D5,
  0x00FBED_00064A_000654_0006D5, 0x00FBEE_00064A_000654_000648, 0x00FBEF_00064A_000654_000648,
  0x00FBF0_00064A_000654_0006C7, 0x00FBF1_00064A_000654_0006C7, 0x00FBF2_00064A_000654_0006C6,
  0x00FBF3_00064A_000654_0006C6, 0x00FBF4_00064A_000654_0006C8, 0x00FBF5_00064A_000654_0006C8,
  0x00FBF6_00064A_000654_0006D0, 0x00FBF7_00064A_000654_0006D0, 0x00FBF8_00064A_000654_0006D0,
  0x00FBF9_00064A_000654_000649, 0x00FBFA_00064A_000654_000649, 0x00FBFB_00064A_000654_000649,
  0x00FBFC_0006CC, 0x00FBFD_0006CC, 0x00FBFE_0006CC, 0x00FBFF_0006CC, 0x00FC00_00064A_000654_00062C,
  0x00FC01_00064A_000654_00062D, 0x00FC02_00064A_000654_000645, 0x00FC03_00064A_000654_000649,
  0x00FC04_00064A_000654_00064A, 0x00FC05_000628_00062C, 0x00FC06_000628_00062D, 0x00FC07_000628_00062E,
  0x00FC08_000628_000645, 0x00FC09_000628_000649, 0x00FC0A_000628_00064A, 0x00FC0B_00062A_00062C,
  0x00FC0C_00062A_00062D, 0x00FC0D_00062A_00062E, 0x00FC0E_00062A_000645, 0x00FC0F_00062A_000649,
  0x00FC10_00062A_00064A, 0x00FC11_00062B_00062C, 0x00FC12_00062B_000645, 0x00FC13_00062B_000649,
  0x00FC14_00062B_00064A, 0x00FC15_00062C_00062D, 0x00FC16_00062C_000645, 0x00FC17_00062D_00062C,
  0x00FC18_00062D_000645, 0x00FC19_00062E_00062C, 0x00FC1A_00062E_00062D, 0x00FC1B_00062E_000645,
  0x00FC1C_000633_00062C, 0x00FC1D_000633_00062D, 0x00FC1E_000633_00062E, 0x00FC1F_000633_000645,
  0x00FC20_000635_00062D, 0x00FC21_000635_000645, 0x00FC22_000636_00062C, 0x00FC23_000636_00062D,
  0x00FC24_000636_00062E, 0x00FC25_000636_000645, 0x00FC26_000637_00062D, 0x00FC27_000637_000645,
  0x00FC28_000638_000645, 0x00FC29_000639_00062C, 0x00FC2A_000639_000645, 0x00FC2B_00063A_00062C,
  0x00FC2C_00063A_000645, 0x00FC2D_000641_00062C, 0x00FC2E_000641_00062D, 0x00FC2F_000641_00062E,
  0x00FC30_000641_000645, 0x00FC31_000641_000649, 0x00FC32_000641_00064A, 0x00FC33_000642_00062D,
  0x00FC34_000642_000645, 0x00FC35_000642_000649, 0x00FC36_000642_00064A, 0x00FC37_000643_000627,
  0x00FC38_000643_00062C, 0x00FC39_000643_00062D, 0x00FC3A_000643_00062E, 0x00FC3B_000643_000644,
  0x00FC3C_000643_000645, 0x00FC3D_000643_000649, 0x00FC3E_000643_00064A, 0x00FC3F_000644_00062C,
  0x00FC40_000644_00062D, 0x00FC41_000644_00062E, 0x00FC42_000644_000645, 0x00FC43_000644_000649,
  0x00FC44_000644_00064A, 0x00FC45_000645_00062C, 0x00FC46_000645_00062D, 0x00FC47_000645_00062E,
  0x00FC48_000645_000645, 0x00FC49_000645_000649, 0x00FC4A_000645_00064A, 0x00FC4B_000646_00062C,
  0x00FC4C_000646_00062D, 0x00FC4D_000646_00062E, 0x00FC4E_000646_000645, 0x00FC4F_000646_000649,
  0x00FC50_000646_00064A, 0x00FC51_000647_00062C, 0x00FC52_000647_000645, 0x00FC53_000647_000649,
  0x00FC54_000647_00064A, 0x00FC55_00064A_00062C, 0x00FC56_00064A_00062D, 0x00FC57_00064A_00062E,
  0x00FC58_00064A_000645, 0x00FC59_00064A_000649, 0x00FC5A_00064A_00064A, 0x00FC5B_000630_000670,
  0x00FC5C_000631_000670, 0x00FC5D_000649_000670]

/-- Decompositions of Arabic presentation forms, U+FC5E to U+FDFF. -/
def arabicRows : List Nat := [
  0x00FC5E_000020_00064C_000651, 0x00FC5F_000020_00064D_000651, 0x00FC60_000020_00064E_000651,
  0x00FC61_000020_00064F_000651, 0x00FC62_000020_000650_000651, 0x00FC63_000020_000651_000670,
  0x00FC64_00064A_000654_000631, 0x00FC65_00064A_000654_000632, 0x00FC66_00064A_000654_000645,
  0x00FC67_00064A_000654_000646, 0x00FC68_00064A_000654_000649, 0x00FC69_00064A_000654_00064A,
  0x00FC6A_000628_000631, 0x00FC6B_000628_000632, 0x00FC6C_000628_000645, 0x00FC6D_000628_000646,
  0x00FC6E_000628_000649, 0x00FC6F_000628_00064A, 0x00FC70_00062A_000631, 0x00FC71_00062A_000632,
  0x00FC72_00062A_000645, 0x00FC73_00062A_000646, 0x00FC74_00062A_000649, 0x00FC75_00062A_00064A,
  0x00FC76_00062B_000631, 0x00FC77_00062B_000632, 0x00FC78_00062B_000645, 0x00FC79_00062B_000646,
  0x00FC7A_00062B_000649, 0x00FC7B_00062B_00064A, 0x00FC7C_000641_000649, 0x00FC7D_000641_00064A,
  0x00FC7E_000642_000649, 0x00FC7F_000642_00064A, 0x00FC80_000643_000627, 0x00FC81_000643_000644,
  0x00FC82_000643_000645, 0x00FC83_000643_000649, 0x00FC84_000643_00064A, 0x00FC85_000644_000645,
  0x00FC86_000644_000649, 0x00FC87_000644_00064A, 0x00FC88_000645_000627, 0x00FC89_000645_000645,
  0x00FC8A_000646_000631, 0x00FC8B_000646_000632, 0x00FC8C_000646_000645, 0x00FC8D_000646_000646,
  0x00FC8E_000646_000649, 0x00FC8F_000646_00064A, 0x00FC90_000649_000670, 0x00FC91_00064A_000631,
  0x00FC92_00064A_000632, 0x00FC93_00064A_000645, 0x00FC94_00064A_000646, 0x00FC95_00064A_000649,
  0x00FC96_00064A_00064A, 0x00FC97_00064A_000654_00062C, 0x00FC98_00064A_000654_00062D,
  0x00FC99_00064A_000654_00062E, 0x00FC9A_00064A_000654_000645, 0x00FC9B_00064A_000654_000647,
  0x00FC9C_000628_00062C, 0x00FC9D_000628_00062D, 0x00FC9E_000628_00062E, 0x00FC9F_000628_000645,
  0x00FCA0_000628_000647, 0x00FCA1_00062A_00062C, 0x00FCA2_00062A_00062D, 0x00FCA3_00062A_00062E,
  0x00FCA4_00062A_000645, 0x00FCA5_00062A_000647, 0x00FCA6_00062B_000645, 0x00FCA7_00062C_00062D,
  0x00FCA8_00062C_000645, 0x00FCA9_00062D_00062C, 0x00FCAA_00062D_000645, 0x00FCAB_00062E_00062C,
  0x00FCAC_00062E_000645, 0x00FCAD_000633_00062C, 0x00FCAE_000633_00062D, 0x00FCAF_000633_00062E,
  0x00FCB0_000633_000645, 0x00FCB1_000635_00062D, 0x00FCB2_000635_00062E, 0x00FCB3_000635_000645,
  0x00FCB4_000636_00062C, 0x00FCB5_000636_00062D, 0x00FCB6_000636_00062E, 0x00FCB7_000636_000645,
  0x00FCB8_000637_00062D, 0x00FCB9_000638_000645, 0x00FCBA_000639_00062C, 0x00FCBB_000639_000645,
  0x00FCBC_00063A_00062C, 0x00FCBD_00063A_000645, 0x00FCBE_000641_00062C, 0x00FCBF_000641_00062D,
  0x00FCC0_000641_00062E, 0x00FCC1_000641_000645, 0x00FCC2_000642_00062D, 0x00FCC3_000642_000645,
  0x00FCC4_000643_00062C, 0x00FCC5_000643_00062D, 0x00FCC6_000643_00062E, 0x00FCC7_000643_000644,
  0x00FCC8_000643_000645, 0x00FCC9_000644_00062C, 0x00FCCA_000644_00062D, 0x00FCCB_000644_00062E,
  0x00FCCC_000644_000645, 0x00FCCD_000644_000647, 0x00FCCE_000645_00062C, 0x00FCCF_000645_00062D,
  0x00FCD0_000645_00062E, 0x00FCD1_000645_000645, 0x00FCD2_000646_00062C, 0x00FCD3_000646_00062D,
  0x00FCD4_000646_00062E, 0x00FCD5_000646_000645, 0x00FCD6_000646_000647, 0x00FCD7_000647_00062C,
  0x00FCD8_000647_000645, 0x00FCD9_000647_000670, 0x00FCDA_00064A_00062C, 0x00FCDB_00064A_00062D,
  0x00FCDC_00064A_00062E, 0x00FCDD_00064A_000645, 0x00FCDE_00064A_000647, 0x00FCDF_00064A_000654_000645,
  0x00FCE0_00064A_000654_000647, 0x00FCE1_000628_000645, 0x00FCE2_000628_000647, 0x00FCE3_00062A_000645,
  0x00FCE4_00062A_000647, 0x00FCE5_00062B_000645, 0x00FCE6_00062B_000647, 0x00FCE7_000633_000645,
  0x00FCE8_000633_000647, 0x00FCE9_000634_000645, 0x00FCEA_000634_000647, 0x00FCEB_000643_000644,
  0x00FCEC_000643_000645, 0x00FCED_000644_000645, 0x00FCEE_000646_000645, 0x00FCEF_000646_000647,
  0x00FCF0_00064A_000645, 0x00FCF1_00064A_000647, 0x00FCF2_000640_00064E_000651,
  0x00FCF3_000640_00064F_000651, 0x00FCF4_000640_000650_000651, 0x00FCF5_000637_000649,
  0x00FCF6_000637_00064A, 0x00FCF7_000639_000649, 0x00FCF8_000639_00064A, 0x00FCF9_00063A_000649,
  0x00FCFA_00063A_00064A, 0x00FCFB_000633_000649, 0x00FCFC_000633_00064A, 0x00FCFD_000634_000649,
  0x00FCFE_000634_00064A, 0x00FCFF_00062D_000649, 0x00FD00_00062D_00064A, 0x00FD01_00062C_000649,
  0x00FD02_00062C_00064A, 0x00FD03_00062E_000649, 0x00FD04_00062E_00064A, 0x00FD05_000635_000649,
  0x00FD06_000635_00064A, 0x00FD07_000636_000649, 0x00FD08_000636_00064A, 0x00FD09_000634_00062C,
  0x00FD0A_000634_00062D, 0x00FD0B_000634_00062E, 0x00FD0C_000634_000645, 0x00FD0D_000634_000631,
  0x00FD0E_000633_000631, 0x00FD0F_000635_000631, 0x00FD10_000636_000631, 0x00FD11_000637_000649,
  0x00FD12_000637_00064A, 0x00FD13_000639_000649, 0x00FD14_000639_00064A, 0x00FD15_00063A_000649,
  0x00FD16_00063A_00064A, 0x00FD17_000633_000649, 0x00FD18_000633_00064A, 0x00FD19_000634_000649,
  0x00FD1A_000634_00064A, 0x00FD1B_00062D_000649, 0x00FD1C_00062D_00064A, 0x00FD1D_00062C_000649,
  0x00FD1E_00062C_00064A, 0x00FD1F_00062E_000649, 0x00FD20_00062E_00064A, 0x00FD21_000635_000649,
  0x00FD22_000635_00064A, 0x00FD23_000636_000649, 0x00FD24_000636_00064A, 0x00FD25_000634_00062C,
  0x00FD26_000634_00062D, 0x00FD27_000634_00062E, 0x00FD28_000634_000645, 0x00FD29_000634_000631,
  0x00FD2A_000633_000631, 0x00FD2B_000635_000631, 0x00FD2C_000636_000631, 0x00FD2D_000634_00062C,
  0x00FD2E_000634_00062D, 0x00FD2F_000634_00062E, 0x00FD30_000634_000645, 0x00FD31_000633_000647,
  0x00FD32_000634_000647, 0x00FD33_000637_000645, 0x00FD34_000633_00062C, 0x00FD35_000633_00062D,
  0x00FD36_000633_00062E, 0x00FD37_000634_00062C, 0x00FD38_000634_00062D, 0x00FD39_000634_00062E,
  0x00FD3A_000637_000645, 0x00FD3B_000638_000645, 0x00FD3C_000627_00064B, 0x00FD3D_000627_00064B,
  0x00FD50_00062A_00062C_000645, 0x00FD51_00062A_00062D_00062C, 0x00FD52_00062A_00062D_00062C,
  0x00FD53_00062A_00062D_000645, 0x00FD54_00062A_00062E_000645, 0x00FD55_00062A_000645_00062C,
  0x00FD56_00062A_000645_00062D, 0x00FD57_00062A_000645_00062E, 0x00FD58_00062C_000645_00062D,
  0x00FD59_00062C_000645_00062D, 0x00FD5A_00062D_000645_00064A, 0x00FD5B_00062D_000645_000649,
  0x00FD5C_000633_00062D_00062C, 0x00FD5D_000633_00062C_00062D, 0x00FD5E_000633_00062C_000649,
  0x00FD5F_000633_000645_00062D, 0x00FD60_000633_000645_00062D, 0x00FD61_000633_000645_00062C,
  0x00FD62_000633_000645_000645, 0x00FD63_000633_000645_000645, 0x00FD64_000635_00062D_00062D,
  0x00FD65_000635_00062D_00062D, 0x00FD66_000635_000645_000645, 0x00FD67_000634_00062D_000645,
  0x00FD68_000634_00062D_000645, 0x00FD69_000634_00062C_00064A, 0x00FD6A_000634_000645_00062E,
  0x00FD6B_000634_000645_00062E, 0x00FD6C_000634_000645_000645, 0x00FD6D_000634_000645_000645,
  0x00FD6E_000636_00062D_000649, 0x00FD6F_000636_00062E_000645, 0x00FD70_000636_00062E_000645,
  0x00FD71_000637_000645_00062D, 0x00FD72_000637_000645_00062D, 0x00FD73_000637_000645_000645,
  0x00FD74_000637_000645_00064A, 0x00FD75_000639_00062C_000645, 0x00FD76_000639_000645_000645,
  0x00FD77_000639_000645_000645, 0x00FD78_000639_000645_000649, 0x00FD79_00063A_000645_000645,
  0x00FD7A_00063A_000645_00064A, 0x00FD7B_00063A_000645_000649, 0x00FD7C_000641_00062E_000645,
  0x00FD7D_000641_00062E_000645, 0x00FD7E_000642_000645_00062D, 0x00FD7F_000642_000645_000645,
  0x00FD80_000644_00062D_000645, 0x00FD81_000644_00062D_00064A, 0x00FD82_000644_00062D_000649,
  0x00FD83_000644_00062C_00062C, 0x00FD84_000644_00062C_00062C, 0x00FD85_000644_00062E_000645,
  0x00FD86_000644_00062E_000645, 0x00FD87_000644_000645_00062D, 0x00FD88_000644_000645_00062D,
  0x00FD89_000645_00062D_00062C, 0x00FD8A_000645_00062D_000645, 0x00FD8B_000645_00062D_00064A,
  0x00FD8C_000645_00062C_00062D, 0x00FD8D_000645_00062C_000645, 0x00FD8E_000645_00062E_00062C,
  0x00FD8F_000645_00062E_000645, 0x00FD92_000645_00062C_00062E, 0x00FD93_000647_000645_00062C,
  0x00FD94_000647_000645_000645, 0x00FD95_000646_00062D_000645, 0x00FD96_000646_00062D_000649,
  0x00FD97_000646_00062C_000645, 0x00FD98_000646_00062C_000645, 0x00FD99_000646_00062C_000649,
  0x00FD9A_000646_000645_00064A, 0x00FD9B_000646_000645_000649, 0x00FD9C_00064A_000645_000645,
  0x00FD9D_00064A_000645_000645, 0x00FD9E_000628_00062E_00064A, 0x00FD9F_00062A_00062C_00064A,
  0x00FDA0_00062A_00062C_000649, 0x00FDA1_00062A_00062E_00064A, 0x00FDA2_00062A_00062E_000649,
  0x00FDA3_00062A_000645_00064A, 0x00FDA4_00062A_000645_000649, 0x00FDA5_00062C_000645_00064A,
  0x00FDA6_00062C_00062D_000649, 0x00FDA7_00062C_000645_000649, 0x00FDA8_000633_00062E_000649,
  0x00FDA9_000635_00062D_00064A, 0x00FDAA_000634_00062D_00064A, 0x00FDAB_000636_00062D_00064A,
  0x00FDAC_000644_00062C_00064A, 0x00FDAD_000644_000645_00064A, 0x00FDAE_00064A_00062D_00064A,
  0x00FDAF_00064A_00062C_00064A, 0x00FDB0_00064A_000645_00064A, 0x00FDB1_000645_000645_00064A,
  0x00FDB2_000642_000645_00064A, 0x00FDB3_000646_00062D_00064A, 0x00FDB4_000642_000645_00062D,
  0x00FDB5_000644_00062D_000645, 0x00FDB6_000639_000645_00064A, 0x00FDB7_000643_000645_00064A,
  0x00FDB8_000646_00062C_00062D, 0x00FDB9_000645_00062E_00064A, 0x00FDBA_000644_00062C_000645,
  0x00FDBB_000643_000645_000645, 0x00FDBC_000644_00062C_000645, 0x00FDBD_000646_00062C_00062D,
  0x00FDBE_00062C_00062D_00064A, 0x00FDBF_00062D_00062C_00064A, 0x00FDC0_000645_00062C_00064A,
  0x00FDC1_000641_000645_00064A, 0x00FDC2_000628_00062D_00064A, 0x00FDC3_000643_000645_000645,
  0x00FDC4_000639_00062C_000645, 0x00FDC5_000635_000645_000645, 0x00FDC6_000633_00062E_00064A,
  0x00FDC7_000646_00062C_00064A, 0x00FDF0_000635_000644_0006D2, 0x00FDF1_000642_000644_0006D2,
  0x00FDF2_000627_000644_000644_000647, 0x00FDF3_000627_000643_000628_000631,
  0x00FDF4_000645_00062D_000645_00062F, 0x00FDF5_000635_000644_000639_000645,
  0x00FDF6_000631_000633_000648_000644, 0x00FDF7_000639_000644_00064A_000647,
  0x00FDF8_000648_000633_000644_000645, 0x00FDF9_000635_000644_000649,
  0x00FDFA_000635_000644_000649_000020_000627_000644_000644_000647_000020_000639_000644_00064A_000647_000020_000648_000633_000644_000645,
  0x00FDFB_00062C_000644_000020_00062C_000644_000627_000644_000647, 0x00FDFC_000631_0006CC_000627_000644]

/-- Decompositions of contextual Arabic forms and wide characters, U+FE00 to U+FFFF. -/
def contextualRows : List Nat := [
  0x00FE10_00002C, 0x00FE15_000021, 0x00FE16_00003F, 0x00FE19_00002E_00002E_00002E,
  0x00FE30_00002E_00002E, 0x00FE31_002014, 0x00FE32_002013, 0x00FE33_00005F, 0x00FE34_00005F,
  0x00FE37_00007B, 0x00FE38_00007D, 0x00FE47_00005B, 0x00FE48_00005D, 0x00FE49_000020_000305,
  0x00FE4A_000020_000305, 0x00FE4B_000020_000305, 0x00FE4C_000020_000305, 0x00FE4D_00005F,
  0x00FE4E_00005F, 0x00FE4F_00005F, 0x00FE50_00002C, 0x00FE51_003001, 0x00FE52_00002E, 0x00FE54_00003B,
  0x00FE55_00003A, 0x00FE56_00003F, 0x00FE57_000021, 0x00FE58_002014, 0x00FE5B_00007B, 0x00FE5C_00007D,
  0x00FE5F_000023, 0x00FE60_000026, 0x00FE63_00002D, 0x00FE64_00003C, 0x00FE65_00003E, 0x00FE66_00003D,
  0x00FE68_00005C, 0x00FE6B_000040, 0x00FE70_000020_00064B, 0x00FE71_000640_00064B,
  0x00FE72_000020_00064C, 0x00FE74_000020_00064D, 0x00FE76_000020_00064E, 0x00FE77_000640_00064E,
  0x00FE78_000020_00064F, 0x00FE79_000640_00064F, 0x00FE7A_000020_000650, 0x00FE7B_000640_000650,
  0x00FE7C_000020_000651, 0x00FE7D_000640_000651, 0x00FE7E_000020_000652, 0x00FE7F_000640_000652,
  0x00FE80_000621, 0x00FE81_000627_000653, 0x00FE82_000627_000653, 0x00FE83_000627_000654,
  0x00FE84_000627_000654, 0x00FE85_000648_000654, 0x00FE86_000648_000654, 0x00FE87_000627_000655,
  0x00FE88_000627_000655, 0x00FE89_00064A_000654, 0x00FE8A_00064A_000654, 0x00FE8B_00064A_000654,
  0x00FE8C_00064A_000654, 0x00FE8D_000627, 0x00FE90_000628, 0x00FE91_000628, 0x00FE96_00062A,
  0x00FE97_00062A, 0x00FE9A_00062B, 0x00FE9B_00062B, 0x00FE9E_00062C, 0x00FE9F_00062C, 0x00FEA2_00062D,
  0x00FEA3_00062D, 0x00FEA6_00062E, 0x00FEA7_00062E, 0x00FEB2_000633, 0x00FEB3_000633, 0x00FEB6_000634,
  0x00FEB7_000634, 0x00FEBA_000635, 0x00FEBB_000635, 0x00FEBE_000636, 0x00FEBF_000636, 0x00FEC2_000637,
  0x00FEC3_000637, 0x00FEC6_000638, 0x00FEC7_000638, 0x00FECA_000639, 0x00FECB_000639, 0x00FECE_00063A,
  0x00FECF_00063A, 0x00FED0_00063A, 0x00FED1_000641, 0x00FED2_000641, 0x00FED3_000641, 0x00FED6_000642,
  0x00FED7_000642, 0x00FEDA_000643, 0x00FEDB_000643, 0x00FEDE_000644, 0x00FEDF_000644, 0x00FEE2_000645,
  0x00FEE3_000645, 0x00FEE6_000646, 0x00FEE7_000646, 0x00FEEA_000647, 0x00FEEB_000647, 0x00FEF2_00064A,
  0x00FEF3_00064A, 0x00FEF4_00064A, 0x00FEF5_000644_000627_000653, 0x00FEF6_000644_000627_000653,
  0x00FEF7_000644_000627_000654, 0x00FEF8_000644_000627_000654, 0x00FEF9_000644_000627_000655,
  0x00FEFA_000644_000627_000655, 0x00FEFB_000644_000627, 0x00FEFC_000644_000627, 0x00FF61_003002,
  0x00FF64_003001, 0x00FF65_0030FB, 0x00FF66_0030F2, 0x00FF67_0030A1, 0x00FF68_0030A3, 0x00FF69_0030A5,
  0x00FF6A_0030A7, 0x00FF6B_0030A9, 0x00FF6C_0030E3, 0x00FF6D_0030E5, 0x00FF6E_0030E7, 0x00FF6F_0030C3,
  0x00FF70_0030FC, 0x00FF71_0030A2, 0x00FF72_0030A4, 0x00FF73_0030A6, 0x00FF74_0030A8, 0x00FF77_0030AD,
  0x00FF78_0030AF, 0x00FF79_0030B1, 0x00FF7A_0030B3, 0x00FF7B_0030B5, 0x00FF7C_0030B7, 0x00FF7D_0030B9,
  0x00FF7E_0030BB, 0x00FF7F_0030BD, 0x00FF80_0030BF, 0x00FF81_0030C1, 0x00FF82_0030C4, 0x00FF83_0030C6,
  0x00FF84_0030C8, 0x00FF8B_0030D2, 0x00FF8C_0030D5, 0x00FF8D_0030D8, 0x00FF8E_0030DB, 0x00FF94_0030E4,
  0x00FF95_0030E6, 0x00FF9C_0030EF, 0x00FF9D_0030F3, 0x00FFA0_001160, 0x00FFA3_0011AA, 0x00FFA4_001102,
  0x00FFB0_00111A, 0x00FFB4_001121, 0x00FFE2_0000AC, 0x00FFE3_000020_000304, 0x00FFE4_0000A6,
  0x00FFE5_0000A5, 0x00FFE6_0020A9, 0x00FFE8_002502, 0x00FFED_0025A0, 0x00FFEE_0025CB]

end ChatModeration.Text.Decomposition
