import Construe.CharSet

/-! # Text segmentation

The classes by which text is cut into grapheme clusters, words and sentences. Each class has its
names in folded form; characters of no class have no entry. -/
namespace Construe.Unicode

/-- A named class of characters. -/
structure BreakClass where
  names : List String
  packed : List Nat

namespace BreakClass

def set (b : BreakClass) : CharSet := .ofPacked b.packed

def find? (name : String) (table : List BreakClass) : Option CharSet :=
  (table.find? (·.names.contains name)).map set

/-- Classes of grapheme clusters. -/
def grapheme : List BreakClass := [
  ⟨["cr"], [
    0x00000D_00000D]⟩,
  ⟨["control", "cn"], [
    0x000000_000009_00000B_00000C_00000E_00001F_00007F_00009F_0000AD_0000AD_00061C_00061C,
    0x00180E_00180E_00200B_00200B_00200E_00200F_002028_00202E_002060_00206F_00FEFF_00FEFF,
    0x00FFF0_00FFFB_013430_01343F_01BCA0_01BCA3_01D173_01D17A_0E0000_0E001F_0E0080_0E00FF,
    0x0E01F0_0E0FFF]⟩,
  ⟨["extend", "ex"], [
    0x000300_00036F_000483_000489_000591_0005BD_0005BF_0005BF_0005C1_0005C2_0005C4_0005C5,
    0x0005C7_0005C7_000610_00061A_00064B_00065F_000670_000670_0006D6_0006DC_0006DF_0006E4,
    0x0006E7_0006E8_0006EA_0006ED_000711_000711_000730_00074A_0007A6_0007B0_0007EB_0007F3,
    0x0007FD_0007FD_000816_000819_00081B_000823_000825_000827_000829_00082D_000859_00085B,
    0x000897_00089F_0008CA_0008E1_0008E3_000902_00093A_00093A_00093C_00093C_000941_000948,
    0x00094D_00094D_000951_000957_000962_000963_000981_000981_0009BC_0009BC_0009BE_0009BE,
    0x0009C1_0009C4_0009CD_0009CD_0009D7_0009D7_0009E2_0009E3_0009FE_0009FE_000A01_000A02,
    0x000A3C_000A3C_000A41_000A42_000A47_000A48_000A4B_000A4D_000A51_000A51_000A70_000A71,
    0x000A75_000A75_000A81_000A82_000ABC_000ABC_000AC1_000AC5_000AC7_000AC8_000ACD_000ACD,
    0x000AE2_000AE3_000AFA_000AFF_000B01_000B01_000B3C_000B3C_000B3E_000B3F_000B41_000B44,
    0x000B4D_000B4D_000B55_000B57_000B62_000B63_000B82_000B82_000BBE_000BBE_000BC0_000BC0,
    0x000BCD_000BCD_000BD7_000BD7_000C00_000C00_000C04_000C04_000C3C_000C3C_000C3E_000C40,
    0x000C46_000C48_000C4A_000C4D_000C55_000C56_000C62_000C63_000C81_000C81_000CBC_000CBC,
    0x000CBF_000CC0_000CC2_000CC2_000CC6_000CC8_000CCA_000CCD_000CD5_000CD6_000CE2_000CE3,
    0x000D00_000D01_000D3B_000D3C_000D3E_000D3E_000D41_000D44_000D4D_000D4D_000D57_000D57,
    0x000D62_000D63_000D81_000D81_000DCA_000DCA_000DCF_000DCF_000DD2_000DD4_000DD6_000DD6,
    0x000DDF_000DDF_000E31_000E31_000E34_000E3A_000E47_000E4E_000EB1_000EB1_000EB4_000EBC,
    0x000EC8_000ECE_000F18_000F19_000F35_000F35_000F37_000F37_000F39_000F39_000F71_000F7E,
    0x000F80_000F84_000F86_000F87_000F8D_000F97_000F99_000FBC_000FC6_000FC6_00102D_001030,
    0x001032_001037_001039_00103A_00103D_00103E_001058_001059_00105E_001060_001071_001074,
    0x001082_001082_001085_001086_00108D_00108D_00109D_00109D_00135D_00135F_001712_001715,
    0x001732_001734_001752_001753_001772_001773_0017B4_0017B5_0017B7_0017BD_0017C6_0017C6,
    0x0017C9_0017D3_0017DD_0017DD_00180B_00180D_00180F_00180F_001885_001886_0018A9_0018A9,
    0x001920_001922_001927_001928_001932_001932_001939_00193B_001A17_001A18_001A1B_001A1B,
    0x001A56_001A56_001A58_001A5E_001A60_001A60_001A62_001A62_001A65_001A6C_001A73_001A7C,
    0x001A7F_001A7F_001AB0_001ACE_001B00_001B03_001B34_001B3D_001B42_001B44_001B6B_001B73,
    0x001B80_001B81_001BA2_001BA5_001BA8_001BAD_001BE6_001BE6_001BE8_001BE9_001BED_001BED,
    0x001BEF_001BF3_001C2C_001C33_001C36_001C37_001CD0_001CD2_001CD4_001CE0_001CE2_001CE8,
    0x001CED_001CED_001CF4_001CF4_001CF8_001CF9_001DC0_001DFF_00200C_00200C_0020D0_0020F0,
    0x002CEF_002CF1_002D7F_002D7F_002DE0_002DFF_00302A_00302F_003099_00309A_00A66F_00A672,
    0x00A674_00A67D_00A69E_00A69F_00A6F0_00A6F1_00A802_00A802_00A806_00A806_00A80B_00A80B,
    0x00A825_00A826_00A82C_00A82C_00A8C4_00A8C5_00A8E0_00A8F1_00A8FF_00A8FF_00A926_00A92D,
    0x00A947_00A951_00A953_00A953_00A980_00A982_00A9B3_00A9B3_00A9B6_00A9B9_00A9BC_00A9BD,
    0x00A9C0_00A9C0_00A9E5_00A9E5_00AA29_00AA2E_00AA31_00AA32_00AA35_00AA36_00AA43_00AA43,
    0x00AA4C_00AA4C_00AA7C_00AA7C_00AAB0_00AAB0_00AAB2_00AAB4_00AAB7_00AAB8_00AABE_00AABF,
    0x00AAC1_00AAC1_00AAEC_00AAED_00AAF6_00AAF6_00ABE5_00ABE5_00ABE8_00ABE8_00ABED_00ABED,
    0x00FB1E_00FB1E_00FE00_00FE0F_00FE20_00FE2F_00FF9E_00FF9F_0101FD_0101FD_0102E0_0102E0,
    0x010376_01037A_010A01_010A03_010A05_010A06_010A0C_010A0F_010A38_010A3A_010A3F_010A3F,
    0x010AE5_010AE6_010D24_010D27_010D69_010D6D_010EAB_010EAC_010EFC_010EFF_010F46_010F50,
    0x010F82_010F85_011001_011001_011038_011046_011070_011070_011073_011074_01107F_011081,
    0x0110B3_0110B6_0110B9_0110BA_0110C2_0110C2_011100_011102_011127_01112B_01112D_011134,
    0x011173_011173_011180_011181_0111B6_0111BE_0111C0_0111C0_0111C9_0111CC_0111CF_0111CF,
    0x01122F_011231_011234_011237_01123E_01123E_011241_011241_0112DF_0112DF_0112E3_0112EA,
    0x011300_011301_01133B_01133C_01133E_01133E_011340_011340_01134D_01134D_011357_011357,
    0x011366_01136C_011370_011374_0113B8_0113B8_0113BB_0113C0_0113C2_0113C2_0113C5_0113C5,
    0x0113C7_0113C9_0113CE_0113D0_0113D2_0113D2_0113E1_0113E2_011438_01143F_011442_011444,
    0x011446_011446_01145E_01145E_0114B0_0114B0_0114B3_0114B8_0114BA_0114BA_0114BD_0114BD,
    0x0114BF_0114C0_0114C2_0114C3_0115AF_0115AF_0115B2_0115B5_0115BC_0115BD_0115BF_0115C0,
    0x0115DC_0115DD_011633_01163A_01163D_01163D_01163F_011640_0116AB_0116AB_0116AD_0116AD,
    0x0116B0_0116B7_01171D_01171D_01171F_01171F_011722_011725_011727_01172B_01182F_011837,
    0x011839_01183A_011930_011930_01193B_01193E_011943_011943_0119D4_0119D7_0119DA_0119DB,
    0x0119E0_0119E0_011A01_011A0A_011A33_011A38_011A3B_011A3E_011A47_011A47_011A51_011A56,
    0x011A59_011A5B_011A8A_011A96_011A98_011A99_011C30_011C36_011C38_011C3D_011C3F_011C3F,
    0x011C92_011CA7_011CAA_011CB0_011CB2_011CB3_011CB5_011CB6_011D31_011D36_011D3A_011D3A,
    0x011D3C_011D3D_011D3F_011D45_011D47_011D47_011D90_011D91_011D95_011D95_011D97_011D97,
    0x011EF3_011EF4_011F00_011F01_011F36_011F3A_011F40_011F42_011F5A_011F5A_013440_013440,
    0x013447_013455_01611E_016129_01612D_01612F_016AF0_016AF4_016B30_016B36_016F4F_016F4F,
    0x016F8F_016F92_016FE4_016FE4_016FF0_016FF1_01BC9D_01BC9E_01CF00_01CF2D_01CF30_01CF46,
    0x01D165_01D169_01D16D_01D172_01D17B_01D182_01D185_01D18B_01D1AA_01D1AD_01D242_01D244,
    0x01DA00_01DA36_01DA3B_01DA6C_01DA75_01DA75_01DA84_01DA84_01DA9B_01DA9F_01DAA1_01DAAF,
    0x01E000_01E006_01E008_01E018_01E01B_01E021_01E023_01E024_01E026_01E02A_01E08F_01E08F,
    0x01E130_01E136_01E2AE_01E2AE_01E2EC_01E2EF_01E4EC_01E4EF_01E5EE_01E5EF_01E8D0_01E8D6,
    0x01E944_01E94A_01F3FB_01F3FF_0E0020_0E007F_0E0100_0E01EF]⟩,
  ⟨["l"], [
    0x001100_00115F_00A960_00A97C]⟩,
  ⟨["lf"], [
    0x00000A_00000A]⟩,
  ⟨["lv"], [
    0x00AC00_00AC00_00AC1C_00AC1C_00AC38_00AC38_00AC54_00AC54_00AC70_00AC70_00AC8C_00AC8C,
    0x00ACA8_00ACA8_00ACC4_00ACC4_00ACE0_00ACE0_00ACFC_00ACFC_00AD18_00AD18_00AD34_00AD34,
    0x00AD50_00AD50_00AD6C_00AD6C_00AD88_00AD88_00ADA4_00ADA4_00ADC0_00ADC0_00ADDC_00ADDC,
    0x00ADF8_00ADF8_00AE14_00AE14_00AE30_00AE30_00AE4C_00AE4C_00AE68_00AE68_00AE84_00AE84,
    0x00AEA0_00AEA0_00AEBC_00AEBC_00AED8_00AED8_00AEF4_00AEF4_00AF10_00AF10_00AF2C_00AF2C,
    0x00AF48_00AF48_00AF64_00AF64_00AF80_00AF80_00AF9C_00AF9C_00AFB8_00AFB8_00AFD4_00AFD4,
    0x00AFF0_00AFF0_00B00C_00B00C_00B028_00B028_00B044_00B044_00B060_00B060_00B07C_00B07C,
    0x00B098_00B098_00B0B4_00B0B4_00B0D0_00B0D0_00B0EC_00B0EC_00B108_00B108_00B124_00B124,
    0x00B140_00B140_00B15C_00B15C_00B178_00B178_00B194_00B194_00B1B0_00B1B0_00B1CC_00B1CC,
    0x00B1E8_00B1E8_00B204_00B204_00B220_00B220_00B23C_00B23C_00B258_00B258_00B274_00B274,
    0x00B290_00B290_00B2AC_00B2AC_00B2C8_00B2C8_00B2E4_00B2E4_00B300_00B300_00B31C_00B31C,
    0x00B338_00B338_00B354_00B354_00B370_00B370_00B38C_00B38C_00B3A8_00B3A8_00B3C4_00B3C4,
    0x00B3E0_00B3E0_00B3FC_00B3FC_00B418_00B418_00B434_00B434_00B450_00B450_00B46C_00B46C,
    0x00B488_00B488_00B4A4_00B4A4_00B4C0_00B4C0_00B4DC_00B4DC_00B4F8_00B4F8_00B514_00B514,
    0x00B530_00B530_00B54C_00B54C_00B568_00B568_00B584_00B584_00B5A0_00B5A0_00B5BC_00B5BC,
    0x00B5D8_00B5D8_00B5F4_00B5F4_00B610_00B610_00B62C_00B62C_00B648_00B648_00B664_00B664,
    0x00B680_00B680_00B69C_00B69C_00B6B8_00B6B8_00B6D4_00B6D4_00B6F0_00B6F0_00B70C_00B70C,
    0x00B728_00B728_00B744_00B744_00B760_00B760_00B77C_00B77C_00B798_00B798_00B7B4_00B7B4,
    0x00B7D0_00B7D0_00B7EC_00B7EC_00B808_00B808_00B824_00B824_00B840_00B840_00B85C_00B85C,
    0x00B878_00B878_00B894_00B894_00B8B0_00B8B0_00B8CC_00B8CC_00B8E8_00B8E8_00B904_00B904,
    0x00B920_00B920_00B93C_00B93C_00B958_00B958_00B974_00B974_00B990_00B990_00B9AC_00B9AC,
    0x00B9C8_00B9C8_00B9E4_00B9E4_00BA00_00BA00_00BA1C_00BA1C_00BA38_00BA38_00BA54_00BA54,
    0x00BA70_00BA70_00BA8C_00BA8C_00BAA8_00BAA8_00BAC4_00BAC4_00BAE0_00BAE0_00BAFC_00BAFC,
    0x00BB18_00BB18_00BB34_00BB34_00BB50_00BB50_00BB6C_00BB6C_00BB88_00BB88_00BBA4_00BBA4,
    0x00BBC0_00BBC0_00BBDC_00BBDC_00BBF8_00BBF8_00BC14_00BC14_00BC30_00BC30_00BC4C_00BC4C,
    0x00BC68_00BC68_00BC84_00BC84_00BCA0_00BCA0_00BCBC_00BCBC_00BCD8_00BCD8_00BCF4_00BCF4,
    0x00BD10_00BD10_00BD2C_00BD2C_00BD48_00BD48_00BD64_00BD64_00BD80_00BD80_00BD9C_00BD9C,
    0x00BDB8_00BDB8_00BDD4_00BDD4_00BDF0_00BDF0_00BE0C_00BE0C_00BE28_00BE28_00BE44_00BE44,
    0x00BE60_00BE60_00BE7C_00BE7C_00BE98_00BE98_00BEB4_00BEB4_00BED0_00BED0_00BEEC_00BEEC,
    0x00BF08_00BF08_00BF24_00BF24_00BF40_00BF40_00BF5C_00BF5C_00BF78_00BF78_00BF94_00BF94,
    0x00BFB0_00BFB0_00BFCC_00BFCC_00BFE8_00BFE8_00C004_00C004_00C020_00C020_00C03C_00C03C,
    0x00C058_00C058_00C074_00C074_00C090_00C090_00C0AC_00C0AC_00C0C8_00C0C8_00C0E4_00C0E4,
    0x00C100_00C100_00C11C_00C11C_00C138_00C138_00C154_00C154_00C170_00C170_00C18C_00C18C,
    0x00C1A8_00C1A8_00C1C4_00C1C4_00C1E0_00C1E0_00C1FC_00C1FC_00C218_00C218_00C234_00C234,
    0x00C250_00C250_00C26C_00C26C_00C288_00C288_00C2A4_00C2A4_00C2C0_00C2C0_00C2DC_00C2DC,
    0x00C2F8_00C2F8_00C314_00C314_00C330_00C330_00C34C_00C34C_00C368_00C368_00C384_00C384,
    0x00C3A0_00C3A0_00C3BC_00C3BC_00C3D8_00C3D8_00C3F4_00C3F4_00C410_00C410_00C42C_00C42C,
    0x00C448_00C448_00C464_00C464_00C480_00C480_00C49C_00C49C_00C4B8_00C4B8_00C4D4_00C4D4,
    0x00C4F0_00C4F0_00C50C_00C50C_00C528_00C528_00C544_00C544_00C560_00C560_00C57C_00C57C,
    0x00C598_00C598_00C5B4_00C5B4_00C5D0_00C5D0_00C5EC_00C5EC_00C608_00C608_00C624_00C624,
    0x00C640_00C640_00C65C_00C65C_00C678_00C678_00C694_00C694_00C6B0_00C6B0_00C6CC_00C6CC,
    0x00C6E8_00C6E8_00C704_00C704_00C720_00C720_00C73C_00C73C_00C758_00C758_00C774_00C774,
    0x00C790_00C790_00C7AC_00C7AC_00C7C8_00C7C8_00C7E4_00C7E4_00C800_00C800_00C81C_00C81C,
    0x00C838_00C838_00C854_00C854_00C870_00C870_00C88C_00C88C_00C8A8_00C8A8_00C8C4_00C8C4,
    0x00C8E0_00C8E0_00C8FC_00C8FC_00C918_00C918_00C934_00C934_00C950_00C950_00C96C_00C96C,
    0x00C988_00C988_00C9A4_00C9A4_00C9C0_00C9C0_00C9DC_00C9DC_00C9F8_00C9F8_00CA14_00CA14,
    0x00CA30_00CA30_00CA4C_00CA4C_00CA68_00CA68_00CA84_00CA84_00CAA0_00CAA0_00CABC_00CABC,
    0x00CAD8_00CAD8_00CAF4_00CAF4_00CB10_00CB10_00CB2C_00CB2C_00CB48_00CB48_00CB64_00CB64,
    0x00CB80_00CB80_00CB9C_00CB9C_00CBB8_00CBB8_00CBD4_00CBD4_00CBF0_00CBF0_00CC0C_00CC0C,
    0x00CC28_00CC28_00CC44_00CC44_00CC60_00CC60_00CC7C_00CC7C_00CC98_00CC98_00CCB4_00CCB4,
    0x00CCD0_00CCD0_00CCEC_00CCEC_00CD08_00CD08_00CD24_00CD24_00CD40_00CD40_00CD5C_00CD5C,
    0x00CD78_00CD78_00CD94_00CD94_00CDB0_00CDB0_00CDCC_00CDCC_00CDE8_00CDE8_00CE04_00CE04,
    0x00CE20_00CE20_00CE3C_00CE3C_00CE58_00CE58_00CE74_00CE74_00CE90_00CE90_00CEAC_00CEAC,
    0x00CEC8_00CEC8_00CEE4_00CEE4_00CF00_00CF00_00CF1C_00CF1C_00CF38_00CF38_00CF54_00CF54,
    0x00CF70_00CF70_00CF8C_00CF8C_00CFA8_00CFA8_00CFC4_00CFC4_00CFE0_00CFE0_00CFFC_00CFFC,
    0x00D018_00D018_00D034_00D034_00D050_00D050_00D06C_00D06C_00D088_00D088_00D0A4_00D0A4,
    0x00D0C0_00D0C0_00D0DC_00D0DC_00D0F8_00D0F8_00D114_00D114_00D130_00D130_00D14C_00D14C,
    0x00D168_00D168_00D184_00D184_00D1A0_00D1A0_00D1BC_00D1BC_00D1D8_00D1D8_00D1F4_00D1F4,
    0x00D210_00D210_00D22C_00D22C_00D248_00D248_00D264_00D264_00D280_00D280_00D29C_00D29C,
    0x00D2B8_00D2B8_00D2D4_00D2D4_00D2F0_00D2F0_00D30C_00D30C_00D328_00D328_00D344_00D344,
    0x00D360_00D360_00D37C_00D37C_00D398_00D398_00D3B4_00D3B4_00D3D0_00D3D0_00D3EC_00D3EC,
    0x00D408_00D408_00D424_00D424_00D440_00D440_00D45C_00D45C_00D478_00D478_00D494_00D494,
    0x00D4B0_00D4B0_00D4CC_00D4CC_00D4E8_00D4E8_00D504_00D504_00D520_00D520_00D53C_00D53C,
    0x00D558_00D558_00D574_00D574_00D590_00D590_00D5AC_00D5AC_00D5C8_00D5C8_00D5E4_00D5E4,
    0x00D600_00D600_00D61C_00D61C_00D638_00D638_00D654_00D654_00D670_00D670_00D68C_00D68C,
    0x00D6A8_00D6A8_00D6C4_00D6C4_00D6E0_00D6E0_00D6FC_00D6FC_00D718_00D718_00D734_00D734,
    0x00D750_00D750_00D76C_00D76C_00D788_00D788]⟩,
  ⟨["lvt"], [
    0x00AC01_00AC1B_00AC1D_00AC37_00AC39_00AC53_00AC55_00AC6F_00AC71_00AC8B_00AC8D_00ACA7,
    0x00ACA9_00ACC3_00ACC5_00ACDF_00ACE1_00ACFB_00ACFD_00AD17_00AD19_00AD33_00AD35_00AD4F,
    0x00AD51_00AD6B_00AD6D_00AD87_00AD89_00ADA3_00ADA5_00ADBF_00ADC1_00ADDB_00ADDD_00ADF7,
    0x00ADF9_00AE13_00AE15_00AE2F_00AE31_00AE4B_00AE4D_00AE67_00AE69_00AE83_00AE85_00AE9F,
    0x00AEA1_00AEBB_00AEBD_00AED7_00AED9_00AEF3_00AEF5_00AF0F_00AF11_00AF2B_00AF2D_00AF47,
    0x00AF49_00AF63_00AF65_00AF7F_00AF81_00AF9B_00AF9D_00AFB7_00AFB9_00AFD3_00AFD5_00AFEF,
    0x00AFF1_00B00B_00B00D_00B027_00B029_00B043_00B045_00B05F_00B061_00B07B_00B07D_00B097,
    0x00B099_00B0B3_00B0B5_00B0CF_00B0D1_00B0EB_00B0ED_00B107_00B109_00B123_00B125_00B13F,
    0x00B141_00B15B_00B15D_00B177_00B179_00B193_00B195_00B1AF_00B1B1_00B1CB_00B1CD_00B1E7,
    0x00B1E9_00B203_00B205_00B21F_00B221_00B23B_00B23D_00B257_00B259_00B273_00B275_00B28F,
    0x00B291_00B2AB_00B2AD_00B2C7_00B2C9_00B2E3_00B2E5_00B2FF_00B301_00B31B_00B31D_00B337,
    0x00B339_00B353_00B355_00B36F_00B371_00B38B_00B38D_00B3A7_00B3A9_00B3C3_00B3C5_00B3DF,
    0x00B3E1_00B3FB_00B3FD_00B417_00B419_00B433_00B435_00B44F_00B451_00B46B_00B46D_00B487,
    0x00B489_00B4A3_00B4A5_00B4BF_00B4C1_00B4DB_00B4DD_00B4F7_00B4F9_00B513_00B515_00B52F,
    0x00B531_00B54B_00B54D_00B567_00B569_00B583_00B585_00B59F_00B5A1_00B5BB_00B5BD_00B5D7,
    0x00B5D9_00B5F3_00B5F5_00B60F_00B611_00B62B_00B62D_00B647_00B649_00B663_00B665_00B67F,
    0x00B681_00B69B_00B69D_00B6B7_00B6B9_00B6D3_00B6D5_00B6EF_00B6F1_00B70B_00B70D_00B727,
    0x00B729_00B743_00B745_00B75F_00B761_00B77B_00B77D_00B797_00B799_00B7B3_00B7B5_00B7CF,
    0x00B7D1_00B7EB_00B7ED_00B807_00B809_00B823_00B825_00B83F_00B841_00B85B_00B85D_00B877,
    0x00B879_00B893_00B895_00B8AF_00B8B1_00B8CB_00B8CD_00B8E7_00B8E9_00B903_00B905_00B91F,
    0x00B921_00B93B_00B93D_00B957_00B959_00B973_00B975_00B98F_00B991_00B9AB_00B9AD_00B9C7,
    0x00B9C9_00B9E3_00B9E5_00B9FF_00BA01_00BA1B_00BA1D_00BA37_00BA39_00BA53_00BA55_00BA6F,
    0x00BA71_00BA8B_00BA8D_00BAA7_00BAA9_00BAC3_00BAC5_00BADF_00BAE1_00BAFB_00BAFD_00BB17,
    0x00BB19_00BB33_00BB35_00BB4F_00BB51_00BB6B_00BB6D_00BB87_00BB89_00BBA3_00BBA5_00BBBF,
    0x00BBC1_00BBDB_00BBDD_00BBF7_00BBF9_00BC13_00BC15_00BC2F_00BC31_00BC4B_00BC4D_00BC67,
    0x00BC69_00BC83_00BC85_00BC9F_00BCA1_00BCBB_00BCBD_00BCD7_00BCD9_00BCF3_00BCF5_00BD0F,
    0x00BD11_00BD2B_00BD2D_00BD47_00BD49_00BD63_00BD65_00BD7F_00BD81_00BD9B_00BD9D_00BDB7,
    0x00BDB9_00BDD3_00BDD5_00BDEF_00BDF1_00BE0B_00BE0D_00BE27_00BE29_00BE43_00BE45_00BE5F,
    0x00BE61_00BE7B_00BE7D_00BE97_00BE99_00BEB3_00BEB5_00BECF_00BED1_00BEEB_00BEED_00BF07,
    0x00BF09_00BF23_00BF25_00BF3F_00BF41_00BF5B_00BF5D_00BF77_00BF79_00BF93_00BF95_00BFAF,
    0x00BFB1_00BFCB_00BFCD_00BFE7_00BFE9_00C003_00C005_00C01F_00C021_00C03B_00C03D_00C057,
    0x00C059_00C073_00C075_00C08F_00C091_00C0AB_00C0AD_00C0C7_00C0C9_00C0E3_00C0E5_00C0FF,
    0x00C101_00C11B_00C11D_00C137_00C139_00C153_00C155_00C16F_00C171_00C18B_00C18D_00C1A7,
    0x00C1A9_00C1C3_00C1C5_00C1DF_00C1E1_00C1FB_00C1FD_00C217_00C219_00C233_00C235_00C24F,
    0x00C251_00C26B_00C26D_00C287_00C289_00C2A3_00C2A5_00C2BF_00C2C1_00C2DB_00C2DD_00C2F7,
    0x00C2F9_00C313_00C315_00C32F_00C331_00C34B_00C34D_00C367_00C369_00C383_00C385_00C39F,
    0x00C3A1_00C3BB_00C3BD_00C3D7_00C3D9_00C3F3_00C3F5_00C40F_00C411_00C42B_00C42D_00C447,
    0x00C449_00C463_00C465_00C47F_00C481_00C49B_00C49D_00C4B7_00C4B9_00C4D3_00C4D5_00C4EF,
    0x00C4F1_00C50B_00C50D_00C527_00C529_00C543_00C545_00C55F_00C561_00C57B_00C57D_00C597,
    0x00C599_00C5B3_00C5B5_00C5CF_00C5D1_00C5EB_00C5ED_00C607_00C609_00C623_00C625_00C63F,
    0x00C641_00C65B_00C65D_00C677_00C679_00C693_00C695_00C6AF_00C6B1_00C6CB_00C6CD_00C6E7,
    0x00C6E9_00C703_00C705_00C71F_00C721_00C73B_00C73D_00C757_00C759_00C773_00C775_00C78F,
    0x00C791_00C7AB_00C7AD_00C7C7_00C7C9_00C7E3_00C7E5_00C7FF_00C801_00C81B_00C81D_00C837,
    0x00C839_00C853_00C855_00C86F_00C871_00C88B_00C88D_00C8A7_00C8A9_00C8C3_00C8C5_00C8DF,
    0x00C8E1_00C8FB_00C8FD_00C917_00C919_00C933_00C935_00C94F_00C951_00C96B_00C96D_00C987,
    0x00C989_00C9A3_00C9A5_00C9BF_00C9C1_00C9DB_00C9DD_00C9F7_00C9F9_00CA13_00CA15_00CA2F,
    0x00CA31_00CA4B_00CA4D_00CA67_00CA69_00CA83_00CA85_00CA9F_00CAA1_00CABB_00CABD_00CAD7,
    0x00CAD9_00CAF3_00CAF5_00CB0F_00CB11_00CB2B_00CB2D_00CB47_00CB49_00CB63_00CB65_00CB7F,
    0x00CB81_00CB9B_00CB9D_00CBB7_00CBB9_00CBD3_00CBD5_00CBEF_00CBF1_00CC0B_00CC0D_00CC27,
    0x00CC29_00CC43_00CC45_00CC5F_00CC61_00CC7B_00CC7D_00CC97_00CC99_00CCB3_00CCB5_00CCCF,
    0x00CCD1_00CCEB_00CCED_00CD07_00CD09_00CD23_00CD25_00CD3F_00CD41_00CD5B_00CD5D_00CD77,
    0x00CD79_00CD93_00CD95_00CDAF_00CDB1_00CDCB_00CDCD_00CDE7_00CDE9_00CE03_00CE05_00CE1F,
    0x00CE21_00CE3B_00CE3D_00CE57_00CE59_00CE73_00CE75_00CE8F_00CE91_00CEAB_00CEAD_00CEC7,
    0x00CEC9_00CEE3_00CEE5_00CEFF_00CF01_00CF1B_00CF1D_00CF37_00CF39_00CF53_00CF55_00CF6F,
    0x00CF71_00CF8B_00CF8D_00CFA7_00CFA9_00CFC3_00CFC5_00CFDF_00CFE1_00CFFB_00CFFD_00D017,
    0x00D019_00D033_00D035_00D04F_00D051_00D06B_00D06D_00D087_00D089_00D0A3_00D0A5_00D0BF,
    0x00D0C1_00D0DB_00D0DD_00D0F7_00D0F9_00D113_00D115_00D12F_00D131_00D14B_00D14D_00D167,
    0x00D169_00D183_00D185_00D19F_00D1A1_00D1BB_00D1BD_00D1D7_00D1D9_00D1F3_00D1F5_00D20F,
    0x00D211_00D22B_00D22D_00D247_00D249_00D263_00D265_00D27F_00D281_00D29B_00D29D_00D2B7,
    0x00D2B9_00D2D3_00D2D5_00D2EF_00D2F1_00D30B_00D30D_00D327_00D329_00D343_00D345_00D35F,
    0x00D361_00D37B_00D37D_00D397_00D399_00D3B3_00D3B5_00D3CF_00D3D1_00D3EB_00D3ED_00D407,
    0x00D409_00D423_00D425_00D43F_00D441_00D45B_00D45D_00D477_00D479_00D493_00D495_00D4AF,
    0x00D4B1_00D4CB_00D4CD_00D4E7_00D4E9_00D503_00D505_00D51F_00D521_00D53B_00D53D_00D557,
    0x00D559_00D573_00D575_00D58F_00D591_00D5AB_00D5AD_00D5C7_00D5C9_00D5E3_00D5E5_00D5FF,
    0x00D601_00D61B_00D61D_00D637_00D639_00D653_00D655_00D66F_00D671_00D68B_00D68D_00D6A7,
    0x00D6A9_00D6C3_00D6C5_00D6DF_00D6E1_00D6FB_00D6FD_00D717_00D719_00D733_00D735_00D74F,
    0x00D751_00D76B_00D76D_00D787_00D789_00D7A3]⟩,
  ⟨["prepend", "pp"], [
    0x000600_000605_0006DD_0006DD_00070F_00070F_000890_000891_0008E2_0008E2_000D4E_000D4E,
    0x0110BD_0110BD_0110CD_0110CD_0111C2_0111C3_0113D1_0113D1_01193F_01193F_011941_011941,
    0x011A84_011A89_011D46_011D46_011F02_011F02]⟩,
  ⟨["regionalindicator", "ri"], [
    0x01F1E6_01F1FF]⟩,
  ⟨["spacingmark", "sm"], [
    0x000903_000903_00093B_00093B_00093E_000940_000949_00094C_00094E_00094F_000982_000983,
    0x0009BF_0009C0_0009C7_0009C8_0009CB_0009CC_000A03_000A03_000A3E_000A40_000A83_000A83,
    0x000ABE_000AC0_000AC9_000AC9_000ACB_000ACC_000B02_000B03_000B40_000B40_000B47_000B48,
    0x000B4B_000B4C_000BBF_000BBF_000BC1_000BC2_000BC6_000BC8_000BCA_000BCC_000C01_000C03,
    0x000C41_000C44_000C82_000C83_000CBE_000CBE_000CC1_000CC1_000CC3_000CC4_000CF3_000CF3,
    0x000D02_000D03_000D3F_000D40_000D46_000D48_000D4A_000D4C_000D82_000D83_000DD0_000DD1,
    0x000DD8_000DDE_000DF2_000DF3_000E33_000E33_000EB3_000EB3_000F3E_000F3F_000F7F_000F7F,
    0x001031_001031_00103B_00103C_001056_001057_001084_001084_0017B6_0017B6_0017BE_0017C5,
    0x0017C7_0017C8_001923_001926_001929_00192B_001930_001931_001933_001938_001A19_001A1A,
    0x001A55_001A55_001A57_001A57_001A6D_001A72_001B04_001B04_001B3E_001B41_001B82_001B82,
    0x001BA1_001BA1_001BA6_001BA7_001BE7_001BE7_001BEA_001BEC_001BEE_001BEE_001C24_001C2B,
    0x001C34_001C35_001CE1_001CE1_001CF7_001CF7_00A823_00A824_00A827_00A827_00A880_00A881,
    0x00A8B4_00A8C3_00A952_00A952_00A983_00A983_00A9B4_00A9B5_00A9BA_00A9BB_00A9BE_00A9BF,
    0x00AA2F_00AA30_00AA33_00AA34_00AA4D_00AA4D_00AAEB_00AAEB_00AAEE_00AAEF_00AAF5_00AAF5,
    0x00ABE3_00ABE4_00ABE6_00ABE7_00ABE9_00ABEA_00ABEC_00ABEC_011000_011000_011002_011002,
    0x011082_011082_0110B0_0110B2_0110B7_0110B8_01112C_01112C_011145_011146_011182_011182,
    0x0111B3_0111B5_0111BF_0111BF_0111CE_0111CE_01122C_01122E_011232_011233_0112E0_0112E2,
    0x011302_011303_01133F_01133F_011341_011344_011347_011348_01134B_01134C_011362_011363,
    0x0113B9_0113BA_0113CA_0113CA_0113CC_0113CD_011435_011437_011440_011441_011445_011445,
    0x0114B1_0114B2_0114B9_0114B9_0114BB_0114BC_0114BE_0114BE_0114C1_0114C1_0115B0_0115B1,
    0x0115B8_0115BB_0115BE_0115BE_011630_011632_01163B_01163C_01163E_01163E_0116AC_0116AC,
    0x0116AE_0116AF_01171E_01171E_011726_011726_01182C_01182E_011838_011838_011931_011935,
    0x011937_011938_011940_011940_011942_011942_0119D1_0119D3_0119DC_0119DF_0119E4_0119E4,
    0x011A39_011A39_011A57_011A58_011A97_011A97_011C2F_011C2F_011C3E_011C3E_011CA9_011CA9,
    0x011CB1_011CB1_011CB4_011CB4_011D8A_011D8E_011D93_011D94_011D96_011D96_011EF5_011EF6,
    0x011F03_011F03_011F34_011F35_011F3E_011F3F_01612A_01612C_016F51_016F87]⟩,
  ⟨["t"], [
    0x0011A8_0011FF_00D7CB_00D7FB]⟩,
  ⟨["v"], [
    0x001160_0011A7_00D7B0_00D7C6_016D63_016D63_016D67_016D6A]⟩,
  ⟨["zwj"], [
    0x00200D_00200D]⟩]

/-- Classes of words. -/
def word : List BreakClass := [
  ⟨["aletter", "le"], [
    0x000041_00005A_000061_00007A_0000AA_0000AA_0000B5_0000B5_0000B8_0000B8_0000BA_0000BA,
    0x0000C0_0000D6_0000D8_0000F6_0000F8_0002D7_0002DE_0002FF_000370_000374_000376_000377,
    0x00037A_00037D_00037F_00037F_000386_000386_000388_00038A_00038C_00038C_00038E_0003A1,
    0x0003A3_0003F5_0003F7_000481_00048A_00052F_000531_000556_000559_00055C_00055E_00055E,
    0x000560_000588_00058A_00058A_0005F3_0005F3_000620_00064A_00066E_00066F_000671_0006D3,
    0x0006D5_0006D5_0006E5_0006E6_0006EE_0006EF_0006FA_0006FC_0006FF_0006FF_00070F_000710,
    0x000712_00072F_00074D_0007A5_0007B1_0007B1_0007CA_0007EA_0007F4_0007F5_0007FA_0007FA,
    0x000800_000815_00081A_00081A_000824_000824_000828_000828_000840_000858_000860_00086A,
    0x000870_000887_000889_00088E_0008A0_0008C9_000904_000939_00093D_00093D_000950_000950,
    0x000958_000961_000971_000980_000985_00098C_00098F_000990_000993_0009A8_0009AA_0009B0,
    0x0009B2_0009B2_0009B6_0009B9_0009BD_0009BD_0009CE_0009CE_0009DC_0009DD_0009DF_0009E1,
    0x0009F0_0009F1_0009FC_0009FC_000A05_000A0A_000A0F_000A10_000A13_000A28_000A2A_000A30,
    0x000A32_000A33_000A35_000A36_000A38_000A39_000A59_000A5C_000A5E_000A5E_000A72_000A74,
    0x000A85_000A8D_000A8F_000A91_000A93_000AA8_000AAA_000AB0_000AB2_000AB3_000AB5_000AB9,
    0x000ABD_000ABD_000AD0_000AD0_000AE0_000AE1_000AF9_000AF9_000B05_000B0C_000B0F_000B10,
    0x000B13_000B28_000B2A_000B30_000B32_000B33_000B35_000B39_000B3D_000B3D_000B5C_000B5D,
    0x000B5F_000B61_000B71_000B71_000B83_000B83_000B85_000B8A_000B8E_000B90_000B92_000B95,
    0x000B99_000B9A_000B9C_000B9C_000B9E_000B9F_000BA3_000BA4_000BA8_000BAA_000BAE_000BB9,
    0x000BD0_000BD0_000C05_000C0C_000C0E_000C10_000C12_000C28_000C2A_000C39_000C3D_000C3D,
    0x000C58_000C5A_000C5D_000C5D_000C60_000C61_000C80_000C80_000C85_000C8C_000C8E_000C90,
    0x000C92_000CA8_000CAA_000CB3_000CB5_000CB9_000CBD_000CBD_000CDD_000CDE_000CE0_000CE1,
    0x000CF1_000CF2_000D04_000D0C_000D0E_000D10_000D12_000D3A_000D3D_000D3D_000D4E_000D4E,
    0x000D54_000D56_000D5F_000D61_000D7A_000D7F_000D85_000D96_000D9A_000DB1_000DB3_000DBB,
    0x000DBD_000DBD_000DC0_000DC6_000F00_000F00_000F40_000F47_000F49_000F6C_000F88_000F8C,
    0x0010A0_0010C5_0010C7_0010C7_0010CD_0010CD_0010D0_0010FA_0010FC_001248_00124A_00124D,
    0x001250_001256_001258_001258_00125A_00125D_001260_001288_00128A_00128D_001290_0012B0,
    0x0012B2_0012B5_0012B8_0012BE_0012C0_0012C0_0012C2_0012C5_0012C8_0012D6_0012D8_001310,
    0x001312_001315_001318_00135A_001380_00138F_0013A0_0013F5_0013F8_0013FD_001401_00166C,
    0x00166F_00167F_001681_00169A_0016A0_0016EA_0016EE_0016F8_001700_001711_00171F_001731,
    0x001740_001751_001760_00176C_00176E_001770_001820_001878_001880_001884_001887_0018A8,
    0x0018AA_0018AA_0018B0_0018F5_001900_00191E_001A00_001A16_001B05_001B33_001B45_001B4C,
    0x001B83_001BA0_001BAE_001BAF_001BBA_001BE5_001C00_001C23_001C4D_001C4F_001C5A_001C7D,
    0x001C80_001C8A_001C90_001CBA_001CBD_001CBF_001CE9_001CEC_001CEE_001CF3_001CF5_001CF6,
    0x001CFA_001CFA_001D00_001DBF_001E00_001F15_001F18_001F1D_001F20_001F45_001F48_001F4D,
    0x001F50_001F57_001F59_001F59_001F5B_001F5B_001F5D_001F5D_001F5F_001F7D_001F80_001FB4,
    0x001FB6_001FBC_001FBE_001FBE_001FC2_001FC4_001FC6_001FCC_001FD0_001FD3_001FD6_001FDB,
    0x001FE0_001FEC_001FF2_001FF4_001FF6_001FFC_002071_002071_00207F_00207F_002090_00209C,
    0x002102_002102_002107_002107_00210A_002113_002115_002115_002119_00211D_002124_002124,
    0x002126_002126_002128_002128_00212A_00212D_00212F_002139_00213C_00213F_002145_002149,
    0x00214E_00214E_002160_002188_0024B6_0024E9_002C00_002CE4_002CEB_002CEE_002CF2_002CF3,
    0x002D00_002D25_002D27_002D27_002D2D_002D2D_002D30_002D67_002D6F_002D6F_002D80_002D96,
    0x002DA0_002DA6_002DA8_002DAE_002DB0_002DB6_002DB8_002DBE_002DC0_002DC6_002DC8_002DCE,
    0x002DD0_002DD6_002DD8_002DDE_002E2F_002E2F_003005_003005_00303B_00303C_003105_00312F,
    0x003131_00318E_0031A0_0031BF_00A000_00A48C_00A4D0_00A4FD_00A500_00A60C_00A610_00A61F,
    0x00A62A_00A62B_00A640_00A66E_00A67F_00A69D_00A6A0_00A6EF_00A708_00A7CD_00A7D0_00A7D1,
    0x00A7D3_00A7D3_00A7D5_00A7DC_00A7F2_00A801_00A803_00A805_00A807_00A80A_00A80C_00A822,
    0x00A840_00A873_00A882_00A8B3_00A8F2_00A8F7_00A8FB_00A8FB_00A8FD_00A8FE_00A90A_00A925,
    0x00A930_00A946_00A960_00A97C_00A984_00A9B2_00A9CF_00A9CF_00AA00_00AA28_00AA40_00AA42,
    0x00AA44_00AA4B_00AAE0_00AAEA_00AAF2_00AAF4_00AB01_00AB06_00AB09_00AB0E_00AB11_00AB16,
    0x00AB20_00AB26_00AB28_00AB2E_00AB30_00AB69_00AB70_00ABE2_00AC00_00D7A3_00D7B0_00D7C6,
    0x00D7CB_00D7FB_00FB00_00FB06_00FB13_00FB17_00FB50_00FBB1_00FBD3_00FD3D_00FD50_00FD8F,
    0x00FD92_00FDC7_00FDF0_00FDFB_00FE70_00FE74_00FE76_00FEFC_00FF21_00FF3A_00FF41_00FF5A,
    0x00FFA0_00FFBE_00FFC2_00FFC7_00FFCA_00FFCF_00FFD2_00FFD7_00FFDA_00FFDC_010000_01000B,
    0x01000D_010026_010028_01003A_01003C_01003D_01003F_01004D_010050_01005D_010080_0100FA,
    0x010140_010174_010280_01029C_0102A0_0102D0_010300_01031F_01032D_01034A_010350_010375,
    0x010380_01039D_0103A0_0103C3_0103C8_0103CF_0103D1_0103D5_010400_01049D_0104B0_0104D3,
    0x0104D8_0104FB_010500_010527_010530_010563_010570_01057A_01057C_01058A_01058C_010592,
    0x010594_010595_010597_0105A1_0105A3_0105B1_0105B3_0105B9_0105BB_0105BC_0105C0_0105F3,
    0x010600_010736_010740_010755_010760_010767_010780_010785_010787_0107B0_0107B2_0107BA,
    0x010800_010805_010808_010808_01080A_010835_010837_010838_01083C_01083C_01083F_010855,
    0x010860_010876_010880_01089E_0108E0_0108F2_0108F4_0108F5_010900_010915_010920_010939,
    0x010980_0109B7_0109BE_0109BF_010A00_010A00_010A10_010A13_010A15_010A17_010A19_010A35,
    0x010A60_010A7C_010A80_010A9C_010AC0_010AC7_010AC9_010AE4_010B00_010B35_010B40_010B55,
    0x010B60_010B72_010B80_010B91_010C00_010C48_010C80_010CB2_010CC0_010CF2_010D00_010D23,
    0x010D4A_010D65_010D6F_010D85_010E80_010EA9_010EB0_010EB1_010EC2_010EC4_010F00_010F1C,
    0x010F27_010F27_010F30_010F45_010F70_010F81_010FB0_010FC4_010FE0_010FF6_011003_011037,
    0x011071_011072_011075_011075_011083_0110AF_0110D0_0110E8_011103_011126_011144_011144,
    0x011147_011147_011150_011172_011176_011176_011183_0111B2_0111C1_0111C4_0111DA_0111DA,
    0x0111DC_0111DC_011200_011211_011213_01122B_01123F_011240_011280_011286_011288_011288,
    0x01128A_01128D_01128F_01129D_01129F_0112A8_0112B0_0112DE_011305_01130C_01130F_011310,
    0x011313_011328_01132A_011330_011332_011333_011335_011339_01133D_01133D_011350_011350,
    0x01135D_011361_011380_011389_01138B_01138B_01138E_01138E_011390_0113B5_0113B7_0113B7,
    0x0113D1_0113D1_0113D3_0113D3_011400_011434_011447_01144A_01145F_011461_011480_0114AF,
    0x0114C4_0114C5_0114C7_0114C7_011580_0115AE_0115D8_0115DB_011600_01162F_011644_011644,
    0x011680_0116AA_0116B8_0116B8_011800_01182B_0118A0_0118DF_0118FF_011906_011909_011909,
    0x01190C_011913_011915_011916_011918_01192F_01193F_01193F_011941_011941_0119A0_0119A7,
    0x0119AA_0119D0_0119E1_0119E1_0119E3_0119E3_011A00_011A00_011A0B_011A32_011A3A_011A3A,
    0x011A50_011A50_011A5C_011A89_011A9D_011A9D_011AB0_011AF8_011BC0_011BE0_011C00_011C08,
    0x011C0A_011C2E_011C40_011C40_011C72_011C8F_011D00_011D06_011D08_011D09_011D0B_011D30,
    0x011D46_011D46_011D60_011D65_011D67_011D68_011D6A_011D89_011D98_011D98_011EE0_011EF2,
    0x011F02_011F02_011F04_011F10_011F12_011F33_011FB0_011FB0_012000_012399_012400_01246E,
    0x012480_012543_012F90_012FF0_013000_01342F_013441_013446_013460_0143FA_014400_014646,
    0x016100_01611D_016800_016A38_016A40_016A5E_016A70_016ABE_016AD0_016AED_016B00_016B2F,
    0x016B40_016B43_016B63_016B77_016B7D_016B8F_016D40_016D6C_016E40_016E7F_016F00_016F4A,
    0x016F50_016F50_016F93_016F9F_016FE0_016FE1_016FE3_016FE3_01BC00_01BC6A_01BC70_01BC7C,
    0x01BC80_01BC88_01BC90_01BC99_01D400_01D454_01D456_01D49C_01D49E_01D49F_01D4A2_01D4A2,
    0x01D4A5_01D4A6_01D4A9_01D4AC_01D4AE_01D4B9_01D4BB_01D4BB_01D4BD_01D4C3_01D4C5_01D505,
    0x01D507_01D50A_01D50D_01D514_01D516_01D51C_01D51E_01D539_01D53B_01D53E_01D540_01D544,
    0x01D546_01D546_01D54A_01D550_01D552_01D6A5_01D6A8_01D6C0_01D6C2_01D6DA_01D6DC_01D6FA,
    0x01D6FC_01D714_01D716_01D734_01D736_01D74E_01D750_01D76E_01D770_01D788_01D78A_01D7A8,
    0x01D7AA_01D7C2_01D7C4_01D7CB_01DF00_01DF1E_01DF25_01DF2A_01E030_01E06D_01E100_01E12C,
    0x01E137_01E13D_01E14E_01E14E_01E290_01E2AD_01E2C0_01E2EB_01E4D0_01E4EB_01E5D0_01E5ED,
    0x01E5F0_01E5F0_01E7E0_01E7E6_01E7E8_01E7EB_01E7ED_01E7EE_01E7F0_01E7FE_01E800_01E8C4,
    0x01E900_01E943_01E94B_01E94B_01EE00_01EE03_01EE05_01EE1F_01EE21_01EE22_01EE24_01EE24,
    0x01EE27_01EE27_01EE29_01EE32_01EE34_01EE37_01EE39_01EE39_01EE3B_01EE3B_01EE42_01EE42,
    0x01EE47_01EE47_01EE49_01EE49_01EE4B_01EE4B_01EE4D_01EE4F_01EE51_01EE52_01EE54_01EE54,
    0x01EE57_01EE57_01EE59_01EE59_01EE5B_01EE5B_01EE5D_01EE5D_01EE5F_01EE5F_01EE61_01EE62,
    0x01EE64_01EE64_01EE67_01EE6A_01EE6C_01EE72_01EE74_01EE77_01EE79_01EE7C_01EE7E_01EE7E,
    0x01EE80_01EE89_01EE8B_01EE9B_01EEA1_01EEA3_01EEA5_01EEA9_01EEAB_01EEBB_01F130_01F149,
    0x01F150_01F169_01F170_01F189]⟩,
  ⟨["cr"], [
    0x00000D_00000D]⟩,
  ⟨["doublequote", "dq"], [
    0x000022_000022]⟩,
  ⟨["extend"], [
    0x000300_00036F_000483_000489_000591_0005BD_0005BF_0005BF_0005C1_0005C2_0005C4_0005C5,
    0x0005C7_0005C7_000610_00061A_00064B_00065F_000670_000670_0006D6_0006DC_0006DF_0006E4,
    0x0006E7_0006E8_0006EA_0006ED_000711_000711_000730_00074A_0007A6_0007B0_0007EB_0007F3,
    0x0007FD_0007FD_000816_000819_00081B_000823_000825_000827_000829_00082D_000859_00085B,
    0x000897_00089F_0008CA_0008E1_0008E3_000903_00093A_00093C_00093E_00094F_000951_000957,
    0x000962_000963_000981_000983_0009BC_0009BC_0009BE_0009C4_0009C7_0009C8_0009CB_0009CD,
    0x0009D7_0009D7_0009E2_0009E3_0009FE_0009FE_000A01_000A03_000A3C_000A3C_000A3E_000A42,
    0x000A47_000A48_000A4B_000A4D_000A51_000A51_000A70_000A71_000A75_000A75_000A81_000A83,
    0x000ABC_000ABC_000ABE_000AC5_000AC7_000AC9_000ACB_000ACD_000AE2_000AE3_000AFA_000AFF,
    0x000B01_000B03_000B3C_000B3C_000B3E_000B44_000B47_000B48_000B4B_000B4D_000B55_000B57,
    0x000B62_000B63_000B82_000B82_000BBE_000BC2_000BC6_000BC8_000BCA_000BCD_000BD7_000BD7,
    0x000C00_000C04_000C3C_000C3C_000C3E_000C44_000C46_000C48_000C4A_000C4D_000C55_000C56,
    0x000C62_000C63_000C81_000C83_000CBC_000CBC_000CBE_000CC4_000CC6_000CC8_000CCA_000CCD,
    0x000CD5_000CD6_000CE2_000CE3_000CF3_000CF3_000D00_000D03_000D3B_000D3C_000D3E_000D44,
    0x000D46_000D48_000D4A_000D4D_000D57_000D57_000D62_000D63_000D81_000D83_000DCA_000DCA,
    0x000DCF_000DD4_000DD6_000DD6_000DD8_000DDF_000DF2_000DF3_000E31_000E31_000E34_000E3A,
    0x000E47_000E4E_000EB1_000EB1_000EB4_000EBC_000EC8_000ECE_000F18_000F19_000F35_000F35,
    0x000F37_000F37_000F39_000F39_000F3E_000F3F_000F71_000F84_000F86_000F87_000F8D_000F97,
    0x000F99_000FBC_000FC6_000FC6_00102B_00103E_001056_001059_00105E_001060_001062_001064,
    0x001067_00106D_001071_001074_001082_00108D_00108F_00108F_00109A_00109D_00135D_00135F,
    0x001712_001715_001732_001734_001752_001753_001772_001773_0017B4_0017D3_0017DD_0017DD,
    0x00180B_00180D_00180F_00180F_001885_001886_0018A9_0018A9_001920_00192B_001930_00193B,
    0x001A17_001A1B_001A55_001A5E_001A60_001A7C_001A7F_001A7F_001AB0_001ACE_001B00_001B04,
    0x001B34_001B44_001B6B_001B73_001B80_001B82_001BA1_001BAD_001BE6_001BF3_001C24_001C37,
    0x001CD0_001CD2_001CD4_001CE8_001CED_001CED_001CF4_001CF4_001CF7_001CF9_001DC0_001DFF,
    0x00200C_00200C_0020D0_0020F0_002CEF_002CF1_002D7F_002D7F_002DE0_002DFF_00302A_00302F,
    0x003099_00309A_00A66F_00A672_00A674_00A67D_00A69E_00A69F_00A6F0_00A6F1_00A802_00A802,
    0x00A806_00A806_00A80B_00A80B_00A823_00A827_00A82C_00A82C_00A880_00A881_00A8B4_00A8C5,
    0x00A8E0_00A8F1_00A8FF_00A8FF_00A926_00A92D_00A947_00A953_00A980_00A983_00A9B3_00A9C0,
    0x00A9E5_00A9E5_00AA29_00AA36_00AA43_00AA43_00AA4C_00AA4D_00AA7B_00AA7D_00AAB0_00AAB0,
    0x00AAB2_00AAB4_00AAB7_00AAB8_00AABE_00AABF_00AAC1_00AAC1_00AAEB_00AAEF_00AAF5_00AAF6,
    0x00ABE3_00ABEA_00ABEC_00ABED_00FB1E_00FB1E_00FE00_00FE0F_00FE20_00FE2F_00FF9E_00FF9F,
    0x0101FD_0101FD_0102E0_0102E0_010376_01037A_010A01_010A03_010A05_010A06_010A0C_010A0F,
    0x010A38_010A3A_010A3F_010A3F_010AE5_010AE6_010D24_010D27_010D69_010D6D_010EAB_010EAC,
    0x010EFC_010EFF_010F46_010F50_010F82_010F85_011000_011002_011038_011046_011070_011070,
    0x011073_011074_01107F_011082_0110B0_0110BA_0110C2_0110C2_011100_011102_011127_011134,
    0x011145_011146_011173_011173_011180_011182_0111B3_0111C0_0111C9_0111CC_0111CE_0111CF,
    0x01122C_011237_01123E_01123E_011241_011241_0112DF_0112EA_011300_011303_01133B_01133C,
    0x01133E_011344_011347_011348_01134B_01134D_011357_011357_011362_011363_011366_01136C,
    0x011370_011374_0113B8_0113C0_0113C2_0113C2_0113C5_0113C5_0113C7_0113CA_0113CC_0113D0,
    0x0113D2_0113D2_0113E1_0113E2_011435_011446_01145E_01145E_0114B0_0114C3_0115AF_0115B5,
    0x0115B8_0115C0_0115DC_0115DD_011630_011640_0116AB_0116B7_01171D_01172B_01182C_01183A,
    0x011930_011935_011937_011938_01193B_01193E_011940_011940_011942_011943_0119D1_0119D7,
    0x0119DA_0119E0_0119E4_0119E4_011A01_011A0A_011A33_011A39_011A3B_011A3E_011A47_011A47,
    0x011A51_011A5B_011A8A_011A99_011C2F_011C36_011C38_011C3F_011C92_011CA7_011CA9_011CB6,
    0x011D31_011D36_011D3A_011D3A_011D3C_011D3D_011D3F_011D45_011D47_011D47_011D8A_011D8E,
    0x011D90_011D91_011D93_011D97_011EF3_011EF6_011F00_011F01_011F03_011F03_011F34_011F3A,
    0x011F3E_011F42_011F5A_011F5A_013440_013440_013447_013455_01611E_01612F_016AF0_016AF4,
    0x016B30_016B36_016F4F_016F4F_016F51_016F87_016F8F_016F92_016FE4_016FE4_016FF0_016FF1,
    0x01BC9D_01BC9E_01CF00_01CF2D_01CF30_01CF46_01D165_01D169_01D16D_01D172_01D17B_01D182,
    0x01D185_01D18B_01D1AA_01D1AD_01D242_01D244_01DA00_01DA36_01DA3B_01DA6C_01DA75_01DA75,
    0x01DA84_01DA84_01DA9B_01DA9F_01DAA1_01DAAF_01E000_01E006_01E008_01E018_01E01B_01E021,
    0x01E023_01E024_01E026_01E02A_01E08F_01E08F_01E130_01E136_01E2AE_01E2AE_01E2EC_01E2EF,
    0x01E4EC_01E4EF_01E5EE_01E5EF_01E8D0_01E8D6_01E944_01E94A_01F3FB_01F3FF_0E0020_0E007F,
    0x0E0100_0E01EF]⟩,
  ⟨["extendnumlet", "ex"], [
    0x00005F_00005F_00202F_00202F_00203F_002040_002054_002054_00FE33_00FE34_00FE4D_00FE4F,
    0x00FF3F_00FF3F]⟩,
  ⟨["format", "fo"], [
    0x0000AD_0000AD_00061C_00061C_00180E_00180E_00200E_00200F_00202A_00202E_002060_002064,
    0x002066_00206F_00FEFF_00FEFF_00FFF9_00FFFB_013430_01343F_01BCA0_01BCA3_01D173_01D17A,
    0x0E0001_0E0001]⟩,
  ⟨["hebrewletter", "hl"], [
    0x0005D0_0005EA_0005EF_0005F2_00FB1D_00FB1D_00FB1F_00FB28_00FB2A_00FB36_00FB38_00FB3C,
    0x00FB3E_00FB3E_00FB40_00FB41_00FB43_00FB44_00FB46_00FB4F]⟩,
  ⟨["katakana", "ka"], [
    0x003031_003035_00309B_00309C_0030A0_0030FA_0030FC_0030FF_0031F0_0031FF_0032D0_0032FE,
    0x003300_003357_00FF66_00FF9D_01AFF0_01AFF3_01AFF5_01AFFB_01AFFD_01AFFE_01B000_01B000,
    0x01B120_01B122_01B155_01B155_01B164_01B167]⟩,
  ⟨["lf"], [
    0x00000A_00000A]⟩,
  ⟨["midletter", "ml"], [
    0x00003A_00003A_0000B7_0000B7_000387_000387_00055F_00055F_0005F4_0005F4_002027_002027,
    0x00FE13_00FE13_00FE55_00FE55_00FF1A_00FF1A]⟩,
  ⟨["midnum", "mn"], [
    0x00002C_00002C_00003B_00003B_00037E_00037E_000589_000589_00060C_00060D_00066C_00066C,
    0x0007F8_0007F8_002044_002044_00FE50_00FE50_00FE54_00FE54_00FF0C_00FF0C_00FF1B_00FF1B]⟩,
  ⟨["midnumlet", "mb"], [
    0x00002E_00002E_002018_002019_002024_002024_00FE52_00FE52_00FF07_00FF07_00FF0E_00FF0E]⟩,
  ⟨["newline", "nl"], [
    0x00000B_00000C_000085_000085_002028_002029]⟩,
  ⟨["numeric", "nu"], [
    0x000030_000039_000600_000605_000660_000669_00066B_00066B_0006DD_0006DD_0006F0_0006F9,
    0x0007C0_0007C9_000890_000891_0008E2_0008E2_000966_00096F_0009E6_0009EF_000A66_000A6F,
    0x000AE6_000AEF_000B66_000B6F_000BE6_000BEF_000C66_000C6F_000CE6_000CEF_000D66_000D6F,
    0x000DE6_000DEF_000E50_000E59_000ED0_000ED9_000F20_000F29_001040_001049_001090_001099,
    0x0017E0_0017E9_001810_001819_001946_00194F_0019D0_0019DA_001A80_001A89_001A90_001A99,
    0x001B50_001B59_001BB0_001BB9_001C40_001C49_001C50_001C59_00A620_00A629_00A8D0_00A8D9,
    0x00A900_00A909_00A9D0_00A9D9_00A9F0_00A9F9_00AA50_00AA59_00ABF0_00ABF9_00FF10_00FF19,
    0x0104A0_0104A9_010D30_010D39_010D40_010D49_011066_01106F_0110BD_0110BD_0110CD_0110CD,
    0x0110F0_0110F9_011136_01113F_0111D0_0111D9_0112F0_0112F9_011450_011459_0114D0_0114D9,
    0x011650_011659_0116C0_0116C9_0116D0_0116E3_011730_011739_0118E0_0118E9_011950_011959,
    0x011BF0_011BF9_011C50_011C59_011D50_011D59_011DA0_011DA9_011F50_011F59_016130_016139,
    0x016A60_016A69_016AC0_016AC9_016B50_016B59_016D70_016D79_01CCF0_01CCF9_01D7CE_01D7FF,
    0x01E140_01E149_01E2F0_01E2F9_01E4F0_01E4F9_01E5F1_01E5FA_01E950_01E959_01FBF0_01FBF9]⟩,
  ⟨["regionalindicator", "ri"], [
    0x01F1E6_01F1FF]⟩,
  ⟨["singlequote", "sq"], [
    0x000027_000027]⟩,
  ⟨["wsegspace"], [
    0x000020_000020_001680_001680_002000_002006_002008_00200A_00205F_00205F_003000_003000]⟩,
  ⟨["zwj"], [
    0x00200D_00200D]⟩]

/-- Classes of sentences. -/
def sentence : List BreakClass := [
  ⟨["aterm", "at"], [
    0x00002E_00002E_002024_002024_00FE52_00FE52_00FF0E_00FF0E]⟩,
  ⟨["cr"], [
    0x00000D_00000D]⟩,
  ⟨["close", "cl"], [
    0x000022_000022_000027_000029_00005B_00005B_00005D_00005D_00007B_00007B_00007D_00007D,
    0x0000AB_0000AB_0000BB_0000BB_000F3A_000F3D_00169B_00169C_002018_00201F_002039_00203A,
    0x002045_002046_00207D_00207E_00208D_00208E_002308_00230B_002329_00232A_00275B_002760,
    0x002768_002775_0027C5_0027C6_0027E6_0027EF_002983_002998_0029D8_0029DB_0029FC_0029FD,
    0x002E00_002E0D_002E1C_002E1D_002E20_002E29_002E42_002E42_002E55_002E5C_003008_003011,
    0x003014_00301B_00301D_00301F_00FD3E_00FD3F_00FE17_00FE18_00FE35_00FE44_00FE47_00FE48,
    0x00FE59_00FE5E_00FF08_00FF09_00FF3B_00FF3B_00FF3D_00FF3D_00FF5B_00FF5B_00FF5D_00FF5D,
    0x00FF5F_00FF60_00FF62_00FF63_01F676_01F678]⟩,
  ⟨["extend", "ex"], [
    0x000300_00036F_000483_000489_000591_0005BD_0005BF_0005BF_0005C1_0005C2_0005C4_0005C5,
    0x0005C7_0005C7_000610_00061A_00064B_00065F_000670_000670_0006D6_0006DC_0006DF_0006E4,
    0x0006E7_0006E8_0006EA_0006ED_000711_000711_000730_00074A_0007A6_0007B0_0007EB_0007F3,
    0x0007FD_0007FD_000816_000819_00081B_000823_000825_000827_000829_00082D_000859_00085B,
    0x000897_00089F_0008CA_0008E1_0008E3_000903_00093A_00093C_00093E_00094F_000951_000957,
    0x000962_000963_000981_000983_0009BC_0009BC_0009BE_0009C4_0009C7_0009C8_0009CB_0009CD,
    0x0009D7_0009D7_0009E2_0009E3_0009FE_0009FE_000A01_000A03_000A3C_000A3C_000A3E_000A42,
    0x000A47_000A48_000A4B_000A4D_000A51_000A51_000A70_000A71_000A75_000A75_000A81_000A83,
    0x000ABC_000ABC_000ABE_000AC5_000AC7_000AC9_000ACB_000ACD_000AE2_000AE3_000AFA_000AFF,
    0x000B01_000B03_000B3C_000B3C_000B3E_000B44_000B47_000B48_000B4B_000B4D_000B55_000B57,
    0x000B62_000B63_000B82_000B82_000BBE_000BC2_000BC6_000BC8_000BCA_000BCD_000BD7_000BD7,
    0x000C00_000C04_000C3C_000C3C_000C3E_000C44_000C46_000C48_000C4A_000C4D_000C55_000C56,
    0x000C62_000C63_000C81_000C83_000CBC_000CBC_000CBE_000CC4_000CC6_000CC8_000CCA_000CCD,
    0x000CD5_000CD6_000CE2_000CE3_000CF3_000CF3_000D00_000D03_000D3B_000D3C_000D3E_000D44,
    0x000D46_000D48_000D4A_000D4D_000D57_000D57_000D62_000D63_000D81_000D83_000DCA_000DCA,
    0x000DCF_000DD4_000DD6_000DD6_000DD8_000DDF_000DF2_000DF3_000E31_000E31_000E34_000E3A,
    0x000E47_000E4E_000EB1_000EB1_000EB4_000EBC_000EC8_000ECE_000F18_000F19_000F35_000F35,
    0x000F37_000F37_000F39_000F39_000F3E_000F3F_000F71_000F84_000F86_000F87_000F8D_000F97,
    0x000F99_000FBC_000FC6_000FC6_00102B_00103E_001056_001059_00105E_001060_001062_001064,
    0x001067_00106D_001071_001074_001082_00108D_00108F_00108F_00109A_00109D_00135D_00135F,
    0x001712_001715_001732_001734_001752_001753_001772_001773_0017B4_0017D3_0017DD_0017DD,
    0x00180B_00180D_00180F_00180F_001885_001886_0018A9_0018A9_001920_00192B_001930_00193B,
    0x001A17_001A1B_001A55_001A5E_001A60_001A7C_001A7F_001A7F_001AB0_001ACE_001B00_001B04,
    0x001B34_001B44_001B6B_001B73_001B80_001B82_001BA1_001BAD_001BE6_001BF3_001C24_001C37,
    0x001CD0_001CD2_001CD4_001CE8_001CED_001CED_001CF4_001CF4_001CF7_001CF9_001DC0_001DFF,
    0x00200C_00200D_0020D0_0020F0_002CEF_002CF1_002D7F_002D7F_002DE0_002DFF_00302A_00302F,
    0x003099_00309A_00A66F_00A672_00A674_00A67D_00A69E_00A69F_00A6F0_00A6F1_00A802_00A802,
    0x00A806_00A806_00A80B_00A80B_00A823_00A827_00A82C_00A82C_00A880_00A881_00A8B4_00A8C5,
    0x00A8E0_00A8F1_00A8FF_00A8FF_00A926_00A92D_00A947_00A953_00A980_00A983_00A9B3_00A9C0,
    0x00A9E5_00A9E5_00AA29_00AA36_00AA43_00AA43_00AA4C_00AA4D_00AA7B_00AA7D_00AAB0_00AAB0,
    0x00AAB2_00AAB4_00AAB7_00AAB8_00AABE_00AABF_00AAC1_00AAC1_00AAEB_00AAEF_00AAF5_00AAF6,
    0x00ABE3_00ABEA_00ABEC_00ABED_00FB1E_00FB1E_00FE00_00FE0F_00FE20_00FE2F_00FF9E_00FF9F,
    0x0101FD_0101FD_0102E0_0102E0_010376_01037A_010A01_010A03_010A05_010A06_010A0C_010A0F,
    0x010A38_010A3A_010A3F_010A3F_010AE5_010AE6_010D24_010D27_010D69_010D6D_010EAB_010EAC,
    0x010EFC_010EFF_010F46_010F50_010F82_010F85_011000_011002_011038_011046_011070_011070,
    0x011073_011074_01107F_011082_0110B0_0110BA_0110C2_0110C2_011100_011102_011127_011134,
    0x011145_011146_011173_011173_011180_011182_0111B3_0111C0_0111C9_0111CC_0111CE_0111CF,
    0x01122C_011237_01123E_01123E_011241_011241_0112DF_0112EA_011300_011303_01133B_01133C,
    0x01133E_011344_011347_011348_01134B_01134D_011357_011357_011362_011363_011366_01136C,
    0x011370_011374_0113B8_0113C0_0113C2_0113C2_0113C5_0113C5_0113C7_0113CA_0113CC_0113D0,
    0x0113D2_0113D2_0113E1_0113E2_011435_011446_01145E_01145E_0114B0_0114C3_0115AF_0115B5,
    0x0115B8_0115C0_0115DC_0115DD_011630_011640_0116AB_0116B7_01171D_01172B_01182C_01183A,
    0x011930_011935_011937_011938_01193B_01193E_011940_011940_011942_011943_0119D1_0119D7,
    0x0119DA_0119E0_0119E4_0119E4_011A01_011A0A_011A33_011A39_011A3B_011A3E_011A47_011A47,
    0x011A51_011A5B_011A8A_011A99_011C2F_011C36_011C38_011C3F_011C92_011CA7_011CA9_011CB6,
    0x011D31_011D36_011D3A_011D3A_011D3C_011D3D_011D3F_011D45_011D47_011D47_011D8A_011D8E,
    0x011D90_011D91_011D93_011D97_011EF3_011EF6_011F00_011F01_011F03_011F03_011F34_011F3A,
    0x011F3E_011F42_011F5A_011F5A_013440_013440_013447_013455_01611E_01612F_016AF0_016AF4,
    0x016B30_016B36_016F4F_016F4F_016F51_016F87_016F8F_016F92_016FE4_016FE4_016FF0_016FF1,
    0x01BC9D_01BC9E_01CF00_01CF2D_01CF30_01CF46_01D165_01D169_01D16D_01D172_01D17B_01D182,
    0x01D185_01D18B_01D1AA_01D1AD_01D242_01D244_01DA00_01DA36_01DA3B_01DA6C_01DA75_01DA75,
    0x01DA84_01DA84_01DA9B_01DA9F_01DAA1_01DAAF_01E000_01E006_01E008_01E018_01E01B_01E021,
    0x01E023_01E024_01E026_01E02A_01E08F_01E08F_01E130_01E136_01E2AE_01E2AE_01E2EC_01E2EF,
    0x01E4EC_01E4EF_01E5EE_01E5EF_01E8D0_01E8D6_01E944_01E94A_0E0020_0E007F_0E0100_0E01EF]⟩,
  ⟨["format", "fo"], [
    0x0000AD_0000AD_00061C_00061C_00070F_00070F_00180E_00180E_00200B_00200B_00200E_00200F,
    0x00202A_00202E_002060_002064_002066_00206F_00FEFF_00FEFF_00FFF9_00FFFB_013430_01343F,
    0x01BCA0_01BCA3_01D173_01D17A_0E0001_0E0001]⟩,
  ⟨["lf"], [
    0x00000A_00000A]⟩,
  ⟨["lower", "lo"], [
    0x000061_00007A_0000AA_0000AA_0000B5_0000B5_0000BA_0000BA_0000DF_0000F6_0000F8_0000FF,
    0x000101_000101_000103_000103_000105_000105_000107_000107_000109_000109_00010B_00010B,
    0x00010D_00010D_00010F_00010F_000111_000111_000113_000113_000115_000115_000117_000117,
    0x000119_000119_00011B_00011B_00011D_00011D_00011F_00011F_000121_000121_000123_000123,
    0x000125_000125_000127_000127_000129_000129_00012B_00012B_00012D_00012D_00012F_00012F,
    0x000131_000131_000133_000133_000135_000135_000137_000138_00013A_00013A_00013C_00013C,
    0x00013E_00013E_000140_000140_000142_000142_000144_000144_000146_000146_000148_000149,
    0x00014B_00014B_00014D_00014D_00014F_00014F_000151_000151_000153_000153_000155_000155,
    0x000157_000157_000159_000159_00015B_00015B_00015D_00015D_00015F_00015F_000161_000161,
    0x000163_000163_000165_000165_000167_000167_000169_000169_00016B_00016B_00016D_00016D,
    0x00016F_00016F_000171_000171_000173_000173_000175_000175_000177_000177_00017A_00017A,
    0x00017C_00017C_00017E_000180_000183_000183_000185_000185_000188_000188_00018C_00018D,
    0x000192_000192_000195_000195_000199_00019B_00019E_00019E_0001A1_0001A1_0001A3_0001A3,
    0x0001A5_0001A5_0001A8_0001A8_0001AA_0001AB_0001AD_0001AD_0001B0_0001B0_0001B4_0001B4,
    0x0001B6_0001B6_0001B9_0001BA_0001BD_0001BF_0001C6_0001C6_0001C9_0001C9_0001CC_0001CC,
    0x0001CE_0001CE_0001D0_0001D0_0001D2_0001D2_0001D4_0001D4_0001D6_0001D6_0001D8_0001D8,
    0x0001DA_0001DA_0001DC_0001DD_0001DF_0001DF_0001E1_0001E1_0001E3_0001E3_0001E5_0001E5,
    0x0001E7_0001E7_0001E9_0001E9_0001EB_0001EB_0001ED_0001ED_0001EF_0001F0_0001F3_0001F3,
    0x0001F5_0001F5_0001F9_0001F9_0001FB_0001FB_0001FD_0001FD_0001FF_0001FF_000201_000201,
    0x000203_000203_000205_000205_000207_000207_000209_000209_00020B_00020B_00020D_00020D,
    0x00020F_00020F_000211_000211_000213_000213_000215_000215_000217_000217_000219_000219,
    0x00021B_00021B_00021D_00021D_00021F_00021F_000221_000221_000223_000223_000225_000225,
    0x000227_000227_000229_000229_00022B_00022B_00022D_00022D_00022F_00022F_000231_000231,
    0x000233_000239_00023C_00023C_00023F_000240_000242_000242_000247_000247_000249_000249,
    0x00024B_00024B_00024D_00024D_00024F_000293_000295_0002B8_0002C0_0002C1_0002E0_0002E4,
    0x000371_000371_000373_000373_000377_000377_00037A_00037D_000390_000390_0003AC_0003CE,
    0x0003D0_0003D1_0003D5_0003D7_0003D9_0003D9_0003DB_0003DB_0003DD_0003DD_0003DF_0003DF,
    0x0003E1_0003E1_0003E3_0003E3_0003E5_0003E5_0003E7_0003E7_0003E9_0003E9_0003EB_0003EB,
    0x0003ED_0003ED_0003EF_0003F3_0003F5_0003F5_0003F8_0003F8_0003FB_0003FC_000430_00045F,
    0x000461_000461_000463_000463_000465_000465_000467_000467_000469_000469_00046B_00046B,
    0x00046D_00046D_00046F_00046F_000471_000471_000473_000473_000475_000475_000477_000477,
    0x000479_000479_00047B_00047B_00047D_00047D_00047F_00047F_000481_000481_00048B_00048B,
    0x00048D_00048D_00048F_00048F_000491_000491_000493_000493_000495_000495_000497_000497,
    0x000499_000499_00049B_00049B_00049D_00049D_00049F_00049F_0004A1_0004A1_0004A3_0004A3,
    0x0004A5_0004A5_0004A7_0004A7_0004A9_0004A9_0004AB_0004AB_0004AD_0004AD_0004AF_0004AF,
    0x0004B1_0004B1_0004B3_0004B3_0004B5_0004B5_0004B7_0004B7_0004B9_0004B9_0004BB_0004BB,
    0x0004BD_0004BD_0004BF_0004BF_0004C2_0004C2_0004C4_0004C4_0004C6_0004C6_0004C8_0004C8,
    0x0004CA_0004CA_0004CC_0004CC_0004CE_0004CF_0004D1_0004D1_0004D3_0004D3_0004D5_0004D5,
    0x0004D7_0004D7_0004D9_0004D9_0004DB_0004DB_0004DD_0004DD_0004DF_0004DF_0004E1_0004E1,
    0x0004E3_0004E3_0004E5_0004E5_0004E7_0004E7_0004E9_0004E9_0004EB_0004EB_0004ED_0004ED,
    0x0004EF_0004EF_0004F1_0004F1_0004F3_0004F3_0004F5_0004F5_0004F7_0004F7_0004F9_0004F9,
    0x0004FB_0004FB_0004FD_0004FD_0004FF_0004FF_000501_000501_000503_000503_000505_000505,
    0x000507_000507_000509_000509_00050B_00050B_00050D_00050D_00050F_00050F_000511_000511,
    0x000513_000513_000515_000515_000517_000517_000519_000519_00051B_00051B_00051D_00051D,
    0x00051F_00051F_000521_000521_000523_000523_000525_000525_000527_000527_000529_000529,
    0x00052B_00052B_00052D_00052D_00052F_00052F_000560_000588_0010FC_0010FC_0013F8_0013FD,
    0x001C80_001C88_001C8A_001C8A_001D00_001DBF_001E01_001E01_001E03_001E03_001E05_001E05,
    0x001E07_001E07_001E09_001E09_001E0B_001E0B_001E0D_001E0D_001E0F_001E0F_001E11_001E11,
    0x001E13_001E13_001E15_001E15_001E17_001E17_001E19_001E19_001E1B_001E1B_001E1D_001E1D,
    0x001E1F_001E1F_001E21_001E21_001E23_001E23_001E25_001E25_001E27_001E27_001E29_001E29,
    0x001E2B_001E2B_001E2D_001E2D_001E2F_001E2F_001E31_001E31_001E33_001E33_001E35_001E35,
    0x001E37_001E37_001E39_001E39_001E3B_001E3B_001E3D_001E3D_001E3F_001E3F_001E41_001E41,
    0x001E43_001E43_001E45_001E45_001E47_001E47_001E49_001E49_001E4B_001E4B_001E4D_001E4D,
    0x001E4F_001E4F_001E51_001E51_001E53_001E53_001E55_001E55_001E57_001E57_001E59_001E59,
    0x001E5B_001E5B_001E5D_001E5D_001E5F_001E5F_001E61_001E61_001E63_001E63_001E65_001E65,
    0x001E67_001E67_001E69_001E69_001E6B_001E6B_001E6D_001E6D_001E6F_001E6F_001E71_001E71,
    0x001E73_001E73_001E75_001E75_001E77_001E77_001E79_001E79_001E7B_001E7B_001E7D_001E7D,
    0x001E7F_001E7F_001E81_001E81_001E83_001E83_001E85_001E85_001E87_001E87_001E89_001E89,
    0x001E8B_001E8B_001E8D_001E8D_001E8F_001E8F_001E91_001E91_001E93_001E93_001E95_001E9D,
    0x001E9F_001E9F_001EA1_001EA1_001EA3_001EA3_001EA5_001EA5_001EA7_001EA7_001EA9_001EA9,
    0x001EAB_001EAB_001EAD_001EAD_001EAF_001EAF_001EB1_001EB1_001EB3_001EB3_001EB5_001EB5,
    0x001EB7_001EB7_001EB9_001EB9_001EBB_001EBB_001EBD_001EBD_001EBF_001EBF_001EC1_001EC1,
    0x001EC3_001EC3_001EC5_001EC5_001EC7_001EC7_001EC9_001EC9_001ECB_001ECB_001ECD_001ECD,
    0x001ECF_001ECF_001ED1_001ED1_001ED3_001ED3_001ED5_001ED5_001ED7_001ED7_001ED9_001ED9,
    0x001EDB_001EDB_001EDD_001EDD_001EDF_001EDF_001EE1_001EE1_001EE3_001EE3_001EE5_001EE5,
    0x001EE7_001EE7_001EE9_001EE9_001EEB_001EEB_001EED_001EED_001EEF_001EEF_001EF1_001EF1,
    0x001EF3_001EF3_001EF5_001EF5_001EF7_001EF7_001EF9_001EF9_001EFB_001EFB_001EFD_001EFD,
    0x001EFF_001F07_001F10_001F15_001F20_001F27_001F30_001F37_001F40_001F45_001F50_001F57,
    0x001F60_001F67_001F70_001F7D_001F80_001F87_001F90_001F97_001FA0_001FA7_001FB0_001FB4,
    0x001FB6_001FB7_001FBE_001FBE_001FC2_001FC4_001FC6_001FC7_001FD0_001FD3_001FD6_001FD7,
    0x001FE0_001FE7_001FF2_001FF4_001FF6_001FF7_002071_002071_00207F_00207F_002090_00209C,
    0x00210A_00210A_00210E_00210F_002113_002113_00212F_00212F_002134_002134_002139_002139,
    0x00213C_00213D_002146_002149_00214E_00214E_002170_00217F_002184_002184_0024D0_0024E9,
    0x002C30_002C5F_002C61_002C61_002C65_002C66_002C68_002C68_002C6A_002C6A_002C6C_002C6C,
    0x002C71_002C71_002C73_002C74_002C76_002C7D_002C81_002C81_002C83_002C83_002C85_002C85,
    0x002C87_002C87_002C89_002C89_002C8B_002C8B_002C8D_002C8D_002C8F_002C8F_002C91_002C91,
    0x002C93_002C93_002C95_002C95_002C97_002C97_002C99_002C99_002C9B_002C9B_002C9D_002C9D,
    0x002C9F_002C9F_002CA1_002CA1_002CA3_002CA3_002CA5_002CA5_002CA7_002CA7_002CA9_002CA9,
    0x002CAB_002CAB_002CAD_002CAD_002CAF_002CAF_002CB1_002CB1_002CB3_002CB3_002CB5_002CB5,
    0x002CB7_002CB7_002CB9_002CB9_002CBB_002CBB_002CBD_002CBD_002CBF_002CBF_002CC1_002CC1,
    0x002CC3_002CC3_002CC5_002CC5_002CC7_002CC7_002CC9_002CC9_002CCB_002CCB_002CCD_002CCD,
    0x002CCF_002CCF_002CD1_002CD1_002CD3_002CD3_002CD5_002CD5_002CD7_002CD7_002CD9_002CD9,
    0x002CDB_002CDB_002CDD_002CDD_002CDF_002CDF_002CE1_002CE1_002CE3_002CE4_002CEC_002CEC,
    0x002CEE_002CEE_002CF3_002CF3_002D00_002D25_002D27_002D27_002D2D_002D2D_00A641_00A641,
    0x00A643_00A643_00A645_00A645_00A647_00A647_00A649_00A649_00A64B_00A64B_00A64D_00A64D,
    0x00A64F_00A64F_00A651_00A651_00A653_00A653_00A655_00A655_00A657_00A657_00A659_00A659,
    0x00A65B_00A65B_00A65D_00A65D_00A65F_00A65F_00A661_00A661_00A663_00A663_00A665_00A665,
    0x00A667_00A667_00A669_00A669_00A66B_00A66B_00A66D_00A66D_00A681_00A681_00A683_00A683,
    0x00A685_00A685_00A687_00A687_00A689_00A689_00A68B_00A68B_00A68D_00A68D_00A68F_00A68F,
    0x00A691_00A691_00A693_00A693_00A695_00A695_00A697_00A697_00A699_00A699_00A69B_00A69D,
    0x00A723_00A723_00A725_00A725_00A727_00A727_00A729_00A729_00A72B_00A72B_00A72D_00A72D,
    0x00A72F_00A731_00A733_00A733_00A735_00A735_00A737_00A737_00A739_00A739_00A73B_00A73B,
    0x00A73D_00A73D_00A73F_00A73F_00A741_00A741_00A743_00A743_00A745_00A745_00A747_00A747,
    0x00A749_00A749_00A74B_00A74B_00A74D_00A74D_00A74F_00A74F_00A751_00A751_00A753_00A753,
    0x00A755_00A755_00A757_00A757_00A759_00A759_00A75B_00A75B_00A75D_00A75D_00A75F_00A75F,
    0x00A761_00A761_00A763_00A763_00A765_00A765_00A767_00A767_00A769_00A769_00A76B_00A76B,
    0x00A76D_00A76D_00A76F_00A778_00A77A_00A77A_00A77C_00A77C_00A77F_00A77F_00A781_00A781,
    0x00A783_00A783_00A785_00A785_00A787_00A787_00A78C_00A78C_00A78E_00A78E_00A791_00A791,
    0x00A793_00A795_00A797_00A797_00A799_00A799_00A79B_00A79B_00A79D_00A79D_00A79F_00A79F,
    0x00A7A1_00A7A1_00A7A3_00A7A3_00A7A5_00A7A5_00A7A7_00A7A7_00A7A9_00A7A9_00A7AF_00A7AF,
    0x00A7B5_00A7B5_00A7B7_00A7B7_00A7B9_00A7B9_00A7BB_00A7BB_00A7BD_00A7BD_00A7BF_00A7BF,
    0x00A7C1_00A7C1_00A7C3_00A7C3_00A7C8_00A7C8_00A7CA_00A7CA_00A7CD_00A7CD_00A7D1_00A7D1,
    0x00A7D3_00A7D3_00A7D5_00A7D5_00A7D7_00A7D7_00A7D9_00A7D9_00A7DB_00A7DB_00A7F2_00A7F4,
    0x00A7F6_00A7F6_00A7F8_00A7FA_00AB30_00AB5A_00AB5C_00AB69_00AB70_00ABBF_00FB00_00FB06,
    0x00FB13_00FB17_00FF41_00FF5A_010428_01044F_0104D8_0104FB_010597_0105A1_0105A3_0105B1,
    0x0105B3_0105B9_0105BB_0105BC_010780_010780_010783_010785_010787_0107B0_0107B2_0107BA,
    0x010CC0_010CF2_010D70_010D85_0118C0_0118DF_016E60_016E7F_01D41A_01D433_01D44E_01D454,
    0x01D456_01D467_01D482_01D49B_01D4B6_01D4B9_01D4BB_01D4BB_01D4BD_01D4C3_01D4C5_01D4CF,
    0x01D4EA_01D503_01D51E_01D537_01D552_01D56B_01D586_01D59F_01D5BA_01D5D3_01D5EE_01D607,
    0x01D622_01D63B_01D656_01D66F_01D68A_01D6A5_01D6C2_01D6DA_01D6DC_01D6E1_01D6FC_01D714,
    0x01D716_01D71B_01D736_01D74E_01D750_01D755_01D770_01D788_01D78A_01D78F_01D7AA_01D7C2,
    0x01D7C4_01D7C9_01D7CB_01D7CB_01DF00_01DF09_01DF0B_01DF1E_01DF25_01DF2A_01E030_01E06D,
    0x01E922_01E943]⟩,
  ⟨["numeric", "nu"], [
    0x000030_000039_000600_000605_000660_000669_00066B_00066C_0006DD_0006DD_0006F0_0006F9,
    0x0007C0_0007C9_000890_000891_0008E2_0008E2_000966_00096F_0009E6_0009EF_000A66_000A6F,
    0x000AE6_000AEF_000B66_000B6F_000BE6_000BEF_000C66_000C6F_000CE6_000CEF_000D66_000D6F,
    0x000DE6_000DEF_000E50_000E59_000ED0_000ED9_000F20_000F29_001040_001049_001090_001099,
    0x0017E0_0017E9_001810_001819_001946_00194F_0019D0_0019DA_001A80_001A89_001A90_001A99,
    0x001B50_001B59_001BB0_001BB9_001C40_001C49_001C50_001C59_00A620_00A629_00A8D0_00A8D9,
    0x00A900_00A909_00A9D0_00A9D9_00A9F0_00A9F9_00AA50_00AA59_00ABF0_00ABF9_00FF10_00FF19,
    0x0104A0_0104A9_010D30_010D39_010D40_010D49_011066_01106F_0110BD_0110BD_0110CD_0110CD,
    0x0110F0_0110F9_011136_01113F_0111D0_0111D9_0112F0_0112F9_011450_011459_0114D0_0114D9,
    0x011650_011659_0116C0_0116C9_0116D0_0116E3_011730_011739_0118E0_0118E9_011950_011959,
    0x011BF0_011BF9_011C50_011C59_011D50_011D59_011DA0_011DA9_011F50_011F59_016130_016139,
    0x016A60_016A69_016AC0_016AC9_016B50_016B59_016D70_016D79_01CCF0_01CCF9_01D7CE_01D7FF,
    0x01E140_01E149_01E2F0_01E2F9_01E4F0_01E4F9_01E5F1_01E5FA_01E950_01E959_01FBF0_01FBF9]⟩,
  ⟨["oletter", "le"], [
    0x0001BB_0001BB_0001C0_0001C3_000294_000294_0002B9_0002BF_0002C6_0002D1_0002EC_0002EC,
    0x0002EE_0002EE_000374_000374_000559_000559_0005D0_0005EA_0005EF_0005F3_000620_00064A,
    0x00066E_00066F_000671_0006D3_0006D5_0006D5_0006E5_0006E6_0006EE_0006EF_0006FA_0006FC,
    0x0006FF_0006FF_000710_000710_000712_00072F_00074D_0007A5_0007B1_0007B1_0007CA_0007EA,
    0x0007F4_0007F5_0007FA_0007FA_000800_000815_00081A_00081A_000824_000824_000828_000828,
    0x000840_000858_000860_00086A_000870_000887_000889_00088E_0008A0_0008C9_000904_000939,
    0x00093D_00093D_000950_000950_000958_000961_000971_000980_000985_00098C_00098F_000990,
    0x000993_0009A8_0009AA_0009B0_0009B2_0009B2_0009B6_0009B9_0009BD_0009BD_0009CE_0009CE,
    0x0009DC_0009DD_0009DF_0009E1_0009F0_0009F1_0009FC_0009FC_000A05_000A0A_000A0F_000A10,
    0x000A13_000A28_000A2A_000A30_000A32_000A33_000A35_000A36_000A38_000A39_000A59_000A5C,
    0x000A5E_000A5E_000A72_000A74_000A85_000A8D_000A8F_000A91_000A93_000AA8_000AAA_000AB0,
    0x000AB2_000AB3_000AB5_000AB9_000ABD_000ABD_000AD0_000AD0_000AE0_000AE1_000AF9_000AF9,
    0x000B05_000B0C_000B0F_000B10_000B13_000B28_000B2A_000B30_000B32_000B33_000B35_000B39,
    0x000B3D_000B3D_000B5C_000B5D_000B5F_000B61_000B71_000B71_000B83_000B83_000B85_000B8A,
    0x000B8E_000B90_000B92_000B95_000B99_000B9A_000B9C_000B9C_000B9E_000B9F_000BA3_000BA4,
    0x000BA8_000BAA_000BAE_000BB9_000BD0_000BD0_000C05_000C0C_000C0E_000C10_000C12_000C28,
    0x000C2A_000C39_000C3D_000C3D_000C58_000C5A_000C5D_000C5D_000C60_000C61_000C80_000C80,
    0x000C85_000C8C_000C8E_000C90_000C92_000CA8_000CAA_000CB3_000CB5_000CB9_000CBD_000CBD,
    0x000CDD_000CDE_000CE0_000CE1_000CF1_000CF2_000D04_000D0C_000D0E_000D10_000D12_000D3A,
    0x000D3D_000D3D_000D4E_000D4E_000D54_000D56_000D5F_000D61_000D7A_000D7F_000D85_000D96,
    0x000D9A_000DB1_000DB3_000DBB_000DBD_000DBD_000DC0_000DC6_000E01_000E30_000E32_000E33,
    0x000E40_000E46_000E81_000E82_000E84_000E84_000E86_000E8A_000E8C_000EA3_000EA5_000EA5,
    0x000EA7_000EB0_000EB2_000EB3_000EBD_000EBD_000EC0_000EC4_000EC6_000EC6_000EDC_000EDF,
    0x000F00_000F00_000F40_000F47_000F49_000F6C_000F88_000F8C_001000_00102A_00103F_00103F,
    0x001050_001055_00105A_00105D_001061_001061_001065_001066_00106E_001070_001075_001081,
    0x00108E_00108E_0010D0_0010FA_0010FD_001248_00124A_00124D_001250_001256_001258_001258,
    0x00125A_00125D_001260_001288_00128A_00128D_001290_0012B0_0012B2_0012B5_0012B8_0012BE,
    0x0012C0_0012C0_0012C2_0012C5_0012C8_0012D6_0012D8_001310_001312_001315_001318_00135A,
    0x001380_00138F_001401_00166C_00166F_00167F_001681_00169A_0016A0_0016EA_0016EE_0016F8,
    0x001700_001711_00171F_001731_001740_001751_001760_00176C_00176E_001770_001780_0017B3,
    0x0017D7_0017D7_0017DC_0017DC_001820_001878_001880_001884_001887_0018A8_0018AA_0018AA,
    0x0018B0_0018F5_001900_00191E_001950_00196D_001970_001974_001980_0019AB_0019B0_0019C9,
    0x001A00_001A16_001A20_001A54_001AA7_001AA7_001B05_001B33_001B45_001B4C_001B83_001BA0,
    0x001BAE_001BAF_001BBA_001BE5_001C00_001C23_001C4D_001C4F_001C5A_001C7D_001C90_001CBA,
    0x001CBD_001CBF_001CE9_001CEC_001CEE_001CF3_001CF5_001CF6_001CFA_001CFA_002135_002138,
    0x002180_002182_002185_002188_002D30_002D67_002D6F_002D6F_002D80_002D96_002DA0_002DA6,
    0x002DA8_002DAE_002DB0_002DB6_002DB8_002DBE_002DC0_002DC6_002DC8_002DCE_002DD0_002DD6,
    0x002DD8_002DDE_002E2F_002E2F_003005_003007_003021_003029_003031_003035_003038_00303C,
    0x003041_003096_00309D_00309F_0030A1_0030FA_0030FC_0030FF_003105_00312F_003131_00318E,
    0x0031A0_0031BF_0031F0_0031FF_003400_004DBF_004E00_00A48C_00A4D0_00A4FD_00A500_00A60C,
    0x00A610_00A61F_00A62A_00A62B_00A66E_00A66E_00A67F_00A67F_00A6A0_00A6EF_00A717_00A71F,
    0x00A788_00A788_00A78F_00A78F_00A7F7_00A7F7_00A7FB_00A801_00A803_00A805_00A807_00A80A,
    0x00A80C_00A822_00A840_00A873_00A882_00A8B3_00A8F2_00A8F7_00A8FB_00A8FB_00A8FD_00A8FE,
    0x00A90A_00A925_00A930_00A946_00A960_00A97C_00A984_00A9B2_00A9CF_00A9CF_00A9E0_00A9E4,
    0x00A9E6_00A9EF_00A9FA_00A9FE_00AA00_00AA28_00AA40_00AA42_00AA44_00AA4B_00AA60_00AA76,
    0x00AA7A_00AA7A_00AA7E_00AAAF_00AAB1_00AAB1_00AAB5_00AAB6_00AAB9_00AABD_00AAC0_00AAC0,
    0x00AAC2_00AAC2_00AADB_00AADD_00AAE0_00AAEA_00AAF2_00AAF4_00AB01_00AB06_00AB09_00AB0E,
    0x00AB11_00AB16_00AB20_00AB26_00AB28_00AB2E_00ABC0_00ABE2_00AC00_00D7A3_00D7B0_00D7C6,
    0x00D7CB_00D7FB_00F900_00FA6D_00FA70_00FAD9_00FB1D_00FB1D_00FB1F_00FB28_00FB2A_00FB36,
    0x00FB38_00FB3C_00FB3E_00FB3E_00FB40_00FB41_00FB43_00FB44_00FB46_00FBB1_00FBD3_00FD3D,
    0x00FD50_00FD8F_00FD92_00FDC7_00FDF0_00FDFB_00FE70_00FE74_00FE76_00FEFC_00FF66_00FF9D,
    0x00FFA0_00FFBE_00FFC2_00FFC7_00FFCA_00FFCF_00FFD2_00FFD7_00FFDA_00FFDC_010000_01000B,
    0x01000D_010026_010028_01003A_01003C_01003D_01003F_01004D_010050_01005D_010080_0100FA,
    0x010140_010174_010280_01029C_0102A0_0102D0_010300_01031F_01032D_01034A_010350_010375,
    0x010380_01039D_0103A0_0103C3_0103C8_0103CF_0103D1_0103D5_010450_01049D_010500_010527,
    0x010530_010563_0105C0_0105F3_010600_010736_010740_010755_010760_010767_010781_010782,
    0x010800_010805_010808_010808_01080A_010835_010837_010838_01083C_01083C_01083F_010855,
    0x010860_010876_010880_01089E_0108E0_0108F2_0108F4_0108F5_010900_010915_010920_010939,
    0x010980_0109B7_0109BE_0109BF_010A00_010A00_010A10_010A13_010A15_010A17_010A19_010A35,
    0x010A60_010A7C_010A80_010A9C_010AC0_010AC7_010AC9_010AE4_010B00_010B35_010B40_010B55,
    0x010B60_010B72_010B80_010B91_010C00_010C48_010D00_010D23_010D4A_010D4F_010D6F_010D6F,
    0x010E80_010EA9_010EB0_010EB1_010EC2_010EC4_010F00_010F1C_010F27_010F27_010F30_010F45,
    0x010F70_010F81_010FB0_010FC4_010FE0_010FF6_011003_011037_011071_011072_011075_011075,
    0x011083_0110AF_0110D0_0110E8_011103_011126_011144_011144_011147_011147_011150_011172,
    0x011176_011176_011183_0111B2_0111C1_0111C4_0111DA_0111DA_0111DC_0111DC_011200_011211,
    0x011213_01122B_01123F_011240_011280_011286_011288_011288_01128A_01128D_01128F_01129D,
    0x01129F_0112A8_0112B0_0112DE_011305_01130C_01130F_011310_011313_011328_01132A_011330,
    0x011332_011333_011335_011339_01133D_01133D_011350_011350_01135D_011361_011380_011389,
    0x01138B_01138B_01138E_01138E_011390_0113B5_0113B7_0113B7_0113D1_0113D1_0113D3_0113D3,
    0x011400_011434_011447_01144A_01145F_011461_011480_0114AF_0114C4_0114C5_0114C7_0114C7,
    0x011580_0115AE_0115D8_0115DB_011600_01162F_011644_011644_011680_0116AA_0116B8_0116B8,
    0x011700_01171A_011740_011746_011800_01182B_0118FF_011906_011909_011909_01190C_011913,
    0x011915_011916_011918_01192F_01193F_01193F_011941_011941_0119A0_0119A7_0119AA_0119D0,
    0x0119E1_0119E1_0119E3_0119E3_011A00_011A00_011A0B_011A32_011A3A_011A3A_011A50_011A50,
    0x011A5C_011A89_011A9D_011A9D_011AB0_011AF8_011BC0_011BE0_011C00_011C08_011C0A_011C2E,
    0x011C40_011C40_011C72_011C8F_011D00_011D06_011D08_011D09_011D0B_011D30_011D46_011D46,
    0x011D60_011D65_011D67_011D68_011D6A_011D89_011D98_011D98_011EE0_011EF2_011F02_011F02,
    0x011F04_011F10_011F12_011F33_011FB0_011FB0_012000_012399_012400_01246E_012480_012543,
    0x012F90_012FF0_013000_01342F_013441_013446_013460_0143FA_014400_014646_016100_01611D,
    0x016800_016A38_016A40_016A5E_016A70_016ABE_016AD0_016AED_016B00_016B2F_016B40_016B43,
    0x016B63_016B77_016B7D_016B8F_016D40_016D6C_016F00_016F4A_016F50_016F50_016F93_016F9F,
    0x016FE0_016FE1_016FE3_016FE3_017000_0187F7_018800_018CD5_018CFF_018D08_01AFF0_01AFF3,
    0x01AFF5_01AFFB_01AFFD_01AFFE_01B000_01B122_01B132_01B132_01B150_01B152_01B155_01B155,
    0x01B164_01B167_01B170_01B2FB_01BC00_01BC6A_01BC70_01BC7C_01BC80_01BC88_01BC90_01BC99,
    0x01DF0A_01DF0A_01E100_01E12C_01E137_01E13D_01E14E_01E14E_01E290_01E2AD_01E2C0_01E2EB,
    0x01E4D0_01E4EB_01E5D0_01E5ED_01E5F0_01E5F0_01E7E0_01E7E6_01E7E8_01E7EB_01E7ED_01E7EE,
    0x01E7F0_01E7FE_01E800_01E8C4_01E94B_01E94B_01EE00_01EE03_01EE05_01EE1F_01EE21_01EE22,
    0x01EE24_01EE24_01EE27_01EE27_01EE29_01EE32_01EE34_01EE37_01EE39_01EE39_01EE3B_01EE3B,
    0x01EE42_01EE42_01EE47_01EE47_01EE49_01EE49_01EE4B_01EE4B_01EE4D_01EE4F_01EE51_01EE52,
    0x01EE54_01EE54_01EE57_01EE57_01EE59_01EE59_01EE5B_01EE5B_01EE5D_01EE5D_01EE5F_01EE5F,
    0x01EE61_01EE62_01EE64_01EE64_01EE67_01EE6A_01EE6C_01EE72_01EE74_01EE77_01EE79_01EE7C,
    0x01EE7E_01EE7E_01EE80_01EE89_01EE8B_01EE9B_01EEA1_01EEA3_01EEA5_01EEA9_01EEAB_01EEBB,
    0x020000_02A6DF_02A700_02B739_02B740_02B81D_02B820_02CEA1_02CEB0_02EBE0_02EBF0_02EE5D,
    0x02F800_02FA1D_030000_03134A_031350_0323AF]⟩,
  ⟨["scontinue", "sc"], [
    0x00002C_00002D_00003A_00003B_00037E_00037E_00055D_00055D_00060C_00060D_0007F8_0007F8,
    0x001802_001802_001808_001808_002013_002014_003001_003001_00FE10_00FE11_00FE13_00FE14,
    0x00FE31_00FE32_00FE50_00FE51_00FE54_00FE55_00FE58_00FE58_00FE63_00FE63_00FF0C_00FF0D,
    0x00FF1A_00FF1B_00FF64_00FF64]⟩,
  ⟨["sterm", "st"], [
    0x000021_000021_00003F_00003F_000589_000589_00061D_00061F_0006D4_0006D4_000700_000702,
    0x0007F9_0007F9_000837_000837_000839_000839_00083D_00083E_000964_000965_00104A_00104B,
    0x001362_001362_001367_001368_00166E_00166E_001735_001736_0017D4_0017D5_001803_001803,
    0x001809_001809_001944_001945_001AA8_001AAB_001B4E_001B4F_001B5A_001B5B_001B5E_001B5F,
    0x001B7D_001B7F_001C3B_001C3C_001C7E_001C7F_00203C_00203D_002047_002049_002CF9_002CFB,
    0x002E2E_002E2E_002E3C_002E3C_002E53_002E54_003002_003002_00A4FF_00A4FF_00A60E_00A60F,
    0x00A6F3_00A6F3_00A6F7_00A6F7_00A876_00A877_00A8CE_00A8CF_00A92F_00A92F_00A9C8_00A9C9,
    0x00AA5D_00AA5F_00AAF0_00AAF1_00ABEB_00ABEB_00FE12_00FE12_00FE15_00FE16_00FE56_00FE57,
    0x00FF01_00FF01_00FF1F_00FF1F_00FF61_00FF61_010A56_010A57_010F55_010F59_010F86_010F89,
    0x011047_011048_0110BE_0110C1_011141_011143_0111C5_0111C6_0111CD_0111CD_0111DE_0111DF,
    0x011238_011239_01123B_01123C_0112A9_0112A9_0113D4_0113D5_01144B_01144C_0115C2_0115C3,
    0x0115C9_0115D7_011641_011642_01173C_01173E_011944_011944_011946_011946_011A42_011A43,
    0x011A9B_011A9C_011C41_011C42_011EF7_011EF8_011F43_011F44_016A6E_016A6F_016AF5_016AF5,
    0x016B37_016B38_016B44_016B44_016D6E_016D6F_016E98_016E98_01BC9F_01BC9F_01DA88_01DA88]⟩,
  ⟨["sep", "se"], [
    0x000085_000085_002028_002029]⟩,
  ⟨["sp"], [
    0x000009_000009_00000B_00000C_000020_000020_0000A0_0000A0_001680_001680_002000_00200A,
    0x00202F_00202F_00205F_00205F_003000_003000]⟩,
  ⟨["upper", "up"], [
    0x000041_00005A_0000C0_0000D6_0000D8_0000DE_000100_000100_000102_000102_000104_000104,
    0x000106_000106_000108_000108_00010A_00010A_00010C_00010C_00010E_00010E_000110_000110,
    0x000112_000112_000114_000114_000116_000116_000118_000118_00011A_00011A_00011C_00011C,
    0x00011E_00011E_000120_000120_000122_000122_000124_000124_000126_000126_000128_000128,
    0x00012A_00012A_00012C_00012C_00012E_00012E_000130_000130_000132_000132_000134_000134,
    0x000136_000136_000139_000139_00013B_00013B_00013D_00013D_00013F_00013F_000141_000141,
    0x000143_000143_000145_000145_000147_000147_00014A_00014A_00014C_00014C_00014E_00014E,
    0x000150_000150_000152_000152_000154_000154_000156_000156_000158_000158_00015A_00015A,
    0x00015C_00015C_00015E_00015E_000160_000160_000162_000162_000164_000164_000166_000166,
    0x000168_000168_00016A_00016A_00016C_00016C_00016E_00016E_000170_000170_000172_000172,
    0x000174_000174_000176_000176_000178_000179_00017B_00017B_00017D_00017D_000181_000182,
    0x000184_000184_000186_000187_000189_00018B_00018E_000191_000193_000194_000196_000198,
    0x00019C_00019D_00019F_0001A0_0001A2_0001A2_0001A4_0001A4_0001A6_0001A7_0001A9_0001A9,
    0x0001AC_0001AC_0001AE_0001AF_0001B1_0001B3_0001B5_0001B5_0001B7_0001B8_0001BC_0001BC,
    0x0001C4_0001C5_0001C7_0001C8_0001CA_0001CB_0001CD_0001CD_0001CF_0001CF_0001D1_0001D1,
    0x0001D3_0001D3_0001D5_0001D5_0001D7_0001D7_0001D9_0001D9_0001DB_0001DB_0001DE_0001DE,
    0x0001E0_0001E0_0001E2_0001E2_0001E4_0001E4_0001E6_0001E6_0001E8_0001E8_0001EA_0001EA,
    0x0001EC_0001EC_0001EE_0001EE_0001F1_0001F2_0001F4_0001F4_0001F6_0001F8_0001FA_0001FA,
    0x0001FC_0001FC_0001FE_0001FE_000200_000200_000202_000202_000204_000204_000206_000206,
    0x000208_000208_00020A_00020A_00020C_00020C_00020E_00020E_000210_000210_000212_000212,
    0x000214_000214_000216_000216_000218_000218_00021A_00021A_00021C_00021C_00021E_00021E,
    0x000220_000220_000222_000222_000224_000224_000226_000226_000228_000228_00022A_00022A,
    0x00022C_00022C_00022E_00022E_000230_000230_000232_000232_00023A_00023B_00023D_00023E,
    0x000241_000241_000243_000246_000248_000248_00024A_00024A_00024C_00024C_00024E_00024E,
    0x000370_000370_000372_000372_000376_000376_00037F_00037F_000386_000386_000388_00038A,
    0x00038C_00038C_00038E_00038F_000391_0003A1_0003A3_0003AB_0003CF_0003CF_0003D2_0003D4,
    0x0003D8_0003D8_0003DA_0003DA_0003DC_0003DC_0003DE_0003DE_0003E0_0003E0_0003E2_0003E2,
    0x0003E4_0003E4_0003E6_0003E6_0003E8_0003E8_0003EA_0003EA_0003EC_0003EC_0003EE_0003EE,
    0x0003F4_0003F4_0003F7_0003F7_0003F9_0003FA_0003FD_00042F_000460_000460_000462_000462,
    0x000464_000464_000466_000466_000468_000468_00046A_00046A_00046C_00046C_00046E_00046E,
    0x000470_000470_000472_000472_000474_000474_000476_000476_000478_000478_00047A_00047A,
    0x00047C_00047C_00047E_00047E_000480_000480_00048A_00048A_00048C_00048C_00048E_00048E,
    0x000490_000490_000492_000492_000494_000494_000496_000496_000498_000498_00049A_00049A,
    0x00049C_00049C_00049E_00049E_0004A0_0004A0_0004A2_0004A2_0004A4_0004A4_0004A6_0004A6,
    0x0004A8_0004A8_0004AA_0004AA_0004AC_0004AC_0004AE_0004AE_0004B0_0004B0_0004B2_0004B2,
    0x0004B4_0004B4_0004B6_0004B6_0004B8_0004B8_0004BA_0004BA_0004BC_0004BC_0004BE_0004BE,
    0x0004C0_0004C1_0004C3_0004C3_0004C5_0004C5_0004C7_0004C7_0004C9_0004C9_0004CB_0004CB,
    0x0004CD_0004CD_0004D0_0004D0_0004D2_0004D2_0004D4_0004D4_0004D6_0004D6_0004D8_0004D8,
    0x0004DA_0004DA_0004DC_0004DC_0004DE_0004DE_0004E0_0004E0_0004E2_0004E2_0004E4_0004E4,
    0x0004E6_0004E6_0004E8_0004E8_0004EA_0004EA_0004EC_0004EC_0004EE_0004EE_0004F0_0004F0,
    0x0004F2_0004F2_0004F4_0004F4_0004F6_0004F6_0004F8_0004F8_0004FA_0004FA_0004FC_0004FC,
    0x0004FE_0004FE_000500_000500_000502_000502_000504_000504_000506_000506_000508_000508,
    0x00050A_00050A_00050C_00050C_00050E_00050E_000510_000510_000512_000512_000514_000514,
    0x000516_000516_000518_000518_00051A_00051A_00051C_00051C_00051E_00051E_000520_000520,
    0x000522_000522_000524_000524_000526_000526_000528_000528_00052A_00052A_00052C_00052C,
    0x00052E_00052E_000531_000556_0010A0_0010C5_0010C7_0010C7_0010CD_0010CD_0013A0_0013F5,
    0x001C89_001C89_001E00_001E00_001E02_001E02_001E04_001E04_001E06_001E06_001E08_001E08,
    0x001E0A_001E0A_001E0C_001E0C_001E0E_001E0E_001E10_001E10_001E12_001E12_001E14_001E14,
    0x001E16_001E16_001E18_001E18_001E1A_001E1A_001E1C_001E1C_001E1E_001E1E_001E20_001E20,
    0x001E22_001E22_001E24_001E24_001E26_001E26_001E28_001E28_001E2A_001E2A_001E2C_001E2C,
    0x001E2E_001E2E_001E30_001E30_001E32_001E32_001E34_001E34_001E36_001E36_001E38_001E38,
    0x001E3A_001E3A_001E3C_001E3C_001E3E_001E3E_001E40_001E40_001E42_001E42_001E44_001E44,
    0x001E46_001E46_001E48_001E48_001E4A_001E4A_001E4C_001E4C_001E4E_001E4E_001E50_001E50,
    0x001E52_001E52_001E54_001E54_001E56_001E56_001E58_001E58_001E5A_001E5A_001E5C_001E5C,
    0x001E5E_001E5E_001E60_001E60_001E62_001E62_001E64_001E64_001E66_001E66_001E68_001E68,
    0x001E6A_001E6A_001E6C_001E6C_001E6E_001E6E_001E70_001E70_001E72_001E72_001E74_001E74,
    0x001E76_001E76_001E78_001E78_001E7A_001E7A_001E7C_001E7C_001E7E_001E7E_001E80_001E80,
    0x001E82_001E82_001E84_001E84_001E86_001E86_001E88_001E88_001E8A_001E8A_001E8C_001E8C,
    0x001E8E_001E8E_001E90_001E90_001E92_001E92_001E94_001E94_001E9E_001E9E_001EA0_001EA0,
    0x001EA2_001EA2_001EA4_001EA4_001EA6_001EA6_001EA8_001EA8_001EAA_001EAA_001EAC_001EAC,
    0x001EAE_001EAE_001EB0_001EB0_001EB2_001EB2_001EB4_001EB4_001EB6_001EB6_001EB8_001EB8,
    0x001EBA_001EBA_001EBC_001EBC_001EBE_001EBE_001EC0_001EC0_001EC2_001EC2_001EC4_001EC4,
    0x001EC6_001EC6_001EC8_001EC8_001ECA_001ECA_001ECC_001ECC_001ECE_001ECE_001ED0_001ED0,
    0x001ED2_001ED2_001ED4_001ED4_001ED6_001ED6_001ED8_001ED8_001EDA_001EDA_001EDC_001EDC,
    0x001EDE_001EDE_001EE0_001EE0_001EE2_001EE2_001EE4_001EE4_001EE6_001EE6_001EE8_001EE8,
    0x001EEA_001EEA_001EEC_001EEC_001EEE_001EEE_001EF0_001EF0_001EF2_001EF2_001EF4_001EF4,
    0x001EF6_001EF6_001EF8_001EF8_001EFA_001EFA_001EFC_001EFC_001EFE_001EFE_001F08_001F0F,
    0x001F18_001F1D_001F28_001F2F_001F38_001F3F_001F48_001F4D_001F59_001F59_001F5B_001F5B,
    0x001F5D_001F5D_001F5F_001F5F_001F68_001F6F_001F88_001F8F_001F98_001F9F_001FA8_001FAF,
    0x001FB8_001FBC_001FC8_001FCC_001FD8_001FDB_001FE8_001FEC_001FF8_001FFC_002102_002102,
    0x002107_002107_00210B_00210D_002110_002112_002115_002115_002119_00211D_002124_002124,
    0x002126_002126_002128_002128_00212A_00212D_002130_002133_00213E_00213F_002145_002145,
    0x002160_00216F_002183_002183_0024B6_0024CF_002C00_002C2F_002C60_002C60_002C62_002C64,
    0x002C67_002C67_002C69_002C69_002C6B_002C6B_002C6D_002C70_002C72_002C72_002C75_002C75,
    0x002C7E_002C80_002C82_002C82_002C84_002C84_002C86_002C86_002C88_002C88_002C8A_002C8A,
    0x002C8C_002C8C_002C8E_002C8E_002C90_002C90_002C92_002C92_002C94_002C94_002C96_002C96,
    0x002C98_002C98_002C9A_002C9A_002C9C_002C9C_002C9E_002C9E_002CA0_002CA0_002CA2_002CA2,
    0x002CA4_002CA4_002CA6_002CA6_002CA8_002CA8_002CAA_002CAA_002CAC_002CAC_002CAE_002CAE,
    0x002CB0_002CB0_002CB2_002CB2_002CB4_002CB4_002CB6_002CB6_002CB8_002CB8_002CBA_002CBA,
    0x002CBC_002CBC_002CBE_002CBE_002CC0_002CC0_002CC2_002CC2_002CC4_002CC4_002CC6_002CC6,
    0x002CC8_002CC8_002CCA_002CCA_002CCC_002CCC_002CCE_002CCE_002CD0_002CD0_002CD2_002CD2,
    0x002CD4_002CD4_002CD6_002CD6_002CD8_002CD8_002CDA_002CDA_002CDC_002CDC_002CDE_002CDE,
    0x002CE0_002CE0_002CE2_002CE2_002CEB_002CEB_002CED_002CED_002CF2_002CF2_00A640_00A640,
    0x00A642_00A642_00A644_00A644_00A646_00A646_00A648_00A648_00A64A_00A64A_00A64C_00A64C,
    0x00A64E_00A64E_00A650_00A650_00A652_00A652_00A654_00A654_00A656_00A656_00A658_00A658,
    0x00A65A_00A65A_00A65C_00A65C_00A65E_00A65E_00A660_00A660_00A662_00A662_00A664_00A664,
    0x00A666_00A666_00A668_00A668_00A66A_00A66A_00A66C_00A66C_00A680_00A680_00A682_00A682,
    0x00A684_00A684_00A686_00A686_00A688_00A688_00A68A_00A68A_00A68C_00A68C_00A68E_00A68E,
    0x00A690_00A690_00A692_00A692_00A694_00A694_00A696_00A696_00A698_00A698_00A69A_00A69A,
    0x00A722_00A722_00A724_00A724_00A726_00A726_00A728_00A728_00A72A_00A72A_00A72C_00A72C,
    0x00A72E_00A72E_00A732_00A732_00A734_00A734_00A736_00A736_00A738_00A738_00A73A_00A73A,
    0x00A73C_00A73C_00A73E_00A73E_00A740_00A740_00A742_00A742_00A744_00A744_00A746_00A746,
    0x00A748_00A748_00A74A_00A74A_00A74C_00A74C_00A74E_00A74E_00A750_00A750_00A752_00A752,
    0x00A754_00A754_00A756_00A756_00A758_00A758_00A75A_00A75A_00A75C_00A75C_00A75E_00A75E,
    0x00A760_00A760_00A762_00A762_00A764_00A764_00A766_00A766_00A768_00A768_00A76A_00A76A,
    0x00A76C_00A76C_00A76E_00A76E_00A779_00A779_00A77B_00A77B_00A77D_00A77E_00A780_00A780,
    0x00A782_00A782_00A784_00A784_00A786_00A786_00A78B_00A78B_00A78D_00A78D_00A790_00A790,
    0x00A792_00A792_00A796_00A796_00A798_00A798_00A79A_00A79A_00A79C_00A79C_00A79E_00A79E,
    0x00A7A0_00A7A0_00A7A2_00A7A2_00A7A4_00A7A4_00A7A6_00A7A6_00A7A8_00A7A8_00A7AA_00A7AE,
    0x00A7B0_00A7B4_00A7B6_00A7B6_00A7B8_00A7B8_00A7BA_00A7BA_00A7BC_00A7BC_00A7BE_00A7BE,
    0x00A7C0_00A7C0_00A7C2_00A7C2_00A7C4_00A7C7_00A7C9_00A7C9_00A7CB_00A7CC_00A7D0_00A7D0,
    0x00A7D6_00A7D6_00A7D8_00A7D8_00A7DA_00A7DA_00A7DC_00A7DC_00A7F5_00A7F5_00FF21_00FF3A,
    0x010400_010427_0104B0_0104D3_010570_01057A_01057C_01058A_01058C_010592_010594_010595,
    0x010C80_010CB2_010D50_010D65_0118A0_0118BF_016E40_016E5F_01D400_01D419_01D434_01D44D,
    0x01D468_01D481_01D49C_01D49C_01D49E_01D49F_01D4A2_01D4A2_01D4A5_01D4A6_01D4A9_01D4AC,
    0x01D4AE_01D4B5_01D4D0_01D4E9_01D504_01D505_01D507_01D50A_01D50D_01D514_01D516_01D51C,
    0x01D538_01D539_01D53B_01D53E_01D540_01D544_01D546_01D546_01D54A_01D550_01D56C_01D585,
    0x01D5A0_01D5B9_01D5D4_01D5ED_01D608_01D621_01D63C_01D655_01D670_01D689_01D6A8_01D6C0,
    0x01D6E2_01D6FA_01D71C_01D734_01D756_01D76E_01D790_01D7A8_01D7CA_01D7CA_01E900_01E921,
    0x01F130_01F149_01F150_01F169_01F170_01F189]⟩]

end BreakClass

end Construe.Unicode
