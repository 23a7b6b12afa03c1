import Construe.Unicode.Category

/-! # Binary properties

The binary properties of Unicode 16. A property that follows the general categories is written as
the categories it follows, the characters it adds and those it leaves out. -/
namespace Construe.Unicode.Binary

/-- A set with some ranges added and some taken away, both packed. -/
def adjust (base : CharSet) (add remove : List Nat) : CharSet :=
  (base.union (.ofPacked add)).diff (.ofPacked remove)

def asciiHexDigit : CharSet := .ofPacked [
  0x000030_000039_000041_000046_000061_000066]

def bidiControl : CharSet := .ofPacked [
  0x00061C_00061C_00200E_00200F_00202A_00202E_002066_002069]

def bidiMirrored : CharSet := .ofPacked [
  0x000028_000029_00003C_00003C_00003E_00003E_00005B_00005B_00005D_00005D_00007B_00007B,
  0x00007D_00007D_0000AB_0000AB_0000BB_0000BB_000F3A_000F3D_00169B_00169C_002039_00203A,
  0x002045_002046_00207D_00207E_00208D_00208E_002140_002140_002201_002204_002208_00220D,
  0x002211_002211_002215_002216_00221A_00221D_00221F_002222_002224_002224_002226_002226,
  0x00222B_002233_002239_002239_00223B_00224C_002252_002255_00225F_002260_002262_002262,
  0x002264_00226B_00226D_00228C_00228F_002292_002298_002298_0022A2_0022A3_0022A6_0022B8,
  0x0022BE_0022BF_0022C9_0022CD_0022D0_0022D1_0022D6_0022ED_0022F0_0022FF_002308_00230B,
  0x002320_002321_002329_00232A_002768_002775_0027C0_0027C0_0027C3_0027C6_0027C8_0027C9,
  0x0027CB_0027CD_0027D3_0027D6_0027DC_0027DE_0027E2_0027EF_002983_002998_00299B_0029A0,
  0x0029A2_0029AF_0029B8_0029B8_0029C0_0029C5_0029C9_0029C9_0029CE_0029D2_0029D4_0029D5,
  0x0029D8_0029DC_0029E1_0029E1_0029E3_0029E5_0029E8_0029E9_0029F4_0029F9_0029FC_0029FD,
  0x002A0A_002A1C_002A1E_002A21_002A24_002A24_002A26_002A26_002A29_002A29_002A2B_002A2E,
  0x002A34_002A35_002A3C_002A3E_002A57_002A58_002A64_002A65_002A6A_002A6D_002A6F_002A70,
  0x002A73_002A74_002A79_002AA3_002AA6_002AAD_002AAF_002AD6_002ADC_002ADC_002ADE_002ADE,
  0x002AE2_002AE6_002AEC_002AEE_002AF3_002AF3_002AF7_002AFB_002AFD_002AFD_002BFE_002BFE,
  0x002E02_002E05_002E09_002E0A_002E0C_002E0D_002E1C_002E1D_002E20_002E29_002E55_002E5C,
  0x003008_003011_003014_00301B_00FE59_00FE5E_00FE64_00FE65_00FF08_00FF09_00FF1C_00FF1C,
  0x00FF1E_00FF1E_00FF3B_00FF3B_00FF3D_00FF3D_00FF5B_00FF5B_00FF5D_00FF5D_00FF5F_00FF60,
  0x00FF62_00FF63_01D6DB_01D6DB_01D715_01D715_01D74F_01D74F_01D789_01D789_01D7C3_01D7C3]

def dash : CharSet := .ofPacked [
  0x00002D_00002D_00058A_00058A_0005BE_0005BE_001400_001400_001806_001806_002010_002015,
  0x002053_002053_00207B_00207B_00208B_00208B_002212_002212_002E17_002E17_002E1A_002E1A,
  0x002E3A_002E3B_002E40_002E40_002E5D_002E5D_00301C_00301C_003030_003030_0030A0_0030A0,
  0x00FE31_00FE32_00FE58_00FE58_00FE63_00FE63_00FF0D_00FF0D_010D6E_010D6E_010EAD_010EAD]

def deprecated : CharSet := .ofPacked [
  0x000149_000149_000673_000673_000F77_000F77_000F79_000F79_0017A3_0017A4_00206A_00206F,
  0x002329_00232A_0E0001_0E0001]

def diacritic : CharSet := .ofPacked [
  0x00005E_00005E_000060_000060_0000A8_0000A8_0000AF_0000AF_0000B4_0000B4_0000B7_0000B8,
  0x0002B0_00034E_000350_000357_00035D_000362_000374_000375_00037A_00037A_000384_000385,
  0x000483_000487_000559_000559_000591_0005BD_0005BF_0005BF_0005C1_0005C2_0005C4_0005C5,
  0x0005C7_0005C7_00064B_000652_000657_000658_0006DF_0006E0_0006E5_0006E6_0006EA_0006EC,
  0x000730_00074A_0007A6_0007B0_0007EB_0007F5_000818_000819_000898_00089F_0008C9_0008D2,
  0x0008E3_0008FE_00093C_00093C_00094D_00094D_000951_000954_000971_000971_0009BC_0009BC,
  0x0009CD_0009CD_000A3C_000A3C_000A4D_000A4D_000ABC_000ABC_000ACD_000ACD_000AFD_000AFF,
  0x000B3C_000B3C_000B4D_000B4D_000B55_000B55_000BCD_000BCD_000C3C_000C3C_000C4D_000C4D,
  0x000CBC_000CBC_000CCD_000CCD_000D3B_000D3C_000D4D_000D4D_000DCA_000DCA_000E3A_000E3A,
  0x000E47_000E4C_000E4E_000E4E_000EBA_000EBA_000EC8_000ECC_000F18_000F19_000F35_000F35,
  0x000F37_000F37_000F39_000F39_000F3E_000F3F_000F82_000F84_000F86_000F87_000FC6_000FC6,
  0x001037_001037_001039_00103A_001063_001064_001069_00106D_001087_00108D_00108F_00108F,
  0x00109A_00109B_00135D_00135F_001714_001715_001734_001734_0017C9_0017D3_0017DD_0017DD,
  0x001939_00193B_001A60_001A60_001A75_001A7C_001A7F_001A7F_001AB0_001ABE_001AC1_001ACB,
  0x001B34_001B34_001B44_001B44_001B6B_001B73_001BAA_001BAB_001BE6_001BE6_001BF2_001BF3,
  0x001C36_001C37_001C78_001C7D_001CD0_001CE8_001CED_001CED_001CF4_001CF4_001CF7_001CF9,
  0x001D2C_001D6A_001D9B_001DBE_001DC4_001DCF_001DF5_001DFF_001FBD_001FBD_001FBF_001FC1,
  0x001FCD_001FCF_001FDD_001FDF_001FED_001FEF_001FFD_001FFE_002CEF_002CF1_002E2F_002E2F,
  0x00302A_00302F_003099_00309C_0030FC_0030FC_00A66F_00A66F_00A67C_00A67D_00A67F_00A67F,
  0x00A69C_00A69D_00A6F0_00A6F1_00A700_00A721_00A788_00A78A_00A7F8_00A7F9_00A806_00A806,
  0x00A82C_00A82C_00A8C4_00A8C4_00A8E0_00A8F1_00A92B_00A92E_00A953_00A953_00A9B3_00A9B3,
  0x00A9C0_00A9C0_00A9E5_00A9E5_00AA7B_00AA7D_00AABF_00AAC2_00AAF6_00AAF6_00AB5B_00AB5F,
  0x00AB69_00AB6B_00ABEC_00ABED_00FB1E_00FB1E_00FE20_00FE2F_00FF3E_00FF3E_00FF40_00FF40,
  0x00FF70_00FF70_00FF9E_00FF9F_00FFE3_00FFE3_0102E0_0102E0_010780_010785_010787_0107B0,
  0x0107B2_0107BA_010A38_010A3A_010A3F_010A3F_010AE5_010AE6_010D22_010D27_010D4E_010D4E,
  0x010D69_010D6D_010EFD_010EFF_010F46_010F50_010F82_010F85_011046_011046_011070_011070,
  0x0110B9_0110BA_011133_011134_011173_011173_0111C0_0111C0_0111CA_0111CC_011235_011236,
  0x0112E9_0112EA_01133B_01133C_01134D_01134D_011366_01136C_011370_011374_0113CE_0113D0,
  0x0113D2_0113D3_0113E1_0113E2_011442_011442_011446_011446_0114C2_0114C3_0115BF_0115C0,
  0x01163F_01163F_0116B6_0116B7_01172B_01172B_011839_01183A_01193D_01193E_011943_011943,
  0x0119E0_0119E0_011A34_011A34_011A47_011A47_011A99_011A99_011C3F_011C3F_011D42_011D42,
  0x011D44_011D45_011D97_011D97_011F41_011F42_011F5A_011F5A_013447_013455_01612F_01612F,
  0x016AF0_016AF4_016B30_016B36_016D6B_016D6C_016F8F_016F9F_016FF0_016FF1_01AFF0_01AFF3,
  0x01AFF5_01AFFB_01AFFD_01AFFE_01CF00_01CF2D_01CF30_01CF46_01D167_01D169_01D16D_01D172,
  0x01D17B_01D182_01D185_01D18B_01D1AA_01D1AD_01E030_01E06D_01E130_01E136_01E2AE_01E2AE,
  0x01E2EC_01E2EF_01E5EE_01E5EF_01E8D0_01E8D6_01E944_01E946_01E948_01E94A]

def emoji : CharSet := .ofPacked [
  0x000023_000023_00002A_00002A_000030_000039_0000A9_0000A9_0000AE_0000AE_00203C_00203C,
  0x002049_002049_002122_002122_002139_002139_002194_002199_0021A9_0021AA_00231A_00231B,
  0x002328_002328_0023CF_0023CF_0023E9_0023F3_0023F8_0023FA_0024C2_0024C2_0025AA_0025AB,
  0x0025B6_0025B6_0025C0_0025C0_0025FB_0025FE_002600_002604_00260E_00260E_002611_002611,
  0x002614_002615_002618_002618_00261D_00261D_002620_002620_002622_002623_002626_002626,
  0x00262A_00262A_00262E_00262F_002638_00263A_002640_002640_002642_002642_002648_002653,
  0x00265F_002660_002663_002663_002665_002666_002668_002668_00267B_00267B_00267E_00267F,
  0x002692_002697_002699_002699_00269B_00269C_0026A0_0026A1_0026A7_0026A7_0026AA_0026AB,
  0x0026B0_0026B1_0026BD_0026BE_0026C4_0026C5_0026C8_0026C8_0026CE_0026CF_0026D1_0026D1,
  0x0026D3_0026D4_0026E9_0026EA_0026F0_0026F5_0026F7_0026FA_0026FD_0026FD_002702_002702,
  0x002705_002705_002708_00270D_00270F_00270F_002712_002712_002714_002714_002716_002716,
  0x00271D_00271D_002721_002721_002728_002728_002733_002734_002744_002744_002747_002747,
  0x00274C_00274C_00274E_00274E_002753_002755_002757_002757_002763_002764_002795_002797,
  0x0027A1_0027A1_0027B0_0027B0_0027BF_0027BF_002934_002935_002B05_002B07_002B1B_002B1C,
  0x002B50_002B50_002B55_002B55_003030_003030_00303D_00303D_003297_003297_003299_003299,
  0x01F004_01F004_01F0CF_01F0CF_01F170_01F171_01F17E_01F17F_01F18E_01F18E_01F191_01F19A,
  0x01F1E6_01F1FF_01F201_01F202_01F21A_01F21A_01F22F_01F22F_01F232_01F23A_01F250_01F251,
  0x01F300_01F321_01F324_01F393_01F396_01F397_01F399_01F39B_01F39E_01F3F0_01F3F3_01F3F5,
  0x01F3F7_01F4FD_01F4FF_01F53D_01F549_01F54E_01F550_01F567_01F56F_01F570_01F573_01F57A,
  0x01F587_01F587_01F58A_01F58D_01F590_01F590_01F595_01F596_01F5A4_01F5A5_01F5A8_01F5A8,
  0x01F5B1_01F5B2_01F5BC_01F5BC_01F5C2_01F5C4_01F5D1_01F5D3_01F5DC_01F5DE_01F5E1_01F5E1,
  0x01F5E3_01F5E3_01F5E8_01F5E8_01F5EF_01F5EF_01F5F3_01F5F3_01F5FA_01F64F_01F680_01F6C5,
  0x01F6CB_01F6D2_01F6D5_01F6D7_01F6DC_01F6E5_01F6E9_01F6E9_01F6EB_01F6EC_01F6F0_01F6F0,
  0x01F6F3_01F6FC_01F7E0_01F7EB_01F7F0_01F7F0_01F90C_01F93A_01F93C_01F945_01F947_01F9FF,
  0x01FA70_01FA7C_01FA80_01FA89_01FA8F_01FAC6_01FACE_01FADC_01FADF_01FAE9_01FAF0_01FAF8]

def emojiComponent : CharSet := .ofPacked [
  0x000023_000023_00002A_00002A_000030_000039_00200D_00200D_0020E3_0020E3_00FE0F_00FE0F,
  0x01F1E6_01F1FF_01F3FB_01F3FF_01F9B0_01F9B3_0E0020_0E007F]

def emojiModifier : CharSet := .ofPacked [
  0x01F3FB_01F3FF]

def emojiModifierBase : CharSet := .ofPacked [
  0x00261D_00261D_0026F9_0026F9_00270A_00270D_01F385_01F385_01F3C2_01F3C4_01F3C7_01F3C7,
  0x01F3CA_01F3CC_01F442_01F443_01F446_01F450_01F466_01F478_01F47C_01F47C_01F481_01F483,
  0x01F485_01F487_01F48F_01F48F_01F491_01F491_01F4AA_01F4AA_01F574_01F575_01F57A_01F57A,
  0x01F590_01F590_01F595_01F596_01F645_01F647_01F64B_01F64F_01F6A3_01F6A3_01F6B4_01F6B6,
  0x01F6C0_01F6C0_01F6CC_01F6CC_01F90C_01F90C_01F90F_01F90F_01F918_01F91F_01F926_01F926,
  0x01F930_01F939_01F93C_01F93E_01F977_01F977_01F9B5_01F9B6_01F9B8_01F9B9_01F9BB_01F9BB,
  0x01F9CD_01F9CF_01F9D1_01F9DD_01FAC3_01FAC5_01FAF0_01FAF8]

def emojiPresentation : CharSet := .ofPacked [
  0x00231A_00231B_0023E9_0023EC_0023F0_0023F0_0023F3_0023F3_0025FD_0025FE_002614_002615,
  0x002648_002653_00267F_00267F_002693_002693_0026A1_0026A1_0026AA_0026AB_0026BD_0026BE,
  0x0026C4_0026C5_0026CE_0026CE_0026D4_0026D4_0026EA_0026EA_0026F2_0026F3_0026F5_0026F5,
  0x0026FA_0026FA_0026FD_0026FD_002705_002705_00270A_00270B_002728_002728_00274C_00274C,
  0x00274E_00274E_002753_002755_002757_002757_002795_002797_0027B0_0027B0_0027BF_0027BF,
  0x002B1B_002B1C_002B50_002B50_002B55_002B55_01F004_01F004_01F0CF_01F0CF_01F18E_01F18E,
  0x01F191_01F19A_01F1E6_01F1FF_01F201_01F201_01F21A_01F21A_01F22F_01F22F_01F232_01F236,
  0x01F238_01F23A_01F250_01F251_01F300_01F320_01F32D_01F335_01F337_01F37C_01F37E_01F393,
  0x01F3A0_01F3CA_01F3CF_01F3D3_01F3E0_01F3F0_01F3F4_01F3F4_01F3F8_01F43E_01F440_01F440,
  0x01F442_01F4FC_01F4FF_01F53D_01F54B_01F54E_01F550_01F567_01F57A_01F57A_01F595_01F596,
  0x01F5A4_01F5A4_01F5FB_01F64F_01F680_01F6C5_01F6CC_01F6CC_01F6D0_01F6D2_01F6D5_01F6D7,
  0x01F6DC_01F6DF_01F6EB_01F6EC_01F6F4_01F6FC_01F7E0_01F7EB_01F7F0_01F7F0_01F90C_01F93A,
  0x01F93C_01F945_01F947_01F9FF_01FA70_01FA7C_01FA80_01FA89_01FA8F_01FAC6_01FACE_01FADC,
  0x01FADF_01FAE9_01FAF0_01FAF8]

def extendedPictographic : CharSet := .ofPacked [
  0x0000A9_0000A9_0000AE_0000AE_00203C_00203C_002049_002049_002122_002122_002139_002139,
  0x002194_002199_0021A9_0021AA_00231A_00231B_002328_002328_002388_002388_0023CF_0023CF,
  0x0023E9_0023F3_0023F8_0023FA_0024C2_0024C2_0025AA_0025AB_0025B6_0025B6_0025C0_0025C0,
  0x0025FB_0025FE_002600_002605_002607_002612_002614_002685_002690_002705_002708_002712,
  0x002714_002714_002716_002716_00271D_00271D_002721_002721_002728_002728_002733_002734,
  0x002744_002744_002747_002747_00274C_00274C_00274E_00274E_002753_002755_002757_002757,
  0x002763_002767_002795_002797_0027A1_0027A1_0027B0_0027B0_0027BF_0027BF_002934_002935,
  0x002B05_002B07_002B1B_002B1C_002B50_002B50_002B55_002B55_003030_003030_00303D_00303D,
  0x003297_003297_003299_003299_01F000_01F0FF_01F10D_01F10F_01F12F_01F12F_01F16C_01F171,
  0x01F17E_01F17F_01F18E_01F18E_01F191_01F19A_01F1AD_01F1E5_01F201_01F20F_01F21A_01F21A,
  0x01F22F_01F22F_01F232_01F23A_01F23C_01F23F_01F249_01F3FA_01F400_01F53D_01F546_01F64F,
  0x01F680_01F6FF_01F774_01F77F_01F7D5_01F7FF_01F80C_01F80F_01F848_01F84F_01F85A_01F85F,
  0x01F888_01F88F_01F8AE_01F8FF_01F90C_01F93A_01F93C_01F945_01F947_01FAFF_01FC00_01FFFD]

def extender : CharSet := .ofPacked [
  0x0000B7_0000B7_0002D0_0002D1_000640_000640_0007FA_0007FA_000A71_000A71_000AFB_000AFB,
  0x000B55_000B55_000E46_000E46_000EC6_000EC6_00180A_00180A_001843_001843_001AA7_001AA7,
  0x001C36_001C36_001C7B_001C7B_003005_003005_003031_003035_00309D_00309E_0030FC_0030FE,
  0x00A015_00A015_00A60C_00A60C_00A9CF_00A9CF_00A9E6_00A9E6_00AA70_00AA70_00AADD_00AADD,
  0x00AAF3_00AAF4_00FF70_00FF70_010781_010782_010D4E_010D4E_010D6A_010D6A_010D6F_010D6F,
  0x011237_011237_01135D_01135D_0113D2_0113D3_0115C6_0115C8_011A98_011A98_016B42_016B43,
  0x016FE0_016FE1_016FE3_016FE3_01E13C_01E13D_01E5EF_01E5EF_01E944_01E946]

def graphemeLink : CharSet := .ofPacked [
  0x00094D_00094D_0009CD_0009CD_000A4D_000A4D_000ACD_000ACD_000B4D_000B4D_000BCD_000BCD,
  0x000C4D_000C4D_000CCD_000CCD_000D3B_000D3C_000D4D_000D4D_000DCA_000DCA_000E3A_000E3A,
  0x000EBA_000EBA_000F84_000F84_001039_00103A_001714_001715_001734_001734_0017D2_0017D2,
  0x001A60_001A60_001B44_001B44_001BAA_001BAB_001BF2_001BF3_002D7F_002D7F_00A806_00A806,
  0x00A82C_00A82C_00A8C4_00A8C4_00A953_00A953_00A9C0_00A9C0_00AAF6_00AAF6_00ABED_00ABED,
  0x010A3F_010A3F_011046_011046_011070_011070_01107F_01107F_0110B9_0110B9_011133_011134,
  0x0111C0_0111C0_011235_011235_0112EA_0112EA_01134D_01134D_0113CE_0113D0_011442_011442,
  0x0114C2_0114C2_0115BF_0115BF_01163F_01163F_0116B6_0116B6_01172B_01172B_011839_011839,
  0x01193D_01193E_0119E0_0119E0_011A34_011A34_011A47_011A47_011A99_011A99_011C3F_011C3F,
  0x011D44_011D45_011D97_011D97_011F41_011F42_01612F_01612F]

def hexDigit : CharSet := .ofPacked [
  0x000030_000039_000041_000046_000061_000066_00FF10_00FF19_00FF21_00FF26_00FF41_00FF46]

def hyphen : CharSet := .ofPacked [
  0x00002D_00002D_0000AD_0000AD_00058A_00058A_001806_001806_002010_002011_002E17_002E17,
  0x0030FB_0030FB_00FE63_00FE63_00FF0D_00FF0D_00FF65_00FF65]

def idsBinaryOperator : CharSet := .ofPacked [
  0x002FF0_002FF1_002FF4_002FFD_0031EF_0031EF]

def idsTrinaryOperator : CharSet := .ofPacked [
  0x002FF2_002FF3]

def idsUnaryOperator : CharSet := .ofPacked [
  0x002FFE_002FFF]

def idCompatMathStart : CharSet := .ofPacked [
  0x002202_002202_002207_002207_00221E_00221E_01D6C1_01D6C1_01D6DB_01D6DB_01D6FB_01D6FB,
  0x01D715_01D715_01D735_01D735_01D74F_01D74F_01D76F_01D76F_01D789_01D789_01D7A9_01D7A9,
  0x01D7C3_01D7C3]

def ideographic : CharSet := .ofPacked [
  0x003006_003007_003021_003029_003038_00303A_003400_004DBF_004E00_009FFF_00F900_00FA6D,
  0x00FA70_00FAD9_016FE4_016FE4_017000_0187F7_018800_018CD5_018CFF_018D08_01B170_01B2FB,
  0x020000_02A6DF_02A700_02B739_02B740_02B81D_02B820_02CEA1_02CEB0_02EBE0_02EBF0_02EE5D,
  0x02F800_02FA1D_030000_03134A_031350_0323AF]

def joinControl : CharSet := .ofPacked [
  0x00200C_00200D]

def logicalOrderException : CharSet := .ofPacked [
  0x000E40_000E44_000EC0_000EC4_0019B5_0019B7_0019BA_0019BA_00AAB5_00AAB6_00AAB9_00AAB9,
  0x00AABB_00AABC]

def modifierCombiningMark : CharSet := .ofPacked [
  0x000654_000655_000658_000658_0006DC_0006DC_0006E3_0006E3_0006E7_0006E8_0008CA_0008CB,
  0x0008CD_0008CF_0008D3_0008D3_0008F3_0008F3]

def noncharacterCodePoint : CharSet := .ofPacked [
  0x00FDD0_00FDEF_00FFFE_00FFFF_01FFFE_01FFFF_02FFFE_02FFFF_03FFFE_03FFFF_04FFFE_04FFFF,
  0x05FFFE_05FFFF_06FFFE_06FFFF_07FFFE_07FFFF_08FFFE_08FFFF_09FFFE_09FFFF_0AFFFE_0AFFFF,
  0x0BFFFE_0BFFFF_0CFFFE_0CFFFF_0DFFFE_0DFFFF_0EFFFE_0EFFFF_0FFFFE_0FFFFF_10FFFE_10FFFF]

def otherAlphabetic : CharSet := .ofPacked [
  0x000345_000345_000363_00036F_0005B0_0005BD_0005BF_0005BF_0005C1_0005C2_0005C4_0005C5,
  0x0005C7_0005C7_000610_00061A_00064B_000657_000659_00065F_000670_000670_0006D6_0006DC,
  0x0006E1_0006E4_0006E7_0006E8_0006ED_0006ED_000711_000711_000730_00073F_0007A6_0007B0,
  0x000816_000817_00081B_000823_000825_000827_000829_00082C_000897_000897_0008D4_0008DF,
  0x0008E3_0008E9_0008F0_000903_00093A_00093B_00093E_00094C_00094E_00094F_000955_000957,
  0x000962_000963_000981_000983_0009BE_0009C4_0009C7_0009C8_0009CB_0009CC_0009D7_0009D7,
  0x0009E2_0009E3_000A01_000A03_000A3E_000A42_000A47_000A48_000A4B_000A4C_000A51_000A51,
  0x000A70_000A71_000A75_000A75_000A81_000A83_000ABE_000AC5_000AC7_000AC9_000ACB_000ACC,
  0x000AE2_000AE3_000AFA_000AFC_000B01_000B03_000B3E_000B44_000B47_000B48_000B4B_000B4C,
  0x000B56_000B57_000B62_000B63_000B82_000B82_000BBE_000BC2_000BC6_000BC8_000BCA_000BCC,
  0x000BD7_000BD7_000C00_000C04_000C3E_000C44_000C46_000C48_000C4A_000C4C_000C55_000C56,
  0x000C62_000C63_000C81_000C83_000CBE_000CC4_000CC6_000CC8_000CCA_000CCC_000CD5_000CD6,
  0x000CE2_000CE3_000CF3_000CF3_000D00_000D03_000D3E_000D44_000D46_000D48_000D4A_000D4C,
  0x000D57_000D57_000D62_000D63_000D81_000D83_000DCF_000DD4_000DD6_000DD6_000DD8_000DDF,
  0x000DF2_000DF3_000E31_000E31_000E34_000E3A_000E4D_000E4D_000EB1_000EB1_000EB4_000EB9,
  0x000EBB_000EBC_000ECD_000ECD_000F71_000F83_000F8D_000F97_000F99_000FBC_00102B_001036,
  0x001038_001038_00103B_00103E_001056_001059_00105E_001060_001062_001064_001067_00106D,
  0x001071_001074_001082_00108D_00108F_00108F_00109A_00109D_001712_001713_001732_001733,
  0x001752_001753_001772_001773_0017B6_0017C8_001885_001886_0018A9_0018A9_001920_00192B,
  0x001930_001938_001A17_001A1B_001A55_001A5E_001A61_001A74_001ABF_001AC0_001ACC_001ACE,
  0x001B00_001B04_001B35_001B43_001B80_001B82_001BA1_001BA9_001BAC_001BAD_001BE7_001BF1,
  0x001C24_001C36_001DD3_001DF4_0024B6_0024E9_002DE0_002DFF_00A674_00A67B_00A69E_00A69F,
  0x00A802_00A802_00A80B_00A80B_00A823_00A827_00A880_00A881_00A8B4_00A8C3_00A8C5_00A8C5,
  0x00A8FF_00A8FF_00A926_00A92A_00A947_00A952_00A980_00A983_00A9B4_00A9BF_00A9E5_00A9E5,
  0x00AA29_00AA36_00AA43_00AA43_00AA4C_00AA4D_00AA7B_00AA7D_00AAB0_00AAB0_00AAB2_00AAB4,
  0x00AAB7_00AAB8_00AABE_00AABE_00AAEB_00AAEF_00AAF5_00AAF5_00ABE3_00ABEA_00FB1E_00FB1E,
  0x010376_01037A_010A01_010A03_010A05_010A06_010A0C_010A0F_010D24_010D27_010D69_010D69,
  0x010EAB_010EAC_010EFC_010EFC_011000_011002_011038_011045_011073_011074_011080_011082,
  0x0110B0_0110B8_0110C2_0110C2_011100_011102_011127_011132_011145_011146_011180_011182,
  0x0111B3_0111BF_0111CE_0111CF_01122C_011234_011237_011237_01123E_01123E_011241_011241,
  0x0112DF_0112E8_011300_011303_01133E_011344_011347_011348_01134B_01134C_011357_011357,
  0x011362_011363_0113B8_0113C0_0113C2_0113C2_0113C5_0113C5_0113C7_0113CA_0113CC_0113CD,
  0x011435_011441_011443_011445_0114B0_0114C1_0115AF_0115B5_0115B8_0115BE_0115DC_0115DD,
  0x011630_01163E_011640_011640_0116AB_0116B5_01171D_01172A_01182C_011838_011930_011935,
  0x011937_011938_01193B_01193C_011940_011940_011942_011942_0119D1_0119D7_0119DA_0119DF,
  0x0119E4_0119E4_011A01_011A0A_011A35_011A39_011A3B_011A3E_011A51_011A5B_011A8A_011A97,
  0x011C2F_011C36_011C38_011C3E_011C92_011CA7_011CA9_011CB6_011D31_011D36_011D3A_011D3A,
  0x011D3C_011D3D_011D3F_011D41_011D43_011D43_011D47_011D47_011D8A_011D8E_011D90_011D91,
  0x011D93_011D96_011EF3_011EF6_011F00_011F01_011F03_011F03_011F34_011F3A_011F3E_011F40,
  0x01611E_01612E_016F4F_016F4F_016F51_016F87_016F8F_016F92_016FF0_016FF1_01BC9E_01BC9E,
  0x01E000_01E006_01E008_01E018_01E01B_01E021_01E023_01E024_01E026_01E02A_01E08F_01E08F,
  0x01E947_01E947_01F130_01F149_01F150_01F169_01F170_01F189]

def otherDefaultIgnorableCodePoint : CharSet := .ofPacked [
  0x00034F_00034F_00115F_001160_0017B4_0017B5_002065_002065_003164_003164_00FFA0_00FFA0,
  0x00FFF0_00FFF8_0E0000_0E0000_0E0002_0E001F_0E0080_0E00FF_0E01F0_0E0FFF]

def otherGraphemeExtend : CharSet := .ofPacked [
  0x0009BE_0009BE_0009D7_0009D7_000B3E_000B3E_000B57_000B57_000BBE_000BBE_000BD7_000BD7,
  0x000CC0_000CC0_000CC2_000CC2_000CC7_000CC8_000CCA_000CCB_000CD5_000CD6_000D3E_000D3E,
  0x000D57_000D57_000DCF_000DCF_000DDF_000DDF_001715_001715_001734_001734_001B35_001B35,
  0x001B3B_001B3B_001B3D_001B3D_001B43_001B44_001BAA_001BAA_001BF2_001BF3_00200C_00200C,
  0x00302E_00302F_00A953_00A953_00A9C0_00A9C0_00FF9E_00FF9F_0111C0_0111C0_011235_011235,
  0x01133E_01133E_01134D_01134D_011357_011357_0113B8_0113B8_0113C2_0113C2_0113C5_0113C5,
  0x0113C7_0113C9_0113CF_0113CF_0114B0_0114B0_0114BD_0114BD_0115AF_0115AF_0116B6_0116B6,
  0x011930_011930_01193D_01193D_011F41_011F41_016FF0_016FF1_01D165_01D166_01D16D_01D172,
  0x0E0020_0E007F]

def otherIdContinue : CharSet := .ofPacked [
  0x0000B7_0000B7_000387_000387_001369_001371_0019DA_0019DA_00200C_00200D_0030FB_0030FB,
  0x00FF65_00FF65]

def otherIdStart : CharSet := .ofPacked [
  0x001885_001886_002118_002118_00212E_00212E_00309B_00309C]

def otherLowercase : CharSet := .ofPacked [
  0x0000AA_0000AA_0000BA_0000BA_0002B0_0002B8_0002C0_0002C1_0002E0_0002E4_000345_000345,
  0x00037A_00037A_0010FC_0010FC_001D2C_001D6A_001D78_001D78_001D9B_001DBF_002071_002071,
  0x00207F_00207F_002090_00209C_002170_00217F_0024D0_0024E9_002C7C_002C7D_00A69C_00A69D,
  0x00A770_00A770_00A7F2_00A7F4_00A7F8_00A7F9_00AB5C_00AB5F_00AB69_00AB69_010780_010780,
  0x010783_010785_010787_0107B0_0107B2_0107BA_01E030_01E06D]

def otherMath : CharSet := .ofPacked [
  0x00005E_00005E_0003D0_0003D2_0003D5_0003D5_0003F0_0003F1_0003F4_0003F5_002016_002016,
  0x002032_002034_002040_002040_002061_002064_00207D_00207E_00208D_00208E_0020D0_0020DC,
  0x0020E1_0020E1_0020E5_0020E6_0020EB_0020EF_002102_002102_002107_002107_00210A_002113,
  0x002115_002115_002119_00211D_002124_002124_002128_002129_00212C_00212D_00212F_002131,
  0x002133_002138_00213C_00213F_002145_002149_002195_002199_00219C_00219F_0021A1_0021A2,
  0x0021A4_0021A5_0021A7_0021A7_0021A9_0021AD_0021B0_0021B1_0021B6_0021B7_0021BC_0021CD,
  0x0021D0_0021D1_0021D3_0021D3_0021D5_0021DB_0021DD_0021DD_0021E4_0021E5_002308_00230B,
  0x0023B4_0023B5_0023B7_0023B7_0023D0_0023D0_0023E2_0023E2_0025A0_0025A1_0025AE_0025B6,
  0x0025BC_0025C0_0025C6_0025C7_0025CA_0025CB_0025CF_0025D3_0025E2_0025E2_0025E4_0025E4,
  0x0025E7_0025EC_002605_002606_002640_002640_002642_002642_002660_002663_00266D_00266E,
  0x0027C5_0027C6_0027E6_0027EF_002983_002998_0029D8_0029DB_0029FC_0029FD_00FE61_00FE61,
  0x00FE63_00FE63_00FE68_00FE68_00FF3C_00FF3C_00FF3E_00FF3E_01D400_01D454_01D456_01D49C,
  0x01D49E_01D49F_01D4A2_01D4A2_01D4A5_01D4A6_01D4A9_01D4AC_01D4AE_01D4B9_01D4BB_01D4BB,
  0x01D4BD_01D4C3_01D4C5_01D505_01D507_01D50A_01D50D_01D514_01D516_01D51C_01D51E_01D539,
  0x01D53B_01D53E_01D540_01D544_01D546_01D546_01D54A_01D550_01D552_01D6A5_01D6A8_01D6C0,
  0x01D6C2_01D6DA_01D6DC_01D6FA_01D6FC_01D714_01D716_01D734_01D736_01D74E_01D750_01D76E,
  0x01D770_01D788_01D78A_01D7A8_01D7AA_01D7C2_01D7C4_01D7CB_01D7CE_01D7FF_01EE00_01EE03,
  0x01EE05_01EE1F_01EE21_01EE22_01EE24_01EE24_01EE27_01EE27_01EE29_01EE32_01EE34_01EE37,
  0x01EE39_01EE39_01EE3B_01EE3B_01EE42_01EE42_01EE47_01EE47_01EE49_01EE49_01EE4B_01EE4B,
  0x01EE4D_01EE4F_01EE51_01EE52_01EE54_01EE54_01EE57_01EE57_01EE59_01EE59_01EE5B_01EE5B,
  0x01EE5D_01EE5D_01EE5F_01EE5F_01EE61_01EE62_01EE64_01EE64_01EE67_01EE6A_01EE6C_01EE72,
  0x01EE74_01EE77_01EE79_01EE7C_01EE7E_01EE7E_01EE80_01EE89_01EE8B_01EE9B_01EEA1_01EEA3,
  0x01EEA5_01EEA9_01EEAB_01EEBB]

def otherUppercase : CharSet := .ofPacked [
  0x002160_00216F_0024B6_0024CF_01F130_01F149_01F150_01F169_01F170_01F189]

def patternSyntax : CharSet := .ofPacked [
  0x000021_00002F_00003A_000040_00005B_00005E_000060_000060_00007B_00007E_0000A1_0000A7,
  0x0000A9_0000A9_0000AB_0000AC_0000AE_0000AE_0000B0_0000B1_0000B6_0000B6_0000BB_0000BB,
  0x0000BF_0000BF_0000D7_0000D7_0000F7_0000F7_002010_002027_002030_00203E_002041_002053,
  0x002055_00205E_002190_00245F_002500_002775_002794_002BFF_002E00_002E7F_003001_003003,
  0x003008_003020_003030_003030_00FD3E_00FD3F_00FE45_00FE46]

def patternWhiteSpace : CharSet := .ofPacked [
  0x000009_00000D_000020_000020_000085_000085_00200E_00200F_002028_002029]

def prependedConcatenationMark : CharSet := .ofPacked [
  0x000600_000605_0006DD_0006DD_00070F_00070F_000890_000891_0008E2_0008E2_0110BD_0110BD,
  0x0110CD_0110CD]

def quotationMark : CharSet := .ofPacked [
  0x000022_000022_000027_000027_0000AB_0000AB_0000BB_0000BB_002018_00201F_002039_00203A,
  0x002E42_002E42_00300C_00300F_00301D_00301F_00FE41_00FE44_00FF02_00FF02_00FF07_00FF07,
  0x00FF62_00FF63]

def radical : CharSet := .ofPacked [
  0x002E80_002E99_002E9B_002EF3_002F00_002FD5]

def regionalIndicator : CharSet := .ofPacked [
  0x01F1E6_01F1FF]

def sentenceTerminal : CharSet := .ofPacked [
  0x000021_000021_00002E_00002E_00003F_00003F_000589_000589_00061D_00061F_0006D4_0006D4,
  0x000700_000702_0007F9_0007F9_000837_000837_000839_000839_00083D_00083E_000964_000965,
  0x00104A_00104B_001362_001362_001367_001368_00166E_00166E_001735_001736_0017D4_0017D5,
  0x001803_001803_001809_001809_001944_001945_001AA8_001AAB_001B4E_001B4F_001B5A_001B5B,
  0x001B5E_001B5F_001B7D_001B7F_001C3B_001C3C_001C7E_001C7F_002024_002024_00203C_00203D,
  0x002047_002049_002CF9_002CFB_002E2E_002E2E_002E3C_002E3C_002E53_002E54_003002_003002,
  0x00A4FF_00A4FF_00A60E_00A60F_00A6F3_00A6F3_00A6F7_00A6F7_00A876_00A877_00A8CE_00A8CF,
  0x00A92F_00A92F_00A9C8_00A9C9_00AA5D_00AA5F_00AAF0_00AAF1_00ABEB_00ABEB_00FE12_00FE12,
  0x00FE15_00FE16_00FE52_00FE52_00FE56_00FE57_00FF01_00FF01_00FF0E_00FF0E_00FF1F_00FF1F,
  0x00FF61_00FF61_010A56_010A57_010F55_010F59_010F86_010F89_011047_011048_0110BE_0110C1,
  0x011141_011143_0111C5_0111C6_0111CD_0111CD_0111DE_0111DF_011238_011239_01123B_01123C,
  0x0112A9_0112A9_0113D4_0113D5_01144B_01144C_0115C2_0115C3_0115C9_0115D7_011641_011642,
  0x01173C_01173E_011944_011944_011946_011946_011A42_011A43_011A9B_011A9C_011C41_011C42,
  0x011EF7_011EF8_011F43_011F44_016A6E_016A6F_016AF5_016AF5_016B37_016B38_016B44_016B44,
  0x016D6E_016D6F_016E98_016E98_01BC9F_01BC9F_01DA88_01DA88]

def softDotted : CharSet := .ofPacked [
  0x000069_00006A_00012F_00012F_000249_000249_000268_000268_00029D_00029D_0002B2_0002B2,
  0x0003F3_0003F3_000456_000456_000458_000458_001D62_001D62_001D96_001D96_001DA4_001DA4,
  0x001DA8_001DA8_001E2D_001E2D_001ECB_001ECB_002071_002071_002148_002149_002C7C_002C7C,
  0x01D422_01D423_01D456_01D457_01D48A_01D48B_01D4BE_01D4BF_01D4F2_01D4F3_01D526_01D527,
  0x01D55A_01D55B_01D58E_01D58F_01D5C2_01D5C3_01D5F6_01D5F7_01D62A_01D62B_01D65E_01D65F,
  0x01D692_01D693_01DF1A_01DF1A_01E04C_01E04D_01E068_01E068]

def terminalPunctuation : CharSet := .ofPacked [
  0x000021_000021_00002C_00002C_00002E_00002E_00003A_00003B_00003F_00003F_00037E_00037E,
  0x000387_000387_000589_000589_0005C3_0005C3_00060C_00060C_00061B_00061B_00061D_00061F,
  0x0006D4_0006D4_000700_00070A_00070C_00070C_0007F8_0007F9_000830_000835_000837_00083E,
  0x00085E_00085E_000964_000965_000E5A_000E5B_000F08_000F08_000F0D_000F12_00104A_00104B,
  0x001361_001368_00166E_00166E_0016EB_0016ED_001735_001736_0017D4_0017D6_0017DA_0017DA,
  0x001802_001805_001808_001809_001944_001945_001AA8_001AAB_001B4E_001B4F_001B5A_001B5B,
  0x001B5D_001B5F_001B7D_001B7F_001C3B_001C3F_001C7E_001C7F_002024_002024_00203C_00203D,
  0x002047_002049_002CF9_002CFB_002E2E_002E2E_002E3C_002E3C_002E41_002E41_002E4C_002E4C,
  0x002E4E_002E4F_002E53_002E54_003001_003002_00A4FE_00A4FF_00A60D_00A60F_00A6F3_00A6F7,
  0x00A876_00A877_00A8CE_00A8CF_00A92F_00A92F_00A9C7_00A9C9_00AA5D_00AA5F_00AADF_00AADF,
  0x00AAF0_00AAF1_00ABEB_00ABEB_00FE12_00FE12_00FE15_00FE16_00FE50_00FE52_00FE54_00FE57,
  0x00FF01_00FF01_00FF0C_00FF0C_00FF0E_00FF0E_00FF1A_00FF1B_00FF1F_00FF1F_00FF61_00FF61,
  0x00FF64_00FF64_01039F_01039F_0103D0_0103D0_010857_010857_01091F_01091F_010A56_010A57,
  0x010AF0_010AF5_010B3A_010B3F_010B99_010B9C_010F55_010F59_010F86_010F89_011047_01104D,
  0x0110BE_0110C1_011141_011143_0111C5_0111C6_0111CD_0111CD_0111DE_0111DF_011238_01123C,
  0x0112A9_0112A9_0113D4_0113D5_01144B_01144D_01145A_01145B_0115C2_0115C5_0115C9_0115D7,
  0x011641_011642_01173C_01173E_011944_011944_011946_011946_011A42_011A43_011A9B_011A9C,
  0x011AA1_011AA2_011C41_011C43_011C71_011C71_011EF7_011EF8_011F43_011F44_012470_012474,
  0x016A6E_016A6F_016AF5_016AF5_016B37_016B39_016B44_016B44_016D6E_016D6F_016E97_016E98,
  0x01BC9F_01BC9F_01DA87_01DA8A]

def unifiedIdeograph : CharSet := .ofPacked [
  0x003400_004DBF_004E00_009FFF_00FA0E_00FA0F_00FA11_00FA11_00FA13_00FA14_00FA1F_00FA1F,
  0x00FA21_00FA21_00FA23_00FA24_00FA27_00FA29_020000_02A6DF_02A700_02B739_02B740_02B81D,
  0x02B820_02CEA1_02CEB0_02EBE0_02EBF0_02EE5D_030000_03134A_031350_0323AF]

def variationSelector : CharSet := .ofPacked [
  0x00180B_00180D_00180F_00180F_00FE00_00FE0F_0E0100_0E01EF]

def whiteSpace : CharSet := .ofPacked [
  0x000009_00000D_000020_000020_000085_000085_0000A0_0000A0_001680_001680_002000_00200A,
  0x002028_002029_00202F_00202F_00205F_00205F_003000_003000]

def lowercase : CharSet :=
  Category.lowercaseLetter.union otherLowercase

def uppercase : CharSet :=
  Category.uppercaseLetter.union otherUppercase

def alphabetic : CharSet :=
  .unionAll [Category.letter, Category.letterNumber, otherAlphabetic]

def cased : CharSet :=
  .unionAll [lowercase, uppercase, Category.titlecaseLetter]

def caseIgnorable : CharSet :=
  CharSet.union (.unionAll [Category.nonspacingMark, Category.enclosingMark,
  Category.format, Category.modifierLetter, Category.modifierSymbol]) <| .ofPacked [
  0x000027_000027_00002E_00002E_00003A_00003A_0000B7_0000B7_000387_000387_00055F_00055F,
  0x0005F4_0005F4_002018_002019_002024_002024_002027_002027_00FE13_00FE13_00FE52_00FE52,
  0x00FE55_00FE55_00FF07_00FF07_00FF0E_00FF0E_00FF1A_00FF1A]

def math : CharSet :=
  Category.mathSymbol.union otherMath

def defaultIgnorableCodePoint : CharSet :=
  adjust (.unionAll [otherDefaultIgnorableCodePoint, Category.format,
  variationSelector]) [] [
  0x000600_000605_0006DD_0006DD_00070F_00070F_000890_000891_0008E2_0008E2_00FFF9_00FFFB,
  0x0110BD_0110BD_0110CD_0110CD_013430_01343F]

def graphemeExtend : CharSet :=
  .unionAll [Category.nonspacingMark, Category.enclosingMark,
  otherGraphemeExtend]

def graphemeBase : CharSet :=
  (CharSet.unionAll [Category.other, Category.lineSeparator,
  Category.paragraphSeparator, graphemeExtend]).complement

def idStart : CharSet :=
  (CharSet.unionAll [Category.letter, Category.letterNumber,
  otherIdStart]).diff patternSyntax

def idContinue : CharSet :=
  .unionAll [idStart, Category.nonspacingMark, Category.spacingMark,
  Category.decimalNumber, Category.connectorPunctuation, otherIdContinue]

def xidStart : CharSet :=
  adjust (idStart) [] [
  0x00037A_00037A_000E33_000E33_000EB3_000EB3_00309B_00309C_00FC5E_00FC63_00FDFA_00FDFB,
  0x00FE70_00FE70_00FE72_00FE72_00FE74_00FE74_00FE76_00FE76_00FE78_00FE78_00FE7A_00FE7A,
  0x00FE7C_00FE7C_00FE7E_00FE7E_00FF9E_00FF9F]

def xidContinue : CharSet :=
  adjust (idContinue) [] [
  0x00037A_00037A_00309B_00309C_00FC5E_00FC63_00FDFA_00FDFB_00FE70_00FE70_00FE72_00FE72,
  0x00FE74_00FE74_00FE76_00FE76_00FE78_00FE78_00FE7A_00FE7A_00FE7C_00FE7C_00FE7E_00FE7E]

def idCompatMathContinue : CharSet :=
  CharSet.union (idCompatMathStart) <| .ofPacked [
  0x0000B2_0000B3_0000B9_0000B9_002070_002070_002074_00207E_002080_00208E]

def changesWhenLowercased : CharSet :=
  adjust (Category.uppercaseLetter.union Category.titlecaseLetter) [
  0x002160_00216F_0024B6_0024CF] [
  0x0003D2_0003D4_002102_002102_002107_002107_00210B_00210D_002110_002112_002115_002115,
  0x002119_00211D_002124_002124_002128_002128_00212C_00212D_002130_002131_002133_002133,
  0x00213E_00213F_002145_002145_01D400_01D419_01D434_01D44D_01D468_01D481_01D49C_01D49C,
  0x01D49E_01D49F_01D4A2_01D4A2_01D4A5_01D4A6_01D4A9_01D4AC_01D4AE_01D4B5_01D4D0_01D4E9,
  0x01D504_01D505_01D507_01D50A_01D50D_01D514_01D516_01D51C_01D538_01D539_01D53B_01D53E,
  0x01D540_01D544_01D546_01D546_01D54A_01D550_01D56C_01D585_01D5A0_01D5B9_01D5D4_01D5ED,
  0x01D608_01D621_01D63C_01D655_01D670_01D689_01D6A8_01D6C0_01D6E2_01D6FA_01D71C_01D734,
  0x01D756_01D76E_01D790_01D7A8_01D7CA_01D7CA]

def changesWhenUppercased : CharSet :=
  adjust (Category.lowercaseLetter) [
  0x0001C5_0001C5_0001C8_0001C8_0001CB_0001CB_0001F2_0001F2_000345_000345_001F88_001F8F,
  0x001F98_001F9F_001FA8_001FAF_001FBC_001FBC_001FCC_001FCC_001FFC_001FFC_002170_00217F,
  0x0024D0_0024E9] [
  0x000138_000138_00018D_00018D_0001AA_0001AB_0001BA_0001BA_0001BE_0001BE_000221_000221,
  0x000234_000239_000255_000255_000258_000258_00025A_00025A_00025D_00025F_000262_000262,
  0x000267_000267_00026D_00026E_000270_000270_000273_000274_000276_00027C_00027E_00027F,
  0x000281_000281_000284_000286_00028D_000291_000293_000293_000295_00029C_00029F_0002AF,
  0x0003FC_0003FC_000560_000560_000588_000588_001D00_001D2B_001D6B_001D77_001D7A_001D7C,
  0x001D7E_001D8D_001D8F_001D9A_001E9C_001E9D_001E9F_001E9F_00210A_00210A_00210E_00210F,
  0x002113_002113_00212F_00212F_002134_002134_002139_002139_00213C_00213D_002146_002149,
  0x002C71_002C71_002C74_002C74_002C77_002C7B_002CE4_002CE4_00A730_00A731_00A771_00A778,
  0x00A78E_00A78E_00A795_00A795_00A7AF_00A7AF_00A7D3_00A7D3_00A7D5_00A7D5_00A7FA_00A7FA,
  0x00AB30_00AB52_00AB54_00AB5A_00AB60_00AB68_01D41A_01D433_01D44E_01D454_01D456_01D467,
  0x01D482_01D49B_01D4B6_01D4B9_01D4BB_01D4BB_01D4BD_01D4C3_01D4C5_01D4CF_01D4EA_01D503,
  0x01D51E_01D537_01D552_01D56B_01D586_01D59F_01D5BA_01D5D3_01D5EE_01D607_01D622_01D63B,
  0x01D656_01D66F_01D68A_01D6A5_01D6C2_01D6DA_01D6DC_01D6E1_01D6FC_01D714_01D716_01D71B,
  0x01D736_01D74E_01D750_01D755_01D770_01D788_01D78A_01D78F_01D7AA_01D7C2_01D7C4_01D7C9,
  0x01D7CB_01D7CB_01DF00_01DF09_01DF0B_01DF1E_01DF25_01DF2A]

def changesWhenTitlecased : CharSet :=
  adjust (changesWhenUppercased) [
  0x0001C4_0001C4_0001C7_0001C7_0001CA_0001CA_0001F1_0001F1] [
  0x0001C5_0001C5_0001C8_0001C8_0001CB_0001CB_0001F2_0001F2_0010D0_0010FA_0010FD_0010FF,
  0x001F88_001F8F_001F98_001F9F_001FA8_001FAF_001FBC_001FBC_001FCC_001FCC_001FFC_001FFC]

def changesWhenCasemapped : CharSet :=
  .unionAll [changesWhenLowercased, changesWhenUppercased,
  changesWhenTitlecased]

def changesWhenCasefolded : CharSet :=
  adjust (changesWhenLowercased) [
  0x0000B5_0000B5_0000DF_0000DF_000149_000149_00017F_00017F_000345_000345_0003C2_0003C2,
  0x0003D0_0003D1_0003D5_0003D6_0003F0_0003F1_0003F5_0003F5_000587_000587_0013F8_0013FD,
  0x001C80_001C88_001E9A_001E9B_001F80_001F87_001F90_001F97_001FA0_001FA7_001FB2_001FB4,
  0x001FB7_001FB7_001FC2_001FC4_001FC7_001FC7_001FF2_001FF4_001FF7_001FF7_00AB70_00ABBF,
  0x00FB00_00FB06_00FB13_00FB17] [
  0x0013A0_0013F5]

end Construe.Unicode.Binary
