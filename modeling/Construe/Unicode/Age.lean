import Construe.CharSet

/-! # Ages

The age of a character is the edition of Unicode that first had it. A named age stands for all
characters up to that edition. -/
namespace Construe.Unicode

/-- An edition with the characters it added. -/
structure Edition where
  major : Nat
  minor : Nat
  added : List Nat

namespace Edition

def v1_1 : Edition where
  major := 1
  minor := 1
  added := [
    0x000000_0001F5_0001FA_000217_000250_0002A8_0002B0_0002DE_0002E0_0002E9_000300_000345,
    0x000360_000361_000374_000375_00037A_00037A_00037E_00037E_000384_00038A_00038C_00038C,
    0x00038E_0003A1_0003A3_0003CE_0003D0_0003D6_0003DA_0003DA_0003DC_0003DC_0003DE_0003DE,
    0x0003E0_0003E0_0003E2_0003F3_000401_00040C_00040E_00044F_000451_00045C_00045E_000486,
    0x000490_0004C4_0004C7_0004C8_0004CB_0004CC_0004D0_0004EB_0004EE_0004F5_0004F8_0004F9,
    0x000531_000556_000559_00055F_000561_000587_000589_000589_0005B0_0005B9_0005BB_0005C3,
    0x0005D0_0005EA_0005F0_0005F4_00060C_00060C_00061B_00061B_00061F_00061F_000621_00063A,
    0x000640_000652_000660_00066D_000670_0006B7_0006BA_0006BE_0006C0_0006CE_0006D0_0006ED,
    0x0006F0_0006F9_000901_000903_000905_000939_00093C_00094D_000950_000954_000958_000970,
    0x000981_000983_000985_00098C_00098F_000990_000993_0009A8_0009AA_0009B0_0009B2_0009B2,
    0x0009B6_0009B9_0009BC_0009BC_0009BE_0009C4_0009C7_0009C8_0009CB_0009CD_0009D7_0009D7,
    0x0009DC_0009DD_0009DF_0009E3_0009E6_0009FA_000A02_000A02_000A05_000A0A_000A0F_000A10,
    0x000A13_000A28_000A2A_000A30_000A32_000A33_000A35_000A36_000A38_000A39_000A3C_000A3C,
    0x000A3E_000A42_000A47_000A48_000A4B_000A4D_000A59_000A5C_000A5E_000A5E_000A66_000A74,
    0x000A81_000A83_000A85_000A8B_000A8D_000A8D_000A8F_000A91_000A93_000AA8_000AAA_000AB0,
    0x000AB2_000AB3_000AB5_000AB9_000ABC_000AC5_000AC7_000AC9_000ACB_000ACD_000AD0_000AD0,
    0x000AE0_000AE0_000AE6_000AEF_000B01_000B03_000B05_000B0C_000B0F_000B10_000B13_000B28,
    0x000B2A_000B30_000B32_000B33_000B36_000B39_000B3C_000B43_000B47_000B48_000B4B_000B4D,
    0x000B56_000B57_000B5C_000B5D_000B5F_000B61_000B66_000B70_000B82_000B83_000B85_000B8A,
    0x000B8E_000B90_000B92_000B95_000B99_000B9A_000B9C_000B9C_000B9E_000B9F_000BA3_000BA4,
    0x000BA8_000BAA_000BAE_000BB5_000BB7_000BB9_000BBE_000BC2_000BC6_000BC8_000BCA_000BCD,
    0x000BD7_000BD7_000BE7_000BF2_000C01_000C03_000C05_000C0C_000C0E_000C10_000C12_000C28,
    0x000C2A_000C33_000C35_000C39_000C3E_000C44_000C46_000C48_000C4A_000C4D_000C55_000C56,
    0x000C60_000C61_000C66_000C6F_000C82_000C83_000C85_000C8C_000C8E_000C90_000C92_000CA8,
    0x000CAA_000CB3_000CB5_000CB9_000CBE_000CC4_000CC6_000CC8_000CCA_000CCD_000CD5_000CD6,
    0x000CDE_000CDE_000CE0_000CE1_000CE6_000CEF_000D02_000D03_000D05_000D0C_000D0E_000D10,
    0x000D12_000D28_000D2A_000D39_000D3E_000D43_000D46_000D48_000D4A_000D4D_000D57_000D57,
    0x000D60_000D61_000D66_000D6F_000E01_000E3A_000E3F_000E5B_000E81_000E82_000E84_000E84,
    0x000E87_000E88_000E8A_000E8A_000E8D_000E8D_000E94_000E97_000E99_000E9F_000EA1_000EA3,
    0x000EA5_000EA5_000EA7_000EA7_000EAA_000EAB_000EAD_000EB9_000EBB_000EBD_000EC0_000EC4,
    0x000EC6_000EC6_000EC8_000ECD_000ED0_000ED9_000EDC_000EDD_0010A0_0010C5_0010D0_0010F6,
    0x0010FB_0010FB_001100_001159_00115F_0011A2_0011A8_0011F9_001E00_001E9A_001EA0_001EF9,
    0x001F00_001F15_001F18_001F1D_001F20_001F45_001F48_001F4D_001F50_001F57_001F59_001F59,
    0x001F5B_001F5B_001F5D_001F5D_001F5F_001F7D_001F80_001FB4_001FB6_001FC4_001FC6_001FD3,
    0x001FD6_001FDB_001FDD_001FEF_001FF2_001FF4_001FF6_001FFE_002000_00202E_002030_002046,
    0x00206A_002070_002074_00208E_0020A0_0020AA_0020D0_0020E1_002100_002138_002153_002182,
    0x002190_0021EA_002200_0022F1_002300_002300_002302_00237A_002400_002424_002440_00244A,
    0x002460_0024EA_002500_002595_0025A0_0025EF_002600_002613_00261A_00266F_002701_002704,
    0x002706_002709_00270C_002727_002729_00274B_00274D_00274D_00274F_002752_002756_002756,
    0x002758_00275E_002761_002767_002776_002794_002798_0027AF_0027B1_0027BE_003000_003037,
    0x00303F_00303F_003041_003094_003099_00309E_0030A1_0030FE_003105_00312C_003131_00318E,
    0x003190_00319F_003200_00321C_003220_003243_003260_00327B_00327F_0032B0_0032C0_0032CB,
    0x0032D0_0032FE_003300_003376_00337B_0033DD_0033E0_0033FE_004E00_009FA5_00E000_00FA2D,
    0x00FB00_00FB06_00FB13_00FB17_00FB1E_00FB36_00FB38_00FB3C_00FB3E_00FB3E_00FB40_00FB41,
    0x00FB43_00FB44_00FB46_00FBB1_00FBD3_00FD3F_00FD50_00FD8F_00FD92_00FDC7_00FDF0_00FDFB,
    0x00FE20_00FE23_00FE30_00FE44_00FE49_00FE52_00FE54_00FE66_00FE68_00FE6B_00FE70_00FE72,
    0x00FE74_00FE74_00FE76_00FEFC_00FEFF_00FEFF_00FF01_00FF5E_00FF61_00FFBE_00FFC2_00FFC7,
    0x00FFCA_00FFCF_00FFD2_00FFD7_00FFDA_00FFDC_00FFE0_00FFE6_00FFE8_00FFEE_00FFFD_00FFFF]

def v2_0 : Edition where
  major := 2
  minor := 0
  added := [
    0x000591_0005A1_0005A3_0005AF_0005C4_0005C4_000F00_000F47_000F49_000F69_000F71_000F8B,
    0x000F90_000F95_000F97_000F97_000F99_000FAD_000FB1_000FB7_000FB9_000FB9_001E9B_001E9B,
    0x0020AB_0020AB_00AC00_00D7A3_01FFFE_01FFFF_02FFFE_02FFFF_03FFFE_03FFFF_04FFFE_04FFFF,
    0x05FFFE_05FFFF_06FFFE_06FFFF_07FFFE_07FFFF_08FFFE_08FFFF_09FFFE_09FFFF_0AFFFE_0AFFFF,
    0x0BFFFE_0BFFFF_0CFFFE_0CFFFF_0DFFFE_0DFFFF_0EFFFE_10FFFF]

def v2_1 : Edition where
  major := 2
  minor := 1
  added := [
    0x0020AC_0020AC_00FFFC_00FFFC]

def v3_0 : Edition where
  major := 3
  minor := 0
  added := [
    0x0001F6_0001F9_000218_00021F_000222_000233_0002A9_0002AD_0002DF_0002DF_0002EA_0002EE,
    0x000346_00034E_000362_000362_0003D7_0003D7_0003DB_0003DB_0003DD_0003DD_0003DF_0003DF,
    0x0003E1_0003E1_000400_000400_00040D_00040D_000450_000450_00045D_00045D_000488_000489,
    0x00048C_00048F_0004EC_0004ED_00058A_00058A_000653_000655_0006B8_0006B9_0006BF_0006BF,
    0x0006CF_0006CF_0006FA_0006FE_000700_00070D_00070F_00072C_000730_00074A_000780_0007B0,
    0x000D82_000D83_000D85_000D96_000D9A_000DB1_000DB3_000DBB_000DBD_000DBD_000DC0_000DC6,
    0x000DCA_000DCA_000DCF_000DD4_000DD6_000DD6_000DD8_000DDF_000DF2_000DF4_000F6A_000F6A,
    0x000F96_000F96_000FAE_000FB0_000FB8_000FB8_000FBA_000FBC_000FBE_000FCC_000FCF_000FCF,
    0x001000_001021_001023_001027_001029_00102A_00102C_001032_001036_001039_001040_001059,
    0x001200_001206_001208_001246_001248_001248_00124A_00124D_001250_001256_001258_001258,
    0x00125A_00125D_001260_001286_001288_001288_00128A_00128D_001290_0012AE_0012B0_0012B0,
    0x0012B2_0012B5_0012B8_0012BE_0012C0_0012C0_0012C2_0012C5_0012C8_0012CE_0012D0_0012D6,
    0x0012D8_0012EE_0012F0_00130E_001310_001310_001312_001315_001318_00131E_001320_001346,
    0x001348_00135A_001361_00137C_0013A0_0013F4_001401_001676_001680_00169C_0016A0_0016F0,
    0x001780_0017DC_0017E0_0017E9_001800_00180E_001810_001819_001820_001877_001880_0018A9,
    0x00202F_00202F_002048_00204D_0020AD_0020AF_0020E2_0020E3_002139_00213A_002183_002183,
    0x0021EB_0021F3_002301_002301_00237B_00237B_00237D_00239A_002425_002426_0025F0_0025F7,
    0x002619_002619_002670_002671_002800_0028FF_002E80_002E99_002E9B_002EF3_002F00_002FD5,
    0x002FF0_002FFB_003038_00303A_00303E_00303E_0031A0_0031B7_003400_004DB5_00A000_00A48C,
    0x00A490_00A4A1_00A4A4_00A4B3_00A4B5_00A4C0_00A4C2_00A4C4_00A4C6_00A4C6_00FB1D_00FB1D,
    0x00FFF9_00FFFB]

def v3_1 : Edition where
  major := 3
  minor := 1
  added := [
    0x0003F4_0003F5_00FDD0_00FDEF_010300_01031E_010320_010323_010330_01034A_010400_010425,
    0x010428_01044D_01D000_01D0F5_01D100_01D126_01D12A_01D1DD_01D400_01D454_01D456_01D49C,
    0x01D49E_01D49F_01D4A2_01D4A2_01D4A5_01D4A6_01D4A9_01D4AC_01D4AE_01D4B9_01D4BB_01D4BB,
    0x01D4BD_01D4C0_01D4C2_01D4C3_01D4C5_01D505_01D507_01D50A_01D50D_01D514_01D516_01D51C,
    0x01D51E_01D539_01D53B_01D53E_01D540_01D544_01D546_01D546_01D54A_01D550_01D552_01D6A3,
    0x01D6A8_01D7C9_01D7CE_01D7FF_020000_02A6D6_02F800_02FA1D_0E0001_0E0001_0E0020_0E007F]

def v3_2 : Edition where
  major := 3
  minor := 2
  added := [
    0x000220_000220_00034F_00034F_000363_00036F_0003D8_0003D9_0003F6_0003F6_00048A_00048B,
    0x0004C5_0004C6_0004C9_0004CA_0004CD_0004CE_000500_00050F_00066E_00066F_0007B1_0007B1,
    0x0010F7_0010F8_001700_00170C_00170E_001714_001720_001736_001740_001753_001760_00176C,
    0x00176E_001770_001772_001773_002047_002047_00204E_002052_002057_002057_00205F_002063,
    0x002071_002071_0020B0_0020B1_0020E4_0020EA_00213D_00214B_0021F4_0021FF_0022F2_0022FF,
    0x00237C_00237C_00239B_0023CE_0024EB_0024FE_002596_00259F_0025F8_0025FF_002616_002617,
    0x002672_00267D_002680_002689_002768_002775_0027D0_0027EB_0027F0_0027FF_002900_002AFF,
    0x00303B_00303D_003095_003096_00309F_0030A0_0030FF_0030FF_0031F0_0031FF_003251_00325F,
    0x0032B1_0032BF_00A4A2_00A4A3_00A4B4_00A4B4_00A4C1_00A4C1_00A4C5_00A4C5_00FA30_00FA6A,
    0x00FDFC_00FDFC_00FE00_00FE0F_00FE45_00FE46_00FE73_00FE73_00FF5F_00FF60]

def v4_0 : Edition where
  major := 4
  minor := 0
  added := [
    0x000221_000221_000234_000236_0002AE_0002AF_0002EF_0002FF_000350_000357_00035D_00035F,
    0x0003F7_0003FB_000600_000603_00060D_000615_000656_000658_0006EE_0006EF_0006FF_0006FF,
    0x00072D_00072F_00074D_00074F_000904_000904_0009BD_0009BD_000A01_000A01_000A03_000A03,
    0x000A8C_000A8C_000AE1_000AE3_000AF1_000AF1_000B35_000B35_000B71_000B71_000BF3_000BFA,
    0x000CBC_000CBD_0017DD_0017DD_0017F0_0017F9_001900_00191C_001920_00192B_001930_00193B,
    0x001940_001940_001944_00196D_001970_001974_0019E0_0019FF_001D00_001D6B_002053_002054,
    0x00213B_00213B_0023CF_0023D0_0024FF_0024FF_002614_002615_00268A_002691_0026A0_0026A1,
    0x002B00_002B0D_00321D_00321E_003250_003250_00327C_00327D_0032CC_0032CF_003377_00337A,
    0x0033DE_0033DF_0033FF_0033FF_004DC0_004DFF_00FDFD_00FDFD_00FE47_00FE48_010000_01000B,
    0x01000D_010026_010028_01003A_01003C_01003D_01003F_01004D_010050_01005D_010080_0100FA,
    0x010100_010102_010107_010133_010137_01013F_010380_01039D_01039F_01039F_010426_010427,
    0x01044E_01049D_0104A0_0104A9_010800_010805_010808_010808_01080A_010835_010837_010838,
    0x01083C_01083C_01083F_01083F_01D300_01D356_01D4C1_01D4C1_0E0100_0E01EF]

def v4_1 : Edition where
  major := 4
  minor := 1
  added := [
    0x000237_000241_000358_00035C_0003FC_0003FF_0004F6_0004F7_0005A2_0005A2_0005C5_0005C7,
    0x00060B_00060B_00061E_00061E_000659_00065E_000750_00076D_00097D_00097D_0009CE_0009CE,
    0x000BB6_000BB6_000BE6_000BE6_000FD0_000FD1_0010F9_0010FA_0010FC_0010FC_001207_001207,
    0x001247_001247_001287_001287_0012AF_0012AF_0012CF_0012CF_0012EF_0012EF_00130F_00130F,
    0x00131F_00131F_001347_001347_00135F_001360_001380_001399_001980_0019A9_0019B0_0019C9,
    0x0019D0_0019D9_0019DE_0019DF_001A00_001A1B_001A1E_001A1F_001D6C_001DC3_002055_002056,
    0x002058_00205E_002090_002094_0020B2_0020B5_0020EB_0020EB_00213C_00213C_00214C_00214C,
    0x0023D1_0023DB_002618_002618_00267E_00267F_002692_00269C_0026A2_0026B1_0027C0_0027C6,
    0x002B0E_002B13_002C00_002C2E_002C30_002C5E_002C80_002CEA_002CF9_002D25_002D30_002D65,
    0x002D6F_002D6F_002D80_002D96_002DA0_002DA6_002DA8_002DAE_002DB0_002DB6_002DB8_002DBE,
    0x002DC0_002DC6_002DC8_002DCE_002DD0_002DD6_002DD8_002DDE_002E00_002E17_002E1C_002E1D,
    0x0031C0_0031CF_00327E_00327E_009FA6_009FBB_00A700_00A716_00A800_00A82B_00FA70_00FAD9,
    0x00FE10_00FE19_010140_01018A_0103A0_0103C3_0103C8_0103D5_010A00_010A03_010A05_010A06,
    0x010A0C_010A13_010A15_010A17_010A19_010A33_010A38_010A3A_010A3F_010A47_010A50_010A58,
    0x01D200_01D245_01D6A4_01D6A5]

def v5_0 : Edition where
  major := 5
  minor := 0
  added := [
    0x000242_00024F_00037B_00037D_0004CF_0004CF_0004FA_0004FF_000510_000513_0005BA_0005BA,
    0x0007C0_0007FA_00097B_00097C_00097E_00097F_000CE2_000CE3_000CF1_000CF2_001B00_001B4B,
    0x001B50_001B7C_001DC4_001DCA_001DFE_001DFF_0020EC_0020EF_00214D_00214E_002184_002184,
    0x0023DC_0023E7_0026B2_0026B2_0027C7_0027CA_002B14_002B1A_002B20_002B23_002C60_002C6C,
    0x002C74_002C77_00A717_00A71A_00A720_00A721_00A840_00A877_010900_010919_01091F_01091F,
    0x012000_01236E_012400_012462_012470_012473_01D360_01D371_01D7CA_01D7CB]

def v5_1 : Edition where
  major := 5
  minor := 1
  added := [
    0x000370_000373_000376_000377_0003CF_0003CF_000487_000487_000514_000523_000606_00060A,
    0x000616_00061A_00063B_00063F_00076E_00077F_000971_000972_000A51_000A51_000A75_000A75,
    0x000B44_000B44_000B62_000B63_000BD0_000BD0_000C3D_000C3D_000C58_000C59_000C62_000C63,
    0x000C78_000C7F_000D3D_000D3D_000D44_000D44_000D62_000D63_000D70_000D75_000D79_000D7F,
    0x000F6B_000F6C_000FCE_000FCE_000FD2_000FD4_001022_001022_001028_001028_00102B_00102B,
    0x001033_001035_00103A_00103F_00105A_001099_00109E_00109F_0018AA_0018AA_001B80_001BAA,
    0x001BAE_001BB9_001C00_001C37_001C3B_001C49_001C4D_001C7F_001DCB_001DE6_001E9C_001E9F,
    0x001EFA_001EFF_002064_002064_0020F0_0020F0_00214F_00214F_002185_002188_00269D_00269D,
    0x0026B3_0026BC_0026C0_0026C3_0027CC_0027CC_0027EC_0027EF_002B1B_002B1F_002B24_002B4C,
    0x002B50_002B54_002C6D_002C6F_002C71_002C73_002C78_002C7D_002DE0_002DFF_002E18_002E1B,
    0x002E1E_002E30_00312D_00312D_0031D0_0031E3_009FBC_009FC3_00A500_00A62B_00A640_00A65F,
    0x00A662_00A673_00A67C_00A697_00A71B_00A71F_00A722_00A78C_00A7FB_00A7FF_00A880_00A8C4,
    0x00A8CE_00A8D9_00A900_00A953_00A95F_00A95F_00AA00_00AA36_00AA40_00AA4D_00AA50_00AA59,
    0x00AA5C_00AA5F_00FE24_00FE26_010190_01019B_0101D0_0101FD_010280_01029C_0102A0_0102D0,
    0x010920_010939_01093F_01093F_01D129_01D129_01F000_01F02B_01F030_01F093]

def v5_2 : Edition where
  major := 5
  minor := 2
  added := [
    0x000524_000525_000800_00082D_000830_00083E_000900_000900_00094E_00094E_000955_000955,
    0x000979_00097A_0009FB_0009FB_000FD5_000FD8_00109A_00109D_00115A_00115E_0011A3_0011A7,
    0x0011FA_0011FF_001400_001400_001677_00167F_0018B0_0018F5_0019AA_0019AB_0019DA_0019DA,
    0x001A20_001A5E_001A60_001A7C_001A7F_001A89_001A90_001A99_001AA0_001AAD_001CD0_001CF2,
    0x001DFD_001DFD_0020B6_0020B8_002150_002152_002189_002189_0023E8_0023E8_00269E_00269F,
    0x0026BD_0026BF_0026C4_0026CD_0026CF_0026E1_0026E3_0026E3_0026E8_0026FF_002757_002757,
    0x002B55_002B59_002C70_002C70_002C7E_002C7F_002CEB_002CF1_002E31_002E31_003244_00324F,
    0x009FC4_009FCB_00A4D0_00A4FF_00A6A0_00A6F7_00A830_00A839_00A8E0_00A8FB_00A960_00A97C,
    0x00A980_00A9CD_00A9CF_00A9D9_00A9DE_00A9DF_00AA60_00AA7B_00AA80_00AAC2_00AADB_00AADF,
    0x00ABC0_00ABED_00ABF0_00ABF9_00D7B0_00D7C6_00D7CB_00D7FB_00FA6B_00FA6D_010840_010855,
    0x010857_01085F_01091A_01091B_010A60_010A7F_010B00_010B35_010B39_010B55_010B58_010B72,
    0x010B78_010B7F_010C00_010C48_010E60_010E7E_011080_0110C1_013000_01342E_01F100_01F10A,
    0x01F110_01F12E_01F131_01F131_01F13D_01F13D_01F13F_01F13F_01F142_01F142_01F146_01F146,
    0x01F14A_01F14E_01F157_01F157_01F15F_01F15F_01F179_01F179_01F17B_01F17C_01F17F_01F17F,
    0x01F18A_01F18D_01F190_01F190_01F200_01F200_01F210_01F231_01F240_01F248_02A700_02B734]

def v6_0 : Edition where
  major := 6
  minor := 0
  added := [
    0x000526_000527_000620_000620_00065F_00065F_000840_00085B_00085E_00085E_00093A_00093B,
    0x00094F_00094F_000956_000957_000973_000977_000B72_000B77_000D29_000D29_000D3A_000D3A,
    0x000D4E_000D4E_000F8C_000F8F_000FD9_000FDA_00135D_00135E_001BC0_001BF3_001BFC_001BFF,
    0x001DFC_001DFC_002095_00209C_0020B9_0020B9_0023E9_0023F3_0026CE_0026CE_0026E2_0026E2,
    0x0026E4_0026E7_002705_002705_00270A_00270B_002728_002728_00274C_00274C_00274E_00274E,
    0x002753_002755_00275F_002760_002795_002797_0027B0_0027B0_0027BF_0027BF_0027CE_0027CF,
    0x002D70_002D70_002D7F_002D7F_0031B8_0031BA_00A660_00A661_00A78D_00A78E_00A790_00A791,
    0x00A7A0_00A7A9_00A7FA_00A7FA_00AB01_00AB06_00AB09_00AB0E_00AB11_00AB16_00AB20_00AB26,
    0x00AB28_00AB2E_00FBB2_00FBC1_011000_01104D_011052_01106F_016800_016A38_01B000_01B001,
    0x01F0A0_01F0AE_01F0B1_01F0BE_01F0C1_01F0CF_01F0D1_01F0DF_01F130_01F130_01F132_01F13C,
    0x01F13E_01F13E_01F140_01F141_01F143_01F145_01F147_01F149_01F14F_01F156_01F158_01F15E,
    0x01F160_01F169_01F170_01F178_01F17A_01F17A_01F17D_01F17E_01F180_01F189_01F18E_01F18F,
    0x01F191_01F19A_01F1E6_01F1FF_01F201_01F202_01F232_01F23A_01F250_01F251_01F300_01F320,
    0x01F330_01F335_01F337_01F37C_01F380_01F393_01F3A0_01F3C4_01F3C6_01F3CA_01F3E0_01F3F0,
    0x01F400_01F43E_01F440_01F440_01F442_01F4F7_01F4F9_01F4FC_01F500_01F53D_01F550_01F567,
    0x01F5FB_01F5FF_01F601_01F610_01F612_01F614_01F616_01F616_01F618_01F618_01F61A_01F61A,
    0x01F61C_01F61E_01F620_01F625_01F628_01F62B_01F62D_01F62D_01F630_01F633_01F635_01F640,
    0x01F645_01F64F_01F680_01F6C5_01F700_01F773_02B740_02B81D]

def v6_1 : Edition where
  major := 6
  minor := 1
  added := [
    0x00058F_00058F_000604_000604_0008A0_0008A0_0008A2_0008AC_0008E4_0008FE_000AF0_000AF0,
    0x000EDE_000EDF_0010C7_0010C7_0010CD_0010CD_0010FD_0010FF_001BAB_001BAD_001BBA_001BBF,
    0x001CC0_001CC7_001CF3_001CF6_0027CB_0027CB_0027CD_0027CD_002CF2_002CF3_002D27_002D27,
    0x002D2D_002D2D_002D66_002D67_002E32_002E3B_009FCC_009FCC_00A674_00A67B_00A69F_00A69F,
    0x00A792_00A793_00A7AA_00A7AA_00A7F8_00A7F9_00AAE0_00AAF6_00FA2E_00FA2F_010980_0109B7,
    0x0109BE_0109BF_0110D0_0110E8_0110F0_0110F9_011100_011134_011136_011143_011180_0111C8,
    0x0111D0_0111D9_011680_0116B7_0116C0_0116C9_016F00_016F44_016F50_016F7E_016F8F_016F9F,
    0x01EE00_01EE03_01EE05_01EE1F_01EE21_01EE22_01EE24_01EE24_01EE27_01EE27_01EE29_01EE32,
    0x01EE34_01EE37_01EE39_01EE39_01EE3B_01EE3B_01EE42_01EE42_01EE47_01EE47_01EE49_01EE49,
    0x01EE4B_01EE4B_01EE4D_01EE4F_01EE51_01EE52_01EE54_01EE54_01EE57_01EE57_01EE59_01EE59,
    0x01EE5B_01EE5B_01EE5D_01EE5D_01EE5F_01EE5F_01EE61_01EE62_01EE64_01EE64_01EE67_01EE6A,
    0x01EE6C_01EE72_01EE74_01EE77_01EE79_01EE7C_01EE7E_01EE7E_01EE80_01EE89_01EE8B_01EE9B,
    0x01EEA1_01EEA3_01EEA5_01EEA9_01EEAB_01EEBB_01EEF0_01EEF1_01F16A_01F16B_01F540_01F543,
    0x01F600_01F600_01F611_01F611_01F615_01F615_01F617_01F617_01F619_01F619_01F61B_01F61B,
    0x01F61F_01F61F_01F626_01F627_01F62C_01F62C_01F62E_01F62F_01F634_01F634]

def v6_2 : Edition where
  major := 6
  minor := 2
  added := [
    0x0020BA_0020BA]

def v6_3 : Edition where
  major := 6
  minor := 3
  added := [
    0x00061C_00061C_002066_002069]

def v7_0 : Edition where
  major := 7
  minor := 0
  added := [
    0x00037F_00037F_000528_00052F_00058D_00058E_000605_000605_0008A1_0008A1_0008AD_0008B2,
    0x0008FF_0008FF_000978_000978_000980_000980_000C00_000C00_000C34_000C34_000C81_000C81,
    0x000D01_000D01_000DE6_000DEF_0016F1_0016F8_00191D_00191E_001AB0_001ABE_001CF8_001CF9,
    0x001DE7_001DF5_0020BB_0020BD_0023F4_0023FA_002700_002700_002B4D_002B4F_002B5A_002B73,
    0x002B76_002B95_002B98_002BB9_002BBD_002BC8_002BCA_002BD1_002E3C_002E42_00A698_00A69D,
    0x00A794_00A79F_00A7AB_00A7AD_00A7B0_00A7B1_00A7F7_00A7F7_00A9E0_00A9FE_00AA7C_00AA7F,
    0x00AB30_00AB5F_00AB64_00AB65_00FE27_00FE2D_01018B_01018C_0101A0_0101A0_0102E0_0102FB,
    0x01031F_01031F_010350_01037A_010500_010527_010530_010563_01056F_01056F_010600_010736,
    0x010740_010755_010760_010767_010860_01089E_0108A7_0108AF_010A80_010A9F_010AC0_010AE6,
    0x010AEB_010AF6_010B80_010B91_010B99_010B9C_010BA9_010BAF_01107F_01107F_011150_011176,
    0x0111CD_0111CD_0111DA_0111DA_0111E1_0111F4_011200_011211_011213_01123D_0112B0_0112EA,
    0x0112F0_0112F9_011301_011303_011305_01130C_01130F_011310_011313_011328_01132A_011330,
    0x011332_011333_011335_011339_01133C_011344_011347_011348_01134B_01134D_011357_011357,
    0x01135D_011363_011366_01136C_011370_011374_011480_0114C7_0114D0_0114D9_011580_0115B5,
    0x0115B8_0115C9_011600_011644_011650_011659_0118A0_0118F2_0118FF_0118FF_011AC0_011AF8,
    0x01236F_012398_012463_01246E_012474_012474_016A40_016A5E_016A60_016A69_016A6E_016A6F,
    0x016AD0_016AED_016AF0_016AF5_016B00_016B45_016B50_016B59_016B5B_016B61_016B63_016B77,
    0x016B7D_016B8F_01BC00_01BC6A_01BC70_01BC7C_01BC80_01BC88_01BC90_01BC99_01BC9C_01BCA3,
    0x01E800_01E8C4_01E8C7_01E8D6_01F0BF_01F0BF_01F0E0_01F0F5_01F10B_01F10C_01F321_01F32C,
    0x01F336_01F336_01F37D_01F37D_01F394_01F39F_01F3C5_01F3C5_01F3CB_01F3CE_01F3D4_01F3DF,
    0x01F3F1_01F3F7_01F43F_01F43F_01F441_01F441_01F4F8_01F4F8_01F4FD_01F4FE_01F53E_01F53F,
    0x01F544_01F54A_01F568_01F579_01F57B_01F5A3_01F5A5_01F5FA_01F641_01F642_01F650_01F67F,
    0x01F6C6_01F6CF_01F6E0_01F6EC_01F6F0_01F6F3_01F780_01F7D4_01F800_01F80B_01F810_01F847,
    0x01F850_01F859_01F860_01F887_01F890_01F8AD]

def v8_0 : Edition where
  major := 8
  minor := 0
  added := [
    0x0008B3_0008B4_0008E3_0008E3_000AF9_000AF9_000C5A_000C5A_000D5F_000D5F_0013F5_0013F5,
    0x0013F8_0013FD_0020BE_0020BE_00218A_00218B_002BEC_002BEF_009FCD_009FD5_00A69E_00A69E,
    0x00A78F_00A78F_00A7B2_00A7B7_00A8FC_00A8FD_00AB60_00AB63_00AB70_00ABBF_00FE2E_00FE2F,
    0x0108E0_0108F2_0108F4_0108F5_0108FB_0108FF_0109BC_0109BD_0109C0_0109CF_0109D2_0109FF,
    0x010C80_010CB2_010CC0_010CF2_010CFA_010CFF_0111C9_0111CC_0111DB_0111DF_011280_011286,
    0x011288_011288_01128A_01128D_01128F_01129D_01129F_0112A9_011300_011300_011350_011350,
    0x0115CA_0115DD_011700_011719_01171D_01172B_011730_01173F_012399_012399_012480_012543,
    0x014400_014646_01D1DE_01D1E8_01D800_01DA8B_01DA9B_01DA9F_01DAA1_01DAAF_01F32D_01F32F,
    0x01F37E_01F37F_01F3CF_01F3D3_01F3F8_01F3FF_01F4FF_01F4FF_01F54B_01F54F_01F643_01F644,
    0x01F6D0_01F6D0_01F910_01F918_01F980_01F984_01F9C0_01F9C0_02B820_02CEA1]

def v9_0 : Edition where
  major := 9
  minor := 0
  added := [
    0x0008B6_0008BD_0008D4_0008E2_000C80_000C80_000D4F_000D4F_000D54_000D56_000D58_000D5E,
    0x000D76_000D78_001C80_001C88_001DFB_001DFB_0023FB_0023FE_002E43_002E44_00A7AE_00A7AE,
    0x00A8C5_00A8C5_01018D_01018E_0104B0_0104D3_0104D8_0104FB_01123E_01123E_011400_011459,
    0x01145B_01145B_01145D_01145D_011660_01166C_011C00_011C08_011C0A_011C36_011C38_011C45,
    0x011C50_011C6C_011C70_011C8F_011C92_011CA7_011CA9_011CB6_016FE0_016FE0_017000_0187EC,
    0x018800_018AF2_01E000_01E006_01E008_01E018_01E01B_01E021_01E023_01E024_01E026_01E02A,
    0x01E900_01E94A_01E950_01E959_01E95E_01E95F_01F19B_01F1AC_01F23B_01F23B_01F57A_01F57A,
    0x01F5A4_01F5A4_01F6D1_01F6D2_01F6F4_01F6F6_01F919_01F91E_01F920_01F927_01F930_01F930,
    0x01F933_01F93E_01F940_01F94B_01F950_01F95E_01F985_01F991]

def v10_0 : Edition where
  major := 10
  minor := 0
  added := [
    0x000860_00086A_0009FC_0009FD_000AFA_000AFF_000D00_000D00_000D3B_000D3C_001CF7_001CF7,
    0x001DF6_001DF9_0020BF_0020BF_0023FF_0023FF_002BD2_002BD2_002E45_002E49_00312E_00312E,
    0x009FD6_009FEA_01032D_01032F_011A00_011A47_011A50_011A83_011A86_011A9C_011A9E_011AA2,
    0x011D00_011D06_011D08_011D09_011D0B_011D36_011D3A_011D3A_011D3C_011D3D_011D3F_011D47,
    0x011D50_011D59_016FE1_016FE1_01B002_01B11E_01B170_01B2FB_01F260_01F265_01F6D3_01F6D4,
    0x01F6F7_01F6F8_01F900_01F90B_01F91F_01F91F_01F928_01F92F_01F931_01F932_01F94C_01F94C,
    0x01F95F_01F96B_01F992_01F997_01F9D0_01F9E6_02CEB0_02EBE0]

def v11_0 : Edition where
  major := 11
  minor := 0
  added := [
    0x000560_000560_000588_000588_0005EF_0005EF_0007FD_0007FF_0008D3_0008D3_0009FE_0009FE,
    0x000A76_000A76_000C04_000C04_000C84_000C84_001878_001878_001C90_001CBA_001CBD_001CBF,
    0x002BBA_002BBC_002BD3_002BEB_002BF0_002BFE_002E4A_002E4E_00312F_00312F_009FEB_009FEF,
    0x00A7AF_00A7AF_00A7B8_00A7B9_00A8FE_00A8FF_010A34_010A35_010A48_010A48_010D00_010D27,
    0x010D30_010D39_010F00_010F27_010F30_010F59_0110CD_0110CD_011144_011146_01133B_01133B,
    0x01145E_01145E_01171A_01171A_011800_01183B_011A9D_011A9D_011D60_011D65_011D67_011D68,
    0x011D6A_011D8E_011D90_011D91_011D93_011D98_011DA0_011DA9_011EE0_011EF8_016E40_016E9A,
    0x0187ED_0187F1_01D2E0_01D2F3_01D372_01D378_01EC71_01ECB4_01F12F_01F12F_01F6F9_01F6F9,
    0x01F7D5_01F7D8_01F94D_01F94F_01F96C_01F970_01F973_01F976_01F97A_01F97A_01F97C_01F97F,
    0x01F998_01F9A2_01F9B0_01F9B9_01F9C1_01F9C2_01F9E7_01F9FF_01FA60_01FA6D]

def v12_0 : Edition where
  major := 12
  minor := 0
  added := [
    0x000C77_000C77_000E86_000E86_000E89_000E89_000E8C_000E8C_000E8E_000E93_000E98_000E98,
    0x000EA0_000EA0_000EA8_000EA9_000EAC_000EAC_000EBA_000EBA_001CFA_001CFA_002BC9_002BC9,
    0x002BFF_002BFF_002E4F_002E4F_00A7BA_00A7BF_00A7C2_00A7C6_00AB66_00AB67_010FE0_010FF6,
    0x01145F_01145F_0116B8_0116B8_0119A0_0119A7_0119AA_0119D7_0119DA_0119E4_011A84_011A85,
    0x011FC0_011FF1_011FFF_011FFF_013430_013438_016F45_016F4A_016F4F_016F4F_016F7F_016F87,
    0x016FE2_016FE3_0187F2_0187F7_01B150_01B152_01B164_01B167_01E100_01E12C_01E130_01E13D,
    0x01E140_01E149_01E14E_01E14F_01E2C0_01E2F9_01E2FF_01E2FF_01E94B_01E94B_01ED01_01ED3D,
    0x01F16C_01F16C_01F6D5_01F6D5_01F6FA_01F6FA_01F7E0_01F7EB_01F90D_01F90F_01F93F_01F93F,
    0x01F971_01F971_01F97B_01F97B_01F9A5_01F9AA_01F9AE_01F9AF_01F9BA_01F9BF_01F9C3_01F9CA,
    0x01F9CD_01F9CF_01FA00_01FA53_01FA70_01FA73_01FA78_01FA7A_01FA80_01FA82_01FA90_01FA95]

def v12_1 : Edition where
  major := 12
  minor := 1
  added := [
    0x0032FF_0032FF]

def v13_0 : Edition where
  major := 13
  minor := 0
  added := [
    0x0008BE_0008C7_000B55_000B55_000D04_000D04_000D81_000D81_001ABF_001AC0_002B97_002B97,
    0x002E50_002E52_0031BB_0031BF_004DB6_004DBF_009FF0_009FFC_00A7C7_00A7CA_00A7F5_00A7F6,
    0x00A82C_00A82C_00AB68_00AB6B_01019C_01019C_010E80_010EA9_010EAB_010EAD_010EB0_010EB1,
    0x010FB0_010FCB_011147_011147_0111CE_0111CF_01145A_01145A_011460_011461_011900_011906,
    0x011909_011909_01190C_011913_011915_011916_011918_011935_011937_011938_01193B_011946,
    0x011950_011959_011FB0_011FB0_016FE4_016FE4_016FF0_016FF1_018AF3_018CD5_018D00_018D08,
    0x01F10D_01F10F_01F16D_01F16F_01F1AD_01F1AD_01F6D6_01F6D7_01F6FB_01F6FC_01F8B0_01F8B1,
    0x01F90C_01F90C_01F972_01F972_01F977_01F978_01F9A3_01F9A4_01F9AB_01F9AD_01F9CB_01F9CB,
    0x01FA74_01FA74_01FA83_01FA86_01FA96_01FAA8_01FAB0_01FAB6_01FAC0_01FAC2_01FAD0_01FAD6,
    0x01FB00_01FB92_01FB94_01FBCA_01FBF0_01FBF9_02A6D7_02A6DD_030000_03134A]

def v14_0 : Edition where
  major := 14
  minor := 0
  added := [
    0x00061D_00061D_000870_00088E_000890_000891_000898_00089F_0008B5_0008B5_0008C8_0008D2,
    0x000C3C_000C3C_000C5D_000C5D_000CDD_000CDD_00170D_00170D_001715_001715_00171F_00171F,
    0x00180F_00180F_001AC1_001ACE_001B4C_001B4C_001B7D_001B7E_001DFA_001DFA_0020C0_0020C0,
    0x002C2F_002C2F_002C5F_002C5F_002E53_002E5D_009FFD_009FFF_00A7C0_00A7C1_00A7D0_00A7D1,
    0x00A7D3_00A7D3_00A7D5_00A7D9_00A7F2_00A7F4_00FBC2_00FBC2_00FD40_00FD4F_00FDCF_00FDCF,
    0x00FDFE_00FDFF_010570_01057A_01057C_01058A_01058C_010592_010594_010595_010597_0105A1,
    0x0105A3_0105B1_0105B3_0105B9_0105BB_0105BC_010780_010785_010787_0107B0_0107B2_0107BA,
    0x010F70_010F89_011070_011075_0110C2_0110C2_0116B9_0116B9_011740_011746_011AB0_011ABF,
    0x012F90_012FF2_016A70_016ABE_016AC0_016AC9_01AFF0_01AFF3_01AFF5_01AFFB_01AFFD_01AFFE,
    0x01B11F_01B122_01CF00_01CF2D_01CF30_01CF46_01CF50_01CFC3_01D1E9_01D1EA_01DF00_01DF1E,
    0x01E290_01E2AE_01E7E0_01E7E6_01E7E8_01E7EB_01E7ED_01E7EE_01E7F0_01E7FE_01F6DD_01F6DF,
    0x01F7F0_01F7F0_01F979_01F979_01F9CC_01F9CC_01FA7B_01FA7C_01FAA9_01FAAC_01FAB7_01FABA,
    0x01FAC3_01FAC5_01FAD7_01FAD9_01FAE0_01FAE7_01FAF0_01FAF6_02A6DE_02A6DF_02B735_02B738]

def v15_0 : Edition where
  major := 15
  minor := 0
  added := [
    0x000CF3_000CF3_000ECE_000ECE_010EFD_010EFF_01123F_011241_011B00_011B09_011F00_011F10,
    0x011F12_011F3A_011F3E_011F59_01342F_01342F_013439_013455_01B132_01B132_01B155_01B155,
    0x01D2C0_01D2D3_01DF25_01DF2A_01E030_01E06D_01E08F_01E08F_01E4D0_01E4F9_01F6DC_01F6DC,
    0x01F774_01F776_01F77B_01F77F_01F7D9_01F7D9_01FA75_01FA77_01FA87_01FA88_01FAAD_01FAAF,
    0x01FABB_01FABD_01FABF_01FABF_01FACE_01FACF_01FADA_01FADB_01FAE8_01FAE8_01FAF7_01FAF8,
    0x02B739_02B739_031350_0323AF]

def v15_1 : Edition where
  major := 15
  minor := 1
  added := [
    0x002FFC_002FFF_0031EF_0031EF_02EBF0_02EE5D]

def v16_0 : Edition where
  major := 16
  minor := 0
  added := [
    0x000897_000897_001B4E_001B4F_001B7F_001B7F_001C89_001C8A_002427_002429_0031E4_0031E5,
    0x00A7CB_00A7CD_00A7DA_00A7DC_0105C0_0105F3_010D40_010D65_010D69_010D85_010D8E_010D8F,
    0x010EC2_010EC4_010EFC_010EFC_011380_011389_01138B_01138B_01138E_01138E_011390_0113B5,
    0x0113B7_0113C0_0113C2_0113C2_0113C5_0113C5_0113C7_0113CA_0113CC_0113D5_0113D7_0113D8,
    0x0113E1_0113E2_0116D0_0116E3_011BC0_011BE1_011BF0_011BF9_011F5A_011F5A_013460_0143FA,
    0x016100_016139_016D40_016D79_018CFF_018CFF_01CC00_01CCF9_01CD00_01CEB3_01E5D0_01E5FA,
    0x01E5FF_01E5FF_01F8B2_01F8BB_01F8C0_01F8C1_01FA89_01FA89_01FA8F_01FA8F_01FABE_01FABE,
    0x01FAC6_01FAC6_01FADC_01FADC_01FADF_01FADF_01FAE9_01FAE9_01FBCB_01FBEF]

/-- All editions in order. -/
def table : List Edition := [
  v1_1, v2_0, v2_1, v3_0, v3_1, v3_2, v4_0, v4_1, v5_0, v5_1, v5_2, v6_0, v6_1, v6_2, v6_3, v7_0,
  v8_0, v9_0, v10_0, v11_0, v12_0, v12_1, v13_0, v14_0, v15_0, v15_1, v16_0]

/-- An edition is called by its number, `6.1`, or by a symbol, `v61`. -/
def isCalled (e : Edition) (name : String) : Bool :=
  name == s!"{e.major}.{e.minor}" || name == s!"v{e.major}{e.minor}"

/-- The editions up to the one of this name, if there is one. -/
def upTo? (name : String) : List Edition → Option (List Edition)
  | [] => none
  | e :: rest => if e.isCalled name then some [e] else (upTo? name rest).map (e :: ·)

end Edition

/-- The characters that are at least as old as the named edition. -/
def age? (name : String) : Option CharSet :=
  (Edition.upTo? name Edition.table).map fun editions =>
    .unionAll (editions.map fun e => .ofPacked e.added)

end Construe.Unicode
