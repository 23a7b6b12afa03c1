import Construe.Unicode.Binary

/-! # Characters of the newest edition

Names and quoted text follow Unicode 17, patterns Unicode 16. Here are the characters that the
newer edition adds, and the properties by which names and quoting look at a character. -/
namespace Construe.Unicode.Newest

/-- Characters that edition 17 adds. -/
def added : CharSet := .ofPacked [
  0x00088F_00088F_000C5C_000C5C_000CDC_000CDC_001ACF_001ADD_001AE0_001AEB_0020C1_0020C1,
  0x002B96_002B96_00A7CE_00A7CF_00A7D2_00A7D2_00A7D4_00A7D4_00A7F1_00A7F1_00FBC3_00FBD2,
  0x00FD90_00FD91_00FDC8_00FDCE_010940_010959_010EC5_010EC7_010ED0_010ED8_010EFA_010EFB,
  0x011B60_011B67_011DB0_011DDB_011DE0_011DE9_016EA0_016EB8_016EBB_016ED3_016FF2_016FF6,
  0x0187F8_0187FF_018D09_018D1E_018D80_018DF2_01CCFA_01CCFC_01CEBA_01CED0_01CEE0_01CEF0,
  0x01E6C0_01E6DE_01E6E0_01E6F5_01E6FE_01E6FF_01F6D8_01F6D8_01F777_01F77A_01F8D0_01F8D8,
  0x01FA54_01FA57_01FA8A_01FA8A_01FA8E_01FA8E_01FAC8_01FAC8_01FACD_01FACD_01FAEA_01FAEA,
  0x01FAEF_01FAEF_01FBFA_01FBFA_02B73A_02B73F_02CEA2_02CEAD_0323B0_033479]

/-- Added characters that attach to the one before them. -/
def addedExtend : CharSet := .ofPacked [
  0x001ACF_001ADD_001AE0_001AEB_010EFA_010EFB_011B60_011B60_011B62_011B64_011B66_011B66,
  0x01E6E3_01E6E3_01E6E6_01E6E6_01E6EE_01E6EF_01E6F5_01E6F5]

/-- Added characters that are alphabetic. -/
def addedAlphabetic : CharSet := .ofPacked [
  0x00088F_00088F_000C5C_000C5C_000CDC_000CDC_00A7CE_00A7CF_00A7D2_00A7D2_00A7D4_00A7D4,
  0x00A7F1_00A7F1_010940_010959_010EC5_010EC7_010EFA_010EFB_011B60_011B67_011DB0_011DDB,
  0x016EA0_016EB8_016EBB_016ED3_016FF2_016FF6_0187F8_0187FF_018D09_018D1E_018D80_018DF2,
  0x01E6C0_01E6DE_01E6E0_01E6F5_01E6FE_01E6FF_02B73A_02B73F_02CEA2_02CEAD_0323B0_033479]

/-- Added characters that are numbers. -/
def addedNumber : CharSet := .ofPacked [
  0x011DE0_011DE9_016FF4_016FF6]

def isAlphabetic (c : Char) : Bool := Binary.alphabetic.contains c || addedAlphabetic.contains c

def isNumber (c : Char) : Bool := Category.number.contains c || addedNumber.contains c

/-- Characters that attach to the one before them. The half-width voicing marks, which take a
place of their own, do not count. -/
def isAttached (c : Char) : Bool :=
  (Binary.graphemeExtend.contains c || addedExtend.contains c)
    && !(CharSet.ofPacked [0x00FF9E_00FF9F]).contains c

/-- Characters that show nothing of their own: controls, unassigned and private ones, separators
other than the space, fillers, and those that attach to the one before them. -/
def isHidden (c : Char) : Bool :=
  Category.other.contains c && !added.contains c
    || Category.separator.contains c && c != ' '
    || Binary.defaultIgnorableCodePoint.contains c || isAttached c

end Construe.Unicode.Newest
