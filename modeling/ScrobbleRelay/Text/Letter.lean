import ScrobbleRelay.Text.Packed

/-!
# Letters and numbers

A letter is a character with the property `Alphabetic`.  A number is one whose general category is
that of digits, of letters that stand for numbers, or of other numbers.
-/

namespace ScrobbleRelay.Text

/-- The letters, with the value one, and the numbers that are no letters, with the value two,
packed. -/
def packedLetters : List String :=
  [ "bWKCHbABGbABbVBBHCCBBBDBCABBBDCBXBBbFBBrQBEMBOFBHBBBBBdIBBbQFBBCBCEBBBBGBBBDBBBBBUBBdFBB",
    "fJBIgKBBbMBCBBGbPBbNOBBBBBCBBCBBBBIbBBEEBbDLBFcEBBHBAKCEdYBBIBEIBEDBAKCADBCBBQbWBNdXBOKC",
    "AbHBJCBEBBFYBCTBTZBHLBFYBBHBHBBIbQBKMBDHBGcYBBQBBDBEPBCKCBTBBIBCCBCWBBHBBBBDEBDIBCCBCCBB",
    "BBIBBECBBFBCKCACBCGCCBBEDBBGBECBCWBBHBBCBBCBBCBEFBECBCCBEBBHEBBBBHKCAGBLDBBJBBDBBWBBHBBC",
    "BBFBDJBBDBBCBDBBPEBCKCJEBEDBBIBCCBCWBBHBBCBBFBDIBCCBCCBJCBECBBFBCKCBBBAGCKCBBGBDDBBEBDCB",
    "BBBBCBDCBDDBDMBEFBDDBBDBDBBGBBONCNNBBDBBXBBQBDIBBDBBDBICBBDBBCBCEBCKCIHCBEBBIBBDBBXBBKBB",
    "FBDIBBDBBDBICBFDBBEBCKCBDBMNBBDBBbPBCIBBDBBDBBBBFEBAHCAFBCTCBGBBDBBSBDYBBJBBBBCHBIGBBBBB",
    "IBGKCCCBNcGBFHBGBBCKCbNCBBBBBFBBYBBBBBTBBDBCFBBBBGBBCKCCEBbGBBbFUCMIBBbKBETBEQBBbKBcPcDB",
    "BBBCFBAKCGcMBAKCAEBCbMBBBBFBBCbRBBmVBBEBCHBBBBBEBCbPBBEBCbHBBEBCHBBBBBEBCPBBcFBBEBCcPBOU",
    "CDQBQdIBCGBDxWBCRBBbABFcXBDLBHUBLVBMUBMNBBDBBCBMcABCTBOBBEBBDKCGKCWKCGdLBHbRBFcSBKbFBBMB",
    "EJBNKCAbEBCFBLbSBEbABGLCbLbCBEcLBCUBLKCGKCNBBXCBLDBbXcABBPBBIBDKCbMbQBCEBAKCAbSBBLBOcDBJ",
    "KCDDBAKCAbKBCLBFbRBCDBbPEBBGBBCBDBBFhKBbNOBLkSBCGBCbMBCGBCIBBBBBBBBBBBbFBCcBBBHBBBBDDBBH",
    "BDEBCGBENBFDBBHBeLBCABBCGCFBBAKCGNBdXBBEBBCKBBBBDFBGBBBBBBBBBEBBLBCEBFFBEBBBQCAbPBABCbbY",
    "cICbAcABAWCyGbECbrOiVBGEBDCBJBCCbMBBBBFBBCcEBHBBQXBJHBBHBBHBBHBBHBBHBBHBBHBBbGBbVBBsBDBZ",
    "JBHFBCFBEdIBGDBBdMBBEBFbRBBdQBDECKbGBbWQBbGKCbEICBPCbGKCbNPCmIjtOBcMbguFBcPbUBCkJBDQBAKC",
    "ACBUbVBFIBDeJBbNJBCdZBCdEBUVBBbHBIGCKcABMcQBBBBKKCYGBDBBBDBAKCAbHBFbJBNbDBDbZBBMBPBBAKCG",
    "QBAKCAFBBcDBJOBCKCGXBDcRBBBBBBBYDBCQBCEBLGBCGBCGBJHBBHBBbRBBOBGeTBFKCGqnSBMXBEbXBmnCoCBC",
    "eCBbMHBMFBFMBBNBBFBBBBBCBBCBBeEBbHnZBScMBCcCBbOMBeMFBBfFBTKCHbABGbABLdLBDGBCGBCGBCDBbJMB",
    "BbABBTBBCBBPBCOBbIeTBMbTCMcBBAECRCCjKbDBDbXBQbBCEbGBAECJbEBFbRBFbEBCbKBEIBBFBbQgCBCKCGbK",
    "BEbKBEbOBIcABMLBBPBBHBBCBBLBBPBBHBBCBDcABMlZBJWBKIBYGBBbQBBJBcRGBCBBBbSBBCBDBBCXBCICAXBC",
    "HCAbFBIJCbWTBBCBFFCAWBAGCEbABGbABbMcEBECCACBAQCCbUCAEBBCBFIBBDBBbDBKJCXbDBACCBbDBADCbGIB",
    "BbCBGFCQcCBKWBCICATBFICASBXHCdCcVBcDbZBNbZBHGCAbOBIKCGKCAbCBDBBFXBiKbFCBbQBBCBDCBQGBbYDB",
    "DbDBAKCABBIWBLECbBSBbUVBAHCUXBJcSBMbECBFBKcFBJBBNZBHKCGbZBDKCEEBIbJBDBBJcMBBEBJCBAKCABBB",
    "BBEUCLSBBbIBCBBGEBcKHBBBBBEBBPBBKBHcFBHKCGEBBIBCCBCWBBHBBCBBFBDIBCCBCCBDBBGBBFHBbCKBBBBC",
    "BBBbMBBKBBBBCBBBEBBCBDBBBBBbScOBBDBBEBFKCFDBbEcOBCCBBBBIKCgKcCBCHBZGBbIcLBBBBDBBLKCbMcCB",
    "CBBHKCGUCbCbBBCOBFMCEHBhDcFBdZcMBATCMIBCBBCIBBCBBbEBBCBCCBCEBNKCcSIBCbUBCGBBBBBCBbBbZBCK",
    "BRcUBFBBScVBdZIBdKbHBPKCGJBBbTBBHBBBBPbDCFbEBCWBBOBcVHBBCBBbSBDBBBCBBDBBBBCCBIKCGGBBCBB",
    "bLBBCBBEBBBBHKCGbSBEKCjMXBJRBBbPBDDBPKCdIBBPVCbRbjMBdYeHBRhOBdxKdTBPbpGBRGBZfxRBFwLBkdD",
    "bVBBKCcoSvXBHbFBBKCGdBBBKCGbEBSbWBQEBMKCBHCBVBFTBqQbTBDKChQcMBAXCJZBCZBbScXBEcFBHRBcMCBB",
    "BBMHBJkxYBbPbGBdTeLBmwREBBHBBCBBlFBPBBbDDBCBBOEBIpGBdkUeDBFNBDJBHKBEBBgeRKCceWUCMUCeEZC",
    "fFdHBBcTBBCBCBBCCBCEBBMBBBBBHBBcNBBEBCIBBHBBbCBBEBBFBBBBDHBBnCBCZBBZBBbFBBZBBbFBBZBBbFBB",
    "ZBBbFBBZBBIBCbYCcqYbFBGGBiFHBBRBCHBBCBBFBFcKBbHBBeIbTBKHBCKCEBBmJbEBSbSBEKCsCbCBEKCiGbEB",
    "CBBAKChPbFBBWBIBBiRHBBEBBCBBPBBhPBCJCbWcQBDBBDBBEKCbeLcHCBDCBECcYbTCBPChMEBBbBBBCBBBBCBB",
    "BKBBEBBBBBBBGBBEBBBBBBBBBDBBCBBBBCBBBBBBBBBBBBBBBCBBBBCEBBHBBEBBEBBBBBKBBRBFDBBFBBRBwINC",
    "bJbABGbABGbABdyKKCbnQclfCBbGgmOBCioCBClbLBPxYBdqWuWBcfYhhZBFmoOB" ]

def letterTable : List Packed.Range := Packed.ranges packedLetters

def isLetter (c : Char) : Bool := Packed.valueOf letterTable c.toNat == 1

def isLetterOrNumber (c : Char) : Bool := Packed.valueOf letterTable c.toNat != 0

end ScrobbleRelay.Text
