import ScrobbleRelay.Text.Packed

/-!
# Labels and the direction of writing

If a name holds letters that are written from right to left, each of its labels has to read the same
wherever it is shown: it begins with a letter, holds no letter of the other direction, ends with a
letter or a number, apart from marks, and mixes no two kinds of digits.
-/

namespace ScrobbleRelay.Web.Domain

/-- How a character takes part in the order of writing. -/
inductive Direction
  | leftToRight
  | rightToLeft
  | arabicLetter
  | arabicNumber
  | europeanNumber
  | numberSign
  | numberSeparator
  | numberFrame
  | neutral
  | boundary
  | mark
  | other
  deriving Repr, DecidableEq

/-- The directions in the order of their numbers in the table. -/
def Direction.all : List Direction :=
  [.leftToRight, .rightToLeft, .arabicLetter, .arabicNumber, .europeanNumber, .numberSign,
    .numberSeparator, .numberFrame, .neutral, .boundary, .mark, .other]

/-- The directions of the characters of names, packed. -/
def packedDirections : List String :=
  [ "AJJAFLAOJAFLACIADHAFIABFABGABFACGAKEABGAbMIbAEIABJbHBIAEHAJIBCHEbIIbFBIrHCIHOICbCIBRIAeI",
    "KFBIeYBIfKHKjWFIABHBbTKABBABKABBACKABBACKABBABKIbLBRCIABCACHABCABGABCACIALKAbWCAVKAKDABH",
    "ACDADCABKAdXCAHKBBIAGKACCACKABIAEKACCAKEAXCABKAbECAbBKCdLCALKABCObRBAJKACBAEIABBCBKAYBAE",
    "KABBAJKABBADKABBAFKCbPBADKCBBBbWCHJKAbQCAcFKcDBKBBKEIKEBKDHKKCKbDBKcGBKEEKIBKUCKOCHHBHCF",
    "KcFBKERKbECKDBKLCKcFBKEIKEBKUCKNBHIIKcGBKCBKBEKIKKLCKbEBKcJBKMBKbLGIABHABIFBKDBKcDBKBDKF",
    "RKLCKUHICBKcGBKPCKUCKbCCKcFCKEEKIBKUCKbDBKcUBKHFKdMBKCHKEBHHIKdUBKCJKLHKcVCKbBBKBBKBBKAE",
    "IbZOKBFKBCKFbWKJBKdYEKBGKBCKCCKZCKEDKQEKNBKCCKGBKPBKbbBDKbWKIdYBIzQCIeNDKbDCKbECKbECKcPH",
    "KIBKCLKHBHBBKSbBIeSCKbIBKeODKECKJBKGDKEGIfWbIIXCKCBKcGBKBJKBBKCIKGNKbWdGKbWBKBFKBBKFBKbO",
    "JKMCKbGEKCCKBDKcEBKBCKDBKBDKcGIKCCKfWDKBNKBHKEBKGBKDCKhQcMKuECJCYIIDHCPIABGAbAIcNbIHObHK",
    "TbMIEBHLUIcIfGIABFABHAlEIcRbAIBbeKIBnBIjWbdOIiVGIEDKHHIeXBKdSbGKAtXIDZIJEKCBIGBIFDIdLCKF",
    "BIdMBIhObMIkoGcMIbguIcDImODIdREKABIAKKACIbECKdCCKObIIdYBIeRBKDBKEBKZCKBEIABKLCHcGEIcYCK",
    "bASKNBKbMIKZLKbUDKbWBKCEKCCKbNBKcPGKCCKCCKMBKIBKbVBKbZBKBDKCCKFCKBBKbQCKIBKeLCIeRBKCBKEB",
    "KbdzSBKfRRCAwBIbGQKVCIbSBCzDBIcKcZIDRIdOBKiSBKAbBEeSFKbsNkYBDBIAiRBAPKAbMBCIKAgJBACKEcXB",
    "DHIArGBAbKCAEKIbADAGBZFKABIAbHBiAbFDBbQBBCKAFBQGCIJIbHGKAbOBIWCALKAJCWSBAEKAeJBKBKcCPKLU",
    "IKBKCCKKDKbXEKCCKHBKcJDKbKFKBIKcKBKMCKcAJKKEKCBKdRDKCBKBCKGBKCBKgBBKDIKVCKcFCKDBKbLPKcSG",
    "KNBKBBKBBKOCKdHIKCDKBBKXBKdGGKBBKECKBCKjEEKGCKBCKbBCKdHIKCBKBCKbFNIcKBKBBKCGKBBKdXDKCEKB",
    "FKjZJKBCKjWCKBBKEBKfOIKEBKbGGKCCKbOGKCEKIBKJGKCDKbUNKBCKhQBKBDKBBKhTOKdGWKCHKBCKBCKeSVKB",
    "BKcUCKDBKBBKnJCKLCKcAFKFBKBBKXBKeSIIAEHARIhrYBKGPKqyYMKDDKdsAFKcHHKboIBKcLEKdBBIBBKbdbKC",
    "KfvLbcZIPcTKuYDKRIKCHKbEEKcHdLIADKABIhEdJIcnPcDKEbYKIBKOBKWVKcaIfOKgEHKoLBKcJEKPBHsYEKjU",
    "CKjJBKCBKHCKFBKkGiABAHKcXbIBAHKAVBbeFhXCqSwEIcJDIcJBIgWdqPI" ]

def directionTable : List Text.Packed.Range := Text.Packed.ranges packedDirections

def directionOf (c : Char) : Direction :=
  Direction.all.getD (Text.Packed.valueOf directionTable c.toNat) .other

/-- Whether a character makes a name one with letters from right to left. -/
def Direction.isRightToLeft (d : Direction) : Bool :=
  d = .rightToLeft || d = .arabicLetter || d = .arabicNumber

/-- Whether a direction may occur in labels of either kind. -/
def Direction.isCommon (d : Direction) : Bool :=
  match d with
  | europeanNumber | numberSign | numberSeparator | numberFrame | neutral | boundary | mark => true
  | _ => false

/-- Whether the directions of a label, the marks at its end left out, make a label of letters from
left to right. -/
def isLeftToRightLabel (ds : List Direction) : Bool :=
  ds.all (fun d => d = .leftToRight || d.isCommon) &&
    (ds.getLast?.any fun d => d = .leftToRight || d = .europeanNumber)

/-- Whether the directions of a label, the marks at its end left out, make a label of letters from
right to left. -/
def isRightToLeftLabel (ds : List Direction) : Bool :=
  ds.all (fun d => d.isRightToLeft || d.isCommon) &&
    (ds.getLast?.any fun d => d.isRightToLeft || d = .europeanNumber) &&
    !(ds.contains .europeanNumber && ds.contains .arabicNumber)

/-- Whether a label reads the same wherever it is shown; an empty one does. -/
def readsAlike (label : List Char) : Bool :=
  let ds := label.map directionOf
  let ds := (ds.reverse.dropWhile (· = .mark)).reverse
  match label.head?.map directionOf with
  | none => true
  | some .leftToRight => isLeftToRightLabel ds
  | some .rightToLeft => isRightToLeftLabel ds
  | some .arabicLetter => isRightToLeftLabel ds
  | some _ => false

/-- Whether the labels of a name agree with the order of writing. -/
def agreesWithOrder (labels : List (List Char)) : Bool :=
  if labels.any (fun label => label.any fun c => (directionOf c).isRightToLeft) then
    labels.all readsAlike
  else true

end ScrobbleRelay.Web.Domain
