import ScrobbleRelay.Text.Composition
import ScrobbleRelay.Web.Domain.Direction
import ScrobbleRelay.Web.Domain.Mapping
import ScrobbleRelay.Web.Domain.Punycode

/-!
# The labels of host names

A name is mapped, composed and cut into labels at its dots.  Each label has to be sound: it begins
with no mark, and joiners stand in it only where they change how letters join.  A label that is
given in its ASCII form has to be the form of a sound label beyond ASCII.  `asciiName?` writes all
labels in their ASCII forms.
-/

namespace ScrobbleRelay.Web.Domain

open Text (composed combiningClass)

/-! ### Tables -/

/-- The marks, packed: gaps and lengths of ranges. -/
def packedMarks : List String :=
  [ "bdOeIkPHkDbTBBBCBCBBcULbWVQBdXHCGCCBEbJBbEbBdNLcGJJBYEBJBDBFbRDcHJbQcGcCDBSBHKCbDDcEBBQJ",
    "BKCbAGcEWbECDBLDcEBBQUCWKcEBBbAKCbEBcHQJBbOFcDBBZLCbDDcEBBZLCPRcDCBQJBKCbDDcSWSCcJBCHMI",
    "dUBCJLHcVCbBBBBBBECbXUBCFbWJBdWUXEEDBDCHDENMBBKEbbBDbkKEbCDbDCbECcObEJBgLCbIBeObCiLFcFbR",
    "bWdHbVRbMJMDbENcEObWUfWDBVEBGBCDhQcMbbSbHeoCDfLBdSbGvIGeBCbsqEEBKbGCdCCkMBDBEBXFEBdFCbYS",
    "bASNBbMIZNbSEbVObKBcPOMBICbTDbYBBDCCFCBBbPFFCjCIBCbdzSBbdPQblLBiSBfTFcmGPbOIgJCwBEcNFmFC",
    "cZGcSLbXEeSDcBPbPBCCKEbTLHBcJDbKOQCbSBMDbWOIEBCdOMGBCBgBMVEcDCBQJBKTcPZBBOCdESXBdDUjBSbB",
    "CdEReCNdXPjWPjLPBBBCfLQDBbCKbOHBEIBJLbUQhQIhRRdEbLeSVBBcOOnJEJCBBbWPXBhxTBGPqyYSdsAFcHH",
    "boIBBcOdDObdaXCgyZcTuWFDWCHbEEfSDcyDcDEbYIBOBWVcaIfOgEHoLBcJEtOEjUCjJBCBHCFBsGHeFH" ]

/-- How the letters join that do, and what lies between them unseen, packed. -/
def packedJoining : List String :=
  [ "bdOeIBkPHBkDbTBBBBBCBBCBBBBcULBFBEBEDABEABDABEABDAFEAEDANEBHEABDACEAVBOCEABBADDFPEASDAbM",
    "EABDACEAJDABEABDABEABDACEACDBBDAHBCGBCCBBEBACDKDECBEQBDABBADEAFDAEEABDAJEABDABEABDABEABD",
    "ACEABDAbBBCBDALEADDAPEACDAEEABDABEACDADEACDAGEbMLBZbHEAJBJBBYEBBJBBDBBFBSBDAFEACDABEABDA",
    "KEABDABEADDADBEBEBEEBBDABEAbADDBECFEABDABEHJBAKEADDBBDACEACDAGEABDAPEBcFBcDBBBBBEIBEBBDH",
    "BKCBbDBBcGBBEEBIBBUCBbAFBcFBBERBbECBDBBLCBcFBBEIBEBBUCBWIBcGBBCBBBEBIKBLCBbEBBcJBBMBBbYB",
    "BDBBcDBBBDBFRBLCBbDBBcGBBCBBGBBFCBUCBbCCBcFCBEEBIBBUCBbDBBcUBBHFBdMBBCHBMIBdUBBCJBLHBcVC",
    "BbBBBBBBBBBcDOBBFBBCBFbWBJBBdYEBBGBBCBCCBZCBEDBQEBNBBCCBGBBPBBbbBDBbkKDBbDCBbECBbECBcPHB",
    "IBBCLBJBBbPBEYdLEMCBAbIEABBABEeNDBECBJBBGDBiLCBCBBcGBBBJBBBBCIBGNBbWdGBbWBBBFBBBBFBBbOJB",
    "MCBbGEBCCBBDBcEBBBCBDBBBDBcGIBCCBfWDBBNBBHBEBBGBBDCBhQcMBbbSbHBeoCDBfLBBdSbGBvIEBeDCB",
    "bsqEEBBKBbGCBdCCBkMBBDBBEBBZCBFBBTbYEABCdDCBbASBNBBbMIBZLBbUDBbWBBCEBCCBbNBBcPGBCCBCCBMB",
    "BIBBbVBBbZBBBDBCCBFCBBBBbQCBIBBjEBBCBBEBBbdzSBBbdPQBblLBBiSBBfTFBcmGPBbOIBeYFEABDBBDBCDC",
    "BCAFDAEEABCAFEABDADEABDCBDACBEEEABDfOBEABDABEADDADEABDACEABDABEACDABEABDXEDACEmZBCAbHEAB",
    "DABEAEBcNFBmFCBVBDACEBCEbYGBbWDEABDAREBLBADEABDbBEEACDAMEAEBbQBEBCEADDBBEACDACEABDACEBBE",
    "ACDABEEBDABEABCcBBBcCPBbPBBCCBKDBbXEBCCBHBBcJDBbKFBBIBcKBBMCBcAJBKEBCBBdRDBCBBBCBGBBCBB",
    "gBBBDIBVCBcFCBDBBbLPBcSGBNBBBBBBBBOCBdHIBCDBBBBXBBdGGBBBBECBBCBjEEBGCBBCBbBCBdHIBCBBBCB",
    "eCBBBBBCGBBBBdXBBBBBCEBBFBjZJBBCBjWCBBBBEBBfOIBEBBbGKBbOGBCEBIBBJGBCDBbUNBBCBhQBBBDBBBB",
    "hTOBBBBdEWBCHBBCBBCBeSVBBBBcUCBDBBBBBnJCBLCBcAFBFBBBBBXBBhxTBBGPBqyYMBDDBdsAFBcHHBboIBB",
    "cLEBdDBBbdbKCBgyZcTBuYDBRIBCHBbEEBfSDBcyDcDBEbYBIBBOBBWVBcaIfOBgEHBoLBBcJEBtOEBjUCBjJBBC",
    "BBHCBFBBsGHBcXbIEAIB" ]

/-- The ranges that gaps and lengths write, from a code point on. -/
def markRangesFrom (start : Nat) : List Nat → List Text.Packed.Range
  | gap :: length :: rest =>
    let next := start + gap + length
    ⟨start + gap, next - 1, 1⟩ :: markRangesFrom next rest
  | _ => []

def markTable : List Text.Packed.Range := markRangesFrom 0 (Text.Packed.numbers packedMarks)

def isMark (c : Char) : Bool := Text.Packed.valueOf markTable c.toNat != 0

/-- How a character joins with its neighbours. -/
inductive Joining
  | none
  | transparent
  | left
  | right
  | dual
  deriving Repr, DecidableEq

/-- The kinds of joining in the order of their numbers in the table. -/
def Joining.all : List Joining := [.none, .transparent, .left, .right, .dual]

def joiningTable : List Text.Packed.Range := Text.Packed.ranges packedJoining

def joiningOf (c : Char) : Joining :=
  Joining.all.getD (Text.Packed.valueOf joiningTable c.toNat) .none

/-! ### Sound labels -/

/-- The character that keeps letters apart. -/
def nonJoiner : Char := '\u200c'

/-- The character that joins letters. -/
def joiner : Char := '\u200d'

/-- The combining class of the marks that silence a vowel. -/
def silencingClass : Nat := 9

/-- The kind of joining of the first character that is not transparent. -/
def firstJoining (cs : List Char) : Joining :=
  ((cs.map joiningOf).find? (· != .transparent)).getD .none

/-- Whether a joiner may stand between two stretches of a label, the one before it reversed: after a
mark that silences a vowel, or, if it keeps letters apart, between letters that would join. -/
def mayStand (c : Char) (before after : List Char) : Bool :=
  (before.head?.any fun p => combiningClass p == silencingClass) ||
    (c == nonJoiner &&
      (firstJoining before == .left || firstJoining before == .dual) &&
      (firstJoining after == .right || firstJoining after == .dual))

/-- Whether all joiners of a label stand where they may; `before` is what comes before it, reversed.
-/
def joinersStand (before : List Char) : List Char → Bool
  | [] => true
  | c :: rest =>
    (!(c == nonJoiner || c == joiner) || mayStand c before rest) && joinersStand (c :: before) rest

/-- The greatest length of a label that is given an ASCII form. -/
def longestEncoded : Nat := 1000

/-- The greatest length of an ASCII form that is read. -/
def longestDecoded : Nat := 2000

def isSound (label : List Char) : Bool :=
  !(label.head?.any isMark) && joinersStand [] label &&
    (label.all Punycode.isAscii || label.length ≤ longestEncoded)

/-! ### ASCII forms -/

def asciiMark : List Char := ['x', 'n', '-', '-']

/-- A label, and how it is written in ASCII. -/
structure Label where
  text : List Char
  ascii : List Char
  deriving Repr

/-- The label of an ASCII form, given without its first letters. -/
def Label.ofForm? (form : List Char) : Option Label :=
  if form.getLast? == some '-' || longestDecoded < form.length then none
  else
    match Punycode.decode? form with
    | none => none
    | some text =>
      if text.all Punycode.isAscii || !text.all isKept || composed text != text ||
          asciiMark.isPrefixOf text then none
      else some ⟨text, asciiMark ++ form⟩

/-- The label that mapped and composed characters write. -/
def Label.ofChars? (cs : List Char) : Option Label :=
  let label :=
    if asciiMark.isPrefixOf cs then Label.ofForm? (cs.drop asciiMark.length)
    else if cs.all Punycode.isAscii then some ⟨cs, cs⟩
    else some ⟨cs, asciiMark ++ Punycode.encode cs⟩
  label.filter fun label => isSound label.text

/-- A list of characters cut at every dot. -/
def cutAtDots : List Char → List (List Char)
  | [] => [[]]
  | c :: rest =>
    match cutAtDots rest with
    | first :: others => if c = '.' then [] :: first :: others else (c :: first) :: others
    | [] => [[c]]

/-- A name with all of its labels in ASCII; none where it is no name. -/
def asciiName? (name : List Char) : Option (List Char) := do
  let mapped ← name.mapM mapped?
  let labels ← (cutAtDots (composed mapped.flatten)).mapM Label.ofChars?
  if agreesWithOrder (labels.map (·.text)) then
    some (['.'].intercalate (labels.map (·.ascii)))
  else none

end ScrobbleRelay.Web.Domain
