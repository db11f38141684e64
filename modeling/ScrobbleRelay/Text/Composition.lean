import ScrobbleRelay.Text.Packed

/-!
# The composed form of texts

A letter with marks may be written as one character or as several, and the marks of a letter in
several orders.  `composed` gives the canonical form that is as short as possible: letters are taken
apart, the marks of each letter are sorted by their combining classes, and what can be put together
is.  The tables hold those compositions that consist of characters which may stand in names of
hosts.
-/

namespace ScrobbleRelay.Text

/-! ### Tables -/

/-- The combining classes of marks, packed. -/
def packedClasses : List String :=
  [ "bdOViWABiYAEiMABiYABiIAFiMAChUAEiMAChUALiMAFBAEiMAKiWADiMADiWACiMBDiWAEiMABiWABiYACiMAB",
    "iWABiZACjAABiZACjAABiZANiWkPFiWkFBiMAEiWABiMADiWABiOABiMAGiWAGiMACiWABiMACiWABiOABiUABiW",
    "ABKABLABMABNABOABPABQABRABSACTABUABVABWBBXBBYABZBBiWABiMBBScUIiWABbEABbFABbGbWBbBABbCAB",
    "bDABbEABbFABbGABbHABbIACiWACiMAFiWABiMACiWABiMQBbJdXHiWCEiWABiMABiWCCiWBBiMACiWABiMbJBbK",
    "bEBiWABiMACiWABiMACiWADiMABiWACiMABiWABiMADiWABiMABiWABiMABiWABiMABiWABiMACiWgEHiWABiMAB",
    "iWJBiMYEiWBJiWBDiWBFiWbRDiMcHCiWADiMAEiWbQFiWAFiMAOiWBBiMACiWABiMACiWABiMADiWADiMABbBAB",
    "bCABbDADiWABiMACiWACiMAFiWcIBHQBJDBiWABiMACiWdZBHQBJbWBiWcJBHQBJeGBHQBJeGBHQBJeXBJeGBHQB",
    "JHBdGABdNdXBHQBJeFCJQBJeUBJeFCdZABJNEeDeECeOABJNEeScYCiMbBBiMBBiMBBiIcDBeZABfABBfCFEfACB",
    "fABCiWABJBCiWcKBiMeIBHBCJdEBiMbbRDiWbkMCJbEBJgBBJKBiWhVBiUfNBiOABiWABiMiLBiWABiMcTBJUIiW",
    "CBiMbWFiWAGiMACiWABiMBCiMACiWACiMAFiWABiMASiWABiMCGiWABiMAEiWABjAcUBHPBJbMBiWABiMAHiWcCC",
    "JcGBHLCJcPBHfWDiWBBBAFiMACiWAEiMABiWBHBEBiMGBiWDCiWhQCiWABiMAHiWABiMACiWABjAABiGABiMABhU",
    "AbLiWABiYACiUABiMABiKABiWABiZABiMABiWABiMbbSCiWACBAEiWADBACiWEBiWDCBABiWABiMABiWACBAEiMA",
    "BiWeoCDiWfLBJdSbGiWvIBiKABiUABiYABiOACiQeBCIbsqEBiWEKiWbGCiWdCCiWkQBJbLBJfVBJbBSiWcFDiM",
    "bLBJdRBHMBJjFBiWBCiWABiMCCiWFCiWBBiWcABJjMBJbdzSBbAbdPHiWAHiMACiWblLBiMiSBiMfTFiWcmSBiMB",
    "BiWbOBiWABBABiMEBJgJBiWABiMwBEiWcNFiWmFCiWcZCiMBDiMcSCiMADiWABiMABiWAEiMbXBiWABiMABiWAB",
    "iMhKBJbPBJOBJcFBJABHcRDiWbWCJcKBHcYBJJBHeCBJABHgWBHABJdCCHQBJYPiWdLDJQCiWdRBJDBHXBiWdVBJ",
    "ABHjRBJABHeWBJeOBJABHeLBJkJBJABHjYCJEBHgABJdFBJSBJdDBJqFBJjYBHBCJdDBJqJCJyzCBJdsAFBcHHiW",
    "buNCGbdaYBBhwOCiIADBDBiSAFiIIIiMCFiWACiMbEEiWfSDiWffFfOiWgEHiWoLBiWcJEiWtOCiYABiMABiWjUB",
    "iWABiMjJBiWCBiWHCiWFBiWsGHiMeFGiWABH" ]

/-- The combining classes of marks. -/
def classTable : List Packed.Range := Packed.ranges packedClasses

/-- The combining class of a character: zero for one that begins a group of characters. -/
def combiningClass (c : Char) : Nat := Packed.valueOf classTable c.toNat

/-- A character and the two characters that it is composed of. -/
structure Composition where
  whole : Char
  first : Char
  second : Char
  deriving Repr, DecidableEq

/-- The compositions, packed: how far a character is from the one before, and its two parts. -/
def packedCompositions : List String :=
  [ "iQdTbdOBdTbdPBdTbdQBdTbdRBdTbdWBdTbdYCdVbfBBdXbdOBdXbdPBdXbdQBdXbdWBeBbdOBeBbdPBeBbdQBeB",
    "bdWCeGbdRBeHbdOBeHbdPBeHbdQBeHbdRBeHbdWDeNbdOBeNbdPBeNbdQBeNbdWBeRbdPCeRbdWCdTbdSCdTbdUC",
    "dTbfCCdVbdPCdVbdQCdVbdVCdVbeACdWbeAEdXbdSCdXbdUCdXbdVCdXbfCCdXbeACdZbdQCdZbdUCdZbdVCdZ",
    "bfBCeAbdQEeBbdRCeBbdSCeBbdUCeBbfCGeCbdQCeDbfBDeEbdPCeEbfBCeEbeAGeGbdPCeGbfBCeGbeAFeHbdSC",
    "eHbdUCeHbdZEeKbdPCeKbfBCeKbeACeLbdPCeLbdQCeLbfBCeLbeACeMbfBCeMbeAEeNbdRCeNbdSCeNbdUCeN",
    "bdYCeNbdZCeNbfCCePbdQCeRbdQDeSbdPCeSbdVCeSbeAbJeHbePPeNbePbEdTbeACeBbeACeHbeACeNbeACjS",
    "bdSCjSbdPCjSbeACjSbdODiUbdSCvFbdSCiWbdSEdZbeACeDbeACeHbfCCsXbdSCzIbeABeCbeAFdZbdPEeGbdOC",
    "iVbdPCiWbdPCjObdPCdTbeDCdTbeFCdXbeDCdXbeFCeBbeDCeBbeFCeHbeDCeHbeFCeKbeDCeKbeFCeNbeDCeN",
    "beFCeLbfACeMbfAEeAbeAIdTbdVCdXbfBCjMbdSCjLbdSCeHbdVCvNbdSCeRbdSnLblIbdPbCbkJbdPBbkNbdPB",
    "bkPbdPBbkRbdPBblJbdPbAbkRbdWBblDbdWBbkXbdPBblDbdPBblHbdPeDbpObdUXbpLbdOBbpLbdWCbpJbdPE",
    "bqSbdWFbpQbdPBbpObdOBbpZbdUZbrXbeDcXbpMbdUPbpGbdUCbpGbdWEbpLbdUEbvTbdWCbpMbdWCbpNbdWEbpO",
    "bdSCbpObdWCbpUbdWEbwJbdWCbqJbdWCbpZbdSCbpZbdWCbpZbdZCbqDbdWEbqHbdWlLciPckHBciPckIBcjWckI",
    "BciPckJBcjYckIfYcpHckICcoNckIRcpEckIxAdmEdmYIdmMdmYDdmPdmYfVdsHdrYBdsHdsXoQehBehQDehBegS",
    "BehBehRcUejYemPcCelYelQBelZelQBelYemPeUeqWerMeQevNewJHevUewJBevUewKCevUevQBevYewJeXfaS",
    "faKBfaTfaKBfaSfbJfMfgJffUCfgJffZBfgMffUBfgJfgPwMgcZgdIedCkgBkhXCkgDkhXCkgFkhXCkgHkhXCkgJ",
    "khXEkgNkhXbPkiCkhXCkiEkhXDkiGkhXBkiHkhXCkiKkhXbbAdTbeZCdUbdVCdUbeXCdUbfLCiXbdPCdWbdVCdW",
    "beXCdWbfLCdWbfBCdWbfHCkPbdOCkPbdPCdXbfHCdXbfKCvHbdUCdYbdVCdZbdSCeAbdVCeAbeXCeAbdWCeAbfBC",
    "eAbfICeBbfKCjFbdPCeDbdPCeDbeXCeDbfLCeEbeXCllNbdSCeEbfLCeEbfHCeFbdPCeFbdVCeFbeXCeGbdVCeG",
    "beXCeGbfLCeGbfHCjLbdPCjLbdWCmVbdOCmVbdPCeIbdPCeIbdVCeKbdVCeKbeXClmXbdSCeKbfLCeLbdVCeLbeX",
    "CnJbdVCnPbdVClnFbdVCeMbdVCeMbeXCeMbfLCeMbfHCeNbeYCeNbfKCeNbfHCnXbdPCnZbdWCeObdRCeObeXCeP",
    "bdOCePbdPCePbdWCePbdVCePbeXCeQbdVCeQbdWCeRbdVCeSbdQCeSbeXCeSbfLBeAbfLBeMbdWBePbdYBeRbdYI",
    "dTbeXCdTbdXCiSbdPCiSbdOCiSbdXCiSbdRClpPbdQCjZbdPCjZbdOCjZbdXCjZbdRClpPbdUCdXbeXCdXbdXCdX",
    "bdRCjAbdPCjAbdOCjAbdXCjAbdRClqNbdQCeBbdXCeBbeXCeHbeXCeHbdXCjKbdPCjKbdOCjKbdXCjKbdRClrH",
    "bdQCqBbdPCqBbdOCqBbdXCqBbdRCqBbeXCeNbeXCeNbdXCqQbdPCqQbdOCqQbdXCqQbdRCqQbeXCeRbdOCeRbeXC",
    "eRbdXCeRbdRHbkJbeHBbkJbeIBltGbdOBltHbdOBltGbdPBltHbdPBltGbgCBltHbgCJbkNbeHBbkNbeIBltWbdO",
    "BltXbdOBltWbdPBltXbdPLbkPbeHBbkPbeIBluMbdOBluNbdOBluMbdPBluNbdPBluMbgCBluNbgCJbkRbeHBbkR",
    "beIBlvCbdOBlvDbdOBlvCbdPBlvDbdPBlvCbgCBlvDbgCJbkXbeHBbkXbeIBlvSbdOBlvTbdOBlvSbdPBlvTbdPL",
    "blDbeHBblDbeIBlwIbdOBlwJbdOBlwIbdPBlwJbdPBlwIbgCBlwJbgCJblHbeHBblHbeIBlwYbdOBlwZbdOBlwY",
    "bdPBlwZbdPBlwYbgCBlwZbgCJbkJbdOCbkNbdOCbkPbdOCbkRbdOCbkXbdOCblDbdOCblHbdOcAbkJbdUBbkJbdS",
    "FbkJbgCQbkPbgCKbkRbdUBbkRbdSBblIbdOEbkRbgCBblIbgCJblDbdUBblDbdSBblJbdOCbkZbeHBbkZbeIBblD",
    "bgCBblJbgCPblHbgCqEmsMbfSBmsObfSTmsQbfSbFmuYbfSBmvCbfSBmvAbfScBmwXbfSFmxCbfSDmxFbfSYmyD",
    "bfSCmyFbfSbBmzCbfSDmzJbfSDmzLbfSCmzObfSXcJbfSCnaNbfSLmzTbfSBcIbfSBcKbfSBnaQbfSBnaRbfSD",
    "nbEbfSBnbFbfSDnbIbfSBnbJbfSHnbMbfSBnbNbfSDnbUbfSBnbVbfSDnbYbfSBnbZbfSbJndAbfSBndGbfSBndH",
    "bfSBndJbfSbXnbObfSBnbPbfSBncJbfSBncKbfSHndQbfSBndRbfSBndSbfSBndTbfSfbRshNskNCshPskNCshR",
    "skNCshTskNCshVskNCshXskNCshZskNCsiBskNCsiDskNCsiFskNCsiHskNCsiJskNDsiMskNCsiOskNCsiQskNH",
    "siXskNBsiXskOCsjAskNBsjAskOCsjDskNBsjDskOCsjGskNBsjGskOCsjJskNBsjJskOXshIskNKskRskNOslF",
    "skNCslHskNCslJskNCslLskNCslNskNCslPskNCslRskNCslTskNCslVskNCslXskNCslZskNCsmBskNDsmEskNC",
    "smGskNCsmIskNHsmPskNBsmPskOCsmSskNBsmSskOCsmVskNBsmVskOCsmYskNBsmYskOCsnBskNBsnBskOXslA",
    "skNDsnVskNBsnWskNBsnXskNBsnYskNEsoJskNdcpFdvdYbdVbBdveGbdVebMdzgBdzhICdzgDdzhIPdzgNdzhI",
    "fBdzlXdzlNBdzlYdzlNuUeagLeagCBeagLeahBcDeaiSealLCeaiUeakXJeajBealEDeajGealLcAealEealEC",
    "ealEeakUBealEealLjJeauReauSBeauReauICeauReauVjSebeMebeDBebeNebeDbiJecmVecmQbbgBfdsWfdsWB",
    "fdsWfdtHBfdsWfdsXBfdtHfdsXBfdsWfdsYBfdsZfdsXBfdtAfdsXBfdsZfdsYeqQfijVfijVBfijRfijVBfijX",
    "fijV" ]

/-- The compositions that numbers write, from a code point on. -/
def compositionsFrom (start : Nat) : List Nat → List Composition
  | distance :: first :: second :: rest =>
    ⟨Char.ofNat (start + distance), Char.ofNat first, Char.ofNat second⟩ ::
      compositionsFrom (start + distance) rest
  | _ => []

def compositionTable : List Composition := compositionsFrom 0 (Packed.numbers packedCompositions)

/-! ### Syllables -/

def firstSyllable : Nat := 0xAC00

/-- How many syllables there are. -/
def syllableCount : Nat := 11172

def firstLead : Nat := 0x1100

/-- How many leading consonants there are. -/
def leadCount : Nat := 19

def firstVowel : Nat := 0x1161

def vowelCount : Nat := 21

/-- The place before the first trailing consonant. -/
def beforeTrail : Nat := 0x11A7

/-- How many trailing consonants there are, with the missing one. -/
def trailCount : Nat := 28

/-- A syllable of Hangul taken apart: a syllable with a trailing consonant into the one without it
and the consonant, one without into its consonant and vowel. -/
def splitSyllable? (c : Char) : Option (Char × Char) :=
  let i := c.toNat - firstSyllable
  if c.toNat < firstSyllable || syllableCount ≤ i then none
  else if i % trailCount = 0 then
    some (Char.ofNat (firstLead + i / (vowelCount * trailCount)),
      Char.ofNat (firstVowel + i / trailCount % vowelCount))
  else some (Char.ofNat (c.toNat - i % trailCount), Char.ofNat (beforeTrail + i % trailCount))

/-- Whether a number lies in a stretch of the given length. -/
def isWithin (first count n : Nat) : Bool := first ≤ n && n < first + count

/-- The syllable of Hangul that two characters make. -/
def joinSyllable? (a b : Char) : Option Char :=
  let x := a.toNat
  let y := b.toNat
  if isWithin firstLead leadCount x && isWithin firstVowel vowelCount y then
    some (Char.ofNat
      (firstSyllable + ((x - firstLead) * vowelCount + (y - firstVowel)) * trailCount))
  else if isWithin firstSyllable syllableCount x && (x - firstSyllable) % trailCount = 0 &&
      isWithin (beforeTrail + 1) (trailCount - 1) y then
    some (Char.ofNat (x + (y - beforeTrail)))
  else none

/-! ### Taking apart and putting together -/

/-- The two parts of a character. -/
def split? (c : Char) : Option (Char × Char) :=
  splitSyllable? c <|>
    ((compositionTable.find? fun entry => entry.whole == c).map fun entry =>
      (entry.first, entry.second))

/-- The character that two characters make. -/
def join? (a b : Char) : Option Char :=
  joinSyllable? a b <|>
    ((compositionTable.find? fun entry => entry.first == a && entry.second == b).map (·.whole))

/-- The greatest number of times that a character can be taken apart at its front. -/
def greatestSplits : Nat := 4

/-- The parts of a character that has to be taken apart at most so many times. -/
def partsWithin : Nat → Char → List Char
  | 0, c => [c]
  | n + 1, c =>
    match split? c with
    | some (a, b) => partsWithin n a ++ [b]
    | none => [c]

def parts (c : Char) : List Char := partsWithin greatestSplits c

/-- Marks in the order of their classes, equal classes in their old order. -/
def sortedMarks (marks : List Char) : List Char :=
  marks.mergeSort fun a b => combiningClass a ≤ combiningClass b

/-- A list of characters with each run of marks sorted; `marks` is the run before it. -/
def orderedFrom (marks : List Char) : List Char → List Char
  | [] => sortedMarks marks
  | c :: rest =>
    if combiningClass c = 0 then sortedMarks marks ++ c :: orderedFrom [] rest
    else orderedFrom (marks ++ [c]) rest

/-- A list of characters, all of them taken apart, with their marks in order. -/
def decomposed (cs : List Char) : List Char := orderedFrom [] (cs.flatMap parts)

/-- Put together what follows a character, where `held` came after it and could not be joined to it;
`last` is the class of the last of these. -/
def joinFrom (start : Char) (held : List Char) (last : Nat) : List Char → List Char
  | [] => start :: held
  | c :: rest =>
    let level := combiningClass c
    match (if held.isEmpty || last < level then join? start c else none) with
    | some whole => joinFrom whole held last rest
    | none =>
      if level = 0 then start :: held ++ joinFrom c [] 0 rest
      else joinFrom start (held ++ [c]) level rest

/-- Put together what can be, in a list whose characters are taken apart and in order. -/
def joined : List Char → List Char
  | [] => []
  | c :: rest => if combiningClass c = 0 then joinFrom c [] 0 rest else c :: joined rest

/-- The composed form of a list of characters. -/
def composed (cs : List Char) : List Char := joined (decomposed cs)

end ScrobbleRelay.Text
