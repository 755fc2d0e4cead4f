import AddonPicker.Text.CaseTable

/-!
# Letter case

Lowercasing and case folding of whole texts. Folding is the comparison key under which texts that
differ in case only are equal: `ß` and `SS` fold alike, which no lowercasing achieves.
-/

namespace AddonPicker.Text

/-- The first range that moves a code point decides. -/
def moveBy (ranges : Array CaseRange) (code : Nat) : Option Nat :=
  (ranges.find? (·.covers code)).map (·.move code)

/-- Lowercase one character. The dotted capital I keeps its dot as a combining mark; every other
capital letter becomes one small letter. A capital sigma becomes the medial small sigma. -/
def lowerChar (c : Char) : List Char :=
  if c.val < 0x80 then [c.toLower]
  else if c.toNat = 0x130 then ['i', Char.ofNat 0x307]
  else [((moveBy lowerRanges c.toNat).map Char.ofNat).getD c]

/-- Lowercase a text. -/
def lower (s : String) : String :=
  String.ofList (s.toList.flatMap lowerChar)

/-- Fold one character. -/
def foldChar (c : Char) : List Char :=
  if c.val < 0x80 then [c.toLower]
  else match foldExpansions.find? (·.1 == c.toNat) with
    | some (_, codes) => codes.map Char.ofNat
    | none =>
      match moveBy foldRanges c.toNat with
      | some code => [Char.ofNat code]
      | none => lowerChar c

/-- The key of a text under which case is ignored. -/
def fold (s : String) : String :=
  String.ofList (s.toList.flatMap foldChar)

end AddonPicker.Text
