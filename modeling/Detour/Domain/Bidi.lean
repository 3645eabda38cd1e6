import Detour.Unicode.BidiClass
/-!
# Writing directions in a domain

As soon as one label of a domain holds characters that run from right to left, every label keeps to
rules that make it look like one label wherever it is shown.
-/

namespace Detour.Domain

open Unicode (BidiClass bidiClass)

/-- Whether a character runs from right to left, or is a number in such a text. None in ASCII is. -/
def runsRightToLeft (c : Char) : Bool :=
  0x80 ≤ c.toNat && bidiClass c ∈ [.rightToLeft, .arabicLetter, .arabicNumber]

/-- The class of the last character that is no mark. -/
def lastClass (label : List Char) : Option BidiClass :=
  (label.reverse.map bidiClass).find? (· ≠ .nonspacingMark)

/-- The classes that may stand in any label. -/
def sharedClasses : List BidiClass :=
  [.europeanNumber, .europeanSeparator, .europeanTerminator, .commonSeparator, .otherNeutral,
    .boundaryNeutral, .nonspacingMark]

/-- Whether a label that starts with a character of the given class keeps to the rules. -/
def directionFits (first : BidiClass) (label : List Char) : Bool :=
  match first with
  | .leftToRight =>
    label.all (fun c => bidiClass c ∈ .leftToRight :: sharedClasses) &&
      (lastClass label).any (· ∈ [.leftToRight, .europeanNumber])
  | .rightToLeft | .arabicLetter =>
    label.all (fun c =>
        bidiClass c ∈ .rightToLeft :: .arabicLetter :: .arabicNumber :: sharedClasses) &&
      (lastClass label).any
        (· ∈ [.rightToLeft, .arabicLetter, .europeanNumber, .arabicNumber]) &&
      !(label.any (fun c => bidiClass c = .europeanNumber) &&
        label.any (fun c => bidiClass c = .arabicNumber))
  | _ => false

/-- Whether the labels of a domain may stand beside each other. -/
def directionsFit (labels : List (List Char)) : Bool :=
  !(labels.any (·.any runsRightToLeft)) ||
    labels.all fun label =>
      match label with
      | [] => true
      | c :: _ => directionFits (bidiClass c) label

end Detour.Domain
