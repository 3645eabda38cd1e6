import Detour.Domain.Bidi
import Detour.Domain.Joiner
import Detour.Domain.Mapping
import Detour.Domain.Punycode
import Detour.Unicode.Mark
import Detour.Unicode.NormalForm
/-!
# Domain names

A domain name is read in any script and written in ASCII. Reading maps its characters, composes
them and cuts the name into labels. A label outside ASCII must be in the normal form that mapping
and composing lead to, whether it was written as such or in its ASCII form; the ASCII form of a
label is `xn--` followed by its Punycode.
-/

namespace Detour.Domain

/-- Whether a character belongs to ASCII. -/
def isAscii (c : Char) : Bool := c.toNat < 0x80

/-- The ASCII characters that no host may hold. Capital letters are among them, for mapping has made
them small. -/
def isForbidden (c : Char) : Bool :=
  c.toNat ≤ 0x20 || c.toNat = 0x7f || c.isUpper || c ∈ "%#/:<>?@[\\]^|".toList

/-- What the ASCII form of a label outside ASCII starts with. -/
def asciiMark : List Char := ['x', 'n', '-', '-']

/-- A label in the two forms that it has. -/
structure Label where
  /-- The label as it is read. -/
  text : List Char
  /-- The label as it is written in ASCII. -/
  ascii : List Char

/-- Whether mapping and composing leave a text as it is. -/
def isNormal (s : List Char) : Bool :=
  s.all (fun c => mapping c = some [c]) && Unicode.compose s = s

/-- Whether a text outside ASCII may be a label. These criteria of validity apply to every such label, be it a part
of a mapped and composed text or what a Punycode stands for. -/
def isLabel (s : List Char) : Bool :=
  isNormal s && s.all (fun c => !isForbidden c) && !(s.head?.any Unicode.isMark) && joinersFit s

/-- The longest Punycode that is read. -/
def longestPunycode : Nat := 2000

/-- The longest label outside ASCII that is written. -/
def longestLabel : Nat := 1000

/-- The label that a Punycode stands for. -/
def labelOfPunycode (code : List Char) : Option (List Char) :=
  if code.isEmpty || code.getLast? = some '-' || !code.all isAscii ||
      longestPunycode < code.length then none
  else match Punycode.decode code with
    | some s => if isLabel s then some s else none
    | none => none

/-- The label that a mapped and composed text is. -/
def readLabel (s : List Char) : Option Label :=
  if asciiMark.isPrefixOf s then
    (labelOfPunycode (s.drop asciiMark.length)).map fun text => ⟨text, s⟩
  else if s.all isAscii then
    if s.any isForbidden then none else some ⟨s, s⟩
  else if isLabel s && s.length ≤ longestLabel then some ⟨s, asciiMark ++ Punycode.encode s⟩
  else none

/-- Map and compose a text. -/
def normalize (s : List Char) : Option (List Char) := (mapText s).map Unicode.compose

/-- The labels of a domain name. -/
def readLabels (s : List Char) : Option (List Label) :=
  match normalize s with
  | none => none
  | some t => (Text.splitOn '.' t).mapM readLabel

/-- The ASCII form of a domain name. -/
def toAscii (s : List Char) : Option (List Char) :=
  match readLabels s with
  | none => none
  | some labels =>
    if directionsFit (labels.map Label.text) then
      some (Text.joinWith '.' (labels.map Label.ascii))
    else none

end Detour.Domain
