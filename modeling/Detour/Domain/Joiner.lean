import Detour.Unicode.CombiningClass
import Detour.Unicode.JoiningType
/-!
# Joiners in a label

The two characters that join or separate their neighbours without showing may stand only where
they change how the label is written: after a sign that suppresses a vowel or, for the one that
separates, between two letters that would connect.
-/

namespace Detour.Domain

/-- The character that keeps its neighbours from connecting. -/
def nonJoiner : Char := '\u200c'

/-- The character that makes its neighbours connect. -/
def joiner : Char := '\u200d'

/-- The class of the signs that suppress a vowel. -/
def viramaClass : Nat := 9

/-- Whether the nearest character that takes part in joining connects on one of the given sides. -/
def connects (sides : List Unicode.JoiningType) (s : List Char) : Bool :=
  match s.dropWhile fun c => Unicode.joiningType c = .transparent with
  | [] => false
  | c :: _ => Unicode.joiningType c ∈ sides

/-- Whether a joiner may stand between two texts, the one before it last character first. -/
def joinerFits (c : Char) (before after : List Char) : Bool :=
  (before.head?.any fun d => Unicode.combiningClass d = viramaClass) ||
    (c = nonJoiner && connects [.left, .dual] before && connects [.right, .dual] after)

/-- Whether each joiner of a text may stand where it does; `before` is what comes before the text, last
character first. -/
def joinersFitFrom (before : List Char) : List Char → Bool
  | [] => true
  | c :: after =>
    (!(c = nonJoiner || c = joiner) || joinerFits c before after) &&
      joinersFitFrom (c :: before) after

/-- Whether each joiner of a label may stand where it does. -/
def joinersFit (label : List Char) : Bool := joinersFitFrom [] label

end Detour.Domain
