import Detour.Pattern.Read
/-!
# Expressions

An expression is a pattern as someone wrote it. One that cannot be read is kept, but matches nothing.
-/

namespace Detour

/-- A pattern as it was written, together with its meaning. -/
structure Expression where
  /-- What was written. -/
  source : List Char
  /-- The pattern, if it can be read. -/
  compiled : Option Pattern
  /-- The pattern is the one that was written. -/
  compiled_eq : compiled = Pattern.read source

namespace Expression

/-- The expression that a text writes. -/
def ofSource (source : List Char) : Expression := ⟨source, Pattern.read source, rfl⟩

/-- An expression is known by what was written. -/
@[ext] theorem ext {e f : Expression} (h : e.source = f.source) : e = f := by
  obtain ⟨source, compiled, he⟩ := e
  obtain ⟨source', compiled', hf⟩ := f
  cases h
  cases he
  cases hf
  rfl

/-- Writing an expression again gives it back. -/
@[simp] theorem ofSource_source (e : Expression) : ofSource e.source = e := ext rfl

instance : DecidableEq Expression := fun e f =>
  if h : e.source = f.source then .isTrue (ext h) else .isFalse fun he => h (he ▸ rfl)

/-- Whether the expression can be read. -/
def isValid (e : Expression) : Bool := e.compiled.isSome

/-- Whether the expression matches some part of a text. -/
def isIn (e : Expression) (text : List Char) : Bool := e.compiled.any (·.isIn text)

/-- An expression that cannot be read matches nothing. -/
theorem isIn_of_not_isValid {e : Expression} (h : e.isValid = false) (text : List Char) :
    e.isIn text = false := by
  cases hc : e.compiled with
  | none => simp [isIn, hc]
  | some p => simp [isValid, hc] at h

end Expression

end Detour
