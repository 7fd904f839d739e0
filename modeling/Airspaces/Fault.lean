/-! Causes for which an operation has no answer. They are told apart by what went
wrong; a message is made from a cause only where somebody reads it. -/
namespace Airspaces

/-- Why a source hands out no line. -/
inductive ReadFault where
  | unknownEncoding
  | noEncoding
  /-- No encoding has a null character in its name. -/
  | nullInEncoding
  /-- The encoding has no bytes for a character of the text. -/
  | unencodable
  /-- The bytes are no text in the encoding, and the reader is strict. -/
  | undecodable
  /-- A reader is to deal with ill-formed bytes in a way that nobody knows, or in one that is
  meant for writing. -/
  | unknownLenience
  | unsuitedLenience
  | closed
  deriving Repr, DecidableEq

/-- Why a computation on `α` has no result. -/
inductive Fault (α : Type) where
  /-- A latitude beyond a pole, or an undefined one. -/
  | latitude (value : α)
  /-- A trigonometric function or a root outside its domain. -/
  | domain
  /-- An undefined number has no nearest whole number. -/
  | undefinedRounding
  /-- A whole number is too large for the arithmetic. -/
  | overflow
  /-- A whole number has more digits than are read. -/
  | tooManyDigits
  /-- A line without characters has no directive. -/
  | emptyLine
  /-- Stepping around the circle comes back without meeting the end. -/
  | endless
  /-- A path with a null character in it names no file. -/
  | nullInPath
  | reading (cause : ReadFault)
  deriving Repr

end Airspaces
