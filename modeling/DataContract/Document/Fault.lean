/-
Why a text holds no document.
-/
namespace DataContract

/-- The ways in which a text can fail to be a document. -/
inductive Fault where
  /-- The text breaks the rules of its format. -/
  | malformed
  /-- A number has more digits than are read. -/
  | tooManyDigits
  /-- A scalar that is tagged as a number is none. -/
  | notANumber
  /-- A scalar that is tagged as a number is empty. -/
  | emptyNumber
  /-- A scalar that is tagged as a truth value is none. -/
  | notATruthValue
  /-- A scalar that is tagged as a date is none. -/
  | notADate
  /-- The calendar has no such date. -/
  | impossibleDate
  /-- An escape names a code point beyond the last one. -/
  | codePointRange
  /-- An escape names a code point that needs more than 31 bits. -/
  | codePointWidth
  /-- A number is beyond the range of floating-point numbers. -/
  | numberRange
  /-- A date is written as a collection. -/
  | notAScalar
  /-- A collection contains itself where its content is needed. -/
  | recursive
  /-- Collections lie in each other too deep. -/
  | tooDeep
  deriving DecidableEq

/-- Numbers with more digits than this are not read. -/
def maxDigits : Nat := 4300

end DataContract
