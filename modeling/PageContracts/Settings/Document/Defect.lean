/-! # Defects of documents

What can be wrong with a settings document. Most defects make the text no document at all; the
others are found while its values are made.
-/
namespace PageContracts.Document

/-- What can be wrong with a document. -/
inductive Defect where
  /-- The text is no document, or a node cannot be made into what its tag says. -/
  | malformed
  /-- A number, a date or a character that does not exist. -/
  | unreadable
  /-- A number without any digits. -/
  | emptyNumber
  /-- A word that is no truth value. -/
  | unknownTruth
  /-- A text that is no moment. -/
  | unknownMoment
  /-- A mapping where a moment is wanted. -/
  | mappedMoment
  /-- A number beyond its range. -/
  | tooLarge
  /-- Nodes nested too deeply. -/
  | tooDeep
  deriving DecidableEq, Repr, Inhabited

end PageContracts.Document
