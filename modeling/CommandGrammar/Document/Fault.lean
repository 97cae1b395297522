/-
# Faults of documents

Why the text of a document gives no data: it does not follow the rules of its format, or it names
a day or a time that no calendar has.
-/

namespace CommandGrammar
namespace Document

/-- Why a text gives no data. -/
inductive Fault
  /-- The text does not follow the rules of its format. -/
  | malformed
  /-- The text names a date or a time that there is not. -/
  | impossible (why : String)
  deriving DecidableEq, Repr

end Document
end CommandGrammar
