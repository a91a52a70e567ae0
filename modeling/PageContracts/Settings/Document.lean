import PageContracts.Settings.Document.Builder

/-! # Settings documents

The text of a settings file as content: the text becomes a row of tokens, the row a graph of
nodes, and the graph the content. Indentation or brackets nest, and plain words are read as
numbers, truth values, dates or texts.
-/
namespace PageContracts.Document

/-- The content of a document; a text without one means nothing. -/
def read (text : String) : Except Defect Content := do
  match ← NodeGraph.ofRow (.ofText text.toList) with
  | none => return {}
  | some graph => Content.ofNodes graph

end PageContracts.Document
