import Conformance.Yaml.Node.OfTree
import Conformance.Yaml.Token.Lexer
import Conformance.Yaml.Tree.OfTokens

/-!
# Streams of documents

A text is a stream of documents.  The empty stream counts as one document that says null.
-/

namespace Conformance.Yaml

/-- The documents of a text as they are written. -/
def documents (text : String) : Except Fault (List Document) := do
  Document.ofTokens (← Token.ofString text)

/-- The only document of a text. -/
def onlyDocument (text : String) : Except Fault Document := do
  match ← documents text with
  | [document] => return document
  | _ => throw .severalDocuments

/-- What the documents of a text say. -/
def nodes (text : String) : Except Fault (List Node) := do
  (← documents text).mapM Node.ofDocument

/-- What the only document of a text says. -/
def onlyNode (text : String) : Except Fault Node := do
  Node.ofDocument (← onlyDocument text)

end Conformance.Yaml
