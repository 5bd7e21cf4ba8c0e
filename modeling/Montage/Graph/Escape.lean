/-!
# Text inside a filter argument

Captions are written between single quotes.  Three characters would be read as something else, and
each is replaced by a token of its own.

* **Tokens**: a backslash is doubled; a quote leaves the quotes, stands escaped, and enters them
  again; a colon gets a backslash.
* `escape` replaces each such character; `unescape` reads the tokens back, the longest first.
-/

namespace Montage.Caption

/-- The token of a character: what stands for it inside the quotes of a caption.  The graph is read
twice, once for its quotes and once for the arguments of the filter, and the token survives both. -/
def token : Char → List Char
  | '\\' => ['\\', '\\']
  | '\'' => ['\'', '\\', '\\', '\\', '\'', '\'']
  | ':' => ['\\', ':']
  | c => [c]

/-- The characters of a text, each as the caption filter has to find it. -/
def escapeChars (cs : List Char) : List Char := cs.flatMap token

/-- What the two readers of a graph make of such characters: the inverse of `escapeChars`. -/
def unescapeChars : List Char → List Char
  | '\'' :: '\\' :: '\\' :: '\\' :: '\'' :: '\'' :: rest => '\'' :: unescapeChars rest
  | '\\' :: '\\' :: rest => '\\' :: unescapeChars rest
  | '\\' :: ':' :: rest => ':' :: unescapeChars rest
  | c :: rest => c :: unescapeChars rest
  | [] => []

/-- A caption as it stands inside the quotes; `unescape` reads it back. -/
def escape (text : String) : String := String.ofList (escapeChars text.toList)

/-- The caption that escaped text stands for. -/
def unescape (text : String) : String := String.ofList (unescapeChars text.toList)

end Montage.Caption
