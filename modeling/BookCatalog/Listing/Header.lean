import BookCatalog.Entry
import BookCatalog.Text.Blank

/-!
# The heading of an index file

The heading is a text of at least four lines: the name of the collection, its version, a line of no
interest, and a description. A date may end the name behind a hyphen between blanks.
-/

namespace BookCatalog

open Text

/-- What follows the last ` - ` of a text, when the separators are cut off from left to right;
`found` is what follows those that are cut off already. -/
def afterDashes (found : Option (List Char)) : List Char → Option (List Char)
  | ' ' :: '-' :: ' ' :: rest => afterDashes (some rest) rest
  | _ :: rest => afterDashes found rest
  | [] => found

/-- The heading that a text is; `none` if it has fewer than four lines. -/
def CollectionInfo.read? (text : List Char) : Option CollectionInfo :=
  match splitOn '\n' text with
  | first :: second :: _ :: fourth :: _ =>
    let name := strip first
    some
      { name := String.ofList name
        version := String.ofList (strip second)
        description := String.ofList (strip fourth)
        date := String.ofList (strip ((afterDashes none name).getD [])) }
  | _ => none

end BookCatalog
