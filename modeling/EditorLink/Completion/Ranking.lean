import EditorLink.Character.Case
import EditorLink.Character.Word
import EditorLink.Completion.Item
/-!
# Ranking completion items

Items are filtered by the token before the cursor, if that is a word, and then
sorted in passes that each keep the order of equal items: by their sort keys with
those first that begin with the token, and for Python with keyword arguments first.
-/
namespace EditorLink.Completion
open Character

/-- Whether a token consists of word characters, not counting a newline at its end. -/
def isWordToken (token : List Char) : Bool :=
  let body := if token.getLast? = some '\n' then token.dropLast else token
  !body.isEmpty && body.all isWord

/-- Whether an item fits a token, regardless of case. A token that is no word fits all. -/
def fits (token : List Char) (item : CompletionItem) : Bool :=
  let word := lowercase token
  !isWordToken word || word.isPrefixOf (lowercase item.filterKey.toList)

/-- Whether the sort key of an item begins with a token. -/
def leads (token : List Char) (item : CompletionItem) : Bool :=
  token.isPrefixOf item.sortKey.toList

/-- The order of truth values with true ones first. -/
def trueFirst (a b : Bool) : Bool := a || !b

/-- The order of items by their sort keys, code point by code point. -/
def keyOrder (a b : CompletionItem) : Bool := !decide (b.sortKey < a.sortKey)

/-- The order of items with those first that begin with a token. -/
def tokenOrder (token : List Char) (a b : CompletionItem) : Bool :=
  if leads token a = leads token b then keyOrder a b else leads token a

/-- Whether an item is a keyword argument. -/
def isKeywordArgument (item : CompletionItem) : Bool := item.label.toList.getLast? = some '='

/-- The language whose keyword arguments come first. -/
def keywordLanguage : String := "python"

/-- The items that fit the token before the cursor, best first. -/
def rank (items : List CompletionItem) (token : Option (List Char)) (language : String) :
    List CompletionItem :=
  let typed := token.getD []
  let sorted :=
    if typed = [] then items.mergeSort keyOrder
    else (items.filter (fits typed)).mergeSort (tokenOrder typed)
  if language = keywordLanguage then
    sorted.mergeSort fun a b => trueFirst (isKeywordArgument a) (isKeywordArgument b)
  else sorted

end EditorLink.Completion
