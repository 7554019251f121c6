import Stepwise.Text.Blank

namespace Stepwise.Markup

-- The opening of an element, as it is written. Names are in small letters.
structure StartTag where
  name : String
  attributes : List (String × String)
  selfClosing : Bool
deriving DecidableEq

-- A page as a sequence of words. Nobody reads what a comment says, and of a document type only
-- whether it asks for the lenient layout of old pages.
inductive Token
  | blank (content : String)
  | text (content : String)
  | null
  | startTag (tag : StartTag)
  | endTag (name : String)
  | comment
  | doctype (lenient : Bool)
  | pageEnd
deriving DecidableEq

-- How the text after a start tag is read: as markup, or up to the end tag of a name with or
-- without references, or as a script, or to the end of the page.
inductive Content
  | markup
  | escapable (name : String)
  | raw (name : String)
  | script
  | plain
deriving DecidableEq

end Stepwise.Markup
