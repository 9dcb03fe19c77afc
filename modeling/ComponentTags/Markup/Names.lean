/-
# Names of tags

A tag is a component's when its name begins with a capital.  The names of elements stay literal
markup, however they are capitalised.
-/
import ComponentTags.Text.Case

namespace ComponentTags.Markup

/-- Whether a name begins with a capital, as the names of components do. -/
def isComponentName : Text → Bool
  | [] => false
  | c :: _ => Text.isUpper c

/-- The names of elements, in lower case. -/
def elementNames : List Text :=
  (["a", "abbr", "address", "area", "article", "aside", "audio",
    "b", "base", "bdi", "bdo", "blockquote", "body", "br", "button",
    "canvas", "caption", "cite", "code", "col", "colgroup",
    "data", "datalist", "dd", "del", "details", "dfn", "dialog", "div", "dl", "dt",
    "em", "embed",
    "fieldset", "figcaption", "figure", "footer", "form",
    "h1", "h2", "h3", "h4", "h5", "h6", "head", "header", "hgroup", "hr", "html",
    "i", "iframe", "img", "input", "ins",
    "kbd",
    "label", "legend", "li", "link",
    "main", "map", "mark", "menu", "meta", "meter",
    "nav", "noscript",
    "object", "ol", "optgroup", "option", "output",
    "p", "param", "picture", "pre", "progress",
    "q",
    "rp", "rt", "ruby",
    "s", "samp", "script", "search", "section", "select", "slot", "small",
    "source", "span", "strong", "style", "sub", "summary", "sup",
    "table", "tbody", "td", "template", "textarea", "tfoot", "th", "thead",
    "time", "title", "tr", "track",
    "u", "ul",
    "var", "video",
    "wbr",
    "svg", "math"] : List String).map String.toList

/-- Whether a name is the name of an element when its case is ignored. -/
def isElementName (name : Text) : Bool := elementNames.contains (Text.lower name)

/-- Whether a tag opens an element whose content is text without tags. -/
def isRawTextName (name : Text) : Bool :=
  Text.lower name = "script" || Text.lower name = "style"

end ComponentTags.Markup
