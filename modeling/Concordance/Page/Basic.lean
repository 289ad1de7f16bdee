import Concordance.Html.Extract
import Concordance.Html.Parse
import Concordance.Page.Normalize

/-!
Crawled pages, and what is indexed of them.
-/
namespace Concordance

/-- What the text of a page is: markup, the text of a printed document, or anything else. -/
inductive Page.Kind where
  | html
  | pdf
  | text
  deriving DecidableEq, Repr

structure Page where
  url : String
  text : String
  kind : Page.Kind := .html
  deriving DecidableEq, Repr

namespace Page

/-- The title of a page. One that does not name itself is named by its address. -/
def title (p : Page) : String :=
  match p.kind with
  | .html => (Html.title? (Html.parse p.text)).getD p.url
  | _ => p.url

def content (p : Page) : String :=
  match p.kind with
  | .html => Html.pageText (Html.parse p.text)
  | _ => p.text

def tokens (p : Page) : List String :=
  normalize p.content

end Page

end Concordance
