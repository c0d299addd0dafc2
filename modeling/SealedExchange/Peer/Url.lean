import SealedExchange.Text.Basic

/-! # Urls of nodes

A node is known by its url. Blanks around a url and slashes at its end carry no meaning, and urls
that differ in the case of ASCII letters alone reach the same node.
-/

namespace SealedExchange.Url

/-- The url without blanks around it and without slashes at its end. -/
def normalize (url : String) : String := Text.trimEndSlashes (Text.trim url)

/-- The url of a path below a base. -/
def join (base path : String) : String :=
  Text.trimEndSlashes base ++ "/" ++ Text.trimStartSlashes path

/-- Tests whether two urls reach the same node. -/
def same (a b : String) : Bool := Text.sameIgnoringCase a b

end SealedExchange.Url
