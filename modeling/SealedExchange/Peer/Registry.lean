import SealedExchange.Peer.Directory

/-! # The registry of a node

A registry guards a node's directory. The node's own keys stay at the node's own url whatever
others say, and a key of another node moves only by what is taken over from its present url.
-/

namespace SealedExchange

/-- The directory of a node together with the keys that the node itself manages. -/
structure Registry where
  directory : Directory
  localKeys : SortedSet PublicKey
deriving DecidableEq

namespace Registry

/-- The registry of a new node: its own keys are at its own url, and some nodes are known. The urls
are put in normal form before they are placed or learned, which does so once more. -/
def new (url : String) (localKeys : SortedSet PublicKey) (bootstrap : List String) : Registry :=
  let empty := Directory.new url
  let own := localKeys.elems.map fun key => ({ key, url := empty.url } : Listing).normalized
  { directory := (empty.placeAll own).learnAll (bootstrap.map Url.normalize)
    localKeys }

/-- Tests whether a key is managed by the node itself. -/
def isLocal (r : Registry) (key : PublicKey) : Bool := key ∈ r.localKeys

/-- Tests whether a listing may be taken over from the node at a url: never for a local key, always
for an unknown one, and otherwise if it changes nothing or comes from the key's present url. -/
def admits (r : Registry) (source : String) (l : Listing) : Bool :=
  !r.isLocal l.key &&
    match r.directory.urlOf? l.key with
    | none => true
    | some current => Url.same current (Url.normalize l.url) || Url.same current source

/-- Takes over listings and the urls of nodes from the node at a url, and records the exchange. All
listings are judged by what was known before. -/
def merge (r : Registry) (source : String) (listings : List Listing) (parties : List String)
    (moment : Int64) : Registry :=
  let source := Url.normalize source
  { r with
    directory :=
      ((r.directory.placeAll (listings.filter (r.admits source))).learnAll parties).markContacted
        source moment }

end Registry

end SealedExchange
