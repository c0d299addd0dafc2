import SealedExchange.Binary.Format
import SealedExchange.Identity.Key
import SealedExchange.Json.Value
import SealedExchange.Payload.Binary
import SealedExchange.Peer.Url
import SealedExchange.Time.Calendar

/-! # Directories of the network

A node keeps a directory: which url serves which key, and which other nodes are known. `place`
gives a key a new url, so a key placed by hand has exactly one, and `learn` adds the url of a node
without touching what is known about it. A directory that comes from elsewhere may list one key
under several urls and need not hold its urls in normal form.
-/

namespace SealedExchange

/-- A key and the url that serves it. -/
structure Listing where
  key : PublicKey
  url : String
deriving DecidableEq

namespace Listing

/-- A listing as a pair. -/
def pair (l : Listing) : PublicKey × String := (l.key, l.url)

theorem ext_pair {a b : Listing} (h : a.pair = b.pair) : a = b := by
  cases a; cases b; cases h; rfl

/-- Listings are ordered by key and then by url. -/
instance : Ord Listing := @Sorted.ordBy Listing _ lexOrd pair

instance : Std.TransOrd Listing := @Sorted.transOrd_ordBy Listing _ lexOrd _ pair

instance : Std.LawfulEqOrd Listing :=
  @Sorted.lawfulEqOrd_ordBy Listing _ lexOrd _ pair fun _ _ => ext_pair

/-- The listing with its url in normal form. -/
def normalized (l : Listing) : Listing := { l with url := Url.normalize l.url }

end Listing

/-- What a node knows about the network. -/
structure Directory where
  /-- The url of the node itself. -/
  url : String
  listings : SortedSet Listing := .empty
  /-- The known nodes, each with the moment of the last exchange if there was one. -/
  parties : SortedMap String (Option Int64) := .empty
deriving DecidableEq

namespace Directory

/-- The directory of a node that knows nothing yet. -/
def new (url : String) : Directory := { url := Url.normalize url }

/-- The url that serves a key. -/
def urlOf? (d : Directory) (key : PublicKey) : Option String :=
  (d.listings.elems.find? fun l => l.key = key).map (·.url)

/-- Gives a key a url and forgets any other url of that key. -/
def place (d : Directory) (l : Listing) : Directory :=
  { d with listings := (d.listings.filter fun old => old.key ≠ l.key).insert l.normalized }

/-- Gives keys urls, one after the other. -/
def placeAll (d : Directory) (ls : List Listing) : Directory := ls.foldl place d

/-- Adds a node that is not known yet. A node is not listed among its own parties. -/
def learn (d : Directory) (url : String) : Directory :=
  let url := Url.normalize url
  if url = d.url ∨ d.parties.contains url then d
  else { d with parties := d.parties.insert url none }

/-- Adds those nodes that are not known yet. -/
def learnAll (d : Directory) (urls : List String) : Directory := urls.foldl learn d

/-- Records the moment of an exchange with a node. -/
def markContacted (d : Directory) (url : String) (moment : Int64) : Directory :=
  let url := Url.normalize url
  if url = d.url then d else { d with parties := d.parties.insert url (some moment) }

/-- The urls of the known nodes. -/
def peers (d : Directory) : List String := d.parties.keys

/-- The layout of a listing. -/
def listingFormat : Binary.Format Listing :=
  (PublicKey.format.pair Binary.Format.text).map (fun (key, url) => { key, url }) Listing.pair

/-- The layout of a directory. Of parties that are repeated the first one counts. -/
def format : Binary.Format Directory :=
  (Binary.Format.text.pair <| (Binary.Format.list listingFormat).pair <|
    .list (Binary.Format.text.pair (.option .signed))).map
    (fun (url, listings, parties) =>
      { url, listings := .ofList listings, parties := .ofListFirst parties })
    (fun d => (d.url, d.listings.elems, d.parties.entries))

/-- The bytes of a directory. -/
def encode (d : Directory) : Except Binary.Error Bytes := format.write d

/-- The directory of some bytes. -/
def decode (bytes : Bytes) : Except Binary.Error Directory := format.decode bytes

/-- The written form of the moment of an exchange. -/
def momentDocument (moment : Option Int64) : Json.Value :=
  .option .string (moment.bind fun m => Time.momentText? m.toInt)

/-- The document that shows a directory to people. -/
def document (d : Directory) : Json.Value :=
  .object
    [("keys", .array (d.listings.elems.map fun l =>
        .object [("key", .string l.key.toBase64), ("url", .string l.url)])),
      ("peers", .array (d.parties.entries.map fun (url, moment) =>
        .object [("lastContact", momentDocument moment), ("url", .string url)])),
      ("url", .string d.url)]

end Directory

end SealedExchange
