import SealedExchange.Peer.Error
import SealedExchange.Peer.Registry

/-! # Discovery of other nodes

An announcement is believed only as far as it is proven. A listing is proven if the node at its url
opens a fresh challenge that was sealed for its key; the announcement as a whole is taken over only
if a listing at the announcer's own url is proven. Local keys prove nothing and are not challenged,
because their challenges could be relayed back.

Discovery has two halves, `Discovery.start` before the challenges are posted and `Discovery.finish`
after the replies have come, so that nothing is assumed about what happens in between.
-/

namespace SealedExchange

/-- The path that challenges are posted to. -/
def challengePath : String := "partyinfo/validate"

/-- The path that announcements are posted to. -/
def announcementPath : String := "partyinfo"

namespace Challenge

/-- The number of random bytes in a challenge. -/
def length : Nat := 32

/-- The text of a challenge. -/
def ofBytes (bytes : Bytes) : Bytes := Text.Utf8.encode bytes.toHex

/-- Tests for an ASCII hexadecimal digit of either case. -/
def isHexDigit (b : UInt8) : Bool :=
  (0x30 ≤ b && b ≤ 0x39) || (0x41 ≤ b && b ≤ 0x46) || (0x61 ≤ b && b ≤ 0x66)

/-- Tests whether a text has the form of a challenge. -/
def isWellFormed (text : Bytes) : Bool := text.length = 2 * length && text.all isHexDigit

/-- Opens a challenge with the first of its recipient keys that is managed here. Nothing but a
well-formed challenge is given away. -/
def answer (e : Enclave) (codec : Codec) (body : Bytes) : Except DiscoveryError Bytes := do
  let p ← (codec.decode body).mapError .codec
  match p.keys.find? e.manages with
  -- Whatever the payload holds, only the shape of a challenge is ever returned.
  | none => .error .noManagedRecipient
  | some key => do
    let text ← (e.decrypt p key).mapError .enclave
    if isWellFormed text then .ok text else .error .notAChallenge

end Challenge

/-- An announcement whose challenges are under way. -/
structure Discovery where
  announced : Directory
  /-- What a reply has to be. -/
  challenge : Bytes
  /-- The sealed challenge of each listing that is challenged. -/
  posts : List (Listing × Bytes)

namespace Discovery

/-- The listings of an announcement that are challenged. -/
def candidates (r : Registry) (announced : Directory) : List Listing :=
  announced.listings.elems.filter fun l => !r.isLocal l.key

/-- Seals a challenge for a key. -/
def sealChallenge (e : Enclave) (codec : Codec) (challenge : Bytes) (key : PublicKey) :
    Drawing DiscoveryError Bytes := do
  let p ← Drawing.mapError .enclave (e.encryptPayload challenge e.defaultKey [key] {})
  Drawing.ofExcept ((codec.encode p).mapError .codec)

/-- Seals a challenge for each listing. A listing for which that fails is not challenged. -/
def sealChallenges (e : Enclave) (codec : Codec) (challenge : Bytes) :
    List Listing → StateM Entropy (List (Listing × Bytes))
  | [] => pure []
  | l :: rest => do
    let sealedText ← (sealChallenge e codec challenge l.key).run
    let posts ← sealChallenges e codec challenge rest
    match sealedText with
    | .ok body => pure ((l, body) :: posts)
    | .error _ => pure posts

/-- Prepares the challenges of an announcement. -/
def start (e : Enclave) (codec : Codec) (r : Registry) (announced : Directory) :
    StateM Entropy Discovery := do
  let challenge := Challenge.ofBytes (← Entropy.draw Challenge.length)
  let posts ← sealChallenges e codec challenge (candidates r announced)
  pure { announced, challenge, posts }

/-- The listings that are proven by their replies, in the order in which these came. -/
def proven (d : Discovery) (replies : List (Listing × Reply)) : List Listing :=
  replies.filterMap fun (l, reply) =>
    match reply with
    | .ok answer => if answer = d.challenge then some l else none
    | .error _ => none

/-- Tests whether a listing is at the url of the announcer. -/
def vouches (d : Discovery) (l : Listing) : Bool :=
  Url.same (Url.normalize l.url) (Url.normalize d.announced.url)

/-- Takes over what is proven, if the announcer itself is. -/
def finish (d : Discovery) (r : Registry) (replies : List (Listing × Reply)) (moment : Int64) :
    Except DiscoveryError Registry :=
  let proven := d.proven replies
  if proven.any d.vouches then
    .ok (r.merge d.announced.url proven d.announced.parties.keys moment)
  else .error (.securityViolation ("No key found for url " ++ d.announced.url))

/-- The whole discovery, if every node answers posts in a fixed way and the replies come in the
order of the posts. -/
def run (e : Enclave) (codec : Codec) (r : Registry) (announced : Directory)
    (ask : Listing → Bytes → Reply) (moment : Int64) :
    StateM Entropy (Except DiscoveryError Registry) := do
  let d ← start e codec r announced
  pure (d.finish r (d.posts.map fun (l, body) => (l, ask l body)) moment)

end Discovery

end SealedExchange
