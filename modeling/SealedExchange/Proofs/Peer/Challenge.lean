import SealedExchange.Proofs.Enclave.Sealed
import SealedExchange.Proofs.Payload.RoundTrip
import SealedExchange.Proofs.Peer.Announcement

/-! # Who opens a challenge

A challenge is opened by any node that holds the key it was sealed for. What the node is asked shows
neither who posts the challenge nor at which url the key is said to be.
-/

namespace SealedExchange

namespace CipherSuite

/-- A suite seals a message of the length of a challenge to something whose length can be written
down. -/
structure Compact (suite : CipherSuite) : Prop where
  boxKey : ∀ secret other, (suite.boxKey secret other).length = masterKeyLength
  encrypt : ∀ key nonce message, key.length = masterKeyLength → nonce.length = nonceLength →
    message.length ≤ 2 * Challenge.length → (suite.encrypt key nonce message).length < Bytes.count 8

theorem compact_standard : standard.Compact where
  boxKey _ _ := Crypto.Sha256.length_hmac _ _
  encrypt key nonce message _ _ hmessage := by
    have hlength := Crypto.Gcm.length_encrypt key nonce message
    have hbound : 2 * Challenge.length + Crypto.Gcm.tagLength < Bytes.count 8 := by decide
    change (Crypto.Gcm.encrypt key nonce message).length < _
    omega

theorem compact_labelled : labelled.Compact where
  boxKey secret other := by
    change (Bytes.xor secret.bytes other.bytes).length = _
    simp [Bytes.xor, secret.length_eq, other.length_eq, masterKeyLength, keyLength]
  encrypt key nonce message hkey hnonce hmessage := by
    have hbound : 2 * masterKeyLength + 2 * nonceLength + 2 * Challenge.length + 2 <
        Bytes.count 8 := by decide
    change (framed key ++ (framed nonce ++ message)).length < _
    rw [List.length_append, List.length_append, length_framed, length_framed, hkey, hnonce]
    omega

end CipherSuite

namespace Enclave

variable {e : Enclave} {secret : SecretKey}

/-! ## A message for one recipient -/

/-- A message for one recipient, sealed by the holder of a secret. -/
def single (suite : CipherSuite) (secret : SecretKey) (draws : PayloadDraws) (message : Bytes)
    (sender key : PublicKey) : Payload where
  sender
  cipherText := suite.encrypt draws.masterKey draws.nonce message
  nonce := draws.nonce
  boxes := [suite.encrypt (suite.boxKey secret key) draws.recipientNonce draws.masterKey]
  recipientNonce := draws.recipientNonce
  keys := [key]

theorem sealWith_single {sender : PublicKey} (hsecret : e.keys.get? sender = some secret)
    (draws : PayloadDraws) (message : Bytes) (key : PublicKey) :
    e.sealWith draws message sender [key] {} =
      .ok (single e.suite secret draws message sender key) := by
  simp only [sealWith, sealBoxes, boxKey, secretOf, hsecret, ok_bind]
  rfl

theorem encryptPayload_single {sender : PublicKey} (hsecret : e.keys.get? sender = some secret)
    (message : Bytes) (key : PublicKey) (entropy : Entropy) : ∃ draws rest, draws.Sized ∧
      e.encryptPayload message sender [key] {} entropy =
        (.ok (single e.suite secret draws message sender key), rest) := by
  obtain ⟨draws, rest, hdraw, hsized⟩ := exists_draw entropy
  exact ⟨draws, rest, hsized, Drawing.bind_eq_ok_iff.mpr ⟨draws, rest, hdraw,
    Drawing.ofExcept_eq_ok_iff.mpr ⟨sealWith_single hsecret draws message key, rfl⟩⟩⟩

end Enclave

namespace Challenge

/-! ## Challenges -/

theorem encode_hexDigit : ∀ n < 16, (String.utf8EncodeChar (Bytes.hexDigit n)).length = 1 ∧
    (String.utf8EncodeChar (Bytes.hexDigit n)).all isHexDigit = true := by
  decide

theorem encode_hexChars (bytes : Bytes) :
    (Text.Utf8.encodeChars (Bytes.hexChars bytes)).length = 2 * bytes.length ∧
      (Text.Utf8.encodeChars (Bytes.hexChars bytes)).all isHexDigit = true := by
  induction bytes with
  | nil => exact ⟨rfl, rfl⟩
  | cons b rest ih =>
    obtain ⟨hhigh, hhighs⟩ := encode_hexDigit (b.toNat / 16) (by have := b.toNat_lt; omega)
    obtain ⟨hlow, hlows⟩ := encode_hexDigit (b.toNat % 16) (by omega)
    have hcons : Text.Utf8.encodeChars (Bytes.hexChars (b :: rest)) =
        String.utf8EncodeChar (Bytes.hexDigit (b.toNat / 16)) ++
          (String.utf8EncodeChar (Bytes.hexDigit (b.toNat % 16)) ++
            Text.Utf8.encodeChars (Bytes.hexChars rest)) := rfl
    rw [hcons, List.length_append, List.length_append, List.all_append, List.all_append, hhigh,
      hlow, ih.1, hhighs, hlows, ih.2, List.length_cons]
    exact ⟨by omega, rfl⟩

theorem isWellFormed_ofBytes {bytes : Bytes} (hlength : bytes.length = length) :
    isWellFormed (ofBytes bytes) = true := by
  obtain ⟨hcount, hdigits⟩ := encode_hexChars bytes
  rw [isWellFormed, ofBytes, Bytes.toHex, Text.Utf8.encode, String.toList_ofList, hcount, hdigits,
    hlength]
  rfl

variable {suite : CipherSuite} {e e' : Enclave} {codec : Codec} {challenge body : Bytes}
  {key : PublicKey} {secret : SecretKey} {entropy entropy' : Entropy}

/-- Whoever holds a key opens each challenge that was sealed for it. -/
theorem answer_of_sealChallenge (hopens : suite.Opens) (hmutual : suite.Mutual)
    (he : e.Keyed suite) (he' : e'.Keyed suite) (hwell : isWellFormed challenge = true)
    (hmanages : e'.manages key = true)
    (hseal : Discovery.sealChallenge e codec challenge key entropy = (.ok body, entropy')) :
    answer e' codec body = .ok challenge := by
  obtain ⟨p, rest, hencrypt, hencode⟩ := Drawing.bind_eq_ok_iff.mp hseal
  have hencode : codec.encode p = .ok body :=
    mapError_eq_ok_iff.mp (Drawing.ofExcept_eq_ok_iff.mp hencode).1
  obtain ⟨hp, -⟩ := Enclave.sealedFor_of_encryptPayload he (List.cons_ne_nil key [])
    (Drawing.mapError_eq_ok_iff.mp hencrypt)
  have hdecode : codec.decode body = .ok p :=
    Codec.decode_of_encode (Payload.check_eq_ok_iff.mpr hp.wellFormed) hencode
  obtain ⟨secret, masterKey, hsealed⟩ := hp.is_sealed
  obtain ⟨box, hbox⟩ := hp.boxed key List.mem_cons_self
  have hopened : e'.decrypt p key = .ok challenge :=
    Enclave.decrypt_of_sealed hopens hmutual he' hsealed hmanages hbox
  have hfind : p.keys.find? e'.manages = some key := by
    rw [hp.keys_eq, List.find?_cons_of_pos hmanages]
  rw [answer, hdecode, mapError_ok, ok_bind, hfind]
  simp only [hopened, mapError_ok, ok_bind, if_pos hwell]

theorem length_ofBytes (bytes : Bytes) : (ofBytes bytes).length = 2 * bytes.length := by
  rw [ofBytes, Bytes.toHex, Text.Utf8.encode, String.toList_ofList, (encode_hexChars bytes).1]

/-- A challenge can be sealed for a key if what is sealed has an encoding. -/
theorem exists_sealChallenge (hsecret : e.keys.get? e.defaultKey = some secret)
    (hwrites : ∀ draws : Enclave.PayloadDraws, draws.Sized → ∃ bytes,
      codec.encode (Enclave.single e.suite secret draws challenge e.defaultKey key) = .ok bytes)
    (entropy : Entropy) : ∃ body rest,
      Discovery.sealChallenge e codec challenge key entropy = (.ok body, rest) := by
  obtain ⟨draws, rest, hsized, hsingle⟩ :=
    Enclave.encryptPayload_single hsecret challenge key entropy
  obtain ⟨bytes, hencode⟩ := hwrites draws hsized
  exact ⟨bytes, rest, Drawing.bind_eq_ok_iff.mpr ⟨_, rest, Drawing.mapError_eq_ok_iff.mpr hsingle,
    Drawing.ofExcept_eq_ok_iff.mpr ⟨mapError_eq_ok_iff.mpr hencode, rfl⟩⟩⟩

/-- A sealed challenge has an encoding in every codec. -/
theorem exists_encode_single (hcompact : suite.Compact) {draws : Enclave.PayloadDraws}
    (hsized : draws.Sized) (hlength : challenge.length = 2 * length) (sender : PublicKey) :
    ∃ bytes, codec.encode (Enclave.single suite secret draws challenge sender key) =
      .ok bytes := by
  have hshort : ∀ n ≤ 64, n < Bytes.count 8 := by
    intro n hn
    exact Nat.lt_of_le_of_lt hn (by decide)
  cases codec with
  | json => exact ⟨_, rfl⟩
  | bincode =>
    apply Payload.Fits.exists_encode
    exact
      { cipherText := hcompact.encrypt _ _ _ hsized.masterKey hsized.nonce (Nat.le_of_eq hlength)
        nonce := hsized.nonce ▸ hshort _ (by decide)
        boxes := by
          refine ⟨hshort 1 (by decide), List.forall_mem_singleton.mpr ?_⟩
          exact hcompact.encrypt _ _ _ (hcompact.boxKey _ _) hsized.recipientNonce
            (hsized.masterKey ▸ by decide)
        recipientNonce := hsized.recipientNonce ▸ hshort _ (by decide)
        keys := hshort 1 (by decide)
        affected := ⟨hshort 0 (by decide), nofun⟩
        execHash := hshort 0 (by decide)
        mandatory := hshort 0 (by decide)
        groupId := nofun }

end Challenge

/-- A node that checks an announcement challenges every listing of another node's keys. -/
theorem Node.posts_startDiscovery {suite : CipherSuite} {asked : Node} (hcompact : suite.Compact)
    (hasked : asked.vault.enclave.Keyed suite)
    (hdefault : asked.vault.enclave.manages asked.vault.enclave.defaultKey = true)
    (announced : Directory) (entropy : Entropy) :
    (asked.startDiscovery announced entropy).1.posts.map Prod.fst =
      Discovery.candidates asked.registry announced := by
  obtain ⟨secret, hsecret⟩ := Enclave.manages_iff_exists_secret.mp hdefault
  apply Discovery.posts_of_seals
  intro key entropy'
  apply Challenge.exists_sealChallenge hsecret
  intro draws hsized
  rw [hasked.suite_eq]
  refine Challenge.exists_encode_single hcompact hsized ?_ _
  rw [Challenge.length_ofBytes]
  exact congrArg (2 * ·) (Entropy.length_peek _ _)

/-- A node opens the challenges that are sealed for its keys when an announcement is checked. -/
theorem Node.answerChallenge_of_mem_posts {suite : CipherSuite} {asked honest : Node}
    {announced : Directory} (hopens : suite.Opens) (hmutual : suite.Mutual)
    (hasked : asked.vault.enclave.Keyed suite) (hhonest : honest.vault.enclave.Keyed suite)
    (hcodec : honest.vault.codec = asked.vault.codec) {entropy : Entropy} {l : Listing}
    {body : Bytes} (hmanages : honest.vault.enclave.manages l.key = true)
    (hpost : (l, body) ∈ (asked.startDiscovery announced entropy).1.posts) :
    honest.answerChallenge body = .ok (asked.startDiscovery announced entropy).1.challenge := by
  obtain ⟨-, before, after, hseal⟩ := Discovery.of_mem_sealChallenges hpost
  rw [answerChallenge, hcodec]
  exact Challenge.answer_of_sealChallenge hopens hmutual hasked hhonest
    (Challenge.isWellFormed_ofBytes (Entropy.length_peek _ _)) hmanages hseal

end SealedExchange
