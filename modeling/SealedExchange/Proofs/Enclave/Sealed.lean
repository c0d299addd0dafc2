import SealedExchange.Proofs.Enclave.Opening
import SealedExchange.Proofs.Enclave.Sealing
import SealedExchange.Proofs.Payload.Merge
import SealedExchange.Proofs.Sorted.Map

/-! # From sealing to opening

Each box of a sealed payload has the master key under a key that the sender shares with the owner of
the box. So whoever holds the secret of a key that has a box opens the payload to the message, and
this stays so when boxes, keys or claims are taken away.
-/

namespace SealedExchange

/-- A suite opens what it has sealed. -/
def CipherSuite.Opens (suite : CipherSuite) : Prop :=
  ∀ key nonce message, suite.decrypt? key nonce (suite.encrypt key nonce message) = some message

theorem CipherSuite.opens_standard : CipherSuite.standard.Opens :=
  Crypto.Gcm.decrypt?_encrypt

theorem CipherSuite.Exact.opens_sealed {suite : CipherSuite} (hexact : suite.Exact) : suite.Opens :=
  fun _ _ _ => hexact.opens.mpr rfl

/-- Two parties derive the same key for the boxes between them. -/
def CipherSuite.Mutual (suite : CipherSuite) : Prop :=
  ∀ a b, suite.boxKey a (suite.publicKey b) = suite.boxKey b (suite.publicKey a)

theorem CipherSuite.mutual_labelled : labelled.Mutual := by
  intro a b
  change Bytes.xor a.bytes b.bytes = Bytes.xor b.bytes a.bytes
  exact List.zipWith_comm_of_comm fun x y => UInt8.xor_comm x y

namespace Enclave

variable {suite : CipherSuite} {secrets : List SecretKey} {e e' : Enclave} {key : PublicKey}
  {secret : SecretKey}

/-! ## Enclaves made of secrets -/

theorem suite_of_ofSecrets? (he : ofSecrets? suite secrets = some e) : e.suite = suite := by
  obtain ⟨first, -, rfl⟩ := Option.map_eq_some_iff.mp he
  rfl

theorem get?_keys_of_ofSecrets? (he : ofSecrets? suite secrets = some e) (key : PublicKey) :
    e.keys.get? key = secrets.reverse.find? fun secret => suite.publicKey secret = key := by
  obtain ⟨first, -, rfl⟩ := Option.map_eq_some_iff.mp he
  rw [SortedMap.ofList, SortedMap.get?_insertAll, SortedMap.get?_empty, Option.or_none,
    ← List.map_reverse, List.find?_map, Option.map_map]
  exact Option.map_id'

theorem publicKey_of_ofSecrets? (he : ofSecrets? suite secrets = some e)
    (hsecret : e.keys.get? key = some secret) : suite.publicKey secret = key := by
  rw [get?_keys_of_ofSecrets? he] at hsecret
  simpa using List.find?_some hsecret

theorem exists_secret_defaultKey (he : ofSecrets? suite secrets = some e) :
    ∃ secret, e.keys.get? e.defaultKey = some secret := by
  rw [get?_keys_of_ofSecrets? he, ← Option.isSome_iff_exists, List.find?_isSome]
  obtain ⟨first, hfirst, rfl⟩ := Option.map_eq_some_iff.mp he
  exact ⟨first, List.mem_reverse.mpr (List.mem_of_mem_head? hfirst), by simp⟩

theorem manages_iff_exists_secret :
    e.manages key = true ↔ ∃ secret, e.keys.get? key = some secret := by
  rw [manages, SortedMap.contains_eq_isSome, Option.isSome_iff_exists]

theorem manages_iff_of_ofSecrets? (he : ofSecrets? suite secrets = some e) (key : PublicKey) :
    e.manages key = true ↔ ∃ secret ∈ secrets, suite.publicKey secret = key := by
  rw [manages_iff_exists_secret, get?_keys_of_ofSecrets? he, ← Option.isSome_iff_exists,
    List.find?_isSome]
  simp

theorem mem_managedKeys : key ∈ e.managedKeys ↔ e.manages key = true := by
  rw [managedKeys, SortedMap.mem_keys_iff, manages, SortedMap.contains_eq_isSome]

/-- The secrets of an enclave are those of the keys that it lists them under. -/
structure Keyed (suite : CipherSuite) (e : Enclave) : Prop where
  suite_eq : e.suite = suite
  publicKey_eq : ∀ key secret, e.keys.get? key = some secret → suite.publicKey secret = key

theorem keyed_of_ofSecrets? (he : ofSecrets? suite secrets = some e) : e.Keyed suite :=
  ⟨suite_of_ofSecrets? he, fun _ _ => publicKey_of_ofSecrets? he⟩

theorem Keyed.opens (he : e.Keyed suite) (hopens : suite.Opens) : e.suite.Opens :=
  he.suite_eq ▸ hopens

/-- It does not matter which keys messages are forwarded to. -/
theorem Keyed.forwarding (he : e.Keyed suite) (forwarding : SortedSet PublicKey) :
    ({ e with forwarding } : Enclave).Keyed suite :=
  ⟨he.suite_eq, he.publicKey_eq⟩

/-! ## What is sealed -/

/-- The random bytes of a payload have the lengths that opening it asks for. -/
structure PayloadDraws.Sized (draws : PayloadDraws) : Prop where
  masterKey : draws.masterKey.length = CipherSuite.masterKeyLength
  nonce : draws.nonce.length = CipherSuite.nonceLength
  recipientNonce : draws.recipientNonce.length = CipherSuite.nonceLength

theorem exists_draw {ε : Type} (entropy : Entropy) : ∃ draws rest,
    (PayloadDraws.draw : Drawing ε PayloadDraws) entropy = (.ok draws, rest) ∧ draws.Sized :=
  ⟨_, _, rfl, Entropy.length_peek _ _, Entropy.length_peek _ _, Entropy.length_peek _ _⟩

end Enclave

/-- The boxes of a payload hold its master key, each under the key that the sender shares with the
owner of the box, and the master key opens the ciphertext to a message. -/
structure Payload.Sealed (suite : CipherSuite) (secret : SecretKey) (masterKey message : Bytes)
    (p : Payload) : Prop where
  sender : suite.publicKey secret = p.sender
  cipherText : p.cipherText = suite.encrypt masterKey p.nonce message
  boxed : ∀ key box, p.boxFor? key = some box →
    box = suite.encrypt (suite.boxKey secret key) p.recipientNonce masterKey
  masterKey_length : masterKey.length = CipherSuite.masterKeyLength
  nonce_length : p.nonce.length = CipherSuite.nonceLength
  recipientNonce_length : p.recipientNonce.length = CipherSuite.nonceLength

namespace Payload.Sealed

variable {suite : CipherSuite} {secret : SecretKey} {masterKey message : Bytes} {p : Payload}

theorem withClaims (h : p.Sealed suite secret masterKey message)
    (affected : SortedMap MessageHash SecurityHash) :
    ({ p with affected } : Payload).Sealed suite secret masterKey message :=
  ⟨h.sender, h.cipherText, h.boxed, h.masterKey_length, h.nonce_length, h.recipientNonce_length⟩

theorem forRecipient (h : p.Sealed suite secret masterKey message) {copy : Payload}
    {recipient : PublicKey} (hcopy : p.forRecipient recipient = some copy) :
    copy.Sealed suite secret masterKey message := by
  obtain ⟨box, hbox, hboxed⟩ := boxed_of_forRecipient hcopy
  obtain ⟨_, -, rfl⟩ := forRecipient_eq_some_iff.mp hcopy
  refine ⟨h.sender, h.cipherText, fun key box' hbox' => ?_, h.masterKey_length, h.nonce_length,
    h.recipientNonce_length⟩
  rw [boxFor?, hboxed, List.lookup_cons, List.lookup_nil] at hbox'
  split at hbox'
  next heq =>
    cases hbox'
    rw [eq_of_beq heq]
    exact h.boxed _ _ hbox
  next => cases hbox'

end Payload.Sealed

/-- A payload that was made of a message for recipients. -/
structure Payload.SealedFor (suite : CipherSuite) (message : Bytes) (sender : PublicKey)
    (recipients : List PublicKey) (metadata : Metadata) (p : Payload) : Prop where
  is_sealed : ∃ secret masterKey, p.Sealed suite secret masterKey message
  wellFormed : p.WellFormed
  metadata_eq : p.toMetadata = metadata
  sender_eq : p.sender = sender
  keys_eq : p.keys = recipients
  boxed : ∀ key ∈ recipients, ∃ box, p.boxFor? key = some box

namespace Enclave

variable {suite : CipherSuite} {e : Enclave} {sender : PublicKey} {recipients : List PublicKey}
  {metadata : Metadata} {masterKey message : Bytes} {secret : SecretKey} {p : Payload}
  {entropy entropy' : Entropy}

theorem lookup_zip {R : PublicKey → Bytes → Prop} {keys : List PublicKey} {boxes : List Bytes}
    (hall : List.Forall₂ R keys boxes) (key : PublicKey) :
    (∀ box, (keys.zip boxes).lookup key = some box → R key box) ∧
      (key ∈ keys → ∃ box, (keys.zip boxes).lookup key = some box) := by
  induction hall with
  | nil => exact ⟨nofun, nofun⟩
  | @cons key' box' keys boxes hhead _ ih =>
    rw [List.zip_cons_cons, List.lookup_cons, List.mem_cons]
    cases heq : key == key' with
    | true =>
      rw [eq_of_beq heq]
      exact ⟨fun box hbox => Option.some.inj hbox ▸ hhead, fun _ => ⟨box', rfl⟩⟩
    | false =>
      exact ⟨ih.1, fun hmem => ih.2 (hmem.resolve_left (beq_eq_false_iff_ne.mp heq))⟩

/-- A payload was put together of a message for recipients: it has one box for each of them, and
their master key is the one that the message was sealed with. -/
structure Addresses (e : Enclave) (masterKey message : Bytes) (sender : PublicKey)
    (recipients : List PublicKey) (metadata : Metadata) (p : Payload) : Prop where
  boxes : e.sealBoxes sender masterKey p.recipientNonce recipients = .ok p.boxes
  cipherText : p.cipherText = e.suite.encrypt masterKey p.nonce message
  masterKey_length : masterKey.length = CipherSuite.masterKeyLength
  nonce_length : p.nonce.length = CipherSuite.nonceLength
  recipientNonce_length : p.recipientNonce.length = CipherSuite.nonceLength
  wellFormed : p.WellFormed
  metadata_eq : p.toMetadata = metadata
  sender_eq : p.sender = sender
  keys_eq : p.keys = recipients

namespace Addresses

/-- Each recipient has the box that the sender's secret gives it. -/
theorem lookup (h : e.Addresses masterKey message sender recipients metadata p) (key : PublicKey) :
    (∀ box, p.boxFor? key = some box → ∃ secret, e.keys.get? sender = some secret ∧
      box = e.suite.encrypt (e.suite.boxKey secret key) p.recipientNonce masterKey) ∧
    (key ∈ recipients → ∃ box, p.boxFor? key = some box) := by
  have hboxed : p.boxed = recipients.zip p.boxes := by rw [Payload.boxed, h.keys_eq]
  rw [Payload.boxFor?, hboxed]
  exact lookup_zip (sealBoxes_eq_ok h.boxes) key

/-- Whoever has sealed a payload for somebody has the secret of its sender. -/
theorem exists_secret (h : e.Addresses masterKey message sender recipients metadata p)
    {key : PublicKey} (hkey : key ∈ recipients) : ∃ secret, e.keys.get? sender = some secret := by
  obtain ⟨box, hbox⟩ := (h.lookup key).2 hkey
  obtain ⟨secret, hsecret, -⟩ := (h.lookup key).1 box hbox
  exact ⟨secret, hsecret⟩

theorem sealed (h : e.Addresses masterKey message sender recipients metadata p)
    (he : e.Keyed suite) (hsecret : e.keys.get? sender = some secret) :
    p.Sealed suite secret masterKey message := by
  refine ⟨?_, ?_, fun key box hbox => ?_, h.masterKey_length, h.nonce_length,
    h.recipientNonce_length⟩
  · rw [h.sender_eq]
    exact he.publicKey_eq _ _ hsecret
  · rw [h.cipherText, he.suite_eq]
  · obtain ⟨secret', hsecret', rfl⟩ := (h.lookup key).1 box hbox
    cases hsecret.symm.trans hsecret'
    rw [he.suite_eq]

/-- A payload for recipients, of which there is at least one, has a box for each of them. -/
theorem sealedFor (h : e.Addresses masterKey message sender recipients metadata p)
    (he : e.Keyed suite) (hne : recipients ≠ []) :
    p.SealedFor suite message sender recipients metadata ∧ e.manages sender = true := by
  obtain ⟨first, hfirst⟩ := List.exists_mem_of_ne_nil recipients hne
  obtain ⟨secret, hsecret⟩ := h.exists_secret hfirst
  exact ⟨⟨⟨secret, masterKey, h.sealed he hsecret⟩, h.wellFormed, h.metadata_eq, h.sender_eq,
    h.keys_eq, fun key => (h.lookup key).2⟩, manages_iff_exists_secret.mpr ⟨secret, hsecret⟩⟩

end Addresses

theorem addresses_of_encryptPayload
    (hencrypt : e.encryptPayload message sender recipients metadata entropy = (.ok p, entropy')) :
    ∃ masterKey, e.Addresses masterKey message sender recipients metadata p := by
  obtain ⟨draws, rest, hdraws, hsized⟩ := @exists_draw EnclaveError entropy
  obtain ⟨draws', rest', hdraws', hseal⟩ := encryptPayload_eq_ok hencrypt
  cases hdraws.symm.trans hdraws'
  obtain ⟨boxes, hboxes, hassemble⟩ := bind_eq_ok_iff.mp hseal
  obtain ⟨hwell, rfl⟩ := assemble_eq_ok_iff.mp hassemble
  exact ⟨draws.masterKey, hboxes, rfl, hsized.masterKey, hsized.nonce, hsized.recipientNonce,
    hwell, rfl, rfl, rfl⟩

theorem sealedFor_of_encryptPayload (he : e.Keyed suite) (hne : recipients ≠ [])
    (hencrypt : e.encryptPayload message sender recipients metadata entropy = (.ok p, entropy')) :
    p.SealedFor suite message sender recipients metadata ∧ e.manages sender = true := by
  obtain ⟨masterKey, haddresses⟩ := addresses_of_encryptPayload hencrypt
  exact haddresses.sealedFor he hne

/-- A message that its sender has sealed for itself opens to the master key that it was sealed
with. -/
theorem rawMasterKey_of_encryptRaw (hopens : e.suite.Opens) {raw : RawTransaction}
    (hraw : e.encryptRaw message sender entropy = (.ok raw, entropy')) :
    ∃ masterKey, e.rawMasterKey raw = .ok masterKey ∧
      raw.encryptedPayload = e.suite.encrypt masterKey raw.nonce message ∧ raw.sender = sender ∧
      masterKey.length = CipherSuite.masterKeyLength ∧
      raw.nonce.length = CipherSuite.nonceLength := by
  obtain ⟨masterKey, _, hmaster, hraw⟩ := Drawing.bind_eq_ok_iff.mp hraw
  obtain ⟨nonce, _, hnonce, hraw⟩ := Drawing.bind_eq_ok_iff.mp hraw
  have hmasterLength : masterKey.length = CipherSuite.masterKeyLength := by
    cases hmaster
    exact Entropy.length_peek _ _
  have hnonceLength : nonce.length = CipherSuite.nonceLength := by
    cases hnonce
    exact Entropy.length_peek _ _
  obtain ⟨key, hkey, hraw⟩ := bind_eq_ok_iff.mp (Drawing.ofExcept_eq_ok_iff.mp hraw).1
  cases hraw
  have hopen : e.suite.open? key nonce (e.suite.encrypt key nonce masterKey) = some masterKey := by
    rw [CipherSuite.open?, if_pos hnonceLength, hopens]
  refine ⟨masterKey, ?_, rfl, rfl, hmasterLength, hnonceLength⟩
  exact bind_eq_ok_iff.mpr ⟨key, hkey, unsealedMasterKey_eq_ok_iff.mpr ⟨hopen, hmasterLength⟩⟩

theorem addresses_of_encryptRawPayload (hopens : e.suite.Opens) {raw : RawTransaction}
    {before after : Entropy} (hraw : e.encryptRaw message sender before = (.ok raw, after))
    (hencrypt : e.encryptRawPayload raw recipients metadata entropy = (.ok p, entropy')) :
    ∃ masterKey, e.Addresses masterKey message sender recipients metadata p := by
  obtain ⟨masterKey, hmaster, hcipher, hsender, hmasterLength, hnonceLength⟩ :=
    rawMasterKey_of_encryptRaw hopens hraw
  obtain ⟨masterKey', hmaster', haddress⟩ := encryptRawPayload_eq_ok hencrypt
  cases hmaster.symm.trans hmaster'
  obtain ⟨boxes, hboxes, hassemble⟩ := bind_eq_ok_iff.mp haddress
  obtain ⟨hwell, rfl⟩ := assemble_eq_ok_iff.mp hassemble
  rw [hsender] at hboxes
  exact ⟨masterKey, hboxes, hcipher, hmasterLength, hnonceLength, Entropy.length_peek _ _, hwell,
    rfl, hsender, rfl⟩

theorem sealedFor_of_encryptRawPayload (hopens : suite.Opens) (he : e.Keyed suite)
    (hne : recipients ≠ []) {raw : RawTransaction} {before after : Entropy}
    (hraw : e.encryptRaw message sender before = (.ok raw, after))
    (hencrypt : e.encryptRawPayload raw recipients metadata entropy = (.ok p, entropy')) :
    p.SealedFor suite message sender recipients metadata ∧ e.manages sender = true := by
  obtain ⟨masterKey, haddresses⟩ := addresses_of_encryptRawPayload (he.opens hopens) hraw hencrypt
  exact haddresses.sealedFor he hne

/-! ## What is opened -/

/-- Whoever derives the key of a box opens a sealed payload with it. -/
theorem decrypt_of_openBoxKey (hopens : e.suite.Opens)
    (hsealed : p.Sealed e.suite secret masterKey message) {key : PublicKey} {box : Bytes}
    (hshared : e.openBoxKey p.sender key = .ok (e.suite.boxKey secret key))
    (hbox : p.boxFor? key = some box) : e.decrypt p key = .ok message := by
  have hbox' : boxToOpen p key = .ok box :=
    boxToOpen_of_keyed (Payload.not_isLegacy_of_boxFor? hbox) hbox
  have hopenKey : e.suite.open? (e.suite.boxKey secret key) p.recipientNonce box =
      some masterKey := by
    rw [CipherSuite.open?, if_pos hsealed.recipientNonce_length, hsealed.boxed key box hbox, hopens]
  have hopenMessage : e.suite.open? masterKey p.nonce p.cipherText = some message := by
    rw [CipherSuite.open?, if_pos hsealed.nonce_length, hsealed.cipherText, hopens]
  rw [decrypt, hbox', ok_bind, hshared, ok_bind,
    unsealedMasterKey_eq_ok_iff.mpr ⟨hopenKey, hsealed.masterKey_length⟩, ok_bind,
    unsealed_eq_ok_iff, hopenMessage]

/-- The holder of a key that has a box opens a sealed payload. -/
theorem decrypt_of_sealed (hopens : suite.Opens) (hmutual : suite.Mutual) (he : e.Keyed suite)
    (hsealed : p.Sealed suite secret masterKey message) {key : PublicKey} {box : Bytes}
    (hmanages : e.manages key = true) (hbox : p.boxFor? key = some box) :
    e.decrypt p key = .ok message := by
  obtain ⟨rfl, hpublic⟩ := he
  obtain ⟨secret', hsecret'⟩ := manages_iff_exists_secret.mp hmanages
  -- The owner of the box and the sender derive the key of the box from either side.
  have hshared : e.openBoxKey p.sender key = .ok (e.suite.boxKey secret key) := by
    rw [openBoxKey, if_pos hmanages, boxKey_eq_ok_iff]
    refine ⟨secret', hsecret', ?_⟩
    rw [← hsealed.sender, hmutual, hpublic key secret' hsecret']
  exact decrypt_of_openBoxKey hopens hsealed hshared hbox

theorem decryptWith_of_sealed (hopens : suite.Opens) (hmutual : suite.Mutual) (he : e.Keyed suite)
    (hsealed : p.Sealed suite secret masterKey message) {key : PublicKey} {box : Bytes}
    (hmanages : e.manages key = true) (hbox : p.boxFor? key = some box) :
    e.decryptWith p key = .ok message := by
  rw [decryptWith_of_keyed (Payload.not_isLegacy_of_boxFor? hbox)]
  exact decrypt_of_sealed hopens hmutual he hsealed hmanages hbox

theorem decrypt_of_boxFor?_eq_none (hkeyed : p.isLegacy ≠ true) {key : PublicKey}
    (hbox : p.boxFor? key = none) :
    e.decrypt p key = .error (.missingRecipientBox key.toBase64) := by
  rw [decrypt, boxToOpen, if_neg hkeyed, hbox]
  rfl

/-- A listed key without a box is passed over. -/
theorem decryptWith_of_no_box (hkeyed : p.isLegacy ≠ true) {key : PublicKey}
    (hbox : p.boxFor? key = none) :
    e.decryptWith p key = .error (.missingRecipientBox key.toBase64) := by
  rw [decryptWith_of_keyed hkeyed]
  exact decrypt_of_boxFor?_eq_none hkeyed hbox

theorem exists_firstOpening {keys : List PublicKey}
    (hsome : ∃ key ∈ keys, e.decryptWith p key = .ok message)
    (honly : ∀ key ∈ keys, ∀ opened, e.decryptWith p key = .ok opened → opened = message) :
    ∃ key ∈ keys, e.firstOpening p keys = some (key, message) := by
  induction keys with
  | nil =>
    obtain ⟨key, hkey, -⟩ := hsome
    cases hkey
  | cons head rest ih =>
    rw [firstOpening]
    cases hhead : e.decryptWith p head with
    | ok opened =>
      cases honly head List.mem_cons_self opened hhead
      exact ⟨head, List.mem_cons_self, rfl⟩
    | error reason =>
      obtain ⟨key, hkey, hopens⟩ := hsome
      rcases List.mem_cons.mp hkey with rfl | hkey
      · cases hhead.symm.trans hopens
      · obtain ⟨found, hfound, heq⟩ :=
          ih ⟨key, hkey, hopens⟩ fun key hkey => honly key (.tail _ hkey)
        exact ⟨found, .tail _ hfound, heq⟩

/-- Trying the listed keys that are managed opens a sealed payload if one of them has a box. -/
theorem exists_searchDecrypt_of_sealed (hopens : suite.Opens) (hmutual : suite.Mutual)
    (he : e.Keyed suite) (hsealed : p.Sealed suite secret masterKey message) {key : PublicKey}
    {box : Bytes} (hmanages : e.manages key = true) (hbox : p.boxFor? key = some box) :
    ∃ found, e.searchDecrypt p = .ok (found, message) := by
  have hlisted := Payload.mem_keys_of_boxFor?_eq_some hbox
  have hkeyed : p.isLegacy ≠ true := Payload.not_isLegacy_of_boxFor? hbox
  have hcandidate : ∀ other,
      other ∈ e.candidateKeys p ↔ e.manages other = true ∧ other ∈ p.keys := by
    intro other
    rw [candidateKeys, if_neg hkeyed, List.mem_filter, decide_eq_true_iff, mem_managedKeys]
  have honly : ∀ other ∈ e.candidateKeys p, ∀ opened, e.decryptWith p other = .ok opened →
      opened = message := by
    intro other hother opened hopened
    cases hbox' : p.boxFor? other with
    | some box' =>
      have hmessage := decryptWith_of_sealed hopens hmutual he hsealed
        ((hcandidate other).mp hother).1 hbox'
      cases hopened.symm.trans hmessage
      rfl
    | none => cases hopened.symm.trans (decryptWith_of_no_box hkeyed hbox')
  obtain ⟨found, -, hfound⟩ := exists_firstOpening
    ⟨key, (hcandidate key).mpr ⟨hmanages, hlisted⟩,
      decryptWith_of_sealed hopens hmutual he hsealed hmanages hbox⟩ honly
  exact ⟨found, by rw [searchDecrypt, hfound]⟩

end Enclave

end SealedExchange
