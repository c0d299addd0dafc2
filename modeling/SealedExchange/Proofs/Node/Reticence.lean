import SealedExchange.Proofs.Node.Posting
import SealedExchange.Proofs.Peer.Challenge

/-! # What challenges give away

Anybody who reaches a node may post it any payload as a challenge. The node answers with what the
payload opens to if that has the form of a challenge. In every other case the response does not
depend on it, so the node does not open stored messages for others.
-/

namespace SealedExchange

namespace Challenge

variable {e : Enclave} {codec : Codec} {p : Payload} {key : PublicKey} {text body : Bytes}

/-- The hexadecimal digits of either case. -/
def digits : Bytes := Text.Utf8.encode "0123456789ABCDEFabcdef"

/-- A text has the form of a challenge. -/
structure HasForm (text : Bytes) : Prop where
  length_eq : text.length = 64
  mem_digits : ∀ b ∈ text, b ∈ digits

theorem isHexDigit_iff (b : UInt8) : isHexDigit b = true ↔ b ∈ digits := by
  have hall : ∀ n < 256, isHexDigit (.ofNat n) = decide (UInt8.ofNat n ∈ digits) := by
    decide +kernel
  have hb := hall b.toNat b.toNat_lt
  rw [UInt8.ofNat_toNat] at hb
  rw [hb, decide_eq_true_iff]

theorem isWellFormed_iff : isWellFormed text = true ↔ HasForm text := by
  rw [isWellFormed, Bool.and_eq_true, decide_eq_true_iff, List.all_eq_true]
  simp only [isHexDigit_iff]
  exact ⟨fun h => ⟨h.1, h.2⟩, fun h => ⟨h.1, h.2⟩⟩

/-- A payload that is posted as a challenge opens to a text with a key, the first of its recipient
keys that is local. -/
structure OpensWith (e : Enclave) (p : Payload) (key : PublicKey) (text : Bytes) : Prop where
  first : p.keys.find? e.manages = some key
  opened : e.decrypt p key = .ok text

/-! ## Answers -/

theorem answer_of_opensWith (hdecode : codec.decode body = .ok p)
    (hopens : OpensWith e p key text) :
    answer e codec body = if isWellFormed text then .ok text else .error .notAChallenge := by
  rw [answer, hdecode, mapError_ok, ok_bind, hopens.first]
  simp only [hopens.opened, mapError_ok, ok_bind]

/-- A challenge is answered exactly by the text that it opens to, if this has the right form. -/
theorem answer_eq_ok_iff : answer e codec body = .ok text ↔
    HasForm text ∧ ∃ p key, codec.decode body = .ok p ∧ OpensWith e p key text := by
  constructor
  · intro hanswer
    obtain ⟨p, hdecode, hanswer⟩ := bind_eq_ok_iff.mp hanswer
    have hdecode := mapError_eq_ok_iff.mp hdecode
    split at hanswer
    next => cases hanswer
    next key hfirst =>
      obtain ⟨opened, hopened, hanswer⟩ := bind_eq_ok_iff.mp hanswer
      split at hanswer
      next hwell =>
        cases hanswer
        exact ⟨isWellFormed_iff.mp hwell, p, key, hdecode, hfirst, mapError_eq_ok_iff.mp hopened⟩
      next => cases hanswer
  · rintro ⟨hform, p, key, hdecode, hopens⟩
    rw [answer_of_opensWith hdecode hopens, if_pos (isWellFormed_iff.mpr hform)]

/-- A text without the form of a challenge is refused, whatever it is. -/
theorem answer_of_not_hasForm (hdecode : codec.decode body = .ok p)
    (hopens : OpensWith e p key text) (hform : ¬HasForm text) :
    answer e codec body = .error .notAChallenge := by
  rw [answer_of_opensWith hdecode hopens, if_neg (mt isWellFormed_iff.mp hform)]

/-- A payload that was sealed for a local key opens, with the first of its local keys. -/
theorem exists_opensWith_of_sealedFor {suite : CipherSuite} {message : Bytes} {sender : PublicKey}
    {recipients : List PublicKey} {metadata : Metadata} (hopens : suite.Opens)
    (hmutual : suite.Mutual) (he : e.Keyed suite)
    (hsealed : p.SealedFor suite message sender recipients metadata) {recipient : PublicKey}
    (hrecipient : recipient ∈ recipients) (hmanages : e.manages recipient = true) :
    ∃ key, OpensWith e p key message := by
  have hfound : (p.keys.find? e.manages).isSome := by
    rw [List.find?_isSome, hsealed.keys_eq]
    exact ⟨recipient, hrecipient, hmanages⟩
  obtain ⟨key, hkey⟩ := Option.isSome_iff_exists.mp hfound
  have hlisted : key ∈ recipients := hsealed.keys_eq ▸ List.mem_of_find?_eq_some hkey
  obtain ⟨secret, masterKey, hopen⟩ := hsealed.is_sealed
  obtain ⟨box, hbox⟩ := hsealed.boxed key hlisted
  exact ⟨key, hkey, Enclave.decrypt_of_sealed hopens hmutual he hopen (List.find?_some hkey) hbox⟩

end Challenge

theorem DiscoveryError.status_ne (reason : DiscoveryError) : reason.status ≠ 200 := by
  cases reason <;> simp [status]

namespace Node

open Challenge (HasForm OpensWith)

variable {n : Node} {body : Bytes} {entropy : Entropy}

/-- The request that posts a body as a challenge. -/
def challengePost (query : String) (body : Bytes) : Http.Request :=
  { method := "POST", path := "/partyinfo/validate", query, body }

/-- What a node says to those who post it challenges. -/
structure Reticent (suite : CipherSuite) (n : Node) : Prop where
  /-- An answer consists of 64 hexadecimal digits and is what the posted payload opens to with a
  local key that it lists. -/
  answers : ∀ query body entropy, ∃ response,
    n.handle (challengePost query body) entropy = (.answered (n.reply response), entropy) ∧
      (response.status = 200 → HasForm response.body ∧ ∃ p key,
        n.vault.codec.decode body = .ok p ∧ key ∈ p.keys ∧
          n.vault.enclave.manages key = true ∧ n.vault.enclave.decrypt p key = .ok response.body)
  /-- Payloads that open to other texts get the same response, whichever keys they list. -/
  refuses : ∀ query body body' entropy p p' key key' text text',
    n.vault.codec.decode body = .ok p → n.vault.codec.decode body' = .ok p' →
    OpensWith n.vault.enclave p key text → OpensWith n.vault.enclave p' key' text' →
    ¬HasForm text → ¬HasForm text' →
    n.handle (challengePost query body) entropy = n.handle (challengePost query body') entropy
  /-- So do payloads that anybody has sealed for the same keys, one of which is local. -/
  keeps : suite.Opens → suite.Mutual → n.vault.enclave.Keyed suite →
    ∀ query body body' entropy p p' message message' sender sender' recipients metadata metadata',
    p.SealedFor suite message sender recipients metadata →
    p'.SealedFor suite message' sender' recipients metadata' →
    (∃ recipient ∈ recipients, n.vault.enclave.manages recipient = true) →
    n.vault.codec.decode body = .ok p → n.vault.codec.decode body' = .ok p' →
    ¬HasForm message → ¬HasForm message' →
    n.handle (challengePost query body) entropy = n.handle (challengePost query body') entropy

theorem handle_challengePost (query : String) (body : Bytes) (entropy : Entropy) :
    n.handle (challengePost query body) entropy =
      (.answered (n.reply (n.challengeResponse body)), entropy) :=
  handle_challenge rfl rfl entropy

/-- The response to a challenge that is not answered says that it is an error. -/
theorem answerChallenge_of_status {body : Bytes}
    (hstatus : (n.challengeResponse body).status = 200) :
    n.answerChallenge body = .ok (n.challengeResponse body).body := by
  rw [challengeResponse] at hstatus ⊢
  split at hstatus
  next answer hanswer =>
    rw [hanswer]
    rfl
  next reason hreason => exact absurd hstatus reason.status_ne

/-- All payloads that open to a text without the form of a challenge get one and the same
response. -/
theorem handle_of_not_hasForm {p : Payload} {key : PublicKey} {text : Bytes}
    (hdecode : n.vault.codec.decode body = .ok p) (hopens : OpensWith n.vault.enclave p key text)
    (hform : ¬HasForm text) (query : String) (entropy : Entropy) :
    n.handle (challengePost query body) entropy =
      (.answered (n.reply DiscoveryError.notAChallenge.response), entropy) := by
  rw [handle_challengePost, challengeResponse, answerChallenge,
    Challenge.answer_of_not_hasForm hdecode hopens hform]

/-- A node that is posted challenges answers them with what they are, and with nothing else that it
can open. -/
theorem reticent_of_challengePost (suite : CipherSuite) (n : Node) : n.Reticent suite where
  answers query body entropy := by
    refine ⟨_, handle_challengePost query body entropy, fun hstatus => ?_⟩
    obtain ⟨hform, p, key, hdecode, hopens⟩ :=
      Challenge.answer_eq_ok_iff.mp (answerChallenge_of_status hstatus)
    exact ⟨hform, p, key, hdecode, List.mem_of_find?_eq_some hopens.first,
      List.find?_some hopens.first, hopens.opened⟩
  refuses query body body' entropy p p' key key' text text' hdecode hdecode' hopens hopens' hform
      hform' := by
    rw [handle_of_not_hasForm hdecode hopens hform, handle_of_not_hasForm hdecode' hopens' hform']
  keeps hsuite hmutual hkeyed query body body' entropy p p' message message' sender sender'
      recipients metadata metadata' hsealed hsealed' hlocal hdecode hdecode' hform hform' := by
    obtain ⟨recipient, hrecipient, hmanages⟩ := hlocal
    obtain ⟨key, hopens⟩ :=
      Challenge.exists_opensWith_of_sealedFor hsuite hmutual hkeyed hsealed hrecipient hmanages
    obtain ⟨key', hopens'⟩ :=
      Challenge.exists_opensWith_of_sealedFor hsuite hmutual hkeyed hsealed' hrecipient hmanages
    rw [handle_of_not_hasForm hdecode hopens hform, handle_of_not_hasForm hdecode' hopens' hform']

/-! ## Whispers -/

open CipherSuite (labelled)

/-- Another node may seal any message for the host and post it. -/
theorem exists_whisper (message : Bytes) : ∃ p body,
    p.SealedFor labelled message (.filled 2) [.filled 1] {} ∧
      host.vault.codec.decode body = .ok p := by
  have hsecret : (Vault.holding 2 []).keys.get? (.filled 2) = some (Vault.filledSecret 2) := by
    decide +kernel
  obtain ⟨draws, rest, -, hencrypt⟩ :=
    Enclave.encryptPayload_single hsecret message (.filled 1) (Vault.repeating 5)
  have hkeyed : (Vault.holding 2 []).Keyed labelled :=
    Enclave.keyed_of_ofSecrets? (Vault.ofSecrets?_holding 2 [])
  obtain ⟨hsealed, -⟩ :=
    Enclave.sealedFor_of_encryptPayload hkeyed (List.cons_ne_nil _ _) hencrypt
  have hcheck := Payload.check_eq_ok_iff.mpr hsealed.wellFormed
  exact ⟨_, _, hsealed, Codec.decode_of_encode hcheck rfl⟩

/-- A short message is refused as is one of the right length that is no hexadecimal number. -/
theorem reticent_of_challengePost_whispers : labelled.Opens ∧ labelled.Mutual ∧
    ∃ p p' body body', p.SealedFor labelled [7] (.filled 2) [.filled 1] {} ∧
      p'.SealedFor labelled (List.replicate 64 0x7a) (.filled 2) [.filled 1] {} ∧
      host.vault.codec.decode body = .ok p ∧ host.vault.codec.decode body' = .ok p' ∧
      host.handle (challengePost "" body) (Vault.repeating 5) =
        host.handle (challengePost "" body') (Vault.repeating 5) := by
  have hopens : labelled.Opens := CipherSuite.exact_labelled.opens_sealed
  have hmutual : labelled.Mutual := CipherSuite.mutual_labelled
  obtain ⟨p, body, hsealed, hdecode⟩ := exists_whisper [7]
  obtain ⟨p', body', hsealed', hdecode'⟩ := exists_whisper (List.replicate 64 0x7a)
  have hkeyed : host.vault.enclave.Keyed labelled :=
    Enclave.keyed_of_ofSecrets? (Vault.ofSecrets?_holding 1 [])
  have hlocal : host.vault.enclave.manages (.filled 1) = true := by decide +kernel
  have hform : ¬HasForm [7] := by
    rw [← Challenge.isWellFormed_iff]
    decide
  have hform' : ¬HasForm (List.replicate 64 0x7a) := by
    rw [← Challenge.isWellFormed_iff]
    decide +kernel
  refine ⟨hopens, hmutual, p, p', body, body', hsealed, hsealed', hdecode, hdecode', ?_⟩
  exact (reticent_of_challengePost labelled host).keeps hopens hmutual hkeyed
    "" body body' _ p p' _ _ _ _ _ _ _ hsealed hsealed' ⟨_, List.mem_cons_self, hlocal⟩ hdecode
    hdecode' hform hform'

end Node

end SealedExchange
