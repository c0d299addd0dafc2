import SealedExchange.Proofs.Exchange.EndToEnd

/-! # Who opens what was sealed

A payload that was sealed for recipients has two parties to each of its boxes: the recipient and the
sender. An enclave that has the secret of either of them opens the box, whichever way the message
was sealed. With neither secret, and with a key that is not listed, nothing opens.
-/

namespace SealedExchange.Enclave

variable {suite : CipherSuite} {e : Enclave} {sender key : PublicKey} {recipients : List PublicKey}
  {metadata : Metadata} {masterKey message : Bytes} {secret : SecretKey} {p : Payload}
  {entropy entropy' : Entropy}

/-- A payload is made of a message: at once, or after the message was sealed for its sender
alone. -/
inductive Seals (e : Enclave) (message : Bytes) (sender : PublicKey) (recipients : List PublicKey)
    (metadata : Metadata) : Payload → Prop
  | direct {p : Payload} {entropy entropy' : Entropy}
      (hencrypt :
        e.encryptPayload message sender recipients metadata entropy = (.ok p, entropy')) :
      Seals e message sender recipients metadata p
  | stored {raw : RawTransaction} {p : Payload} {before after entropy entropy' : Entropy}
      (hraw : e.encryptRaw message sender before = (.ok raw, after))
      (hencrypt : e.encryptRawPayload raw recipients metadata entropy = (.ok p, entropy')) :
      Seals e message sender recipients metadata p

theorem Seals.exists_addresses (hopens : e.suite.Opens)
    (hseals : e.Seals message sender recipients metadata p) :
    ∃ masterKey, e.Addresses masterKey message sender recipients metadata p := by
  cases hseals with
  | direct hencrypt => exact addresses_of_encryptPayload hencrypt
  | stored hraw hencrypt => exact addresses_of_encryptRawPayload hopens hraw hencrypt

/-! ## The two parties to a box -/

/-- The enclave that has the sender's secret opens every box, also those of keys that it does not
manage. -/
theorem decrypt_of_sender (hopens : suite.Opens) (hmutual : suite.Mutual) (he : e.Keyed suite)
    (hsealed : p.Sealed suite secret masterKey message)
    (hsecret : e.keys.get? p.sender = some secret) {box : Bytes}
    (hbox : p.boxFor? key = some box) : e.decrypt p key = .ok message := by
  by_cases hmanages : e.manages key = true
  · exact decrypt_of_sealed hopens hmutual he hsealed hmanages hbox
  · obtain ⟨rfl, -⟩ := he
    have hsender := manages_iff_exists_secret.mpr ⟨secret, hsecret⟩
    have hshared : e.openBoxKey p.sender key = .ok (e.suite.boxKey secret key) := by
      rw [openBoxKey, if_neg hmanages, if_pos hsender, boxKey_eq_ok_iff]
      exact ⟨secret, hsecret, rfl⟩
    exact decrypt_of_openBoxKey hopens hsealed hshared hbox

/-- A box is of no use to an enclave with the secret of neither party. -/
theorem decrypt_of_stranger {box : Bytes} (hbox : p.boxFor? key = some box)
    (hsender : e.manages p.sender = false) (hkey : e.manages key = false) :
    e.decrypt p key = .error (.keyNotManaged key.toBase64) := by
  have hkeyed : p.isLegacy ≠ true := Payload.not_isLegacy_of_boxFor? hbox
  have hshared : e.openBoxKey p.sender key = .error (.keyNotManaged key.toBase64) := by
    rw [openBoxKey, hkey, hsender]
    rfl
  rw [decrypt, boxToOpen_of_keyed hkeyed hbox, ok_bind, hshared, error_bind]

/-- A payload without recipients has no boxes, so the first box, which a payload that lists no keys
would be opened with, is missing too. -/
theorem decrypt_of_unlisted {e' : Enclave}
    (haddresses : e.Addresses masterKey message sender recipients metadata p)
    (hkey : key ∉ recipients) :
    e'.decrypt p key = .error (.missingRecipientBox key.toBase64) := by
  have hboxes := haddresses.boxes
  have hkeys := haddresses.keys_eq
  cases recipients with
  | nil =>
    have hlegacy : p.isLegacy = true := List.isEmpty_iff.mpr hkeys
    have hnone : p.boxes = [] := (Except.ok.inj hboxes).symm
    exact decrypt_of_no_box hlegacy hnone
  | cons first rest =>
    have hkeyed : p.isLegacy ≠ true :=
      Payload.not_isLegacy_iff.mpr (hkeys ▸ List.cons_ne_nil first rest)
    have hnone : p.boxFor? key = none := by
      refine Option.eq_none_iff_forall_ne_some.mpr fun box hbox => hkey ?_
      exact hkeys ▸ Payload.mem_keys_of_boxFor?_eq_some hbox
    exact decrypt_of_boxFor?_eq_none hkeyed hnone

/-! ## Everybody together -/

/-- An enclave shares a message with recipients: they open the payload and so does the enclave
itself, and nobody else does. -/
structure Shares (suite : CipherSuite) (e : Enclave) (message : Bytes) (sender : PublicKey)
    (recipients : List PublicKey) (p : Payload) : Prop where
  recipient : ∀ e' : Enclave, e'.Keyed suite → ∀ key ∈ recipients, e'.manages key = true →
    e'.decrypt p key = .ok message
  itself : ∀ key ∈ recipients, e.decrypt p key = .ok message
  stranger : ∀ e' : Enclave, ∀ key ∈ recipients, e'.manages sender = false →
    e'.manages key = false → e'.decrypt p key = .error (.keyNotManaged key.toBase64)
  unlisted : ∀ (e' : Enclave) (key : PublicKey), key ∉ recipients →
    e'.decrypt p key = .error (.missingRecipientBox key.toBase64)

theorem Addresses.shares (hopens : suite.Opens) (hmutual : suite.Mutual) (he : e.Keyed suite)
    (h : e.Addresses masterKey message sender recipients metadata p) :
    e.Shares suite message sender recipients p where
  recipient e' he' key hkey hmanages := by
    obtain ⟨box, hbox⟩ := (h.lookup key).2 hkey
    obtain ⟨secret, hsecret⟩ := h.exists_secret hkey
    exact decrypt_of_sealed hopens hmutual he' (h.sealed he hsecret) hmanages hbox
  itself key hkey := by
    obtain ⟨box, hbox⟩ := (h.lookup key).2 hkey
    obtain ⟨secret, hsecret⟩ := h.exists_secret hkey
    have hown : e.keys.get? p.sender = some secret := by rw [h.sender_eq, hsecret]
    exact decrypt_of_sender hopens hmutual he (h.sealed he hsecret) hown hbox
  stranger e' key hkey hsender hmanages := by
    obtain ⟨box, hbox⟩ := (h.lookup key).2 hkey
    rw [← h.sender_eq] at hsender
    exact decrypt_of_stranger hbox hsender hmanages
  unlisted _ _ hkey := decrypt_of_unlisted h hkey

/-- A message that its sender has sealed for itself can be read back. -/
theorem decryptRaw_of_encryptRaw (hopens : e.suite.Opens) {raw : RawTransaction}
    (hraw : e.encryptRaw message sender entropy = (.ok raw, entropy')) :
    e.decryptRaw raw = .ok message := by
  obtain ⟨masterKey, hmaster, hcipher, -, -, hnonce⟩ := rawMasterKey_of_encryptRaw hopens hraw
  rw [decryptRaw, hmaster, ok_bind, unsealed_eq_ok_iff, CipherSuite.open?, if_pos hnonce, hcipher,
    hopens]

/-- Whichever way a message is sealed, the recipients and the enclave that has sealed it open it to
the message, and nobody else does. What the enclave has sealed for the sender alone it reads
back. -/
theorem shares_of_seals (hopens : suite.Opens) (hmutual : suite.Mutual) (he : e.Keyed suite) :
    (∀ p, e.Seals message sender recipients metadata p →
      e.Shares suite message sender recipients p) ∧
    ∀ raw entropy entropy', e.encryptRaw message sender entropy = (.ok raw, entropy') →
      e.decryptRaw raw = .ok message := by
  refine ⟨fun p hseals => ?_, fun raw entropy entropy' hraw => ?_⟩
  · obtain ⟨masterKey, haddresses⟩ := hseals.exists_addresses (he.opens hopens)
    exact haddresses.shares hopens hmutual he
  · exact decryptRaw_of_encryptRaw (he.opens hopens) hraw

open Vault (holding repeating draft keyed_holding encryptRaw_repeating)

/-- The three recipients of the payloads below, of whom two are the same. -/
def trio : List PublicKey := [.filled 2, .filled 3, .filled 2]

theorem exists_seals_trio : ∃ p q, p ≠ q ∧
    (holding 1 []).Seals [7] (.filled 1) trio {} p ∧
    (holding 1 []).Seals [7] (.filled 1) trio {} q := by
  refine ⟨_, _, ?_, @Seals.direct _ _ _ _ _ _ (repeating 8) _ rfl,
    @Seals.stored _ _ _ _ _ _ _ _ _ (repeating 6) _ encryptRaw_repeating rfl⟩
  decide +kernel

/-- The sender's enclave opens the box of a key that it does not manage, in a payload that was
sealed at once and in one that was sealed later. -/
theorem shares_of_seals_trio : CipherSuite.labelled.Opens ∧ CipherSuite.labelled.Mutual ∧
    (holding 1 []).Keyed .labelled ∧ ∃ p q, p ≠ q ∧
    (∀ payload ∈ [p, q], (holding 1 []).Seals [7] (.filled 1) trio {} payload ∧
      (holding 2 []).decrypt payload (.filled 2) = .ok [7] ∧
      (holding 1 []).decrypt payload (.filled 3) = .ok [7] ∧
      (holding 4 []).decrypt payload (.filled 3) =
        .error (.keyNotManaged (PublicKey.filled 3).toBase64) ∧
      (holding 3 []).decrypt payload (.filled 1) =
        .error (.missingRecipientBox (PublicKey.filled 1).toBase64)) ∧
    (holding 1 []).decryptRaw draft = .ok [7] := by
  have hopens := CipherSuite.exact_labelled.opens_sealed
  obtain ⟨p, q, hne, hp, hq⟩ := exists_seals_trio
  obtain ⟨hshares, hreads⟩ := @shares_of_seals _ _ (.filled 1) trio {} [7] hopens
    CipherSuite.mutual_labelled (keyed_holding 1 [])
  refine ⟨hopens, CipherSuite.mutual_labelled, keyed_holding 1 [], p, q, hne, ?_,
    hreads draft _ _ encryptRaw_repeating⟩
  intro payload hpayload
  have hseals : (holding 1 []).Seals [7] (.filled 1) trio {} payload := by
    rcases List.mem_pair.mp hpayload with rfl | rfl
    · exact hp
    · exact hq
  have h := hshares payload hseals
  exact ⟨hseals, h.recipient _ (keyed_holding 2 []) (.filled 2) (by decide) (by decide +kernel),
    h.itself (.filled 3) (by decide),
    h.stranger _ (.filled 3) (by decide) (by decide +kernel) (by decide +kernel),
    h.unlisted _ (.filled 1) (by decide)⟩

end SealedExchange.Enclave
