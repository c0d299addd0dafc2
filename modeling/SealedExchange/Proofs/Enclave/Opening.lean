import Mathlib.Data.List.Basic
import SealedExchange.Exchange.Opening
import SealedExchange.Proofs.Success

/-! # What an enclave opens

If a suite opens exactly what was sealed under the same key and nonce, then a box opens a payload
exactly if it holds the payload's master key in the terms of the payload: under the key that its
sender shares and under the nonce of its boxes. Two payloads of one ciphertext never open to
different messages.
-/

namespace SealedExchange

namespace CipherSuite

variable {suite : CipherSuite}

/-- A suite opens exactly what was sealed under the same key and nonce. -/
structure Exact (suite : CipherSuite) : Prop where
  opens : ∀ {key nonce sealed message : Bytes},
    suite.decrypt? key nonce sealed = some message ↔ sealed = suite.encrypt key nonce message
  injective : ∀ {key nonce message key' nonce' message' : Bytes},
    suite.encrypt key nonce message = suite.encrypt key' nonce' message' →
      key = key' ∧ nonce = nonce' ∧ message = message'

theorem Exact.open?_eq_some_iff (hexact : suite.Exact) {key nonce sealed message : Bytes} :
    suite.open? key nonce sealed = some message ↔
      nonce.length = nonceLength ∧ sealed = suite.encrypt key nonce message := by
  rw [open?]
  split
  next hlength =>
    rw [hexact.opens]
    exact (and_iff_right hlength).symm
  next hlength =>
    constructor
    · intro h
      cases h
    · rintro ⟨hlength', -⟩
      exact absurd hlength' hlength

/-! ## A suite that hides nothing -/

/-- A byte string with a mark before each byte and another one at the end. -/
def framed : Bytes → Bytes
  | [] => [0]
  | b :: rest => 1 :: b :: framed rest

theorem length_framed (bytes : Bytes) : (framed bytes).length = 2 * bytes.length + 1 := by
  induction bytes with
  | nil => rfl
  | cons b rest ih =>
    rw [framed, List.length_cons, List.length_cons, ih, List.length_cons]
    omega

theorem framed_append_inj {a b r s : Bytes} (h : framed a ++ r = framed b ++ s) :
    a = b ∧ r = s := by
  induction a generalizing b with
  | nil =>
    cases b with
    | nil => simpa [framed] using h
    | cons y b => simp [framed] at h
  | cons x a ih =>
    cases b with
    | nil => simp [framed] at h
    | cons y b =>
      simp only [framed, List.cons_append, List.cons.injEq, true_and] at h
      obtain ⟨rfl, h⟩ := h
      obtain ⟨rfl, rfl⟩ := ih h
      exact ⟨rfl, rfl⟩

/-- A suite whose sealed messages show the key and the nonce. It keeps no secret, but it opens
exactly what was sealed. -/
def labelled : CipherSuite where
  publicKey secret := ⟨secret.bytes, secret.length_eq⟩
  agree secret other := Bytes.xor secret.bytes other.bytes
  derive shared := shared
  encrypt key nonce message := framed key ++ (framed nonce ++ message)
  decrypt? key nonce sealed := sealed.dropPrefix? (framed key ++ framed nonce)
  stretch password _ := password

theorem exact_labelled : labelled.Exact where
  opens {key nonce sealed message} := by
    change sealed.dropPrefix? (framed key ++ framed nonce) = some message ↔
      sealed = framed key ++ (framed nonce ++ message)
    rw [List.dropPrefix?_eq_some_iff]
    simp [List.append_assoc]
  injective {key nonce message key' nonce' message'} h := by
    obtain ⟨hkey, h⟩ := framed_append_inj h
    exact ⟨hkey, framed_append_inj h⟩

end CipherSuite

namespace Enclave

variable {e : Enclave} {p q : Payload} {key : PublicKey} {box message : Bytes}

theorem unsealed_eq_ok_iff {nonce sealed : Bytes} {k : Bytes} :
    e.unsealed k nonce sealed = .ok message ↔ e.suite.open? k nonce sealed = some message := by
  rw [unsealed]
  cases e.suite.open? k nonce sealed <;> simp

theorem unsealedMasterKey_eq_ok_iff {nonce sealed : Bytes} {k masterKey : Bytes} :
    e.unsealedMasterKey k nonce sealed = .ok masterKey ↔
      e.suite.open? k nonce sealed = some masterKey ∧
        masterKey.length = CipherSuite.masterKeyLength := by
  rw [unsealedMasterKey, bind_eq_ok_iff]
  constructor
  · rintro ⟨opened, hopened, h⟩
    split at h
    next hlength =>
      cases h
      exact ⟨unsealed_eq_ok_iff.mp hopened, hlength⟩
    next => cases h
  · rintro ⟨hopen, hlength⟩
    exact ⟨masterKey, unsealed_eq_ok_iff.mpr hopen, if_pos hlength⟩

/-! ## Boxes in the terms of a payload -/

/-- A box holds the master key of a payload for a key in the terms of the payload, and the master
key opens the payload to a message. -/
structure Unlocks (e : Enclave) (p : Payload) (key : PublicKey)
    (box message shared masterKey : Bytes) : Prop where
  shared_eq : e.openBoxKey p.sender key = .ok shared
  recipientNonce_length : p.recipientNonce.length = CipherSuite.nonceLength
  masterKey_length : masterKey.length = CipherSuite.masterKeyLength
  nonce_length : p.nonce.length = CipherSuite.nonceLength
  box_eq : box = e.suite.encrypt shared p.recipientNonce masterKey
  cipherText_eq : p.cipherText = e.suite.encrypt masterKey p.nonce message

/-- Two payloads agree on what a box for a key is sealed with. -/
structure SameTerms (e : Enclave) (p q : Payload) (key : PublicKey) : Prop where
  shared : e.openBoxKey p.sender key = e.openBoxKey q.sender key
  recipientNonce : p.recipientNonce = q.recipientNonce
  nonce : p.nonce = q.nonce

theorem decrypt_eq_ok_iff (hexact : e.suite.Exact) : e.decrypt p key = .ok message ↔
    ∃ box shared masterKey, boxToOpen p key = .ok box ∧
      e.Unlocks p key box message shared masterKey := by
  rw [decrypt, bind_eq_ok_iff]
  constructor
  · rintro ⟨box, hbox, h⟩
    obtain ⟨shared, hshared, h⟩ := bind_eq_ok_iff.mp h
    obtain ⟨masterKey, hmaster, hmessage⟩ := bind_eq_ok_iff.mp h
    obtain ⟨hopen, hlength⟩ := unsealedMasterKey_eq_ok_iff.mp hmaster
    obtain ⟨hrecipientNonce, hboxEq⟩ := hexact.open?_eq_some_iff.mp hopen
    obtain ⟨hnonce, hcipher⟩ := hexact.open?_eq_some_iff.mp (unsealed_eq_ok_iff.mp hmessage)
    exact ⟨box, shared, masterKey, hbox, hshared, hrecipientNonce, hlength, hnonce, hboxEq, hcipher⟩
  · rintro ⟨box, shared, masterKey, hbox, h⟩
    have hopen := hexact.open?_eq_some_iff.mpr ⟨h.recipientNonce_length, h.box_eq⟩
    have hmessage := hexact.open?_eq_some_iff.mpr ⟨h.nonce_length, h.cipherText_eq⟩
    refine ⟨box, hbox, bind_eq_ok_iff.mpr ⟨shared, h.shared_eq, bind_eq_ok_iff.mpr
      ⟨masterKey, ?_, unsealed_eq_ok_iff.mpr hmessage⟩⟩⟩
    exact unsealedMasterKey_eq_ok_iff.mpr ⟨hopen, h.masterKey_length⟩

/-- Whichever boxes and keys open two payloads of one ciphertext, the message is the same. -/
theorem message_eq_of_decrypt (hexact : e.suite.Exact) (hcipher : p.cipherText = q.cipherText)
    {key' : PublicKey} {message' : Bytes} (hp : e.decrypt p key = .ok message)
    (hq : e.decrypt q key' = .ok message') : message = message' := by
  obtain ⟨_, _, _, _, hp⟩ := (decrypt_eq_ok_iff hexact).mp hp
  obtain ⟨_, _, _, _, hq⟩ := (decrypt_eq_ok_iff hexact).mp hq
  have hsame := hp.cipherText_eq.symm.trans (hcipher.trans hq.cipherText_eq)
  exact (hexact.injective hsame).2.2

/-- A box that opens one payload opens another of the same ciphertext if and only if both use the
same terms. -/
theorem decrypt_iff_sameTerms (hexact : e.suite.Exact) (hcipher : q.cipherText = p.cipherText)
    (hbox : boxToOpen q key = boxToOpen p key) (hp : e.decrypt p key = .ok message) :
    e.decrypt q key = .ok message ↔ e.SameTerms q p key := by
  obtain ⟨box, shared, masterKey, hboxp, hp⟩ := (decrypt_eq_ok_iff hexact).mp hp
  rw [decrypt_eq_ok_iff hexact, hbox, hboxp]
  constructor
  · rintro ⟨box', shared', masterKey', hboxq, hq⟩
    cases hboxq
    -- One box sealed twice has one key, one nonce and one master key.
    obtain ⟨rfl, hrecipientNonce, rfl⟩ := hexact.injective (hq.box_eq.symm.trans hp.box_eq)
    have hsame := hq.cipherText_eq.symm.trans (hcipher.trans hp.cipherText_eq)
    exact ⟨hq.shared_eq.trans hp.shared_eq.symm, hrecipientNonce, (hexact.injective hsame).2.1⟩
  · intro hterms
    refine ⟨box, shared, masterKey, rfl, hterms.shared.trans hp.shared_eq, ?_, hp.masterKey_length,
      ?_, ?_, ?_⟩
    · rw [hterms.recipientNonce, hp.recipientNonce_length]
    · rw [hterms.nonce, hp.nonce_length]
    · rw [hterms.recipientNonce, hp.box_eq]
    · rw [hterms.nonce, hcipher, hp.cipherText_eq]

/-! ## Trying boxes -/

theorem decryptWith_of_keyed (hkeyed : p.isLegacy ≠ true) :
    e.decryptWith p key = e.decrypt p key := by
  rw [decryptWith, if_neg fun h => hkeyed h.1]

/-- Trying the boxes one after the other finds whatever any of them holds. -/
theorem decryptAny_eq_ok_iff (hexact : e.suite.Exact) {last : EnclaveError} {boxes : List Bytes} :
    e.decryptAny p key last boxes = .ok message ↔
      ∃ box ∈ boxes, e.decrypt (p.withBox box) key = .ok message := by
  induction boxes generalizing last with
  | nil => simp [decryptAny]
  | cons box rest ih =>
    rw [decryptAny]
    cases hhead : e.decrypt (p.withBox box) key with
    | error reason =>
      simp only [ih, List.mem_cons, exists_eq_or_imp, hhead, reduceCtorEq, false_or]
    -- The first box that opens ends the search; a later one would give the same message.
    | ok opened =>
      constructor
      · intro h
        cases h
        exact ⟨box, List.mem_cons_self, hhead⟩
      · rintro ⟨other, -, hother⟩
        have hsame : (p.withBox box).cipherText = (p.withBox other).cipherText := rfl
        exact congrArg Except.ok (message_eq_of_decrypt hexact hsame hhead hother)

theorem boxToOpen_of_keyed (hkeyed : p.isLegacy ≠ true) (hbox : p.boxFor? key = some box) :
    boxToOpen p key = .ok box := by
  rw [boxToOpen, if_neg hkeyed, hbox]

theorem decrypt_of_no_box (hlegacy : p.isLegacy = true) (hboxes : p.boxes = []) :
    e.decrypt p key = .error (.missingRecipientBox key.toBase64) := by
  rw [decrypt, boxToOpen, if_pos hlegacy, hboxes]
  rfl

theorem decrypt_withBox_head {rest : List Bytes} (hlegacy : p.isLegacy = true)
    (hboxes : p.boxes = box :: rest) : e.decrypt (p.withBox box) key = e.decrypt p key := by
  have hsame : boxToOpen (p.withBox box) key = boxToOpen p key := by
    rw [boxToOpen, boxToOpen, if_pos hlegacy, hboxes,
      if_pos (show (p.withBox box).isLegacy = true from hlegacy)]
    rfl
  rw [decrypt, hsame]
  rfl

/-- A legacy payload with at most one box is no special case of trying all boxes. -/
theorem decryptWith_of_legacy (hlegacy : p.isLegacy = true) : e.decryptWith p key =
    e.decryptAny p key (.missingRecipientBox key.toBase64) p.boxes := by
  rw [decryptWith]
  split
  next => rfl
  next hfew =>
    have hlength : p.boxes.length ≤ 1 := Nat.not_lt.mp fun h => hfew ⟨hlegacy, h⟩
    cases hboxes : p.boxes with
    | nil => rw [decrypt_of_no_box hlegacy hboxes, decryptAny]
    | cons box rest =>
      rw [hboxes, List.length_cons] at hlength
      have hrest : rest = [] := List.eq_nil_of_length_eq_zero (by omega)
      rw [hrest, decryptAny, decrypt_withBox_head hlegacy hboxes]
      cases e.decrypt p key <;> rfl

/-- A key opens a legacy payload if and only if one of its boxes is for the key. -/
theorem decryptWith_legacy_iff (hexact : e.suite.Exact) (hlegacy : p.isLegacy = true) :
    e.decryptWith p key = .ok message ↔
      ∃ box ∈ p.boxes, e.decrypt (p.withBox box) key = .ok message := by
  rw [decryptWith_of_legacy hlegacy, decryptAny_eq_ok_iff hexact]

/-- What a key opens alone, it also opens when all boxes are tried. -/
theorem decryptWith_of_decrypt (hexact : e.suite.Exact) (h : e.decrypt p key = .ok message) :
    e.decryptWith p key = .ok message := by
  by_cases hlegacy : p.isLegacy = true
  · cases hboxes : p.boxes with
    | nil =>
      rw [decrypt_of_no_box hlegacy hboxes] at h
      cases h
    | cons box rest =>
      have hopens : e.decrypt (p.withBox box) key = .ok message := by
        rw [← h, decrypt_withBox_head hlegacy hboxes]
      exact (decryptWith_legacy_iff hexact hlegacy).mpr
        ⟨box, hboxes ▸ List.mem_cons_self, hopens⟩
  · rw [decryptWith_of_keyed hlegacy, h]

end Enclave

end SealedExchange
