import Mathlib.Data.List.Forall2
import SealedExchange.Enclave.Basic
import SealedExchange.Proofs.Payload.WellFormed

/-! # What an enclave seals

A computation that draws random bytes succeeds when each of its steps does. What an enclave seals
has one box for each recipient, made with the key that the sender and the recipient share.
-/

namespace SealedExchange

namespace Drawing

variable {ε ε' α β : Type} {e e' : Entropy}

theorem bind_eq_ok_iff {x : Drawing ε α} {f : α → Drawing ε β} {b : β} :
    (x >>= f) e = (.ok b, e') ↔ ∃ a e₁, x e = (.ok a, e₁) ∧ f a e₁ = (.ok b, e') := by
  rcases hx : x e with ⟨reason | a, e₁⟩
  · rw [bind_of_error hx]
    constructor
    · intro h
      cases h
    · rintro ⟨a, e₂, h, -⟩
      cases h
  · rw [bind_of_ok hx]
    constructor
    · intro h
      exact ⟨a, e₁, rfl, h⟩
    · rintro ⟨a', e₂, h, hf⟩
      cases h
      exact hf

theorem ofExcept_eq_ok_iff {r : Except ε α} {a : α} :
    ofExcept r e = (.ok a, e') ↔ r = .ok a ∧ e = e' := by
  rw [ofExcept, Prod.mk.injEq]

theorem mapError_eq_ok_iff {f : ε → ε'} {d : Drawing ε α} {a : α} :
    mapError f d e = (.ok a, e') ↔ d e = (.ok a, e') := by
  change ((d e).1.mapError f, (d e).2) = _ ↔ _
  rw [Prod.mk.injEq, SealedExchange.mapError_eq_ok_iff, ← Prod.mk.injEq]
  exact Iff.rfl

end Drawing

namespace Enclave

variable {e : Enclave} {p : Payload} {sender : PublicKey} {recipients : List PublicKey}
  {metadata : Metadata}

theorem secretOf_eq_ok_iff {key : PublicKey} {secret : SecretKey} :
    e.secretOf key = .ok secret ↔ e.keys.get? key = some secret := by
  rw [secretOf]
  cases e.keys.get? key <;> simp

theorem boxKey_eq_ok_iff {key other : PublicKey} {shared : Bytes} :
    e.boxKey key other = .ok shared ↔
      ∃ secret, e.keys.get? key = some secret ∧ shared = e.suite.boxKey secret other := by
  rw [boxKey, bind_eq_ok_iff]
  constructor
  · rintro ⟨secret, hsecret, hshared⟩
    cases hshared
    exact ⟨secret, secretOf_eq_ok_iff.mp hsecret, rfl⟩
  · rintro ⟨secret, hsecret, rfl⟩
    exact ⟨secret, secretOf_eq_ok_iff.mpr hsecret, rfl⟩

/-- Each box holds the master key under the key that the sender shares with the recipient. -/
theorem sealBoxes_eq_ok {masterKey nonce : Bytes} {boxes : List Bytes}
    (hboxes : e.sealBoxes sender masterKey nonce recipients = .ok boxes) :
    List.Forall₂ (fun recipient box => ∃ secret, e.keys.get? sender = some secret ∧
        box = e.suite.encrypt (e.suite.boxKey secret recipient) nonce masterKey)
      recipients boxes := by
  induction recipients generalizing boxes with
  | nil =>
    cases hboxes
    exact .nil
  | cons recipient rest ih =>
    obtain ⟨shared, hshared, hboxes⟩ := bind_eq_ok_iff.mp hboxes
    obtain ⟨more, hmore, hboxes⟩ := bind_eq_ok_iff.mp hboxes
    obtain ⟨secret, hsecret, rfl⟩ := boxKey_eq_ok_iff.mp hshared
    cases hboxes
    exact .cons ⟨secret, hsecret, rfl⟩ (ih hmore)

theorem assemble_eq_ok_iff {cipherText nonce recipientNonce : Bytes} {boxes : List Bytes} :
    assemble sender cipherText nonce boxes recipientNonce recipients metadata = .ok p ↔
      p.WellFormed ∧
        p = { metadata with
          sender, cipherText, nonce, boxes, recipientNonce, keys := recipients } := by
  rw [assemble, SealedExchange.mapError_eq_ok_iff, Payload.checked_eq_ok_iff]
  constructor
  · rintro ⟨hwell, rfl⟩
    exact ⟨hwell, rfl⟩
  · rintro ⟨hwell, rfl⟩
    exact ⟨hwell, rfl⟩

theorem wellFormed_of_sealWith {draws : PayloadDraws} {message : Bytes}
    (hseal : e.sealWith draws message sender recipients metadata = .ok p) : p.WellFormed := by
  obtain ⟨boxes, -, hassemble⟩ := bind_eq_ok_iff.mp hseal
  exact (assemble_eq_ok_iff.mp hassemble).1

/-- What is sealed for recipients lists them in their order and carries the metadata. -/
theorem frame_of_sealWith {draws : PayloadDraws} {message : Bytes}
    (hseal : e.sealWith draws message sender recipients metadata = .ok p) :
    p.keys = recipients ∧ p.toMetadata = metadata ∧ p.sender = sender := by
  obtain ⟨boxes, -, hassemble⟩ := bind_eq_ok_iff.mp hseal
  obtain ⟨-, rfl⟩ := assemble_eq_ok_iff.mp hassemble
  exact ⟨rfl, rfl, rfl⟩

theorem wellFormed_of_addressWith {masterKey recipientNonce : Bytes} {raw : RawTransaction}
    (haddress : e.addressWith masterKey recipientNonce raw recipients metadata = .ok p) :
    p.WellFormed := by
  obtain ⟨boxes, -, hassemble⟩ := bind_eq_ok_iff.mp haddress
  exact (assemble_eq_ok_iff.mp hassemble).1

theorem frame_of_addressWith {masterKey recipientNonce : Bytes} {raw : RawTransaction}
    (haddress : e.addressWith masterKey recipientNonce raw recipients metadata = .ok p) :
    p.keys = recipients ∧ p.toMetadata = metadata ∧ p.sender = raw.sender := by
  obtain ⟨boxes, -, hassemble⟩ := bind_eq_ok_iff.mp haddress
  obtain ⟨-, rfl⟩ := assemble_eq_ok_iff.mp hassemble
  exact ⟨rfl, rfl, rfl⟩

variable {entropy entropy' : Entropy}

/-- Which random bytes go into a payload depends on the sequence that they are drawn from alone. -/
theorem encryptPayload_eq_ok {message : Bytes}
    (hencrypt : e.encryptPayload message sender recipients metadata entropy =
      (.ok p, entropy')) :
    ∃ draws rest, (PayloadDraws.draw : Drawing EnclaveError _) entropy = (.ok draws, rest) ∧
      e.sealWith draws message sender recipients metadata = .ok p := by
  obtain ⟨draws, rest, hdraws, hseal⟩ := Drawing.bind_eq_ok_iff.mp hencrypt
  exact ⟨draws, rest, hdraws, (Drawing.ofExcept_eq_ok_iff.mp hseal).1⟩

theorem encryptRawPayload_eq_ok {raw : RawTransaction}
    (hencrypt : e.encryptRawPayload raw recipients metadata entropy = (.ok p, entropy')) :
    ∃ masterKey, e.rawMasterKey raw = .ok masterKey ∧
      e.addressWith masterKey (entropy.peek CipherSuite.nonceLength) raw recipients metadata =
        .ok p := by
  obtain ⟨masterKey, _, hopened, hencrypt⟩ := Drawing.bind_eq_ok_iff.mp hencrypt
  obtain ⟨hmaster, rfl⟩ := Drawing.ofExcept_eq_ok_iff.mp hopened
  obtain ⟨recipientNonce, _, hnonce, haddress⟩ := Drawing.bind_eq_ok_iff.mp hencrypt
  cases hnonce
  exact ⟨masterKey, hmaster, (Drawing.ofExcept_eq_ok_iff.mp haddress).1⟩

theorem exists_sealWith_of_encryptPayload {message : Bytes}
    (hencrypt : e.encryptPayload message sender recipients metadata entropy =
      (.ok p, entropy')) :
    ∃ draws, e.sealWith draws message sender recipients metadata = .ok p := by
  obtain ⟨draws, _, -, hseal⟩ := encryptPayload_eq_ok hencrypt
  exact ⟨draws, hseal⟩

theorem exists_addressWith_of_encryptRawPayload {raw : RawTransaction}
    (hencrypt : e.encryptRawPayload raw recipients metadata entropy = (.ok p, entropy')) :
    ∃ masterKey recipientNonce, e.rawMasterKey raw = .ok masterKey ∧
      e.addressWith masterKey recipientNonce raw recipients metadata = .ok p := by
  obtain ⟨masterKey, hmaster, haddress⟩ := encryptRawPayload_eq_ok hencrypt
  exact ⟨masterKey, _, hmaster, haddress⟩

end Enclave

end SealedExchange
