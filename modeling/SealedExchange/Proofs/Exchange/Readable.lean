import Mathlib.Logic.Relation
import SealedExchange.Proofs.Enclave.Opening
import SealedExchange.Proofs.Enclave.Sealing
import SealedExchange.Proofs.Exchange.Delivery

/-! # Reading after a delivery

A delivery never takes away what could be read before. Whether the delivered payload itself can be
read afterwards depends on the payload that was stored before: it keeps its sender and nonces, so a
box that it takes over opens only if it was sealed in the same terms. Two payloads of one raw
message have one ciphertext and different nonces for their boxes.
-/

namespace SealedExchange

namespace Enclave

variable {e : Enclave} {p q : Payload} {result : Option Payload} {key : PublicKey} {message : Bytes}

/-- A payload can be read with a key after it was merged into a stored one: the stored one opens
with the key already, or it has no box for the key and both were sealed in the same terms. In a
legacy payload, whose boxes are anybody's, it takes any box that opens the stored one. -/
def Fits (e : Enclave) (stored p : Payload) (key : PublicKey) (message : Bytes) : Prop :=
  e.decryptWith stored key = .ok message ∨
    (stored.isLegacy = true ∧
      ∃ box ∈ p.boxes, e.decrypt (stored.withBox box) key = .ok message) ∨
    stored.isLegacy ≠ true ∧ stored.boxFor? key = none ∧ (p.boxFor? key).isSome ∧
      e.SameTerms stored p key

theorem decrypt_of_extends (hextends : p.Extends q) (hbox : boxToOpen q key = boxToOpen p key) :
    e.decrypt q key = e.decrypt p key := by
  rw [decrypt, decrypt, hbox, hextends.sender, hextends.recipientNonce, hextends.nonce,
    hextends.cipherText]

theorem isSome_boxFor?_of_decrypt (hkeyed : p.isLegacy ≠ true)
    (hopens : e.decrypt p key = .ok message) : ∃ box, p.boxFor? key = some box := by
  cases hbox : p.boxFor? key with
  | some box => exact ⟨box, rfl⟩
  | none =>
    rw [decrypt, boxToOpen, if_neg hkeyed, hbox] at hopens
    cases hopens

/-! ## Merged payloads -/

theorem decryptWith_standing_legacy (hexact : e.suite.Exact) (hlegacy : q.isLegacy = true)
    (hmerge : q.merge p = .ok result) :
    e.decryptWith (q.standing result) key = .ok message ↔ e.decryptWith q key = .ok message ∨
      ∃ box ∈ p.boxes, e.decrypt (q.withBox box) key = .ok message := by
  have hlegacy' :
      ({ q with boxes := Sorted.appendNew q.boxes p.boxes } : Payload).isLegacy = true := hlegacy
  rw [Payload.merge_legacy hlegacy hmerge, decryptWith_legacy_iff hexact hlegacy,
    decryptWith_legacy_iff hexact hlegacy']
  simp only [Sorted.mem_appendNew, or_and_right, exists_or]
  rfl

/-- A key that has a box keeps it, and the payload keeps its terms. -/
theorem decryptWith_standing_boxed (hwell : q.WellFormed) (hkeyed : q.isLegacy ≠ true)
    (hincoming : p.isLegacy ≠ true) (hmerge : q.merge p = .ok result) {box : Bytes}
    (hbox : q.boxFor? key = some box) :
    e.decryptWith (q.standing result) key = e.decryptWith q key := by
  have hextends := Payload.extends_standing hwell hmerge
  have hkeyed' : (q.standing result).isLegacy ≠ true := hextends.legacy ▸ hkeyed
  have hbox' : (q.standing result).boxFor? key = some box := by
    rw [Payload.boxFor?_standing hwell hkeyed hincoming hmerge, hbox, Option.some_or]
  rw [decryptWith_of_keyed hkeyed, decryptWith_of_keyed hkeyed']
  apply decrypt_of_extends hextends
  rw [boxToOpen_of_keyed hkeyed hbox, boxToOpen_of_keyed hkeyed' hbox']

/-- A key without a box gets that of the incoming payload, which opens in the same terms only. -/
theorem decryptWith_standing_unboxed (hexact : e.suite.Exact) (hwell : q.WellFormed)
    (hcipher : q.cipherText = p.cipherText) (hkeyed : q.isLegacy ≠ true)
    (hincoming : p.isLegacy ≠ true) (hmerge : q.merge p = .ok result)
    (hunboxed : q.boxFor? key = none) (hopens : e.decrypt p key = .ok message) :
    e.decryptWith (q.standing result) key = .ok message ↔ e.SameTerms q p key := by
  have hextends := Payload.extends_standing hwell hmerge
  have hkeyed' : (q.standing result).isLegacy ≠ true := hextends.legacy ▸ hkeyed
  obtain ⟨box, hbox⟩ := isSome_boxFor?_of_decrypt hincoming hopens
  have hbox' : (q.standing result).boxFor? key = some box := by
    rw [Payload.boxFor?_standing hwell hkeyed hincoming hmerge, hunboxed, hbox, Option.none_or]
  have hsame : boxToOpen (q.standing result) key = boxToOpen p key := by
    rw [boxToOpen_of_keyed hkeyed' hbox', boxToOpen_of_keyed hincoming hbox]
  have hcipher' : (q.standing result).cipherText = p.cipherText := hextends.cipherText.trans hcipher
  rw [decryptWith_of_keyed hkeyed', decrypt_iff_sameTerms hexact hcipher' hsame hopens]
  constructor
  · rintro ⟨hshared, hrecipientNonce, hnonce⟩
    rw [hextends.sender] at hshared
    exact ⟨hshared, hextends.recipientNonce ▸ hrecipientNonce, hextends.nonce ▸ hnonce⟩
  · rintro ⟨hshared, hrecipientNonce, hnonce⟩
    refine ⟨?_, hextends.recipientNonce.trans hrecipientNonce, hextends.nonce.trans hnonce⟩
    rw [hextends.sender, hshared]

/-- What could be read before a merge can be read after it. -/
theorem decryptWith_standing_of_decryptWith (hexact : e.suite.Exact) (hwell : q.WellFormed)
    (hmerge : q.merge p = .ok result) (hopens : e.decryptWith q key = .ok message) :
    e.decryptWith (q.standing result) key = .ok message := by
  by_cases hlegacy : q.isLegacy = true
  · exact (decryptWith_standing_legacy hexact hlegacy hmerge).mpr (.inl hopens)
  · by_cases hincoming : p.isLegacy = true
    · rw [Payload.merge_keyed_legacy hlegacy hincoming hmerge, Payload.standing_none, hopens]
    · have hdecrypt := (decryptWith_of_keyed hlegacy).symm.trans hopens
      obtain ⟨box, hbox⟩ := isSome_boxFor?_of_decrypt hlegacy hdecrypt
      rw [decryptWith_standing_boxed hwell hlegacy hincoming hmerge hbox, hopens]

/-- A payload that opens on its own opens after a merge exactly if it fits. -/
theorem decryptWith_standing_iff_fits (hexact : e.suite.Exact) (hwell : q.WellFormed)
    (hcipher : q.cipherText = p.cipherText) (hmerge : q.merge p = .ok result)
    (hopens : e.decrypt p key = .ok message) :
    e.decryptWith (q.standing result) key = .ok message ↔ e.Fits q p key message := by
  constructor
  · intro hafter
    by_cases hlegacy : q.isLegacy = true
    · exact ((decryptWith_standing_legacy hexact hlegacy hmerge).mp hafter).imp_right
        fun h => .inl ⟨hlegacy, h⟩
    · by_cases hincoming : p.isLegacy = true
      · rw [Payload.merge_keyed_legacy hlegacy hincoming hmerge] at hafter
        exact .inl hafter
      · cases hbox : q.boxFor? key with
        | some box =>
          rw [decryptWith_standing_boxed hwell hlegacy hincoming hmerge hbox] at hafter
          exact .inl hafter
        | none =>
          have hterms := (decryptWith_standing_unboxed hexact hwell hcipher hlegacy hincoming
            hmerge hbox hopens).mp hafter
          have hboxed := isSome_boxFor?_of_decrypt hincoming hopens
          exact .inr (.inr ⟨hlegacy, hbox, Option.isSome_iff_exists.mpr hboxed, hterms⟩)
  · rintro (hbefore | ⟨hlegacy, hbox⟩ | ⟨hlegacy, hbox, hboxed, hterms⟩)
    · exact decryptWith_standing_of_decryptWith hexact hwell hmerge hbefore
    · exact (decryptWith_standing_legacy hexact hlegacy hmerge).mpr (.inr hbox)
    · obtain ⟨box, hsome⟩ := Option.isSome_iff_exists.mp hboxed
      have hlisted := Payload.mem_keys_of_boxFor?_eq_some hsome
      have hincoming : p.isLegacy ≠ true :=
        Payload.not_isLegacy_iff.mpr (List.ne_nil_of_mem hlisted)
      exact (decryptWith_standing_unboxed hexact hwell hcipher hlegacy hincoming hmerge hbox
        hopens).mpr hterms

end Enclave

namespace Vault

variable {v v' : Vault} {p : Payload}

/-- What a delivery that was taken in leaves stored: what it was merged into, if there was a record,
and otherwise the payload, which may have lost claims. -/
theorem exists_standing_of_takesIn (hwell : p.WellFormed) (htakes : v.TakesIn p v') :
    ∃ q', v'.messages.Holds p.hash q' ∧
      ((∀ q, ¬v.messages.Holds p.hash q) ∧ q' = { p with affected := q'.affected } ∨
        ∃ q result, v.messages.Holds p.hash q ∧ q.WellFormed ∧ q.cipherText = p.cipherText ∧
          q.merge p = .ok result ∧ q' = q.standing result) := by
  obtain ⟨left, record, q', hscreens, hcombines, hpayload, -, hget⟩ := htakes.exists_record hwell
  have hheld : v'.messages.Holds p.hash q' := ⟨record, by rw [hget, if_pos rfl], hpayload⟩
  obtain ⟨affected, rfl⟩ : ∃ affected, left = { p with affected } := ⟨_, hscreens.left_eq⟩
  refine ⟨q', hheld, ?_⟩
  cases hstored : v.messages.records.get? p.hash with
  | none =>
    rw [hstored] at hcombines
    cases hcombines
    refine .inl ⟨?_, rfl⟩
    rintro q ⟨other, hother, -⟩
    rw [hstored] at hother
    cases hother
  | some old =>
    rw [hstored] at hcombines
    cases hcombines with
    | @merged _ q result hold hcipher _ hmerge =>
      have hq := EncryptedTransaction.wellFormed_of_payload hold
      exact .inr ⟨q, result, ⟨old, hstored, hold⟩, hq, hcipher, hmerge, rfl⟩

/-- After a delivery that was taken in, what could be read before can still be read, and a key that
opens the delivered payload reads it exactly if the payload fits what was stored. -/
theorem reads_iff_fits (hexact : v.enclave.suite.Exact) (hcheck : p.check = .ok ())
    (htakes : v.TakesIn p v') :
    ∃ q', v'.messages.Holds p.hash q' ∧
      (∀ q key message, v.messages.Holds p.hash q → v.enclave.decryptWith q key = .ok message →
        v.enclave.decryptWith q' key = .ok message) ∧
      ∀ key message, v.enclave.decrypt p key = .ok message →
        (v.enclave.decryptWith q' key = .ok message ↔
          ∀ q, v.messages.Holds p.hash q → v.enclave.Fits q p key message) := by
  have hwell := Payload.check_eq_ok_iff.mp hcheck
  obtain ⟨q', hheld, ⟨hfree, heq⟩ | ⟨q, result, hq, hqwell, hcipher, hmerge, rfl⟩⟩ :=
    exists_standing_of_takesIn hwell htakes
  · refine ⟨q', hheld, fun q key message hq _ => absurd hq (hfree q), fun key message hopens => ?_⟩
    refine iff_of_true ?_ fun q hq => absurd hq (hfree q)
    rw [heq]
    exact Enclave.decryptWith_of_decrypt hexact hopens
  · refine ⟨_, hheld, fun q₁ key message hq₁ hopens => ?_, fun key message hopens => ?_⟩
    · cases hq.unique hq₁
      exact Enclave.decryptWith_standing_of_decryptWith hexact hqwell hmerge hopens
    · rw [Enclave.decryptWith_standing_iff_fits hexact hqwell hcipher hmerge hopens]
      refine ⟨fun hfits q₁ hq₁ => ?_, fun hall => hall q hq⟩
      exact hq.unique hq₁ ▸ hfits

/-! ## Two payloads of one message -/

open CipherSuite (labelled)

/-- The secret of 32 equal bytes. -/
def filledSecret (b : UInt8) : SecretKey :=
  ⟨List.replicate keyLength b, List.length_replicate⟩

/-- The enclave that holds secrets of equal bytes. -/
def holding (first : UInt8) (rest : List UInt8) : Enclave where
  suite := labelled
  keys := .ofList ((first :: rest).map fun b => (PublicKey.filled b, filledSecret b))
  defaultKey := .filled first
  forwarding := .empty

/-- A message that its sender sealed to send it later. -/
def draft : RawTransaction where
  encryptedPayload := labelled.encrypt (List.replicate 32 9) (List.replicate 12 9) [7]
  encryptedKey := labelled.encrypt (List.replicate 32 0) (List.replicate 12 9) (List.replicate 32 9)
  nonce := List.replicate 12 9
  sender := .filled 1

/-- The payload of the message for one recipient, made with random bytes that are all equal. -/
def addressed (party random : UInt8) : Payload where
  sender := draft.sender
  cipherText := draft.encryptedPayload
  nonce := draft.nonce
  boxes := [labelled.encrypt (labelled.boxKey (filledSecret 1) (.filled party))
    (List.replicate 12 random) (List.replicate 32 9)]
  recipientNonce := List.replicate 12 random
  keys := [.filled party]

/-- A vault with two keys and nothing stored. -/
def emptyVault : Vault where
  enclave := holding 2 [3]
  messages := {}
  raws := {}
  codec := .json

/-- The vault after the payload for its first key has come in. -/
def firstVault : Vault :=
  { emptyVault with
    messages :=
      { records := SortedMap.empty.insert (addressed 2 5).hash (.asJson (addressed 2 5)) } }

/-- Both payloads of the message merged into one. -/
def bothAddressed (random : UInt8) : Payload :=
  { addressed 2 5 with
    keys := [.filled 2, .filled 3]
    boxes := (addressed 2 5).boxes ++ (addressed 3 random).boxes }

/-- The vault after the payload for its second key has come in, too. -/
def secondVault (random : UInt8) : Vault :=
  { firstVault with
    messages :=
      { firstVault.messages with
        records := firstVault.messages.records.insert (addressed 2 5).hash
          (.asJson (bothAddressed random)) } }

theorem get?_firstVault :
    firstVault.messages.records.get? (addressed 2 5).hash = some (.asJson (addressed 2 5)) :=
  (SortedMap.get?_insert _ _ _ _).trans (if_pos rfl)

theorem takesIn_second (random : UInt8) :
    firstVault.TakesIn (addressed 3 random) (secondVault random) := by
  have hscreens : firstVault.Screens (addressed 3 random) (some (addressed 3 random)) :=
    ⟨[], rfl, rfl⟩
  have hmerge : (addressed 2 5).merge (addressed 3 random) = .ok (some (bothAddressed random)) :=
    rfl
  have hpayload : (EncryptedTransaction.asJson (addressed 2 5)).payload = .ok (addressed 2 5) :=
    EncryptedTransaction.payload_asJson rfl rfl
  exact hscreens.takesIn
    (storePayload_merge hscreens rfl get?_firstVault hpayload rfl (by simp [addressed]) hmerge rfl)

/-- A second payload whose box was sealed with the nonce that the record keeps can be read. -/
theorem reads_iff_fits_sameNonce : firstVault.enclave.suite.Exact ∧
    (addressed 3 5).check = .ok () ∧ firstVault.TakesIn (addressed 3 5) (secondVault 5) ∧
    ∃ q', (secondVault 5).messages.Holds (addressed 3 5).hash q' ∧
      firstVault.enclave.decryptWith q' (.filled 2) = .ok [7] ∧
      firstVault.enclave.decryptWith q' (.filled 3) = .ok [7] := by
  have hstored : firstVault.messages.Holds (addressed 3 5).hash (addressed 2 5) :=
    ⟨_, get?_firstVault, EncryptedTransaction.payload_asJson rfl rfl⟩
  obtain ⟨q', hheld, hkeeps, hreads⟩ :=
    reads_iff_fits CipherSuite.exact_labelled rfl (takesIn_second 5)
  have hbefore : (holding 2 [3]).decryptWith (addressed 2 5) (.filled 2) = .ok [7] := by
    decide +kernel
  have hopens : (holding 2 [3]).decrypt (addressed 3 5) (.filled 3) = .ok [7] := by decide +kernel
  have hfits : (holding 2 [3]).Fits (addressed 2 5) (addressed 3 5) (.filled 3) [7] := by
    refine .inr (.inr ⟨by decide, by decide +kernel, by decide +kernel, ?_, rfl, rfl⟩)
    decide +kernel
  refine ⟨CipherSuite.exact_labelled, rfl, takesIn_second 5, q', hheld,
    hkeeps _ _ _ hstored hbefore, (hreads _ _ hopens).mpr fun q hq => ?_⟩
  cases hq.unique hstored
  exact hfits

end Vault

/-! ## Honest deliveries -/

/-- A payload that an enclave sealed, whole or as the copy of a recipient. -/
inductive Payload.Honest (suite : CipherSuite) : Payload → Prop
  | sealed {secrets : List SecretKey} {e : Enclave} {message : Bytes} {sender : PublicKey}
      {recipients : List PublicKey} {metadata : Metadata} {entropy : Entropy} {p : Payload}
      (he : Enclave.ofSecrets? suite secrets = some e)
      (hseal : (e.encryptPayload message sender recipients metadata entropy).1 = .ok p) :
      Honest suite p
  | addressed {secrets : List SecretKey} {e : Enclave} {message : Bytes} {sender : PublicKey}
      {raw : RawTransaction} {recipients : List PublicKey} {metadata : Metadata}
      {entropy entropy' : Entropy} {p : Payload}
      (he : Enclave.ofSecrets? suite secrets = some e)
      (hraw : (e.encryptRaw message sender entropy).1 = .ok raw)
      (haddress : (e.encryptRawPayload raw recipients metadata entropy').1 = .ok p) :
      Honest suite p
  | copy {p copy : Payload} {key : PublicKey} (hp : Honest suite p)
      (hcopy : p.forRecipient key = some copy) : Honest suite copy

theorem Payload.Honest.wellFormed {suite : CipherSuite} {p : Payload} (h : p.Honest suite) :
    p.WellFormed := by
  induction h with
  | sealed he hseal =>
    obtain ⟨draws, hdraws⟩ := Enclave.exists_sealWith_of_encryptPayload (Prod.ext hseal rfl)
    exact Enclave.wellFormed_of_sealWith hdraws
  | addressed he hraw haddress =>
    obtain ⟨masterKey, recipientNonce, -, hboxes⟩ :=
      Enclave.exists_addressWith_of_encryptRawPayload (Prod.ext haddress rfl)
    exact Enclave.wellFormed_of_addressWith hboxes
  | copy hp hcopy ih => exact ih.forRecipient hcopy

/-- An honest payload is delivered. -/
def Vault.Receives (v v' : Vault) : Prop :=
  ∃ p hash, p.Honest v.enclave.suite ∧ v.storePayload p = .ok (hash, v')

/-- Where only honest payloads are delivered, every payload that is taken in stays readable for each
managed key that opens it, and so does whatever could be read before. -/
def CipherSuite.KeepsReadable (suite : CipherSuite) : Prop :=
  ∀ (secrets : List SecretKey) (v₀ v v' : Vault) (p : Payload),
    Enclave.ofSecrets? suite secrets = some v₀.enclave → v₀.messages.records = .empty →
    Relation.ReflTransGen Vault.Receives v₀ v → p.Honest suite → v.TakesIn p v' →
    ∃ q', v'.messages.Holds p.hash q' ∧
      (∀ key message, v.enclave.manages key → v.enclave.decrypt p key = .ok message →
        v.enclave.decryptWith q' key = .ok message) ∧
      ∀ q key message, v.messages.Holds p.hash q → v.enclave.decryptWith q key = .ok message →
        v.enclave.decryptWith q' key = .ok message

namespace Vault

open CipherSuite (labelled)

theorem ofSecrets?_holding (first : UInt8) (rest : List UInt8) :
    Enclave.ofSecrets? labelled ((first :: rest).map filledSecret) = some (holding first rest) := by
  rw [Enclave.ofSecrets?, List.map_map]
  rfl

/-- A sequence of equal bytes. -/
def repeating (b : UInt8) : Entropy := ⟨fun _ => b, 0⟩

theorem encryptRaw_repeating : (holding 1 []).encryptRaw [7] (.filled 1) (repeating 9) =
    (.ok draft, ((repeating 9).skip 32).skip 12) := rfl

theorem encryptRaw_draft :
    ((holding 1 []).encryptRaw [7] (.filled 1) (repeating 9)).1 = .ok draft := by
  rw [encryptRaw_repeating]

theorem honest_addressed (party random : UInt8) : (addressed party random).Honest labelled := by
  have haddress : ((holding 1 []).encryptRawPayload draft [.filled party] {}
      (repeating random)).1 = .ok (addressed party random) := rfl
  exact .addressed (ofSecrets?_holding 1 []) encryptRaw_draft haddress

theorem storePayload_first :
    emptyVault.storePayload (addressed 2 5) = .ok ((addressed 2 5).hash, firstVault) := rfl

theorem holds_second (random : UInt8) :
    (secondVault random).messages.Holds (addressed 3 random).hash (bothAddressed random) :=
  ⟨.asJson (bothAddressed random), (SortedMap.get?_insert _ _ _ _).trans (if_pos rfl),
    EncryptedTransaction.payload_asJson rfl rfl⟩

/-- The second of two payloads of one message is taken in, but its box was sealed with another nonce
than the record keeps, so its recipient cannot read it. -/
theorem not_keepsReadable_labelled : labelled.Exact ∧ ¬labelled.KeepsReadable := by
  refine ⟨CipherSuite.exact_labelled, fun hkeeps => ?_⟩
  have hrun : Relation.ReflTransGen Receives emptyVault firstVault :=
    .single ⟨addressed 2 5, _, honest_addressed 2 5, storePayload_first⟩
  obtain ⟨q', hheld, hreads, -⟩ := hkeeps _ emptyVault firstVault _ (addressed 3 6)
    (ofSecrets?_holding 2 [3]) rfl hrun (honest_addressed 3 6) (takesIn_second 6)
  cases hheld.unique (holds_second 6)
  have hopens : (holding 2 [3]).decrypt (addressed 3 6) (.filled 3) = .ok [7] := by decide +kernel
  have hfails : (holding 2 [3]).decryptWith (bothAddressed 6) (.filled 3) =
      .error .decryptionFailed := by decide +kernel
  have hread := hreads (.filled 3) [7] (by decide +kernel) hopens
  rw [show firstVault.enclave = holding 2 [3] from rfl, hfails] at hread
  cases hread

end Vault

end SealedExchange
