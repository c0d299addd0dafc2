import SealedExchange.Proofs.Exchange.Delivery

/-! # Admission in private state validation

A delivered payload of private state validation changes a store only if all that it claims is true
and it leaves out nobody. A claim that cannot be checked, or that is wrong, is an error.
-/

namespace SealedExchange

/-- What private state validation asks of a payload, given the messages that are stored. -/
structure Payload.Admissible (p : Payload) (s : Store EncryptedTransaction) : Prop where
  /-- A claimed message is stored, of the same mode and known to the sender, and the claim is the
  security hash of the recipients that the two messages have in common. -/
  claims : ∀ hash claimed, p.affected.get? hash = some claimed → ∃ q, s.Holds hash q ∧
    q.mode = .privateStateValidation ∧ p.sender ∈ q.keys ∧
    claimed = .derive (q.keySet.inter p.keySet) q.cipherText
  /-- Nobody who has the message already is left out. -/
  recipients : ∀ q, s.Holds p.hash q → ∀ key ∈ q.keys, key ∈ p.keys

/-- A payload makes a claim about a message that is not stored, or only claims about stored messages
and a wrong one among them. -/
def Payload.Misclaims (p : Payload) (s : Store EncryptedTransaction) : Prop :=
  (∃ hash ∈ p.affected.keys, s.records.get? hash = none) ∨
    (∀ hash ∈ p.affected.keys, (s.records.get? hash).isSome) ∧
      ∃ hash claimed q, p.affected.get? hash = some claimed ∧ s.Holds hash q ∧
        claimed ≠ .derive (q.keySet.inter p.keySet) q.cipherText

namespace Vault

variable {v v' : Vault} {p : Payload}

/-- A delivery that fails leaves the vault as it is. -/
theorem storeMany_of_error {e : TransactionError} (herror : v.storePayload p = .error e) :
    v.storeMany [p] = ([.error e], v) := by
  simp only [storeMany, herror]

theorem claims_of_screen {affected : List AffectedTransaction} {left : Payload}
    (hmode : p.mode = .privateStateValidation)
    (hscreen : screen v.enclave p affected = .ok (some left)) :
    left = p ∧ ∀ tx ∈ affected,
      p.affected.get? tx.hash = some (Enclave.sharedSecurityHash p.keySet tx.payload) ∧
        tx.payload.mode = .privateStateValidation ∧ p.sender ∈ tx.payload.keys := by
  obtain ⟨p', hsanitise, ⟨-, heq⟩ | ⟨hadmits, -, heq⟩⟩ := screen_eq_ok_iff.mp hscreen
  · cases heq
  · cases heq
    obtain ⟨heq, hvalid⟩ := Privacy.sanitise_strict hmode hsanitise
    rw [heq] at hadmits
    have hhashes := Privacy.invalidSecurityHashes_isEmpty_iff.mp hvalid
    have hrules : (∀ tx ∈ affected, tx.payload.mode = p.mode) ∧
        ∀ tx ∈ affected, p.sender ∈ tx.payload.keys := by
      simpa [Privacy.admits, hmode] using hadmits
    exact ⟨heq, fun tx htx => ⟨hhashes tx htx, (hrules.1 tx htx).trans hmode, hrules.2 tx htx⟩⟩

/-- No recipient of the stored message is missing where a payload of the mode is merged. -/
theorem recipients_of_changeFor {codec : Codec} {s : Store EncryptedTransaction}
    {change : StoreChange} (hmode : p.mode = .privateStateValidation)
    (hchange : changeFor codec p (s.records.get? p.hash) = .ok change) :
    ∀ q, s.Holds p.hash q → ∀ key ∈ q.keys, key ∈ p.keys := by
  rintro q ⟨record, hrecord, hpayload⟩
  rw [hrecord] at hchange
  obtain ⟨q', hq', hmerge⟩ := bind_eq_ok_iff.mp hchange
  rw [hpayload, mapError_ok] at hq'
  cases hq'
  have hq := EncryptedTransaction.wellFormed_of_payload hpayload
  obtain ⟨-, -, hkeys, -⟩ := mergeInto_eq_ok hq hmerge
  exact hkeys (.inr hmode)

theorem admissible_of_changed (hreadable : v.messages.Readable)
    (hmode : p.mode = .privateStateValidation) {hash : MessageHash}
    (hstore : v.storePayload p = .ok (hash, v'))
    (hchanged : ∃ other, v'.messages.records.get? other ≠ v.messages.records.get? other) :
    p.Admissible v.messages := by
  obtain ⟨-, ⟨-, rfl⟩ | ⟨left, change, messages, hscreens, hfault, hchange, -, -⟩⟩ :=
    storePayload_eq_ok_iff.mp hstore
  · obtain ⟨other, hne⟩ := hchanged
    exact absurd rfl hne
  · obtain ⟨affected, hresolve, hscreen⟩ := hscreens
    obtain ⟨hleft, hclaims⟩ := claims_of_screen hmode hscreen
    rw [hleft] at hchange
    refine ⟨fun hash claimed hget => ?_, recipients_of_changeFor hmode hchange⟩
    rcases Privacy.resolveClaims_cases (p := p) hreadable.filed (hreadable.decodesAt _) hfault with
      ⟨affected', hresolve', hknown, hmem⟩ | ⟨⟨reason, herror⟩, -⟩
    · rw [hresolve] at hresolve'
      cases hresolve'
      have hlisted : hash ∈ p.affected.keys :=
        (SortedMap.mem_keys_iff _ _).mpr (Option.isSome_iff_exists.mpr ⟨claimed, hget⟩)
      obtain ⟨q, hq⟩ := hknown hmode hash hlisted
      obtain ⟨hhash, hqmode, hsender⟩ := hclaims ⟨hash, q⟩ ((hmem ⟨hash, q⟩).mpr ⟨hlisted, hq⟩)
      rw [hget] at hhash
      exact ⟨q, hq, hqmode, hsender, Option.some.inj hhash⟩
    · rw [hresolve] at herror
      cases herror

theorem screen_of_wrong_claim {affected : List AffectedTransaction}
    (hmode : p.mode = .privateStateValidation) {tx : AffectedTransaction} (htx : tx ∈ affected)
    (hwrong : p.affected.get? tx.hash ≠ some (Enclave.sharedSecurityHash p.keySet tx.payload)) :
    ∃ reason, screen v.enclave p affected = .error (.privacyViolation reason) := by
  have hinvalid : ¬(Enclave.invalidSecurityHashes p affected).isEmpty = true := fun hempty =>
    hwrong (Privacy.invalidSecurityHashes_isEmpty_iff.mp hempty tx htx)
  rw [screen, Privacy.sanitise, if_neg hinvalid, if_pos hmode]
  exact ⟨_, rfl⟩

theorem violation_of_misclaims (hreadable : v.messages.Readable) (hfault : v.messages.fault = none)
    (hmode : p.mode = .privateStateValidation) (hmisclaims : p.Misclaims v.messages) :
    ∃ reason, v.storePayload p = .error (.privacyViolation reason) := by
  rcases Privacy.resolveClaims_cases (p := p) hreadable.filed (hreadable.decodesAt _) hfault with
    ⟨affected, hresolve, hknown, hmem⟩ | ⟨⟨reason, herror⟩, -⟩
  · rcases hmisclaims with ⟨hash, hlisted, hmissing⟩ | ⟨-, hash, claimed, q, hget, hq, hwrong⟩
    · obtain ⟨q, record, hrecord, -⟩ := hknown hmode hash hlisted
      rw [hmissing] at hrecord
      cases hrecord
    · have hlisted : hash ∈ p.affected.keys :=
        (SortedMap.mem_keys_iff _ _).mpr (Option.isSome_iff_exists.mpr ⟨claimed, hget⟩)
      have htx := (hmem ⟨hash, q⟩).mpr ⟨hlisted, hq⟩
      obtain ⟨reason, hscreen⟩ := screen_of_wrong_claim (v := v) hmode htx fun heq =>
        hwrong (Option.some.inj (hget.symm.trans heq))
      exact ⟨reason, by rw [storePayload, hresolve, ok_bind, hscreen, error_bind]⟩
  · exact ⟨reason, by rw [storePayload, herror, error_bind]⟩

/-- A delivered payload of private state validation changes a record only if it is admissible. If it
misclaims and the store works, it is a privacy violation and the vault stays as it is. -/
theorem strict_admission (hreadable : v.messages.Readable)
    (hmode : p.mode = .privateStateValidation) :
    (∀ hash v', v.storePayload p = .ok (hash, v') →
      (∃ other, v'.messages.records.get? other ≠ v.messages.records.get? other) →
      p.Admissible v.messages) ∧
    (v.messages.fault = none → p.Misclaims v.messages →
      ∃ reason, v.storeMany [p] = ([.error (.privacyViolation reason)], v)) := by
  constructor
  · intro hash v' hstore hchanged
    exact admissible_of_changed hreadable hmode hstore hchanged
  · intro hfault hmisclaims
    obtain ⟨reason, herror⟩ := violation_of_misclaims hreadable hfault hmode hmisclaims
    exact ⟨reason, storeMany_of_error herror⟩

/-! ## A vault with two records -/

/-- A payload of private state validation for two keys, with a box for the first one. -/
def pairPayload (first second : PublicKey) (affected : SortedMap MessageHash SecurityHash) :
    Payload where
  mode := .privateStateValidation
  affected
  sender := first
  cipherText := [7]
  nonce := []
  boxes := [first.bytes.take 1]
  recipientNonce := []
  keys := [first, second]

/-- The copy for the first of two keys. -/
def firstCopy : Payload := pairPayload (.filled 1) (.filled 2) .empty

/-- The copy for the second of two keys. -/
def secondCopy : Payload := pairPayload (.filled 2) (.filled 1) .empty

/-- The second copy merged into the first one. -/
def bothCopies : Payload := { firstCopy with boxes := [[1], [2]] }

/-- The second copy with a claim that is right about a message like the first one. -/
def claimingCopy : Payload :=
  pairPayload (.filled 2) (.filled 1)
    (SortedMap.empty.insert ⟨[1]⟩ (.derive (.ofList [.filled 1, .filled 2]) [7]))

/-- The first copy with a claim that is wrong about that message. -/
def misclaimingCopy : Payload :=
  pairPayload (.filled 1) (.filled 2) (SortedMap.empty.insert ⟨[1]⟩ ⟨[]⟩)

/-- A bystander that keeps the first copy. -/
def keepingFirst : Vault :=
  bystander { records := SortedMap.empty.insert firstCopy.hash (.asJson firstCopy) }

/-- A bystander that keeps the first copy, and keeps it once more under a short hash. -/
def keepingPair : Vault :=
  keepingFirst.keep { EncryptedTransaction.asJson firstCopy with hash := ⟨[1]⟩ }

theorem payload_firstCopy (hash : MessageHash) :
    ({ EncryptedTransaction.asJson firstCopy with hash } : EncryptedTransaction).payload =
      .ok firstCopy :=
  EncryptedTransaction.payload_asJson (by decide +kernel) rfl

theorem payload_bothCopies : (EncryptedTransaction.asJson bothCopies).payload = .ok bothCopies :=
  EncryptedTransaction.payload_asJson (by decide +kernel) rfl

theorem get?_keepingFirst (hash : MessageHash) : keepingFirst.messages.records.get? hash =
    if hash = firstCopy.hash then some (.asJson firstCopy) else none := by
  rw [keepingFirst, bystander, SortedMap.get?_insert, SortedMap.get?_empty]

theorem readable_keepingPair : keepingPair.messages.Readable := by
  have hempty : (bystander {}).messages.Readable := .of_empty rfl
  have hfirst : keepingFirst.messages.Readable :=
    hempty.insert rfl (payload_firstCopy firstCopy.hash) get?_keepingFirst
  exact readable_keep hfirst (payload_firstCopy ⟨[1]⟩)

theorem holds_keepingPair : keepingPair.messages.Holds ⟨[1]⟩ firstCopy :=
  holds_keep (payload_firstCopy ⟨[1]⟩)

/-- The second copy, with whatever claims, changes the record of the first one if it passes the
first stages. -/
theorem exists_changed_of_screens {affected : SortedMap MessageHash SecurityHash}
    (hscreens : v.Screens (pairPayload (.filled 2) (.filled 1) affected)
      (some (pairPayload (.filled 2) (.filled 1) affected)))
    (hfault : v.messages.fault = none)
    (hget : v.messages.records.get? firstCopy.hash = some (.asJson firstCopy)) :
    ∃ hash v', v.storePayload (pairPayload (.filled 2) (.filled 1) affected) = .ok (hash, v') ∧
      ∃ other, v'.messages.records.get? other ≠ v.messages.records.get? other := by
  -- A merge does not look at claims.
  have hmerge : firstCopy.merge secondCopy = .ok (some bothCopies) := by decide +kernel
  have hkeys : ∀ key ∈ firstCopy.keys, key ∈ [PublicKey.filled 2, .filled 1] := by decide
  have hstore := storePayload_merge hscreens hfault hget (payload_firstCopy _) rfl
    (fun _ => hkeys) hmerge rfl
  refine ⟨_, _, hstore, firstCopy.hash, fun heq => ?_⟩
  rw [hget, get?_keep] at heq
  have hrecord := Option.some.inj ((if_pos rfl).symm.trans heq)
  have hsame := payload_bothCopies.symm.trans
    ((congrArg EncryptedTransaction.payload hrecord).trans (payload_firstCopy _))
  exact absurd (congrArg Payload.boxes (Except.ok.inj hsame)) (by decide)

theorem exists_changed_keepingFirst :
    ∃ hash v', keepingFirst.storePayload secondCopy = .ok (hash, v') ∧
      ∃ other, v'.messages.records.get? other ≠ keepingFirst.messages.records.get? other :=
  exists_changed_of_screens ⟨[], rfl, rfl⟩ rfl ((get?_keepingFirst _).trans (if_pos rfl))

theorem screens_claimingCopy : keepingPair.Screens claimingCopy (some claimingCopy) := by
  have hkeys : claimingCopy.affected.keys = [⟨[1]⟩] := rfl
  rcases Privacy.resolveClaims_cases (p := claimingCopy) readable_keepingPair.filed
    (readable_keepingPair.decodesAt _) rfl with
    ⟨affected, hresolve, -, hmem⟩ | ⟨-, -, hash, hlisted, hmissing⟩
  · have hfound : ∀ tx ∈ affected, tx = ⟨⟨[1]⟩, firstCopy⟩ := by
      rintro ⟨hash, q⟩ htx
      obtain ⟨hlisted, hholds⟩ := (hmem _).mp htx
      rw [hkeys] at hlisted
      cases List.mem_singleton.mp hlisted
      cases hholds.unique holds_keepingPair
      rfl
    refine screens_of_valid hresolve ?_ (fun tx htx => ?_) rfl
    · rw [Privacy.invalidSecurityHashes_isEmpty_iff]
      intro tx htx
      rw [hfound tx htx]
      rfl
    · rw [hfound tx htx]
      exact ⟨rfl, by decide⟩
  · rw [hkeys] at hlisted
    cases List.mem_singleton.mp hlisted
    exact absurd holds_keepingPair (hmissing firstCopy)

theorem misclaims_misclaimingCopy : misclaimingCopy.Misclaims keepingPair.messages := by
  obtain ⟨record, hget, -⟩ := holds_keepingPair
  refine .inr ⟨fun other hother => ?_, ⟨[1]⟩, ⟨[]⟩, firstCopy, rfl, holds_keepingPair,
    fun heq => ?_⟩
  · cases List.mem_singleton.mp hother
    rw [hget]
    rfl
  -- A real hash has 64 bytes, so the empty one that is claimed is wrong.
  · have hlength := congrArg (fun hash : SecurityHash => hash.bytes.length) heq
    rw [SecurityHash.derive, Crypto.Sha512.length_digest] at hlength
    cases hlength

/-- The second copy of a message with a right claim is admissible next to the first one, and a wrong
claim is a privacy violation. -/
theorem strict_admission_firstCopy :
    keepingPair.messages.Readable ∧ claimingCopy.Admissible keepingPair.messages ∧
      ∃ reason, keepingPair.storeMany [misclaimingCopy] =
        ([.error (.privacyViolation reason)], keepingPair) := by
  have hget : keepingPair.messages.records.get? firstCopy.hash = some (.asJson firstCopy) :=
    ((get?_keep _ _).trans (if_neg (hash_ne_short _ _))).trans
      ((get?_keepingFirst _).trans (if_pos rfl))
  obtain ⟨hash, v', hstore, hchanged⟩ := exists_changed_of_screens screens_claimingCopy rfl hget
  exact ⟨readable_keepingPair,
    (strict_admission readable_keepingPair rfl).1 hash v' hstore hchanged,
    (strict_admission readable_keepingPair rfl).2 rfl misclaims_misclaimingCopy⟩

end Vault

end SealedExchange
