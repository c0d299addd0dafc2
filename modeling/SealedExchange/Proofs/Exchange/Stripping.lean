import SealedExchange.Proofs.Exchange.Agreement

/-! # Admission outside private state validation

A delivered payload of another mode need not be right about the messages that it affects. It is
ignored if it affects a known message that it has nothing to do with. Otherwise it is stored as it
is, but for the claims that a record contradicts: a claim that is right stays, and so does a claim
about a message that is not known. Claims that are stripped count when it is decided whether the
payload is ignored.
-/

namespace SealedExchange

/-- A payload is ignored outside standard mode if one of its claims is about a stored message of
another mode, or about one whose recipients do not include the payload's sender. -/
def Payload.Ignorable (p : Payload) (s : Store EncryptedTransaction) : Prop :=
  p.mode ≠ .standardPrivate ∧ ∃ hash ∈ p.affected.keys, ∃ q, s.Holds hash q ∧
    (q.mode ≠ p.mode ∨ p.sender ∉ q.keys)

/-- A store does not contradict what a payload claims about a message: the message is not stored, or
the claim is the security hash of the recipients that the two messages have in common. -/
def Store.Tolerates (s : Store EncryptedTransaction) (p : Payload) (hash : MessageHash)
    (claimed : SecurityHash) : Prop :=
  s.records.get? hash = none ∨
    ∃ q, s.Holds hash q ∧ claimed = .derive (q.keySet.inter p.keySet) q.cipherText

namespace Payload

variable {p : Payload} {remove : SortedSet MessageHash}

theorem get?_withoutAffected (p : Payload) (remove : SortedSet MessageHash) (hash : MessageHash) :
    (p.withoutAffected remove).affected.get? hash =
      if hash ∈ remove then none else p.affected.get? hash := by
  split
  next hmem => exact SortedMap.get?_filter_of_drop _ _ fun _ => by simpa using hmem
  next hnot => exact SortedMap.get?_filter_of_keep _ _ fun _ => by simpa using hnot

theorem withoutAffected_of_isEmpty (hempty : remove.isEmpty = true) :
    p.withoutAffected remove = p := by
  have hentries : (p.withoutAffected remove).affected.entries = p.affected.entries := by
    refine List.filter_eq_self.mpr fun entry _ => ?_
    exact decide_eq_true (SortedSet.isEmpty_iff.mp hempty entry.1)
  have haffected := SortedMap.eq_of_entries_eq hentries
  calc p.withoutAffected remove
      = { p with affected := (p.withoutAffected remove).affected } := rfl
    _ = p := by rw [haffected]

/-- A payload that loses claims gets no longer. -/
theorem Fits.withoutAffected (h : p.Fits) (remove : SortedSet MessageHash) :
    (p.withoutAffected remove).Fits :=
  { h with
    affected := ⟨Nat.lt_of_le_of_lt (List.length_filter_le _ _) h.affected.1,
      fun entry hentry => h.affected.2 entry (List.mem_filter.mp hentry).1⟩ }

end Payload

namespace Privacy

variable {s : Store EncryptedTransaction} {p : Payload} {affected : List AffectedTransaction}

/-- Outside private state validation wrong claims are no error. -/
theorem sanitise_lenient (hmode : p.mode ≠ .privateStateValidation) (hash : MessageHash)
    (invalid : SortedSet MessageHash) :
    sanitise hash p invalid = .ok (p.withoutAffected invalid) := by
  rw [sanitise, if_neg hmode]
  split
  next hempty => rw [Payload.withoutAffected_of_isEmpty hempty]
  next => rfl

theorem admits_eq_false_iff : admits p affected = false ↔ p.mode ≠ .standardPrivate ∧
    ∃ tx ∈ affected, tx.payload.mode ≠ p.mode ∨ p.sender ∉ tx.payload.keys := by
  rw [admits, Bool.or_eq_false_iff, decide_eq_false_iff_not, Bool.and_eq_false_iff,
    List.all_eq_false, List.all_eq_false]
  refine and_congr_right fun _ => ?_
  constructor
  · rintro (⟨tx, htx, hother⟩ | ⟨tx, htx, hother⟩)
    · exact ⟨tx, htx, .inl fun heq => hother (decide_eq_true heq)⟩
    · exact ⟨tx, htx, .inr fun hmem => hother (decide_eq_true hmem)⟩
  · rintro ⟨tx, htx, hother | hother⟩
    · exact .inl ⟨tx, htx, fun heq => hother (of_decide_eq_true heq)⟩
    · exact .inr ⟨tx, htx, fun hmem => hother (of_decide_eq_true hmem)⟩

/-- A broken store finds nothing. -/
theorem fault_of_resolveClaims (hresolve : resolveClaims s p = .ok affected)
    (hsome : affected ≠ []) : s.fault = none := by
  rw [resolveClaims] at hresolve
  split at hresolve
  next =>
    cases hresolve
    exact absurd rfl hsome
  next =>
    obtain ⟨found, hload, -⟩ := bind_eq_ok_iff.mp hresolve
    exact (decodes_of_load hload).1

/-! ## In the terms of the store -/

section Resolved

variable (hmem : ∀ tx, tx ∈ affected ↔ tx.hash ∈ p.affected.keys ∧ s.Holds tx.hash tx.payload)
include hmem

theorem admits_eq_false_iff_ignorable : admits p affected = false ↔ p.Ignorable s := by
  rw [admits_eq_false_iff, Payload.Ignorable]
  refine and_congr_right fun _ => ?_
  constructor
  · rintro ⟨tx, htx, hother⟩
    obtain ⟨hlisted, hholds⟩ := (hmem tx).mp htx
    exact ⟨tx.hash, hlisted, tx.payload, hholds, hother⟩
  · rintro ⟨hash, hlisted, q, hholds, hother⟩
    exact ⟨⟨hash, q⟩, (hmem _).mpr ⟨hlisted, hholds⟩, hother⟩

/-- A claim is wrong exactly if a record contradicts it. -/
theorem notMem_invalidSecurityHashes_iff (hreadable : s.Readable) {hash : MessageHash}
    {claimed : SecurityHash} (hclaim : p.affected.get? hash = some claimed) :
    hash ∉ Enclave.invalidSecurityHashes p affected ↔ s.Tolerates p hash claimed := by
  rw [mem_invalidSecurityHashes_iff, hclaim]
  constructor
  · intro hnot
    cases hget : s.records.get? hash with
    | none => exact .inl hget
    | some record =>
      obtain ⟨q, hq⟩ := hreadable.decodes hash record hget
      have hholds : s.Holds hash q := ⟨record, hget, hq⟩
      have hlisted : hash ∈ p.affected.keys :=
        (SortedMap.mem_keys_iff _ _).mpr (Option.isSome_iff_exists.mpr ⟨claimed, hclaim⟩)
      refine .inr ⟨q, hholds, ?_⟩
      by_contra hne
      exact hnot ⟨⟨hash, q⟩, (hmem _).mpr ⟨hlisted, hholds⟩, rfl, fun heq =>
        hne (Option.some.inj heq)⟩
  · rintro htolerates ⟨tx, htx, rfl, hne⟩
    obtain ⟨-, hholds⟩ := (hmem tx).mp htx
    rcases htolerates with hunknown | ⟨q, hq, rfl⟩
    · obtain ⟨record, hrecord, -⟩ := hholds
      cases hunknown.symm.trans hrecord
    · rw [hholds.unique hq] at hne
      exact hne rfl

theorem get?_stripped_iff (hreadable : s.Readable) {hash : MessageHash} {claimed : SecurityHash} :
    (p.withoutAffected (Enclave.invalidSecurityHashes p affected)).affected.get? hash =
        some claimed ↔
      p.affected.get? hash = some claimed ∧ s.Tolerates p hash claimed := by
  have hvalid (hclaim : p.affected.get? hash = some claimed) :=
    notMem_invalidSecurityHashes_iff hmem hreadable hclaim
  rw [Payload.get?_withoutAffected]
  split
  next hwrong =>
    constructor
    · intro hnone
      cases hnone
    · rintro ⟨hclaim, htolerates⟩
      exact absurd hwrong ((hvalid hclaim).mpr htolerates)
  next hright => exact iff_self_and.mpr fun hclaim => (hvalid hclaim).mp hright

end Resolved

end Privacy

namespace Vault

variable {v v' : Vault} {p : Payload} {affected : List AffectedTransaction}

/-- The first stages ignore a payload or strip its wrong claims; only its own sender may find fault
with it. -/
theorem screens_lenient_iff (hmode : p.mode ≠ .privateStateValidation)
    (hresolve : Privacy.resolveClaims v.messages p = .ok affected) {screened : Option Payload} :
    v.Screens p screened ↔
      Privacy.admits p affected = false ∧ screened = none ∨
        Privacy.admits p affected = true ∧
          checkOwn v.enclave (p.withoutAffected (Enclave.invalidSecurityHashes p affected)) =
            .ok () ∧
          screened = some (p.withoutAffected (Enclave.invalidSecurityHashes p affected)) := by
  have hsanitise := Privacy.sanitise_lenient hmode p.hash (Enclave.invalidSecurityHashes p affected)
  constructor
  · rintro ⟨affected', hresolve', hscreen⟩
    cases hresolve.symm.trans hresolve'
    obtain ⟨left, hleft, hcases⟩ := screen_eq_ok_iff.mp hscreen
    cases hsanitise.symm.trans hleft
    exact hcases
  · intro hcases
    exact ⟨affected, hresolve, screen_eq_ok_iff.mpr ⟨_, hsanitise, hcases⟩⟩

/-- Where the store works, the claims can be looked up. -/
theorem exists_resolveClaims (hreadable : v.messages.Readable)
    (hmode : p.mode ≠ .privateStateValidation) (hfault : v.messages.fault = none) :
    ∃ affected, Privacy.resolveClaims v.messages p = .ok affected ∧
      ∀ tx, tx ∈ affected ↔ tx.hash ∈ p.affected.keys ∧ v.messages.Holds tx.hash tx.payload := by
  rcases Privacy.resolveClaims_cases (p := p) hreadable.filed (hreadable.decodesAt _) hfault with
    ⟨affected, hresolve, -, hmem⟩ | ⟨-, hstrict, -⟩
  · exact ⟨affected, hresolve, hmem⟩
  · exact absurd hstrict hmode

theorem screens_none_iff (hreadable : v.messages.Readable)
    (hmode : p.mode ≠ .privateStateValidation) :
    v.Screens p none ↔ v.messages.fault = none ∧ p.Ignorable v.messages := by
  constructor
  · rintro ⟨affected, hresolve, hscreen⟩
    have hignored : Privacy.admits p affected = false := by
      rcases (screens_lenient_iff hmode hresolve).mp ⟨affected, hresolve, hscreen⟩ with
        ⟨hadmits, -⟩ | ⟨-, -, heq⟩
      · exact hadmits
      · cases heq
    obtain ⟨-, tx, htx, -⟩ := Privacy.admits_eq_false_iff.mp hignored
    have hfault := Privacy.fault_of_resolveClaims hresolve (List.ne_nil_of_mem htx)
    obtain ⟨affected', hresolve', hmem⟩ := exists_resolveClaims hreadable hmode hfault
    cases hresolve.symm.trans hresolve'
    exact ⟨hfault, (Privacy.admits_eq_false_iff_ignorable hmem).mp hignored⟩
  · rintro ⟨hfault, hignorable⟩
    obtain ⟨affected, hresolve, hmem⟩ := exists_resolveClaims hreadable hmode hfault
    have hignored := (Privacy.admits_eq_false_iff_ignorable hmem).mpr hignorable
    exact (screens_lenient_iff hmode hresolve).mpr (.inl ⟨hignored, rfl⟩)

/-- What the first stages leave of a payload that is not ignored. -/
theorem claims_of_screens (hreadable : v.messages.Readable)
    (hmode : p.mode ≠ .privateStateValidation) (hfault : v.messages.fault = none) {left : Payload}
    (hscreens : v.Screens p (some left)) :
    left = { p with affected := left.affected } ∧ ∀ hash claimed,
      left.affected.get? hash = some claimed ↔
        p.affected.get? hash = some claimed ∧ v.messages.Tolerates p hash claimed := by
  refine ⟨hscreens.left_eq, fun hash claimed => ?_⟩
  obtain ⟨affected, hresolve, hmem⟩ := exists_resolveClaims hreadable hmode hfault
  rcases (screens_lenient_iff hmode hresolve).mp hscreens with ⟨-, heq⟩ | ⟨-, -, heq⟩
  · cases heq
  · cases heq
    exact Privacy.get?_stripped_iff hmem hreadable

/-- A payload under a free hash that is not ignored becomes the only new record. -/
theorem exists_keep_of_screens (hwell : p.WellFormed)
    (hfree : v.messages.records.get? p.hash = none) {left : Payload}
    (hscreens : v.Screens p (some left)) {change : StoreChange}
    {messages : Store EncryptedTransaction}
    (hchange : changeFor v.codec left (v.messages.records.get? p.hash) = .ok change)
    (happly : change.apply v.messages = .ok messages) :
    ∃ record, { v with messages } = v.keep record ∧ record.hash = p.hash ∧
      record.payload = .ok left := by
  rw [hfree] at hchange
  obtain ⟨record, hrecord, rfl⟩ := map_eq_ok_iff.mp hchange
  have hrecord := mapError_eq_ok_iff.mp hrecord
  obtain ⟨-, -, rfl⟩ := Store.save_eq_ok_iff.mp happly
  refine ⟨record, rfl, ?_,
    EncryptedTransaction.payload_of_ofPayload (hscreens.left_wellFormed hwell) hrecord⟩
  obtain ⟨_, -, rfl⟩ := EncryptedTransaction.ofPayload_eq_ok_iff.mp hrecord
  exact hscreens.left_hash

theorem keep_ne_self {record : EncryptedTransaction}
    (hfree : v.messages.records.get? record.hash = none) : v.keep record ≠ v := by
  intro heq
  have hget := get?_keep (v := v) record record.hash
  rw [heq, hfree, if_pos rfl] at hget
  cases hget

/-- A payload from elsewhere that is not ignored and not too long is taken in. -/
theorem exists_storePayload_of_not_ignorable (hreadable : v.messages.Readable)
    (hmode : p.mode ≠ .privateStateValidation) (hfree : v.messages.records.get? p.hash = none)
    (hfault : v.messages.fault = none) (hcodec : v.codec = .bincode) (hfits : p.Fits)
    (hforeign : v.enclave.manages p.sender = false) (hnot : ¬p.Ignorable v.messages) :
    ∃ v', v.storePayload p = .ok (p.hash, v') := by
  obtain ⟨affected, hresolve, hmem⟩ := exists_resolveClaims hreadable hmode hfault
  have hadmits : Privacy.admits p affected = true := by
    rw [← Bool.not_eq_false, Privacy.admits_eq_false_iff_ignorable hmem]
    exact hnot
  have hscreens := (screens_lenient_iff hmode hresolve).mpr
    (.inr ⟨hadmits, checkOwn_of_foreign hforeign, rfl⟩)
  obtain ⟨bytes, hencode⟩ :=
    (hfits.withoutAffected (Enclave.invalidSecurityHashes p affected)).exists_encode
  rw [← hcodec] at hencode
  exact ⟨_, storePayload_keep hencode hscreens hfault hfree⟩

/-- A well-formed payload under a free hash, outside private state validation. It is ignored, and
nothing is stored, exactly if a message that it affects is stored and has another mode or does not
list its sender. Otherwise a delivery that succeeds leaves one new record, of the payload without
the claims that the store contradicts; and it succeeds if the payload comes from elsewhere and is
not too long for a record. -/
theorem stripped_of_storePayload (hreadable : v.messages.Readable) (hcheck : p.check = .ok ())
    (hmode : p.mode ≠ .privateStateValidation) (hfree : v.messages.records.get? p.hash = none) :
    (v.storePayload p = .ok (p.hash, v) ↔ v.messages.fault = none ∧ p.Ignorable v.messages) ∧
    (∀ hash v', v.storePayload p = .ok (hash, v') → ¬p.Ignorable v.messages →
      ∃ record affected, v' = v.keep record ∧ record.hash = p.hash ∧
        record.payload = .ok { p with affected } ∧ ∀ other claimed,
          affected.get? other = some claimed ↔
            p.affected.get? other = some claimed ∧ v.messages.Tolerates p other claimed) ∧
    (v.messages.fault = none → v.codec = .bincode → p.Fits → v.enclave.manages p.sender = false →
      ¬p.Ignorable v.messages → ∃ v', v.storePayload p = .ok (p.hash, v')) := by
  have hwell := Payload.check_eq_ok_iff.mp hcheck
  refine ⟨⟨fun hstore => ?_, fun hignored => ?_⟩, fun hash v' hstore hnot => ?_, ?_⟩
  · obtain ⟨-, ⟨hignored, -⟩ | ⟨left, change, messages, hscreens, -, hchange, happly, heq⟩⟩ :=
      storePayload_eq_ok_iff.mp hstore
    · exact (screens_none_iff hreadable hmode).mp hignored
    -- A payload that is not ignored would have become a record where there was none.
    · obtain ⟨record, hkeep, hhash, -⟩ :=
        exists_keep_of_screens hwell hfree hscreens hchange happly
      rw [← hhash] at hfree
      exact absurd (hkeep.symm.trans heq.symm) (keep_ne_self hfree)
  · exact storePayload_eq_ok_iff.mpr
      ⟨rfl, .inl ⟨(screens_none_iff hreadable hmode).mpr hignored, rfl⟩⟩
  · obtain ⟨-, ⟨hignored, -⟩ | ⟨left, change, messages, hscreens, hfault, hchange, happly, rfl⟩⟩ :=
      storePayload_eq_ok_iff.mp hstore
    · exact absurd ((screens_none_iff hreadable hmode).mp hignored).2 hnot
    · obtain ⟨record, hkeep, hhash, hpayload⟩ :=
        exists_keep_of_screens hwell hfree hscreens hchange happly
      obtain ⟨hleft, hclaims⟩ := claims_of_screens hreadable hmode hfault hscreens
      rw [hleft] at hpayload
      exact ⟨record, left.affected, hkeep, hhash, hpayload, hclaims⟩
  · exact fun hfault hcodec hfits hforeign hnot =>
      exists_storePayload_of_not_ignorable hreadable hmode hfree hfault hcodec hfits hforeign hnot

/-! ## Claims of every kind -/

/-- A vault that keeps the same message under two names. -/
def keepingTwice : Vault :=
  (keeping (holding 2 []) known).keep { EncryptedTransaction.asJson known with hash := ⟨[2]⟩ }

/-- A payload with a claim that is right, one that is wrong and one about an unknown message. -/
def rumour : Payload where
  mode := .partyProtection
  affected :=
    ((SortedMap.empty.insert ⟨[1]⟩
      (Enclave.sharedSecurityHash (.ofList [.filled 1, .filled 2]) known)).insert
        ⟨[2]⟩ ⟨[]⟩).insert ⟨[3]⟩ ⟨[]⟩
  sender := .filled 1
  cipherText := [8]
  nonce := []
  boxes := []
  recipientNonce := []
  keys := [.filled 1, .filled 2]

theorem get?_keepingTwice {hash : MessageHash} {record : EncryptedTransaction}
    (hget : keepingTwice.messages.records.get? hash = some record) :
    (hash = ⟨[1]⟩ ∨ hash = ⟨[2]⟩) ∧ record = { EncryptedTransaction.asJson known with hash } := by
  rw [keepingTwice, get?_keep] at hget
  split at hget
  next heq =>
    cases hget
    exact ⟨.inr heq, by rw [heq]⟩
  next =>
    obtain ⟨rfl, rfl⟩ := get?_keeping hget
    exact ⟨.inl rfl, rfl⟩

theorem payload_keepingTwice (hash : MessageHash) :
    ({ EncryptedTransaction.asJson known with hash } : EncryptedTransaction).payload = .ok known :=
  EncryptedTransaction.payload_asJson rfl rfl

theorem readable_keepingTwice : keepingTwice.messages.Readable :=
  readable_keep (readable_keeping rfl rfl) (payload_keepingTwice ⟨[2]⟩)

theorem eq_known_of_holds {hash : MessageHash} {q : Payload}
    (hholds : keepingTwice.messages.Holds hash q) : q = known := by
  obtain ⟨record, hget, hpayload⟩ := hholds
  obtain ⟨-, rfl⟩ := get?_keepingTwice hget
  exact Except.ok.inj (hpayload.symm.trans (payload_keepingTwice hash))

theorem get?_keepingTwice_hash (p : Payload) :
    keepingTwice.messages.records.get? p.hash = none := by
  cases hget : keepingTwice.messages.records.get? p.hash with
  | none => rfl
  | some record =>
    obtain ⟨heq | heq, -⟩ := get?_keepingTwice hget
    · exact absurd heq (hash_ne_short p 1)
    · exact absurd heq (hash_ne_short p 2)

theorem fits_rumour : rumour.Fits := by
  refine ⟨by decide, by decide, ⟨by decide, by decide⟩, by decide, by decide, ⟨by decide, ?_⟩,
    by decide, by decide, fun id hid => by cases hid⟩
  intro entry hentry
  rcases SortedMap.mem_insertEntry hentry with rfl | hentry
  · exact ⟨by decide, by decide⟩
  rcases SortedMap.mem_insertEntry hentry with rfl | hentry
  · exact ⟨by decide, by decide⟩
  rcases SortedMap.mem_insertEntry hentry with rfl | hentry
  · exact ⟨by decide, Crypto.Sha512.length_digest_lt _⟩
  · cases hentry

theorem not_ignorable_rumour : ¬rumour.Ignorable keepingTwice.messages := by
  rintro ⟨-, hash, -, q, hholds, hother⟩
  obtain rfl := eq_known_of_holds hholds
  rcases hother with hmode | hsender
  · exact hmode rfl
  · exact hsender (by decide)

theorem holds_keepingTwice {hash : MessageHash} (hname : hash = ⟨[1]⟩ ∨ hash = ⟨[2]⟩) :
    keepingTwice.messages.Holds hash known := by
  rcases hname with rfl | rfl
  · exact holds_keep_of_ne (by decide) (holds_keeping rfl rfl)
  · exact holds_keep (payload_keepingTwice ⟨[2]⟩)

/-- An empty claim is never right. -/
theorem not_tolerates_nil {s : Store EncryptedTransaction} {p q : Payload} {hash : MessageHash}
    (hholds : s.Holds hash q) : ¬s.Tolerates p hash ⟨[]⟩ := by
  rintro (hunknown | ⟨q', -, heq⟩)
  · obtain ⟨record, hrecord, -⟩ := hholds
    cases hunknown.symm.trans hrecord
  · have hlength := congrArg (fun hash : SecurityHash => hash.bytes.length) heq
    rw [SecurityHash.derive, Crypto.Sha512.length_digest] at hlength
    cases hlength

/-- Of three claims the wrong one is stripped. The same payload from a sender who has nothing to do
with the known message is ignored. -/
theorem stripped_of_storePayload_rumour : keepingTwice.messages.Readable ∧
    rumour.check = .ok () ∧ rumour.mode ≠ .privateStateValidation ∧
    keepingTwice.messages.records.get? rumour.hash = none ∧
    ¬rumour.Ignorable keepingTwice.messages ∧
    (∃ record affected,
      keepingTwice.storePayload rumour = .ok (rumour.hash, keepingTwice.keep record) ∧
      record.payload = .ok { rumour with affected } ∧
      affected.get? ⟨[1]⟩ = rumour.affected.get? ⟨[1]⟩ ∧ affected.get? ⟨[2]⟩ = none ∧
      affected.get? ⟨[3]⟩ = some ⟨[]⟩) ∧
    keepingTwice.storePayload { rumour with sender := .filled 3 } =
      .ok (rumour.hash, keepingTwice) := by
  have hcheck : rumour.check = .ok () := by decide +kernel
  have hmode : rumour.mode ≠ .privateStateValidation := by decide
  have hnot := not_ignorable_rumour
  obtain ⟨-, hstored, htaken⟩ := stripped_of_storePayload readable_keepingTwice hcheck hmode
    (get?_keepingTwice_hash rumour)
  obtain ⟨v', hstore⟩ := htaken rfl rfl fits_rumour (by decide +kernel) hnot
  obtain ⟨record, affected, rfl, -, hpayload, hclaims⟩ := hstored _ v' hstore hnot
  have hignored : ({ rumour with sender := .filled 3 } : Payload).Ignorable
      keepingTwice.messages := by
    refine ⟨by decide, ⟨[1]⟩, by decide +kernel, known, holds_keepingTwice (.inl rfl), .inr ?_⟩
    decide +kernel
  obtain ⟨hiff, -, -⟩ := stripped_of_storePayload (p := { rumour with sender := .filled 3 })
    readable_keepingTwice (by decide +kernel) hmode (get?_keepingTwice_hash _)
  refine ⟨readable_keepingTwice, hcheck, hmode, get?_keepingTwice_hash rumour, hnot,
    ⟨record, affected, hstore, hpayload, ?_, ?_, ?_⟩, hiff.mpr ⟨rfl, hignored⟩⟩
  · have hright : rumour.affected.get? ⟨[1]⟩ =
        some (Enclave.sharedSecurityHash rumour.keySet known) := rfl
    rw [hright, hclaims]
    exact ⟨hright, .inr ⟨known, holds_keepingTwice (.inl rfl), rfl⟩⟩
  · rw [Option.eq_none_iff_forall_ne_some]
    intro claimed hkept
    obtain ⟨hclaim, htolerates⟩ := (hclaims _ _).mp hkept
    have hwrong : rumour.affected.get? ⟨[2]⟩ = some ⟨[]⟩ := rfl
    cases hwrong.symm.trans hclaim
    exact not_tolerates_nil (holds_keepingTwice (.inr rfl)) htolerates
  · rw [hclaims]
    exact ⟨rfl, .inl rfl⟩

end Vault

end SealedExchange
