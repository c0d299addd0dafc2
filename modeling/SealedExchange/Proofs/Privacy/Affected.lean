import SealedExchange.Privacy.Affected
import SealedExchange.Proofs.Sorted.Map
import SealedExchange.Proofs.Store.Laws

/-! # The messages that claims refer to

In a store whose records can be read, looking claims up finds exactly the claimed messages that
are stored. In private state validation it also makes sure that all of them are.
-/

namespace SealedExchange

namespace Store

/-- A store keeps a record with a payload under a hash. -/
def Holds (s : Store EncryptedTransaction) (hash : MessageHash) (p : Payload) : Prop :=
  ∃ record, s.records.get? hash = some record ∧ record.payload = .ok p

/-- Every record is filed under its own hash. -/
def Filed (s : Store EncryptedTransaction) : Prop :=
  ∀ hash record, s.records.get? hash = some record → record.hash = hash

/-- Every record is filed under its own hash and can be decoded. -/
structure Readable (s : Store EncryptedTransaction) : Prop where
  filed : ∀ hash record, s.records.get? hash = some record → record.hash = hash
  decodes : ∀ hash record, s.records.get? hash = some record → ∃ p, record.payload = .ok p

/-- The records that a store has under some hashes can be decoded. -/
def Decodes (s : Store EncryptedTransaction) (hashes : List MessageHash) : Prop :=
  ∀ hash ∈ hashes, ∀ record, s.records.get? hash = some record → ∃ p, record.payload = .ok p

theorem Readable.decodesAt {s : Store EncryptedTransaction} (h : s.Readable)
    (hashes : List MessageHash) : s.Decodes hashes :=
  fun hash _ record hget => h.decodes hash record hget

/-- One more record that can be decoded takes nothing away. -/
theorem Decodes.insert {s s' : Store EncryptedTransaction} {hashes : List MessageHash}
    (h : s.Decodes hashes) {hash : MessageHash} {record : EncryptedTransaction} {p : Payload}
    (hpayload : record.payload = .ok p) (hget : ∀ other, s'.records.get? other =
      if other = hash then some record else s.records.get? other) : s'.Decodes hashes := by
  intro other hmem found hfound
  rw [hget] at hfound
  split at hfound
  next =>
    cases hfound
    exact ⟨p, hpayload⟩
  next => exact h other hmem found hfound

theorem Readable.of_empty {s : Store EncryptedTransaction} (hempty : s.records = .empty) :
    s.Readable := by
  constructor
  · intro hash record hget
    rw [hempty] at hget
    cases hget
  · intro hash record hget
    rw [hempty] at hget
    cases hget

/-- A store stays readable with one more record that is filed and can be decoded. -/
theorem Readable.insert {s s' : Store EncryptedTransaction} (h : s.Readable) {hash : MessageHash}
    {record : EncryptedTransaction} {p : Payload} (hhash : record.hash = hash)
    (hpayload : record.payload = .ok p) (hget : ∀ other, s'.records.get? other =
      if other = hash then some record else s.records.get? other) : s'.Readable := by
  constructor
  · intro other found hfound
    rw [hget] at hfound
    split at hfound
    next heq =>
      cases hfound
      exact hhash.trans heq.symm
    next => exact h.filed other found hfound
  · intro other found hfound
    exact (h.decodesAt [other]).insert hpayload hget other List.mem_cons_self found hfound

theorem Holds.unique {s : Store EncryptedTransaction} {hash : MessageHash} {p q : Payload}
    (hp : s.Holds hash p) (hq : s.Holds hash q) : p = q := by
  obtain ⟨record, hrecord, hpayload⟩ := hp
  obtain ⟨record', hrecord', hpayload'⟩ := hq
  rw [hrecord] at hrecord'
  cases hrecord'
  rw [hpayload] at hpayload'
  cases hpayload'
  rfl

end Store

namespace Privacy

variable {s : Store EncryptedTransaction} {p : Payload} {affected : List AffectedTransaction}

theorem exists_decodeAll {records : List EncryptedTransaction}
    (hdecodes : ∀ record ∈ records, ∃ q, record.payload = .ok q) :
    ∃ payloads, decodeAll records = .ok payloads ∧ ∀ hash q, (hash, q) ∈ payloads ↔
      ∃ record ∈ records, record.hash = hash ∧ record.payload = .ok q := by
  induction records with
  | nil => exact ⟨[], rfl, by simp⟩
  | cons record records ih =>
    obtain ⟨q, hq⟩ := hdecodes record List.mem_cons_self
    obtain ⟨payloads, hpayloads, hmem⟩ := ih fun other hother => hdecodes other (.tail _ hother)
    refine ⟨(record.hash, q) :: payloads, ?_, fun hash q' => ?_⟩
    · rw [decodeAll, hq, mapError_ok, ok_bind, hpayloads, ok_bind]
    · rw [List.mem_cons, hmem, Prod.mk.injEq]
      constructor
      · rintro (⟨rfl, rfl⟩ | ⟨other, hother, hrest⟩)
        · exact ⟨record, List.mem_cons_self, rfl, hq⟩
        · exact ⟨other, .tail _ hother, hrest⟩
      · rintro ⟨other, hother, rfl, hpayload⟩
        rcases List.mem_cons.mp hother with rfl | hother
        · rw [hq] at hpayload
          cases hpayload
          exact .inl ⟨rfl, rfl⟩
        · exact .inr ⟨other, hother, rfl, hpayload⟩

theorem decodes_of_decodeAll {records : List EncryptedTransaction}
    {payloads : List (MessageHash × Payload)} (hdecode : decodeAll records = .ok payloads) :
    ∀ record ∈ records, ∃ q, record.payload = .ok q := by
  induction records generalizing payloads with
  | nil => exact fun _ hmem => absurd hmem List.not_mem_nil
  | cons record records ih =>
    obtain ⟨q, hq, hdecode⟩ := bind_eq_ok_iff.mp hdecode
    obtain ⟨more, hmore, -⟩ := bind_eq_ok_iff.mp hdecode
    intro other hother
    rcases List.mem_cons.mp hother with rfl | hother
    · exact ⟨q, mapError_eq_ok_iff.mp hq⟩
    · exact ih hmore other hother

theorem decodes_of_load {hashes : List MessageHash} {found : SortedMap MessageHash Payload}
    (hload : load s hashes = .ok found) : s.fault = none ∧ s.Decodes hashes := by
  obtain ⟨records, hrecords, hload⟩ := bind_eq_ok_iff.mp hload
  obtain ⟨payloads, hpayloads, -⟩ := bind_eq_ok_iff.mp hload
  obtain ⟨hfault, rfl⟩ := Store.find_eq_ok_iff.mp (mapError_eq_ok_iff.mp hrecords)
  refine ⟨hfault, fun hash hmem record hget => ?_⟩
  exact decodes_of_decodeAll hpayloads record (List.mem_filterMap.mpr ⟨hash, hmem, hget⟩)

theorem decodes_of_findAffected {refs : List MessageHash}
    (hfind : findAffected s refs = .ok affected) : s.fault = none ∧ s.Decodes refs := by
  obtain ⟨found, hload, -⟩ := bind_eq_ok_iff.mp hfind
  exact decodes_of_load hload

theorem exists_findAffected {refs : List MessageHash} (hfault : s.fault = none)
    (hdecodes : s.Decodes refs) : ∃ affected, findAffected s refs = .ok affected := by
  have hfind : s.find refs = .ok (refs.filterMap s.records.get?) :=
    Store.find_eq_ok_iff.mpr ⟨hfault, rfl⟩
  have hrecords : ∀ record ∈ refs.filterMap s.records.get?, ∃ q, record.payload = .ok q := by
    intro record hrecord
    obtain ⟨hash, hmem, hget⟩ := List.mem_filterMap.mp hrecord
    exact hdecodes hash hmem record hget
  obtain ⟨payloads, hpayloads, -⟩ := exists_decodeAll hrecords
  rw [findAffected, load, hfind, mapError_ok, ok_bind, hpayloads, ok_bind, ok_bind]
  exact ⟨_, rfl⟩

theorem mem_refs_of_findAffected {refs : List MessageHash}
    (hfind : findAffected s refs = .ok affected) : ∀ tx ∈ affected, tx.hash ∈ refs := by
  obtain ⟨found, -, hfind⟩ := bind_eq_ok_iff.mp hfind
  cases hfind
  intro tx htx
  obtain ⟨hash, hmem, hget⟩ := List.mem_filterMap.mp htx
  obtain ⟨q, -, rfl⟩ := Option.map_eq_some_iff.mp hget
  exact hmem

theorem decodes_of_resolveClaims (hresolve : resolveClaims s p = .ok affected) :
    p.affected.isEmpty = true ∨ s.Decodes p.affected.keys := by
  rw [resolveClaims] at hresolve
  split at hresolve
  next hempty => exact .inl hempty
  next =>
    obtain ⟨found, hload, -⟩ := bind_eq_ok_iff.mp hresolve
    exact .inr (decodes_of_load hload).2

/-- Looking up messages finds those that are stored. -/
theorem exists_load (hfiled : s.Filed) {hashes : List MessageHash} (hdecodes : s.Decodes hashes)
    (hfault : s.fault = none) : ∃ found, load s hashes = .ok found ∧
      ∀ hash q, found.get? hash = some q ↔ hash ∈ hashes ∧ s.Holds hash q := by
  have hfind : s.find hashes = .ok (hashes.filterMap s.records.get?) :=
    Store.find_eq_ok_iff.mpr ⟨hfault, rfl⟩
  -- A record that is found under a hash is filed under that hash, so it stands for it alone.
  have hmemFind : ∀ record, record ∈ hashes.filterMap s.records.get? ↔
      record.hash ∈ hashes ∧ s.records.get? record.hash = some record := by
    intro record
    rw [List.mem_filterMap]
    constructor
    · rintro ⟨hash, hmem, hget⟩
      have heq := hfiled hash record hget
      subst heq
      exact ⟨hmem, hget⟩
    · rintro ⟨hmem, hget⟩
      exact ⟨record.hash, hmem, hget⟩
  have hrecords : ∀ record ∈ hashes.filterMap s.records.get?, ∃ q, record.payload = .ok q := by
    intro record hrecord
    obtain ⟨hlisted, hget⟩ := (hmemFind record).mp hrecord
    exact hdecodes record.hash hlisted record hget
  obtain ⟨payloads, hpayloads, hmem⟩ := exists_decodeAll hrecords
  have hiff : ∀ hash q, (hash, q) ∈ payloads ↔ hash ∈ hashes ∧ s.Holds hash q := by
    intro hash q
    rw [hmem]
    constructor
    · rintro ⟨record, hrecord, rfl, hpayload⟩
      obtain ⟨hlisted, hget⟩ := (hmemFind record).mp hrecord
      exact ⟨hlisted, record, hget, hpayload⟩
    · rintro ⟨hlisted, record, hget, hpayload⟩
      have heq := hfiled hash record hget
      subst heq
      exact ⟨record, (hmemFind record).mpr ⟨hlisted, hget⟩, rfl, hpayload⟩
  refine ⟨.ofList payloads, ?_, fun hash q => ?_⟩
  · rw [load, hfind, mapError_ok, ok_bind, hpayloads, ok_bind]
  · rw [SortedMap.get?_ofList_eq_some_iff, hiff]
    rintro ⟨hash, q⟩ hq ⟨hash', q'⟩ hq' (rfl : hash = hash')
    exact ((hiff hash q).mp hq).2.unique ((hiff hash q').mp hq').2

/-- The messages that were found are those that were looked up and are stored. -/
theorem mem_found_iff {refs : List MessageHash} {found : SortedMap MessageHash Payload}
    (hget : ∀ hash q, found.get? hash = some q ↔ hash ∈ refs ∧ s.Holds hash q)
    (tx : AffectedTransaction) :
    (tx ∈ refs.filterMap fun hash =>
      (found.get? hash).map fun payload => ({ hash, payload } : AffectedTransaction)) ↔
      tx.hash ∈ refs ∧ s.Holds tx.hash tx.payload := by
  rw [List.mem_filterMap]
  constructor
  · rintro ⟨hash, -, hmap⟩
    obtain ⟨q, hq, rfl⟩ := Option.map_eq_some_iff.mp hmap
    exact (hget hash q).mp hq
  · rintro ⟨hlisted, hholds⟩
    have hq := (hget tx.hash tx.payload).mpr ⟨hlisted, hholds⟩
    exact ⟨tx.hash, hlisted, by rw [hq]; rfl⟩

theorem mem_findAffected_iff (hfiled : s.Filed) {refs : List MessageHash}
    (hfind : findAffected s refs = .ok affected) (tx : AffectedTransaction) :
    tx ∈ affected ↔ tx.hash ∈ refs ∧ s.Holds tx.hash tx.payload := by
  obtain ⟨found, hload, hfind⟩ := bind_eq_ok_iff.mp hfind
  obtain ⟨hfault, hdecodes⟩ := decodes_of_load hload
  obtain ⟨found', hload', hget⟩ := exists_load hfiled hdecodes hfault
  cases hload.symm.trans hload'
  cases hfind
  exact mem_found_iff hget tx

/-- What looking up the claims of a payload leads to. -/
theorem resolveClaims_cases (hfiled : s.Filed) (hdecodes : s.Decodes p.affected.keys)
    (hfault : s.fault = none) :
    (∃ affected, resolveClaims s p = .ok affected ∧
        (p.mode = .privateStateValidation → ∀ hash ∈ p.affected.keys, ∃ q, s.Holds hash q) ∧
        ∀ tx, tx ∈ affected ↔ tx.hash ∈ p.affected.keys ∧ s.Holds tx.hash tx.payload) ∨
      ((∃ reason, resolveClaims s p = .error (.privacyViolation reason)) ∧
        p.mode = .privateStateValidation ∧ ∃ hash ∈ p.affected.keys, ∀ q, ¬s.Holds hash q) := by
  rw [resolveClaims]
  split
  next hempty =>
    have hkeys : p.affected.keys = [] := by
      rw [SortedMap.keys, List.isEmpty_iff.mp hempty, List.map_nil]
    exact .inl ⟨[], rfl, by simp [hkeys], by simp [hkeys]⟩
  next =>
    obtain ⟨found, hload, hget⟩ := exists_load hfiled hdecodes hfault
    have hmem := mem_found_iff hget
    have hcontains : ∀ hash ∈ p.affected.keys,
        (found.contains hash = true ↔ ∃ q, s.Holds hash q) := by
      intro hash hlisted
      rw [SortedMap.contains_eq_isSome, Option.isSome_iff_exists]
      exact exists_congr fun q => ⟨fun hq => ((hget hash q).mp hq).2, fun hq =>
        (hget hash q).mpr ⟨hlisted, hq⟩⟩
    simp only [hload, ok_bind]
    split
    next hash hfind =>
      have hlisted := List.mem_of_find?_eq_some hfind
      split
      next hmode =>
        refine .inr ⟨⟨_, rfl⟩, hmode, hash, hlisted, fun q hq => ?_⟩
        have hknown := (hcontains hash hlisted).mpr ⟨q, hq⟩
        have hunknown := List.find?_some hfind
        rw [hknown] at hunknown
        cases hunknown
      next hmode => exact .inl ⟨_, rfl, fun heq => absurd heq hmode, hmem⟩
    next hfind =>
      refine .inl ⟨_, rfl, fun _ hash hlisted => ?_, hmem⟩
      have hknown := List.find?_eq_none.mp hfind hash hlisted
      exact (hcontains hash hlisted).mp (by simpa using hknown)

/-! ## Wrong security hashes -/

theorem mem_invalidSecurityHashes_iff {hash : MessageHash} :
    hash ∈ Enclave.invalidSecurityHashes p affected ↔ ∃ tx ∈ affected, tx.hash = hash ∧
      p.affected.get? hash ≠ some (Enclave.sharedSecurityHash p.keySet tx.payload) := by
  rw [Enclave.invalidSecurityHashes, SortedSet.mem_ofList, List.mem_map]
  constructor
  · rintro ⟨tx, hwrong, rfl⟩
    obtain ⟨htx, hne⟩ := List.mem_filter.mp hwrong
    exact ⟨tx, htx, rfl, of_decide_eq_true hne⟩
  · rintro ⟨tx, htx, rfl, hne⟩
    exact ⟨tx, List.mem_filter.mpr ⟨htx, decide_eq_true hne⟩, rfl⟩

theorem invalidSecurityHashes_isEmpty_iff :
    (Enclave.invalidSecurityHashes p affected).isEmpty = true ↔ ∀ tx ∈ affected,
      p.affected.get? tx.hash = some (Enclave.sharedSecurityHash p.keySet tx.payload) := by
  rw [SortedSet.isEmpty_iff]
  constructor
  · intro hempty tx htx
    by_contra hne
    exact hempty tx.hash (mem_invalidSecurityHashes_iff.mpr ⟨tx, htx, rfl, hne⟩)
  · intro hall hash hmem
    obtain ⟨tx, htx, rfl, hne⟩ := mem_invalidSecurityHashes_iff.mp hmem
    exact hne (hall tx htx)

end Privacy

end SealedExchange
