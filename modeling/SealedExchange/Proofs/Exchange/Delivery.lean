import SealedExchange.Exchange.Delivery
import SealedExchange.Proofs.Payload.Merge
import SealedExchange.Proofs.Privacy.Affected

/-! # What a delivery does

A delivery that succeeds is either ignored, and then changes nothing, or leaves a record under its
hash whose payload is the delivered one or the stored one with what it adds. In both cases the
delivered payload may have lost claims before, and no other record is touched.
-/

namespace SealedExchange

namespace Privacy

theorem sanitise_eq_ok {hash : MessageHash} {p p' : Payload} {invalid : SortedSet MessageHash}
    (hsanitise : sanitise hash p invalid = .ok p') :
    p' = { p with affected := p'.affected } := by
  rw [sanitise] at hsanitise
  split at hsanitise
  · cases hsanitise
    rfl
  · split at hsanitise
    · cases hsanitise
    · cases hsanitise
      rfl

/-- Claims are removed and none is added. -/
theorem mem_keys_of_sanitise {hash : MessageHash} {p p' : Payload}
    {invalid : SortedSet MessageHash} (hsanitise : sanitise hash p invalid = .ok p') :
    ∀ claimed ∈ p'.affected.keys, claimed ∈ p.affected.keys := by
  rw [sanitise] at hsanitise
  split at hsanitise
  · cases hsanitise
    exact fun _ hmem => hmem
  · split at hsanitise
    · cases hsanitise
    · cases hsanitise
      intro claimed hmem
      obtain ⟨entry, hentry, rfl⟩ := List.mem_map.mp hmem
      exact List.mem_map_of_mem (List.mem_filter.mp hentry).1

theorem sanitise_strict {hash : MessageHash} {p p' : Payload} {invalid : SortedSet MessageHash}
    (hmode : p.mode = .privateStateValidation) (hsanitise : sanitise hash p invalid = .ok p') :
    p' = p ∧ invalid.isEmpty = true := by
  rw [sanitise, if_pos hmode] at hsanitise
  split at hsanitise
  next hempty =>
    cases hsanitise
    exact ⟨rfl, hempty⟩
  next => cases hsanitise

end Privacy

namespace Vault

variable {v v' : Vault} {p left : Payload}

theorem screen_eq_ok_iff {e : Enclave} {affected : List AffectedTransaction}
    {screened : Option Payload} : screen e p affected = .ok screened ↔
      ∃ p', Privacy.sanitise p.hash p (Enclave.invalidSecurityHashes p affected) = .ok p' ∧
        (Privacy.admits p' affected = false ∧ screened = none ∨
          Privacy.admits p' affected = true ∧ checkOwn e p' = .ok () ∧ screened = some p') := by
  rw [screen, bind_eq_ok_iff]
  refine exists_congr fun p' => and_congr_right fun _ => ?_
  cases hadmits : Privacy.admits p' affected with
  | false => simp [eq_comm]
  | true =>
    rw [if_pos rfl]
    constructor
    · intro h
      obtain ⟨⟨⟩, hown, h⟩ := bind_eq_ok_iff.mp h
      cases h
      exact .inr ⟨rfl, hown, rfl⟩
    · rintro (⟨hfalse, -⟩ | ⟨-, hown, rfl⟩)
      · cases hfalse
      · rw [hown, ok_bind]

/-- Only its own sender finds fault with a payload. -/
theorem checkOwn_of_foreign {e : Enclave} (hforeign : e.manages p.sender = false) :
    checkOwn e p = .ok () := by
  rw [checkOwn, hforeign]
  rfl

/-- What the first stages leave of a delivered payload, or nothing if it is to be ignored. -/
def Screens (v : Vault) (p : Payload) (screened : Option Payload) : Prop :=
  ∃ affected, Privacy.resolveClaims v.messages p = .ok affected ∧
    screen v.enclave p affected = .ok screened

theorem Screens.unique {screened screened' : Option Payload} (h : v.Screens p screened)
    (h' : v.Screens p screened') : screened = screened' := by
  obtain ⟨affected, hresolve, hscreen⟩ := h
  obtain ⟨affected', hresolve', hscreen'⟩ := h'
  cases hresolve.symm.trans hresolve'
  exact Except.ok.inj (hscreen.symm.trans hscreen')

theorem Screens.left_eq (h : v.Screens p (some left)) :
    left = { p with affected := left.affected } := by
  obtain ⟨affected, -, hscreen⟩ := h
  obtain ⟨p', hsanitise, hcases⟩ := screen_eq_ok_iff.mp hscreen
  obtain ⟨-, heq⟩ | ⟨-, -, heq⟩ := hcases
  · cases heq
  · cases heq
    exact Privacy.sanitise_eq_ok hsanitise

theorem Screens.left_claims (h : v.Screens p (some left)) :
    ∀ claimed ∈ left.affected.keys, claimed ∈ p.affected.keys := by
  obtain ⟨affected, -, hscreen⟩ := h
  obtain ⟨p', hsanitise, ⟨-, heq⟩ | ⟨-, -, heq⟩⟩ := screen_eq_ok_iff.mp hscreen
  · cases heq
  · cases heq
    exact Privacy.mem_keys_of_sanitise hsanitise

theorem Screens.left_hash (h : v.Screens p (some left)) : left.hash = p.hash := by
  rw [h.left_eq]
  rfl

theorem Screens.left_wellFormed (h : v.Screens p (some left)) (hwell : p.WellFormed) :
    left.WellFormed := by
  rw [h.left_eq]
  exact hwell.withClaims left.affected

/-- A payload without wrong claims whose affected messages are of its mode and have its sender among
their recipients passes the first stages as it is. -/
theorem screens_of_valid {affected : List AffectedTransaction}
    (hresolve : Privacy.resolveClaims v.messages p = .ok affected)
    (hvalid : (Enclave.invalidSecurityHashes p affected).isEmpty = true)
    (hadmits : ∀ tx ∈ affected, tx.payload.mode = p.mode ∧ p.sender ∈ tx.payload.keys)
    (hown : checkOwn v.enclave p = .ok ()) : v.Screens p (some p) := by
  have hadmitted : Privacy.admits p affected = true := by
    rw [Privacy.admits, Bool.or_eq_true, Bool.and_eq_true, List.all_eq_true, List.all_eq_true]
    refine .inr ⟨?_, ?_⟩
    · intro tx htx
      exact decide_eq_true (hadmits tx htx).1
    · intro tx htx
      exact decide_eq_true (hadmits tx htx).2
  refine ⟨affected, hresolve, screen_eq_ok_iff.mpr ⟨p, ?_, .inr ⟨hadmitted, hown, rfl⟩⟩⟩
  rw [Privacy.sanitise, if_pos hvalid]

theorem storePayload_eq_ok_iff {hash : MessageHash} :
    v.storePayload p = .ok (hash, v') ↔ hash = p.hash ∧
      (v.Screens p none ∧ v' = v ∨
        ∃ left change messages, v.Screens p (some left) ∧ v.messages.fault = none ∧
          changeFor v.codec left (v.messages.records.get? p.hash) = .ok change ∧
          change.apply v.messages = .ok messages ∧ v' = { v with messages }) := by
  rw [storePayload]
  constructor
  · intro h
    obtain ⟨affected, hresolve, h⟩ := bind_eq_ok_iff.mp h
    obtain ⟨screened, hscreen, h⟩ := bind_eq_ok_iff.mp h
    have hscreens : v.Screens p screened := ⟨affected, hresolve, hscreen⟩
    cases screened with
    | none =>
      cases h
      exact ⟨rfl, .inl ⟨hscreens, rfl⟩⟩
    | some left =>
      obtain ⟨stored, hstored, h⟩ := bind_eq_ok_iff.mp h
      obtain ⟨change, hchange, h⟩ := bind_eq_ok_iff.mp h
      obtain ⟨messages, hmessages, h⟩ := bind_eq_ok_iff.mp h
      obtain ⟨hfault, hget⟩ := Store.retrieve_eq_ok_iff.mp (mapError_eq_ok_iff.mp hstored)
      cases h
      rw [hscreens.left_hash] at hget ⊢
      rw [← hget] at hchange
      exact ⟨rfl, .inr ⟨left, change, messages, hscreens, hfault, hchange,
        mapError_eq_ok_iff.mp hmessages, rfl⟩⟩
  · rintro ⟨rfl, ⟨⟨affected, hresolve, hscreen⟩, rfl⟩ | ⟨left, change, messages, hscreens, hfault,
      hchange, hmessages, rfl⟩⟩
    · rw [hresolve, ok_bind, hscreen]
      rfl
    · have hhash := hscreens.left_hash
      obtain ⟨affected, hresolve, hscreen⟩ := hscreens
      have hstored : v.messages.retrieve p.hash = .ok (v.messages.records.get? p.hash) :=
        Store.retrieve_eq_ok_iff.mpr ⟨hfault, rfl⟩
      rw [hresolve, ok_bind, hscreen]
      simp only [ok_bind, hhash, hstored, mapError_ok, hchange, hmessages]

/-! ## The change of the store -/

/-- What stands under the hash of a payload after it was brought together with what was stored
there. -/
inductive Combines (p : Payload) : Option EncryptedTransaction → Payload → Prop
  | new : Combines p none p
  | merged {record : EncryptedTransaction} {q : Payload} {result : Option Payload}
      (hpayload : record.payload = .ok q) (hcipher : q.cipherText = p.cipherText)
      (hkeys : q.mode = .privateStateValidation ∨ p.mode = .privateStateValidation →
        ∀ key ∈ q.keys, key ∈ p.keys)
      (hmerge : q.merge p = .ok result) : Combines p (some record) (q.standing result)

theorem Combines.wellFormed {stored : Option EncryptedTransaction} {q : Payload}
    (h : Combines p stored q) (hwell : p.WellFormed) : q.WellFormed := by
  cases h with
  | new => exact hwell
  | merged hpayload _ _ hmerge =>
    have hq := EncryptedTransaction.wellFormed_of_payload hpayload
    exact (Payload.extends_standing hq hmerge).wellFormed

theorem Combines.cipherText {stored : Option EncryptedTransaction} {q : Payload}
    (h : Combines p stored q) : q.cipherText = p.cipherText := by
  cases h with
  | new => rfl
  | merged hpayload hcipher _ hmerge =>
    have hq := EncryptedTransaction.wellFormed_of_payload hpayload
    rw [(Payload.extends_standing hq hmerge).cipherText, hcipher]

/-- The record of a well-formed payload after a merge gives the merged payload back. -/
theorem mergeInto_eq_ok {hash : MessageHash} {codec : Codec} {q : Payload} {change : StoreChange}
    (hq : q.WellFormed) (hchange : mergeInto hash codec q p = .ok change) :
    ∃ result, q.cipherText = p.cipherText ∧
      (q.mode = .privateStateValidation ∨ p.mode = .privateStateValidation →
        ∀ key ∈ q.keys, key ∈ p.keys) ∧ q.merge p = .ok result ∧
      (result = none ∧ change = .keep ∨ ∃ merged record, result = some merged ∧
        change = .update record ∧ record.hash = hash ∧ record.payload = .ok merged) := by
  rw [mergeInto] at hchange
  split at hchange
  next => cases hchange
  next hcipher =>
    split at hchange
    next => cases hchange
    next hkeys =>
      have hlisted : q.mode = .privateStateValidation ∨ p.mode = .privateStateValidation →
          ∀ key ∈ q.keys, key ∈ p.keys := by
        intro hmode key hkey
        by_contra hnot
        exact hkeys ⟨hmode, List.any_eq_true.mpr ⟨key, hkey, decide_eq_true hnot⟩⟩
      obtain ⟨result, hmerge, hchange⟩ := bind_eq_ok_iff.mp hchange
      have hmerge := mapError_eq_ok_iff.mp hmerge
      refine ⟨result, Classical.not_not.mp hcipher, hlisted, hmerge, ?_⟩
      cases result with
      | none =>
        cases hchange
        exact .inl ⟨rfl, rfl⟩
      | some merged =>
        obtain ⟨bytes, hencode, hchange⟩ := bind_eq_ok_iff.mp hchange
        cases hchange
        have hmerged := (Payload.extends_standing hq hmerge).wellFormed
        refine .inr ⟨merged, _, rfl, rfl, rfl, ?_⟩
        exact Codec.decode_of_encode (Payload.check_eq_ok_iff.mpr hmerged)
          (mapError_eq_ok_iff.mp hencode)

/-- A change leaves a record of the combined payload and no other record changes. -/
theorem exists_record_of_apply {codec : Codec} {change : StoreChange}
    {s s' : Store EncryptedTransaction} (hwell : p.WellFormed)
    (hchange : changeFor codec p (s.records.get? p.hash) = .ok change)
    (happly : change.apply s = .ok s') :
    ∃ record q, Combines p (s.records.get? p.hash) q ∧ record.payload = .ok q ∧
      (record.hash = p.hash ∨ s.records.get? p.hash = some record) ∧
      ∀ hash, s'.records.get? hash =
        if hash = p.hash then some record else s.records.get? hash := by
  cases hstored : s.records.get? p.hash with
  | none =>
    rw [hstored] at hchange
    obtain ⟨record, hrecord, rfl⟩ := map_eq_ok_iff.mp hchange
    have hrecord := mapError_eq_ok_iff.mp hrecord
    obtain ⟨-, -, rfl⟩ := Store.save_eq_ok_iff.mp happly
    have hhash : record.hash = p.hash := by
      obtain ⟨bytes, -, rfl⟩ := EncryptedTransaction.ofPayload_eq_ok_iff.mp hrecord
      rfl
    refine ⟨record, p, .new, EncryptedTransaction.payload_of_ofPayload hwell hrecord, .inl hhash,
      fun hash => ?_⟩
    rw [← hhash]
    exact SortedMap.get?_insert s.records record.hash hash record
  -- The record stays when the merge finds nothing new, and is replaced otherwise.
  | some record =>
    rw [hstored] at hchange
    obtain ⟨q, hpayload, hchange⟩ := bind_eq_ok_iff.mp hchange
    have hpayload := mapError_eq_ok_iff.mp hpayload
    have hq := EncryptedTransaction.wellFormed_of_payload hpayload
    obtain ⟨result, hcipher, hkeys, hmerge, hcases⟩ := mergeInto_eq_ok hq hchange
    have hcombines : Combines p (some record) (q.standing result) :=
      .merged hpayload hcipher hkeys hmerge
    obtain ⟨rfl, rfl⟩ | ⟨merged, record', rfl, rfl, hhash, hpayload'⟩ := hcases
    · cases happly
      refine ⟨record, q, hcombines, hpayload, .inr rfl, fun hash => ?_⟩
      split
      next heq => rw [heq, hstored]
      next => rfl
    · obtain ⟨-, rfl⟩ := Store.update_eq_ok_iff.mp happly
      refine ⟨record', merged, hcombines, hpayload', .inl hhash, fun hash => ?_⟩
      rw [← hhash]
      exact SortedMap.get?_insert s.records record'.hash hash record'

theorem fault_of_apply {change : StoreChange} {s s' : Store EncryptedTransaction}
    (happly : change.apply s = .ok s') : s'.fault = s.fault := by
  cases change with
  | keep =>
    cases happly
    rfl
  | save =>
    obtain ⟨-, -, rfl⟩ := Store.save_eq_ok_iff.mp happly
    rfl
  | update =>
    obtain ⟨-, rfl⟩ := Store.update_eq_ok_iff.mp happly
    rfl

/-- A delivered payload is taken in: it is not ignored, and the vault changes to another one. -/
structure TakesIn (v : Vault) (p : Payload) (v' : Vault) : Prop where
  stored : v.storePayload p = .ok (p.hash, v')
  not_ignored : ¬v.Screens p none

theorem Screens.takesIn (h : v.Screens p (some left))
    (hstore : v.storePayload p = .ok (p.hash, v')) : v.TakesIn p v' :=
  ⟨hstore, fun hnone => Option.some_ne_none _ (h.unique hnone)⟩

/-- What a delivery that was taken in leads to: `left` is what the first stages left of the payload
and `q` what is stored afterwards. -/
theorem TakesIn.exists_record (h : v.TakesIn p v') (hwell : p.WellFormed) :
    ∃ left record q, v.Screens p (some left) ∧
      Combines left (v.messages.records.get? p.hash) q ∧ record.payload = .ok q ∧
      (record.hash = p.hash ∨ v.messages.records.get? p.hash = some record) ∧
      ∀ hash, v'.messages.records.get? hash =
        if hash = p.hash then some record else v.messages.records.get? hash := by
  obtain ⟨-, ⟨hnone, -⟩ | ⟨left, change, messages, hscreens, -, hchange, happly, rfl⟩⟩ :=
    storePayload_eq_ok_iff.mp h.stored
  · exact absurd hnone h.not_ignored
  · have hhash := hscreens.left_hash
    rw [← hhash] at hchange ⊢
    obtain ⟨record, q, hrest⟩ :=
      exists_record_of_apply (hscreens.left_wellFormed hwell) hchange happly
    exact ⟨left, record, q, hscreens, hrest⟩

/-- The vault with one more record. -/
def keep (v : Vault) (record : EncryptedTransaction) : Vault :=
  { v with messages :=
      { v.messages with records := v.messages.records.insert record.hash record } }

theorem get?_keep (record : EncryptedTransaction) (other : MessageHash) :
    (v.keep record).messages.records.get? other =
      if other = record.hash then some record else v.messages.records.get? other :=
  SortedMap.get?_insert _ _ _ _

theorem holds_keep {record : EncryptedTransaction} (hpayload : record.payload = .ok p) :
    (v.keep record).messages.Holds record.hash p :=
  ⟨record, (get?_keep _ _).trans (if_pos rfl), hpayload⟩

theorem holds_keep_of_ne {record : EncryptedTransaction} {hash : MessageHash}
    (hne : hash ≠ record.hash) (hheld : v.messages.Holds hash p) :
    (v.keep record).messages.Holds hash p := by
  obtain ⟨stored, hget, hpayload⟩ := hheld
  exact ⟨stored, (get?_keep _ _).trans ((if_neg hne).trans hget), hpayload⟩

theorem readable_keep {record : EncryptedTransaction} (hreadable : v.messages.Readable)
    (hpayload : record.payload = .ok p) : (v.keep record).messages.Readable :=
  hreadable.insert rfl hpayload (get?_keep _)

/-- What the first stages leave of a new payload is kept. -/
theorem storePayload_keep {bytes : Bytes} (hencode : v.codec.encode left = .ok bytes)
    (hscreens : v.Screens p (some left)) (hfault : v.messages.fault = none)
    (hunknown : v.messages.records.get? p.hash = none) :
    v.storePayload p = .ok (p.hash, v.keep ⟨p.hash, bytes, v.codec⟩) := by
  have hrecord := EncryptedTransaction.ofPayload_eq_ok_iff.mpr ⟨bytes, hencode, rfl⟩
  rw [hscreens.left_hash] at hrecord
  have hsave : (StoreChange.save ⟨p.hash, bytes, v.codec⟩).apply v.messages =
      .ok (v.keep ⟨p.hash, bytes, v.codec⟩).messages :=
    Store.save_eq_ok_iff.mpr ⟨hfault, hunknown, rfl⟩
  refine storePayload_eq_ok_iff.mpr ⟨rfl, .inr ⟨left, _, _, hscreens, hfault, ?_, hsave, rfl⟩⟩
  rw [hunknown]
  exact map_eq_ok_iff.mpr ⟨_, mapError_eq_ok_iff.mpr hrecord, rfl⟩

/-- What the first stages leave of a payload is merged into what is stored under its hash. -/
theorem storePayload_merge {record : EncryptedTransaction} {q merged : Payload} {bytes : Bytes}
    (hscreens : v.Screens p (some left)) (hfault : v.messages.fault = none)
    (hget : v.messages.records.get? p.hash = some record) (hpayload : record.payload = .ok q)
    (hcipher : q.cipherText = left.cipherText)
    (hkeys : q.mode = .privateStateValidation ∨ left.mode = .privateStateValidation →
      ∀ key ∈ q.keys, key ∈ left.keys)
    (hmerge : q.merge left = .ok (some merged)) (hencode : record.codec.encode merged = .ok bytes) :
    v.storePayload p = .ok (p.hash, v.keep ⟨p.hash, bytes, record.codec⟩) := by
  have hchange : changeFor v.codec left (some record) =
      .ok (.update ⟨p.hash, bytes, record.codec⟩) := by
    have hall : ¬((q.mode = .privateStateValidation ∨ left.mode = .privateStateValidation) ∧
        q.keys.any (· ∉ left.keys)) := by
      rintro ⟨hmode, hany⟩
      obtain ⟨key, hkey, hnot⟩ := List.any_eq_true.mp hany
      exact of_decide_eq_true hnot (hkeys hmode key hkey)
    rw [changeFor, hpayload, mapError_ok, ok_bind, mergeInto, if_neg (not_not.mpr hcipher),
      if_neg hall, hmerge, mapError_ok, ok_bind]
    dsimp only
    rw [hencode, mapError_ok, ok_bind, hscreens.left_hash]
  have hupdate : (StoreChange.update ⟨p.hash, bytes, record.codec⟩).apply v.messages =
      .ok (v.keep ⟨p.hash, bytes, record.codec⟩).messages :=
    Store.update_eq_ok_iff.mpr ⟨hfault, rfl⟩
  refine storePayload_eq_ok_iff.mpr ⟨rfl, .inr ⟨left, _, _, hscreens, hfault, ?_, hupdate, rfl⟩⟩
  rw [hget, hchange]

/-! ## Bystanders -/

/-- A vault without secrets that keeps some messages. -/
def bystander (messages : Store EncryptedTransaction) : Vault where
  enclave := { suite := .standard, keys := .empty, defaultKey := .filled 0, forwarding := .empty }
  messages
  raws := {}
  codec := .json

/-- A digest is longer than a byte. -/
theorem hash_ne_short (p : Payload) (b : UInt8) : p.hash ≠ ⟨[b]⟩ := by
  intro heq
  have hlength := congrArg (fun hash : MessageHash => hash.bytes.length) heq
  rw [Payload.hash, MessageHash.ofCipherText, Crypto.Sha512.length_digest] at hlength
  cases hlength

end Vault

end SealedExchange
