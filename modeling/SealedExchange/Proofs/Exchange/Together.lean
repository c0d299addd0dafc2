import Mathlib.Logic.Function.Basic
import Mathlib.Logic.Relation
import SealedExchange.Proofs.Exchange.Delivery
import SealedExchange.Proofs.Exchange.LockOrder
import SealedExchange.Proofs.Payload.Gathering

/-! # Deliveries that come together

Copies of one payload are delivered at the same time, any number of times and in any order. Each
delivery reads the affected records, reads the record of its hash and writes it, and the steps of
others come in between. Only the lock of the hash keeps two deliveries apart between the second read
and the write. No delivery undoes what another one did.
-/

namespace SealedExchange

namespace Vault

/-- The first read of a delivery: the affected records decide what is left of the payload. -/
def readAffected (v : Vault) (p : Payload) : Except TransactionError (Option Payload) := do
  let affected ← Privacy.resolveClaims v.messages p
  screen v.enclave p affected

/-- The second read of a delivery: what is stored under the hash. -/
def readRecord (v : Vault) (left : Payload) :
    Except TransactionError (Option EncryptedTransaction) :=
  (v.messages.retrieve left.hash).mapError .storage

/-- The write of a delivery, given what the second read found. -/
def write (v : Vault) (left : Payload) (stored : Option EncryptedTransaction) :
    Except TransactionError Vault := do
  let change ← changeFor v.codec left stored
  let messages ← (change.apply v.messages).mapError .storage
  .ok { v with messages }

theorem readAffected_eq_ok_iff {v : Vault} {p : Payload} {screened : Option Payload} :
    v.readAffected p = .ok screened ↔ v.Screens p screened := bind_eq_ok_iff

/-- Without anything in between, the two reads and the write are the delivery. -/
theorem storePayload_eq_stages (v : Vault) (p : Payload) :
    v.storePayload p = (do
      match ← v.readAffected p with
      | none => .ok (p.hash, v)
      | some left => do
        let stored ← v.readRecord left
        let v' ← v.write left stored
        .ok (left.hash, v')) := by
  rw [storePayload, readAffected]
  cases Privacy.resolveClaims v.messages p with
  | error e => rfl
  | ok affected =>
    rw [ok_bind, ok_bind]
    cases screen v.enclave p affected with
    | error e => rfl
    | ok screened =>
      cases screened with
      | none => rfl
      | some left =>
        simp only [ok_bind, readRecord, write]
        cases (v.messages.retrieve left.hash).mapError TransactionError.storage with
        | error e => rfl
        | ok stored =>
          simp only [ok_bind]
          cases changeFor v.codec left stored with
          | error e => rfl
          | ok change =>
            simp only [ok_bind]
            cases (change.apply v.messages).mapError TransactionError.storage with
            | error e => rfl
            | ok messages => rfl

end Vault

/-! ## Deliveries and their steps -/

/-- How a delivery ends. -/
inductive Outcome
  | refused (reason : TransactionError)
  | ignored
  | accepted
  | abandoned

/-- How far the delivery of the copy for a key has come. -/
inductive Progress
  | idle
  | asked (key : PublicKey) (copy : Payload)
  /-- The affected records have been read. -/
  | screened (key : PublicKey) (left : Payload)
  /-- The record of the hash has been read. -/
  | looked (key : PublicKey) (left : Payload) (stored : Option EncryptedTransaction)
  | ended (key : PublicKey) (outcome : Outcome)

namespace Progress

/-- Where a delivery stands after its first read. -/
def afterAffected (key : PublicKey) : Except TransactionError (Option Payload) → Progress
  | .error reason => .ended key (.refused reason)
  | .ok none => .ended key .ignored
  | .ok (some left) => .screened key left

/-- Where a delivery stands after its second read. -/
def afterRecord (key : PublicKey) (left : Payload) :
    Except TransactionError (Option EncryptedTransaction) → Progress
  | .error reason => .ended key (.refused reason)
  | .ok stored => .looked key left stored

end Progress

/-- A vault, the locks on hashes, and the deliveries of the copies of one payload. -/
structure Site (ι : Type) where
  vault : Vault
  locks : Locks ι MessageHash
  calls : ι → Progress

namespace Site

variable {ι : Type}

/-- The record under a hash. -/
def record? (s : Site ι) (hash : MessageHash) : Option EncryptedTransaction :=
  s.vault.messages.records.get? hash

/-- A delivery of the copy for a key was accepted. -/
def Accepted (s : Site ι) (key : PublicKey) : Prop := ∃ id, s.calls id = .ended key .accepted

/-- A delivery asks for the lock of its own hash and gives it back when it has ended. Whoever
delivers nothing may use the locks in any way. -/
def Allows (s : Site ι) (hash : MessageHash) : Locks.Event ι MessageHash → Prop
  | .enter id other =>
    s.calls id = .idle ∨ (∃ key copy, s.calls id = .asked key copy) ∧ other = hash
  | .abandon id | .release id => s.calls id = .idle ∨ ∃ key outcome, s.calls id = .ended key outcome
  | .lineUp _ | .grant _ | .prune _ => True

variable [DecidableEq ι]

/-- Moves a delivery on. -/
def moveTo (s : Site ι) (id : ι) (progress : Progress) : Site ι :=
  { s with calls := Function.update s.calls id progress }

/-- The end of a delivery that has written, or that could not. -/
def afterWrite (s : Site ι) (id : ι) (key : PublicKey) : Except TransactionError Vault → Site ι
  | .error reason => s.moveTo id (.ended key (.refused reason))
  | .ok vault => { s.moveTo id (.ended key .accepted) with vault }

/-- A step of one of the deliveries of copies of `p`, of the locks, or of something else that goes
on and leaves alone the record under the hash of `p`. -/
inductive Step (p : Payload) : Site ι → Site ι → Prop
  | ask {s : Site ι} {id : ι} {key : PublicKey} {copy : Payload} (hidle : s.calls id = .idle)
      (hfree : s.locks.request? id = none) (hcopy : p.forRecipient key = some copy) :
    Step p s (s.moveTo id (.asked key copy))
  | lock {s : Site ι} {event : Locks.Event ι MessageHash} {locks : Locks ι MessageHash}
      (hallowed : s.Allows p.hash event) (hstep : s.locks.step? event = some locks) :
    Step p s { s with locks }
  | readAffected {s : Site ι} {id : ι} {key : PublicKey} {copy : Payload}
      (hasked : s.calls id = .asked key copy) (hholds : s.locks.Holds id p.hash) :
    Step p s (s.moveTo id (.afterAffected key (s.vault.readAffected copy)))
  | readRecord {s : Site ι} {id : ι} {key : PublicKey} {left : Payload}
      (hscreened : s.calls id = .screened key left) :
    Step p s (s.moveTo id (.afterRecord key left (s.vault.readRecord left)))
  | write {s : Site ι} {id : ι} {key : PublicKey} {left : Payload}
      {stored : Option EncryptedTransaction} (hlooked : s.calls id = .looked key left stored) :
    Step p s (s.afterWrite id key (s.vault.write left stored))
  | abandon {s : Site ι} {id : ι} {key : PublicKey} {copy : Payload}
      (hasked : s.calls id = .asked key copy) : Step p s (s.moveTo id (.ended key .abandoned))
  | outside {s : Site ι} {vault : Vault}
      (hrecord : vault.messages.records.get? p.hash = s.record? p.hash) :
    Step p s { s with vault }

variable {p : Payload} {s s' : Site ι} {id : ι} {key : PublicKey}

/-! ## What holds of every delivery -/

/-- What holds of a delivery, given the locks and the record of its hash: between its first read and
its end it holds the lock, and what it read second is what is stored. -/
def CallSound (p : Payload) (locks : Locks ι MessageHash) (record : Option EncryptedTransaction)
    (id : ι) : Progress → Prop
  | .asked key copy => p.forRecipient key = some copy
  | .screened key left => locks.Holds id p.hash ∧ p.Leaves key left
  | .looked key left stored => locks.Holds id p.hash ∧ p.Leaves key left ∧ stored = record
  | _ => True

/-- The record under the hash of a payload has gathered the accepted keys. There is one as soon as a
key was accepted. -/
def Gathered (p : Payload) (accepted : PublicKey → Prop) : Option EncryptedTransaction → Prop
  | none => ∀ key, ¬accepted key
  | some record => (∃ key, accepted key) ∧ ∃ q, record.payload = .ok q ∧ p.Gathers accepted q

/-- What holds at any time. -/
structure Inv (p : Payload) (s : Site ι) : Prop where
  locks : s.locks.Valid
  calls : ∀ id, CallSound p s.locks (s.record? p.hash) id (s.calls id)
  record : Gathered p s.Accepted (s.record? p.hash)

theorem moveTo_calls (progress : Progress) (other : ι) :
    (s.moveTo id progress).calls other = if other = id then progress else s.calls other :=
  Function.update_apply s.calls id progress other

/-- A delivery that has not been accepted yet adds its key when it is. -/
theorem accepted_moveTo_iff {before progress : Progress} (hcall : s.calls id = before)
    (hbefore : ∀ key, before ≠ .ended key .accepted) : (s.moveTo id progress).Accepted key ↔
      s.Accepted key ∨ progress = .ended key .accepted := by
  constructor
  · rintro ⟨other, hother⟩
    rw [moveTo_calls] at hother
    split at hother
    next => exact .inr hother
    next => exact .inl ⟨other, hother⟩
  · rintro (⟨other, hother⟩ | hprogress)
    · refine ⟨other, ?_⟩
      rw [moveTo_calls, if_neg ?_]
      · exact hother
      · rintro rfl
        exact hbefore key (hcall.symm.trans hother)
    · exact ⟨id, by rw [moveTo_calls, if_pos rfl, hprogress]⟩

/-- Moving a delivery on, without writing, keeps the invariant. -/
theorem Inv.moveTo (h : s.Inv p) {before progress : Progress} (hcall : s.calls id = before)
    (hbefore : ∀ key, before ≠ .ended key .accepted)
    (hafter : ∀ key, progress ≠ .ended key .accepted)
    (hsound : CallSound p s.locks (s.record? p.hash) id progress) :
    (s.moveTo id progress).Inv p := by
  refine ⟨h.locks, fun other => ?_, ?_⟩
  · rw [moveTo_calls]
    split
    next heq =>
      rw [heq]
      exact hsound
    next => exact h.calls other
  · have haccepted : (s.moveTo id progress).Accepted = s.Accepted := by
      funext key
      rw [eq_iff_iff, accepted_moveTo_iff hcall hbefore]
      exact or_iff_left (hafter key)
    rw [haccepted]
    exact h.record

theorem CallSound.lock {locks : Locks ι MessageHash} {record : Option EncryptedTransaction}
    {progress : Progress} (h : CallSound p s.locks record id progress)
    {event : Locks.Event ι MessageHash} (hmoves : s.locks.Moves event locks)
    (hrelease : event = .release id →
      progress = .idle ∨ ∃ key outcome, progress = .ended key outcome) :
    CallSound p locks record id progress := by
  cases progress with
  | idle => trivial
  | asked => exact h
  | screened key left =>
    refine ⟨hmoves.holds h.1 fun heq => ?_, h.2⟩
    obtain hidle | ⟨_, _, hended⟩ := hrelease heq
    · cases hidle
    · cases hended
  | looked key left stored =>
    refine ⟨hmoves.holds h.1 fun heq => ?_, h.2⟩
    obtain hidle | ⟨_, _, hended⟩ := hrelease heq
    · cases hidle
    · cases hended
  | ended => trivial

/-- While a delivery holds the lock, what another one is about does not depend on the record. -/
theorem CallSound.other {locks : Locks ι MessageHash} {record record' : Option EncryptedTransaction}
    {progress : Progress} {other : ι} (hlocks : locks.Valid) (hholds : locks.Holds id p.hash)
    (hne : other ≠ id) (h : CallSound p locks record other progress) :
    CallSound p locks record' other progress := by
  cases progress with
  | looked => exact absurd (hlocks.holder_unique h.1 hholds) hne
  | _ => exact h

/-! ## Writing -/

/-- A write adds the key of the delivery to the record of its hash. -/
theorem gathered_write {accepted accepted' : PublicKey → Prop} {v v' : Vault} {left : Payload}
    {stored : Option EncryptedTransaction} (hwell : p.WellFormed) (hleaves : p.Leaves key left)
    (hstored : stored = v.messages.records.get? p.hash) (hwrite : v.write left stored = .ok v')
    (h : Gathered p accepted stored)
    (haccepted : ∀ other, accepted' other ↔ accepted other ∨ other = key) :
    Gathered p accepted' (v'.messages.records.get? p.hash) ∧
      ∀ record q, stored = some record → record.payload = .ok q →
        ∃ record' q', v'.messages.records.get? p.hash = some record' ∧ record'.payload = .ok q' ∧
          q.boxes <+: q'.boxes := by
  have hhash := hleaves.hash
  obtain ⟨change, hchange, hwrite⟩ := bind_eq_ok_iff.mp hwrite
  obtain ⟨messages, happly, hwrite⟩ := bind_eq_ok_iff.mp hwrite
  cases hwrite
  rw [hstored, ← hhash] at hchange
  obtain ⟨record', q', hcombines, hpayload', -, hget⟩ := Vault.exists_record_of_apply
    (hleaves.wellFormed hwell) hchange (mapError_eq_ok_iff.mp happly)
  have hfound : messages.records.get? p.hash = some record' := by
    rw [hget, if_pos hhash.symm]
  have hadded : ∃ other, accepted' other := ⟨key, (haccepted key).mpr (.inr rfl)⟩
  rw [hhash, ← hstored] at hcombines
  rw [hfound]
  -- Either the copy is the first one that is stored, or it is merged into what others gathered.
  cases hcombines with
  | new =>
    have hnone : ∀ other, ¬accepted other := h
    refine ⟨⟨hadded, left, hpayload', hleaves.gathers fun other => ?_⟩, nofun⟩
    rw [haccepted, or_iff_right (hnone other)]
  | @merged record q result hpayload hcipher hkeys hmerge =>
    obtain ⟨-, q₀, hq₀, hgathers⟩ := h
    cases hpayload.symm.trans hq₀
    have hqWell := EncryptedTransaction.wellFormed_of_payload hpayload
    refine ⟨⟨hadded, _, hpayload', hgathers.merge hqWell hleaves hmerge haccepted⟩,
      fun other q₁ hother hq₁ => ?_⟩
    cases hother
    cases hpayload.symm.trans hq₁
    exact ⟨record', _, rfl, hpayload', (Payload.extends_standing hqWell hmerge).boxes⟩

/-- The boxes of the record under a hash are the first ones of the record later on. -/
def Keeps (hash : MessageHash) (s s' : Site ι) : Prop :=
  ∀ record q, s.record? hash = some record → record.payload = .ok q →
    ∃ record' q', s'.record? hash = some record' ∧ record'.payload = .ok q' ∧ q.boxes <+: q'.boxes

omit [DecidableEq ι] in
theorem Keeps.of_record_eq {hash : MessageHash} (heq : s'.record? hash = s.record? hash) :
    s.Keeps hash s' :=
  fun record q hrecord hpayload => ⟨record, q, heq.trans hrecord, hpayload, List.prefix_rfl⟩

omit [DecidableEq ι] in
theorem Keeps.trans {hash : MessageHash} {s'' : Site ι} (h : s.Keeps hash s')
    (h' : s'.Keeps hash s'') : s.Keeps hash s'' := by
  intro record q hrecord hpayload
  obtain ⟨record', q', hrecord', hpayload', hprefix⟩ := h record q hrecord hpayload
  obtain ⟨record'', q'', hrecord'', hpayload'', hprefix'⟩ := h' record' q' hrecord' hpayload'
  exact ⟨record'', q'', hrecord'', hpayload'', hprefix.trans hprefix'⟩

theorem Inv.readAffected (h : s.Inv p) {copy : Payload} (hasked : s.calls id = .asked key copy)
    (hholds : s.locks.Holds id p.hash) :
    (s.moveTo id (.afterAffected key (s.vault.readAffected copy))).Inv p := by
  have hcopy : p.forRecipient key = some copy := by
    have hsound := h.calls id
    rw [hasked] at hsound
    exact hsound
  cases hread : s.vault.readAffected copy with
  | error reason => exact h.moveTo hasked nofun nofun trivial
  | ok screened =>
    cases screened with
    | none => exact h.moveTo hasked nofun nofun trivial
    | some left =>
      have hleft := (Vault.readAffected_eq_ok_iff.mp hread).left_eq
      exact h.moveTo hasked nofun nofun ⟨hholds, copy, hcopy, hleft⟩

theorem Inv.readRecord (h : s.Inv p) {left : Payload}
    (hscreened : s.calls id = .screened key left) :
    (s.moveTo id (.afterRecord key left (s.vault.readRecord left))).Inv p := by
  have hsound := h.calls id
  rw [hscreened] at hsound
  obtain ⟨hholds, hleaves⟩ := hsound
  cases hread : s.vault.readRecord left with
  | error reason => exact h.moveTo hscreened nofun nofun trivial
  | ok stored =>
    have hstored := (Store.retrieve_eq_ok_iff.mp (mapError_eq_ok_iff.mp hread)).2
    rw [hleaves.hash] at hstored
    exact h.moveTo hscreened nofun nofun ⟨hholds, hleaves, hstored.symm⟩

theorem Inv.write (h : s.Inv p) (hwell : p.WellFormed) {left : Payload}
    {stored : Option EncryptedTransaction} (hlooked : s.calls id = .looked key left stored) :
    (s.afterWrite id key (s.vault.write left stored)).Inv p ∧
      s.Keeps p.hash (s.afterWrite id key (s.vault.write left stored)) := by
  have hsound := h.calls id
  rw [hlooked] at hsound
  obtain ⟨hholds, hleaves, hstored⟩ := hsound
  cases hwrite : s.vault.write left stored with
  | error reason => exact ⟨h.moveTo hlooked nofun nofun trivial, .of_record_eq rfl⟩
  | ok vault =>
    have haccepted : ∀ other, (s.moveTo id (.ended key .accepted)).Accepted other ↔
        s.Accepted other ∨ other = key := by
      intro other
      rw [accepted_moveTo_iff hlooked nofun]
      simp [eq_comm]
    have hrecord := h.record
    rw [← hstored] at hrecord
    obtain ⟨hgathered, hkeeps⟩ := gathered_write hwell hleaves hstored hwrite hrecord haccepted
    refine ⟨⟨h.locks, fun other => ?_, hgathered⟩, fun record q hfound hpayload => ?_⟩
    -- The record has changed under every other delivery, but only the writer could have read it.
    · change CallSound p s.locks _ other ((s.moveTo id (.ended key .accepted)).calls other)
      rw [moveTo_calls]
      split
      next => trivial
      next hne => exact (h.calls other).other h.locks hholds hne
    · exact hkeeps record q (hstored.trans hfound) hpayload

/-- One step keeps the invariant and the boxes. -/
theorem Inv.step (h : s.Inv p) (hwell : p.WellFormed) (hstep : Step p s s') :
    s'.Inv p ∧ s.Keeps p.hash s' := by
  cases hstep with
  | ask hidle hfree hcopy => exact ⟨h.moveTo hidle nofun nofun hcopy, .of_record_eq rfl⟩
  | lock hallowed hstep =>
    have hmoves := Locks.moves_of_step hstep
    refine ⟨⟨h.locks.step hmoves, fun id => (h.calls id).lock hmoves ?_, h.record⟩,
      .of_record_eq rfl⟩
    rintro rfl
    exact hallowed
  | readAffected hasked hholds => exact ⟨h.readAffected hasked hholds, .of_record_eq rfl⟩
  | readRecord hscreened => exact ⟨h.readRecord hscreened, .of_record_eq rfl⟩
  | write hlooked => exact h.write hwell hlooked
  | abandon hasked => exact ⟨h.moveTo hasked nofun nofun trivial, .of_record_eq rfl⟩
  | @outside vault hrecord =>
    have hsame : ({ s with vault } : Site ι).record? p.hash = s.record? p.hash := hrecord
    refine ⟨⟨h.locks, fun id => ?_, ?_⟩, .of_record_eq hrecord⟩
    · rw [hsame]
      exact h.calls id
    · rw [hsame]
      exact h.record

theorem Inv.run (h : s.Inv p) (hwell : p.WellFormed)
    (hrun : Relation.ReflTransGen (Step p) s s') : s'.Inv p ∧ s.Keeps p.hash s' := by
  induction hrun with
  | refl => exact ⟨h, .of_record_eq rfl⟩
  | tail _ hstep ih =>
    obtain ⟨hinv, hkeeps⟩ := ih.1.step hwell hstep
    exact ⟨hinv, ih.2.trans hkeeps⟩

/-- A site where nothing is stored under a hash and no delivery goes on. Locks may be in use for
other reasons. -/
structure Quiet (s : Site ι) (hash : MessageHash) : Prop where
  record : s.record? hash = none
  locks : s.locks.Reachable
  calls : ∀ id, s.calls id = .idle

theorem Quiet.inv (h : s.Quiet p.hash) : s.Inv p := by
  refine ⟨h.locks.valid, fun id => ?_, ?_⟩
  · rw [h.calls]
    trivial
  · rw [h.record]
    rintro key ⟨id, hid⟩
    cases (h.calls id).symm.trans hid

/-- Whatever the order of the steps, the boxes of the record never shrink, the record appears with
the first accepted delivery, and it has the boxes of the accepted keys and no others. -/
theorem gathers_of_run {s₀ : Site ι} (hcheck : p.check = .ok ()) (hquiet : s₀.Quiet p.hash)
    (hrun : Relation.ReflTransGen (Step p) s₀ s) (hlater : Relation.ReflTransGen (Step p) s s') :
    s.Keeps p.hash s' ∧ ((∃ key, s'.Accepted key) ↔ (s'.record? p.hash).isSome) ∧
      ∀ record, s'.record? p.hash = some record →
        ∃ q, record.payload = .ok q ∧ p.Gathers s'.Accepted q := by
  have hwell := Payload.check_eq_ok_iff.mp hcheck
  obtain ⟨hinv, -⟩ := hquiet.inv.run hwell hrun
  obtain ⟨hinv', hkeeps⟩ := hinv.run hwell hlater
  have hgathered := hinv'.record
  refine ⟨hkeeps, ?_, fun record hrecord => ?_⟩
  · cases hrecord : s'.record? p.hash with
    | none =>
      rw [hrecord] at hgathered
      exact iff_of_false (not_exists.mpr hgathered) Bool.false_ne_true
    | some record =>
      rw [hrecord] at hgathered
      exact iff_of_true hgathered.1 rfl
  · rw [hrecord] at hgathered
    exact hgathered.2

/-! ## Deliveries step by step -/

theorem moveTo_self (progress : Progress) : (s.moveTo id progress).calls id = progress :=
  (moveTo_calls _ _).trans (if_pos rfl)

theorem moveTo_moveTo (before progress : Progress) :
    (s.moveTo id before).moveTo id progress = s.moveTo id progress := by
  rw [moveTo, moveTo, Function.update_idem]
  rfl

/-- Steps of the locks that are open to those who make them. -/
theorem run_of_locks {events : List (Locks.Event ι MessageHash)} {locks : Locks ι MessageHash}
    (hallowed : ∀ event ∈ events, s.Allows p.hash event) (hrun : s.locks.run? events = some locks) :
    Relation.ReflTransGen (Step p) s { s with locks } := by
  induction events generalizing s with
  | nil =>
    cases hrun
    exact .refl
  | cons event events ih =>
    rw [Locks.run?_cons] at hrun
    obtain ⟨next, hnext, hrun⟩ := Option.bind_eq_some_iff.mp hrun
    have hstep : Step p s { s with locks := next } :=
      .lock (hallowed event List.mem_cons_self) hnext
    have hrest : ∀ other ∈ events, ({ s with locks := next } : Site ι).Allows p.hash other :=
      fun other hother => hallowed other (List.mem_cons_of_mem _ hother)
    exact .head hstep (ih hrest hrun)

/-- A delivery that holds the lock of its hash can be carried out step by step if the vault takes
the copy in. -/
theorem run_of_holding {copy : Payload} {vault : Vault} (hasked : s.calls id = .asked key copy)
    (hholds : s.locks.Holds id p.hash) (htakes : s.vault.TakesIn copy vault) :
    Relation.ReflTransGen (Step p) s { s.moveTo id (.ended key .accepted) with vault } := by
  have hstages := htakes.stored
  rw [Vault.storePayload_eq_stages] at hstages
  obtain ⟨screened, hscreened, hstages⟩ := bind_eq_ok_iff.mp hstages
  cases screened with
  | none => exact absurd (Vault.readAffected_eq_ok_iff.mp hscreened) htakes.not_ignored
  | some left =>
    obtain ⟨stored, hstored, hstages⟩ := bind_eq_ok_iff.mp hstages
    obtain ⟨written, hwritten, hstages⟩ := bind_eq_ok_iff.mp hstages
    obtain ⟨-, rfl⟩ := Prod.mk.inj (Except.ok.inj hstages)
    have hread : Step p s (s.moveTo id (.afterAffected key (s.vault.readAffected copy))) :=
      .readAffected hasked hholds
    have hlook : Step p (s.moveTo id (.screened key left)) _ := .readRecord (moveTo_self _)
    have hwrite : Step p (s.moveTo id (.looked key left stored)) _ := .write (moveTo_self _)
    rw [hscreened] at hread
    rw [moveTo_moveTo, show (s.moveTo id _).vault = s.vault from rfl, hstored] at hlook
    rw [show (s.moveTo id _).vault = s.vault from rfl, hwritten, afterWrite, moveTo_moveTo]
      at hwrite
    exact ((Relation.ReflTransGen.single hread).tail hlook).tail hwrite

end Site

/-! ## Two deliveries at once -/

namespace Locks

variable {κ : Type}

/-- Locks where some requests for one hash are all there is. -/
def forOne (hash : κ) (requests : List (Bool × Stage)) : Locks Bool κ where
  table := [(hash, 0)]
  fresh := 1
  requests := requests.map fun (id, stage) => ⟨id, hash, 0, stage⟩

variable [DecidableEq κ]

/-- Of two requests for one hash the first is let in, and the other one waits. -/
theorem run?_firstIn (hash : κ) : ({} : Locks Bool κ).run?
    [.enter false hash, .enter true hash, .lineUp false, .lineUp true, .grant false] =
      some (forOne hash [(false, .holding), (true, .waiting)]) := by
  have hsecond : (forOne hash [(false, .entered)]).step? (.enter true hash) =
      some (forOne hash [(false, .entered), (true, .entered)]) := by
    have hlookup : (forOne hash [(false, .entered)]).table.lookup hash = some 0 :=
      List.lookup_cons_self
    change some ((forOne hash [(false, .entered)]).enter true hash) = _
    rw [enter, hlookup]
    rfl
  change ((forOne hash [(false, .entered)]).step? (.enter true hash)).bind (·.run? _) = _
  rw [hsecond]
  rfl

/-- The second one is let in when the first has given the lock back. -/
theorem run?_secondIn (hash : κ) : (forOne hash [(false, .holding), (true, .waiting)]).run?
    [.release false, .prune false, .grant true] = some (forOne hash [(true, .holding)]) := by
  have hprune : (forOne hash [(false, .leaving), (true, .waiting)]).step? (.prune false) =
      some (forOne hash [(true, .waiting)]) := by
    have hlookup : (forOne hash [(false, .leaving), (true, .waiting)]).table.lookup hash = some 0 :=
      List.lookup_cons_self
    have hat : (forOne hash [(false, .leaving), (true, .waiting)]).requestAt? false .leaving =
        some ⟨false, hash, 0, .leaving⟩ := rfl
    rw [step?, hat, Option.map_some, prune, hlookup]
    rfl
  change ((forOne hash [(false, .leaving), (true, .waiting)]).step? (.prune false)).bind
    (·.run? _) = _
  rw [hprune]
  rfl

end Locks

namespace Site

/-- A payload with boxes for two parties. -/
def twoParties : Payload where
  sender := .filled 1
  cipherText := [7]
  nonce := []
  boxes := [[1], [2]]
  recipientNonce := []
  keys := [.filled 1, .filled 2]

/-- The copy for the first party. -/
def firstParty : Payload := { twoParties with boxes := [[1]], keys := [.filled 1] }

/-- The copy for the second party. -/
def secondParty : Payload := { twoParties with boxes := [[2]], keys := [.filled 2] }

/-- A vault that has taken in the first copy. -/
def withFirst : Vault := (Vault.bystander {}).keep (.asJson firstParty)

/-- A vault that has taken in both copies. -/
def withBoth : Vault := withFirst.keep (.asJson twoParties)

theorem takesIn_firstParty : (Vault.bystander {}).TakesIn firstParty withFirst :=
  Vault.Screens.takesIn ⟨[], rfl, rfl⟩ rfl

theorem takesIn_secondParty : withFirst.TakesIn secondParty withBoth := by
  have hscreens : withFirst.Screens secondParty (some secondParty) := ⟨[], rfl, rfl⟩
  have hget : withFirst.messages.records.get? secondParty.hash = some (.asJson firstParty) :=
    (Vault.get?_keep _ _).trans (if_pos rfl)
  have hpayload : (EncryptedTransaction.asJson firstParty).payload = .ok firstParty :=
    EncryptedTransaction.payload_asJson (by decide +kernel) rfl
  have hmerge : firstParty.merge secondParty = .ok (some twoParties) := by decide +kernel
  exact hscreens.takesIn
    (Vault.storePayload_merge hscreens rfl hget hpayload rfl (by decide) hmerge rfl)

/-- Nothing is stored and nobody delivers anything. -/
def quietSite : Site Bool where
  vault := .bystander {}
  locks := {}
  calls _ := .idle

/-- Both copies are about to be delivered. -/
def bothAsked : Site Bool :=
  (quietSite.moveTo false (.asked (.filled 1) firstParty)).moveTo true
    (.asked (.filled 2) secondParty)

/-- The delivery of the first copy holds the lock, and the other one waits for it. -/
def contended : Site Bool :=
  { bothAsked with locks := .forOne twoParties.hash [(false, .holding), (true, .waiting)] }

/-- The first copy was accepted, and the other delivery still waits. -/
def firstAccepted : Site Bool :=
  { contended.moveTo false (.ended (.filled 1) .accepted) with vault := withFirst }

/-- Both copies were accepted. -/
def bothAccepted : Site Bool :=
  { firstAccepted.moveTo true (.ended (.filled 2) .accepted) with
    vault := withBoth
    locks := .forOne twoParties.hash [(true, .holding)] }

/-- Two deliveries ask for the lock, and the first one is let in and carried out. -/
theorem run_firstAccepted : Relation.ReflTransGen (Step twoParties) quietSite firstAccepted := by
  have hfirst : Step twoParties quietSite
      (quietSite.moveTo false (.asked (.filled 1) firstParty)) :=
    .ask rfl rfl (by decide +kernel)
  have hsecond : Step twoParties (quietSite.moveTo false (.asked (.filled 1) firstParty))
      bothAsked :=
    .ask rfl rfl (by decide +kernel)
  have hlocked : Relation.ReflTransGen (Step twoParties) bothAsked contended :=
    run_of_locks (by simp [Allows, bothAsked, moveTo]) (Locks.run?_firstIn twoParties.hash)
  have hcarried : Relation.ReflTransGen (Step twoParties) contended firstAccepted :=
    run_of_holding rfl ⟨_, rfl, rfl, rfl⟩ takesIn_firstParty
  exact (((Relation.ReflTransGen.single hfirst).tail hsecond).trans hlocked).trans hcarried

/-- The first delivery gives the lock back, and the second one is let in and carried out. -/
theorem run_bothAccepted : Relation.ReflTransGen (Step twoParties) firstAccepted bothAccepted := by
  have hlocked : Relation.ReflTransGen (Step twoParties) firstAccepted
      { firstAccepted with locks := .forOne twoParties.hash [(true, .holding)] } :=
    run_of_locks (by simp [Allows, firstAccepted, contended, bothAsked, moveTo])
      (Locks.run?_secondIn twoParties.hash)
  exact hlocked.trans (run_of_holding rfl ⟨_, rfl, rfl, rfl⟩ takesIn_secondParty)

/-- Of two copies that are delivered at once the second is merged into the record of the first,
which keeps its box. -/
theorem gathers_of_run_twoParties :
    Relation.ReflTransGen (Step twoParties) quietSite firstAccepted ∧
    Relation.ReflTransGen (Step twoParties) firstAccepted bothAccepted ∧
    firstAccepted.Keeps twoParties.hash bothAccepted ∧
    ∃ record q, bothAccepted.record? twoParties.hash = some record ∧ record.payload = .ok q ∧
      q.boxFor? (.filled 1) = some [1] ∧ q.boxFor? (.filled 2) = some [2] := by
  have hquiet : quietSite.Quiet twoParties.hash := ⟨rfl, .refl, fun _ => rfl⟩
  obtain ⟨hkeeps, hstored, hgathers⟩ :=
    gathers_of_run (by decide +kernel) hquiet run_firstAccepted run_bothAccepted
  have hfirst : bothAccepted.Accepted (.filled 1) := ⟨false, rfl⟩
  have hsecond : bothAccepted.Accepted (.filled 2) := ⟨true, rfl⟩
  obtain ⟨record, hrecord⟩ := Option.isSome_iff_exists.mp (hstored.mp ⟨_, hfirst⟩)
  obtain ⟨q, hpayload, hq⟩ := hgathers record hrecord
  refine ⟨run_firstAccepted, run_bothAccepted, hkeeps, record, q, hrecord, hpayload, ?_, ?_⟩
  · rw [hq.boxFor? _ hfirst]
    decide +kernel
  · rw [hq.boxFor? _ hsecond]
    decide +kernel

end Site

end SealedExchange
