import Mathlib.Logic.Relation
import SealedExchange.Proofs.Exchange.Admission
import SealedExchange.Proofs.Exchange.Integrity

/-! # Claims of stored messages

Claims are checked when a message comes for the first time and stay as they are from then on, while
the message and the messages it makes claims about may gain recipients from later deliveries. So a
stored claim is the security hash of the recipients that the two messages had in common when the
claiming one came, and it is out of date as soon as they have one more in common.
-/

namespace SealedExchange

namespace Vault

variable {v₀ v v' : Vault} {p q r : Payload} {hash other : MessageHash} {claimed : SecurityHash}

/-- A delivery of some payload succeeds. -/
def Delivers (v v' : Vault) : Prop :=
  ∃ p hash, Payload.Accepted p ∧ v.storePayload p = .ok (hash, v')

theorem wellFormed_of_holds {s : Store EncryptedTransaction} (hheld : s.Holds hash p) :
    p.WellFormed := by
  obtain ⟨record, -, hpayload⟩ := hheld
  exact EncryptedTransaction.wellFormed_of_payload hpayload

/-! ## One delivery -/

/-- A delivery changes nothing, or the record of the delivered payload alone. -/
theorem delivery_cases (hwell : p.WellFormed) (hstore : v.storePayload p = .ok (hash, v')) :
    v' = v ∨ ∃ left record q, v.Screens p (some left) ∧
      Combines left (v.messages.records.get? p.hash) q ∧ record.payload = .ok q ∧
      (record.hash = p.hash ∨ v.messages.records.get? p.hash = some record) ∧
      ∀ other, v'.messages.records.get? other =
        if other = p.hash then some record else v.messages.records.get? other := by
  obtain ⟨rfl, hcases⟩ := storePayload_eq_ok_iff.mp hstore
  by_cases hignored : v.Screens p none
  · have hsame := storePayload_eq_ok_iff.mpr ⟨rfl, .inl ⟨hignored, rfl⟩⟩
    cases hstore.symm.trans hsame
    exact .inl rfl
  · exact .inr (TakesIn.exists_record ⟨hstore, hignored⟩ hwell)

theorem readable_of_delivers (hreadable : v.messages.Readable) (hdelivers : Delivers v v') :
    v'.messages.Readable := by
  obtain ⟨p, _, haccepted, hstore⟩ := hdelivers
  obtain rfl | ⟨left, record, q, -, -, hpayload, hfiled, hrecords⟩ :=
    delivery_cases haccepted.wellFormed hstore
  · exact hreadable
  · exact hreadable.insert (hfiled.elim id (hreadable.filed _ _)) hpayload hrecords

/-- A stored message stays and gains keys and boxes at most. -/
theorem exists_grown_of_delivers (hheld : v.messages.Holds hash q) (hdelivers : Delivers v v') :
    ∃ q', v'.messages.Holds hash q' ∧ q.Extends q' := by
  obtain ⟨stored, hget, hpayload⟩ := hheld
  have hwell := EncryptedTransaction.wellFormed_of_payload hpayload
  obtain ⟨p, _, haccepted, hstore⟩ := hdelivers
  obtain rfl | ⟨left, record, q', -, hcombines, hpayload', -, hrecords⟩ :=
    delivery_cases haccepted.wellFormed hstore
  · exact ⟨q, ⟨stored, hget, hpayload⟩, .refl hwell⟩
  -- Only the record under the hash of the delivered payload changes, and only by merging.
  · by_cases heq : hash = p.hash
    · subst heq
      rw [hget] at hcombines
      refine ⟨q', ⟨record, (hrecords _).trans (if_pos rfl), hpayload'⟩, ?_⟩
      cases hcombines with
      | merged hmerged _ _ hmerge =>
        cases hpayload.symm.trans hmerged
        exact Payload.extends_standing hwell hmerge
    · exact ⟨q, ⟨stored, (hrecords hash).trans ((if_neg heq).trans hget), hpayload⟩, .refl hwell⟩

/-- What comes for the first time is stored as the first stages leave it. -/
theorem screens_of_first (hunknown : v.messages.records.get? hash = none)
    (hwell : p.WellFormed) {returned : MessageHash}
    (hstore : v.storePayload p = .ok (returned, v')) (hheld : v'.messages.Holds hash q) :
    hash = p.hash ∧ v.Screens p (some q) := by
  obtain ⟨stored, hget, hpayload⟩ := hheld
  obtain rfl | ⟨left, record, q', hscreens, hcombines, hpayload', -, hrecords⟩ :=
    delivery_cases hwell hstore
  · cases hget.symm.trans hunknown
  · rw [hrecords] at hget
    split at hget
    next heq =>
      subst heq
      rw [hunknown] at hcombines
      cases hget
      cases hpayload.symm.trans hpayload'
      cases hcombines
      exact ⟨rfl, hscreens⟩
    next => cases hget.symm.trans hunknown

/-- A message of private state validation is admissible when it comes for the first time. -/
theorem admissible_of_first (hreadable : v.messages.Readable)
    (hunknown : v.messages.records.get? hash = none) (hdelivers : Delivers v v')
    (hheld : v'.messages.Holds hash q) (hmode : q.mode = .privateStateValidation) :
    q.Admissible v.messages := by
  obtain ⟨p, _, haccepted, hstore⟩ := hdelivers
  obtain ⟨-, hscreens⟩ := screens_of_first hunknown haccepted.wellFormed hstore hheld
  have hpmode : p.mode = .privateStateValidation := by
    rw [hscreens.left_eq] at hmode
    exact hmode
  obtain ⟨affected, -, hscreen⟩ := hscreens
  rw [(claims_of_screen hpmode hscreen).1]
  refine admissible_of_changed hreadable hpmode hstore ⟨hash, ?_⟩
  intro hsame
  obtain ⟨stored, hget, -⟩ := hheld
  cases hget.symm.trans (hsame.trans hunknown)

/-! ## Deliveries that succeed -/

/-- What private state validation finds admissible passes the first stages as it is. -/
theorem screens_of_admissible (hreadable : v.messages.Readable) (hfault : v.messages.fault = none)
    (hmode : p.mode = .privateStateValidation) (hadmissible : p.Admissible v.messages)
    (hown : checkOwn v.enclave p = .ok ()) : v.Screens p (some p) := by
  have hclaimed (hash : MessageHash) (hlisted : hash ∈ p.affected.keys) :
      ∃ claimed, p.affected.get? hash = some claimed :=
    Option.isSome_iff_exists.mp ((SortedMap.mem_keys_iff _ _).mp hlisted)
  rcases Privacy.resolveClaims_cases (p := p) hreadable.filed (hreadable.decodesAt _) hfault with
    ⟨affected, hresolve, -, hmem⟩ | ⟨-, -, hash, hlisted, hmissing⟩
  · have htrue (tx : AffectedTransaction) (htx : tx ∈ affected) :
        p.affected.get? tx.hash = some (Enclave.sharedSecurityHash p.keySet tx.payload) ∧
          tx.payload.mode = p.mode ∧ p.sender ∈ tx.payload.keys := by
      obtain ⟨hlisted, hholds⟩ := (hmem tx).mp htx
      obtain ⟨claimed, hget⟩ := hclaimed tx.hash hlisted
      obtain ⟨q, hq, hqmode, hsender, rfl⟩ := hadmissible.claims tx.hash claimed hget
      cases hq.unique hholds
      exact ⟨hget, hqmode.trans hmode.symm, hsender⟩
    have hvalid : (Enclave.invalidSecurityHashes p affected).isEmpty = true :=
      Privacy.invalidSecurityHashes_isEmpty_iff.mpr fun tx htx => (htrue tx htx).1
    exact screens_of_valid hresolve hvalid (fun tx htx => (htrue tx htx).2) hown
  · obtain ⟨claimed, hget⟩ := hclaimed hash hlisted
    obtain ⟨q, hq, -⟩ := hadmissible.claims hash claimed hget
    exact absurd hq (hmissing q)

/-- A new payload that passes its checks is kept as it is. -/
theorem delivers_keep {bytes : Bytes} (hcheck : p.check = .ok ())
    (hencode : v.codec.encode p = .ok bytes) (hscreens : v.Screens p (some p))
    (hfault : v.messages.fault = none) (hunknown : v.messages.records.get? p.hash = none) :
    Delivers v (v.keep ⟨p.hash, bytes, v.codec⟩) :=
  ⟨p, p.hash, .decoded (Codec.decode_of_encode hcheck hencode),
    storePayload_keep hencode hscreens hfault hunknown⟩

/-- A payload that gives the one stored under its hash something new is merged into it. -/
theorem delivers_merged {record : EncryptedTransaction} {merged : Payload}
    {bytes bytes' : Bytes} (hcheck : p.check = .ok ()) (hencode : v.codec.encode p = .ok bytes)
    (hscreens : v.Screens p (some p)) (hfault : v.messages.fault = none)
    (hstored : v.messages.records.get? p.hash = some record) (hpayload : record.payload = .ok q)
    (hcipher : q.cipherText = p.cipherText) (hkeys : ∀ key ∈ q.keys, key ∈ p.keys)
    (hmerge : q.merge p = .ok (some merged))
    (hencode' : record.codec.encode merged = .ok bytes') :
    Delivers v (v.keep ⟨p.hash, bytes', record.codec⟩) := by
  exact ⟨p, p.hash, .decoded (Codec.decode_of_encode hcheck hencode),
    storePayload_merge hscreens hfault hstored hpayload hcipher (fun _ => hkeys) hmerge hencode'⟩

/-! ## Runs -/

theorem readable_of_run (hempty : v₀.messages.records = .empty)
    (hrun : Relation.ReflTransGen Delivers v₀ v) : v.messages.Readable := by
  induction hrun with
  | refl => exact .of_empty hempty
  | tail _ hdelivers ih => exact readable_of_delivers ih hdelivers

theorem exists_grown_of_run (hheld : v.messages.Holds hash q)
    (hrun : Relation.ReflTransGen Delivers v v') :
    ∃ q', v'.messages.Holds hash q' ∧ q.Extends q' := by
  induction hrun with
  | refl => exact ⟨q, hheld, .refl (wellFormed_of_holds hheld)⟩
  | tail _ hdelivers ih =>
    obtain ⟨q', hheld', hgrown⟩ := ih
    obtain ⟨q'', hheld'', hgrown'⟩ := exists_grown_of_delivers hheld' hdelivers
    exact ⟨q'', hheld'', hgrown.trans hgrown'⟩

/-- A message that is stored at the end of a run came in one of its deliveries, and was `first`
then. -/
structure Arrives (v₀ before after v : Vault) (hash : MessageHash) (first last : Payload) :
    Prop where
  reached : Relation.ReflTransGen Delivers v₀ before
  unknown : before.messages.records.get? hash = none
  delivers : Delivers before after
  held : after.messages.Holds hash first
  continues : Relation.ReflTransGen Delivers after v
  grown : first.Extends last

theorem exists_arrives (hempty : v₀.messages.records = .empty)
    (hrun : Relation.ReflTransGen Delivers v₀ v) (hheld : v.messages.Holds hash r) :
    ∃ before after first, Arrives v₀ before after v hash first r := by
  induction hrun generalizing r with
  | refl =>
    obtain ⟨record, hget, -⟩ := hheld
    rw [hempty] at hget
    cases hget
  -- The message came in the last delivery, or it was there before and has grown at most.
  | @tail before v hrun hdelivers ih =>
    cases hknown : before.messages.records.get? hash with
    | none =>
      exact ⟨before, v, r, hrun, hknown, hdelivers, hheld, .refl,
        .refl (wellFormed_of_holds hheld)⟩
    | some record =>
      obtain ⟨q, hpayload⟩ := (readable_of_run hempty hrun).decodes hash record hknown
      obtain ⟨q', hheld', hgrown⟩ := exists_grown_of_delivers ⟨record, hknown, hpayload⟩ hdelivers
      cases hheld'.unique hheld
      obtain ⟨earlier, after, first, harrives⟩ := ih ⟨record, hknown, hpayload⟩
      exact ⟨earlier, after, first, { harrives with
        continues := harrives.continues.tail hdelivers
        grown := harrives.grown.trans hgrown }⟩

/-- A claim that is stored is the security hash of the recipients that the two messages had in
common when the claiming one came. Both have kept those recipients, and if they have no others in
common now, the claim is true of what is stored. -/
theorem claims_of_run (hempty : v₀.messages.records = .empty)
    (hrun : Relation.ReflTransGen Delivers v₀ v) (hheld : v.messages.Holds hash r)
    (hmode : r.mode = .privateStateValidation) (hclaim : r.affected.get? other = some claimed) :
    ∃ before after first known a, Arrives v₀ before after v hash first r ∧
      before.messages.Holds other known ∧ v.messages.Holds other a ∧ known.Extends a ∧
      claimed = .derive (known.keySet.inter first.keySet) known.cipherText ∧
      ((∀ key ∈ a.keys, key ∈ r.keys → key ∈ known.keys ∧ key ∈ first.keys) →
        claimed = .derive (a.keySet.inter r.keySet) a.cipherText) := by
  obtain ⟨before, after, first, harrives⟩ := exists_arrives hempty hrun hheld
  have hgrown := harrives.grown
  have hadmissible := admissible_of_first (readable_of_run hempty harrives.reached)
    harrives.unknown harrives.delivers harrives.held (hgrown.mode ▸ hmode)
  rw [hgrown.affected] at hclaim
  obtain ⟨known, hknown, -, -, hclaimed⟩ := hadmissible.claims other claimed hclaim
  obtain ⟨a, ha, hextends⟩ := exists_grown_of_run hknown (harrives.continues.head harrives.delivers)
  refine ⟨before, after, first, known, a, harrives, hknown, ha, hextends, hclaimed, ?_⟩
  intro hshared
  have hsets : a.keySet.inter r.keySet = known.keySet.inter first.keySet := by
    apply SortedSet.ext_mem
    intro key
    simp only [SortedSet.mem_inter, Payload.keySet, SortedSet.mem_ofList]
    exact ⟨fun h => hshared key h.1 h.2, fun h => ⟨hextends.keys key h.1, hgrown.keys key h.2⟩⟩
  rw [hsets, hextends.cipherText, hclaimed]

/-! ## A claim that goes out of date -/

/-- Every stored claim of private state validation is the security hash of the recipients that the
two messages have in common now. -/
def ClaimsHold (v : Vault) : Prop :=
  ∀ hash r, v.messages.Holds hash r → r.mode = .privateStateValidation →
    ∀ other claimed, r.affected.get? other = some claimed →
      ∃ a, v.messages.Holds other a ∧ claimed = .derive (a.keySet.inter r.keySet) a.cipherText

/-- A message of private state validation with one recipient. -/
def alone : Payload where
  mode := .privateStateValidation
  sender := .filled 1
  cipherText := [7]
  nonce := []
  boxes := [[1]]
  recipientNonce := []
  keys := [.filled 1]

/-- The same message with one recipient more. -/
def both : Payload := { alone with boxes := [[1], [2]], keys := [.filled 1, .filled 2] }

/-- A message to both recipients with a claim about the other message that holds as long as that
has one recipient. -/
def claimant : Payload where
  mode := .privateStateValidation
  affected := SortedMap.empty.insert alone.hash (.derive (.ofList [.filled 1]) [7])
  sender := .filled 1
  cipherText := [8]
  nonce := []
  boxes := [[1]]
  recipientNonce := []
  keys := [.filled 1, .filled 2]

/-- A vault that writes its records in binary form. -/
def recorder : Vault := { bystander {} with codec := .bincode }

theorem digests_ne : claimant.hash ≠ alone.hash ∧
    SecurityHash.derive (.ofList [.filled 1]) [7] ≠
      .derive (.ofList [.filled 1, .filled 2]) [7] := by
  decide +kernel

theorem fits_alone : alone.Fits :=
  ⟨by decide, by decide, by decide, by decide, by decide, by decide, by decide, by decide,
    fun id hid => by cases hid⟩

theorem fits_both : both.Fits :=
  ⟨by decide, by decide, by decide, by decide, by decide, by decide, by decide, by decide,
    fun id hid => by cases hid⟩

theorem fits_claimant : claimant.Fits := by
  refine ⟨by decide, by decide, by decide, by decide, by decide, ⟨by decide, ?_⟩, by decide,
    by decide, fun id hid => by cases hid⟩
  intro entry hentry
  cases List.mem_singleton.mp hentry
  exact ⟨Crypto.Sha512.length_digest_lt _, Crypto.Sha512.length_digest_lt _⟩

theorem get?_affected_claimant (other : MessageHash) : claimant.affected.get? other =
    if other = alone.hash then some (.derive (.ofList [.filled 1]) [7]) else none := by
  rw [claimant, SortedMap.get?_insert, SortedMap.get?_empty]

/-- The claim is true next to the message for one recipient. -/
theorem admissible_claimant (hunknown : v.messages.records.get? claimant.hash = none)
    (hheld : v.messages.Holds alone.hash alone) : claimant.Admissible v.messages := by
  constructor
  · intro other claimed hclaim
    rw [get?_affected_claimant] at hclaim
    split at hclaim
    next heq =>
      cases hclaim
      exact ⟨alone, heq ▸ hheld, rfl, by decide, rfl⟩
    next => cases hclaim
  · rintro q ⟨record, hget, -⟩
    cases hget.symm.trans hunknown

/-- The message comes for one recipient, then the claim about it for both, and then the message for
the other recipient as well. -/
theorem exists_run_both : ∃ v, Relation.ReflTransGen Delivers recorder v ∧
    v.messages.Holds claimant.hash claimant ∧ v.messages.Holds alone.hash both := by
  obtain ⟨bytes₁, hencode₁⟩ := fits_alone.exists_encode
  obtain ⟨bytes₂, hencode₂⟩ := fits_claimant.exists_encode
  obtain ⟨bytes₃, hencode₃⟩ := fits_both.exists_encode
  let record₁ : EncryptedTransaction := ⟨alone.hash, bytes₁, .bincode⟩
  let record₂ : EncryptedTransaction := ⟨claimant.hash, bytes₂, .bincode⟩
  let record₃ : EncryptedTransaction := ⟨both.hash, bytes₃, .bincode⟩
  let v₁ := recorder.keep record₁
  let v₂ := v₁.keep record₂
  have hpayload₁ : record₁.payload = .ok alone := Codec.decode_of_encode rfl hencode₁
  have hpayload₂ : record₂.payload = .ok claimant := Codec.decode_of_encode rfl hencode₂
  have hpayload₃ : record₃.payload = .ok both := Codec.decode_of_encode rfl hencode₃
  have hfirst : Delivers recorder v₁ := delivers_keep rfl hencode₁ ⟨[], rfl, rfl⟩ rfl rfl
  have hreadable : v₁.messages.Readable := readable_of_run rfl (.single hfirst)
  have hunknown : v₁.messages.records.get? claimant.hash = none :=
    (get?_keep _ _).trans (if_neg digests_ne.1)
  have hadmissible := admissible_claimant hunknown (holds_keep hpayload₁)
  have hsecond : Delivers v₁ v₂ :=
    delivers_keep rfl hencode₂ (screens_of_admissible hreadable rfl rfl hadmissible rfl) rfl
      hunknown
  have hstored : v₂.messages.records.get? both.hash = some record₁ :=
    (get?_keep _ _).trans ((if_neg digests_ne.1.symm).trans ((get?_keep _ _).trans (if_pos rfl)))
  have hthird : Delivers v₂ (v₂.keep record₃) :=
    delivers_merged (p := both) rfl hencode₃ ⟨[], rfl, rfl⟩ rfl hstored hpayload₁ rfl (by decide)
      rfl hencode₃
  exact ⟨_, ((Relation.ReflTransGen.single hfirst).tail hsecond).tail hthird,
    holds_keep_of_ne digests_ne.1 (holds_keep hpayload₂), holds_keep hpayload₃⟩

/-- The claim is still the one that was true when it came. -/
theorem claims_of_run_both : ∃ (v : Vault) (first known : Payload),
    Relation.ReflTransGen Delivers recorder v ∧ v.messages.Holds claimant.hash claimant ∧
      v.messages.Holds alone.hash both ∧ first.Extends claimant ∧ known.Extends both ∧
      SecurityHash.derive (.ofList [.filled 1]) [7] =
        .derive (known.keySet.inter first.keySet) known.cipherText := by
  obtain ⟨v, hrun, hclaimant, hboth⟩ := exists_run_both
  obtain ⟨before, after, first, known, a, harrives, -, ha, hgrown, hclaimed, -⟩ :=
    claims_of_run rfl hrun hclaimant rfl ((get?_affected_claimant _).trans (if_pos rfl))
  cases ha.unique hboth
  exact ⟨v, first, known, hrun, hclaimant, hboth, harrives.grown, hgrown, hclaimed⟩

/-- A claim goes out of date when the message that it is about gains a recipient. -/
theorem not_claimsHold_of_run : ¬∀ v₀ v : Vault, v₀.messages.records = .empty →
    Relation.ReflTransGen Delivers v₀ v → v.ClaimsHold := by
  intro hclaims
  obtain ⟨v, hrun, hclaimant, hboth⟩ := exists_run_both
  obtain ⟨a, ha, hclaimed⟩ :=
    hclaims recorder v rfl hrun _ _ hclaimant rfl _ _
      ((get?_affected_claimant _).trans (if_pos rfl))
  cases ha.unique hboth
  exact digests_ne.2 hclaimed

end Vault

end SealedExchange
