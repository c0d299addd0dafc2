import SealedExchange.Privacy.Rules
import SealedExchange.Proofs.Payload.WellFormed

/-! # What a security hash tells apart

The bytes of which a security hash is made can be taken apart in one way only. The number of the
recipients comes first, so it is known how many keys follow, each of one length, and the rest is the
ciphertext, even where that begins with the bytes of a key. So whoever finds one security hash for
two sets of recipients or for two ciphertexts has found a collision of the digest. The set does not
show in which order its keys were listed and how often, and so neither does the hash.
-/

namespace SealedExchange

/-- Two byte strings that the digest does not tell apart. -/
def Crypto.Sha512.Collide (a b : Bytes) : Prop := a ≠ b ∧ digest a = digest b

/-- Two affected messages of one ciphertext whose keys make one set, in whatever order and however
often they are listed. -/
structure AffectedTransaction.Akin (tx tx' : AffectedTransaction) : Prop where
  hash : tx.hash = tx'.hash
  cipherText : tx.payload.cipherText = tx'.payload.cipherText
  keys : ∀ key, key ∈ tx.payload.keys ↔ key ∈ tx'.payload.keys

theorem Bytes.ofNatBE_inj {width m n : Nat} (hm : m < count width) (hn : n < count width)
    (h : ofNatBE width m = ofNatBE width n) : m = n := by
  have hread := congrArg toNatLE (List.reverse_injective h)
  rwa [toNatLE_ofNatLE, toNatLE_ofNatLE, Nat.mod_eq_of_lt hm, Nat.mod_eq_of_lt hn] at hread

/-- Where the number of keys is known, it is known where they end. -/
theorem PublicKey.flatMap_bytes_append_inj {ks ls : List PublicKey} {b c : Bytes}
    (hlength : ks.length = ls.length) (h : ks.flatMap bytes ++ b = ls.flatMap bytes ++ c) :
    ks = ls ∧ b = c := by
  induction ks generalizing ls with
  | nil =>
    cases ls with
    | nil => exact ⟨rfl, h⟩
    | cons l ls => cases hlength
  | cons k ks ih =>
    cases ls with
    | nil => cases hlength
    | cons l ls =>
      rw [List.flatMap_cons, List.flatMap_cons, List.append_assoc, List.append_assoc] at h
      -- All keys have one length, so both sides begin with the bytes of their first key.
      obtain ⟨hbytes, hrest⟩ := List.append_inj h (k.length_eq.trans l.length_eq.symm)
      obtain ⟨rfl, rfl⟩ := ih (Nat.succ.inj hlength) hrest
      exact ⟨congrArg (· :: ks) (ext_bytes hbytes), rfl⟩

namespace SecurityHash

variable {r s : SortedSet PublicKey} {b c : Bytes}

theorem preimage_inj (hr : r.size < UInt64.size) (hs : s.size < UInt64.size) :
    preimage r b = preimage s c ↔ r = s ∧ b = c := by
  constructor
  · intro h
    rw [preimage, preimage, List.append_assoc, List.append_assoc] at h
    obtain ⟨hcount, hrest⟩ := List.append_inj h (by rw [Bytes.length_ofNatBE, Bytes.length_ofNatBE])
    have hcapacity : UInt64.size = Bytes.count 8 := rfl
    rw [hcapacity] at hr hs
    -- Beyond the capacity of the field, two numbers of keys could be written alike.
    have hsize : r.size = s.size := Bytes.ofNatBE_inj hr hs hcount
    obtain ⟨helems, hcipher⟩ := PublicKey.flatMap_bytes_append_inj hsize hrest
    refine ⟨SortedSet.ext_mem fun key => ?_, hcipher⟩
    rw [SortedSet.mem_def, SortedSet.mem_def, helems]
  · rintro ⟨rfl, rfl⟩
    rfl

theorem derive_eq_iff (hr : r.size < UInt64.size) (hs : s.size < UInt64.size) :
    derive r b = derive s c ↔
      (r = s ∧ b = c) ∨ Crypto.Sha512.Collide (preimage r b) (preimage s c) := by
  rw [← preimage_inj hr hs, derive, derive, mk.injEq]
  constructor
  · intro hdigest
    exact (em _).imp_right fun hne => ⟨hne, hdigest⟩
  · rintro (heq | ⟨-, hdigest⟩)
    · rw [heq]
    · exact hdigest

end SecurityHash

/-! ## Lists of keys -/

variable {ks ls : List PublicKey} {txs txs' : List AffectedTransaction}

namespace Enclave

/-- The security hash of an affected message is the digest of the keys that are listed on both
sides, and of its ciphertext. -/
theorem sharedSecurityHash_eq (p q : Payload) : sharedSecurityHash p.keySet q =
    .derive (.ofList (q.keys.filter (· ∈ p.keys))) q.cipherText := by
  rw [sharedSecurityHash]
  congr 1
  apply SortedSet.ext_mem
  intro key
  simp [SortedSet.mem_inter, Payload.keySet]

/-- It depends on the ciphertext and on the set of recipients only. -/
theorem sharedSecurityHash_congr {recipients : SortedSet PublicKey} {q q' : Payload}
    (hcipher : q.cipherText = q'.cipherText) (hkeys : ∀ key, key ∈ q.keys ↔ key ∈ q'.keys) :
    sharedSecurityHash recipients q = sharedSecurityHash recipients q' := by
  have hset : q.keySet = q'.keySet := SortedSet.ofList_congr hkeys
  rw [sharedSecurityHash, sharedSecurityHash, hset, hcipher]

theorem invalidSecurityHashes_congr (hkeys : ∀ key, key ∈ ks ↔ key ∈ ls)
    (htxs : List.Forall₂ AffectedTransaction.Akin txs txs') (p : Payload) :
    invalidSecurityHashes { p with keys := ks } txs =
      invalidSecurityHashes { p with keys := ls } txs' := by
  have hset : ({ p with keys := ks } : Payload).keySet = ({ p with keys := ls } : Payload).keySet :=
    SortedSet.ofList_congr hkeys
  rw [invalidSecurityHashes, invalidSecurityHashes, hset]
  congr 1
  induction htxs with
  | nil => rfl
  | cons hakin _ ih =>
    simp only [List.filter_cons, hakin.hash, sharedSecurityHash_congr hakin.cipherText hakin.keys]
    split
    next => rw [List.map_cons, List.map_cons, hakin.hash, ih]
    next => exact ih

end Enclave

theorem Privacy.securityHashes_congr (hkeys : ∀ key, key ∈ ks ↔ key ∈ ls)
    (htxs : List.Forall₂ AffectedTransaction.Akin txs txs') :
    securityHashes txs ks = securityHashes txs' ls := by
  rw [securityHashes, securityHashes, SortedSet.ofList_congr hkeys]
  congr 1
  induction htxs with
  | nil => rfl
  | cons hakin _ ih =>
    rw [List.map_cons, List.map_cons, ih, hakin.hash,
      Enclave.sharedSecurityHash_congr hakin.cipherText hakin.keys]

namespace SecurityHash

/-- A security hash stands for a set of recipients and a ciphertext. What is hashed for them is
hashed for no others, so that security hashes are equal where sets and ciphertexts are, and
elsewhere only if the digest has a collision. In which order and how often keys are listed has no
effect on the hash of a list, on the hashes that a message claims or on the claims that are found
wrong. -/
theorem binds_recipients :
    (∀ (r s : SortedSet PublicKey) (b c : Bytes), r.size < UInt64.size → s.size < UInt64.size →
      (preimage r b = preimage s c ↔ r = s ∧ b = c) ∧
      (derive r b = derive s c ↔
        (r = s ∧ b = c) ∨ Crypto.Sha512.Collide (preimage r b) (preimage s c))) ∧
    ∀ ks ls : List PublicKey, (∀ key, key ∈ ks ↔ key ∈ ls) →
      (∀ c : Bytes, derive (.ofList ks) c = derive (.ofList ls) c) ∧
      ∀ txs txs' : List AffectedTransaction, List.Forall₂ AffectedTransaction.Akin txs txs' →
        Privacy.securityHashes txs ks = Privacy.securityHashes txs' ls ∧
        ∀ p : Payload, Enclave.invalidSecurityHashes { p with keys := ks } txs =
          Enclave.invalidSecurityHashes { p with keys := ls } txs' := by
  refine ⟨fun r s b c hr hs => ⟨preimage_inj hr hs, derive_eq_iff hr hs⟩, fun ks ls hkeys =>
    ⟨fun c => ?_, fun txs txs' htxs => ⟨?_, ?_⟩⟩⟩
  · rw [SortedSet.ofList_congr hkeys]
  · exact Privacy.securityHashes_congr hkeys htxs
  · exact Enclave.invalidSecurityHashes_congr hkeys htxs

/-- A message for two parties. -/
def notice : Payload where
  mode := .partyProtection
  sender := .filled 1
  cipherText := [7]
  nonce := []
  boxes := [[1]]
  recipientNonce := []
  keys := [.filled 1, .filled 2]

/-- The ciphertext may begin with the second key: the keys and the ciphertext then read the same as
those of two recipients, but what is hashed differs. A second listing of a key changes nothing. -/
theorem binds_recipients_keyLike :
    (SortedSet.ofList [PublicKey.filled 1]).elems.flatMap PublicKey.bytes ++
        ((PublicKey.filled 2).bytes ++ [7]) =
      (SortedSet.ofList [PublicKey.filled 1, .filled 2]).elems.flatMap PublicKey.bytes ++ [7] ∧
    preimage (.ofList [.filled 1]) ((PublicKey.filled 2).bytes ++ [7]) ≠
      preimage (.ofList [.filled 1, .filled 2]) [7] ∧
    (derive (.ofList [.filled 1]) ((PublicKey.filled 2).bytes ++ [7]) =
        derive (.ofList [.filled 1, .filled 2]) [7] →
      Crypto.Sha512.Collide (preimage (.ofList [.filled 1]) ((PublicKey.filled 2).bytes ++ [7]))
        (preimage (.ofList [.filled 1, .filled 2]) [7])) ∧
    derive (.ofList [.filled 2, .filled 1, .filled 2]) [7] =
      derive (.ofList [.filled 1, .filled 2]) [7] ∧
    Privacy.securityHashes [⟨⟨[1]⟩, notice⟩] [.filled 2, .filled 1, .filled 2] =
      Privacy.securityHashes [⟨⟨[1]⟩, { notice with keys := [.filled 2, .filled 2, .filled 1] }⟩]
        [.filled 1, .filled 2] := by
  obtain ⟨hpreimage, hderive⟩ := binds_recipients.1 (.ofList [.filled 1])
    (.ofList [.filled 1, .filled 2]) ((PublicKey.filled 2).bytes ++ [7]) [7] (by decide) (by decide)
  have hne : ¬(SortedSet.ofList [PublicKey.filled 1] = .ofList [.filled 1, .filled 2] ∧
      (PublicKey.filled 2).bytes ++ [7] = [7]) := fun h => absurd h.2 (by decide)
  obtain ⟨hlist, hclaims⟩ := binds_recipients.2 [.filled 2, .filled 1, .filled 2]
    [.filled 1, .filled 2] (fun key => by simp; tauto)
  refine ⟨by decide, mt hpreimage.mp hne, fun h => (hderive.mp h).resolve_left hne, hlist [7], ?_⟩
  refine (hclaims _ _ (.cons ⟨rfl, rfl, fun key => ?_⟩ .nil)).1
  simp [notice]

end SecurityHash

end SealedExchange
