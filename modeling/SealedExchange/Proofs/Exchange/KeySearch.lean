import SealedExchange.Proofs.Enclave.Sealed
import SealedExchange.Proofs.Exchange.Readable
import SealedExchange.Proofs.Privacy.Affected

/-! # The search for a key that opens

An enclave tries its keys on a payload in key order; on a legacy payload the sender comes first.
Keys that it leaves out could not open the payload, so the search finds the first managed key that
opens it, whether or not the payload lists the key, and fails only if no managed key opens it. The
same holds for the messages that a payload claims to affect: one is visible if its record is stored
and the preferred key or some managed key opens it.
-/

namespace SealedExchange

/-- One key is tried on a payload before another: in key order, but the sender of a legacy payload
comes before all others. -/
def Payload.TriesBefore (p : Payload) (first second : PublicKey) : Prop :=
  if p.isLegacy then second ≠ p.sender ∧ (first = p.sender ∨ compare first second = .lt)
  else compare first second = .lt

/-- In an ordered list the first item that passes a test is the one that no other which passes it
comes before. -/
theorem find?_eq_some_iff_of_pairwise {α : Type} {before : α → α → Prop} {test : α → Bool}
    {items : List α} {a : α} (hasymm : ∀ a b, before a b → ¬before b a)
    (hitems : items.Pairwise before) :
    items.find? test = some a ↔
      a ∈ items ∧ test a = true ∧ ∀ b ∈ items, before b a → test b = false := by
  induction items with
  | nil => simp
  | cons head rest ih =>
    obtain ⟨hhead, hrest⟩ := List.pairwise_cons.mp hitems
    by_cases hpass : test head = true
    · rw [List.find?_cons_of_pos hpass, Option.some.injEq]
      constructor
      · rintro rfl
        refine ⟨List.mem_cons_self, hpass, fun b hb hbefore => ?_⟩
        rcases List.mem_cons.mp hb with rfl | hb
        · exact absurd hbefore (hasymm _ _ hbefore)
        · exact absurd hbefore (hasymm _ _ (hhead b hb))
      · rintro ⟨hmem, -, hfirst⟩
        rcases List.mem_cons.mp hmem with rfl | hmem
        · rfl
        · have hfails := hfirst head List.mem_cons_self (hhead a hmem)
          rw [hpass] at hfails
          cases hfails
    · rw [List.find?_cons_of_neg hpass, ih hrest]
      have hfails := Bool.eq_false_of_not_eq_true hpass
      constructor
      · rintro ⟨hmem, htest, hfirst⟩
        exact ⟨.tail _ hmem, htest, List.forall_mem_cons.mpr ⟨fun _ => hfails, hfirst⟩⟩
      · rintro ⟨hmem, htest, hfirst⟩
        rcases List.mem_cons.mp hmem with rfl | hmem
        · exact absurd htest hpass
        · exact ⟨hmem, htest, (List.forall_mem_cons.mp hfirst).2⟩

namespace Enclave

variable {e : Enclave} {p : Payload} {key : PublicKey} {message : Bytes}

theorem opens_iff : e.opens p key = true ↔ ∃ message, e.decryptWith p key = .ok message := by
  rw [opens]
  cases e.decryptWith p key <;> simp [Except.toOption]

/-! ## Boxes taken alone -/

theorem exists_decryptAny_iff {last : EnclaveError} {boxes : List Bytes} :
    (∃ message, e.decryptAny p key last boxes = .ok message) ↔
      ∃ box ∈ boxes, ∃ message, e.decrypt (p.withBox box) key = .ok message := by
  induction boxes generalizing last with
  | nil => simp [decryptAny]
  | cons box rest ih =>
    rw [decryptAny]
    cases hhead : e.decrypt (p.withBox box) key with
    | ok opened => exact iff_of_true ⟨opened, rfl⟩ ⟨box, List.mem_cons_self, opened, hhead⟩
    | error reason =>
      simp only [ih, List.mem_cons, exists_eq_or_imp, hhead, reduceCtorEq, exists_false, false_or]

/-- A key opens a legacy payload if it opens a box of the payload taken alone. -/
theorem exists_decryptWith_legacy_iff (hlegacy : p.isLegacy = true) :
    (∃ message, e.decryptWith p key = .ok message) ↔
      ∃ box ∈ p.boxes, ∃ message, e.decrypt (p.withBox box) key = .ok message := by
  rw [decryptWith_of_legacy hlegacy]
  exact exists_decryptAny_iff

/-! ## The keys that are tried -/

/-- A key that opens a payload which lists keys is one of those. -/
theorem mem_keys_of_decryptWith (hkeyed : p.isLegacy ≠ true)
    (hopens : e.decryptWith p key = .ok message) : key ∈ p.keys := by
  rw [decryptWith_of_keyed hkeyed, decrypt, boxToOpen, if_neg hkeyed] at hopens
  cases hbox : p.boxFor? key with
  | some box => exact Payload.mem_keys_of_boxFor?_eq_some hbox
  | none =>
    rw [hbox] at hopens
    cases hopens

/-- No key that could open a payload is left out. -/
theorem mem_candidateKeys_iff : key ∈ e.candidateKeys p ↔
    e.manages key = true ∧ (p.isLegacy = true ∨ key ∈ p.keys) := by
  rw [candidateKeys]
  split
  next hlegacy =>
    rw [List.mem_append, List.mem_filter, List.mem_filter, ← and_or_left, mem_managedKeys]
    simp [hlegacy, em]
  next hkeyed =>
    rw [List.mem_filter, mem_managedKeys]
    simp [hkeyed]

theorem mem_candidateKeys_of_decryptWith (hmanages : e.manages key = true)
    (hopens : e.decryptWith p key = .ok message) : key ∈ e.candidateKeys p := by
  refine mem_candidateKeys_iff.mpr ⟨hmanages, ?_⟩
  by_cases hlegacy : p.isLegacy = true
  · exact .inl hlegacy
  · exact .inr (mem_keys_of_decryptWith hlegacy hopens)

theorem sorted_managedKeys (e : Enclave) :
    e.managedKeys.Pairwise fun a b => compare a b = .lt := by
  rw [managedKeys, SortedMap.keys, List.pairwise_map]
  exact e.keys.sorted

theorem pairwise_candidateKeys (e : Enclave) (p : Payload) :
    (e.candidateKeys p).Pairwise p.TriesBefore := by
  have hsorted := e.sorted_managedKeys
  rw [candidateKeys]
  split
  next hlegacy =>
    have hbefore : ∀ a b, b ≠ p.sender → (a = p.sender ∨ compare a b = .lt) →
        p.TriesBefore a b := by
      intro a b hne h
      rw [Payload.TriesBefore, if_pos hlegacy]
      exact ⟨hne, h⟩
    refine List.pairwise_append.mpr ⟨?_, ?_, ?_⟩
    · -- The sender is managed under one entry only.
      refine (hsorted.filter _).imp_of_mem fun {a b} ha hb hlt => ?_
      have ha := of_decide_eq_true (List.mem_filter.mp ha).2
      have hb := of_decide_eq_true (List.mem_filter.mp hb).2
      have hself : compare p.sender p.sender = .eq := Std.ReflCmp.compare_self
      rw [ha, hb, hself] at hlt
      cases hlt
    · refine (hsorted.filter _).imp_of_mem fun {a b} _ hb hlt => ?_
      exact hbefore a b (of_decide_eq_true (List.mem_filter.mp hb).2) (.inr hlt)
    · intro a ha b hb
      exact hbefore a b (of_decide_eq_true (List.mem_filter.mp hb).2)
        (.inl (of_decide_eq_true (List.mem_filter.mp ha).2))
  next hkeyed =>
    refine (hsorted.filter _).imp fun {a b} hlt => ?_
    rw [Payload.TriesBefore, if_neg hkeyed]
    exact hlt

theorem not_triesBefore_of_triesBefore {first second : PublicKey}
    (h : p.TriesBefore first second) : ¬p.TriesBefore second first := by
  have hasymm : compare first second = .lt → compare second first ≠ .lt := by
    intro hlt hgt
    have hswap : compare first second = (compare second first).swap := Std.OrientedCmp.eq_swap
    rw [hlt, hgt] at hswap
    cases hswap
  rw [Payload.TriesBefore] at h ⊢
  split
  next hlegacy =>
    rw [if_pos hlegacy] at h
    rintro ⟨hfirst, hsecond⟩
    exact hasymm (h.2.resolve_left hfirst) (hsecond.resolve_left h.1)
  next hkeyed =>
    rw [if_neg hkeyed] at h
    exact hasymm h

/-! ## The first key that opens -/

theorem firstOpening_eq_some_iff {keys : List PublicKey} :
    e.firstOpening p keys = some (key, message) ↔
      keys.find? (e.opens p) = some key ∧ e.decryptWith p key = .ok message := by
  induction keys with
  | nil => simp [firstOpening]
  | cons head rest ih =>
    rw [firstOpening]
    cases hopen : e.decryptWith p head with
    | ok opened =>
      rw [List.find?_cons_of_pos (opens_iff.mpr ⟨opened, hopen⟩), Option.some.injEq,
        Option.some.injEq, Prod.mk.injEq]
      refine and_congr_right fun heq => ?_
      rw [← heq, hopen, Except.ok.injEq]
    | error reason =>
      have hfails : ¬e.opens p head = true := by
        rw [opens_iff, hopen]
        simp
      rw [List.find?_cons_of_neg hfails]
      exact ih

theorem firstOpening_eq_none_iff {keys : List PublicKey} :
    e.firstOpening p keys = none ↔ ∀ other ∈ keys, e.opens p other = false := by
  induction keys with
  | nil => simp [firstOpening]
  | cons head rest ih =>
    rw [firstOpening, List.forall_mem_cons, opens]
    cases e.decryptWith p head with
    | ok opened => simp [Except.toOption]
    | error reason => simp [Except.toOption, ih]

theorem searchDecrypt_eq_ok_iff : e.searchDecrypt p = .ok (key, message) ↔
    e.manages key = true ∧ e.decryptWith p key = .ok message ∧
      ∀ other, e.manages other = true → p.TriesBefore other key → e.opens p other = false := by
  have hsearch : e.searchDecrypt p = .ok (key, message) ↔
      e.firstOpening p (e.candidateKeys p) = some (key, message) := by
    rw [searchDecrypt]
    cases e.firstOpening p (e.candidateKeys p) <;> simp
  rw [hsearch, firstOpening_eq_some_iff, find?_eq_some_iff_of_pairwise
    (fun _ _ => not_triesBefore_of_triesBefore) (e.pairwise_candidateKeys p)]
  constructor
  · rintro ⟨⟨hmem, -, hfirst⟩, hmessage⟩
    refine ⟨(mem_candidateKeys_iff.mp hmem).1, hmessage, fun other hother hbefore => ?_⟩
    by_contra hopens
    obtain ⟨opened, hopened⟩ := opens_iff.mp (Bool.not_eq_false _ ▸ hopens)
    exact hopens (hfirst other (mem_candidateKeys_of_decryptWith hother hopened) hbefore)
  · rintro ⟨hmanages, hmessage, hfirst⟩
    refine ⟨⟨mem_candidateKeys_of_decryptWith hmanages hmessage, opens_iff.mpr ⟨_, hmessage⟩,
      fun other hother => ?_⟩, hmessage⟩
    exact hfirst other (mem_candidateKeys_iff.mp hother).1

theorem searchDecrypt_eq_error_iff {reason : TransactionError} :
    e.searchDecrypt p = .error reason ↔ reason = .recipientKeyNotFound p.hash.toBase64 ∧
      ∀ other, e.manages other = true → e.opens p other = false := by
  have hnone : e.firstOpening p (e.candidateKeys p) = none ↔
      ∀ other, e.manages other = true → e.opens p other = false := by
    rw [firstOpening_eq_none_iff]
    constructor
    · intro hall other hmanages
      by_contra hopens
      obtain ⟨opened, hopened⟩ := opens_iff.mp (Bool.not_eq_false _ ▸ hopens)
      exact hopens (hall other (mem_candidateKeys_of_decryptWith hmanages hopened))
    · exact fun hall other hother => hall other (mem_candidateKeys_iff.mp hother).1
  rw [← hnone, searchDecrypt]
  cases e.firstOpening p (e.candidateKeys p) with
  | some found => simp
  | none => simp [eq_comm]

theorem isSome_searchDecrypt_iff : (e.searchDecrypt p).toOption.isSome = true ↔
    ∃ other, e.manages other = true ∧ e.opens p other = true := by
  cases hsearch : e.searchDecrypt p with
  | ok found =>
    obtain ⟨hmanages, hmessage, -⟩ := searchDecrypt_eq_ok_iff.mp hsearch
    exact iff_of_true rfl ⟨found.1, hmanages, opens_iff.mpr ⟨found.2, hmessage⟩⟩
  | error reason =>
    obtain ⟨-, hall⟩ := searchDecrypt_eq_error_iff.mp hsearch
    refine iff_of_false Bool.false_ne_true ?_
    rintro ⟨other, hmanages, hopens⟩
    rw [hall other hmanages] at hopens
    cases hopens

theorem mem_legacyParties_iff : key ∈ e.legacyParties p ↔
    e.manages key = true ∧ ∃ message, e.decryptWith p key = .ok message := by
  rw [legacyParties, SortedSet.mem_ofList, List.mem_filter, opens_iff]
  constructor
  · rintro ⟨hmem, hopens⟩
    exact ⟨(mem_candidateKeys_iff.mp hmem).1, hopens⟩
  · rintro ⟨hmanages, message, hmessage⟩
    exact ⟨mem_candidateKeys_of_decryptWith hmanages hmessage, message, hmessage⟩

/-! ## Affected messages -/

/-- The claims that are visible are those about stored messages that the preferred key or some
managed key opens. -/
theorem exists_visibleAffected_iff {s : Store EncryptedTransaction} (hfault : s.fault = none)
    (hreadable : s.Readable) (preferred : PublicKey) :
    ∃ visible, e.visibleAffected s p preferred = .ok visible ∧
      ∀ hash, hash ∈ visible ↔ hash ∈ p.affected.keys ∧ ∃ q, s.Holds hash q ∧
        (e.opens q preferred = true ∨
          ∃ other, e.manages other = true ∧ e.opens q other = true) := by
  rw [visibleAffected]
  split
  next hempty =>
    have hkeys : p.affected.keys = [] := by
      rw [SortedMap.keys, List.isEmpty_iff.mp hempty, List.map_nil]
    exact ⟨_, rfl, fun hash => by simp [hkeys]⟩
  next =>
    obtain ⟨known, hknown⟩ :=
      Privacy.exists_findAffected hfault (hreadable.decodesAt p.affected.keys)
    refine ⟨_, by rw [hknown, ok_bind], fun hash => ?_⟩
    have hmem := Privacy.mem_findAffected_iff hreadable.filed hknown
    rw [SortedSet.mem_ofList, List.mem_map]
    simp only [List.mem_filter, hmem, Bool.or_eq_true, isSome_searchDecrypt_iff]
    constructor
    · rintro ⟨tx, ⟨⟨hclaimed, hholds⟩, hopens⟩, rfl⟩
      exact ⟨hclaimed, tx.payload, hholds, hopens⟩
    · rintro ⟨hclaimed, q, hholds, hopens⟩
      exact ⟨⟨hash, q⟩, ⟨⟨hclaimed, hholds⟩, hopens⟩, rfl⟩

/-! ## Together -/

/-- The search for a key that opens a payload is complete. -/
structure Finds (e : Enclave) (p : Payload) : Prop where
  found : ∀ key message, e.searchDecrypt p = .ok (key, message) ↔
    e.manages key = true ∧ e.decryptWith p key = .ok message ∧
      ∀ other, e.manages other = true → p.TriesBefore other key → e.opens p other = false
  /-- The only failure is that no managed key opens the payload, listed or not. -/
  missed : ∀ reason, e.searchDecrypt p = .error reason ↔
    reason = .recipientKeyNotFound p.hash.toBase64 ∧
      ∀ other, e.manages other = true → e.opens p other = false
  alone : p.isLegacy = true → ∀ key, e.opens p key = true ↔
    ∃ box ∈ p.boxes, ∃ message, e.decrypt (p.withBox box) key = .ok message
  parties : ∀ key, key ∈ e.legacyParties p ↔ e.manages key = true ∧ e.opens p key = true

/-- The search finds the first managed key that opens a payload, and of the messages that the
payload claims to affect those are visible that are stored and that some key opens. -/
theorem finds_of_search (e : Enclave) (p : Payload) {s : Store EncryptedTransaction}
    (hfault : s.fault = none) (hreadable : s.Readable) (preferred : PublicKey) :
    e.Finds p ∧ ∃ visible, e.visibleAffected s p preferred = .ok visible ∧
      ∀ hash, hash ∈ visible ↔ hash ∈ p.affected.keys ∧ ∃ q, s.Holds hash q ∧
        (e.opens q preferred = true ∨
          ∃ other, e.manages other = true ∧ e.opens q other = true) := by
  refine ⟨⟨?_, ?_, ?_, ?_⟩, exists_visibleAffected_iff hfault hreadable preferred⟩
  · exact fun key message => searchDecrypt_eq_ok_iff
  · exact fun reason => searchDecrypt_eq_error_iff
  · exact fun hlegacy key => opens_iff.trans (exists_decryptWith_legacy_iff hlegacy)
  · exact fun key => mem_legacyParties_iff.trans (and_congr_right' opens_iff.symm)

/-! ## A circular without a list of keys -/

open CipherSuite (labelled)
open Vault (holding addressed)

/-- A legacy payload with a box for a smaller key than its sender's and one for the sender itself,
and with claims about three messages. -/
def circular : Payload :=
  { addressed 0 9 with
    keys := []
    boxes := (addressed 0 9).boxes ++ (addressed 1 9).boxes
    affected := ((SortedMap.empty.insert ⟨[1]⟩ ⟨[]⟩).insert ⟨[2]⟩ ⟨[]⟩).insert ⟨[3]⟩ ⟨[]⟩ }

/-- The record of a payload for one recipient under a name of its own. -/
def shelved (party : UInt8) (name : Bytes) : EncryptedTransaction :=
  { EncryptedTransaction.asJson (addressed party 9) with hash := ⟨name⟩ }

/-- Two of the three messages are stored: one for the smaller key, one for a stranger. -/
def shelf : Store EncryptedTransaction where
  records := .ofList [(⟨[1]⟩, shelved 0 [1]), (⟨[2]⟩, shelved 3 [2])]

theorem payload_shelved (party : UInt8) (name : Bytes) :
    (shelved party name).payload = .ok (addressed party 9) :=
  EncryptedTransaction.payload_asJson rfl rfl

theorem get?_shelf {hash : MessageHash} {record : EncryptedTransaction} :
    shelf.records.get? hash = some record ↔
      hash = ⟨[1]⟩ ∧ record = shelved 0 [1] ∨ hash = ⟨[2]⟩ ∧ record = shelved 3 [2] := by
  rw [shelf, SortedMap.get?_ofList_eq_some_iff]
  · simp
  · simp

theorem readable_shelf : shelf.Readable where
  filed _ _ hget := by
    rcases get?_shelf.mp hget with ⟨rfl, rfl⟩ | ⟨rfl, rfl⟩ <;> rfl
  decodes _ _ hget := by
    rcases get?_shelf.mp hget with ⟨-, rfl⟩ | ⟨-, rfl⟩ <;> exact ⟨_, payload_shelved _ _⟩

/-- The sender's own key opens the circular, although a smaller key would too. Of the claims, the
first is visible to a managed key, the second to the preferred key alone, which is not managed, and
the third is about an unknown message. -/
theorem finds_of_search_circular : shelf.fault = none ∧ shelf.Readable ∧
    (holding 0 [1]).searchDecrypt circular = .ok (.filled 1, [7]) ∧
    (holding 0 [1]).opens circular (.filled 0) = true ∧
    ∃ visible, (holding 0 [1]).visibleAffected shelf circular (.filled 3) = .ok visible ∧
      ⟨[1]⟩ ∈ visible ∧ ⟨[2]⟩ ∈ visible ∧ ⟨[3]⟩ ∉ visible := by
  obtain ⟨hfinds, visible, hvisible, hmem⟩ :=
    finds_of_search (holding 0 [1]) circular rfl readable_shelf (.filled 3)
  have hfirst : shelf.Holds ⟨[1]⟩ (addressed 0 9) :=
    ⟨_, get?_shelf.mpr (.inl ⟨rfl, rfl⟩), payload_shelved _ _⟩
  have hsecond : shelf.Holds ⟨[2]⟩ (addressed 3 9) :=
    ⟨_, get?_shelf.mpr (.inr ⟨rfl, rfl⟩), payload_shelved _ _⟩
  refine ⟨rfl, readable_shelf, (hfinds.found _ _).mpr ⟨by decide +kernel, by decide +kernel, ?_⟩,
    by decide +kernel, visible, hvisible, (hmem _).mpr ⟨by decide, _, hfirst, .inr ?_⟩,
    (hmem _).mpr ⟨by decide, _, hsecond, .inl (by decide +kernel)⟩, ?_⟩
  · intro other _ hbefore
    exact absurd rfl hbefore.1
  · exact ⟨.filled 0, by decide +kernel, by decide +kernel⟩
  · rintro hthird
    obtain ⟨-, q, ⟨record, hget, -⟩, -⟩ := (hmem _).mp hthird
    rcases get?_shelf.mp hget with ⟨heq, -⟩ | ⟨heq, -⟩ <;> exact absurd heq (by decide)

end Enclave

end SealedExchange
