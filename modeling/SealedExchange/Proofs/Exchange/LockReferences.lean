import Mathlib.Logic.Function.Basic
import SealedExchange.Proofs.Exchange.LockOrder

/-! # Which mutexes are kept

A mutex is in the table as long as a request refers to it, and unless a request has gone away
without having held it, it does not stay any longer. Whether a request refers to a mutex is seen
from the number of references, which is kept up to date at every step.
-/

namespace SealedExchange.Locks

variable {ι κ : Type}

/-- Every mutex in the table is there for a request. -/
def Wanted (l : Locks ι κ) : Prop := ∀ hash ∈ l.hashes, hash ∈ l.requests.map (·.hash)

variable [DecidableEq ι] [DecidableEq κ] {l l' : Locks ι κ} {id : ι} {r : Request ι κ}
  {event : Event ι κ}

/-- A mutex that goes was not wanted, and one that stays is wanted by somebody else. -/
theorem Orderly.wanted_prune (h : l.Orderly) (hwanted : l.Wanted) (hr : l.request? r.id = some r) :
    (l.prune r).Wanted := by
  have hothers : ∀ hash ∈ l.hashes, hash ≠ r.hash → hash ∈ (l.others r.id).map (·.hash) := by
    intro hash hhash hne
    obtain ⟨r', hr', rfl⟩ := List.mem_map.mp (hwanted hash hhash)
    refine List.mem_map_of_mem (mem_others.mpr ⟨hr', fun hid => hne ?_⟩)
    rw [h.eq_of_id hr hr' hid]
  intro hash hhash
  rw [requests_prune]
  rw [prune] at hhash
  cases hlookup : l.table.lookup r.hash with
  | none =>
    rw [hlookup] at hhash
    exact hothers hash hhash fun heq => lookup_eq_none_iff.mp hlookup (heq ▸ hhash)
  | some mutex =>
    simp only [hlookup] at hhash
    split at hhash
    next hused =>
      by_cases heq : hash = r.hash
      · obtain ⟨r', hr', huses⟩ := List.any_eq_true.mp hused
        obtain ⟨hmutex, hstage⟩ := of_decide_eq_true huses
        have hentry' := h.current r' (mem_others.mp hr').1 hstage
        rw [lookup_eq_some_iff h.single] at hlookup hentry'
        have hsame := List.inj_on_of_nodup_map h.separate hentry' hlookup hmutex
        have hhash' : r'.hash = r.hash := congrArg Prod.fst hsame
        rw [heq, ← hhash']
        exact List.mem_map_of_mem hr'
      · exact hothers hash hhash heq
    next =>
      obtain ⟨entry, hentry, rfl⟩ := List.mem_map.mp hhash
      obtain ⟨hentry, hne⟩ := List.mem_filter.mp hentry
      exact hothers entry.1 (List.mem_map_of_mem hentry) (of_decide_eq_true hne)

theorem Orderly.wanted_step (h : l.Orderly) (hwanted : l.Wanted) (hmoves : l.Moves event l')
    (hstays : ∀ id, event ≠ .abandon id) : l'.Wanted := by
  -- The hashes are wanted by the same requests if one of them has moved to another stage only.
  have hmoved : ∀ {r : Request ι κ} {stage} {requests : List (Request ι κ)}, r ∈ l.requests →
      requests.Perm ({ r with stage } :: l.others r.id) →
      ∀ hash ∈ l.hashes, hash ∈ requests.map (·.hash) := by
    intro r stage requests hr hperm hash hhash
    have hold := ((h.perm_others hr).map (·.hash)).mem_iff.mp (hwanted hash hhash)
    exact (hperm.map (·.hash)).mem_iff.mpr hold
  cases hmoves with
  | @enter id hash =>
    intro other hother
    cases hlookup : l.table.lookup hash with
    | some mutex =>
      simp only [Locks.enter, hlookup, hashes] at hother ⊢
      rw [List.map_append, List.mem_append]
      exact .inl (hwanted other hother)
    | none =>
      simp only [Locks.enter, hlookup, hashes, List.map_append, List.mem_append] at hother ⊢
      exact hother.imp_left (hwanted other)
  | @lineUp r hr => exact hmoved (mem_of_request? hr).1 (perm_lineUp l r)
  | grant hr =>
    have hmem := (mem_of_request? hr).1
    exact hmoved hmem (h.perm_advance hmem _)
  | @abandon r => exact absurd rfl (hstays r.id)
  | release hr =>
    have hmem := (mem_of_request? hr).1
    exact hmoved hmem (h.perm_advance hmem _)
  | prune hr => exact h.wanted_prune hwanted hr

/-! ## Counting references -/

/-- The references to a mutex: that of the table and those of the requests. -/
def references (l : Locks ι κ) (mutex : Nat) : Nat :=
  (l.table.map (·.2)).count mutex + l.requests.countP (·.uses mutex)

/-- Locks with the number of references to every mutex. -/
structure Counted (ι κ : Type) where
  locks : Locks ι κ := {}
  count : Nat → Nat := fun _ => 0

namespace Counted

/-- A request goes away after it has given the mutex back. It removes the entry of its hash if the
table has the only reference to the mutex there. -/
def prune (c : Counted ι κ) (r : Request ι κ) : Counted ι κ :=
  let requests := c.locks.others r.id
  match c.locks.table.lookup r.hash with
  | some mutex =>
    if c.count mutex = 1 then
      ⟨{ c.locks with table := c.locks.table.filter (·.1 ≠ r.hash), requests },
        Function.update c.count mutex 0⟩
    else ⟨{ c.locks with requests }, c.count⟩
  | none => ⟨{ c.locks with requests }, c.count⟩

/-- A step, if it is possible, with the references counted along: who comes adds one to the mutex in
the table, a new mutex starts with that of the table and that of who made it, and who gives a mutex
back or goes away takes one from it. -/
def step? (c : Counted ι κ) (event : Event ι κ) : Option (Counted ι κ) :=
  match event with
  | .enter id hash => do
    let locks ← c.locks.step? (.enter id hash)
    match c.locks.table.lookup hash with
    | some mutex => some ⟨locks, Function.update c.count mutex (c.count mutex + 1)⟩
    | none => some ⟨locks, Function.update c.count c.locks.fresh 2⟩
  | .lineUp _ | .grant _ => do
    let locks ← c.locks.step? event
    some ⟨locks, c.count⟩
  | .abandon id | .release id => do
    let r ← c.locks.request? id
    let locks ← c.locks.step? event
    some ⟨locks, Function.update c.count r.mutex (c.count r.mutex - 1)⟩
  | .prune id => (c.locks.requestAt? id .leaving).map c.prune

/-- The locks and the counts after several steps, if all of them are possible. -/
def run? (c : Counted ι κ) (events : List (Event ι κ)) : Option (Counted ι κ) :=
  events.foldlM step? c

end Counted

omit [DecidableEq ι] [DecidableEq κ] in
theorem uses_iff {mutex : Nat} :
    r.uses mutex = true ↔ r.mutex = mutex ∧ r.stage ≠ .leaving := decide_eq_true_iff

/-- A request that has moved and refers to its mutex still changes no count. -/
theorem Orderly.references_kept (h : l.Orderly) {stage : Stage} (hr : r ∈ l.requests)
    (hperm : l'.requests.Perm ({ r with stage } :: l.others r.id)) (htable : l'.table = l.table)
    (hstage : r.stage ≠ .leaving) (hstage' : stage ≠ .leaving) :
    l'.references = l.references := by
  funext mutex
  have hold := (h.perm_others hr).countP_eq (·.uses mutex)
  have hnew := hperm.countP_eq (·.uses mutex)
  have huses : ({ r with stage } : Request ι κ).uses mutex = r.uses mutex := by
    simp [Request.uses, hstage, hstage']
  rw [List.countP_cons] at hold hnew
  rw [references, references, htable, hold, hnew, huses]

/-- A request that gives its mutex up takes one reference with it. -/
theorem Orderly.references_dropped (h : l.Orderly) (hr : r ∈ l.requests)
    (hstage : r.stage ≠ .leaving) (htable : l'.table = l.table)
    (hcount : ∀ mutex,
      l'.requests.countP (·.uses mutex) = (l.others r.id).countP (·.uses mutex)) :
    l'.references = Function.update l.references r.mutex (l.references r.mutex - 1) := by
  have hold := fun mutex => (h.perm_others hr).countP_eq (·.uses mutex)
  simp only [List.countP_cons, uses_iff, ne_eq, hstage, not_false_eq_true, and_true] at hold
  funext mutex
  simp only [Function.update_apply, references, htable, hcount, hold]
  split
  next heq =>
    rw [heq, if_pos trivial]
    omega
  next hne => rw [if_neg (Ne.symm hne), Nat.add_zero]

theorem Orderly.references_lineUp (h : l.Orderly) (hr : r ∈ l.requests)
    (hstage : r.stage = .entered) : (l.lineUp r).references = l.references :=
  h.references_kept hr (perm_lineUp l r) rfl (by simp [hstage]) nofun

theorem Orderly.references_grant (h : l.Orderly) (hr : r ∈ l.requests)
    (hstage : r.stage = .waiting) : (l.advance r.id .holding).references = l.references :=
  h.references_kept hr (h.perm_advance hr .holding) rfl (by simp [hstage]) nofun

theorem Orderly.references_abandon (h : l.Orderly) (hr : r ∈ l.requests)
    (hstage : r.stage = .entered ∨ r.stage = .waiting) : (l.forget r.id).references =
      Function.update l.references r.mutex (l.references r.mutex - 1) := by
  have hin : r.stage ≠ .leaving := by
    rcases hstage with hstage | hstage <;> simp [hstage]
  exact h.references_dropped hr hin rfl fun _ => rfl

theorem Orderly.references_release (h : l.Orderly) (hr : r ∈ l.requests)
    (hstage : r.stage = .holding) : (l.advance r.id .leaving).references =
      Function.update l.references r.mutex (l.references r.mutex - 1) := by
  refine h.references_dropped hr (by simp [hstage]) rfl fun mutex => ?_
  rw [(h.perm_advance hr .leaving).countP_eq, List.countP_cons]
  simp [Request.uses]

/-- Nothing refers to a mutex that has not been in use. -/
theorem Orderly.references_fresh (h : l.Orderly) : l.references l.fresh = 0 := by
  have hrequests : l.requests.countP (·.uses l.fresh) = 0 := by
    refine List.countP_eq_zero.mpr fun r hr huses => ?_
    obtain ⟨hmutex, hstage⟩ := uses_iff.mp huses
    have hentry := (lookup_eq_some_iff h.single).mp (h.current r hr hstage)
    exact h.fresh_not_mem (hmutex ▸ List.mem_map_of_mem (f := (·.2)) hentry)
  rw [references, List.count_eq_zero.mpr h.fresh_not_mem, hrequests]

omit [DecidableEq ι] in
theorem references_enter_some {hash : κ} {mutex : Nat}
    (hlookup : l.table.lookup hash = some mutex) :
    (l.enter id hash).references =
      Function.update l.references mutex (l.references mutex + 1) := by
  funext other
  rw [Function.update_apply]
  simp only [enter, hlookup, references, List.countP_append, List.countP_singleton]
  by_cases heq : other = mutex
  · subst heq
    simp [Request.uses, Nat.add_assoc]
  · simp [Request.uses, heq, Ne.symm heq]

theorem Orderly.references_enter_none (h : l.Orderly) {hash : κ}
    (hlookup : l.table.lookup hash = none) :
    (l.enter id hash).references = Function.update l.references l.fresh 2 := by
  funext other
  rw [Function.update_apply]
  simp only [Locks.enter, hlookup, references, List.countP_append, List.countP_singleton,
    List.map_append, List.count_append, List.map_singleton, List.count_singleton]
  by_cases heq : other = l.fresh
  · have hnone := h.references_fresh
    rw [references] at hnone
    have huses : (⟨id, hash, l.fresh, .entered⟩ : Request ι κ).uses l.fresh = true := by
      simp [Request.uses]
    simp only [heq, huses, beq_self_eq_true, if_true]
    omega
  · simp [Request.uses, heq, Ne.symm heq]

/-- A request that has given its mutex back does not refer to any. -/
theorem Orderly.countP_others (h : l.Orderly) (hr : r ∈ l.requests) (hstage : r.stage = .leaving)
    (mutex : Nat) : (l.others r.id).countP (·.uses mutex) = l.requests.countP (·.uses mutex) := by
  have hself : ¬r.uses mutex := fun huses => (uses_iff.mp huses).2 hstage
  rw [(h.perm_others hr).countP_eq, List.countP_cons, if_neg hself, Nat.add_zero]

theorem Orderly.count_table (h : l.Orderly) {hash : κ} {mutex : Nat}
    (hlookup : l.table.lookup hash = some mutex) : (l.table.map (·.2)).count mutex = 1 :=
  List.count_eq_one_of_mem h.separate
    (List.mem_map_of_mem (f := (·.2)) ((lookup_eq_some_iff h.single).mp hlookup))

/-- If the table alone refers to a mutex, no request uses it. -/
theorem Orderly.references_eq_one_iff (h : l.Orderly) (hr : r ∈ l.requests)
    (hstage : r.stage = .leaving) {mutex : Nat} (hlookup : l.table.lookup r.hash = some mutex) :
    l.references mutex = 1 ↔ ¬(l.others r.id).any (·.uses mutex) := by
  rw [references, h.count_table hlookup, ← h.countP_others hr hstage, Nat.add_eq_left,
    List.countP_eq_zero, List.any_eq_true]
  simp

/-- An entry that is removed takes the references of the table to its mutex with it. -/
theorem Orderly.count_filter (h : l.Orderly) {hash : κ} {mutex : Nat}
    (hlookup : l.table.lookup hash = some mutex) (other : Nat) :
    ((l.table.filter (·.1 ≠ hash)).map (·.2)).count other =
      if other = mutex then 0 else (l.table.map (·.2)).count other := by
  have hentry := (lookup_eq_some_iff h.single).mp hlookup
  have hperm := (perm_cons_filter h.single hentry).map (·.2)
  have hcount := hperm.count_eq other
  rw [List.map_cons, List.count_cons] at hcount
  split
  next heq =>
    rw [heq, h.count_table hlookup] at hcount
    simp only [beq_self_eq_true, if_true] at hcount
    rw [heq]
    omega
  next hne =>
    rw [if_neg fun heq => hne (eq_of_beq heq).symm] at hcount
    exact hcount.symm

theorem Orderly.counted_prune (h : l.Orderly) (hr : r ∈ l.requests) (hstage : r.stage = .leaving) :
    (⟨l, l.references⟩ : Counted ι κ).prune r = ⟨l.prune r, (l.prune r).references⟩ := by
  have hothers := h.countP_others hr hstage
  have hgone : ({ l with requests := l.others r.id } : Locks ι κ).references = l.references := by
    funext mutex
    simp only [references, hothers]
  cases hlookup : l.table.lookup r.hash with
  | none => simp only [Counted.prune, Locks.prune, hlookup, hgone]
  | some mutex =>
    -- Looking at the count and looking at the requests comes to the same test.
    have hone := h.references_eq_one_iff hr hstage hlookup
    by_cases hused : (l.others r.id).any (·.uses mutex)
    · have hmore : l.references mutex ≠ 1 := fun heq => hone.mp heq hused
      simp only [Counted.prune, Locks.prune, hlookup, hused, hmore, if_true, if_false, hgone]
    · have hnone : l.requests.countP (·.uses mutex) = 0 := by
        have htotal := hone.mpr hused
        rw [references, h.count_table hlookup] at htotal
        omega
      simp only [Counted.prune, Locks.prune, hlookup, hused, hone.mpr hused, if_true,
        Bool.false_eq_true, if_false, Counted.mk.injEq, true_and]
      funext other
      rw [Function.update_apply]
      simp only [references, h.count_filter hlookup, hothers]
      split
      next heq => rw [heq, hnone]
      next => rfl

/-- Counting at every step gives the number of references, whatever step it is. -/
theorem Orderly.counted_step (h : l.Orderly) (event : Event ι κ) :
    (⟨l, l.references⟩ : Counted ι κ).step? event =
      (l.step? event).map fun l' => ⟨l', l'.references⟩ := by
  cases event with
  | enter id hash =>
    simp only [Counted.step?]
    cases hstep : l.step? (.enter id hash) with
    | none => rfl
    | some l' =>
      cases moves_of_step hstep with
      | enter hnew =>
        cases hlookup : l.table.lookup hash with
        | none => simp [h.references_enter_none hlookup]
        | some mutex => simp [references_enter_some hlookup]
  | lineUp id =>
    simp only [Counted.step?]
    cases hstep : l.step? (.lineUp id) with
    | none => rfl
    | some l' =>
      cases moves_of_step hstep with
      | @lineUp r hr hstage => simp [h.references_lineUp (mem_of_request? hr).1 hstage]
  | grant id =>
    simp only [Counted.step?]
    cases hstep : l.step? (.grant id) with
    | none => rfl
    | some l' =>
      cases moves_of_step hstep with
      | @grant r hr hstage => simp [h.references_grant (mem_of_request? hr).1 hstage]
  | abandon id =>
    simp only [Counted.step?]
    cases hstep : l.step? (.abandon id) with
    | none => simp
    | some l' =>
      cases moves_of_step hstep with
      | @abandon r hr hstage => simp [hr, h.references_abandon (mem_of_request? hr).1 hstage]
  | release id =>
    simp only [Counted.step?]
    cases hstep : l.step? (.release id) with
    | none => simp
    | some l' =>
      cases moves_of_step hstep with
      | @release r hr hstage => simp [hr, h.references_release (mem_of_request? hr).1 hstage]
  | prune id =>
    simp only [Counted.step?, Locks.step?]
    cases hat : l.requestAt? id .leaving with
    | none => rfl
    | some r =>
      obtain ⟨hr, hstage, rfl⟩ := request?_of_requestAt? hat
      simp [h.counted_prune (mem_of_request? hr).1 hstage]

/-- Locks whose references are counted along run as locks do, and the counts are right. -/
theorem Orderly.counted_run (h : l.Orderly) (events : List (Event ι κ)) :
    (⟨l, l.references⟩ : Counted ι κ).run? events =
      (l.run? events).map fun l' => ⟨l', l'.references⟩ := by
  induction events generalizing l with
  | nil => rfl
  | cons event events ih =>
    rw [Counted.run?, List.foldlM_cons, h.counted_step, run?_cons]
    cases hstep : l.step? event with
    | none => rfl
    | some l' => exact ih (h.step (moves_of_step hstep))

/-! ## Every run -/

/-- What locks that have come about by steps do for those who ask for them. -/
structure Serves (l : Locks ι κ) (events : List (Event ι κ)) : Prop where
  /-- A hash has one holder at most. -/
  exclusive : ∀ id id' hash, l.Holds id hash → l.Holds id' hash → id = id'
  /-- Who holds a hash or is about to refers to the mutex that stands in the table. -/
  current : ∀ r ∈ l.requests, r.stage ≠ .leaving → l.table.lookup r.hash = some r.mutex
  /-- Of two requests that line up for one hash the first is let in first, or goes away. -/
  in_turn : ∀ first second r r' between later l', l.requestAt? first .entered = some r →
    l.run? (.lineUp first :: between) = some l' → l'.requestAt? second .entered = some r' →
    r.hash = r'.hash → .abandon second ∉ later →
    (l'.run? (.lineUp second :: (later ++ [.grant second]))).isSome →
    .grant first ∈ between ++ later ∨ .abandon first ∈ between ++ later
  /-- Only the holder of the same hash and who waits for it in front keep a request waiting. -/
  unblocked : ∀ id r, l.requestAt? id .waiting = some r →
    ((l.step? (.grant id)).isSome ↔
      (∀ other, ¬l.Holds other r.hash) ∧ ∀ first, ¬l.Ahead first id)
  /-- Somebody may be let in when a hash that is waited for has no holder. -/
  next : ∀ r ∈ l.requests, r.stage = .waiting → (∀ id, ¬l.Holds id r.hash) →
    ∃ next ∈ l.requests, next.hash = r.hash ∧ (l.step? (.grant next.id)).isSome
  /-- A hash is in the table once, and just while it is held or waited for. -/
  pruned : (∀ id, .abandon id ∉ events) → (∀ r ∈ l.requests, r.stage ≠ .leaving) →
    l.hashes.Nodup ∧ ∀ hash, hash ∈ l.hashes ↔ ∃ r ∈ l.requests, r.hash = hash

theorem Orderly.grant_isSome_iff (h : l.Orderly) (hat : l.requestAt? id .waiting = some r) :
    (l.step? (.grant id)).isSome ↔
      (∀ other, ¬l.Holds other r.hash) ∧ ∀ first, ¬l.Ahead first id := by
  obtain ⟨hr, hstage, rfl⟩ := request?_of_requestAt? hat
  rw [step?, hat, ← h.isNext_iff hr hstage, Option.isSome_map, Option.isSome_filter]
  rfl

theorem wanted_of_run {events : List (Event ι κ)} (hrun : ({} : Locks ι κ).run? events = some l)
    (hstays : ∀ id, .abandon id ∉ events) : l.Wanted := by
  have hkept : l.Orderly ∧ l.Wanted := by
    refine run?_induction (motive := fun l => l.Orderly ∧ l.Wanted)
      (fun event hevent hl hmoves => ⟨hl.1.step hmoves, ?_⟩)
      ⟨orderly_empty, fun _ hhash => absurd hhash List.not_mem_nil⟩ hrun
    exact hl.1.wanted_step hl.2 hmoves fun id heq => hstays id (heq ▸ hevent)
  exact hkept.2

/-- Whatever steps have been made, with the references to the mutexes counted along: a hash has one
holder, everybody refers to the mutex in the table, who lines up first is let in first, requests for
other hashes keep nobody waiting, and unless somebody has gone away early the table has what is in
use. -/
theorem serves_of_run {events : List (Event ι κ)} {c : Counted ι κ}
    (hrun : ({} : Counted ι κ).run? events = some c) :
    c.locks.Serves events ∧ c.count = c.locks.references ∧
      ({} : Locks ι κ).run? events = some c.locks := by
  have hcounted := (orderly_empty : ({} : Locks ι κ).Orderly).counted_run events
  have hempty : (⟨{}, ({} : Locks ι κ).references⟩ : Counted ι κ) = {} := rfl
  rw [hempty, hrun] at hcounted
  obtain ⟨l, hl, rfl⟩ := Option.map_eq_some_iff.mp hcounted.symm
  have horderly := orderly_empty.run hl
  refine ⟨?_, rfl, hl⟩
  constructor
  · exact fun _ _ _ hholds hholds' => horderly.holder_unique hholds hholds'
  · exact horderly.current
  · exact fun _ _ _ _ _ _ _ => horderly.in_turn
  · exact fun _ _ => horderly.grant_isSome_iff
  · exact fun _ => horderly.exists_next
  · intro hstays hnone
    refine ⟨horderly.single, fun hash => ⟨fun hhash => ?_, ?_⟩⟩
    · exact List.mem_map.mp (wanted_of_run hl hstays hash hhash)
    · rintro ⟨r, hr, rfl⟩
      have hentry := (lookup_eq_some_iff horderly.single).mp (horderly.current r hr (hnone r hr))
      exact List.mem_map_of_mem (f := (·.1)) hentry

/-- Two requests for one hash, with one for another hash in between. A third one comes after the
first has given the mutex back and before it looks whether to remove the entry. -/
def contended : List (Event Nat Nat) :=
  [.enter 0 7, .lineUp 0, .grant 0, .enter 1 7, .lineUp 1, .enter 2 8, .lineUp 2, .grant 2,
    .release 0, .enter 3 7, .prune 0, .lineUp 3, .grant 1]

theorem serves_of_run_contended : ∃ c, ({} : Counted Nat Nat).run? contended = some c ∧
    c.locks.idsAt .holding = [1, 2] ∧ c.locks.idsAt .waiting = [3] ∧ c.locks.hashes = [7, 8] ∧
    c.count 0 = 3 ∧ c.locks.Serves contended ∧ c.count = c.locks.references ∧
    ({} : Locks Nat Nat).run? contended = some c.locks :=
  ⟨_, rfl, by decide, by decide, by decide, by decide,
    serves_of_run (show ({} : Counted Nat Nat).run? contended = some _ from rfl)⟩

end SealedExchange.Locks
