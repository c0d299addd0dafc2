import Mathlib.Logic.Relation
import SealedExchange.Exchange.Locks

/-! # Who holds a lock

Every request that has not left refers to the mutex that stands in the table under its hash, and a
mutex has one holder at most. So a hash has one holder at most, and it stays the holder whatever
the other requests do.
-/

namespace SealedExchange.Locks

variable {ι κ : Type}

/-- What holds of the locks at any time. -/
structure Valid [DecidableEq ι] [DecidableEq κ] (l : Locks ι κ) : Prop where
  /-- A request is the one with its identity. -/
  unique : ∀ r ∈ l.requests, l.request? r.id = some r
  /-- A request that has not left refers to the mutex of its hash. -/
  current : ∀ r ∈ l.requests, r.stage ≠ .leaving → l.table.lookup r.hash = some r.mutex
  /-- A mutex has one holder at most. -/
  exclusive : ∀ r ∈ l.requests, ∀ r' ∈ l.requests, r.stage = .holding → r'.stage = .holding →
    r.mutex = r'.mutex → r.id = r'.id

/-- The request that a step is about. -/
def Event.id : Event ι κ → ι
  | enter id _ | lineUp id | grant id | abandon id | release id | prune id => id

/-- The step is one that a request makes from a stage. -/
def Event.follows : Event ι κ → Stage → Prop
  | enter _ _, _ => False
  | lineUp _, stage => stage = .entered
  | grant _, stage => stage = .waiting
  | abandon _, stage => stage = .entered ∨ stage = .waiting
  | release _, stage => stage = .holding
  | prune _, stage => stage = .leaving

variable [DecidableEq ι]

/-- A request holds the lock of a hash. -/
def Holds (l : Locks ι κ) (id : ι) (hash : κ) : Prop :=
  ∃ r, l.request? id = some r ∧ r.stage = .holding ∧ r.hash = hash

variable {l l' : Locks ι κ} {id : ι} {r : Request ι κ}

theorem mem_of_request? (hr : l.request? id = some r) : r ∈ l.requests ∧ r.id = id :=
  ⟨List.mem_of_find?_eq_some hr, by simpa using List.find?_some hr⟩

theorem requestAt?_eq_some_iff {stage : Stage} :
    l.requestAt? id stage = some r ↔ l.request? id = some r ∧ r.stage = stage := by
  rw [requestAt?, Option.filter_eq_some_iff, decide_eq_true_iff]

theorem request?_of_requestAt? {stage : Stage} (hat : l.requestAt? id stage = some r) :
    l.request? r.id = some r ∧ r.stage = stage ∧ r.id = id := by
  obtain ⟨hr, hstage⟩ := requestAt?_eq_some_iff.mp hat
  have hid := (mem_of_request? hr).2
  exact ⟨hid ▸ hr, hstage, hid⟩

theorem mem_others {r' : Request ι κ} : r' ∈ l.others id ↔ r' ∈ l.requests ∧ r'.id ≠ id := by
  rw [others, List.mem_filter, decide_eq_true_iff]

theorem mem_advance {stage : Stage} {r' : Request ι κ} (hmem : r' ∈ (l.advance id stage).requests) :
    ∃ r ∈ l.requests, r.id = id ∧ r' = { r with stage } ∨ r.id ≠ id ∧ r' = r := by
  obtain ⟨r, hr, rfl⟩ := List.mem_map.mp hmem
  by_cases heq : r.id = id
  · exact ⟨r, hr, .inl ⟨heq, if_pos heq⟩⟩
  · exact ⟨r, hr, .inr ⟨heq, if_neg heq⟩⟩

/-! ## Other requests -/

theorem find?_others {other : ι} (hne : other ≠ id) :
    (l.others id).find? (·.id = other) = l.request? other := by
  rw [others, List.find?_filter, request?]
  congr 1
  funext r
  by_cases heq : r.id = other
  · simp [heq, hne]
  · simp [heq]

theorem request?_append {requests : List (Request ι κ)} {other : ι}
    (hother : ∀ r ∈ requests, r.id ≠ other) :
    (l.requests ++ requests).find? (·.id = other) = l.request? other := by
  have hnone : requests.find? (fun r => r.id = other) = none :=
    List.find?_eq_none.mpr fun r hr => by simpa using hother r hr
  rw [List.find?_append, hnone, Option.or_none, request?]

theorem request?_advance {stage : Stage} {other : ι} (hne : other ≠ id) :
    (l.advance id stage).request? other = l.request? other := by
  rw [request?, advance, List.find?_map, request?]
  have hid : ((fun r : Request ι κ => decide (r.id = other)) ∘
      fun r => if r.id = id then { r with stage } else r) = fun r => decide (r.id = other) := by
    funext r
    by_cases heq : r.id = id <;> simp [heq]
  rw [hid]
  cases hfind : l.requests.find? fun r => decide (r.id = other) with
  | none => rfl
  | some r =>
    have heq : r.id = other := by simpa using List.find?_some hfind
    rw [Option.map_some, if_neg fun h => hne (heq ▸ h)]

theorem request?_advance_self {stage : Stage} (hr : l.request? id = some r) :
    (l.advance id stage).request? id = some { r with stage } := by
  have hid : ((fun r : Request ι κ => decide (r.id = id)) ∘
      fun r => if r.id = id then { r with stage } else r) = fun r => decide (r.id = id) := by
    funext r
    by_cases heq : r.id = id <;> simp [heq]
  have hfind : l.requests.find? (fun r => decide (r.id = id)) = some r := hr
  rw [request?, advance, List.find?_map, hid, hfind, Option.map_some,
    if_pos (mem_of_request? hr).2]

theorem request?_lineUp_self (l : Locks ι κ) (r : Request ι κ) :
    (l.lineUp r).request? r.id = some { r with stage := .waiting } := by
  have hnone : (l.others r.id).find? (fun r' => r'.id = r.id) = none :=
    List.find?_eq_none.mpr fun r' hr' => by simpa using (mem_others.mp hr').2
  rw [request?, lineUp, List.find?_append, hnone]
  simp

variable [DecidableEq κ]

/-- What a step that is possible does. -/
inductive Moves (l : Locks ι κ) : Event ι κ → Locks ι κ → Prop
  | enter {id : ι} {hash : κ} (hnew : l.request? id = none) :
    Moves l (.enter id hash) (l.enter id hash)
  | lineUp {r : Request ι κ} (hr : l.request? r.id = some r) (hstage : r.stage = .entered) :
    Moves l (.lineUp r.id) (l.lineUp r)
  | grant {r : Request ι κ} (hr : l.request? r.id = some r) (hstage : r.stage = .waiting)
      (hnext : l.isNext r = true) : Moves l (.grant r.id) (l.advance r.id .holding)
  | abandon {r : Request ι κ} (hr : l.request? r.id = some r)
      (hstage : r.stage = .entered ∨ r.stage = .waiting) : Moves l (.abandon r.id) (l.forget r.id)
  | release {r : Request ι κ} (hr : l.request? r.id = some r) (hstage : r.stage = .holding) :
    Moves l (.release r.id) (l.advance r.id .leaving)
  | prune {r : Request ι κ} (hr : l.request? r.id = some r) (hstage : r.stage = .leaving) :
    Moves l (.prune r.id) (l.prune r)

theorem moves_of_step {event : Event ι κ} (hstep : l.step? event = some l') : l.Moves event l' := by
  cases event with
  | enter id hash =>
    simp only [step?] at hstep
    split at hstep
    next => cases hstep
    next hnew =>
      cases hstep
      exact .enter (Option.not_isSome_iff_eq_none.mp hnew)
  | lineUp id =>
    obtain ⟨r, hat, rfl⟩ := Option.map_eq_some_iff.mp hstep
    obtain ⟨hr, hstage, rfl⟩ := request?_of_requestAt? hat
    exact .lineUp hr hstage
  | grant id =>
    obtain ⟨r, hat, rfl⟩ := Option.map_eq_some_iff.mp hstep
    obtain ⟨hat, hnext⟩ := Option.filter_eq_some_iff.mp hat
    obtain ⟨hr, hstage, rfl⟩ := request?_of_requestAt? hat
    exact .grant hr hstage hnext
  | abandon id =>
    obtain ⟨r, hat, rfl⟩ := Option.map_eq_some_iff.mp hstep
    rw [Option.orElse_eq_orElse, Option.orElse_eq_or, Option.or_eq_some_iff] at hat
    rcases hat with hat | ⟨-, hat⟩
    · obtain ⟨hr, hstage, rfl⟩ := request?_of_requestAt? hat
      exact .abandon hr (.inl hstage)
    · obtain ⟨hr, hstage, rfl⟩ := request?_of_requestAt? hat
      exact .abandon hr (.inr hstage)
  | release id =>
    obtain ⟨r, hat, rfl⟩ := Option.map_eq_some_iff.mp hstep
    obtain ⟨hr, hstage, rfl⟩ := request?_of_requestAt? hat
    exact .release hr hstage
  | prune id =>
    obtain ⟨r, hat, rfl⟩ := Option.map_eq_some_iff.mp hstep
    obtain ⟨hr, hstage, rfl⟩ := request?_of_requestAt? hat
    exact .prune hr hstage

theorem requests_prune (r : Request ι κ) : (l.prune r).requests = l.others r.id := by
  rw [prune]
  split
  · split <;> rfl
  · rfl

/-- A step leaves every other request as it is. -/
theorem Moves.request?_of_ne {event : Event ι κ} {other : ι} (hmoves : l.Moves event l')
    (hne : other ≠ event.id) : l'.request? other = l.request? other := by
  cases hmoves with
  | @enter id hash hnew =>
    have hother : ∀ mutex, ∀ r ∈ [(⟨id, hash, mutex, .entered⟩ : Request ι κ)], r.id ≠ other := by
      intro mutex r hr
      rw [List.mem_singleton.mp hr]
      exact hne.symm
    rw [Locks.enter]
    split
    · exact request?_append (hother _)
    · exact request?_append (hother _)
  | @lineUp r hr hstage =>
    have hne : other ≠ r.id := hne
    have hid : ¬r.id = other := hne.symm
    have hnone : [{ r with stage := Stage.waiting }].find? (fun r => r.id = other) = none := by
      simp [hid]
    rw [request?, Locks.lineUp, List.find?_append, find?_others hne, hnone, Option.or_none]
  | grant => exact request?_advance hne
  | abandon => exact find?_others hne
  | release => exact request?_advance hne
  | @prune r hr hstage =>
    rw [request?, requests_prune]
    exact find?_others hne

/-! ## Validity -/

theorem valid_empty : ({} : Locks ι κ).Valid :=
  ⟨fun _ hr => absurd hr List.not_mem_nil, fun _ hr => absurd hr List.not_mem_nil,
    fun _ hr => absurd hr List.not_mem_nil⟩

theorem Valid.eq_of_id (h : l.Valid) (hr : l.request? id = some r) {r' : Request ι κ}
    (hr' : r' ∈ l.requests) (hid : r'.id = id) : r' = r := by
  have hfound := h.unique r' hr'
  rw [hid, hr] at hfound
  exact (Option.some.inj hfound).symm

/-- Two holders of one hash are the same. -/
theorem Valid.holder_unique (h : l.Valid) {id id' : ι} {hash : κ} (hholds : l.Holds id hash)
    (hholds' : l.Holds id' hash) : id = id' := by
  obtain ⟨r, hr, hstage, hhash⟩ := hholds
  obtain ⟨r', hr', hstage', hhash'⟩ := hholds'
  obtain ⟨hmem, rfl⟩ := mem_of_request? hr
  obtain ⟨hmem', rfl⟩ := mem_of_request? hr'
  have hmutex := h.current r hmem (by simp [hstage])
  have hmutex' := h.current r' hmem' (by simp [hstage'])
  rw [hhash, ← hhash', hmutex'] at hmutex
  exact h.exclusive r hmem r' hmem' hstage hstage' (Option.some.inj hmutex).symm

omit [DecidableEq ι] in
/-- A request that comes finds the mutex of its hash or makes one, and no entry changes. -/
theorem exists_enter (l : Locks ι κ) (id : ι) (hash : κ) : ∃ mutex,
    (l.enter id hash).requests = l.requests ++ [⟨id, hash, mutex, .entered⟩] ∧
    (l.enter id hash).table.lookup hash = some mutex ∧
    ∀ other found, l.table.lookup other = some found →
      (l.enter id hash).table.lookup other = some found := by
  rw [enter]
  split
  next mutex hlookup => exact ⟨mutex, rfl, hlookup, fun _ _ h => h⟩
  next hlookup =>
    refine ⟨l.fresh, rfl, ?_, fun other found hfound => ?_⟩
    · rw [List.lookup_append, hlookup, Option.none_or, List.lookup_cons_self]
    · rw [List.lookup_append, hfound, Option.some_or]

/-- Locks stay valid when one request has come or has moved, if every other request is found as
before and the moved one is not a second holder. -/
theorem Valid.replace (h : l.Valid) (new : Request ι κ)
    (hmem : ∀ r ∈ l'.requests, r ∈ l.requests ∧ r.id ≠ new.id ∨ r = new)
    (hfound : l'.request? new.id = some new)
    (hothers : ∀ other, other ≠ new.id → l'.request? other = l.request? other)
    (htable : ∀ hash mutex, l.table.lookup hash = some mutex →
      l'.table.lookup hash = some mutex)
    (hcurrent : new.stage ≠ .leaving → l'.table.lookup new.hash = some new.mutex)
    (hexclusive : new.stage = .holding →
      ∀ r ∈ l.requests, r.stage = .holding → r.mutex ≠ new.mutex) : l'.Valid := by
  constructor
  · intro r hr
    rcases hmem r hr with ⟨hr, hne⟩ | rfl
    · rw [hothers r.id hne, h.unique r hr]
    · exact hfound
  · intro r hr hstage
    rcases hmem r hr with ⟨hr, -⟩ | rfl
    · exact htable _ _ (h.current r hr hstage)
    · exact hcurrent hstage
  · intro r hr r' hr' hstage hstage' hmutex
    rcases hmem r hr with ⟨hr, -⟩ | rfl
    · rcases hmem r' hr' with ⟨hr', -⟩ | rfl
      · exact h.exclusive r hr r' hr' hstage hstage' hmutex
      · exact absurd hmutex (hexclusive hstage' r hr hstage)
    · rcases hmem r' hr' with ⟨hr', -⟩ | rfl
      · exact absurd hmutex.symm (hexclusive hstage r' hr' hstage')
      · rfl

theorem Valid.enter (h : l.Valid) {hash : κ} (hnew : l.request? id = none) :
    (l.enter id hash).Valid := by
  obtain ⟨mutex, hrequests, hmutex, hlookup⟩ := exists_enter l id hash
  have hmoves : l.Moves (.enter id hash) (l.enter id hash) := .enter hnew
  have hmem : ∀ r ∈ (l.enter id hash).requests,
      r ∈ l.requests ∧ r.id ≠ id ∨ r = ⟨id, hash, mutex, .entered⟩ := by
    intro r hr
    rw [hrequests, List.mem_append, List.mem_singleton] at hr
    refine hr.imp_left fun hold => ⟨hold, ?_⟩
    rintro rfl
    cases hnew.symm.trans (h.unique r hold)
  have hfound : (l.enter id hash).request? id = some ⟨id, hash, mutex, .entered⟩ := by
    have hnone : l.requests.find? (fun r => r.id = id) = none := hnew
    rw [request?, hrequests, List.find?_append, hnone]
    simp
  exact h.replace ⟨id, hash, mutex, .entered⟩ hmem hfound (fun _ => hmoves.request?_of_ne) hlookup
    (fun _ => hmutex) nofun

theorem Valid.lineUp (h : l.Valid) (hr : l.request? r.id = some r) (hstage : r.stage = .entered) :
    (l.lineUp r).Valid := by
  have hmoves : l.Moves (.lineUp r.id) (l.lineUp r) := .lineUp hr hstage
  have hmem : ∀ r' ∈ (l.lineUp r).requests,
      r' ∈ l.requests ∧ r'.id ≠ r.id ∨ r' = { r with stage := .waiting } := by
    intro r' hr'
    rw [Locks.lineUp, List.mem_append, List.mem_singleton, mem_others] at hr'
    exact hr'
  have hcurrent := h.current r (mem_of_request? hr).1 (by simp [hstage])
  exact h.replace { r with stage := .waiting } hmem (request?_lineUp_self l r)
    (fun _ => hmoves.request?_of_ne) (fun _ _ hentry => hentry) (fun _ => hcurrent) nofun

/-- Moving a request that has not left to another stage keeps the locks valid, unless it becomes the
second holder. -/
theorem Valid.advance (h : l.Valid) (hr : l.request? r.id = some r) (hleft : r.stage ≠ .leaving)
    {stage : Stage} (hexclusive : stage = .holding →
      ∀ r' ∈ l.requests, r'.stage = .holding → r'.mutex ≠ r.mutex) :
    (l.advance r.id stage).Valid := by
  have hmem : ∀ r' ∈ (l.advance r.id stage).requests,
      r' ∈ l.requests ∧ r'.id ≠ r.id ∨ r' = { r with stage } := by
    intro r' hr'
    obtain ⟨r₀, hr₀, ⟨hid, rfl⟩ | ⟨hne, rfl⟩⟩ := mem_advance hr'
    · rw [h.eq_of_id hr hr₀ hid]
      exact .inr rfl
    · exact .inl ⟨hr₀, hne⟩
  have hcurrent := h.current r (mem_of_request? hr).1 hleft
  exact h.replace { r with stage } hmem (request?_advance_self hr) (fun _ => request?_advance)
    (fun _ _ hentry => hentry) (fun _ => hcurrent) hexclusive

omit [DecidableEq κ] in
theorem isNext_exclusive (hnext : l.isNext r = true) :
    ∀ r' ∈ l.requests, r'.stage = .holding → r'.mutex ≠ r.mutex := by
  intro r' hr' hstage
  have hall := (of_decide_eq_true hnext).1
  have hor := of_decide_eq_true (List.all_eq_true.mp hall r' hr')
  exact hor.resolve_right fun hne => hne hstage

/-- Taking a request away keeps the locks valid if no entry of another request goes with it. -/
theorem Valid.without (h : l.Valid) (hrequests : l'.requests = l.others id)
    (htable : ∀ r ∈ l.others id, r.stage ≠ .leaving →
      l'.table.lookup r.hash = l.table.lookup r.hash) : l'.Valid := by
  constructor
  · intro r hr
    rw [hrequests] at hr
    obtain ⟨hmem, hne⟩ := mem_others.mp hr
    rw [request?, hrequests, find?_others hne, h.unique r hmem]
  · intro r hr hstage
    rw [hrequests] at hr
    rw [htable r hr hstage]
    exact h.current r (mem_others.mp hr).1 hstage
  · intro r hr r' hr'
    rw [hrequests] at hr hr'
    exact h.exclusive r (mem_others.mp hr).1 r' (mem_others.mp hr').1

theorem lookup_filter_ne {table : List (κ × Nat)} {hash other : κ} (hne : other ≠ hash) :
    (table.filter (·.1 ≠ hash)).lookup other = table.lookup other := by
  induction table with
  | nil => rfl
  | cons entry table ih =>
    by_cases hentry : entry.1 = hash
    · have hother : (other == entry.1) = false := beq_eq_false_iff_ne.mpr (hentry ▸ hne)
      rw [List.filter_cons_of_neg (by simp [hentry]), ih, List.lookup_cons, hother]
    · rw [List.filter_cons_of_pos (by simp [hentry]), List.lookup_cons, List.lookup_cons, ih]

theorem Valid.prune (h : l.Valid) : (l.prune r).Valid := by
  refine h.without (requests_prune r) fun r' hr' hstage => ?_
  rw [Locks.prune]
  split
  next mutex hlookup =>
    split
    next => rfl
    -- The entry goes only if nobody uses its mutex, so it is not the entry of `r'`.
    next hunused =>
      refine lookup_filter_ne fun hhash => ?_
      have hmutex := h.current r' (mem_others.mp hr').1 hstage
      rw [hhash, hlookup] at hmutex
      refine hunused (List.any_eq_true.mpr ⟨r', hr', ?_⟩)
      rw [Request.uses, decide_eq_true_iff]
      exact ⟨(Option.some.inj hmutex).symm, hstage⟩
  next => rfl

theorem Valid.step (h : l.Valid) {event : Event ι κ} (hmoves : l.Moves event l') : l'.Valid := by
  cases hmoves with
  | enter hnew => exact h.enter hnew
  | lineUp hr hstage => exact h.lineUp hr hstage
  | grant hr hstage hnext =>
    exact h.advance hr (by simp [hstage]) fun _ => isNext_exclusive hnext
  | abandon => exact h.without rfl fun _ _ _ => rfl
  | release hr hstage => exact h.advance hr (by simp [hstage]) nofun
  | prune => exact h.prune

/-- Locks that come about step by step where nobody has asked for one before. -/
def Reachable (l : Locks ι κ) : Prop :=
  Relation.ReflTransGen (fun l l' => ∃ event, l.step? event = some l') {} l

theorem Reachable.valid (h : l.Reachable) : l.Valid := by
  induction h with
  | refl => exact valid_empty
  | tail _ hstep ih =>
    obtain ⟨event, hstep⟩ := hstep
    exact ih.step (moves_of_step hstep)

/-- A request makes the steps of its stage only. -/
theorem Moves.follows {event : Event ι κ} (hmoves : l.Moves event l')
    (hr : l.request? event.id = some r) : event.follows r.stage := by
  cases hmoves with
  | enter hnew => cases hnew.symm.trans hr
  | lineUp hr' hstage | grant hr' hstage | abandon hr' hstage | release hr' hstage
  | prune hr' hstage =>
    cases hr'.symm.trans hr
    exact hstage

/-- The holder of a hash loses it by a step of its own only: by giving it back. -/
theorem Moves.holds {event : Event ι κ} {hash : κ} (hmoves : l.Moves event l')
    (hholds : l.Holds id hash) (hrelease : event ≠ .release id) : l'.Holds id hash := by
  obtain ⟨r, hr, hstage, hhash⟩ := hholds
  by_cases hid : id = event.id
  · have hfollows := hmoves.follows (hid ▸ hr)
    rw [hstage] at hfollows
    cases event <;> simp_all [Event.follows, Event.id]
  · exact ⟨r, by rw [hmoves.request?_of_ne hid, hr], hstage, hhash⟩

end SealedExchange.Locks
