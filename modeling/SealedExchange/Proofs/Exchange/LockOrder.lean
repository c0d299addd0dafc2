import Mathlib.Data.List.Nodup
import Mathlib.Data.List.Perm.Basic
import Mathlib.Data.List.TakeWhile
import SealedExchange.Proofs.Exchange.Locks

/-! # Who gets a lock next

The requests for a hash are let in in the order in which they lined up, and only requests for the
same hash keep one waiting.
-/

namespace SealedExchange.Locks

variable {ι κ : Type}

/-- One request waits for a hash in front of another one. -/
def Ahead (l : Locks ι κ) (first second : ι) : Prop :=
  ∃ r r', [r, r'].Sublist l.requests ∧ r.id = first ∧ r'.id = second ∧
    r.stage = .waiting ∧ r'.stage = .waiting ∧ r.hash = r'.hash

variable [DecidableEq ι] [DecidableEq κ]

/-- The locks after several steps, if all of them are possible. -/
def run? (l : Locks ι κ) (events : List (Event ι κ)) : Option (Locks ι κ) := events.foldlM step? l

/-- What holds of the locks at any time, the order of the requests and the table included. -/
structure Orderly (l : Locks ι κ) : Prop extends l.Valid where
  /-- A request is listed once. -/
  listed : (l.requests.map (·.id)).Nodup
  /-- A hash has one mutex. -/
  single : l.hashes.Nodup
  /-- A mutex is of one hash. -/
  separate : (l.table.map (·.2)).Nodup
  /-- The next mutex has not been in use. -/
  unused : ∀ entry ∈ l.table, entry.2 < l.fresh

variable {l l' : Locks ι κ} {id first second : ι} {r : Request ι κ} {event : Event ι κ}

/-! ## The table and the requests -/

omit [DecidableEq ι] in
theorem lookup_eq_some_iff {table : List (κ × Nat)} (hsingle : (table.map (·.1)).Nodup) {hash : κ}
    {mutex : Nat} : table.lookup hash = some mutex ↔ (hash, mutex) ∈ table := by
  induction table with
  | nil => simp
  | cons entry table ih =>
    obtain ⟨hfirst, hsingle⟩ := List.nodup_cons.mp hsingle
    rw [List.lookup_cons, List.mem_cons]
    by_cases heq : hash = entry.1
    · subst heq
      have hrest : (entry.1, mutex) ∉ table := fun hmem =>
        hfirst (List.mem_map_of_mem (f := (·.1)) hmem)
      simp [hrest, Prod.ext_iff, eq_comm]
    · simp [beq_eq_false_iff_ne.mpr heq, Prod.ext_iff, heq, ih hsingle]

omit [DecidableEq ι] in
theorem lookup_eq_none_iff {table : List (κ × Nat)} {hash : κ} :
    table.lookup hash = none ↔ hash ∉ table.map (·.1) := by
  simp only [List.lookup_eq_none_iff, bne_iff_ne, List.mem_map, not_exists, not_and]
  exact forall₂_congr fun _ _ => ne_comm

/-- What is listed under distinct names is one thing and what is listed under the other names. -/
theorem perm_cons_filter {α β : Type} [DecidableEq β] {name : α → β} {items : List α}
    (hnames : (items.map name).Nodup) {item : α} (hitem : item ∈ items) :
    items.Perm (item :: items.filter (name · ≠ name item)) := by
  obtain ⟨before, after, rfl⟩ := List.append_of_mem hitem
  have hperm : (before ++ item :: after).Perm (item :: (before ++ after)) := List.perm_middle
  have hothers : ∀ other ∈ before ++ after, name other ≠ name item := by
    intro other hother heq
    have hnodup := (hperm.map name).nodup_iff.mp hnames
    exact (List.nodup_cons.mp hnodup).1 (heq ▸ List.mem_map_of_mem hother)
  have hfilter : (before ++ after).filter (name · ≠ name item) = before ++ after :=
    List.filter_eq_self.mpr fun other hother => decide_eq_true (hothers other hother)
  rw [List.filter_append, List.filter_cons_of_neg (by simp), ← List.filter_append, hfilter]
  exact hperm

omit [DecidableEq κ] in
theorem perm_lineUp (l : Locks ι κ) (r : Request ι κ) :
    (l.lineUp r).requests.Perm ({ r with stage := .waiting } :: l.others r.id) :=
  List.perm_append_singleton _ _

namespace Orderly

theorem perm_others (h : l.Orderly) (hr : r ∈ l.requests) :
    l.requests.Perm (r :: l.others r.id) :=
  perm_cons_filter h.listed hr

theorem perm_advance (h : l.Orderly) (hr : r ∈ l.requests) (stage : Stage) :
    (l.advance r.id stage).requests.Perm ({ r with stage } :: l.others r.id) := by
  have hperm := (h.perm_others hr).map fun r' => if r'.id = r.id then { r' with stage } else r'
  have hothers : (l.others r.id).map (fun r' => if r'.id = r.id then { r' with stage } else r') =
      l.others r.id := by
    conv_rhs => rw [← List.map_id (l.others r.id)]
    exact List.map_congr_left fun r' hr' => if_neg (mem_others.mp hr').2
  rw [List.map_cons, if_pos rfl, hothers] at hperm
  exact hperm

/-- Requests that refer to the mutex of their hash have the mutex in common just when they have the
hash in common. -/
theorem mutex_eq_iff (h : l.Orderly) {r' : Request ι κ} (hr : r ∈ l.requests)
    (hr' : r' ∈ l.requests) (hstage : r.stage ≠ .leaving) (hstage' : r'.stage ≠ .leaving) :
    r.mutex = r'.mutex ↔ r.hash = r'.hash := by
  have hlookup := h.current r hr hstage
  have hlookup' := h.current r' hr' hstage'
  constructor
  · intro hmutex
    have hentry := (lookup_eq_some_iff h.single).mp hlookup
    have hentry' := (lookup_eq_some_iff h.single).mp hlookup'
    exact congrArg Prod.fst (List.inj_on_of_nodup_map h.separate hentry hentry' hmutex)
  · intro hhash
    rw [hhash, hlookup'] at hlookup
    exact (Option.some.inj hlookup).symm

theorem fresh_not_mem (h : l.Orderly) : l.fresh ∉ l.table.map (·.2) := by
  intro hmem
  obtain ⟨entry, hentry, heq⟩ := List.mem_map.mp hmem
  exact absurd (h.unused entry hentry) (by omega)

/-! ## Steps -/

theorem of_requests (h : l.Orderly) (hvalid : l'.Valid)
    (hlisted : (l'.requests.map (·.id)).Nodup) (htable : l'.table.Sublist l.table)
    (hfresh : l'.fresh = l.fresh) : l'.Orderly where
  toValid := hvalid
  listed := hlisted
  single := h.single.sublist (htable.map _)
  separate := h.separate.sublist (htable.map _)
  unused entry hentry := hfresh ▸ h.unused entry (htable.subset hentry)

theorem nodup_others (h : l.Orderly) (id : ι) : ((l.others id).map (·.id)).Nodup :=
  h.listed.sublist (List.filter_sublist.map _)

theorem enter (h : l.Orderly) {hash : κ} (hnew : l.request? id = none) :
    (l.enter id hash).Orderly := by
  have hvalid : (l.enter id hash).Valid := h.toValid.enter hnew
  have hid : id ∉ l.requests.map (·.id) := by
    intro hmem
    obtain ⟨r, hr, rfl⟩ := List.mem_map.mp hmem
    cases hnew.symm.trans (h.unique r hr)
  have hlisted : ((l.requests.map (·.id)) ++ [id]).Nodup := by
    rw [← List.concat_eq_append]
    exact h.listed.concat hid
  cases hlookup : l.table.lookup hash with
  | some mutex =>
    simp only [Locks.enter, hlookup] at hvalid ⊢
    exact h.of_requests hvalid (by simpa using hlisted) (.refl _) rfl
  | none =>
    simp only [Locks.enter, hlookup] at hvalid ⊢
    refine ⟨hvalid, by simpa using hlisted, ?_, ?_, ?_⟩
    · have hsingle := h.single.concat (lookup_eq_none_iff.mp hlookup)
      simpa [hashes] using hsingle
    · have hseparate := h.separate.concat h.fresh_not_mem
      simpa using hseparate
    · intro entry hentry
      rcases List.mem_append.mp hentry with hold | hnew
      · exact Nat.lt_succ_of_lt (h.unused entry hold)
      · rw [List.mem_singleton.mp hnew]
        exact Nat.lt_succ_self _

theorem sublist_prune (l : Locks ι κ) (r : Request ι κ) : (l.prune r).table.Sublist l.table := by
  rw [Locks.prune]
  split
  · split
    · exact .refl _
    · exact List.filter_sublist
  · exact .refl _

theorem fresh_prune (l : Locks ι κ) (r : Request ι κ) : (l.prune r).fresh = l.fresh := by
  rw [Locks.prune]
  split
  · split <;> rfl
  · rfl

theorem nodup_advance (h : l.Orderly) (hr : r ∈ l.requests) (stage : Stage) :
    ((l.advance r.id stage).requests.map (·.id)).Nodup := by
  have hold := ((h.perm_others hr).map (·.id)).nodup_iff.mp h.listed
  exact ((h.perm_advance hr stage).map (·.id)).nodup_iff.mpr hold

theorem step (h : l.Orderly) (hmoves : l.Moves event l') : l'.Orderly := by
  have hvalid := h.toValid.step hmoves
  cases hmoves with
  | enter hnew => exact h.enter hnew
  | @lineUp r hr hstage =>
    refine h.of_requests hvalid ?_ (.refl _) rfl
    have hid : r.id ∉ (l.others r.id).map (·.id) := by simp [others]
    have hlisted := (h.nodup_others r.id).concat hid
    simpa [Locks.lineUp] using hlisted
  | @grant r hr =>
    refine h.of_requests hvalid ?_ (.refl _) rfl
    exact h.nodup_advance (mem_of_request? hr).1 _
  | abandon => exact h.of_requests hvalid (h.nodup_others _) (.refl _) rfl
  | @release r hr =>
    refine h.of_requests hvalid ?_ (.refl _) rfl
    exact h.nodup_advance (mem_of_request? hr).1 _
  | @prune r =>
    refine h.of_requests hvalid ?_ (sublist_prune l r) (fresh_prune l r)
    rw [requests_prune]
    exact h.nodup_others _

end Orderly

theorem orderly_empty : ({} : Locks ι κ).Orderly where
  toValid := valid_empty
  listed := List.nodup_nil
  single := List.nodup_nil
  separate := List.nodup_nil
  unused _ hentry := absurd hentry List.not_mem_nil

/-- What every possible step keeps is kept along a run. -/
theorem run?_induction {motive : Locks ι κ → Prop} {events : List (Event ι κ)}
    (hstep : ∀ {l l'}, ∀ event ∈ events, motive l → l.Moves event l' → motive l')
    (hl : motive l) (hrun : l.run? events = some l') : motive l' := by
  induction events generalizing l with
  | nil =>
    cases hrun
    exact hl
  | cons event events ih =>
    rw [run?, List.foldlM_cons] at hrun
    obtain ⟨between, hfirst, hrest⟩ := Option.bind_eq_some_iff.mp hrun
    refine ih (fun event hevent => hstep event (List.mem_cons_of_mem _ hevent)) ?_ hrest
    exact hstep event List.mem_cons_self hl (moves_of_step hfirst)

theorem Orderly.run (h : l.Orderly) {events : List (Event ι κ)}
    (hrun : l.run? events = some l') : l'.Orderly :=
  run?_induction (fun _ _ hl hmoves => hl.step hmoves) h hrun

/-! ## Order -/

/-- A step leaves the order of the other requests as it is. -/
theorem Moves.sublist (hmoves : l.Moves event l') {requests : List (Request ι κ)}
    (hsub : requests.Sublist l.requests) (hothers : ∀ r ∈ requests, r.id ≠ event.id) :
    requests.Sublist l'.requests := by
  have hkept : ∀ {id : ι}, (∀ r ∈ requests, r.id ≠ id) → requests.Sublist (l.others id) := by
    intro id hothers
    rw [← List.filter_eq_self.mpr fun r hr => decide_eq_true (hothers r hr)]
    exact hsub.filter _
  have hmapped : ∀ {id : ι} (stage : Stage), (∀ r ∈ requests, r.id ≠ id) →
      requests.Sublist (l.advance id stage).requests := by
    intro id stage hothers
    have hmap := hsub.map fun r => if r.id = id then { r with stage } else r
    rwa [List.map_congr_left (g := fun r => r) fun r hr => if_neg (hothers r hr),
      List.map_id'] at hmap
  cases hmoves with
  | @enter id hash =>
    obtain ⟨mutex, hrequests, -⟩ := exists_enter l id hash
    rw [hrequests]
    exact hsub.trans (List.sublist_append_left _ _)
  | lineUp => exact (hkept hothers).trans (List.sublist_append_left _ _)
  | grant => exact hmapped _ hothers
  | abandon => exact hkept hothers
  | release => exact hmapped _ hothers
  | @prune r =>
    rw [requests_prune]
    exact hkept hothers

/-- A request that waits is let in or goes away. -/
theorem Moves.eq_of_waiting (hmoves : l.Moves event l') (hr : l.request? event.id = some r)
    (hwaiting : r.stage = .waiting) : event = .grant event.id ∨ event = .abandon event.id := by
  have hfollows := hmoves.follows hr
  rw [hwaiting] at hfollows
  cases event <;> simp_all [Event.follows, Event.id]

theorem Moves.isNext (hmoves : l.Moves (.grant id) l') (hr : l.request? id = some r) :
    l.isNext r = true := by
  cases hmoves with
  | grant hr' hstage hnext =>
    cases hr'.symm.trans hr
    exact hnext

omit [DecidableEq κ] in
theorem mem_takeWhile_of_sublist {requests : List (Request ι κ)} {r r' : Request ι κ}
    (hlisted : (requests.map (·.id)).Nodup) (hsub : [r, r'].Sublist requests) :
    r ∈ requests.takeWhile (·.id ≠ r'.id) := by
  induction requests with
  | nil => cases hsub
  | cons head requests ih =>
    obtain ⟨hhead, hlisted⟩ := List.nodup_cons.mp hlisted
    have htaken : r' ∈ requests → (head :: requests).takeWhile (·.id ≠ r'.id) =
        head :: requests.takeWhile (·.id ≠ r'.id) := by
      intro hr'
      refine List.takeWhile_cons_of_pos (decide_eq_true fun heq => hhead ?_)
      exact List.mem_map.mpr ⟨r', hr', heq.symm⟩
    cases hsub with
    | cons _ hsub =>
      rw [htaken (hsub.subset (by simp))]
      exact List.mem_cons_of_mem _ (ih hlisted hsub)
    | cons_cons _ hsub =>
      rw [htaken (hsub.subset (by simp))]
      exact List.mem_cons_self

omit [DecidableEq κ] in
theorem sublist_of_mem_takeWhile {requests : List (Request ι κ)} {r r' : Request ι κ}
    (hmem : r ∈ requests.takeWhile (·.id ≠ r'.id)) (hr' : r' ∈ requests) :
    [r, r'].Sublist requests := by
  rw [← List.takeWhile_append_dropWhile (p := fun r => decide (r.id ≠ r'.id)) (l := requests)]
  have hbehind : r' ∈ requests.dropWhile (·.id ≠ r'.id) := by
    rw [← List.takeWhile_append_dropWhile (p := fun r => decide (r.id ≠ r'.id)) (l := requests),
      List.mem_append] at hr'
    refine hr'.resolve_left fun htaken => ?_
    have hne := List.mem_takeWhile_imp htaken
    simp at hne
  exact (List.singleton_sublist.mpr hmem).append (List.singleton_sublist.mpr hbehind)

/-- A waiting request may be let in unless its hash has a holder or somebody waits for the hash in
front of it. -/
theorem Orderly.isNext_iff (h : l.Orderly) (hr : l.request? r.id = some r)
    (hstage : r.stage = .waiting) :
    l.isNext r = true ↔ (∀ id, ¬l.Holds id r.hash) ∧ ∀ first, ¬l.Ahead first r.id := by
  have hmem := (mem_of_request? hr).1
  have hmutex : ∀ r' ∈ l.requests, r'.stage ≠ .leaving → (r'.mutex = r.mutex ↔ r'.hash = r.hash) :=
    fun r' hr' hstage' => h.mutex_eq_iff hr' hmem hstage' (by simp [hstage])
  rw [isNext, decide_eq_true_iff, List.all_eq_true, List.all_eq_true]
  -- Nobody holds the mutex just when nobody holds the hash, and likewise for those in front.
  refine and_congr ⟨fun hfree id hholds => ?_, fun hfree other hother => ?_⟩
    ⟨fun hfront first hahead => ?_, fun hfront earlier hearlier => ?_⟩
  · obtain ⟨holder, hholder, hholding, hhash⟩ := hholds
    have hin := (mem_of_request? hholder).1
    have hor := of_decide_eq_true (hfree holder hin)
    exact hor.elim (absurd ((hmutex holder hin (by simp [hholding])).mpr hhash))
      (absurd hholding)
  · rw [decide_eq_true_iff]
    by_contra hboth
    obtain ⟨hsame, hholding⟩ := not_or.mp hboth
    have hholding := not_not.mp hholding
    exact hfree other.id ⟨other, h.unique other hother, hholding,
      (hmutex other hother (by simp [hholding])).mp (not_not.mp hsame)⟩
  · obtain ⟨earlier, r', hsub, -, hid, hwaiting, -, hhash⟩ := hahead
    have hin := hsub.subset (List.mem_cons_self)
    obtain rfl := h.eq_of_id hr (hsub.subset (by simp)) hid
    have hor := of_decide_eq_true (hfront earlier (mem_takeWhile_of_sublist h.listed hsub))
    exact hor.elim (absurd ((hmutex earlier hin (by simp [hwaiting])).mpr hhash))
      (absurd hwaiting)
  · rw [decide_eq_true_iff]
    by_contra hboth
    obtain ⟨hsame, hwaiting⟩ := not_or.mp hboth
    have hwaiting := not_not.mp hwaiting
    have hin := (List.takeWhile_sublist _).subset hearlier
    exact hfront earlier.id ⟨earlier, r, sublist_of_mem_takeWhile hearlier hmem, rfl, rfl,
      hwaiting, hstage, (hmutex earlier hin (by simp [hwaiting])).mp (not_not.mp hsame)⟩

/-- If a hash that is waited for has no holder, somebody who waits for it may be let in. -/
theorem Orderly.exists_next (h : l.Orderly) (hr : r ∈ l.requests) (hwaiting : r.stage = .waiting)
    (hfree : ∀ id, ¬l.Holds id r.hash) :
    ∃ next ∈ l.requests, next.hash = r.hash ∧ (l.step? (.grant next.id)).isSome := by
  -- The first one in line for the hash has nobody in front of it.
  let inLine (r' : Request ι κ) : Bool := r'.stage = .waiting ∧ r'.hash = r.hash
  have hfound : (l.requests.find? inLine).isSome :=
    List.find?_isSome.mpr ⟨r, hr, decide_eq_true ⟨hwaiting, rfl⟩⟩
  obtain ⟨next, hnext⟩ := Option.isSome_iff_exists.mp hfound
  obtain ⟨hin, before, after, hsplit, hbefore⟩ := List.find?_eq_some_iff_append.mp hnext
  obtain ⟨hstage, hhash⟩ := of_decide_eq_true hin
  have hmem : next ∈ l.requests := List.mem_of_find?_eq_some hnext
  have hnobody : ∀ first, ¬l.Ahead first next.id := by
    rintro first ⟨earlier, r', hsub, -, hid, hstage', -, hhash'⟩
    obtain rfl := h.eq_of_id (h.unique next hmem) (hsub.subset (by simp)) hid
    have htaken := mem_takeWhile_of_sublist h.listed hsub
    rw [hsplit, List.takeWhile_append, List.takeWhile_cons_of_neg (by simp), List.append_nil]
      at htaken
    have hearlier : earlier ∈ before := by
      split at htaken
      · exact htaken
      · exact (List.takeWhile_sublist _).subset htaken
    have hnot := hbefore earlier hearlier
    rw [Bool.not_eq_true', decide_eq_false_iff_not] at hnot
    exact hnot ⟨hstage', hhash'.trans hhash⟩
  have hisNext := (h.isNext_iff (h.unique next hmem) hstage).mpr ⟨hhash ▸ hfree, hnobody⟩
  refine ⟨next, hmem, hhash, ?_⟩
  rw [step?, requestAt?_eq_some_iff.mpr ⟨h.unique next hmem, hstage⟩,
    Option.filter_some_pos hisNext]
  rfl

/-- Nobody is let in while somebody waits in front. -/
theorem Orderly.not_granted (h : l.Orderly) (hahead : l.Ahead first second) :
    ¬l.Moves (.grant second) l' := by
  intro hmoves
  obtain ⟨r, r', hsub, -, rfl, -, hwaiting', -⟩ := id hahead
  have hr' := h.unique r' (hsub.subset (by simp))
  exact ((h.isNext_iff hr' hwaiting').mp (hmoves.isNext hr')).2 _ hahead

/-- Whoever waits in front stays in front until it is let in or goes away. -/
theorem Orderly.ahead_step (h : l.Orderly) (hmoves : l.Moves event l')
    (hahead : l.Ahead first second) (hgrant : event ≠ .grant first)
    (hleft : event ≠ .abandon first) (hstays : event ≠ .abandon second) :
    l'.Ahead first second := by
  obtain ⟨r, r', hsub, rfl, rfl, hwaiting, hwaiting', hhash⟩ := id hahead
  have hr := h.unique r (hsub.subset (by simp))
  have hr' := h.unique r' (hsub.subset (by simp))
  have hfirst : r.id ≠ event.id := by
    intro heq
    rcases hmoves.eq_of_waiting (heq ▸ hr) hwaiting with hevent | hevent
    · exact hgrant (heq ▸ hevent)
    · exact hleft (heq ▸ hevent)
  have hsecond : r'.id ≠ event.id := by
    intro heq
    rcases hmoves.eq_of_waiting (heq ▸ hr') hwaiting' with hevent | hevent
    · rw [hevent, ← heq] at hmoves
      exact h.not_granted hahead hmoves
    · exact hstays (heq ▸ hevent)
  refine ⟨r, r', hmoves.sublist hsub ?_, rfl, rfl, hwaiting, hwaiting', hhash⟩
  intro r₀ hr₀
  rcases List.mem_pair.mp hr₀ with rfl | rfl
  · exact hfirst
  · exact hsecond

theorem run?_cons {events : List (Event ι κ)} :
    l.run? (event :: events) = (l.step? event).bind (·.run? events) := by
  rw [run?, List.foldlM_cons]
  rfl

theorem run?_append {events events' : List (Event ι κ)} :
    l.run? (events ++ events') = (l.run? events).bind (·.run? events') := by
  rw [run?, List.foldlM_append]
  rfl

/-- Whoever waits in front is let in first, or goes away. -/
theorem Orderly.granted_ahead (h : l.Orderly) {events : List (Event ι κ)}
    (hahead : l.Ahead first second) (hstays : .abandon second ∉ events)
    (hrun : (l.run? (events ++ [.grant second])).isSome) :
    .grant first ∈ events ∨ .abandon first ∈ events := by
  by_contra hneither
  obtain ⟨hgrant, hleft⟩ := not_or.mp hneither
  obtain ⟨l', hrun⟩ := Option.isSome_iff_exists.mp hrun
  rw [run?_append] at hrun
  obtain ⟨l₁, hl₁, hlast⟩ := Option.bind_eq_some_iff.mp hrun
  have hkept : l₁.Orderly ∧ l₁.Ahead first second := by
    refine run?_induction (motive := fun l => l.Orderly ∧ l.Ahead first second)
      (fun event hevent hl hmoves => ?_) ⟨h, hahead⟩ hl₁
    exact ⟨hl.1.step hmoves, hl.1.ahead_step hmoves hl.2 (ne_of_mem_of_not_mem hevent hgrant)
      (ne_of_mem_of_not_mem hevent hleft) (ne_of_mem_of_not_mem hevent hstays)⟩
  rw [run?_cons] at hlast
  obtain ⟨l₂, hstep, -⟩ := Option.bind_eq_some_iff.mp hlast
  exact hkept.1.not_granted hkept.2 (moves_of_step hstep)

omit [DecidableEq κ] in
/-- A request lines up behind all that wait for the same hash. -/
theorem ahead_lineUp {r' : Request ι κ} (hr : l.request? r.id = some r)
    (hwaiting : r.stage = .waiting) (hr' : l.request? r'.id = some r')
    (hentered : r'.stage = .entered) (hhash : r.hash = r'.hash) :
    (l.lineUp r').Ahead r.id r'.id := by
  have hne : r.id ≠ r'.id := by
    intro heq
    rw [heq, hr'] at hr
    cases hr
    cases hentered.symm.trans hwaiting
  have hmem : r ∈ l.others r'.id := mem_others.mpr ⟨(mem_of_request? hr).1, hne⟩
  exact ⟨r, { r' with stage := .waiting }, (List.singleton_sublist.mpr hmem).append (.refl _),
    rfl, rfl, hwaiting, rfl, hhash⟩

/-- Of two requests that have lined up for one hash the first is let in first, or goes away. -/
theorem Orderly.in_turn (h : l.Orderly) {r' : Request ι κ} {between later : List (Event ι κ)}
    (hfirst : l.requestAt? first .entered = some r)
    (hbetween : l.run? (.lineUp first :: between) = some l')
    (hsecond : l'.requestAt? second .entered = some r') (hhash : r.hash = r'.hash)
    (hstays : .abandon second ∉ later)
    (hrun : (l'.run? (.lineUp second :: (later ++ [.grant second]))).isSome) :
    .grant first ∈ between ++ later ∨ .abandon first ∈ between ++ later := by
  obtain ⟨hr, hstage, rfl⟩ := request?_of_requestAt? hfirst
  obtain ⟨hr', hstage', rfl⟩ := request?_of_requestAt? hsecond
  rw [run?_cons, step?, hfirst, Option.map_some, Option.bind_some] at hbetween
  rw [run?_cons, step?, hsecond, Option.map_some, Option.bind_some] at hrun
  by_contra hneither
  rw [List.mem_append, List.mem_append] at hneither
  -- Until the second one lines up, the first one keeps its place.
  have hkept : l'.Orderly ∧ l'.request? r.id = some { r with stage := .waiting } := by
    refine run?_induction
      (motive := fun l => l.Orderly ∧ l.request? r.id = some { r with stage := .waiting })
      (fun event hevent hl hmoves => ⟨hl.1.step hmoves, ?_⟩)
      ⟨h.step (.lineUp hr hstage), request?_lineUp_self l r⟩ hbetween
    rw [hmoves.request?_of_ne, hl.2]
    intro heq
    rcases hmoves.eq_of_waiting (heq ▸ hl.2) rfl with hgrant | hleft
    · exact hneither (.inl (.inl (heq ▸ hgrant ▸ hevent)))
    · exact hneither (.inr (.inl (heq ▸ hleft ▸ hevent)))
  have hahead : (l'.lineUp r').Ahead r.id r'.id :=
    ahead_lineUp (r := { r with stage := .waiting }) hkept.2 rfl hr' hstage' hhash
  have hor := (hkept.1.step (.lineUp hr' hstage')).granted_ahead hahead hstays hrun
  exact hneither (hor.imp .inr .inr)

end SealedExchange.Locks
