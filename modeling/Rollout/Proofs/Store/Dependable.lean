import Rollout.Proofs.Store.History
import Rollout.Proofs.Store.Names

/-!
# Lawful stores do not fail

A lawful store fails to create a release only where it refuses a name, and then keeps what it kept.
As long as what it keeps can be read back, it is reliable.

* `Shelf.Orderly.eq_inOrder` : a shelf is listed in one way;
* `Shelf.Orderly.inOrder_created`, `Shelf.Orderly.inOrder_put` : how the list changes;
* `Backing.Lawful.reliable` : a lawful store is reliable;
* `DirectoryStore.reliable` : so is a store in a directory;
* `DirectoryStore.accepts_iff` : which names it refuses.
-/

set_option autoImplicit false

namespace Rollout

/-! ## Shelves -/

namespace Shelf

namespace Orderly

variable {sound : Prop} {rules : Store.Rules} {t : Triple} {shelf shelf' : Shelf} {r stored : Release}
  {before : List Release}

theorem pairwise_inOrder (h : shelf.Orderly sound rules t) :
    (shelf.inOrder.map Release.revision).Pairwise (· < ·) := by
  rw [h.revision_inOrder]
  exact h.pairwise_revisions

/-- **A shelf is listed in one way**: its releases, in ascending order of their revisions. -/
theorem eq_inOrder (h : shelf.Orderly sound rules t) {found : List Release}
    (hsorted : (found.map Release.revision).Pairwise (· < ·))
    (hmem : ∀ k r, r ∈ found ∧ r.revision = k ↔ shelf.at? k = some r) : shelf.inOrder = found := by
  have hsorted := List.pairwise_map.mp hsorted
  have hsorted' := List.pairwise_map.mp h.pairwise_inOrder
  have hnodup : ∀ {rs : List Release}, rs.Pairwise (fun a b => a.revision < b.revision) → rs.Nodup := by
    intro rs hrs
    refine hrs.imp fun hlt heq => ?_
    rw [heq] at hlt
    exact Int.lt_irrefl _ hlt
  have hperm : shelf.inOrder.Perm found := by
    refine (List.perm_ext_iff_of_nodup (hnodup hsorted') (hnodup hsorted)).mpr fun r => ?_
    have hfound := (h.mem_inOrder r.revision).trans (hmem r.revision r).symm
    simpa using hfound
  exact hperm.eq_of_pairwise (fun a b _ _ hab hba => absurd hba (Int.not_lt.mpr (Int.le_of_lt hab)))
    hsorted' hsorted

/-- The newest release is the last one. -/
theorem getLast?_inOrder (shelf : Shelf) : shelf.inOrder.getLast? = shelf.newest? := by
  unfold inOrder newest?
  cases hlast : shelf.revisions.getLast? with
  | none =>
    rw [List.getLast?_eq_none_iff.mp hlast]
    rfl
  | some k =>
    obtain ⟨rest, hrest⟩ := List.getLast?_eq_some_iff.mp hlast
    obtain ⟨r, hr⟩ := mem_keys_iff.mp (mem_revisions.mp (List.mem_of_getLast? hlast))
    simp [hrest, hr]

/-- What stands at a revision, if the last release of a list stands alone at its own. -/
theorem mem_snoc_iff {others : List Release} (hless : ∀ x ∈ others, x.revision < r.revision)
    (k : Int) (x : Release) : x ∈ others ++ [r] ∧ x.revision = k ↔
      if r.revision = k then r = x else x ∈ others ∧ x.revision = k := by
  rw [List.mem_append, List.mem_singleton]
  split
  · rename_i hk
    constructor
    · rintro ⟨hx | rfl, hxk⟩
      · have := hless x hx
        omega
      · rfl
    · rintro rfl
      exact ⟨.inr rfl, hk⟩
  · rename_i hk
    refine and_congr_left fun hxk => or_iff_left ?_
    rintro rfl
    exact hk hxk

/-- The revisions of a list are ascending if its last one is higher than all others, and these are. -/
theorem pairwise_snoc {others : List Release} (hless : ∀ x ∈ others, x.revision < r.revision)
    (hothers : (others.map Release.revision).Pairwise (· < ·)) :
    ((others ++ [r]).map Release.revision).Pairwise (· < ·) := by
  rw [List.map_append, List.pairwise_append]
  refine ⟨hothers, List.pairwise_singleton _ _, fun a ha b hb => ?_⟩
  obtain ⟨x, hx, rfl⟩ := List.mem_map.mp ha
  rw [List.map_singleton, List.mem_singleton] at hb
  rw [hb]
  exact hless x hx

/-- A new release comes last. -/
theorem inOrder_created (h : shelf.Orderly sound rules t)
    (h' : (shelf.handOut.fill r).Orderly sound rules t) (hr : r.revision = shelf.next) :
    (shelf.handOut.fill r).inOrder = shelf.inOrder ++ [r] := by
  have hless : ∀ x ∈ shelf.inOrder, x.revision < r.revision := by
    intro x hx
    have hstored := mem_keys_iff.mpr ⟨x, (h.mem_inOrder x.revision).mp ⟨hx, rfl⟩⟩
    rw [hr]
    exact Int.lt_add_one_of_le (h.le_allocated hstored)
  refine h'.eq_inOrder (pairwise_snoc hless h.pairwise_inOrder) fun k x => ?_
  rw [mem_snoc_iff hless, at?_fill, at?_handOut]
  split
  · exact Option.some_inj.symm
  · exact h.mem_inOrder k

/-- A release that takes the place of the last one comes last. -/
theorem inOrder_put (h : shelf.Orderly sound rules t) (h' : (shelf.put r).Orderly sound rules t)
    (hlast : shelf.inOrder = before ++ [stored]) (hr : r.revision = stored.revision) :
    (shelf.put r).inOrder = before ++ [r] := by
  have hsorted := h.pairwise_inOrder
  rw [hlast, List.map_append, List.pairwise_append] at hsorted
  obtain ⟨hbefore, -, hless⟩ := hsorted
  have hless : ∀ x ∈ before, x.revision < stored.revision := fun x hx =>
    hless _ (List.mem_map_of_mem hx) _ (List.mem_singleton_self _)
  refine h'.eq_inOrder (pairwise_snoc (hr ▸ hless) hbefore) fun k x => ?_
  rw [mem_snoc_iff (hr ▸ hless), at?_put]
  have hstood := h.mem_inOrder (r := x) k
  rw [hlast, mem_snoc_iff hless] at hstood
  split
  · exact Option.some_inj.symm
  · rename_i hk
    rwa [if_neg (hr ▸ hk)] at hstood

end Orderly

/-- What is not accepted is not created, and the shelf goes on listing what it lists. -/
theorem create_refused {rules : Store.Rules} {t : Triple} {shelf : Shelf}
    (h : ¬ rules.Accepts t shelf.next) (now : DateTime) :
    ∃ e shelf', shelf.create rules now t = (.error e, shelf') ∧ shelf'.inOrder = shelf.inOrder := by
  have htaken : (shelf.takeBack rules).inOrder = shelf.inOrder := by simp [inOrder, revisions, at?]
  unfold create
  cases hreserve : rules.reserve t shelf.next with
  | error e => exact ⟨e, _, rfl, rfl⟩
  | ok _ =>
    cases shelf.latest with
    | error e => exact ⟨e, _, rfl, htaken⟩
    | ok _ =>
      cases hrecord : rules.record t shelf.next with
      | error e => exact ⟨e, _, rfl, htaken⟩
      | ok _ => exact absurd ⟨hreserve, hrecord⟩ h

end Shelf

/-! ## Lawful stores -/

namespace Backing.Lawful

variable {σ : Type} [Backing σ] (L : Backing.Lawful σ) {s s' : σ} {t : Triple} {shelf shelf' : Shelf}
  {r : Release}

/-- The releases that a store keeps, in ascending order of their revisions. -/
def kept (s : σ) : Kept := fun t =>
  match Store.list t s with
  | .ok found => found
  | .error _ => []

/-- A store has room for another release of a triple: no name is refused. -/
def Room (t : Triple) (s : σ) : Prop :=
  ∃ shelf, L.Keeps s t shelf ∧ shelf.Orderly True L.rules t ∧ L.rules.Accepts t shelf.next

/-- What a store keeps of a triple is what its shelf lists, if only because nothing is on a shelf whose
names are refused. -/
theorem kept_eq (h : L.Keeps s t shelf) (ho : shelf.Orderly True L.rules t) :
    kept s t = shelf.inOrder := by
  unfold kept
  rw [L.list_eq h ho]
  cases hfolder : L.rules.folder t with
  | ok _ =>
    have hlisted := ho.listed trivial
    simp only [Except.bind, hlisted]
  | error e =>
    have hempty : shelf.inOrder = [] := by
      refine List.eq_nil_iff_forall_not_mem.mpr fun r hr => ?_
      have hrecord := ho.record_of_at? ((ho.mem_inOrder r.revision).mp ⟨hr, rfl⟩)
      rw [L.rules.folder_of_record hrecord] at hfolder
      cases hfolder
    rw [hempty]
    rfl

/-- What becomes of a store when the shelf of one triple changes. -/
theorem good_turns (hgood : L.Good True s) (h : Turns L.Keeps t shelf' s s')
    (ho : shelf'.Orderly True L.rules t) : L.Good True s' := by
  intro t'
  by_cases ht : t' = t
  · rw [ht]
    exact ⟨shelf', h.1, ho⟩
  · obtain ⟨other, hother, hoother⟩ := hgood t'
    exact ⟨other, h.2 t' ht other hother, hoother⟩

/-- The other triples keep what they kept. -/
theorem kept_turns (hgood : L.Good True s) (h : Turns L.Keeps t shelf' s s') {t' : Triple}
    (ht : t' ≠ t) : kept s' t' = kept s t' := by
  obtain ⟨other, hother, ho⟩ := hgood t'
  rw [L.kept_eq hother ho, L.kept_eq (h.2 t' ht other hother) ho]

/-- **A release is created** at the end of what is kept, if there is room for it. -/
theorem create_kept (hgood : L.Good True s) (hroom : L.Room t s) (now : DateTime) :
    ∃ revision s', Store.create now t s =
        (.ok (Release.new now t revision (Release.lastState (kept s t))), s') ∧
      L.Good True s' ∧
      kept s' = (kept s).with (Release.new now t revision (Release.lastState (kept s t))) := by
  obtain ⟨shelf, hkeeps, ho, haccepts⟩ := hroom
  obtain ⟨s', hcreate, hturns⟩ := L.create_turns hkeeps ho now
  have hstep := ho.create_step now
  have hlist := L.kept_eq hkeeps ho
  have hsame : Release.lastState shelf.newest?.toList = Release.lastState (kept s t) := by
    unfold Release.lastState
    rw [hlist, Shelf.Orderly.getLast?_inOrder]
    cases shelf.newest? <;> rfl
  have hshelf : shelf.create L.rules now t =
      (.ok (shelf.created now t), shelf.handOut.fill (shelf.created now t)) := by
    simp only [Shelf.create, haccepts.1, ho.latest_eq trivial, haccepts.2]
  rw [hshelf] at hcreate hturns hstep
  have ho' := hstep.orderly ho
  refine ⟨shelf.next, s', ?_, L.good_turns hgood hturns ho', Kept.eq_with ?_ fun t' ht' => ?_⟩
  · rw [hcreate, Shelf.created, hsame]
  · have hlist' := L.kept_eq hturns.1 ho'
    rw [← hsame]
    exact hlist'.trans ((ho.inOrder_created ho' rfl).trans (congrArg (· ++ [_]) hlist.symm))
  · exact L.kept_turns hgood hturns ht'

/-- Where there is no room, nothing is created, and everything is kept. -/
theorem create_without_room (hgood : L.Good True s) (hnone : ¬ L.Room t s) (now : DateTime) :
    ∃ e s', Store.create now t s = (.error e, s') ∧ L.Good True s' ∧ kept s' = kept s := by
  obtain ⟨shelf, hkeeps, ho⟩ := hgood t
  have hrefused : ¬ L.rules.Accepts t shelf.next := fun haccepts =>
    hnone ⟨shelf, hkeeps, ho, haccepts⟩
  obtain ⟨e, shelf', hshelf, hsame⟩ := Shelf.create_refused hrefused now
  obtain ⟨s', hcreate, hturns⟩ := L.create_turns hkeeps ho now
  have ho' := (ho.create_step now).orderly ho
  rw [hshelf] at hcreate hturns ho'
  refine ⟨e, s', hcreate, L.good_turns hgood hturns ho', funext fun t' => ?_⟩
  by_cases ht' : t' = t
  · rw [ht', L.kept_eq hkeeps ho, L.kept_eq hturns.1 ho']
    exact hsame
  · exact L.kept_turns hgood hturns ht'

/-- **A release takes the place of the last one**, unless that is finished. -/
theorem save_kept (hgood : L.Good True s) {before : Kept} {stored : Release}
    (hkept : kept s = before.with stored) (hopen : stored.isTerminal = false)
    (htriple : r.triple = stored.triple) (hrevision : r.revision = stored.revision)
    (hproblems : r.problems = []) :
    ∃ s', Store.save r s = .ok s' ∧ L.Good True s' ∧ kept s' = before.with r.dumped := by
  obtain ⟨shelf, hkeeps, ho⟩ := hgood r.triple
  have hlast : shelf.inOrder = before r.triple ++ [stored] := by
    rw [← L.kept_eq hkeeps ho, hkept, htriple, Kept.with_self]
  have hstored : shelf.at? r.revision = some stored :=
    (ho.mem_inOrder r.revision).mp ⟨by rw [hlast]; simp, hrevision.symm⟩
  have hadmits : shelf.admits L.rules r = .ok true := by
    simp [Shelf.admits, ho.record_of_at? hstored, hstored,
      Release.reread_eq (ho.readable trivial hstored), hopen]
  obtain ⟨s', hsave, hturns⟩ := L.save_ok hkeeps ho hadmits
  have ho' := (Shelf.save_step (fun _ => hproblems) hadmits).orderly ho
  refine ⟨s', hsave, L.good_turns hgood hturns ho', Kept.eq_with ?_ fun t' ht' => ?_⟩
  · exact (L.kept_eq hturns.1 ho').trans (ho.inOrder_put ho' hlast hrevision)
  · rw [L.kept_turns hgood hturns ht', hkept]
    exact Kept.with_of_ne (htriple ▸ ht') before

/-- **A lawful store is reliable**, as long as what it keeps can be read back. -/
def reliable : Keeper.Reliable σ where
  Good := L.Good True
  Room := L.Room
  kept := kept
  sound := by
    intro s t hgood r hr
    obtain ⟨shelf, hkeeps, ho⟩ := hgood t
    rw [L.kept_eq hkeeps ho] at hr
    have hstored := (ho.mem_inOrder r.revision).mp ⟨hr, rfl⟩
    exact ⟨ho.readable trivial hstored, (ho.placed hstored).2.2⟩
  latest := by
    rintro s t - ⟨shelf, hkeeps, ho, haccepts⟩
    have hlatest : Store.latest t s = .ok shelf.newest? := by
      rw [L.latest_eq hkeeps ho, L.rules.folder_of_reserve haccepts.1]
      exact ho.latest_eq trivial
    exact hlatest.trans (by rw [L.kept_eq hkeeps ho, Shelf.Orderly.getLast?_inOrder])
  create := fun now _ _ hgood hroom => L.create_kept hgood hroom now
  refuse := fun now _ _ hgood hnone => L.create_without_room hgood hnone now
  save := by
    intro s before stored r hgood hkept hopen htriple hrevision hproblems
    obtain ⟨s', hsave, hgood', hkept'⟩ :=
      L.save_kept hgood hkept hopen htriple hrevision hproblems
    exact ⟨s', by simp only [Keeper.save, hsave], hgood', hkept'⟩

end Backing.Lawful

/-! ## Stores in a directory -/

namespace DirectoryStore

/-- **A store in a directory is reliable.** -/
def reliable : Keeper.Reliable DirectoryStore := lawful.reliable

/-- **A release can be created** for a triple that is admitted, unless a name of the triple or of a file
for the release is too long. -/
theorem accepts_iff {t : Triple} {k : Int} : rules.Accepts t k ↔
    t.Admitted ∧ ∀ name ∈ t.parts ++ [claimName k, recordName k], FileName.isTooLong name = false := by
  change checkReserve t k = .ok () ∧ checkFile t (recordName k) = .ok () ↔ _
  rw [checkReserve_eq_ok_iff, checkFile_eq_ok_iff, checkFolder_eq_ok_iff, checkNames_eq_ok_iff]
  simp only [List.forall_mem_append, List.forall_mem_cons, List.not_mem_nil, false_implies,
    implies_true, and_true]
  tauto

theorem good_empty (blind : Bool) : reliable.Good ⟨{}, blind⟩ :=
  lawful.good_of_empty (has_empty blind)

/-- A store with nothing in it has room for a triple whose first release can be created. -/
theorem room_empty {t : Triple} (h : rules.Accepts t 1) (blind : Bool) :
    reliable.Room t ⟨{}, blind⟩ :=
  ⟨{}, has_empty blind t, Shelf.orderly_empty True _ t, h⟩

end DirectoryStore

end Rollout
