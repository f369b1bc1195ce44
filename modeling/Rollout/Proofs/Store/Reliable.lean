import Rollout.Proofs.Assoc
import Rollout.Proofs.Release.Dumped
import Rollout.Store.Keeper
import Rollout.Store.Memory

/-!
# Stores that do not fail

* `Keeper.Reliable` : what a store that does not fail keeps, and how that changes;
* `MemoryStore.reliable` : a store in memory does not fail;
* `WatchedStore.reliable` : nor does a watched store that is told of no faults.
-/

set_option autoImplicit false

namespace Rollout

namespace Release

/-- The state that a release takes over from those before it. -/
def lastState (kept : List Release) : List Resource :=
  match kept.getLast? with
  | some r => r.resources
  | none => []

@[simp]
theorem lastState_nil : lastState [] = [] := rfl

@[simp]
theorem lastState_append (before : List Release) (r : Release) :
    lastState (before ++ [r]) = r.resources := by
  simp [lastState]

theorem problems_eq_nil_iff {r : Release} :
    r.problems = [] ↔ 1 ≤ r.revision ∧ (∀ x ∈ r.spec.getD [], x.id ≠ "") ∧ r.state ≠ none ∧
      ∀ x ∈ r.resources, x.id ≠ "" := by
  have hunnamed : ∀ (path : List String) (resources : List Resource),
      Resource.unnamed path resources = [] ↔ ∀ x ∈ resources, x.id ≠ "" := by
    intro path resources
    unfold Resource.unnamed
    rw [List.filterMap_eq_nil_iff]
    constructor
    · intro h x hx
      obtain ⟨i, hi⟩ := List.mem_iff_getElem?.mp hx
      have := h (x, i) (List.mem_zipIdx_iff_getElem?.mpr hi)
      simpa using this
    · rintro h ⟨x, i⟩ hxi
      have := h x (List.mem_of_getElem? (List.mem_zipIdx_iff_getElem?.mp hxi))
      simp [this]
  unfold problems
  simp only [List.append_eq_nil_iff, hunnamed]
  constructor
  · rintro ⟨⟨⟨hrev, hspec⟩, hstate⟩, hresources⟩
    refine ⟨?_, hspec, ?_, hresources⟩
    · by_contra hlt
      rw [if_pos (by omega)] at hrev
      cases hrev
    · intro hnone
      rw [if_pos hnone] at hstate
      cases hstate
  · rintro ⟨hrev, hspec, hstate, hresources⟩
    exact ⟨⟨⟨if_neg (by omega), hspec⟩, if_neg hstate⟩, hresources⟩

theorem reread_eq {r : Release} (h : r.problems = []) : r.reread = .ok r := by
  simp [reread, h]

theorem reread_error {r : Release} (h : r.problems ≠ []) :
    r.reread = .error (.invalid r.problems) := by
  rw [reread, if_neg (by rwa [List.isEmpty_iff])]

/-- What is read is readable. -/
theorem problems_of_reread {stored r : Release} (h : stored.reread = .ok r) :
    r = stored ∧ stored.problems = [] := by
  unfold reread at h
  split at h
  · rename_i hempty
    cases h
    exact ⟨rfl, List.isEmpty_iff.mp hempty⟩
  · cases h

/-- A new release is finite if the one is whose state it takes over. -/
theorem finite_new {now : DateTime} {t : Triple} {k : Int} {state : List Resource}
    (h : ∀ x ∈ state, x.Finite) : (Release.new now t k state).Finite :=
  ⟨by simp [Release.new], h⟩

theorem finite_lastState {kept : List Release} (h : ∀ r ∈ kept, r.Finite) :
    ∀ x ∈ lastState kept, x.Finite := by
  unfold lastState
  split
  · rename_i r hlast
    exact (h r (List.mem_of_getLast? hlast)).state
  · simp

/-- A new release, which takes over the state of the last of several, can be kept if these can. -/
theorem sound_new {kept : List Release} (h : ∀ r ∈ kept, r.Sound) {k : Int} (hk : 1 ≤ k)
    {now : DateTime} {t : Triple} : (Release.new now t k (lastState kept)).Sound := by
  refine ⟨?_, finite_new (finite_lastState fun r hr => (h r hr).finite)⟩
  refine problems_eq_nil_iff.mpr ⟨hk, by simp [Release.new], by simp [Release.new], ?_⟩
  simp only [Release.new, resources, Option.getD_some, lastState]
  cases hlast : kept.getLast? with
  | none => simp
  | some before =>
    exact (problems_eq_nil_iff.mp (h before (List.mem_of_getLast? hlast)).readable).2.2.2

end Release

/-- To save a release is to save what its record holds. -/
theorem Store.save_dumped {σ : Type} [Backing σ] (r : Release) (s : σ) :
    Store.save r.dumped s = Store.save r s := by
  simp [Store.save]

/-- The releases of every triple, in the order in which they were created. -/
abbrev Kept := Triple → List Release

/-- What is kept when a release has been added. -/
def Kept.with (r : Release) (kept : Kept) : Kept :=
  Function.update kept r.triple (kept r.triple ++ [r])

@[simp]
theorem Kept.with_self (r : Release) (kept : Kept) :
    kept.with r r.triple = kept r.triple ++ [r] := by
  simp [Kept.with]

theorem Kept.with_of_ne {t : Triple} {r : Release} (h : t ≠ r.triple) (kept : Kept) :
    kept.with r t = kept t :=
  Function.update_of_ne h _ _

theorem Kept.eq_with {kept kept' : Kept} {r : Release}
    (h : kept' r.triple = kept r.triple ++ [r]) (hother : ∀ t ≠ r.triple, kept' t = kept t) :
    kept' = kept.with r := by
  funext t
  by_cases ht : t = r.triple
  · rw [ht, h, Kept.with_self]
  · rw [hother t ht, Kept.with_of_ne ht]

/-- A store that does not fail, unless it has no room for another release of a triple: then none is
created. -/
structure Keeper.Reliable (σ : Type) [Keeper σ] where
  /-- The store works. -/
  Good : σ → Prop
  /-- There is room for another release of a triple. -/
  Room : Triple → σ → Prop
  kept : σ → Kept
  sound : ∀ s t, Good s → ∀ r ∈ kept s t, r.Sound
  latest : ∀ s t, Good s → Room t s → Keeper.latest t s = .ok (kept s t).getLast?
  create : ∀ now t s, Good s → Room t s → ∃ revision s',
    Keeper.create now t s
      = (.ok (Release.new now t revision (Release.lastState (kept s t))), s') ∧
    Good s' ∧
    kept s' = (kept s).with (Release.new now t revision (Release.lastState (kept s t)))
  refuse : ∀ now t s, Good s → ¬ Room t s → ∃ e s',
    Keeper.create now t s = (.error e, s') ∧ Good s' ∧ kept s' = kept s
  save : ∀ s before stored r, Good s → kept s = Kept.with stored before →
    stored.isTerminal = false → r.triple = stored.triple → r.revision = stored.revision →
    r.problems = [] →
    ∃ s', Keeper.save r s = (.ok (), s') ∧ Good s' ∧ kept s' = before.with r.dumped

/-- A store works, and has room for another release of a triple. -/
structure Keeper.Reliable.Ready {σ : Type} [Keeper σ] (st : Keeper.Reliable σ) (t : Triple) (s : σ) :
    Prop where
  good : st.Good s
  room : st.Room t s

/-- What is created at a revision, once the latest release is known. -/
theorem Store.createAt_eq {σ : Type} [Backing σ] {s : σ} {t : Triple} {found : Option Release}
    (hlatest : Store.latest t s = .ok found) (now : DateTime) (k : Int) :
    Store.createAt now t k s =
      match Backing.insert (Release.new now t k (Release.lastState found.toList)).dumped s with
      | .error e => (.error e, s)
      | .ok s => (.ok (Release.new now t k (Release.lastState found.toList)), s) := by
  unfold Store.createAt
  rw [hlatest]
  cases found <;> rfl

/-- What is created at a revision takes over the state of a finite release as it is. -/
theorem Store.createAt_of_latest {σ : Type} [Backing σ] {s : σ} {t : Triple}
    {found : Option Release} (hlatest : Store.latest t s = .ok found)
    (hfinite : ∀ r ∈ found, r.Finite) (now : DateTime) (k : Int) :
    Store.createAt now t k s =
      match Backing.insert (Release.new now t k (Release.lastState found.toList)) s with
      | .error e => (.error e, s)
      | .ok s => (.ok (Release.new now t k (Release.lastState found.toList)), s) := by
  have hnew : (Release.new now t k (Release.lastState found.toList)).Finite :=
    Release.finite_new (Release.finite_lastState (by simpa using hfinite))
  rw [Store.createAt_eq hlatest, hnew.dumped_eq]

theorem Store.createAt_triple {σ : Type} [Backing σ] {s : σ} {t : Triple} {k : Int} {now : DateTime}
    {r : Release} (h : (Store.createAt now t k s).1 = .ok r) : r.triple = t := by
  unfold Store.createAt at h
  split at h
  · cases h
  · simp only at h
    split at h
    · cases h
    · cases h
      rfl

/-- What is created is a release of the triple that was asked for. -/
theorem Store.create_triple {σ : Type} [Backing σ] {s : σ} {t : Triple} {now : DateTime} {r : Release}
    (h : (Store.create now t s).1 = .ok r) : r.triple = t := by
  unfold Store.create at h
  split at h
  · cases h
  · exact Store.createAt_triple h

/-! ## Stores in memory -/

namespace Shelf

/-- The releases of a shelf stand at their revisions, in ascending order, and can be read back. -/
structure Sound (t : Triple) (shelf : Shelf) : Prop where
  ascending : (Assoc.keys shelf.releases).Pairwise (· < ·)
  allocated : 0 ≤ shelf.allocated ∧ ∀ revision ∈ Assoc.keys shelf.releases,
    revision ≤ shelf.allocated
  placed : ∀ revision r, (revision, r) ∈ shelf.releases →
    r.revision = revision ∧ r.triple = t ∧ r.Sound

variable {t : Triple} {shelf : Shelf}

theorem Sound.nodup (h : Sound t shelf) : (Assoc.keys shelf.releases).Nodup :=
  h.ascending.imp Int.ne_of_lt

theorem sound_empty (t : Triple) : Sound t {} :=
  ⟨.nil, ⟨Int.le_refl _, by simp⟩, by simp⟩

theorem Sound.next_notMem (h : Sound t shelf) : shelf.allocated + 1 ∉ Assoc.keys shelf.releases := by
  intro hk
  have := h.allocated.2 _ hk
  omega

/-- The next revision is handed out. -/
theorem Sound.reserve (h : Sound t shelf) (reserved : List Int) :
    Sound t { shelf with allocated := shelf.allocated + 1, reserved } := by
  refine ⟨h.ascending, ⟨?_, fun k hk => ?_⟩, h.placed⟩
  · have := h.allocated.1
    simp only
    omega
  · have := h.allocated.2 k hk
    simp only
    omega

/-- A release is stored at the next revision. -/
theorem Sound.append (h : Sound t shelf) {r : Release} (hrevision : r.revision = shelf.allocated + 1)
    (htriple : r.triple = t) (hsound : r.Sound) (reserved : List Int) :
    Sound t { releases := shelf.releases ++ [(r.revision, r)], allocated := r.revision,
              reserved } := by
  refine ⟨?_, ⟨?_, fun k hk => ?_⟩, fun k x hkx => ?_⟩
  · simp only [Assoc.keys, List.map_append, List.map_cons, List.map_nil]
    refine List.pairwise_append.mpr ⟨h.ascending, by simp, fun a ha b hb => ?_⟩
    have := h.allocated.2 a ha
    rw [List.mem_singleton] at hb
    omega
  · have := h.allocated.1
    simp only
    omega
  · simp only [Assoc.keys, List.map_append, List.map_cons, List.map_nil, List.mem_append,
      List.mem_singleton] at hk
    rcases hk with hk | hk
    · have := h.allocated.2 k hk
      simp only
      omega
    · exact Int.le_of_eq hk
  · rcases List.mem_append.mp hkx with hkx | hkx
    · exact h.placed k x hkx
    · rw [List.mem_singleton, Prod.mk.injEq] at hkx
      obtain ⟨rfl, rfl⟩ := hkx
      exact ⟨rfl, htriple, hsound⟩

theorem Sound.finite (h : Sound t shelf) : ∀ r ∈ shelf.releases.map Prod.snd, r.Finite := by
  rintro r hr
  obtain ⟨⟨k, r⟩, hkr, rfl⟩ := List.mem_map.mp hr
  exact (h.placed k r hkr).2.2.finite

/-- A new release, which takes over the state of one that a store keeps, can be kept. -/
theorem Sound.sound_new (h : Sound t shelf) (now : DateTime) :
    (Release.new now t (shelf.allocated + 1)
      (Release.lastState (shelf.releases.map Prod.snd))).Sound := by
  refine Release.sound_new (fun r hr => ?_) (Int.le_add_of_nonneg_left h.allocated.1)
  obtain ⟨⟨k, x⟩, hkx, rfl⟩ := List.mem_map.mp hr
  exact (h.placed k x hkx).2.2

end Shelf

namespace MemoryStore

variable {t : Triple} {s : MemoryStore}

theorem shelf_update (t : Triple) (f : Shelf → Shelf) (s : MemoryStore) :
    (s.update t f).shelf t = f (s.shelf t) := by
  simp [shelf, update]

theorem shelf_update_of_ne {t' : Triple} (h : t' ≠ t) (f : Shelf → Shelf) (s : MemoryStore) :
    (s.update t f).shelf t' = s.shelf t' := by
  simp [shelf, update, h.symm]

/-- A revision is handed out. -/
theorem shelf_reserve (t : Triple) (s : MemoryStore) :
    (s.reserve t).2.shelf t = { s.shelf t with
      allocated := (s.shelf t).allocated + 1
      reserved := (s.shelf t).reserved ++ [(s.shelf t).allocated + 1] } := shelf_update t _ s

theorem shelf_reserve_of_ne {t' : Triple} (h : t' ≠ t) (s : MemoryStore) :
    (s.reserve t).2.shelf t' = s.shelf t' := shelf_update_of_ne h _ s

/-- A release is stored. -/
theorem shelf_put {r : Release} (hr : r.triple = t) (s : MemoryStore) :
    (s.put r).shelf t
      = { s.shelf t with releases := Assoc.put r.revision r (s.shelf t).releases } := by
  unfold put
  rw [hr, shelf_update]

theorem shelf_put_of_ne {r : Release} (h : t ≠ r.triple) (s : MemoryStore) :
    (s.put r).shelf t = s.shelf t := shelf_update_of_ne h _ s

/-- A reservation is forgotten. -/
theorem shelf_dropReservation (t : Triple) (k : Int) (s : MemoryStore) :
    (s.dropReservation t k).shelf t
      = { s.shelf t with reserved := (s.shelf t).reserved.filter (· ≠ k) } := shelf_update t _ s

theorem shelf_dropReservation_of_ne {t' : Triple} (h : t' ≠ t) (k : Int) (s : MemoryStore) :
    (s.dropReservation t k).shelf t' = s.shelf t' := shelf_update_of_ne h _ s

theorem insert_eq {r : Release} (h : r.revision ∉ Assoc.keys (s.shelf r.triple).releases) :
    s.insert r = .ok (s.put r) := by
  rw [insert, if_neg]
  rwa [Assoc.has_eq_true_iff]

theorem ascending_eq {revisions : List Int} (h : revisions.Pairwise (· < ·)) :
    ascending revisions = revisions :=
  List.mergeSort_of_pairwise (h.imp fun hlt => by simpa using Int.le_of_lt hlt)

theorem get_eq {revision : Int} {r : Release} (h : (s.shelf t).Sound t)
    (hr : (revision, r) ∈ (s.shelf t).releases) : Store.get t revision s = .ok r := by
  have hl := (Assoc.lookup_eq_some_iff h.nodup).mpr hr
  simp [Store.get, Backing.load, hl, Release.reread_eq (h.placed _ _ hr).2.2.readable]

theorem latest_eq (h : (s.shelf t).Sound t) :
    Store.latest t s = .ok ((s.shelf t).releases.map Prod.snd).getLast? := by
  have hrev : Backing.revisions t s = .ok (Assoc.keys (s.shelf t).releases) := by
    simp [Backing.revisions, ascending_eq h.ascending]
  simp only [Store.latest, hrev, Assoc.keys, List.getLast?_map]
  cases hlast : (s.shelf t).releases.getLast? with
  | none => rfl
  | some entry =>
    obtain ⟨revision, r⟩ := entry
    simp [get_eq h (List.mem_of_getLast? hlast)]

/-- A new release takes over the state of the latest one. -/
theorem createAt_eq {σ : Type} [Backing σ] {s s' : σ} {kept : List Release} {revision : Int}
    {now : DateTime} (hlatest : Store.latest t s = .ok kept.getLast?)
    (hfinite : ∀ r ∈ kept, r.Finite)
    (hinsert : Backing.insert (Release.new now t revision (Release.lastState kept)) s = .ok s') :
    Store.createAt now t revision s
      = (.ok (Release.new now t revision (Release.lastState kept)), s') := by
  have hlast : ∀ r ∈ kept.getLast?, r.Finite := fun r hr => hfinite r (List.mem_of_getLast? hr)
  have hsame : Release.lastState kept.getLast?.toList = Release.lastState kept := by
    unfold Release.lastState
    cases kept.getLast? <;> rfl
  rw [Store.createAt_of_latest hlatest hlast, hsame, hinsert]

theorem create_eq (h : (s.shelf t).Sound t) (now : DateTime) :
    ∃ s' : MemoryStore, Store.create now t s
        = (.ok (Release.new now t ((s.shelf t).allocated + 1)
            (Release.lastState ((s.shelf t).releases.map Prod.snd))), s') ∧
      (s'.shelf t).Sound t ∧ (s'.shelf t).releases.map Prod.snd
        = (s.shelf t).releases.map Prod.snd ++ [Release.new now t ((s.shelf t).allocated + 1)
            (Release.lastState ((s.shelf t).releases.map Prod.snd))] ∧
      ∀ t' ≠ t, s'.shelf t' = s.shelf t' := by
  let revision := (s.shelf t).allocated + 1
  let state := Release.lastState ((s.shelf t).releases.map Prod.snd)
  let r := Release.new now t revision state
  let claimed : MemoryStore := (s.reserve t).2
  have hclaimed : claimed.shelf t = { s.shelf t with
      allocated := revision, reserved := (s.shelf t).reserved ++ [revision] } := shelf_reserve t s
  have hsound : (claimed.shelf t).Sound t := by
    rw [hclaimed]
    exact h.reserve _
  have hnew : revision ∉ Assoc.keys (s.shelf t).releases := h.next_notMem
  have hinsert : claimed.insert r = .ok (claimed.put r) := by
    refine insert_eq ?_
    rw [show claimed.shelf r.triple = _ from hclaimed]
    exact hnew
  have hput : Assoc.put revision r (s.shelf t).releases = (s.shelf t).releases ++ [(revision, r)] :=
    Assoc.put_of_notMem hnew
  have hcreate : Store.create now t s
      = (.ok r, (claimed.put r).dropReservation t revision) := by
    have hat : Store.createAt now t revision claimed = (.ok r, claimed.put r) := by
      have hlatest := latest_eq hsound
      rw [hclaimed] at hlatest
      exact createAt_eq hlatest h.finite hinsert
    have hreserve : Backing.reserve t s = (.ok revision, claimed) := rfl
    simp only [Store.create, hreserve, hat]
    rfl
  have hshelf : ((claimed.put r).dropReservation t revision).shelf t
      = { releases := (s.shelf t).releases ++ [(revision, r)], allocated := revision,
          reserved := ((s.shelf t).reserved ++ [revision]).filter (· ≠ revision) } := by
    have hr : r.triple = t := rfl
    rw [shelf_dropReservation, shelf_put hr, hclaimed, ← hput]
    rfl
  refine ⟨_, hcreate, ?_, ?_, fun t' ht' => ?_⟩
  · rw [hshelf]
    exact h.append rfl rfl (h.sound_new now) _
  · rw [hshelf]
    simp [r, revision, state]
  · rw [shelf_dropReservation_of_ne ht', shelf_put_of_ne ht', shelf_reserve_of_ne ht']

/-- Saving a release that is not finished puts its record in the place of the one it was made from. -/
theorem save_eq (h : (s.shelf t).Sound t) {before : List Release} {stored r : Release}
    (hkept : (s.shelf t).releases.map Prod.snd = before ++ [stored])
    (hopen : stored.isTerminal = false) (htriple : r.triple = t)
    (hrevision : r.revision = stored.revision) (hproblems : r.problems = []) :
    Store.save r s = .ok (s.put r.dumped) ∧ ((s.put r.dumped).shelf t).Sound t ∧
      ((s.put r.dumped).shelf t).releases.map Prod.snd = before ++ [r.dumped] ∧
      ∀ t' ≠ t, (s.put r.dumped).shelf t' = s.shelf t' := by
  obtain ⟨entries, hentries, hbefore⟩ : ∃ entries,
      (s.shelf t).releases = entries ++ [(stored.revision, stored)] ∧
        entries.map Prod.snd = before := by
    obtain ⟨entries, last, heq, hbefore, hstored⟩ := List.map_eq_append_iff.mp hkept
    obtain ⟨⟨revision, x⟩, rfl, rfl⟩ := List.map_eq_singleton_iff.mp hstored
    have hplaced := h.placed revision x (by rw [heq]; simp)
    exact ⟨entries, by rw [heq, hplaced.1], hbefore⟩
  have hmem : (stored.revision, stored) ∈ (s.shelf t).releases := by simp [hentries]
  have hnodup := h.nodup
  have hnot : stored.revision ∉ Assoc.keys entries := by
    rw [hentries, Assoc.keys, List.map_append] at hnodup
    exact fun hk => (List.nodup_append.mp hnodup).2.2 _ hk stored.revision (by simp) rfl
  have hput : Assoc.put r.revision r.dumped (s.shelf t).releases
      = entries ++ [(r.revision, r.dumped)] := by
    rw [hentries, hrevision]
    exact Assoc.put_append_of_notMem hnot
  have hdumped : r.dumped.triple = t := htriple
  have hshelf : (s.put r.dumped).shelf t =
      { s.shelf t with releases := entries ++ [(r.revision, r.dumped)] } := by
    rw [shelf_put hdumped, Release.dumped_revision, hput]
  refine ⟨?_, ?_, by simp [hshelf, hbefore], fun t' ht' => shelf_put_of_ne (hdumped ▸ ht') s⟩
  · have hload : Backing.load r.triple r.revision s = .ok (some stored) := by
      have := (Assoc.lookup_eq_some_iff hnodup).mpr hmem
      simp [Backing.load, htriple, hrevision, this]
    simp [Store.save, hload, Release.reread_eq (h.placed _ _ hmem).2.2.readable, hopen, Backing.replace]
  · have hkeys : Assoc.keys (entries ++ [(r.revision, r.dumped)]) = Assoc.keys (s.shelf t).releases := by
      simp [hentries, Assoc.keys, hrevision]
    rw [hshelf]
    refine ⟨hkeys ▸ h.ascending, ⟨h.allocated.1, hkeys ▸ h.allocated.2⟩, fun k y hky => ?_⟩
    rcases List.mem_append.mp hky with hky | hky
    · exact h.placed k y (by rw [hentries]; exact List.mem_append_left _ hky)
    · rw [List.mem_singleton, Prod.mk.injEq] at hky
      obtain ⟨rfl, rfl⟩ := hky
      exact ⟨rfl, htriple, Release.sound_dumped hproblems⟩

/-- **A store in memory does not fail.** -/
def reliable : Keeper.Reliable MemoryStore where
  Good s := ∀ t, (s.shelf t).Sound t
  Room _ _ := True
  kept s t := (s.shelf t).releases.map Prod.snd
  sound := by
    rintro s t h r hr
    obtain ⟨⟨k, r⟩, hkr, rfl⟩ := List.mem_map.mp hr
    exact ((h t).placed k r hkr).2.2
  latest := fun s t h _ => latest_eq (h t)
  create := by
    intro now t s h _
    obtain ⟨s', hcreate, hsound, hkept, hother⟩ := create_eq (h t) now
    refine ⟨_, s', hcreate, fun t' => ?_, Kept.eq_with hkept fun t' ht' => by rw [hother t' ht']⟩
    by_cases ht' : t' = t
    · exact ht' ▸ hsound
    · rw [hother t' ht']
      exact h t'
  refuse := fun _ _ _ _ hnone => absurd trivial hnone
  save := by
    intro s before stored r h hkept hopen htriple hrevision hproblems
    have hself := congrFun hkept stored.triple
    rw [Kept.with_self] at hself
    obtain ⟨hsave, hsound, hkept', hother⟩ :=
      save_eq (h stored.triple) hself hopen htriple hrevision hproblems
    refine ⟨s.put r.dumped, by simp [Keeper.save, hsave], fun t' => ?_,
      Kept.eq_with (htriple ▸ hkept') fun t' ht' => ?_⟩
    · by_cases ht' : t' = stored.triple
      · exact ht' ▸ hsound
      · rw [hother t' ht']
        exact h t'
    · rw [Release.dumped_triple, htriple] at ht'
      rw [hother t' ht', congrFun hkept t', Kept.with_of_ne ht']

theorem good_empty : reliable.Good {} := Shelf.sound_empty

theorem ready_of_good {s : MemoryStore} {t : Triple} (h : reliable.Good s) : reliable.Ready t s :=
  ⟨h, trivial⟩

end MemoryStore

/-! ## Watched stores -/

namespace WatchedStore

variable {σ : Type} [Keeper σ] {s : WatchedStore σ}

theorem create_eq (inner : Keeper.Reliable σ) {t : Triple} (h : inner.Ready t s.store)
    (now : DateTime) :
    ∃ revision store, Keeper.create now t s
        = (.ok (Release.new now t revision (Release.lastState (inner.kept s.store t))),
          { s with store }) ∧ inner.Good store ∧ inner.kept store = (inner.kept s.store).with
        (Release.new now t revision (Release.lastState (inner.kept s.store t))) := by
  obtain ⟨revision, store, hcreate, hgood, hkept⟩ := inner.create now t s.store h.good h.room
  exact ⟨revision, store, by simp [Keeper.create, hcreate], hgood, hkept⟩

/-- An attempt that is not one to fail is up to the store that is watched. -/
theorem save_of_notMem (h : s.attempts.length + 1 ∉ s.faults) {r : Release} {store : σ}
    (hsave : Keeper.save r s.store = (.ok (), store)) :
    Keeper.save r s = (.ok (), { s.record r true with store }) := by
  simp [Keeper.save, save, h, hsave]

/-- An attempt that is one to fail leaves the store that is watched as it was. -/
theorem save_of_mem (h : s.attempts.length + 1 ∈ s.faults) (r : Release) :
    Keeper.save r s = (.error s.fault, s.record r false) := by
  simp [Keeper.save, save, h]

/-- Every attempt is recorded. -/
theorem save_attempts (r : Release) (s : WatchedStore σ) :
    ∃ stored, (Keeper.save r s).2.attempts = s.attempts ++ [⟨r, stored⟩] := by
  simp only [Keeper.save, save]
  split
  · exact ⟨false, rfl⟩
  · split
    · exact ⟨true, rfl⟩
    · exact ⟨false, rfl⟩

/-- **A watched store without faults fails no more than the store it watches.** -/
def reliable (inner : Keeper.Reliable σ) : Keeper.Reliable (WatchedStore σ) where
  Good s := s.faults = [] ∧ inner.Good s.store
  Room t s := inner.Room t s.store
  kept s := inner.kept s.store
  sound := fun s t h => inner.sound s.store t h.2
  latest := fun s t h => inner.latest s.store t h.2
  create := by
    rintro now t s ⟨hfaults, h⟩ hroom
    obtain ⟨revision, store, hcreate, hgood, hkept⟩ := create_eq inner ⟨h, hroom⟩ now
    exact ⟨revision, { s with store }, hcreate, ⟨hfaults, hgood⟩, hkept⟩
  refuse := by
    rintro now t s ⟨hfaults, h⟩ hroom
    obtain ⟨e, store, hcreate, hgood, hkept⟩ := inner.refuse now t s.store h hroom
    exact ⟨e, { s with store }, by simp [Keeper.create, hcreate], ⟨hfaults, hgood⟩, hkept⟩
  save := by
    rintro s before stored r ⟨hfaults, h⟩ hkept hopen htriple hrevision hproblems
    obtain ⟨store, hsave, hgood, hkept'⟩ :=
      inner.save s.store before stored r h hkept hopen htriple hrevision hproblems
    have hnumber : s.attempts.length + 1 ∉ s.faults := by
      rw [hfaults]
      exact List.not_mem_nil
    exact ⟨_, save_of_notMem hnumber hsave, ⟨hfaults, hgood⟩, hkept'⟩

end WatchedStore

end Rollout
