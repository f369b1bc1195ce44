import Rollout.Proofs.Release.Lives
import Rollout.Proofs.Store.Interchange

/-!
# What a store keeps of what is written

A store keeps of every revision the record that was written last, and numbers the revisions of a triple
from one on.  A new release takes over the last state of the revision before it.  Of a release that is
saved, its record is written.

* `Shelf.Keeps` : a shelf keeps what was written;
* `Keeper.Recording` : how a store comes to keep what is written; a call that fails writes nothing;
* `MemoryStore.recording`, `DirectoryStore.recording` : both stores are of that kind.
-/

set_option autoImplicit false

namespace Rollout

open Release

/-- How a store comes to keep what is written.  A call that fails writes nothing. -/
structure Keeper.Recording (σ : Type) [Keeper σ] where
  /-- A store keeps records, after they were written one after the other. -/
  Keeps : σ → List Release → Prop
  create : ∀ (now : DateTime) (t : Triple) {s : σ} {writes : List Release}, Keeps s writes →
    (∃ e s', Keeper.create now t s = (.error e, s') ∧ Keeps s' writes) ∨
      ∃ r s', Keeper.create now t s = (.ok r, s') ∧ Begins writes r ∧ Keeps s' (writes ++ [r])
  save : ∀ {r : Release} {s : σ} {writes : List Release}, Keeps s writes →
    versions r.triple r.revision writes ≠ [] →
    (∃ e s', Keeper.save r s = (.error e, s') ∧ Keeps s' writes) ∨
      ∃ s', Keeper.save r s = (.ok (), s') ∧ Keeps s' (writes ++ [r.dumped])
  /-- Records are written as they are kept. -/
  finite : ∀ {s : σ} {writes : List Release}, Keeps s writes → ∀ r ∈ writes, r.Finite

/-! ## Shelves -/

/-- A shelf keeps what was written of a triple: the last record of every revision, from one to `n`. -/
structure Shelf.Keeps (t : Triple) (writes : List Release) (n : Int) (shelf : Shelf) : Prop where
  last : ∀ k, Assoc.lookup k shelf.releases = (versions t k writes).getLast?
  distinct : (Assoc.keys shelf.releases).Nodup
  nonneg : 0 ≤ n
  numbered : ∀ k, k ∈ Assoc.keys shelf.releases ↔ 1 ≤ k ∧ k ≤ n
  finite : ∀ r ∈ writes, r.Finite

section

variable {t : Triple} {writes : List Release} {n k : Int} {shelf : Shelf} {r p : Release}
  {found : Option Release}

theorem Shelf.keeps_nil (t : Triple) : Shelf.Keeps t [] 0 {} := by
  refine ⟨fun k => rfl, .nil, Int.le_refl _, fun k => ?_, by simp⟩
  simp only [Assoc.keys_nil, List.not_mem_nil, false_iff]
  omega

namespace Shelf.Keeps

theorem mem_keys_iff (h : shelf.Keeps t writes n) :
    k ∈ Assoc.keys shelf.releases ↔ versions t k writes ≠ [] := by
  rw [Assoc.mem_keys_iff, h.last, ← Option.isSome_iff_exists, List.getLast?_isSome]

theorem finite_of_lookup (h : shelf.Keeps t writes n)
    (hr : Assoc.lookup k shelf.releases = some r) : r.Finite := by
  rw [h.last] at hr
  exact h.finite r (mem_versions.mp (List.mem_of_getLast? hr)).1

theorem finite_concat (h : shelf.Keeps t writes n) (hr : r.Finite) :
    ∀ p ∈ writes ++ [r], p.Finite := by
  intro p hp
  rcases List.mem_append.mp hp with hp | hp
  · exact h.finite p hp
  · exact List.mem_singleton.mp hp ▸ hr

/-- No revision after the last one was written. -/
theorem revision_le (h : shelf.Keeps t writes n) (hp : p ∈ writes) (htriple : p.triple = t) :
    p.revision ≤ n := by
  have hmem : p ∈ versions t p.revision writes := mem_versions.mpr ⟨hp, htriple, rfl⟩
  exact ((h.numbered _).mp (h.mem_keys_iff.mpr (List.ne_nil_of_mem hmem))).2

theorem newest_notMem (h : shelf.Keeps t writes n) : n + 1 ∉ Assoc.keys shelf.releases := by
  rw [h.numbered]
  omega

/-- The records of another triple are not kept here. -/
theorem frame (h : shelf.Keeps t writes n) (hr : r.triple ≠ t) (hfinite : r.Finite) :
    shelf.Keeps t (writes ++ [r]) n := by
  refine ⟨fun k => ?_, h.distinct, h.nonneg, h.numbered, h.finite_concat hfinite⟩
  rw [versions_concat_of_ne fun hsame => hr hsame.1]
  exact h.last k

theorem last_put (h : shelf.Keeps t writes n) (hr : r.triple = t) (k : Int) :
    Assoc.lookup k (Assoc.put r.revision r shelf.releases)
      = (versions t k (writes ++ [r])).getLast? := by
  rw [Assoc.lookup_put]
  split
  · rename_i hk
    rw [← hr, ← hk, versions_concat_self, List.getLast?_concat]
  · rename_i hk
    rw [versions_concat_of_ne fun hsame => hk hsame.2, h.last]

/-- The next revision is kept. -/
theorem append (h : shelf.Keeps t writes n) (hr : r.triple = t) (hrevision : r.revision = n + 1)
    (hfinite : r.Finite) (allocated : Int) (reserved : List Int) :
    Shelf.Keeps t (writes ++ [r]) (n + 1)
      { releases := Assoc.put r.revision r shelf.releases, allocated, reserved } := by
  refine ⟨h.last_put hr, Assoc.nodup_keys_put _ _ h.distinct, ?_, fun k => ?_,
    h.finite_concat hfinite⟩
  · have := h.nonneg
    omega
  · have := h.nonneg
    rw [Assoc.mem_keys_put, h.numbered]
    omega

/-- A revision is kept in the place of its last record. -/
theorem replace (h : shelf.Keeps t writes n) (hr : r.triple = t)
    (hrevision : r.revision ∈ Assoc.keys shelf.releases) (hfinite : r.Finite) (allocated : Int)
    (reserved : List Int) :
    Shelf.Keeps t (writes ++ [r]) n
      { releases := Assoc.put r.revision r shelf.releases, allocated, reserved } := by
  refine ⟨h.last_put hr, Assoc.nodup_keys_put _ _ h.distinct, h.nonneg, fun k => ?_,
    h.finite_concat hfinite⟩
  rw [Assoc.mem_keys_put, ← h.numbered, or_iff_right_of_imp]
  rintro rfl
  exact hrevision

theorem congr (h : shelf.Keeps t writes n) (allocated : Int) (reserved : List Int) :
    Shelf.Keeps t writes n { shelf with allocated, reserved } :=
  ⟨h.last, h.distinct, h.nonneg, h.numbered, h.finite⟩

/-- **A new release** takes over the last state of the revision before it. -/
theorem begins (h : shelf.Keeps t writes n) (now : DateTime)
    (hfound : found.map Release.untimed = (Assoc.lookup n shelf.releases).map Release.untimed)
    (hsound : ∀ r ∈ found, r.Sound) :
    Begins writes (Release.new now t (n + 1) (Release.lastState found.toList)) := by
  refine ⟨rfl, fun p hp htriple => ?_, fun hone => ?_, fun hne => ?_⟩
  · exact Int.lt_add_one_iff.mpr (h.revision_le hp htriple)
  · have hzero : n = 0 := by
      simp only [Release.new] at hone
      omega
    have hnone : Assoc.lookup n shelf.releases = none := by
      rw [Assoc.lookup_eq_none_iff, h.numbered]
      omega
    rw [hnone, Option.map_none, Option.map_eq_none_iff] at hfound
    rw [hfound]
    rfl
  · have hprevious : n ∈ Assoc.keys shelf.releases := by
      have := h.nonneg
      rw [h.numbered]
      simp only [Release.new] at hne
      omega
    obtain ⟨p, hp⟩ := Assoc.mem_keys_iff.mp hprevious
    rw [hp, Option.map_some, Option.map_eq_some_iff] at hfound
    obtain ⟨r, rfl, hsame⟩ := hfound
    have hstate : r.state = p.state := Release.congr_untimed (fun _ => rfl) hsame
    refine ⟨p, ?_, ?_⟩
    · simp only [Release.new, Int.add_sub_cancel]
      rw [← h.last, hp]
    · obtain ⟨-, -, hknown, -⟩ := Release.problems_eq_nil_iff.mp (hsound r rfl).readable
      obtain ⟨state, hr⟩ := Option.ne_none_iff_exists'.mp hknown
      rw [← hstate, hr]
      simp [Release.new, Release.lastState, Release.resources, hr]

end Shelf.Keeps

/-! ## What a store does with what it keeps -/

section

variable {σ : Type} [Backing σ] {s : σ}

/-- Whether a store fails to say what the latest release is. -/
def Store.LatestFails (t : Triple) (n : Int) (s : σ) : Prop :=
  (∃ e, Backing.revisions t s = .error e) ∨ ∃ e, Backing.load t n s = .error e

/-- **The latest release** is the last record of the last revision, if that can be read back. -/
theorem Store.latest_cases (h : shelf.Keeps t writes n)
    (hrevisions : (∃ e, Backing.revisions t s = .error e) ∨
      Backing.revisions t s = .ok (ascending (Assoc.keys shelf.releases)))
    (hload : (∃ e, Backing.load t n s = .error e) ∨ ∃ found, Backing.load t n s = .ok found ∧
      found.map Release.untimed = (Assoc.lookup n shelf.releases).map Release.untimed) :
    (∃ e, Store.latest t s = .error e ∧ (Store.LatestFails t n s ∨
        ∃ p, Assoc.lookup n shelf.releases = some p ∧ p.problems ≠ [])) ∨
      ∃ found, Store.latest t s = .ok found ∧
        found.map Release.untimed = (Assoc.lookup n shelf.releases).map Release.untimed ∧
        ∀ r ∈ found, r.Sound := by
  unfold Store.latest
  rcases hrevisions with ⟨e, he⟩ | hrevisions
  · exact .inl ⟨e, by rw [he], .inl (.inl ⟨e, he⟩)⟩
  rw [hrevisions]
  by_cases hpos : 0 < n
  · have hn : n ∈ Assoc.keys shelf.releases := (h.numbered n).mpr ⟨hpos, Int.le_refl _⟩
    obtain ⟨p, hp⟩ := Assoc.mem_keys_iff.mp hn
    simp only [getLast?_ascending hn fun k hk => ((h.numbered k).mp hk).2]
    unfold Store.get
    rcases hload with ⟨e, he⟩ | ⟨found, hfound, hsame⟩
    · exact .inl ⟨e, by rw [he], .inl (.inr ⟨e, he⟩)⟩
    · have hfirst := hsame
      rw [hp, Option.map_some, Option.map_eq_some_iff] at hfirst
      obtain ⟨r, rfl, huntimed⟩ := hfirst
      rw [hfound]
      have hproblems := Release.problems_congr_untimed huntimed
      by_cases hreadable : r.problems = []
      · refine .inr ⟨some r, by simp only [Release.reread_eq hreadable], hsame, ?_⟩
        rintro _ ⟨⟩
        exact sound_congr_untimed huntimed.symm ⟨hproblems ▸ hreadable, h.finite_of_lookup hp⟩
      · refine .inl ⟨.invalid r.problems, ?_, .inr ⟨p, hp, hproblems ▸ hreadable⟩⟩
        simp only [Release.reread_error hreadable]
  · -- nothing was written yet
    have hnone : ∀ k, k ∉ Assoc.keys shelf.releases := fun k hk => by
      have := (h.numbered k).mp hk
      omega
    have hnil : ascending (Assoc.keys shelf.releases) = [] :=
      List.eq_nil_iff_forall_not_mem.mpr fun k hk => hnone k (mem_ascending.mp hk)
    rw [hnil]
    refine .inr ⟨none, rfl, ?_, by simp⟩
    rw [Assoc.lookup_eq_none_iff.mpr (hnone n)]

/-- A release is saved in the place of its last record, or refused. -/
theorem Store.save_cases {stored : Release}
    (hload : Backing.load r.triple r.revision s = .ok (some stored)) :
    (∃ e, Store.save r s = .error e) ∨
      stored.problems = [] ∧ Store.save r s = Backing.replace r.dumped s := by
  unfold Store.save
  rw [hload]
  by_cases hreadable : stored.problems = []
  · simp only [Release.reread_eq hreadable]
    split
    · exact .inl ⟨_, rfl⟩
    · exact .inr ⟨hreadable, rfl⟩
  · exact .inl ⟨.invalid stored.problems, by simp only [Release.reread_error hreadable]⟩

end

end

/-! ## Stores in memory -/

/-- A shelf keeps what was written of a triple, and hands out the next revision, unless the last release
cannot be read back. -/
def Shelf.Counts (t : Triple) (writes : List Release) (shelf : Shelf) : Prop :=
  ∃ n, shelf.Keeps t writes n ∧
    ((∀ p ∈ Assoc.lookup n shelf.releases, p.problems = []) → shelf.allocated = n)

namespace MemoryStore

variable {s s' : MemoryStore} {t : Triple} {writes : List Release} {n : Int} {r : Release}

/-- A store in memory keeps what was written. -/
def Keeps (s : MemoryStore) (writes : List Release) : Prop := ∀ t, (s.shelf t).Counts t writes

theorem keeps_empty : Keeps {} [] := fun t => ⟨0, Shelf.keeps_nil t, fun _ => rfl⟩

/-- Nothing is written, and one shelf changes. -/
theorem Keeps.change (h : s.Keeps writes) (hself : (s'.shelf t).Counts t writes)
    (hother : ∀ t' ≠ t, s'.shelf t' = s.shelf t') : s'.Keeps writes := by
  intro t'
  by_cases ht : t' = t
  · exact ht ▸ hself
  · rw [hother t' ht]
    exact h t'

/-- A record is written on its shelf. -/
theorem Keeps.write (h : s.Keeps writes) (hfinite : r.Finite)
    (hself : (s'.shelf r.triple).Counts r.triple (writes ++ [r]))
    (hother : ∀ t' ≠ r.triple, s'.shelf t' = s.shelf t') : s'.Keeps (writes ++ [r]) := by
  intro t'
  by_cases ht : t' = r.triple
  · exact ht ▸ hself
  · rw [hother t' ht]
    obtain ⟨n, hkeeps, hnext⟩ := h t'
    exact ⟨n, hkeeps.frame (Ne.symm ht) hfinite, hnext⟩

/-- A new release is the next one of its triple. -/
theorem create_keeps (h : s.Keeps writes) (now : DateTime) (t : Triple) :
    (∃ e s', Store.create now t s = (.error e, s') ∧ s'.Keeps writes) ∨
      ∃ r s', Store.create now t s = (.ok r, s') ∧ Begins writes r ∧ s'.Keeps (writes ++ [r]) := by
  obtain ⟨n, hkeeps, hnext⟩ := h t
  let k := (s.shelf t).allocated + 1
  let claimed := (s.reserve t).2
  have hclaimed : claimed.shelf t
      = { s.shelf t with allocated := k, reserved := (s.shelf t).reserved ++ [k] } :=
    shelf_reserve t s
  have hother : ∀ t' ≠ t, claimed.shelf t' = s.shelf t' := fun t' ht => shelf_reserve_of_ne ht s
  have hreserve : Backing.reserve t s = (.ok k, claimed) := rfl
  have hkeeps' : (claimed.shelf t).Keeps t writes n := hclaimed ▸ hkeeps.congr _ _
  unfold Store.create
  rw [hreserve]
  rcases Store.latest_cases (s := claimed) hkeeps' (.inr rfl) (.inr ⟨_, rfl, rfl⟩) with
    ⟨e, he, hfails⟩ | ⟨found, hfound, hsame, hsound⟩
  · -- the last release cannot be read back
    obtain ⟨p, hp, hproblems⟩ : ∃ p, Assoc.lookup n (claimed.shelf t).releases = some p ∧
        p.problems ≠ [] := by
      rcases hfails with (⟨e, he⟩ | ⟨e, he⟩) | hp
      · cases he
      · cases he
      · exact hp
    have hcreate : Store.createAt now t k claimed = (.error e, claimed) := by
      unfold Store.createAt
      rw [he]
    refine .inl ⟨e, claimed.dropReservation t k, by simp only [hcreate]; rfl, h.change (t := t) ?_ ?_⟩
    · rw [shelf_dropReservation]
      exact ⟨n, hkeeps'.congr _ _, fun hlast => absurd (hlast p hp) hproblems⟩
    · intro t' ht
      rw [shelf_dropReservation_of_ne ht, hother t' ht]
  · have hk : k = n + 1 := by
      have hlast : ∀ p ∈ Assoc.lookup n (s.shelf t).releases, p.problems = [] := by
        intro p hp
        rw [hclaimed, hp, Option.map_some, Option.map_eq_some_iff] at hsame
        obtain ⟨r, rfl, huntimed⟩ := hsame
        exact Release.problems_congr_untimed huntimed ▸ (hsound r rfl).readable
      simp only [k, hnext hlast]
    let r := Release.new now t k (Release.lastState found.toList)
    have hnew : k ∉ Assoc.keys (claimed.shelf t).releases := hk ▸ hkeeps'.newest_notMem
    have hinsert : Backing.insert r claimed = .ok (claimed.put r) := insert_eq hnew
    have hcreate : Store.createAt now t k claimed = (.ok r, claimed.put r) := by
      rw [Store.createAt_of_latest hfound fun r hr => (hsound r hr).finite]
      simp only [r] at hinsert
      rw [hinsert]
    have hfinite : r.Finite := finite_new (finite_lastState (by
      simpa using fun r hr => (hsound r hr).finite))
    refine .inr ⟨r, (claimed.put r).dropReservation t k, by simp only [hcreate]; rfl, ?_, ?_⟩
    · simp only [r, hk]
      exact hkeeps'.begins now hsame hsound
    · refine h.write hfinite ?_ fun t' ht => ?_
      · have hcounts : (((claimed.put r).dropReservation t k).shelf t).Counts t (writes ++ [r]) := by
          have hr : r.triple = t := rfl
          rw [shelf_dropReservation, shelf_put hr]
          exact ⟨n + 1, hkeeps'.append rfl hk hfinite _ _, fun _ => by rw [hclaimed, hk]⟩
        exact hcounts
      · have ht : t' ≠ t := ht
        rw [shelf_dropReservation_of_ne ht, shelf_put_of_ne ht, hother t' ht]

theorem save_keeps (h : s.Keeps writes) (hr : versions r.triple r.revision writes ≠ []) :
    (∃ e, Store.save r s = .error e) ∨
      ∃ s', Store.save r s = .ok s' ∧ s'.Keeps (writes ++ [r.dumped]) := by
  obtain ⟨n, hkeeps, hnext⟩ := h r.triple
  have hmem := hkeeps.mem_keys_iff.mpr hr
  obtain ⟨stored, hstored⟩ := Assoc.mem_keys_iff.mp hmem
  have hload : Backing.load r.triple r.revision s = .ok (some stored) := congrArg Except.ok hstored
  refine (Store.save_cases hload).imp id ?_
  rintro ⟨hreadable, hsave⟩
  refine ⟨s.put r.dumped, hsave, h.write r.dumped_finite ?_ fun t' ht => shelf_put_of_ne ht s⟩
  rw [shelf_put rfl]
  refine ⟨n, hkeeps.replace (r := r.dumped) rfl hmem r.dumped_finite _ _, fun hlast => hnext ?_⟩
  by_cases hrevision : r.revision = n
  · rw [← hrevision, hstored]
    rintro p ⟨⟩
    exact hreadable
  · rwa [Assoc.lookup_put, Release.dumped_revision, if_neg hrevision] at hlast

/-- **A store in memory** keeps what is written. -/
def recording : Keeper.Recording MemoryStore where
  Keeps := Keeps
  create now t _ _ h := create_keeps h now t
  save := by
    intro r s writes h hr
    rcases save_keeps h hr with ⟨e, he⟩ | ⟨s', hs', hkeeps⟩
    · exact .inl ⟨e, s, by simp only [Keeper.save, he], h⟩
    · exact .inr ⟨s', by simp only [Keeper.save, hs'], hkeeps⟩
  finite h := (h default).choose_spec.1.finite

end MemoryStore

/-! ## Stores in a directory -/

namespace DirectoryStore

variable {s s' : DirectoryStore} {t : Triple} {writes : List Release} {n : Int} {r : Release}
  {entries : List (String × Entry)} {shelf : Shelf}

/-- A directory keeps what was written of a triple, and no revision is reserved. -/
def FolderKeeps (t : Triple) (writes : List Release) (entries : List (String × Entry)) : Prop :=
  ∃ shelf, Mirrors entries shelf ∧ shelf.reserved = [] ∧ shelf.Keeps t writes shelf.allocated

/-- A store in a directory keeps what was written. -/
def Keeps (s : DirectoryStore) (writes : List Release) : Prop :=
  ∀ t, FolderKeeps t writes (s.disk.entries t)

theorem keeps_empty (blind : Bool) : Keeps ⟨{}, blind⟩ [] :=
  fun t => ⟨{}, Mirrors.empty, rfl, Shelf.keeps_nil t⟩

theorem Keeps.congr (h : s.Keeps writes) (hsame : ∀ t, s'.disk.entries t = s.disk.entries t) :
    s'.Keeps writes := by
  intro t
  rw [hsame t]
  exact h t

/-- A record is written in the directory of its triple. -/
theorem Keeps.write (h : s.Keeps writes) (hfinite : r.Finite) (hchanges : Changes r.triple entries s s')
    (hself : FolderKeeps r.triple (writes ++ [r]) entries) : s'.Keeps (writes ++ [r]) := by
  intro t'
  by_cases ht : t' = r.triple
  · rw [ht, hchanges.1]
    exact hself
  · rw [hchanges.2 t' ht]
    obtain ⟨shelf, hmirrors, hidle, hkeeps⟩ := h t'
    exact ⟨shelf, hmirrors, hidle, hkeeps.frame (Ne.symm ht) hfinite⟩

/-- A reservation that is dropped again leaves nothing. -/
theorem Keeps.undo (h : s.Keeps writes) (hmirrors : Mirrors (s.disk.entries t) shelf)
    (hchanges : Changes t (Assoc.put (claimName (shelf.allocated + 1)) .text (s.disk.entries t)) s s') :
    (s'.dropReservation t (shelf.allocated + 1)).Keeps writes := by
  have hdropped := Changes.undo hmirrors.numbered hchanges
  refine h.congr fun t' => ?_
  by_cases ht : t' = t
  · rw [ht, hdropped.1]
  · exact hdropped.2 t' ht

/-- What is created at the revision that is reserved. -/
theorem createAt_keeps (hmirrors : Mirrors (s.disk.entries t) shelf)
    (hkeeps : shelf.Keeps t writes n) (hreserved : shelf.allocated = n + 1) (now : DateTime) :
    (∃ e, Store.createAt now t (n + 1) s = (.error e, s)) ∨
      ∃ r s', Store.createAt now t (n + 1) s = (.ok r, s') ∧ Begins writes r ∧ r.triple = t ∧
        r.revision = n + 1 ∧ r.Finite ∧ Changes t (Assoc.put (recordName (n + 1)) (.release r)
          (Assoc.erase (scratchName (n + 1)) (s.disk.entries t))) s s' := by
  have hrevisions : (∃ e, Backing.revisions t s = .error e) ∨
      Backing.revisions t s = .ok (ascending (Assoc.keys shelf.releases)) :=
    (revisions_spec hmirrors).imp (fun ⟨e, he, _⟩ => ⟨e, he⟩) id
  have hload : (∃ e, Backing.load t n s = .error e) ∨ ∃ found, Backing.load t n s = .ok found ∧
      found.map Release.untimed = (Assoc.lookup n shelf.releases).map Release.untimed :=
    (load_spec hmirrors n).imp (fun ⟨e, he, _⟩ => ⟨e, he⟩) id
  rcases Store.latest_cases hkeeps hrevisions hload with
    ⟨e, he, -⟩ | ⟨found, hfound, hsame, hsound⟩
  · refine .inl ⟨e, ?_⟩
    unfold Store.createAt
    rw [he]
  · have hfinite := fun r hr => (hsound r hr).finite
    rw [Store.createAt_of_latest hfound hfinite]
    have hbegins := hkeeps.begins now hsame hsound
    have hfinite : (Release.new now t (n + 1) (Release.lastState found.toList)).Finite :=
      finite_new (finite_lastState (by simpa using hfinite))
    generalize hr : Release.new now t (n + 1) (Release.lastState found.toList) = r at hbegins hfinite
    have htriple : r.triple = t := hr ▸ rfl
    have hrevision : r.revision = n + 1 := hr ▸ rfl
    have hnonneg := hkeeps.nonneg
    have hnew : r.revision ∉ Assoc.keys shelf.releases := hrevision ▸ hkeeps.newest_notMem
    rcases insert_spec (htriple ▸ hmirrors) (by omega) hnew with ⟨e, he, -⟩ | ⟨s', hs', hchanges⟩
    · exact .inl ⟨e, by rw [show Backing.insert r s = _ from he]⟩
    · rw [htriple, hrevision] at hchanges
      exact .inr ⟨r, s', by rw [show Backing.insert r s = _ from hs'], hbegins, htriple, hrevision,
        hfinite, hchanges⟩

/-- A new release is the next one of its triple. -/
theorem create_keeps (h : s.Keeps writes) (now : DateTime) (t : Triple) :
    (∃ e s', Store.create now t s = (.error e, s') ∧ s'.Keeps writes) ∨
      ∃ r s', Store.create now t s = (.ok r, s') ∧ Begins writes r ∧ s'.Keeps (writes ++ [r]) := by
  obtain ⟨shelf, hmirrors, hidle, hkeeps⟩ := h t
  unfold Store.create
  rcases reserve_spec hmirrors with ⟨⟨e, he, -⟩, hsame⟩ | ⟨claimed, hclaimed, hchanges⟩
  · refine .inl ⟨e, (s.reserve t).2, ?_, h.congr hsame⟩
    rw [show Backing.reserve t s = (.error e, (s.reserve t).2) from Prod.ext he rfl]
  let k := shelf.allocated + 1
  let reserved : Shelf := { shelf with allocated := k, reserved := shelf.reserved ++ [k] }
  have hmirrors' : Mirrors (claimed.disk.entries t) reserved := hchanges.1 ▸ hmirrors.reserve
  have hkeeps' : reserved.Keeps t writes shelf.allocated := hkeeps.congr _ _
  rw [show Backing.reserve t s = (.ok k, claimed) from hclaimed]
  rcases createAt_keeps hmirrors' hkeeps' rfl now with
    ⟨e, he⟩ | ⟨r, stored, hcreate, hbegins, rfl, hrevision, hfinite, hstored⟩
  · exact .inl ⟨e, _, by simp only [k, he]; rfl, h.undo hmirrors hchanges⟩
  · have hnonneg := hkeeps.nonneg
    have hwritten : Mirrors (stored.disk.entries r.triple)
        { reserved with releases := Assoc.put k r reserved.releases } :=
      hstored.1 ▸ hmirrors'.write rfl ⟨by omega, Int.le_refl _⟩
    have hdropped := dropReservation_spec hwritten.numbered k
    rw [hstored.1] at hwritten hdropped
    refine .inr ⟨r, stored.dropReservation r.triple k, by simp only [k, hcreate]; rfl, hbegins,
      h.write hfinite ((hchanges.trans hstored).trans hdropped)
        ⟨_, hwritten.drop (Assoc.mem_keys_put.mpr (.inl rfl)), ?_, ?_⟩⟩
    · simp [reserved, hidle]
    · have happend := hkeeps'.append rfl hrevision hfinite k (reserved.reserved.filter (· ≠ k))
      rwa [hrevision] at happend

theorem save_keeps (h : s.Keeps writes) (hr : versions r.triple r.revision writes ≠ []) :
    (∃ e, Store.save r s = .error e) ∨
      ∃ s', Store.save r s = .ok s' ∧ s'.Keeps (writes ++ [r.dumped]) := by
  obtain ⟨shelf, hmirrors, hidle, hkeeps⟩ := h r.triple
  have hmem := hkeeps.mem_keys_iff.mpr hr
  have htaken := (hkeeps.numbered _).mp hmem
  obtain ⟨p, hp⟩ := Assoc.mem_keys_iff.mp hmem
  rcases load_spec hmirrors r.revision with ⟨e, he, -⟩ | ⟨found, hfound, hsame⟩
  · refine .inl ⟨e, ?_⟩
    unfold Store.save
    rw [show Backing.load r.triple r.revision s = _ from he]
  rw [hp, Option.map_some, Option.map_eq_some_iff] at hsame
  obtain ⟨stored, rfl, -⟩ := hsame
  rcases Store.save_cases (s := s) hfound with he | ⟨-, hsave⟩
  · exact .inl he
  rw [hsave]
  rcases replace_spec (r := r.dumped) hmirrors htaken with ⟨e, he, -⟩ | ⟨s', hs', hchanges⟩
  · exact .inl ⟨e, he⟩
  · refine .inr ⟨s', hs', h.write r.dumped_finite hchanges
      ⟨_, hmirrors.write (r := r.dumped) rfl htaken, hidle, ?_⟩⟩
    exact hkeeps.replace (r := r.dumped) rfl hmem r.dumped_finite _ _

/-- **A store in a directory** keeps what is written. -/
def recording : Keeper.Recording DirectoryStore where
  Keeps := Keeps
  create now t _ _ h := create_keeps h now t
  save := by
    intro r s writes h hr
    rcases save_keeps h hr with ⟨e, he⟩ | ⟨s', hs', hkeeps⟩
    · exact .inl ⟨e, s, by simp only [Keeper.save, he], h⟩
    · exact .inr ⟨s', by simp only [Keeper.save, hs'], hkeeps⟩
  finite h := (h default).choose_spec.2.2.finite

end DirectoryStore

end Rollout
