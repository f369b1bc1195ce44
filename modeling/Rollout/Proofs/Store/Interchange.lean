import Rollout.Proofs.Store.Mirror
import Rollout.Proofs.Store.Shared

/-!
# One store is as good as another

Stores in a directory, however many there are over one root, answer every call as one store in memory
does, but for the times of what they answer.

* `Store.Call` : a call of a store; `Store.answers`, `Store.after` : what a store answers to several
  calls, and what becomes of it;
* `SharedRoot.answers` : what several stores over one root answer;
* `DirectoryStore.create_agrees`, `DirectoryStore.save_agrees`, `DirectoryStore.latest_agrees` : what
  one store does is what the other one does;
* `Store.Call.run_agrees` : one call;
* `SharedRoot.interchangeable` : any sequence of calls, distributed over any stores.

A file system that refuses a name is the only thing that makes a difference.
-/

set_option autoImplicit false

namespace Rollout

/-! ## Stores that keep the same answer the same -/

/-- What stands on a shelf can be read back as it is. -/
def Shelf.Readable (shelf : Shelf) : Prop :=
  ∀ k r, Assoc.lookup k shelf.releases = some r → r.Sound

namespace DirectoryStore

/-- Two stores keep the same, and it can be read back. -/
def Agrees (s : DirectoryStore) (m : MemoryStore) : Prop :=
  ∀ t, Mirrors (s.disk.entries t) (m.shelf t) ∧ (m.shelf t).Readable

theorem agrees_empty (blind : Bool) : Agrees ⟨{}, blind⟩ {} :=
  fun _ => ⟨Mirrors.empty, fun _ _ h => by cases h⟩

variable {s s' : DirectoryStore} {m : MemoryStore} {t : Triple} {k : Int} {r r' : Release}

/-- What is changed in the directory of one triple and on its shelf. -/
theorem Agrees.update (h : Agrees s m) {entries : List (String × Entry)} {f : Shelf → Shelf}
    (hchanges : Changes t entries s s') (hself : Mirrors entries (f (m.shelf t)))
    (hreadable : (f (m.shelf t)).Readable) : Agrees s' (m.update t f) := by
  intro t'
  by_cases ht : t' = t
  · rw [ht, MemoryStore.shelf_update, hchanges.1]
    exact ⟨hself, hreadable⟩
  · rw [hchanges.2 t' ht, MemoryStore.shelf_update_of_ne ht]
    exact h t'

theorem Agrees.put (h : Agrees s m) (hsame : r.untimed = r'.untimed) (hsound : r'.Sound)
    (htaken : 1 ≤ r.revision ∧ r.revision ≤ (m.shelf r.triple).allocated)
    (hchanges : Changes r.triple (Assoc.put (recordName r.revision) (.release r)
      (Assoc.erase (scratchName r.revision) (s.disk.entries r.triple))) s s') :
    Agrees s' (m.put r') := by
  have htriple : r'.triple = r.triple := Release.congr_untimed (fun _ => rfl) hsame.symm
  have hrevision : r'.revision = r.revision := Release.congr_untimed (fun _ => rfl) hsame.symm
  unfold MemoryStore.put
  rw [htriple, hrevision]
  refine h.update hchanges ((h r.triple).1.write hsame htaken) fun k x hx => ?_
  rw [Assoc.lookup_put] at hx
  split at hx
  · cases hx
    exact hsound
  · exact (h r.triple).2 k x hx

/-! ### One step of a store -/

/-- A directory hands out the revision that a shelf hands out. -/
theorem reserve_agrees (h : Agrees s m) (hplain : checkNames t = .ok ()) :
    FailsOnDisk (Backing.reserve t s).1 ∨
      ∃ s', Backing.reserve t s = (.ok (m.reserve t).1, s') ∧ Agrees s' (m.reserve t).2 := by
  rcases reserve_spec (h t).1 with ⟨hrefuses, -⟩ | ⟨s', hreserve, hchanges⟩
  · exact .inl (hrefuses.failsOnDisk hplain)
  · exact .inr ⟨s', hreserve, h.update hchanges (h t).1.reserve (h t).2⟩

/-- The reservation of a stored revision is dropped on both sides. -/
theorem drop_agrees (h : Agrees s m) (hstored : k ∈ Assoc.keys (m.shelf t).releases) :
    Agrees (Backing.dropReservation t k s) (Backing.dropReservation t k m) :=
  h.update (dropReservation_spec (h t).1.numbered k) ((h t).1.drop hstored) (h t).2

/-- A release is stored at a revision that has none, or is refused there. -/
theorem insert_agrees (h : Agrees s m) (hsame : r.untimed = r'.untimed)
    (hplain : checkNames r.triple = .ok ()) (hsound : r'.Sound)
    (htaken : 1 ≤ r.revision ∧ r.revision ≤ (m.shelf r.triple).allocated)
    (hnew : r.revision ∉ Assoc.keys (m.shelf r.triple).releases) :
    FailsOnDisk (Backing.insert r s) ∨ ∃ s', Backing.insert r s = .ok s' ∧
      Backing.insert r' m = .ok (m.put r') ∧ Agrees s' (m.put r') := by
  have htriple : r'.triple = r.triple := Release.congr_untimed (fun _ => rfl) hsame.symm
  have hrevision : r'.revision = r.revision := Release.congr_untimed (fun _ => rfl) hsame.symm
  rcases insert_spec (h r.triple).1 htaken hnew with hrefuses | ⟨s', hinsert, hchanges⟩
  · exact .inl (hrefuses.failsOnDisk hplain)
  · refine .inr ⟨s', hinsert, ?_, h.put hsame hsound htaken hchanges⟩
    refine MemoryStore.insert_eq ?_
    rwa [htriple, hrevision]

/-- A release is stored in the place of another one. -/
theorem replace_agrees (h : Agrees s m) (hsame : r.untimed = r'.untimed)
    (hplain : checkNames r.triple = .ok ()) (hsound : r'.Sound)
    (hstored : r.revision ∈ Assoc.keys (m.shelf r.triple).releases) :
    FailsOnDisk (Backing.replace r s) ∨
      ∃ s', Backing.replace r s = .ok s' ∧ Agrees s' (m.put r') := by
  have htaken := ((h r.triple).1.taken _).mp (.inl hstored)
  rcases replace_spec (h r.triple).1 htaken with hrefuses | ⟨s', hreplace, hchanges⟩
  · exact .inl (hrefuses.failsOnDisk hplain)
  · exact .inr ⟨s', hreplace, h.put hsame hsound htaken hchanges⟩

/-- A directory holds at a revision what the shelf holds. -/
theorem load_agrees (h : Agrees s m) (hplain : checkNames t = .ok ()) (k : Int) :
    FailsOnDisk (Backing.load t k s) ∨ ∃ found, Backing.load t k s = .ok found ∧
      found.map Release.untimed = (Assoc.lookup k (m.shelf t).releases).map Release.untimed :=
  (load_spec (h t).1 k).imp (fun hrefuses => hrefuses.failsOnDisk hplain) id

/-- The same revisions are stored. -/
theorem revisions_agrees (h : Agrees s m) (hplain : checkNames t = .ok ()) :
    FailsOnDisk (Backing.revisions t s) ∨
      Backing.revisions t s = .ok (ascending (Assoc.keys (m.shelf t).releases)) :=
  (DirectoryStore.revisions_spec (h t).1).imp (fun hrefuses => hrefuses.failsOnDisk hplain) id

/-- The same revisions are reserved. -/
theorem isReserved_agrees (h : Agrees s m) (hplain : checkNames t = .ok ()) (k : Int) :
    FailsOnDisk (Backing.isReserved t k s) ∨
      Backing.isReserved t k s = .ok ((m.shelf t).reserved.contains k) :=
  (isReserved_spec (h t).1 k).imp (fun hrefuses => hrefuses.failsOnDisk hplain) id

/-! ### One call of a store -/

/-- What stands on a shelf is found there, and in the directory. -/
theorem get_stored (h : Agrees s m) (hplain : checkNames t = .ok ())
    (hr : Assoc.lookup k (m.shelf t).releases = some r') :
    Store.get t k m = .ok r' ∧
      (FailsOnDisk (Store.get t k s) ∨ ∃ r, Store.get t k s = .ok r ∧ r.untimed = r'.untimed) := by
  have hproblems := ((h t).2 k r' hr).readable
  refine ⟨by simp [Store.get, Backing.load, hr, Release.reread_eq hproblems], ?_⟩
  unfold Store.get
  rcases load_agrees h hplain k with ⟨e, he, hdisk⟩ | ⟨found, hfound, hsame⟩
  · rw [he]
    exact .inl ⟨e, rfl, hdisk⟩
  · rw [hr, Option.map_some, Option.map_eq_some_iff] at hsame
    obtain ⟨r, rfl, hsame⟩ := hsame
    rw [hfound]
    exact .inr ⟨r, Release.reread_eq (Release.problems_congr_untimed hsame ▸ hproblems), hsame⟩

theorem get_agrees (h : Agrees s m) (hplain : checkNames t = .ok ()) (k : Int) :
    FailsOnDisk (Store.get t k s) ∨
      (Store.get t k s).map Release.untimed = (Store.get t k m).map Release.untimed := by
  cases hr : Assoc.lookup k (m.shelf t).releases with
  | some r' =>
    obtain ⟨hget', hget⟩ := get_stored h hplain hr
    refine hget.imp id ?_
    rintro ⟨r, hr, hsame⟩
    rw [hr, hget']
    exact congrArg Except.ok hsame
  | none =>
    unfold Store.get
    have hload' : Backing.load t k m = .ok none := congrArg Except.ok hr
    rw [hload']
    rcases load_agrees h hplain k with ⟨e, he, hdisk⟩ | ⟨found, hfound, hsame⟩
    · rw [he]
      exact .inl ⟨e, rfl, hdisk⟩
    · rw [hr, Option.map_none, Option.map_eq_none_iff] at hsame
      rw [hfound, hsame]
      exact .inr rfl

/-- The revisions of a shelf are listed, and those of the directory too. -/
theorem list_revisions_agrees (h : Agrees s m) (hplain : checkNames t = .ok ()) :
    ∃ revisions, Backing.revisions t m = .ok revisions ∧
      (∀ k ∈ revisions, k ∈ Assoc.keys (m.shelf t).releases) ∧
      (FailsOnDisk (Backing.revisions t s) ∨ Backing.revisions t s = .ok revisions) :=
  ⟨_, rfl, fun _ hk => mem_ascending.mp hk, revisions_agrees h hplain⟩

/-- The latest release of a shelf is found, and that of the directory too. -/
theorem latest_agrees (h : Agrees s m) (hplain : checkNames t = .ok ()) :
    ∃ found', Store.latest t m = .ok found' ∧ (∀ r ∈ found', r.Sound) ∧
      (FailsOnDisk (Store.latest t s) ∨ ∃ found, Store.latest t s = .ok found ∧
        found.map Release.untimed = found'.map Release.untimed) := by
  obtain ⟨revisions, hmemory, hmem, hdirectory⟩ := list_revisions_agrees h hplain
  unfold Store.latest
  rw [hmemory]
  cases hlast : revisions.getLast? with
  | none =>
    refine ⟨none, by simp only [hlast], by simp, hdirectory.imp ?_ fun hrevisions => ?_⟩
    · rintro ⟨e, he, hdisk⟩
      exact ⟨e, by rw [he], hdisk⟩
    · exact ⟨none, by simp only [hrevisions, hlast], rfl⟩
  | some k =>
    obtain ⟨r', hr⟩ := Assoc.mem_keys_iff.mp (hmem k (List.mem_of_getLast? hlast))
    obtain ⟨hget', hget⟩ := get_stored h hplain hr
    refine ⟨some r', by simp only [hlast, hget'], ?_, ?_⟩
    · rintro r ⟨⟩
      exact (h t).2 k r' hr
    · rcases hdirectory with ⟨e, he, hdisk⟩ | hrevisions
      · exact .inl ⟨e, by rw [he], hdisk⟩
      · rw [hrevisions]
        simp only [hlast]
        rcases hget with ⟨e, he, hdisk⟩ | ⟨r, hr, hsame⟩
        · exact .inl ⟨e, by rw [he], hdisk⟩
        · exact .inr ⟨some r, by rw [hr], congrArg some hsame⟩

theorem getAll_agrees (h : Agrees s m) (hplain : checkNames t = .ok ()) (revisions : List Int)
    (hmem : ∀ k ∈ revisions, k ∈ Assoc.keys (m.shelf t).releases) :
    ∃ found', Store.getAll t m revisions = .ok found' ∧
      (FailsOnDisk (Store.getAll t s revisions) ∨ ∃ found, Store.getAll t s revisions = .ok found ∧
        found.map Release.untimed = found'.map Release.untimed) := by
  induction revisions with
  | nil => exact ⟨[], rfl, .inr ⟨[], rfl, rfl⟩⟩
  | cons k rest ih =>
    obtain ⟨r', hr⟩ := Assoc.mem_keys_iff.mp (hmem k (by simp))
    obtain ⟨hget', hget⟩ := get_stored h hplain hr
    obtain ⟨found', hrest', hrest⟩ := ih fun j hj => hmem j (List.mem_cons_of_mem _ hj)
    refine ⟨r' :: found', by simp only [Store.getAll, hget', hrest'], ?_⟩
    unfold Store.getAll
    rcases hget with ⟨e, he, hdisk⟩ | ⟨r, hr, hsame⟩
    · exact .inl ⟨e, by rw [he], hdisk⟩
    · rw [hr]
      rcases hrest with ⟨e, he, hdisk⟩ | ⟨found, hfound, hsames⟩
      · exact .inl ⟨e, by simp only [he], hdisk⟩
      · refine .inr ⟨r :: found, by simp only [hfound], ?_⟩
        rw [List.map_cons, List.map_cons, hsame, hsames]

theorem list_agrees (h : Agrees s m) (hplain : checkNames t = .ok ()) :
    FailsOnDisk (Store.list t s) ∨ (Store.list t s).map (List.map Release.untimed)
      = (Store.list t m).map (List.map Release.untimed) := by
  obtain ⟨revisions, hmemory, hmem, hdirectory⟩ := list_revisions_agrees h hplain
  obtain ⟨found', hfound', hfound⟩ := getAll_agrees h hplain revisions hmem
  unfold Store.list
  rw [hmemory]
  rcases hdirectory with ⟨e, he, hdisk⟩ | hrevisions
  · exact .inl ⟨e, by rw [he], hdisk⟩
  · rw [hrevisions]
    refine hfound.imp id ?_
    rintro ⟨found, hfound, hsame⟩
    simp only [hfound, hfound']
    exact congrArg Except.ok hsame

/-- The state that is taken over is the same. -/
theorem lastState_toList_congr {found found' : Option Release}
    (hsame : found.map Release.untimed = found'.map Release.untimed) :
    Release.lastState found.toList = Release.lastState found'.toList := by
  cases found with
  | none =>
    rw [Option.map_none, eq_comm, Option.map_eq_none_iff] at hsame
    rw [hsame]
  | some r =>
    rw [Option.map_some, eq_comm, Option.map_eq_some_iff] at hsame
    obtain ⟨r', rfl, hsame⟩ := hsame
    exact Release.resources_congr_untimed hsame.symm

/-- A release is created at the revision that was reserved for it. -/
theorem createAt_agrees (h : Agrees s m) (hplain : checkNames t = .ok ()) (now now' : DateTime)
    (htaken : 1 ≤ k ∧ k ≤ (m.shelf t).allocated) (hnew : k ∉ Assoc.keys (m.shelf t).releases) :
    FailsOnDisk (Store.createAt now t k s).1 ∨
      ∃ r r' s', Store.createAt now t k s = (.ok r, s') ∧
        Store.createAt now' t k m = (.ok r', m.put r') ∧ r.untimed = r'.untimed ∧
        r'.triple = t ∧ r'.revision = k ∧ Agrees s' (m.put r') := by
  obtain ⟨found', hmemory, hsound, hlatest⟩ := latest_agrees h hplain
  rw [Store.createAt_of_latest hmemory fun r hr => (hsound r hr).finite]
  rcases hlatest with ⟨e, he, hdisk⟩ | ⟨found, hfound, hsame⟩
  · unfold Store.createAt
    rw [he]
    exact .inl ⟨e, rfl, hdisk⟩
  · have hfinite : ∀ r ∈ found, r.Finite := by
      rintro r rfl
      obtain ⟨r', rfl, huntimed⟩ := Option.map_eq_some_iff.mp hsame.symm
      exact (Release.sound_congr_untimed huntimed (hsound r' rfl)).finite
    rw [Store.createAt_of_latest hfound hfinite, lastState_toList_congr hsame]
    let state := Release.lastState found'.toList
    let r := Release.new now t k state
    let r' := Release.new now' t k state
    have hsame : r.untimed = r'.untimed := rfl
    have hnewsound : r'.Sound :=
      Release.sound_new (fun r hr => hsound r (Option.mem_toList.mp hr)) htaken.1
    rcases insert_agrees h hsame hplain hnewsound htaken hnew with
      ⟨e, he, hdisk⟩ | ⟨s', hinsert, hinsert', hagrees⟩
    · simp only [r, state] at he
      rw [he]
      exact .inl ⟨e, rfl, hdisk⟩
    · simp only [r, r', state] at hinsert hinsert'
      rw [hinsert, hinsert']
      exact .inr ⟨_, _, s', rfl, rfl, rfl, rfl, rfl, hagrees⟩

/-- A new release is created in both stores. -/
theorem create_agrees (h : Agrees s m) (hplain : checkNames t = .ok ()) (now now' : DateTime) :
    FailsOnDisk (Store.create now t s).1 ∨
      ∃ r r' s' m', Store.create now t s = (.ok r, s') ∧ Store.create now' t m = (.ok r', m') ∧
        r.untimed = r'.untimed ∧ Agrees s' m' := by
  let k := (m.shelf t).allocated + 1
  let reserved := (m.reserve t).2
  have hmemory : Backing.reserve t m = (.ok k, reserved) := rfl
  unfold Store.create
  rw [hmemory]
  rcases reserve_agrees h hplain with ⟨e, he, hdisk⟩ | ⟨claimed, hclaimed, hagrees⟩
  · generalize Backing.reserve t s = reserve at he
    obtain ⟨_, s'⟩ := reserve
    cases he
    exact .inl ⟨e, rfl, hdisk⟩
  · have hreserved : reserved.shelf t
        = { m.shelf t with allocated := k, reserved := (m.shelf t).reserved ++ [k] } :=
      MemoryStore.shelf_reserve t m
    have hnonneg := (h t).1.nonneg
    have htaken : 1 ≤ k ∧ k ≤ (reserved.shelf t).allocated := by
      rw [hreserved]
      simp only [k]
      omega
    have hnew : k ∉ Assoc.keys (reserved.shelf t).releases := by
      rw [hreserved]
      exact fun hk => absurd (((h t).1.taken k).mp (.inl hk)).2 (by simp only [k]; omega)
    rw [show Backing.reserve t s = (.ok k, claimed) from hclaimed]
    rcases createAt_agrees (m := reserved) hagrees hplain now now' htaken hnew with
      ⟨e, he, hdisk⟩ | ⟨r, r', s', hcreate, hcreate', hsame, htriple, hrevision, hagrees⟩
    · exact .inl ⟨e, he, hdisk⟩
    · simp only [hcreate, hcreate']
      refine .inr ⟨r, r', _, _, rfl, rfl, hsame, drop_agrees hagrees ?_⟩
      rw [← htriple, MemoryStore.shelf_put rfl, ← hrevision]
      exact Assoc.mem_keys_put.mpr (.inl rfl)

/-- A release is saved at a revision that has none, where it was reserved. -/
theorem save_new_agrees (h : Agrees s m) (hplain : checkNames r.triple = .ok ())
    (hsame : r.untimed = r'.untimed) (hsound : r'.problems = [])
    (hnew : Assoc.lookup r.revision (m.shelf r.triple).releases = none) :
    FailsOnDisk (Store.save r s) ∨
      (∃ e, Store.save r s = .error e ∧ Store.save r' m = .error e) ∨
      ∃ s' m', Store.save r s = .ok s' ∧ Store.save r' m = .ok m' ∧ Agrees s' m' := by
  have htriple : r'.triple = r.triple := Release.congr_untimed (fun _ => rfl) hsame.symm
  have hrevision : r'.revision = r.revision := Release.congr_untimed (fun _ => rfl) hsame.symm
  have hlabel : r'.label = r.label := Release.congr_untimed (fun _ => rfl) hsame.symm
  have hmemory : Backing.load r.triple r.revision m = .ok none := congrArg Except.ok hnew
  have hclaimed' : Backing.isReserved r.triple r.revision m
    = .ok ((m.shelf r.triple).reserved.contains r.revision) := rfl
  unfold Store.save
  rw [htriple, hrevision, hmemory]
  simp only [hclaimed']
  rcases load_agrees h hplain r.revision with ⟨e, he, hdisk⟩ | ⟨found, hfound, hnone⟩
  · rw [he]
    exact .inl ⟨e, rfl, hdisk⟩
  rw [hnew, Option.map_none, Option.map_eq_none_iff] at hnone
  rw [hfound, hnone]
  rcases isReserved_agrees h hplain r.revision with ⟨e, he, hdisk⟩ | hclaimed
  · simp only [he]
    exact .inl ⟨e, rfl, hdisk⟩
  simp only [hclaimed]
  cases hcontains : (m.shelf r.triple).reserved.contains r.revision with
  | false => exact .inr (.inl ⟨_, rfl, by rw [hlabel]⟩)
  | true =>
    have htaken := ((h r.triple).1.taken _).mp (.inr (List.contains_iff_mem.mp hcontains))
    have hdumped : r.dumped.untimed = r'.dumped.untimed := Release.untimed_dumped hsame
    rcases insert_agrees h hdumped hplain (Release.sound_dumped hsound) htaken
      (Assoc.lookup_eq_none_iff.mp hnew) with
      ⟨e, he, hdisk⟩ | ⟨s', hinsert, hinsert', hagrees⟩
    · simp only [he]
      exact .inl ⟨e, rfl, hdisk⟩
    · simp only [hinsert, hinsert']
      refine .inr (.inr ⟨_, _, rfl, rfl, drop_agrees hagrees ?_⟩)
      have htriple' : r'.dumped.triple = r.triple := htriple
      rw [MemoryStore.shelf_put htriple', Release.dumped_revision, hrevision]
      exact Assoc.mem_keys_put.mpr (.inl rfl)

/-- A release is saved in the place of another one, unless that one is finished. -/
theorem save_stored_agrees {stored' : Release} (h : Agrees s m)
    (hplain : checkNames r.triple = .ok ()) (hsame : r.untimed = r'.untimed)
    (hsound : r'.problems = [])
    (hstored : Assoc.lookup r.revision (m.shelf r.triple).releases = some stored') :
    FailsOnDisk (Store.save r s) ∨
      (∃ e, Store.save r s = .error e ∧ Store.save r' m = .error e) ∨
      ∃ s' m', Store.save r s = .ok s' ∧ Store.save r' m = .ok m' ∧ Agrees s' m' := by
  have htriple : r'.triple = r.triple := Release.congr_untimed (fun _ => rfl) hsame.symm
  have hrevision : r'.revision = r.revision := Release.congr_untimed (fun _ => rfl) hsame.symm
  have hlabel : r'.label = r.label := Release.congr_untimed (fun _ => rfl) hsame.symm
  have hmemory : Backing.load r.triple r.revision m = .ok (some stored') :=
    congrArg Except.ok hstored
  have hproblems := ((h r.triple).2 _ _ hstored).readable
  unfold Store.save
  rw [htriple, hrevision, hmemory]
  simp only [Release.reread_eq hproblems]
  rcases load_agrees h hplain r.revision with ⟨e, he, hdisk⟩ | ⟨found, hfound, hholds⟩
  · rw [he]
    exact .inl ⟨e, rfl, hdisk⟩
  rw [hstored, Option.map_some, Option.map_eq_some_iff] at hholds
  obtain ⟨stored, rfl, hholds⟩ := hholds
  have hterminal : stored.isTerminal = stored'.isTerminal :=
    Release.congr_untimed (fun _ => rfl) hholds
  rw [hfound]
  simp only [Release.reread_eq (Release.problems_congr_untimed hholds ▸ hproblems), hterminal]
  split
  · exact .inr (.inl ⟨_, rfl, by rw [hlabel]⟩)
  · have hdumped : r.dumped.untimed = r'.dumped.untimed := Release.untimed_dumped hsame
    rcases replace_agrees h hdumped hplain (Release.sound_dumped hsound)
      (Assoc.mem_keys_iff.mpr ⟨_, hstored⟩) with
      hdisk | ⟨s', hreplace, hagrees⟩
    · exact .inl hdisk
    · exact .inr (.inr ⟨s', m.put r'.dumped, hreplace, rfl, hagrees⟩)

/-- A release is saved in both stores, or refused by both. -/
theorem save_agrees (h : Agrees s m) (hplain : checkNames r.triple = .ok ())
    (hsame : r.untimed = r'.untimed) (hsound : r'.problems = []) :
    FailsOnDisk (Store.save r s) ∨
      (∃ e, Store.save r s = .error e ∧ Store.save r' m = .error e) ∨
      ∃ s' m', Store.save r s = .ok s' ∧ Store.save r' m = .ok m' ∧ Agrees s' m' := by
  cases hstored : Assoc.lookup r.revision (m.shelf r.triple).releases with
  | none => exact save_new_agrees h hplain hsame hsound hstored
  | some stored' => exact save_stored_agrees h hplain hsame hsound hstored

end DirectoryStore

/-! ## Calls -/

namespace Store

/-- A call of a store. -/
inductive Call where
  | allocate (t : Triple)
  | create (t : Triple)
  | save (r : Release)
  | get (t : Triple) (revision : Int)
  | latest (t : Triple)
  | list (t : Triple)

/-- What a call answers. -/
inductive Reply where
  | allocated (revision : Int)
  | created (r : Release)
  | saved
  | got (r : Release)
  | newest (r : Option Release)
  | listed (releases : List Release)
deriving DecidableEq

/-- A call, but for the times of what is saved. -/
def Call.untimed : Call → Call
  | .save r => .save r.untimed
  | call => call

/-- A reply, but for the times of the releases. -/
def Reply.untimed : Reply → Reply
  | .created r => .created r.untimed
  | .got r => .got r.untimed
  | .newest r => .newest (r.map Release.untimed)
  | .listed releases => .listed (releases.map Release.untimed)
  | reply => reply

/-- The triple that a call is about. -/
def Call.triple : Call → Triple
  | .allocate t | .create t | .get t _ | .latest t | .list t => t
  | .save r => r.triple

/-- A release that is saved is one that can be read back. -/
def Call.Sound : Call → Prop
  | .save r => r.problems = []
  | _ => True

section

variable {σ : Type} [Backing σ]

/-- Calls a store. -/
def Call.run (now : DateTime) (s : σ) : Call → Except Failure Reply × σ
  | .allocate t =>
    let (answer, s) := Store.allocate t s
    (answer.map .allocated, s)
  | .create t =>
    let (answer, s) := Store.create now t s
    (answer.map .created, s)
  | .save r =>
    match Store.save r s with
    | .ok s => (.ok .saved, s)
    | .error e => (.error e, s)
  | .get t revision => ((Store.get t revision s).map .got, s)
  | .latest t => ((Store.latest t s).map .newest, s)
  | .list t => ((Store.list t s).map .listed, s)

/-- A store after several calls. -/
def after : List (DateTime × Call) → σ → σ
  | [], s => s
  | (now, call) :: rest, s => after rest (call.run now s).2

/-- What a store answers to several calls, one after the other. -/
def answers : List (DateTime × Call) → σ → List (Except Failure Reply)
  | [], _ => []
  | (now, call) :: rest, s =>
    let (answer, s) := call.run now s
    answer :: answers rest s

end

/-! ### A release that cannot be read back, and one that is changed after it was read -/

namespace Unknown

def web : Triple := ⟨"shop", "dev", "web"⟩

/-- A release whose state is not known. -/
def release : Release :=
  { Release.new default web 1 [] with state := none, phase := .destroying }

/-- It is saved, and another one is to be created after it. -/
def calls : List (DateTime × Call) :=
  [(default, .create web), (default, .save release), (default, .create web), (default, .allocate web)]

end Unknown

namespace Finished

def web : Triple := ⟨"shop", "dev", "web"⟩

/-- A release that is finished. -/
def release : Release :=
  let app : Resource :=
    { id := "app", backend := .kubernetes, attributes := [("spec", .object [("replicas", .int 1)])] }
  { Release.new default web 1 [app] with phase := .failed }

/-- It is saved. -/
def calls : List (DateTime × Call) := [(default, .allocate web), (default, .save release)]

/-- Where its number of replicas is. -/
def replicas : Place := ⟨false, 0, false, "spec"⟩

/-- Another number of replicas. -/
def more : Value := .object [("replicas", .int 99)]

end Finished

/-- Calls that differ in nothing but times are the same call, or save the same. -/
theorem Call.untimed_cases {call call' : Call} (h : call.untimed = call'.untimed) :
    call' = call ∨ ∃ r r', call = .save r ∧ call' = .save r' ∧ r.untimed = r'.untimed := by
  cases call with
  | save r =>
    cases call' with
    | save r' => exact .inr ⟨r, r', rfl, rfl, Call.save.inj h⟩
    | allocate _ | create _ | get _ _ | latest _ | list _ => cases h
  | allocate _ | create _ | get _ _ | latest _ | list _ =>
    cases call' with
    | save r' => cases h
    | allocate _ | create _ | get _ _ | latest _ | list _ => exact .inl h.symm

theorem failsOnDisk_map {α β : Type} {answer : Except Failure α} (f : α → β)
    (h : FailsOnDisk answer) : FailsOnDisk (answer.map f) := by
  obtain ⟨e, rfl, hdisk⟩ := h
  exact ⟨e, rfl, hdisk⟩

/-- Answers that are the same in what a reply is made of make the same reply. -/
theorem map_reply_congr {α β : Type} {answer answer' : Except Failure α} {aside : α → β}
    {reply : α → Reply} {shown : β → Reply} (hreply : ∀ a, (reply a).untimed = shown (aside a))
    (h : answer.map aside = answer'.map aside) :
    (answer.map reply).map Reply.untimed = (answer'.map reply).map Reply.untimed := by
  have hshown : ∀ x : Except Failure α,
      (x.map reply).map Reply.untimed = (x.map aside).map shown := by
    rintro (e | a)
    · rfl
    · exact congrArg Except.ok (hreply a)
  rw [hshown, hshown, h]

section

variable {s : DirectoryStore} {m : MemoryStore}

open DirectoryStore

theorem Call.run_save_agrees {r r' : Release} (h : Agrees s m) (hsame : r.untimed = r'.untimed)
    (hplain : checkNames r.triple = .ok ()) (hsound : r.problems = []) (now now' : DateTime) :
    FailsOnDisk ((Call.save r).run now s).1 ∨
      ((Call.save r).run now s).1.map Reply.untimed
          = ((Call.save r').run now' m).1.map Reply.untimed ∧
        Agrees ((Call.save r).run now s).2 ((Call.save r').run now' m).2 := by
  have hsound' : r'.problems = [] := Release.problems_congr_untimed hsame ▸ hsound
  simp only [Call.run]
  rcases save_agrees h hplain hsame hsound' with
    ⟨e, he, hdisk⟩ | ⟨e, hs, hm⟩ | ⟨s', m', hs, hm, hagrees⟩
  · rw [he]
    exact .inl ⟨e, rfl, hdisk⟩
  · rw [hs, hm]
    exact .inr ⟨rfl, h⟩
  · rw [hs, hm]
    exact .inr ⟨rfl, hagrees⟩

/-- **A call** is answered the same by stores that keep the same, and they keep the same afterwards. -/
theorem Call.run_agrees {call call' : Call} (h : Agrees s m) (hsame : call.untimed = call'.untimed)
    (hplain : checkNames call.triple = .ok ()) (hsound : call.Sound)
    (now now' : DateTime) :
    FailsOnDisk (call.run now s).1 ∨
      (call.run now s).1.map Reply.untimed = (call'.run now' m).1.map Reply.untimed ∧
        Agrees (call.run now s).2 (call'.run now' m).2 := by
  rcases Call.untimed_cases hsame with rfl | ⟨r, r', rfl, rfl, huntimed⟩
  · cases call' with
    | allocate t =>
      have hmemory : Store.allocate t m = (.ok (m.reserve t).1, (m.reserve t).2) := rfl
      simp only [Call.run, hmemory]
      rcases reserve_agrees h hplain with hdisk | ⟨s', hreserve, hagrees⟩
      · exact .inl (failsOnDisk_map _ hdisk)
      · rw [show Store.allocate t s = _ from hreserve]
        exact .inr ⟨rfl, hagrees⟩
    | create t =>
      have hplain : checkNames t = .ok () := hplain
      simp only [Call.run]
      rcases create_agrees h hplain now now' with
        hdisk | ⟨r, r', s', m', hs, hm, huntimed, hagrees⟩
      · exact .inl (failsOnDisk_map _ hdisk)
      · rw [hs, hm]
        exact .inr ⟨congrArg (Except.ok ∘ Reply.created) huntimed, hagrees⟩
    | save r => exact run_save_agrees h rfl hplain hsound now now'
    | get t k =>
      have hplain : checkNames t = .ok () := hplain
      have hreply : ∀ r, (Reply.got r).untimed = .got r.untimed := fun _ => rfl
      exact (get_agrees h hplain k).imp (failsOnDisk_map _) fun hget =>
        ⟨map_reply_congr hreply hget, h⟩
    | latest t =>
      have hplain : checkNames t = .ok () := hplain
      obtain ⟨found', hmemory, -, hlatest⟩ := latest_agrees h hplain
      rcases hlatest with hdisk | ⟨found, hfound, huntimed⟩
      · exact .inl (failsOnDisk_map _ hdisk)
      · simp only [Call.run]
        rw [hfound, hmemory]
        exact .inr ⟨congrArg (Except.ok ∘ Reply.newest) huntimed, h⟩
    | list t =>
      have hplain : checkNames t = .ok () := hplain
      have hreply : ∀ l, (Reply.listed l).untimed = .listed (l.map Release.untimed) := fun _ => rfl
      exact (list_agrees h hplain).imp (failsOnDisk_map _) fun hlist =>
        ⟨map_reply_congr hreply hlist, h⟩
  · exact run_save_agrees h huntimed hplain hsound now now'

end

end Store

/-! ## Several stores over one root -/

/-- Stores over one root, which have the disk in common. -/
structure SharedRoot where
  disk : Disk := {}
  /-- Whether the next look of a store at the claim files comes too early to see any. -/
  blind : Nat → Bool := fun _ => false

namespace SharedRoot

open Store

/-- The store with a number. -/
def store (i : Nat) (s : SharedRoot) : DirectoryStore := ⟨s.disk, s.blind i⟩

/-- Calls the store with a number. -/
def run (i : Nat) (now : DateTime) (call : Store.Call) (s : SharedRoot) :
    Except Failure Store.Reply × SharedRoot :=
  let (answer, store) := call.run now (s.store i)
  (answer, ⟨store.disk, Function.update s.blind i store.blind⟩)

/-- What the stores answer to several calls, each a call of one store. -/
def answers : List (Nat × DateTime × Store.Call) → SharedRoot → List (Except Failure Store.Reply)
  | [], _ => []
  | (i, now, call) :: rest, s =>
    let (answer, s) := s.run i now call
    answer :: answers rest s

section

open DirectoryStore

variable {s : SharedRoot} {m : MemoryStore}

/-- After a call of one store all of them keep what that one keeps. -/
theorem agrees_run {call : Store.Call} {i : Nat} {now : DateTime}
    (h : Agrees (call.run now (s.store i)).2 m) (j : Nat) :
    Agrees ((s.run i now call).2.store j) m := h

theorem answers_agree : ∀ {calls : List (Nat × DateTime × Store.Call)}
    {calls' : List (DateTime × Store.Call)} {s : SharedRoot} {m : MemoryStore},
    (∀ i, Agrees (s.store i) m) →
    calls.map (fun c => c.2.2.untimed) = calls'.map (fun c => c.2.untimed) →
    (∀ c ∈ calls, checkNames c.2.2.triple = .ok () ∧ c.2.2.Sound) →
    (∀ answer ∈ answers calls s, ¬ FailsOnDisk answer) →
    (answers calls s).map (Except.map Store.Reply.untimed)
      = (Store.answers calls' m).map (Except.map Store.Reply.untimed)
  | [], [], _, _, _, _, _, _ => rfl
  | [], _ :: _, _, _, _, hsame, _, _ => by cases hsame
  | _ :: _, [], _, _, _, hsame, _, _ => by cases hsame
  | (i, now, call) :: calls, (now', call') :: calls', s, m, h, hsame, hcalls, hdisk => by
    obtain ⟨hcall, hrest⟩ := List.cons.inj hsame
    obtain ⟨hplain, hsound⟩ := hcalls (i, now, call) (by simp)
    rw [answers, List.forall_mem_cons] at hdisk
    rcases Store.Call.run_agrees (h i) hcall hplain hsound now now' with hfails | ⟨hanswer, hagrees⟩
    · exact absurd hfails hdisk.1
    · have ih := answers_agree (agrees_run hagrees) hrest
        (fun c hc => hcalls c (List.mem_cons_of_mem _ hc)) hdisk.2
      rw [answers, Store.answers, List.map_cons, List.map_cons, ih]
      exact congrArg (· :: _) hanswer

/-- **Stores over one root, however many, are as good as one store in memory**: where no name is
refused, every call of them answers what the same call answers there, times aside. -/
theorem interchangeable (blind : Nat → Bool) {calls : List (Nat × DateTime × Store.Call)}
    {calls' : List (DateTime × Store.Call)}
    (hsame : calls.map (fun c => c.2.2.untimed) = calls'.map (fun c => c.2.untimed))
    (hplain : ∀ c ∈ calls, checkNames c.2.2.triple = .ok ()) (hsound : ∀ c ∈ calls, c.2.2.Sound)
    (hdisk : ∀ answer ∈ answers calls { blind }, ¬ FailsOnDisk answer) :
    (answers calls { blind }).map (Except.map Store.Reply.untimed)
      = (Store.answers calls' ({} : MemoryStore)).map (Except.map Store.Reply.untimed) := by
  have hempty : ∀ i, Agrees (SharedRoot.store i { blind }) {} := fun i => agrees_empty (blind i)
  exact answers_agree hempty hsame (fun c hc => ⟨hplain c hc, hsound c hc⟩) hdisk

namespace Pair

def web : Triple := ⟨"shop", "dev", "web"⟩

/-- A revision is handed out by one store and filled in by the other one, after the next revision. -/
def calls : List (Nat × DateTime × Store.Call) :=
  [(0, default, .allocate web), (1, default, .create web), (0, default, .list web),
   (1, default, .save (Release.new default web 1 [])), (0, default, .get web 1),
   (0, default, .save (Release.new default web 3 []))]

end Pair

open Pair in
/-- Two stores that take turns. -/
theorem interchangeable_pair :
    (∀ c ∈ calls, checkNames c.2.2.triple = .ok ()) ∧ (∀ c ∈ calls, c.2.2.Sound) ∧
    (∀ answer ∈ answers calls {}, ¬ FailsOnDisk answer) ∧
    (answers calls {}).map (Except.map Store.Reply.untimed)
      = (Store.answers (calls.map Prod.snd) ({} : MemoryStore)).map
        (Except.map Store.Reply.untimed) := by
  have hplain : ∀ c ∈ calls, checkNames c.2.2.triple = .ok () := by decide +kernel
  have hsound : ∀ c ∈ calls, c.2.2.Sound := by
    simp [calls, Store.Call.Sound, Release.problems_eq_nil_iff, Release.new, Release.resources]
  have hdisk : ∀ answer ∈ answers calls {}, ¬ FailsOnDisk answer := by decide +kernel
  have hsame : calls.map (fun c => c.2.2.untimed)
      = (calls.map Prod.snd).map (fun c => c.2.untimed) := by rw [List.map_map]; rfl
  exact ⟨hplain, hsound, hdisk, interchangeable (fun _ => false) hsame hplain hsound hdisk⟩

/-- **A store in memory goes on with the third revision** where the second could not be created, since
the release before it cannot be read back; a store over a root hands out the second.  **And what is
changed inside a release that was read from memory** is changed for the next reader. -/
theorem interchangeable_fails :
    let calls := Store.Unknown.calls.map fun c => (0, c)
    (∀ c ∈ calls, checkNames c.2.2.triple = .ok ()) ∧
    (∀ answer ∈ answers calls {}, ¬ FailsOnDisk answer) ∧
    (answers calls {}).map (Except.map Store.Reply.untimed) ≠
      (Store.answers Store.Unknown.calls ({} : MemoryStore)).map (Except.map Store.Reply.untimed) ∧
    let m : MemoryStore := Store.after Store.Finished.calls {}
    Store.get Store.Finished.web 1 (m.edit Store.Finished.web 1 Store.Finished.replicas
      Store.Finished.more) ≠ Store.get Store.Finished.web 1 m :=
  ⟨by decide +kernel, by decide +kernel, by decide +kernel, by decide +kernel⟩

end

end SharedRoot

end Rollout
