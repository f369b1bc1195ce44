import Rollout.Proofs.Store.Numbered
import Rollout.Proofs.Store.Reliable

/-!
# A directory as a mirror of a shelf

What a store keeps of a triple in a directory is what a store in memory keeps of it on a shelf: the
same releases, but for the times at which they were created, and the same reservations.  The directory
is numbered up to the revision that the shelf handed out last, so the next one is told by either.

* `Release.untimed` : a release without its times;
* `DirectoryStore.Mirrors` : a directory and a shelf that keep the same;
* `Mirrors.reserve`, `Mirrors.write`, `Mirrors.drop` : they still do when both are changed alike;
* `DirectoryStore.reserve_spec`, `DirectoryStore.insert_spec`, `DirectoryStore.replace_spec` : a store
  changes a directory, or refuses to because of a name;
* `DirectoryStore.load_spec`, `DirectoryStore.revisions_spec`, `DirectoryStore.isReserved_spec` : what
  a store reads is on the shelf.
-/

set_option autoImplicit false

namespace Rollout

/-! ## Times aside -/

/-- A record without its stamps. -/
def ActionRecord.untimed (r : ActionRecord) : ActionRecord :=
  { r with startedAt := none, finishedAt := none }

namespace Release

/-- A release without its times. -/
def untimed (r : Release) : Release :=
  { r with createTime := default, modifiedTime := default,
           actions := r.actions.map ActionRecord.untimed }

variable {r r' : Release}

/-- What does not depend on its times is the same of two releases that differ in nothing else. -/
theorem congr_untimed {α : Type} {f : Release → α} (hf : ∀ r : Release, f r.untimed = f r)
    (h : r.untimed = r'.untimed) : f r = f r' := by
  rw [← hf r, h, hf r']

theorem problems_congr_untimed (h : r.untimed = r'.untimed) : r.problems = r'.problems :=
  congr_untimed (f := problems) (fun _ => rfl) h

theorem resources_congr_untimed (h : r.untimed = r'.untimed) : r.resources = r'.resources :=
  congr_untimed (f := resources) (fun _ => rfl) h

theorem sound_congr_untimed (h : r.untimed = r'.untimed) (hr : r.Sound) : r'.Sound := by
  have hspec : r.spec = r'.spec := congr_untimed (fun _ => rfl) h
  have hresources := resources_congr_untimed h
  exact ⟨problems_congr_untimed h ▸ hr.readable, hspec ▸ hr.finite.spec,
    hresources ▸ hr.finite.state⟩

/-- Releases that differ in nothing but times have records that differ in nothing but times. -/
theorem untimed_dumped (h : r.untimed = r'.untimed) : r.dumped.untimed = r'.dumped.untimed :=
  congrArg dumped h

end Release

/-- Whether a failure is one of the file system: a name that it does not take. -/
def Failure.isDisk : Failure → Bool
  | .nameTooLong _ | .store .noDirectory | .store .unreservable => true
  | _ => false

/-- An answer that the file system fails. -/
def FailsOnDisk {α : Type} (answer : Except Failure α) : Prop :=
  ∃ e, answer = .error e ∧ e.isDisk = true

instance {α : Type} (answer : Except Failure α) : Decidable (FailsOnDisk answer) :=
  match answer with
  | .ok _ => isFalse (by rintro ⟨e, he, -⟩; cases he)
  | .error e => decidable_of_iff (e.isDisk = true) ⟨fun h => ⟨e, rfl, h⟩,
      by rintro ⟨_, ⟨⟩, h⟩; exact h⟩

namespace DirectoryStore

open FileName

/-! ## Directories and shelves -/

/-- An entry holds a release, but for its times. -/
def Holds (e : Entry) (r : Release) : Prop := ∃ r', e = .release r' ∧ r'.untimed = r.untimed

/-- **A directory mirrors a shelf.**  Every revision that was handed out is stored or reserved on both
sides, and there are no others. -/
structure Mirrors (entries : List (String × Entry)) (shelf : Shelf) : Prop where
  nodup : (Assoc.keys entries).Nodup
  names : ∀ name ∈ Assoc.keys entries, ∃ n : Nat, name = recordName n ∨ name = claimName n
  record : ∀ k, Option.Rel Holds (Assoc.lookup (recordName k) entries)
    (Assoc.lookup k shelf.releases)
  claim : ∀ k, Assoc.lookup (claimName k) entries
    = if k ∈ shelf.reserved then some .text else none
  distinct : (Assoc.keys shelf.releases).Nodup
  nonneg : 0 ≤ shelf.allocated
  taken : ∀ k, (k ∈ Assoc.keys shelf.releases ∨ k ∈ shelf.reserved) ↔
    1 ≤ k ∧ k ≤ shelf.allocated

namespace Mirrors

variable {entries : List (String × Entry)} {shelf : Shelf} {k : Int}

theorem empty : Mirrors [] {} := by
  refine ⟨.nil, by simp, fun _ => .none, by simp [Assoc.lookup], .nil, Int.le_refl _, fun k => ?_⟩
  simp only [Assoc.keys_nil, List.not_mem_nil, or_self, false_iff]
  omega

theorem recordName_mem_iff (h : Mirrors entries shelf) :
    recordName k ∈ Assoc.keys entries ↔ k ∈ Assoc.keys shelf.releases := by
  rw [Assoc.mem_keys_iff, Assoc.mem_keys_iff]
  have hrecord := h.record k
  generalize Assoc.lookup (recordName k) entries = e at *
  generalize Assoc.lookup k shelf.releases = r at *
  cases hrecord <;> simp

theorem claimName_mem_iff (h : Mirrors entries shelf) :
    claimName k ∈ Assoc.keys entries ↔ k ∈ shelf.reserved := by
  rw [Assoc.mem_keys_iff, h.claim]
  split <;> simp_all

/-- **A directory that mirrors a shelf is numbered** up to the last revision that was handed out. -/
theorem numbered (h : Mirrors entries shelf) : Numbered entries shelf.allocated where
  nodup := h.nodup
  names := h.names
  claim k e he := by
    rw [h.claim] at he
    split at he
    · exact (Option.some.inj he).symm
    · cases he
  nonneg := h.nonneg
  taken k := by rw [h.recordName_mem_iff, h.claimName_mem_iff, h.taken]

/-- A revision is handed out. -/
theorem reserve (h : Mirrors entries shelf) :
    Mirrors (Assoc.put (claimName (shelf.allocated + 1)) .text entries)
      { shelf with allocated := shelf.allocated + 1,
                   reserved := shelf.reserved ++ [shelf.allocated + 1] } := by
  have hnumbered := h.numbered.reserve
  have hnonneg := h.nonneg
  refine ⟨hnumbered.nodup, hnumbered.names, fun k => ?_, fun k => ?_, h.distinct, hnumbered.nonneg,
    fun k => ?_⟩
  · rw [Assoc.lookup_put, if_neg (claimName_ne_recordName _ _)]
    exact h.record k
  · rw [Assoc.lookup_put, h.claim]
    by_cases hk : shelf.allocated + 1 = k
    · simp [hk]
    · have hname : claimName (shelf.allocated + 1) ≠ claimName k := fun hname =>
        hk (claimName_injective hname)
      simp [hname, Ne.symm hk]
  · have htaken := h.taken k
    simp only [List.mem_append, List.mem_singleton]
    constructor
    · rintro (hk | hk | rfl)
      · have := htaken.mp (.inl hk)
        omega
      · have := htaken.mp (.inr hk)
        omega
      · omega
    · rintro ⟨hpos, hle⟩
      by_cases hk : k = shelf.allocated + 1
      · exact .inr (.inr hk)
      · exact (htaken.mpr ⟨hpos, by omega⟩).imp id .inl

/-- A release is written at a revision that was handed out. -/
theorem write {r r' : Release} (h : Mirrors entries shelf) (hsame : r.untimed = r'.untimed)
    (htaken : 1 ≤ k ∧ k ≤ shelf.allocated) :
    Mirrors (Assoc.put (recordName k) (.release r) (Assoc.erase (scratchName k) entries))
      { shelf with releases := Assoc.put k r' shelf.releases } := by
  have hnumbered := h.numbered.write htaken r
  refine ⟨hnumbered.nodup, hnumbered.names, fun j => ?_, fun j => ?_,
    Assoc.nodup_keys_put _ _ h.distinct, h.nonneg, fun j => ?_⟩
  · rw [Assoc.lookup_put, Assoc.lookup_erase, if_neg (scratchName_ne_recordName _ _),
      Assoc.lookup_put]
    by_cases hj : k = j
    · simp only [hj, if_true]
      exact .some ⟨r, rfl, hsame⟩
    · rw [if_neg fun hname => hj (recordName_injective hname), if_neg hj]
      exact h.record j
  · rw [Assoc.lookup_put, if_neg fun hname => claimName_ne_recordName _ _ hname.symm,
      Assoc.lookup_erase, if_neg (scratchName_ne_claimName _ _)]
    exact h.claim j
  · rw [Assoc.mem_keys_put, or_assoc, h.taken, or_iff_right_of_imp]
    rintro rfl
    exact htaken

/-- The reservation of a stored revision is dropped. -/
theorem drop (h : Mirrors entries shelf) (hstored : k ∈ Assoc.keys shelf.releases) :
    Mirrors (Assoc.erase (claimName k) entries)
      { shelf with reserved := shelf.reserved.filter (· ≠ k) } := by
  have hnumbered := h.numbered.drop (h.recordName_mem_iff.mpr hstored)
  refine ⟨hnumbered.nodup, hnumbered.names, fun j => ?_, fun j => ?_, h.distinct, h.nonneg,
    fun j => ?_⟩
  · rw [Assoc.lookup_erase, if_neg (claimName_ne_recordName _ _)]
    exact h.record j
  · rw [Assoc.lookup_erase, h.claim]
    by_cases hj : k = j
    · simp [hj]
    · rw [if_neg fun hname => hj (claimName_injective hname)]
      simp [Ne.symm hj]
  · rw [← h.taken]
    by_cases hj : j = k
    · simp [hj, hstored]
    · simp [hj]

end Mirrors

/-! ## What a store does with a directory -/

/-- A store answers nothing, because of a name: one that is not plain, or one that the file system does
not take. -/
def Refuses {α : Type} (t : Triple) (answer : Except Failure α) : Prop :=
  ∃ e, answer = .error e ∧ (checkNames t = .ok () → e.isDisk = true)

theorem Refuses.failsOnDisk {α : Type} {t : Triple} {answer : Except Failure α}
    (h : Refuses t answer) (hplain : checkNames t = .ok ()) : FailsOnDisk answer := by
  obtain ⟨e, he, hdisk⟩ := h
  exact ⟨e, he, hdisk hplain⟩

section

variable {s : DirectoryStore} {shelf : Shelf} {t : Triple} {k : Int} {r : Release}

theorem checkLength_cases (names : List String) :
    (∃ e, checkLength names = .error e ∧ e.isDisk = true) ∨ checkLength names = .ok () := by
  unfold checkLength
  cases names.find? isTooLong with
  | none => exact .inr rfl
  | some name => exact .inl ⟨.nameTooLong name, rfl, rfl⟩

theorem checkFile_cases (t : Triple) (name : String) :
    (∃ e, checkFile t name = .error e ∧ (checkNames t = .ok () → e.isDisk = true)) ∨
      checkFile t name = .ok () := by
  unfold checkFile
  cases hplain : checkNames t with
  | error e => exact .inl ⟨e, rfl, fun h => by cases h⟩
  | ok _ =>
    refine (checkLength_cases _).imp ?_ id
    rintro ⟨e, he, hdisk⟩
    exact ⟨e, he, fun _ => hdisk⟩

theorem isDisk_of_checkReserve {e : Failure} (he : checkReserve t k = .error e)
    (hplain : checkNames t = .ok ()) : e.isDisk = true := by
  unfold checkReserve at he
  rw [hplain] at he
  dsimp only at he
  split at he
  · cases he
    rfl
  · split at he
    · cases he
      rfl
    · cases he

theorem reserve_spec (h : Mirrors (s.disk.entries t) shelf) :
    Refuses t (s.reserve t).1 ∧ (∀ t', (s.reserve t).2.disk.entries t' = s.disk.entries t') ∨
      ∃ s', s.reserve t = (.ok (shelf.allocated + 1), s') ∧
        Changes t (Assoc.put (claimName (shelf.allocated + 1)) .text (s.disk.entries t)) s s' := by
  rcases reserve_cases h.numbered with ⟨e, blind, he, hreserve⟩ | ⟨-, hreserve⟩
  · rw [hreserve]
    exact .inl ⟨⟨e, rfl, isDisk_of_checkReserve he⟩, fun _ => rfl⟩
  · exact .inr ⟨_, hreserve, changes_put _ _ _ _⟩

theorem insert_spec (h : Mirrors (s.disk.entries r.triple) shelf)
    (htaken : 1 ≤ r.revision ∧ r.revision ≤ shelf.allocated)
    (hnew : r.revision ∉ Assoc.keys shelf.releases) :
    Refuses r.triple (s.insert r) ∨ ∃ s', s.insert r = .ok s' ∧
      Changes r.triple (Assoc.put (recordName r.revision) (.release r)
        (Assoc.erase (scratchName r.revision) (s.disk.entries r.triple))) s s' := by
  rcases checkFile_cases r.triple (recordName r.revision) with ⟨e, he, hdisk⟩ | hok
  · exact .inl ⟨e, by rw [insert, he], hdisk⟩
  · exact .inr (insert_ok h.numbered htaken (h.recordName_mem_iff.not.mpr hnew) hok)

theorem replace_spec (h : Mirrors (s.disk.entries r.triple) shelf)
    (htaken : 1 ≤ r.revision ∧ r.revision ≤ shelf.allocated) :
    Refuses r.triple (s.replace r) ∨ ∃ s', s.replace r = .ok s' ∧
      Changes r.triple (Assoc.put (recordName r.revision) (.release r)
        (Assoc.erase (scratchName r.revision) (s.disk.entries r.triple))) s s' := by
  rcases checkFile_cases r.triple (recordName r.revision) with ⟨e, he, hdisk⟩ | hok
  · exact .inl ⟨e, by rw [replace, he], hdisk⟩
  · exact .inr (replace_ok h.numbered htaken hok)

/-- A store reads at a revision what the shelf holds. -/
theorem load_spec (h : Mirrors (s.disk.entries t) shelf) (k : Int) :
    Refuses t (s.load t k) ∨ ∃ found, s.load t k = .ok found ∧
      found.map Release.untimed = (Assoc.lookup k shelf.releases).map Release.untimed := by
  unfold load
  rcases checkFile_cases t (recordName k) with ⟨e, he, hdisk⟩ | hok
  · rw [he]
    exact .inl ⟨e, rfl, hdisk⟩
  · rw [hok]
    simp only [Disk.entry?]
    have hrecord := h.record k
    generalize Assoc.lookup (recordName k) (s.disk.entries t) = e at *
    generalize Assoc.lookup k shelf.releases = found at *
    cases hrecord with
    | none => exact .inr ⟨none, rfl, rfl⟩
    | some hholds =>
      obtain ⟨r', rfl, hsame⟩ := hholds
      exact .inr ⟨some r', rfl, congrArg some hsame⟩

/-- A store lists the revisions of the shelf. -/
theorem revisions_eq (h : Mirrors (s.disk.entries t) shelf) :
    s.revisions t = (checkFolder t).map fun _ => ascending (Assoc.keys shelf.releases) := by
  unfold revisions checkFolder
  cases checkNames t with
  | error e => rfl
  | ok _ =>
    obtain ⟨found, hfound, hmem, hnodup⟩ := h.numbered.revisions_eq (.inl rfl)
    have hsame : ascending found = ascending (Assoc.keys shelf.releases) :=
      ascending_congr hnodup h.distinct fun k => (hmem k).trans h.recordName_mem_iff
    dsimp only
    cases checkLength t.parts with
    | error e => rfl
    | ok _ =>
      dsimp only
      rw [revisionsWith, hfound]
      exact congrArg Except.ok hsame

theorem revisions_spec (h : Mirrors (s.disk.entries t) shelf) :
    Refuses t (s.revisions t) ∨
      s.revisions t = .ok (ascending (Assoc.keys shelf.releases)) := by
  rw [revisions_eq h]
  unfold checkFolder
  cases hplain : checkNames t with
  | error e => exact .inl ⟨e, rfl, fun h => by cases hplain.symm.trans h⟩
  | ok _ =>
    rcases checkLength_cases t.parts with ⟨e, he, hdisk⟩ | hok
    · exact .inl ⟨e, by simp only [he]; rfl, fun _ => hdisk⟩
    · exact .inr (by simp only [hok]; rfl)

/-- A store knows which revisions of the shelf are reserved. -/
theorem isReserved_eq (h : Mirrors (s.disk.entries t) shelf) (k : Int) :
    s.isReserved t k = (checkFile t (claimName k)).map fun _ => shelf.reserved.contains k := by
  unfold isReserved
  cases checkFile t (claimName k) with
  | error e => rfl
  | ok _ =>
    refine congrArg Except.ok ?_
    rw [Disk.has, Disk.entry?, h.claim]
    split <;> simp_all

theorem isReserved_spec (h : Mirrors (s.disk.entries t) shelf) (k : Int) :
    Refuses t (s.isReserved t k) ∨ s.isReserved t k = .ok (shelf.reserved.contains k) := by
  rw [isReserved_eq h]
  rcases checkFile_cases t (claimName k) with ⟨e, he, hdisk⟩ | hok
  · exact .inl ⟨e, by rw [he]; rfl, hdisk⟩
  · exact .inr (by rw [hok]; rfl)

end

end DirectoryStore

end Rollout
