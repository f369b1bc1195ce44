import Rollout.Proofs.Store.Failing
import Rollout.Proofs.Store.Recording

/-!
# Faithful stores

Whatever else stands in a faithful store, and whatever it refuses: what it has stored is what it loads.

* `Backing.Faithful` : a store that loads what it has stored;
* `Store.load_of_save`, `Store.created_of_create` : what was written is found;
* `MemoryStore.faithful`, `DirectoryStore.faithful` : both stores are faithful.
-/

set_option autoImplicit false

namespace Rollout

/-- Whether a failure is one of a graph. -/
def Failure.isGraph : Failure → Bool
  | .graph _ => true
  | _ => false

theorem Failure.isGraph_ownToDirectories : OwnToDirectories fun e => e.isGraph = false where
  notFound _ := rfl
  lifecycle _ := rfl
  invalid _ := rfl
  taken _ _ := rfl
  noDirectory := rfl
  unreservable := rfl
  unwritable := rfl
  unloadable := rfl
  nameTooLong _ := rfl
  noNumeral _ := rfl

/-- **A store loads what it has stored**, and does not take a failure of its own for one of a graph. -/
structure Backing.Faithful (σ : Type) [Backing σ] : Prop where
  insert : ∀ {r : Release} {s s' : σ}, Backing.insert r s = .ok s' →
    Backing.load r.triple r.revision s' = .ok (some r)
  replace : ∀ {r : Release} {s s' : σ}, Backing.replace r s = .ok s' →
    Backing.load r.triple r.revision s' = .ok (some r)
  drop : ∀ (t : Triple) (k : Int) (t' : Triple) (k' : Int) (s : σ),
    Backing.load t' k' (Backing.dropReservation t k s) = Backing.load t' k' s
  failure : ∀ {r : Release} {s : σ} {e : Failure}, Store.save r s = .error e → e.isGraph = false

namespace Store

variable {σ : Type} [Backing σ] {r : Release} {s s' : σ} {t : Triple} {now : DateTime}

/-- **What was saved is found**, as its record holds it. -/
theorem load_of_save (faithful : Backing.Faithful σ) (h : Store.save r s = .ok s') :
    Backing.load r.triple r.revision s' = .ok (some r.dumped) := by
  unfold Store.save at h
  split at h
  · cases h
  · split at h
    · cases h
    · cases h
    · split at h
      · cases h
      · rename_i hinsert
        cases h
        rw [faithful.drop]
        exact faithful.insert (r := r.dumped) hinsert
  · split at h
    · cases h
    · split at h
      · cases h
      · exact faithful.replace (r := r.dumped) h

/-- A release is saved in the place of one that could be read. -/
theorem readable_of_save {stored : Release} (h : Store.save r s = .ok s')
    (hload : Backing.load r.triple r.revision s = .ok (some stored)) : stored.problems = [] := by
  rcases save_cases hload with ⟨e, he⟩ | ⟨hreadable, -⟩
  · rw [h] at he
    cases he
  · exact hreadable

/-- The resources of the latest release are named. -/
theorem named_of_latest {found : Option Release} (h : Store.latest t s = .ok found) :
    ∀ x ∈ Release.lastState found.toList, x.id ≠ "" := by
  unfold Store.latest at h
  split at h
  · cases h
  · split at h
    · cases h
      simp
    · split at h
      · rename_i r hget
        cases h
        unfold Store.get at hget
        split at hget
        · cases hget
        · cases hget
        · obtain ⟨rfl, hproblems⟩ := Release.problems_of_reread hget
          exact (Release.problems_eq_nil_iff.mp hproblems).2.2.2
      · cases h

/-- **What was created is found**, as its record holds it: a new release, whose resources are named. -/
theorem created_of_create (faithful : Backing.Faithful σ) (h : Store.create now t s = (.ok r, s')) :
    (∃ k state, r = Release.new now t k state ∧ ∀ x ∈ state, x.id ≠ "") ∧
      Backing.load r.triple r.revision s' = .ok (some r.dumped) := by
  unfold Store.create at h
  split at h
  · cases h
  · rename_i k s₁ _
    cases hlatest : Store.latest t s₁ with
    | error e =>
      simp only [Store.createAt, hlatest] at h
      cases h
    | ok found =>
      simp only [createAt_eq hlatest] at h
      split at h
      · cases h
      · rename_i hinsert
        cases h
        refine ⟨⟨k, _, rfl, named_of_latest hlatest⟩, ?_⟩
        rw [faithful.drop]
        exact faithful.insert hinsert

end Store

/-! ## Stores in memory -/

namespace MemoryStore

variable {r : Release} {s s' : MemoryStore}

theorem put_of_insert (h : s.insert r = .ok s') : s' = s.put r := by
  unfold insert at h
  split at h
  · cases h
  · cases h
    rfl

theorem load_put (r : Release) (s : MemoryStore) :
    Backing.load r.triple r.revision (s.put r) = .ok (some r) := by
  refine congrArg Except.ok ?_
  rw [shelf_put rfl, Assoc.lookup_put, if_pos rfl]

/-- A reservation that is dropped touches no release. -/
theorem releases_dropReservation (t : Triple) (k : Int) (t' : Triple) (s : MemoryStore) :
    ((s.dropReservation t k).shelf t').releases = (s.shelf t').releases := by
  by_cases ht : t' = t
  · rw [ht, shelf_dropReservation]
  · rw [shelf_dropReservation_of_ne ht]

/-- **A store in memory is faithful.** -/
theorem faithful : Backing.Faithful MemoryStore where
  insert := by
    intro r s s' h
    rw [put_of_insert h]
    exact load_put r s
  replace := by
    rintro r s s' ⟨⟩
    exact load_put r s
  drop t k t' k' s :=
    congrArg (fun releases => Except.ok (Assoc.lookup k' releases)) (releases_dropReservation t k t' s)
  failure := Store.failure_of_save Failure.isGraph_ownToDirectories.toOwnToStores
    (failsOnly Failure.isGraph_ownToDirectories.toOwnToStores _)

end MemoryStore

/-! ## Stores in a directory -/

namespace DirectoryStore

variable {r : Release} {s s' : DirectoryStore} {e : Failure} {t : Triple} {k : Int}

theorem isGraph_of_checkNames (h : checkNames t = .error e) : e.isGraph = false := by
  unfold checkNames at h
  split at h <;> cases h
  rfl

/-- What was written is found under a name that can be looked up. -/
theorem load_of_write (hfile : checkFile r.triple (recordName r.revision) = .ok ())
    (h : s.write r = .ok s') : s'.load r.triple r.revision = .ok (some r) := by
  unfold write at h
  split at h
  · cases h
  · cases h
  · cases h
    unfold load
    simp only [hfile, Disk.entry?, Disk.entries_put, Assoc.lookup_put, if_pos]

theorem load_of_insert (h : s.insert r = .ok s') : s'.load r.triple r.revision = .ok (some r) := by
  unfold insert at h
  split at h
  · cases h
  · rename_i hfile
    split at h
    · cases h
    · exact load_of_write hfile h

theorem load_of_replace (h : s.replace r = .ok s') : s'.load r.triple r.revision = .ok (some r) := by
  unfold replace at h
  split at h
  · cases h
  · rename_i hfile
    exact load_of_write hfile h

/-- A reservation that is dropped hides no record. -/
theorem load_dropReservation (t : Triple) (k : Int) (t' : Triple) (k' : Int) (s : DirectoryStore) :
    (s.dropReservation t k).load t' k' = s.load t' k' := by
  have hremove : Disk.entry? t' (recordName k') (s.disk.remove t (claimName k))
      = s.disk.entry? t' (recordName k') := by
    unfold Disk.entry?
    by_cases ht : t' = t
    · rw [ht, Disk.entries_remove, Assoc.lookup_erase, if_neg (claimName_ne_recordName k k')]
    · rw [Disk.entries_remove_of_ne ht]
  unfold dropReservation
  split
  · simp only [load, hremove]
  · simp only [load, hremove]
  · rfl

/-- **A store in a directory is faithful**, whatever else stands in its directories. -/
theorem faithful : Backing.Faithful DirectoryStore where
  insert := load_of_insert
  replace := load_of_replace
  drop := load_dropReservation
  failure := Store.failure_of_save Failure.isGraph_ownToDirectories.toOwnToStores
    (failsOnly Failure.isGraph_ownToDirectories fun _ => isGraph_of_checkNames)

end DirectoryStore

end Rollout
